-- Keys that are spent once. A table of tokens only ever spends its rows and
-- gets new ones; a process that checks under the lock of a key that it is not
-- spent, and holds the lock until it spends it, is the only one that does.
import PulseForge.Lib.Locks
import PulseForge.Lib.Table

namespace table

variable {α β κ : Type}

/-! ## Tables of tokens -/

/-- Some rows are spent, and a new row may be there. -/
inductive Advances (id : α → β) (key : α → κ) (spent new : α → Prop) (rows : List α) : List α → Prop
  | intro (p : α → Bool) (f : α → α) (added : Option α)
      (keeps : ∀ r, p r = true → id (f r) = id r ∧ key (f r) = key r ∧ spent (f r))
      (hnew : ∀ r ∈ added, new r) :
      Advances id key spent new rows (updateWhere p f rows ++ added.toList)

/-- The key has a row, and each of its rows is spent. -/
structure Gone (key : α → κ) (spent : α → Prop) (k : κ) (rows : List α) : Prop where
  there : ∃ r ∈ rows, key r = k
  spent : ∀ r ∈ rows, key r = k → spent r

section
variable {id : α → β} {key : α → κ} {spent new : α → Prop} {rows rows' : List α}

theorem Advances.refl (rows : List α) : Advances id key spent new rows rows := by
  have h : Advances id key spent new rows (updateWhere (fun _ => false) (fun r => r) rows ++ _) :=
    .intro (fun _ => false) (fun r => r) none (fun _ hp => nomatch hp) (fun _ hr => nomatch hr)
  rw [updateWhere_eq_self fun _ _ => rfl] at h
  simpa using h

/-- An update that spends the rows that it matches. -/
theorem Advances.update {p : α → Bool} {f : α → α}
    (keeps : ∀ r, p r = true → id (f r) = id r ∧ key (f r) = key r ∧ spent (f r)) :
    Advances id key spent new rows (updateWhere p f rows) := by
  have h : Advances id key spent new rows (updateWhere p f rows ++ _) :=
    .intro p f none keeps (fun _ hr => nomatch hr)
  simpa using h

/-- An update that spends the rows that it matches, and a new row. -/
theorem Advances.replace {p : α → Bool} {f : α → α} {a : α}
    (keeps : ∀ r, p r = true → id (f r) = id r ∧ key (f r) = key r ∧ spent (f r)) (ha : new a) :
    Advances id key spent new rows (updateWhere p f rows ++ [a]) :=
  .intro p f (some a) keeps fun _ hr => Option.mem_some.mp hr ▸ ha

theorem Advances.add {a : α} (ha : new a) : Advances id key spent new rows (rows ++ [a]) := by
  have h : Advances id key spent new rows (updateWhere (fun _ => false) (fun r => r) rows ++ [a]) :=
    .replace (fun _ hp => nomatch hp) ha
  rwa [updateWhere_eq_self fun _ _ => rfl] at h

/-- The one row of a key is spent by an update that matches it. -/
theorem gone_of_update {p : α → Bool} {f : α → α} {r : α} (hr : r ∈ rows) (hp : p r = true)
    (hu : UniqueOn key rows) (keeps : ∀ r, p r = true → key (f r) = key r ∧ spent (f r)) :
    Gone key spent (key r) (updateWhere p f rows) := by
  refine ⟨⟨f r, mem_updateWhere_of hr hp, (keeps r hp).1⟩, fun r' hr' hkey => ?_⟩
  obtain ⟨r₀, hr₀, rfl⟩ := mem_updateWhere.mp hr'
  split at hkey <;> rename_i hp₀
  · rw [if_pos hp₀]
    exact (keeps r₀ hp₀).2
  · rw [hu.eq hr₀ hr hkey] at hp₀
    exact absurd hp hp₀

theorem Gone.add {k : κ} (h : Gone key spent k rows) {a : α} (ha : key a ≠ k) :
    Gone key spent k (rows ++ [a]) := by
  constructor
  · obtain ⟨r, hr, hkey⟩ := h.there
    exact ⟨r, List.mem_append_left _ hr, hkey⟩
  · intro r hr hkey
    rcases List.mem_append.mp hr with hr | hr
    · exact h.spent r hr hkey
    · rw [List.mem_singleton.mp hr] at hkey
      exact absurd hkey ha

variable (h : Advances id key spent new rows rows')
include h

/-- A row keeps its id and its key. -/
theorem Advances.kept {r : α} (hr : r ∈ rows) : ∃ r' ∈ rows', id r' = id r ∧ key r' = key r := by
  obtain ⟨p, f, added, keeps, _⟩ := h
  obtain ⟨r', hr', hsame⟩ := exists_updateWhere (P := fun r' => id r' = id r ∧ key r' = key r) hr
    ⟨rfl, rfl⟩ fun hp => ⟨(keeps r hp).1, (keeps r hp).2.1⟩
  exact ⟨r', List.mem_append_left _ hr', hsame⟩

/-- The key of a row is that of an earlier row, or the row is new. -/
theorem Advances.key_of {r' : α} (hr' : r' ∈ rows') : (∃ r ∈ rows, key r = key r') ∨ new r' := by
  obtain ⟨p, f, added, keeps, hnew⟩ := h
  rcases List.mem_append.mp hr' with hr' | hr'
  · obtain ⟨r, hr, rfl⟩ := mem_updateWhere.mp hr'
    refine Or.inl ⟨r, hr, ?_⟩
    split
    · exact (keeps r ‹_›).2.1.symm
    · rfl
  · exact Or.inr (hnew r' (Option.mem_toList.mp hr'))

theorem Advances.unique (hu : UniqueOn key rows) (hnew : ∀ r ∈ rows, ∀ a, new a → key r ≠ key a) :
    UniqueOn key rows' := by
  obtain ⟨p, f, added, keeps, hadded⟩ := h
  have hupdated : UniqueOn key (updateWhere p f rows) := hu.update fun r _ hp => (keeps r hp).2.1
  cases added with
  | none => simpa using hupdated
  | some a =>
    refine hupdated.insert (forall_updateWhere (fun r hr => hnew r hr a (hadded a rfl)) ?_)
    intro r hr hp
    rw [(keeps r hp).2.1]
    exact hnew r hr a (hadded a rfl)

/-- What is gone stays gone, if no new row has its key. -/
theorem Advances.gone {k : κ} (hk : Gone key spent k rows) (hnew : ∀ a, new a → key a ≠ k) :
    Gone key spent k rows' := by
  constructor
  · obtain ⟨r, hr, hkey⟩ := hk.there
    obtain ⟨r', hr', _, hsame⟩ := h.kept hr
    exact ⟨r', hr', hsame.trans hkey⟩
  · obtain ⟨p, f, added, keeps, hadded⟩ := h
    intro r' hr' hkey
    rcases List.mem_append.mp hr' with hr' | hr'
    · obtain ⟨r, hr, rfl⟩ := mem_updateWhere.mp hr'
      split at hkey <;> rename_i hp
      · rw [if_pos hp]
        exact (keeps r hp).2.2
      · rw [if_neg hp]
        exact hk.spent r hr hkey
    · exact absurd hkey (hnew r' (hadded r' (Option.mem_toList.mp hr')))

end

end table

namespace interleave

variable {ι σ τ κ : Type} [Fintype ι] [DecidableEq ι] [DecidableEq κ]

/-! ## Processes that spend keys -/

/-- A process has the lock of each key that it claims. It claims no key that
is gone, it spends only keys that it claims, and what is gone stays gone. -/
structure Spends (procs : ι → Process σ τ κ) (claims spends : ι → τ → Option κ)
    (Gone : κ → σ → Prop) (I : State ι σ τ → Prop) : Prop where
  held : ∀ i t k, claims i t = some k → k ∈ (procs i).holds t
  gone : ∀ g i p, I g → (procs i).next g.shared (g.locals i) = some p → ∀ k, Gone k g.shared → Gone k p.1
  claimed : ∀ g i p, I g → (procs i).next g.shared (g.locals i) = some p → ∀ k,
    claims i p.2 = some k → claims i (g.locals i) = some k ∨ ¬ Gone k g.shared
  spent : ∀ g i p, I g → (procs i).next g.shared (g.locals i) = some p → ∀ k,
    spends i p.2 = some k → spends i (g.locals i) = some k ∨
      claims i (g.locals i) = some k ∧ Gone k p.1

/-- A spent key is gone, no other process claims it, and no other has spent it. -/
structure Once (claims spends : ι → τ → Option κ) (Gone : κ → σ → Prop) (g : State ι σ τ) : Prop where
  gone : ∀ i k, spends i (g.locals i) = some k → Gone k g.shared
  unspent : ∀ i j k, i ≠ j → claims i (g.locals i) = some k → spends j (g.locals j) ≠ some k
  once : ∀ i j k, spends i (g.locals i) = some k → spends j (g.locals j) = some k → i = j

section
variable {procs : ι → Process σ τ κ} {claims spends : ι → τ → Option κ} {Gone : κ → σ → Prop}
  {I : State ι σ τ → Prop} (h : Spends procs claims spends Gone I)
include h

theorem Once.move {g : State ι σ τ} (ho : Once claims spends Gone g) (hI : I g)
    (he : Exclusive procs g) {i : ι} {p : σ × τ} (hp : lockStep procs i g = some p) :
    Once claims spends Gone (g.move i p) := by
  have hnext := (lockStep_some hp).2
  have hgone := h.gone g i p hI hnext
  have hclaimed := h.claimed g i p hI hnext
  have hspent := h.spent g i p hI hnext
  -- no other process has spent what the process claims
  have hsole : ∀ j k, i ≠ j → claims i (g.locals i) = some k ∨ ¬ Gone k g.shared →
      spends j (g.locals j) ≠ some k := by
    intro j k hij hc hs
    rcases hc with hc | hc
    · exact ho.unspent i j k hij hc hs
    · exact hc (ho.gone j k hs)
  constructor
  · intro j k hj
    rw [move_shared]
    by_cases hji : j = i
    · subst hji
      rw [move_self] at hj
      rcases hspent k hj with hbefore | ⟨_, hnow⟩
      · exact hgone k (ho.gone j k hbefore)
      · exact hnow
    · rw [move_other hji] at hj
      exact hgone k (ho.gone j k hj)
  · intro a b k hab hc hs
    by_cases hai : a = i
    · subst hai
      rw [move_self] at hc
      rw [move_other (Ne.symm hab)] at hs
      exact hsole b k hab (hclaimed k hc) hs
    · rw [move_other hai] at hc
      by_cases hbi : b = i
      · subst hbi
        rw [move_self] at hs
        rcases hspent k hs with hbefore | ⟨hclaims, _⟩
        · exact ho.unspent a b k hab hc hbefore
        · exact hab (he a b k (h.held a _ k hc) (h.held b _ k hclaims))
      · rw [move_other hbi] at hs
        exact ho.unspent a b k hab hc hs
  · intro a b k ha hb
    by_cases hai : a = i
    · by_cases hbi : b = i
      · rw [hai, hbi]
      · subst hai
        rw [move_self] at ha
        rw [move_other hbi] at hb
        rcases hspent k ha with hbefore | ⟨hclaims, _⟩
        · exact ho.once a b k hbefore hb
        · exact absurd hb (ho.unspent a b k (Ne.symm hbi) hclaims)
    · rw [move_other hai] at ha
      by_cases hbi : b = i
      · subst hbi
        rw [move_self] at hb
        rcases hspent k hb with hbefore | ⟨hclaims, _⟩
        · exact ho.once a b k ha hbefore
        · exact absurd ha (ho.unspent b a k (Ne.symm hai) hclaims)
      · rw [move_other hbi] at hb
        exact ho.once a b k ha hb

/-- In every run each key is spent by one process. -/
theorem Spends.once {start : State ι σ τ} (h0 : I start)
    (hmove : ∀ g i p, I g → (procs i).next g.shared (g.locals i) = some p → I (g.move i p))
    (hfree : ∀ i, (procs i).holds (start.locals i) = []) (hnone : ∀ i, spends i (start.locals i) = none)
    (turns : List ι) :
    I (run.after (step (lockStep procs)) start turns) ∧
      Once claims spends Gone (run.after (step (lockStep procs)) start turns) := by
  suffices hall : (I (run.after (step (lockStep procs)) start turns) ∧
      Exclusive procs (run.after (step (lockStep procs)) start turns)) ∧
        Once claims spends Gone (run.after (step (lockStep procs)) start turns) from
    ⟨hall.1.1, hall.2⟩
  refine invariant (I := fun g => (I g ∧ Exclusive procs g) ∧ Once claims spends Gone g)
    ⟨⟨h0, .start hfree⟩, ?_⟩ ?_ turns
  · constructor
    · intro i k hs
      rw [hnone i] at hs
      cases hs
    · intro i j k _ _ hs
      rw [hnone j] at hs
      cases hs
    · intro i j k hs
      rw [hnone i] at hs
      cases hs
  · rintro g i p ⟨⟨hI, he⟩, ho⟩ hp
    exact ⟨⟨hmove g i p hI (lockStep_some hp).2, he.move hp⟩, ho.move h hI he hp⟩

end

end interleave

-- Journals: a log that only grows, beside a table. A row is marked exactly when
-- one entry of the log tells of it, and none does before.
import PulseForge.Lib.Table

open table

namespace journal

variable {α ε κ η : Type}

/-- What is told of the rows, and where: the mark of a row, the entries that
tell of a key, and the place of rows and entries. -/
structure Scheme (α ε κ η : Type) where
  id : α → κ
  mark : α → Bool
  home : α → η
  tells : κ → ε → Bool
  place : ε → η

variable (S : Scheme α ε κ η)

/-- Two rows, or a row before and after a write, of which the same is told. -/
structure Scheme.Same (x y : α) : Prop where
  id : S.id x = S.id y
  mark : S.mark x = S.mark y
  home : S.home x = S.home y

/-- Each marked row is told of once, at its place, and the others are not. -/
structure ToldOnce (rows : List α) (log : List ε) : Prop where
  count : ∀ x ∈ rows, log.countP (S.tells (S.id x)) = if S.mark x then 1 else 0
  place : ∀ x ∈ rows, ∀ a ∈ log, S.tells (S.id x) a = true → S.place a = S.home x

/-- No entry tells of the key. -/
def Untold (key : κ) (log : List ε) : Prop := ∀ a ∈ log, S.tells key a = false

variable {S} {rows rows' : List α} {log new : List ε} {x : α} {a : ε} {key : κ}

theorem told_nil (log : List ε) : ToldOnce S [] log where
  count := nofun
  place := nofun

theorem Untold.count (h : Untold S key log) : log.countP (S.tells key) = 0 := by
  refine List.countP_eq_zero.mpr fun a ha htells => ?_
  rw [h a ha] at htells
  cases htells

theorem untold_append (h : Untold S key log) (hnew : Untold S key new) : Untold S key (log ++ new) := by
  intro a ha
  rcases List.mem_append.mp ha with ha | ha
  · exact h a ha
  · exact hnew a ha

theorem untold_singleton (h : S.tells key a = false) : Untold S key [a] := by
  intro b hb
  rw [List.mem_singleton.mp hb]
  exact h

/-- Entries that tell of no row, and rows that come from old ones or are new
and not marked. -/
theorem ToldOnce.frame (h : ToldOnce S rows log)
    (hrows : ∀ x ∈ rows', (∃ y ∈ rows, S.Same x y) ∨ S.mark x = false ∧ Untold S (S.id x) log)
    (hnew : ∀ x ∈ rows', Untold S (S.id x) new) : ToldOnce S rows' (log ++ new) := by
  constructor
  · intro x hx
    rw [List.countP_append, (hnew x hx).count, Nat.add_zero]
    rcases hrows x hx with ⟨y, hy, hsame⟩ | ⟨hmark, hnone⟩
    · rw [hsame.id, hsame.mark]
      exact h.count y hy
    · rw [hnone.count, hmark]
      rfl
  · intro x hx a ha htells
    rcases List.mem_append.mp ha with ha | ha
    · rcases hrows x hx with ⟨y, hy, hsame⟩ | ⟨_, hnone⟩
      · rw [hsame.home]
        exact h.place y hy a ha (hsame.id ▸ htells)
      · rw [hnone a ha] at htells
        cases htells
    · rw [hnew x hx a ha] at htells
      cases htells

/-- The same without an entry. -/
theorem ToldOnce.kept (h : ToldOnce S rows log)
    (hrows : ∀ x ∈ rows', (∃ y ∈ rows, S.Same x y) ∨ S.mark x = false ∧ Untold S (S.id x) log) :
    ToldOnce S rows' log := by
  have hnone : ∀ x ∈ rows', Untold S (S.id x) [] := fun _ _ => nofun
  simpa using h.frame hrows hnone

/-- A row is marked, and one entry tells of it. -/
theorem ToldOnce.marked [DecidableEq κ] (h : ToldOnce S rows log) (hids : UniqueOn S.id rows) (hx : x ∈ rows)
    (hopen : S.mark x = false) {f : α → α} (hid : S.id (f x) = S.id x) (hmark : S.mark (f x) = true)
    (hhome : S.home (f x) = S.home x) (htells : S.tells (S.id x) a = true)
    (hplace : S.place a = S.home x)
    (hothers : ∀ y ∈ rows, S.id y ≠ S.id x → S.tells (S.id y) a = false) :
    ToldOnce S (updateWhere (fun y => S.id y = S.id x) f rows) (log ++ [a]) := by
  have hrow : ∀ z ∈ updateWhere (fun y => decide (S.id y = S.id x)) f rows,
      z = f x ∨ z ∈ rows ∧ S.id z ≠ S.id x := by
    intro z hz
    obtain ⟨y, hy, rfl⟩ := mem_updateWhere.mp hz
    by_cases hsame : S.id y = S.id x
    · rw [hids.eq hy hx hsame]
      simp
    · simp [hsame, hy]
  constructor
  · intro z hz
    rw [List.countP_append]
    rcases hrow z hz with rfl | ⟨hz, hne⟩
    · rw [hid, h.count x hx, hopen, hmark]
      simp [htells]
    · rw [h.count z hz]
      simp [hothers z hz hne]
  · intro z hz b hb htells'
    rcases hrow z hz with rfl | ⟨hz, hne⟩
    · rw [hid] at htells'
      rw [hhome]
      rcases List.mem_append.mp hb with hb | hb
      · exact h.place x hx b hb htells'
      · rw [List.mem_singleton.mp hb]
        exact hplace
    · rcases List.mem_append.mp hb with hb | hb
      · exact h.place z hz b hb htells'
      · rw [List.mem_singleton.mp hb, hothers z hz hne] at htells'
        cases htells'

/-- A marked row is new, and one entry tells of it. -/
theorem ToldOnce.issued (h : ToldOnce S rows log) (hmark : S.mark x = true) (hnone : Untold S (S.id x) log)
    (htells : S.tells (S.id x) a = true) (hplace : S.place a = S.home x)
    (hothers : ∀ y ∈ rows, S.tells (S.id y) a = false) : ToldOnce S (rows ++ [x]) (log ++ [a]) := by
  constructor
  · intro y hy
    rw [List.countP_append]
    rcases List.mem_append.mp hy with hy | hy
    · rw [h.count y hy]
      simp [hothers y hy]
    · rw [List.mem_singleton.mp hy, hnone.count, hmark]
      simp [htells]
  · intro y hy b hb htells'
    rcases List.mem_append.mp hy with hy | hy
    · rcases List.mem_append.mp hb with hb | hb
      · exact h.place y hy b hb htells'
      · rw [List.mem_singleton.mp hb, hothers y hy] at htells'
        cases htells'
    · rw [List.mem_singleton.mp hy] at htells' ⊢
      rcases List.mem_append.mp hb with hb | hb
      · rw [hnone b hb] at htells'
        cases htells'
      · rw [List.mem_singleton.mp hb]
        exact hplace

/-- A part of the log that has all entries of a place tells as much of the rows there. -/
theorem ToldOnce.within (h : ToldOnce S rows log) (hx : x ∈ rows) {view : ε → Bool}
    (hview : ∀ a ∈ log, S.place a = S.home x → view a = true) :
    (log.filter view).countP (S.tells (S.id x)) = if S.mark x then 1 else 0 := by
  rw [List.countP_filter, ← h.count x hx]
  refine List.countP_congr fun a ha => ?_
  rw [Bool.and_eq_true]
  exact ⟨fun hboth => hboth.1, fun htells => ⟨htells, hview a ha (h.place x hx a ha htells)⟩⟩

end journal

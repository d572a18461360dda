-- Transactions that each insert under a unique key. An insert waits while another
-- transaction holds its key, clashes with a committed row of the key, and else holds
-- the key until its commit. Every interleaving of them is a run of one at a time, in
-- the order in which they end.
import PulseForge.Lib.Locks

namespace claims

open interleave

variable {ι σ κ α ρ : Type}

/-- A transaction that reads, inserts under its key and answers. Each read may refuse
it, and carries on what the ones before have found. -/
structure Claim (σ κ α ρ : Type) where
  key : κ
  first : σ → Except ρ α
  reads : List (α → σ → Except ρ α)
  /-- A committed row has the key. -/
  taken : σ → Bool
  write : α → σ → σ
  done : α → ρ
  clash : ρ

/-- The reads one after the other, in one store. -/
def readAll (s : σ) : List (α → σ → Except ρ α) → α → Except ρ α
  | [], a => .ok a
  | read :: rest, a =>
    match read a s with
    | .error r => .error r
    | .ok b => readAll s rest b

def Claim.check (c : Claim σ κ α ρ) (s : σ) : Except ρ α :=
  match c.first s with
  | .error r => .error r
  | .ok a => readAll s c.reads a

/-- The whole transaction at once. -/
def Claim.serve (c : Claim σ κ α ρ) (s : σ) : ρ × σ :=
  match c.check s with
  | .error r => (r, s)
  | .ok a => if c.taken s then (c.clash, s) else (c.done a, c.write a s)

/-- A transaction that has its last read inserts next. -/
inductive Stage (σ α ρ : Type)
  | start
  | reading (rest : List (α → σ → Except ρ α)) (a : α)
  | holding (a : α)
  | ended (r : ρ)

def Stage.reply : Stage σ α ρ → Option ρ
  | .ended r => some r
  | _ => none

def Claim.next (c : Claim σ κ α ρ) (s : σ) : Stage σ α ρ → Option (σ × Stage σ α ρ)
  | .start =>
    match c.first s with
    | .error r => some (s, .ended r)
    | .ok a => some (s, .reading c.reads a)
  | .reading [] a => if c.taken s then some (s, .ended c.clash) else some (s, .holding a)
  | .reading (read :: rest) a =>
    match read a s with
    | .error r => some (s, .ended r)
    | .ok b => some (s, .reading rest b)
  | .holding a => some (c.write a s, .ended (c.done a))
  | .ended _ => none

def wants (c : Claim σ κ α ρ) : Stage σ α ρ → Option κ
  | .reading [] _ => some c.key
  | _ => none

def holds (c : Claim σ κ α ρ) : Stage σ α ρ → List κ
  | .holding _ => [c.key]
  | _ => []

theorem next_acquires (c : Claim σ κ α ρ) (s : σ) (t : Stage σ α ρ) (p : σ × Stage σ α ρ)
    (h : c.next s t = some p) : ∀ l ∈ holds c p.2, l ∈ holds c t ∨ wants c t = some l := by
  intro l hl
  cases t with
  | start =>
    simp only [Claim.next] at h
    split at h <;> cases h <;> cases hl
  | reading rest a =>
    cases rest with
    | nil =>
      simp only [Claim.next] at h
      split at h
      · cases h
        cases hl
      · cases h
        obtain rfl := List.mem_singleton.mp hl
        exact Or.inr rfl
    | cons read rest =>
      simp only [Claim.next] at h
      split at h <;> cases h <;> cases hl
  | holding a =>
    cases h
    cases hl
  | ended r => cases h

def process (c : Claim σ κ α ρ) : Process σ (Stage σ α ρ) κ where
  next := c.next
  wants := wants c
  holds := holds c
  acquires := next_acquires c

variable [Fintype ι] [DecidableEq ι] [DecidableEq κ]

def begin (s₀ : σ) : State ι σ (Stage σ α ρ) := ⟨s₀, fun _ => .start⟩

def turn (claims : ι → Claim σ κ α ρ) : State ι σ (Stage σ α ρ) → ι → State ι σ (Stage σ α ρ) :=
  step (lockStep fun i => process (claims i))

/-- What one transaction writes, the others still read: a read that went through
goes through again, and a key is taken by the rows with the same key. -/
structure Compatible (claims : ι → Claim σ κ α ρ) : Prop where
  first : ∀ i j a b s, (claims i).first s = .ok a → (claims i).first ((claims j).write b s) = .ok a
  reads : ∀ i j, ∀ read ∈ (claims i).reads, ∀ a a' b s,
    read a s = .ok a' → read a ((claims j).write b s) = .ok a'
  taken : ∀ i j b s, i ≠ j → (claims i).taken ((claims j).write b s) =
    ((claims i).taken s || decide ((claims i).key = (claims j).key))

/-! ## The reads -/

theorem readAll_append (s : σ) (done rest : List (α → σ → Except ρ α)) (a b : α)
    (h : readAll s done a = .ok b) : readAll s (done ++ rest) a = readAll s rest b := by
  induction done generalizing a with
  | nil =>
    cases h
    rfl
  | cons read done ih =>
    simp only [List.cons_append, readAll] at h ⊢
    cases hread : read a s with
    | error r =>
      rw [hread] at h
      cases h
    | ok a' =>
      rw [hread] at h
      exact ih a' h

/-- Reads that go through one by one in another store go through there. -/
theorem readAll_kept {s s' : σ} {reads : List (α → σ → Except ρ α)} {a b : α}
    (hkept : ∀ read ∈ reads, ∀ a a', read a s = .ok a' → read a s' = .ok a')
    (h : readAll s reads a = .ok b) : readAll s' reads a = .ok b := by
  induction reads generalizing a with
  | nil => exact h
  | cons read reads ih =>
    simp only [readAll] at h ⊢
    cases hread : read a s with
    | error r =>
      rw [hread] at h
      cases h
    | ok a' =>
      rw [hread] at h
      rw [hkept read List.mem_cons_self a a' hread]
      exact ih (fun r hr => hkept r (List.mem_cons_of_mem read hr)) h

/-- What the reads refuse with, they refuse with one after the other. -/
theorem readAll_refuses {P : ρ → Prop} {s : σ} {reads : List (α → σ → Except ρ α)} {a : α} {r : ρ}
    (hreads : ∀ read ∈ reads, ∀ a r, read a s = .error r → P r) (h : readAll s reads a = .error r) :
    P r := by
  induction reads generalizing a with
  | nil => cases h
  | cons read rest ih =>
    simp only [readAll] at h
    cases hread : read a s with
    | error r' =>
      rw [hread] at h
      cases h
      exact hreads read List.mem_cons_self a r hread
    | ok b =>
      rw [hread] at h
      exact ih (fun read hread => hreads read (List.mem_cons_of_mem _ hread)) h

omit [DecidableEq κ] in
theorem check_refuses {P : ρ → Prop} {c : Claim σ κ α ρ} {s : σ} {r : ρ}
    (hfirst : ∀ r, c.first s = .error r → P r)
    (hreads : ∀ read ∈ c.reads, ∀ a r, read a s = .error r → P r) (h : c.check s = .error r) :
    P r := by
  unfold Claim.check at h
  cases hstart : c.first s with
  | error r' =>
    rw [hstart] at h
    cases h
    exact hfirst r hstart
  | ok a =>
    rw [hstart] at h
    exact readAll_refuses hreads h

/-- The claim has made its reads but the rest, and has found this. -/
def HasRead (c : Claim σ κ α ρ) (rest : List (α → σ → Except ρ α)) (a : α) (s : σ) : Prop :=
  ∃ a₀ done, c.first s = .ok a₀ ∧ c.reads = done ++ rest ∧ readAll s done a₀ = .ok a

omit [DecidableEq κ] in
theorem HasRead.check {c : Claim σ κ α ρ} {rest : List (α → σ → Except ρ α)} {a : α} {s : σ}
    (h : HasRead c rest a s) : c.check s = readAll s rest a := by
  obtain ⟨a₀, done, hfirst, hreads, hdone⟩ := h
  unfold Claim.check
  rw [hfirst, hreads]
  exact readAll_append s done rest a₀ a hdone

omit [DecidableEq κ] in
theorem HasRead.next {c : Claim σ κ α ρ} {read : α → σ → Except ρ α}
    {rest : List (α → σ → Except ρ α)} {a b : α} {s : σ} (h : HasRead c (read :: rest) a s)
    (hread : read a s = .ok b) : HasRead c rest b s := by
  obtain ⟨a₀, done, hfirst, hreads, hdone⟩ := h
  refine ⟨a₀, done ++ [read], hfirst, by rw [hreads, List.append_assoc]; rfl, ?_⟩
  rw [readAll_append s done [read] a₀ a hdone]
  simp only [readAll, hread]

omit [Fintype ι] [DecidableEq ι] in
theorem HasRead.write {claims : ι → Claim σ κ α ρ} (hcompatible : Compatible claims) {i : ι}
    {rest : List (α → σ → Except ρ α)} {a : α} {s : σ} (h : HasRead (claims i) rest a s) (j : ι)
    (b : α) : HasRead (claims i) rest a ((claims j).write b s) := by
  obtain ⟨a₀, done, hfirst, hreads, hdone⟩ := h
  refine ⟨a₀, done, hcompatible.first i j a₀ b s hfirst, hreads, readAll_kept ?_ hdone⟩
  intro read hread a a' ha
  refine hcompatible.reads i j read ?_ a a' b s ha
  rw [hreads]
  exact List.mem_append_left rest hread

/-! ## One at a time -/

section
variable (serve : ι → σ → ρ × σ) (s₀ : σ)

/-- The store after transactions one at a time, the newest first. -/
def oneAtATime : List ι → σ := run.after (fun s i => (serve i s).2) s₀

/-- The answers of transactions one at a time. -/
def answers : List ι → ι → Option ρ
  | [], _ => none
  | i :: past, j => if j = i then some (serve i (oneAtATime serve s₀ past)).1 else answers past j

end

/-- The transactions in the order in which they ended, the newest first. -/
def endOrder (claims : ι → Claim σ κ α ρ) (s₀ : σ) : List ι → List ι
  | [] => []
  | i :: turns =>
    let g := run.after (turn claims) (begin s₀) turns
    if (g.locals i).reply.isNone && ((turn claims g i).locals i).reply.isSome then
      i :: endOrder claims s₀ turns
    else endOrder claims s₀ turns

/-- The store and the answers are those of the ended transactions one at a time,
and what the others have read and hold is still true. -/
structure Serial (claims : ι → Claim σ κ α ρ) (s₀ : σ) (past : List ι) (g : State ι σ (Stage σ α ρ)) :
    Prop where
  shared : g.shared = oneAtATime (fun i => (claims i).serve) s₀ past
  replies : ∀ i, (g.locals i).reply = answers (fun i => (claims i).serve) s₀ past i
  ended : ∀ i, i ∈ past ↔ (g.locals i).reply.isSome = true
  once : past.Nodup
  reading : ∀ i rest a, g.locals i = .reading rest a → HasRead (claims i) rest a g.shared
  holding : ∀ i a, g.locals i = .holding a →
    HasRead (claims i) [] a g.shared ∧ (claims i).taken g.shared = false

section
variable {claims : ι → Claim σ κ α ρ} {s₀ : σ} {past : List ι} {g : State ι σ (Stage σ α ρ)} {i : ι}

omit [Fintype ι] [DecidableEq κ] in
/-- A move that ends nothing. -/
theorem Serial.wait (h : Serial claims s₀ past g) {t : Stage σ α ρ} (hnone : (g.locals i).reply = none)
    (ht : t.reply = none) (hread : ∀ rest a, t = .reading rest a → HasRead (claims i) rest a g.shared)
    (hhold : ∀ a, t = .holding a →
      HasRead (claims i) [] a g.shared ∧ (claims i).taken g.shared = false) :
    Serial claims s₀ past (g.move i (g.shared, t)) where
  shared := h.shared
  replies j := by
    by_cases hji : j = i
    · rw [hji, move_self, ← h.replies i, hnone, ht]
    · rw [move_other hji, h.replies j]
  ended j := by
    by_cases hji : j = i
    · rw [hji, move_self, h.ended i, hnone, ht]
    · rw [move_other hji, h.ended j]
  once := h.once
  reading j rest a hj := by
    by_cases hji : j = i
    · subst hji
      rw [move_self] at hj
      exact hread rest a hj
    · rw [move_other hji] at hj
      exact h.reading j rest a hj
  holding j a hj := by
    by_cases hji : j = i
    · subst hji
      rw [move_self] at hj
      exact hhold a hj
    · rw [move_other hji] at hj
      exact h.holding j a hj

omit [Fintype ι] [DecidableEq κ] in
/-- A move that ends a transaction as the transaction at once would end now. -/
theorem Serial.end_ (h : Serial claims s₀ past g) {r : ρ} {s' : σ} (hnone : (g.locals i).reply = none)
    (hserve : (claims i).serve g.shared = (r, s'))
    (hkept : ∀ j rest a, HasRead (claims j) rest a g.shared → HasRead (claims j) rest a s')
    (hfree : ∀ j a, j ≠ i → g.locals j = .holding a → (claims j).taken s' = false) :
    Serial claims s₀ (i :: past) (g.move i (s', .ended r)) where
  shared := by
    show s' = ((claims i).serve (oneAtATime (fun i => (claims i).serve) s₀ past)).2
    rw [← h.shared, hserve]
  replies j := by
    unfold answers
    by_cases hji : j = i
    · rw [hji, move_self, if_pos rfl, ← h.shared, hserve]
      rfl
    · rw [move_other hji, if_neg hji, h.replies j]
  ended j := by
    by_cases hji : j = i
    · rw [hji, move_self]
      exact iff_of_true List.mem_cons_self rfl
    · rw [move_other hji, List.mem_cons, ← h.ended j]
      exact or_iff_right hji
  once := by
    refine List.nodup_cons.mpr ⟨fun hmem => ?_, h.once⟩
    have hsome := (h.ended i).mp hmem
    rw [hnone] at hsome
    cases hsome
  reading j rest a hj := by
    by_cases hji : j = i
    · subst hji
      rw [move_self] at hj
      cases hj
    · rw [move_other hji] at hj
      exact hkept j rest a (h.reading j rest a hj)
  holding j a hj := by
    by_cases hji : j = i
    · subst hji
      rw [move_self] at hj
      cases hj
    · rw [move_other hji] at hj
      exact ⟨hkept j [] a (h.holding j a hj).1, hfree j a hji hj⟩

/-- A turn keeps the transactions serial, with the one that it ends as the last. -/
theorem Serial.step (h : Serial claims s₀ past g) (hcompatible : Compatible claims)
    (hexclusive : Exclusive (fun i => process (claims i)) g) (i : ι) :
    Serial claims s₀
      (if (g.locals i).reply.isNone && ((turn claims g i).locals i).reply.isSome then i :: past else past)
      (turn claims g i) := by
  rcases lockStep_cases (fun i => process (claims i)) g i with heq | ⟨s', t', hnext, heq⟩
  · have hstay : turn claims g i = g := heq
    rw [hstay, if_neg]
    · exact h
    · cases (g.locals i).reply <;> simp
  have hmove : turn claims g i = g.move i (s', t') := heq
  rw [hmove, move_self]
  -- A transaction that ends without a write takes nothing from the others.
  have hrefused : ∀ r, (g.locals i).reply = none → ((claims i).serve g.shared) = (r, g.shared) →
      Serial claims s₀ (i :: past) (g.move i (g.shared, .ended r)) :=
    fun r hnone hserve => h.end_ hnone hserve (fun _ _ _ hread => hread)
      fun j a _ hj => (h.holding j a hj).2
  cases hstage : g.locals i with
  | start =>
    have hnone : (g.locals i).reply = none := by rw [hstage]; rfl
    simp only [process, hstage, Claim.next] at hnext
    split at hnext
    · rename_i r hfirst
      cases hnext
      refine hrefused r hnone ?_
      simp only [Claim.serve, Claim.check, hfirst]
    · rename_i a hfirst
      cases hnext
      refine h.wait hnone rfl (fun rest b hb => ?_) nofun
      cases hb
      exact ⟨a, [], hfirst, rfl, rfl⟩
  | reading rest a =>
    have hnone : (g.locals i).reply = none := by rw [hstage]; rfl
    have hread := h.reading i rest a hstage
    have hcheck := hread.check
    cases rest with
    | nil =>
      simp only [process, hstage, Claim.next] at hnext
      split at hnext
      · rename_i htaken
        cases hnext
        refine hrefused _ hnone ?_
        simp only [Claim.serve, hcheck, readAll, htaken, if_true]
      · rename_i hfreekey
        cases hnext
        refine h.wait hnone rfl nofun fun b hb => ?_
        cases hb
        exact ⟨hread, by simpa using hfreekey⟩
    | cons read rest =>
      simp only [process, hstage, Claim.next] at hnext
      split at hnext
      · rename_i r hrefuses
        cases hnext
        refine hrefused r hnone ?_
        simp only [Claim.serve, hcheck, readAll, hrefuses]
      · rename_i b hgoes
        cases hnext
        refine h.wait hnone rfl (fun rest' b' hb => ?_) nofun
        cases hb
        exact hread.next hgoes
  | holding a =>
    have hnone : (g.locals i).reply = none := by rw [hstage]; rfl
    obtain ⟨hread, hkey⟩ := h.holding i a hstage
    simp only [process, hstage, Claim.next] at hnext
    cases hnext
    refine h.end_ hnone ?_ (fun j rest b hb => hb.write hcompatible i a) fun j b hji hj => ?_
    · simp only [Claim.serve, hread.check, readAll, hkey, Bool.false_eq_true, if_false]
    · rw [hcompatible.taken j i a _ hji, (h.holding j b hj).2, Bool.false_or, decide_eq_false_iff_not]
      intro hsamekey
      refine hji (hexclusive j i (claims j).key ?_ ?_)
      · simp [process, hj, holds]
      · simp [process, hstage, holds, hsamekey]
  | ended r =>
    simp only [process, hstage, Claim.next] at hnext
    cases hnext

omit [Fintype ι] [DecidableEq κ] in
theorem serial_begin (claims : ι → Claim σ κ α ρ) (s₀ : σ) :
    Serial claims s₀ [] (begin s₀) where
  shared := rfl
  replies _ := rfl
  ended _ := iff_of_false List.not_mem_nil nofun
  once := List.nodup_nil
  reading _ _ _ h := by cases h
  holding _ _ h := by cases h

/-- Every interleaving of the transactions is serial. -/
theorem serial_run (hcompatible : Compatible claims) (s₀ : σ) (turns : List ι) :
    Serial claims s₀ (endOrder claims s₀ turns) (run.after (turn claims) (begin s₀) turns) := by
  have hexclusive : ∀ turns, Exclusive (fun i => process (claims i))
      (run.after (turn claims) (begin s₀) turns) :=
    invariant (Exclusive.start fun _ => rfl) fun _ _ _ hg hp => hg.move hp
  induction turns with
  | nil => exact serial_begin claims s₀
  | cons i turns ih => exact ih.step hcompatible (hexclusive turns) i

/-- How many moves are left, of a transaction of at most so many. -/
def Stage.left (most : Nat) : Stage σ α ρ → Nat
  | .start => most
  | .reading rest _ => 2 + rest.length
  | .holding _ => 1
  | .ended _ => 0

/-- From everywhere, the transactions can come to their ends. -/
theorem can_end (claims : ι → Claim σ κ α ρ) (g : State ι σ (Stage σ α ρ)) :
    ∃ turns, ∀ i, ((run.after (turn claims) g turns).locals i).reply.isSome = true := by
  have hordered : Ordered (fun i => process (claims i)) (fun _ => 0) 0 := by
    refine ⟨fun _ => Nat.le_refl 0, ?_, ?_⟩
    · intro i t l hl m hm
      cases t with
      | holding a => cases hl
      | _ => cases hm
    · intro i s t ht
      cases t with
      | holding a => exact nofun
      | _ => exact absurd rfl ht
  have hmost : ∀ i, (claims i).reads.length ≤ ∑ j, (claims j).reads.length := by
    intro i
    exact Finset.single_le_sum (f := fun j => (claims j).reads.length) (fun _ _ => Nat.zero_le _)
      (Finset.mem_univ i)
  have hmoves : ∀ (i : ι) (s : σ) (t : Stage σ α ρ), True → ¬ t.reply.isSome = true →
      (process (claims i)).next s t ≠ none := by
    intro i s t _ ht
    cases t with
    | start =>
      simp only [process, Claim.next]
      split <;> exact nofun
    | reading rest a =>
      cases rest <;> simp only [process, Claim.next] <;> split <;> exact nofun
    | holding a => exact nofun
    | ended r => exact absurd rfl ht
  refine hordered.can_finish (fun _ _ => True) (Stage.left (3 + ∑ j, (claims j).reads.length))
    (fun _ _ _ _ _ _ => trivial) ?_ hmoves g fun _ => trivial
  intro i s t p hp
  cases t with
  | start =>
    have hfew := hmost i
    simp only [process, Claim.next] at hp
    split at hp <;> cases hp <;> simp only [Stage.left] <;> omega
  | reading rest a =>
    cases rest with
    | nil =>
      simp only [process, Claim.next] at hp
      split at hp <;> cases hp <;> simp [Stage.left]
    | cons read rest =>
      simp only [process, Claim.next] at hp
      split at hp <;> cases hp <;> simp [Stage.left]
  | holding a =>
    cases hp
    exact Nat.one_pos
  | ended r => cases hp

end

/-! ## Winners -/

/-- The answers of a claim say if it won. -/
structure Tells (claims : ι → Claim σ κ α ρ) (won : ρ → Bool) : Prop where
  done : ∀ i a, won ((claims i).done a) = true
  clash : ∀ i, won (claims i).clash = false
  refused : ∀ i s r, (claims i).check s = .error r → won r = false ∧ r ≠ (claims i).clash

section
variable {claims : ι → Claim σ κ α ρ} {won : ρ → Bool} {s₀ : σ} {past : List ι} {i j : ι} {r : ρ}

/-- The claim of the key ended with an answer that says it won. -/
def Won (claims : ι → Claim σ κ α ρ) (won : ρ → Bool) (s₀ : σ) (past : List ι) (i : ι) : Prop :=
  ∃ r, answers (fun i => (claims i).serve) s₀ past i = some r ∧ won r = true

omit [Fintype ι] [DecidableEq κ] in
theorem answers_self (claims : ι → Claim σ κ α ρ) (s₀ : σ) (past : List ι) (i : ι) :
    answers (fun i => (claims i).serve) s₀ (i :: past) i =
      some ((claims i).serve (oneAtATime (fun i => (claims i).serve) s₀ past)).1 :=
  if_pos rfl

omit [Fintype ι] [DecidableEq κ] in
theorem answers_other (claims : ι → Claim σ κ α ρ) (s₀ : σ) (past : List ι) (h : i ≠ j) :
    answers (fun i => (claims i).serve) s₀ (j :: past) i =
      answers (fun i => (claims i).serve) s₀ past i :=
  if_neg h

omit [Fintype ι] [DecidableEq κ] in
theorem answers_ended (h : answers (fun i => (claims i).serve) s₀ past i = some r) : i ∈ past := by
  induction past with
  | nil => cases h
  | cons j past ih =>
    by_cases hij : i = j
    · rw [hij]
      exact List.mem_cons_self
    · rw [answers_other claims s₀ past hij] at h
      exact List.mem_cons_of_mem j (ih h)

omit [Fintype ι] [DecidableEq κ] in
/-- A claim wins now or has won before. -/
theorem won_cons (hfresh : j ∉ past) :
    Won claims won s₀ (j :: past) i ↔
      i = j ∧ won ((claims j).serve (oneAtATime (fun i => (claims i).serve) s₀ past)).1 = true ∨
        Won claims won s₀ past i := by
  unfold Won
  by_cases hij : i = j
  · subst hij
    simp only [answers_self, Option.some.injEq, true_and, exists_eq_left']
    refine ⟨Or.inl, fun h => h.elim id ?_⟩
    rintro ⟨r, hr, _⟩
    exact absurd (answers_ended hr) hfresh
  · simp only [answers_other claims s₀ past hij, hij, false_and, false_or]

omit [Fintype ι] [DecidableEq ι] [DecidableEq κ] in
theorem Tells.serve_won (h : Tells claims won) (i : ι) (s : σ) :
    won ((claims i).serve s).1 = true ↔
      (∃ a, (claims i).check s = .ok a) ∧ (claims i).taken s = false := by
  unfold Claim.serve
  cases hcheck : (claims i).check s with
  | error r => simp [(h.refused i s r hcheck).1]
  | ok a => cases (claims i).taken s <;> simp [h.done i a, h.clash i]

omit [Fintype ι] [DecidableEq ι] [DecidableEq κ] in
theorem Tells.serve_clash (h : Tells claims won) {i : ι} {s : σ}
    (hserve : ((claims i).serve s).1 = (claims i).clash) : (claims i).taken s = true := by
  unfold Claim.serve at hserve
  cases hcheck : (claims i).check s with
  | error r =>
    rw [hcheck] at hserve
    exact absurd hserve (h.refused i s r hcheck).2
  | ok a =>
    rw [hcheck] at hserve
    by_contra hfree
    simp only [hfree, if_false] at hserve
    have hdone := h.done i a
    rw [hserve, h.clash i] at hdone
    cases hdone

omit [Fintype ι] [DecidableEq ι] [DecidableEq κ] in
/-- A claim that does not win leaves the store as it was. -/
theorem Tells.serve_lost (h : Tells claims won) {i : ι} {s : σ}
    (hlost : won ((claims i).serve s).1 = false) : ((claims i).serve s).2 = s := by
  unfold Claim.serve at hlost ⊢
  cases hcheck : (claims i).check s with
  | error r => rfl
  | ok a =>
    cases htaken : (claims i).taken s with
    | true => rfl
    | false => simp [hcheck, htaken, h.done i a] at hlost

omit [Fintype ι] [DecidableEq ι] [DecidableEq κ] in
/-- A claim that wins writes its rows. -/
theorem Tells.serve_writes (h : Tells claims won) {i : ι} {s : σ}
    (hwon : won ((claims i).serve s).1 = true) :
    ∃ a, ((claims i).serve s).2 = (claims i).write a s := by
  obtain ⟨⟨a, hcheck⟩, hfree⟩ := (h.serve_won i s).mp hwon
  refine ⟨a, ?_⟩
  simp only [Claim.serve, hcheck, hfree, Bool.false_eq_true, if_false]

omit [Fintype ι] in
/-- After transactions one at a time, a key is taken if it was at the start or if a
claim of it has won. -/
theorem taken_iff (s₀ : σ) (hcompatible : Compatible claims) (htells : Tells claims won) (hnodup : past.Nodup)
    (hi : i ∉ past) :
    (claims i).taken (oneAtATime (fun i => (claims i).serve) s₀ past) = true ↔
      (claims i).taken s₀ = true ∨
        ∃ j, (claims i).key = (claims j).key ∧ Won claims won s₀ past j := by
  induction past with
  | nil =>
    refine ⟨Or.inl, fun h => h.elim id ?_⟩
    rintro ⟨_, _, _, hr, _⟩
    cases hr
  | cons j past ih =>
    obtain ⟨hj, hnodup⟩ := List.nodup_cons.mp hnodup
    have hij : i ≠ j := fun h => hi (h ▸ List.mem_cons_self)
    have ih := ih hnodup fun h => hi (List.mem_cons_of_mem j h)
    simp only [won_cons hj]
    show (claims i).taken ((claims j).serve (oneAtATime _ s₀ past)).2 = true ↔ _
    generalize oneAtATime (fun i => (claims i).serve) s₀ past = s at ih ⊢
    cases hwon : won ((claims j).serve s).1 with
    | false =>
      rw [htells.serve_lost hwon, ih]
      simp
    | true =>
      obtain ⟨a, hwrite⟩ := htells.serve_writes hwon
      rw [hwrite, hcompatible.taken i j a s hij, Bool.or_eq_true, decide_eq_true_iff, ih]
      constructor
      · rintro ((h | ⟨k, hk, hbefore⟩) | hkey)
        · exact Or.inl h
        · exact Or.inr ⟨k, hk, Or.inr hbefore⟩
        · exact Or.inr ⟨j, hkey, Or.inl ⟨rfl, rfl⟩⟩
      · rintro (h | ⟨k, hk, ⟨rfl, _⟩ | hbefore⟩)
        · exact Or.inl (Or.inl h)
        · exact Or.inr hk
        · exact Or.inl (Or.inr ⟨k, hk, hbefore⟩)

/-- A claim that won found its key free, and no other claim of the key has won. A claim
that clashed found its key taken at the start or by a claim that has won. -/
structure Fair (claims : ι → Claim σ κ α ρ) (won : ρ → Bool) (s₀ : σ) (past : List ι) : Prop where
  winner : ∀ i, Won claims won s₀ past i → (claims i).taken s₀ = false ∧
    ∀ j, j ≠ i → (claims i).key = (claims j).key → ¬ Won claims won s₀ past j
  loser : ∀ i, answers (fun i => (claims i).serve) s₀ past i = some (claims i).clash →
    (claims i).taken s₀ = true ∨
      ∃ j, j ≠ i ∧ (claims i).key = (claims j).key ∧ Won claims won s₀ past j

omit [Fintype ι] in
theorem fair (hcompatible : Compatible claims) (htells : Tells claims won) (s₀ : σ) (hnodup : past.Nodup) :
    Fair claims won s₀ past := by
  induction past with
  | nil =>
    refine ⟨?_, fun i h => by cases h⟩
    rintro i ⟨_, hr, _⟩
    cases hr
  | cons j past ih =>
    obtain ⟨hj, hnodup⟩ := List.nodup_cons.mp hnodup
    have ih := ih hnodup
    have htaken := taken_iff s₀ hcompatible htells hnodup hj
    have hsole : won ((claims j).serve (oneAtATime (fun i => (claims i).serve) s₀ past)).1 = true →
        (claims j).taken s₀ = false ∧
          ∀ k, (claims j).key = (claims k).key → ¬ Won claims won s₀ past k := by
      intro hwon
      rw [((htells.serve_won j _).mp hwon).2] at htaken
      simpa using htaken
    constructor
    · intro i hi
      rcases (won_cons hj).mp hi with ⟨rfl, hwon⟩ | hbefore
      · refine ⟨(hsole hwon).1, fun k hk hkey hother => ?_⟩
        rcases (won_cons hj).mp hother with ⟨rfl, _⟩ | hother
        · exact hk rfl
        · exact (hsole hwon).2 k hkey hother
      · refine ⟨(ih.winner i hbefore).1, fun k hk hkey hother => ?_⟩
        rcases (won_cons hj).mp hother with ⟨rfl, hwon⟩ | hother
        · exact (hsole hwon).2 i hkey.symm hbefore
        · exact (ih.winner i hbefore).2 k hk hkey hother
    · intro i hi
      by_cases hij : i = j
      · subst hij
        rw [answers_self, Option.some.injEq] at hi
        refine (htaken.mp (htells.serve_clash hi)).imp_right ?_
        rintro ⟨k, hkey, hwon⟩
        obtain ⟨r, hr, _⟩ := id hwon
        exact ⟨k, fun h => hj (h ▸ answers_ended hr), hkey, (won_cons hj).mpr (Or.inr hwon)⟩
      · rw [answers_other claims s₀ past hij] at hi
        refine (ih.loser i hi).imp_right ?_
        rintro ⟨k, hk, hkey, hwon⟩
        exact ⟨k, hk, hkey, (won_cons hj).mpr (Or.inr hwon)⟩

end

end claims

-- Processes that wait for locks. A process says which lock its next step
-- needs and which locks it holds; it does not move while another process
-- holds the lock that it needs.
import PulseForge.Lib.Interleave

namespace interleave

/-- A process takes no lock but the one that its step waited for. -/
structure Process (σ τ κ : Type) where
  next : σ → τ → Option (σ × τ)
  wants : τ → Option κ
  holds : τ → List κ
  acquires : ∀ s t p, next s t = some p → ∀ l ∈ holds p.2, l ∈ holds t ∨ wants t = some l

variable {ι σ τ κ : Type} [Fintype ι] [DecidableEq ι] [DecidableEq κ]
variable (procs : ι → Process σ τ κ)

/-- Another process holds the lock that the process needs. -/
def Blocked (g : State ι σ τ) (i : ι) : Prop :=
  ∃ j, j ≠ i ∧ ∃ l ∈ (procs j).holds (g.locals j), (procs i).wants (g.locals i) = some l

instance (g : State ι σ τ) (i : ι) : Decidable (Blocked procs g i) :=
  inferInstanceAs (Decidable (∃ j, j ≠ i ∧ ∃ l ∈ (procs j).holds (g.locals j), _))

def lockStep : Act ι σ τ := fun i g =>
  if Blocked procs g i then none else (procs i).next g.shared (g.locals i)

variable {procs} {g : State ι σ τ} {i : ι}

theorem lockStep_eq (h : ¬ Blocked procs g i) :
    lockStep procs i g = (procs i).next g.shared (g.locals i) := by
  unfold lockStep
  rw [if_neg h]

/-- A step that needs no lock is never blocked. -/
theorem lockStep_free (h : (procs i).wants (g.locals i) = none) :
    lockStep procs i g = (procs i).next g.shared (g.locals i) := by
  apply lockStep_eq
  rintro ⟨_, _, l, _, hl⟩
  rw [h] at hl
  cases hl

/-- A move was not blocked, and it is the next step of the process. -/
theorem lockStep_some {p : σ × τ} (h : lockStep procs i g = some p) :
    ¬ Blocked procs g i ∧ (procs i).next g.shared (g.locals i) = some p := by
  unfold lockStep at h
  by_cases hb : Blocked procs g i
  · rw [if_pos hb] at h
    cases h
  · rw [if_neg hb] at h
    exact ⟨hb, h⟩

/-- A turn changes nothing, or it is the next step of its process. -/
theorem lockStep_cases (procs : ι → Process σ τ κ) (g : State ι σ τ) (i : ι) :
    step (lockStep procs) g i = g ∨ ∃ s' t', (procs i).next g.shared (g.locals i) = some (s', t') ∧
      step (lockStep procs) g i = g.move i (s', t') := by
  rcases step_cases (lockStep procs) g i with heq | ⟨⟨s', t'⟩, hp, heq⟩
  · exact Or.inl heq
  · exact Or.inr ⟨s', t', (lockStep_some hp).2, heq⟩

/-! ## One process alone -/

/-- A process comes from a shared state and a place to others by its own steps. -/
inductive Reaches (next : σ → τ → Option (σ × τ)) : σ → τ → σ → τ → Prop
  | refl (s : σ) (t : τ) : Reaches next s t s t
  | step {s s' s'' : σ} {t t' t'' : τ} (h : next s t = some (s', t'))
      (rest : Reaches next s' t' s'' t'') : Reaches next s t s'' t''

theorem Reaches.trans {next : σ → τ → Option (σ × τ)} {s s' s'' : σ} {t t' t'' : τ}
    (h : Reaches next s t s' t') (h' : Reaches next s' t' s'' t'') : Reaches next s t s'' t'' := by
  induction h with
  | refl => exact h'
  | step hnext _ ih => exact .step hnext (ih h')

/-- A process that looks at one row after the other, where each is kept. -/
theorem Reaches.sweep {ρ : Type} {next : σ → τ → Option (σ × τ)} {s : σ} {stage : List ρ → List ρ → τ}
    {keep : ρ → Prop} (hnext : ∀ row todo done, keep row →
      next s (stage (row :: todo) done) = some (s, stage todo (row :: done)))
    (todo done : List ρ) (h : ∀ row ∈ todo, keep row) :
    ∃ rows, (∀ r, r ∈ rows ↔ r ∈ todo ∨ r ∈ done) ∧
      Reaches next s (stage todo done) s (stage [] rows) := by
  induction todo generalizing done with
  | nil => exact ⟨done, by simp, .refl _ _⟩
  | cons row todo ih =>
    obtain ⟨rows, hrows, hreach⟩ := ih (row :: done) fun r hr => h r (List.mem_cons_of_mem _ hr)
    refine ⟨rows, fun r => ?_, .step (hnext row todo done (h row (List.mem_cons_self ..))) hreach⟩
    rw [hrows r, List.mem_cons, List.mem_cons]
    tauto

/-- The steps of one process are those of another that stands elsewhere. -/
theorem Reaches.map {τ' : Type} {next : σ → τ → Option (σ × τ)} {next' : σ → τ' → Option (σ × τ')}
    (f : τ → τ') (hnext : ∀ s t s' t', next s t = some (s', t') → next' s (f t) = some (s', f t'))
    {s s' : σ} {t t' : τ} (h : Reaches next s t s' t') : Reaches next' s (f t) s' (f t') := by
  induction h with
  | refl s t => exact .refl s (f t)
  | step hstep _ ih => exact .step (hnext _ _ _ _ hstep) ih

/-- The only process is never blocked. -/
theorem reaches_turns {proc : Process σ τ κ} {s s' : σ} {t t' : τ}
    (h : Reaches proc.next s t s' t') :
    ∃ n, run.after (step (lockStep fun _ : Unit => proc)) ⟨s, fun _ => t⟩ (List.replicate n ()) =
      ⟨s', fun _ => t'⟩ := by
  induction h with
  | refl s t => exact ⟨0, rfl⟩
  | @step s s' s'' t t' t'' hnext _ ih =>
    obtain ⟨n, hn⟩ := ih
    refine ⟨n + 1, ?_⟩
    have hfree : ¬ Blocked (fun _ : Unit => proc) ⟨s, fun _ => t⟩ () := by
      rintro ⟨j, hj, _⟩
      exact hj rfl
    have hmove : lockStep (fun _ : Unit => proc) () ⟨s, fun _ => t⟩ = some (s', t') := by
      rw [lockStep_eq hfree]
      exact hnext
    have hturn : step (lockStep fun _ : Unit => proc) ⟨s, fun _ => t⟩ () = ⟨s', fun _ => t'⟩ := by
      rw [step_of_some hmove]
      unfold State.move
      congr 1
    rw [List.replicate_succ', run.after_append]
    simp only [run.after_cons, run.after_nil]
    rw [hturn, hn]

/-! ## Exclusion -/

/-- No two processes hold one lock. -/
def Exclusive (procs : ι → Process σ τ κ) (g : State ι σ τ) : Prop :=
  ∀ i j, ∀ l ∈ (procs i).holds (g.locals i), l ∈ (procs j).holds (g.locals j) → i = j

omit [Fintype ι] [DecidableEq ι] [DecidableEq κ] in
theorem Exclusive.start (h : ∀ i, (procs i).holds (g.locals i) = []) : Exclusive procs g := by
  intro i j l hl
  rw [h i] at hl
  cases hl

/-- What the process holds after its move, no other process holds. -/
theorem Exclusive.sole (h : Exclusive procs g) {p : σ × τ} (hp : lockStep procs i g = some p)
    {l : κ} (hl : l ∈ (procs i).holds p.2) {j : ι} (hj : l ∈ (procs j).holds (g.locals j)) :
    j = i := by
  obtain ⟨hfree, hnext⟩ := lockStep_some hp
  by_contra hne
  rcases (procs i).acquires _ _ p hnext l hl with hheld | hwanted
  · exact hne (h j i l hj hheld)
  · exact hfree ⟨j, hne, l, hj, hwanted⟩

theorem Exclusive.move (h : Exclusive procs g) {p : σ × τ} (hp : lockStep procs i g = some p) :
    Exclusive procs (g.move i p) := by
  intro a b l ha hb
  by_cases hai : a = i
  · by_cases hbi : b = i
    · rw [hai, hbi]
    · rw [hai, move_self] at ha
      rw [move_other hbi] at hb
      rw [hai, h.sole hp ha hb]
  · rw [move_other hai] at ha
    by_cases hbi : b = i
    · rw [hbi, move_self] at hb
      rw [hbi, h.sole hp hb ha]
    · rw [move_other hbi] at hb
      exact h a b l ha hb

/-! ## Progress -/

/-- The levels of the locks order them: a process waits only for a lock above
all those that it holds, and it is not at its end while it holds one. -/
structure Ordered (procs : ι → Process σ τ κ) (level : κ → Nat) (top : Nat) : Prop where
  bounded : ∀ l, level l ≤ top
  upward : ∀ i t l, (procs i).wants t = some l → ∀ m ∈ (procs i).holds t, level m < level l
  unfinished : ∀ i s t, (procs i).holds t ≠ [] → (procs i).next s t ≠ none

/-- The chain of processes that wait for each other goes up, so it ends at one
that can move. -/
theorem Ordered.holder_moves {level : κ → Nat} {top : Nat} (h : Ordered procs level top) (n : Nat) :
    ∀ j, ∀ l ∈ (procs j).holds (g.locals j), top ≤ level l + n → ∃ k, lockStep procs k g ≠ none := by
  induction n with
  | zero =>
    intro j l hl htop
    refine ⟨j, ?_⟩
    rw [lockStep_eq]
    · exact h.unfinished j _ _ (List.ne_nil_of_mem hl)
    · rintro ⟨_, _, m, _, hm⟩
      have hup := h.upward j _ m hm l hl
      have hbound := h.bounded m
      omega
  | succ n ih =>
    intro j l hl htop
    by_cases hb : Blocked procs g j
    · obtain ⟨k, _, m, hm, hwants⟩ := hb
      have hup := h.upward j _ m hwants l hl
      exact ih k m hm (by omega)
    · refine ⟨j, ?_⟩
      rw [lockStep_eq hb]
      exact h.unfinished j _ _ (List.ne_nil_of_mem hl)

/-- As long as some process is not at its end, some process can move. -/
theorem Ordered.progress {level : κ → Nat} {top : Nat} (h : Ordered procs level top)
    (hi : (procs i).next g.shared (g.locals i) ≠ none) : ∃ j, lockStep procs j g ≠ none := by
  by_cases hb : Blocked procs g i
  · obtain ⟨k, _, l, hl, _⟩ := hb
    exact h.holder_moves top k l hl (by omega)
  · refine ⟨i, ?_⟩
    rw [lockStep_eq hb]
    exact hi

/-- Processes that order their locks, and that come to an end each by itself
from every place that it can be at, come to an end together. -/
theorem Ordered.can_finish {level : κ → Nat} {top : Nat} (h : Ordered procs level top)
    (at_place : ι → τ → Prop) {done : τ → Prop} (rank : τ → Nat)
    (hstays : ∀ i s t p, at_place i t → (procs i).next s t = some p → at_place i p.2)
    (hrank : ∀ i s t p, (procs i).next s t = some p → rank p.2 < rank t)
    (hdone : ∀ i s t, at_place i t → ¬ done t → (procs i).next s t ≠ none) (g : State ι σ τ)
    (hg : ∀ i, at_place i (g.locals i)) :
    ∃ turns, ∀ i, done ((run.after (step (lockStep procs)) g turns).locals i) := by
  refine interleave.can_finish (I := fun g => ∀ i, at_place i (g.locals i)) rank ?_ ?_ ?_ g hg
  · intro g i p hg hp j
    by_cases hji : j = i
    · rw [hji, move_self]
      exact hstays i _ _ p (hg i) (lockStep_some hp).2
    · rw [move_other hji]
      exact hg j
  · intro g i p hp
    exact hrank i _ _ p (lockStep_some hp).2
  · intro g hg i hi
    exact h.progress (hdone i _ _ (hg i) hi)

end interleave

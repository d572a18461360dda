-- Processes that take turns on one shared state. A process that waits for
-- another, or that is finished, does not move when its turn comes, so every
-- list of turns is a run.
import Mathlib.Algebra.Order.BigOperators.Group.Finset
import Mathlib.Data.Fintype.Basic
import PulseForge.Lib.Run

namespace interleave

/-- The shared state, and where each process stands. -/
structure State (ι σ τ : Type) where
  shared : σ
  locals : ι → τ

variable {ι σ τ : Type} [DecidableEq ι]

/-- The turn of a process: the new shared state and where it stands then, or
nothing when it cannot move. -/
abbrev Act (ι σ τ : Type) := ι → State ι σ τ → Option (σ × τ)

/-- The state after the process moved. -/
def State.move (g : State ι σ τ) (i : ι) (p : σ × τ) : State ι σ τ :=
  ⟨p.1, Function.update g.locals i p.2⟩

def step (act : Act ι σ τ) (g : State ι σ τ) (i : ι) : State ι σ τ :=
  match act i g with
  | none => g
  | some p => g.move i p

section
variable {act : Act ι σ τ} {g : State ι σ τ} {i : ι}

@[simp] theorem move_shared (p : σ × τ) : (g.move i p).shared = p.1 := rfl

@[simp] theorem move_self (p : σ × τ) : (g.move i p).locals i = p.2 := by
  simp [State.move]

@[simp] theorem move_other {j : ι} (h : j ≠ i) (p : σ × τ) :
    (g.move i p).locals j = g.locals j := by
  simp [State.move, h]

theorem step_of_none (h : act i g = none) : step act g i = g := by
  unfold step
  rw [h]

theorem step_of_some {p : σ × τ} (h : act i g = some p) : step act g i = g.move i p := by
  unfold step
  rw [h]

/-- A turn changes nothing, or it is a move of the process. -/
theorem step_cases (act : Act ι σ τ) (g : State ι σ τ) (i : ι) :
    step act g i = g ∨ ∃ p, act i g = some p ∧ step act g i = g.move i p := by
  cases h : act i g with
  | none => exact Or.inl (step_of_none h)
  | some p => exact Or.inr ⟨p, rfl, step_of_some h⟩

end

/-- What holds at the start and what every move keeps holds after every run. -/
theorem invariant {act : Act ι σ τ} {start : State ι σ τ} {I : State ι σ τ → Prop} (h0 : I start)
    (hmove : ∀ g i p, I g → act i g = some p → I (g.move i p)) (turns : List ι) :
    I (run.after (step act) start turns) := by
  have hall : run.Every (step act) start (fun _ _ => True) turns :=
    run.Every.of_all (fun _ _ => trivial) turns
  refine run.Every.inv h0 ?_ hall
  intro g i _ hg
  rcases step_cases act g i with heq | ⟨p, hp, heq⟩
  · rw [heq]
    exact hg
  · rw [heq]
    exact hmove g i p hg hp

/-- As long as some process is not done, some process can move, and every move
brings its process nearer to its end: then the run can be brought to an end. -/
theorem can_finish [Fintype ι] {act : Act ι σ τ} {I : State ι σ τ → Prop} {done : τ → Prop}
    (rank : τ → Nat) (hmove : ∀ g i p, I g → act i g = some p → I (g.move i p))
    (hrank : ∀ g i p, act i g = some p → rank p.2 < rank (g.locals i))
    (hprogress : ∀ g, I g → ∀ i, ¬ done (g.locals i) → ∃ j, act j g ≠ none)
    (g : State ι σ τ) (hg : I g) :
    ∃ turns, ∀ i, done ((run.after (step act) g turns).locals i) := by
  generalize hn : (∑ i, rank (g.locals i)) = n
  induction n using Nat.strong_induction_on generalizing g with
  | _ n ih =>
    by_cases hall : ∀ i, done (g.locals i)
    · exact ⟨[], hall⟩
    · obtain ⟨i, hi⟩ := not_forall.mp hall
      obtain ⟨j, hj⟩ := hprogress g hg i hi
      obtain ⟨p, hp⟩ := Option.ne_none_iff_exists'.mp hj
      have hless : (∑ k, rank ((g.move j p).locals k)) < n := by
        rw [← hn]
        refine Finset.sum_lt_sum ?_ ⟨j, Finset.mem_univ j, ?_⟩
        · intro k _
          by_cases hk : k = j
          · subst hk
            rw [move_self]
            exact (hrank g k p hp).le
          · rw [move_other hk]
        · rw [move_self]
          exact hrank g j p hp
      obtain ⟨turns, hturns⟩ := ih _ hless (g.move j p) (hmove g j p hg hp) rfl
      refine ⟨turns ++ [j], ?_⟩
      rw [run.after_append, run.after_cons, run.after_nil, step_of_some hp]
      exact hturns

end interleave

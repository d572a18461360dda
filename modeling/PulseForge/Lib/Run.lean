-- Runs of a system, as the list of its inputs, newest first: the state that a
-- past leads to, what every step of it meets, the rules of induction, and a part
-- of a run beside the whole.
import Mathlib.Data.List.Infix
import Mathlib.Logic.Basic

namespace run

variable {σ ι : Type}

section
variable (step : σ → ι → σ) (start : σ)

/-- The state after a past. -/
def after : List ι → σ
  | [] => start
  | i :: past => step (after past) i

/-- Every step of the past was taken from a state with `ok`. -/
def Every (ok : σ → ι → Prop) : List ι → Prop
  | [] => True
  | i :: past => Every ok past ∧ ok (after step start past) i

instance decidableEvery (ok : σ → ι → Prop) [∀ s i, Decidable (ok s i)] :
    (past : List ι) → Decidable (Every step start ok past)
  | [] => .isTrue trivial
  | _ :: past =>
    haveI := decidableEvery ok past
    inferInstanceAs (Decidable (_ ∧ _))

/-- Some step of the past was taken from a state with `ok`. -/
def Some (ok : σ → ι → Prop) : List ι → Prop
  | [] => False
  | i :: past => Some ok past ∨ ok (after step start past) i

/-- The condition held at some moment of the past, or holds now. -/
def Once (P : σ → Prop) (past : List ι) : Prop :=
  ∃ before, before <:+ past ∧ P (after step start before)

/-- Every step of the past meets a condition on the steps before it. -/
def Each (ok : List ι → ι → Prop) : List ι → Prop
  | [] => True
  | i :: past => Each ok past ∧ ok past i

instance decidableEach (ok : List ι → ι → Prop) [∀ past i, Decidable (ok past i)] :
    (past : List ι) → Decidable (Each ok past)
  | [] => .isTrue trivial
  | _ :: past =>
    haveI := decidableEach ok past
    inferInstanceAs (Decidable (_ ∧ _))

@[simp] theorem after_nil : after step start [] = start := rfl

@[simp] theorem after_cons (i : ι) (past : List ι) :
    after step start (i :: past) = step (after step start past) i := rfl

theorem after_append (past later : List ι) :
    after step start (later ++ past) = after step (after step start past) later := by
  induction later with
  | nil => rfl
  | cons i later ih =>
    rw [List.cons_append, after_cons, ih]
    rfl

end

variable {step : σ → ι → σ} {start : σ}

theorem Once.now {P : σ → Prop} {past : List ι} (h : P (after step start past)) :
    Once step start P past :=
  ⟨past, List.suffix_refl past, h⟩

theorem Once.later {P : σ → Prop} {past : List ι} (h : Once step start P past) (i : ι) :
    Once step start P (i :: past) := by
  obtain ⟨before, hsuffix, hP⟩ := h
  exact ⟨before, hsuffix.trans (List.suffix_cons i past), hP⟩

theorem Once.imp {P Q : σ → Prop} {past : List ι} (h : Once step start P past)
    (hPQ : ∀ s, P s → Q s) : Once step start Q past := by
  obtain ⟨before, hsuffix, hP⟩ := h
  exact ⟨before, hsuffix, hPQ _ hP⟩

/-- What holds at the start and what an allowed step keeps holds after every
run of allowed steps. -/
theorem Every.inv {ok : σ → ι → Prop} {I : σ → Prop} (h0 : I start)
    (hs : ∀ s i, ok s i → I s → I (step s i)) {past : List ι} (h : Every step start ok past) :
    I (after step start past) := by
  induction past with
  | nil => exact h0
  | cons i past ih => exact hs _ _ h.2 (ih h.1)

theorem every_append {ok : σ → ι → Prop} (past later : List ι) :
    Every step start ok (later ++ past) ↔
      Every step start ok past ∧ Every step (after step start past) ok later := by
  induction later with
  | nil => exact (and_iff_left trivial).symm
  | cons i later ih =>
    rw [List.cons_append, Every, ih, after_append, and_assoc]
    rfl

/-- A run with a step that was not allowed. -/
theorem exists_of_not_every {ok : σ → ι → Prop} {past : List ι} (h : ¬ Every step start ok past) :
    ∃ later i before, past = later ++ i :: before ∧ ¬ ok (after step start before) i := by
  induction past with
  | nil => exact absurd trivial h
  | cons i past ih =>
    by_cases hpast : Every step start ok past
    · exact ⟨[], i, past, rfl, fun hok => h ⟨hpast, hok⟩⟩
    · obtain ⟨later, j, before, heq, hnot⟩ := ih hpast
      exact ⟨i :: later, j, before, by rw [heq, List.cons_append], hnot⟩

theorem Every.mono {P Q : σ → ι → Prop} (h : ∀ s i, P s i → Q s i) {past : List ι}
    (hP : Every step start P past) : Every step start Q past := by
  induction past with
  | nil => trivial
  | cons i past ih => exact ⟨ih hP.1, h _ _ hP.2⟩

theorem Every.of_all {P : σ → ι → Prop} (h : ∀ s i, P s i) (past : List ι) :
    Every step start P past := by
  induction past with
  | nil => trivial
  | cons i past ih => exact ⟨ih, h _ _⟩

theorem Every.and {P Q : σ → ι → Prop} {past : List ι} (hP : Every step start P past)
    (hQ : Every step start Q past) : Every step start (fun s i => P s i ∧ Q s i) past := by
  induction past with
  | nil => trivial
  | cons i past ih => exact ⟨ih hP.1 hQ.1, hP.2, hQ.2⟩

/-- Two conditions on steps that agree as long as one of them was met agree on
every run. -/
theorem every_iff {P Q : σ → ι → Prop} {I : σ → Prop} (h0 : I start)
    (hs : ∀ s i, I s → Q s i → I (step s i)) (h : ∀ s i, I s → (P s i ↔ Q s i)) (past : List ι) :
    Every step start P past ↔ Every step start Q past := by
  suffices hboth : (Every step start P past ↔ Every step start Q past) ∧
      (Every step start Q past → I (after step start past)) from hboth.1
  induction past with
  | nil => exact ⟨Iff.rfl, fun _ => h0⟩
  | cons i past ih =>
    obtain ⟨hiff, hI⟩ := ih
    constructor
    · constructor
      · rintro ⟨hp, hstep⟩
        have hq := hiff.mp hp
        exact ⟨hq, (h _ _ (hI hq)).mp hstep⟩
      · rintro ⟨hq, hstep⟩
        exact ⟨hiff.mpr hq, (h _ _ (hI hq)).mpr hstep⟩
    · rintro ⟨hq, hstep⟩
      exact hs _ _ (hI hq) hstep

/-- The same, where every step of the run meets an assumption. -/
theorem every_iff_assuming {A P Q : σ → ι → Prop} {I : σ → Prop} (h0 : I start)
    (hs : ∀ s i, I s → A s i → Q s i → I (step s i))
    (h : ∀ s i, I s → A s i → (P s i ↔ Q s i)) {past : List ι} (hA : Every step start A past) :
    Every step start P past ↔ Every step start Q past := by
  have hboth : Every step start (fun s i => A s i ∧ P s i) past ↔
      Every step start (fun s i => A s i ∧ Q s i) past := by
    refine every_iff h0 (fun s i hI hq => hs s i hI hq.1 hq.2) (fun s i hI => ?_) past
    exact and_congr_right (h s i hI)
  constructor
  · intro hP
    exact (hboth.mp (hA.and hP)).mono fun _ _ hq => hq.2
  · intro hQ
    exact (hboth.mpr (hA.and hQ)).mono fun _ _ hp => hp.2

theorem Each.mono {P Q : List ι → ι → Prop} (h : ∀ past i, P past i → Q past i) {past : List ι}
    (hP : Each P past) : Each Q past := by
  induction past with
  | nil => trivial
  | cons i past ih => exact ⟨ih hP.1, h _ _ hP.2⟩

theorem Each.earlier {P : List ι → ι → Prop} {past before : List ι} (hP : Each P past)
    (h : before <:+ past) : Each P before := by
  induction past with
  | nil => rwa [List.suffix_nil.mp h]
  | cons i past ih =>
    rcases List.suffix_cons_iff.mp h with rfl | h
    · exact hP
    · exact ih hP.1 h

/-- A condition on the states that steps are taken from, as one on the steps
before them: it is enough that they agree after steps that met the first. -/
theorem every_iff_each_while {P : σ → ι → Prop} {Q : List ι → ι → Prop}
    (h : ∀ past i, Every step start P past → (P (after step start past) i ↔ Q past i))
    (past : List ι) : Every step start P past ↔ Each Q past := by
  induction past with
  | nil => exact Iff.rfl
  | cons i past ih =>
    constructor
    · rintro ⟨hpast, hi⟩
      exact ⟨ih.mp hpast, (h past i hpast).mp hi⟩
    · rintro ⟨hpast, hi⟩
      have hevery := ih.mpr hpast
      exact ⟨hevery, (h past i hevery).mpr hi⟩

theorem every_iff_each {P : σ → ι → Prop} {Q : List ι → ι → Prop}
    (h : ∀ past i, P (after step start past) i ↔ Q past i) (past : List ι) :
    Every step start P past ↔ Each Q past :=
  every_iff_each_while (fun past i _ => h past i) past

/-! ## A part of a run -/

section
variable {τ κ : Type} {start' : τ} {step' : τ → κ → τ}

/-- The steps that `keep` takes from a past, each as what it becomes there. -/
def part (step : σ → ι → σ) (start : σ) (keep : σ → ι → Option κ) : List ι → List κ
  | [] => []
  | i :: past =>
    match keep (after step start past) i with
    | some j => j :: part step start keep past
    | none => part step start keep past

/-- Two systems stay related, the one through a whole run and the other through
the part of it: a step that is taken keeps them related, and so does the other
one alone where a step is left out. -/
theorem part_related {R : σ → τ → Prop} {ok : σ → ι → Prop} {keep : σ → ι → Option κ}
    (h0 : R start start')
    (htaken : ∀ past i j t, Every step start ok past → ok (after step start past) i →
      R (after step start past) t → keep (after step start past) i = some j →
      R (step (after step start past) i) (step' t j))
    (hleft : ∀ past i t, Every step start ok past → ok (after step start past) i →
      R (after step start past) t → keep (after step start past) i = none →
      R (step (after step start past) i) t)
    {past : List ι} (hok : Every step start ok past) :
    R (after step start past) (after step' start' (part step start keep past)) := by
  induction past with
  | nil => exact h0
  | cons i past ih =>
    have ih := ih hok.1
    rw [after_cons, part]
    cases hkeep : keep (after step start past) i with
    | none => exact hleft past i _ hok.1 hok.2 ih hkeep
    | some j => exact htaken past i j _ hok.1 hok.2 ih hkeep

end

end run

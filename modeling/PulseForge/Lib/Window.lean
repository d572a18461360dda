-- Entries with a time, and the intervals of one width that many of them lie
-- in. In a chronological list the last entry decides by the interval that ends
-- at its own time.
import Mathlib.Data.List.Basic

namespace window

variable {α : Type} (time : α → Int) (width : Int)

/-- The times do not go back. -/
def Chronological (l : List α) : Prop := l.Pairwise fun a b => time a ≤ time b

instance (l : List α) : Decidable (Chronological time l) :=
  inferInstanceAs (Decidable (l.Pairwise fun a b => time a ≤ time b))

/-- The entry lies in the closed interval of the width that begins at `a`. -/
def within (a : Int) (x : α) : Bool := decide (a ≤ time x) && decide (time x ≤ a + width)

/-- Some closed interval of the width holds `n` entries. -/
def Crowded (n : Nat) (l : List α) : Prop := ∃ a, n ≤ (l.filter (within time width a)).length

variable {time : α → Int} {width : Int} {n : Nat}

theorem Crowded.append {l : List α} (h : Crowded time width n l) (later : List α) :
    Crowded time width n (l ++ later) := by
  obtain ⟨a, ha⟩ := h
  refine ⟨a, ?_⟩
  rw [List.filter_append, List.length_append]
  omega

theorem not_crowded_nil (hn : 0 < n) : ¬ Crowded time width n ([] : List α) := by
  rintro ⟨a, ha⟩
  rw [List.filter_nil, List.length_nil] at ha
  omega

theorem Chronological.le_last {l : List α} {x : α} (h : Chronological time (l ++ [x])) :
    ∀ y ∈ l ++ [x], time y ≤ time x := by
  intro y hy
  rcases List.mem_append.mp hy with hy | hy
  · exact (List.pairwise_append.mp h).2.2 y hy x (List.mem_singleton.mpr rfl)
  · obtain rfl := List.mem_singleton.mp hy
    exact Int.le_refl _

theorem Chronological.init {l later : List α} (h : Chronological time (l ++ later)) :
    Chronological time l := (List.pairwise_append.mp h).1

/-- In a chronological list the interval that ends at the last entry is all the
entries from its start on. -/
theorem Chronological.filter_within_last {l : List α} {x : α} (h : Chronological time (l ++ [x])) :
    (l ++ [x]).filter (within time width (time x - width)) =
      (l ++ [x]).filter fun y => decide (time x - width ≤ time y) := by
  refine List.filter_congr fun y hy => ?_
  have hle := h.le_last y hy
  unfold within
  rw [Bool.eq_iff_iff]
  simp only [Bool.and_eq_true, decide_eq_true_eq]
  omega

/-- The last entry of a chronological list crowds it, or it was crowded before. -/
theorem crowded_snoc_iff {l : List α} {x : α} (h : Chronological time (l ++ [x])) :
    Crowded time width n (l ++ [x]) ↔ Crowded time width n l ∨
      n ≤ ((l ++ [x]).filter (within time width (time x - width))).length := by
  constructor
  · rintro ⟨a, ha⟩
    by_cases hx : within time width a x = true
    · refine Or.inr (Nat.le_trans ha ?_)
      simp only [← List.countP_eq_length_filter]
      refine List.countP_mono_left fun y hy hya => ?_
      have hle := h.le_last y hy
      simp only [within, Bool.and_eq_true, decide_eq_true_eq] at hx hya ⊢
      omega
    · refine Or.inl ⟨a, ?_⟩
      rwa [List.filter_append, List.filter_cons_of_neg hx, List.filter_nil, List.append_nil] at ha
  · rintro (hl | hlast)
    · exact hl.append [x]
    · exact ⟨_, hlast⟩

end window

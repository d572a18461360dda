-- Times in a sliding window: what of a list of times is later than a cutoff,
-- and how a list that is in order is cut to it from its front.
import Mathlib.Data.List.Basic
import Mathlib.Data.List.TakeWhile
import Mathlib.Order.Lattice

namespace sliding

variable {τ : Type} [LinearOrder τ]

/-- The times after the cutoff. -/
def since (cutoff : τ) (times : List τ) : List τ := times.filter fun t => cutoff < t

@[simp] theorem since_nil (cutoff : τ) : since cutoff [] = [] := rfl

theorem since_append (cutoff : τ) (times later : List τ) :
    since cutoff (times ++ later) = since cutoff times ++ since cutoff later :=
  List.filter_append _ _

/-- What an earlier cutoff leaves over, a later one cuts the same. -/
theorem since_since {early late : τ} (h : early ≤ late) (times : List τ) :
    since late (since early times) = since late times := by
  unfold since
  rw [List.filter_filter]
  refine List.filter_congr fun t _ => ?_
  by_cases hlate : late < t
  · simp [hlate, lt_of_le_of_lt h hlate]
  · simp [hlate]

/-- Where the times are in order, cutting from the front is cutting. -/
theorem dropWhile_eq_since {times : List τ} (h : times.Pairwise (· ≤ ·)) (cutoff : τ) :
    times.dropWhile (fun t => t ≤ cutoff) = since cutoff times := by
  induction times with
  | nil => rfl
  | cons t times ih =>
    obtain ⟨hfirst, hrest⟩ := List.pairwise_cons.mp h
    by_cases ht : t ≤ cutoff
    · rw [List.dropWhile_cons_of_pos (by simpa using ht), ih hrest]
      simp [since, ht]
    · have hall : ∀ x ∈ t :: times, cutoff < x := by
        intro x hx
        rcases List.mem_cons.mp hx with rfl | hx
        · exact lt_of_not_ge ht
        · exact lt_of_lt_of_le (lt_of_not_ge ht) (hfirst x hx)
      rw [List.dropWhile_cons_of_neg (by simpa using ht)]
      exact (List.filter_eq_self.mpr fun x hx => by simpa using hall x hx).symm

/-- The front that is dropped has no time of a kind that stays. -/
theorem count_dropWhile {α : Type} [DecidableEq α] {p : α → Bool} {t : α} (times : List α)
    (h : p t = false) : (times.dropWhile p).count t = times.count t := by
  have hfront : (times.takeWhile p).count t = 0 := by
    refine List.count_eq_zero_of_not_mem fun hmem => ?_
    rw [List.mem_takeWhile_imp hmem] at h
    cases h
  calc (times.dropWhile p).count t
      = (times.takeWhile p).count t + (times.dropWhile p).count t := by rw [hfront, Nat.zero_add]
    _ = times.count t := by rw [← List.count_append, List.takeWhile_append_dropWhile]

/-- Nothing is after the cutoff when the last time is not. -/
theorem since_eq_nil {times : List τ} (h : times.Pairwise (· ≤ ·)) {last cutoff : τ}
    (hlast : times.getLast? = some last) (hle : last ≤ cutoff) : since cutoff times = [] := by
  obtain ⟨front, rfl⟩ := List.getLast?_eq_some_iff.mp hlast
  refine List.filter_eq_nil_iff.mpr fun t ht => ?_
  have htlast : t ≤ last := by
    rcases List.mem_append.mp ht with ht | ht
    · exact (List.pairwise_append.mp h).2.2 t ht last (List.mem_singleton.mpr rfl)
    · exact le_of_eq (List.mem_singleton.mp ht)
  simpa using le_trans htlast hle

/-- A time that is not before the others goes to the end. -/
theorem pairwise_snoc {times : List τ} (h : times.Pairwise (· ≤ ·)) {now : τ}
    (hnow : ∀ t ∈ times, t ≤ now) : (times ++ [now]).Pairwise (· ≤ ·) := by
  refine List.pairwise_append.mpr ⟨h, List.pairwise_singleton _ _, ?_⟩
  intro t ht x hx
  obtain rfl := List.mem_singleton.mp hx
  exact hnow t ht

/-- From a cutoff that has reached the oldest of the times, that one is gone. -/
theorem since_length_lt {times rest : List τ} {early late oldest : τ} (hle : early ≤ late)
    (h : since early times = oldest :: rest) (hold : oldest ≤ late) :
    (since late times).length ≤ rest.length := by
  have hgone : since late (oldest :: rest) = since late rest := by
    simp [since, not_lt.mpr hold]
  rw [← since_since hle times, h, hgone]
  exact List.length_filter_le _ _

/-- A cutoff before the oldest of the times takes none of them. -/
theorem since_length_le {times rest : List τ} {early late oldest : τ} (hord : times.Pairwise (· ≤ ·))
    (h : since early times = oldest :: rest) (hold : late < oldest) :
    (oldest :: rest).length ≤ (since late times).length := by
  have hpair : (oldest :: rest).Pairwise (· ≤ ·) := h ▸ hord.filter _
  have hall : ∀ t ∈ oldest :: rest, late < t := by
    intro t ht
    rcases List.mem_cons.mp ht with rfl | ht
    · exact hold
    · exact lt_of_lt_of_le hold ((List.pairwise_cons.mp hpair).1 t ht)
  have hsub : (oldest :: rest).Sublist times := h ▸ List.filter_sublist
  have hself : since late (oldest :: rest) = oldest :: rest :=
    List.filter_eq_self.mpr fun t ht => by simpa using hall t ht
  rw [← hself]
  exact (hsub.filter _).length_le

end sliding

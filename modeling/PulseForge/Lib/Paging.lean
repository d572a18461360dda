-- Pages of a listing: rows that are listed by a key, largest first, and read in
-- pages of one size, each with a query of its own that may list rows with one key
-- in another order. The pages have every row once exactly if no page ends between
-- two rows with one key.
import Mathlib.Data.List.Sort
import Mathlib.Data.List.Perm.Basic
import Mathlib.Data.List.Nodup

namespace paging

variable {α κ : Type} [LinearOrder κ]

/-- A listing of rows by key, largest first. Rows with one key come in any order. -/
structure Listing (key : α → κ) (rows listed : List α) : Prop where
  perm : listed.Perm rows
  ordered : listed.Pairwise fun a b => key b ≤ key a

/-- Page `k` of a listing. -/
def pageOf (size k : Nat) (listed : List α) : List α := (listed.drop (k * size)).take size

/-- The first `n` pages, each of its own listing. -/
def pages (size n : Nat) (listings : Nat → List α) : List α :=
  (List.range n).flatMap fun k => pageOf size k (listings k)

/-- The number of rows with a larger key. -/
def larger (key : α → κ) (rows : List α) (t : κ) : Nat := rows.countP fun a => t < key a

/-- The number of rows with this key or a larger one. -/
def notSmaller (key : α → κ) (rows : List α) (t : κ) : Nat := rows.countP fun a => t ≤ key a

/-- No page ends between two rows with one key. -/
def EndsBetweenKeys (key : α → κ) (rows : List α) (size : Nat) : Prop :=
  ∀ t k, ¬ (larger key rows t < k * size ∧ k * size < notSmaller key rows t)

section
variable {key : α → κ} {rows listed : List α} {size k i n : Nat}

theorem Listing.larger (h : Listing key rows listed) (t : κ) :
    larger key listed t = larger key rows t := h.perm.countP_eq _

theorem Listing.notSmaller (h : Listing key rows listed) (t : κ) :
    notSmaller key listed t = notSmaller key rows t := h.perm.countP_eq _

/-- Where the rows with `p` come first, `p` holds up to their number. -/
theorem lt_countP_iff {p : α → Bool} (h : listed.Pairwise fun a b => p b = true → p a = true)
    (hi : i < listed.length) : i < listed.countP p ↔ p listed[i] = true := by
  induction listed generalizing i with
  | nil => simp at hi
  | cons a listed ih =>
    obtain ⟨hfirst, hrest⟩ := List.pairwise_cons.mp h
    by_cases ha : p a = true
    · rw [List.countP_cons_of_pos ha]
      cases i with
      | zero => simp [ha]
      | succ i =>
        rw [Nat.add_lt_add_iff_right, List.getElem_cons_succ]
        exact ih hrest (by simpa using hi)
    · have hnone : (a :: listed).countP p = 0 := by
        rw [List.countP_eq_zero]
        intro b hb
        rcases List.mem_cons.mp hb with rfl | hb
        · exact ha
        · exact fun hp => ha (hfirst b hb hp)
      have hnot : ¬ p (a :: listed)[i] = true := by
        intro hp
        exact List.countP_eq_zero.mp hnone _ (List.getElem_mem hi) hp
      simp [hnone, hnot]

theorem Listing.lt_larger_iff (h : Listing key rows listed) (hi : i < listed.length) (t : κ) :
    i < paging.larger key rows t ↔ t < key listed[i] := by
  rw [← h.larger t]
  unfold paging.larger
  rw [lt_countP_iff (h.ordered.imp fun hle => ?_) hi, decide_eq_true_iff]
  simpa using fun hlt => hlt.trans_le hle

theorem Listing.lt_notSmaller_iff (h : Listing key rows listed) (hi : i < listed.length) (t : κ) :
    i < paging.notSmaller key rows t ↔ t ≤ key listed[i] := by
  rw [← h.notSmaller t]
  unfold paging.notSmaller
  rw [lt_countP_iff (h.ordered.imp fun hle => ?_) hi, decide_eq_true_iff]
  simpa using fun hlt => hlt.trans hle

/-! ## Pages that end between keys -/

/-- A page has rows of its listing only. -/
theorem mem_pages {listings : Nat → List α} {a : α} (h : a ∈ pages size n listings) :
    ∃ k, a ∈ listings k := by
  obtain ⟨k, _, hk⟩ := List.mem_flatMap.mp h
  exact ⟨k, List.mem_of_mem_drop (List.mem_of_mem_take hk)⟩

/-- Rows that know the page they are on make up that page. -/
theorem pageOf_eq_filter {number : α → Nat} (hsize : 0 < size)
    (h : ∀ (i : Nat) (hi : i < listed.length), number listed[i] = i / size) (k : Nat) :
    pageOf size k listed = listed.filter fun a => number a = k := by
  have hsplit : listed = listed.take (k * size) ++
      (pageOf size k listed ++ (listed.drop (k * size)).drop size) := by
    rw [pageOf, List.take_append_drop, List.take_append_drop]
  have hbefore : (listed.take (k * size)).filter (fun a => number a = k) = [] := by
    rw [List.filter_eq_nil_iff]
    intro a ha
    obtain ⟨i, hi, rfl⟩ := List.mem_take_iff_getElem.mp ha
    have hlt : i / size < k := (Nat.div_lt_iff_lt_mul hsize).mpr (by omega)
    simp [h i (by omega), hlt.ne]
  have hpage : (pageOf size k listed).filter (fun a => number a = k) = pageOf size k listed := by
    rw [List.filter_eq_self]
    intro a ha
    obtain ⟨i, hi, rfl⟩ := List.mem_take_iff_getElem.mp ha
    rw [List.length_drop] at hi
    rw [List.getElem_drop, h _ (by omega), decide_eq_true_iff]
    rw [Nat.mul_comm, Nat.mul_add_div hsize, Nat.div_eq_of_lt (by omega), Nat.add_zero]
  have hafter : ((listed.drop (k * size)).drop size).filter (fun a => number a = k) = [] := by
    rw [List.filter_eq_nil_iff, List.drop_drop]
    intro a ha
    obtain ⟨i, hi, rfl⟩ := List.mem_drop_iff_getElem.mp ha
    have hlt : k < (k * size + size + i) / size := by
      rw [← Nat.succ_le_iff, Nat.le_div_iff_mul_le hsize, Nat.succ_mul]
      omega
    rw [h _ (by omega), decide_eq_true_iff]
    exact hlt.ne'
  conv_rhs => rw [hsplit]
  rw [List.filter_append, List.filter_append, hbefore, hpage, hafter, List.nil_append,
    List.append_nil]

/-- The rows of the first `n` of the classes `0, 1, ..`, class by class. -/
theorem classes_perm (number : α → Nat) (rows : List α) (n : Nat) :
    ((List.range n).flatMap fun k => rows.filter fun a => number a = k).Perm
      (rows.filter fun a => number a < n) := by
  induction n with
  | zero => simp
  | succ n ih =>
    have hsplit := List.filter_append_perm (fun a => decide (number a < n))
      (rows.filter fun a => number a < n + 1)
    simp only [List.filter_filter] at hsplit
    have hbefore : rows.filter (fun a => decide (number a < n) && decide (number a < n + 1)) =
        rows.filter fun a => number a < n := by
      refine List.filter_congr fun a _ => ?_
      rw [Bool.eq_iff_iff]
      simp
      omega
    have hlast : rows.filter (fun a => !decide (number a < n) && decide (number a < n + 1)) =
        rows.filter fun a => number a = n := by
      refine List.filter_congr fun a _ => ?_
      rw [Bool.eq_iff_iff]
      simp
      omega
    rw [hbefore, hlast] at hsplit
    rw [List.range_succ, List.flatMap_append, List.flatMap_singleton]
    exact (ih.append_right _).trans hsplit

/-- The page of a row, by the number of rows with a larger key. -/
def pageNumber (key : α → κ) (rows : List α) (size : Nat) (a : α) : Nat :=
  larger key rows (key a) / size

theorem Listing.pageNumber (h : Listing key rows listed) (hends : EndsBetweenKeys key rows size)
    (hsize : 0 < size) (hi : i < listed.length) :
    paging.pageNumber key rows size listed[i] = i / size := by
  have hbefore : paging.larger key rows (key listed[i]) ≤ i := by
    rw [← Nat.not_lt, h.lt_larger_iff hi]
    exact lt_irrefl _
  have hafter : i < paging.notSmaller key rows (key listed[i]) := (h.lt_notSmaller_iff hi _).mpr le_rfl
  refine (Nat.div_le_div_right hbefore).antisymm (Nat.not_lt.mp fun hlt => ?_)
  refine hends (key listed[i]) (i / size) ⟨?_, ?_⟩
  · exact (Nat.div_lt_iff_lt_mul hsize).mp hlt
  · exact (Nat.div_mul_le_self i size).trans_lt hafter

theorem pages_perm {listings : Nat → List α} (h : ∀ k, Listing key rows (listings k))
    (hends : EndsBetweenKeys key rows size) (hsize : 0 < size) (hn : rows.length ≤ n * size) :
    (pages size n listings).Perm rows := by
  have hpage : ∀ k ∈ List.range n, (pageOf size k (listings k)).Perm
      (rows.filter fun a => paging.pageNumber key rows size a = k) := by
    intro k _
    rw [pageOf_eq_filter hsize (fun i hi => (h k).pageNumber hends hsize hi) k]
    exact (h k).perm.filter _
  have hall : rows.filter (fun a => paging.pageNumber key rows size a < n) = rows := by
    rw [List.filter_eq_self]
    intro a ha
    obtain ⟨i, hi, rfl⟩ := List.getElem_of_mem ((h 0).perm.mem_iff.mpr ha)
    rw [decide_eq_true_iff, (h 0).pageNumber hends hsize hi, Nat.div_lt_iff_lt_mul hsize]
    have hlength := (h 0).perm.length_eq
    omega
  have hclasses := classes_perm (paging.pageNumber key rows size) rows n
  rw [hall] at hclasses
  exact (List.Perm.flatMap_left _ hpage).trans hclasses

/-! ## A page that ends between two rows with one key -/

/-- Two neighbours with one key may as well come in the other order. -/
theorem Listing.swap {before rest : List α} {a b : α}
    (h : Listing key rows (before ++ a :: b :: rest)) (hkey : key a = key b) :
    Listing key rows (before ++ b :: a :: rest) := by
  refine ⟨((List.Perm.swap a b rest).append_left before).trans h.perm, ?_⟩
  have hordered := h.ordered
  simp only [List.pairwise_append, List.pairwise_cons, List.mem_cons, forall_eq_or_imp] at hordered ⊢
  obtain ⟨hbefore, ⟨⟨_, harest⟩, hbrest, hrest⟩, hcross⟩ := hordered
  refine ⟨hbefore, ⟨⟨hkey.le, hbrest⟩, harest, hrest⟩, fun x hx => ?_⟩
  obtain ⟨hxa, hxb, hxrest⟩ := hcross x hx
  exact ⟨hxb, hxa, hxrest⟩

/-- A row at the end of one page, and first on the next page in another listing. -/
theorem row_on_two_pages {before rest : List α} {a b : α} {k : Nat} (hk : 0 < k)
    (hend : before.length + 1 = k * size) :
    a ∈ pageOf size (k - 1) (before ++ a :: b :: rest) ∧
      a ∈ pageOf size k (before ++ b :: a :: rest) := by
  have hsize : 0 < size := by
    rcases Nat.eq_zero_or_pos size with rfl | hpos
    · simp at hend
    · exact hpos
  have hlast : (k - 1) * size + size = k * size := by
    rw [← Nat.succ_mul, Nat.succ_eq_add_one, Nat.sub_add_cancel hk]
  constructor
  · refine List.mem_take_iff_getElem.mpr ⟨size - 1, ?_, ?_⟩
    · simp only [List.length_drop, List.length_append, List.length_cons]
      omega
    · simp only [List.getElem_drop]
      have hi : (k - 1) * size + (size - 1) = before.length := by omega
      simp [hi]
  · refine List.mem_take_iff_getElem.mpr ⟨0, ?_, ?_⟩
    · simp only [List.length_drop, List.length_append, List.length_cons]
      omega
    · simp only [List.getElem_drop]
      simp [← hend]

/-- Where a page ends between two rows with one key, the two stand side by side. -/
theorem Listing.neighbours (h : Listing key rows listed) {t : κ}
    (hlarger : paging.larger key rows t < k * size)
    (hsmaller : k * size < paging.notSmaller key rows t) :
    ∃ before a b rest, listed = before ++ a :: b :: rest ∧ before.length + 1 = k * size ∧
      key a = key b := by
  have hbound : k * size < listed.length :=
    (hsmaller.trans_le List.countP_le_length).trans_eq h.perm.length_eq.symm
  have hkey : ∀ (i : Nat) (hi : i < listed.length), paging.larger key rows t ≤ i →
      i < paging.notSmaller key rows t → key listed[i] = t := by
    intro i hi hge hlt
    have hle := (h.lt_notSmaller_iff hi t).mp hlt
    have hnot := mt (h.lt_larger_iff hi t).mpr (Nat.not_lt.mpr hge)
    exact (not_lt.mp hnot).antisymm hle
  obtain ⟨i, hi⟩ : ∃ i, i + 1 = k * size := ⟨k * size - 1, by omega⟩
  have hfirst : i < listed.length := by omega
  have hsecond : i + 1 < listed.length := by omega
  refine ⟨listed.take i, listed[i], listed[i + 1], listed.drop (i + 2), ?_, ?_, ?_⟩
  · simp
  · rw [List.length_take, min_eq_left hfirst.le, hi]
  · rw [hkey i hfirst (by omega) (by omega), hkey (i + 1) hsecond (by omega) (by omega)]

/-- Rows with keys of their own. -/
theorem endsBetweenKeys_of_nodup (h : Listing key rows listed) (hnodup : (rows.map key).Nodup) :
    EndsBetweenKeys key rows size := by
  rintro t k ⟨hlarger, hsmaller⟩
  obtain ⟨before, a, b, rest, rfl, _, hkey⟩ := h.neighbours hlarger hsmaller
  rw [← (h.perm.map key).nodup_iff, List.map_append, List.nodup_append] at hnodup
  simp [hkey] at hnodup

/-- The query for one page lists two rows with one key the other way than the query
for the page before: the pages have one of them twice. -/
theorem exists_pages_not_perm (hnodup : rows.Nodup) (h : Listing key rows listed)
    (hends : ¬ EndsBetweenKeys key rows size) :
    ∃ listings : Nat → List α, (∀ k, Listing key rows (listings k)) ∧
      ∀ n, rows.length ≤ n * size → ¬ (pages size n listings).Perm rows := by
  unfold EndsBetweenKeys at hends
  push Not at hends
  obtain ⟨t, k, hlarger, hsmaller⟩ := hends
  obtain ⟨before, a, b, rest, rfl, hend, hkey⟩ := h.neighbours hlarger hsmaller
  have hk : 0 < k := by
    by_contra hzero
    simp [Nat.eq_zero_of_not_pos hzero] at hend
  have htwice : a ∈ pageOf size (k - 1) (before ++ a :: b :: rest) ∧
      a ∈ pageOf size k (before ++ b :: a :: rest) := row_on_two_pages hk hend
  refine ⟨fun j => if j = k then before ++ b :: a :: rest else before ++ a :: b :: rest,
    fun j => ?_, fun n hn hperm => ?_⟩
  · by_cases hj : j = k
    · simpa [hj] using h.swap hkey
    · simpa [hj] using h
  · have hbound : k * size < n * size :=
      (hsmaller.trans_le List.countP_le_length).trans_le hn
    have hkn : k < n := Nat.lt_of_mul_lt_mul_right hbound
    obtain ⟨_, hdisjoint⟩ := List.nodup_flatMap.mp (hperm.nodup_iff.mpr hnodup)
    have hpages := List.pairwise_iff_getElem.mp hdisjoint (k - 1) k
      (by simp; omega) (by simpa using hkn) (by omega)
    have hne : k - 1 ≠ k := by omega
    simp only [List.getElem_range, Function.onFun, if_neg hne, if_true] at hpages
    exact hpages htwice.1 htwice.2

/-- The pages have every row once, whatever the order of rows with one key in
each query, exactly if no page ends between two such rows. -/
theorem pages_perm_iff (hnodup : rows.Nodup) (h : Listing key rows listed) (hsize : 0 < size) :
    (∀ listings : Nat → List α, (∀ k, Listing key rows (listings k)) → ∀ n,
      rows.length ≤ n * size → (pages size n listings).Perm rows) ↔
      EndsBetweenKeys key rows size := by
  constructor
  · intro hpages
    by_contra hends
    obtain ⟨listings, hlistings, hnot⟩ := exists_pages_not_perm hnodup h hends
    have hn : rows.length ≤ rows.length * size := Nat.le_mul_of_pos_right _ hsize
    exact hnot rows.length hn (hpages listings hlistings rows.length hn)
  · intro hends listings hlistings n hn
    exact pages_perm hlistings hends hsize hn

/-! ## A segment of the rows -/

/-- The row stands between the first and the last row of a list. -/
def Between (key : α → κ) (shown : List α) (a : α) : Prop :=
  ∃ first ∈ shown.head?, ∃ last ∈ shown.getLast?, key a < key first ∧ key last < key a

instance (key : α → κ) (shown : List α) (a : α) : Decidable (Between key shown a) :=
  inferInstanceAs (Decidable (∃ first ∈ shown.head?, ∃ last ∈ shown.getLast?, _ ∧ _))

/-- Rows with keys of their own, largest first, that leave out none between the
first and the last of them. -/
structure Segment (key : α → κ) (rows shown : List α) : Prop where
  ordered : shown.Pairwise fun a b => key b < key a
  mem : ∀ a ∈ shown, a ∈ rows
  whole : ∀ a ∈ rows, Between key shown a → a ∈ shown

variable {shown : List α}

theorem Segment.nil : Segment key rows [] := ⟨List.Pairwise.nil, nofun, fun _ _ h => by simp [Between] at h⟩

/-- What stands together in a listing. -/
theorem Segment.of_infix (h : listed.Pairwise fun a b => key b < key a) (hshown : shown <:+: listed) :
    Segment key listed shown := by
  obtain ⟨before, after, rfl⟩ := hshown
  obtain ⟨hfront, _, hcross⟩ := List.pairwise_append.mp h
  obtain ⟨_, hordered, hbefore⟩ := List.pairwise_append.mp hfront
  refine ⟨hordered, fun a ha => by simp [ha], ?_⟩
  rintro a ha ⟨first, hfirst, last, hlast, hlt, hgt⟩
  have hfirst := List.mem_of_mem_head? hfirst
  have hlast := List.mem_of_mem_getLast? hlast
  rcases List.mem_append.mp ha with ha | ha
  · rcases List.mem_append.mp ha with ha | ha
    · exact absurd (hbefore a ha first hfirst) hlt.not_gt
    · exact ha
  · exact absurd (hcross last (List.mem_append_right _ hlast) a ha) hgt.not_gt

/-- More rows, none of them between the rows of the segment. -/
theorem Segment.grow (h : Segment key rows shown) {more : List α} (hsub : ∀ a ∈ rows, a ∈ more)
    (hnew : ∀ a ∈ more, a ∉ rows → ¬ Between key shown a) : Segment key more shown := by
  refine ⟨h.ordered, fun a ha => hsub a (h.mem a ha), fun a ha hbetween => ?_⟩
  by_cases hold : a ∈ rows
  · exact h.whole a hold hbetween
  · exact absurd hbetween (hnew a ha hold)

end

end paging

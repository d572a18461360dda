-- Tables as lists of rows: the update of the rows that match, the deletion
-- of rows, and keys that no two rows share.
import Mathlib.Data.List.Basic
import Mathlib.Data.List.Nodup
import Mathlib.Tactic.Tauto

namespace table

variable {α β κ : Type}

/-! ## Updates -/

/-- `UPDATE .. SET f WHERE p`. -/
def updateWhere (p : α → Bool) (f : α → α) (rows : List α) : List α :=
  rows.map (fun r => if p r then f r else r)

theorem mem_updateWhere {p : α → Bool} {f : α → α} {rows : List α} {r : α} :
    r ∈ updateWhere p f rows ↔ ∃ r₀ ∈ rows, r = if p r₀ then f r₀ else r₀ := by
  unfold updateWhere
  rw [List.mem_map]
  constructor
  · rintro ⟨a, ha, rfl⟩; exact ⟨a, ha, rfl⟩
  · rintro ⟨a, ha, rfl⟩; exact ⟨a, ha, rfl⟩

/-- A row that the update does not match is still there. -/
theorem mem_updateWhere_of_not {p : α → Bool} {f : α → α} {rows : List α} {r : α}
    (h : r ∈ rows) (hp : p r = false) : r ∈ updateWhere p f rows :=
  mem_updateWhere.mpr ⟨r, h, by simp [hp]⟩

/-- A row that an update matched is there in its new form. -/
theorem mem_updateWhere_of {p : α → Bool} {f : α → α} {rows : List α} {r : α}
    (h : r ∈ rows) (hp : p r = true) : f r ∈ updateWhere p f rows :=
  mem_updateWhere.mpr ⟨r, h, by simp [hp]⟩

/-- What a row has in its old form, and in the new one if it is matched, some
row has after the update. -/
theorem exists_updateWhere {p : α → Bool} {f : α → α} {rows : List α} {P : α → Prop} {r : α}
    (hr : r ∈ rows) (hold : P r) (hnew : p r = true → P (f r)) : ∃ r' ∈ updateWhere p f rows, P r' := by
  by_cases hp : p r = true
  · exact ⟨f r, mem_updateWhere_of hr hp, hnew hp⟩
  · exact ⟨r, mem_updateWhere_of_not hr (by simpa using hp), hold⟩

/-- What all rows have, and the new forms of the matched ones, all rows have
after the update. -/
theorem forall_updateWhere {p : α → Bool} {f : α → α} {rows : List α} {P : α → Prop}
    (hold : ∀ r ∈ rows, P r) (hnew : ∀ r ∈ rows, p r = true → P (f r)) :
    ∀ r ∈ updateWhere p f rows, P r := by
  intro r hr
  obtain ⟨r₀, hr₀, rfl⟩ := mem_updateWhere.mp hr
  by_cases hp : p r₀ = true
  · rw [if_pos hp]
    exact hnew r₀ hr₀ hp
  · rw [if_neg hp]
    exact hold r₀ hr₀

/-- What all rows have, and a new one, all rows have after the insertion. -/
theorem forall_insert {rows : List α} {P : α → Prop} {r : α} (hold : ∀ x ∈ rows, P x) (hnew : P r) :
    ∀ x ∈ rows ++ [r], P x :=
  List.forall_mem_append.mpr ⟨hold, List.forall_mem_singleton.mpr hnew⟩

theorem updateWhere_cons (p : α → Bool) (f : α → α) (a : α) (l : List α) :
    updateWhere p f (a :: l) = (if p a then f a else a) :: updateWhere p f l := rfl

/-- An update that matches no row changes nothing. -/
theorem updateWhere_eq_self {p : α → Bool} {f : α → α} {rows : List α}
    (h : ∀ r ∈ rows, p r = false) : updateWhere p f rows = rows := by
  unfold updateWhere
  conv_rhs => rw [← List.map_id rows]
  apply List.map_congr_left
  intro r hr
  simp [h r hr]

/-- Two conditions that agree on the rows give one update. -/
theorem updateWhere_congr {p q : α → Bool} {f : α → α} {rows : List α}
    (h : ∀ r ∈ rows, p r = q r) : updateWhere p f rows = updateWhere q f rows := by
  unfold updateWhere
  apply List.map_congr_left
  intro r hr
  rw [h r hr]

/-- A column that the update does not write keeps its values. -/
theorem map_updateWhere {p : α → Bool} {f : α → α} {rows : List α} {col : α → κ}
    (h : ∀ r ∈ rows, p r = true → col (f r) = col r) :
    (updateWhere p f rows).map col = rows.map col := by
  unfold updateWhere
  rw [List.map_map]
  apply List.map_congr_left
  intro r hr
  simp only [Function.comp_apply]
  split
  · exact h r hr ‹_›
  · rfl

/-- An update that leaves the rows it matches as they are. -/
theorem updateWhere_fixed {p : α → Bool} {f : α → α} {rows : List α}
    (h : ∀ r ∈ rows, p r = true → f r = r) : updateWhere p f rows = rows := by
  unfold updateWhere
  conv_rhs => rw [← List.map_id rows]
  apply List.map_congr_left
  intro r hr
  split
  · exact h r hr ‹_›
  · rfl

/-- An update, as what it does to a column. -/
theorem map_updateWhere_comm {p : α → Bool} {f : α → α} {q : κ → Bool} {g : κ → κ} {col : α → κ}
    (hp : ∀ r, p r = q (col r)) (hf : ∀ r, col (f r) = g (col r)) (rows : List α) :
    (updateWhere p f rows).map col = updateWhere q g (rows.map col) := by
  induction rows with
  | nil => rfl
  | cons a rows ih =>
    have hhead : col (if p a then f a else a) = if q (col a) then g (col a) else col a := by
      rw [← hp a]
      split
      · exact hf a
      · rfl
    rw [updateWhere_cons, List.map_cons, List.map_cons, updateWhere_cons, ih, hhead]

/-! ## Keys -/

/-- No two rows of the table share the key. -/
def UniqueOn (key : α → κ) (rows : List α) : Prop := (rows.map key).Nodup

@[simp] theorem uniqueOn_nil (key : α → κ) : UniqueOn key [] := List.nodup_nil

/-- Two rows with one key are one row. -/
theorem UniqueOn.eq {key : α → κ} {rows : List α} (h : UniqueOn key rows) {a b : α}
    (ha : a ∈ rows) (hb : b ∈ rows) (hk : key a = key b) : a = b :=
  List.inj_on_of_nodup_map h ha hb hk

/-- A condition that names a key is one on the row with the key. -/
theorem UniqueOn.any_key [DecidableEq κ] {key : α → κ} {rows : List α} (h : UniqueOn key rows) {a : α}
    (ha : a ∈ rows) (p : α → Bool) : (rows.any fun r => key r = key a && p r) = p a := by
  rw [Bool.eq_iff_iff, List.any_eq_true]
  constructor
  · rintro ⟨r, hr, hp⟩
    simp only [Bool.and_eq_true, decide_eq_true_eq] at hp
    rw [← h.eq hr ha hp.1]
    exact hp.2
  · intro hp
    exact ⟨a, ha, by simp [hp]⟩

/-- An insert with a key that no row has keeps the key unique. -/
theorem UniqueOn.insert {key : α → κ} {rows : List α} (h : UniqueOn key rows) {a : α}
    (ha : ∀ r ∈ rows, key r ≠ key a) : UniqueOn key (rows ++ [a]) := by
  unfold UniqueOn at *
  rw [List.map_append, List.nodup_append]
  refine ⟨h, List.nodup_singleton _, ?_⟩
  intro x hx y hy hxy
  simp only [List.map_cons, List.map_nil, List.mem_singleton] at hy
  obtain ⟨r, hr, rfl⟩ := List.mem_map.mp hx
  exact ha r hr (hxy.trans hy)

/-- An update that keeps the key column keeps it unique. -/
theorem UniqueOn.update {key : α → κ} {rows : List α} (h : UniqueOn key rows) {p : α → Bool}
    {f : α → α} (hf : ∀ r ∈ rows, p r = true → key (f r) = key r) :
    UniqueOn key (updateWhere p f rows) := by
  unfold UniqueOn
  rw [map_updateWhere hf]
  exact h

/-- An update that keeps the key and brings no row into the condition keeps
the key unique among the rows that meet it. -/
theorem UniqueOn.update_filter {key : α → κ} {rows : List α} {p q : α → Bool} {f : α → α}
    (h : UniqueOn key (rows.filter q))
    (hf : ∀ r ∈ rows, p r = true → key (f r) = key r ∧ (q (f r) = true → q r = true)) :
    UniqueOn key ((updateWhere p f rows).filter q) := by
  suffices hsub : ∀ l : List α,
      (∀ r ∈ l, p r = true → key (f r) = key r ∧ (q (f r) = true → q r = true)) →
      (((updateWhere p f l).filter q).map key).Sublist ((l.filter q).map key) from
    List.Nodup.sublist (hsub rows hf) h
  intro l
  induction l with
  | nil => intro _; exact List.Sublist.refl _
  | cons a l ih =>
    intro hl
    have ih := ih fun r hr => hl r (List.mem_cons_of_mem _ hr)
    have ha := hl a (List.mem_cons_self ..)
    rw [updateWhere_cons]
    by_cases hp : p a = true
    · simp only [hp, if_true]
      by_cases hq : q (f a) = true
      · rw [List.filter_cons_of_pos hq, List.filter_cons_of_pos ((ha hp).2 hq)]
        simp only [List.map_cons, (ha hp).1]
        exact ih.cons_cons _
      · rw [List.filter_cons_of_neg hq]
        exact ih.trans ((List.sublist_cons_self a l).filter q |>.map key)
    · simp only [hp, Bool.false_eq_true, if_false]
      by_cases hq : q a = true
      · rw [List.filter_cons_of_pos hq, List.filter_cons_of_pos hq]
        exact ih.cons_cons _
      · rw [List.filter_cons_of_neg hq, List.filter_cons_of_neg hq]
        exact ih

theorem uniqueOn_filter {key : α → κ} {rows : List α} {q : α → Bool} :
    UniqueOn key (rows.filter q) ↔
      rows.Pairwise fun a b => q a = true → q b = true → key a ≠ key b := by
  unfold UniqueOn
  rw [List.Nodup, List.pairwise_map, List.pairwise_filter]

/-- An update may bring a row into the condition when no other row that meets
it has the key of that row. -/
theorem UniqueOn.update_into {key : α → κ} {ident : α → β} {rows : List α} {p q : α → Bool}
    {f : α → α} (h : UniqueOn key (rows.filter q)) (hid : UniqueOn ident rows)
    (hf : ∀ r ∈ rows, p r = true → key (f r) = key r)
    (hp : ∀ r ∈ rows, ∀ r' ∈ rows, p r = true → p r' = true → ident r = ident r')
    (hother : ∀ r ∈ rows, ∀ r' ∈ rows, p r = true → p r' = false → q r' = true → key r' ≠ key r) :
    UniqueOn key ((updateWhere p f rows).filter q) := by
  rw [uniqueOn_filter] at h ⊢
  unfold UniqueOn at hid
  rw [List.Nodup, List.pairwise_map] at hid
  unfold updateWhere
  rw [List.pairwise_map]
  refine (h.and hid).imp_of_mem ?_
  intro a b ha hb hab hqa hqb
  by_cases hpa : p a = true
  · by_cases hpb : p b = true
    · exact absurd (hp a ha b hb hpa hpb) hab.2
    · simp only [Bool.not_eq_true] at hpb
      simp only [hpa, hpb, if_true, Bool.false_eq_true, if_false] at hqb ⊢
      rw [hf a ha hpa]
      exact (hother a ha b hb hpa hpb hqb).symm
  · simp only [Bool.not_eq_true] at hpa
    by_cases hpb : p b = true
    · simp only [hpa, hpb, if_true, Bool.false_eq_true, if_false] at hqa ⊢
      rw [hf b hb hpb]
      exact hother b hb a ha hpb hpa hqa
    · simp only [Bool.not_eq_true] at hpb
      simp only [hpa, hpb, Bool.false_eq_true, if_false] at hqa hqb ⊢
      exact hab.1 hqa hqb

/-- A deletion keeps a key unique. -/
theorem UniqueOn.filter {key : α → κ} {rows : List α} (h : UniqueOn key rows) (p : α → Bool) :
    UniqueOn key (rows.filter p) :=
  List.Nodup.sublist (List.filter_sublist.map key) h

/-- A unique key is also unique in the rows that meet a condition. -/
theorem UniqueOn.of_filter {key : α → κ} {rows : List α} {p : α → Bool}
    (h : UniqueOn key (rows.filter p)) {a b : α} (ha : a ∈ rows) (hb : b ∈ rows)
    (hpa : p a = true) (hpb : p b = true) (hk : key a = key b) : a = b :=
  h.eq (List.mem_filter.mpr ⟨ha, hpa⟩) (List.mem_filter.mpr ⟨hb, hpb⟩) hk

/-! ## Lookups -/

theorem find?_mem {p : α → Bool} {rows : List α} {r : α} (h : rows.find? p = some r) :
    r ∈ rows ∧ p r = true :=
  ⟨List.mem_of_find?_eq_some h, List.find?_some h⟩

/-- A lookup finds the only row that it can find. -/
theorem find?_eq_of_unique {p : α → Bool} {rows : List α} {r : α} (hr : r ∈ rows)
    (hp : p r = true) (h : ∀ a ∈ rows, p a = true → a = r) : rows.find? p = some r := by
  cases hf : rows.find? p with
  | none => exact absurd hp (by simpa using List.find?_eq_none.mp hf r hr)
  | some a =>
    obtain ⟨ha, hpa⟩ := find?_mem hf
    rw [h a ha hpa]

/-- A lookup by what an update does not write finds the row in its new form. -/
theorem find?_updateWhere {p q : α → Bool} {f : α → α} (hq : ∀ r, p r = true → q (f r) = q r)
    (rows : List α) :
    (updateWhere p f rows).find? q = (rows.find? q).map fun r => if p r then f r else r := by
  induction rows with
  | nil => rfl
  | cons a l ih =>
    have hhead : q (if p a then f a else a) = q a := by
      split
      · next hp => exact hq a hp
      · rfl
    rw [updateWhere_cons, List.find?_cons, List.find?_cons, hhead, ih]
    cases q a <;> rfl

/-- An UPDATE of the rows that a scan found by a condition, by their keys, is the
UPDATE by the condition. -/
theorem updateWhere_found [DecidableEq κ] {key : α → κ} {q : α → Bool} {f : α → α} {rows found : List α}
    (h : UniqueOn key rows) (hfound : ∀ r, r ∈ found ↔ r ∈ rows.filter q) :
    updateWhere (fun r => found.any fun a => key a = key r) f rows = updateWhere q f rows := by
  refine updateWhere_congr fun r hr => ?_
  rw [Bool.eq_iff_iff, List.any_eq_true]
  constructor
  · rintro ⟨a, ha, hkey⟩
    obtain ⟨hmem, hq⟩ := List.mem_filter.mp ((hfound a).mp ha)
    rwa [h.eq hmem hr (of_decide_eq_true hkey)] at hq
  · intro hq
    exact ⟨r, (hfound r).mpr (List.mem_filter.mpr ⟨hr, hq⟩), decide_eq_true rfl⟩

/-- A lookup gives the same answer on the rows that meet a condition, when
every row that it can find meets it. -/
theorem find?_filter_of_imp {p q : α → Bool} (rows : List α) (h : ∀ r ∈ rows, p r = true → q r = true) :
    (rows.filter q).find? p = rows.find? p := by
  induction rows with
  | nil => rfl
  | cons a l ih =>
    have ih := ih (fun r hr => h r (List.mem_cons_of_mem _ hr))
    by_cases hp : p a = true
    · have hq := h a (List.mem_cons_self ..) hp
      simp [hq, hp]
    · by_cases hq : q a = true
      · simp [hq, hp, ih]
      · simp [hq, hp, ih]

/-- A row that is found, and meets a condition, is found among the rows that do. -/
theorem find?_filter_of_found {p q : α → Bool} {rows : List α} {r : α} (h : rows.find? p = some r)
    (hq : q r = true) : (rows.filter q).find? p = some r := by
  induction rows with
  | nil => cases h
  | cons a l ih =>
    by_cases hp : p a = true
    · rw [List.find?_cons_of_pos hp] at h
      obtain rfl := Option.some.inj h
      rw [List.filter_cons_of_pos hq, List.find?_cons_of_pos hp]
    · rw [List.find?_cons_of_neg hp] at h
      by_cases hqa : q a = true
      · rw [List.filter_cons_of_pos hqa, List.find?_cons_of_neg hp, ih h]
      · rw [List.filter_cons_of_neg hqa, ih h]

theorem any_filter_of_imp {p q : α → Bool} (rows : List α) (h : ∀ r ∈ rows, p r = true → q r = true) :
    (rows.filter q).any p = rows.any p := by
  rw [Bool.eq_iff_iff, List.any_eq_true, List.any_eq_true]
  constructor
  · rintro ⟨r, hr, hp⟩
    exact ⟨r, (List.mem_filter.mp hr).1, hp⟩
  · rintro ⟨r, hr, hp⟩
    exact ⟨r, List.mem_filter.mpr ⟨hr, h r hr hp⟩, hp⟩

theorem filter_filter_of_imp {p q : α → Bool} (rows : List α)
    (h : ∀ r ∈ rows, p r = true → q r = true) : (rows.filter q).filter p = rows.filter p := by
  rw [List.filter_filter]
  apply List.filter_congr
  intro r hr
  cases hp : p r with
  | false => rfl
  | true => rw [h r hr hp]; rfl

/-- The rows that meet a condition stay as they are when an update matches
none of them and brings none into the condition. -/
theorem filter_updateWhere {p q : α → Bool} {f : α → α} {rows : List α}
    (h : ∀ r ∈ rows, p r = true → q r = false ∧ q (f r) = false) :
    (updateWhere p f rows).filter q = rows.filter q := by
  induction rows with
  | nil => rfl
  | cons a l ih =>
    have ih := ih fun r hr => h r (List.mem_cons_of_mem _ hr)
    rw [updateWhere_cons]
    by_cases hp : p a = true
    · obtain ⟨hold, hnew⟩ := h a (List.mem_cons_self ..) hp
      simp [hp, hold, hnew, ih]
    · by_cases hq : q a = true
      · simp [hp, hq, ih]
      · simp [hp, hq, ih]

/-- An update that keeps its rows on their side of a condition is made to the
rows that meet the condition. -/
theorem filter_updateWhere_comm {p q : α → Bool} {f : α → α} {rows : List α}
    (h : ∀ r ∈ rows, p r = true → q (f r) = q r) :
    (updateWhere p f rows).filter q = updateWhere p f (rows.filter q) := by
  induction rows with
  | nil => rfl
  | cons a l ih =>
    have ih := ih fun r hr => h r (List.mem_cons_of_mem _ hr)
    have hhead : q (if p a then f a else a) = q a := by
      split
      · exact h a (List.mem_cons_self ..) ‹_›
      · rfl
    by_cases hq : q a = true
    · rw [updateWhere_cons, List.filter_cons_of_pos (hhead.trans hq), List.filter_cons_of_pos hq,
        updateWhere_cons, ih]
    · rw [updateWhere_cons, List.filter_cons_of_neg (by rwa [hhead]), List.filter_cons_of_neg hq, ih]

/-- A condition on what an update does not write holds of some row, or of none,
as before. -/
theorem any_updateWhere {p q : α → Bool} {f : α → α} {rows : List α}
    (h : ∀ r ∈ rows, p r = true → q (f r) = q r) : (updateWhere p f rows).any q = rows.any q := by
  unfold updateWhere
  rw [List.any_map, Bool.eq_iff_iff, List.any_eq_true, List.any_eq_true]
  refine exists_congr fun r => and_congr_right fun hr => ?_
  have hhead : q (if p r then f r else r) = q r := by
    split
    · exact h r hr ‹_›
    · rfl
  rw [Function.comp_apply, hhead]

theorem filter_insert_in {q : α → Bool} {rows : List α} {r : α} (h : q r = true) :
    (rows ++ [r]).filter q = rows.filter q ++ [r] := by
  rw [List.filter_append, List.filter_cons_of_pos h, List.filter_nil]

theorem filter_insert_out {q : α → Bool} {rows : List α} {r : α} (h : q r = false) :
    (rows ++ [r]).filter q = rows.filter q := by
  rw [List.filter_append, List.filter_cons_of_neg (by simp [h]), List.filter_nil, List.append_nil]

section
variable {f : Nat → α → β} {p : α → Bool} {q : β → Bool} (hq : ∀ k a, q (f k a) = p a)
include hq

theorem filter_mapIdx_none {rows : List α} (h : rows.filter p = []) :
    (rows.mapIdx f).filter q = [] := by
  rw [List.filter_eq_nil_iff] at h ⊢
  intro b hb
  obtain ⟨k, hk, rfl⟩ := List.mem_mapIdx.mp hb
  rw [hq]
  exact h _ (List.getElem_mem hk)

/-- Of a numbered list, the one row that meets a condition carries its place. -/
theorem filter_mapIdx_one {rows : List α} {a : α} (h : rows.filter p = [a]) :
    (rows.mapIdx f).filter q = [f (rows.findIdx p) a] := by
  induction rows generalizing f with
  | nil => cases h
  | cons b rows ih =>
    rw [List.mapIdx_cons, List.findIdx_cons]
    by_cases hb : p b = true
    · rw [List.filter_cons_of_pos hb] at h
      obtain ⟨rfl, hrest⟩ := List.cons.inj h
      rw [List.filter_cons_of_pos (by rwa [hq]),
        filter_mapIdx_none (f := fun k => f (k + 1)) (fun k a => hq (k + 1) a) hrest, hb]
      rfl
    · rw [List.filter_cons_of_neg hb] at h
      rw [List.filter_cons_of_neg (by rwa [hq]),
        ih (f := fun k => f (k + 1)) (fun k a => hq (k + 1) a) h, Bool.not_eq_true _ |>.mp hb]
      rfl

end

/-! ## What changed -/

/-- The row is in one of the two tables only. -/
def Differs (l m : List α) (r : α) : Prop := (r ∈ l ∧ r ∉ m) ∨ (r ∈ m ∧ r ∉ l)

theorem not_differs_self (l : List α) (r : α) : ¬ Differs l l r := by
  rintro (⟨h, hn⟩ | ⟨h, hn⟩) <;> exact hn h

theorem Differs.of_append {l as : List α} {r : α} (h : Differs l (l ++ as) r) : r ∈ as := by
  rcases h with ⟨h, hn⟩ | ⟨h, hn⟩
  · exact absurd (List.mem_append_left _ h) hn
  · exact (List.mem_append.mp h).resolve_left hn

theorem Differs.of_insert {l : List α} {a r : α} (h : Differs l (l ++ [a]) r) : r = a :=
  List.mem_singleton.mp h.of_append

/-- An update touches the rows that it matches, in their old and new form. -/
theorem Differs.of_update {l : List α} {p : α → Bool} {f : α → α} {r : α}
    (h : Differs l (updateWhere p f l) r) : ∃ r₀ ∈ l, p r₀ = true ∧ (r = r₀ ∨ r = f r₀) := by
  rcases h with ⟨h, hn⟩ | ⟨h, hn⟩
  · refine ⟨r, h, ?_, Or.inl rfl⟩
    by_contra hp
    exact hn (mem_updateWhere_of_not h (by simpa using hp))
  · obtain ⟨r₀, hr₀, heq⟩ := mem_updateWhere.mp h
    by_cases hp : p r₀ = true
    · rw [if_pos hp] at heq
      exact ⟨r₀, hr₀, hp, Or.inr heq⟩
    · rw [if_neg hp] at heq
      exact absurd (heq ▸ hr₀) hn

/-- An update of one row, found by its key, touches that row only. -/
theorem Differs.of_update_one {k : α → κ} {l : List α} (hu : UniqueOn k l) {a : α}
    (ha : a ∈ l) {p : α → Bool} {f : α → α} {r : α} (h : Differs l (updateWhere p f l) r)
    (hp : ∀ x, p x = true → k x = k a) : r = a ∨ r = f a := by
  obtain ⟨r₀, hr₀, hmatch, heq⟩ := h.of_update
  obtain rfl : r₀ = a := hu.eq hr₀ ha (hp r₀ hmatch)
  exact heq

theorem Differs.of_filter {l : List α} {q : α → Bool} {r : α} (h : Differs l (l.filter q) r) :
    r ∈ l ∧ q r = false := by
  rcases h with ⟨h, hn⟩ | ⟨h, hn⟩
  · refine ⟨h, ?_⟩
    by_contra hq
    exact hn (List.mem_filter.mpr ⟨h, by simpa using hq⟩)
  · exact absurd (List.mem_filter.mp h).1 hn

theorem Differs.trans {l m n : List α} {r : α} (h : Differs l n r) :
    Differs l m r ∨ Differs m n r := by
  unfold Differs at *
  tauto

end table

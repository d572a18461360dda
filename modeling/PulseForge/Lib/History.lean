-- Tables whose rows move forward: what a later state of a table still says of an earlier
-- one. A table that deletes nothing keeps its rows in their places; of a table that
-- deletes, each row is new or an earlier row that has moved.
import PulseForge.Lib.Table

namespace table

variable {α κ : Type} {R : α → α → Prop}

/-- The rows agree in these columns. -/
def Same {β : Type} (columns : α → β) (a a' : α) : Prop := columns a' = columns a

theorem Same.refl {β : Type} (columns : α → β) (a : α) : Same columns a a := rfl

theorem Same.trans {β : Type} {columns : α → β} (a b c : α) (h : Same columns a b)
    (h' : Same columns b c) : Same columns a c :=
  Eq.trans h' h

/-- A value that is there stays. -/
def Stays (a b : Option α) : Prop := ∀ x, a = some x → b = some x

theorem Stays.refl (a : Option α) : Stays a a := fun _ h => h

theorem Stays.trans {a b c : Option α} (h : Stays a b) (h' : Stays b c) : Stays a c :=
  fun x hx => h' x (h x hx)

theorem stays_none {a : Option α} (h : a = none) (b : Option α) : Stays a b := by
  intro x hx
  rw [h] at hx
  cases hx

/-! ## Rows in their places -/

/-- Each row is where it was, and has moved. -/
def Grown (R : α → α → Prop) (l l' : List α) : Prop :=
  ∀ (i : Nat) a, l[i]? = some a → ∃ a', l'[i]? = some a' ∧ R a a'

theorem Grown.refl (hR : ∀ a, R a a) (l : List α) : Grown R l l := fun _ a ha => ⟨a, ha, hR a⟩

theorem Grown.trans (hR : ∀ a b c, R a b → R b c → R a c) {l l' l'' : List α} (h : Grown R l l')
    (h' : Grown R l' l'') : Grown R l l'' := by
  intro i a ha
  obtain ⟨b, hb, hab⟩ := h i a ha
  obtain ⟨c, hc, hbc⟩ := h' i b hb
  exact ⟨c, hc, hR a b c hab hbc⟩

theorem Grown.insert {l l' : List α} (h : Grown R l l') (more : List α) : Grown R l (l' ++ more) := by
  intro i a ha
  obtain ⟨a', ha', hmoved⟩ := h i a ha
  obtain ⟨hlt, _⟩ := List.getElem?_eq_some_iff.mp ha'
  exact ⟨a', by rw [List.getElem?_append_left hlt, ha'], hmoved⟩

theorem Grown.update (hR : ∀ a, R a a) {p : α → Bool} {f : α → α} {l : List α}
    (hf : ∀ a ∈ l, p a = true → R a (f a)) : Grown R l (updateWhere p f l) := by
  intro i a ha
  refine ⟨if p a then f a else a, ?_, ?_⟩
  · unfold updateWhere
    rw [List.getElem?_map, ha]
    rfl
  · split
    · next hp => exact hf a (List.mem_of_getElem? ha) hp
    · exact hR a

/-- Every row is still there, moved. -/
theorem Grown.row {l l' : List α} (h : Grown R l l') {a : α} (ha : a ∈ l) : ∃ a' ∈ l', R a a' := by
  obtain ⟨i, hi⟩ := List.mem_iff_getElem?.mp ha
  obtain ⟨a', ha', hmoved⟩ := h i a hi
  exact ⟨a', List.mem_of_getElem? ha', hmoved⟩

/-! ## Rows by their keys -/

/-- Each row of the second table has a new key, or is a row of the first that moved. -/
def Moved (key : α → κ) (R : α → α → Prop) (new : κ → Prop) (l l' : List α) : Prop :=
  ∀ a' ∈ l', new (key a') ∨ ∃ a ∈ l, key a = key a' ∧ R a a'

variable {key : α → κ} {new : κ → Prop} {l l' : List α}

theorem Moved.refl (hR : ∀ a, R a a) (l : List α) : Moved key R new l l :=
  fun a ha => Or.inr ⟨a, ha, rfl, hR a⟩

theorem Moved.trans (hR : ∀ a b c, R a b → R b c → R a c) {l'' : List α} (h : Moved key R new l l')
    (h' : Moved key R new l' l'') : Moved key R new l l'' := by
  intro c hc
  rcases h' c hc with hnew | ⟨b, hb, hkey, hbc⟩
  · exact Or.inl hnew
  · rcases h b hb with hnew | ⟨a, ha, hkey', hab⟩
    · exact Or.inl (hkey ▸ hnew)
    · exact Or.inr ⟨a, ha, hkey'.trans hkey, hR a b c hab hbc⟩

theorem Moved.mono {new' : κ → Prop} (h : Moved key R new l l') (hnew : ∀ k, new k → new' k) :
    Moved key R new' l l' :=
  fun a' ha' => (h a' ha').imp_left (hnew _)

theorem Moved.insert (h : Moved key R new l l') {a : α} (ha : new (key a)) :
    Moved key R new l (l' ++ [a]) := by
  intro a' ha'
  rcases List.mem_append.mp ha' with hmem | hmem
  · exact h a' hmem
  · rw [List.mem_singleton.mp hmem]
    exact Or.inl ha

theorem Moved.update (hR : ∀ a, R a a) {p : α → Bool} {f : α → α}
    (hf : ∀ a ∈ l, p a = true → key (f a) = key a ∧ R a (f a)) :
    Moved key R new l (updateWhere p f l) := by
  intro a' ha'
  obtain ⟨a, ha, rfl⟩ := mem_updateWhere.mp ha'
  refine Or.inr ⟨a, ha, ?_⟩
  split
  · next hp => exact ⟨(hf a ha hp).1.symm, (hf a ha hp).2⟩
  · exact ⟨rfl, hR a⟩

theorem Moved.filter (hR : ∀ a, R a a) (p : α → Bool) : Moved key R new l (l.filter p) :=
  fun a ha => Or.inr ⟨a, (List.mem_filter.mp ha).1, rfl, hR a⟩

/-- A row with the key of an earlier one is that row, moved. -/
theorem Moved.row (h : Moved key R new l l') (hunique : UniqueOn key l) {a a' : α} (ha : a ∈ l)
    (ha' : a' ∈ l') (hkey : key a' = key a) (hnew : ¬ new (key a)) : R a a' := by
  rcases h a' ha' with hdrawn | ⟨b, hb, hbkey, hmoved⟩
  · exact absurd (hkey ▸ hdrawn) hnew
  · rwa [← hunique.eq hb ha (hbkey.trans hkey)]

end table

-- Dictionaries as lists of entries in the order of their keys: setting a key
-- that is there keeps its place, and a new key goes to the end.
import Mathlib.Data.List.Nodup

namespace dict

variable {κ ν : Type} [DecidableEq κ]

def set (d : List (κ × ν)) (key : κ) (value : ν) : List (κ × ν) :=
  if d.any (fun p => p.1 = key) then d.map fun p => if p.1 = key then (key, value) else p
  else d ++ [(key, value)]

def keys (d : List (κ × ν)) : List κ := d.map Prod.fst

variable {d d' : List (κ × ν)} {key other : κ} {value : ν}

omit [DecidableEq κ] in
@[simp] theorem keys_cons (p : κ × ν) : keys (p :: d) = p.1 :: keys d := rfl

theorem any_key : d.any (fun p => p.1 = key) = true ↔ key ∈ keys d := by
  simp [keys]

section
variable [BEq κ] [LawfulBEq κ]

theorem lookup_cons_if (k : κ) (v : ν) (d : List (κ × ν)) :
    ((k, v) :: d).lookup other = if other = k then some v else d.lookup other := by
  rw [List.lookup_cons]
  by_cases h : other = k
  · simp [h]
  · simp [h, beq_eq_false_iff_ne.mpr h]

omit [DecidableEq κ] in
theorem lookup_absent (h : key ∉ keys d) : d.lookup key = none := by
  refine List.lookup_eq_none_iff.mpr fun p hp => ?_
  rw [bne_iff_ne]
  rintro rfl
  exact h (List.mem_map.mpr ⟨p, hp, rfl⟩)

theorem lookup_update (d : List (κ × ν)) :
    (d.map fun p => if p.1 = key then (key, value) else p).lookup other =
      if other = key then (d.lookup key).map fun _ => value else d.lookup other := by
  induction d with
  | nil => simp
  | cons p d ih =>
    obtain ⟨k, v⟩ := p
    rw [List.map_cons, lookup_cons_if]
    by_cases hk : k = key
    · subst hk
      rw [if_pos rfl, lookup_cons_if, ih, lookup_cons_if, if_pos rfl]
      by_cases ho : other = k
      · simp [ho]
      · simp [ho]
    · rw [if_neg hk, lookup_cons_if, ih, lookup_cons_if, if_neg (Ne.symm hk)]
      by_cases ho : other = key
      · subst ho
        simp [Ne.symm hk]
      · simp [ho]

/-- Only the entry of the key is set. -/
theorem lookup_set (d : List (κ × ν)) (key : κ) (value : ν) (other : κ) :
    (set d key value).lookup other = if other = key then some value else d.lookup other := by
  unfold set
  split
  · rename_i hany
    obtain ⟨⟨k, old⟩, hmem, hk⟩ := List.any_eq_true.mp hany
    have hsome : (d.lookup key).isSome = true :=
      List.lookup_isSome_iff.mpr ⟨(k, old), hmem, beq_iff_eq.mpr (of_decide_eq_true hk).symm⟩
    obtain ⟨w, hw⟩ := Option.isSome_iff_exists.mp hsome
    rw [lookup_update, hw]
    rfl
  · rename_i hany
    have hnone : d.lookup key = none := lookup_absent fun hk => hany (any_key.mpr hk)
    rw [List.lookup_append, lookup_cons_if]
    by_cases ho : other = key
    · simp [ho, hnone]
    · simp [ho]

end

/-- The keys after setting one: a new one is the last. -/
theorem keys_set (d : List (κ × ν)) (key : κ) (value : ν) :
    keys (set d key value) = if key ∈ keys d then keys d else keys d ++ [key] := by
  unfold set
  by_cases hany : d.any (fun p => p.1 = key) = true
  · rw [if_pos hany, if_pos (any_key.mp hany), keys, List.map_map, keys]
    refine List.map_congr_left fun p _ => ?_
    by_cases hp : p.1 = key
    · simp [hp]
    · simp [hp]
  · rw [if_neg hany, if_neg fun hk => hany (any_key.mpr hk)]
    simp [keys]

theorem nodup_set (h : (keys d).Nodup) : (keys (set d key value)).Nodup := by
  rw [keys_set]
  split
  · exact h
  · rename_i hk
    exact List.nodup_append.mpr ⟨h, List.nodup_singleton _, by
      intro a ha b hb
      obtain rfl := List.mem_singleton.mp hb
      exact fun heq => hk (heq ▸ ha)⟩

/-- A dictionary is its keys and their values. -/
theorem ext_lookup [BEq κ] [LawfulBEq κ] (h : (keys d).Nodup) (hkeys : keys d = keys d')
    (hlookup : ∀ key, d.lookup key = d'.lookup key) : d = d' := by
  induction d generalizing d' with
  | nil =>
    cases d' with
    | nil => rfl
    | cons p d' => cases hkeys
  | cons p d ih =>
    cases d' with
    | nil => cases hkeys
    | cons p' d' =>
      obtain ⟨k, v⟩ := p
      obtain ⟨k', v'⟩ := p'
      simp only [keys_cons, List.cons.injEq] at hkeys
      obtain ⟨rfl, hrest⟩ := hkeys
      obtain ⟨hnot, hnodup⟩ := List.nodup_cons.mp h
      have hv : v = v' := by simpa using hlookup k
      have hd : d = d' := by
        refine ih hnodup hrest fun key => ?_
        by_cases hkey : key = k
        · subst hkey
          rw [lookup_absent hnot, lookup_absent (hrest ▸ hnot)]
        · have hboth := hlookup key
          rwa [lookup_cons_if, lookup_cons_if, if_neg hkey, if_neg hkey] at hboth
      rw [hv, hd]

end dict

-- The trees that the audit log stores: plain values, cut texts, short lists and
-- mappings without a secret key, at every depth. The sanitizer makes such trees
-- only, and it leaves them as they are.
import PulseForge.SecretMetadata

open dict

namespace pulseforge

variable [Platform]

/-- A tree as the audit log stores it. -/
inductive Clean : PyValue → Prop
  | none : Clean .none
  | bool (b : Bool) : Clean (.bool b)
  | int (n : Int) : Clean (.int n)
  | float (repr : Text) : Clean (.float repr)
  | str (t : Text) (hlength : t.length ≤ 500) : Clean (.str t)
  | list (items : List PyValue) (hlength : items.length ≤ 50) (hitems : ∀ v ∈ items, Clean v) :
      Clean (.list items)
  | mapping (items : Metadata) (hkeys : ∀ p ∈ items, p.1.length ≤ 100 ∧ isSensitive p.1 = false)
      (hdistinct : (keys items).Nodup) (hitems : ∀ p ∈ items, Clean p.2) : Clean (.mapping items)

/-! ## The result is clean -/

/-- What the sanitizer may store under a key. -/
def CleanEntry (p : Text × PyValue) : Prop := p.1.length ≤ 100 ∧ isSensitive p.1 = false ∧ Clean p.2

omit [Platform] in
theorem mem_dictSet {d : Metadata} {key : Text} {value : PyValue} {p : Text × PyValue}
    (h : p ∈ dictSet d key value) : p ∈ d ∨ p = (key, value) := by
  unfold dictSet at h
  split at h
  · obtain ⟨q, hq, rfl⟩ := List.mem_map.mp h
    split
    · exact Or.inr rfl
    · exact Or.inl hq
  · rcases List.mem_append.mp h with h | h
    · exact Or.inl h
    · exact Or.inr (List.mem_singleton.mp h)

theorem clean_items {items : Metadata} (h : ∀ p ∈ items, Clean (safe_value p.2)) {sanitized : Metadata}
    (hdone : ∀ p ∈ sanitized, CleanEntry p) : ∀ p ∈ sanitize_items sanitized items, CleanEntry p := by
  induction items generalizing sanitized with
  | nil => exact hdone
  | cons q items ih =>
    obtain ⟨raw_key, value⟩ := q
    have hrest : ∀ p ∈ items, Clean (safe_value p.2) := fun p hp => h p (List.mem_cons_of_mem _ hp)
    simp only [sanitize_items]
    split
    · exact ih hrest hdone
    · rename_i hplain
      apply ih hrest
      intro p hp
      rcases mem_dictSet hp with hp | rfl
      · exact hdone p hp
      · refine ⟨?_, by simpa using hplain, h _ List.mem_cons_self⟩
        simp

theorem clean_values {items : List PyValue} (h : ∀ v ∈ items, Clean (safe_value v)) (n : Nat) :
    (safe_values n items).length ≤ n ∧ ∀ v ∈ safe_values n items, Clean v := by
  induction items generalizing n with
  | nil => simp [safe_values]
  | cons v items ih =>
    cases n with
    | zero => simp [safe_values]
    | succ n =>
      obtain ⟨hlength, hclean⟩ := ih (fun w hw => h w (List.mem_cons_of_mem _ hw)) n
      simp only [safe_values, List.length_cons]
      refine ⟨by omega, ?_⟩
      intro w hw
      rcases List.mem_cons.mp hw with rfl | hw
      · exact h v List.mem_cons_self
      · exact hclean w hw

theorem clean_mapping {items : Metadata} (h : ∀ p ∈ items, Clean (safe_value p.2)) :
    Clean (.mapping (sanitize_items [] items)) := by
  have hentries : ∀ p ∈ sanitize_items [] items, CleanEntry p := clean_items h (by simp)
  refine .mapping _ ?_ (nodup_sanitize items List.nodup_nil) ?_
  · intro p hp
    exact ⟨(hentries p hp).1, (hentries p hp).2.1⟩
  · intro p hp
    exact (hentries p hp).2.2

/-- `str(uuid)` has 36 characters. -/
def UuidText : Prop := ∀ u : UUID, (Platform.str_uuid u).length = 36

theorem clean_safe_value (huuid : UuidText) (v : PyValue) : Clean (safe_value v) := by
  induction v using PyValue.tree with
  | hleaf v hleaf =>
    cases v with
    | none => exact .none
    | bool b => exact .bool b
    | int n => exact .int n
    | float repr => exact .float repr
    | str t =>
      simp only [safe_value]
      refine .str _ ?_
      simp
    | uuid u =>
      simp only [safe_value]
      refine .str _ ?_
      rw [huuid u]
      omega
    | other t =>
      simp only [safe_value]
      refine .str _ ?_
      simp
    | mapping => cases hleaf
    | list => cases hleaf
  | hmapping items ih =>
    simp only [safe_value]
    exact clean_mapping ih
  | hlist items ih =>
    simp only [safe_value]
    obtain ⟨hlength, hclean⟩ := clean_values ih 50
    exact .list _ hlength hclean

/-! ## A clean tree stays as it is -/

/-- The loop over entries that are clean and new appends them. -/
theorem sanitize_clean_items {items : Metadata}
    (hkeys : ∀ p ∈ items, p.1.length ≤ 100 ∧ isSensitive p.1 = false)
    (hvalues : ∀ p ∈ items, safe_value p.2 = p.2) {sanitized : Metadata}
    (hdistinct : (keys (sanitized ++ items)).Nodup) :
    sanitize_items sanitized items = sanitized ++ items := by
  induction items generalizing sanitized with
  | nil => simp [sanitize_items]
  | cons p items ih =>
    obtain ⟨raw_key, value⟩ := p
    obtain ⟨hshort, hplain⟩ := hkeys _ List.mem_cons_self
    have hcut : raw_key.take 100 = raw_key := List.take_of_length_le hshort
    have hsame : safe_value value = value := hvalues _ List.mem_cons_self
    have hnew : sanitized.any (fun p => p.1 = raw_key) = false := by
      rw [Bool.eq_false_iff]
      intro hany
      have hmem : raw_key ∈ keys sanitized := any_key.mp hany
      simp only [keys, List.map_append, List.map_cons] at hdistinct
      exact (List.nodup_append.mp hdistinct).2.2 _ hmem _ List.mem_cons_self rfl
    have hset : dictSet sanitized raw_key value = sanitized ++ [(raw_key, value)] := by
      simp [dictSet, hnew]
    have hrest : sanitize_items (sanitized ++ [(raw_key, value)]) items =
        (sanitized ++ [(raw_key, value)]) ++ items := by
      apply ih
      · exact fun p hp => hkeys p (List.mem_cons_of_mem _ hp)
      · exact fun p hp => hvalues p (List.mem_cons_of_mem _ hp)
      · simpa using hdistinct
    simp only [sanitize_items, hcut, hplain, hsame, hset, Bool.false_eq_true, if_false, hrest]
    simp

theorem safe_values_self {items : List PyValue} (h : ∀ v ∈ items, safe_value v = v) {n : Nat}
    (hlength : items.length ≤ n) : safe_values n items = items := by
  induction items generalizing n with
  | nil => simp [safe_values]
  | cons v items ih =>
    cases n with
    | zero => simp at hlength
    | succ n =>
      simp only [List.length_cons] at hlength
      simp only [safe_values, h v List.mem_cons_self]
      rw [ih (fun w hw => h w (List.mem_cons_of_mem _ hw)) (by omega)]

theorem safe_value_of_clean {v : PyValue} (h : Clean v) : safe_value v = v := by
  induction h with
  | none => simp [safe_value]
  | bool => simp [safe_value]
  | int => simp [safe_value]
  | float => simp [safe_value]
  | str t hlength =>
    simp only [safe_value]
    rw [List.take_of_length_le hlength]
  | list items hlength _ ih => rw [safe_value, safe_values_self ih hlength]
  | mapping items hkeys hdistinct _ ih =>
    have hself : sanitize_items [] items = [] ++ items := sanitize_clean_items hkeys ih hdistinct
    rw [safe_value, hself, List.nil_append]

/-- The sanitizer makes of every metadata tree a clean one, and makes of that
one itself. -/
theorem sanitized_metadata_is_bounded_and_stable (huuid : UuidText) (metadata : Metadata) :
    Clean (.mapping (sanitize_audit_metadata metadata)) ∧
      sanitize_audit_metadata (sanitize_audit_metadata metadata) = sanitize_audit_metadata metadata := by
  have hclean : Clean (.mapping (sanitize_audit_metadata metadata)) :=
    clean_mapping fun p _ => clean_safe_value huuid p.2
  refine ⟨hclean, ?_⟩
  have hself := safe_value_of_clean hclean
  simp only [safe_value] at hself
  exact PyValue.mapping.inj hself

/-! ## Texts of ids -/

/-- The lower `n` hexadecimal digits of an id. -/
def hexDigits : Nat → UUID → Text
  | 0, _ => []
  | n + 1, u => hexDigits n (u / 16) ++ [Nat.digitChar (u % 16)]

/-- `str(uuid)`: groups of 8, 4, 4, 4 and 12 digits. -/
def uuid_text (u : UUID) : Text :=
  let digits := hexDigits 32 u
  digits.take 8 ++ '-' :: (digits.drop 8).take 4 ++ '-' :: (digits.drop 12).take 4 ++
    '-' :: (digits.drop 16).take 4 ++ '-' :: digits.drop 20

/-- The sample platform with the texts of ids. -/
@[reducible] def uuidPlatform : Platform := { samplePlatform with str_uuid := uuid_text }

omit [Platform] in
theorem length_hexDigits (n : Nat) (u : UUID) : (hexDigits n u).length = n := by
  induction n generalizing u with
  | zero => rfl
  | succ n ih => simp [hexDigits, ih]

omit [Platform] in
theorem uuid_text_length : @UuidText uuidPlatform := by
  intro u
  show (uuid_text u).length = 36
  simp [uuid_text, length_hexDigits]

/-- A role change as its request reports it, with a list of three hundred notes
and a note that is far too long. -/
def longMetadata : Metadata :=
  [("target_user_id".toList, .uuid 7), ("notes".toList, .list (List.replicate 300 (.int 1))),
   ("note".toList, .str (List.replicate 900 'x')),
   ("session".toList, .mapping [("Refresh-Token".toList, .str "abc".toList)])]

omit [Platform] in
theorem long_metadata_is_cut :
    (@sanitize_audit_metadata uuidPlatform longMetadata).map Prod.fst =
        ["target_user_id".toList, "notes".toList, "note".toList, "session".toList] ∧
      @sanitize_audit_metadata uuidPlatform (@sanitize_audit_metadata uuidPlatform longMetadata) =
        @sanitize_audit_metadata uuidPlatform longMetadata :=
  ⟨by decide +kernel,
    (@sanitized_metadata_is_bounded_and_stable uuidPlatform uuid_text_length longMetadata).2⟩

end pulseforge

-- What the audit log keeps of metadata. Entries whose key tells a secret are
-- dropped, but the key is cut before it is looked at: a secret stays away
-- exactly when no entry that is kept has a key that tells it further on.
import PulseForge.Lib.Dict
import PulseForge.Api

open dict

namespace pulseforge

variable [Platform]

/-! ## Secrets -/

mutual
/-- The value without what is below an entry with a sensitive key. -/
def redact : PyValue → PyValue
  | .mapping items => .mapping (redact_items items)
  | .list items => .list (redact_values items)
  | v => v

def redact_values : List PyValue → List PyValue
  | [] => []
  | v :: vs => redact v :: redact_values vs

def redact_items : Metadata → Metadata
  | [] => []
  | (raw_key, value) :: items =>
    (raw_key, if isSensitive raw_key then .none else redact value) :: redact_items items
end

/-- The two trees differ at most below entries with sensitive keys. -/
def SameButSecrets (m m' : Metadata) : Prop := redact_items m = redact_items m'

/-- The entry is kept: what is looked at of its key is not sensitive, and no
later entry of the mapping takes its place. -/
def isKept (raw_key : Text) (later : Metadata) : Bool :=
  !isSensitive (raw_key.take 100) && !(later.any fun p => p.1.take 100 = raw_key.take 100)

mutual
/-- Something that is kept of the value stands below a sensitive key. -/
def exposes : PyValue → Bool
  | .mapping items => exposes_items items
  | .list items => exposes_values 50 items
  | _ => false

def exposes_values : Nat → List PyValue → Bool
  | _, [] => false
  | 0, _ :: _ => false
  | n + 1, v :: vs => exposes v || exposes_values n vs

def exposes_items : Metadata → Bool
  | [] => false
  | (raw_key, value) :: items =>
    (isKept raw_key items && (isSensitive raw_key || exposes value)) || exposes_items items
end

/-! ## The stored entries -/

/-- The value that the mapping leaves under a key of the result. -/
def storedValue (key : Text) : Metadata → Option PyValue
  | [] => none
  | (raw_key, value) :: items =>
    (storedValue key items).or
      (if raw_key.take 100 = key ∧ isSensitive key = false then some value else none)

omit [Platform] in
theorem dictSet_eq (d : Metadata) (key : Text) (value : PyValue) : dictSet d key value = set d key value :=
  rfl

theorem lookup_sanitize (key : Text) (items sanitized : Metadata) :
    (sanitize_items sanitized items).lookup key =
      ((storedValue key items).map safe_value).or (sanitized.lookup key) := by
  induction items generalizing sanitized with
  | nil => simp [sanitize_items, storedValue]
  | cons p items ih =>
    obtain ⟨raw_key, value⟩ := p
    simp only [sanitize_items, storedValue]
    split
    · rename_i hsensitive
      rw [ih, if_neg]
      · simp
      · rintro ⟨rfl, hnot⟩
        rw [hsensitive] at hnot
        cases hnot
    · rename_i hplain
      rw [ih, dictSet_eq, lookup_set]
      by_cases hkey : key = raw_key.take 100
      · subst hkey
        rw [if_pos rfl, if_pos ⟨rfl, by simpa using hplain⟩]
        cases storedValue (raw_key.take 100) items <;> rfl
      · rw [if_neg hkey, if_neg fun h => hkey h.1.symm]
        cases storedValue key items <;> rfl

theorem nodup_sanitize (items : Metadata) {sanitized : Metadata} (h : (keys sanitized).Nodup) :
    (keys (sanitize_items sanitized items)).Nodup := by
  induction items generalizing sanitized with
  | nil => exact h
  | cons p items ih =>
    obtain ⟨raw_key, value⟩ := p
    simp only [sanitize_items]
    split
    · exact ih h
    · exact ih (nodup_set h)

/-- The keys of the result come from the keys alone. -/
theorem keys_sanitize_congr {items items' : Metadata} (h : keys items = keys items')
    {sanitized sanitized' : Metadata} (hs : keys sanitized = keys sanitized') :
    keys (sanitize_items sanitized items) = keys (sanitize_items sanitized' items') := by
  induction items generalizing items' sanitized sanitized' with
  | nil =>
    cases items' with
    | nil => exact hs
    | cons p items' => cases h
  | cons p items ih =>
    cases items' with
    | nil => cases h
    | cons p' items' =>
      obtain ⟨raw_key, value⟩ := p
      obtain ⟨raw_key', value'⟩ := p'
      simp only [keys_cons, List.cons.injEq] at h
      obtain ⟨rfl, hrest⟩ := h
      simp only [sanitize_items]
      split
      · exact ih hrest hs
      · refine ih hrest ?_
        rw [dictSet_eq, dictSet_eq, keys_set, keys_set, hs]

/-- Two mappings with the same keys and the same values under every key of the
result are sanitized alike. -/
theorem sanitize_ext {items items' : Metadata} (h : keys items = keys items')
    (hvalue : ∀ key, (storedValue key items).map safe_value = (storedValue key items').map safe_value) :
    sanitize_items [] items = sanitize_items [] items' := by
  refine ext_lookup (nodup_sanitize items List.nodup_nil) (keys_sanitize_congr h rfl) fun key => ?_
  rw [lookup_sanitize, lookup_sanitize, hvalue]

theorem keys_redact (items : Metadata) : keys (redact_items items) = keys items := by
  induction items with
  | nil => rfl
  | cons p items ih =>
    obtain ⟨raw_key, value⟩ := p
    simp only [redact_items, keys_cons, ih]

/-- Nothing is stored under a key that no entry is cut to, or a sensitive one. -/
theorem storedValue_isSome {key : Text} {items : Metadata} :
    (storedValue key items).isSome = true ↔
      isSensitive key = false ∧ ∃ raw_key ∈ keys items, raw_key.take 100 = key := by
  induction items with
  | nil => simp [storedValue, keys]
  | cons p items ih =>
    obtain ⟨raw_key, value⟩ := p
    simp only [storedValue, Option.isSome_or, Bool.or_eq_true, ih, keys_cons, List.mem_cons]
    by_cases hkey : raw_key.take 100 = key ∧ isSensitive key = false
    · simp [hkey.1, hkey.2]
    · rw [if_neg hkey]
      simp only [Option.isSome_none, Bool.false_eq_true, or_false]
      constructor
      · rintro ⟨hplain, raw, hraw, heq⟩
        exact ⟨hplain, raw, Or.inr hraw, heq⟩
      · rintro ⟨hplain, raw, rfl | hraw, heq⟩
        · exact absurd ⟨heq, hplain⟩ hkey
        · exact ⟨hplain, raw, hraw, heq⟩

theorem storedValue_none_congr {key : Text} {items items' : Metadata} (h : keys items = keys items')
    (hnone : storedValue key items = none) : storedValue key items' = none := by
  rw [← Option.not_isSome_iff_eq_none, storedValue_isSome] at hnone ⊢
  rwa [← h]

/-- What is kept of a mapping is stored under the cut key. -/
theorem isKept_iff {raw_key : Text} {items : Metadata} : isKept raw_key items = true ↔
    isSensitive (raw_key.take 100) = false ∧ storedValue (raw_key.take 100) items = none := by
  have hany : (items.any fun p => p.1.take 100 = raw_key.take 100) = true ↔
      ∃ raw ∈ keys items, raw.take 100 = raw_key.take 100 := by
    simp [keys]
  unfold isKept
  rw [Bool.and_eq_true, Bool.not_eq_true', Bool.not_eq_true', ← Bool.not_eq_true (List.any _ _), hany,
    ← Option.not_isSome_iff_eq_none, storedValue_isSome]
  constructor
  · rintro ⟨hplain, hnone⟩
    exact ⟨hplain, fun h => hnone h.2⟩
  · rintro ⟨hplain, hnone⟩
    exact ⟨hplain, fun h => hnone ⟨hplain, h⟩⟩

/-! ## Trees -/

def PyValue.isLeaf : PyValue → Bool
  | .mapping _ => false
  | .list _ => false
  | _ => true

omit [Platform] in
/-- What holds of the leaves, and of a mapping and of a list when it holds of
the values in it, holds of every tree. -/
theorem PyValue.tree {P : PyValue → Prop} (hleaf : ∀ v, v.isLeaf = true → P v)
    (hmapping : ∀ items, (∀ p ∈ items, P p.2) → P (.mapping items))
    (hlist : ∀ items, (∀ v ∈ items, P v) → P (.list items)) : ∀ v, P v
  | .mapping items => hmapping items fun p _ => PyValue.tree hleaf hmapping hlist p.2
  | .list items => hlist items fun v _ => PyValue.tree hleaf hmapping hlist v
  | .none => hleaf _ rfl
  | .bool _ => hleaf _ rfl
  | .int _ => hleaf _ rfl
  | .float _ => hleaf _ rfl
  | .str _ => hleaf _ rfl
  | .uuid _ => hleaf _ rfl
  | .other _ => hleaf _ rfl
termination_by v => sizeOf v
decreasing_by
  · rename_i hp
    have h := List.sizeOf_lt_of_mem hp
    obtain ⟨k, v⟩ := p
    simp only [Prod.mk.sizeOf_spec, mapping.sizeOf_spec] at h ⊢
    omega
  · rename_i hv
    have h := List.sizeOf_lt_of_mem hv
    simp only [list.sizeOf_spec]
    omega

/-! ## No exposure, no secret -/

theorem leaf_of_redact {v v' : PyValue} (hleaf : v.isLeaf = true) (h : redact v = redact v') :
    v = v' := by
  cases v <;> cases v' <;> simp_all [redact, PyValue.isLeaf]

/-- The result does not depend on what stands below sensitive keys. -/
def Discreet (v : PyValue) : Prop :=
  exposes v = false → ∀ v', redact v = redact v' → safe_value v = safe_value v'

theorem discreet_values {items : List PyValue} (h : ∀ v ∈ items, Discreet v) {n : Nat}
    (hexposes : exposes_values n items = false) {items' : List PyValue}
    (heq : redact_values items = redact_values items') : safe_values n items = safe_values n items' := by
  induction items generalizing n items' with
  | nil =>
    cases items' with
    | nil => rfl
    | cons v' items' => cases heq
  | cons v items ih =>
    cases items' with
    | nil => cases heq
    | cons v' items' =>
      simp only [redact_values, List.cons.injEq] at heq
      cases n with
      | zero => rfl
      | succ n =>
        simp only [exposes_values, Bool.or_eq_false_iff] at hexposes
        simp only [safe_values]
        rw [h v List.mem_cons_self hexposes.1 v' heq.1,
          ih (fun w hw => h w (List.mem_cons_of_mem _ hw)) hexposes.2 heq.2]

theorem discreet_items {items : Metadata} (h : ∀ p ∈ items, Discreet p.2)
    (hexposes : exposes_items items = false) {items' : Metadata}
    (heq : redact_items items = redact_items items') (key : Text) :
    (storedValue key items).map safe_value = (storedValue key items').map safe_value := by
  induction items generalizing items' with
  | nil =>
    cases items' with
    | nil => rfl
    | cons p' items' => cases heq
  | cons p items ih =>
    cases items' with
    | nil => cases heq
    | cons p' items' =>
      obtain ⟨raw_key, value⟩ := p
      obtain ⟨raw_key', value'⟩ := p'
      simp only [redact_items, List.cons.injEq, Prod.mk.injEq] at heq
      obtain ⟨⟨rfl, hvalue⟩, hrest⟩ := heq
      simp only [exposes_items, Bool.or_eq_false_iff] at hexposes
      have hlater := ih (fun q hq => h q (List.mem_cons_of_mem _ hq)) hexposes.2 hrest
      simp only [storedValue]
      cases hstored : storedValue key items with
      | some w =>
        rw [hstored] at hlater
        obtain ⟨w', hw', hsafe⟩ := Option.map_eq_some_iff.mp hlater.symm
        simp [hw', hsafe]
      | none =>
        rw [hstored] at hlater
        have hnone : storedValue key items' = none := by simpa using hlater.symm
        rw [hnone]
        simp only [Option.none_or]
        split
        · rename_i hkey
          obtain ⟨rfl, hplain⟩ := hkey
          have hkept : isKept raw_key items = true := isKept_iff.mpr ⟨hplain, hstored⟩
          simp only [hkept, Bool.true_and, Bool.or_eq_false_iff] at hexposes
          rw [hexposes.1.1] at hvalue
          simp only [Bool.false_eq_true, if_false] at hvalue
          simp [h _ List.mem_cons_self hexposes.1.2 value' hvalue]
        · rfl

theorem discreet (v : PyValue) : Discreet v := by
  induction v using PyValue.tree with
  | hleaf v hleaf =>
    intro _ v' heq
    rw [leaf_of_redact hleaf heq]
  | hmapping items ih =>
    intro hexposes v' heq
    cases v' with
    | mapping items' =>
      simp only [redact, PyValue.mapping.injEq] at heq
      have hkeys : keys items = keys items' := by
        rw [← keys_redact items, heq, keys_redact]
      simp only [safe_value]
      rw [sanitize_ext hkeys (discreet_items ih hexposes heq)]
    | _ => cases heq
  | hlist items ih =>
    intro hexposes v' heq
    cases v' with
    | list items' =>
      simp only [redact, PyValue.list.injEq] at heq
      simp only [safe_value]
      rw [discreet_values ih hexposes heq]
    | _ => cases heq

/-! ## Exposure, and a secret that shows -/

/-- Another tree with the same secrets taken out is sanitized otherwise. -/
def Shows (v : PyValue) : Prop :=
  exposes v = true → ∃ v', redact v = redact v' ∧ safe_value v ≠ safe_value v'

theorem exists_other_value (v : PyValue) : ∃ v', safe_value v ≠ safe_value v' := by
  by_cases h : safe_value v = .none
  · exact ⟨.bool true, by rw [h]; simp [safe_value]⟩
  · exact ⟨.none, by simpa [safe_value] using h⟩

theorem shows_values {items : List PyValue} (h : ∀ v ∈ items, Shows v) {n : Nat}
    (hexposes : exposes_values n items = true) :
    ∃ items', redact_values items = redact_values items' ∧
      safe_values n items ≠ safe_values n items' := by
  induction items generalizing n with
  | nil => simp [exposes_values] at hexposes
  | cons v items ih =>
    cases n with
    | zero => cases hexposes
    | succ n =>
      simp only [exposes_values, Bool.or_eq_true] at hexposes
      rcases hexposes with hv | hrest
      · obtain ⟨v', hsame, hother⟩ := h v List.mem_cons_self hv
        refine ⟨v' :: items, by simp [redact_values, hsame], ?_⟩
        simp only [safe_values, ne_eq, List.cons.injEq, not_and]
        exact fun heq => absurd heq hother
      · obtain ⟨items', hsame, hother⟩ := ih (fun w hw => h w (List.mem_cons_of_mem _ hw)) hrest
        refine ⟨v :: items', by simp [redact_values, hsame], ?_⟩
        simp only [safe_values, ne_eq, List.cons.injEq, not_and]
        exact fun _ => hother

theorem shows_items {items : Metadata} (h : ∀ p ∈ items, Shows p.2)
    (hexposes : exposes_items items = true) :
    ∃ items', redact_items items = redact_items items' ∧
      ∃ key, (storedValue key items).map safe_value ≠ (storedValue key items').map safe_value := by
  induction items with
  | nil => simp [exposes_items] at hexposes
  | cons p items ih =>
    obtain ⟨raw_key, value⟩ := p
    simp only [exposes_items, Bool.or_eq_true, Bool.and_eq_true] at hexposes
    rcases hexposes with ⟨hkept, hvalue⟩ | hrest
    · obtain ⟨hplain, hnone⟩ := isKept_iff.mp hkept
      -- The value of the entry itself is exchanged.
      obtain ⟨value', hsame, hother⟩ : ∃ value',
          (if isSensitive raw_key then PyValue.none else redact value) =
            (if isSensitive raw_key then PyValue.none else redact value') ∧
          safe_value value ≠ safe_value value' := by
        rcases hvalue with hsensitive | hbelow
        · obtain ⟨value', hother⟩ := exists_other_value value
          exact ⟨value', by rw [hsensitive]; rfl, hother⟩
        · obtain ⟨value', hsame, hother⟩ := h _ List.mem_cons_self hbelow
          exact ⟨value', by rw [hsame], hother⟩
      refine ⟨(raw_key, value') :: items, by simp only [redact_items, hsame], raw_key.take 100, ?_⟩
      simpa [storedValue, hnone, hplain] using hother
    · obtain ⟨items', hsame, key, hother⟩ := ih (fun q hq => h q (List.mem_cons_of_mem _ hq)) hrest
      refine ⟨(raw_key, value) :: items', by simp only [redact_items, hsame], key, ?_⟩
      have hkeys : keys items = keys items' := by
        rw [← keys_redact items, hsame, keys_redact]
      -- A later entry takes the place in both mappings.
      cases hstored : storedValue key items with
      | none =>
        rw [hstored, storedValue_none_congr hkeys hstored] at hother
        exact absurd rfl hother
      | some w =>
        cases hstored' : storedValue key items' with
        | none =>
          rw [storedValue_none_congr hkeys.symm hstored'] at hstored
          cases hstored
        | some w' =>
          rw [hstored, hstored'] at hother
          simpa [storedValue, hstored, hstored'] using hother

theorem lookup_sanitized (items : Metadata) (key : Text) :
    (sanitize_items [] items).lookup key = (storedValue key items).map safe_value := by
  rw [lookup_sanitize]
  simp

theorem shows (v : PyValue) : Shows v := by
  induction v using PyValue.tree with
  | hleaf v hleaf =>
    intro hexposes
    cases v <;> first | cases hexposes | cases hleaf
  | hmapping items ih =>
    intro hexposes
    obtain ⟨items', hsame, key, hother⟩ := shows_items ih hexposes
    refine ⟨.mapping items', by simp only [redact, hsame], fun heq => hother ?_⟩
    simp only [safe_value, PyValue.mapping.injEq] at heq
    rw [← lookup_sanitized, heq, lookup_sanitized]
  | hlist items ih =>
    intro hexposes
    obtain ⟨items', hsame, hother⟩ := shows_values ih hexposes
    refine ⟨.list items', by simp only [redact, hsame], fun heq => hother ?_⟩
    simpa only [safe_value, PyValue.list.injEq] using heq

/-! ## Plain keys -/

/-- `str.lower` keeps lower-case ASCII letters and underscores. -/
def LowerKeepsAscii : Prop :=
  ∀ t : Text, (∀ c ∈ t, c = '_' ∨ c.isLower = true) → Platform.lower t = t

/-- A short key of such letters, with none of the sensitive parts in it. -/
def isPlain (key : Text) : Bool :=
  key.all (fun c => c = '_' || c.isLower) && key.length ≤ 100 &&
    !(SENSITIVE_KEY_PARTS.any fun part => key.tails.any fun tail => part.isPrefixOf tail)

theorem isSensitive_of_plain (hl : LowerKeepsAscii) {key : Text} (h : isPlain key = true) :
    isSensitive key = false := by
  unfold isPlain at h
  simp only [Bool.and_eq_true, List.all_eq_true, Bool.or_eq_true, decide_eq_true_eq,
    Bool.not_eq_true'] at h
  obtain ⟨⟨hletters, _⟩, hnone⟩ := h
  have hsame : (Platform.lower key).map (fun c => if c = '-' then '_' else c) = key := by
    rw [hl key hletters]
    refine (List.map_congr_left fun c hc => if_neg ?_).trans (List.map_id key)
    rintro rfl
    exact absurd (hletters _ hc) (by decide)
  unfold isSensitive
  simp only [hsame, hnone]

omit [Platform] in
theorem take_plain {key : Text} (h : isPlain key = true) : key.take 100 = key := by
  unfold isPlain at h
  simp only [Bool.and_eq_true, decide_eq_true_eq] at h
  exact List.take_of_length_le h.1.2

theorem sanitize_plain (hl : LowerKeepsAscii) {items sanitized : Metadata}
    (h : ∀ key ∈ keys items, isPlain key = true) (hnodup : (keys sanitized ++ keys items).Nodup) :
    sanitize_items sanitized items = sanitized ++ items.map fun p => (p.1, safe_value p.2) := by
  induction items generalizing sanitized with
  | nil => simp [sanitize_items]
  | cons p items ih =>
    obtain ⟨key, value⟩ := p
    have hkey : isPlain key = true := h _ List.mem_cons_self
    have hnew : sanitized.any (fun p => p.1 = key) = false := by
      rw [← Bool.not_eq_true, any_key]
      intro hmem
      exact List.disjoint_of_nodup_append hnodup hmem List.mem_cons_self
    have hset : dictSet sanitized key (safe_value value) = sanitized ++ [(key, safe_value value)] := by
      simp [dictSet, hnew]
    simp only [sanitize_items, take_plain hkey, isSensitive_of_plain hl hkey, Bool.false_eq_true,
      if_false, hset]
    rw [ih (fun key hk => h key (List.mem_cons_of_mem _ hk)), List.append_assoc]
    · rfl
    · simpa [keys] using hnodup

/-- Metadata with plain keys is kept entry by entry. -/
theorem metadata_plain (hl : LowerKeepsAscii) (names : List Text) {items : Metadata}
    (hkeys : keys items = names) (h : names.all isPlain = true) (hnodup : names.Nodup) :
    sanitize_audit_metadata items = items.map fun p => (p.1, safe_value p.2) := by
  subst hkeys
  refine sanitize_plain hl (fun key hk => List.all_eq_true.mp h key hk) ?_
  simpa [keys] using hnodup

/-! ## The audit row -/

/-- What an audit row keeps of its metadata is the same, whatever stands below
the entries with sensitive keys, exactly when nothing that it keeps does. -/
theorem no_secret_reaches_the_audit_log_iff (e : Env) (id : UUID) (action : AuditAction)
    (resource_type : Text) (organization_id actor_user_id resource_id : Option UUID)
    (metadata : Metadata) :
    (∀ other, SameButSecrets metadata other →
      (audit_row e id action resource_type organization_id actor_user_id resource_id
          metadata).metadata_json =
        (audit_row e id action resource_type organization_id actor_user_id resource_id
          other).metadata_json) ↔
      exposes_items metadata = false := by
  show (∀ other, SameButSecrets metadata other →
    sanitize_items [] metadata = sanitize_items [] other) ↔ exposes_items metadata = false
  constructor
  · intro h
    by_contra hexposes
    obtain ⟨other, hsame, key, hother⟩ :=
      shows_items (fun p _ => shows p.2) (Bool.not_eq_false _ ▸ hexposes)
    refine hother ?_
    rw [← lookup_sanitized, h other hsame, lookup_sanitized]
  · intro hexposes other hsame
    have hkeys : keys metadata = keys other := by
      rw [← keys_redact metadata, hsame, keys_redact]
    exact sanitize_ext hkeys (discreet_items (fun p _ => discreet p.2) hexposes hsame)

def padding : Text := List.replicate 100 'x'

/-- A password under a key whose first hundred characters do not tell it. -/
def longKey (password : Text) : Metadata := [(padding ++ "password".toList, .str password)]

/-- The audit row of such metadata. -/
def longKeyRow (password : Text) : AuditLog :=
  @audit_row samplePlatform (sampleEnv 0) 0 .SERVICE_CREATED "service".toList none none none
    (longKey password)

omit [Platform] in
theorem a_password_under_a_long_key_is_stored :
    @isSensitive samplePlatform (padding ++ "password".toList) = true ∧
      (longKeyRow "hunter2".toList).metadata_json = [(padding, .str "hunter2".toList)] ∧
      @SameButSecrets samplePlatform (longKey "hunter2".toList) (longKey "swordfish".toList) ∧
      (longKeyRow "hunter2".toList).metadata_json ≠ (longKeyRow "swordfish".toList).metadata_json := by
  have hsensitive : @isSensitive samplePlatform (padding ++ "password".toList) = true := by
    decide +kernel
  have hstored : ∀ password : Text, (longKeyRow password).metadata_json =
      [(padding, .str (password.take 500))] := by
    intro password
    have hcut : (padding ++ "password".toList).take 100 = padding := rfl
    have hplain : @isSensitive samplePlatform padding = false := by decide +kernel
    show @sanitize_items samplePlatform [] (longKey password) = _
    simp only [longKey, sanitize_items, hcut, hplain, Bool.false_eq_true, if_false, safe_value]
    rfl
  refine ⟨hsensitive, hstored _, ?_, ?_⟩
  · simp only [SameButSecrets, longKey, redact_items, hsensitive, if_true]
  · rw [hstored, hstored]
    simp

end pulseforge

-- The bounds of the texts that a creation writes. The schemas count a text before
-- the handlers strip it, and `str.upper` makes more characters of some.
import PulseForge.StoredRows
import Mathlib.Algebra.Order.BigOperators.Group.List
import Mathlib.Algebra.Order.Group.Nat
import Mathlib.Algebra.GroupWithZero.Nat

open txn table

namespace pulseforge

/-! ## The case maps of Python -/

/-- The characters that `str.upper` makes three of, as ranges of code points. -/
def UPPER_TRIPLES : List (Nat × Nat) :=
  [(0x390, 0x390), (0x3b0, 0x3b0), (0x1f52, 0x1f52), (0x1f54, 0x1f54), (0x1f56, 0x1f56),
   (0x1fb7, 0x1fb7), (0x1fc7, 0x1fc7), (0x1fd2, 0x1fd3), (0x1fd7, 0x1fd7), (0x1fe2, 0x1fe3),
   (0x1fe7, 0x1fe7), (0x1ff7, 0x1ff7), (0xfb03, 0xfb04)]

/-- The characters that `str.upper` makes two of. -/
def UPPER_PAIRS : List (Nat × Nat) :=
  [(0xdf, 0xdf), (0x149, 0x149), (0x1f0, 0x1f0), (0x587, 0x587), (0x1e96, 0x1e9a),
   (0x1f50, 0x1f50), (0x1f80, 0x1faf), (0x1fb2, 0x1fb4), (0x1fb6, 0x1fb6), (0x1fbc, 0x1fbc),
   (0x1fc2, 0x1fc4), (0x1fc6, 0x1fc6), (0x1fcc, 0x1fcc), (0x1fd6, 0x1fd6), (0x1fe4, 0x1fe4),
   (0x1fe6, 0x1fe6), (0x1ff2, 0x1ff4), (0x1ff6, 0x1ff6), (0x1ffc, 0x1ffc), (0xfb00, 0xfb02),
   (0xfb05, 0xfb06), (0xfb13, 0xfb17)]

def amongRanges (c : Char) (ranges : List (Nat × Nat)) : Bool :=
  ranges.any fun range => range.1 ≤ c.toNat && c.toNat ≤ range.2

def upperLength (c : Char) : Nat :=
  if amongRanges c UPPER_TRIPLES then 3 else if amongRanges c UPPER_PAIRS then 2 else 1

/-- `str.lower` makes two characters of the capital I with a dot. -/
def lowerLength (c : Char) : Nat := if c.toNat = 0x130 then 2 else 1

/-- The length of `t.encode("utf8")`. -/
def octets (t : Text) : Nat := (t.map Char.utf8Size).sum

theorem one_le_upperLength (c : Char) : 1 ≤ upperLength c := by
  unfold upperLength
  split
  · omega
  · split <;> omega

theorem lowerLength_le_utf8Size (c : Char) : lowerLength c ≤ c.utf8Size := by
  unfold lowerLength
  split
  · rename_i hcode
    have hval : c.val.toNat = 0x130 := hcode
    unfold Char.utf8Size
    simp only [UInt32.le_iff_toNat_le, hval]
    decide
  · exact c.utf8Size_pos

variable [Platform]

/-- What Python documents of the lengths of its case maps. -/
structure CaseLengths : Prop where
  upper : ∀ t, (Platform.upper t).length = (t.map upperLength).sum
  lower : ∀ t, (Platform.lower t).length = (t.map lowerLength).sum

/-! ## The columns -/

/-- A text column of a new row: the bound of the schema, the bound of the column,
and the text that is written. -/
structure TextColumn where
  min_length : Nat
  max_length : Option Nat
  value : Text

def TextColumn.InBounds (column : TextColumn) : Prop :=
  column.min_length ≤ column.value.length ∧ ∀ n ∈ column.max_length, column.value.length ≤ n

/-- A payload that its schema took, with what its handler adds to it. `EmailStr`
takes an address of at most 254 octets. -/
inductive AcceptedPayload
  | event (payload : EventCreate) (api_key : ApiKey)
  | user (payload : UserRegister) (email_octets : octets payload.email ≤ 254)
  | organization (payload : OrganizationCreate) (user_id : UUID)
  | service (payload : ServiceCreate)
  | api_key (payload : ApiKeyCreate) (owner : Service)

def eventColumns (v : Event) : List TextColumn :=
  [⟨1, some 120, v.event_id⟩, ⟨1, some 120, v.event_type⟩, ⟨1, none, v.message⟩] ++
    (v.trace_id.toList ++ v.request_id.toList).map fun t => ⟨0, some 120, t⟩

def userColumns (u : User) : List TextColumn := [⟨0, some 320, u.email⟩, ⟨1, some 120, u.full_name⟩]

def organizationColumns (o : Organization) : List TextColumn :=
  [⟨2, some 120, o.name⟩, ⟨2, some 80, o.slug⟩]

def serviceColumns (v : Service) : List TextColumn :=
  [⟨2, some 120, v.name⟩, ⟨2, some 80, v.slug⟩] ++ v.description.toList.map fun t => ⟨0, none, t⟩

def apiKeyColumns (k : ApiKey) : List TextColumn := [⟨2, some 120, k.name⟩]

/-- The texts of the row that the handler of the payload adds. -/
def AcceptedPayload.written (e : Env) : AcceptedPayload → List TextColumn
  | .event payload key => eventColumns (new_event e payload key)
  | .user payload _ => userColumns (new_user e payload)
  | .organization payload user_id => organizationColumns (new_organization e payload user_id)
  | .service payload => serviceColumns (new_service e payload)
  | .api_key payload owner => apiKeyColumns (new_api_key e owner payload)

/-- Each text of the row is in its bounds. -/
def AcceptedPayload.StaysInBounds (e : Env) (a : AcceptedPayload) : Prop :=
  ∀ column ∈ a.written e, column.InBounds

/-- The text has this many characters that are no white space. -/
def Filled (n : Nat) (t : Text) : Prop := n ≤ t.countP fun c => !isSpace c

/-- The texts are not blank, a name has two characters that are no white space, and
the capital letters of the stripped event type are at most 120. -/
def AcceptedPayload.Fits : AcceptedPayload → Prop
  | .event payload _ => Filled 1 payload.event_id ∧ Filled 1 payload.event_type ∧
      ((strip payload.event_type).map upperLength).sum ≤ 120 ∧ Filled 1 payload.message
  | .user payload _ => Filled 1 payload.full_name
  | .organization payload _ => Filled 2 payload.name
  | .service payload => Filled 2 payload.name
  | .api_key payload _ => Filled 2 payload.name

/-! ## Stripping -/

section
variable {t : Text}

omit [Platform] in
theorem countP_dropWhile (t : Text) :
    (t.dropWhile isSpace).countP (fun c => !isSpace c) = t.countP fun c => !isSpace c := by
  induction t with
  | nil => rfl
  | cons c t ih =>
    by_cases hc : isSpace c = true
    · rw [List.dropWhile_cons_of_pos hc, ih, List.countP_cons_of_neg (by simp [hc])]
    · rw [List.dropWhile_cons_of_neg hc]

omit [Platform] in
theorem countP_strip (t : Text) :
    (strip t).countP (fun c => !isSpace c) = t.countP fun c => !isSpace c := by
  unfold strip List.rdropWhile
  rw [List.countP_reverse, countP_dropWhile, List.countP_reverse, countP_dropWhile]

omit [Platform] in
theorem strip_head {c : Char} {rest : Text} (h : strip t = c :: rest) : isSpace c = false := by
  have hdropped : (strip t).dropWhile isSpace = strip t :=
    dropWhile_eq_self_of_prefix (List.dropWhile_idempotent isSpace t) (List.rdropWhile_prefix isSpace _)
  rw [h, List.dropWhile_eq_self_iff] at hdropped
  have hhead : ¬ isSpace c = true := hdropped (Nat.zero_lt_succ _)
  simpa using hhead

omit [Platform] in
theorem strip_last (h : strip t ≠ []) : isSpace ((strip t).getLast h) = false := by
  have hlast : ¬ isSpace ((strip t).getLast h) = true := List.rdropWhile_last_not isSpace _ h
  simpa using hlast

omit [Platform] in
/-- The first and the last character that strip leaves are no white space. -/
theorem le_length_strip {n : Nat} (hn : n ≤ 2) : n ≤ (strip t).length ↔ Filled n t := by
  unfold Filled
  rw [← countP_strip]
  refine ⟨fun h => ?_, fun h => h.trans List.countP_le_length⟩
  cases hstripped : strip t with
  | nil =>
    rw [hstripped] at h
    exact h
  | cons c rest =>
    rw [hstripped] at h
    rw [List.countP_cons_of_pos (by simp [strip_head hstripped])]
    cases rest with
    | nil => simpa using h
    | cons d rest =>
      have hne : strip t ≠ [] := by simp [hstripped]
      have hlast : isSpace ((d :: rest).getLast (by simp)) = false := by
        have hlast := strip_last hne
        simpa only [hstripped, List.getLast_cons (List.cons_ne_nil d rest)] using hlast
      have hpos : 0 < (d :: rest).countP fun c => !isSpace c :=
        List.countP_pos_iff.mpr ⟨_, List.getLast_mem (by simp), by simp [hlast]⟩
      omega

/-! ## The columns in their bounds -/

omit [Platform] in
theorem stripped_inBounds {n m : Nat} (hn : n ≤ 2) (hm : t.length ≤ m) :
    TextColumn.InBounds ⟨n, some m, strip t⟩ ↔ Filled n t := by
  have hlength := (strip_length_le t).trans hm
  simp [TextColumn.InBounds, hlength, le_length_strip hn]

omit [Platform] in
theorem unchanged_inBounds {n m : Nat} (hn : n ≤ t.length) (hm : t.length ≤ m) :
    TextColumn.InBounds ⟨n, some m, t⟩ := by
  simp [TextColumn.InBounds, hn, hm]

theorem upper_inBounds (hcase : CaseLengths) :
    TextColumn.InBounds ⟨1, some 120, Platform.upper (strip t)⟩ ↔
      Filled 1 t ∧ ((strip t).map upperLength).sum ≤ 120 := by
  simp only [TextColumn.InBounds, hcase.upper, Option.mem_some_iff, forall_eq']
  refine and_congr_left fun _ => ?_
  rw [← le_length_strip (by omega)]
  have hle : (strip t).length ≤ ((strip t).map upperLength).sum := by
    have hones := List.length_le_sum_of_one_le ((strip t).map upperLength) fun n hn => by
      obtain ⟨c, _, rfl⟩ := List.mem_map.mp hn
      exact one_le_upperLength c
    simpa using hones
  constructor
  · intro h
    by_contra hempty
    have hnil : strip t = [] := List.length_eq_zero_iff.mp (by omega)
    simp [hnil] at h
  · omega

theorem email_inBounds (hcase : CaseLengths) (h : octets t ≤ 254) :
    TextColumn.InBounds ⟨0, some 320, Platform.lower t⟩ := by
  have hle : (t.map lowerLength).sum ≤ octets t :=
    List.sum_le_sum fun c _ => lowerLength_le_utf8Size c
  simp only [TextColumn.InBounds, hcase.lower, Option.mem_some_iff, forall_eq', Nat.zero_le, true_and]
  omega

end

/-- What a handler writes of an accepted payload is in the bounds of the schema and
of the columns exactly if the payload fits. -/
theorem accepted_texts_are_in_bounds_iff (hcase : CaseLengths) (e : Env) (a : AcceptedPayload) :
    a.StaysInBounds e ↔ a.Fits := by
  unfold AcceptedPayload.StaysInBounds
  cases a with
  | event payload api_key =>
    have hid := stripped_inBounds (t := payload.event_id) (by omega : 1 ≤ 2) payload.event_id_length.2
    have hmessage :
        TextColumn.InBounds ⟨1, none, strip payload.message⟩ ↔ Filled 1 payload.message := by
      simp [TextColumn.InBounds, le_length_strip]
    have hkept : ∀ column ∈ (payload.trace_id.toList ++ payload.request_id.toList).map
        fun t => (⟨0, some 120, t⟩ : TextColumn), column.InBounds := by
      intro column hcolumn
      obtain ⟨t, ht, rfl⟩ := List.mem_map.mp hcolumn
      rcases List.mem_append.mp ht with ht | ht
      · exact unchanged_inBounds (Nat.zero_le _) (payload.trace_id_length t (by simpa using ht))
      · exact unchanged_inBounds (Nat.zero_le _) (payload.request_id_length t (by simpa using ht))
    simp only [AcceptedPayload.written, eventColumns, new_event, AcceptedPayload.Fits]
    rw [List.forall_mem_append, and_iff_left hkept]
    simp [hid, upper_inBounds hcase, hmessage, and_assoc]
  | user payload email_octets =>
    have hemail := email_inBounds hcase email_octets
    have hname := stripped_inBounds (t := payload.full_name) (by omega : 1 ≤ 2) payload.full_name_length.2
    simp [AcceptedPayload.written, userColumns, new_user, hemail, hname, AcceptedPayload.Fits]
  | organization payload user_id =>
    have hname := stripped_inBounds (t := payload.name) (by omega : 2 ≤ 2) payload.name_length.2
    have hslug := unchanged_inBounds payload.slug_length.1 payload.slug_length.2
    simp [AcceptedPayload.written, organizationColumns, new_organization, hslug, hname,
      AcceptedPayload.Fits]
  | service payload =>
    have hname := stripped_inBounds (t := payload.name) (by omega : 2 ≤ 2) payload.name_length.2
    have hslug := unchanged_inBounds payload.slug_length.1 payload.slug_length.2
    have hdescription : ∀ t, TextColumn.InBounds ⟨0, none, t⟩ := fun t => by simp [TextColumn.InBounds]
    simp [AcceptedPayload.written, serviceColumns, new_service, hslug, hname, hdescription,
      AcceptedPayload.Fits]
  | api_key payload owner =>
    have hname := stripped_inBounds (t := payload.name) (by omega : 2 ≤ 2) payload.name_length.2
    simp [AcceptedPayload.written, apiKeyColumns, new_api_key, hname, AcceptedPayload.Fits]

/-! ## A blank id and a long street -/

/-- ASCII case maps, and as many capital letters as Python has for the others. -/
@[reducible] def casePlatform : Platform :=
  { samplePlatform with
    upper := fun t => t.flatMap fun c =>
      if upperLength c = 1 then [c.toUpper] else List.replicate (upperLength c) 'S'
    lower := fun t => t.flatMap fun c =>
      if c.toNat = 0x130 then ['i', '\u0307'] else [c.toLower] }

omit [Platform] in
theorem casePlatform_lengths : @CaseLengths casePlatform := by
  refine @CaseLengths.mk casePlatform (fun t => ?_) (fun t => ?_)
  · show (t.flatMap _).length = _
    rw [List.length_flatMap]
    refine congrArg (fun f => (t.map f).sum) (funext fun c => ?_)
    split
    · rename_i hone
      simp [hone]
    · simp
  · show (t.flatMap _).length = _
    rw [List.length_flatMap]
    refine congrArg (fun f => (t.map f).sum) (funext fun c => ?_)
    unfold lowerLength
    split <;> rfl

/-- An event whose type has one sharp s. -/
def streetEvent : EventCreate :=
  { sampleEvent 'a' 0 with event_type := " straße ".toList, event_type_length := by decide }

/-- An event whose type has no room for its capital letters. -/
def longEvent : EventCreate :=
  { sampleEvent 'a' 0 with event_type := List.replicate 120 'ß', event_type_length := by simp }

omit [Platform] in
theorem a_street_fits :
    @AcceptedPayload.StaysInBounds casePlatform (sampleEnv 5) (.event streetEvent ingestKey) := by
  have hfits : (AcceptedPayload.event streetEvent ingestKey).Fits := by
    simp only [AcceptedPayload.Fits, Filled]
    decide
  exact (@accepted_texts_are_in_bounds_iff casePlatform casePlatform_lengths (sampleEnv 5)
    (.event streetEvent ingestKey)).mpr hfits

omit [Platform] in
/-- A blank id is stored as the empty text, and capital letters do not fit. -/
theorem a_blank_id_and_a_long_street_do_not_fit :
    let s := run.after (@serve casePlatform) Store.empty (sampleRun.drop 5)
    let key := some (Bearer.text (create_raw_key (sampleEnv 4) true))
    let blank := sampleEvent ' ' 0
    (∃ v ∈ (@handle casePlatform (sampleEnv 5) (.ingest key blank) s).2.events, v.event_id = []) ∧
      ¬ @AcceptedPayload.StaysInBounds casePlatform (sampleEnv 5) (.event blank ingestKey) ∧
      ¬ @AcceptedPayload.StaysInBounds casePlatform (sampleEnv 5) (.event longEvent ingestKey) := by
  intro s key blank
  refine ⟨by decide +kernel, fun h => ?_, fun h => ?_⟩
  · have hid := (h ⟨1, some 120, strip [' ']⟩ (List.mem_cons_self ..)).1
    exact absurd hid (by decide)
  · have htype := (h ⟨1, some 120, @Platform.upper casePlatform (strip longEvent.event_type)⟩
      (List.mem_cons_of_mem _ (List.mem_cons_self ..))).2 120 rfl
    exact absurd htype (by decide +kernel)

end pulseforge

-- The slugs that the forms of the dashboard make, and those that the API takes:
-- of any text, `slugify` leaves its words in the letters of a slug, joined by
-- hyphens, and that is what the pattern of the API matches.
import PulseForge.Lib.Words
import PulseForge.Types

open words

namespace pulseforge

/-! ## The pattern -/

/-- `[a-z0-9]`. -/
def slug_letters : List Char := "abcdefghijklmnopqrstuvwxyz0123456789".toList

/-- `^[a-z0-9]+(?:-[a-z0-9]+)*$`. -/
def slug_pattern : RegularExpression Char := separated '-' (oneOrMore (oneOf slug_letters))

/-- What the field of a slug takes. -/
def slug_field (slug : Text) : Prop :=
  slug ∈ slug_pattern.matches' ∧ 2 ≤ slug.length ∧ slug.length ≤ 80

instance (slug : Text) : Decidable (slug_field slug) :=
  inferInstanceAs (Decidable (_ ∧ _ ∧ _))

/-! ## Strings of the browser -/

/-- A string of JavaScript: its UTF-16 code units, with any surrogates. -/
abbrev JsString := List UInt16

/-- The code unit of a character below U+10000. -/
def unit (c : Char) : UInt16 := UInt16.ofNat c.toNat

def codeUnits (c : Char) : JsString :=
  if c.toNat < 0x10000 then [unit c]
  else [UInt16.ofNat (0xd800 + (c.toNat - 0x10000) / 0x400),
    UInt16.ofNat (0xdc00 + (c.toNat - 0x10000) % 0x400)]

/-- The string that a text is in the browser. -/
def utf16 (t : Text) : JsString := t.flatMap codeUnits

/-- The string is one that the pattern matches. -/
def IsSlug (value : JsString) : Prop := ∃ slug ∈ slug_pattern.matches', utf16 slug = value

/-- The code units that `trim` takes off: white space and line terminators. -/
def isTrimmed (u : UInt16) : Bool :=
  (0x9 ≤ u && u ≤ 0xd) || u = 0x20 || u = 0xa0 || u = 0x1680 || (0x2000 ≤ u && u ≤ 0x200a) ||
    u = 0x2028 || u = 0x2029 || u = 0x202f || u = 0x205f || u = 0x3000 || u = 0xfeff

def trim (value : JsString) : JsString := (value.dropWhile isTrimmed).rdropWhile isTrimmed

/-- `[^a-z0-9]`, on code units. -/
def isOther (u : UInt16) : Bool := !((0x61 ≤ u && u ≤ 0x7a) || (0x30 ≤ u && u ≤ 0x39))

/-- What the pages take from the tables of Unicode. -/
class CaseMapping where
  toLowerCase : JsString → JsString

/-- `value.trim().toLowerCase().replace(/[^a-z0-9]+/g, "-").replace(/^-|-$/g, "")`. -/
def slugify [CaseMapping] (value : JsString) : JsString :=
  let lowered := CaseMapping.toLowerCase (trim value)
  replaceAll (endOf (unit '-')) [] (replaceAll (runOf isOther) [unit '-'] lowered)

/-! ## What the pattern matches -/

/-- The letters of a slug are ASCII, so what holds of them is seen by looking at each. -/
theorem forall_slug_unit {P : UInt16 → Prop}
    (h : ∀ n < 128, isOther (UInt16.ofNat n) = false → P (UInt16.ofNat n)) {u : UInt16}
    (hu : isOther u = false) : P u := by
  have hsmall : u.toNat < 128 := by
    simp only [isOther, Bool.not_eq_false', Bool.or_eq_true, Bool.and_eq_true, decide_eq_true_eq,
      UInt16.le_iff_toNat_le] at hu
    have hz : (0x7a : UInt16).toNat = 122 := rfl
    have h9 : (0x39 : UInt16).toNat = 57 := rfl
    omega
  have hP := h u.toNat hsmall
  rw [UInt16.ofNat_toNat] at hP
  exact hP hu

theorem mem_slug_units (u : UInt16) : u ∈ slug_letters.map unit ↔ isOther u = false := by
  constructor
  · intro hu
    have hall : ((slug_letters.map unit).all fun u => !isOther u) = true := by decide
    simpa using List.all_eq_true.mp hall u hu
  · exact forall_slug_unit (by decide)

/-- In UTF-16, a slug is its characters one by one. -/
theorem utf16_slug {slug : Text} (h : slug ∈ slug_pattern.matches') : utf16 slug = slug.map unit := by
  have hsep : ∀ c, c ∈ slug_letters ↔ (decide (c ∉ slug_letters)) = false := by
    intro c
    simp
  have hunits : (('-' :: slug_letters).all fun c => codeUnits c == [unit c]) = true := by decide
  obtain ⟨ws, _, hws, rfl⟩ := (mem_separated_words hsep).mp h
  unfold utf16
  rw [List.map_eq_flatMap]
  refine List.flatMap_congr fun c hc => eq_of_beq (List.all_eq_true.mp hunits c ?_)
  rcases mem_joined hc with rfl | ⟨w, hw, hc⟩
  · exact List.mem_cons_self
  · exact List.mem_cons_of_mem _ ((hsep c).mpr ((hws w hw).2 c hc))

/-- The slugs are the words in the letters of a slug, joined by hyphens. -/
theorem isSlug_iff {value : JsString} :
    IsSlug value ↔ ∃ ws, ws ≠ [] ∧ AreWords isOther ws ∧ value = joined (unit '-') ws := by
  have hmapped : IsSlug value ↔ value ∈ (slug_pattern.map unit).matches' := by
    rw [RegularExpression.matches'_map]
    refine exists_congr fun slug => and_congr_right fun hslug => ?_
    rw [utf16_slug hslug]
  rw [hmapped, slug_pattern, map_separated]
  exact mem_separated_words mem_slug_units

/-! ## What slugify leaves -/

section
variable [CaseMapping]

/-- The words of the value, joined by hyphens. -/
theorem slugify_eq (value : JsString) :
    slugify value = joined (unit '-') (wordsOf isOther (CaseMapping.toLowerCase (trim value))) :=
  replaced_eq_joined (by decide) _

theorem slugify_empty_or_slug (value : JsString) : slugify value = [] ∨ IsSlug (slugify value) := by
  rw [slugify_eq]
  by_cases hnone : wordsOf isOther (CaseMapping.toLowerCase (trim value)) = []
  · rw [hnone]
    exact Or.inl rfl
  · exact Or.inr (isSlug_iff.mpr ⟨_, hnone, areWords_wordsOf _, rfl⟩)

/-- The form sends a text that the field takes, unless it is too short or too long. -/
theorem slug_field_of_slugify (value : JsString) : ∃ slug, slugify value = utf16 slug ∧
    (slug_field slug ↔ 2 ≤ slug.length ∧ slug.length ≤ 80) := by
  rcases slugify_empty_or_slug value with hnone | ⟨slug, hslug, heq⟩
  · exact ⟨[], hnone, by simp [slug_field]⟩
  · exact ⟨slug, heq.symm, and_iff_right hslug⟩

/-! ## What slugify leaves alone -/

def asciiLower (u : UInt16) : UInt16 := if 0x41 ≤ u && u ≤ 0x5a then u + 0x20 else u

/-- `toLowerCase` maps the letters of an ASCII string, and nothing else of it. -/
def LowersAscii : Prop :=
  ∀ value : JsString, (∀ u ∈ value, u < 0x80) → CaseMapping.toLowerCase value = value.map asciiLower

omit [CaseMapping] in
theorem trim_eq_self {value : JsString} (hhead : ∀ u ∈ value.head?, isTrimmed u = false)
    (hlast : ∀ u ∈ value.getLast?, isTrimmed u = false) : trim value = value := by
  have hleft : value.dropWhile isTrimmed = value := by
    cases value with
    | nil => rfl
    | cons u value => exact List.dropWhile_cons_of_neg (by simp [hhead u rfl])
  unfold trim
  rw [hleft, List.rdropWhile_eq_self_iff]
  intro hne
  rw [hlast _ (List.getLast_mem_getLast? hne)]
  exact Bool.false_ne_true

omit [CaseMapping] in
/-- No character of joined words is trimmed or mapped. -/
theorem plain_joined {ws : List JsString} (hws : AreWords isOther ws) :
    ∀ u ∈ joined (unit '-') ws, u < 0x80 ∧ asciiLower u = u := by
  intro u hu
  rcases mem_joined hu with rfl | ⟨w, hw, hu⟩
  · decide
  · exact forall_slug_unit (P := fun u => u < 0x80 ∧ asciiLower u = u) (by decide) ((hws w hw).2 u hu)

theorem slugify_joined (hlower : LowersAscii) {ws : List JsString} (hws : AreWords isOther ws) :
    slugify (joined (unit '-') ws) = joined (unit '-') ws := by
  have huntrimmed : ∀ u : UInt16, isOther u = false → isTrimmed u = false :=
    fun _ => forall_slug_unit (P := fun u => isTrimmed u = false) (by decide)
  have htrim : trim (joined (unit '-') ws) = joined (unit '-') ws :=
    trim_eq_self (fun u hu => huntrimmed u (joined_head hws u hu))
      (fun u hu => huntrimmed u (joined_last hws u hu))
  have hlowered : (joined (unit '-') ws).map asciiLower = joined (unit '-') ws :=
    (List.map_congr_left fun u hu => (plain_joined hws u hu).2).trans (List.map_id _)
  rw [slugify_eq, htrim, hlower _ fun u hu => (plain_joined hws u hu).1, hlowered,
    wordsOf_joined (by decide) hws]

theorem slugify_slug (hlower : LowersAscii) {value : JsString} (h : IsSlug value) :
    slugify value = value := by
  obtain ⟨ws, _, hws, rfl⟩ := isSlug_iff.mp h
  exact slugify_joined hlower hws

theorem slugify_slugify (hlower : LowersAscii) (value : JsString) :
    slugify (slugify value) = slugify value := by
  rw [slugify_eq value]
  exact slugify_joined hlower (areWords_wordsOf _)

/-- `slugify` makes nothing or a slug, it leaves a slug as it is, and so it
leaves what it made. -/
theorem slugify_targets_the_slug_pattern (hlower : LowersAscii) :
    (∀ value, slugify value = [] ∨ IsSlug (slugify value)) ∧
      (∀ value, IsSlug value → slugify value = value) ∧
      ∀ value, slugify (slugify value) = slugify value :=
  ⟨slugify_empty_or_slug, fun _ => slugify_slug hlower, slugify_slugify hlower⟩

end

/-- The case mapping of Latin-1. -/
@[reducible] def latinCase : CaseMapping where
  toLowerCase := List.map fun u =>
    if (0x41 ≤ u && u ≤ 0x5a) || (0xc0 ≤ u && u ≤ 0xde && u ≠ 0xd7) then u + 0x20 else u

theorem latin_lowers_ascii : @LowersAscii latinCase := by
  intro value hascii
  refine List.map_congr_left fun u hu => ?_
  have hsmall : ¬ 0xc0 ≤ u := by
    have hu := UInt16.lt_iff_toNat_lt.mp (hascii u hu)
    rw [UInt16.le_iff_toNat_le]
    exact Nat.not_le.mpr (hu.trans (by decide))
  simp [asciiLower, hsmall]

theorem a_title_becomes_a_slug :
    @slugify latinCase (utf16 "  Café Été -- (v2) ".toList) = utf16 "caf-t-v2".toList ∧
      IsSlug (@slugify latinCase (utf16 "  Café Été -- (v2) ".toList)) :=
  ⟨by decide, ((@slugify_targets_the_slug_pattern latinCase latin_lowers_ascii).1 _).resolve_left (by decide)⟩

/-- The slugs of the schema tests. -/
example : slug_field "payment-service".toList ∧ ¬ slug_field "payment_service".toList ∧
    ¬ slug_field "-payment".toList := by decide +kernel

end pulseforge

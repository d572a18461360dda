-- Words in a text: the runs between its separators, the texts that words make
-- when one separator joins them, the regular expression of such texts, and the
-- scan that replaces every match of a pattern. No character is named here.
import Mathlib.Computability.RegularExpressions

namespace words

variable {α : Type}

/-! ## Runs -/

/-- A text that starts with a `p`, cut where its first run of `p` ends. -/
theorem first_run (p : α → Bool) {c : α} (hc : p c = true) (text : List α) :
    ∃ r rest, c :: text = r ++ rest ∧ r ≠ [] ∧ (∀ x ∈ r, p x = true) ∧
      (∀ x ∈ rest.head?, p x = false) ∧ rest.length < (c :: text).length := by
  have hrun : (c :: text).takeWhile p = c :: text.takeWhile p := List.takeWhile_cons_of_pos hc
  have hrest : (c :: text).dropWhile p = text.dropWhile p := List.dropWhile_cons_of_pos hc
  refine ⟨(c :: text).takeWhile p, (c :: text).dropWhile p, ?_, ?_, ?_, ?_, ?_⟩
  · exact List.takeWhile_append_dropWhile.symm
  · rw [hrun]
    exact List.cons_ne_nil _ _
  · exact List.all_eq_true.mp List.all_takeWhile
  · intro x hx
    have hnot := List.head?_dropWhile_not p (c :: text)
    rw [Option.mem_def.mp hx] at hnot
    simpa using hnot
  · rw [hrest, List.length_cons]
    have hle := (List.dropWhile_sublist p (l := text)).length_le
    omega

/-- A text is read run by run, of separators and of other characters in turn. -/
@[elab_as_elim]
theorem runs_induction (sep : α → Bool) {motive : List α → Prop} (nil : motive [])
    (gap : ∀ r text, r ≠ [] → (∀ c ∈ r, sep c = true) → (∀ c ∈ text.head?, sep c = false) →
      motive text → motive (r ++ text))
    (word : ∀ r text, r ≠ [] → (∀ c ∈ r, sep c = false) → (∀ c ∈ text.head?, sep c = true) →
      motive text → motive (r ++ text)) (text : List α) : motive text := by
  induction hn : text.length using Nat.strong_induction_on generalizing text with
  | _ n ih =>
    cases text with
    | nil => exact nil
    | cons c text =>
      cases hc : sep c with
      | true =>
        obtain ⟨r, rest, heq, hr, hall, hhead, hlt⟩ := first_run sep hc text
        rw [hn] at hlt
        rw [heq]
        exact gap r rest hr hall hhead (ih _ hlt rest rfl)
      | false =>
        have hnot : (!sep c) = true := by simp [hc]
        obtain ⟨r, rest, heq, hr, hall, hhead, hlt⟩ := first_run (fun x => !sep x) hnot text
        rw [hn] at hlt
        rw [heq]
        refine word r rest hr ?_ ?_ (ih _ hlt rest rfl)
        · exact fun x hx => by simpa using hall x hx
        · exact fun x hx => by simpa using hhead x hx

/-- The runs between the separators, without the empty ones. -/
def wordsOf (sep : α → Bool) (text : List α) : List (List α) :=
  (text.splitOnP sep).filter fun w => !w.isEmpty

section
variable {sep : α → Bool}

@[simp] theorem wordsOf_nil : wordsOf sep [] = [] := rfl

/-- Separators at the front are in no word. -/
theorem wordsOf_gap {r : List α} (hr : ∀ c ∈ r, sep c = true) (text : List α) :
    wordsOf sep (r ++ text) = wordsOf sep text := by
  induction r with
  | nil => rfl
  | cons c r ih =>
    have hc : sep c = true := hr c List.mem_cons_self
    unfold wordsOf at *
    rw [List.cons_append, List.splitOnP_cons_eq_if_modifyHead, if_pos hc]
    exact ih fun x hx => hr x (List.mem_cons_of_mem _ hx)

/-- A run of other characters at the front is the first word. -/
theorem wordsOf_word {r : List α} (hne : r ≠ []) (hr : ∀ c ∈ r, sep c = false) {text : List α}
    (hhead : ∀ c ∈ text.head?, sep c = true) : wordsOf sep (r ++ text) = r :: wordsOf sep text := by
  have hempty : r.isEmpty = false := by simpa using hne
  unfold wordsOf
  cases text with
  | nil => simp [List.splitOnP_eq_singleton hr, hempty]
  | cons c text =>
    have hc : sep c = true := hhead c rfl
    rw [List.splitOnP_append_cons_of_forall_mem hr c hc, List.splitOnP_cons_eq_if_modifyHead, if_pos hc]
    simp [hempty]

/-- Words have characters, and none of them is a separator. -/
def AreWords (sep : α → Bool) (ws : List (List α)) : Prop :=
  ∀ w ∈ ws, w ≠ [] ∧ ∀ c ∈ w, sep c = false

theorem areWords_wordsOf (text : List α) : AreWords sep (wordsOf sep text) := by
  induction text using runs_induction sep with
  | nil => exact fun w hw => absurd hw List.not_mem_nil
  | gap r text _ hall _ ih => rwa [wordsOf_gap hall]
  | word r text hne hall hhead ih =>
    rw [wordsOf_word hne hall hhead]
    exact List.forall_mem_cons.mpr ⟨⟨hne, hall⟩, ih⟩

/-! ## Joined words -/

/-- The words with a character between each two of them. -/
def joined (h : α) (ws : List (List α)) : List α := [h].intercalate ws

@[simp] theorem joined_nil (h : α) : joined h [] = [] := rfl

@[simp] theorem joined_singleton (h : α) (w : List α) : joined h [w] = w := List.intercalate_singleton

theorem joined_cons (h : α) (w : List α) {ws : List (List α)} (hws : ws ≠ []) :
    joined h (w :: ws) = w ++ h :: joined h ws := by
  unfold joined
  rw [List.intercalate_cons_of_ne_nil hws, List.append_assoc]
  rfl

/-- Joined words are read back. -/
theorem wordsOf_joined {h : α} (hsep : sep h = true) {ws : List (List α)} (hws : AreWords sep ws) :
    wordsOf sep (joined h ws) = ws := by
  induction ws with
  | nil => rfl
  | cons w ws ih =>
    obtain ⟨⟨hne, hall⟩, hrest⟩ := List.forall_mem_cons.mp hws
    cases ws with
    | nil =>
      have hword : wordsOf sep (w ++ []) = w :: wordsOf sep [] := wordsOf_word hne hall nofun
      rw [List.append_nil] at hword
      rw [joined_singleton, hword, wordsOf_nil]
    | cons w' ws =>
      have hhead : ∀ c ∈ (h :: joined h (w' :: ws)).head?, sep c = true := by
        intro c hc
        rwa [← Option.some.inj hc]
      have hgap : ∀ c ∈ [h], sep c = true := by simpa using hsep
      have hrest' : wordsOf sep (h :: joined h (w' :: ws)) = w' :: ws :=
        (wordsOf_gap hgap _).trans (ih hrest)
      rw [joined_cons h w (List.cons_ne_nil _ _), wordsOf_word hne hall hhead, hrest']

theorem joined_ne_nil (h : α) {ws : List (List α)} (hws : AreWords sep ws) (hne : ws ≠ []) :
    joined h ws ≠ [] := by
  obtain ⟨w, ws, rfl⟩ := List.exists_cons_of_ne_nil hne
  obtain ⟨⟨hw, _⟩, _⟩ := List.forall_mem_cons.mp hws
  by_cases hmore : ws = []
  · rw [hmore, joined_singleton]
    exact hw
  · rw [joined_cons h w hmore]
    exact List.append_ne_nil_of_left_ne_nil hw _

/-- The first character `h` of a text tells where the part before it ends. -/
theorem append_cons_inj {h : α} {w v rest rest' : List α} (hw : h ∉ w) (hv : h ∉ v)
    (heq : w ++ h :: rest = v ++ h :: rest') : w = v ∧ rest = rest' := by
  induction w generalizing v with
  | nil =>
    cases v with
    | nil => exact ⟨rfl, (List.cons.inj heq).2⟩
    | cons c v => exact absurd (List.cons.inj heq).1 (List.ne_of_not_mem_cons hv)
  | cons c w ih =>
    cases v with
    | nil => exact absurd (List.cons.inj heq).1.symm (List.ne_of_not_mem_cons hw)
    | cons d v =>
      obtain ⟨hcd, hrest⟩ := List.cons.inj heq
      obtain ⟨hsame, hafter⟩ := ih (List.not_mem_of_not_mem_cons hw) (List.not_mem_of_not_mem_cons hv) hrest
      exact ⟨by rw [hcd, hsame], hafter⟩

/-- As many parts are read back, where no part but the last holds the character. -/
theorem joined_inj {h : α} {ws vs : List (List α)} (hlen : ws.length = vs.length)
    (hws : ∀ w ∈ ws.dropLast, h ∉ w) (hvs : ∀ v ∈ vs.dropLast, h ∉ v)
    (heq : joined h ws = joined h vs) : ws = vs := by
  induction ws generalizing vs with
  | nil => exact (List.length_eq_zero_iff.mp hlen.symm).symm
  | cons w ws ih =>
    obtain ⟨v, vs, rfl⟩ := List.exists_cons_of_length_eq_add_one hlen.symm
    have hlen : ws.length = vs.length := by simpa using hlen
    by_cases hmore : ws = []
    · obtain rfl := hmore
      obtain rfl : vs = [] := List.length_eq_zero_iff.mp hlen.symm
      rw [joined_singleton, joined_singleton] at heq
      rw [heq]
    · have hmore' : vs ≠ [] := by
        rintro rfl
        exact hmore (List.length_eq_zero_iff.mp hlen)
      rw [List.dropLast_cons_of_ne_nil hmore, List.forall_mem_cons] at hws
      rw [List.dropLast_cons_of_ne_nil hmore', List.forall_mem_cons] at hvs
      rw [joined_cons h w hmore, joined_cons h v hmore'] at heq
      obtain ⟨hfirst, hrest⟩ := append_cons_inj hws.1 hvs.1 heq
      rw [hfirst, ih hlen hws.2 hvs.2 hrest]

/-- Joined words begin with the first word, and so with no separator. -/
theorem joined_head {h : α} {ws : List (List α)} (hws : AreWords sep ws) :
    ∀ c ∈ (joined h ws).head?, sep c = false := by
  cases ws with
  | nil => exact nofun
  | cons w ws =>
    obtain ⟨⟨hne, hall⟩, _⟩ := List.forall_mem_cons.mp hws
    have hfirst : (joined h (w :: ws)).head? = w.head? := by
      by_cases hmore : ws = []
      · rw [hmore, joined_singleton]
      · rw [joined_cons h w hmore, List.head?_append_of_ne_nil _ hne]
    rw [hfirst]
    exact fun c hc => hall c (List.mem_of_mem_head? hc)

/-- Joined words end with the last word, and so with no separator. -/
theorem joined_last {h : α} {ws : List (List α)} (hws : AreWords sep ws) :
    ∀ c ∈ (joined h ws).getLast?, sep c = false := by
  induction ws with
  | nil => exact nofun
  | cons w ws ih =>
    obtain ⟨⟨_, hall⟩, hrest⟩ := List.forall_mem_cons.mp hws
    by_cases hmore : ws = []
    · rw [hmore, joined_singleton]
      exact fun c hc => hall c (List.mem_of_getLast? hc)
    · rw [joined_cons h w hmore, List.append_cons,
        List.getLast?_append_of_ne_nil _ (joined_ne_nil h hrest hmore)]
      exact ih hrest

end

/-! ## Replacing every match -/

/-- The text from a place on, with each match replaced: `skip` characters of
a match are still to pass, and `first` says that no character was read before.
`matched` gives the length of the match that begins here, 0 for none. -/
def replaceFrom (matched : Bool → List α → Nat) (new : List α) : Nat → Bool → List α → List α
  | _, _, [] => []
  | skip + 1, _, _ :: rest => replaceFrom matched new skip false rest
  | 0, first, c :: rest =>
    match matched first (c :: rest) with
    | 0 => c :: replaceFrom matched new 0 false rest
    | n + 1 => new ++ replaceFrom matched new n false rest

/-- The text with each match replaced, from the left to the right. -/
def replaceAll (matched : Bool → List α → Nat) (new text : List α) : List α :=
  replaceFrom matched new 0 true text

/-- A pattern that matches a run of `p`. -/
def runOf (p : α → Bool) (_ : Bool) (rest : List α) : Nat := (rest.takeWhile p).length

/-- A pattern that matches a character at either end of the text. -/
def endOf [DecidableEq α] (h : α) (first : Bool) (rest : List α) : Nat :=
  if rest.head? = some h ∧ (first = true ∨ rest.length = 1) then 1 else 0

section
variable {sep : α → Bool} {h : α}

theorem replaceFrom_skip (matched : Bool → List α → Nat) (new : List α) (r text : List α) (first : Bool) :
    replaceFrom matched new r.length first (r ++ text) =
      replaceFrom matched new 0 (first && r.isEmpty) text := by
  induction r generalizing first with
  | nil => simp
  | cons c r ih =>
    simp only [List.length_cons, List.cons_append, replaceFrom, ih, Bool.false_and]
    simp

theorem replaceFrom_run_first (new : List α) (first : Bool) (text : List α) :
    replaceFrom (runOf sep) new 0 first text = replaceAll (runOf sep) new text := by
  cases text <;> rfl

/-- A run of separators is replaced as one. -/
theorem replaceAll_gap (new : List α) {r : List α} (hne : r ≠ []) (hr : ∀ c ∈ r, sep c = true)
    {text : List α} (hhead : ∀ c ∈ text.head?, sep c = false) :
    replaceAll (runOf sep) new (r ++ text) = new ++ replaceAll (runOf sep) new text := by
  have hlength : runOf sep true (r ++ text) = r.length := by
    unfold runOf
    rw [List.takeWhile_append_of_pos hr]
    cases text with
    | nil => simp
    | cons c text => simp [hhead c rfl]
  obtain ⟨c, r, rfl⟩ := List.exists_cons_of_ne_nil hne
  rw [List.cons_append] at hlength
  unfold replaceAll
  rw [List.cons_append, replaceFrom, hlength]
  simp only [List.length_cons]
  rw [replaceFrom_skip, replaceFrom_run_first, replaceFrom_run_first]

/-- Other characters stay. -/
theorem replaceAll_word (new : List α) {r : List α} (hr : ∀ c ∈ r, sep c = false) (text : List α) :
    replaceAll (runOf sep) new (r ++ text) = r ++ replaceAll (runOf sep) new text := by
  induction r with
  | nil => rfl
  | cons c r ih =>
    have hc := hr c List.mem_cons_self
    have hnone : runOf sep true (c :: (r ++ text)) = 0 := by simp [runOf, hc]
    rw [List.cons_append, replaceAll, replaceFrom, hnone]
    simp only
    rw [replaceFrom_run_first, ih fun x hx => hr x (List.mem_cons_of_mem _ hx)]
    rfl

/-- Replacing each run of separators by one of them gives the joined words,
with at most one separator more at each end. -/
theorem replaceAll_runOf (sep : α → Bool) (h : α) (text : List α) :
    ∃ trail, (trail = [] ∨ trail = [h] ∧ wordsOf sep text ≠ []) ∧
      replaceAll (runOf sep) [h] text =
        (if text.head?.any sep then [h] else []) ++ (joined h (wordsOf sep text) ++ trail) := by
  induction text using runs_induction sep with
  | nil => exact ⟨[], Or.inl rfl, rfl⟩
  | gap r text hne hall hhead ih =>
    obtain ⟨trail, htrail, heq⟩ := ih
    have hstart : text.head?.any sep = false := by
      cases text with
      | nil => rfl
      | cons c text => exact hhead c rfl
    have hstart' : (r ++ text).head?.any sep = true := by
      obtain ⟨c, r, rfl⟩ := List.exists_cons_of_ne_nil hne
      exact hall c List.mem_cons_self
    refine ⟨trail, by rwa [wordsOf_gap hall], ?_⟩
    rw [replaceAll_gap [h] hne hall hhead, heq, wordsOf_gap hall, hstart, hstart']
    simp
  | word r text hne hall hhead ih =>
    obtain ⟨trail, htrail, heq⟩ := ih
    have hstart : (r ++ text).head?.any sep = false := by
      obtain ⟨c, r, rfl⟩ := List.exists_cons_of_ne_nil hne
      exact hall c List.mem_cons_self
    rw [replaceAll_word [h] hall, heq, wordsOf_word hne hall hhead, hstart]
    cases text with
    | nil =>
      obtain rfl : trail = [] := htrail.resolve_right fun h => h.2 rfl
      exact ⟨[], Or.inl rfl, by simp⟩
    | cons c text =>
      have hc : (c :: text).head?.any sep = true := hhead c rfl
      rw [hc]
      by_cases hws : wordsOf sep (c :: text) = []
      · obtain rfl : trail = [] := htrail.resolve_right fun h => h.2 hws
        refine ⟨[h], Or.inr ⟨rfl, List.cons_ne_nil _ _⟩, ?_⟩
        simp [hws]
      · refine ⟨trail, htrail.imp_right fun h => ⟨h.1, List.cons_ne_nil _ _⟩, ?_⟩
        rw [joined_cons h r hws]
        simp

theorem last_of_cons {p : α → Prop} {c : α} {text : List α} (h : ∀ x ∈ (c :: text).getLast?, p x) :
    ∀ x ∈ text.getLast?, p x := by
  intro x hx
  refine h x ?_
  rw [List.getLast?_cons_of_ne_nil (List.ne_nil_of_mem (List.mem_of_getLast? hx))]
  exact hx

variable [DecidableEq α]

/-- Past the first character, a match is at the end. -/
theorem replaceFrom_endOf {core : List α} (hlast : ∀ c ∈ core.getLast?, c ≠ h) {trail : List α}
    (htrail : trail = [] ∨ trail = [h]) : replaceFrom (endOf h) [] 0 false (core ++ trail) = core := by
  induction core with
  | nil =>
    rcases htrail with rfl | rfl
    · rfl
    · simp [replaceFrom, endOf]
  | cons c core ih =>
    have hnone : endOf h false (c :: (core ++ trail)) = 0 := by
      unfold endOf
      rw [if_neg]
      rintro ⟨hc, hfirst | hone⟩
      · cases hfirst
      · have hempty : core ++ trail = [] := List.eq_nil_of_length_eq_zero (Nat.succ.inj hone)
        obtain ⟨rfl, _⟩ := List.append_eq_nil_iff.mp hempty
        exact hlast c rfl (Option.some.inj hc)
    rw [List.cons_append, replaceFrom, hnone]
    simp only
    rw [ih (last_of_cons hlast)]

/-- One character at each end goes, if it is there. -/
theorem replaceAll_endOf {core : List α} (hhead : ∀ c ∈ core.head?, c ≠ h)
    (hlast : ∀ c ∈ core.getLast?, c ≠ h) {lead trail : List α} (hlead : lead = [] ∨ lead = [h])
    (htrail : trail = [] ∨ trail = [h]) :
    replaceAll (endOf h) [] (lead ++ (core ++ trail)) = core := by
  rcases hlead with rfl | rfl
  · cases core with
    | nil => rcases htrail with rfl | rfl <;> simp [replaceAll, replaceFrom, endOf]
    | cons c core =>
      have hc : c ≠ h := hhead c rfl
      have hnone : endOf h true (c :: (core ++ trail)) = 0 := by simp [endOf, hc]
      rw [List.nil_append, List.cons_append, replaceAll, replaceFrom, hnone]
      simp only
      rw [replaceFrom_endOf (last_of_cons hlast) htrail]
  · have hone : endOf h true (h :: (core ++ trail)) = 1 := by simp [endOf]
    rw [List.singleton_append, replaceAll, replaceFrom, hone]
    exact replaceFrom_endOf hlast htrail

/-- The words of any text, joined: each run of separators is replaced by one of
them, and then the one at each end goes. -/
theorem replaced_eq_joined (hsep : sep h = true) (text : List α) :
    replaceAll (endOf h) [] (replaceAll (runOf sep) [h] text) = joined h (wordsOf sep text) := by
  obtain ⟨trail, htrail, heq⟩ := replaceAll_runOf sep h text
  have hwords : AreWords sep (wordsOf sep text) := areWords_wordsOf text
  have hother : ∀ c, sep c = false → c ≠ h := by
    rintro c hc rfl
    rw [hsep] at hc
    cases hc
  rw [heq]
  refine replaceAll_endOf ?_ ?_ ?_ ?_
  · exact fun c hc => hother c (joined_head hwords c hc)
  · exact fun c hc => hother c (joined_last hwords c hc)
  · split
    · exact Or.inr rfl
    · exact Or.inl rfl
  · exact htrail.imp_right And.left

end

/-! ## The regular expression of joined words -/

open RegularExpression

/-- `[..]`: one of the characters. -/
def oneOf : List α → RegularExpression α
  | [] => 0
  | c :: cs => char c + oneOf cs

/-- `P+`. -/
def oneOrMore (P : RegularExpression α) : RegularExpression α := P * P.star

/-- `P(?:hP)*`: matches of `P` with the character between each two of them. -/
def separated (h : α) (P : RegularExpression α) : RegularExpression α := P * (char h * P).star

section
variable {cs x : List α} {h : α} {P : RegularExpression α}

theorem mem_oneOf : x ∈ (oneOf cs).matches' ↔ ∃ c ∈ cs, x = [c] := by
  induction cs with
  | nil => simp [oneOf]
  | cons c cs ih =>
    rw [oneOf, matches'_add, Language.mem_add, ih, matches'_char, List.exists_mem_cons_iff]
    rfl

/-- `[..]+` matches the texts that have characters, all of them in the brackets. -/
theorem mem_oneOrMore_oneOf : x ∈ (oneOrMore (oneOf cs)).matches' ↔ x ≠ [] ∧ ∀ c ∈ x, c ∈ cs := by
  rw [oneOrMore, matches'_mul, Language.mem_mul, matches'_star]
  constructor
  · rintro ⟨a, ha, b, hb, rfl⟩
    obtain ⟨c, hc, rfl⟩ := mem_oneOf.mp ha
    obtain ⟨L, rfl, hL⟩ := Language.mem_kstar.mp hb
    refine ⟨List.cons_ne_nil _ _, List.forall_mem_cons.mpr ⟨hc, fun d hd => ?_⟩⟩
    obtain ⟨y, hy, hd⟩ := List.mem_flatten.mp hd
    obtain ⟨c', hc', rfl⟩ := mem_oneOf.mp (hL y hy)
    rwa [List.mem_singleton.mp hd]
  · rintro ⟨hne, hall⟩
    obtain ⟨c, x, rfl⟩ := List.exists_cons_of_ne_nil hne
    obtain ⟨hc, hx⟩ := List.forall_mem_cons.mp hall
    refine ⟨[c], mem_oneOf.mpr ⟨c, hc, rfl⟩, x, Language.mem_kstar.mpr ⟨x.map fun d => [d], ?_, ?_⟩, rfl⟩
    · exact (List.flatMap_singleton' x).symm
    · intro y hy
      obtain ⟨d, hd, rfl⟩ := List.mem_map.mp hy
      exact mem_oneOf.mpr ⟨d, hx d hd, rfl⟩

theorem joined_eq_flatten (h : α) (w : List α) (ws : List (List α)) :
    joined h (w :: ws) = w ++ (ws.map fun v => h :: v).flatten := by
  induction ws generalizing w with
  | nil => simp
  | cons v ws ih =>
    rw [joined_cons h w (List.cons_ne_nil _ _), ih v]
    rfl

theorem mem_star_char_mul : x ∈ (char h * P).star.matches' ↔
    ∃ ws : List (List α), (∀ w ∈ ws, w ∈ P.matches') ∧ x = (ws.map fun v => h :: v).flatten := by
  rw [matches'_star, matches'_mul, matches'_char]
  constructor
  · intro hx
    obtain ⟨L, rfl, hL⟩ := Language.mem_kstar.mp hx
    clear hx
    induction L with
    | nil => exact ⟨[], nofun, rfl⟩
    | cons y L ih =>
      obtain ⟨hy, hrest⟩ := List.forall_mem_cons.mp hL
      obtain ⟨ws, hws, heq⟩ := ih hrest
      obtain ⟨a, rfl, w, hw, rfl⟩ := Language.mem_mul.mp hy
      refine ⟨w :: ws, List.forall_mem_cons.mpr ⟨hw, hws⟩, ?_⟩
      rw [List.flatten_cons, heq]
      rfl
  · rintro ⟨ws, hws, rfl⟩
    refine Language.mem_kstar.mpr ⟨_, rfl, fun y hy => ?_⟩
    obtain ⟨w, hw, rfl⟩ := List.mem_map.mp hy
    exact Language.mem_mul.mpr ⟨[h], rfl, w, hws w hw, rfl⟩

theorem mem_separated : x ∈ (separated h P).matches' ↔
    ∃ ws : List (List α), ws ≠ [] ∧ (∀ w ∈ ws, w ∈ P.matches') ∧ x = joined h ws := by
  rw [separated, matches'_mul, Language.mem_mul]
  constructor
  · rintro ⟨w, hw, b, hb, rfl⟩
    obtain ⟨ws, hws, rfl⟩ := mem_star_char_mul.mp hb
    exact ⟨w :: ws, List.cons_ne_nil _ _, List.forall_mem_cons.mpr ⟨hw, hws⟩,
      (joined_eq_flatten h w ws).symm⟩
  · rintro ⟨ws, hne, hws, rfl⟩
    obtain ⟨w, ws, rfl⟩ := List.exists_cons_of_ne_nil hne
    obtain ⟨hw, hrest⟩ := List.forall_mem_cons.mp hws
    exact ⟨w, hw, _, mem_star_char_mul.mpr ⟨ws, hrest, rfl⟩, (joined_eq_flatten h w ws).symm⟩

theorem mem_joined {ws : List (List α)} {c : α} (hc : c ∈ joined h ws) : c = h ∨ ∃ w ∈ ws, c ∈ w := by
  cases ws with
  | nil => exact absurd hc List.not_mem_nil
  | cons w ws =>
    rw [joined_eq_flatten] at hc
    rcases List.mem_append.mp hc with hc | hc
    · exact Or.inr ⟨w, List.mem_cons_self, hc⟩
    · obtain ⟨_, hpart, hc⟩ := List.mem_flatten.mp hc
      obtain ⟨v, hv, rfl⟩ := List.mem_map.mp hpart
      rcases List.mem_cons.mp hc with hc | hc
      · exact Or.inl hc
      · exact Or.inr ⟨v, List.mem_cons_of_mem _ hv, hc⟩

theorem map_oneOf {β : Type} (f : α → β) (cs : List α) : (oneOf cs).map f = oneOf (cs.map f) := by
  induction cs with
  | nil => rfl
  | cons c cs ih =>
    rw [List.map_cons, oneOf, oneOf, ← ih]
    rfl

/-- The expression over another alphabet. -/
theorem map_separated {β : Type} (f : α → β) (h : α) (cs : List α) :
    (separated h (oneOrMore (oneOf cs))).map f = separated (f h) (oneOrMore (oneOf (cs.map f))) := by
  rw [← map_oneOf]
  rfl

/-- The words of the characters in the brackets, joined, are what the expression matches. -/
theorem mem_separated_words {sep : α → Bool} (hcs : ∀ c, c ∈ cs ↔ sep c = false) :
    x ∈ (separated h (oneOrMore (oneOf cs))).matches' ↔
      ∃ ws : List (List α), ws ≠ [] ∧ AreWords sep ws ∧ x = joined h ws := by
  have hwords : ∀ ws : List (List α), (∀ w ∈ ws, w ∈ (oneOrMore (oneOf cs)).matches') ↔ AreWords sep ws := by
    intro ws
    refine forall₂_congr fun w _ => ?_
    rw [mem_oneOrMore_oneOf]
    simp only [hcs]
  rw [mem_separated]
  simp only [hwords]

end

end words

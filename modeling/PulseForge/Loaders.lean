-- The loaders of the dashboard pages. A load takes the next request number and
-- is dropped when a later one was started or another scope is selected; but a
-- load through the closure of an earlier scope takes a number as well, so it can
-- supersede the load of the current scope and be dropped itself.
import PulseForge.Lib.Run
import PulseForge.Types

namespace pulseforge

/-! ## Pages -/

/-- A page with a loader. A page that keeps the scope of its data beside the
data shows it in that scope only; another one empties it when a scope is selected. -/
structure Page (Scope : Type) where
  hasOrganization : Scope → Bool
  keepsScope : Bool

/-- `incidents/page.tsx`: the scope is the organization and the status filter. -/
def IncidentsPage : Page (Text × Text) := ⟨fun scope => !scope.1.isEmpty, true⟩

/-- `settings/members/page.tsx`. -/
def MembersPage : Page Text := ⟨fun organizationId => !organizationId.isEmpty, true⟩

/-- `page.tsx`. -/
def Home : Page Text := ⟨fun organizationId => !organizationId.isEmpty, false⟩

/-- A load that waits for its answers. -/
structure Load (Scope : Type) where
  request : Nat
  requestedScope : Scope
  deriving DecidableEq

structure PageState (Scope D : Type) where
  currentScope : Scope
  requestNumber : Nat
  /-- The effect of the current scope has not run yet. -/
  effectDue : Bool
  loads : List (Load Scope)
  /-- The mutations in flight, each with the scope of the closure that was clicked. -/
  mutations : List Scope
  /-- The data that was set last, with the load that it came from. -/
  loaded : Option (Load Scope × D)

inductive PageEvent (Scope D : Type)
  | select (scope : Scope)
  | effect
  | refresh
  | click
  | mutated (k : Nat)
  | answered (k : Nat) (data : D)

section
variable {Scope D : Type} [DecidableEq Scope] (page : Page Scope)

omit [DecidableEq Scope] in
/-- `load` of the closure of a scope, up to its `await`. -/
def startLoad (scope : Scope) (s : PageState Scope D) : PageState Scope D :=
  if page.hasOrganization scope then
    { s with
      requestNumber := s.requestNumber + 1,
      loads := s.loads ++ [⟨s.requestNumber + 1, scope⟩] }
  else s

/-- The rest of `load`, once all its answers are there. -/
def finishLoad (l : Load Scope) (data : D) (s : PageState Scope D) : PageState Scope D :=
  if l.request ≠ s.requestNumber ∨ l.requestedScope ≠ s.currentScope then s
  else { s with loaded := some (l, data) }

omit [DecidableEq Scope] in
def runEffect (s : PageState Scope D) : PageState Scope D :=
  if s.effectDue then startLoad page s.currentScope { s with effectDue := false } else s

/-- Another scope is rendered, after the effect of the one before it. -/
def selectScope (scope : Scope) (s : PageState Scope D) : PageState Scope D :=
  if scope = s.currentScope then s
  else
    { runEffect page s with
      currentScope := scope,
      effectDue := true,
      loaded := if page.keepsScope then s.loaded else none }

def pageStep (s : PageState Scope D) : PageEvent Scope D → PageState Scope D
  | .select scope => selectScope page scope s
  | .effect => runEffect page s
  | .refresh => startLoad page s.currentScope s
  | .click => { s with mutations := s.mutations ++ [s.currentScope] }
  | .mutated k =>
    match s.mutations[k]? with
    | some scope => startLoad page scope { s with mutations := s.mutations.eraseIdx k }
    | none => s
  | .answered k data =>
    match s.loads[k]? with
    | some l => finishLoad l data { s with loads := s.loads.eraseIdx k }
    | none => s

omit [DecidableEq Scope] in
/-- A page with its first scope, whatever number its requests start from. -/
def pageStart (scope : Scope) (requestNumber : Nat) : PageState Scope D :=
  ⟨scope, requestNumber, true, [], [], none⟩

/-- The data that the page shows, with the load that it came from. -/
def displayed (s : PageState Scope D) : Option (Load Scope × D) :=
  if page.keepsScope then s.loaded.filter fun p => p.1.requestedScope = s.currentScope else s.loaded

/-! ## Pages at rest, and loads that supersede -/

/-- The page shows data of a load for the current scope. -/
def ShowsScope (s : PageState Scope D) : Prop :=
  ∃ p, displayed page s = some p ∧ p.1.requestedScope = s.currentScope

omit [DecidableEq Scope] in
/-- No load and no mutation is in flight, and the effect of the scope has run. -/
structure AtRest (s : PageState Scope D) : Prop where
  loads : s.loads = []
  mutations : s.mutations = []
  effect : s.effectDue = false

/-- After a mutation, a load for an earlier scope starts while nothing of the
current scope is shown and its effect has run. -/
def Supersedes (s : PageState Scope D) : PageEvent Scope D → Prop
  | .mutated k => ∃ scope, s.mutations[k]? = some scope ∧ page.hasOrganization scope = true ∧
      scope ≠ s.currentScope ∧ ¬ ShowsScope page s ∧ s.effectDue = false
  | _ => False

omit [DecidableEq Scope] in
/-- The event starts a load for the current scope, or selects another one. -/
def Renews (s : PageState Scope D) : PageEvent Scope D → Prop
  | .select scope => scope ≠ s.currentScope
  | .effect => s.effectDue = true
  | .refresh => True
  | .mutated k => s.mutations[k]? = some s.currentScope
  | _ => False

/-- The load of the current scope was superseded, and nothing has started one since. -/
def LeftWithout (scope : Scope) (n : Nat) : List (PageEvent Scope D) → Prop
  | [] => False
  | event :: past =>
    let s := run.after (pageStep page) (pageStart scope n) past
    Supersedes page s event ∨ LeftWithout scope n past ∧ ¬ Renews s event

/-! ## One event -/

/-- The current scope has its data, or will have it: its effect is due, or the
load with the newest number is its own. -/
def ScopeCovered (s : PageState Scope D) : Prop :=
  ShowsScope page s ∨ s.effectDue = true ∨
    ∃ l ∈ s.loads, l.request = s.requestNumber ∧ l.requestedScope = s.currentScope

omit [DecidableEq Scope] in
/-- No load in flight is newer than the last request number. -/
def Numbered (s : PageState Scope D) : Prop := ∀ l ∈ s.loads, l.request ≤ s.requestNumber

/-- Data of another scope is kept only by a page that knows whose it is. -/
def Current (s : PageState Scope D) : Prop :=
  page.keepsScope = false → ∀ p, s.loaded = some p → p.1.requestedScope = s.currentScope

variable {page}

theorem showsScope_iff (s : PageState Scope D) :
    ShowsScope page s ↔ ∃ p, s.loaded = some p ∧ p.1.requestedScope = s.currentScope := by
  unfold ShowsScope displayed
  split
  · simp [Option.filter_eq_some_iff]
  · exact Iff.rfl

omit [DecidableEq Scope] in
theorem startLoad_of_organization {scope : Scope} (h : page.hasOrganization scope = true)
    (s : PageState Scope D) :
    startLoad page scope s =
      { s with
        requestNumber := s.requestNumber + 1,
        loads := s.loads ++ [⟨s.requestNumber + 1, scope⟩] } := if_pos h

omit [DecidableEq Scope] in
theorem startLoad_of_none {scope : Scope} (h : ¬ page.hasOrganization scope = true)
    (s : PageState Scope D) : startLoad page scope s = s := if_neg h

omit [DecidableEq Scope] in
@[simp] theorem startLoad_currentScope (scope : Scope) (s : PageState Scope D) :
    (startLoad page scope s).currentScope = s.currentScope := by
  unfold startLoad
  split <;> rfl

omit [DecidableEq Scope] in
@[simp] theorem startLoad_loaded (scope : Scope) (s : PageState Scope D) :
    (startLoad page scope s).loaded = s.loaded := by
  unfold startLoad
  split <;> rfl

omit [DecidableEq Scope] in
theorem numbered_startLoad (scope : Scope) {s : PageState Scope D} (h : Numbered s) :
    Numbered (startLoad page scope s) := by
  by_cases horg : page.hasOrganization scope = true
  · rw [startLoad_of_organization horg]
    intro l hl
    rcases List.mem_append.mp hl with hold | hnew
    · exact Nat.le_succ_of_le (h l hold)
    · rw [List.mem_singleton.mp hnew]
  · rwa [startLoad_of_none horg]

omit [DecidableEq Scope] in
@[simp] theorem runEffect_currentScope (s : PageState Scope D) :
    (runEffect page s).currentScope = s.currentScope := by
  unfold runEffect
  split
  · exact startLoad_currentScope _ _
  · rfl

omit [DecidableEq Scope] in
@[simp] theorem runEffect_loaded (s : PageState Scope D) :
    (runEffect page s).loaded = s.loaded := by
  unfold runEffect
  split
  · exact startLoad_loaded _ _
  · rfl

omit [DecidableEq Scope] in
theorem numbered_runEffect {s : PageState Scope D} (h : Numbered s) :
    Numbered (runEffect page s) := by
  unfold runEffect
  split
  · exact numbered_startLoad _ h
  · exact h

@[simp] theorem finishLoad_currentScope (l : Load Scope) (data : D) (s : PageState Scope D) :
    (finishLoad l data s).currentScope = s.currentScope := by
  unfold finishLoad
  split <;> rfl

theorem numbered_finishLoad (l : Load Scope) (data : D) {s : PageState Scope D}
    (h : Numbered s) : Numbered (finishLoad l data s) := by
  unfold finishLoad
  split
  · exact h
  · exact h

theorem numbered_step {s : PageState Scope D} (h : Numbered s) (event : PageEvent Scope D) :
    Numbered (pageStep page s event) := by
  cases event with
  | select scope =>
    simp only [pageStep, selectScope]
    split
    · exact h
    · exact numbered_runEffect h
  | effect => exact numbered_runEffect h
  | refresh => exact numbered_startLoad _ h
  | click => exact h
  | mutated k =>
    simp only [pageStep]
    split
    · exact numbered_startLoad _ h
    · exact h
  | answered k data =>
    simp only [pageStep]
    split
    · exact numbered_finishLoad _ _ fun l hl => h l (List.mem_of_mem_eraseIdx hl)
    · exact h

/-- Only a `select` changes the scope. -/
theorem currentScope_step (s : PageState Scope D) {event : PageEvent Scope D}
    (h : ¬ Renews s event) : (pageStep page s event).currentScope = s.currentScope := by
  cases event with
  | select scope =>
    have hsame : scope = s.currentScope := not_not.mp h
    simp only [pageStep, selectScope, if_pos hsame]
  | effect => exact runEffect_currentScope s
  | refresh => exact startLoad_currentScope _ s
  | click => rfl
  | mutated k =>
    simp only [pageStep]
    split
    · exact startLoad_currentScope _ _
    · rfl
  | answered k data =>
    simp only [pageStep]
    split
    · exact finishLoad_currentScope _ _ _
    · rfl

omit [DecidableEq Scope] in
theorem current_of_eq {s s' : PageState Scope D} (h : Current page s)
    (hscope : s'.currentScope = s.currentScope) (hloaded : s'.loaded = s.loaded) :
    Current page s' := by
  intro hkeeps p hp
  rw [hscope]
  exact h hkeeps p (hloaded ▸ hp)

theorem current_finishLoad (l : Load Scope) (data : D) {s : PageState Scope D}
    (h : Current page s) : Current page (finishLoad l data s) := by
  unfold finishLoad
  split
  · exact h
  · next haccepted =>
    intro _ p hp
    obtain rfl := Option.some.inj hp
    exact not_not.mp (not_or.mp haccepted).2

theorem current_step {s : PageState Scope D} (h : Current page s) (event : PageEvent Scope D) :
    Current page (pageStep page s event) := by
  cases event with
  | select scope =>
    simp only [pageStep, selectScope]
    split
    · exact h
    · intro hkeeps p hp
      simp [hkeeps] at hp
  | effect => exact current_of_eq h (runEffect_currentScope s) (runEffect_loaded s)
  | refresh => exact current_of_eq h (startLoad_currentScope _ s) (startLoad_loaded _ s)
  | click => exact h
  | mutated k =>
    simp only [pageStep]
    split
    · exact current_of_eq h (startLoad_currentScope _ _) (startLoad_loaded _ _)
    · exact h
  | answered k data =>
    simp only [pageStep]
    split
    · exact current_finishLoad _ _ h
    · exact h

/-! ## What covers the current scope -/

variable (page) in
/-- A load for the current scope takes the newest number. -/
theorem covered_startLoad {s : PageState Scope D}
    (h : page.hasOrganization s.currentScope = true) :
    ScopeCovered page (startLoad page s.currentScope s) := by
  rw [startLoad_of_organization h]
  exact Or.inr (Or.inr ⟨_, List.mem_append_right _ (List.mem_singleton_self _), rfl, rfl⟩)

/-- A load for another scope takes it away from the load of the current one. -/
theorem covered_startLoad_stale {s : PageState Scope D} (hn : Numbered s) {scope : Scope}
    (h : page.hasOrganization scope = true) (hscope : scope ≠ s.currentScope) :
    ScopeCovered page (startLoad page scope s) ↔ ShowsScope page s ∨ s.effectDue = true := by
  rw [startLoad_of_organization h]
  constructor
  · rintro (hshows | hdue | ⟨l, hl, hnewest, hcurrent⟩)
    · exact Or.inl ((showsScope_iff s).mpr ((showsScope_iff _).mp hshows))
    · exact Or.inr hdue
    · rcases List.mem_append.mp hl with hold | hnew
      · have hle := hn l hold
        have hnumber : l.request = s.requestNumber + 1 := hnewest
        omega
      · obtain rfl := List.mem_singleton.mp hnew
        exact absurd hcurrent hscope
  · rintro (hshows | hdue)
    · exact Or.inl ((showsScope_iff _).mpr ((showsScope_iff s).mp hshows))
    · exact Or.inr (Or.inl hdue)

/-- An answer is accepted from the load that covers the scope, and otherwise
leaves that load in flight. -/
theorem covered_answered (s : PageState Scope D) {k : Nat} {l : Load Scope}
    (hl : s.loads[k]? = some l) (data : D) :
    ScopeCovered page (finishLoad l data { s with loads := s.loads.eraseIdx k }) ↔
      ScopeCovered page s := by
  unfold finishLoad
  split
  · next hdropped =>
    constructor
    · rintro (hshows | hdue | ⟨l', hl', hnewest⟩)
      · exact Or.inl ((showsScope_iff s).mpr ((showsScope_iff _).mp hshows))
      · exact Or.inr (Or.inl hdue)
      · exact Or.inr (Or.inr ⟨l', List.mem_of_mem_eraseIdx hl', hnewest⟩)
    · rintro (hshows | hdue | ⟨l', hl', hnewest, hcurrent⟩)
      · exact Or.inl ((showsScope_iff _).mpr ((showsScope_iff s).mp hshows))
      · exact Or.inr (Or.inl hdue)
      · have hother : l' ≠ l := by
          rintro rfl
          exact hdropped.elim (fun hne => hne hnewest) fun hne => hne hcurrent
        obtain ⟨j, hj⟩ := List.mem_iff_getElem?.mp hl'
        have hjk : j ≠ k := by
          rintro rfl
          exact hother (Option.some.inj (hj.symm.trans hl))
        have hkept : l' ∈ s.loads.eraseIdx k := List.mem_eraseIdx_iff_getElem?.mpr ⟨j, hjk, hj⟩
        exact Or.inr (Or.inr ⟨l', hkept, hnewest, hcurrent⟩)
  · next haccepted =>
    obtain ⟨hnewest, hcurrent⟩ := not_or.mp haccepted
    constructor
    · intro _
      exact Or.inr (Or.inr
        ⟨l, List.mem_of_getElem? hl, not_not.mp hnewest, not_not.mp hcurrent⟩)
    · intro _
      exact Or.inl ((showsScope_iff _).mpr ⟨(l, data), rfl, not_not.mp hcurrent⟩)

/-- An event that neither supersedes nor renews. -/
theorem covered_iff_of_idle {s : PageState Scope D} {event : PageEvent Scope D}
    (h : ScopeCovered page (pageStep page s event) ↔ ScopeCovered page s)
    (hsup : ¬ Supersedes page s event) (hrenews : ¬ Renews s event) :
    ScopeCovered page (pageStep page s event) ↔
      ¬ Supersedes page s event ∧ (ScopeCovered page s ∨ Renews s event) := by
  rw [h, or_iff_left hrenews, and_iff_right hsup]

/-- A mutation ends, and the closure that was clicked starts its load. -/
theorem covered_mutated {s : PageState Scope D} (hn : Numbered s) {k : Nat}
    (horg : page.hasOrganization s.currentScope = true) :
    ScopeCovered page (pageStep page s (.mutated k)) ↔
      ¬ Supersedes page s (.mutated k) ∧ (ScopeCovered page s ∨ Renews s (.mutated k)) := by
  cases hk : s.mutations[k]? with
  | none =>
    have hstep : pageStep page s (.mutated k) = s := by simp only [pageStep, hk]
    apply covered_iff_of_idle
    · rw [hstep]
    · simp [Supersedes, hk]
    · simp [Renews, hk]
  | some scope =>
    have hstep : pageStep page s (.mutated k) =
        startLoad page scope { s with mutations := s.mutations.eraseIdx k } := by
      simp only [pageStep, hk]
    by_cases hown : scope = s.currentScope
    · subst hown
      have hcovered : ScopeCovered page (pageStep page s (.mutated k)) := by
        rw [hstep]
        exact covered_startLoad page (s := { s with mutations := s.mutations.eraseIdx k }) horg
      exact iff_of_true hcovered ⟨by simp [Supersedes, hk], Or.inr hk⟩
    · have hrenews : ¬ Renews s (.mutated k) := by
        intro hrenews
        exact hown (Option.some.inj (hk.symm.trans hrenews))
      by_cases hscope : page.hasOrganization scope = true
      · have hafter := covered_startLoad_stale (s := { s with mutations := s.mutations.eraseIdx k })
          hn hscope hown
        have hsup : Supersedes page s (.mutated k) ↔ ¬ (ShowsScope page s ∨ s.effectDue = true) := by
          simp [Supersedes, hk, hscope, hown]
        rw [hstep, hafter, hsup, or_iff_left hrenews, not_not]
        exact ⟨fun h => ⟨h, h.imp_right Or.inl⟩, And.left⟩
      · apply covered_iff_of_idle _ _ hrenews
        · rw [hstep, startLoad_of_none hscope]
          exact Iff.rfl
        · simp [Supersedes, hk, hscope]

/-- What an event does to the current scope. -/
theorem scopeCovered_step {s : PageState Scope D} (hn : Numbered s) (event : PageEvent Scope D)
    (horg : page.hasOrganization (pageStep page s event).currentScope = true) :
    ScopeCovered page (pageStep page s event) ↔
      ¬ Supersedes page s event ∧ (ScopeCovered page s ∨ Renews s event) := by
  cases event with
  | select scope =>
    by_cases hsame : scope = s.currentScope
    · refine covered_iff_of_idle ?_ not_false (not_not.mpr hsame)
      simp only [pageStep, selectScope, if_pos hsame]
    · have hcovered : ScopeCovered page (pageStep page s (.select scope)) := by
        simp only [pageStep, selectScope, if_neg hsame]
        exact Or.inr (Or.inl rfl)
      exact iff_of_true hcovered ⟨not_false, Or.inr hsame⟩
  | effect =>
    by_cases hdue : s.effectDue = true
    · have hcovered : ScopeCovered page (pageStep page s .effect) := by
        simp only [pageStep, runEffect, if_pos hdue] at horg ⊢
        exact covered_startLoad page (by rwa [startLoad_currentScope] at horg)
      exact iff_of_true hcovered ⟨not_false, Or.inr hdue⟩
    · refine covered_iff_of_idle ?_ not_false hdue
      simp only [pageStep, runEffect, if_neg hdue]
  | refresh =>
    have hcovered : ScopeCovered page (pageStep page s .refresh) :=
      covered_startLoad page (by rwa [pageStep, startLoad_currentScope] at horg)
    exact iff_of_true hcovered ⟨not_false, Or.inr trivial⟩
  | click => exact covered_iff_of_idle Iff.rfl not_false not_false
  | mutated k =>
    refine covered_mutated hn ?_
    simp only [pageStep] at horg
    split at horg
    · rwa [startLoad_currentScope] at horg
    · exact horg
  | answered k data =>
    refine covered_iff_of_idle ?_ not_false not_false
    simp only [pageStep]
    split
    · next l hl => exact covered_answered s hl data
    · exact Iff.rfl

/-! ## Runs -/

theorem numbered_after (scope : Scope) (n : Nat) (past : List (PageEvent Scope D)) :
    Numbered (run.after (pageStep page) (pageStart scope n) past) := by
  induction past with
  | nil => exact fun l hl => absurd hl (List.not_mem_nil)
  | cons event past ih => exact numbered_step ih event

/-- A page never shows the data of another scope. -/
theorem displayed_of_current_scope (scope : Scope) (n : Nat) (past : List (PageEvent Scope D))
    {p : Load Scope × D}
    (h : displayed page (run.after (pageStep page) (pageStart scope n) past) = some p) :
    p.1.requestedScope =
      (run.after (pageStep page) (pageStart (D := D) scope n) past).currentScope := by
  have hcurrent : Current page (run.after (pageStep page) (pageStart scope n) past) := by
    clear h
    induction past with
    | nil => exact fun _ _ hp => nomatch hp
    | cons event past ih => exact current_step ih event
  unfold displayed at h
  split at h
  · exact of_decide_eq_true (Option.filter_eq_some_iff.mp h).2
  · next hkeeps => exact hcurrent (Bool.eq_false_iff.mpr hkeeps) p h

/-- The current scope is covered unless it was left without its load. -/
theorem scopeCovered_iff (scope : Scope) (n : Nat) (past : List (PageEvent Scope D))
    (horg : page.hasOrganization
      (run.after (pageStep page) (pageStart (D := D) scope n) past).currentScope = true) :
    ScopeCovered page (run.after (pageStep page) (pageStart scope n) past) ↔
      ¬ LeftWithout page scope n past := by
  induction past with
  | nil => exact iff_of_true (Or.inr (Or.inl rfl)) not_false
  | cons event past ih =>
    rw [run.after_cons, scopeCovered_step (numbered_after scope n past) event horg, LeftWithout, not_or]
    refine and_congr_right fun _ => ?_
    by_cases hrenews : Renews (run.after (pageStep page) (pageStart scope n) past) event
    · simp [hrenews]
    · rw [or_iff_left hrenews, ih, and_iff_left hrenews]
      rwa [run.after_cons, currentScope_step _ hrenews] at horg

/-- At rest, the current scope is without data exactly if the closure of an
earlier scope superseded its load and no load for it was started since. -/
theorem the_current_scope_is_shown_iff_no_stale_load_superseded_it (page : Page Scope)
    (scope : Scope) (n : Nat) (past : List (PageEvent Scope D))
    (hrest : AtRest (run.after (pageStep page) (pageStart scope n) past))
    (horg : page.hasOrganization
      (run.after (pageStep page) (pageStart (D := D) scope n) past).currentScope = true) :
    ShowsScope page (run.after (pageStep page) (pageStart scope n) past) ↔
      ¬ LeftWithout page scope n past := by
  rw [← scopeCovered_iff scope n past horg]
  constructor
  · exact Or.inl
  · rintro (hshows | hdue | ⟨l, hl, _⟩)
    · exact hshows
    · rw [hrest.effect] at hdue
      cases hdue
    · rw [hrest.loads] at hl
      cases hl

/-- A row is changed under a first scope; the second one is selected before the
answer, and its load is superseded by the one that the answer starts. -/
def anEmptiedPage (second : Scope) (data : D) : List (PageEvent Scope D) :=
  [.answered 0 data, .answered 0 data, .mutated 0, .effect, .select second, .click,
    .answered 0 data, .effect]

/-- The superseded load leaves the second scope without data, and a refresh makes it good. -/
theorem a_refresh_makes_a_superseded_load_good :
    let first := ("acme".toList, [])
    let emptied := anEmptiedPage ("acme".toList, "OPEN".toList) ()
    let refreshed := .answered 0 () :: .refresh :: emptied
    LeftWithout IncidentsPage first 0 emptied ∧
      ShowsScope IncidentsPage
        (run.after (pageStep IncidentsPage) (pageStart first 0) refreshed) := by
  intro first emptied refreshed
  have hempty : ¬ ShowsScope IncidentsPage
      (run.after (pageStep IncidentsPage) (pageStart first 0) emptied) := by
    rintro ⟨p, hp, _⟩
    cases hp
  have hrest : AtRest (run.after (pageStep IncidentsPage) (pageStart first 0) refreshed) :=
    ⟨by decide +kernel, by decide +kernel, by decide +kernel⟩
  have horg : IncidentsPage.hasOrganization
      (run.after (pageStep IncidentsPage) (pageStart first 0) refreshed).currentScope = true := by
    decide +kernel
  constructor
  · exact Classical.not_not.mp (mt (the_current_scope_is_shown_iff_no_stale_load_superseded_it
      IncidentsPage first 0 emptied ⟨rfl, rfl, rfl⟩ rfl).mpr hempty)
  · refine (the_current_scope_is_shown_iff_no_stale_load_superseded_it
      IncidentsPage first 0 refreshed hrest horg).mpr ?_
    rintro (hsup | ⟨hsup | ⟨_, hrenewed⟩, _⟩)
    · exact hsup
    · exact hsup
    · exact hrenewed trivial

/-! ## A page that is left empty -/

variable (page) in
/-- Nothing is in flight for a scope with an organization, and nothing is shown. -/
def EndsEmpty (scope : Scope) (past : List (PageEvent Scope D)) : Prop :=
  let s := run.after (pageStep page) (pageStart scope 0) past
  AtRest s ∧ page.hasOrganization s.currentScope = true ∧ ¬ ShowsScope page s

theorem a_stale_load_leaves_the_page_empty :
    EndsEmpty IncidentsPage ("acme".toList, [])
        (anEmptiedPage ("acme".toList, "OPEN".toList) ()) ∧
      EndsEmpty MembersPage "acme".toList (anEmptiedPage "globex".toList ()) ∧
      EndsEmpty Home "acme".toList (anEmptiedPage "globex".toList ()) := by
  refine ⟨⟨⟨rfl, rfl, rfl⟩, rfl, ?_⟩, ⟨⟨rfl, rfl, rfl⟩, rfl, ?_⟩, ⟨⟨rfl, rfl, rfl⟩, rfl, ?_⟩⟩
  all_goals
    rintro ⟨p, hp, _⟩
    cases hp

end

end pulseforge

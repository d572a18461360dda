-- Ingests of one group and one time in any interleaving: each of them counts
-- the committed events and its own, so five of them open an incident exactly
-- when one of them counts late enough.
import PulseForge.UniqueIndex

open txn table interleave

namespace pulseforge

variable [Platform] {ι : Type} {jobs : ι → Job}

/-- The jobs ingest failing events of one group and one time. -/
structure Burst (jobs : ι → Job) (group : UUID × Text) (instant : Int) : Prop where
  ingests : ∀ i, ∃ payload api_key, (jobs i).call = .ingest payload api_key
  group : ∀ i payload api_key, (jobs i).call = .ingest payload api_key →
    (new_event (jobs i).env payload api_key).group = group
  failing : ∀ i payload api_key, (jobs i).call = .ingest payload api_key → payload.level.failing = true
  instant : ∀ i payload api_key, (jobs i).call = .ingest payload api_key →
    payload.occurred_at.instant = instant

/-- The transaction counts while the other events of a full threshold are committed. -/
def CountsLate (g : State ι Store Stage) (i : ι) : Prop :=
  (∃ w, g.locals i = .counting w) ∧ INCIDENT_THRESHOLD ≤ g.shared.events.length + 1

/-- The group has one active incident, and no other. -/
def OneActive (group : UUID × Text) (s : Store) : Prop :=
  ∃ i ∈ s.incidents, (i.group = group ∧ i.isActive = true) ∧
    ∀ j ∈ s.incidents, j.group = group → j.isActive = true → j = i

/-! ## What a count sees -/

/-- All stored events are of the burst. -/
def AllOf (group : UUID × Text) (instant : Int) (s : Store) : Prop :=
  ∀ v ∈ s.events, v.group = group ∧ v.level.failing = true ∧ v.occurred_at.instant = instant

section
variable {group : UUID × Text} {instant : Int} {g : State ι Store Stage} {i : ι} {s' : Store} {t' : Stage}

theorem new_event_of_burst (hb : Burst jobs group instant) {payload : EventCreate} {api_key : ApiKey}
    (hcall : (jobs i).call = .ingest payload api_key) :
    (new_event (jobs i).env payload api_key).group = group ∧
      (new_event (jobs i).env payload api_key).level.failing = true ∧
        (new_event (jobs i).env payload api_key).occurred_at.instant = instant :=
  ⟨hb.group i payload api_key hcall, hb.failing i payload api_key hcall,
    hb.instant i payload api_key hcall⟩

/-- A count sees all committed events and its own. -/
theorem windowEvents_length (hb : Burst jobs group instant) (hs : AllOf group instant g.shared)
    {payload : EventCreate} {api_key : ApiKey} (hcall : (jobs i).call = .ingest payload api_key)
    {w : DateTime} (hw : w.instant ≤ instant) :
    (windowEvents (jobs i).env payload api_key w g.shared).length = g.shared.events.length + 1 := by
  have hnew := new_event_of_burst hb hcall
  have hall : ∀ v ∈ g.shared.events ++ [new_event (jobs i).env payload api_key],
      inWindow (new_event (jobs i).env payload api_key) w v = true := by
    intro v hv
    have hv : v.group = group ∧ v.level.failing = true ∧ v.occurred_at.instant = instant :=
      forall_insert hs hnew v hv
    have hgroup : v.group = (new_event (jobs i).env payload api_key).group := hv.1.trans hnew.1.symm
    simp only [Event.group, Prod.mk.injEq] at hgroup
    simp [inWindow, hgroup.1, hgroup.2, hv.2.1, hv.2.2, hnew.2.2, hw]
  have hfilter : windowEvents (jobs i).env payload api_key w g.shared =
      g.shared.events ++ [new_event (jobs i).env payload api_key] :=
    List.filter_eq_self.mpr hall
  rw [hfilter, List.length_append, List.length_singleton]

theorem AllOf.move (hb : Burst jobs group instant) (hs : AllOf group instant g.shared)
    (h : Move (jobs i) g.shared (g.locals i) s' t') : AllOf group instant s' := by
  generalize g.locals i = t at h
  cases h with
  | committed hcall verdict =>
    unfold AllOf
    rw [commitEvent_events]
    exact forall_insert hs (new_event_of_burst hb hcall)
  | _ => exact hs

/-- The window of a transaction that counts starts before the time of the burst. -/
def WindowsOpen (instant : Int) (g : State ι Store Stage) : Prop :=
  ∀ i w, g.locals i = .counting w → w.instant ≤ instant

theorem window_before (hb : Burst jobs group instant) {s : Store} {t : Stage} {w : DateTime}
    (h : Move (jobs i) s t s' (.counting w)) : w.instant ≤ instant := by
  cases h with
  | unfound hcall _ _ _ hw =>
    have hstart := DateTime.minus_seconds_instant hw
    have hinstant := hb.instant i _ _ hcall
    simp only [INCIDENT_WINDOW_SECONDS, SECOND] at hstart
    omega

end

/-! ## Before and after a late count -/

/-- A transaction at one of these stages makes the group's incident, or meets it. -/
def Stage.opening : Stage → Bool
  | .creating _ | .gathering _ | .committing (.create _) => true
  | _ => false

/-- No incident of the group is active, and none is on its way. -/
def Quiet (group : UUID × Text) (g : State ι Store Stage) : Prop :=
  ¬ ActiveGroup group g.shared ∧ ∀ i, (g.locals i).opening = false

/-- An incident of the group is active, or on its way. -/
def Secured (group : UUID × Text) (g : State ι Store Stage) : Prop :=
  ActiveGroup group g.shared ∨ ∃ i, (g.locals i).opening = true

omit [Platform] in
theorem not_secured {group : UUID × Text} {g : State ι Store Stage} :
    ¬ Secured group g ↔ Quiet group g := by
  simp [Secured, Quiet]

section
variable [Fintype ι] [DecidableEq ι]
variable {group : UUID × Text} {instant : Int} {g : State ι Store Stage} {i : ι} {s' : Store} {t' : Stage}

/-- A move that makes an incident come, where none was, is a late count. -/
theorem Quiet.move (hb : Burst jobs group instant) (hs : AllOf group instant g.shared)
    (hw : WindowsOpen instant g) (hquiet : Quiet group g) (hlate : ¬ CountsLate g i)
    (hp : lockStep (fun i => transaction (jobs i)) i g = some (s', t')) :
    Quiet group (g.move i (s', t')) := by
  have hmove : Move (jobs i) g.shared (g.locals i) s' t' := (move_of_some hp).2
  obtain ⟨hinactive, hstages⟩ := hquiet
  constructor
  · rintro ⟨row, hrow, hgroup, hactive⟩
    rcases hmove.incidents.gained hrow hactive with hold | ⟨_, _, ids, _, ht, _⟩ |
      ⟨_, _, _, hcall, _⟩
    · rw [hgroup] at hold
      exact hinactive hold
    · have hstage := hstages i
      rw [ht] at hstage
      cases hstage
    · obtain ⟨payload, api_key, hingest⟩ := hb.ingests i
      rw [hcall] at hingest
      cases hingest
  · intro j
    by_cases hji : j = i
    · subst hji
      rw [move_self]
      have hstage := hstages j
      have hwindow := hw j
      unfold CountsLate at hlate
      generalize g.locals j = t at hmove hstage hwindow hlate
      cases hmove with
      | reached hcall w hreached =>
        refine absurd ⟨⟨w, rfl⟩, ?_⟩ hlate
        rw [windowEvents_length hb hs hcall (hwindow w rfl)] at hreached
        exact hreached
      | won | gathered => cases hstage
      | _ => rfl
    · rw [move_other hji]
      exact hstages j

/-- Nothing ends what is on its way. -/
theorem Secured.move (hb : Burst jobs group instant) (hsecured : Secured group g)
    (hp : lockStep (fun i => transaction (jobs i)) i g = some (s', t')) :
    Secured group (g.move i (s', t')) := by
  have hmove : Move (jobs i) g.shared (g.locals i) s' t' := (move_of_some hp).2
  rcases hsecured with ⟨row, hrow, hgroup, hactive⟩ | ⟨j, hj⟩
  · left
    rcases hmove.incidents.lost hrow hactive with ⟨row', hrow', _, hgroup', hactive'⟩ |
      ⟨_, _, _, hcall, _⟩
    · exact ⟨row', hrow', hgroup'.trans hgroup, hactive'⟩
    · obtain ⟨payload, api_key, hingest⟩ := hb.ingests i
      rw [hcall] at hingest
      cases hingest
  · by_cases hji : j = i
    · subst hji
      generalize g.locals j = t at hmove hj
      cases hmove with
      | won => exact Or.inr ⟨j, by rw [move_self]; rfl⟩
      | gathered => exact Or.inr ⟨j, by rw [move_self]; rfl⟩
      | beaten hcall _ hactive =>
        rw [hb.group j _ _ hcall] at hactive
        exact Or.inl hactive
      | @committed payload api_key hcall verdict =>
        cases verdict with
        | create ids =>
          left
          refine ⟨new_incident (jobs j).env (new_event (jobs j).env payload api_key),
            List.mem_append_right _ (List.mem_singleton.mpr rfl), ?_, rfl⟩
          exact hb.group j payload api_key hcall
        | quiet => cases hj
        | attach => cases hj
      | _ => cases hj
    · exact Or.inr ⟨j, by rw [move_other hji]; exact hj⟩

/-- A late count makes an incident come. -/
theorem secured_of_late (hb : Burst jobs group instant) (hs : AllOf group instant g.shared)
    (hw : WindowsOpen instant g) (hlate : CountsLate g i) : Secured group (turn jobs g i) := by
  obtain ⟨⟨w, ht⟩, hcount⟩ := hlate
  obtain ⟨payload, api_key, hcall⟩ := hb.ingests i
  have hfree : ¬ Blocked (fun i => transaction (jobs i)) g i := by
    rintro ⟨_, _, l, _, hl⟩
    have hl : (jobs i).wants (g.locals i) = some l := hl
    simp only [Job.wants, hcall, ht] at hl
    cases hl
  have hstep : lockStep (fun i => transaction (jobs i)) i g = some (g.shared, .creating w) := by
    rw [lockStep_eq hfree]
    show (jobs i).next g.shared (g.locals i) = _
    unfold Job.next
    rw [hcall, ht]
    have hlength := windowEvents_length hb hs hcall (hw i w ht)
    unfold windowEvents at hlength
    simp only [ingest_next]
    rw [if_neg (by omega)]
  refine Or.inr ⟨i, ?_⟩
  rw [turn_of_some hstep, move_self]
  rfl

end

/-! ## The whole run -/

variable [Fintype ι] [DecidableEq ι]

/-- What every run of a burst keeps. -/
theorem burst_run {group : UUID × Text} {instant : Int} (hb : Burst jobs group instant) {s₀ : Store}
    (hempty : s₀.events = []) (turns : List ι) :
    AllOf group instant (run.after (turn jobs) (begin s₀) turns).shared ∧
      WindowsOpen instant (run.after (turn jobs) (begin s₀) turns) := by
  refine interleave.invariant (I := fun g => AllOf group instant g.shared ∧ WindowsOpen instant g)
    ?_ ?_ turns
  · constructor
    · intro v hv
      have hv : v ∈ s₀.events := hv
      rw [hempty] at hv
      cases hv
    · intro i w hw
      cases hw
  · rintro g i ⟨s', t'⟩ ⟨hs, hw⟩ hp
    have hmove : Move (jobs i) g.shared (g.locals i) s' t' := (move_of_some hp).2
    refine ⟨hs.move hb hmove, ?_⟩
    intro j w hj
    by_cases hji : j = i
    · subst hji
      rw [move_self] at hj
      simp only at hj
      subst hj
      exact window_before hb hmove
    · rw [move_other hji] at hj
      exact hw j w hj

/-- An incident is there, or on its way, from the first late count on. -/
theorem secured_iff {group : UUID × Text} {instant : Int} (hb : Burst jobs group instant) {s₀ : Store}
    (hempty : s₀.events = []) (turns : List ι) :
    Secured group (run.after (turn jobs) (begin s₀) turns) ↔
      ActiveGroup group s₀ ∨ run.Some (turn jobs) (begin s₀) CountsLate turns := by
  induction turns with
  | nil =>
    simp only [run.after_nil, run.Some, or_false]
    constructor
    · rintro (hactive | ⟨i, hi⟩)
      · exact hactive
      · cases hi
    · exact Or.inl
  | cons i past ih =>
    obtain ⟨hs, hw⟩ := burst_run hb hempty past
    rw [run.after_cons]
    simp only [run.Some]
    rw [← or_assoc, ← ih]
    rcases turn_cases jobs (run.after (turn jobs) (begin s₀) past) i with heq | ⟨s', t', hp, heq⟩
    · constructor
      · intro h
        rw [heq] at h
        exact Or.inl h
      · rintro (h | hlate)
        · rw [heq]
          exact h
        · exact secured_of_late hb hs hw hlate
    · constructor
      · intro h
        by_contra hnot
        obtain ⟨hquiet, hlate⟩ := not_or.mp hnot
        rw [heq] at h
        exact not_secured.mpr ((not_secured.mp hquiet).move hb hs hw hlate hp) h
      · rintro (h | hlate)
        · rw [heq]
          exact h.move hb hp
        · exact secured_of_late hb hs hw hlate

/-- When all ingests of a burst are answered and they make a full threshold,
their group has one active incident exactly when it had one from the start, or
one of them counted after enough of the others had committed. -/
theorem a_burst_opens_an_incident_iff_one_counts_late {group : UUID × Text} {instant : Int}
    (hb : Burst jobs group instant) {s₀ : Store} (hs : Consistent s₀) (hf : FreshJobs jobs s₀)
    (hempty : s₀.events = []) (turns : List ι)
    (hall : ∀ i, ∃ body, (run.after (turn jobs) (begin s₀) turns).locals i = .ended (.ok body)) :
    (INCIDENT_THRESHOLD ≤ (run.after (turn jobs) (begin s₀) turns).shared.events.length →
        OneActive group (run.after (turn jobs) (begin s₀) turns).shared) ↔
      (INCIDENT_THRESHOLD ≤ (run.after (turn jobs) (begin s₀) turns).shared.events.length →
        ActiveGroup group s₀ ∨ run.Some (turn jobs) (begin s₀) CountsLate turns) := by
  rw [← secured_iff hb hempty turns]
  have hindexed := indexed_run hs hf turns
  constructor
  · intro h hcount
    obtain ⟨i, hi, ⟨hgroup, hactive⟩, _⟩ := h hcount
    exact Or.inl ⟨i, hi, hgroup, hactive⟩
  · intro h hcount
    rcases h hcount with ⟨i, hi, hgroup, hactive⟩ | ⟨i, hi⟩
    · refine ⟨i, hi, ⟨hgroup, hactive⟩, ?_⟩
      intro j hj hgroup' hactive'
      exact hindexed.active_groups.of_filter hj hi hactive' hactive (hgroup'.trans hgroup.symm)
    · obtain ⟨body, hbody⟩ := hall i
      rw [hbody] at hi
      cases hi

/-! ## Five errors at once, and one by one -/

/-- A service with five keys and no events. -/
def fiveKeysRun : List (Env × Request) :=
  let newKey (n : Nat) : Env × Request :=
    (sampleEnv n, .tenant (sampleBearer 0 1) (.create_service_api_key 30 sampleKey))
  [newKey 8, newKey 7, newKey 6, newKey 5] ++ sampleRun.drop 5

/-- Five errors of one second, each with a key of its own. -/
def fiveErrors (i : Fin 5) : Job :=
  ⟨sampleDraws 5 i, .ingest (sampleEvent (Char.ofNat (97 + i)) 0) (keyRow (4 + i))⟩

/-- Six rounds of all five: they all count before the first one commits. -/
def roundRobin : List (Fin 5) := (List.replicate 6 [0, 1, 2, 3, 4]).flatten

/-- One after the other. -/
def oneByOne : List (Fin 5) :=
  List.replicate 8 4 ++ List.replicate 6 3 ++ List.replicate 6 2 ++ List.replicate 6 1 ++
    List.replicate 6 0

omit [Platform] in
theorem five_keys_reachable :
    @Reachable samplePlatform (run.after (@serve samplePlatform) Store.empty fiveKeysRun) := by
  refine ⟨fiveKeysRun, ?_, rfl⟩
  exact fresh_of_drawsInOrder [8, 7, 6, 5, 4, 3, 2, 1, 0] rfl (by decide +kernel)

omit [Platform] in
theorem five_errors_fresh :
    FreshJobs fiveErrors (run.after (@serve samplePlatform) Store.empty fiveKeysRun) :=
  sample_jobs_fresh (fun _ => rfl) (by decide +kernel)

def Stage.answered : Stage → Bool
  | .ended (.ok _) => true
  | _ => false

omit [Platform] in
theorem answered_eq {t : Stage} (h : t.answered = true) : ∃ body, t = .ended (.ok body) := by
  unfold Stage.answered at h
  split at h
  · exact ⟨_, rfl⟩
  · cases h

omit [Platform] in
theorem burst_fiveErrors :
    @Burst samplePlatform _ fiveErrors (30, @create_event_fingerprint samplePlatform 30 "crash".toList)
      (120 * SECOND) := by
  refine @Burst.mk samplePlatform _ _ _ _ (fun i => ⟨_, _, rfl⟩) ?_ ?_ ?_
  all_goals
    intro i payload api_key hcall
    cases hcall
    rfl

instance (group : UUID × Text) (s : Store) : Decidable (OneActive group s) :=
  inferInstanceAs (Decidable (∃ i ∈ s.incidents, _ ∧ ∀ j ∈ s.incidents, _ → _ → _))

omit [Platform] in
/-- Five errors that all count before the first one commits open no incident. -/
theorem five_errors_at_once_open_no_incident :
    let s₀ := run.after (@serve samplePlatform) Store.empty fiveKeysRun
    let group := (30, @create_event_fingerprint samplePlatform 30 "crash".toList)
    let g := run.after (@turn samplePlatform _ _ _ fiveErrors) (begin s₀) roundRobin
    @Reachable samplePlatform s₀ ∧ FreshJobs fiveErrors s₀ ∧
      @Burst samplePlatform _ fiveErrors group (120 * SECOND) ∧ s₀.events.isEmpty = true ∧
      (∀ i, (g.locals i).answered = true) ∧ g.shared.events.length = 5 ∧
      ¬ OneActive group g.shared := by
  intro s₀ group g
  exact ⟨five_keys_reachable, five_errors_fresh, burst_fiveErrors,
    by decide +kernel, by decide +kernel, by decide +kernel, by decide +kernel⟩

omit [Platform] in
/-- Five errors one after the other open an incident, and one of them counted late. -/
theorem five_errors_one_by_one_open_an_incident :
    let s₀ := run.after (@serve samplePlatform) Store.empty fiveKeysRun
    let group := (30, @create_event_fingerprint samplePlatform 30 "crash".toList)
    OneActive group (run.after (@turn samplePlatform _ _ _ fiveErrors) (begin s₀) oneByOne).shared ∧
      (ActiveGroup group s₀ ∨
        run.Some (@turn samplePlatform _ _ _ fiveErrors) (begin s₀) CountsLate oneByOne) := by
  intro s₀ group
  have hall : ∀ i, ((run.after (@turn samplePlatform _ _ _ fiveErrors) (begin s₀) oneByOne).locals
      i).answered = true := by decide +kernel
  have hone : OneActive group
      (run.after (@turn samplePlatform _ _ _ fiveErrors) (begin s₀) oneByOne).shared := by
    decide +kernel
  refine ⟨hone, ?_⟩
  refine (@a_burst_opens_an_incident_iff_one_counts_late samplePlatform _ fiveErrors _ _ group
    (120 * SECOND) burst_fiveErrors s₀
    (@Reachable.consistent samplePlatform s₀ five_keys_reachable) five_errors_fresh ?_ oneByOne
    (fun i => answered_eq (hall i))).mp (fun _ => hone) ?_
  · exact List.isEmpty_iff.mp (by decide +kernel)
  · decide +kernel

end pulseforge

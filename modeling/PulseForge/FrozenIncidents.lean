-- Resolved incidents and ingestion in any interleaving: an ingest finds an
-- active incident without a lock and records against it when it commits. What
-- is resolved stays as it is exactly when no resolve comes in between.
import PulseForge.EventLinks
import PulseForge.ResolvedFinal

open txn table interleave

namespace pulseforge

/-! ## What stays as it is -/

/-- From one committed store to the next, nothing is recorded against an
incident that was resolved before. -/
structure Frozen (s s' : Store) : Prop where
  links : ∀ i ∈ s.incidents, i.status = .RESOLVED →
    ∀ l ∈ s'.incident_events, l.incident_id = i.id → l ∈ s.incident_events
  severity : ∀ i ∈ s.incidents, i.status = .RESOLVED →
    ∀ i' ∈ s'.incidents, i'.id = i.id → i'.severity = i.severity
  recorded : ∀ v ∈ s'.events, v ∉ s.events → ∀ l ∈ s'.incident_events, l.event_id = v.id →
    ∀ i ∈ s'.incidents, i.id = l.incident_id → i.status ≠ .RESOLVED

/-- Where events and links stay, the severities decide. -/
theorem frozen_of_same {s s' : Store} (hv : s'.events = s.events)
    (hl : s'.incident_events = s.incident_events)
    (hi : ∀ i ∈ s.incidents, ∀ i' ∈ s'.incidents, i'.id = i.id → i'.severity = i.severity) :
    Frozen s s' where
  links := by
    intro i _ _ l hmem _
    rwa [hl] at hmem
  severity := fun i hmem _ => hi i hmem
  recorded := by
    intro v hmem hnew
    rw [hv] at hmem
    exact absurd hmem hnew

theorem severity_update {s : Store} (hids : UniqueOn Incident.id s.incidents) {p : Incident → Bool}
    {f : Incident → Incident} (hid : ∀ i, (f i).id = i.id) (hf : ∀ i, (f i).severity = i.severity) :
    ∀ i ∈ s.incidents, ∀ i' ∈ updateWhere p f s.incidents, i'.id = i.id → i'.severity = i.severity := by
  intro i hi i' hi' heq
  obtain ⟨row, hrow, rfl⟩ := mem_updateWhere.mp hi'
  split at heq
  · rw [if_pos ‹_›, hf, hids.eq hrow hi ((hid row).symm.trans heq)]
  · rw [if_neg ‹_›, hids.eq hrow hi heq]

variable [Platform]

/-- The incidents after the commit of an ingest: the ones before, of which an
attached one may be more severe, and the created one. -/
theorem commitEvent_incident {e : Env} {payload : EventCreate} {api_key : ApiKey} {s : Store}
    {verdict : Verdict} {i : Incident} (hi : i ∈ (commitEvent e payload api_key s verdict).incidents) :
    (∃ row ∈ s.incidents, i.id = row.id ∧ i.status = row.status ∧
      (i.severity = row.severity ∨ ∃ incident, verdict = .attach incident ∧ incident.id = row.id)) ∨
    i = new_incident e (new_event e payload api_key) := by
  cases verdict with
  | quiet => exact Or.inl ⟨i, hi, rfl, rfl, Or.inl rfl⟩
  | attach incident =>
    refine Or.inl ?_
    rcases attached_incidents (e := e) (s := storeEvent e payload api_key s) incident
      (new_event e payload api_key) with heq | heq
    · have hi : i ∈ s.incidents := by rwa [← show _ = s.incidents from heq]
      exact ⟨i, hi, rfl, rfl, Or.inl rfl⟩
    · have hi : i ∈ updateWhere (fun i => i.id = incident.id) (raiseSeverity e.now) s.incidents := by
        rwa [← show _ = updateWhere _ _ s.incidents from heq]
      obtain ⟨row, hrow, rfl⟩ := mem_updateWhere.mp hi
      by_cases hid : row.id = incident.id
      · refine ⟨row, hrow, ?_, ?_, Or.inr ⟨incident, rfl, hid.symm⟩⟩
        · split <;> rfl
        · split <;> rfl
      · refine ⟨row, hrow, ?_, ?_, Or.inl ?_⟩
        all_goals simp [hid]
  | create ids =>
    rcases List.mem_append.mp hi with hi | hi
    · exact Or.inl ⟨i, hi, rfl, rfl, Or.inl rfl⟩
    · exact Or.inr (List.mem_singleton.mp hi)

/-! ## One turn -/

variable {ι : Type} [Fintype ι] [DecidableEq ι] {jobs : ι → Job}

section
variable {g : State ι Store Stage} {i : ι} {payload : EventCreate} {api_key : ApiKey}

omit [Fintype ι] [DecidableEq ι] in
/-- The links of a commit name no resolved incident, if the attached one is not resolved. -/
theorem Indexed.links_unresolved (h : Indexed jobs g) {verdict : Verdict}
    (ht : g.locals i = .committing verdict)
    (hattach : ∀ incident, verdict = .attach incident → Unresolved incident.id g.shared) :
    ∀ l ∈ verdict.links (jobs i).env g.shared, Unresolved l.incident_id g.shared := by
  intro l hl
  cases verdict with
  | quiet => cases hl
  | attach incident =>
    simp only [Verdict.links] at hl
    split at hl
    · cases hl
    · rw [List.mem_singleton.mp hl]
      exact hattach incident rfl
  | create ids =>
    obtain ⟨id, _, rfl⟩ := List.mem_map.mp hl
    intro row hrow hid
    refine absurd hid (h.unused i ?_ row hrow)
    rw [ht]
    intro reply hreply
    cases hreply

omit [Fintype ι] [DecidableEq ι] in
/-- A commit that attaches its event to an unresolved incident, or to none,
records nothing against a resolved one. -/
theorem frozen_of_commit (h : Indexed jobs g) (ha : Accounted jobs g) {verdict : Verdict}
    (ht : g.locals i = .committing verdict)
    (hattach : ∀ incident, verdict = .attach incident → Unresolved incident.id g.shared) :
    Frozen g.shared (commitEvent (jobs i).env payload api_key g.shared verdict) := by
  have hactive : ∀ reply, g.locals i ≠ .ended reply := by
    rw [ht]
    exact fun _ => nofun
  have hnew := h.links_unresolved ht hattach
  have hunused := h.unused i hactive
  refine ⟨?_, ?_, ?_⟩
  · intro row hrow hstatus l hl hid
    rw [commitEvent_links] at hl
    rcases List.mem_append.mp hl with hl | hl
    · exact hl
    · exact absurd hstatus (hnew l hl row hrow hid.symm)
  · intro row hrow hstatus row' hrow' hid
    rcases commitEvent_incident hrow' with ⟨old, hold, hid', _, hseverity⟩ | rfl
    · obtain rfl := h.ids.eq hold hrow (hid'.symm.trans hid)
      rcases hseverity with heq | ⟨incident, hverdict, hsame⟩
      · exact heq
      · exact absurd hstatus (hattach incident hverdict old hrow hsame.symm)
    · exact absurd hid.symm (hunused row hrow)
  · intro v hv hfresh l hl hlv row hrow hid
    rw [commitEvent_events] at hv
    rcases List.mem_append.mp hv with hv | hv
    · exact absurd hv hfresh
    rw [List.mem_singleton.mp hv] at hlv
    rw [commitEvent_links] at hl
    rcases List.mem_append.mp hl with hl | hl
    · exact absurd hlv (ha.unlinked hactive l hl)
    rcases commitEvent_incident hrow with ⟨old, hold, hid', hstatus, _⟩ | rfl
    · rw [hstatus]
      exact hnew l hl old hold (hid'.symm.trans hid)
    · exact fun heq => nomatch heq

/-- A turn records something against a resolved incident exactly when it
commits an ingest that found the incident. -/
theorem frozen_iff (h : Indexed jobs g) (ha : Accounted jobs g) :
    Frozen g.shared (turn jobs g i).shared ↔
      ∀ payload api_key incident, (jobs i).call = .ingest payload api_key →
        g.locals i = .committing (.attach incident) → Unresolved incident.id g.shared := by
  constructor
  · intro hfrozen payload api_key incident hcall ht row hrow hid hstatus
    obtain ⟨body, heq⟩ := turn_commits hcall ht
    rw [heq] at hfrozen
    have hactive : ∀ reply, g.locals i ≠ .ended reply := by
      rw [ht]
      exact fun _ => nofun
    have hnone := ha.not_linked hactive incident.id
    -- the link that the commit adds was not there before
    have hadded : ⟨incident.id, (jobs i).env.uuid 0⟩ ∈ g.shared.incident_events := by
      refine hfrozen.links row hrow hstatus _ ?_ hid.symm
      rw [move_shared, commitEvent_links]
      simp [Verdict.links, hnone]
    exact ha.unlinked hactive _ hadded rfl
  · intro hattach
    have hself : ∀ row ∈ g.shared.incidents, ∀ row' ∈ g.shared.incidents,
        row'.id = row.id → row'.severity = row.severity := by
      intro row hrow row' hrow' hid
      rw [h.ids.eq hrow' hrow hid]
    rcases turn_cases jobs g i with heq | ⟨s', t', hp, heq⟩
    · rw [heq]
      exact frozen_of_same rfl rfl hself
    · rw [heq]
      have hmove : Move (jobs i) g.shared (g.locals i) s' t' := (move_of_some hp).2
      show Frozen g.shared s'
      generalize ht : g.locals i = t at hmove
      cases hmove with
      | committed hcall verdict =>
        refine frozen_of_commit h ha ht ?_
        rintro incident rfl
        exact hattach _ _ incident hcall ht
      | acknowledged => exact frozen_of_same rfl rfl (severity_update h.ids (fun _ => rfl) fun _ => rfl)
      | resolved => exact frozen_of_same rfl rfl (severity_update h.ids (fun _ => rfl) fun _ => rfl)
      | _ => exact frozen_of_same rfl rfl hself

end

/-! ## From the look to the commit -/

/-- The ingest is about to commit against the incident that it found. -/
def Attaches (i : ι) (incident_id : UUID) (g : State ι Store Stage) : Prop :=
  ∃ incident, g.locals i = .committing (.attach incident) ∧ incident.id = incident_id

/-- If the turn commits an ingest that found an active incident, no resolve of
the incident was committed since. -/
def InTime (jobs : ι → Job) (s₀ : Store) (past : List ι) (i : ι) : Prop :=
  ∀ payload api_key incident, (jobs i).call = .ingest payload api_key →
    (run.after (turn jobs) (begin s₀) past).locals i = .committing (.attach incident) →
      ¬ run.Overtaken (turn jobs) (begin s₀) (Attaches i incident.id) (Resolves jobs incident.id) past

section
variable {g : State ι Store Stage} {i j : ι} {incident_id : UUID}

/-- An incident that an ingest just found is not resolved. -/
theorem unresolved_of_found (h : Indexed jobs g) (hbefore : ¬ Attaches i incident_id g)
    (hafter : Attaches i incident_id (turn jobs g j)) :
    Unresolved incident_id (turn jobs g j).shared := by
  rcases turn_cases jobs g j with heq | ⟨s', t', hp, heq⟩
  · rw [heq] at hafter
    exact absurd hafter hbefore
  rw [heq] at hafter ⊢
  obtain ⟨incident, ht', rfl⟩ := hafter
  by_cases hij : i = j
  · subst hij
    rw [move_self] at ht'
    have hmove : Move (jobs i) g.shared (g.locals i) s' t' := (move_of_some hp).2
    simp only at ht'
    subst ht'
    have hactive : ∀ event, find_active_incident event g.shared = some incident →
        Unresolved incident.id g.shared := by
      intro event hfind row hrow hid
      obtain ⟨hmem, _, _, hactive⟩ := activeIncident_of_some hfind
      rw [h.ids.eq hrow hmem hid]
      intro hstatus
      rw [hstatus] at hactive
      cases hactive
    generalize g.locals i = t at hmove
    cases hmove with
    | found _ _ _ hfind => exact hactive _ hfind
    | recovered _ _ hfind => exact hactive _ hfind
  · rw [move_other hij] at ht'
    exact absurd ⟨incident, ht', rfl⟩ hbefore

/-- Without an acknowledge, any turn but a resolve of the incident leaves it as it was. -/
theorem unresolved_kept (h : Indexed jobs g)
    (hcalls : ∀ i path_id user, (jobs i).call ≠ .acknowledge path_id user)
    (hr : ¬ Resolves jobs incident_id g j) :
    Unresolved incident_id (turn jobs g j).shared ↔ Unresolved incident_id g.shared := by
  refine statusMeets_kept h (Or.inl (by decide)) fun hsaves => ?_
  obtain ⟨⟨path_id, user, hcall⟩, _⟩ := hsaves.unresolved h hr
  exact hcalls j path_id user hcall

end

/-- While an ingest is about to commit, the incident that it found is
unresolved exactly when no resolve overtook it. -/
theorem unresolved_iff {s₀ : Store} (hs : Reachable s₀) (hf : FreshJobs jobs s₀)
    (hcalls : ∀ i path_id user, (jobs i).call ≠ .acknowledge path_id user) {past : List ι} {i : ι}
    {incident_id : UUID} (h : Attaches i incident_id (run.after (turn jobs) (begin s₀) past)) :
    Unresolved incident_id (run.after (turn jobs) (begin s₀) past).shared ↔
      ¬ run.Overtaken (turn jobs) (begin s₀) (Attaches i incident_id) (Resolves jobs incident_id)
        past := by
  have hindexed := indexed_run hs.consistent hf
  refine run.ok_iff_not_overtaken
    (fun past => Unresolved incident_id (run.after (turn jobs) (begin s₀) past).shared)
    ?_ ?_ ?_ h
  · rintro ⟨incident, ht, _⟩
    cases ht
  · exact fun past j hbefore hafter => unresolved_of_found (hindexed past) hbefore hafter
  · intro past j _ _
    by_cases hr : Resolves jobs incident_id (run.after (turn jobs) (begin s₀) past) j
    · exact iff_of_false (hr.resolved (hindexed past)) fun hand => hand.2 hr
    · rw [run.after_cons, unresolved_kept (hindexed past) hcalls hr]
      exact (and_iff_left hr).symm

/-- In an interleaving of ingests and resolves nothing is recorded against a
resolved incident, exactly when no ingest commits against an incident whose
resolve was committed after the ingest had found it. -/
theorem resolved_incidents_are_frozen_iff_ingests_are_in_time {s₀ : Store} (hs : Reachable s₀)
    (hf : FreshJobs jobs s₀)
    (hcalls : ∀ i path_id user, (jobs i).call ≠ .acknowledge path_id user) (turns : List ι) :
    run.Every (turn jobs) (begin s₀) (fun g i => Frozen g.shared (turn jobs g i).shared) turns ↔
      run.Each (InTime jobs s₀) turns := by
  refine run.every_iff_each (fun past i => ?_) turns
  rw [frozen_iff (indexed_run hs.consistent hf past) (accounted_run hs.consistent hf past)]
  unfold InTime
  constructor
  · intro h payload api_key incident hcall ht
    exact (unresolved_iff hs hf hcalls ⟨incident, ht, rfl⟩).mp (h payload api_key incident hcall ht)
  · intro h payload api_key incident hcall ht
    exact (unresolved_iff hs hf hcalls ⟨incident, ht, rfl⟩).mpr (h payload api_key incident hcall ht)

/-! ## An error that comes too late, and one in time -/

/-- A sixth error, and a resolve of the incident of the sample run. -/
def errorAndResolve (i : Fin 2) : Job :=
  ⟨sampleDraws 2 i, if i = 0 then .ingest (sampleEvent 'f' 5) (keyRow 4) else .resolve 91 sampleMember⟩

omit [Platform] in
theorem errorAndResolve_fresh :
    FreshJobs errorAndResolve (run.after (@serve samplePlatform) Store.empty sampleRun) :=
  sample_jobs_fresh (fun _ => rfl) (by decide +kernel)

omit [Platform] in
theorem errorAndResolve_calls (i : Fin 2) (path_id : UUID) (user : User) :
    (errorAndResolve i).call ≠ .acknowledge path_id user := by
  unfold errorAndResolve
  split <;> exact fun h => nomatch h

omit [Platform] in
/-- The error finds the incident, the resolve commits, and then the error is
recorded against the resolved incident, and against no other. -/
theorem a_late_error_joins_a_resolved_incident :
    let s₀ := run.after (@serve samplePlatform) Store.empty sampleRun
    let late : List (Fin 2) := [0, 1, 1, 0, 0, 0, 0]
    let g := run.after (@turn samplePlatform _ _ _ errorAndResolve) (begin s₀) late
    @Reachable samplePlatform s₀ ∧ FreshJobs errorAndResolve s₀ ∧
      (∀ i path_id user, (errorAndResolve i).call ≠ .acknowledge path_id user) ∧
      (∃ v ∈ g.shared.events, v.id = 1000 ∧ v.level.failing = true ∧
        ∀ l ∈ g.shared.incident_events, l.event_id = 1000 → l.incident_id = 91) ∧
      (∀ i ∈ g.shared.incidents, i.id = 91 ∧ i.status = .RESOLVED) ∧
      ¬ run.Every (@turn samplePlatform _ _ _ errorAndResolve) (begin s₀)
        (fun g i => Frozen g.shared (@turn samplePlatform _ _ _ errorAndResolve g i).shared) late := by
  intro s₀ late g
  refine ⟨sample_reachable, errorAndResolve_fresh, errorAndResolve_calls, by decide +kernel,
    by decide +kernel, ?_⟩
  rintro ⟨_, hlast⟩
  have hresolved : ∃ i ∈ (run.after (@turn samplePlatform _ _ _ errorAndResolve) (begin s₀)
      [1, 1, 0, 0, 0, 0]).shared.incidents, i.id = 91 ∧ i.status = .RESOLVED := by decide +kernel
  have hadded : ⟨91, 1000⟩ ∈ (run.after (@turn samplePlatform _ _ _ errorAndResolve) (begin s₀)
      [0, 1, 1, 0, 0, 0, 0]).shared.incident_events := by decide +kernel
  have hbefore : (⟨91, 1000⟩ : IncidentEvent) ∉ (run.after (@turn samplePlatform _ _ _ errorAndResolve)
      (begin s₀) [1, 1, 0, 0, 0, 0]).shared.incident_events := by decide +kernel
  rw [run.after_cons] at hadded
  obtain ⟨i, hi, hid, hstatus⟩ := hresolved
  exact hbefore (hlast.links i hi hstatus _ hadded hid.symm)

omit [Platform] in
/-- An error that commits before the resolve leaves nothing for later. -/
theorem an_error_in_time_joins_an_open_incident :
    let s₀ := run.after (@serve samplePlatform) Store.empty sampleRun
    run.Every (@turn samplePlatform _ _ _ errorAndResolve) (begin s₀)
      (fun g i => Frozen g.shared (@turn samplePlatform _ _ _ errorAndResolve g i).shared)
      [1, 1, 0, 0, 0, 0, 0] := by
  intro s₀
  refine (@resolved_incidents_are_frozen_iff_ingests_are_in_time samplePlatform _ _ _ errorAndResolve
    s₀ sample_reachable errorAndResolve_fresh errorAndResolve_calls _).mpr ?_
  have hnone : ∀ incident_id g, ¬ @Resolves samplePlatform _ _ _ errorAndResolve incident_id g 0 := by
    rintro incident_id g ⟨⟨path_id, user, hcall⟩, _⟩
    cases hcall
  have herror : ∀ past : List (Fin 2), (∀ i ∈ past, i = 0) →
      @InTime samplePlatform _ _ _ errorAndResolve s₀ past 0 := by
    intro past hpast payload api_key incident _ _ hovertaken
    have hsome := hovertaken.some
    clear * - hpast hsome hnone
    induction past with
    | nil => exact hsome
    | cons i past ih =>
      rcases hsome with hsome | hsome
      · exact ih (fun j hj => hpast j (List.mem_cons_of_mem _ hj)) hsome
      · rw [hpast i (List.mem_cons_self ..)] at hsome
        exact hnone _ _ hsome
  have hresolve : ∀ past : List (Fin 2), @InTime samplePlatform _ _ _ errorAndResolve s₀ past 1 := by
    intro past payload api_key incident hcall
    cases hcall
  refine ⟨⟨⟨⟨⟨⟨⟨trivial, ?_⟩, ?_⟩, ?_⟩, ?_⟩, ?_⟩, hresolve _⟩, hresolve _⟩
  all_goals exact herror _ (by decide)

end pulseforge

-- A transaction that runs alone does what its handler does: the machine of
-- the interleavings and the sequential model are one program.
import PulseForge.Interleavings
import PulseForge.AuthOutcomes

open txn table interleave

namespace pulseforge

variable [Platform]

/-- The handler that the transaction is made of. -/
def Job.handler (job : Job) : Handler Body :=
  match job.call with
  | .ingest payload api_key => answer .ingested (ingest_event job.env payload api_key)
  | .acknowledge incident_id user => answer .incident (acknowledge_incident job.env incident_id user)
  | .resolve incident_id user => answer .incident (resolve_incident job.env incident_id user)

section
variable {job : Job} {payload : EventCreate} {api_key : ApiKey}
  (hcall : job.call = .ingest payload api_key)
include hcall

theorem ingest_next_eq : job.next = ingest_next job.env payload api_key := by
  unfold Job.next
  rw [hcall]

theorem commit_reaches (s : Store) (verdict : Verdict) :
    Reaches job.next s (.committing verdict) (commitEvent job.env payload api_key s verdict)
      (.ended (.ok (.ingested
        ⟨(new_event job.env payload api_key).response, false, verdict.incident_id job.env⟩))) := by
  refine .step ?_ (.refl _ _)
  rw [ingest_next_eq hcall]
  rfl

/-- Where the window reaches the threshold, the transaction opens an incident and commits. -/
theorem counting_reaches {s : Store} {w : DateTime}
    (hactive : find_active_incident (new_event job.env payload api_key) s = none)
    (hcount : ¬ (matchingEvents (new_event job.env payload api_key) w
      (storeEvent job.env payload api_key s)).length < INCIDENT_THRESHOLD) :
    let verdict := Verdict.create ((windowEvents job.env payload api_key w s).map Event.id)
    Reaches job.next s (.counting w) (commitEvent job.env payload api_key s verdict)
      (.ended (.ok (.ingested
        ⟨(new_event job.env payload api_key).response, false, verdict.incident_id job.env⟩))) := by
  intro verdict
  have hreached : job.next s (.counting w) = some (s, .creating w) := by
    rw [ingest_next_eq hcall]
    simp only [ingest_next, hcount, if_false]
  have hwon : job.next s (.creating w) = some (s, .gathering w) := by
    rw [ingest_next_eq hcall]
    simp only [ingest_next, insertIncident_ok hactive]
  have hgathered : job.next s (.gathering w) = some (s, .committing verdict) := by
    rw [ingest_next_eq hcall]
    rfl
  exact .step hreached (.step hwon (.step hgathered (commit_reaches hcall s verdict)))

/-- From its own event on, the transaction does what the evaluation and the commit do. -/
theorem evaluation_reaches (s : Store) :
    Ends (evaluate_event_for_incident job.env (new_event job.env payload api_key))
      ⟨s, storeEvent job.env payload api_key s⟩ fun r s' => s'.committed = s ∧ match r with
        | .error failure => Reaches job.next s .looking s (.ended (.error failure))
        | .ok incident => Reaches job.next s .looking s'.work (.ended (.ok (.ingested
            ⟨(new_event job.env payload api_key).response, false, incident.map Incident.id⟩))) := by
  have hcommit := commit_reaches hcall s
  have hsame : find_active_incident (new_event job.env payload api_key)
      (storeEvent job.env payload api_key s) =
        find_active_incident (new_event job.env payload api_key) s := rfl
  unfold evaluate_event_for_incident
  by_cases hlevel : (new_event job.env payload api_key).level.failing = true
  · simp only [hlevel, Bool.not_true, Bool.false_eq_true, if_false, ends_bind, ends_select, hsame]
    cases hactive : find_active_incident (new_event job.env payload api_key) s with
    | some incident =>
      have hlook : job.next s .looking = some (s, .committing (.attach incident)) := by
        rw [ingest_next_eq hcall]
        simp only [ingest_next, hlevel, hactive, Bool.not_true, Bool.false_eq_true, if_false]
      simp only [ends_bind]
      refine attach_to_active_ends.mono ?_
      rintro _ _ ⟨rfl, i, rfl, hid⟩
      refine ⟨rfl, .step hlook ?_⟩
      show Reaches job.next s _ _ (.ended (.ok (.ingested ⟨_, false, some i.id⟩)))
      rw [hid]
      exact hcommit (.attach incident)
    | none =>
      simp only [ends_bind, ends_ask]
      cases hw : windowStart (new_event job.env payload api_key) with
      | error failure =>
        have hlook : job.next s .looking = some (s, .ended (.error failure)) := by
          rw [ingest_next_eq hcall]
          simp only [ingest_next, hlevel, hactive, hw, Bool.not_true, Bool.false_eq_true, if_false]
        exact ⟨trivial, .step hlook (.refl _ _)⟩
      | ok w =>
        have hlook : job.next s .looking = some (s, .counting w) := by
          rw [ingest_next_eq hcall]
          simp only [ingest_next, hlevel, hactive, hw, Bool.not_true, Bool.false_eq_true, if_false]
        simp only [ends_select]
        by_cases hcount : (matchingEvents (new_event job.env payload api_key) w
            (storeEvent job.env payload api_key s)).length < INCIDENT_THRESHOLD
        · have hbelow : job.next s (.counting w) = some (s, .committing .quiet) := by
            rw [ingest_next_eq hcall]
            simp only [ingest_next, hcount, if_true]
          simp only [hcount, if_true, ends_pure]
          exact ⟨trivial, .step hlook (.step hbelow (hcommit .quiet))⟩
        · have hlast := counting_reaches hcall hactive hcount
          simp only [commitEvent, createIncident, List.map_map] at hlast
          simp only [hcount, if_false, ends_bind, ends_attempt, ends_flush,
            insertIncident_ok (hsame.trans hactive), if_true, ends_select, ends_write, ends_pure]
          exact ⟨trivial, .step hlook hlast⟩
  · have hlook : job.next s .looking = some (s, .committing .quiet) := by
      rw [ingest_next_eq hcall]
      simp only [ingest_next, hlevel, Bool.not_false, if_true]
    simp only [hlevel]
    exact ⟨rfl, .step hlook (hcommit .quiet)⟩

theorem ingest_reaches (s : Store) :
    Ends (answer .ingested (ingest_event job.env payload api_key)) ⟨s, s⟩ fun r s' =>
      Reaches job.next s .start s'.committed (.ended r) := by
  have hnext := ingest_next_eq hcall
  unfold ingest_event
  simp only [ends_answer, ends_bind, ends_check_rate_limit]
  cases hl : job.env.retry_after with
  | some seconds =>
    have hstart : job.next s .start = some (s, .ended (.error (RateLimitError seconds))) := by
      simp only [hnext, ingest_next, hl]
    exact .step hstart (.refl _ _)
  | none =>
    simp only [ends_select]
    cases hv : findEvent api_key.service_id (strip payload.event_id) s with
    | some existing =>
      have hstart : job.next s .start = some (s, .marking existing) := by
        simp only [hnext, ingest_next, hl, hv]
      have hmark : job.next s (.marking existing) =
          some (touchApiKey api_key.id (job.env.clock 1) s, .answering existing) := by
        rw [hnext]
        rfl
      have hanswer : ∀ s', job.next s' (.answering existing) = some (s', .ended (.ok (.ingested
          ⟨existing.response, true, find_incident_id existing.id s'⟩))) := by
        intro s'
        rw [hnext]
        rfl
      simp only [answer_duplicate, ends_bind, ends_write, ends_commit, ends_select, ends_pure]
      exact .step hstart (.step hmark (.step (hanswer _) (.refl _ _)))
    | none =>
      have hstart : job.next s .start = some (s, .inserting) := by
        simp only [hnext, ingest_next, hl, hv]
      have hnone : findEvent (new_event job.env payload api_key).service_id
          (new_event job.env payload api_key).event_id s = none := hv
      simp only [ends_attempt, ends_bind, ends_flush]
      by_cases hs : (new_event job.env payload api_key).storable = true
      · have hinsert : job.next s .inserting = some (s, .touching) := by
          simp only [hnext, ingest_next, insertEvent, hs, hnone, if_true, Option.isSome_none,
            Bool.false_eq_true, if_false]
        have htouch : job.next s .touching = some (s, .looking) := by
          rw [hnext]
          rfl
        simp only [insertEvent, hs, hnone, if_true, Option.isSome_none, Bool.false_eq_true, if_false,
          Except.map, ends_bind]
        refine (evaluation_reaches hcall s).mono ?_
        rintro (failure | incident) s' ⟨hcommitted, h⟩
        · rw [hcommitted]
          exact .step hstart (.step hinsert (.step htouch h))
        · simp only [ends_commit, ends_pure]
          exact .step hstart (.step hinsert (.step htouch h))
      · have hinsert : job.next s .inserting = some (s, .ended (.error .DataError)) := by
          simp only [hnext, ingest_next, insertEvent, hs, Bool.false_eq_true, if_false, isIntegrityError]
        simp only [insertEvent, hs, Bool.false_eq_true, if_false, Except.map, isIntegrityError]
        exact .step hstart (.step hinsert (.refl _ _))

end

/-! ## The operator actions -/

omit [Platform] in
/-- The row of an incident after an update by its id. -/
theorem refreshed_update {s : Store} (hs : Consistent s) {incident : Incident}
    (hi : incident ∈ s.incidents) {f : Incident → Incident} (hid : (f incident).id = incident.id)
    (row : AuditLog) :
    refreshed incident (addAudit row (updateIncident incident.id f s)) = f incident := by
  have hfind : (updateWhere (fun i => i.id = incident.id) f s.incidents).find?
      (fun i => i.id = incident.id) = some (f incident) := by
    refine find?_eq_of_unique (mem_updateWhere_of hi (by simp)) (by simpa using hid) ?_
    intro a ha heq
    obtain ⟨old, hold, rfl⟩ := mem_updateWhere.mp ha
    by_cases holdid : old.id = incident.id
    · rw [hs.incident_ids.eq hold hi holdid]
      simp
    · simp only [holdid, decide_false, Bool.false_eq_true, if_false] at heq
  show Option.getD (List.find? _ (updateWhere _ _ _)) _ = _
  rw [hfind]
  rfl

omit [Platform] in
/-- An active incident has its group for itself. -/
theorem groupTaken_of_active {s : Store} (hs : Consistent s) {incident : Incident}
    (hi : incident ∈ s.incidents) (hactive : incident.isActive = true) :
    groupTaken incident s = false := by
  apply List.any_eq_false.mpr
  intro i hmem htaken
  simp only [Bool.and_eq_true, decide_eq_true_eq] at htaken
  obtain ⟨⟨hne, hgroup⟩, hi'⟩ := htaken
  exact hne (congrArg Incident.id (hs.active_groups.of_filter hmem hi hi' hactive hgroup))

omit [Platform] in
/-- Both operator actions start with the check of the machine. -/
theorem ends_operator {permission : Permission} {incident_id user_id : UUID} {s : Store}
    {k : Incident → Handler Incident} {Q : Except Failure Incident → Session Store → Prop}
    (hfails : ∀ failure, operatorCheck permission incident_id user_id s = .error failure →
      Q (.error failure) ⟨s, s⟩)
    (hk : ∀ incident ∈ s.incidents, operatorCheck permission incident_id user_id s = .ok incident →
      Ends (k incident) ⟨s, s⟩ Q) :
    Ends (do
      let incident ← ask (get_tenant_resource_or_404 Incident incident_id user_id)
      let _ ← ask (require_permission permission incident.organization_id user_id)
      k incident) ⟨s, s⟩ Q := by
  refine ends_ask_checked (rfl : _ = operatorCheck permission incident_id user_id s) hfails
    fun incident hi hcheck => ?_
  refine ends_ask_checked hcheck hfails fun _ _ hcheck => ?_
  exact hk incident (resource_of_ok hi).1 hcheck.symm

theorem acknowledge_reaches {job : Job} {incident_id : UUID} {user : User}
    (hcall : job.call = .acknowledge incident_id user) {s : Store} (hs : Consistent s) :
    Ends (answer .incident (acknowledge_incident job.env incident_id user)) ⟨s, s⟩ fun r s' =>
      Reaches job.next s .start s'.committed (.ended r) := by
  have hnext : job.next = acknowledge_next job.env incident_id user := by
    unfold Job.next
    rw [hcall]
  have hrefresh : ∀ incident s', job.next s' (.refreshing incident) =
      some (s', .ended (.ok (.incident (refreshed incident s')))) := by
    intro incident s'
    rw [hnext]
    rfl
  rw [ends_answer]
  refine ends_operator ?_ ?_
  · intro failure hcheck
    refine .step ?_ (.refl _ _)
    simp only [hnext, acknowledge_next, hcheck]
    rfl
  · intro incident hmem hcheck
    by_cases hresolved : incident.status = .RESOLVED
    · have hstart : job.next s .start = some (s, .ended (.error
          (HTTPException 409 "Resolved incidents cannot be acknowledged"))) := by
        simp only [hnext, acknowledge_next, hcheck, hresolved, if_true]
      rw [if_pos hresolved, ends_throw]
      exact .step hstart (.refl _ _)
    rw [if_neg hresolved]
    by_cases hopen : incident.status = .OPEN
    · have hstart : job.next s .start = some (s, .saving incident) := by
        simp only [hnext, acknowledge_next, hcheck, hopen, reduceCtorEq, if_false, if_true]
      have htaken := groupTaken_of_active hs hmem (by simp [Incident.isActive, hopen,
        IncidentStatus.active])
      have hsave : job.next s (.saving incident) =
          some (saveAcknowledge job.env incident user.id s, .refreshing incident) := by
        simp only [hnext, acknowledge_next, htaken, Bool.false_eq_true, if_false]
      have hrow := refreshed_update hs hmem (f := acknowledged user.id (job.env.clock 1) job.env.now) rfl
        (incident_audit job.env .INCIDENT_ACKNOWLEDGED incident user.id)
      rw [if_pos hopen]
      simp only [ends_bind, ends_write, ends_commit, ends_pure, Except.map]
      rw [← hrow]
      exact .step hstart (.step hsave (.step (hrefresh _ _) (.refl _ _)))
    · have hstart : job.next s .start = some (s, .ended (.ok (.incident incident))) := by
        simp only [hnext, acknowledge_next, hcheck, hresolved, hopen, if_false]
      rw [if_neg hopen, ends_pure]
      exact .step hstart (.refl _ _)

theorem resolve_reaches {job : Job} {incident_id : UUID} {user : User}
    (hcall : job.call = .resolve incident_id user) {s : Store} (hs : Consistent s) :
    Ends (answer .incident (resolve_incident job.env incident_id user)) ⟨s, s⟩ fun r s' =>
      Reaches job.next s .start s'.committed (.ended r) := by
  have hnext : job.next = resolve_next job.env incident_id user := by
    unfold Job.next
    rw [hcall]
  rw [ends_answer]
  refine ends_operator ?_ ?_
  · intro failure hcheck
    refine .step ?_ (.refl _ _)
    simp only [hnext, resolve_next, hcheck]
    rfl
  · intro incident hmem hcheck
    by_cases hopen : incident.status ≠ .RESOLVED
    · have hstart : job.next s .start = some (s, .saving incident) := by
        simp only [hnext, resolve_next, hcheck]
        exact if_pos hopen
      have hsave : job.next s (.saving incident) =
          some (saveResolve job.env incident user.id s, .refreshing incident) := by
        rw [hnext]
        rfl
      have hrefresh : ∀ s', job.next s' (.refreshing incident) =
          some (s', .ended (.ok (.incident (refreshed incident s')))) := by
        intro s'
        rw [hnext]
        rfl
      have hrow := refreshed_update hs hmem
        (f := resolved user.id (job.env.clock 1) job.env.now incident.assigned_to.isNone) rfl
        (incident_audit job.env .INCIDENT_RESOLVED incident user.id)
      rw [if_pos hopen]
      simp only [ends_bind, ends_write, ends_commit, ends_pure, Except.map]
      rw [← hrow]
      exact .step hstart (.step hsave (.step (hrefresh _) (.refl _ _)))
    · have hstart : job.next s .start = some (s, .ended (.ok (.incident incident))) := by
        simp only [hnext, resolve_next, hcheck]
        exact if_neg hopen
      rw [if_neg hopen, ends_pure]
      exact .step hstart (.refl _ _)

/-! ## Alone -/

/-- A transaction that runs alone leaves the store and gives the answer of its handler. -/
theorem alone_is_sequential (job : Job) {s : Store} (hs : Consistent s) :
    ∃ n, run.after (turn fun _ : Unit => job) (begin s) (List.replicate n ()) =
      ⟨(runRequest job.handler s).2, fun _ => .ended (runRequest job.handler s).1⟩ := by
  apply reaches_turns
  refine ends_runRequest (Q := fun r s' => Reaches job.next s .start s' (.ended r)) ?_
  unfold Job.handler
  cases hcall : job.call with
  | ingest payload api_key => exact ingest_reaches hcall s
  | acknowledge incident_id user => exact acknowledge_reaches hcall hs
  | resolve incident_id user => exact resolve_reaches hcall hs

end pulseforge

-- The ingest, acknowledge and resolve requests as transactions under READ
-- COMMITTED: one step for each statement that reads or waits. The shared
-- state is the committed store; what a transaction wrote and did not commit
-- is in its stage, and so are the locks that it holds.
import PulseForge.Lib.Locks
import PulseForge.Api
import PulseForge.Consistency

open txn table interleave

namespace pulseforge

variable [Platform]

/-! ## Jobs, locks and stages -/

inductive Call
  | ingest (payload : EventCreate) (api_key : ApiKey)
  | acknowledge (incident_id : UUID) (current_user : User)
  | resolve (incident_id : UUID) (current_user : User)

/-- A request with the draws and the clock of its process. -/
structure Job where
  env : Env
  call : Call

/-- What a transaction can wait for: an uncommitted row of `uq_event_service_event_id`,
the row of a key, an uncommitted row of `unique_active_incident`. -/
inductive Lock
  | event (service_id : UUID) (event_id : Text)
  | api_key (id : UUID)
  | incident (group : UUID × Text)
  deriving DecidableEq

/-- What an ingest adds to its event when it commits. -/
inductive Verdict
  | quiet
  | attach (incident : Incident)
  | create (matching_event_ids : List UUID)

/-- What a transaction does next. -/
inductive Stage
  | start
  | marking (existing : Event)
  | inserting
  | rereading
  | touching
  | looking
  | counting (window_start : DateTime)
  | creating (window_start : DateTime)
  | recovering
  | gathering (window_start : DateTime)
  | committing (verdict : Verdict)
  | answering (existing : Event)
  | saving (incident : Incident)
  | refreshing (incident : Incident)
  | ended (reply : Except Failure Body)

/-! ## Ingestion -/

def eventLock (event : Event) : Lock := .event event.service_id event.event_id

def Event.group (event : Event) : UUID × Text := (event.service_id, event.fingerprint)

/-- The store with a new incident of an event, and its links. -/
def createIncident (e : Env) (event : Event) (matching_event_ids : List UUID) (s : Store) : Store :=
  addLinks (matching_event_ids.map fun event_id => ⟨e.uuid 1, event_id⟩)
    { s with incidents := s.incidents ++ [new_incident e event] }

/-- The commit of an ingest. -/
def commitEvent (e : Env) (payload : EventCreate) (api_key : ApiKey) (s : Store) : Verdict → Store
  | .quiet => storeEvent e payload api_key s
  | .attach incident =>
    attached e incident (new_event e payload api_key) (storeEvent e payload api_key s)
  | .create matching_event_ids =>
    createIncident e (new_event e payload api_key) matching_event_ids (storeEvent e payload api_key s)

def Verdict.incident_id (e : Env) : Verdict → Option UUID
  | .quiet => none
  | .attach incident => some incident.id
  | .create _ => some (e.uuid 1)

/-- The next statement of an ingest. It reads the committed store, from
`counting` on with its own event in it. -/
def ingest_next (e : Env) (payload : EventCreate) (api_key : ApiKey) (s : Store) :
    Stage → Option (Store × Stage)
  | .start =>
    match e.retry_after with
    | some seconds => some (s, .ended (.error (RateLimitError seconds)))
    | none =>
      match findEvent api_key.service_id (strip payload.event_id) s with
      | some existing => some (s, .marking existing)
      | none => some (s, .inserting)
  | .marking existing => some (touchApiKey api_key.id (e.clock 1) s, .answering existing)
  | .inserting =>
    match insertEvent (new_event e payload api_key) s with
    | .ok _ => some (s, .touching)
    | .error failure =>
      if isIntegrityError failure then some (s, .rereading) else some (s, .ended (.error failure))
  | .rereading =>
    match findEvent api_key.service_id (strip payload.event_id) s with
    | none => some (s, .ended (.error .IntegrityError))
    | some existing => some (s, .answering existing)
  | .touching => some (s, .looking)
  | .looking =>
    if !(new_event e payload api_key).level.failing then some (s, .committing .quiet)
    else
      match find_active_incident (new_event e payload api_key) s with
      | some active_incident => some (s, .committing (.attach active_incident))
      | none =>
        match windowStart (new_event e payload api_key) with
        | .error failure => some (s, .ended (.error failure))
        | .ok window_start => some (s, .counting window_start)
  | .counting window_start =>
    if (matchingEvents (new_event e payload api_key) window_start
        (storeEvent e payload api_key s)).length < INCIDENT_THRESHOLD then
      some (s, .committing .quiet)
    else some (s, .creating window_start)
  | .creating window_start =>
    match insertIncident (new_incident e (new_event e payload api_key)) s with
    | .ok _ => some (s, .gathering window_start)
    | .error _ => some (s, .recovering)
  | .recovering =>
    match find_active_incident (new_event e payload api_key) s with
    | none => some (s, .ended (.error .IntegrityError))
    | some active_incident => some (s, .committing (.attach active_incident))
  | .gathering window_start =>
    some (s, .committing (.create ((matchingEvents (new_event e payload api_key) window_start
      (storeEvent e payload api_key s)).map Event.id)))
  | .committing verdict =>
    some (commitEvent e payload api_key s verdict, .ended (.ok (.ingested
      ⟨(new_event e payload api_key).response, false, verdict.incident_id e⟩)))
  | .answering existing =>
    some (s, .ended (.ok (.ingested ⟨existing.response, true, find_incident_id existing.id s⟩)))
  | .saving _ | .refreshing _ | .ended _ => none

def ingest_wants (event : Event) (api_key_id : UUID) : Stage → Option Lock
  | .marking _ | .touching => some (.api_key api_key_id)
  | .inserting => if event.storable then some (eventLock event) else none
  | .creating _ => some (.incident event.group)
  | _ => none

/-- The locks that last until the commit. -/
def ingest_holds (event : Event) (api_key_id : UUID) : Stage → List Lock
  | .touching => [eventLock event]
  | .looking | .counting _ | .creating _ | .recovering | .committing .quiet
  | .committing (.attach _) => [eventLock event, .api_key api_key_id]
  | .gathering _ | .committing (.create _) =>
    [eventLock event, .api_key api_key_id, .incident event.group]
  | _ => []

/-! ## Operator actions -/

/-- Another incident of the group is active: `unique_active_incident` refuses
to make the incident active. -/
def groupTaken (incident : Incident) (s : Store) : Bool :=
  s.incidents.any fun i => i.id ≠ incident.id && i.group = incident.group && i.isActive

/-- The row of an incident; no incident is ever deleted alone. -/
def refreshed (incident : Incident) (s : Store) : Incident :=
  (s.incidents.find? fun i => i.id = incident.id).getD incident

/-- The commit of an acknowledge: the columns and the audit row. -/
def saveAcknowledge (e : Env) (incident : Incident) (user_id : UUID) (s : Store) : Store :=
  addAudit (incident_audit e .INCIDENT_ACKNOWLEDGED incident user_id)
    (updateIncident incident.id (acknowledged user_id (e.clock 1) e.now) s)

/-- The commit of a resolve. -/
def saveResolve (e : Env) (incident : Incident) (user_id : UUID) (s : Store) : Store :=
  addAudit (incident_audit e .INCIDENT_RESOLVED incident user_id)
    (updateIncident incident.id (resolved user_id (e.clock 1) e.now incident.assigned_to.isNone) s)

/-- The incident of an operator action, if the user may take it. -/
def operatorCheck (permission : Permission) (incident_id user_id : UUID) (s : Store) :
    Except Failure Incident := do
  let incident ← get_tenant_resource_or_404 Incident incident_id user_id s
  let _ ← require_permission permission incident.organization_id user_id s
  return incident

def acknowledge_next (e : Env) (incident_id : UUID) (current_user : User) (s : Store) :
    Stage → Option (Store × Stage)
  | .start =>
    match operatorCheck .INCIDENT_ACKNOWLEDGE incident_id current_user.id s with
    | .error failure => some (s, .ended (.error failure))
    | .ok incident =>
      if incident.status = .RESOLVED then
        some (s, .ended (.error (HTTPException 409 "Resolved incidents cannot be acknowledged")))
      else if incident.status = .OPEN then some (s, .saving incident)
      else some (s, .ended (.ok (.incident incident)))
  | .saving incident =>
    if groupTaken incident s then some (s, .ended (.error .IntegrityError))
    else some (saveAcknowledge e incident current_user.id s, .refreshing incident)
  | .refreshing incident => some (s, .ended (.ok (.incident (refreshed incident s))))
  | _ => none

def resolve_next (e : Env) (incident_id : UUID) (current_user : User) (s : Store) :
    Stage → Option (Store × Stage)
  | .start =>
    match operatorCheck .INCIDENT_RESOLVE incident_id current_user.id s with
    | .error failure => some (s, .ended (.error failure))
    | .ok incident =>
      if incident.status ≠ .RESOLVED then some (s, .saving incident)
      else some (s, .ended (.ok (.incident incident)))
  | .saving incident => some (saveResolve e incident current_user.id s, .refreshing incident)
  | .refreshing incident => some (s, .ended (.ok (.incident (refreshed incident s))))
  | _ => none

/-! ## The machine -/

def Job.next (job : Job) : Store → Stage → Option (Store × Stage) :=
  match job.call with
  | .ingest payload api_key => ingest_next job.env payload api_key
  | .acknowledge incident_id current_user => acknowledge_next job.env incident_id current_user
  | .resolve incident_id current_user => resolve_next job.env incident_id current_user

/-- An acknowledge writes an entry of `unique_active_incident`, so it waits
for an uncommitted one. -/
def Job.wants (job : Job) (t : Stage) : Option Lock :=
  match job.call, t with
  | .ingest payload api_key, t => ingest_wants (new_event job.env payload api_key) api_key.id t
  | .acknowledge _ _, .saving incident => some (.incident incident.group)
  | _, _ => none

def Job.holds (job : Job) (t : Stage) : List Lock :=
  match job.call with
  | .ingest payload api_key => ingest_holds (new_event job.env payload api_key) api_key.id t
  | _ => []

/-! ## What a step can do -/

/-- The group has an active incident. -/
def ActiveGroup (group : UUID × Text) (s : Store) : Prop :=
  ∃ i ∈ s.incidents, i.group = group ∧ i.isActive = true

instance (group : UUID × Text) (s : Store) : Decidable (ActiveGroup group s) :=
  inferInstanceAs (Decidable (∃ i ∈ s.incidents, _ ∧ _))

/-- The events that the detection window of the ingest holds, its own one among them. -/
def windowEvents (e : Env) (payload : EventCreate) (api_key : ApiKey) (window_start : DateTime)
    (s : Store) : List Event :=
  matchingEvents (new_event e payload api_key) window_start (storeEvent e payload api_key s)

/-- Each step of a transaction, with what it read. -/
inductive Move (job : Job) (s : Store) : Stage → Store → Stage → Prop
  | limited {payload : EventCreate} {api_key : ApiKey} (hcall : job.call = .ingest payload api_key)
      (failure : Failure) (hlimit : job.env.retry_after.isSome = true) :
      Move job s .start s (.ended (.error failure))
  | seen {payload : EventCreate} {api_key : ApiKey} (hcall : job.call = .ingest payload api_key)
      (existing : Event)
      (hv : findEvent api_key.service_id (strip payload.event_id) s = some existing) :
      Move job s .start s (.marking existing)
  | unseen {payload : EventCreate} {api_key : ApiKey} (hcall : job.call = .ingest payload api_key) :
      Move job s .start s .inserting
  | marked {payload : EventCreate} {api_key : ApiKey} (hcall : job.call = .ingest payload api_key)
      (existing : Event) :
      Move job s (.marking existing) (touchApiKey api_key.id (job.env.clock 1) s) (.answering existing)
  | inserted {payload : EventCreate} {api_key : ApiKey} (hcall : job.call = .ingest payload api_key)
      (hs : (new_event job.env payload api_key).storable = true)
      (hv : findEvent api_key.service_id (strip payload.event_id) s = none) :
      Move job s .inserting s .touching
  | conflicted {payload : EventCreate} {api_key : ApiKey}
      (hcall : job.call = .ingest payload api_key)
      (hv : (findEvent api_key.service_id (strip payload.event_id) s).isSome = true) :
      Move job s .inserting s .rereading
  | unstorable {payload : EventCreate} {api_key : ApiKey}
      (hcall : job.call = .ingest payload api_key)
      (hs : (new_event job.env payload api_key).storable = false) (failure : Failure) :
      Move job s .inserting s (.ended (.error failure))
  | reread {payload : EventCreate} {api_key : ApiKey} (hcall : job.call = .ingest payload api_key)
      (existing : Event)
      (hv : findEvent api_key.service_id (strip payload.event_id) s = some existing) :
      Move job s .rereading s (.answering existing)
  | vanished {payload : EventCreate} {api_key : ApiKey}
      (hcall : job.call = .ingest payload api_key)
      (hv : findEvent api_key.service_id (strip payload.event_id) s = none) (failure : Failure) :
      Move job s .rereading s (.ended (.error failure))
  | touched {payload : EventCreate} {api_key : ApiKey} (hcall : job.call = .ingest payload api_key) :
      Move job s .touching s .looking
  | harmless {payload : EventCreate} {api_key : ApiKey}
      (hcall : job.call = .ingest payload api_key) (hlevel : payload.level.failing = false) :
      Move job s .looking s (.committing .quiet)
  | found {payload : EventCreate} {api_key : ApiKey} (hcall : job.call = .ingest payload api_key)
      (hlevel : payload.level.failing = true) (incident : Incident)
      (hactive : find_active_incident (new_event job.env payload api_key) s = some incident) :
      Move job s .looking s (.committing (.attach incident))
  | out_of_range {payload : EventCreate} {api_key : ApiKey}
      (hcall : job.call = .ingest payload api_key) (hlevel : payload.level.failing = true)
      (hactive : ¬ ActiveGroup (new_event job.env payload api_key).group s)
      (hw : payload.occurred_at.minus_seconds INCIDENT_WINDOW_SECONDS = none) (failure : Failure) :
      Move job s .looking s (.ended (.error failure))
  | unfound {payload : EventCreate} {api_key : ApiKey} (hcall : job.call = .ingest payload api_key)
      (hlevel : payload.level.failing = true)
      (hactive : ¬ ActiveGroup (new_event job.env payload api_key).group s) (w : DateTime)
      (hw : payload.occurred_at.minus_seconds INCIDENT_WINDOW_SECONDS = some w) :
      Move job s .looking s (.counting w)
  | below {payload : EventCreate} {api_key : ApiKey} (hcall : job.call = .ingest payload api_key)
      (w : DateTime)
      (hcount : (windowEvents job.env payload api_key w s).length < INCIDENT_THRESHOLD) :
      Move job s (.counting w) s (.committing .quiet)
  | reached {payload : EventCreate} {api_key : ApiKey} (hcall : job.call = .ingest payload api_key)
      (w : DateTime)
      (hcount : INCIDENT_THRESHOLD ≤ (windowEvents job.env payload api_key w s).length) :
      Move job s (.counting w) s (.creating w)
  | won {payload : EventCreate} {api_key : ApiKey} (hcall : job.call = .ingest payload api_key)
      (w : DateTime) (hactive : ¬ ActiveGroup (new_event job.env payload api_key).group s) :
      Move job s (.creating w) s (.gathering w)
  | beaten {payload : EventCreate} {api_key : ApiKey} (hcall : job.call = .ingest payload api_key)
      (w : DateTime) (hactive : ActiveGroup (new_event job.env payload api_key).group s) :
      Move job s (.creating w) s .recovering
  | recovered {payload : EventCreate} {api_key : ApiKey}
      (hcall : job.call = .ingest payload api_key) (incident : Incident)
      (hactive : find_active_incident (new_event job.env payload api_key) s = some incident) :
      Move job s .recovering s (.committing (.attach incident))
  | unrecovered {payload : EventCreate} {api_key : ApiKey}
      (hcall : job.call = .ingest payload api_key)
      (hactive : ¬ ActiveGroup (new_event job.env payload api_key).group s) (failure : Failure) :
      Move job s .recovering s (.ended (.error failure))
  | gathered {payload : EventCreate} {api_key : ApiKey} (hcall : job.call = .ingest payload api_key)
      (w : DateTime) :
      Move job s (.gathering w) s
        (.committing (.create ((windowEvents job.env payload api_key w s).map Event.id)))
  | committed {payload : EventCreate} {api_key : ApiKey}
      (hcall : job.call = .ingest payload api_key) (verdict : Verdict) (body : Body) :
      Move job s (.committing verdict) (commitEvent job.env payload api_key s verdict)
        (.ended (.ok body))
  | answered {payload : EventCreate} {api_key : ApiKey} (hcall : job.call = .ingest payload api_key)
      (existing : Event) (body : Body) : Move job s (.answering existing) s (.ended (.ok body))
  | refused (hcall : ∀ payload api_key, job.call ≠ .ingest payload api_key) (failure : Failure) :
      Move job s .start s (.ended (.error failure))
  | unchanged (hcall : ∀ payload api_key, job.call ≠ .ingest payload api_key) (body : Body) :
      Move job s .start s (.ended (.ok body))
  | acknowledging {incident_id : UUID} {user : User} (hcall : job.call = .acknowledge incident_id user)
      (incident : Incident) (hmem : incident ∈ s.incidents) (hstatus : incident.status = .OPEN) :
      Move job s .start s (.saving incident)
  | resolving {incident_id : UUID} {user : User} (hcall : job.call = .resolve incident_id user)
      (incident : Incident) (hmem : incident ∈ s.incidents) (hstatus : incident.status ≠ .RESOLVED) :
      Move job s .start s (.saving incident)
  | crossed {incident_id : UUID} {user : User} (hcall : job.call = .acknowledge incident_id user)
      (incident : Incident) (htaken : groupTaken incident s = true) (failure : Failure) :
      Move job s (.saving incident) s (.ended (.error failure))
  | acknowledged {incident_id : UUID} {user : User} (hcall : job.call = .acknowledge incident_id user)
      (incident : Incident) (htaken : groupTaken incident s = false) :
      Move job s (.saving incident) (saveAcknowledge job.env incident user.id s) (.refreshing incident)
  | resolved {incident_id : UUID} {user : User} (hcall : job.call = .resolve incident_id user)
      (incident : Incident) :
      Move job s (.saving incident) (saveResolve job.env incident user.id s) (.refreshing incident)
  | refreshed (hcall : ∀ payload api_key, job.call ≠ .ingest payload api_key) (incident : Incident)
      (body : Body) : Move job s (.refreshing incident) s (.ended (.ok body))

omit [Platform] in
theorem find_active_incident_none {event : Event} {s : Store} :
    find_active_incident event s = none ↔ ¬ ActiveGroup event.group s := by
  constructor
  · rintro h ⟨i, hi, hgroup, hactive⟩
    exact no_active_of_none h i hi hactive hgroup
  · intro h
    apply List.find?_eq_none.mpr
    intro i hi hactive
    simp only [isActiveFor, Bool.and_eq_true, decide_eq_true_eq] at hactive
    exact h ⟨i, hi, Prod.ext hactive.1.1 hactive.1.2, hactive.2⟩

omit [Platform] in
/-- The new incident meets an active one of its group, or it is inserted. -/
theorem insertIncident_new {e : Env} {event : Event} {s : Store} :
    (∃ failure, insertIncident (new_incident e event) s = .error failure) ↔
      ActiveGroup event.group s := by
  by_cases h : ActiveGroup event.group s
  · simp only [h, iff_true]
    obtain ⟨i, hi, hgroup, hactive⟩ := h
    have hany : (s.incidents.any fun i => i.service_id = event.service_id &&
        i.fingerprint = event.fingerprint && i.status.active) = true := by
      apply List.any_eq_true.mpr
      refine ⟨i, hi, ?_⟩
      have hactive : i.status.active = true := hactive
      simp only [Incident.group, Event.group, Prod.mk.injEq] at hgroup
      simp [hgroup.1, hgroup.2, hactive]
    refine ⟨.IntegrityError, ?_⟩
    unfold insertIncident
    rw [if_pos]
    rw [Bool.and_eq_true]
    exact ⟨rfl, hany⟩
  · simp only [h, iff_false, not_exists]
    intro failure hf
    rw [insertIncident_ok (find_active_incident_none.mpr h)] at hf
    cases hf

/-- The `INSERT` of the event: a value the table refuses, an id that is taken, or a new row. -/
theorem insert_move {job : Job} {payload : EventCreate} {api_key : ApiKey}
    (hcall : job.call = .ingest payload api_key) {s s' : Store} {t' : Stage}
    (h : ingest_next job.env payload api_key s .inserting = some (s', t')) :
    Move job s .inserting s' t' := by
  have hfind : findEvent (new_event job.env payload api_key).service_id
      (new_event job.env payload api_key).event_id s =
        findEvent api_key.service_id (strip payload.event_id) s := rfl
  simp only [ingest_next, insertEvent] at h
  by_cases hs : (new_event job.env payload api_key).storable = true
  · simp only [hs, if_true, hfind] at h
    cases hv : findEvent api_key.service_id (strip payload.event_id) s with
    | none =>
      simp only [hv, Option.isSome_none, Bool.false_eq_true, if_false] at h
      cases h
      exact .inserted hcall hs hv
    | some existing =>
      simp only [hv, Option.isSome_some, if_true] at h
      cases h
      exact .conflicted hcall (by rw [hv]; rfl)
  · simp only [hs, isIntegrityError] at h
    cases h
    exact .unstorable hcall (by simpa using hs) _

/-- The look for an active incident, and the window when there is none. -/
theorem look_move {job : Job} {payload : EventCreate} {api_key : ApiKey}
    (hcall : job.call = .ingest payload api_key) {s s' : Store} {t' : Stage}
    (h : ingest_next job.env payload api_key s .looking = some (s', t')) :
    Move job s .looking s' t' := by
  have hlevel : (new_event job.env payload api_key).level = payload.level := rfl
  simp only [ingest_next, hlevel] at h
  cases hfailing : payload.level.failing with
  | false =>
    simp only [hfailing, Bool.not_false, if_true] at h
    cases h
    exact .harmless hcall hfailing
  | true =>
    simp only [hfailing, Bool.not_true, Bool.false_eq_true, if_false] at h
    split at h
    · cases h
      exact .found hcall hfailing _ ‹_›
    · rename_i hnone
      have hactive := find_active_incident_none.mp hnone
      have hoccurred : (new_event job.env payload api_key).occurred_at = payload.occurred_at := rfl
      unfold windowStart at h
      rw [hoccurred] at h
      cases hw : payload.occurred_at.minus_seconds INCIDENT_WINDOW_SECONDS with
      | none =>
        simp only [hw] at h
        cases h
        exact .out_of_range hcall hfailing hactive hw _
      | some w =>
        simp only [hw] at h
        cases h
        exact .unfound hcall hfailing hactive w hw

theorem ingest_move {job : Job} {payload : EventCreate} {api_key : ApiKey}
    (hcall : job.call = .ingest payload api_key) {s s' : Store} {t t' : Stage}
    (h : ingest_next job.env payload api_key s t = some (s', t')) : Move job s t s' t' := by
  cases t with
  | start =>
    simp only [ingest_next] at h
    split at h
    · rename_i seconds hlimit
      cases h
      exact .limited hcall _ (by simp [hlimit])
    · split at h
      · cases h
        exact .seen hcall _ ‹_›
      · cases h
        exact .unseen hcall
  | marking existing =>
    cases h
    exact .marked hcall existing
  | inserting => exact insert_move hcall h
  | rereading =>
    simp only [ingest_next] at h
    split at h
    · cases h
      exact .vanished hcall ‹_› _
    · cases h
      exact .reread hcall _ ‹_›
  | touching =>
    cases h
    exact .touched hcall
  | looking => exact look_move hcall h
  | counting w =>
    simp only [ingest_next] at h
    split at h
    · cases h
      exact .below hcall w ‹_›
    · cases h
      exact .reached hcall w (Nat.not_lt.mp ‹_›)
  | creating w =>
    simp only [ingest_next] at h
    split at h
    · rename_i hok
      cases h
      refine .won hcall w fun hactive => ?_
      obtain ⟨failure, hf⟩ := insertIncident_new.mpr hactive
      rw [hf] at hok
      cases hok
    · rename_i failure hf
      cases h
      exact .beaten hcall w (insertIncident_new.mp ⟨failure, hf⟩)
  | recovering =>
    simp only [ingest_next] at h
    split at h
    · cases h
      exact .unrecovered hcall (find_active_incident_none.mp ‹_›) _
    · cases h
      exact .recovered hcall _ ‹_›
  | gathering w =>
    cases h
    exact .gathered hcall w
  | committing verdict =>
    cases h
    exact .committed hcall verdict _
  | answering existing =>
    cases h
    exact .answered hcall existing _
  | saving incident => cases h
  | refreshing incident => cases h
  | ended reply => cases h

omit [Platform] in
theorem operatorCheck_ok {permission : Permission} {incident_id user_id : UUID} {s : Store}
    {incident : Incident} (h : operatorCheck permission incident_id user_id s = .ok incident) :
    incident ∈ s.incidents ∧ incident.id = incident_id := by
  obtain ⟨found, hi, h⟩ := bind_ok h
  obtain ⟨_, _, h⟩ := bind_ok h
  cases h
  obtain ⟨hmem, hid, _⟩ := resource_of_ok hi
  exact ⟨hmem, hid⟩

theorem acknowledge_move {job : Job} {incident_id : UUID} {user : User}
    (hcall : job.call = .acknowledge incident_id user) {s s' : Store} {t t' : Stage}
    (h : acknowledge_next job.env incident_id user s t = some (s', t')) : Move job s t s' t' := by
  have hoperator : ∀ payload api_key, job.call ≠ .ingest payload api_key := by simp [hcall]
  cases t with
  | start =>
    simp only [acknowledge_next] at h
    split at h
    · cases h
      exact .refused hoperator _
    · rename_i incident hok
      split at h
      · cases h
        exact .refused hoperator _
      · split at h
        · cases h
          exact .acknowledging hcall incident (operatorCheck_ok hok).1 ‹_›
        · cases h
          exact .unchanged hoperator _
  | saving incident =>
    simp only [acknowledge_next] at h
    split at h
    · cases h
      exact .crossed hcall incident ‹_› _
    · cases h
      exact .acknowledged hcall incident (by simpa using ‹¬ groupTaken incident s = true›)
  | refreshing incident =>
    cases h
    exact .refreshed hoperator incident _
  | _ => cases h

theorem resolve_move {job : Job} {incident_id : UUID} {user : User}
    (hcall : job.call = .resolve incident_id user) {s s' : Store} {t t' : Stage}
    (h : resolve_next job.env incident_id user s t = some (s', t')) : Move job s t s' t' := by
  have hoperator : ∀ payload api_key, job.call ≠ .ingest payload api_key := by simp [hcall]
  cases t with
  | start =>
    simp only [resolve_next] at h
    split at h
    · cases h
      exact .refused hoperator _
    · rename_i incident hok
      split at h
      · cases h
        exact .resolving hcall incident (operatorCheck_ok hok).1 ‹_›
      · cases h
        exact .unchanged hoperator _
  | saving incident =>
    cases h
    exact .resolved hcall incident
  | refreshing incident =>
    cases h
    exact .refreshed hoperator incident _
  | _ => cases h

theorem Job.move {job : Job} {s s' : Store} {t t' : Stage} (h : job.next s t = some (s', t')) :
    Move job s t s' t' := by
  unfold Job.next at h
  cases hcall : job.call with
  | ingest payload api_key =>
    rw [hcall] at h
    exact ingest_move hcall h
  | acknowledge incident_id user =>
    rw [hcall] at h
    exact acknowledge_move hcall h
  | resolve incident_id user =>
    rw [hcall] at h
    exact resolve_move hcall h

/-! ## The process -/

/-- A transaction takes the lock that it waited for, and no other. -/
theorem Move.acquires {job : Job} {s s' : Store} {t t' : Stage} (h : Move job s t s' t') :
    ∀ l ∈ job.holds t', l ∈ job.holds t ∨ job.wants t = some l := by
  intro l hl
  cases h <;> simp_all [Job.holds, Job.wants, ingest_holds, ingest_wants] <;> tauto

def transaction (job : Job) : Process Store Stage Lock where
  next := job.next
  wants := job.wants
  holds := job.holds
  acquires _ _ _ h := (Job.move h).acquires

variable {ι : Type} [Fintype ι] [DecidableEq ι]

/-- The transactions at their start, over a committed store. -/
def begin (s₀ : Store) : State ι Store Stage := ⟨s₀, fun _ => .start⟩

/-- The turn of one transaction. -/
def turn (jobs : ι → Job) : State ι Store Stage → ι → State ι Store Stage :=
  step (lockStep fun i => transaction (jobs i))

end pulseforge

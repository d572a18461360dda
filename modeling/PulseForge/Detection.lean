-- Events and incidents: ingestion, the evaluation of a failing event, and
-- the two operator actions on an incident. A query gives back every row that it
-- matches here; the times that cannot be read back are the matter of `Loading`.
import PulseForge.Auth

open txn table

namespace pulseforge

variable [Platform]

/-! ## Payloads and responses -/

structure EventCreate where
  event_id : Text
  event_type : Text
  level : EventLevel
  message : Text
  occurred_at : DateTime
  metadata : Metadata
  trace_id : Option Text
  request_id : Option Text
  event_id_length : 1 ≤ event_id.length ∧ event_id.length ≤ 120
  event_type_length : 1 ≤ event_type.length ∧ event_type.length ≤ 120
  message_length : 1 ≤ message.length ∧ message.length ≤ 10000
  trace_id_length : ∀ t ∈ trace_id, t.length ≤ 120
  request_id_length : ∀ t ∈ request_id, t.length ≤ 120

structure EventResponse where
  id : UUID
  organization_id : UUID
  service_id : UUID
  event_id : Text
  event_type : Text
  level : EventLevel
  message : Text
  occurred_at : Int
  received_at : Int
  fingerprint : Text
  metadata : Metadata
  trace_id : Option Text
  request_id : Option Text

def Event.response (v : Event) : EventResponse where
  id := v.id
  organization_id := v.organization_id
  service_id := v.service_id
  event_id := v.event_id
  event_type := v.event_type
  level := v.level
  message := v.message
  occurred_at := v.occurred_at.instant
  received_at := v.received_at
  fingerprint := v.fingerprint
  metadata := v.metadata_json
  trace_id := v.trace_id
  request_id := v.request_id

structure EventIngestResponse where
  event : EventResponse
  duplicate : Bool
  incident_id : Option UUID

/-! ## Events -/

def create_event_fingerprint (service_id : UUID) (event_type : Text) : Text :=
  let normalized_type := Platform.upper (strip event_type)
  Platform.sha256 (Platform.str_uuid service_id ++ ':' :: normalized_type)

/-- The stored event of a service with an event id. -/
def findEvent (service_id : UUID) (event_id : Text) (s : Store) : Option Event :=
  s.events.find? fun v => v.service_id = service_id && v.event_id = event_id

def find_incident_id (event_id : UUID) (s : Store) : Option UUID :=
  (s.incident_events.find? fun l => l.event_id = event_id).map IncidentEvent.incident_id

def new_event (e : Env) (payload : EventCreate) (api_key : ApiKey) : Event where
  id := e.uuid 0
  organization_id := api_key.organization_id
  service_id := api_key.service_id
  event_id := strip payload.event_id
  event_type := Platform.upper (strip payload.event_type)
  level := payload.level
  message := strip payload.message
  occurred_at := payload.occurred_at
  received_at := e.now
  fingerprint := create_event_fingerprint api_key.service_id payload.event_type
  metadata_json := payload.metadata
  trace_id := payload.trace_id
  request_id := payload.request_id
  created_at := e.now

/-- The columns of an event fit. Only `str.upper` can make a validated text longer. -/
def Event.storable (v : Event) : Bool :=
  Platform.storable_text v.event_id && v.event_id.length ≤ 120 &&
    Platform.storable_text v.event_type && v.event_type.length ≤ 120 &&
    Platform.storable_text v.message && v.trace_id.all Platform.storable_text &&
    v.request_id.all Platform.storable_text && Platform.storable_json v.metadata_json

/-- `uq_event_service_event_id` and the column types. -/
def insertEvent (event : Event) (s : Store) : Except Failure Store :=
  if event.storable then
    if (findEvent event.service_id event.event_id s).isSome then .error .IntegrityError
    else .ok { s with events := s.events ++ [event] }
  else .error .DataError

def touchApiKey (api_key_id : UUID) (now : Int) (s : Store) : Store :=
  { s with
    api_keys := updateWhere (fun k => k.id = api_key_id)
      (fun k => { k with last_used_at := some now }) s.api_keys }

/-! ## Incidents -/

def INCIDENT_THRESHOLD : Nat := 5
def INCIDENT_WINDOW_SECONDS : Nat := 60

/-- The incident is the active one of the event's service and fingerprint. -/
def isActiveFor (event : Event) (i : Incident) : Bool :=
  i.service_id = event.service_id && i.fingerprint = event.fingerprint && i.status.active

def find_active_incident (event : Event) (s : Store) : Option Incident :=
  s.incidents.find? (isActiveFor event)

def isLinked (incident_id event_id : UUID) (s : Store) : Bool :=
  s.incident_events.any fun l => l.incident_id = incident_id && l.event_id = event_id

def addLinks (links : List IncidentEvent) (s : Store) : Store :=
  { s with incident_events := s.incident_events ++ links }

def link_event_if_needed (incident : Incident) (event : Event) : Handler Unit := do
  if ← select (isLinked incident.id event.id) then pure ()
  else write (addLinks [⟨incident.id, event.id⟩])

/-- The write of an incident by its id. -/
def updateIncident (incident_id : UUID) (f : Incident → Incident) (s : Store) : Store :=
  { s with incidents := updateWhere (fun i => i.id = incident_id) f s.incidents }

def raiseSeverity (updated_at : Int) (i : Incident) : Incident :=
  { i with severity := .SEV_1, updated_at := updated_at }

/-- The rows that the two window queries match. -/
def inWindow (event : Event) (window_start : DateTime) (v : Event) : Bool :=
  v.service_id = event.service_id && v.fingerprint = event.fingerprint && v.level.failing &&
    decide (window_start.instant ≤ v.occurred_at.instant) &&
    decide (v.occurred_at.instant ≤ event.occurred_at.instant)

def matchingEvents (event : Event) (window_start : DateTime) (s : Store) : List Event :=
  s.events.filter (inWindow event window_start)

def new_incident (e : Env) (event : Event) : Incident where
  id := e.uuid 1
  organization_id := event.organization_id
  service_id := event.service_id
  title := "Repeated ".toList ++ event.event_type ++ " events".toList
  description := some "Detected at least 5 matching error events within 60 seconds.".toList
  severity := if event.level = .CRITICAL then .SEV_1 else .SEV_2
  status := .OPEN
  detected_at := event.occurred_at
  acknowledged_at := none
  resolved_at := none
  assigned_to := none
  fingerprint := event.fingerprint
  created_at := e.now
  updated_at := e.now

/-- `unique_active_incident`: one active incident for a service and a fingerprint. -/
def insertIncident (incident : Incident) (s : Store) : Except Failure Store :=
  if incident.status.active && s.incidents.any (fun i =>
      i.service_id = incident.service_id && i.fingerprint = incident.fingerprint &&
        i.status.active) then
    .error .IntegrityError
  else .ok { s with incidents := s.incidents ++ [incident] }

/-- The branch of an event whose incident is active already. -/
def attach_to_active (e : Env) (incident : Incident) (event : Event) : Handler Incident := do
  link_event_if_needed incident event
  if event.level = .CRITICAL ∧ incident.severity ≠ .SEV_1 then do
    write (updateIncident incident.id (raiseSeverity e.now))
    return raiseSeverity e.now incident
  else return incident

/-- The start of the detection window, where the subtraction is in range. -/
def windowStart (event : Event) : Except Failure DateTime :=
  match event.occurred_at.minus_seconds INCIDENT_WINDOW_SECONDS with
  | some w => .ok w
  | none => .error .OverflowError

def evaluate_event_for_incident (e : Env) (event : Event) : Handler (Option Incident) := do
  if !event.level.failing then return none
  else
    match ← select (find_active_incident event) with
    | some active_incident => return some (← attach_to_active e active_incident event)
    | none => do
      let window_start ← ask fun _ => windowStart event
      let matching_count ← select fun s => (matchingEvents event window_start s).length
      if matching_count < INCIDENT_THRESHOLD then return none
      else if ← attempt isIntegrityError (flush (insertIncident (new_incident e event))) then do
        let matching ← select (matchingEvents event window_start)
        write (addLinks (matching.map fun v => ⟨(new_incident e event).id, v.id⟩))
        return some (new_incident e event)
      else
        -- Another request created the same active incident.
        match ← select (find_active_incident event) with
        | none => throw .IntegrityError
        | some active_incident => return some (← attach_to_active e active_incident event)

/-- The answer to an event that an earlier delivery stored. -/
def answer_duplicate (existing : Event) : Handler EventIngestResponse := do
  let incident_id ← select (find_incident_id existing.id)
  return ⟨existing.response, true, incident_id⟩

def ingest_event (e : Env) (payload : EventCreate) (api_key : ApiKey) :
    Handler EventIngestResponse := do
  check_rate_limit e
  match ← select (findEvent api_key.service_id (strip payload.event_id)) with
  | some existing => do
    write (touchApiKey api_key.id (e.clock 1))
    commit
    answer_duplicate existing
  | none => do
    let event := new_event e payload api_key
    if ← attempt isIntegrityError (flush fun s =>
        (insertEvent event s).map (touchApiKey api_key.id (e.clock 1))) then do
      let incident ← evaluate_event_for_incident e event
      commit
      -- `session.refresh` comes here: `loading.ingest_event`
      return ⟨event.response, false, incident.map Incident.id⟩
    else do
      -- The unique constraint protects concurrent duplicate deliveries.
      rollback
      match ← select (findEvent api_key.service_id (strip payload.event_id)) with
      | none => throw .IntegrityError
      | some existing => answer_duplicate existing

/-! ## Operator actions -/

def acknowledged (user_id : UUID) (now updated_at : Int) (i : Incident) : Incident :=
  { i with
    status := .ACKNOWLEDGED, acknowledged_at := some now, assigned_to := some user_id,
    updated_at := updated_at }

/-- The columns that a resolve writes; it assigns an incident that was read
without an assignee. -/
def resolved (user_id : UUID) (now updated_at : Int) (assign : Bool) (i : Incident) : Incident :=
  { i with
    status := .RESOLVED, resolved_at := some now,
    assigned_to := if assign then some user_id else i.assigned_to,
    updated_at := updated_at }

/-- The audit row of an operator action on an incident. -/
def incident_audit (e : Env) (action : AuditAction) (incident : Incident) (user_id : UUID) :
    AuditLog :=
  audit_row e (e.uuid 2) action "incident".toList (some incident.organization_id) (some user_id)
    (some incident.id) []

def acknowledge_incident (e : Env) (incident_id : UUID) (current_user : User) :
    Handler Incident := do
  let incident ← ask (get_tenant_resource_or_404 Incident incident_id current_user.id)
  let _ ← ask (require_permission .INCIDENT_ACKNOWLEDGE incident.organization_id current_user.id)
  if incident.status = .RESOLVED then
    throw (HTTPException 409 "Resolved incidents cannot be acknowledged")
  else if incident.status = .OPEN then do
    write (updateIncident incident.id (acknowledged current_user.id (e.clock 1) e.now))
    write (addAudit (incident_audit e .INCIDENT_ACKNOWLEDGED incident current_user.id))
    commit
    return acknowledged current_user.id (e.clock 1) e.now incident
  else return incident

def resolve_incident (e : Env) (incident_id : UUID) (current_user : User) : Handler Incident := do
  let incident ← ask (get_tenant_resource_or_404 Incident incident_id current_user.id)
  let _ ← ask (require_permission .INCIDENT_RESOLVE incident.organization_id current_user.id)
  if incident.status ≠ .RESOLVED then do
    write (updateIncident incident.id
      (resolved current_user.id (e.clock 1) e.now incident.assigned_to.isNone))
    write (addAudit (incident_audit e .INCIDENT_RESOLVED incident current_user.id))
    commit
    return resolved current_user.id (e.clock 1) e.now incident.assigned_to.isNone incident
  else return incident

end pulseforge

-- Rows that cannot be read back. A column takes any instant, but a stored time
-- comes to Python as a `datetime` of UTC, and its years are 1 to 9999. A client
-- chooses the time and the offset of an event and the expiry of a key, and an
-- incident has the time of an event: a query that meets such a row raises. These
-- are the handlers that read such rows, over the ones that read all of them.
import PulseForge.Lib.Faults
import PulseForge.Consistency

open txn table

namespace pulseforge

/-! ## Times that can be read -/

/-- A `datetime` of UTC can hold the instant. -/
def inCalendar (instant : Int) : Bool := decide (0 ≤ instant) && decide (instant < MAX_WALL)

/-- The rows with a time that a client has chosen. -/
class Loads (α : Type) where
  loads : α → Bool

export Loads (loads)

instance : Loads Event := ⟨fun v => inCalendar v.occurred_at.instant⟩
instance : Loads Incident := ⟨fun i => inCalendar i.detected_at.instant⟩
instance : Loads ApiKey := ⟨fun k => k.expires_at.all inCalendar⟩

section
variable {α : Type} [Loads α]

/-- The first row of a query, or the error of the driver. -/
def loadFirst (row : Option α) : Except Failure (Option α) :=
  if row.all loads then .ok row else .error .DataError

def loadAll (rows : List α) : Except Failure (List α) :=
  if rows.all loads then .ok rows else .error .DataError

/-- `session.refresh` of a row that the session has written. -/
def refresh (row : α) : Handler Unit :=
  ask fun _ => if loads row then .ok () else .error .DataError

theorem refresh_raises {row : α} {failure : Failure}
    (h : (if loads row then Except.ok () else .error Failure.DataError) = .error failure) :
    loads row = false := by
  cases hrow : loads row
  · rfl
  · rw [hrow] at h
    cases h

theorem loadFirst_ok {row row' : Option α} (h : loadFirst row = .ok row') :
    row = row' ∧ row.all loads = true := by
  unfold loadFirst at h
  split at h
  · next hloads =>
    cases h
    exact ⟨rfl, hloads⟩
  · cases h

theorem loadAll_ok {rows rows' : List α} (h : loadAll rows = .ok rows') :
    rows = rows' ∧ rows.all loads = true := by
  unfold loadAll at h
  split at h
  · next hloads =>
    cases h
    exact ⟨rfl, hloads⟩
  · cases h

end

namespace loading

variable [Platform]

/-! ## Lookups -/

def get_tenant_resource_or_404 (α : Type) [TenantTable α] [Loads α] (resource_id user_id : UUID)
    (s : Store) : Except Failure α := do
  let _ ← loadFirst (findTenantResource α resource_id user_id s)
  pulseforge.get_tenant_resource_or_404 α resource_id user_id s

/-- The row of the key is read before anything is asked of it. -/
def get_ingestion_api_key (credentials : Option Bearer) (now : Int) (s : Store) :
    Except Failure ApiKey :=
  match credentials with
  | some (.text raw) =>
    if "pf_live_".toList.isPrefixOf raw || "pf_test_".toList.isPrefixOf raw then do
      let _ ← loadFirst (s.api_keys.find? fun k => k.key_hash = hash_api_key raw)
      pulseforge.get_ingestion_api_key credentials now s
    else .error INVALID_API_KEY
  | _ => .error INVALID_API_KEY

/-! ## Ingestion -/

def find_active_incident (event : Event) (s : Store) : Except Failure (Option Incident) :=
  loadFirst (pulseforge.find_active_incident event s)

def evaluate_event_for_incident (e : Env) (event : Event) : Handler (Option Incident) := do
  if !event.level.failing then return none
  else
    match ← ask (find_active_incident event) with
    | some active_incident => return some (← attach_to_active e active_incident event)
    | none => do
      let window_start ← ask fun _ => windowStart event
      let matching_count ← select fun s => (matchingEvents event window_start s).length
      if matching_count < INCIDENT_THRESHOLD then return none
      else if ← attempt isIntegrityError (flush (insertIncident (new_incident e event))) then do
        let matching ← select (matchingEvents event window_start)
        write (addLinks (matching.map fun v => ⟨(new_incident e event).id, v.id⟩))
        return some (new_incident e event)
      else
        -- Another request created the same active incident.
        match ← ask (find_active_incident event) with
        | none => throw .IntegrityError
        | some active_incident => return some (← attach_to_active e active_incident event)

def ingest_event (e : Env) (payload : EventCreate) (api_key : ApiKey) :
    Handler EventIngestResponse := do
  check_rate_limit e
  match ← ask fun s => loadFirst (findEvent api_key.service_id (strip payload.event_id) s) with
  | some existing => do
    write (touchApiKey api_key.id (e.clock 1))
    commit
    answer_duplicate existing
  | none => do
    let event := new_event e payload api_key
    if ← attempt isIntegrityError (flush fun s =>
        (insertEvent event s).map (touchApiKey api_key.id (e.clock 1))) then do
      let incident ← evaluate_event_for_incident e event
      commit
      refresh event
      return ⟨event.response, false, incident.map Incident.id⟩
    else do
      -- The unique constraint protects concurrent duplicate deliveries.
      rollback
      match ← ask fun s => loadFirst (findEvent api_key.service_id (strip payload.event_id) s) with
      | none => throw .IntegrityError
      | some existing => answer_duplicate existing

/-! ## API keys -/

/-- The row is refreshed after the commit, and only then answered. -/
def issue_api_key (e : Env) (service : Service) (payload : ApiKeyCreate) (user_id : UUID)
    (action : AuditAction) (metadata : Metadata) : Handler ApiKeyCreatedResponse := do
  let created ← pulseforge.issue_api_key e service payload user_id action metadata
  refresh (new_api_key e service payload)
  return created

def create_service_api_key (e : Env) (service_id : UUID) (payload : ApiKeyCreate)
    (current_user : User) : Handler ApiKeyCreatedResponse := do
  let service ← ask (pulseforge.get_tenant_resource_or_404 Service service_id current_user.id)
  let _ ← ask (require_permission .API_KEY_MANAGE service.organization_id current_user.id)
  issue_api_key e service payload current_user.id .API_KEY_CREATED []

def list_service_api_keys (service_id : UUID) (current_user : User) :
    Handler (List ApiKeyResponse) := do
  let service ← ask (pulseforge.get_tenant_resource_or_404 Service service_id current_user.id)
  let _ ← ask (require_permission .API_KEY_READ service.organization_id current_user.id)
  let keys ← ask fun s => loadAll (keysOf service.id s)
  return keys.map ApiKey.response

def rotate_api_key (e : Env) (api_key_id : UUID) (current_user : User) :
    Handler ApiKeyCreatedResponse := do
  let old_key ← ask (get_tenant_resource_or_404 ApiKey api_key_id current_user.id)
  let _ ← ask (require_permission .API_KEY_MANAGE old_key.organization_id current_user.id)
  if old_key.revoked_at.isSome then
    throw (HTTPException 409 "Revoked API keys cannot be rotated")
  else if is_expired old_key.expires_at (e.clock 1) then
    throw (HTTPException 409 "Expired API keys cannot be rotated")
  else do
    let service ← ask (pulseforge.get_tenant_resource_or_404 Service old_key.service_id current_user.id)
    write (revokeKey old_key.id (e.clock 2))
    let payload ← ask fun _ =>
      ApiKeyCreate.validate old_key.name old_key.scopes old_key.expires_at (e.clock 3)
    issue_api_key e service payload current_user.id .API_KEY_ROTATED
      [("previous_resource_id".toList, .uuid old_key.id)]

/-! ## Lists -/

def list_events (organization_id : UUID) (service_id : Option UUID) (level : Option EventLevel)
    (limit offset : Nat) (current_user : User) : Handler (List EventResponse) := do
  let _ ← ask (require_permission .EVENT_READ organization_id current_user.id)
  let events ← select (eventsOf organization_id service_id level)
  let listed ← ask fun _ => loadAll (page limit offset events)
  return listed.map Event.response

def list_incidents (organization_id : UUID) (status : Option IncidentStatus) (limit : Nat)
    (current_user : User) : Handler (List Incident) := do
  let _ ← ask (require_permission .INCIDENT_READ organization_id current_user.id)
  let incidents ← select (incidentsOf organization_id status)
  ask fun _ => loadAll (page limit 0 incidents)

/-! ## The whole backend -/

/-- A handler whose first query reads the row of its id. -/
def withRow (α : Type) [TenantTable α] [Loads α] {β : Type} (id : UUID) (user : User) (h : Handler β) :
    Handler β := do
  let _ ← ask (get_tenant_resource_or_404 α id user.id)
  h

def tenant_handler (e : Env) (user : User) : TenantRequest → Handler Body
  | .create_service_api_key service_id payload =>
    answer .api_key_created (create_service_api_key e service_id payload user)
  | .list_service_api_keys service_id => answer .api_keys (list_service_api_keys service_id user)
  | .revoke_api_key id => withRow ApiKey id user (pulseforge.tenant_handler e user (.revoke_api_key id))
  | .rotate_api_key id => answer .api_key_created (rotate_api_key e id user)
  | .list_events organization_id service_id level limit offset =>
    answer .events (list_events organization_id service_id level limit offset user)
  | .get_event id => withRow Event id user (pulseforge.tenant_handler e user (.get_event id))
  | .list_incidents organization_id status limit =>
    answer .incidents (list_incidents organization_id status limit user)
  | .get_incident id => withRow Incident id user (pulseforge.tenant_handler e user (.get_incident id))
  | .acknowledge_incident id =>
    withRow Incident id user (pulseforge.tenant_handler e user (.acknowledge_incident id))
  | .resolve_incident id =>
    withRow Incident id user (pulseforge.tenant_handler e user (.resolve_incident id))
  | request => pulseforge.tenant_handler e user request

def handler (e : Env) : Request → Handler Body
  | .auth request => auth_handler e request
  | .tenant credentials request => do
    let user ← ask (get_current_user credentials e.now)
    tenant_handler e user request
  | .ingest credentials payload => do
    let api_key ← ask (get_ingestion_api_key credentials e.now)
    answer .ingested (ingest_event e payload api_key)

def handle (e : Env) (r : Request) (s : Store) : Except Failure Body × Store :=
  runRequest (handler e r) s

def serve (s : Store) (c : Env × Request) : Store := (handle c.1 c.2 s).2

/-! ## What the reads change -/

omit [Platform] in
theorem follows_load {α : Type} [Loads α] {P : List α → Prop} {rows : List α} {s : Session Store} :
    Follows P (ask fun _ => loadAll rows) (pure rows) s := by
  unfold loadAll
  split
  · exact follows_refl _ _
  · exact .raised .DataError s rfl rfl

omit [Platform] in
theorem get_tenant_resource_ok {α : Type} [TenantTable α] [Loads α] {resource_id user_id : UUID}
    {s : Store} {r : α} (h : get_tenant_resource_or_404 α resource_id user_id s = .ok r) :
    pulseforge.get_tenant_resource_or_404 α resource_id user_id s = .ok r ∧ loads r = true := by
  obtain ⟨row, hload, hfound⟩ := bind_ok h
  obtain ⟨_, hloads⟩ := loadFirst_ok hload
  refine ⟨hfound, ?_⟩
  unfold pulseforge.get_tenant_resource_or_404 at hfound
  split at hfound
  · next resource hrow =>
    cases hfound
    rwa [hrow] at hloads
  · cases hfound

omit [Platform] in
theorem get_tenant_resource_eq {α : Type} [TenantTable α] [Loads α] {resource_id user_id : UUID}
    {s : Store} {r : α} (h : pulseforge.get_tenant_resource_or_404 α resource_id user_id s = .ok r) :
    get_tenant_resource_or_404 α resource_id user_id s =
      if loads r then .ok r else .error .DataError := by
  have hrow : findTenantResource α resource_id user_id s = some r := by
    unfold pulseforge.get_tenant_resource_or_404 at h
    split at h
    · next resource hrow =>
      cases h
      exact hrow
    · cases h
  unfold get_tenant_resource_or_404
  rw [h, hrow]
  unfold loadFirst
  cases hloads : loads r <;> simp only [Option.all_some, hloads] <;> rfl

theorem get_ingestion_api_key_ok {credentials : Option Bearer} {now : Int} {s : Store} {k : ApiKey}
    (h : get_ingestion_api_key credentials now s = .ok k) :
    pulseforge.get_ingestion_api_key credentials now s = .ok k := by
  unfold get_ingestion_api_key at h
  split at h
  · split at h
    · obtain ⟨row, _, hfound⟩ := bind_ok h
      exact hfound
    · cases h
  · cases h

section
variable (e : Env) (user : User) {s : Session Store}

omit [Platform] in
theorem evaluate_follows (event : Event) :
    Follows (fun _ => False) (evaluate_event_for_incident e event)
      (pulseforge.evaluate_event_for_incident e event) s := by
  unfold evaluate_event_for_incident pulseforge.evaluate_event_for_incident
  split
  · exact follows_refl _ _
  · refine follows_select (fun _ h => (loadFirst_ok h).1) fun active _ => ?_
    cases active with
    | some incident => exact follows_refl _ _
    | none =>
      refine (pending_ask _).then_follows fun window_start _ _ => ?_
      refine (pending_select _).then_follows fun matching_count _ _ => ?_
      split
      · exact follows_refl _ _
      · refine ((pending_flush _).attempt _).then_follows fun inserted s' _ => ?_
        cases inserted with
        | true => exact follows_refl _ _
        | false =>
          refine follows_select (fun _ h => (loadFirst_ok h).1) fun active _ => ?_
          cases active <;> exact follows_refl _ _

/-- The event that is answered cannot be read back. -/
def UnreadableEvent (response : EventIngestResponse) : Prop :=
  response.duplicate = false ∧ inCalendar response.event.occurred_at = false

theorem ingest_follows (payload : EventCreate) (api_key : ApiKey) :
    Follows UnreadableEvent (ingest_event e payload api_key)
      (pulseforge.ingest_event e payload api_key) s := by
  unfold ingest_event pulseforge.ingest_event
  refine Pending.then_follows ?_ fun _ s' _ => ?_
  · intro s
    rw [ends_check_rate_limit]
    cases e.retry_after <;> rfl
  refine follows_select (fun _ h => (loadFirst_ok h).1) fun existing _ => ?_
  cases existing with
  | some existing => exact follows_refl _ _
  | none =>
    refine ((pending_flush _).attempt _).then_follows fun inserted s' _ => ?_
    cases inserted with
    | true =>
      refine (evaluate_follows e _).bind (evaluate_evaluated e _ _).1 fun incident s' _ _ => ?_
      exact follows_committed fun failure hraises => ⟨rfl, refresh_raises hraises⟩
    | false =>
      refine pending_rollback.then_follows fun _ s' _ => ?_
      refine follows_select (fun _ h => (loadFirst_ok h).1) fun existing _ => ?_
      cases existing <;> exact follows_refl _ _

/-- The key that is answered cannot be read back. -/
def UnreadableKey (created : ApiKeyCreatedResponse) : Prop :=
  created.public_fields.expires_at.all inCalendar = false

theorem issue_response (service : Service) (payload : ApiKeyCreate) (user_id : UUID)
    (action : AuditAction) (metadata : Metadata) (s : Session Store) :
    Yields (pulseforge.issue_api_key e service payload user_id action metadata) s
      fun created _ => created.public_fields = (new_api_key e service payload).response := by
  unfold pulseforge.issue_api_key Yields
  simp only [ends_bind, ends_flush]
  cases insertApiKey (new_api_key e service payload) s.work with
  | error failure =>
    rintro created heq
    cases heq
  | ok w =>
    rintro created heq
    cases heq
    rfl

theorem issue_follows (service : Service) (payload : ApiKeyCreate) (user_id : UUID)
    (action : AuditAction) (metadata : Metadata) :
    Follows UnreadableKey (issue_api_key e service payload user_id action metadata)
      (pulseforge.issue_api_key e service payload user_id action metadata) s := by
  refine follows_last fun created s' failure hok hraises => ?_
  have hcreated := issue_response e service payload user_id action metadata s
  unfold Yields Ends at hcreated
  rw [hok] at hcreated
  unfold UnreadableKey
  rw [hcreated created rfl]
  exact refresh_raises hraises

theorem create_follows (service_id : UUID) (payload : ApiKeyCreate) :
    Follows UnreadableKey (create_service_api_key e service_id payload user)
      (pulseforge.create_service_api_key e service_id payload user) s := by
  refine (pending_ask _).then_follows fun service _ _ => ?_
  exact (pending_ask _).then_follows fun _ _ _ => issue_follows e service payload _ _ _

/-- A key whose expiry can be read is answered as it was written. -/
theorem issue_loaded (service : Service) {payload : ApiKeyCreate}
    (h : payload.expires_at.all inCalendar = true) (user_id : UUID) (action : AuditAction)
    (metadata : Metadata) :
    issue_api_key e service payload user_id action metadata =
      pulseforge.issue_api_key e service payload user_id action metadata := by
  have hrefresh : refresh (new_api_key e service payload) = pure () := by
    have hloads : loads (new_api_key e service payload) = true := h
    unfold refresh
    rw [hloads]
    rfl
  unfold issue_api_key
  rw [hrefresh]
  simp only [pure_bind, bind_pure]

omit [Platform] in
theorem validate_expires_at {name : Text} {scopes : List ApiKeyScope} {expires_at : Option Int}
    {now : Int} {payload : ApiKeyCreate}
    (h : ApiKeyCreate.validate name scopes expires_at now = .ok payload) :
    payload.expires_at = expires_at := by
  unfold ApiKeyCreate.validate at h
  split at h
  · split at h
    · cases h
    · cases h
      rfl
  · cases h

theorem rotate_follows (P : ApiKeyCreatedResponse → Prop) (api_key_id : UUID) :
    Follows P (rotate_api_key e api_key_id user) (pulseforge.rotate_api_key e api_key_id user) s := by
  refine follows_ask (fun _ h => (get_tenant_resource_ok h).1) fun old_key hread => ?_
  have hloads : loads old_key = true := (get_tenant_resource_ok hread).2
  refine (pending_ask _).then_follows fun _ _ _ => ?_
  split
  · exact follows_refl _ _
  · split
    · exact follows_refl _ _
    · refine (pending_ask _).then_follows fun service _ _ => ?_
      refine (pending_write _).then_follows fun _ _ _ => ?_
      refine (pending_ask _).then_follows fun payload _ hpayload => ?_
      have hvalid : ApiKeyCreate.validate old_key.name old_key.scopes old_key.expires_at (e.clock 3) =
          .ok payload := congrArg Prod.fst hpayload
      rw [issue_loaded e service (by rw [validate_expires_at hvalid]; exact hloads)]
      exact follows_refl _ _

omit [Platform] in
/-- A handler over a row that has to be read first. -/
theorem withRow_follows {α β : Type} [TenantTable α] [Loads α] {P : β → Prop} (id : UUID)
    (h : Handler β) : Follows P (withRow α id user h) h s :=
  follows_check fun _ _ => follows_refl _ _

/-- The row that the request has written, and answers with, cannot be read back. -/
def Unreadable : Request → Body → Prop
  | .ingest _ _, .ingested response => UnreadableEvent response
  | .tenant _ (.create_service_api_key _ _), .api_key_created created => UnreadableKey created
  | _, _ => False

omit [Platform] in
theorem answer_follows {α : Type} {P : α → Prop} {Q : Body → Prop} {h' h : Handler α} {body : α → Body}
    (hf : Follows P h' h s) (hPQ : ∀ a, P a → Q (body a)) :
    Follows Q (answer body h') (answer body h) s := by
  refine (hf.map body).mono ?_
  rintro _ ⟨a, ha, rfl⟩
  exact hPQ a ha

theorem tenant_handler_follows (credentials : Option Bearer) (r : TenantRequest) :
    Follows (Unreadable (.tenant credentials r)) (tenant_handler e user r)
      (pulseforge.tenant_handler e user r) s := by
  cases r
  case create_service_api_key service_id payload =>
    exact answer_follows (create_follows e user service_id payload) fun _ h => h
  case rotate_api_key id =>
    exact answer_follows (rotate_follows e user (fun _ => False) id) fun _ h => h.elim
  case list_service_api_keys service_id =>
    refine answer_follows (P := fun _ => False) ?_ fun _ h => h.elim
    refine (pending_ask _).then_follows fun service _ _ => ?_
    refine (pending_ask _).then_follows fun _ _ _ => ?_
    exact follows_select (fun _ h => (loadAll_ok h).1) fun _ _ => follows_refl _ _
  case list_events organization_id service_id level limit offset =>
    refine answer_follows (P := fun _ => False) ?_ fun _ h => h.elim
    refine (pending_ask _).then_follows fun _ _ _ => ?_
    refine (pending_select _).then_follows fun events _ _ => ?_
    refine follows_check fun listed h => ?_
    obtain ⟨rfl, _⟩ := loadAll_ok h
    exact follows_refl _ _
  case list_incidents organization_id status limit =>
    refine answer_follows (P := fun _ => False) ?_ fun _ h => h.elim
    refine (pending_ask _).then_follows fun _ _ _ => ?_
    refine (pending_select _).then_follows fun incidents _ _ => ?_
    exact follows_load
  case revoke_api_key id | get_event id | get_incident id | acknowledge_incident id |
      resolve_incident id => exact withRow_follows user id _
  all_goals exact follows_refl _ _

theorem handler_follows (r : Request) :
    Follows (Unreadable r) (handler e r) (pulseforge.handler e r) s := by
  cases r with
  | auth r => exact follows_refl _ _
  | tenant credentials r =>
    exact (pending_ask _).then_follows fun user _ _ => tenant_handler_follows e user credentials r
  | ingest credentials payload =>
    refine follows_ask (fun _ h => get_ingestion_api_key_ok h) fun api_key _ => ?_
    exact answer_follows (ingest_follows e payload api_key) fun _ h => h

end

/-- A request does what it does where all rows can be read, or it raises: before it
has written anything, or after it has committed a row that cannot be read back. -/
theorem handle_cases (e : Env) (r : Request) (s : Store) :
    handle e r s = pulseforge.handle e r s ∨ (∃ failure, handle e r s = (.error failure, s)) ∨
      ∃ body failure, (pulseforge.handle e r s).1 = .ok body ∧ Unreadable r body ∧
        handle e r s = (.error failure, (pulseforge.handle e r s).2) := by
  rcases handler_follows e r (s := ⟨s, s⟩) with
    hsame | ⟨failure, t, hraises, ht⟩ | ⟨body, t, failure, hok, hbody, hraises⟩
  · refine Or.inl ?_
    unfold handle pulseforge.handle runRequest
    rw [hsame]
  · refine Or.inr (Or.inl ⟨failure, ?_⟩)
    unfold handle runRequest
    rw [hraises]
    exact congrArg (Prod.mk _) ht
  · refine Or.inr (Or.inr ⟨body, failure, ?_⟩)
    unfold handle pulseforge.handle runRequest
    rw [hraises, hok]
    exact ⟨rfl, hbody, rfl⟩

/-! ## The evaluation of a new event -/

section
variable (e : Env) {event : Event} {t : Session Store}

end

section
variable {e : Env} {payload : EventCreate} {api_key : ApiKey} {s : Store} {t : Session Store}

end

/-! ## Rotations -/

section
variable (e : Env) {user : User} {s : Store} {key : ApiKey}

theorem rotate_loaded (hfound : pulseforge.get_tenant_resource_or_404 ApiKey key.id user.id s = .ok key)
    (hloads : loads key = true) :
    rotate_api_key e key.id user ⟨s, s⟩ = pulseforge.rotate_api_key e key.id user ⟨s, s⟩ := by
  have hread : (ask (get_tenant_resource_or_404 ApiKey key.id user.id) : Handler ApiKey) ⟨s, s⟩ =
      (.ok key, ⟨s, s⟩) := by
    rw [ask, get_tenant_resource_eq hfound, hloads]
    rfl
  have hread' : (ask (pulseforge.get_tenant_resource_or_404 ApiKey key.id user.id) : Handler ApiKey)
      ⟨s, s⟩ = (.ok key, ⟨s, s⟩) := by rw [ask, hfound]
  unfold rotate_api_key pulseforge.rotate_api_key
  rw [bind_of_ok hread, bind_of_ok hread']
  refine bind_congr fun _ _ _ => ?_
  split
  · rfl
  · split
    · rfl
    · refine bind_congr fun service _ _ => ?_
      refine bind_congr fun _ t _ => ?_
      refine bind_congr fun payload _ hpayload => ?_
      have hvalid : ApiKeyCreate.validate key.name key.scopes key.expires_at (e.clock 3) = .ok payload :=
        congrArg Prod.fst hpayload
      rw [issue_loaded e service (by rw [validate_expires_at hvalid]; exact hloads)]

theorem rotate_unread (hfound : pulseforge.get_tenant_resource_or_404 ApiKey key.id user.id s = .ok key)
    (hloads : loads key = false) :
    rotate_api_key e key.id user ⟨s, s⟩ = (.error .DataError, ⟨s, s⟩) := by
  have hread : (ask (get_tenant_resource_or_404 ApiKey key.id user.id) : Handler ApiKey) ⟨s, s⟩ =
      (.error .DataError, ⟨s, s⟩) := by
    rw [ask, get_tenant_resource_eq hfound, hloads]
    rfl
  exact bind_of_error hread

end

/-! ## Reachable stores -/

theorem served {s : Store} (hs : Reachable s) {e : Env} (hf : Fresh e s) (r : Request) :
    Reachable (handle e r s).2 := by
  rcases handle_cases e r s with hsame | ⟨failure, hraises⟩ | ⟨body, failure, _, _, hraises⟩
  · rw [hsame]
    exact hs.served hf r
  · rw [hraises]
    exact hs
  · rw [hraises]
    exact hs.served hf r

/-- Every store that requests lead to is one that they lead to where all rows can be read. -/
theorem reachable {past : List (Env × Request)}
    (hfresh : run.Every serve Store.empty (fun s c => Fresh c.1 s) past) :
    Reachable (run.after serve Store.empty past) := by
  induction past with
  | nil => exact ⟨[], trivial, rfl⟩
  | cons c past ih => exact served (ih hfresh.1) hfresh.2 c.2

end loading

end pulseforge

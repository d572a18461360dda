-- The requests of the API, and the whole backend as one step on its store.
import PulseForge.Tenants

open txn

namespace pulseforge

variable [Platform]

/-! ## Requests and answers -/

/-- The requests under /auth. A refresh and a logout carry the raw token of
their cookie. -/
inductive AuthRequest
  | register (payload : UserRegister)
  | login (payload : UserLogin)
  | refresh (raw_refresh_token : Option Text)
  | logout (raw_refresh_token : Option Text)
  | change_password (credentials : Option Bearer) (payload : ChangePasswordRequest)
  | forgot_password (email : Text)
  | reset_password (payload : ResetPasswordRequest)
  | logout_all (credentials : Option Bearer)
  | list_sessions (credentials : Option Bearer)
  | revoke_session (credentials : Option Bearer) (session_id : UUID)
  | get_me (credentials : Option Bearer)

/-- The other requests with a bearer token. -/
inductive TenantRequest
  | create_organization (payload : OrganizationCreate)
  | list_organizations
  | list_members (organization_id : UUID)
  | add_member (organization_id : UUID) (payload : MemberAdd)
  | update_member_role (organization_id member_id : UUID) (role : OrganizationRole)
  | remove_member (organization_id member_id : UUID)
  | create_service (payload : ServiceCreate)
  | list_services (organization_id : UUID)
  | get_service (service_id : UUID)
  | update_service (service_id : UUID) (payload : ServiceUpdate)
  | delete_service (service_id : UUID)
  | create_service_api_key (service_id : UUID) (payload : ApiKeyCreate)
  | list_service_api_keys (service_id : UUID)
  | revoke_api_key (api_key_id : UUID)
  | rotate_api_key (api_key_id : UUID)
  | list_events (organization_id : UUID) (service_id : Option UUID) (level : Option EventLevel)
      (limit offset : Nat)
  | get_event (event_id : UUID)
  | list_incidents (organization_id : UUID) (status : Option IncidentStatus) (limit : Nat)
  | get_incident (incident_id : UUID)
  | acknowledge_incident (incident_id : UUID)
  | resolve_incident (incident_id : UUID)
  | list_audit_logs (organization_id : UUID) (limit offset : Nat)

inductive Request
  | auth (request : AuthRequest)
  | tenant (credentials : Option Bearer) (request : TenantRequest)
  | ingest (credentials : Option Bearer) (payload : EventCreate)

/-- The body of an answer, and the cookie that a sign-in sets. -/
inductive Body
  | user (response : UserResponse)
  | tokens (tokens : SessionTokens)
  | sessions (responses : List SessionResponse)
  | forgot (response : ForgotPasswordResponse)
  | organization (response : OrganizationResponse)
  | organizations (responses : List OrganizationMembershipResponse)
  | member (response : MemberResponse)
  | members (responses : List MemberResponse)
  | service (response : Service)
  | services (responses : List Service)
  | api_key_created (response : ApiKeyCreatedResponse)
  | api_keys (responses : List ApiKeyResponse)
  | event (response : EventResponse)
  | events (responses : List EventResponse)
  | incident (response : Incident)
  | incidents (responses : List Incident)
  | audit_logs (responses : List AuditLog)
  | ingested (response : EventIngestResponse)
  | no_content

/-! ## Dispatch -/

/-- A handler whose result becomes a body. -/
def answer {α : Type} (body : α → Body) (h : Handler α) : Handler Body := do
  let a ← h
  return body a

def auth_handler (e : Env) : AuthRequest → Handler Body
  | .register payload => answer (fun u => .user u.response) (register e payload)
  | .login payload => answer .tokens (login e payload)
  | .refresh raw => answer .tokens (refresh_access_token e raw)
  | .logout raw => answer (fun _ => .no_content) (logout e raw)
  | .change_password credentials payload =>
    answer (fun _ => .no_content) (change_password e credentials payload)
  | .forgot_password email => answer .forgot (forgot_password e email)
  | .reset_password payload => answer (fun _ => .no_content) (reset_password e payload)
  | .logout_all credentials => answer (fun _ => .no_content) (logout_all e credentials)
  | .list_sessions credentials =>
    answer (fun l => .sessions (l.map RefreshToken.response)) (list_sessions e credentials)
  | .revoke_session credentials session_id =>
    answer (fun _ => .no_content) (revoke_session e credentials session_id)
  | .get_me credentials => answer (fun u => .user u.response) (get_me e credentials)

def tenant_handler (e : Env) (user : User) : TenantRequest → Handler Body
  | .create_organization payload =>
    answer (fun o => .organization o.response) (create_organization e payload user)
  | .list_organizations => answer .organizations (list_organizations user)
  | .list_members organization_id => answer .members (list_members organization_id user)
  | .add_member organization_id payload =>
    answer .member (add_member e organization_id payload user)
  | .update_member_role organization_id member_id role =>
    answer .member (update_member_role e organization_id member_id role user)
  | .remove_member organization_id member_id =>
    answer (fun _ => .no_content) (remove_member organization_id member_id user)
  | .create_service payload => answer .service (create_service e payload user)
  | .list_services organization_id => answer .services (list_services organization_id user)
  | .get_service service_id => answer .service (get_service service_id user)
  | .update_service service_id payload =>
    answer .service (update_service e service_id payload user)
  | .delete_service service_id => answer (fun _ => .no_content) (delete_service service_id user)
  | .create_service_api_key service_id payload =>
    answer .api_key_created (create_service_api_key e service_id payload user)
  | .list_service_api_keys service_id => answer .api_keys (list_service_api_keys service_id user)
  | .revoke_api_key api_key_id => answer (fun _ => .no_content) (revoke_api_key e api_key_id user)
  | .rotate_api_key api_key_id => answer .api_key_created (rotate_api_key e api_key_id user)
  | .list_events organization_id service_id level limit offset =>
    answer .events (list_events organization_id service_id level limit offset user)
  | .get_event event_id => answer .event (get_event event_id user)
  | .list_incidents organization_id status limit =>
    answer .incidents (list_incidents organization_id status limit user)
  | .get_incident incident_id => answer .incident (get_incident incident_id user)
  | .acknowledge_incident incident_id =>
    answer .incident (acknowledge_incident e incident_id user)
  | .resolve_incident incident_id => answer .incident (resolve_incident e incident_id user)
  | .list_audit_logs organization_id limit offset =>
    answer .audit_logs (list_audit_logs organization_id limit offset user)

/-- One request: its dependencies, then its handler. -/
def handler (e : Env) : Request → Handler Body
  | .auth request => auth_handler e request
  | .tenant credentials request => do
    let user ← ask (get_current_user credentials e.now)
    tenant_handler e user request
  | .ingest credentials payload => do
    let api_key ← ask (get_ingestion_api_key credentials e.now)
    answer .ingested (ingest_event e payload api_key)

/-- The answer of a request, and the store that it leaves. -/
def handle (e : Env) (r : Request) (s : Store) : Except Failure Body × Store :=
  runRequest (handler e r) s

/-! ## A small backend to run -/

-- Named, so that the numerals of seconds and of jobs are the same terms in every module.
instance two_ne_zero : @NeZero Nat Zero.ofOfNat0 2 := ⟨by decide⟩
instance three_ne_zero : @NeZero Nat Zero.ofOfNat0 3 := ⟨by decide⟩
instance five_ne_zero : @NeZero Nat Zero.ofOfNat0 5 := ⟨by decide⟩
instance sixty_ne_zero : @NeZero Nat Zero.ofOfNat0 60 := ⟨by decide⟩

/-- A platform that computes: digests that only mark their text, ASCII case maps. -/
@[reducible] def samplePlatform : Platform where
  settings := ⟨.TEST, 30, 7, 30, "change-this-api-key-pepper-before-production".toList⟩
  lower := List.map Char.toLower
  upper := List.map Char.toUpper
  str_uuid n := Nat.toDigits 10 n
  sha256 t := '#' :: t
  hmac_sha256 key t := key ++ ':' :: t
  hash_password salt password := salt ++ '$' :: password
  verify_password password hash := (hash.dropWhile (· ≠ '$')).drop 1 = password
  storable_text t := '\x00' ∉ t
  storable_json _ := true

/-- The draws of request number `n`, which comes `n` seconds after year 1. -/
def sampleEnv (n : Nat) : Env where
  clock _ := n * SECOND
  uuid k := 10 * n + k
  secret := List.replicate 40 'a' ++ Nat.toDigits 10 n
  retry_after := none
  client_host := none
  user_agent := none

def sampleUser : UserRegister where
  email := "ada@example.com".toList
  password := "correct horse".toList
  full_name := "Ada".toList
  password_length := by decide
  full_name_length := by decide

def sampleLogin : UserLogin where
  email := "ada@example.com".toList
  password := "correct horse".toList
  password_length := by decide

omit [Platform] in
/-- The length of the password that the samples change to. -/
theorem staple_length :
    12 ≤ "battery staple".toList.length ∧ "battery staple".toList.length ≤ 128 := by decide

def sampleOrganization : OrganizationCreate where
  name := "Acme".toList
  slug := "acme".toList
  name_length := by decide
  slug_length := by decide

def sampleService (organization_id : UUID) : ServiceCreate where
  organization_id := organization_id
  name := "Shop".toList
  slug := "shop".toList
  description := none
  environment := .PRODUCTION
  name_length := by decide
  slug_length := by decide
  description_length := by decide

def sampleKey : ApiKeyCreate where
  name := "ingest".toList
  scopes := [.EVENTS_WRITE]
  expires_at := none
  name_length := by decide
  scopes_present := by decide
  scopes_unique := by decide

/-- An error event that occurred `at_second` seconds after the second minute of year 1. -/
def sampleEvent (event_id : Char) (at_second : Fin 60) : EventCreate where
  event_id := [event_id]
  event_type := "crash".toList
  level := .ERROR
  message := "boom".toList
  occurred_at := ⟨(120 + at_second) * SECOND, 0, by unfold MAX_WALL SECOND; omega⟩
  metadata := []
  trace_id := none
  request_id := none
  event_id_length := by simp
  event_type_length := by decide
  message_length := by decide
  trace_id_length := by decide
  request_id_length := by decide

/-- The access token of the session that login number `n` of a user opened. -/
def sampleBearer (user_id : UUID) (n : Nat) : Option Bearer :=
  some (.signed (@create_access_token samplePlatform (n * SECOND) user_id (10 * n)))

/-- The service that the sample run creates, and its key. -/
def soldService : Service := @new_service (sampleEnv 3) (sampleService 20)

def ingestKey : ApiKey := @new_api_key samplePlatform (sampleEnv 4) soldService sampleKey

/-- An organization with a service and a key, and five errors in one minute. -/
def sampleRun : List (Env × Request) :=
  let key : Option Bearer := some (.text (create_raw_key (sampleEnv 4) true))
  [(sampleEnv 9, .ingest key (sampleEvent 'e' 4)),
   (sampleEnv 8, .ingest key (sampleEvent 'd' 3)),
   (sampleEnv 7, .ingest key (sampleEvent 'c' 2)),
   (sampleEnv 6, .ingest key (sampleEvent 'b' 1)),
   (sampleEnv 5, .ingest key (sampleEvent 'a' 0)),
   (sampleEnv 4, .tenant (sampleBearer 0 1) (.create_service_api_key 30 sampleKey)),
   (sampleEnv 3, .tenant (sampleBearer 0 1) (.create_service (sampleService 20))),
   (sampleEnv 2, .tenant (sampleBearer 0 1) (.create_organization sampleOrganization)),
   (sampleEnv 1, .auth (.login sampleLogin)),
   (sampleEnv 0, .auth (.register sampleUser))]

end pulseforge

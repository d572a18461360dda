-- The resources of an organization: the handlers of organizations, members,
-- services, API keys and audit logs, and the reads of events and incidents. As in
-- `Detection`, every row can be read back here.
import PulseForge.Detection

open txn table

namespace pulseforge

variable [Platform]

/-! ## Organizations -/

structure OrganizationCreate where
  name : Text
  slug : Text
  name_length : 2 ≤ name.length ∧ name.length ≤ 120
  slug_length : 2 ≤ slug.length ∧ slug.length ≤ 80

structure OrganizationResponse where
  id : UUID
  name : Text
  slug : Text
  created_at : Int
  deriving DecidableEq

def Organization.response (o : Organization) : OrganizationResponse :=
  ⟨o.id, o.name, o.slug, o.created_at⟩

structure OrganizationMembershipResponse where
  organization : OrganizationResponse
  role : OrganizationRole
  permissions : List Permission
  deriving DecidableEq

def new_organization (e : Env) (payload : OrganizationCreate) (user_id : UUID) : Organization where
  id := e.uuid 0
  name := strip payload.name
  slug := payload.slug
  created_by_id := user_id
  created_at := e.now
  updated_at := e.now

def owner_membership (e : Env) (user_id : UUID) : OrganizationMember where
  id := e.uuid 1
  organization_id := e.uuid 0
  user_id := user_id
  role := .OWNER
  joined_at := e.now

def addMember (row : OrganizationMember) (s : Store) : Store :=
  { s with organization_members := s.organization_members ++ [row] }

/-- The unique slug of an organization, and the column types. -/
def insertOrganization (organization : Organization) (s : Store) : Except Failure Store :=
  if Platform.storable_text organization.name then
    if s.organizations.any fun o => o.slug = organization.slug then .error .IntegrityError
    else .ok { s with organizations := s.organizations ++ [organization] }
  else .error .DataError

def organization_audit (e : Env) (payload : OrganizationCreate) (user_id : UUID) : AuditLog :=
  audit_row e (e.uuid 2) .ORGANIZATION_CREATED "organization".toList (some (e.uuid 0))
    (some user_id) (some (e.uuid 0)) [("slug".toList, .str payload.slug)]

def create_organization (e : Env) (payload : OrganizationCreate) (current_user : User) :
    Handler Organization := do
  let organization := new_organization e payload current_user.id
  if ← attempt isIntegrityError (flush fun s =>
      (insertOrganization organization s).map (addMember (owner_membership e current_user.id))) then do
    write (addAudit (organization_audit e payload current_user.id))
    commit
    return organization
  else do
    rollback
    throw (HTTPException 409 "Organization slug is already in use")

/-- The memberships of a user, with their organizations, newest organization first. -/
def membershipsOf (user_id : UUID) (s : Store) : List (OrganizationMember × Organization) :=
  orderDesc (fun p => p.2.created_at)
    ((s.organization_members.filter fun m => m.user_id = user_id).flatMap fun m =>
      (s.organizations.filter fun o => o.id = m.organization_id).map fun o => (m, o))

def list_organizations (current_user : User) : Handler (List OrganizationMembershipResponse) := do
  let memberships ← select (membershipsOf current_user.id)
  return memberships.map fun p => ⟨p.2.response, p.1.role, ALL_PERMISSIONS.filter
    fun x => x ∈ permissions_for_role p.1.role⟩

/-! ## Members -/

structure MemberAdd where
  email : Text
  role : OrganizationRole

structure MemberResponse where
  id : UUID
  user_id : UUID
  email : Text
  full_name : Text
  role : OrganizationRole
  joined_at : Int

/-- A membership row with its user. -/
def to_member_response (membership : OrganizationMember) (user : User) : MemberResponse where
  id := membership.id
  user_id := membership.user_id
  email := user.email
  full_name := user.full_name
  role := membership.role
  joined_at := membership.joined_at

def get_target_member (organization_id member_id : UUID) (s : Store) :
    Except Failure OrganizationMember :=
  match s.organization_members.find? fun m =>
      m.organization_id = organization_id && m.id = member_id with
  | some membership => .ok membership
  | none => .error (HTTPException 404 "Member not found")

/-- `ORDER BY key ASC`. -/
def orderAsc {α : Type} (key : α → Int) (rows : List α) : List α :=
  rows.insertionSort fun a b => key a ≤ key b

/-- The members of an organization with their users, oldest first. -/
def membersOf (organization_id : UUID) (s : Store) : Except Failure (List MemberResponse) :=
  (orderAsc OrganizationMember.joined_at
    (s.organization_members.filter fun m => m.organization_id = organization_id)).mapM fun m =>
      (tokenUser m.user_id s).map (to_member_response m)

def list_members (organization_id : UUID) (current_user : User) : Handler (List MemberResponse) := do
  let _ ← ask (require_permission .MEMBER_READ organization_id current_user.id)
  ask (membersOf organization_id)

/-- `uq_organization_member`. -/
def insertMember (row : OrganizationMember) (s : Store) : Except Failure Store :=
  if isMember s row.organization_id row.user_id then .error .IntegrityError
  else .ok (addMember row s)

def new_member (e : Env) (organization_id user_id : UUID) (role : OrganizationRole) :
    OrganizationMember where
  id := e.uuid 0
  organization_id := organization_id
  user_id := user_id
  role := role
  joined_at := e.now

def MEMBER_EXISTS : Failure := HTTPException 409 "User is already an organization member"

def add_member (e : Env) (organization_id : UUID) (payload : MemberAdd) (current_user : User) :
    Handler MemberResponse := do
  let actor ← ask (require_permission .MEMBER_MANAGE organization_id current_user.id)
  if payload.role = .OWNER then
    throw (HTTPException 403 "Ownership transfer is not supported by this endpoint")
  else if !can_manage_role actor.role payload.role then
    throw (HTTPException 403 "Admins can assign only engineer or viewer roles")
  else
    match ← select (fun s => (findUserByEmail s payload.email).filter fun u => u.is_active) with
    | none => throw (HTTPException 404 "No active registered user found with this email")
    | some user => do
      if (← select (fun s => findMembership s organization_id user.id)).isSome then
        throw MEMBER_EXISTS
      else if ← attempt isIntegrityError
          (flush (insertMember (new_member e organization_id user.id payload.role))) then do
        commit
        return to_member_response (new_member e organization_id user.id payload.role) user
      else do
        rollback
        throw MEMBER_EXISTS

def OrganizationRole.value : OrganizationRole → Text
  | .OWNER => "OWNER".toList
  | .ADMIN => "ADMIN".toList
  | .ENGINEER => "ENGINEER".toList
  | .VIEWER => "VIEWER".toList

/-- The write of a membership by its id. -/
def updateMember (member_id : UUID) (f : OrganizationMember → OrganizationMember) (s : Store) : Store :=
  { s with organization_members := updateWhere (fun m => m.id = member_id) f s.organization_members }

def role_audit (e : Env) (organization_id : UUID) (target : OrganizationMember)
    (role : OrganizationRole) (user_id : UUID) : AuditLog :=
  audit_row e (e.uuid 2) .MEMBER_ROLE_CHANGED "organization_member".toList (some organization_id)
    (some user_id) (some target.id)
    [("target_user_id".toList, .uuid target.user_id),
     ("previous_role".toList, .str target.role.value), ("new_role".toList, .str role.value)]

def update_member_role (e : Env) (organization_id member_id : UUID) (role : OrganizationRole)
    (current_user : User) : Handler MemberResponse := do
  let actor ← ask (require_permission .MEMBER_MANAGE organization_id current_user.id)
  let target ← ask (get_target_member organization_id member_id)
  let user ← ask (tokenUser target.user_id)
  if role = .OWNER then
    throw (HTTPException 403 "Ownership transfer is not supported by this endpoint")
  else if !can_manage_role actor.role target.role then
    throw (HTTPException 403 "You cannot change this member's role")
  else if !can_manage_role actor.role role then
    throw (HTTPException 403 "You cannot assign this role")
  else do
    write (updateMember target.id fun m => { m with role := role })
    write (addAudit (role_audit e organization_id target role current_user.id))
    commit
    return to_member_response { target with role := role } user

def deleteMember (member_id : UUID) (s : Store) : Store :=
  { s with organization_members := s.organization_members.filter fun m => m.id ≠ member_id }

def remove_member (organization_id member_id : UUID) (current_user : User) : Handler Unit := do
  let actor ← ask (require_permission .MEMBER_MANAGE organization_id current_user.id)
  let target ← ask (get_target_member organization_id member_id)
  if target.user_id = current_user.id then
    throw (HTTPException 409 "You cannot remove your own membership")
  else if !can_manage_role actor.role target.role then
    throw (HTTPException 403 "You cannot remove this member")
  else do
    write (deleteMember target.id)
    commit

/-! ## Services -/

structure ServiceCreate where
  organization_id : UUID
  name : Text
  slug : Text
  description : Option Text
  environment : ServiceEnvironment
  name_length : 2 ≤ name.length ∧ name.length ≤ 120
  slug_length : 2 ≤ slug.length ∧ slug.length ≤ 80
  description_length : ∀ t ∈ description, t.length ≤ 2000

/-- A field of a partial update: absent, or there with a value or null. -/
abbrev Change (α : Type) := Option (Option α)

structure ServiceUpdate where
  name : Change Text
  slug : Change Text
  description : Change Text
  environment : Change ServiceEnvironment
  status : Change ServiceStatus
  name_length : ∀ t, name = some (some t) → 2 ≤ t.length ∧ t.length ≤ 120
  slug_length : ∀ t, slug = some (some t) → 2 ≤ t.length ∧ t.length ≤ 80
  description_length : ∀ t, description = some (some t) → t.length ≤ 2000

def Service.storable (v : Service) : Bool :=
  Platform.storable_text v.name && v.name.length ≤ 120 && v.slug.length ≤ 80 &&
    v.description.all Platform.storable_text

/-- `uq_service_organization_slug`: another service of the organization has the slug. -/
def slugTaken (v : Service) (s : Store) : Bool :=
  s.services.any fun w => w.id ≠ v.id && w.organization_id = v.organization_id && w.slug = v.slug

def insertService (service : Service) (s : Store) : Except Failure Store :=
  if service.storable then
    if slugTaken service s then .error .IntegrityError
    else .ok { s with services := s.services ++ [service] }
  else .error .DataError

def new_service (e : Env) (payload : ServiceCreate) : Service where
  id := e.uuid 0
  organization_id := payload.organization_id
  name := strip payload.name
  slug := payload.slug
  description := payload.description
  environment := payload.environment
  status := .OPERATIONAL
  created_at := e.now
  updated_at := e.now

def ServiceEnvironment.value : ServiceEnvironment → Text
  | .PRODUCTION => "production".toList
  | .STAGING => "staging".toList
  | .DEVELOPMENT => "development".toList

def service_audit (e : Env) (service : Service) (user_id : UUID) : AuditLog :=
  audit_row e (e.uuid 2) .SERVICE_CREATED "service".toList (some service.organization_id)
    (some user_id) (some service.id)
    [("slug".toList, .str service.slug), ("environment".toList, .str service.environment.value)]

def SLUG_IN_USE : Failure := HTTPException 409 "Service slug is already in use in this organization"

def create_service (e : Env) (payload : ServiceCreate) (current_user : User) : Handler Service := do
  let _ ← ask (require_permission .SERVICE_CREATE payload.organization_id current_user.id)
  let service := new_service e payload
  if ← attempt isIntegrityError (flush (insertService service)) then do
    write (addAudit (service_audit e service current_user.id))
    commit
    return service
  else do
    rollback
    throw SLUG_IN_USE

def servicesOf (organization_id : UUID) (s : Store) : List Service :=
  orderDesc Service.created_at (s.services.filter fun v => v.organization_id = organization_id)

def list_services (organization_id : UUID) (current_user : User) : Handler (List Service) := do
  let _ ← ask (require_permission .SERVICE_READ organization_id current_user.id)
  select (servicesOf organization_id)

def get_service (service_id : UUID) (current_user : User) : Handler Service := do
  let service ← ask (get_tenant_resource_or_404 Service service_id current_user.id)
  let _ ← ask (require_permission .SERVICE_READ service.organization_id current_user.id)
  return service

/-- The value of a field that the column may not hold as null. -/
def Change.get {α : Type} (c : Change α) (old : α) : Except Failure α :=
  match c with
  | none => .ok old
  | some none => .error .IntegrityError
  | some (some a) => .ok a

/-- The row that the `setattr` loop leaves, with the null checks of its columns. The
driver refuses a text before the database sees the row. -/
def changed_service (now : Int) (payload : ServiceUpdate) (name : Text) (service : Service) :
    Except Failure Service := do
  let description := payload.description.getD service.description
  if Platform.storable_text name && description.all Platform.storable_text then do
    let slug ← payload.slug.get service.slug
    let environment ← payload.environment.get service.environment
    let status ← payload.status.get service.status
    let changed := { service with name, slug, description, environment, status }
    return if changed = service then service else { changed with updated_at := now }
  else throw .DataError

/-- `UPDATE services`, with the constraints of the table. -/
def updateServiceRow (changed : Service) (s : Store) : Except Failure Store :=
  if changed.storable then
    if slugTaken changed s then .error .IntegrityError
    else .ok { s with services := updateWhere (fun v => v.id = changed.id) (fun _ => changed) s.services }
  else .error .DataError

/-- `changes["name"].strip()`. -/
def changed_name (payload : ServiceUpdate) (old : Text) : Except Failure Text :=
  match payload.name with
  | none => .ok old
  | some none => .error .AttributeError
  | some (some name) => .ok (strip name)

def update_service (e : Env) (service_id : UUID) (payload : ServiceUpdate) (current_user : User) :
    Handler Service := do
  let service ← ask (get_tenant_resource_or_404 Service service_id current_user.id)
  let _ ← ask (require_permission .SERVICE_UPDATE service.organization_id current_user.id)
  let name ← ask fun _ => changed_name payload service.name
  match changed_service e.now payload name service with
  | .error .IntegrityError => do
    rollback
    throw SLUG_IN_USE
  | .error failure => throw failure
  | .ok changed => do
    if ← attempt isIntegrityError (flush (updateServiceRow changed)) then do
      commit
      return changed
    else do
      rollback
      throw SLUG_IN_USE

/-- The service and, by the cascades, its keys, events, incidents and links. -/
def deleteService (service_id : UUID) (s : Store) : Store :=
  { s with
    services := s.services.filter fun v => v.id ≠ service_id
    api_keys := s.api_keys.filter fun k => k.service_id ≠ service_id
    events := s.events.filter fun v => v.service_id ≠ service_id
    incidents := s.incidents.filter fun i => i.service_id ≠ service_id
    incident_events := s.incident_events.filter fun l =>
      !(s.incidents.any fun i => i.id = l.incident_id && i.service_id = service_id) &&
        !(s.events.any fun v => v.id = l.event_id && v.service_id = service_id) }

def delete_service (service_id : UUID) (current_user : User) : Handler Unit := do
  let service ← ask (get_tenant_resource_or_404 Service service_id current_user.id)
  let _ ← ask (require_permission .SERVICE_DELETE service.organization_id current_user.id)
  write (deleteService service.id)
  commit

/-! ## API keys -/

structure ApiKeyCreate where
  name : Text
  scopes : List ApiKeyScope
  expires_at : Option Int
  name_length : 2 ≤ name.length ∧ name.length ≤ 120
  scopes_present : scopes ≠ []
  scopes_unique : scopes.Nodup

/-- The validators of `ApiKeyCreate`, at the time `now`. -/
def ApiKeyCreate.validate (name : Text) (scopes : List ApiKeyScope) (expires_at : Option Int)
    (now : Int) : Except Failure ApiKeyCreate :=
  if h : (2 ≤ name.length ∧ name.length ≤ 120) ∧ scopes ≠ [] ∧ scopes.Nodup then
    if is_expired expires_at now then .error .ValidationError
    else .ok ⟨name, scopes, expires_at, h.1, h.2.1, h.2.2⟩
  else .error .ValidationError

structure ApiKeyResponse where
  id : UUID
  organization_id : UUID
  service_id : UUID
  name : Text
  display_prefix : Text
  scopes : List ApiKeyScope
  last_used_at : Option Int
  expires_at : Option Int
  revoked_at : Option Int
  created_at : Int

def ApiKey.response (k : ApiKey) : ApiKeyResponse :=
  ⟨k.id, k.organization_id, k.service_id, k.name, k.display_prefix, k.scopes, k.last_used_at,
    k.expires_at, k.revoked_at, k.created_at⟩

/-- The public fields of a new key, and the raw key, shown once. -/
structure ApiKeyCreatedResponse where
  public_fields : ApiKeyResponse
  api_key : Text

/-- `create_api_key`: the raw key. -/
def create_raw_key (e : Env) (production : Bool) : Text :=
  (if production then "pf_live_".toList else "pf_test_".toList) ++ e.secret

def new_api_key (e : Env) (service : Service) (payload : ApiKeyCreate) : ApiKey where
  id := e.uuid 0
  organization_id := service.organization_id
  service_id := service.id
  name := strip payload.name
  key_hash := hash_api_key (create_raw_key e (service.environment = .PRODUCTION))
  display_prefix := (create_raw_key e (service.environment = .PRODUCTION)).take 16
  scopes := payload.scopes
  last_used_at := none
  expires_at := payload.expires_at
  revoked_at := none
  created_at := e.now

def insertApiKey (k : ApiKey) (s : Store) : Except Failure Store :=
  if Platform.storable_text k.name then .ok { s with api_keys := s.api_keys ++ [k] }
  else .error .DataError

def key_audit (e : Env) (action : AuditAction) (organization_id api_key_id user_id : UUID)
    (metadata : Metadata) : AuditLog :=
  audit_row e (e.uuid 2) action "api_key".toList (some organization_id) (some user_id)
    (some api_key_id) metadata

def issue_api_key (e : Env) (service : Service) (payload : ApiKeyCreate) (user_id : UUID)
    (action : AuditAction) (metadata : Metadata) : Handler ApiKeyCreatedResponse := do
  let api_key := new_api_key e service payload
  flush (insertApiKey api_key)
  write (addAudit (key_audit e action service.organization_id api_key.id user_id metadata))
  commit
  -- `session.refresh` comes here: `loading.issue_api_key`
  return ⟨api_key.response, create_raw_key e (service.environment = .PRODUCTION)⟩

def create_service_api_key (e : Env) (service_id : UUID) (payload : ApiKeyCreate)
    (current_user : User) : Handler ApiKeyCreatedResponse := do
  let service ← ask (get_tenant_resource_or_404 Service service_id current_user.id)
  let _ ← ask (require_permission .API_KEY_MANAGE service.organization_id current_user.id)
  issue_api_key e service payload current_user.id .API_KEY_CREATED []

def keysOf (service_id : UUID) (s : Store) : List ApiKey :=
  orderDesc ApiKey.created_at (s.api_keys.filter fun k => k.service_id = service_id)

def list_service_api_keys (service_id : UUID) (current_user : User) :
    Handler (List ApiKeyResponse) := do
  let service ← ask (get_tenant_resource_or_404 Service service_id current_user.id)
  let _ ← ask (require_permission .API_KEY_READ service.organization_id current_user.id)
  let keys ← select (keysOf service.id)
  return keys.map ApiKey.response

def revokeKey (api_key_id : UUID) (now : Int) (s : Store) : Store :=
  { s with
    api_keys := updateWhere (fun k => k.id = api_key_id)
      (fun k => { k with revoked_at := some now }) s.api_keys }

def revoke_api_key (e : Env) (api_key_id : UUID) (current_user : User) : Handler Unit := do
  let api_key ← ask (get_tenant_resource_or_404 ApiKey api_key_id current_user.id)
  let _ ← ask (require_permission .API_KEY_MANAGE api_key.organization_id current_user.id)
  if api_key.revoked_at.isNone then do
    write (revokeKey api_key.id (e.clock 1))
    write (addAudit (key_audit e .API_KEY_REVOKED api_key.organization_id api_key.id
      current_user.id []))
    commit
  else pure ()

def rotate_api_key (e : Env) (api_key_id : UUID) (current_user : User) :
    Handler ApiKeyCreatedResponse := do
  let old_key ← ask (get_tenant_resource_or_404 ApiKey api_key_id current_user.id)
  let _ ← ask (require_permission .API_KEY_MANAGE old_key.organization_id current_user.id)
  if old_key.revoked_at.isSome then
    throw (HTTPException 409 "Revoked API keys cannot be rotated")
  else if is_expired old_key.expires_at (e.clock 1) then
    throw (HTTPException 409 "Expired API keys cannot be rotated")
  else do
    let service ← ask (get_tenant_resource_or_404 Service old_key.service_id current_user.id)
    write (revokeKey old_key.id (e.clock 2))
    let payload ← ask fun _ =>
      ApiKeyCreate.validate old_key.name old_key.scopes old_key.expires_at (e.clock 3)
    issue_api_key e service payload current_user.id .API_KEY_ROTATED
      [("previous_resource_id".toList, .uuid old_key.id)]

/-! ## Reads of events, incidents and audit logs -/

/-- `LIMIT .. OFFSET ..`. -/
def page {α : Type} (limit offset : Nat) (rows : List α) : List α := (rows.drop offset).take limit

def eventsOf (organization_id : UUID) (service_id : Option UUID) (level : Option EventLevel)
    (s : Store) : List Event :=
  orderDesc (fun v => v.occurred_at.instant) (s.events.filter fun v =>
    v.organization_id = organization_id && service_id.all (fun x => v.service_id = x) &&
      level.all (fun x => v.level = x))

def list_events (organization_id : UUID) (service_id : Option UUID) (level : Option EventLevel)
    (limit offset : Nat) (current_user : User) : Handler (List EventResponse) := do
  let _ ← ask (require_permission .EVENT_READ organization_id current_user.id)
  let events ← select (eventsOf organization_id service_id level)
  return (page limit offset events).map Event.response

def get_event (event_id : UUID) (current_user : User) : Handler EventResponse := do
  let event ← ask (get_tenant_resource_or_404 Event event_id current_user.id)
  let _ ← ask (require_permission .EVENT_READ event.organization_id current_user.id)
  return event.response

def incidentsOf (organization_id : UUID) (status : Option IncidentStatus) (s : Store) :
    List Incident :=
  orderDesc (fun i => i.detected_at.instant) (s.incidents.filter fun i =>
    i.organization_id = organization_id && status.all (fun x => i.status = x))

def list_incidents (organization_id : UUID) (status : Option IncidentStatus) (limit : Nat)
    (current_user : User) : Handler (List Incident) := do
  let _ ← ask (require_permission .INCIDENT_READ organization_id current_user.id)
  let incidents ← select (incidentsOf organization_id status)
  return page limit 0 incidents

def get_incident (incident_id : UUID) (current_user : User) : Handler Incident := do
  let incident ← ask (get_tenant_resource_or_404 Incident incident_id current_user.id)
  let _ ← ask (require_permission .INCIDENT_READ incident.organization_id current_user.id)
  return incident

/-- The audit log of an organization, by time and then by id, newest first. -/
def auditLogsOf (organization_id : UUID) (s : Store) : List AuditLog :=
  (s.audit_logs.filter fun a => a.organization_id = some organization_id).insertionSort fun a b =>
    b.created_at < a.created_at ∨ b.created_at = a.created_at ∧ b.id ≤ a.id

def list_audit_logs (organization_id : UUID) (limit offset : Nat) (current_user : User) :
    Handler (List AuditLog) := do
  let _ ← ask (require_permission .AUDIT_LOG_READ organization_id current_user.id)
  let logs ← select (auditLogsOf organization_id)
  return page limit offset logs

end pulseforge

-- The permission policy of the roles, the tenant-scoped lookups, and the
-- audit log that the handlers write.
import PulseForge.Lib.Transaction
import PulseForge.Types

open txn

namespace pulseforge

/-- A request handler over the database of the backend. -/
abbrev Handler (α : Type) := txn.Handler Store Failure α

/-- `try: .. except IntegrityError`. -/
def isIntegrityError : Failure → Bool
  | .IntegrityError => true
  | _ => false

/-- `rate_limiter.check`: the verdict of the limiter comes from outside. -/
def check_rate_limit (e : Env) : Handler Unit :=
  match e.retry_after with
  | some seconds => throw (RateLimitError seconds)
  | none => pure ()

/-! ## Roles and permissions -/

inductive Permission
  | ORGANIZATION_READ | ORGANIZATION_DELETE | MEMBER_READ | MEMBER_MANAGE | SERVICE_READ
  | SERVICE_CREATE | SERVICE_UPDATE | SERVICE_DELETE | API_KEY_READ | API_KEY_MANAGE | EVENT_READ
  | INCIDENT_READ | INCIDENT_ACKNOWLEDGE | INCIDENT_RESOLVE | AUDIT_LOG_READ
  deriving DecidableEq

/-- `frozenset(Permission)`, in the order of the permissions' texts. -/
def ALL_PERMISSIONS : List Permission :=
  [.API_KEY_MANAGE, .API_KEY_READ, .AUDIT_LOG_READ, .EVENT_READ, .INCIDENT_ACKNOWLEDGE,
   .INCIDENT_READ, .INCIDENT_RESOLVE, .MEMBER_MANAGE, .MEMBER_READ, .ORGANIZATION_DELETE,
   .ORGANIZATION_READ, .SERVICE_CREATE, .SERVICE_DELETE, .SERVICE_READ, .SERVICE_UPDATE]

def READ_PERMISSIONS : List Permission :=
  [.ORGANIZATION_READ, .MEMBER_READ, .SERVICE_READ, .API_KEY_READ, .EVENT_READ, .INCIDENT_READ]

def OPERATOR_PERMISSIONS : List Permission :=
  READ_PERMISSIONS ++ [.INCIDENT_ACKNOWLEDGE, .INCIDENT_RESOLVE]

def permissions_for_role : OrganizationRole → List Permission
  | .OWNER => ALL_PERMISSIONS
  | .ADMIN => OPERATOR_PERMISSIONS ++
      [.SERVICE_CREATE, .SERVICE_UPDATE, .SERVICE_DELETE, .MEMBER_MANAGE, .AUDIT_LOG_READ]
  | .ENGINEER => OPERATOR_PERMISSIONS
  | .VIEWER => READ_PERMISSIONS

def can_manage_role (actor_role target_role : OrganizationRole) : Bool :=
  if target_role = .OWNER then false
  else if actor_role = .OWNER then true
  else actor_role = .ADMIN && (target_role = .ENGINEER || target_role = .VIEWER)

/-! ## Tenant-scoped lookups -/

/-- The membership row of a user in an organization. -/
def findMembership (s : Store) (organization_id user_id : UUID) : Option OrganizationMember :=
  s.organization_members.find? fun m => m.organization_id = organization_id && m.user_id = user_id

def get_membership_or_404 (organization_id user_id : UUID) (s : Store) :
    Except Failure OrganizationMember :=
  match findMembership s organization_id user_id with
  | some membership => .ok membership
  -- 404 avoids revealing that the organization of another tenant exists.
  | none => .error (ResourceNotFoundError "Organization not found" "ORGANIZATION_NOT_FOUND")

def require_permission (permission : Permission) (organization_id user_id : UUID) (s : Store) :
    Except Failure OrganizationMember :=
  match get_membership_or_404 organization_id user_id s with
  | .error e => .error e
  | .ok membership =>
    if permission ∈ permissions_for_role membership.role then .ok membership
    else .error (PermissionDeniedError)

/-- A table whose rows belong to an organization. -/
class TenantTable (α : Type) where
  rows : Store → List α
  id : α → UUID
  organization_id : α → UUID

instance : TenantTable Service := ⟨Store.services, Service.id, Service.organization_id⟩
instance : TenantTable ApiKey := ⟨Store.api_keys, ApiKey.id, ApiKey.organization_id⟩
instance : TenantTable Event := ⟨Store.events, Event.id, Event.organization_id⟩
instance : TenantTable Incident := ⟨Store.incidents, Incident.id, Incident.organization_id⟩

/-- The user is a member of the organization. -/
def isMember (s : Store) (organization_id user_id : UUID) : Bool :=
  s.organization_members.any fun m => m.organization_id = organization_id && m.user_id = user_id

theorem isMember_eq (s : Store) (organization_id user_id : UUID) :
    isMember s organization_id user_id = (findMembership s organization_id user_id).isSome :=
  List.isSome_find?.symm

/-- The row with the id, joined with a membership of the user. -/
def findTenantResource (α : Type) [TenantTable α] (resource_id user_id : UUID) (s : Store) :
    Option α :=
  (TenantTable.rows s).find? fun r =>
    TenantTable.id r = resource_id && isMember s (TenantTable.organization_id r) user_id

/-- Missing and inaccessible ids have one response. -/
def get_tenant_resource_or_404 (α : Type) [TenantTable α] (resource_id user_id : UUID)
    (s : Store) : Except Failure α :=
  match findTenantResource α resource_id user_id s with
  | some resource => .ok resource
  | none => .error (ResourceNotFoundError)

/-! ## The audit log -/

variable [Platform]

def SENSITIVE_KEY_PARTS : List Text :=
  ["password".toList, "token".toList, "secret".toList, "authorization".toList, "cookie".toList,
   "api_key".toList, "apikey".toList, "credential".toList]

/-- `key.lower().replace("-", "_")` contains a sensitive part. -/
def isSensitive (key : Text) : Bool :=
  let normalized := (Platform.lower key).map fun c => if c = '-' then '_' else c
  SENSITIVE_KEY_PARTS.any fun part => normalized.tails.any fun tail => part.isPrefixOf tail

/-- `d[key] = value`: a key that is there keeps its place. -/
def dictSet (d : Metadata) (key : Text) (value : PyValue) : Metadata :=
  if d.any (fun p => p.1 = key) then d.map fun p => if p.1 = key then (key, value) else p
  else d ++ [(key, value)]

mutual
def safe_value : PyValue → PyValue
  | .none => .none
  | .bool b => .bool b
  | .int n => .int n
  | .float r => .float r
  | .str t => .str (t.take 500)
  | .uuid u => .str (Platform.str_uuid u)
  | .mapping items => .mapping (sanitize_items [] items)
  | .list items => .list (safe_values 50 items)
  | .other t => .str (t.take 500)

/-- The loop over a list, cut to its first `n` items. -/
def safe_values : Nat → List PyValue → List PyValue
  | _, [] => []
  | 0, _ :: _ => []
  | n + 1, v :: vs => safe_value v :: safe_values n vs

/-- The loop of `sanitize_audit_metadata`, with the result so far. -/
def sanitize_items (sanitized : Metadata) : List (Text × PyValue) → Metadata
  | [] => sanitized
  | (raw_key, value) :: items =>
    let key := raw_key.take 100
    if isSensitive key then sanitize_items sanitized items
    else sanitize_items (dictSet sanitized key (safe_value value)) items
end

def sanitize_audit_metadata (metadata : Metadata) : Metadata := sanitize_items [] metadata

/-- The client address and user agent that rows keep, cut to their columns. -/
def request_metadata (e : Env) : Option Text × Option Text :=
  let present (t : Option Text) : Option Text := t.filter fun t => !t.isEmpty
  ((present e.client_host).map (·.take 45), (present e.user_agent).map (·.take 500))

/-- The row of `record_audit_log`; `id` is the id that the row draws. -/
def audit_row (e : Env) (id : UUID) (action : AuditAction) (resource_type : Text)
    (organization_id actor_user_id resource_id : Option UUID) (metadata : Metadata) : AuditLog where
  id := id
  organization_id := organization_id
  actor_user_id := actor_user_id
  action := action
  resource_type := resource_type.take 80
  resource_id := resource_id
  ip_address := (request_metadata e).1
  user_agent := (request_metadata e).2
  metadata_json := sanitize_audit_metadata metadata
  created_at := e.now

def addAudit (row : AuditLog) (s : Store) : Store := { s with audit_logs := s.audit_logs ++ [row] }

def record_audit_log (e : Env) (id : UUID) (action : AuditAction) (resource_type : Text)
    (organization_id actor_user_id resource_id : Option UUID) (metadata : Metadata) : Handler Unit :=
  write (addAudit (audit_row e id action resource_type organization_id actor_user_id resource_id
    metadata))

end pulseforge

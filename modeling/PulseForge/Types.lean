-- The data of the backend: text, time, the rows of every table, the store,
-- and what a request gets from outside of the program. A time is an `Int`,
-- the microseconds of UTC since the start of year 1.
import Mathlib.Data.List.DropRight

namespace pulseforge

/-! ## Text, ids and time -/

/-- A Python `str`: its code points. -/
abbrev Text := List Char

abbrev UUID := Nat

/-- The characters that `str.strip` takes off. -/
def isSpace (c : Char) : Bool :=
  let n := c.toNat
  (0x9 ≤ n && n ≤ 0xd) || (0x1c ≤ n && n ≤ 0x20) || n = 0x85 || n = 0xa0 || n = 0x1680 ||
    (0x2000 ≤ n && n ≤ 0x200a) || n = 0x2028 || n = 0x2029 || n = 0x202f || n = 0x205f || n = 0x3000

/-- Python's `str.strip()`. -/
def strip (t : Text) : Text := (t.dropWhile isSpace).rdropWhile isSpace

theorem dropWhile_eq_self_of_prefix {p : Char → Bool} {t u : Text} (h : t.dropWhile p = t)
    (hu : u <+: t) : u.dropWhile p = u := by
  obtain ⟨v, rfl⟩ := hu
  cases u with
  | nil => rfl
  | cons c u =>
    by_cases hc : p c = true
    · rw [List.cons_append, List.dropWhile_cons_of_pos hc] at h
      have := congrArg List.length h
      have hle := (List.dropWhile_sublist p (l := u ++ v)).length_le
      simp at this hle
      omega
    · rw [List.dropWhile_cons_of_neg hc]

/-- What is trimmed stays as it is when it is trimmed again. -/
theorem strip_strip (t : Text) : strip (strip t) = strip t := by
  unfold strip
  have h : ((t.dropWhile isSpace).rdropWhile isSpace).dropWhile isSpace =
      (t.dropWhile isSpace).rdropWhile isSpace :=
    dropWhile_eq_self_of_prefix (List.dropWhile_idempotent isSpace t) (List.rdropWhile_prefix isSpace _)
  rw [h, List.rdropWhile_idempotent]

def SECOND : Int := 1000000

/-- The wall-clock microseconds that a Python `datetime` can hold: years 1 to 9999. -/
def MAX_WALL : Int := 315537897600 * SECOND

/-- An aware `datetime`: the wall clock and the UTC offset, in microseconds. -/
structure DateTime where
  wall : Int
  utcoffset : Int
  in_range : 0 ≤ wall ∧ wall < MAX_WALL
  deriving DecidableEq

def DateTime.instant (d : DateTime) : Int := d.wall - d.utcoffset

/-- `d - timedelta(seconds=n)`, or nothing for an `OverflowError`. -/
def DateTime.minus_seconds (d : DateTime) (n : Nat) : Option DateTime :=
  if h : 0 ≤ d.wall - n * SECOND then
    some ⟨d.wall - n * SECOND, d.utcoffset, h, by
      have hr := d.in_range
      have hn : 0 ≤ (n : Int) * SECOND := by unfold SECOND; omega
      omega⟩
  else none

theorem DateTime.minus_seconds_instant {d w : DateTime} {n : Nat}
    (h : d.minus_seconds n = some w) : w.instant = d.instant - n * SECOND := by
  unfold DateTime.minus_seconds at h
  split at h
  · cases h
    simp only [DateTime.instant]
    omega
  · cases h

/-! ## Enumerations -/

inductive EventLevel
  | DEBUG | INFO | WARNING | ERROR | CRITICAL
  deriving DecidableEq

/-- `level in {ERROR, CRITICAL}`. -/
def EventLevel.failing : EventLevel → Bool
  | .ERROR | .CRITICAL => true
  | _ => false

inductive IncidentSeverity
  | SEV_1 | SEV_2 | SEV_3 | SEV_4
  deriving DecidableEq

inductive IncidentStatus
  | OPEN | ACKNOWLEDGED | RESOLVED
  deriving DecidableEq

/-- `status in (OPEN, ACKNOWLEDGED)`. -/
def IncidentStatus.active : IncidentStatus → Bool
  | .OPEN | .ACKNOWLEDGED => true
  | .RESOLVED => false

inductive OrganizationRole
  | OWNER | ADMIN | ENGINEER | VIEWER
  deriving DecidableEq

inductive ServiceEnvironment
  | PRODUCTION | STAGING | DEVELOPMENT
  deriving DecidableEq

inductive ServiceStatus
  | OPERATIONAL | DEGRADED | MAINTENANCE | DISABLED
  deriving DecidableEq

inductive ApiKeyScope
  | EVENTS_WRITE
  deriving DecidableEq

inductive AuditAction
  | ORGANIZATION_CREATED | SERVICE_CREATED | API_KEY_CREATED | API_KEY_ROTATED | API_KEY_REVOKED
  | MEMBER_ROLE_CHANGED | INCIDENT_ACKNOWLEDGED | INCIDENT_RESOLVED | PASSWORD_CHANGED | LOGIN_FAILED
  deriving DecidableEq

inductive AppEnvironment
  | DEVELOPMENT | TEST | STAGING | PRODUCTION
  deriving DecidableEq

/-! ## Metadata -/

/-- The Python values that metadata is made of. A list, a tuple and a set are
one case: they are read in their order. -/
inductive PyValue
  | none
  | bool (b : Bool)
  | int (n : Int)
  | float (repr : Text)
  | str (t : Text)
  | uuid (u : UUID)
  | mapping (items : List (Text × PyValue))
  | list (items : List PyValue)
  | other (str : Text)

/-- A Python `dict` with text keys, in the order of its keys. -/
abbrev Metadata := List (Text × PyValue)

/-! ## Rows -/

structure User where
  id : UUID
  email : Text
  password_hash : Text
  full_name : Text
  is_active : Bool
  created_at : Int
  updated_at : Int
  deriving DecidableEq

structure RefreshToken where
  id : UUID
  user_id : UUID
  token_hash : Text
  expires_at : Int
  revoked_at : Option Int
  last_used_at : Option Int
  ip_address : Option Text
  user_agent : Option Text
  created_at : Int
  deriving DecidableEq

structure PasswordResetToken where
  id : UUID
  user_id : UUID
  token_hash : Text
  expires_at : Int
  used_at : Option Int
  created_at : Int
  deriving DecidableEq

structure Organization where
  id : UUID
  name : Text
  slug : Text
  created_by_id : UUID
  created_at : Int
  updated_at : Int
  deriving DecidableEq

structure OrganizationMember where
  id : UUID
  organization_id : UUID
  user_id : UUID
  role : OrganizationRole
  joined_at : Int
  deriving DecidableEq

structure Service where
  id : UUID
  organization_id : UUID
  name : Text
  slug : Text
  description : Option Text
  environment : ServiceEnvironment
  status : ServiceStatus
  created_at : Int
  updated_at : Int
  deriving DecidableEq

structure ApiKey where
  id : UUID
  organization_id : UUID
  service_id : UUID
  name : Text
  key_hash : Text
  display_prefix : Text
  scopes : List ApiKeyScope
  last_used_at : Option Int
  expires_at : Option Int
  revoked_at : Option Int
  created_at : Int
  deriving DecidableEq

structure Event where
  id : UUID
  organization_id : UUID
  service_id : UUID
  event_id : Text
  event_type : Text
  level : EventLevel
  message : Text
  occurred_at : DateTime
  received_at : Int
  fingerprint : Text
  metadata_json : Metadata
  trace_id : Option Text
  request_id : Option Text
  created_at : Int

structure Incident where
  id : UUID
  organization_id : UUID
  service_id : UUID
  title : Text
  description : Option Text
  severity : IncidentSeverity
  status : IncidentStatus
  detected_at : DateTime
  acknowledged_at : Option Int
  resolved_at : Option Int
  assigned_to : Option UUID
  fingerprint : Text
  created_at : Int
  updated_at : Int
  deriving DecidableEq

/-- A link of an incident and an event. Its own id and time are never read. -/
structure IncidentEvent where
  incident_id : UUID
  event_id : UUID
  deriving DecidableEq

structure AuditLog where
  id : UUID
  organization_id : Option UUID
  actor_user_id : Option UUID
  action : AuditAction
  resource_type : Text
  resource_id : Option UUID
  ip_address : Option Text
  user_agent : Option Text
  metadata_json : Metadata
  created_at : Int

/-- The database: the rows of every table, oldest first. -/
structure Store where
  users : List User
  refresh_tokens : List RefreshToken
  password_reset_tokens : List PasswordResetToken
  organizations : List Organization
  organization_members : List OrganizationMember
  services : List Service
  api_keys : List ApiKey
  events : List Event
  incidents : List Incident
  incident_events : List IncidentEvent
  audit_logs : List AuditLog

def Store.empty : Store := ⟨[], [], [], [], [], [], [], [], [], [], []⟩

/-! ## The outside -/

/-- The settings that the handlers read. -/
structure Settings where
  environment : AppEnvironment
  access_token_expire_minutes : Int
  refresh_token_expire_days : Int
  password_reset_expire_minutes : Int
  api_key_pepper : Text

/-- What the program takes from its language, its libraries and its driver. -/
class Platform where
  settings : Settings
  /-- `str.lower` and `str.upper`. -/
  lower : Text → Text
  upper : Text → Text
  /-- `str(uuid)`. -/
  str_uuid : UUID → Text
  /-- The hex digests of `hashlib.sha256` and of `hmac.new` with a key. -/
  sha256 : Text → Text
  hmac_sha256 : Text → Text → Text
  /-- `PasswordHash.hash`, with the salt that it draws, and `PasswordHash.verify`. -/
  hash_password : Text → Text → Text
  verify_password : Text → Text → Bool
  /-- What the driver takes as a text and as a JSON column. -/
  storable_text : Text → Bool
  storable_json : Metadata → Bool

/-- What one request gets from outside: its clock readings in their order, the
ids and the secret that it draws, the verdict of the rate limiter (the seconds
to wait, if it rejects), and the client of the connection. -/
structure Env where
  clock : Nat → Int
  uuid : Nat → UUID
  secret : Text
  retry_after : Option Nat
  client_host : Option Text
  user_agent : Option Text

/-- The time of the request: the first clock reading, and the `now()` of its
transaction. -/
def Env.now (e : Env) : Int := e.clock 0

/-! ## Failures -/

/-- The body and the headers of an error response. -/
structure ApiError where
  status_code : Nat
  code : String
  message : String
  retry_after : Option Nat := none
  www_authenticate : Option String := none
  deriving DecidableEq

/-- What a handler raises: an error with its own response, or an exception
that no handler of the application names. -/
inductive Failure
  | http (error : ApiError)
  | IntegrityError
  | DataError
  | OverflowError
  | ValidationError
  | AttributeError
  | StaleDataError
  | InvalidRequestError
  deriving DecidableEq

def AuthenticationError (message : String := "Authentication is required")
    (code : String := "AUTHENTICATION_REQUIRED") : Failure :=
  .http { status_code := 401, code, message, www_authenticate := some "Bearer" }

def PermissionDeniedError (message : String := "You do not have permission to perform this action")
    (code : String := "PERMISSION_DENIED") : Failure :=
  .http { status_code := 403, code, message }

def ResourceNotFoundError (message : String := "The requested resource was not found")
    (code : String := "RESOURCE_NOT_FOUND") : Failure :=
  .http { status_code := 404, code, message }

def ConflictError (message : String := "The request conflicts with the current resource state")
    (code : String := "RESOURCE_CONFLICT") : Failure :=
  .http { status_code := 409, code, message }

def RateLimitError (retry_after : Nat)
    (message : String := "Too many requests. Please try again later.") : Failure :=
  .http { status_code := 429, code := "RATE_LIMIT_EXCEEDED", message, retry_after := some retry_after }

def HTTP_ERROR_CODES : Nat → String
  | 400 => "BAD_REQUEST"
  | 401 => "AUTHENTICATION_REQUIRED"
  | 403 => "PERMISSION_DENIED"
  | 404 => "RESOURCE_NOT_FOUND"
  | 405 => "METHOD_NOT_ALLOWED"
  | 409 => "RESOURCE_CONFLICT"
  | 413 => "REQUEST_TOO_LARGE"
  | 415 => "UNSUPPORTED_MEDIA_TYPE"
  | 429 => "RATE_LIMIT_EXCEEDED"
  | 503 => "SERVICE_UNAVAILABLE"
  | _ => "HTTP_ERROR"

def HTTPException (status_code : Nat) (detail : String) : Failure :=
  .http { status_code, code := HTTP_ERROR_CODES status_code, message := detail }

/-- The error response that the exception handlers of the application make. -/
def error_response : Failure → ApiError
  | .http error => error
  | _ => { status_code := 500, code := "INTERNAL_SERVER_ERROR",
           message := "An unexpected error occurred" }

end pulseforge

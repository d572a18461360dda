-- Accounts and sessions: the sign-in dependencies of the API and the
-- handlers under /auth.
import PulseForge.Lib.Table
import PulseForge.Permissions
import Mathlib.Data.List.Sort

open txn table

namespace pulseforge

variable [Platform]

/-! ## Tokens -/

/-- The claims of an access token that this server signed. -/
structure AccessToken where
  sub : UUID
  sid : Option UUID
  exp : Int
  deriving DecidableEq

/-- The bearer credentials of a request: a token that this server signed, or
any other text. -/
inductive Bearer
  | signed (token : AccessToken)
  | text (raw : Text)
  deriving DecidableEq

/-- `jwt.decode` takes the tokens that this server signed, until they expire. -/
def jwt_decode (now : Int) : Bearer → Option AccessToken
  | .signed token => if now < token.exp then some token else none
  | .text _ => none

def hash_refresh_token (token : Text) : Text := Platform.sha256 token

def hash_password_reset_token (token : Text) : Text := Platform.sha256 token

def hash_api_key (api_key : Text) : Text :=
  Platform.hmac_sha256 (Platform.settings.api_key_pepper) api_key

def MINUTE : Int := 60 * SECOND
def DAY : Int := 86400 * SECOND

/-- The `exp` of a token is cut to whole seconds when it is encoded. -/
def create_access_token (now : Int) (subject session_id : UUID) : AccessToken where
  sub := subject
  sid := some session_id
  exp := (now + Platform.settings.access_token_expire_minutes * MINUTE) / SECOND * SECOND

def refresh_expires_at (now : Int) : Int := now + Platform.settings.refresh_token_expire_days * DAY

def reset_expires_at (now : Int) : Int :=
  now + Platform.settings.password_reset_expire_minutes * MINUTE

/-- `is_expired` and `has_expired`: the expiry time itself is too late. -/
def has_expired (expires_at now : Int) : Bool := expires_at ≤ now

def is_expired (expires_at : Option Int) (now : Int) : Bool :=
  match expires_at with
  | none => false
  | some t => t ≤ now

/-! ## The sign-in dependencies -/

def findUser (s : Store) (user_id : UUID) : Option User := s.users.find? fun u => u.id = user_id

def findUserByEmail (s : Store) (email : Text) : Option User :=
  s.users.find? fun u => u.email = Platform.lower email

/-- The refresh session that an access token names, of the user it names. -/
def findSession (s : Store) (session_id user_id : UUID) : Option RefreshToken :=
  s.refresh_tokens.find? fun r => r.id = session_id && r.user_id = user_id

def INVALID_ACCESS_TOKEN : Failure :=
  AuthenticationError "Invalid or expired access token" "INVALID_OR_EXPIRED_ACCESS_TOKEN"

/-- The session of an access token is there, not revoked and not expired. -/
def sessionOpen (s : Store) (session_id user_id : UUID) (now : Int) : Bool :=
  match findSession s session_id user_id with
  | none => false
  | some r => r.revoked_at.isNone && !is_expired (some r.expires_at) now

def get_current_user (credentials : Option Bearer) (now : Int) (s : Store) : Except Failure User :=
  match credentials with
  | none => .error AuthenticationError
  | some bearer =>
    match jwt_decode now bearer with
    | none => .error INVALID_ACCESS_TOKEN
    | some token =>
      match findUser s token.sub with
      | none => .error INVALID_ACCESS_TOKEN
      | some user =>
        if user.is_active then
          match token.sid with
          | none => .ok user
          | some session_id =>
            if sessionOpen s session_id token.sub now then .ok user else .error INVALID_ACCESS_TOKEN
        else .error INVALID_ACCESS_TOKEN

def INVALID_API_KEY : Failure :=
  AuthenticationError "Invalid, expired, or revoked API key" "INVALID_API_KEY"

/-- The key row of an ingest request, with the service that it writes to. -/
def get_ingestion_api_key (credentials : Option Bearer) (now : Int) (s : Store) :
    Except Failure ApiKey :=
  match credentials with
  | some (.text raw) =>
    if "pf_live_".toList.isPrefixOf raw || "pf_test_".toList.isPrefixOf raw then
      match s.api_keys.find? fun k => k.key_hash = hash_api_key raw with
      | none => .error INVALID_API_KEY
      | some api_key =>
        if api_key.revoked_at.isSome || is_expired api_key.expires_at now then .error INVALID_API_KEY
        else
          match s.services.find? fun v => v.id = api_key.service_id with
          | none => .error .AttributeError
          | some service =>
            if service.status = .DISABLED then
              .error (PermissionDeniedError "This service is disabled" "SERVICE_DISABLED")
            else if ApiKeyScope.EVENTS_WRITE ∈ api_key.scopes then .ok api_key
            else .error (PermissionDeniedError "API key requires the events:write scope"
              "API_KEY_SCOPE_REQUIRED")
    else .error INVALID_API_KEY
  -- An access token never starts with the prefix of an API key.
  | _ => .error INVALID_API_KEY

/-! ## Payloads and responses -/

structure UserRegister where
  email : Text
  password : Text
  full_name : Text
  password_length : 12 ≤ password.length ∧ password.length ≤ 128
  full_name_length : 1 ≤ full_name.length ∧ full_name.length ≤ 120

structure UserLogin where
  email : Text
  password : Text
  password_length : 1 ≤ password.length ∧ password.length ≤ 128

structure ChangePasswordRequest where
  current_password : Text
  new_password : Text
  current_password_length : 1 ≤ current_password.length ∧ current_password.length ≤ 128
  new_password_length : 12 ≤ new_password.length ∧ new_password.length ≤ 128

structure ResetPasswordRequest where
  token : Text
  new_password : Text
  token_length : 32 ≤ token.length ∧ token.length ≤ 512
  new_password_length : 12 ≤ new_password.length ∧ new_password.length ≤ 128

structure UserResponse where
  id : UUID
  email : Text
  full_name : Text
  is_active : Bool
  created_at : Int
  deriving DecidableEq

def User.response (u : User) : UserResponse := ⟨u.id, u.email, u.full_name, u.is_active, u.created_at⟩

/-- The access token of the body, and the refresh token of the cookie. -/
structure SessionTokens where
  access_token : AccessToken
  refresh_cookie : Text
  deriving DecidableEq

structure ForgotPasswordResponse where
  message : String
  development_reset_token : Option Text
  deriving DecidableEq

structure SessionResponse where
  id : UUID
  created_at : Int
  expires_at : Int
  last_used_at : Option Int
  ip_address : Option Text
  user_agent : Option Text
  deriving DecidableEq

def RefreshToken.response (r : RefreshToken) : SessionResponse :=
  ⟨r.id, r.created_at, r.expires_at, r.last_used_at, r.ip_address, r.user_agent⟩

/-! ## Helpers of the handlers -/

/-- The row of a new refresh session. -/
def new_refresh_token (e : Env) (user_id : UUID) : RefreshToken where
  id := e.uuid 0
  user_id := user_id
  token_hash := hash_refresh_token e.secret
  expires_at := refresh_expires_at (e.clock 2)
  revoked_at := none
  last_used_at := none
  ip_address := (request_metadata e).1
  user_agent := (request_metadata e).2
  created_at := e.now

def addRefreshToken (row : RefreshToken) (s : Store) : Store :=
  { s with refresh_tokens := s.refresh_tokens ++ [row] }

def issue_session (e : Env) (user_id : UUID) : Handler SessionTokens := do
  write (addRefreshToken (new_refresh_token e user_id))
  return ⟨create_access_token (e.clock 3) user_id (e.uuid 0), e.secret⟩

def INVALID_REFRESH_TOKEN : Failure :=
  AuthenticationError "Invalid or expired refresh token" "INVALID_OR_EXPIRED_REFRESH_TOKEN"

/-- `UPDATE refresh_tokens SET revoked_at WHERE user_id AND revoked_at IS NULL`. -/
def revoke_user_sessions (user_id : UUID) (revoked_at : Int) (s : Store) : Store :=
  { s with
    refresh_tokens := updateWhere (fun r => r.user_id = user_id && r.revoked_at.isNone)
      (fun r => { r with revoked_at := some revoked_at }) s.refresh_tokens }

/-- The write of a refresh session by its id. -/
def updateSession (session_id : UUID) (f : RefreshToken → RefreshToken) (s : Store) : Store :=
  { s with refresh_tokens := updateWhere (fun r => r.id = session_id) f s.refresh_tokens }

def revokeSessionRow (session_id : UUID) (revoked_at : Int) : Store → Store :=
  updateSession session_id fun r => { r with revoked_at := some revoked_at }

/-- The write of a rotated session: it is used and revoked at once. -/
def rotateSessionRow (session_id : UUID) (now : Int) : Store → Store :=
  updateSession session_id fun r => { r with last_used_at := some now, revoked_at := some now }

/-- The rows of `audit_password_change`: one for each organization of the
user, or one without an organization. -/
def passwordAudits (e : Env) (user_id : UUID) (s : Store) : List AuditLog :=
  let organization_ids :=
    (s.organization_members.filter fun m => m.user_id = user_id).map fun m => some m.organization_id
  let targets := if organization_ids.isEmpty then [none] else organization_ids
  targets.mapIdx fun k organization_id =>
    audit_row e (e.uuid (2 + k)) .PASSWORD_CHANGED "user".toList organization_id (some user_id)
      (some user_id) []

def audit_password_change (e : Env) (user_id : UUID) (s : Store) : Store :=
  { s with audit_logs := s.audit_logs ++ passwordAudits e user_id s }

def setPassword (user_id : UUID) (password_hash : Text) (updated_at : Int) (s : Store) : Store :=
  { s with
    users := updateWhere (fun u => u.id = user_id)
      (fun u => { u with password_hash := password_hash, updated_at := updated_at }) s.users }

/-! ## The handlers -/

/-- The columns of a new account fit. -/
def User.storable (u : User) : Bool :=
  Platform.storable_text u.email && u.email.length ≤ 320 &&
    Platform.storable_text u.full_name && u.full_name.length ≤ 120

def insertUser (user : User) (s : Store) : Except Failure Store :=
  if user.storable then
    if s.users.any fun u => u.email = user.email then .error .IntegrityError
    else .ok { s with users := s.users ++ [user] }
  else .error .DataError

def new_user (e : Env) (payload : UserRegister) : User where
  id := e.uuid 0
  email := Platform.lower payload.email
  password_hash := Platform.hash_password e.secret payload.password
  full_name := strip payload.full_name
  is_active := true
  created_at := e.now
  updated_at := e.now

def register (e : Env) (payload : UserRegister) : Handler User := do
  check_rate_limit e
  if ← attempt isIntegrityError (flush (insertUser (new_user e payload))) then do
    commit
    return new_user e payload
  else do
    rollback
    throw (ConflictError "Email is already registered" "EMAIL_ALREADY_REGISTERED")

/-- The account that a login names, when it is active and the password fits. -/
def verifyLogin (payload : UserLogin) (s : Store) : Option User :=
  (findUserByEmail s payload.email).filter fun u =>
    u.is_active && Platform.verify_password payload.password u.password_hash

def login (e : Env) (payload : UserLogin) : Handler SessionTokens := do
  check_rate_limit e
  match ← select (verifyLogin payload) with
  | none => do
    record_audit_log e (e.uuid 2) .LOGIN_FAILED "authentication".toList none none none
      [("reason".toList, .str "invalid_credentials".toList)]
    commit
    throw (AuthenticationError "Email or password is incorrect" "INVALID_CREDENTIALS")
  | some user => do
    let access_token ← issue_session e user.id
    commit
    return access_token

/-- `if raw_refresh_token`: an empty cookie is as good as none. -/
def presentCookie (raw_refresh_token : Option Text) : Option Text :=
  raw_refresh_token.filter fun t => !t.isEmpty

/-- The row that a raw refresh token names. -/
def findRefreshToken (raw_refresh_token : Text) (s : Store) : Option RefreshToken :=
  s.refresh_tokens.find? fun r => r.token_hash = hash_refresh_token raw_refresh_token

/-- The user of a row. The foreign keys keep it there: without it, reading an
attribute of `None` would raise. -/
def tokenUser (user_id : UUID) (s : Store) : Except Failure User :=
  match findUser s user_id with
  | some user => .ok user
  | none => .error .AttributeError

def refresh_access_token (e : Env) (raw_refresh_token : Option Text) : Handler SessionTokens := do
  check_rate_limit e
  match presentCookie raw_refresh_token with
  | none => throw INVALID_REFRESH_TOKEN
  | some raw => do
    let now := e.clock 1
    match ← select (findRefreshToken raw) with
    | none => do
      rollback
      throw INVALID_REFRESH_TOKEN
    | some stored_token =>
      if stored_token.revoked_at.isSome then do
        write (revoke_user_sessions stored_token.user_id now)
        commit
        throw INVALID_REFRESH_TOKEN
      else do
        let user ← ask (tokenUser stored_token.user_id)
        if has_expired stored_token.expires_at now || !user.is_active then do
          write (revokeSessionRow stored_token.id now)
          commit
          throw INVALID_REFRESH_TOKEN
        else do
          write (rotateSessionRow stored_token.id now)
          let access_token ← issue_session e user.id
          commit
          return access_token

def logout (e : Env) (raw_refresh_token : Option Text) : Handler Unit :=
  match presentCookie raw_refresh_token with
  | none => pure ()
  | some raw => do
    match ← select (findRefreshToken raw) with
    | none => rollback
    | some stored_token =>
      if stored_token.revoked_at.isNone then do
        write (revokeSessionRow stored_token.id (e.clock 1))
        commit
      else rollback

def change_password (e : Env) (credentials : Option Bearer) (payload : ChangePasswordRequest) :
    Handler Unit := do
  let current_user ← ask (get_current_user credentials e.now)
  if !Platform.verify_password payload.current_password current_user.password_hash then
    throw (AuthenticationError "Current password is incorrect" "CURRENT_PASSWORD_INCORRECT")
  else if Platform.verify_password payload.new_password current_user.password_hash then
    throw (ConflictError "New password must be different from the current password"
      "PASSWORD_UNCHANGED")
  else do
    write (setPassword current_user.id (Platform.hash_password e.secret payload.new_password) e.now)
    write (revoke_user_sessions current_user.id (e.clock 1))
    write (audit_password_change e current_user.id)
    commit

def new_reset_token (e : Env) (user_id : UUID) : PasswordResetToken where
  id := e.uuid 0
  user_id := user_id
  token_hash := hash_password_reset_token e.secret
  expires_at := reset_expires_at (e.clock 2)
  used_at := none
  created_at := e.now

/-- The earlier tokens of the user are used up, and a new one is added. -/
def replaceResetTokens (user_id : UUID) (now : Int) (row : PasswordResetToken) (s : Store) : Store :=
  { s with
    password_reset_tokens := updateWhere (fun r => r.user_id = user_id && r.used_at.isNone)
      (fun r => { r with used_at := some now }) s.password_reset_tokens ++ [row] }

def GENERIC_MESSAGE : String :=
  "If an active account exists, password reset instructions have been created"

def forgot_password (e : Env) (email : Text) : Handler ForgotPasswordResponse := do
  match ← select (fun s => (findUserByEmail s email).filter fun u => u.is_active) with
  | none => return ⟨GENERIC_MESSAGE, none⟩
  | some user => do
    write (replaceResetTokens user.id (e.clock 1) (new_reset_token e user.id))
    commit
    let environment := Platform.settings.environment
    return ⟨GENERIC_MESSAGE,
      if environment = .DEVELOPMENT ∨ environment = .TEST then some e.secret else none⟩

def INVALID_RESET_TOKEN : Failure :=
  AuthenticationError "Invalid or expired password reset token"
    "INVALID_OR_EXPIRED_PASSWORD_RESET_TOKEN"

/-- The reset token that a raw text names, when it can still be used: unused,
unexpired and of an active user. -/
def usableResetToken (raw : Text) (now : Int) (s : Store) : Except Failure PasswordResetToken :=
  match s.password_reset_tokens.find? fun r => r.token_hash = hash_password_reset_token raw with
  | none => .error INVALID_RESET_TOKEN
  | some stored_token =>
    if stored_token.used_at.isSome || has_expired stored_token.expires_at now then
      .error INVALID_RESET_TOKEN
    else
      match tokenUser stored_token.user_id s with
      | .error e => .error e
      | .ok user => if user.is_active then .ok stored_token else .error INVALID_RESET_TOKEN

def useResetToken (token_id : UUID) (now : Int) (s : Store) : Store :=
  { s with
    password_reset_tokens := updateWhere (fun r => r.id = token_id)
      (fun r => { r with used_at := some now }) s.password_reset_tokens }

def reset_password (e : Env) (payload : ResetPasswordRequest) : Handler Unit := do
  let stored_token ← ask (usableResetToken payload.token (e.clock 1))
  write (setPassword stored_token.user_id (Platform.hash_password e.secret payload.new_password) e.now)
  write (useResetToken stored_token.id (e.clock 1))
  write (revoke_user_sessions stored_token.user_id (e.clock 1))
  write (audit_password_change e stored_token.user_id)
  commit

def logout_all (e : Env) (credentials : Option Bearer) : Handler Unit := do
  let current_user ← ask (get_current_user credentials e.now)
  write (revoke_user_sessions current_user.id (e.clock 1))
  commit

/-- `ORDER BY key DESC`. -/
def orderDesc {α : Type} (key : α → Int) (rows : List α) : List α :=
  rows.insertionSort fun a b => key b ≤ key a

def openSessions (user_id : UUID) (now : Int) (s : Store) : List RefreshToken :=
  s.refresh_tokens.filter fun r =>
    r.user_id = user_id && r.revoked_at.isNone && decide (now < r.expires_at)

def list_sessions (e : Env) (credentials : Option Bearer) : Handler (List RefreshToken) := do
  let current_user ← ask (get_current_user credentials e.now)
  select fun s => orderDesc RefreshToken.created_at (openSessions current_user.id (e.clock 1) s)

def revoke_session (e : Env) (credentials : Option Bearer) (session_id : UUID) : Handler Unit := do
  let current_user ← ask (get_current_user credentials e.now)
  match ← select (fun s => findSession s session_id current_user.id) with
  | none => throw (ResourceNotFoundError "Session not found" "SESSION_NOT_FOUND")
  | some stored_token =>
    if stored_token.revoked_at.isNone then do
      write (revokeSessionRow stored_token.id (e.clock 1))
      commit
    else pure ()

def get_me (e : Env) (credentials : Option Bearer) : Handler User :=
  ask (get_current_user credentials e.now)

end pulseforge

-- The requests that open and that revoke refresh sessions, as transactions
-- under READ COMMITTED: one step for each statement that reads or waits. The
-- revocation of all sessions of a user is one UPDATE: it meets the rows that
-- were committed when it began, waits for each, and looks at it once more.
import PulseForge.Lib.Locks
import PulseForge.AuthOutcomes

open txn table interleave

namespace pulseforge

variable [Platform]

/-! ## Jobs, locks and stages -/

inductive AuthCall
  | login (payload : UserLogin)
  | refresh (raw_refresh_token : Option Text)
  | logout_all (credentials : Option Bearer)
  | change_password (credentials : Option Bearer) (payload : ChangePasswordRequest)
  | reset_password (payload : ResetPasswordRequest)

/-- A request with the draws and the clock of its process, and the order in
which its UPDATE meets the rows of the table. -/
structure AuthJob where
  env : Env
  call : AuthCall
  scan : List RefreshToken → List RefreshToken
  scan_perm : ∀ rows, (scan rows).Perm rows

/-- The rows that a transaction can wait for, by their unique token hash. -/
inductive AuthLock
  | session (token_hash : Text)
  | reset_token (token_hash : Text)
  deriving DecidableEq

/-- What a transaction does next. From `issuing` and `expiring` on its check
is made; from `sweeping` on its UPDATE has begun. -/
inductive AuthStage
  | start
  | refusing
  | issuing (user_id : UUID) (stored_token : Option RefreshToken)
  | expiring (stored_token : RefreshToken)
  | revoking (user_id : UUID) (reset_token : Option PasswordResetToken)
  | sweeping (user_id : UUID) (reset_token : Option PasswordResetToken)
      (todo done : List RefreshToken)
  | ended (reply : Except Failure Body)

/-- The transaction has checked the credentials of the user, and has not
committed the new session yet. -/
def AuthStage.issues (user_id : UUID) : AuthStage → Bool
  | .issuing u _ => u = user_id
  | _ => false

/-- The UPDATE over the sessions of the user has begun, and is not committed yet. -/
def AuthStage.sweeps (user_id : UUID) : AuthStage → Bool
  | .sweeping u _ _ _ => u = user_id
  | _ => false

/-- The UPDATE has met all its rows; the next step commits it. -/
def AuthStage.swept (user_id : UUID) : AuthStage → Bool
  | .sweeping u _ [] _ => u = user_id
  | _ => false

def AuthStage.finished : AuthStage → Bool
  | .ended _ => true
  | _ => false

/-! ## The statements -/

def INVALID_CREDENTIALS : Failure :=
  AuthenticationError "Email or password is incorrect" "INVALID_CREDENTIALS"

/-- The audit row of a login that failed. -/
def failed_login_audit (e : Env) : AuditLog :=
  audit_row e (e.uuid 2) .LOGIN_FAILED "authentication".toList none none none
    [("reason".toList, .str "invalid_credentials".toList)]

def openRow (user_id : UUID) (r : RefreshToken) : Bool := r.user_id = user_id && r.revoked_at.isNone

/-- The rows that an UPDATE over the sessions of the user meets. -/
def openRows (user_id : UUID) (s : Store) : List RefreshToken :=
  s.refresh_tokens.filter (openRow user_id)

/-- The second look of an UPDATE at a row, once nobody else writes it. -/
def stillOpen (user_id : UUID) (row : RefreshToken) (s : Store) : Bool :=
  s.refresh_tokens.any fun r => r.id = row.id && openRow user_id r

/-- The write of an UPDATE to the rows that it found. -/
def revokeRows (rows : List RefreshToken) (revoked_at : Int) (s : Store) : Store :=
  { s with
    refresh_tokens := updateWhere (fun r => rows.any fun q => q.id = r.id)
      (fun r => { r with revoked_at := some revoked_at }) s.refresh_tokens }

/-- What a request writes besides the revocation. The session flushes only
when it commits, so these writes come after the UPDATE. -/
def AuthCall.writes (call : AuthCall) (e : Env) (user_id : UUID)
    (reset_token : Option PasswordResetToken) (s : Store) : Store :=
  match call, reset_token with
  | .change_password _ payload, _ =>
    audit_password_change e user_id
      (setPassword user_id (Platform.hash_password e.secret payload.new_password) e.now s)
  | .reset_password payload, some stored_token =>
    audit_password_change e user_id
      (useResetToken stored_token.id (e.clock 1)
        (setPassword user_id (Platform.hash_password e.secret payload.new_password) e.now s))
  | _, _ => s

/-- A replayed refresh token is refused after the revocation. -/
def AuthCall.bulkReply : AuthCall → Except Failure Body
  | .refresh _ => .error INVALID_REFRESH_TOKEN
  | _ => .ok .no_content

def login_start (e : Env) (payload : UserLogin) (s : Store) : AuthStage :=
  match e.retry_after with
  | some seconds => .ended (.error (RateLimitError seconds))
  | none =>
    match verifyLogin payload s with
    | none => .refusing
    | some user => .issuing user.id none

def refresh_start (e : Env) (raw_refresh_token : Option Text) (s : Store) : AuthStage :=
  match e.retry_after with
  | some seconds => .ended (.error (RateLimitError seconds))
  | none =>
    match presentCookie raw_refresh_token with
    | none => .ended (.error INVALID_REFRESH_TOKEN)
    | some raw =>
      match findRefreshToken raw s with
      | none => .ended (.error INVALID_REFRESH_TOKEN)
      | some stored_token =>
        if stored_token.revoked_at.isSome then .revoking stored_token.user_id none
        else
          match tokenUser stored_token.user_id s with
          | .error failure => .ended (.error failure)
          | .ok user =>
            if has_expired stored_token.expires_at (e.clock 1) || !user.is_active then
              .expiring stored_token
            else .issuing user.id (some stored_token)

def logout_all_start (e : Env) (credentials : Option Bearer) (s : Store) : AuthStage :=
  match get_current_user credentials e.now s with
  | .error failure => .ended (.error failure)
  | .ok current_user => .revoking current_user.id none

def change_password_start (e : Env) (credentials : Option Bearer) (payload : ChangePasswordRequest)
    (s : Store) : AuthStage :=
  match get_current_user credentials e.now s with
  | .error failure => .ended (.error failure)
  | .ok current_user =>
    if !Platform.verify_password payload.current_password current_user.password_hash then
      .ended (.error (AuthenticationError "Current password is incorrect"
        "CURRENT_PASSWORD_INCORRECT"))
    else if Platform.verify_password payload.new_password current_user.password_hash then
      .ended (.error (ConflictError "New password must be different from the current password"
        "PASSWORD_UNCHANGED"))
    else .revoking current_user.id none

def reset_password_start (e : Env) (payload : ResetPasswordRequest) (s : Store) : AuthStage :=
  match usableResetToken payload.token (e.clock 1) s with
  | .error failure => .ended (.error failure)
  | .ok stored_token => .revoking stored_token.user_id (some stored_token)

/-- The first statement of a request: the check of its credentials. -/
def AuthJob.check (job : AuthJob) (s : Store) : AuthStage :=
  match job.call with
  | .login payload => login_start job.env payload s
  | .refresh raw_refresh_token => refresh_start job.env raw_refresh_token s
  | .logout_all credentials => logout_all_start job.env credentials s
  | .change_password credentials payload => change_password_start job.env credentials payload s
  | .reset_password payload => reset_password_start job.env payload s

/-- The commit of a new session, and of the row that it replaces. -/
def commitSession (e : Env) (user_id : UUID) (stored_token : Option RefreshToken) (s : Store) :
    Store :=
  match stored_token with
  | none => addRefreshToken (new_refresh_token e user_id) s
  | some row =>
    addRefreshToken (new_refresh_token e user_id) (rotateSessionRow row.id (e.clock 1) s)

def AuthJob.next (job : AuthJob) (s : Store) : AuthStage → Option (Store × AuthStage)
  | .start => some (s, job.check s)
  | .refusing =>
    some (addAudit (failed_login_audit job.env) s, .ended (.error INVALID_CREDENTIALS))
  | .issuing user_id stored_token =>
    some (commitSession job.env user_id stored_token s,
      .ended (.ok (.tokens (sessionTokens job.env user_id))))
  | .expiring stored_token =>
    some (revokeSessionRow stored_token.id (job.env.clock 1) s,
      .ended (.error INVALID_REFRESH_TOKEN))
  | .revoking user_id reset_token =>
    some (s, .sweeping user_id reset_token (job.scan (openRows user_id s)) [])
  | .sweeping user_id reset_token (row :: todo) done =>
    if stillOpen user_id row s then some (s, .sweeping user_id reset_token todo (row :: done))
    else some (s, .sweeping user_id reset_token todo done)
  | .sweeping user_id reset_token [] done =>
    some (job.call.writes job.env user_id reset_token (revokeRows done (job.env.clock 1) s),
      .ended job.call.bulkReply)
  | .ended _ => none

/-! ## Locks -/

/-- The row that the request reads FOR UPDATE. -/
def AuthJob.own (job : AuthJob) : Option AuthLock :=
  match job.call with
  | .refresh raw_refresh_token =>
    if job.env.retry_after.isSome then none
    else (presentCookie raw_refresh_token).map fun raw => .session (hash_refresh_token raw)
  | .reset_password payload => some (.reset_token (hash_password_reset_token payload.token))
  | _ => none

def AuthJob.wants (job : AuthJob) : AuthStage → Option AuthLock
  | .start => job.own
  | .sweeping _ _ (row :: _) _ => some (.session row.token_hash)
  | _ => none

/-- The locks that last until the commit. -/
def AuthJob.holds (job : AuthJob) : AuthStage → List AuthLock
  | .start | .refusing | .ended _ => []
  | .issuing _ _ | .expiring _ | .revoking _ _ => job.own.toList
  | .sweeping _ _ _ done => job.own.toList ++ done.map fun r => .session r.token_hash

/-- Where a check leads to: before the commit, and before any UPDATE. -/
def AuthStage.checked : AuthStage → Bool
  | .start | .sweeping .. => false
  | _ => true

theorem login_checked (e : Env) (payload : UserLogin) (s : Store) :
    (login_start e payload s).checked = true := by
  unfold login_start
  split
  · rfl
  · split <;> rfl

theorem refresh_checked (e : Env) (raw_refresh_token : Option Text) (s : Store) :
    (refresh_start e raw_refresh_token s).checked = true := by
  unfold refresh_start
  split
  · rfl
  · split
    · rfl
    · split
      · rfl
      · split
        · rfl
        · split
          · rfl
          · split <;> rfl

theorem change_password_checked (e : Env) (credentials : Option Bearer)
    (payload : ChangePasswordRequest) (s : Store) :
    (change_password_start e credentials payload s).checked = true := by
  unfold change_password_start
  split
  · rfl
  · split
    · rfl
    · split <;> rfl

theorem check_checked (job : AuthJob) (s : Store) : (job.check s).checked = true := by
  unfold AuthJob.check
  split
  · exact login_checked ..
  · exact refresh_checked ..
  · unfold logout_all_start
    split <;> rfl
  · exact change_password_checked ..
  · unfold reset_password_start
    split <;> rfl

theorem holds_of_checked {job : AuthJob} {t : AuthStage} (h : t.checked = true) {l : AuthLock}
    (hl : l ∈ job.holds t) : job.own = some l := by
  cases t with
  | start => cases h
  | sweeping => cases h
  | refusing => cases hl
  | ended => cases hl
  | issuing => exact Option.mem_toList.mp hl
  | expiring => exact Option.mem_toList.mp hl
  | revoking => exact Option.mem_toList.mp hl

/-- A transaction takes the lock that it waited for, and no other. -/
theorem AuthJob.acquires (job : AuthJob) (s : Store) (t : AuthStage) (p : Store × AuthStage)
    (h : job.next s t = some p) : ∀ l ∈ job.holds p.2, l ∈ job.holds t ∨ job.wants t = some l := by
  intro l hl
  cases t with
  | start =>
    cases h
    exact Or.inr (holds_of_checked (check_checked job s) hl)
  | refusing =>
    cases h
    cases hl
  | issuing user_id stored_token =>
    cases h
    cases hl
  | expiring stored_token =>
    cases h
    cases hl
  | revoking user_id reset_token =>
    cases h
    left
    simpa [AuthJob.holds] using hl
  | sweeping user_id reset_token todo done =>
    cases todo with
    | nil =>
      cases h
      cases hl
    | cons row todo =>
      simp only [AuthJob.next] at h
      split at h
      · cases h
        simp only [AuthJob.holds, AuthJob.wants, List.map_cons, List.mem_append, List.mem_cons,
          Option.some.injEq] at hl ⊢
        tauto
      · cases h
        exact Or.inl hl
  | ended reply => cases h

/-! ## The machine -/

def auth_transaction (job : AuthJob) : Process Store AuthStage AuthLock where
  next := job.next
  wants := job.wants
  holds := job.holds
  acquires := job.acquires

/-- The transactions at their start, over a committed store. -/
def auth_begin {ι : Type} (s₀ : Store) : State ι Store AuthStage := ⟨s₀, fun _ => .start⟩

/-- The turn of one transaction. -/
def auth_turn {ι : Type} [Fintype ι] [DecidableEq ι] (jobs : ι → AuthJob) :
    State ι Store AuthStage → ι → State ι Store AuthStage :=
  step (lockStep fun i => auth_transaction (jobs i))

/-! ## Alone -/

/-- The request that the transaction is made of. -/
def AuthCall.request : AuthCall → AuthRequest
  | .login payload => .login payload
  | .refresh raw_refresh_token => .refresh raw_refresh_token
  | .logout_all credentials => .logout_all credentials
  | .change_password credentials payload => .change_password credentials payload
  | .reset_password payload => .reset_password payload

/-- Nobody else writes the rows, so the UPDATE finds all that it meets. -/
theorem sweep_reaches (job : AuthJob) {s : Store} {user_id : UUID}
    (reset_token : Option PasswordResetToken) (todo done : List RefreshToken)
    (h : ∀ row ∈ todo, stillOpen user_id row s = true) :
    ∃ rows, (∀ r, r ∈ rows ↔ r ∈ todo ∨ r ∈ done) ∧
      Reaches job.next s (.sweeping user_id reset_token todo done) s
        (.sweeping user_id reset_token [] rows) := by
  refine Reaches.sweep (fun row todo done hrow => ?_) todo done h
  simp only [AuthJob.next, hrow, if_true]

omit [Platform] in
theorem mem_openRows {user_id : UUID} {s : Store} {r : RefreshToken} :
    r ∈ openRows user_id s ↔ r ∈ s.refresh_tokens ∧ r.user_id = user_id ∧ r.revoked_at = none := by
  simp [openRows, openRow]

omit [Platform] in
/-- With the rows that are open, the write of the UPDATE is the revocation. -/
theorem revokeRows_eq {s : Store} (hids : UniqueOn RefreshToken.id s.refresh_tokens) {user_id : UUID}
    {rows : List RefreshToken} (h : ∀ r, r ∈ rows ↔ r ∈ openRows user_id s) (now : Int) :
    revokeRows rows now s = revoke_user_sessions user_id now s := by
  unfold revokeRows revoke_user_sessions
  rw [updateWhere_found hids h]
  rfl

section
variable (job : AuthJob) {s : Store} (hids : UniqueOn RefreshToken.id s.refresh_tokens)
include hids

theorem bulk_reaches (user_id : UUID) (reset_token : Option PasswordResetToken) :
    Reaches job.next s (.revoking user_id reset_token)
      (job.call.writes job.env user_id reset_token
        (revoke_user_sessions user_id (job.env.clock 1) s))
      (.ended job.call.bulkReply) := by
  have hscan : ∀ row, row ∈ job.scan (openRows user_id s) ↔ row ∈ openRows user_id s :=
    fun row => (job.scan_perm _).mem_iff
  have hopen : ∀ row ∈ job.scan (openRows user_id s), stillOpen user_id row s = true := by
    intro row hrow
    obtain ⟨hmem, hopen⟩ := List.mem_filter.mp ((hscan row).mp hrow)
    exact List.any_eq_true.mpr ⟨row, hmem, by simp [hopen]⟩
  obtain ⟨rows, hrows, hsweep⟩ := sweep_reaches job reset_token _ [] hopen
  have hfound : ∀ r, r ∈ rows ↔ r ∈ openRows user_id s := by
    intro r
    rw [hrows r, hscan r]
    simp
  refine .step rfl (hsweep.trans (.step ?_ (.refl _ _)))
  rw [← revokeRows_eq hids hfound]
  rfl

omit hids in
theorem login_reaches {payload : UserLogin} (hcall : job.call = .login payload) :
    Ends (answer .tokens (login job.env payload)) ⟨s, s⟩ fun r s' =>
      Reaches job.next s .start s'.committed (.ended r) := by
  have hstart : job.next s .start = some (s, login_start job.env payload s) := by
    simp only [AuthJob.next, AuthJob.check, hcall]
  unfold login_start at hstart
  unfold login issue_session record_audit_log
  simp only [ends_answer, ends_bind, ends_check_rate_limit]
  cases hl : job.env.retry_after with
  | some seconds =>
    simp only [hl] at hstart
    exact .step hstart (.refl _ _)
  | none =>
    simp only [hl, ends_select] at hstart ⊢
    cases hu : verifyLogin payload s with
    | none =>
      simp only [hu] at hstart
      exact .step hstart (.step rfl (.refl _ _))
    | some user =>
      simp only [hu] at hstart
      exact .step hstart (.step rfl (.refl _ _))

theorem refresh_reaches {raw : Option Text} (hcall : job.call = .refresh raw) :
    Ends (answer .tokens (refresh_access_token job.env raw)) ⟨s, s⟩ fun r s' =>
      Reaches job.next s .start s'.committed (.ended r) := by
  have hstart : job.next s .start = some (s, refresh_start job.env raw s) := by
    simp only [AuthJob.next, AuthJob.check, hcall]
  unfold refresh_start at hstart
  unfold refresh_access_token issue_session
  simp only [ends_answer, ends_bind, ends_check_rate_limit]
  cases hl : job.env.retry_after with
  | some seconds =>
    simp only [hl] at hstart
    exact .step hstart (.refl _ _)
  | none =>
    simp only [hl] at hstart ⊢
    cases hraw : presentCookie raw with
    | none =>
      simp only [hraw] at hstart
      exact .step hstart (.refl _ _)
    | some raw' =>
      simp only [hraw, ends_bind, ends_select] at hstart ⊢
      cases hr : findRefreshToken raw' s with
      | none =>
        simp only [hr] at hstart
        exact .step hstart (.refl _ _)
      | some row =>
        simp only [hr] at hstart ⊢
        by_cases hrevoked : row.revoked_at.isSome = true
        · simp only [hrevoked, if_true] at hstart ⊢
          have hbulk := bulk_reaches job hids row.user_id none
          simp only [AuthCall.writes, AuthCall.bulkReply, hcall] at hbulk
          exact .step hstart hbulk
        · simp only [hrevoked, Bool.false_eq_true, if_false, ends_bind, ends_ask] at hstart ⊢
          cases hu : tokenUser row.user_id s with
          | error failure =>
            simp only [hu] at hstart
            exact .step hstart (.refl _ _)
          | ok user =>
            simp only [hu] at hstart ⊢
            by_cases hend : (has_expired row.expires_at (job.env.clock 1) || !user.is_active) = true
            · simp only [hend, if_true] at hstart ⊢
              exact .step hstart (.step rfl (.refl _ _))
            · simp only [hend, Bool.false_eq_true, if_false] at hstart ⊢
              exact .step hstart (.step rfl (.refl _ _))

theorem logout_all_reaches {credentials : Option Bearer} (hcall : job.call = .logout_all credentials) :
    Ends (answer (fun _ => .no_content) (logout_all job.env credentials)) ⟨s, s⟩ fun r s' =>
      Reaches job.next s .start s'.committed (.ended r) := by
  have hstart : job.next s .start = some (s, logout_all_start job.env credentials s) := by
    simp only [AuthJob.next, AuthJob.check, hcall]
  unfold logout_all_start at hstart
  unfold logout_all
  simp only [ends_answer, ends_bind, ends_ask]
  cases hu : get_current_user credentials job.env.now s with
  | error failure =>
    simp only [hu] at hstart
    exact .step hstart (.refl _ _)
  | ok user =>
    simp only [hu] at hstart
    have hbulk := bulk_reaches job hids user.id none
    simp only [AuthCall.writes, AuthCall.bulkReply, hcall] at hbulk
    exact .step hstart hbulk

theorem change_password_reaches {credentials : Option Bearer} {payload : ChangePasswordRequest}
    (hcall : job.call = .change_password credentials payload) :
    Ends (answer (fun _ => .no_content) (change_password job.env credentials payload)) ⟨s, s⟩
      fun r s' => Reaches job.next s .start s'.committed (.ended r) := by
  have hstart : job.next s .start = some (s, change_password_start job.env credentials payload s) := by
    simp only [AuthJob.next, AuthJob.check, hcall]
  unfold change_password_start at hstart
  unfold change_password
  simp only [ends_answer, ends_bind, ends_ask]
  cases hu : get_current_user credentials job.env.now s with
  | error failure =>
    simp only [hu] at hstart
    exact .step hstart (.refl _ _)
  | ok user =>
    simp only [hu] at hstart ⊢
    by_cases hcurrent : (!Platform.verify_password payload.current_password user.password_hash) = true
    · simp only [hcurrent, if_true] at hstart ⊢
      exact .step hstart (.refl _ _)
    · simp only [hcurrent, Bool.false_eq_true, if_false] at hstart ⊢
      by_cases hnew : Platform.verify_password payload.new_password user.password_hash = true
      · simp only [hnew, if_true] at hstart ⊢
        exact .step hstart (.refl _ _)
      · simp only [hnew, Bool.false_eq_true, if_false] at hstart ⊢
        have hbulk := bulk_reaches job hids user.id none
        simp only [AuthCall.writes, AuthCall.bulkReply, hcall] at hbulk
        exact .step hstart hbulk

theorem reset_password_reaches {payload : ResetPasswordRequest}
    (hcall : job.call = .reset_password payload) :
    Ends (answer (fun _ => .no_content) (reset_password job.env payload)) ⟨s, s⟩ fun r s' =>
      Reaches job.next s .start s'.committed (.ended r) := by
  have hstart : job.next s .start = some (s, reset_password_start job.env payload s) := by
    simp only [AuthJob.next, AuthJob.check, hcall]
  unfold reset_password_start at hstart
  unfold reset_password
  simp only [ends_answer, ends_bind, ends_ask]
  cases hr : usableResetToken payload.token (job.env.clock 1) s with
  | error failure =>
    simp only [hr] at hstart
    exact .step hstart (.refl _ _)
  | ok row =>
    simp only [hr] at hstart ⊢
    have hbulk := bulk_reaches job hids row.user_id (some row)
    simp only [AuthCall.writes, AuthCall.bulkReply, hcall] at hbulk
    exact .step hstart hbulk

end

theorem auth_reaches (job : AuthJob) {s : Store} (hids : UniqueOn RefreshToken.id s.refresh_tokens) :
    Ends (auth_handler job.env job.call.request) ⟨s, s⟩ fun r s' =>
      Reaches job.next s .start s'.committed (.ended r) := by
  cases hcall : job.call with
  | login payload => exact login_reaches job hcall
  | refresh raw => exact refresh_reaches job hids hcall
  | logout_all credentials => exact logout_all_reaches job hids hcall
  | change_password credentials payload => exact change_password_reaches job hids hcall
  | reset_password payload => exact reset_password_reaches job hids hcall

/-- A transaction that runs alone leaves the store and gives the answer of its handler. -/
theorem alone_is_its_request (job : AuthJob) {s : Store}
    (hids : UniqueOn RefreshToken.id s.refresh_tokens) :
    ∃ n, run.after (auth_turn fun _ : Unit => job) (auth_begin s) (List.replicate n ()) =
      ⟨(handle job.env (.auth job.call.request) s).2,
        fun _ => .ended (handle job.env (.auth job.call.request) s).1⟩ := by
  apply reaches_turns
  exact ends_runRequest (Q := fun r s' => Reaches job.next s .start s' (.ended r)) (auth_reaches job hids)

end pulseforge

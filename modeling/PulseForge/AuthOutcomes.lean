-- What each request under /auth answers and leaves in the database. One list
-- of outcomes, with what the handler had checked before each of them.
import PulseForge.Api

open txn table

namespace pulseforge

variable [Platform]

/-- The two tokens of a new session. -/
def sessionTokens (e : Env) (user_id : UUID) : SessionTokens :=
  ⟨create_access_token (e.clock 3) user_id (e.uuid 0), e.secret⟩

/-- The writes of a password change of a user, in the order of the handler. -/
def passwordChanged (e : Env) (user_id : UUID) (password : Text) (s : Store) : Store :=
  audit_password_change e user_id
    (revoke_user_sessions user_id (e.clock 1)
      (setPassword user_id (Platform.hash_password e.secret password) e.now s))

/-- The writes of a password reset with the token of id `token_id`. -/
def passwordReset (e : Env) (user_id token_id : UUID) (password : Text) (s : Store) : Store :=
  audit_password_change e user_id
    (revoke_user_sessions user_id (e.clock 1)
      (useResetToken token_id (e.clock 1)
        (setPassword user_id (Platform.hash_password e.secret password) e.now s)))

/-- The account that a forgotten password names. -/
def activeUserByEmail (email : Text) (s : Store) : Option User :=
  (findUserByEmail s email).filter fun u => u.is_active

/-- The answer of a request, and the store that it leaves, with the checks
that it passed. -/
inductive AuthOutcome (e : Env) (s : Store) :
    AuthRequest → Except Failure Body → Store → Prop
  | registered (payload : UserRegister)
      (hnew : ∀ u ∈ s.users, u.email ≠ Platform.lower payload.email) :
      AuthOutcome e s (.register payload) (.ok (.user (new_user e payload).response))
        { s with users := s.users ++ [new_user e payload] }
  | register_refused (payload : UserRegister) (error : Failure) :
      AuthOutcome e s (.register payload) (.error error) s
  | login_limited (payload : UserLogin) (error : Failure) :
      AuthOutcome e s (.login payload) (.error error) s
  | login_failed (payload : UserLogin) (error : Failure) (row : AuditLog)
      (hrow : row.organization_id = none) (haction : row.action = .LOGIN_FAILED) :
      AuthOutcome e s (.login payload) (.error error) (addAudit row s)
  | signed_in (payload : UserLogin) (user : User) (hu : verifyLogin payload s = some user) :
      AuthOutcome e s (.login payload) (.ok (.tokens (sessionTokens e user.id)))
        (addRefreshToken (new_refresh_token e user.id) s)
  | refresh_limited (raw : Option Text) (error : Failure) (hlimit : e.retry_after.isSome = true) :
      AuthOutcome e s (.refresh raw) (.error error) s
  | refresh_absent (raw : Option Text) (error : Failure) (hr : presentCookie raw = none) :
      AuthOutcome e s (.refresh raw) (.error error) s
  | refresh_unknown (raw : Text) (error : Failure) (hr : findRefreshToken raw s = none) :
      AuthOutcome e s (.refresh (some raw)) (.error error) s
  | refresh_replayed (raw : Text) (error : Failure) (row : RefreshToken)
      (hlimit : e.retry_after = none) (hr : findRefreshToken raw s = some row)
      (hrevoked : row.revoked_at.isSome = true) :
      AuthOutcome e s (.refresh (some raw)) (.error error)
        (revoke_user_sessions row.user_id (e.clock 1) s)
  | refresh_orphan (raw : Text) (error : Failure) (row : RefreshToken)
      (hr : findRefreshToken raw s = some row) (hu : findUser s row.user_id = none) :
      AuthOutcome e s (.refresh (some raw)) (.error error) s
  | refresh_ended (raw : Text) (error : Failure) (row : RefreshToken) (user : User)
      (hlimit : e.retry_after = none) (hr : findRefreshToken raw s = some row)
      (hopen : row.revoked_at = none) (hu : findUser s row.user_id = some user)
      (hend : row.expires_at ≤ e.clock 1 ∨ user.is_active = false) :
      AuthOutcome e s (.refresh (some raw)) (.error error) (revokeSessionRow row.id (e.clock 1) s)
  | refreshed (raw : Text) (row : RefreshToken) (user : User)
      (hlimit : e.retry_after = none) (hr : findRefreshToken raw s = some row)
      (hopen : row.revoked_at = none) (hu : findUser s row.user_id = some user)
      (hlive : e.clock 1 < row.expires_at) (hactive : user.is_active = true) :
      AuthOutcome e s (.refresh (some raw)) (.ok (.tokens (sessionTokens e user.id)))
        (addRefreshToken (new_refresh_token e user.id) (rotateSessionRow row.id (e.clock 1) s))
  | logout_nothing (raw : Option Text)
      (hr : ∀ t, presentCookie raw = some t → ∀ row, findRefreshToken t s = some row →
        row.revoked_at.isSome = true) :
      AuthOutcome e s (.logout raw) (.ok .no_content) s
  | logged_out (raw : Text) (row : RefreshToken) (hr : findRefreshToken raw s = some row)
      (hopen : row.revoked_at = none) :
      AuthOutcome e s (.logout (some raw)) (.ok .no_content) (revokeSessionRow row.id (e.clock 1) s)
  | password_refused (credentials : Option Bearer) (payload : ChangePasswordRequest)
      (error : Failure) : AuthOutcome e s (.change_password credentials payload) (.error error) s
  | password_changed (credentials : Option Bearer) (payload : ChangePasswordRequest) (user : User)
      (hu : get_current_user credentials e.now s = .ok user) :
      AuthOutcome e s (.change_password credentials payload) (.ok .no_content)
        (passwordChanged e user.id payload.new_password s)
  | forgot_nothing (email : Text) (response : ForgotPasswordResponse) :
      AuthOutcome e s (.forgot_password email) (.ok (.forgot response)) s
  | forgot (email : Text) (user : User) (response : ForgotPasswordResponse)
      (hu : activeUserByEmail email s = some user) :
      AuthOutcome e s (.forgot_password email) (.ok (.forgot response))
        (replaceResetTokens user.id (e.clock 1) (new_reset_token e user.id) s)
  | reset_refused (payload : ResetPasswordRequest) (error : Failure) :
      AuthOutcome e s (.reset_password payload) (.error error) s
  | password_reset (payload : ResetPasswordRequest) (row : PasswordResetToken)
      (hr : usableResetToken payload.token (e.clock 1) s = .ok row) :
      AuthOutcome e s (.reset_password payload) (.ok .no_content)
        (passwordReset e row.user_id row.id payload.new_password s)
  | logout_all_refused (credentials : Option Bearer) (error : Failure) :
      AuthOutcome e s (.logout_all credentials) (.error error) s
  | logged_out_all (credentials : Option Bearer) (user : User)
      (hu : get_current_user credentials e.now s = .ok user) :
      AuthOutcome e s (.logout_all credentials) (.ok .no_content)
        (revoke_user_sessions user.id (e.clock 1) s)
  | list_refused (credentials : Option Bearer) (error : Failure) :
      AuthOutcome e s (.list_sessions credentials) (.error error) s
  | listed (credentials : Option Bearer) (user : User)
      (hu : get_current_user credentials e.now s = .ok user) :
      AuthOutcome e s (.list_sessions credentials)
        (.ok (.sessions ((orderDesc RefreshToken.created_at
          (openSessions user.id (e.clock 1) s)).map RefreshToken.response))) s
  | revoke_refused (credentials : Option Bearer) (session_id : UUID) (error : Failure) :
      AuthOutcome e s (.revoke_session credentials session_id) (.error error) s
  | revoke_nothing (credentials : Option Bearer) (session_id : UUID) (user : User)
      (row : RefreshToken) (hu : get_current_user credentials e.now s = .ok user)
      (hr : findSession s session_id user.id = some row) (hrevoked : row.revoked_at.isSome = true) :
      AuthOutcome e s (.revoke_session credentials session_id) (.ok .no_content) s
  | revoked (credentials : Option Bearer) (session_id : UUID) (user : User) (row : RefreshToken)
      (hu : get_current_user credentials e.now s = .ok user)
      (hr : findSession s session_id user.id = some row) (hopen : row.revoked_at = none) :
      AuthOutcome e s (.revoke_session credentials session_id) (.ok .no_content)
        (revokeSessionRow row.id (e.clock 1) s)
  | me_refused (credentials : Option Bearer) (error : Failure) :
      AuthOutcome e s (.get_me credentials) (.error error) s
  | me (credentials : Option Bearer) (user : User)
      (hu : get_current_user credentials e.now s = .ok user) :
      AuthOutcome e s (.get_me credentials) (.ok (.user user.response)) s

/-! ## The handlers -/

/-- From the committed store `s`, the handler ends in an outcome of the request. -/
def Answers {α : Type} (e : Env) (r : AuthRequest) (body : α → Body) (h : Handler α) : Prop :=
  ∀ s, Ends h ⟨s, s⟩ fun reply s' => AuthOutcome e s r (reply.map body) s'.committed

omit [Platform] in
@[simp] theorem ends_answer {α : Type} (body : α → Body) (h : Handler α) (s : Session Store)
    (Q : Except Failure Body → Session Store → Prop) :
    Ends (answer body h) s Q ↔ Ends h s fun r s' => Q (r.map body) s' := by
  unfold answer
  simp only [ends_bind, ends_pure]
  unfold Ends
  cases (h s).1 <;> rfl

omit [Platform] in
theorem ends_check_rate_limit (e : Env) (s : Session Store)
    (Q : Except Failure Unit → Session Store → Prop) :
    Ends (check_rate_limit e) s Q ↔ match e.retry_after with
      | some seconds => Q (.error (RateLimitError seconds)) s
      | none => Q (.ok ()) s := by
  unfold check_rate_limit
  cases e.retry_after <;> rfl

section
variable (e : Env)

theorem register_answers (payload : UserRegister) :
    Answers e (.register payload) (fun u => .user u.response) (register e payload) := by
  intro s
  unfold register insertUser
  simp only [ends_bind, ends_check_rate_limit]
  cases e.retry_after with
  | some seconds => exact .register_refused payload _
  | none =>
    simp only [ends_attempt, ends_flush]
    by_cases ht : (new_user e payload).storable = true
    · cases hs : s.users.any fun u => u.email = (new_user e payload).email with
      | true =>
        simp only [ht, if_true, isIntegrityError, Bool.false_eq_true, if_false, ends_bind,
          ends_rollback, ends_throw]
        exact .register_refused payload _
      | false =>
        simp only [ht, if_true, Bool.false_eq_true, if_false, ends_bind, ends_commit, ends_pure]
        refine .registered payload fun u hu heq => ?_
        have := List.any_eq_false.mp hs u hu
        simp only [decide_eq_true_eq] at this
        exact this heq
    · simp only [ht, isIntegrityError, Bool.false_eq_true, if_false]
      exact .register_refused payload _

theorem login_answers (payload : UserLogin) :
    Answers e (.login payload) .tokens (login e payload) := by
  intro s
  unfold login issue_session record_audit_log
  simp only [ends_bind, ends_check_rate_limit]
  cases e.retry_after with
  | some seconds => exact .login_limited payload _
  | none =>
    simp only [ends_select]
    split
    · simp only [ends_bind, ends_write, ends_commit, ends_throw]
      exact .login_failed payload _ _ rfl rfl
    · rename_i user hu
      simp only [ends_bind, ends_write, ends_commit, ends_pure]
      exact .signed_in payload user hu

omit [Platform] in
theorem eq_some_of_present {raw : Option Text} {t : Text} (h : presentCookie raw = some t) :
    raw = some t := by
  unfold presentCookie at h
  exact (Option.filter_eq_some_iff.mp h).1

theorem refresh_answers (raw : Option Text) :
    Answers e (.refresh raw) .tokens (refresh_access_token e raw) := by
  intro s
  unfold refresh_access_token issue_session
  simp only [ends_bind, ends_check_rate_limit]
  cases hl : e.retry_after with
  | some seconds => exact .refresh_limited raw _ (by simp [hl])
  | none =>
    simp only
    cases hraw : presentCookie raw with
    | none => exact .refresh_absent raw _ hraw
    | some raw =>
      obtain rfl := eq_some_of_present hraw
      simp only [ends_bind, ends_select]
      cases hr : findRefreshToken raw s with
      | none => exact .refresh_unknown raw _ hr
      | some row =>
        simp only
        split
        · rename_i hrevoked
          exact .refresh_replayed raw _ row hl hr hrevoked
        · rename_i hopen
          have hopen : row.revoked_at = none := by simpa using hopen
          simp only [ends_bind, ends_ask]
          unfold tokenUser
          cases hu : findUser s row.user_id with
          | none => exact .refresh_orphan raw _ row hr hu
          | some user =>
            simp only
            split
            · rename_i hend
              refine .refresh_ended raw _ row user hl hr hopen hu ?_
              simpa [has_expired] using hend
            · rename_i hlive
              simp only [has_expired, Bool.or_eq_true, decide_eq_true_eq, not_or, not_le,
                Bool.not_eq_true', Bool.not_eq_false] at hlive
              exact .refreshed raw row user hl hr hopen hu hlive.1 hlive.2

theorem logout_answers (raw : Option Text) :
    Answers e (.logout raw) (fun _ => .no_content) (logout e raw) := by
  intro s
  unfold logout
  cases hraw : presentCookie raw with
  | none => exact .logout_nothing raw (by simp [hraw])
  | some raw =>
    have hpresent := hraw
    obtain rfl := eq_some_of_present hraw
    simp only [ends_bind, ends_select]
    cases hr : findRefreshToken raw s with
    | none =>
      refine .logout_nothing (some raw) ?_
      intro t ht row h
      rw [hpresent] at ht
      cases ht
      simp [hr] at h
    | some row =>
      simp only
      split
      · rename_i hopen
        exact .logged_out raw row hr (by simpa using hopen)
      · rename_i hrevoked
        refine .logout_nothing (some raw) ?_
        intro t ht row' h
        rw [hpresent] at ht
        cases ht
        rw [hr] at h
        cases h
        simpa [← Option.isSome_iff_ne_none] using hrevoked

theorem change_password_answers (credentials : Option Bearer) (payload : ChangePasswordRequest) :
    Answers e (.change_password credentials payload) (fun _ => .no_content)
      (change_password e credentials payload) := by
  intro s
  unfold change_password
  simp only [ends_bind, ends_ask]
  split
  · rename_i user hu
    split
    · exact .password_refused credentials payload _
    · split
      · exact .password_refused credentials payload _
      · exact .password_changed credentials payload user hu
  · exact .password_refused credentials payload _

theorem forgot_password_answers (email : Text) :
    Answers e (.forgot_password email) .forgot (forgot_password e email) := by
  intro s
  unfold forgot_password
  simp only [ends_bind, ends_select]
  split
  · exact .forgot_nothing email _
  · rename_i user hu
    exact .forgot email user _ hu

theorem reset_password_answers (payload : ResetPasswordRequest) :
    Answers e (.reset_password payload) (fun _ => .no_content) (reset_password e payload) := by
  intro s
  unfold reset_password
  simp only [ends_bind, ends_ask]
  split
  · rename_i row hr
    exact .password_reset payload row hr
  · exact .reset_refused payload _

theorem logout_all_answers (credentials : Option Bearer) :
    Answers e (.logout_all credentials) (fun _ => .no_content) (logout_all e credentials) := by
  intro s
  unfold logout_all
  simp only [ends_bind, ends_ask]
  split
  · rename_i user hu
    exact .logged_out_all credentials user hu
  · exact .logout_all_refused credentials _

theorem list_sessions_answers (credentials : Option Bearer) :
    Answers e (.list_sessions credentials) (fun l => .sessions (l.map RefreshToken.response))
      (list_sessions e credentials) := by
  intro s
  unfold list_sessions
  simp only [ends_bind, ends_ask]
  split
  · rename_i user hu
    exact .listed credentials user hu
  · exact .list_refused credentials _

theorem revoke_session_answers (credentials : Option Bearer) (session_id : UUID) :
    Answers e (.revoke_session credentials session_id) (fun _ => .no_content)
      (revoke_session e credentials session_id) := by
  intro s
  unfold revoke_session
  simp only [ends_bind, ends_ask]
  split
  · rename_i user hu
    simp only [ends_select]
    split
    · exact .revoke_refused credentials session_id _
    · rename_i row hr
      split
      · rename_i hopen
        exact .revoked credentials session_id user row hu hr (by simpa using hopen)
      · rename_i hrevoked
        exact .revoke_nothing credentials session_id user row hu hr
          (by simpa [← Option.isSome_iff_ne_none] using hrevoked)
  · exact .revoke_refused credentials session_id _

theorem get_me_answers (credentials : Option Bearer) :
    Answers e (.get_me credentials) (fun u => .user u.response) (get_me e credentials) := by
  intro s
  unfold get_me
  simp only [ends_ask]
  cases hu : get_current_user credentials e.now s with
  | error _ => exact .me_refused credentials _
  | ok user => exact .me credentials user hu

/-- Every request under /auth ends in one of its outcomes. -/
theorem auth_outcome (r : AuthRequest) (s : Store) :
    AuthOutcome e s r (handle e (.auth r) s).1 (handle e (.auth r) s).2 := by
  refine ends_runRequest (Q := AuthOutcome e s r) ?_
  show Ends (auth_handler e r) ⟨s, s⟩ _
  cases r <;> simp only [auth_handler, ends_answer]
  case register payload => exact register_answers e payload s
  case login payload => exact login_answers e payload s
  case refresh raw => exact refresh_answers e raw s
  case logout raw => exact logout_answers e raw s
  case change_password credentials payload => exact change_password_answers e credentials payload s
  case forgot_password email => exact forgot_password_answers e email s
  case reset_password payload => exact reset_password_answers e payload s
  case logout_all credentials => exact logout_all_answers e credentials s
  case list_sessions credentials => exact list_sessions_answers e credentials s
  case revoke_session credentials session_id => exact revoke_session_answers e credentials session_id s
  case get_me credentials => exact get_me_answers e credentials s

end

end pulseforge

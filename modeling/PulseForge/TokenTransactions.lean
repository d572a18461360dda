-- Every request that writes refresh or reset tokens, as transactions under
-- READ COMMITTED: those that open or revoke sessions, and besides them the
-- logout, the revocation of one session and the request for a reset token.
import PulseForge.Consistency
import PulseForge.Lib.Spending
import PulseForge.SessionTransactions

open txn table interleave

namespace pulseforge

variable [Platform]

/-! ## Jobs and stages -/

inductive TokenCall
  | auth (call : AuthCall)
  | logout (raw_refresh_token : Option Text)
  | revoke_session (credentials : Option Bearer) (session_id : UUID)
  | forgot_password (email : Text)

/-- A request with the draws and the clock of its process, and the orders in
which its UPDATEs meet the rows of their tables. -/
structure TokenJob where
  env : Env
  call : TokenCall
  scan : List RefreshToken → List RefreshToken
  scan_perm : ∀ rows, (scan rows).Perm rows
  scan_resets : List PasswordResetToken → List PasswordResetToken
  scan_resets_perm : ∀ rows, (scan_resets rows).Perm rows

/-- A request of those that open or revoke sessions. -/
def TokenJob.auth (job : TokenJob) (call : AuthCall) : AuthJob :=
  ⟨job.env, call, job.scan, job.scan_perm⟩

/-- What a transaction does next: a logout has its row, the revocation of a
session has its user and then its row, and the request for a reset token has
its user and then uses up the earlier tokens. -/
inductive TokenStage
  | auth (stage : AuthStage)
  | start
  | leaving (stored_token : RefreshToken)
  | finding (current_user : User) (session : Option RefreshToken)
  | closing (stored_token : RefreshToken)
  | forgetting (user_id : UUID)
  | replacing (user_id : UUID) (todo done : List PasswordResetToken)
  | ended (reply : Except Failure Body)

def TokenStage.finished : TokenStage → Bool
  | .auth stage => stage.finished
  | .ended _ => true
  | _ => false

def TokenCall.first : TokenCall → TokenStage
  | .auth _ => .auth .start
  | _ => .start

/-! ## The statements -/

/-- The session that an access token names: the dependency has loaded its row. -/
def namedSession (credentials : Option Bearer) (s : Store) : Option RefreshToken :=
  match credentials with
  | some (.signed token) => token.sid.bind fun session_id => findSession s session_id token.sub
  | _ => none

/-- A row that was loaded before keeps the columns of its first reading. -/
def loadedSession (session : Option RefreshToken) (row : RefreshToken) : RefreshToken :=
  match session with
  | some loaded => if loaded.id = row.id then loaded else row
  | none => row

def unusedToken (user_id : UUID) (r : PasswordResetToken) : Bool :=
  r.user_id = user_id && r.used_at.isNone

/-- The rows that the UPDATE of the reset tokens meets. -/
def unusedTokens (user_id : UUID) (s : Store) : List PasswordResetToken :=
  s.password_reset_tokens.filter (unusedToken user_id)

/-- The second look of the UPDATE at a row, once nobody else writes it. -/
def stillUnused (user_id : UUID) (row : PasswordResetToken) (s : Store) : Bool :=
  s.password_reset_tokens.any fun r => r.id = row.id && unusedToken user_id r

/-- The commit of a new reset token: the rows that the UPDATE found are used up. -/
def commitResetToken (rows : List PasswordResetToken) (now : Int) (row : PasswordResetToken)
    (s : Store) : Store :=
  { s with
    password_reset_tokens := updateWhere (fun r => rows.any fun q => q.id = r.id)
      (fun r => { r with used_at := some now }) s.password_reset_tokens ++ [row] }

def forgot_response (e : Env) : ForgotPasswordResponse :=
  let environment := Platform.settings.environment
  ⟨GENERIC_MESSAGE,
    if environment = .DEVELOPMENT ∨ environment = .TEST then some e.secret else none⟩

def auth_next (job : AuthJob) (s : Store) : TokenStage → Option (Store × TokenStage)
  | .auth stage => (job.next s stage).map fun p => (p.1, .auth p.2)
  | _ => none

def logout_next (e : Env) (raw_refresh_token : Option Text) (s : Store) :
    TokenStage → Option (Store × TokenStage)
  | .start =>
    match presentCookie raw_refresh_token with
    | none => some (s, .ended (.ok .no_content))
    | some raw =>
      match findRefreshToken raw s with
      | none => some (s, .ended (.ok .no_content))
      | some stored_token =>
        if stored_token.revoked_at.isNone then some (s, .leaving stored_token)
        else some (s, .ended (.ok .no_content))
  | .leaving stored_token =>
    some (revokeSessionRow stored_token.id (e.clock 1) s, .ended (.ok .no_content))
  | _ => none

def revoke_session_next (e : Env) (credentials : Option Bearer) (session_id : UUID) (s : Store) :
    TokenStage → Option (Store × TokenStage)
  | .start =>
    match get_current_user credentials e.now s with
    | .error failure => some (s, .ended (.error failure))
    | .ok current_user => some (s, .finding current_user (namedSession credentials s))
  | .finding current_user session =>
    match findSession s session_id current_user.id with
    | none => some (s, .ended (.error (ResourceNotFoundError "Session not found" "SESSION_NOT_FOUND")))
    | some row =>
      if (loadedSession session row).revoked_at.isNone then
        some (s, .closing (loadedSession session row))
      else some (s, .ended (.ok .no_content))
  | .closing stored_token =>
    some (revokeSessionRow stored_token.id (e.clock 1) s, .ended (.ok .no_content))
  | _ => none

def forgot_password_next (e : Env) (scan : List PasswordResetToken → List PasswordResetToken)
    (email : Text) (s : Store) : TokenStage → Option (Store × TokenStage)
  | .start =>
    match (findUserByEmail s email).filter fun u => u.is_active with
    | none => some (s, .ended (.ok (.forgot ⟨GENERIC_MESSAGE, none⟩)))
    | some user => some (s, .forgetting user.id)
  | .forgetting user_id => some (s, .replacing user_id (scan (unusedTokens user_id s)) [])
  | .replacing user_id (row :: todo) done =>
    if stillUnused user_id row s then some (s, .replacing user_id todo (row :: done))
    else some (s, .replacing user_id todo done)
  | .replacing user_id [] done =>
    some (commitResetToken done (e.clock 1) (new_reset_token e user_id) s,
      .ended (.ok (.forgot (forgot_response e))))
  | _ => none

def TokenJob.next (job : TokenJob) : Store → TokenStage → Option (Store × TokenStage) :=
  match job.call with
  | .auth call => auth_next (job.auth call)
  | .logout raw_refresh_token => logout_next job.env raw_refresh_token
  | .revoke_session credentials session_id => revoke_session_next job.env credentials session_id
  | .forgot_password email => forgot_password_next job.env job.scan_resets email

/-! ## Locks -/

/-- The row that the request reads FOR UPDATE. -/
def TokenJob.own (job : TokenJob) : Option AuthLock :=
  match job.call with
  | .auth call => (job.auth call).own
  | .logout raw_refresh_token =>
    (presentCookie raw_refresh_token).map fun raw => .session (hash_refresh_token raw)
  | _ => none

def TokenJob.wants (job : TokenJob) : TokenStage → Option AuthLock
  | .auth stage =>
    match job.call with
    | .auth call => (job.auth call).wants stage
    | _ => none
  | .start => job.own
  | .closing stored_token => some (.session stored_token.token_hash)
  | .replacing _ (row :: _) _ => some (.reset_token row.token_hash)
  | _ => none

/-- The locks that last until the commit. -/
def TokenJob.holds (job : TokenJob) : TokenStage → List AuthLock
  | .auth stage =>
    match job.call with
    | .auth call => (job.auth call).holds stage
    | _ => []
  | .leaving _ => job.own.toList
  | .replacing _ _ done => done.map fun r => .reset_token r.token_hash
  | _ => []

/-! ## What a step can do -/

/-- Each step of a transaction: a step of a request that opens or revokes
sessions, a read, or one of three commits. -/
inductive TokenMove (job : TokenJob) (s : Store) : TokenStage → Store → TokenStage → Prop
  | auth {call : AuthCall} (hcall : job.call = .auth call) {stage stage' : AuthStage} {s' : Store}
      (hnext : (job.auth call).next s stage = some (s', stage')) :
      TokenMove job s (.auth stage) s' (.auth stage')
  | read {t t' : TokenStage} (hcall : ∀ call, job.call ≠ .auth call) (ht : t.finished = false)
      (ht' : ∀ stage, t' ≠ .auth stage)
      (hlocks : ∀ l ∈ job.holds t', l ∈ job.holds t ∨ job.wants t = some l) :
      TokenMove job s t s t'
  | left (hcall : ∀ call, job.call ≠ .auth call) (stored_token : RefreshToken) :
      TokenMove job s (.leaving stored_token) (revokeSessionRow stored_token.id (job.env.clock 1) s)
        (.ended (.ok .no_content))
  | closed (hcall : ∀ call, job.call ≠ .auth call) (stored_token : RefreshToken) :
      TokenMove job s (.closing stored_token) (revokeSessionRow stored_token.id (job.env.clock 1) s)
        (.ended (.ok .no_content))
  | forgot (hcall : ∀ call, job.call ≠ .auth call) (user_id : UUID) (done : List PasswordResetToken) :
      TokenMove job s (.replacing user_id [] done)
        (commitResetToken done (job.env.clock 1) (new_reset_token job.env user_id) s)
        (.ended (.ok (.forgot (forgot_response job.env))))

section
variable {job : TokenJob} {s s' : Store} {t t' : TokenStage}

/-- A read that ends its transaction. -/
theorem TokenMove.stopped (hcall : ∀ call, job.call ≠ .auth call) (ht : t.finished = false)
    (reply : Except Failure Body) : TokenMove job s t s (.ended reply) :=
  .read hcall ht (fun _ => nofun) (fun _ hl => absurd hl List.not_mem_nil)

theorem logout_move {raw_refresh_token : Option Text} (hcall : job.call = .logout raw_refresh_token)
    (h : logout_next job.env raw_refresh_token s t = some (s', t')) : TokenMove job s t s' t' := by
  have hother : ∀ call, job.call ≠ .auth call := by
    rw [hcall]
    exact fun _ => nofun
  cases t with
  | start =>
    simp only [logout_next] at h
    split at h
    · cases h
      exact .stopped hother rfl _
    · split at h
      · cases h
        exact .stopped hother rfl _
      · split at h
        · cases h
          refine .read hother rfl (fun _ => nofun) fun l hl => Or.inr ?_
          exact Option.mem_toList.mp hl
        · cases h
          exact .stopped hother rfl _
  | leaving stored_token =>
    cases h
    exact .left hother stored_token
  | _ => cases h

theorem revoke_session_move {credentials : Option Bearer} {session_id : UUID}
    (hcall : job.call = .revoke_session credentials session_id)
    (h : revoke_session_next job.env credentials session_id s t = some (s', t')) :
    TokenMove job s t s' t' := by
  have hother : ∀ call, job.call ≠ .auth call := by
    rw [hcall]
    exact fun _ => nofun
  cases t with
  | start =>
    simp only [revoke_session_next] at h
    split at h
    · cases h
      exact .stopped hother rfl _
    · cases h
      exact .read hother rfl (fun _ => nofun) (fun _ hl => absurd hl List.not_mem_nil)
  | finding current_user session =>
    simp only [revoke_session_next] at h
    split at h
    · cases h
      exact .stopped hother rfl _
    · split at h
      · cases h
        exact .read hother rfl (fun _ => nofun) (fun _ hl => absurd hl List.not_mem_nil)
      · cases h
        exact .stopped hother rfl _
  | closing stored_token =>
    cases h
    exact .closed hother stored_token
  | _ => cases h

theorem forgot_password_move {email : Text} (hcall : job.call = .forgot_password email)
    (h : forgot_password_next job.env job.scan_resets email s t = some (s', t')) :
    TokenMove job s t s' t' := by
  have hother : ∀ call, job.call ≠ .auth call := by
    rw [hcall]
    exact fun _ => nofun
  cases t with
  | start =>
    simp only [forgot_password_next] at h
    split at h
    · cases h
      exact .stopped hother rfl _
    · cases h
      exact .read hother rfl (fun _ => nofun) (fun _ hl => absurd hl List.not_mem_nil)
  | forgetting user_id =>
    cases h
    exact .read hother rfl (fun _ => nofun) (fun _ hl => absurd hl List.not_mem_nil)
  | replacing user_id todo done =>
    cases todo with
    | nil =>
      cases h
      exact .forgot hother user_id done
    | cons row todo =>
      simp only [forgot_password_next] at h
      split at h
      · cases h
        refine .read hother rfl (fun _ => nofun) fun l hl => ?_
        simp only [TokenJob.holds, TokenJob.wants, List.map_cons, List.mem_cons,
          Option.some.injEq] at hl ⊢
        tauto
      · cases h
        exact .read hother rfl (fun _ => nofun) fun l hl => Or.inl hl
  | _ => cases h

theorem TokenJob.move (h : job.next s t = some (s', t')) : TokenMove job s t s' t' := by
  unfold TokenJob.next at h
  cases hcall : job.call with
  | auth call =>
    rw [hcall] at h
    cases t with
    | auth stage =>
      obtain ⟨⟨s'', stage'⟩, hnext, heq⟩ := Option.map_eq_some_iff.mp h
      cases heq
      exact .auth hcall hnext
    | _ => cases h
  | logout raw =>
    rw [hcall] at h
    exact logout_move hcall h
  | revoke_session credentials session_id =>
    rw [hcall] at h
    exact revoke_session_move hcall h
  | forgot_password email =>
    rw [hcall] at h
    exact forgot_password_move hcall h

/-- A transaction takes the lock that it waited for, and no other. -/
theorem TokenJob.acquires (job : TokenJob) (s : Store) (t : TokenStage) (p : Store × TokenStage)
    (h : job.next s t = some p) : ∀ l ∈ job.holds p.2, l ∈ job.holds t ∨ job.wants t = some l := by
  intro l hl
  obtain ⟨s', t'⟩ := p
  cases TokenJob.move h with
  | @auth call hcall stage stage' _ hnext =>
    simp only [TokenJob.holds, TokenJob.wants, hcall] at hl ⊢
    exact (job.auth call).acquires s stage _ hnext l hl
  | read _ _ _ hlocks => exact hlocks l hl
  | left => cases hl
  | closed => cases hl
  | forgot => cases hl

end

/-! ## The machine -/

def token_transaction (job : TokenJob) : Process Store TokenStage AuthLock where
  next := job.next
  wants := job.wants
  holds := job.holds
  acquires := job.acquires

variable {ι : Type}

/-- The transactions at their start, over a committed store. -/
def token_begin (jobs : ι → TokenJob) (s₀ : Store) : State ι Store TokenStage :=
  ⟨s₀, fun i => (jobs i).call.first⟩

/-- The turn of one transaction. -/
def token_turn [Fintype ι] [DecidableEq ι] (jobs : ι → TokenJob) :
    State ι Store TokenStage → ι → State ι Store TokenStage :=
  step (lockStep fun i => token_transaction (jobs i))

/-! ## One transaction alone -/

/-- The request that the transaction is made of. -/
def TokenCall.request : TokenCall → AuthRequest
  | .auth call => call.request
  | .logout raw_refresh_token => .logout raw_refresh_token
  | .revoke_session credentials session_id => .revoke_session credentials session_id
  | .forgot_password email => .forgot_password email

def TokenCall.last (call : TokenCall) (reply : Except Failure Body) : TokenStage :=
  match call with
  | .auth _ => .auth (.ended reply)
  | _ => .ended reply

section
variable {job : TokenJob} {s : Store}

theorem logout_reaches {raw_refresh_token : Option Text} (hcall : job.call = .logout raw_refresh_token) :
    Ends (answer (fun _ => .no_content) (logout job.env raw_refresh_token)) ⟨s, s⟩ fun r s' =>
      Reaches job.next s .start s'.committed (.ended r) := by
  have hnext : job.next = logout_next job.env raw_refresh_token := by
    unfold TokenJob.next
    rw [hcall]
  have hstart : job.next s .start = logout_next job.env raw_refresh_token s .start := by
    rw [hnext]
  unfold logout_next at hstart
  unfold logout
  cases hraw : presentCookie raw_refresh_token with
  | none =>
    simp only [hraw, ends_answer, ends_pure] at hstart ⊢
    exact .step hstart (.refl _ _)
  | some raw =>
    simp only [hraw, ends_answer, ends_bind, ends_select] at hstart ⊢
    cases hrow : findRefreshToken raw s with
    | none =>
      simp only [hrow, ends_rollback] at hstart ⊢
      exact .step hstart (.refl _ _)
    | some stored_token =>
      simp only [hrow] at hstart ⊢
      by_cases hopen : stored_token.revoked_at.isNone = true
      · simp only [hopen, if_true, ends_bind, ends_write, ends_commit] at hstart ⊢
        refine .step hstart (.step ?_ (.refl _ _))
        rw [hnext]
        rfl
      · simp only [hopen, Bool.false_eq_true, if_false, ends_rollback] at hstart ⊢
        exact .step hstart (.refl _ _)

omit [Platform] in
/-- The dependency loads the row that the lookup finds again. -/
theorem loadedSession_eq (hids : UniqueOn RefreshToken.id s.refresh_tokens) {credentials : Option Bearer}
    {row : RefreshToken} (hrow : row ∈ s.refresh_tokens) :
    loadedSession (namedSession credentials s) row = row := by
  unfold loadedSession
  split
  · rename_i loaded hloaded
    split
    · have hmem : loaded ∈ s.refresh_tokens := by
        unfold namedSession at hloaded
        split at hloaded
        · obtain ⟨session_id, _, hfound⟩ := Option.bind_eq_some_iff.mp hloaded
          exact (session_of_some hfound).1
        · cases hloaded
      exact hids.eq hmem hrow ‹_›
    · rfl
  · rfl

theorem revoke_session_reaches (hids : UniqueOn RefreshToken.id s.refresh_tokens)
    {credentials : Option Bearer} {session_id : UUID}
    (hcall : job.call = .revoke_session credentials session_id) :
    Ends (answer (fun _ => .no_content) (revoke_session job.env credentials session_id)) ⟨s, s⟩
      fun r s' => Reaches job.next s .start s'.committed (.ended r) := by
  have hnext : job.next = revoke_session_next job.env credentials session_id := by
    unfold TokenJob.next
    rw [hcall]
  unfold revoke_session
  simp only [ends_answer, ends_bind, ends_ask]
  cases huser : get_current_user credentials job.env.now s with
  | error failure =>
    have hstart : job.next s .start = some (s, .ended (.error failure)) := by
      simp only [hnext, revoke_session_next, huser]
    exact .step hstart (.refl _ _)
  | ok current_user =>
    have hstart : job.next s .start =
        some (s, .finding current_user (namedSession credentials s)) := by
      simp only [hnext, revoke_session_next, huser]
    have hfind : job.next s (.finding current_user (namedSession credentials s)) =
        revoke_session_next job.env credentials session_id s
          (.finding current_user (namedSession credentials s)) := by
      rw [hnext]
    unfold revoke_session_next at hfind
    simp only [ends_select]
    cases hrow : findSession s session_id current_user.id with
    | none =>
      simp only [hrow] at hfind
      exact .step hstart (.step hfind (.refl _ _))
    | some row =>
      simp only [hrow, loadedSession_eq hids (session_of_some hrow).1] at hfind ⊢
      by_cases hopen : row.revoked_at.isNone = true
      · simp only [hopen, if_true, ends_bind, ends_write, ends_commit] at hfind ⊢
        refine .step hstart (.step hfind (.step ?_ (.refl _ _)))
        rw [hnext]
        rfl
      · simp only [hopen, Bool.false_eq_true, if_false, ends_pure] at hfind ⊢
        exact .step hstart (.step hfind (.refl _ _))

/-- Nobody else writes the rows, so the UPDATE finds all that it meets. -/
theorem replacing_reaches {email : Text} (hcall : job.call = .forgot_password email) {user_id : UUID}
    (todo done : List PasswordResetToken) (h : ∀ row ∈ todo, stillUnused user_id row s = true) :
    ∃ rows, (∀ r, r ∈ rows ↔ r ∈ todo ∨ r ∈ done) ∧
      Reaches job.next s (.replacing user_id todo done) s (.replacing user_id [] rows) := by
  refine Reaches.sweep (fun row todo done hrow => ?_) todo done h
  unfold TokenJob.next
  simp only [hcall, forgot_password_next, hrow, if_true]

omit [Platform] in
/-- With the rows that are unused, the commit replaces the tokens of the user. -/
theorem commitResetToken_eq (hids : UniqueOn PasswordResetToken.id s.password_reset_tokens)
    {user_id : UUID} {rows : List PasswordResetToken} (h : ∀ r, r ∈ rows ↔ r ∈ unusedTokens user_id s)
    (now : Int) (row : PasswordResetToken) :
    commitResetToken rows now row s = replaceResetTokens user_id now row s := by
  unfold commitResetToken replaceResetTokens
  rw [updateWhere_found hids h]
  rfl

theorem forgot_password_reaches (hids : UniqueOn PasswordResetToken.id s.password_reset_tokens)
    {email : Text} (hcall : job.call = .forgot_password email) :
    Ends (answer .forgot (forgot_password job.env email)) ⟨s, s⟩ fun r s' =>
      Reaches job.next s .start s'.committed (.ended r) := by
  have hnext : job.next = forgot_password_next job.env job.scan_resets email := by
    unfold TokenJob.next
    rw [hcall]
  unfold forgot_password
  simp only [ends_answer, ends_bind, ends_select]
  cases huser : (findUserByEmail s email).filter fun u => u.is_active with
  | none =>
    have hstart : job.next s .start = some (s, .ended (.ok (.forgot ⟨GENERIC_MESSAGE, none⟩))) := by
      simp only [hnext, forgot_password_next, huser]
    exact .step hstart (.refl _ _)
  | some user =>
    have hstart : job.next s .start = some (s, .forgetting user.id) := by
      simp only [hnext, forgot_password_next, huser]
    have hbegin : job.next s (.forgetting user.id) =
        some (s, .replacing user.id (job.scan_resets (unusedTokens user.id s)) []) := by
      rw [hnext]
      rfl
    have hscan : ∀ row, row ∈ job.scan_resets (unusedTokens user.id s) ↔ row ∈ unusedTokens user.id s :=
      fun row => (job.scan_resets_perm _).mem_iff
    have hunused : ∀ row ∈ job.scan_resets (unusedTokens user.id s), stillUnused user.id row s = true := by
      intro row hrow
      obtain ⟨hmem, hunused⟩ := List.mem_filter.mp ((hscan row).mp hrow)
      exact List.any_eq_true.mpr ⟨row, hmem, by simp [hunused]⟩
    obtain ⟨rows, hrows, hsweep⟩ := replacing_reaches hcall _ [] hunused
    have hfound : ∀ r, r ∈ rows ↔ r ∈ unusedTokens user.id s := by
      intro r
      rw [hrows r, hscan r]
      simp
    simp only [ends_bind, ends_write, ends_commit, ends_pure]
    refine .step hstart (.step hbegin (hsweep.trans (.step ?_ (.refl _ _))))
    rw [← commitResetToken_eq hids hfound, hnext]
    rfl

/-- A transaction that runs alone leaves the store and gives the answer of its handler. -/
theorem token_alone_is_its_request (job : TokenJob) (hids : UniqueOn RefreshToken.id s.refresh_tokens)
    (hresets : UniqueOn PasswordResetToken.id s.password_reset_tokens) :
    ∃ n, run.after (token_turn fun _ : Unit => job) (token_begin (fun _ : Unit => job) s)
        (List.replicate n ()) =
      ⟨(handle job.env (.auth job.call.request) s).2,
        fun _ => job.call.last (handle job.env (.auth job.call.request) s).1⟩ := by
  apply reaches_turns
  refine ends_runRequest
    (Q := fun r s' => Reaches job.next s job.call.first s' (job.call.last r)) ?_
  cases hcall : job.call with
  | auth call =>
    refine (auth_reaches (job.auth call) hids).mono fun r s' hreach => ?_
    refine hreach.map TokenStage.auth fun s t s' t' hstep => ?_
    unfold TokenJob.next
    simp only [hcall, auth_next, hstep, Option.map_some]
  | logout raw => exact logout_reaches hcall
  | revoke_session credentials session_id => exact revoke_session_reaches hids hcall
  | forgot_password email => exact forgot_password_reaches hresets hcall

end

end pulseforge

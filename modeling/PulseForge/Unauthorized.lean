-- Which requests with a bearer token are answered 401: those whose token
-- `get_current_user` refuses, and a password change with a wrong current password.
import PulseForge.FailedRequests
import PulseForge.WriteIntegrity

open txn table

namespace pulseforge

variable [Platform]

/-! ## Errors of the handlers -/

def Failure.unauthorized (failure : Failure) : Bool := (error_response failure).status_code = 401

/-- No error of the handler is answered 401. -/
def NeverUnauthorized {α : Type} (h : Handler α) : Prop :=
  Raises (fun failure => failure.unauthorized = false) h

section
omit [Platform]
variable {α : Type}

theorem permission_authorized (p : Permission) (organization_id user_id : UUID)
    {k : OrganizationMember → Handler α} (hk : ∀ m, NeverUnauthorized (k m)) :
    NeverUnauthorized (ask (require_permission p organization_id user_id) >>= k) := by
  refine (raises_ask fun s failure h => ?_).bind hk
  unfold require_permission get_membership_or_404 at h
  split at h
  · next failure' hnone =>
    split at hnone
    · cases hnone
    · cases hnone
      cases h
      rfl
  · split at h
    · cases h
    · cases h
      rfl

theorem resource_authorized {β : Type} [TenantTable β] (id user_id : UUID) {k : β → Handler α}
    (hk : ∀ b, NeverUnauthorized (k b)) :
    NeverUnauthorized (ask (get_tenant_resource_or_404 β id user_id) >>= k) := by
  refine (raises_ask fun s failure h => ?_).bind hk
  unfold get_tenant_resource_or_404 at h
  split at h
  · cases h
  · cases h
    rfl

theorem target_authorized (organization_id member_id : UUID) {k : OrganizationMember → Handler α}
    (hk : ∀ m, NeverUnauthorized (k m)) :
    NeverUnauthorized (ask (get_target_member organization_id member_id) >>= k) := by
  refine (raises_ask fun s failure h => ?_).bind hk
  unfold get_target_member at h
  split at h
  · cases h
  · cases h
    rfl

theorem tokenUser_authorized {user_id : UUID} {s : Store} {failure : Failure}
    (h : tokenUser user_id s = .error failure) : failure.unauthorized = false := by
  unfold tokenUser at h
  split at h
  · cases h
  · cases h
    rfl

theorem error_of_map {β γ : Type} {x : Except Failure β} {f : β → γ} {failure : Failure}
    (h : x.map f = .error failure) : x = .error failure := by
  cases x with
  | error failure' =>
    cases h
    rfl
  | ok b => cases h

/-- The rows that a user is looked up for, one after the other. -/
theorem mapM_authorized {β γ : Type} {f : β → Except Failure γ}
    (hf : ∀ b failure, f b = .error failure → failure.unauthorized = false) (rows : List β)
    {failure : Failure} (h : rows.mapM f = .error failure) : failure.unauthorized = false := by
  induction rows with
  | nil => cases h
  | cons row rows ih =>
    rw [List.mapM_cons] at h
    cases hrow : f row with
    | error failure' =>
      rw [hrow] at h
      cases h
      exact hf row _ hrow
    | ok c =>
      rw [hrow] at h
      cases hrest : rows.mapM f with
      | error failure' =>
        rw [hrest] at h
        cases h
        exact ih hrest
      | ok cs =>
        rw [hrest] at h
        cases h

/-- `try: await session.flush()`, whose constraints are answered 409 or 500. -/
theorem flush_authorized {f : Store → Except Failure Store} {k : Bool → Handler α}
    (hf : ∀ s failure, f s = .error failure → failure.unauthorized = false)
    (hstored : NeverUnauthorized (k true)) (hcaught : NeverUnauthorized (k false)) :
    NeverUnauthorized (attempt isIntegrityError (flush f) >>= k) := by
  refine ((raises_flush hf).attempt _).bind fun stored => ?_
  cases stored
  · exact hcaught
  · exact hstored

theorem rollback_authorized {failure : Failure} (h : failure.unauthorized = false) :
    NeverUnauthorized (rollback >>= fun _ => (throw failure : Handler α)) :=
  sure_rollback.raises.bind fun _ => raises_throw h

/-- The last steps of a handler: it writes, commits and answers. -/
theorem commit_sure (a : α) : Sure (commit >>= fun _ => (pure a : Handler α)) :=
  sure_commit.bind fun _ => sure_pure a

theorem write_sure {h : Handler α} (f : Store → Store) (hs : Sure h) :
    Sure (write f >>= fun _ => h) := (sure_write f).bind fun _ => hs

end

/-! ## Requests of tenants -/

section
variable (e : Env) (user : User)

theorem insertService_authorized {service : Service} (s : Store) (failure : Failure)
    (h : insertService service s = .error failure) : failure.unauthorized = false := by
  unfold insertService at h
  split at h
  · split at h
    · cases h
      rfl
    · cases h
  · cases h
    rfl

theorem updateServiceRow_authorized {service : Service} (s : Store) (failure : Failure)
    (h : updateServiceRow service s = .error failure) : failure.unauthorized = false := by
  unfold updateServiceRow at h
  split at h
  · split at h
    · cases h
      rfl
    · cases h
  · cases h
    rfl

omit [Platform] in
theorem insertMember_authorized {row : OrganizationMember} (s : Store) (failure : Failure)
    (h : insertMember row s = .error failure) : failure.unauthorized = false := by
  unfold insertMember at h
  split at h
  · cases h
    rfl
  · cases h

theorem create_organization_authorized (payload : OrganizationCreate) :
    NeverUnauthorized (create_organization e payload user) := by
  unfold create_organization
  refine flush_authorized (fun s failure h => ?_) ?_ (rollback_authorized rfl)
  · have hinsert := error_of_map h
    unfold insertOrganization at hinsert
    split at hinsert
    · split at hinsert
      · cases hinsert
        rfl
      · cases hinsert
    · cases hinsert
      rfl
  · exact (write_sure _ (commit_sure _)).raises

theorem add_member_authorized (organization_id : UUID) (payload : MemberAdd) :
    NeverUnauthorized (add_member e organization_id payload user) := by
  unfold add_member
  refine permission_authorized _ _ _ fun actor => ?_
  split
  · exact raises_throw rfl
  · split
    · exact raises_throw rfl
    · refine (sure_select _).raises.bind fun target => ?_
      split
      · exact raises_throw rfl
      · refine (sure_select _).raises.bind fun existing => ?_
        split
        · exact raises_throw rfl
        · exact flush_authorized insertMember_authorized (commit_sure _).raises
            (rollback_authorized rfl)

theorem update_member_role_authorized (organization_id member_id : UUID) (role : OrganizationRole) :
    NeverUnauthorized (update_member_role e organization_id member_id role user) := by
  unfold update_member_role
  refine permission_authorized _ _ _ fun actor => ?_
  refine target_authorized _ _ fun target => ?_
  refine (raises_ask fun _ _ => tokenUser_authorized).bind fun target_user => ?_
  split
  · exact raises_throw rfl
  · split
    · exact raises_throw rfl
    · split
      · exact raises_throw rfl
      · exact (write_sure _ (write_sure _ (commit_sure _))).raises

omit [Platform] in
theorem remove_member_authorized (organization_id member_id : UUID) :
    NeverUnauthorized (remove_member organization_id member_id user) := by
  unfold remove_member
  refine permission_authorized _ _ _ fun actor => ?_
  refine target_authorized _ _ fun target => ?_
  split
  · exact raises_throw rfl
  · split
    · exact raises_throw rfl
    · exact (write_sure _ sure_commit).raises

theorem create_service_authorized (payload : ServiceCreate) :
    NeverUnauthorized (create_service e payload user) := by
  unfold create_service
  refine permission_authorized _ _ _ fun actor => ?_
  exact flush_authorized insertService_authorized (write_sure _ (commit_sure _)).raises
    (rollback_authorized rfl)

theorem changed_service_authorized {now : Int} {payload : ServiceUpdate} {name : Text}
    {service : Service} {failure : Failure}
    (h : changed_service now payload name service = .error failure) :
    failure.unauthorized = false := by
  have hget : ∀ {α β : Type} {c : Change α} {old : α} {k : α → Except Failure β},
      (c.get old >>= k) = .error failure → failure = .IntegrityError ∨ ∃ a, k a = .error failure := by
    intro α β c old k h
    unfold Change.get at h
    split at h
    · exact Or.inr ⟨_, h⟩
    · exact Or.inl (Except.error.inj h).symm
    · exact Or.inr ⟨_, h⟩
  unfold changed_service at h
  simp only at h
  split at h
  · rcases hget h with rfl | ⟨_, h⟩
    · rfl
    · rcases hget h with rfl | ⟨_, h⟩
      · rfl
      · rcases hget h with rfl | ⟨_, h⟩
        · rfl
        · cases h
  · cases h
    rfl

theorem update_service_authorized (service_id : UUID) (payload : ServiceUpdate) :
    NeverUnauthorized (update_service e service_id payload user) := by
  unfold update_service
  refine resource_authorized _ _ fun service => ?_
  refine permission_authorized _ _ _ fun actor => ?_
  refine (raises_ask fun s failure h => ?_).bind fun name => ?_
  · unfold changed_name at h
    split at h
    · cases h
    · cases h
      rfl
    · cases h
  · split
    · exact rollback_authorized rfl
    · next hc => exact raises_throw (changed_service_authorized hc)
    · exact flush_authorized updateServiceRow_authorized (commit_sure _).raises
        (rollback_authorized rfl)

omit [Platform] in
theorem delete_service_authorized (service_id : UUID) :
    NeverUnauthorized (delete_service service_id user) := by
  unfold delete_service
  refine resource_authorized _ _ fun service => ?_
  refine permission_authorized _ _ _ fun actor => ?_
  exact (write_sure _ sure_commit).raises

theorem issue_api_key_authorized (service : Service) (payload : ApiKeyCreate) (user_id : UUID)
    (action : AuditAction) (metadata : Metadata) :
    NeverUnauthorized (issue_api_key e service payload user_id action metadata) := by
  unfold issue_api_key
  refine (raises_flush fun s failure h => ?_).bind fun _ => (write_sure _ (commit_sure _)).raises
  unfold insertApiKey at h
  split at h
  · cases h
  · cases h
    rfl

theorem create_service_api_key_authorized (service_id : UUID) (payload : ApiKeyCreate) :
    NeverUnauthorized (create_service_api_key e service_id payload user) := by
  unfold create_service_api_key
  refine resource_authorized _ _ fun service => ?_
  refine permission_authorized _ _ _ fun actor => ?_
  exact issue_api_key_authorized e service payload user.id _ _

theorem revoke_api_key_authorized (api_key_id : UUID) :
    NeverUnauthorized (revoke_api_key e api_key_id user) := by
  unfold revoke_api_key
  refine resource_authorized _ _ fun api_key => ?_
  refine permission_authorized _ _ _ fun actor => ?_
  split
  · exact (write_sure _ (write_sure _ sure_commit)).raises
  · exact (sure_pure _).raises

theorem rotate_api_key_authorized (api_key_id : UUID) :
    NeverUnauthorized (rotate_api_key e api_key_id user) := by
  unfold rotate_api_key
  refine resource_authorized _ _ fun old_key => ?_
  refine permission_authorized _ _ _ fun actor => ?_
  split
  · exact raises_throw rfl
  · split
    · exact raises_throw rfl
    · refine resource_authorized _ _ fun service => ?_
      refine (sure_write _).raises.bind fun _ => ?_
      refine (raises_ask fun s failure h => ?_).bind fun payload =>
        issue_api_key_authorized e service payload user.id _ _
      unfold ApiKeyCreate.validate at h
      split at h
      · split at h
        · cases h
          rfl
        · cases h
      · cases h
        rfl

theorem acknowledge_incident_authorized (incident_id : UUID) :
    NeverUnauthorized (acknowledge_incident e incident_id user) := by
  unfold acknowledge_incident
  refine resource_authorized _ _ fun incident => ?_
  refine permission_authorized _ _ _ fun actor => ?_
  split
  · exact raises_throw rfl
  · split
    · exact (write_sure _ (write_sure _ (commit_sure _))).raises
    · exact (sure_pure _).raises

theorem resolve_incident_authorized (incident_id : UUID) :
    NeverUnauthorized (resolve_incident e incident_id user) := by
  unfold resolve_incident
  refine resource_authorized _ _ fun incident => ?_
  refine permission_authorized _ _ _ fun actor => ?_
  split
  · exact (write_sure _ (write_sure _ (commit_sure _))).raises
  · exact (sure_pure _).raises

omit [Platform] in
theorem NeverUnauthorized.answer {α : Type} {h : Handler α} (body : α → Body)
    (hn : NeverUnauthorized h) : NeverUnauthorized (answer body h) :=
  hn.bind fun _ => (sure_pure _).raises

omit [Platform] in
/-- A query that always answers, with what is made of it. -/
theorem select_authorized {α β : Type} (q : Store → α) (f : α → β) :
    NeverUnauthorized (select q >>= fun a => (pure (f a) : Handler β)) :=
  ((sure_select q).bind fun _ => sure_pure _).raises

theorem tenant_handler_authorized (r : TenantRequest) :
    NeverUnauthorized (tenant_handler e user r) := by
  cases r <;> apply NeverUnauthorized.answer
  case create_organization payload => exact create_organization_authorized e user payload
  case list_organizations => exact select_authorized _ _
  case list_members organization_id =>
    refine permission_authorized _ _ _ fun _ => raises_ask fun s failure h => ?_
    exact mapM_authorized (fun m _ hm => tokenUser_authorized (error_of_map hm)) _ h
  case add_member o payload => exact add_member_authorized e user o payload
  case update_member_role o m role => exact update_member_role_authorized e user o m role
  case remove_member o m => exact remove_member_authorized user o m
  case create_service payload => exact create_service_authorized e user payload
  case list_services => exact permission_authorized _ _ _ fun _ => (sure_select _).raises
  case get_service =>
    exact resource_authorized _ _ fun _ => permission_authorized _ _ _ fun _ => (sure_pure _).raises
  case update_service v payload => exact update_service_authorized e user v payload
  case delete_service v => exact delete_service_authorized user v
  case create_service_api_key v payload => exact create_service_api_key_authorized e user v payload
  case list_service_api_keys =>
    exact resource_authorized _ _ fun _ => permission_authorized _ _ _ fun _ => select_authorized _ _
  case revoke_api_key k => exact revoke_api_key_authorized e user k
  case rotate_api_key k => exact rotate_api_key_authorized e user k
  case list_events => exact permission_authorized _ _ _ fun _ => select_authorized _ _
  case get_event =>
    exact resource_authorized _ _ fun _ => permission_authorized _ _ _ fun _ => (sure_pure _).raises
  case list_incidents => exact permission_authorized _ _ _ fun _ => select_authorized _ _
  case get_incident =>
    exact resource_authorized _ _ fun _ => permission_authorized _ _ _ fun _ => (sure_pure _).raises
  case acknowledge_incident i => exact acknowledge_incident_authorized e user i
  case resolve_incident i => exact resolve_incident_authorized e user i
  case list_audit_logs => exact permission_authorized _ _ _ fun _ => select_authorized _ _

end

/-! ## Requests with a bearer token -/

/-- A password change with a token that is accepted and a current password that is not. -/
def WrongPassword (e : Env) (s : Store) (r : Request) : Prop :=
  ∃ credentials payload user, r = .auth (.change_password credentials payload) ∧
    get_current_user credentials e.now s = .ok user ∧
    Platform.verify_password payload.current_password user.password_hash = false

/-- The request has a token that `get_current_user` accepts. -/
def signedIn (e : Env) (s : Store) (r : Request) : Bool :=
  r.bearer.any fun credentials => (get_current_user credentials e.now s).isOk

/-- The answer has status 401. -/
def refused (reply : Except Failure Body) : Bool :=
  match reply with
  | .ok _ => false
  | .error failure => failure.unauthorized

section
variable {e : Env} {s : Store} {credentials : Option Bearer} {user : User}
  (hu : get_current_user credentials e.now s = .ok user)
include hu

omit [Platform] in
/-- The handler runs for the user of the token. -/
theorem ends_current_user {α : Type} (k : User → Handler α)
    (Q : Except Failure α → Session Store → Prop) :
    Ends (ask (get_current_user credentials e.now) >>= k) ⟨s, s⟩ Q ↔ Ends (k user) ⟨s, s⟩ Q := by
  rw [ends_bind, ends_ask]
  simp only [hu]

theorem tenant_not_refused (r : TenantRequest) :
    refused (handle e (.tenant credentials r) s).1 = false := by
  have h : Ends (handler e (.tenant credentials r)) ⟨s, s⟩ fun reply _ =>
      ∀ failure, reply = .error failure → failure.unauthorized = false :=
    (ends_current_user hu _ _).mpr (tenant_handler_authorized e user r ⟨s, s⟩)
  unfold refused
  split
  · rfl
  · next failure hreply => exact h failure hreply

omit [Platform] in
/-- A handler under /auth that looks its user up first. -/
theorem auth_not_refused {α : Type} (body : α → Body) {k : User → Handler α}
    (hk : NeverUnauthorized (k user)) :
    refused (runRequest (answer body (ask (get_current_user credentials e.now) >>= k)) s).1 = false := by
  have h : Ends (answer body (ask (get_current_user credentials e.now) >>= k)) ⟨s, s⟩ fun reply _ =>
      ∀ failure, reply = .error failure → failure.unauthorized = false := by
    rw [ends_answer, ends_current_user hu]
    exact (hk ⟨s, s⟩).mono fun reply _ hreply failure hmap => hreply failure (error_of_map hmap)
  unfold refused
  split
  · rfl
  · next failure hreply => exact h failure hreply

theorem change_password_refused_iff (payload : ChangePasswordRequest) :
    refused (handle e (.auth (.change_password credentials payload)) s).1 = true ↔
      Platform.verify_password payload.current_password user.password_hash = false := by
  have h : Ends (answer (fun _ => Body.no_content) (change_password e credentials payload)) ⟨s, s⟩
      fun reply _ => refused reply = true ↔
        Platform.verify_password payload.current_password user.password_hash = false := by
    rw [ends_answer]
    unfold change_password
    rw [ends_current_user hu]
    cases Platform.verify_password payload.current_password user.password_hash with
    | false => exact iff_of_true rfl rfl
    | true =>
      simp only [Bool.not_true, Bool.false_eq_true, if_false]
      split
      · exact iff_of_false nofun nofun
      · exact iff_of_false nofun nofun
  exact h

end

/-- A handler whose token was accepted answers 401 to a wrong current password only. -/
theorem refused_iff {e : Env} {s : Store} {r : Request} (h : signedIn e s r = true) :
    refused (handle e r s).1 = true ↔ WrongPassword e s r := by
  unfold signedIn at h
  obtain ⟨credentials, hbearer, hok⟩ : ∃ credentials, r.bearer = some credentials ∧
      (get_current_user credentials e.now s).isOk = true := by
    cases hbearer : r.bearer with
    | none =>
      rw [hbearer] at h
      cases h
    | some credentials =>
      rw [hbearer] at h
      exact ⟨credentials, rfl, h⟩
  cases hu : get_current_user credentials e.now s with
  | error failure =>
    rw [hu] at hok
    cases hok
  | ok user =>
    have hother : refused (handle e r s).1 = false → (∀ c p, r ≠ .auth (.change_password c p)) →
        (refused (handle e r s).1 = true ↔ WrongPassword e s r) := by
      intro hkept hne
      refine iff_of_false (by rw [hkept]; exact nofun) ?_
      rintro ⟨c, p, _, heq, _⟩
      exact hne c p heq
    cases r with
    | tenant c request =>
      cases hbearer
      exact hother (tenant_not_refused hu request) nofun
    | ingest => cases hbearer
    | auth request =>
      cases request with
      | change_password c payload =>
        cases hbearer
        rw [change_password_refused_iff hu]
        constructor
        · exact fun hwrong => ⟨_, _, _, rfl, hu, hwrong⟩
        · rintro ⟨_, _, user', heq, hu', hwrong⟩
          cases heq
          cases hu.symm.trans hu'
          exact hwrong
      | logout_all =>
        cases hbearer
        exact hother (auth_not_refused hu _ (write_sure _ sure_commit).raises) nofun
      | list_sessions =>
        cases hbearer
        exact hother (auth_not_refused hu _ (sure_select _).raises) nofun
      | revoke_session c session_id =>
        cases hbearer
        refine hother (auth_not_refused hu _ ?_) nofun
        refine (sure_select _).raises.bind fun stored_token => ?_
        split
        · exact raises_throw rfl
        · split
          · exact (write_sure _ sure_commit).raises
          · exact (sure_pure _).raises
      | get_me =>
        cases hbearer
        refine hother ?_ nofun
        have h : Ends (answer (fun u => Body.user u.response) (get_me e credentials)) ⟨s, s⟩
            fun reply _ => refused reply = false := by
          rw [ends_answer]
          unfold get_me
          rw [ends_ask]
          simp only [hu]
          rfl
        exact h
      | _ => cases hbearer

end pulseforge

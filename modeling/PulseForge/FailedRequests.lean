-- What a request that fails leaves in the database. A handler checks and
-- writes, and only its last step commits; a failed login and a refused refresh
-- commit what they report. But a new event and a new key are read back after the
-- commit, and a request fails there when their time cannot be read.
import PulseForge.SessionTransactions
import PulseForge.WindowRange

open txn table

namespace pulseforge

variable [Platform]

/-! ## The three traces -/

section
variable (e : Env)

/-- The other requests under /auth leave the store when they fail. -/
theorem AuthOutcome.failure {s t : Store} {r : AuthRequest} {error : Failure}
    (h : AuthOutcome e s r (.error error) t) (hlogin : ∀ payload, r ≠ .login payload)
    (hrefresh : ∀ raw, r ≠ .refresh raw) : t = s := by
  cases h
  case login_failed payload row _ _ => exact absurd rfl (hlogin payload)
  case refresh_replayed raw row _ _ _ => exact absurd rfl (hrefresh (some raw))
  case refresh_ended raw row user _ _ _ _ _ => exact absurd rfl (hrefresh (some raw))
  all_goals rfl

variable (user : User)

omit [Platform] in
/-- `try: await session.flush()`, with a rollback and an error for what it catches. -/
theorem flush_tidy {α : Type} (f : Store → Except Failure Store) (k : Bool → Handler α)
    (hstored : Tidy (k true)) (hcaught : Tidy (k false)) :
    Tidy (attempt isIntegrityError (flush f) >>= k) := by
  refine ((pending_flush f).attempt _).then_tidy fun stored => ?_
  cases stored
  · exact hcaught
  · exact hstored

omit [Platform] in
/-- The last steps of a handler: it commits and answers. -/
theorem commit_tidy {α : Type} (a : α) : Tidy (commit >>= fun _ => (pure a : Handler α)) :=
  (sure_commit.bind fun _ => sure_pure a).tidy

omit [Platform] in
theorem rollback_tidy {α : Type} (failure : Failure) :
    Tidy (rollback >>= fun _ => (throw failure : Handler α)) :=
  (pending_rollback.bind fun _ => pending_throw failure).tidy

theorem create_organization_tidy (payload : OrganizationCreate) :
    Tidy (create_organization e payload user) := by
  unfold create_organization
  apply flush_tidy
  · exact (pending_write _).then_tidy fun _ => commit_tidy _
  · exact rollback_tidy _

theorem add_member_tidy (organization_id : UUID) (payload : MemberAdd) :
    Tidy (add_member e organization_id payload user) := by
  unfold add_member
  refine (pending_ask _).then_tidy fun actor => ?_
  split
  · exact (pending_throw _).tidy
  · split
    · exact (pending_throw _).tidy
    · refine (pending_select _).then_tidy fun target => ?_
      split
      · exact (pending_throw _).tidy
      · refine (pending_select _).then_tidy fun existing => ?_
        split
        · exact (pending_throw _).tidy
        · apply flush_tidy
          · exact commit_tidy _
          · exact rollback_tidy _

theorem update_member_role_tidy (organization_id member_id : UUID) (role : OrganizationRole) :
    Tidy (update_member_role e organization_id member_id role user) := by
  unfold update_member_role
  refine (pending_ask _).then_tidy fun actor => ?_
  refine (pending_ask _).then_tidy fun target => ?_
  refine (pending_ask _).then_tidy fun target_user => ?_
  split
  · exact (pending_throw _).tidy
  · split
    · exact (pending_throw _).tidy
    · split
      · exact (pending_throw _).tidy
      · refine (pending_write _).then_tidy fun _ => ?_
        exact (pending_write _).then_tidy fun _ => commit_tidy _

omit [Platform] in
theorem remove_member_tidy (organization_id member_id : UUID) :
    Tidy (remove_member organization_id member_id user) := by
  unfold remove_member
  refine (pending_ask _).then_tidy fun actor => ?_
  refine (pending_ask _).then_tidy fun target => ?_
  split
  · exact (pending_throw _).tidy
  · split
    · exact (pending_throw _).tidy
    · exact (pending_write _).then_tidy fun _ => sure_commit.tidy

theorem create_service_tidy (payload : ServiceCreate) : Tidy (create_service e payload user) := by
  unfold create_service
  refine (pending_ask _).then_tidy fun actor => ?_
  apply flush_tidy
  · exact (pending_write _).then_tidy fun _ => commit_tidy _
  · exact rollback_tidy _

theorem update_service_tidy (service_id : UUID) (payload : ServiceUpdate) :
    Tidy (update_service e service_id payload user) := by
  unfold update_service
  refine (pending_ask _).then_tidy fun service => ?_
  refine (pending_ask _).then_tidy fun actor => ?_
  refine (pending_ask _).then_tidy fun name => ?_
  split
  · exact rollback_tidy _
  · exact (pending_throw _).tidy
  · apply flush_tidy
    · exact commit_tidy _
    · exact rollback_tidy _

omit [Platform] in
theorem delete_service_tidy (service_id : UUID) : Tidy (delete_service service_id user) := by
  unfold delete_service
  refine (pending_ask _).then_tidy fun service => ?_
  refine (pending_ask _).then_tidy fun actor => ?_
  exact (pending_write _).then_tidy fun _ => sure_commit.tidy

/-- The row, its audit entry and what was written before it are one commit. -/
theorem issue_api_key_tidy (service : Service) (payload : ApiKeyCreate) (user_id : UUID)
    (action : AuditAction) (metadata : Metadata) :
    Tidy (issue_api_key e service payload user_id action metadata) := by
  unfold issue_api_key
  refine (pending_flush _).then_tidy fun _ => ?_
  exact (pending_write _).then_tidy fun _ => commit_tidy _

theorem create_service_api_key_tidy (service_id : UUID) (payload : ApiKeyCreate) :
    Tidy (create_service_api_key e service_id payload user) := by
  unfold create_service_api_key
  refine (pending_ask _).then_tidy fun service => ?_
  refine (pending_ask _).then_tidy fun actor => ?_
  exact issue_api_key_tidy e service payload user.id _ _

theorem revoke_api_key_tidy (api_key_id : UUID) : Tidy (revoke_api_key e api_key_id user) := by
  unfold revoke_api_key
  refine (pending_ask _).then_tidy fun api_key => ?_
  refine (pending_ask _).then_tidy fun actor => ?_
  split
  · refine (pending_write _).then_tidy fun _ => ?_
    exact (pending_write _).then_tidy fun _ => sure_commit.tidy
  · exact (pending_pure _).tidy

/-- The old key is revoked before the payload of the new one is validated; no
error leaves it revoked. -/
theorem rotate_api_key_tidy (api_key_id : UUID) : Tidy (rotate_api_key e api_key_id user) := by
  unfold rotate_api_key
  refine (pending_ask _).then_tidy fun old_key => ?_
  refine (pending_ask _).then_tidy fun actor => ?_
  split
  · exact (pending_throw _).tidy
  · split
    · exact (pending_throw _).tidy
    · refine (pending_ask _).then_tidy fun service => ?_
      refine (pending_write _).then_tidy fun _ => ?_
      refine (pending_ask _).then_tidy fun payload => ?_
      exact issue_api_key_tidy e service payload user.id _ _

theorem acknowledge_incident_tidy (incident_id : UUID) :
    Tidy (acknowledge_incident e incident_id user) := by
  unfold acknowledge_incident
  refine (pending_ask _).then_tidy fun incident => ?_
  refine (pending_ask _).then_tidy fun actor => ?_
  split
  · exact (pending_throw _).tidy
  · split
    · refine (pending_write _).then_tidy fun _ => ?_
      exact (pending_write _).then_tidy fun _ => commit_tidy _
    · exact (pending_pure _).tidy

theorem resolve_incident_tidy (incident_id : UUID) :
    Tidy (resolve_incident e incident_id user) := by
  unfold resolve_incident
  refine (pending_ask _).then_tidy fun incident => ?_
  refine (pending_ask _).then_tidy fun actor => ?_
  split
  · refine (pending_write _).then_tidy fun _ => ?_
    exact (pending_write _).then_tidy fun _ => commit_tidy _
  · exact (pending_pure _).tidy

omit [Platform] in
/-- The reads of an organization, after a check of the role. -/
theorem permission_pending {α : Type} (p : Permission) (organization_id user_id : UUID)
    {k : OrganizationMember → Handler α} (hk : ∀ m, Pending (k m)) :
    Pending (ask (require_permission p organization_id user_id) >>= k) :=
  (pending_ask _).bind hk

omit [Platform] in
/-- The read of one row, after a check that the user may see it. -/
theorem resource_pending {α β : Type} [TenantTable β] (id user_id : UUID) {k : β → Handler α}
    (hk : ∀ b, Pending (k b)) :
    Pending (ask (get_tenant_resource_or_404 β id user_id) >>= k) :=
  (pending_ask _).bind hk

omit [Platform] in
theorem Tidy.answer {α : Type} {h : Handler α} (body : α → Body) (ht : Tidy h) :
    Tidy (answer body h) := by
  intro s
  rw [ends_answer]
  refine (ht s).mono ?_
  rintro (err | _) s' hr error heq
  · exact hr err rfl
  · cases heq

theorem tenant_handler_tidy (r : TenantRequest) : Tidy (tenant_handler e user r) := by
  cases r <;> apply Tidy.answer
  case create_organization payload => exact create_organization_tidy e user payload
  case list_organizations =>
    exact ((pending_select _).bind fun _ => pending_pure _).tidy
  case list_members => exact (permission_pending _ _ _ fun _ => pending_ask _).tidy
  case add_member o payload => exact add_member_tidy e user o payload
  case update_member_role o m role => exact update_member_role_tidy e user o m role
  case remove_member o m => exact remove_member_tidy user o m
  case create_service payload => exact create_service_tidy e user payload
  case list_services => exact (permission_pending _ _ _ fun _ => pending_select _).tidy
  case get_service =>
    exact (resource_pending _ _ fun _ => permission_pending _ _ _ fun _ => pending_pure _).tidy
  case update_service v payload => exact update_service_tidy e user v payload
  case delete_service v => exact delete_service_tidy user v
  case create_service_api_key v payload => exact create_service_api_key_tidy e user v payload
  case list_service_api_keys =>
    exact (resource_pending _ _ fun _ => permission_pending _ _ _ fun _ =>
      (pending_select _).bind fun _ => pending_pure _).tidy
  case revoke_api_key k => exact revoke_api_key_tidy e user k
  case rotate_api_key k => exact rotate_api_key_tidy e user k
  case list_events =>
    exact (permission_pending _ _ _ fun _ => (pending_select _).bind fun _ => pending_pure _).tidy
  case get_event =>
    exact (resource_pending _ _ fun _ => permission_pending _ _ _ fun _ => pending_pure _).tidy
  case list_incidents =>
    exact (permission_pending _ _ _ fun _ => (pending_select _).bind fun _ => pending_pure _).tidy
  case get_incident =>
    exact (resource_pending _ _ fun _ => permission_pending _ _ _ fun _ => pending_pure _).tidy
  case acknowledge_incident i => exact acknowledge_incident_tidy e user i
  case resolve_incident i => exact resolve_incident_tidy e user i
  case list_audit_logs =>
    exact (permission_pending _ _ _ fun _ => (pending_select _).bind fun _ => pending_pure _).tidy

theorem tenant_failure (credentials : Option Bearer) (r : TenantRequest) (s : Store)
    (error : Failure) (h : (handle e (.tenant credentials r) s).1 = .error error) :
    (handle e (.tenant credentials r) s).2 = s := by
  have htidy : Tidy (handler e (.tenant credentials r)) :=
    (pending_ask _).then_tidy fun user => tenant_handler_tidy e user r
  exact htidy ⟨s, s⟩ error h

end

/-- The user may make keys of the service, and the column takes the name. -/
def CreatesKey (e : Env) (credentials : Option Bearer) (service_id : UUID) (payload : ApiKeyCreate)
    (s : Store) : Prop :=
  ∃ user service m, get_current_user credentials e.now s = .ok user ∧
    get_tenant_resource_or_404 Service service_id user.id s = .ok service ∧
    require_permission .API_KEY_MANAGE service.organization_id user.id s = .ok m ∧
    Platform.storable_text (strip payload.name) = true

section
variable {e : Env} {s : Store} {credentials : Option Bearer}

/-- A creation ends before it has written anything, or stores the key and reads it back. -/
theorem create_ends (credentials : Option Bearer) (service_id : UUID) (payload : ApiKeyCreate) :
    let end_ := loading.handle e (.tenant credentials (.create_service_api_key service_id payload)) s
    (∃ failure, end_ = (.error failure, s) ∧ ¬ CreatesKey e credentials service_id payload s) ∨
      CreatesKey e credentials service_id payload s ∧
        (∃ new_key, end_.2.api_keys = s.api_keys ++ [new_key]) ∧
        if payload.expires_at.all inCalendar then ∃ body, end_.1 = .ok body
        else end_.1 = .error .DataError := by
  have hends : Ends (loading.handler e (.tenant credentials (.create_service_api_key service_id payload)))
      ⟨s, s⟩ fun r s' =>
        (∃ failure, (r, s'.committed) = (.error failure, s) ∧
          ¬ CreatesKey e credentials service_id payload s) ∨
        CreatesKey e credentials service_id payload s ∧
          (∃ new_key, s'.committed.api_keys = s.api_keys ++ [new_key]) ∧
          if payload.expires_at.all inCalendar then ∃ body, r = .ok body
          else r = .error .DataError := by
    unfold loading.handler loading.tenant_handler loading.create_service_api_key CreatesKey
    simp only [ends_bind, ends_ask]
    cases huser : get_current_user credentials e.now s with
    | error failure => simp
    | ok user =>
      simp only [ends_answer, ends_bind, ends_ask]
      cases hservice : get_tenant_resource_or_404 Service service_id user.id s with
      | error failure => simp [hservice, Except.map]
      | ok service =>
        cases hm : require_permission .API_KEY_MANAGE service.organization_id user.id s with
        | error failure => simp [hservice, hm, Except.map]
        | ok m =>
          have hcreates : (∃ user' service' m', (Except.ok user : Except Failure User) = .ok user' ∧
              get_tenant_resource_or_404 Service service_id user'.id s = .ok service' ∧
              require_permission .API_KEY_MANAGE service'.organization_id user'.id s = .ok m' ∧
              Platform.storable_text (strip payload.name) = true) ↔
                Platform.storable_text (new_api_key e service payload).name = true := by
            constructor
            · rintro ⟨_, _, _, _, _, _, hstorable⟩
              exact hstorable
            · exact fun hstorable => ⟨user, service, m, rfl, hservice, hm, hstorable⟩
          unfold loading.issue_api_key issue_api_key refresh
          simp only [hm, ends_bind, ends_flush, insertApiKey, hcreates]
          have hloads : loads (new_api_key e service payload) = payload.expires_at.all inCalendar := rfl
          cases hstorable : Platform.storable_text (new_api_key e service payload).name with
          | false => simp [Except.map]
          | true =>
            simp only [if_true, ends_write, ends_commit, ends_pure, ends_ask, hloads]
            cases payload.expires_at.all inCalendar with
            | true => exact Or.inr ⟨trivial, ⟨_, rfl⟩, (if_pos rfl).mpr ⟨_, rfl⟩⟩
            | false => exact Or.inr ⟨trivial, ⟨_, rfl⟩, (if_neg Bool.false_ne_true).mpr rfl⟩
  exact hends

end

end pulseforge

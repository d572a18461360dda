-- The controls of the dashboard. What the pages let a signed-in user press, from the
-- memberships and the rows that they have loaded, is what the API lets that user do.
import PulseForge.KeySuccession
import PulseForge.Ownership
import PulseForge.PasswordHistory
import PulseForge.Registry

open txn table

namespace pulseforge

variable [Platform]

/-! ## The workspace -/

def Permission.value : Permission → Text
  | .ORGANIZATION_READ => "organization:read".toList
  | .ORGANIZATION_DELETE => "organization:delete".toList
  | .MEMBER_READ => "member:read".toList
  | .MEMBER_MANAGE => "member:manage".toList
  | .SERVICE_READ => "service:read".toList
  | .SERVICE_CREATE => "service:create".toList
  | .SERVICE_UPDATE => "service:update".toList
  | .SERVICE_DELETE => "service:delete".toList
  | .API_KEY_READ => "api_key:read".toList
  | .API_KEY_MANAGE => "api_key:manage".toList
  | .EVENT_READ => "event:read".toList
  | .INCIDENT_READ => "incident:read".toList
  | .INCIDENT_ACKNOWLEDGE => "incident:acknowledge".toList
  | .INCIDENT_RESOLVE => "incident:resolve".toList
  | .AUDIT_LOG_READ => "audit_log:read".toList

/-- What `useWorkspace` holds of the signed-in user. -/
structure Workspace where
  memberships : List OrganizationMembershipResponse
  organizationId : UUID

/-- The end of `bootstrap`, with the organization that the session storage names. A user
without an organization is sent to the first page. -/
def bootstrap (organizations : List OrganizationMembershipResponse) (saved : Option UUID) :
    Option Workspace :=
  organizations.head?.map fun first =>
    ⟨organizations, (saved.filter fun id => organizations.any fun item =>
      item.organization.id = id).getD first.organization.id⟩

namespace Workspace

variable (w : Workspace)

def setOrganizationId (value : UUID) : Workspace := { w with organizationId := value }

def membership : Option OrganizationMembershipResponse :=
  (w.memberships.find? fun item => item.organization.id = w.organizationId).or w.memberships.head?

/-- The permissions come as their texts. -/
def can (permission : Text) : Bool :=
  w.membership.any fun membership => permission ∈ membership.permissions.map Permission.value

/-! ## The pages -/

def canManage : Bool := w.can "member:manage".toList

def actorRole : Option OrganizationRole := w.membership.map fun membership => membership.role

def assignableRoles : List OrganizationRole :=
  if w.actorRole = some .OWNER then [.ADMIN, .ENGINEER, .VIEWER] else [.ENGINEER, .VIEWER]

def canManageMember (member : MemberResponse) : Bool :=
  if w.actorRole = some .OWNER then member.role ≠ .OWNER
  else member.role = .ENGINEER || member.role = .VIEWER

/-- The roles of the form that adds a member. -/
def addForm : List OrganizationRole := if w.canManage then w.assignableRoles else []

/-- The requests of the controls of a member: the select of its role, and the button
that removes it. -/
def memberControls (member : MemberResponse) : List TenantRequest :=
  if w.canManage && w.canManageMember member then
    (w.assignableRoles.map fun role => .update_member_role w.organizationId member.id role) ++
      [.remove_member w.organizationId member.id]
  else []

/-- The services page has the form for a new service. -/
def createForm : Bool := w.can "service:create".toList

omit [Platform] in
theorem dashboard_name_length : 2 ≤ "Dashboard ingestion key".toList.length ∧
    "Dashboard ingestion key".toList.length ≤ 120 := by decide

omit [Platform] in
theorem write_scope_present : [ApiKeyScope.EVENTS_WRITE] ≠ [] := List.cons_ne_nil _ _

omit [Platform] in
theorem write_scope_unique : [ApiKeyScope.EVENTS_WRITE].Nodup := List.nodup_singleton _

/-- The body that the services page posts for a new key. -/
def dashboardKey : ApiKeyCreate where
  name := "Dashboard ingestion key".toList
  scopes := [.EVENTS_WRITE]
  expires_at := none
  name_length := dashboard_name_length
  scopes_present := write_scope_present
  scopes_unique := write_scope_unique

def serviceControls (service : Service) : List TenantRequest :=
  if w.can "api_key:manage".toList then [.create_service_api_key service.id dashboardKey] else []

def incidentControls (incident : Incident) : List TenantRequest :=
  (if w.can "incident:acknowledge".toList && incident.status = .OPEN then
    [.acknowledge_incident incident.id] else []) ++
  (if w.can "incident:resolve".toList && incident.status ≠ .RESOLVED then
    [.resolve_incident incident.id] else [])

/-- The audit page loads rows, and the sidebar links to it. -/
def canRead : Bool := w.can "audit_log:read".toList

end Workspace

/-! ## The workspace of a user -/

omit [Platform] in
theorem Permission.value_injective : Function.Injective Permission.value := by
  intro p q h
  cases p <;> cases q <;> first | rfl | (revert h; decide)

/-- The workspace holds the memberships that the API lists, and has one of their
organizations selected. -/
structure OpenedOn (credentials : Option Bearer) (s : Store) (w : Workspace) : Prop where
  listed : ∃ e, (handle e (.tenant credentials .list_organizations) s).1 = .ok (.organizations w.memberships)
  selected : ∃ item ∈ w.memberships, item.organization.id = w.organizationId

theorem opened_bootstrap {credentials : Option Bearer} {s : Store} {e : Env}
    {organizations : List OrganizationMembershipResponse} {saved : Option UUID} {w : Workspace}
    (hlisted : (handle e (.tenant credentials .list_organizations) s).1 = .ok (.organizations organizations))
    (hw : bootstrap organizations saved = some w) : OpenedOn credentials s w := by
  unfold bootstrap at hw
  obtain ⟨first, hfirst, rfl⟩ := Option.map_eq_some_iff.mp hw
  refine ⟨⟨e, hlisted⟩, ?_⟩
  cases hsaved : saved.filter fun id => organizations.any fun item => item.organization.id = id with
  | none => exact ⟨first, List.mem_of_mem_head? hfirst, rfl⟩
  | some id =>
    obtain ⟨_, hany⟩ := Option.filter_eq_some_iff.mp hsaved
    obtain ⟨item, hitem, hid⟩ := List.any_eq_true.mp hany
    exact ⟨item, hitem, of_decide_eq_true hid⟩

theorem OpenedOn.setOrganizationId {credentials : Option Bearer} {s : Store} {w : Workspace}
    (h : OpenedOn credentials s w) {item : OrganizationMembershipResponse} (hitem : item ∈ w.memberships) :
    OpenedOn credentials s (w.setOrganizationId item.organization.id) :=
  ⟨h.listed, item, hitem, rfl⟩

/-! ## One membership -/

/-- `uq_organization_member`: a user has one membership in an organization. -/
def MemberOnce (s : Store) : Prop :=
  UniqueOn (fun m : OrganizationMember => (m.organization_id, m.user_id)) s.organization_members

/-- In every reachable store a user has one membership in an organization. -/
theorem Reachable.member_once {s : Store} (h : Reachable s) : MemberOnce s := by
  refine h.inv (table.uniqueOn_nil _) fun s e r hr hf hs => ?_
  refine served_cases (P := fun _ s' => MemberOnce s') (fun _ => hs) ?_ ?_ ?_ r
  · intro r reply s' hout
    cases hout <;> exact hs
  · intro credentials user r s' _ hw
    cases hw with
    | organization_created payload hslug =>
      refine UniqueOn.insert hs fun m hm heq => ?_
      obtain ⟨o, ho, hid⟩ := hr.owned.homed m hm
      exact hf.organization 0 o ho (hid.trans (congrArg Prod.fst heq))
    | member_added organization_id payload actor target hp howner hrole hnew =>
      refine UniqueOn.insert hs fun m hm heq => ?_
      have hnot := List.any_eq_false.mp hnew m hm
      simp only [Bool.and_eq_true, decide_eq_true_eq] at hnot
      exact hnot ⟨congrArg Prod.fst heq, congrArg Prod.snd heq⟩
    | role_changed organization_id member_id role actor target hp ht howner hold hnew =>
      exact UniqueOn.update hs fun _ _ _ => rfl
    | member_removed organization_id member_id actor target hp ht hself hold =>
      exact UniqueOn.filter hs _
    | _ => exact hs
  · intro credentials payload k reply s' _ hout
    cases hout with
    | stored _ _ _ _ _ he =>
      obtain ⟨_, _, rfl⟩ := he.store_eq
      exact hs
    | _ => exact hs

omit [Platform] in
theorem MemberOnce.find {s : Store} (h : MemberOnce s) {m : OrganizationMember}
    (hm : m ∈ s.organization_members) :
    findMembership s m.organization_id m.user_id = some m := by
  refine find?_eq_of_unique hm (by simp) fun m' hm' hp => ?_
  simp only [Bool.and_eq_true, decide_eq_true_eq] at hp
  exact UniqueOn.eq h hm' hm (Prod.ext hp.1 hp.2)

/-! ## The workspace of a user -/

section
variable {credentials : Option Bearer} {s : Store} {e : Env} {w : Workspace} {user : User}

omit [Platform] in
/-- One token names one user. -/
theorem current_user_same {now now' : Int} {user' : User}
    (h : get_current_user credentials now s = .ok user)
    (h' : get_current_user credentials now' s = .ok user') : user' = user := by
  obtain ⟨token, hcredentials, _, hfind, _⟩ := current_user_of_ok h
  obtain ⟨token', hcredentials', _, hfind', _⟩ := current_user_of_ok h'
  obtain rfl : token = token' := by
    rw [hcredentials] at hcredentials'
    injection hcredentials' with heq
    injection heq
  rw [hfind] at hfind'
  injection hfind' with heq
  exact heq.symm

/-- What a request of a signed-in user ends in, its handler ends in. -/
theorem ends_tenant {r : TenantRequest} {Q : Except Failure Body → Store → Prop}
    (huser : get_current_user credentials e.now s = .ok user)
    (h : Ends (tenant_handler e user r) ⟨s, s⟩ fun reply s' => Q reply s'.committed) :
    Q (handle e (.tenant credentials r) s).1 (handle e (.tenant credentials r) s).2 := by
  refine ends_runRequest ?_
  unfold handler
  rw [ends_bind, ends_ask, huser]
  exact h

/-- A request with an answer is of a signed-in user. -/
theorem user_of_answer {r : TenantRequest} {body : Body}
    (h : (handle e (.tenant credentials r) s).1 = .ok body) :
    ∃ user, get_current_user credentials e.now s = .ok user := by
  cases huser : get_current_user credentials e.now s with
  | ok user => exact ⟨user, rfl⟩
  | error failure =>
    refine absurd h ?_
    refine ends_runRequest (Q := fun reply _ => reply ≠ .ok body) ?_
    unfold handler
    rw [ends_bind, ends_ask, huser]
    exact nofun

omit [Platform] in
theorem mem_membershipsOf {user_id : UUID} {p : OrganizationMember × Organization}
    (h : p ∈ membershipsOf user_id s) :
    p.1 ∈ s.organization_members ∧ p.1.user_id = user_id ∧ p.2.id = p.1.organization_id := by
  have hrow := (List.perm_insertionSort _ _).mem_iff.mp h
  simp only [List.mem_flatMap, List.mem_map, List.mem_filter, decide_eq_true_eq] at hrow
  obtain ⟨m, ⟨hm, huser⟩, o, ⟨_, ho⟩, rfl⟩ := hrow
  exact ⟨hm, huser, ho⟩

theorem organizations_answer {e' : Env} {l : List OrganizationMembershipResponse}
    (huser : get_current_user credentials e.now s = .ok user)
    (h : (handle e' (.tenant credentials .list_organizations) s).1 = .ok (.organizations l)) :
    l = (membershipsOf user.id s).map fun p => ⟨p.2.response, p.1.role,
      ALL_PERMISSIONS.filter fun x => x ∈ permissions_for_role p.1.role⟩ := by
  obtain ⟨user', huser'⟩ := user_of_answer h
  obtain rfl := current_user_same huser huser'
  revert h
  refine ends_tenant (Q := fun reply _ => reply = .ok (.organizations l) → _) huser' ?_
  unfold tenant_handler list_organizations
  simp only [ends_answer, ends_bind, ends_select, ends_pure]
  intro heq
  injection heq with heq
  injection heq with heq
  exact heq.symm

/-- The selected membership of an opened workspace is the row of the user. -/
theorem OpenedOn.member (h : OpenedOn credentials s w) (hs : Reachable s)
    (huser : get_current_user credentials e.now s = .ok user) :
    ∃ m ∈ s.organization_members, m.organization_id = w.organizationId ∧
      findMembership s w.organizationId user.id = some m ∧ ∃ organization,
      w.membership = some ⟨organization, m.role,
        ALL_PERMISSIONS.filter fun x => x ∈ permissions_for_role m.role⟩ := by
  obtain ⟨e', hlisted⟩ := h.listed
  have hitems := organizations_answer huser hlisted
  obtain ⟨item, hitem, hid⟩ := h.selected
  obtain ⟨found, hfound⟩ : ∃ found, (w.memberships.find? fun item =>
      item.organization.id = w.organizationId) = some found :=
    Option.isSome_iff_exists.mp (List.find?_isSome.mpr ⟨item, hitem, decide_eq_true hid⟩)
  obtain ⟨hmem, hfoundid⟩ := find?_mem hfound
  rw [hitems, List.mem_map] at hmem
  obtain ⟨⟨m, o⟩, hrow, rfl⟩ := hmem
  obtain ⟨hm, hmuser, hmo⟩ := mem_membershipsOf hrow
  have hmw : m.organization_id = w.organizationId := hmo.symm.trans (of_decide_eq_true hfoundid)
  refine ⟨m, hm, hmw, ?_, o.response, ?_⟩
  · rw [← hmw, ← hmuser]
    exact hs.member_once.find hm
  · unfold Workspace.membership
    rw [hfound]
    rfl

/-- What the API makes of a permission of the actor. -/
def Permits (s : Store) (organization_id user_id : UUID) (m : OrganizationMember) : Prop :=
  ∀ p : Permission, require_permission p organization_id user_id s =
    if p ∈ permissions_for_role m.role then .ok m else .error PermissionDeniedError

/-- The workspace gives a permission exactly when the API does. -/
theorem OpenedOn.permission (h : OpenedOn credentials s w) (hs : Reachable s)
    (huser : get_current_user credentials e.now s = .ok user) :
    ∃ m ∈ s.organization_members, m.organization_id = w.organizationId ∧ m.user_id = user.id ∧
      w.actorRole = some m.role ∧ Permits s w.organizationId user.id m ∧
      ∀ p : Permission, w.can p.value = true ↔ p ∈ permissions_for_role m.role := by
  obtain ⟨m, hm, horganization, hfind, organization, hmembership⟩ := h.member hs huser
  have hself := (find?_mem hfind).2
  simp only [Bool.and_eq_true, decide_eq_true_eq] at hself
  refine ⟨m, hm, horganization, hself.2, ?_, fun p => ?_, fun p => ?_⟩
  · unfold Workspace.actorRole
    rw [hmembership]
    rfl
  · unfold require_permission get_membership_or_404
    rw [hfind]
  · unfold Workspace.can
    rw [hmembership, Option.any_some, decide_eq_true_iff, List.mem_map]
    constructor
    · rintro ⟨q, hq, heq⟩
      rw [← Permission.value_injective heq]
      simpa using (List.mem_filter.mp hq).2
    · intro hp
      exact ⟨p, List.mem_filter.mpr ⟨by cases p <;> decide, decide_eq_true hp⟩, rfl⟩

/-! ## Requests that do something -/

/-- The request is accepted, and the tables are not as they were. -/
def Works (e : Env) (credentials : Option Bearer) (r : TenantRequest) (s : Store) : Prop :=
  accepted e (.tenant credentials r) s = true ∧ (handle e (.tenant credentials r) s).2 ≠ s

theorem works_iff {r : TenantRequest} {P : Prop}
    (huser : get_current_user credentials e.now s = .ok user)
    (h : Ends (tenant_handler e user r) ⟨s, s⟩ fun reply s' =>
      (reply.isOk = true ∧ s'.committed ≠ s ↔ P)) : Works e credentials r s ↔ P :=
  ends_tenant (Q := fun reply s' => (reply.isOk = true ∧ s' ≠ s ↔ P)) huser h

omit [Platform] in
@[simp] theorem isOk_error (failure : Failure) :
    (Except.error failure : Except Failure Body).isOk = false := rfl

omit [Platform] in
theorem addAudit_ne {row : AuditLog} {t : Store} (h : t.audit_logs = s.audit_logs) :
    addAudit row t ≠ s := by
  intro heq
  have hlength := congrArg (fun s => s.audit_logs.length) heq
  simp [addAudit, h] at hlength

variable {m : OrganizationMember}

theorem update_member_role_works {o : UUID} (huser : get_current_user credentials e.now s = .ok user)
    (hm : Permits s o user.id m) {target : OrganizationMember} {account : User}
    (htarget : get_target_member o target.id s = .ok target)
    (haccount : tokenUser target.user_id s = .ok account) (role : OrganizationRole) :
    Works e credentials (.update_member_role o target.id role) s ↔
      .MEMBER_MANAGE ∈ permissions_for_role m.role ∧ role ≠ .OWNER ∧
        can_manage_role m.role target.role = true ∧ can_manage_role m.role role = true := by
  refine works_iff huser ?_
  unfold tenant_handler update_member_role
  simp only [ends_answer, ends_bind, ends_ask, hm .MEMBER_MANAGE]
  by_cases hp : Permission.MEMBER_MANAGE ∈ permissions_for_role m.role
  · simp only [hp, if_true, htarget, haccount, true_and]
    by_cases howner : role = .OWNER
    · simp [howner]
    · by_cases hold : can_manage_role m.role target.role = true
      · by_cases hnew : can_manage_role m.role role = true
        · simp only [howner, hold, hnew, Bool.not_true, Bool.false_eq_true, if_false, ends_bind,
            ends_write, ends_commit, ends_pure]
          exact iff_of_true ⟨rfl, addAudit_ne rfl⟩ ⟨howner, trivial, trivial⟩
        · simp [howner, hold, hnew, Except.map]
      · simp [howner, hold, Except.map]
  · simp [hp, Except.map]

theorem remove_member_works {o : UUID} (huser : get_current_user credentials e.now s = .ok user)
    (hm : Permits s o user.id m) {target : OrganizationMember}
    (hmem : target ∈ s.organization_members) (htarget : get_target_member o target.id s = .ok target) :
    Works e credentials (.remove_member o target.id) s ↔
      .MEMBER_MANAGE ∈ permissions_for_role m.role ∧ target.user_id ≠ user.id ∧
        can_manage_role m.role target.role = true := by
  have hdeleted : deleteMember target.id s ≠ s := by
    intro heq
    have hkept : target ∈ (deleteMember target.id s).organization_members := by
      rw [heq]
      exact hmem
    simpa [deleteMember] using (List.mem_filter.mp hkept).2
  refine works_iff huser ?_
  unfold tenant_handler remove_member
  simp only [ends_answer, ends_bind, ends_ask, hm .MEMBER_MANAGE]
  by_cases hp : Permission.MEMBER_MANAGE ∈ permissions_for_role m.role
  · simp only [hp, if_true, htarget, true_and]
    by_cases hself : target.user_id = user.id
    · simp [hself, Except.map]
    · by_cases hold : can_manage_role m.role target.role = true
      · simp only [hself, hold, Bool.not_true, Bool.false_eq_true, if_false, ends_bind, ends_write,
          ends_commit]
        exact iff_of_true ⟨rfl, hdeleted⟩ ⟨hself, trivial⟩
      · simp [hself, hold, Except.map]
  · simp [hp, Except.map]

theorem add_member_works {o : UUID} (huser : get_current_user credentials e.now s = .ok user)
    (hm : Permits s o user.id m) {payload : MemberAdd} {account : User}
    (hemail : findUserByEmail s payload.email = some account) (hactive : account.is_active = true)
    (hnew : findMembership s o account.id = none) :
    Works e credentials (.add_member o payload) s ↔
      .MEMBER_MANAGE ∈ permissions_for_role m.role ∧ payload.role ≠ .OWNER ∧
        can_manage_role m.role payload.role = true := by
  have hinsert : insertMember (new_member e o account.id payload.role) s =
      .ok (addMember (new_member e o account.id payload.role) s) := by
    unfold insertMember
    rw [if_neg]
    show ¬ isMember s o account.id = true
    rw [isMember_eq, hnew]
    exact Bool.false_ne_true
  have hadded : addMember (new_member e o account.id payload.role) s ≠ s := by
    intro heq
    have hlength := congrArg (fun s => s.organization_members.length) heq
    simp [addMember] at hlength
  refine works_iff huser ?_
  unfold tenant_handler add_member
  simp only [ends_answer, ends_bind, ends_ask, hm .MEMBER_MANAGE]
  by_cases hp : Permission.MEMBER_MANAGE ∈ permissions_for_role m.role
  · simp only [hp, if_true, true_and]
    by_cases howner : payload.role = .OWNER
    · simp [howner, Except.map]
    · by_cases hrole : can_manage_role m.role payload.role = true
      · simp only [howner, hrole, Bool.not_true, Bool.false_eq_true, if_false, ends_bind, ends_select,
          hemail, Option.filter_some, hactive, if_true, hnew, Option.isSome_none, ends_attempt,
          ends_flush, hinsert, ends_commit, ends_pure]
        exact iff_of_true ⟨rfl, hadded⟩ ⟨howner, trivial⟩
      · simp [howner, hrole, Except.map]
  · simp [hp, Except.map]

theorem create_service_works (huser : get_current_user credentials e.now s = .ok user)
    {payload : ServiceCreate} (hm : Permits s payload.organization_id user.id m)
    (hstorable : (new_service e payload).storable = true)
    (hslug : slugTaken (new_service e payload) s = false) :
    Works e credentials (.create_service payload) s ↔
      .SERVICE_CREATE ∈ permissions_for_role m.role := by
  have hinsert : insertService (new_service e payload) s =
      .ok { s with services := s.services ++ [new_service e payload] } := by
    simp [insertService, hstorable, hslug]
  refine works_iff huser ?_
  unfold tenant_handler create_service
  simp only [ends_answer, ends_bind, ends_ask, hm .SERVICE_CREATE]
  by_cases hp : Permission.SERVICE_CREATE ∈ permissions_for_role m.role
  · simp only [hp, if_true, ends_attempt, ends_flush, hinsert, ends_bind, ends_write, ends_commit,
      ends_pure]
    exact iff_of_true ⟨rfl, addAudit_ne rfl⟩ trivial
  · simp [hp, Except.map]

theorem create_service_api_key_works (huser : get_current_user credentials e.now s = .ok user)
    {service : Service} (hm : Permits s service.organization_id user.id m)
    (hservice : get_tenant_resource_or_404 Service service.id user.id s = .ok service)
    {payload : ApiKeyCreate} (hstorable : Platform.storable_text (strip payload.name) = true) :
    Works e credentials (.create_service_api_key service.id payload) s ↔
      .API_KEY_MANAGE ∈ permissions_for_role m.role := by
  have hinsert : insertApiKey (new_api_key e service payload) s =
      .ok { s with api_keys := s.api_keys ++ [new_api_key e service payload] } := if_pos hstorable
  refine works_iff huser ?_
  unfold tenant_handler create_service_api_key issue_api_key
  simp only [ends_answer, ends_bind, ends_ask, hservice, hm .API_KEY_MANAGE]
  by_cases hp : Permission.API_KEY_MANAGE ∈ permissions_for_role m.role
  · simp only [hp, if_true, ends_flush, hinsert, ends_write, ends_commit, ends_pure]
    exact iff_of_true ⟨rfl, addAudit_ne rfl⟩ trivial
  · simp [hp, Except.map]

theorem acknowledge_incident_works (huser : get_current_user credentials e.now s = .ok user)
    {incident : Incident} (hm : Permits s incident.organization_id user.id m)
    (hincident : get_tenant_resource_or_404 Incident incident.id user.id s = .ok incident) :
    Works e credentials (.acknowledge_incident incident.id) s ↔
      .INCIDENT_ACKNOWLEDGE ∈ permissions_for_role m.role ∧ incident.status = .OPEN := by
  refine works_iff huser ?_
  unfold tenant_handler acknowledge_incident
  simp only [ends_answer, ends_bind, ends_ask, hincident, hm .INCIDENT_ACKNOWLEDGE]
  by_cases hp : Permission.INCIDENT_ACKNOWLEDGE ∈ permissions_for_role m.role
  · simp only [hp, if_true, true_and]
    cases hstatus : incident.status with
    | OPEN =>
      simp only [reduceCtorEq, if_false, if_true, ends_bind, ends_write, ends_commit, ends_pure]
      exact iff_of_true ⟨rfl, addAudit_ne rfl⟩ trivial
    | ACKNOWLEDGED => simp
    | RESOLVED => simp [Except.map]
  · simp [hp, Except.map]

theorem resolve_incident_works (huser : get_current_user credentials e.now s = .ok user)
    {incident : Incident} (hm : Permits s incident.organization_id user.id m)
    (hincident : get_tenant_resource_or_404 Incident incident.id user.id s = .ok incident) :
    Works e credentials (.resolve_incident incident.id) s ↔
      .INCIDENT_RESOLVE ∈ permissions_for_role m.role ∧ incident.status ≠ .RESOLVED := by
  refine works_iff huser ?_
  unfold tenant_handler resolve_incident
  simp only [ends_answer, ends_bind, ends_ask, hincident, hm .INCIDENT_RESOLVE]
  by_cases hp : Permission.INCIDENT_RESOLVE ∈ permissions_for_role m.role
  · simp only [hp, if_true, true_and]
    by_cases hstatus : incident.status = .RESOLVED
    · simp [hstatus]
    · simp only [hstatus, ne_eq, not_false_eq_true, if_true, ends_bind, ends_write, ends_commit,
        ends_pure]
      exact iff_of_true ⟨rfl, addAudit_ne rfl⟩ trivial
  · simp [hp, Except.map]

theorem list_audit_logs_accepted {o : UUID} (huser : get_current_user credentials e.now s = .ok user)
    (hm : Permits s o user.id m) (limit offset : Nat) :
    accepted e (.tenant credentials (.list_audit_logs o limit offset)) s = true ↔
      .AUDIT_LOG_READ ∈ permissions_for_role m.role := by
  refine ends_tenant (Q := fun reply _ => (reply.isOk = true ↔ _)) huser ?_
  unfold tenant_handler list_audit_logs
  simp only [ends_answer, ends_bind, ends_ask, hm .AUDIT_LOG_READ]
  by_cases hp : Permission.AUDIT_LOG_READ ∈ permissions_for_role m.role
  · simp only [hp, if_true, ends_select, ends_pure]
    exact iff_of_true rfl trivial
  · simp [hp, Except.map]

/-! ## The rows of a page -/

omit [Platform] in
theorem mem_of_mapM_ok {α β : Type} {f : α → Except Failure β} {rows : List α} {l : List β}
    (h : rows.mapM f = .ok l) {b : β} (hb : b ∈ l) : ∃ a ∈ rows, f a = .ok b := by
  induction rows generalizing l with
  | nil =>
    cases h
    cases hb
  | cons a rows ih =>
    rw [List.mapM_cons] at h
    obtain ⟨b', hb', h⟩ := bind_ok h
    obtain ⟨rest, hrest, h⟩ := bind_ok h
    cases h
    rcases List.mem_cons.mp hb with rfl | hb
    · exact ⟨a, List.mem_cons_self, hb'⟩
    · obtain ⟨a', ha', hfa⟩ := ih hrest hb
      exact ⟨a', List.mem_cons_of_mem a ha', hfa⟩

theorem members_answer {e' : Env} {o : UUID} {members : List MemberResponse}
    (h : (handle e' (.tenant credentials (.list_members o)) s).1 = .ok (.members members))
    {member : MemberResponse} (hmember : member ∈ members) :
    ∃ target ∈ s.organization_members, ∃ account, target.organization_id = o ∧
      tokenUser target.user_id s = .ok account ∧ member = to_member_response target account := by
  have hrows : membersOf o s = .ok members := by
    refine tenant_yields (e := e') (s := s) (r := .list_members o)
      (P := fun body _ => ∀ l, body = .members l → membersOf o s = .ok l)
      (fun user' => yields_answer (yields_ask fun _ _ => ?_)) h members rfl
    intro rows hrows l heq
    cases heq
    exact hrows
  obtain ⟨target, htarget, hmap⟩ := mem_of_mapM_ok hrows hmember
  have hin := (List.perm_insertionSort _ _).mem_iff.mp htarget
  obtain ⟨hmem, ho⟩ := List.mem_filter.mp hin
  cases haccount : tokenUser target.user_id s with
  | error failure =>
    rw [haccount] at hmap
    cases hmap
  | ok account =>
    rw [haccount] at hmap
    cases hmap
    exact ⟨target, hmem, account, of_decide_eq_true ho, haccount, rfl⟩

theorem services_answer {e' : Env} {o : UUID} {services : List Service}
    (h : (handle e' (.tenant credentials (.list_services o)) s).1 = .ok (.services services))
    {service : Service} (hservice : service ∈ services) :
    service ∈ s.services ∧ service.organization_id = o := by
  have hrows : servicesOf o s = services := by
    refine tenant_yields (e := e') (s := s) (r := .list_services o)
      (P := fun body _ => ∀ l, body = .services l → servicesOf o s = l)
      (fun user' => yields_answer (yields_ask fun _ _ => ?_)) h services rfl
    rintro _ ⟨⟩ l heq
    cases heq
    rfl
  rw [← hrows] at hservice
  obtain ⟨hmem, ho⟩ := List.mem_filter.mp ((List.perm_insertionSort _ _).mem_iff.mp hservice)
  exact ⟨hmem, of_decide_eq_true ho⟩

theorem incidents_answer {e' : Env} {o : UUID} {status : Option IncidentStatus} {limit : Nat}
    {incidents : List Incident}
    (h : (handle e' (.tenant credentials (.list_incidents o status limit)) s).1 =
      .ok (.incidents incidents))
    {incident : Incident} (hincident : incident ∈ incidents) :
    incident ∈ s.incidents ∧ incident.organization_id = o := by
  have hrows : page limit 0 (incidentsOf o status s) = incidents := by
    refine tenant_yields (e := e') (s := s) (r := .list_incidents o status limit)
      (P := fun body _ => ∀ l, body = .incidents l → page limit 0 (incidentsOf o status s) = l)
      (fun user' => yields_answer (yields_ask fun _ _ => ?_)) h incidents rfl
    rintro _ ⟨⟩ l heq
    cases heq
    rfl
  rw [← hrows] at hincident
  have hin := (List.perm_insertionSort _ _).mem_iff.mp (List.mem_of_mem_drop (List.mem_of_mem_take hincident))
  obtain ⟨hmem, ho⟩ := List.mem_filter.mp hin
  exact ⟨hmem, of_decide_eq_true (Bool.and_eq_true_iff.mp ho).1⟩

/-! ## The controls -/

omit [Platform] in
/-- A role change that is on offer is one that the roles allow. -/
theorem offered_role (actor target role : OrganizationRole) :
    (.MEMBER_MANAGE ∈ permissions_for_role actor ∧
      (if actor = .OWNER then target ≠ .OWNER else target = .ENGINEER ∨ target = .VIEWER) ∧
      role ∈ (if actor = .OWNER then [.ADMIN, .ENGINEER, .VIEWER] else [.ENGINEER, .VIEWER])) ↔
    .MEMBER_MANAGE ∈ permissions_for_role actor ∧ role ≠ .OWNER ∧
      can_manage_role actor target = true ∧ can_manage_role actor role = true := by
  cases actor <;> cases target <;> cases role <;> decide

omit [Platform] in
theorem offered_removal (actor target : OrganizationRole) :
    (.MEMBER_MANAGE ∈ permissions_for_role actor ∧
      if actor = .OWNER then target ≠ .OWNER else target = .ENGINEER ∨ target = .VIEWER) ↔
    .MEMBER_MANAGE ∈ permissions_for_role actor ∧ can_manage_role actor target = true := by
  cases actor <;> cases target <;> decide

omit [Platform] in
theorem offered_addition (actor role : OrganizationRole) :
    (.MEMBER_MANAGE ∈ permissions_for_role actor ∧
      role ∈ (if actor = .OWNER then [.ADMIN, .ENGINEER, .VIEWER] else [.ENGINEER, .VIEWER])) ↔
    .MEMBER_MANAGE ∈ permissions_for_role actor ∧ role ≠ .OWNER ∧
      can_manage_role actor role = true := by
  cases actor <;> cases role <;> decide

omit [Platform] in
/-- Nobody manages a member of the own role. -/
theorem not_own_role (role : OrganizationRole) : can_manage_role role role = false := by
  cases role <;> rfl

omit [Platform] in
theorem addForm_iff {role : OrganizationRole} :
    role ∈ w.addForm ↔ w.canManage = true ∧ role ∈ w.assignableRoles := by
  unfold Workspace.addForm
  by_cases h : w.canManage = true <;> simp [h]

omit [Platform] in
theorem role_offered {member : MemberResponse} {role : OrganizationRole} :
    .update_member_role w.organizationId member.id role ∈ w.memberControls member ↔
      w.canManage = true ∧ w.canManageMember member = true ∧ role ∈ w.assignableRoles := by
  unfold Workspace.memberControls
  by_cases h : w.canManage = true <;> by_cases h' : w.canManageMember member = true <;> simp [h, h']

omit [Platform] in
theorem removal_offered {member : MemberResponse} :
    .remove_member w.organizationId member.id ∈ w.memberControls member ↔
      w.canManage = true ∧ w.canManageMember member = true := by
  unfold Workspace.memberControls
  by_cases h : w.canManage = true <;> by_cases h' : w.canManageMember member = true <;> simp [h, h']

omit [Platform] in
theorem assignableRoles_eq (hactor : w.actorRole = some m.role) :
    w.assignableRoles =
      if m.role = .OWNER then [.ADMIN, .ENGINEER, .VIEWER] else [.ENGINEER, .VIEWER] := by
  unfold Workspace.assignableRoles
  rw [hactor]
  by_cases howner : m.role = .OWNER <;> simp [howner]

omit [Platform] in
theorem canManageMember_iff (hactor : w.actorRole = some m.role) (target : OrganizationMember)
    (account : User) :
    w.canManageMember (to_member_response target account) = true ↔
      if m.role = .OWNER then target.role ≠ .OWNER
      else target.role = .ENGINEER ∨ target.role = .VIEWER := by
  unfold Workspace.canManageMember to_member_response
  rw [hactor]
  by_cases howner : m.role = .OWNER <;> simp [howner]

section
variable (hs : Reachable s) (hw : OpenedOn credentials s w)
variable (huser : get_current_user credentials e.now s = .ok user)
include hs hw huser

theorem member_controls_fit {e' : Env} {members : List MemberResponse}
    (h : (handle e' (.tenant credentials (.list_members w.organizationId)) s).1 = .ok (.members members))
    {member : MemberResponse} (hmember : member ∈ members) :
    (∀ role, .update_member_role w.organizationId member.id role ∈ w.memberControls member ↔
      Works e credentials (.update_member_role w.organizationId member.id role) s) ∧
    (.remove_member w.organizationId member.id ∈ w.memberControls member ↔
      Works e credentials (.remove_member w.organizationId member.id) s) := by
  obtain ⟨m, hm, horganization, hself, hactor, hpermits, hcan⟩ := hw.permission hs huser
  obtain ⟨target, htarget, account, ho, haccount, rfl⟩ := members_answer h hmember
  have hfound : get_target_member w.organizationId target.id s = .ok target := by
    unfold get_target_member
    rw [find?_eq_of_unique htarget (by simp [ho]) fun m' hm' hp => ?_]
    simp only [Bool.and_eq_true, decide_eq_true_eq] at hp
    exact (reachable_keyed hs).member_ids.eq hm' htarget hp.2
  have hmanage : w.canManage = true ↔ .MEMBER_MANAGE ∈ permissions_for_role m.role :=
    hcan .MEMBER_MANAGE
  refine ⟨fun role => ?_, ?_⟩
  · rw [role_offered, hmanage, canManageMember_iff hactor, assignableRoles_eq hactor, offered_role]
    exact (update_member_role_works huser hpermits hfound haccount role).symm
  · rw [removal_offered, hmanage, canManageMember_iff hactor, offered_removal]
    refine Iff.trans ?_ (remove_member_works huser hpermits htarget hfound).symm
    refine and_congr_right fun _ => ⟨fun hrole => ⟨fun heq => ?_, hrole⟩, fun h => h.2⟩
    -- A row of the user itself has the user's role.
    have hsame : target = m := UniqueOn.eq hs.member_once htarget hm
      (Prod.ext (ho.trans horganization.symm) (heq.trans hself.symm))
    rw [hsame, not_own_role] at hrole
    cases hrole

theorem add_form_fits {payload : MemberAdd} {account : User}
    (hemail : findUserByEmail s payload.email = some account) (hactive : account.is_active = true)
    (hnew : findMembership s w.organizationId account.id = none) :
    payload.role ∈ w.addForm ↔ Works e credentials (.add_member w.organizationId payload) s := by
  obtain ⟨m, _, _, _, hactor, hpermits, hcan⟩ := hw.permission hs huser
  have hmanage : w.canManage = true ↔ .MEMBER_MANAGE ∈ permissions_for_role m.role :=
    hcan .MEMBER_MANAGE
  rw [addForm_iff, hmanage, assignableRoles_eq hactor, offered_addition]
  exact (add_member_works huser hpermits hemail hactive hnew).symm

theorem create_form_fits {payload : ServiceCreate} (ho : payload.organization_id = w.organizationId)
    (hstorable : (new_service e payload).storable = true)
    (hslug : slugTaken (new_service e payload) s = false) :
    w.createForm = true ↔ Works e credentials (.create_service payload) s := by
  obtain ⟨m, _, _, _, _, hpermits, hcan⟩ := hw.permission hs huser
  rw [← ho] at hpermits
  exact (hcan .SERVICE_CREATE).trans (create_service_works huser hpermits hstorable hslug).symm

theorem service_controls_fit
    (hname : Platform.storable_text (strip Workspace.dashboardKey.name) = true) {e' : Env}
    {services : List Service}
    (h : (handle e' (.tenant credentials (.list_services w.organizationId)) s).1 = .ok (.services services))
    {service : Service} (hservice : service ∈ services) :
    .create_service_api_key service.id Workspace.dashboardKey ∈ w.serviceControls service ↔
      Works e credentials (.create_service_api_key service.id Workspace.dashboardKey) s := by
  obtain ⟨m, hm, horganization, hself, _, hpermits, hcan⟩ := hw.permission hs huser
  obtain ⟨hmem, ho⟩ := services_answer h hservice
  have hmember : isMember s service.organization_id user.id = true := by
    rw [ho, isMember_eq, ← horganization, ← hself, hs.member_once.find hm]
    rfl
  have hfound : get_tenant_resource_or_404 Service service.id user.id s = .ok service :=
    resource_ok hs.consistent.service_ids hmem hmember
  rw [← ho] at hpermits
  refine Iff.trans ?_ (create_service_api_key_works huser hpermits hfound hname).symm
  rw [← hcan .API_KEY_MANAGE]
  unfold Workspace.serviceControls
  show _ ∈ (if w.can Permission.API_KEY_MANAGE.value = true then _ else _) ↔ _
  by_cases hmanage : w.can Permission.API_KEY_MANAGE.value = true <;> simp [hmanage]

theorem incident_controls_fit {e' : Env} {status : Option IncidentStatus} {limit : Nat}
    {incidents : List Incident}
    (h : (handle e' (.tenant credentials (.list_incidents w.organizationId status limit)) s).1 =
      .ok (.incidents incidents))
    {incident : Incident} (hincident : incident ∈ incidents) :
    (.acknowledge_incident incident.id ∈ w.incidentControls incident ↔
      Works e credentials (.acknowledge_incident incident.id) s) ∧
    (.resolve_incident incident.id ∈ w.incidentControls incident ↔
      Works e credentials (.resolve_incident incident.id) s) := by
  obtain ⟨m, hm, horganization, hself, _, hpermits, hcan⟩ := hw.permission hs huser
  obtain ⟨hmem, ho⟩ := incidents_answer h hincident
  have hmember : isMember s incident.organization_id user.id = true := by
    rw [ho, isMember_eq, ← horganization, ← hself, hs.member_once.find hm]
    rfl
  have hfound : get_tenant_resource_or_404 Incident incident.id user.id s = .ok incident :=
    resource_ok hs.consistent.incident_ids hmem hmember
  rw [← ho] at hpermits
  have hcontrols : w.incidentControls incident =
      (if w.can Permission.INCIDENT_ACKNOWLEDGE.value && incident.status = .OPEN then
        [.acknowledge_incident incident.id] else []) ++
      (if w.can Permission.INCIDENT_RESOLVE.value && incident.status ≠ .RESOLVED then
        [.resolve_incident incident.id] else []) := rfl
  rw [acknowledge_incident_works huser hpermits hfound, resolve_incident_works huser hpermits hfound,
    ← hcan .INCIDENT_ACKNOWLEDGE, ← hcan .INCIDENT_RESOLVE, hcontrols]
  constructor
  · by_cases ha : w.can Permission.INCIDENT_ACKNOWLEDGE.value = true <;>
      by_cases hopen : incident.status = .OPEN <;> simp [ha, hopen]
  · by_cases hr : w.can Permission.INCIDENT_RESOLVE.value = true <;>
      by_cases hopen : incident.status = .RESOLVED <;> simp [hr, hopen]

theorem audit_page_fits (limit offset : Nat) :
    w.canRead = true ↔
      accepted e (.tenant credentials (.list_audit_logs w.organizationId limit offset)) s = true := by
  obtain ⟨m, _, _, _, _, hpermits, hcan⟩ := hw.permission hs huser
  exact (hcan .AUDIT_LOG_READ).trans (list_audit_logs_accepted huser hpermits limit offset).symm

end

end

/-! ## What the pages are answered, and what they offer -/

/-- The memberships and the services of an answer. -/
def listedRows : Except Failure Body → List OrganizationMembershipResponse × List Service
  | .ok (.organizations l) => (l, [])
  | .ok (.services l) => ([], l)
  | _ => ([], [])

omit [Platform] in
theorem listed_organizations {r : Except Failure Body} {item : OrganizationMembershipResponse}
    (h : listedRows r = ([item], [])) : r = .ok (.organizations [item]) := by
  rcases r with failure | body
  · cases h
  · cases body with
    | organizations l =>
      cases h
      rfl
    | _ => cases h

omit [Platform] in
theorem listed_services {r : Except Failure Body} {service : Service}
    (h : listedRows r = ([], [service])) : r = .ok (.services [service]) := by
  rcases r with failure | body
  · cases h
  · cases body with
    | services l =>
      cases h
      rfl
    | _ => cases h

/-- In every reachable store, with the memberships and the rows that the API lists there,
the pages offer a signed-in user exactly the requests that the API accepts and that do
something. The select and the button of a member are there for the role changes and
the removal that the API makes, the button of a service for a new key, the buttons of an
incident for the transitions that its status leaves; the two forms and the audit
page likewise. -/
theorem the_dashboard_offers_what_the_api_allows
    (hname : Platform.storable_text (strip Workspace.dashboardKey.name) = true) {s : Store}
    (hs : Reachable s) {credentials : Option Bearer} {w : Workspace} (hw : OpenedOn credentials s w)
    {e : Env} {user : User} (huser : get_current_user credentials e.now s = .ok user) :
    let works := fun r => Works e credentials r s
    let lists := fun r body => ∃ e', (handle e' (.tenant credentials r) s).1 = .ok body
    (∀ members, lists (.list_members w.organizationId) (.members members) → ∀ member ∈ members,
      (∀ role, .update_member_role w.organizationId member.id role ∈ w.memberControls member ↔
        works (.update_member_role w.organizationId member.id role)) ∧
      (.remove_member w.organizationId member.id ∈ w.memberControls member ↔
        works (.remove_member w.organizationId member.id))) ∧
    (∀ services, lists (.list_services w.organizationId) (.services services) → ∀ service ∈ services,
      (.create_service_api_key service.id Workspace.dashboardKey ∈ w.serviceControls service ↔
        works (.create_service_api_key service.id Workspace.dashboardKey))) ∧
    (∀ status limit incidents,
      lists (.list_incidents w.organizationId status limit) (.incidents incidents) →
      ∀ incident ∈ incidents,
      (.acknowledge_incident incident.id ∈ w.incidentControls incident ↔
        works (.acknowledge_incident incident.id)) ∧
      (.resolve_incident incident.id ∈ w.incidentControls incident ↔
        works (.resolve_incident incident.id))) ∧
    (∀ payload account, findUserByEmail s payload.email = some account → account.is_active = true →
      findMembership s w.organizationId account.id = none →
      (payload.role ∈ w.addForm ↔ works (.add_member w.organizationId payload))) ∧
    (∀ payload : ServiceCreate, payload.organization_id = w.organizationId →
      (new_service e payload).storable = true → slugTaken (new_service e payload) s = false →
      (w.createForm = true ↔ works (.create_service payload))) ∧
    ∀ limit offset, w.canRead = true ↔
      accepted e (.tenant credentials (.list_audit_logs w.organizationId limit offset)) s = true := by
  intro works lists
  refine ⟨?_, ?_, ?_, ?_, ?_, audit_page_fits hs hw huser⟩
  · rintro members ⟨e', h⟩ member hmember
    exact member_controls_fit hs hw huser h hmember
  · rintro services ⟨e', h⟩ service hservice
    exact service_controls_fit hs hw huser hname h hservice
  · rintro status limit incidents ⟨e', h⟩ incident hincident
    exact incident_controls_fit hs hw huser h hincident
  · intro payload account hemail hactive hnew
    exact add_form_fits hs hw huser hemail hactive hnew
  · intro payload ho hstorable hslug
    exact create_form_fits hs hw huser ho hstorable hslug

omit [Platform] in
/-- The services page offers the owner a new key, so the request for it is accepted. -/
theorem the_owner_is_offered_a_key :
    let s := run.after (@serve samplePlatform) Store.empty sampleRun
    @Works samplePlatform (sampleEnv 10) (sampleBearer 0 1)
      (.create_service_api_key soldService.id Workspace.dashboardKey) s := by
  intro s
  let _ := samplePlatform
  have hlisted : (handle (sampleEnv 10) (.tenant (sampleBearer 0 1) .list_organizations) s).1 =
      .ok (.organizations
        [⟨⟨20, "Acme".toList, "acme".toList, (sampleEnv 2).now⟩, .OWNER, ALL_PERMISSIONS⟩]) :=
    listed_organizations (by decide +kernel)
  have hservices : (handle (sampleEnv 10) (.tenant (sampleBearer 0 1) (.list_services 20)) s).1 =
      .ok (.services [soldService]) := listed_services (by decide +kernel)
  obtain ⟨user, huser⟩ := user_of_answer hservices
  have hw : OpenedOn (sampleBearer 0 1) s ⟨_, 20⟩ :=
    ⟨⟨sampleEnv 10, hlisted⟩, _, List.mem_cons_self, rfl⟩
  obtain ⟨_, hkeys, _⟩ :=
    the_dashboard_offers_what_the_api_allows (by decide) sample_reachable hw huser
  refine (hkeys [soldService] ⟨sampleEnv 10, hservices⟩ soldService List.mem_cons_self).mp ?_
  unfold Workspace.serviceControls
  rw [if_pos (by decide)]
  exact List.mem_cons_self

end pulseforge

-- What a user sees: two stores that agree on the rows of the user and of the
-- user's organizations give the user the same answers.
import PulseForge.Writes
import PulseForge.Consistency

open txn table

namespace pulseforge

/-! ## The view of a user -/

/-- The rows of a tenant table in the organizations of the user. -/
def visible (α : Type) [TenantTable α] (u : UUID) (s : Store) : List α :=
  (TenantTable.rows s).filter fun r => isMember s (TenantTable.organization_id (α := α) r) u

/-- The user shares an organization with the user `u`. -/
def sharesOrganization (u : UUID) (s : Store) (user : User) : Bool :=
  s.organization_members.any fun m => m.user_id = user.id && isMember s m.organization_id u

/-- The key belongs to an organization of the user, itself or by its service. -/
def keyVisible (u : UUID) (s : Store) (k : ApiKey) : Bool :=
  isMember s k.organization_id u ||
    s.services.any fun v => v.id = k.service_id && isMember s v.organization_id u

/-- The stores agree on the account and the sessions of the user, and on the
rows of the user's organizations. No answer reads the links of incidents. -/
structure SameView (u : UUID) (s t : Store) : Prop where
  account : (s.users.filter fun x => x.id = u) = t.users.filter fun x => x.id = u
  sessions : (s.refresh_tokens.filter fun r => r.user_id = u) =
    t.refresh_tokens.filter fun r => r.user_id = u
  memberships : (s.organization_members.filter fun m => m.user_id = u) =
    t.organization_members.filter fun m => m.user_id = u
  members : (s.organization_members.filter fun m => isMember s m.organization_id u) =
    t.organization_members.filter fun m => isMember t m.organization_id u
  member_users : s.users.filter (sharesOrganization u s) = t.users.filter (sharesOrganization u t)
  organizations : (s.organizations.filter fun o => isMember s o.id u) =
    t.organizations.filter fun o => isMember t o.id u
  services : visible Service u s = visible Service u t
  api_keys : s.api_keys.filter (keyVisible u s) = t.api_keys.filter (keyVisible u t)
  events : visible Event u s = visible Event u t
  incidents : visible Incident u s = visible Incident u t
  audit_logs : (s.audit_logs.filter fun a => a.organization_id.any fun o => isMember s o u) =
    t.audit_logs.filter fun a => a.organization_id.any fun o => isMember t o u

theorem mapM_congr {α β : Type} {l : List α} {f g : α → Except Failure β}
    (hfg : ∀ a ∈ l, f a = g a) : l.mapM f = l.mapM g := by
  induction l with
  | nil => rfl
  | cons a l ih =>
    rw [List.mapM_cons, List.mapM_cons, hfg a (List.mem_cons_self ..),
      ih fun b hb => hfg b (List.mem_cons_of_mem _ hb)]

section
variable {u : UUID} {s t : Store} (h : SameView u s t)
include h

/-! ## Each query gives one answer on both stores -/

theorem SameView.isMember (o : UUID) : pulseforge.isMember s o u = pulseforge.isMember t o u := by
  have hs := any_filter_of_imp (p := fun m : OrganizationMember => m.organization_id = o && m.user_id = u)
    (q := fun m => m.user_id = u) s.organization_members (by intro m _ hm; simp at hm; simp [hm.2])
  have ht := any_filter_of_imp (p := fun m : OrganizationMember => m.organization_id = o && m.user_id = u)
    (q := fun m => m.user_id = u) t.organization_members (by intro m _ hm; simp at hm; simp [hm.2])
  unfold pulseforge.isMember
  rw [← hs, ← ht, h.memberships]

theorem SameView.membership (o : UUID) : findMembership s o u = findMembership t o u := by
  have hs := find?_filter_of_imp (p := fun m : OrganizationMember => m.organization_id = o && m.user_id = u)
    (q := fun m => m.user_id = u) s.organization_members (by intro m _ hm; simp at hm; simp [hm.2])
  have ht := find?_filter_of_imp (p := fun m : OrganizationMember => m.organization_id = o && m.user_id = u)
    (q := fun m => m.user_id = u) t.organization_members (by intro m _ hm; simp at hm; simp [hm.2])
  unfold findMembership
  rw [← hs, ← ht, h.memberships]

theorem SameView.permission (p : Permission) (o : UUID) :
    require_permission p o u s = require_permission p o u t := by
  unfold require_permission get_membership_or_404
  rw [h.membership]

/-- A row is found by its id among the visible rows. -/
theorem SameView.resource {α : Type} [TenantTable α] (hv : visible α u s = visible α u t) (id : UUID) :
    get_tenant_resource_or_404 α id u s = get_tenant_resource_or_404 α id u t := by
  have hfind : ∀ x : Store, findTenantResource α id u x =
      (visible α u x).find? fun r => TenantTable.id r = id && pulseforge.isMember x
        (TenantTable.organization_id r) u := by
    intro x
    unfold findTenantResource visible
    rw [find?_filter_of_imp]
    intro r _ hr
    simp only [Bool.and_eq_true] at hr
    exact hr.2
  unfold get_tenant_resource_or_404
  rw [hfind s, hfind t, hv]
  congr 2
  funext r
  rw [h.isMember]

/-- The rows of one organization of the user are the same. -/
theorem SameView.rows_of {α : Type} [TenantTable α] (hv : visible α u s = visible α u t) {o : UUID}
    (ho : pulseforge.isMember s o u = true) {p : α → Bool}
    (hp : ∀ r, p r = true → TenantTable.organization_id r = o) :
    (TenantTable.rows s).filter p = (TenantTable.rows t).filter p := by
  have hs := filter_filter_of_imp (p := p) (q := fun r => pulseforge.isMember s
    (TenantTable.organization_id r) u) (TenantTable.rows s) (fun r _ hr => by rw [hp r hr]; exact ho)
  have ht := filter_filter_of_imp (p := p) (q := fun r => pulseforge.isMember t
    (TenantTable.organization_id r) u) (TenantTable.rows t)
    (fun r _ hr => by rw [hp r hr, ← h.isMember]; exact ho)
  rw [← hs, ← ht]
  exact congrArg (List.filter p) hv

theorem SameView.visible_keys : visible ApiKey u s = visible ApiKey u t := by
  have hsub : ∀ x : Store, visible ApiKey u x = (x.api_keys.filter (keyVisible u x)).filter
      fun k => pulseforge.isMember x k.organization_id u := by
    intro x
    rw [filter_filter_of_imp]
    · rfl
    · intro k _ hk
      simp [keyVisible, hk]
  rw [hsub s, hsub t, h.api_keys]
  congr 1
  funext k
  rw [h.isMember]

theorem SameView.user : findUser s u = findUser t u := by
  have hs := find?_filter_of_imp (p := fun x : User => x.id = u) (q := fun x => x.id = u) s.users
    (fun _ _ hx => hx)
  have ht := find?_filter_of_imp (p := fun x : User => x.id = u) (q := fun x => x.id = u) t.users
    (fun _ _ hx => hx)
  unfold findUser
  rw [← hs, ← ht, h.account]

theorem SameView.session (session_id : UUID) :
    findSession s session_id u = findSession t session_id u := by
  have hs := find?_filter_of_imp (p := fun r : RefreshToken => r.id = session_id && r.user_id = u)
    (q := fun r => r.user_id = u) s.refresh_tokens (by intro r _ hr; simp at hr; simp [hr.2])
  have ht := find?_filter_of_imp (p := fun r : RefreshToken => r.id = session_id && r.user_id = u)
    (q := fun r => r.user_id = u) t.refresh_tokens (by intro r _ hr; simp at hr; simp [hr.2])
  unfold findSession
  rw [← hs, ← ht, h.sessions]

/-- The sign-in check of a request of the user. -/
theorem SameView.current_user {credentials : Option Bearer}
    (hc : ∀ token, credentials = some (.signed token) → token.sub = u) (now : Int) :
    get_current_user credentials now s = get_current_user credentials now t := by
  cases credentials with
  | none => rfl
  | some bearer =>
    cases bearer with
    | text raw => rfl
    | signed token =>
      have hsub : token.sub = u := hc token rfl
      unfold get_current_user jwt_decode sessionOpen
      by_cases hexp : now < token.exp
      · simp only [hexp, if_true, hsub, h.user, h.session]
      · simp only [hexp, if_false]

/-- The account of a member of an organization of the user. -/
theorem SameView.member_user {m : OrganizationMember} (hm : m ∈ s.organization_members)
    (ho : pulseforge.isMember s m.organization_id u = true) :
    tokenUser m.user_id s = tokenUser m.user_id t := by
  have hmt : m ∈ t.organization_members := by
    have hin : m ∈ s.organization_members.filter fun m => pulseforge.isMember s m.organization_id u :=
      List.mem_filter.mpr ⟨hm, ho⟩
    rw [h.members] at hin
    exact (List.mem_filter.mp hin).1
  have hshare : ∀ (y : Store), m ∈ y.organization_members →
      pulseforge.isMember y m.organization_id u = true → ∀ x ∈ y.users,
        decide (x.id = m.user_id) = true → sharesOrganization u y x = true := by
    intro y hy hoy x _ hx
    simp only [decide_eq_true_eq] at hx
    exact List.any_eq_true.mpr ⟨m, hy, by simp [hx, hoy]⟩
  have hs := find?_filter_of_imp s.users (hshare s hm ho)
  have ht := find?_filter_of_imp t.users (hshare t hmt (by rw [← h.isMember]; exact ho))
  unfold tokenUser findUser
  rw [← hs, ← ht, h.member_users]

/-- The members of an organization of the user. -/
theorem SameView.members_of {o : UUID} (ho : pulseforge.isMember s o u = true)
    {p : OrganizationMember → Bool} (hp : ∀ m, p m = true → m.organization_id = o) :
    s.organization_members.filter p = t.organization_members.filter p := by
  have hs := filter_filter_of_imp (p := p) (q := fun m => pulseforge.isMember s m.organization_id u)
    s.organization_members (fun r _ hr => by rw [hp r hr]; exact ho)
  have ht := filter_filter_of_imp (p := p) (q := fun m => pulseforge.isMember t m.organization_id u)
    t.organization_members (fun r _ hr => by rw [hp r hr, ← h.isMember]; exact ho)
  rw [← hs, ← ht]
  exact congrArg (List.filter p) h.members

theorem SameView.target_member {o : UUID} (ho : pulseforge.isMember s o u = true) (member_id : UUID) :
    get_target_member o member_id s = get_target_member o member_id t := by
  have hfind : ∀ l : List OrganizationMember,
      (l.find? fun m => m.organization_id = o && m.id = member_id) =
        (l.filter fun m => m.organization_id = o && m.id = member_id).head? := by
    intro l
    rw [List.head?_filter]
  unfold get_target_member
  rw [hfind, hfind, h.members_of ho]
  intro m hm
  simp only [Bool.and_eq_true, decide_eq_true_eq] at hm
  exact hm.1

theorem SameView.member_list {o : UUID} (ho : pulseforge.isMember s o u = true) :
    membersOf o s = membersOf o t := by
  unfold membersOf
  rw [← h.members_of ho (p := fun m => m.organization_id = o) (by simp)]
  apply mapM_congr
  intro m hm
  have hm := (List.perm_insertionSort _ _).mem_iff.mp hm
  obtain ⟨hm, hmo⟩ := List.mem_filter.mp hm
  have hmo : m.organization_id = o := by simpa using hmo
  rw [h.member_user hm (hmo ▸ ho)]

theorem SameView.membership_list : membershipsOf u s = membershipsOf u t := by
  unfold membershipsOf
  rw [← h.memberships]
  congr 1
  apply List.flatMap_congr
  intro m hm
  obtain ⟨hm, hmu⟩ := List.mem_filter.mp hm
  have hmu : m.user_id = u := by simpa using hmu
  have ho : pulseforge.isMember s m.organization_id u = true :=
    List.any_eq_true.mpr ⟨m, hm, by simp [hmu]⟩
  congr 1
  have hs := filter_filter_of_imp (p := fun o : Organization => o.id = m.organization_id)
    (q := fun o => pulseforge.isMember s o.id u) s.organizations (by intro o _ hom; simp at hom; rw [hom]; exact ho)
  have ht := filter_filter_of_imp (p := fun o : Organization => o.id = m.organization_id)
    (q := fun o => pulseforge.isMember t o.id u) t.organizations
    (by intro o _ hom; simp at hom; rw [hom, ← h.isMember]; exact ho)
  rw [← hs, ← ht, h.organizations]

/-- The keys of a service that the user sees. -/
theorem SameView.key_list {service : Service} (hv : service ∈ visible Service u s) :
    keysOf service.id s = keysOf service.id t := by
  have hvisible : ∀ x : Store, service ∈ visible Service u x → ∀ k ∈ x.api_keys,
      decide (k.service_id = service.id) = true → keyVisible u x k = true := by
    intro x hx k _ hk
    simp only [decide_eq_true_eq] at hk
    obtain ⟨hm, ho⟩ := List.mem_filter.mp hx
    unfold keyVisible
    rw [Bool.or_eq_true]
    exact Or.inr (List.any_eq_true.mpr ⟨service, hm, by
      have ho : pulseforge.isMember x service.organization_id u = true := ho
      simp [hk, ho]⟩)
  unfold keysOf
  rw [← filter_filter_of_imp s.api_keys (hvisible s hv),
    ← filter_filter_of_imp t.api_keys (hvisible t (h.services ▸ hv)), h.api_keys]

theorem SameView.audit_list {o : UUID} (ho : pulseforge.isMember s o u = true) :
    auditLogsOf o s = auditLogsOf o t := by
  have hs := filter_filter_of_imp (p := fun a : AuditLog => a.organization_id = some o)
    (q := fun a => a.organization_id.any fun o => pulseforge.isMember s o u) s.audit_logs
    (by intro a _ ha; simp at ha; simp [ha, ho])
  have ht := filter_filter_of_imp (p := fun a : AuditLog => a.organization_id = some o)
    (q := fun a => a.organization_id.any fun o => pulseforge.isMember t o u) t.audit_logs
    (by intro a _ ha; simp at ha; simp [ha, ← h.isMember, ho])
  unfold auditLogsOf
  rw [← hs, ← ht, h.audit_logs]

/-- A slug of an organization of the user is taken on both stores, or on none. -/
theorem SameView.slug {v : Service} (ho : pulseforge.isMember s v.organization_id u = true) :
    slugTaken v s = slugTaken v t := by
  have hs := any_filter_of_imp (p := fun w : Service => w.id ≠ v.id &&
      w.organization_id = v.organization_id && w.slug = v.slug)
    (q := fun w => pulseforge.isMember s w.organization_id u) s.services
    (by intro w _ hw; simp at hw; rw [hw.1.2]; exact ho)
  have ht := any_filter_of_imp (p := fun w : Service => w.id ≠ v.id &&
      w.organization_id = v.organization_id && w.slug = v.slug)
    (q := fun w => pulseforge.isMember t w.organization_id u) t.services
    (by intro w _ hw; simp at hw; rw [hw.1.2, ← h.isMember]; exact ho)
  unfold slugTaken
  rw [← hs, ← ht]
  exact congrArg (fun l => List.any l _) h.services

end

/-! ## The handlers -/

theorem isMember_of_permission {p : Permission} {o u : UUID} {s : Store} {m : OrganizationMember}
    (h : require_permission p o u s = .ok m) : isMember s o u = true := by
  obtain ⟨hm, ho, hu, _⟩ := permission_of_ok h
  exact List.any_eq_true.mpr ⟨m, hm, by simp [ho, hu]⟩

theorem visible_of_ok {α : Type} [TenantTable α] {id u : UUID} {s : Store} {r : α}
    (h : get_tenant_resource_or_404 α id u s = .ok r) : r ∈ visible α u s := by
  obtain ⟨hm, _, ho⟩ := resource_of_ok h
  exact List.mem_filter.mpr ⟨hm, ho⟩

section
variable {α : Type} {u : UUID} {R : Store → Store → Prop} (hR : ∀ s t, R s t → SameView u s t)
include hR

/-- A check of the user's role; past it, the user is a member. -/
theorem alike_permission (p : Permission) (o : UUID) {k : OrganizationMember → Handler α}
    (hk : ∀ m, Alike (fun s t => R s t ∧ isMember s o u = true) (k m)) :
    Alike R (ask (require_permission p o u) >>= k) := by
  refine alike_ask (fun s t h => (hR s t h).permission p o) fun m => (hk m).mono ?_
  rintro s t ⟨h, hs, _⟩
  exact ⟨h, isMember_of_permission hs⟩

/-- The lookup of a row; past it, the row is visible. -/
theorem alike_resource {β : Type} [TenantTable β] (id : UUID)
    (hv : ∀ s t, SameView u s t → visible β u s = visible β u t) {k : β → Handler α}
    (hk : ∀ r, Alike (fun s t => R s t ∧ r ∈ visible β u s) (k r)) :
    Alike R (ask (get_tenant_resource_or_404 β id u) >>= k) := by
  refine alike_ask (fun s t h => (hR s t h).resource (hv s t (hR s t h)) id) fun r => (hk r).mono ?_
  rintro s t ⟨h, hs, _⟩
  exact ⟨h, visible_of_ok hs⟩

end

variable [Platform] (e : Env) (user : User)

/-- The requests that read, and the requests that name a row of the user's
organizations by its id. The other three create a row. -/
def TenantRequest.isolated : TenantRequest → Bool
  | .create_organization .. | .add_member .. | .create_service .. => false
  | _ => true

theorem settled_issue_api_key (service : Service) (payload : ApiKeyCreate) (user_id : UUID)
    (action : AuditAction) (metadata : Metadata) :
    Settled (issue_api_key e service payload user_id action metadata) := by
  unfold issue_api_key
  refine settled_bind (settled_flush fun s t => ?_) fun _ =>
    settled_write_then _ (settled_commit_then (settled_pure _))
  unfold insertApiKey
  split <;> rfl

theorem alike_update_service (service_id : UUID) (payload : ServiceUpdate) :
    Alike (SameView user.id) (update_service e service_id payload user) := by
  unfold update_service
  refine alike_resource (fun _ _ h => h) service_id (fun _ _ h => h.services) fun service => ?_
  refine alike_permission (fun _ _ h => h.1) _ _ fun _ => ?_
  refine alike_ask (fun _ _ _ => rfl) fun name => ?_
  cases hc : changed_service e.now payload name service with
  | error failure =>
    cases failure with
    | IntegrityError => exact (settled_rollback_then (settled_throw SLUG_IN_USE)).alike
    | _ => exact (settled_throw _).alike
  | ok changed =>
    obtain ⟨_, horg⟩ := changed_service_keys hc
    refine alike_flush ?_ fun b => ?_
    · rintro s t ⟨⟨⟨h, _⟩, ho⟩, _⟩
      unfold updateServiceRow
      rw [h.slug (v := changed) (by rw [horg]; exact ho)]
      split
      · split <;> rfl
      · rfl
    · cases b with
      | true => exact settled_commit_then (settled_pure _)
      | false => exact settled_rollback_then (settled_throw SLUG_IN_USE)

theorem alike_update_member_role (organization_id member_id : UUID) (role : OrganizationRole) :
    Alike (SameView user.id) (update_member_role e organization_id member_id role user) := by
  unfold update_member_role
  refine alike_permission (fun _ _ h => h) _ _ fun actor => ?_
  refine alike_ask (fun s t h => h.1.target_member h.2 member_id) fun target => ?_
  refine alike_ask ?_ fun target_user => ?_
  · rintro s t ⟨⟨h, ho⟩, ht, _⟩
    obtain ⟨hm, hmo⟩ := target_of_ok ht
    exact h.member_user hm (by rw [hmo]; exact ho)
  · refine Settled.alike ?_
    split
    · exact settled_throw _
    · split
      · exact settled_throw _
      · split
        · exact settled_throw _
        · exact settled_write_then _ (settled_write_then _ (settled_commit_then (settled_pure _)))

omit [Platform] in
theorem alike_remove_member (organization_id member_id : UUID) :
    Alike (SameView user.id) (remove_member organization_id member_id user) := by
  unfold remove_member
  refine alike_permission (fun _ _ h => h) _ _ fun actor => ?_
  refine alike_ask (fun s t h => h.1.target_member h.2 member_id) fun target => Settled.alike ?_
  split
  · exact settled_throw _
  · split
    · exact settled_throw _
    · exact settled_write_then _ settled_commit

theorem alike_rotate_api_key (api_key_id : UUID) :
    Alike (SameView user.id) (rotate_api_key e api_key_id user) := by
  unfold rotate_api_key
  refine alike_resource (fun _ _ h => h) api_key_id (fun _ _ h => h.visible_keys) fun old_key => ?_
  refine alike_permission (fun _ _ h => h.1) _ _ fun _ => ?_
  split
  · exact (settled_throw _).alike
  · split
    · exact (settled_throw _).alike
    · refine alike_resource (fun _ _ h => h.1.1) _ (fun _ _ h => h.services) fun service => ?_
      exact (settled_write_then _ (settled_bind (settled_ask fun _ _ => rfl) fun payload =>
        settled_issue_api_key e service payload user.id _ _)).alike

theorem alike_acknowledge_incident (incident_id : UUID) :
    Alike (SameView user.id) (acknowledge_incident e incident_id user) := by
  unfold acknowledge_incident
  refine alike_resource (fun _ _ h => h) incident_id (fun _ _ h => h.incidents) fun incident => ?_
  refine alike_permission (fun _ _ h => h.1) _ _ fun _ => Settled.alike ?_
  split
  · exact settled_throw _
  · split
    · exact settled_write_then _ (settled_write_then _ (settled_commit_then (settled_pure _)))
    · exact settled_pure _

theorem alike_resolve_incident (incident_id : UUID) :
    Alike (SameView user.id) (resolve_incident e incident_id user) := by
  unfold resolve_incident
  refine alike_resource (fun _ _ h => h) incident_id (fun _ _ h => h.incidents) fun incident => ?_
  refine alike_permission (fun _ _ h => h.1) _ _ fun _ => Settled.alike ?_
  split
  · exact settled_write_then _ (settled_write_then _ (settled_commit_then (settled_pure _)))
  · exact settled_pure _

/-- Every isolated request answers the same on two stores that look the same. -/
theorem alike_tenant_handler (r : TenantRequest) (hr : r.isolated = true) :
    Alike (SameView user.id) (tenant_handler e user r) := by
  cases r <;> refine alike_then ?_ fun _ => settled_pure _
  case create_organization => cases hr
  case add_member => cases hr
  case create_service => cases hr
  case list_organizations =>
    exact alike_select (fun _ _ h => h.membership_list) fun _ => (settled_pure _).alike
  case list_members o =>
    exact alike_permission (fun _ _ h => h) _ o fun _ =>
      alike_last fun _ _ h => h.1.member_list h.2
  case update_member_role o m role => exact alike_update_member_role e user o m role
  case remove_member o m => exact alike_remove_member user o m
  case list_services o =>
    refine alike_permission (fun _ _ h => h) _ o fun _ => alike_last_select fun s t h => ?_
    exact congrArg (orderDesc Service.created_at) (h.1.rows_of h.1.services h.2 (by simp [TenantTable.organization_id]))
  case get_service v =>
    exact alike_resource (fun _ _ h => h) v (fun _ _ h => h.services) fun _ =>
      alike_permission (fun _ _ h => h.1) _ _ fun _ => (settled_pure _).alike
  case update_service v payload => exact alike_update_service e user v payload
  case delete_service v =>
    exact alike_resource (fun _ _ h => h) v (fun _ _ h => h.services) fun _ =>
      alike_permission (fun _ _ h => h.1) _ _ fun _ => (settled_write_then _ settled_commit).alike
  case create_service_api_key v payload =>
    exact alike_resource (fun _ _ h => h) v (fun _ _ h => h.services) fun service =>
      alike_permission (fun _ _ h => h.1) _ _ fun _ =>
        (settled_issue_api_key e service payload user.id _ _).alike
  case list_service_api_keys v =>
    exact alike_resource (fun _ _ h => h) v (fun _ _ h => h.services) fun _ =>
      alike_permission (fun _ _ h => h.1) _ _ fun _ =>
        alike_select (fun _ _ h => h.1.1.key_list h.1.2) fun _ => (settled_pure _).alike
  case revoke_api_key k =>
    unfold revoke_api_key
    refine alike_resource (fun _ _ h => h) k (fun _ _ h => h.visible_keys) fun _ =>
      alike_permission (fun _ _ h => h.1) _ _ fun _ => Settled.alike ?_
    split
    · exact settled_write_then _ (settled_write_then _ settled_commit)
    · exact settled_pure _
  case rotate_api_key k => exact alike_rotate_api_key e user k
  case list_events o v level limit offset =>
    refine alike_permission (fun _ _ h => h) _ o fun _ =>
      alike_select (fun s t h => ?_) fun _ => (settled_pure _).alike
    exact congrArg (orderDesc _) (h.1.rows_of h.1.events h.2 (by
      intro r hr
      simp only [Bool.and_eq_true, decide_eq_true_eq] at hr
      exact hr.1.1))
  case get_event v =>
    exact alike_resource (fun _ _ h => h) v (fun _ _ h => h.events) fun _ =>
      alike_permission (fun _ _ h => h.1) _ _ fun _ => (settled_pure _).alike
  case list_incidents o status limit =>
    refine alike_permission (fun _ _ h => h) _ o fun _ =>
      alike_select (fun s t h => ?_) fun _ => (settled_pure _).alike
    exact congrArg (orderDesc _) (h.1.rows_of h.1.incidents h.2 (by
      intro r hr
      simp only [Bool.and_eq_true, decide_eq_true_eq] at hr
      exact hr.1))
  case get_incident i =>
    exact alike_resource (fun _ _ h => h) i (fun _ _ h => h.incidents) fun _ =>
      alike_permission (fun _ _ h => h.1) _ _ fun _ => (settled_pure _).alike
  case acknowledge_incident i => exact alike_acknowledge_incident e user i
  case resolve_incident i => exact alike_resolve_incident e user i
  case list_audit_logs o limit offset =>
    exact alike_permission (fun _ _ h => h) _ o fun _ =>
      alike_select (fun _ _ h => h.1.audit_list h.2) fun _ => (settled_pure _).alike

/-! ## Ids of other tenants -/

/-- No row with the id that the request names is in an organization of the
user: there is none, or it belongs to others. -/
def NamesNothing (s : Store) (u : UUID) : TenantRequest → Prop
  | .get_service id | .update_service id _ | .delete_service id | .create_service_api_key id _
  | .list_service_api_keys id =>
    ∀ v ∈ s.services, v.id = id → isMember s v.organization_id u = false
  | .revoke_api_key id | .rotate_api_key id =>
    ∀ k ∈ s.api_keys, k.id = id → isMember s k.organization_id u = false
  | .get_event id => ∀ v ∈ s.events, v.id = id → isMember s v.organization_id u = false
  | .get_incident id | .acknowledge_incident id | .resolve_incident id =>
    ∀ i ∈ s.incidents, i.id = id → isMember s i.organization_id u = false
  | .list_members o | .update_member_role o _ _ | .remove_member o _ | .list_services o
  | .list_events o _ _ _ _ | .list_incidents o _ _ | .list_audit_logs o _ _ =>
    isMember s o u = false
  | _ => False

/-- The answer to a request that names nothing. -/
def notFound : TenantRequest → Failure
  | .list_members _ | .update_member_role _ _ _ | .remove_member _ _ | .list_services _
  | .list_events _ _ _ _ _ | .list_incidents _ _ _ | .list_audit_logs _ _ _ =>
    ResourceNotFoundError "Organization not found" "ORGANIZATION_NOT_FOUND"
  | _ => ResourceNotFoundError

section
variable {α : Type} {u : UUID} {s : Session Store} {Q : Except Failure α → Session Store → Prop}

omit [Platform] in
theorem ends_missing_resource {β : Type} [TenantTable β] {id : UUID}
    (h : ∀ r ∈ TenantTable.rows s.work (α := β), TenantTable.id r = id →
      isMember s.work (TenantTable.organization_id r) u = false) {k : β → Handler α}
    (hQ : Q (.error ResourceNotFoundError) s) :
    Ends (ask (get_tenant_resource_or_404 β id u) >>= k) s Q := by
  have hnone : findTenantResource β id u s.work = none := by
    refine List.find?_eq_none.mpr fun r hr => ?_
    simp only [Bool.and_eq_true, decide_eq_true_eq, not_and]
    intro hid
    rw [h r hr hid]
    exact Bool.false_ne_true
  simp only [ends_bind, ends_ask, get_tenant_resource_or_404, hnone]
  exact hQ

omit [Platform] in
theorem ends_missing_organization {p : Permission} {o : UUID} (h : isMember s.work o u = false)
    {k : OrganizationMember → Handler α}
    (hQ : Q (.error (ResourceNotFoundError "Organization not found" "ORGANIZATION_NOT_FOUND")) s) :
    Ends (ask (require_permission p o u) >>= k) s Q := by
  have hnone : findMembership s.work o u = none := by
    refine List.find?_eq_none.mpr fun m hm => ?_
    exact List.any_eq_false.mp h m hm
  simp only [ends_bind, ends_ask, require_permission, get_membership_or_404, hnone]
  exact hQ

end

theorem missing_tenant_handler {s : Store} {r : TenantRequest} (h : NamesNothing s user.id r) :
    Ends (tenant_handler e user r) ⟨s, s⟩ fun reply _ => reply = .error (notFound r) := by
  cases r <;> first | exact absurd h id | rw [tenant_handler, ends_answer]
  case list_members | update_member_role | remove_member | list_services | list_events |
      list_incidents | list_audit_logs =>
    refine ends_missing_organization ?_ rfl
    exact h
  all_goals
    refine ends_missing_resource ?_ rfl
    exact h

/-! ## The law -/

/-- The requests of a user that read, or that name a row by its id, answer the
same on two stores that look the same to the user. An id of another tenant and
an id that does not exist have one answer. -/
theorem a_user_sees_only_the_own_organizations (u : UUID) (e : Env) (credentials : Option Bearer)
    (hu : ∀ token, credentials = some (.signed token) → token.sub = u) (r : TenantRequest) :
    (r.isolated = true → ∀ s t, SameView u s t →
      (handle e (.tenant credentials r) s).1 = (handle e (.tenant credentials r) t).1) ∧
    (∀ s user, get_current_user credentials e.now s = .ok user → NamesNothing s u r →
      (handle e (.tenant credentials r) s).1 = .error (notFound r)) := by
  have hid : ∀ s user, get_current_user credentials e.now s = .ok user → user.id = u := by
    intro s user h
    obtain ⟨token, rfl, _, hfind, _⟩ := current_user_of_ok h
    exact (user_id_of_find hfind).trans (hu token rfl)
  constructor
  · intro hr s t hst
    have halike : Alike (SameView u) (handler e (.tenant credentials r)) := by
      refine alike_ask (fun s t h => h.current_user hu e.now) fun user => ?_
      intro s t ⟨h, hs, _⟩
      have huser := hid _ user hs
      exact alike_tenant_handler e user r hr s t (by rw [huser]; exact h)
    exact halike ⟨s, s⟩ ⟨t, t⟩ hst
  · intro s user huser hnothing
    have hnothing : NamesNothing s user.id r := by rw [hid s user huser]; exact hnothing
    have hends : Ends (handler e (.tenant credentials r)) ⟨s, s⟩
        fun reply _ => reply = .error (notFound r) := by
      show Ends (ask (get_current_user credentials e.now) >>= fun user => tenant_handler e user r) _ _
      simp only [ends_bind, ends_ask, huser]
      exact missing_tenant_handler e user hnothing
    exact hends

/-- A service of an organization that the user of the sample run is not in. -/
def foreignService : Service where
  id := 500
  organization_id := 400
  name := "Else".toList
  slug := "else".toList
  description := none
  environment := .PRODUCTION
  status := .OPERATIONAL
  created_at := 0
  updated_at := 0

omit [Platform] in
/-- The user cannot tell if the service 500 exists. -/
theorem a_foreign_service_looks_missing :
    let s := run.after (@serve samplePlatform) Store.empty sampleRun
    let t := { s with services := s.services ++ [foreignService] }
    let r := Request.tenant (sampleBearer 0 1) (.get_service 500)
    (@handle samplePlatform (sampleEnv 10) r s).1 = (@handle samplePlatform (sampleEnv 10) r t).1 ∧
      (@handle samplePlatform (sampleEnv 10) r t).1 = .error ResourceNotFoundError := by
  intro s t r
  have hu : ∀ token, sampleBearer 0 1 = some (.signed token) → token.sub = 0 := by
    intro token h
    cases h
    rfl
  have hview : SameView 0 s t :=
    ⟨rfl, rfl, rfl, rfl, rfl, rfl, by decide +kernel, by decide +kernel, rfl, rfl, rfl⟩
  have hlaw := @a_user_sees_only_the_own_organizations samplePlatform 0 (sampleEnv 10) (sampleBearer 0 1)
    hu (.get_service 500)
  have hsigned : (get_current_user (sampleBearer 0 1) (sampleEnv 10).now t).toOption.isSome = true := by
    decide +kernel
  cases hcurrent : get_current_user (sampleBearer 0 1) (sampleEnv 10).now t with
  | error _ =>
    rw [hcurrent] at hsigned
    cases hsigned
  | ok user =>
    refine ⟨hlaw.1 rfl s t hview, hlaw.2 t user hcurrent ?_⟩
    show ∀ v ∈ t.services, v.id = 500 → isMember t v.organization_id 0 = false
    decide +kernel

end pulseforge

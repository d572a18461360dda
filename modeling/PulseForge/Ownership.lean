-- The owners of the organizations: what a request may do to organizations and
-- memberships, and that it leaves each organization with the one owner that
-- created it.
import PulseForge.WriteIntegrity

open txn table

namespace pulseforge

/-! ## Owners -/

/-- The memberships of an organization that have the role of the owner. -/
def ownersOf (organization_id : UUID) (s : Store) : List OrganizationMember :=
  s.organization_members.filter fun m => m.organization_id = organization_id && m.role = .OWNER

/-- The user owns the organization. -/
def OwnedBy (s : Store) (organization_id user_id : UUID) : Prop :=
  ∃ m ∈ ownersOf organization_id s, m.user_id = user_id

theorem mem_ownersOf {organization_id : UUID} {s : Store} {m : OrganizationMember} :
    m ∈ ownersOf organization_id s ↔
      m ∈ s.organization_members ∧ m.organization_id = organization_id ∧ m.role = .OWNER := by
  simp [ownersOf]

/-- Each organization has one owner, the user who created it. -/
structure Owned (s : Store) : Prop where
  organization_ids : UniqueOn Organization.id s.organizations
  homed : ∀ m ∈ s.organization_members, ∃ o ∈ s.organizations, o.id = m.organization_id
  owned : ∀ o ∈ s.organizations, ∃ m, ownersOf o.id s = [m] ∧ m.user_id = o.created_by_id

/-- The ids are of no organization and of no membership. -/
structure Unused (e : Env) (s : Store) : Prop where
  organization : ∀ k, ∀ o ∈ s.organizations, o.id ≠ e.uuid k
  member : ∀ k, ∀ m ∈ s.organization_members, m.id ≠ e.uuid k

theorem Fresh.organization {e : Env} {s : Store} (h : Fresh e s) (k : Nat) :
    ∀ o ∈ s.organizations, o.id ≠ e.uuid k := by
  refine h.of_ids (fun id hid => ?_) k
  simp only [Store.ids, List.mem_append]
  tauto

theorem Fresh.roles {e : Env} {s : Store} (h : Fresh e s) : Unused e s :=
  ⟨h.organization, h.member⟩

/-! ## The writes -/

/-- What a committed request of a user does to organizations and memberships.
The rows that it changes or deletes are of no owner, and only an owner makes
someone an admin. -/
inductive RoleWrite (e : Env) (user_id : UUID) (s s' : Store) : Prop
  | unchanged (ho : s'.organizations = s.organizations)
      (hm : s'.organization_members = s.organization_members)
  | founded (o : Organization) (owner : OrganizationMember)
      (ho : s'.organizations = s.organizations ++ [o])
      (hm : s'.organization_members = s.organization_members ++ [owner])
      (hid : o.id = e.uuid 0) (howner : owner.id = e.uuid 1) (horganization : owner.organization_id = o.id)
      (hrole : owner.role = .OWNER) (hcreator : owner.user_id = o.created_by_id)
  | added (row : OrganizationMember) (ho : s'.organizations = s.organizations)
      (hm : s'.organization_members = s.organization_members ++ [row])
      (hid : row.id = e.uuid 0) (hhome : ∃ o ∈ s.organizations, o.id = row.organization_id)
      (hrole : row.role ≠ .OWNER) (hadmin : row.role = .ADMIN → OwnedBy s row.organization_id user_id)
  | changed (member_id : UUID) (role : OrganizationRole) (ho : s'.organizations = s.organizations)
      (hm : s'.organization_members = updateWhere (fun m => m.id = member_id)
        (fun m => { m with role := role }) s.organization_members)
      (hrole : role ≠ .OWNER) (hold : ∀ m ∈ s.organization_members, m.id = member_id → m.role ≠ .OWNER)
      (hadmin : role = .ADMIN → ∀ m ∈ s.organization_members, m.id = member_id →
        OwnedBy s m.organization_id user_id)
  | removed (member_id : UUID) (ho : s'.organizations = s.organizations)
      (hm : s'.organization_members = s.organization_members.filter fun m => m.id ≠ member_id)
      (hold : ∀ m ∈ s.organization_members, m.id = member_id → m.role ≠ .OWNER)

section
variable {e : Env} {user_id : UUID} {s s' : Store}

/-- The owners of an organization that was there stay as they are. -/
theorem RoleWrite.owners (h : RoleWrite e user_id s s') (hu : Unused e s) {o : Organization}
    (hmem : o ∈ s.organizations) : ownersOf o.id s' = ownersOf o.id s := by
  unfold ownersOf
  cases h with
  | unchanged _ hm => rw [hm]
  | founded o' owner _ hm hid _ horganization =>
    have hother : owner.organization_id ≠ o.id := by
      rw [horganization, hid]
      exact (hu.organization 0 o hmem).symm
    rw [hm, List.filter_append]
    simp [hother]
  | added row _ hm _ _ hrole =>
    rw [hm, List.filter_append]
    simp [hrole]
  | changed member_id role _ hm hrole hold =>
    rw [hm]
    refine filter_updateWhere fun m hmem hid => ?_
    have hrow := hold m hmem (by simpa using hid)
    simp [hrole, hrow]
  | removed member_id _ hm hold =>
    rw [hm]
    refine filter_filter_of_imp _ fun m hmem hp => ?_
    simp only [Bool.and_eq_true, decide_eq_true_eq] at hp
    have hne : m.id ≠ member_id := fun hid => hold m hmem hid hp.2
    simpa using hne

/-- A membership of an owner stays in the table. -/
theorem RoleWrite.owner_stays (h : RoleWrite e user_id s s') {m : OrganizationMember}
    (hmem : m ∈ s.organization_members) (hrole : m.role = .OWNER) : m ∈ s'.organization_members := by
  cases h with
  | unchanged _ hm => rwa [hm]
  | founded _ _ _ hm => rw [hm]; exact List.mem_append_left _ hmem
  | added _ _ hm => rw [hm]; exact List.mem_append_left _ hmem
  | changed member_id role _ hm _ hold =>
    rw [hm]
    refine mem_updateWhere_of_not hmem ?_
    have hne : m.id ≠ member_id := fun hid => hold m hmem hid hrole
    simpa using hne
  | removed member_id _ hm hold =>
    rw [hm]
    have hne : m.id ≠ member_id := fun hid => hold m hmem hid hrole
    exact List.mem_filter.mpr ⟨hmem, by simpa using hne⟩

theorem RoleWrite.organization_stays (h : RoleWrite e user_id s s') {o : Organization}
    (hmem : o ∈ s.organizations) : o ∈ s'.organizations := by
  cases h with
  | founded _ _ ho => rw [ho]; exact List.mem_append_left _ hmem
  | unchanged ho => rwa [ho]
  | added _ ho => rwa [ho]
  | changed _ _ ho => rwa [ho]
  | removed _ ho => rwa [ho]

/-- A membership has a new id, or it has the columns of an earlier one, which
was of an owner if it is. -/
theorem RoleWrite.row (h : RoleWrite e user_id s s') {m' : OrganizationMember}
    (hmem : m' ∈ s'.organization_members) :
    (∃ k, m'.id = e.uuid k) ∨ ∃ m ∈ s.organization_members, m.id = m'.id ∧
      m.organization_id = m'.organization_id ∧ (m'.role = .OWNER → m.role = .OWNER) := by
  have hsame : m' ∈ s.organization_members → ∃ m ∈ s.organization_members, m.id = m'.id ∧
      m.organization_id = m'.organization_id ∧ (m'.role = .OWNER → m.role = .OWNER) :=
    fun hold => ⟨m', hold, rfl, rfl, id⟩
  cases h with
  | unchanged _ hm =>
    rw [hm] at hmem
    exact Or.inr (hsame hmem)
  | founded _ owner _ hm _ hid =>
    rw [hm] at hmem
    rcases List.mem_append.mp hmem with hmem | hmem
    · exact Or.inr (hsame hmem)
    · rw [List.mem_singleton.mp hmem]
      exact Or.inl ⟨1, hid⟩
  | added row _ hm hid =>
    rw [hm] at hmem
    rcases List.mem_append.mp hmem with hmem | hmem
    · exact Or.inr (hsame hmem)
    · rw [List.mem_singleton.mp hmem]
      exact Or.inl ⟨0, hid⟩
  | changed member_id role _ hm hrole =>
    rw [hm] at hmem
    obtain ⟨m, hm, rfl⟩ := mem_updateWhere.mp hmem
    refine Or.inr ⟨m, hm, ?_⟩
    split
    · exact ⟨rfl, rfl, fun heq => absurd heq hrole⟩
    · exact ⟨rfl, rfl, id⟩
  | removed _ _ hm =>
    rw [hm] at hmem
    exact Or.inr (hsame (List.mem_filter.mp hmem).1)

/-- Who becomes an admin, becomes it by a request of the owner. -/
theorem RoleWrite.admin (h : RoleWrite e user_id s s') {m' : OrganizationMember}
    (hmem : m' ∈ s'.organization_members) (hadmin : m'.role = .ADMIN) :
    m' ∈ s.organization_members ∨ OwnedBy s m'.organization_id user_id := by
  cases h with
  | unchanged _ hm =>
    rw [hm] at hmem
    exact Or.inl hmem
  | founded _ owner _ hm _ _ _ hrole =>
    rw [hm] at hmem
    rcases List.mem_append.mp hmem with hmem | hmem
    · exact Or.inl hmem
    · rw [List.mem_singleton.mp hmem, hrole] at hadmin
      cases hadmin
  | added row _ hm _ _ _ hnew =>
    rw [hm] at hmem
    rcases List.mem_append.mp hmem with hmem | hmem
    · exact Or.inl hmem
    · rw [List.mem_singleton.mp hmem] at hadmin ⊢
      exact Or.inr (hnew hadmin)
  | changed member_id role _ hm _ _ hnew =>
    rw [hm] at hmem
    obtain ⟨m, hmold, rfl⟩ := mem_updateWhere.mp hmem
    split at hadmin <;> rename_i hid
    · rw [if_pos hid]
      exact Or.inr (hnew hadmin m hmold (by simpa using hid))
    · rw [if_neg hid]
      exact Or.inl hmold
  | removed _ _ hm =>
    rw [hm] at hmem
    exact Or.inl (List.mem_filter.mp hmem).1

/-- The organizations after a write: those before, and a new one. -/
theorem RoleWrite.organization (h : RoleWrite e user_id s s') {o : Organization}
    (hmem : o ∈ s'.organizations) : o ∈ s.organizations ∨ o.id = e.uuid 0 := by
  cases h with
  | founded o' _ ho _ hid =>
    rw [ho] at hmem
    rcases List.mem_append.mp hmem with hmem | hmem
    · exact Or.inl hmem
    · rw [List.mem_singleton.mp hmem]
      exact Or.inr hid
  | unchanged ho => rw [ho] at hmem; exact Or.inl hmem
  | added _ ho => rw [ho] at hmem; exact Or.inl hmem
  | changed _ _ ho => rw [ho] at hmem; exact Or.inl hmem
  | removed _ ho => rw [ho] at hmem; exact Or.inl hmem

/-- The ids of the memberships stay unique. -/
theorem RoleWrite.member_ids (h : RoleWrite e user_id s s') (hu : Unused e s)
    (hs : UniqueOn OrganizationMember.id s.organization_members) :
    UniqueOn OrganizationMember.id s'.organization_members := by
  cases h with
  | unchanged _ hm => exact hm ▸ hs
  | founded _ owner _ hm _ hid => exact hm ▸ hs.insert fun m hmem => hid ▸ hu.member 1 m hmem
  | added row _ hm hid => exact hm ▸ hs.insert fun m hmem => hid ▸ hu.member 0 m hmem
  | changed _ _ _ hm => exact hm ▸ hs.update fun _ _ _ => rfl
  | removed _ _ hm => exact hm ▸ hs.filter _

/-- The ids that another process draws stay unused. -/
theorem RoleWrite.unused (h : RoleWrite e user_id s s') {e' : Env} (hu : Unused e' s)
    (hapart : ∀ a b, e'.uuid a ≠ e.uuid b) : Unused e' s' := by
  constructor
  · intro k o ho heq
    rcases h.organization ho with ho | hid
    · exact hu.organization k o ho heq
    · exact hapart k 0 (heq.symm.trans hid)
  · intro k m' hm' heq
    rcases h.row hm' with ⟨b, hid⟩ | ⟨m, hm, hid, _⟩
    · exact hapart k b (heq.symm.trans hid)
    · exact hu.member k m hm (hid.trans heq)

/-- Each write leaves each organization with its one owner. -/
theorem RoleWrite.owned (h : RoleWrite e user_id s s') (hs : Owned s) (hu : Unused e s) : Owned s' := by
  have hkept : ∀ o ∈ s.organizations, ∃ m, ownersOf o.id s' = [m] ∧ m.user_id = o.created_by_id := by
    intro o ho
    rw [h.owners hu ho]
    exact hs.owned o ho
  have hhome : ∀ m ∈ s.organization_members, ∃ o ∈ s'.organizations, o.id = m.organization_id := by
    intro m hm
    obtain ⟨o, ho, hid⟩ := hs.homed m hm
    exact ⟨o, h.organization_stays ho, hid⟩
  cases h with
  | unchanged ho hm => exact ⟨ho ▸ hs.organization_ids, hm ▸ hhome, ho ▸ hkept⟩
  | founded o owner ho hm hid _ horganization hrole hcreator =>
    have hnew : ownersOf o.id s' = [owner] := by
      have hnone : ownersOf o.id s = [] := by
        refine List.filter_eq_nil_iff.mpr fun m hmem hp => ?_
        simp only [Bool.and_eq_true, decide_eq_true_eq] at hp
        obtain ⟨o', ho', hid'⟩ := hs.homed m hmem
        exact hu.organization 0 o' ho' (hid'.trans (hp.1.trans hid))
      unfold ownersOf at hnone ⊢
      rw [hm, List.filter_append, hnone]
      simp [horganization, hrole]
    refine ⟨?_, ?_, ?_⟩
    · rw [ho]
      exact hs.organization_ids.insert fun o' ho' => hid ▸ hu.organization 0 o' ho'
    · intro m hmem
      rw [hm] at hmem
      rcases List.mem_append.mp hmem with hmem | hmem
      · exact hhome m hmem
      · rw [List.mem_singleton.mp hmem, horganization, ho]
        exact ⟨o, List.mem_append_right _ (List.mem_singleton.mpr rfl), rfl⟩
    · intro o' ho'
      rw [ho] at ho'
      rcases List.mem_append.mp ho' with ho' | ho'
      · exact hkept o' ho'
      · rw [List.mem_singleton.mp ho']
        exact ⟨owner, hnew, hcreator⟩
  | added row ho hm _ hrow =>
    refine ⟨ho ▸ hs.organization_ids, ?_, ho ▸ hkept⟩
    intro m hmem
    rw [hm] at hmem
    rcases List.mem_append.mp hmem with hmem | hmem
    · exact hhome m hmem
    · rw [List.mem_singleton.mp hmem, ho]
      exact hrow
  | changed member_id role ho hm =>
    refine ⟨ho ▸ hs.organization_ids, ?_, ho ▸ hkept⟩
    rw [hm]
    exact forall_updateWhere hhome fun m hmem _ => hhome m hmem
  | removed member_id ho hm =>
    refine ⟨ho ▸ hs.organization_ids, ?_, ho ▸ hkept⟩
    intro m hmem
    rw [hm] at hmem
    exact hhome m (List.mem_filter.mp hmem).1

end

/-! ## One request after another -/

@[simp] theorem can_manage_role_owner (role : OrganizationRole) : can_manage_role role .OWNER = false := rfl

theorem can_manage_role_admin {role : OrganizationRole} (h : can_manage_role role .ADMIN = true) :
    role = .OWNER := by
  cases role with
  | OWNER => rfl
  | _ => cases h

theorem role_of_manages {actor target : OrganizationRole} (h : can_manage_role actor target = true) :
    target ≠ .OWNER := by
  rintro rfl
  cases h

variable [Platform]

theorem tenant_roles {s s' : Store} (hk : Keyed s) (hs : Owned s) {e : Env} {user : User}
    {r : TenantRequest} (hw : TenantWrite e user s r s') : RoleWrite e user.id s s' := by
  have hactor : ∀ {organization_id actor}, require_permission .MEMBER_MANAGE organization_id user.id s =
      .ok actor → actor.role = .OWNER → OwnedBy s organization_id user.id := by
    intro organization_id actor hp hrole
    obtain ⟨hmem, horganization, huser, _⟩ := permission_of_ok hp
    exact ⟨actor, mem_ownersOf.mpr ⟨hmem, horganization, hrole⟩, huser⟩
  have hrows : ∀ {organization_id member_id target}, get_target_member organization_id member_id s =
      .ok target → ∀ m ∈ s.organization_members, m.id = target.id → m = target := by
    intro organization_id member_id target ht m hmem hid
    exact hk.member_ids.eq hmem (target_of_ok ht).1 hid
  cases hw with
  | organization_created payload =>
    exact .founded (new_organization e payload user.id) (owner_membership e user.id) rfl rfl rfl rfl rfl
      rfl rfl
  | member_added organization_id payload actor target hp howner hrole =>
    refine .added (new_member e organization_id target.id payload.role) rfl rfl rfl ?_ howner ?_
    · obtain ⟨hmem, horganization, _, _⟩ := permission_of_ok hp
      obtain ⟨o, ho, hid⟩ := hs.homed actor hmem
      exact ⟨o, ho, hid.trans horganization⟩
    · intro hadmin
      have hadmin : payload.role = .ADMIN := hadmin
      rw [hadmin] at hrole
      exact hactor hp (can_manage_role_admin hrole)
  | role_changed organization_id member_id role actor target hp ht howner hold hnew =>
    refine .changed target.id role rfl rfl howner ?_ ?_
    · intro m hmem hid
      rw [hrows ht m hmem hid]
      exact role_of_manages hold
    · rintro rfl m hmem hid
      rw [hrows ht m hmem hid, (target_of_ok ht).2]
      exact hactor hp (can_manage_role_admin hnew)
  | member_removed organization_id member_id actor target hp ht _ hold =>
    refine .removed target.id rfl rfl ?_
    intro m hmem hid
    rw [hrows ht m hmem hid]
    exact role_of_manages hold
  | _ => exact .unchanged rfl rfl

theorem auth_roles {s s' : Store} {e : Env} {r : AuthRequest} {reply : Except Failure Body}
    (ho : AuthOutcome e s r reply s') (user_id : UUID) : RoleWrite e user_id s s' := by
  cases ho <;> exact .unchanged rfl rfl

theorem ingest_roles {s s' : Store} {e : Env} {payload : EventCreate} {k : ApiKey}
    {reply : Except Failure EventIngestResponse} (ho : IngestOutcome e payload k s reply s')
    (user_id : UUID) : RoleWrite e user_id s s' := by
  cases ho with
  | stored _ _ _ _ _ he =>
    obtain ⟨_, _, rfl⟩ := he.store_eq
    exact .unchanged rfl rfl
  | _ => exact .unchanged rfl rfl

theorem serve_roles {s : Store} (hk : Keyed s) (hs : Owned s) (e : Env) (r : Request) :
    ∃ user_id, RoleWrite e user_id s (handle e r s).2 := by
  apply served_cases (P := fun _ t => ∃ user_id, RoleWrite e user_id s t)
  · exact fun _ => ⟨0, .unchanged rfl rfl⟩
  · exact fun _ _ _ ho => ⟨0, auth_roles ho 0⟩
  · exact fun _ user _ _ _ hw => ⟨user.id, tenant_roles hk hs hw⟩
  · exact fun _ _ _ _ _ _ ho => ⟨0, ingest_roles ho 0⟩

/-- In every reachable store each organization has one owner, its creator. -/
theorem Reachable.owned {s : Store} (h : Reachable s) : Owned s := by
  refine h.inv ?_ fun s e r hr hf hs => ?_
  · constructor <;> simp [Store.empty]
  · obtain ⟨user_id, hw⟩ := serve_roles (reachable_keyed hr) hs e r
    exact hw.owned hs hf.roles

end pulseforge

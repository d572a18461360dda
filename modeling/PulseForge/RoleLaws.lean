-- No privilege escalation in any interleaving: a request may act on a caller
-- and a target that it read long before, but what a caller may do and which
-- targets it may do it to, no other request takes away.
import PulseForge.MemberTransactions
import PulseForge.Ownership

open txn table interleave

namespace pulseforge

/-! ## What the stages know -/

/-- The transaction has not inserted a row yet. -/
def MemberStage.unwritten : MemberStage → Prop
  | .refreshing .. | .ended _ => False
  | _ => True

/-- The caller is a member of the organization; an owner is so to the end. -/
structure Acts (s : Store) (user_id organization_id : UUID) (actor : OrganizationMember) : Prop where
  user : actor.user_id = user_id
  organization : actor.organization_id = organization_id
  exists_organization : ∃ o ∈ s.organizations, o.id = organization_id
  owner : actor.role = .OWNER → actor ∈ s.organization_members

/-- The row of a target is of no owner and of the organization, if it is still there. -/
structure Targets (s : Store) (organization_id : UUID) (target : OrganizationMember) : Prop where
  role : ∀ m ∈ s.organization_members, m.id = target.id → m.role ≠ .OWNER
  organization : ∀ m ∈ s.organization_members, m.id = target.id → m.organization_id = organization_id

theorem Acts.owned_by {s : Store} {user_id organization_id : UUID} {actor : OrganizationMember}
    (h : Acts s user_id organization_id actor) (hrole : actor.role = .OWNER) :
    OwnedBy s organization_id user_id :=
  ⟨actor, mem_ownersOf.mpr ⟨h.owner hrole, h.organization, hrole⟩, h.user⟩

section
variable {e : Env} {user_id : UUID} {s s' : Store}

theorem Acts.write {u organization_id : UUID} {actor : OrganizationMember}
    (h : Acts s u organization_id actor) (hw : RoleWrite e user_id s s') : Acts s' u organization_id actor := by
  obtain ⟨o, ho, hid⟩ := h.exists_organization
  exact ⟨h.user, h.organization, ⟨o, hw.organization_stays ho, hid⟩,
    fun hrole => hw.owner_stays (h.owner hrole) hrole⟩

/-- A target keeps what it has, as no new membership gets its id. -/
theorem Targets.write {organization_id : UUID} {target : OrganizationMember}
    (h : Targets s organization_id target) (hnew : ∀ k, target.id ≠ e.uuid k)
    (hw : RoleWrite e user_id s s') : Targets s' organization_id target := by
  constructor
  · intro m' hm' hid hrole
    rcases hw.row hm' with ⟨k, hk⟩ | ⟨m, hm, hmid, _, hkept⟩
    · exact hnew k (hid.symm.trans hk)
    · exact h.role m hm (hmid.trans hid) (hkept hrole)
  · intro m' hm' hid
    rcases hw.row hm' with ⟨k, hk⟩ | ⟨m, hm, hmid, horganization, _⟩
    · exact absurd (hid.symm.trans hk) (hnew k)
    · exact horganization.symm.trans (h.organization m hm (hmid.trans hid))

end

/-- What a transaction knows at its stage, of the store and of the ids that
are still to be drawn. -/
def Knows (job : MemberJob) (s : Store) (draws : UUID → Prop) : MemberStage → Prop
  | .looking actor _ | .inserting actor _ =>
    ∀ organization_id payload, job.call = .add_member organization_id payload →
      Acts s job.current_user.id organization_id actor ∧ payload.role ≠ .OWNER ∧
        can_manage_role actor.role payload.role = true
  | .targeting actor =>
    ∀ organization_id, job.call.organization_id = some organization_id →
      Acts s job.current_user.id organization_id actor
  | .saving actor target _ =>
    ∀ organization_id member_id role, job.call = .update_member_role organization_id member_id role →
      (Acts s job.current_user.id organization_id actor ∧ role ≠ .OWNER ∧
        can_manage_role actor.role role = true) ∧ Targets s organization_id target ∧ ¬ draws target.id
  | .deleting _ target =>
    ∀ organization_id, job.call.organization_id = some organization_id →
      Targets s organization_id target ∧ ¬ draws target.id
  | _ => True

section
variable {job : MemberJob} {e : Env} {user_id : UUID} {s s' : Store} {draws : UUID → Prop}
  {t : MemberStage}

theorem Knows.mono (h : Knows job s draws t) {draws' : UUID → Prop} (hd : ∀ id, draws' id → draws id) :
    Knows job s draws' t := by
  cases t with
  | saving actor target user =>
    intro organization_id member_id role hcall
    obtain ⟨hacts, htarget, hnew⟩ := h organization_id member_id role hcall
    exact ⟨hacts, htarget, fun hdrawn => hnew (hd _ hdrawn)⟩
  | deleting actor target =>
    intro organization_id hcall
    obtain ⟨htarget, hnew⟩ := h organization_id hcall
    exact ⟨htarget, fun hdrawn => hnew (hd _ hdrawn)⟩
  | _ => exact h

/-- What a transaction knows, no write of another takes away. -/
theorem Knows.write (h : Knows job s draws t) (hw : RoleWrite e user_id s s')
    (hnew : ∀ k, draws (e.uuid k)) : Knows job s' draws t := by
  have htarget : ∀ {organization_id : UUID} {target : OrganizationMember},
      Targets s organization_id target → ¬ draws target.id → Targets s' organization_id target := by
    intro organization_id target ht hnot
    refine ht.write (fun k heq => ?_) hw
    rw [heq] at hnot
    exact hnot (hnew k)
  cases t with
  | looking actor user =>
    intro organization_id payload hcall
    obtain ⟨hacts, hrole⟩ := h organization_id payload hcall
    exact ⟨hacts.write hw, hrole⟩
  | inserting actor user =>
    intro organization_id payload hcall
    obtain ⟨hacts, hrole⟩ := h organization_id payload hcall
    exact ⟨hacts.write hw, hrole⟩
  | targeting actor =>
    intro organization_id hcall
    exact (h organization_id hcall).write hw
  | saving actor target user =>
    intro organization_id member_id role hcall
    obtain ⟨⟨hacts, hrole⟩, ht, hnot⟩ := h organization_id member_id role hcall
    exact ⟨⟨hacts.write hw, hrole⟩, htarget ht hnot, hnot⟩
  | deleting actor target =>
    intro organization_id hcall
    obtain ⟨ht, hnot⟩ := h organization_id hcall
    exact ⟨htarget ht hnot, hnot⟩
  | _ => trivial

/-! ## One step -/

variable [Platform] {t' : MemberStage}

/-- A step writes organizations and memberships at most once, and draws its ids there. -/
theorem MemberMove.writes_once (h : MemberMove job s t s' t') :
    s' = s ∨ t.unwritten ∧ ¬ t'.unwritten := by
  cases h with
  | created => exact Or.inr ⟨trivial, id⟩
  | added => exact Or.inr ⟨trivial, id⟩
  | unchanged => exact Or.inr ⟨trivial, id⟩
  | changed => exact Or.inr ⟨trivial, id⟩
  | removed => exact Or.inr ⟨trivial, id⟩
  | _ => exact Or.inl rfl

theorem MemberMove.unwritten (h : MemberMove job s t s' t') (ht : t'.unwritten) : t.unwritten := by
  cases h with
  | stopped => exact absurd ht id
  | _ => trivial

/-- What a step writes is what a request may write. -/
theorem MemberMove.roles (h : MemberMove job s t s' t') (hk : Knows job s draws t) :
    RoleWrite job.env job.current_user.id s s' := by
  cases h with
  | created =>
    exact .founded (new_organization job.env _ job.current_user.id)
      (owner_membership job.env job.current_user.id) rfl rfl rfl rfl rfl rfl rfl
  | @added organization_id payload hcall actor user =>
    obtain ⟨hacts, howner, hrole⟩ := hk organization_id payload hcall
    refine .added (new_member job.env organization_id user.id payload.role) rfl rfl rfl
      hacts.exists_organization howner ?_
    intro hadmin
    have hadmin : payload.role = .ADMIN := hadmin
    rw [hadmin] at hrole
    exact hacts.owned_by (can_manage_role_admin hrole)
  | @changed organization_id member_id role hcall actor target =>
    obtain ⟨⟨hacts, howner, hrole⟩, htarget, _⟩ := hk organization_id member_id role hcall
    refine .changed target.id role rfl rfl howner htarget.role ?_
    rintro rfl m hm hid
    rw [htarget.organization m hm hid]
    exact hacts.owned_by (can_manage_role_admin hrole)
  | removed hcall actor target =>
    obtain ⟨htarget, _⟩ := hk _ (congrArg MemberCall.organization_id hcall)
    exact .removed target.id rfl rfl htarget.role
  | _ => exact .unchanged rfl rfl

/-- What a step reads is known from then on. -/
theorem MemberMove.knows (h : MemberMove job s t s' t') (hs : Owned s)
    (hids : UniqueOn OrganizationMember.id s.organization_members)
    (hdraws : ∀ m ∈ s.organization_members, ¬ draws m.id) (hk : Knows job s draws t) :
    Knows job s' draws t' := by
  have hacts : ∀ {organization_id : UUID} {actor : OrganizationMember},
      require_permission .MEMBER_MANAGE organization_id job.current_user.id s = .ok actor →
        Acts s job.current_user.id organization_id actor := by
    intro organization_id actor hp
    obtain ⟨hmem, horganization, huser, _⟩ := permission_of_ok hp
    obtain ⟨o, ho, hid⟩ := hs.homed actor hmem
    exact ⟨huser, horganization, ⟨o, ho, hid.trans horganization⟩, fun _ => hmem⟩
  have htarget : ∀ {organization_id : UUID} {target : OrganizationMember} {role : OrganizationRole},
      target ∈ s.organization_members → target.organization_id = organization_id →
        can_manage_role role target.role = true → Targets s organization_id target := by
    intro organization_id target role hmem horganization hrole
    constructor
    · intro m hm hid
      rw [hids.eq hm hmem hid]
      exact role_of_manages hrole
    · intro m hm hid
      rw [hids.eq hm hmem hid]
      exact horganization
  cases h with
  | found hcall actor user hp howner hnew =>
    intro organization_id payload hcall'
    rw [hcall] at hcall'
    cases hcall'
    exact ⟨hacts hp, howner, hnew⟩
  | unseen => exact hk
  | permitted hcall actor hp =>
    intro organization_id hcall'
    rw [hcall] at hcall'
    cases hcall'
    exact hacts hp
  | targeted hcall actor target user hmem horganization howner hold hnew =>
    intro organization_id member_id role hcall'
    rw [hcall] at hcall'
    cases hcall'
    have hactor := hk _ (congrArg MemberCall.organization_id hcall)
    exact ⟨⟨hactor, howner, hnew⟩, htarget hmem horganization hold, hdraws target hmem⟩
  | condemned hcall actor target hmem horganization hold =>
    intro organization_id hcall'
    rw [hcall] at hcall'
    cases hcall'
    exact ⟨htarget hmem horganization hold, hdraws target hmem⟩
  | _ => trivial

end

/-! ## The run -/

variable [Platform] {ι : Type} [Fintype ι] [DecidableEq ι] {jobs : ι → MemberJob}
  {g : State ι Store MemberStage} {i : ι}

/-- The id is one that a transaction may still draw. -/
def Undrawn (jobs : ι → MemberJob) (g : State ι Store MemberStage) (id : UUID) : Prop :=
  ∃ j k, (g.locals j).unwritten ∧ id = (jobs j).env.uuid k

structure RolesKept (jobs : ι → MemberJob) (g : State ι Store MemberStage) : Prop where
  owned : Owned g.shared
  member_ids : UniqueOn OrganizationMember.id g.shared.organization_members
  unused : ∀ j, (g.locals j).unwritten → Unused (jobs j).env g.shared
  knows : ∀ j, Knows (jobs j) g.shared (Undrawn jobs g) (g.locals j)

theorem member_turn_cases (jobs : ι → MemberJob) (g : State ι Store MemberStage) (i : ι) :
    member_turn jobs g i = g ∨ ∃ s' t', MemberMove (jobs i) g.shared (g.locals i) s' t' ∧
      member_turn jobs g i = g.move i (s', t') := by
  rcases lockStep_cases (fun i => member_transaction (jobs i)) g i with heq | ⟨s', t', hnext, heq⟩
  · exact Or.inl heq
  · exact Or.inr ⟨s', t', MemberJob.move hnext, heq⟩

omit [Fintype ι] [DecidableEq ι] in
theorem roles_begin {s₀ : Store} (hs : Reachable s₀) (hf : FreshEnvs (fun i => (jobs i).env) s₀) :
    RolesKept jobs (member_begin s₀) where
  owned := hs.owned
  member_ids := (reachable_keyed hs).member_ids
  unused j _ := (hf.fresh j).roles
  knows _ := trivial

omit [Fintype ι] in
theorem RolesKept.move (h : RolesKept jobs g)
    (hapart : ∀ i j a b, (jobs i).env.uuid a = (jobs j).env.uuid b → i = j) {s' : Store}
    {t' : MemberStage} (hmove : MemberMove (jobs i) g.shared (g.locals i) s' t') :
    RolesKept jobs (g.move i (s', t')) := by
  have hw := hmove.roles (h.knows i)
  have hdrawn : ∀ id, Undrawn jobs (g.move i (s', t')) id → Undrawn jobs g id := by
    rintro id ⟨j, k, hj, hid⟩
    refine ⟨j, k, ?_, hid⟩
    by_cases hji : j = i
    · rw [hji, move_self] at hj
      rw [hji]
      exact hmove.unwritten hj
    · rwa [move_other hji] at hj
  have hnow := hmove.knows h.owned h.member_ids
    (fun m hm ⟨j, k, hj, hid⟩ => (h.unused j hj).member k m hm hid) (h.knows i)
  rcases hmove.writes_once with heq | ⟨hunwritten, hwritten⟩
  · -- nothing is written
    rw [heq] at hnow ⊢
    refine ⟨h.owned, h.member_ids, ?_, ?_⟩
    · intro j hj
      by_cases hji : j = i
      · rw [hji, move_self] at hj
        rw [hji]
        exact h.unused i (hmove.unwritten hj)
      · rw [move_other hji] at hj
        exact h.unused j hj
    · intro j
      by_cases hji : j = i
      · rw [hji, move_self]
        exact hnow.mono (heq ▸ hdrawn)
      · rw [move_other hji]
        exact (h.knows j).mono (heq ▸ hdrawn)
  · have hu := h.unused i hunwritten
    refine ⟨hw.owned h.owned hu, hw.member_ids hu h.member_ids, ?_, ?_⟩
    · intro j hj
      by_cases hji : j = i
      · rw [hji, move_self] at hj
        exact absurd hj hwritten
      · rw [move_other hji] at hj
        exact hw.unused (h.unused j hj) fun a b heq => hji (hapart j i a b heq)
    · intro j
      by_cases hji : j = i
      · rw [hji, move_self]
        exact hnow.mono hdrawn
      · rw [move_other hji]
        exact ((h.knows j).write hw fun k => ⟨i, k, hunwritten, rfl⟩).mono hdrawn

theorem roles_run {s₀ : Store} (hs : Reachable s₀) (hf : FreshEnvs (fun i => (jobs i).env) s₀)
    (turns : List ι) : RolesKept jobs (run.after (member_turn jobs) (member_begin s₀) turns) := by
  refine invariant (roles_begin hs hf) ?_ turns
  intro g i p hg hp
  exact hg.move hf.apart (MemberJob.move (lockStep_some hp).2)

/-- A turn of a process writes what its request may write. -/
theorem RolesKept.turn (h : RolesKept jobs g) (i : ι) :
    g.shared = (member_turn jobs g i).shared ∨ Unused (jobs i).env g.shared ∧
      RoleWrite (jobs i).env (jobs i).current_user.id g.shared (member_turn jobs g i).shared := by
  rcases member_turn_cases jobs g i with heq | ⟨s', t', hmove, heq⟩
  · rw [heq]
    exact Or.inl rfl
  · rw [heq]
    rcases hmove.writes_once with hsame | ⟨hunwritten, _⟩
    · exact Or.inl hsame.symm
    · exact Or.inr ⟨h.unused i hunwritten, hmove.roles (h.knows i)⟩

/-- Whatever the users send, and in whatever order the steps of their requests
come: each organization has one owner membership, that of its creator, which
stays as it is; and a membership is made an admin only by a request of the
owner of its organization. -/
theorem no_request_escalates_a_role {s₀ : Store} (hs : Reachable s₀)
    (hf : FreshEnvs (fun i => (jobs i).env) s₀) (turns : List ι) :
    let g := run.after (member_turn jobs) (member_begin s₀) turns
    (∀ o ∈ g.shared.organizations, ∃ m, ownersOf o.id g.shared = [m] ∧ m.user_id = o.created_by_id) ∧
      ∀ i, (∀ o ∈ g.shared.organizations,
          ownersOf o.id (member_turn jobs g i).shared = ownersOf o.id g.shared) ∧
        ∀ m ∈ (member_turn jobs g i).shared.organization_members, m.role = .ADMIN →
          m ∈ g.shared.organization_members ∨
            OwnedBy g.shared m.organization_id (jobs i).current_user.id := by
  intro g
  have h : RolesKept jobs g := roles_run hs hf turns
  refine ⟨h.owned.owned, fun i => ?_⟩
  rcases h.turn i with hsame | ⟨hu, hw⟩
  · rw [← hsame]
    exact ⟨fun _ _ => rfl, fun m hm _ => Or.inl hm⟩
  · exact ⟨fun o ho => hw.owners hu ho, fun m hm hadmin => hw.admin hm hadmin⟩

/-- The user of the sample run creates an organization and tries to be no
longer the owner of the first one. -/
def twoOrganizations (i : Fin 2) : MemberJob :=
  ⟨sampleDraws 2 i,
    if i = 0 then .create_organization ⟨"Second".toList, "second".toList, by decide, by decide⟩
    else .update_member_role 20 21 .ADMIN, sampleMember⟩

omit [Platform] in
theorem twoOrganizations_fresh :
    FreshEnvs (fun i => (twoOrganizations i).env)
      (run.after (@serve samplePlatform) Store.empty sampleRun) :=
  sample_envs_fresh (fun _ => rfl) (by decide +kernel)

omit [Platform] in
theorem both_organizations_have_one_owner :
    let s₀ := run.after (@serve samplePlatform) Store.empty sampleRun
    let turns : List (Fin 2) := [0, 1, 1]
    let g := run.after (@member_turn samplePlatform _ _ _ twoOrganizations) (member_begin s₀) turns
    (g.shared.organizations.map Organization.id = [20, 1000]) ∧
      ∀ o ∈ g.shared.organizations, ∃ m, ownersOf o.id g.shared = [m] ∧ m.user_id = o.created_by_id := by
  intro s₀ turns g
  refine ⟨by decide +kernel, ?_⟩
  have h := @no_request_escalates_a_role samplePlatform _ _ _ twoOrganizations s₀ sample_reachable
    twoOrganizations_fresh turns
  clear_value s₀
  exact h.1

end pulseforge

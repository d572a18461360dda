-- The requests that create organizations and manage members as transactions
-- under READ COMMITTED: the role of the caller, the target and the commit are
-- read and written in separate steps, and none of the reads locks its row.
import PulseForge.Lib.Locks
import PulseForge.WriteIntegrity

open txn table interleave

namespace pulseforge

variable [Platform]

/-! ## Jobs and stages -/

inductive MemberCall
  | create_organization (payload : OrganizationCreate)
  | add_member (organization_id : UUID) (payload : MemberAdd)
  | update_member_role (organization_id member_id : UUID) (role : OrganizationRole)
  | remove_member (organization_id member_id : UUID)

/-- A request with the draws and the clock of its process. -/
structure MemberJob where
  env : Env
  call : MemberCall
  current_user : User

/-- What a transaction does next, with the memberships that it has read. -/
inductive MemberStage
  | start
  | looking (actor : OrganizationMember) (user : User)
  | inserting (actor : OrganizationMember) (user : User)
  | targeting (actor : OrganizationMember)
  | saving (actor target : OrganizationMember) (user : User)
  | deleting (actor target : OrganizationMember)
  | refreshing (membership : OrganizationMember) (user : User)
  | ended (reply : Except Failure Body)

/-! ## The statements -/

/-- The session keeps the rows that it has loaded: a row that is read again
has the columns of its first reading. -/
def loaded (actor row : OrganizationMember) : OrganizationMember :=
  if row.id = actor.id then actor else row

/-- What a role change checks, once it knows its caller. -/
def roleCheck (organization_id member_id : UUID) (role : OrganizationRole) (actor : OrganizationMember)
    (s : Store) : Except Failure (OrganizationMember × User) := do
  let row ← get_target_member organization_id member_id s
  let target := loaded actor row
  let user ← tokenUser target.user_id s
  if role = .OWNER then
    throw (HTTPException 403 "Ownership transfer is not supported by this endpoint")
  else if !can_manage_role actor.role target.role then
    throw (HTTPException 403 "You cannot change this member's role")
  else if !can_manage_role actor.role role then
    throw (HTTPException 403 "You cannot assign this role")
  else return (target, user)

/-- What a removal checks, once it knows its caller. -/
def removalCheck (organization_id member_id user_id : UUID) (actor : OrganizationMember) (s : Store) :
    Except Failure OrganizationMember := do
  let row ← get_target_member organization_id member_id s
  let target := loaded actor row
  if target.user_id = user_id then
    throw (HTTPException 409 "You cannot remove your own membership")
  else if !can_manage_role actor.role target.role then
    throw (HTTPException 403 "You cannot remove this member")
  else return target

/-- What an addition checks before it looks for a membership of the new member. -/
def additionCheck (organization_id : UUID) (payload : MemberAdd) (user_id : UUID) (s : Store) :
    Except Failure (OrganizationMember × User) := do
  let actor ← require_permission .MEMBER_MANAGE organization_id user_id s
  if payload.role = .OWNER then
    throw (HTTPException 403 "Ownership transfer is not supported by this endpoint")
  else if !can_manage_role actor.role payload.role then
    throw (HTTPException 403 "Admins can assign only engineer or viewer roles")
  else
    match (findUserByEmail s payload.email).filter fun u => u.is_active with
    | none => throw (HTTPException 404 "No active registered user found with this email")
    | some user => return (actor, user)

/-- The `UPDATE` of a role. The session writes a column only if its value is another one
than the one it read, and the statement must find its row. -/
def saveRole (target : OrganizationMember) (role : OrganizationRole) (s : Store) :
    Except Failure Store :=
  if target.role = role then .ok s
  else if s.organization_members.any fun m => m.id = target.id then
    .ok (updateMember target.id (fun m => { m with role := role }) s)
  else .error .StaleDataError

/-- `session.refresh`: the row of a membership, if it is still there. -/
def refreshMember (membership : OrganizationMember) (user : User) (s : Store) : Except Failure Body :=
  match s.organization_members.find? fun m => m.id = membership.id with
  | some row => .ok (.member (to_member_response row user))
  | none => .error .InvalidRequestError

/-- The flush of a new organization keeps others with its slug waiting until
the commit, so both are one step. -/
def create_organization_next (e : Env) (payload : OrganizationCreate) (current_user : User) (s : Store) :
    MemberStage → Option (Store × MemberStage)
  | .start =>
    match insertOrganization (new_organization e payload current_user.id) s with
    | .ok s' => some (addAudit (organization_audit e payload current_user.id)
        (addMember (owner_membership e current_user.id) s'),
          .ended (.ok (.organization (new_organization e payload current_user.id).response)))
    | .error failure =>
      if isIntegrityError failure then
        some (s, .ended (.error (HTTPException 409 "Organization slug is already in use")))
      else some (s, .ended (.error failure))
  | _ => none

def add_member_next (e : Env) (organization_id : UUID) (payload : MemberAdd) (current_user : User)
    (s : Store) : MemberStage → Option (Store × MemberStage)
  | .start =>
    match additionCheck organization_id payload current_user.id s with
    | .error failure => some (s, .ended (.error failure))
    | .ok (actor, user) => some (s, .looking actor user)
  | .looking actor user =>
    if (findMembership s organization_id user.id).isSome then some (s, .ended (.error MEMBER_EXISTS))
    else some (s, .inserting actor user)
  | .inserting _ user =>
    match insertMember (new_member e organization_id user.id payload.role) s with
    | .ok s' => some (s', .refreshing (new_member e organization_id user.id payload.role) user)
    | .error _ => some (s, .ended (.error MEMBER_EXISTS))
  | .refreshing membership user => some (s, .ended (refreshMember membership user s))
  | _ => none

def update_member_role_next (e : Env) (organization_id member_id : UUID) (role : OrganizationRole)
    (current_user : User) (s : Store) : MemberStage → Option (Store × MemberStage)
  | .start =>
    match require_permission .MEMBER_MANAGE organization_id current_user.id s with
    | .error failure => some (s, .ended (.error failure))
    | .ok actor => some (s, .targeting actor)
  | .targeting actor =>
    match roleCheck organization_id member_id role actor s with
    | .error failure => some (s, .ended (.error failure))
    | .ok (target, user) => some (s, .saving actor target user)
  | .saving _ target user =>
    match saveRole target role s with
    | .error failure => some (s, .ended (.error failure))
    | .ok s' => some (addAudit (role_audit e organization_id target role current_user.id) s',
        .refreshing target user)
  | .refreshing membership user => some (s, .ended (refreshMember membership user s))
  | _ => none

/-- A `DELETE` that finds no row is no error. -/
def remove_member_next (organization_id member_id : UUID) (current_user : User) (s : Store) :
    MemberStage → Option (Store × MemberStage)
  | .start =>
    match require_permission .MEMBER_MANAGE organization_id current_user.id s with
    | .error failure => some (s, .ended (.error failure))
    | .ok actor => some (s, .targeting actor)
  | .targeting actor =>
    match removalCheck organization_id member_id current_user.id actor s with
    | .error failure => some (s, .ended (.error failure))
    | .ok target => some (s, .deleting actor target)
  | .deleting _ target => some (deleteMember target.id s, .ended (.ok .no_content))
  | _ => none

/-! ## The machine -/

def MemberJob.next (job : MemberJob) : Store → MemberStage → Option (Store × MemberStage) :=
  match job.call with
  | .create_organization payload => create_organization_next job.env payload job.current_user
  | .add_member organization_id payload =>
    add_member_next job.env organization_id payload job.current_user
  | .update_member_role organization_id member_id role =>
    update_member_role_next job.env organization_id member_id role job.current_user
  | .remove_member organization_id member_id =>
    remove_member_next organization_id member_id job.current_user

/-- Each transaction writes in one step, so nobody waits. -/
def member_transaction (job : MemberJob) : Process Store MemberStage Empty where
  next := job.next
  wants _ := none
  holds _ := []
  acquires _ _ _ _ _ h := absurd h List.not_mem_nil

variable {ι : Type}

def member_begin (s₀ : Store) : State ι Store MemberStage := ⟨s₀, fun _ => .start⟩

/-- The turn of one transaction. -/
def member_turn [Fintype ι] [DecidableEq ι] (jobs : ι → MemberJob) :
    State ι Store MemberStage → ι → State ι Store MemberStage :=
  step (lockStep fun i => member_transaction (jobs i))

/-! ## What a step can do -/

/-- The organization whose members the request manages. -/
def MemberCall.organization_id : MemberCall → Option UUID
  | .create_organization _ => none
  | .add_member organization_id _ | .update_member_role organization_id _ _
  | .remove_member organization_id _ => some organization_id

/-- Each step of a transaction, with what it read. -/
inductive MemberMove (job : MemberJob) (s : Store) : MemberStage → Store → MemberStage → Prop
  | stopped (t : MemberStage) (reply : Except Failure Body) : MemberMove job s t s (.ended reply)
  | created {payload : OrganizationCreate} (hcall : job.call = .create_organization payload)
      (body : Body) :
      MemberMove job s .start
        (addAudit (organization_audit job.env payload job.current_user.id)
          (addMember (owner_membership job.env job.current_user.id)
            { s with
              organizations := s.organizations ++
                [new_organization job.env payload job.current_user.id] }))
        (.ended (.ok body))
  | found {organization_id : UUID} {payload : MemberAdd}
      (hcall : job.call = .add_member organization_id payload) (actor : OrganizationMember) (user : User)
      (hp : require_permission .MEMBER_MANAGE organization_id job.current_user.id s = .ok actor)
      (howner : payload.role ≠ .OWNER) (hnew : can_manage_role actor.role payload.role = true) :
      MemberMove job s .start s (.looking actor user)
  | unseen {organization_id : UUID} {payload : MemberAdd}
      (hcall : job.call = .add_member organization_id payload) (actor : OrganizationMember) (user : User) :
      MemberMove job s (.looking actor user) s (.inserting actor user)
  | added {organization_id : UUID} {payload : MemberAdd}
      (hcall : job.call = .add_member organization_id payload) (actor : OrganizationMember) (user : User)
      (hnew : isMember s organization_id user.id = false) :
      MemberMove job s (.inserting actor user)
        (addMember (new_member job.env organization_id user.id payload.role) s)
        (.refreshing (new_member job.env organization_id user.id payload.role) user)
  | permitted {organization_id : UUID} (hcall : job.call.organization_id = some organization_id)
      (actor : OrganizationMember)
      (hp : require_permission .MEMBER_MANAGE organization_id job.current_user.id s = .ok actor) :
      MemberMove job s .start s (.targeting actor)
  | targeted {organization_id member_id : UUID} {role : OrganizationRole}
      (hcall : job.call = .update_member_role organization_id member_id role)
      (actor target : OrganizationMember) (user : User) (hmem : target ∈ s.organization_members)
      (horganization : target.organization_id = organization_id) (howner : role ≠ .OWNER)
      (hold : can_manage_role actor.role target.role = true)
      (hnew : can_manage_role actor.role role = true) :
      MemberMove job s (.targeting actor) s (.saving actor target user)
  | condemned {organization_id member_id : UUID}
      (hcall : job.call = .remove_member organization_id member_id)
      (actor target : OrganizationMember) (hmem : target ∈ s.organization_members)
      (horganization : target.organization_id = organization_id)
      (hold : can_manage_role actor.role target.role = true) :
      MemberMove job s (.targeting actor) s (.deleting actor target)
  | unchanged {organization_id member_id : UUID} {role : OrganizationRole}
      (hcall : job.call = .update_member_role organization_id member_id role)
      (actor target : OrganizationMember) (user : User) (hsame : target.role = role) :
      MemberMove job s (.saving actor target user)
        (addAudit (role_audit job.env organization_id target role job.current_user.id) s)
        (.refreshing target user)
  | changed {organization_id member_id : UUID} {role : OrganizationRole}
      (hcall : job.call = .update_member_role organization_id member_id role)
      (actor target : OrganizationMember) (user : User) (hdiff : target.role ≠ role)
      (hrow : ∃ m ∈ s.organization_members, m.id = target.id) :
      MemberMove job s (.saving actor target user)
        (addAudit (role_audit job.env organization_id target role job.current_user.id)
          (updateMember target.id (fun m => { m with role := role }) s))
        (.refreshing target user)
  | removed {organization_id member_id : UUID}
      (hcall : job.call = .remove_member organization_id member_id)
      (actor target : OrganizationMember) :
      MemberMove job s (.deleting actor target) (deleteMember target.id s) (.ended (.ok .no_content))

omit [Platform] in
@[simp] theorem can_manage_role_self (role : OrganizationRole) : can_manage_role role role = false := by
  cases role <;> rfl

omit [Platform] in
/-- Nobody manages the own role, so a target that passes is a row that was just read. -/
theorem loaded_of_manages {actor row : OrganizationMember}
    (h : can_manage_role actor.role (loaded actor row).role = true) : loaded actor row = row := by
  unfold loaded at *
  split at h
  · rw [can_manage_role_self] at h
    cases h
  · rw [if_neg ‹_›]

omit [Platform] in
theorem roleCheck_ok {organization_id member_id : UUID} {role : OrganizationRole}
    {actor target : OrganizationMember} {user : User} {s : Store}
    (h : roleCheck organization_id member_id role actor s = .ok (target, user)) :
    target ∈ s.organization_members ∧ target.organization_id = organization_id ∧ role ≠ .OWNER ∧
      can_manage_role actor.role target.role = true ∧ can_manage_role actor.role role = true := by
  obtain ⟨row, hrow, h⟩ := bind_ok h
  obtain ⟨_, _, h⟩ := bind_ok h
  obtain ⟨hmem, horganization⟩ := target_of_ok hrow
  split at h
  · cases h
  rename_i howner
  split at h
  · cases h
  rename_i hold
  split at h
  · cases h
  rename_i hnew
  cases h
  simp only [Bool.not_eq_true, Bool.not_eq_false'] at hold hnew
  have heq := loaded_of_manages hold
  rw [heq] at hold ⊢
  exact ⟨hmem, horganization, howner, hold, hnew⟩

omit [Platform] in
theorem removalCheck_ok {organization_id member_id user_id : UUID} {actor target : OrganizationMember}
    {s : Store} (h : removalCheck organization_id member_id user_id actor s = .ok target) :
    target ∈ s.organization_members ∧ target.organization_id = organization_id ∧
      can_manage_role actor.role target.role = true := by
  obtain ⟨row, hrow, h⟩ := bind_ok h
  obtain ⟨hmem, horganization⟩ := target_of_ok hrow
  dsimp only at h
  split at h
  · cases h
  split at h
  · cases h
  rename_i hold
  cases h
  simp only [Bool.not_eq_true, Bool.not_eq_false'] at hold
  have heq := loaded_of_manages hold
  rw [heq] at hold ⊢
  exact ⟨hmem, horganization, hold⟩

theorem additionCheck_ok {organization_id user_id : UUID} {payload : MemberAdd}
    {actor : OrganizationMember} {user : User} {s : Store}
    (h : additionCheck organization_id payload user_id s = .ok (actor, user)) :
    require_permission .MEMBER_MANAGE organization_id user_id s = .ok actor ∧ payload.role ≠ .OWNER ∧
      can_manage_role actor.role payload.role = true := by
  obtain ⟨found, hp, h⟩ := bind_ok h
  split at h
  · cases h
  rename_i howner
  split at h
  · cases h
  rename_i hnew
  simp only [Bool.not_eq_true, Bool.not_eq_false'] at hnew
  split at h
  · cases h
  · cases h
    exact ⟨hp, howner, hnew⟩

theorem create_organization_move {job : MemberJob} {payload : OrganizationCreate}
    (hcall : job.call = .create_organization payload) {s s' : Store} {t t' : MemberStage}
    (h : create_organization_next job.env payload job.current_user s t = some (s', t')) :
    MemberMove job s t s' t' := by
  cases t with
  | start =>
    simp only [create_organization_next, insertOrganization] at h
    split at h
    · rename_i stored hins
      cases h
      split at hins
      · split at hins
        · cases hins
        · cases hins
          exact .created hcall _
      · cases hins
    · split at h <;> cases h <;> exact .stopped _ _
  | _ => cases h

theorem add_member_move {job : MemberJob} {organization_id : UUID} {payload : MemberAdd}
    (hcall : job.call = .add_member organization_id payload) {s s' : Store} {t t' : MemberStage}
    (h : add_member_next job.env organization_id payload job.current_user s t = some (s', t')) :
    MemberMove job s t s' t' := by
  cases t with
  | start =>
    simp only [add_member_next] at h
    split at h
    · cases h
      exact .stopped _ _
    · rename_i actor user hcheck
      cases h
      obtain ⟨hp, howner, hnew⟩ := additionCheck_ok hcheck
      exact .found hcall actor user hp howner hnew
  | looking actor user =>
    simp only [add_member_next] at h
    split at h
    · cases h
      exact .stopped _ _
    · cases h
      exact .unseen hcall actor user
  | inserting actor user =>
    simp only [add_member_next, insertMember] at h
    split at h
    · rename_i stored hins
      cases h
      split at hins
      · cases hins
      · rename_i hnew
        cases hins
        exact .added hcall actor user (by simpa [new_member] using hnew)
    · cases h
      exact .stopped _ _
  | refreshing membership user =>
    cases h
    exact .stopped _ _
  | _ => cases h

theorem update_member_role_move {job : MemberJob} {organization_id member_id : UUID}
    {role : OrganizationRole} (hcall : job.call = .update_member_role organization_id member_id role)
    {s s' : Store} {t t' : MemberStage}
    (h : update_member_role_next job.env organization_id member_id role job.current_user s t =
      some (s', t')) : MemberMove job s t s' t' := by
  cases t with
  | start =>
    simp only [update_member_role_next] at h
    split at h
    · cases h
      exact .stopped _ _
    · rename_i actor hp
      cases h
      exact .permitted (by rw [hcall]; rfl) actor hp
  | targeting actor =>
    simp only [update_member_role_next] at h
    split at h
    · cases h
      exact .stopped _ _
    · rename_i target user hcheck
      cases h
      obtain ⟨hmem, horganization, howner, hold, hnew⟩ := roleCheck_ok hcheck
      exact .targeted hcall actor target user hmem horganization howner hold hnew
  | saving actor target user =>
    simp only [update_member_role_next, saveRole] at h
    by_cases hsame : target.role = role
    · simp only [hsame, if_true] at h
      cases h
      have hmove := MemberMove.unchanged hcall actor target user hsame (s := s)
      rwa [hsame] at *
    · simp only [hsame, if_false] at h
      split at h
      · cases h
        exact .stopped _ _
      · rename_i stored hsaved
        split at hsaved
        · rename_i hany
          cases hsaved
          cases h
          exact .changed hcall actor target user hsame (by simpa using hany)
        · cases hsaved
  | refreshing membership user =>
    cases h
    exact .stopped _ _
  | _ => cases h

theorem remove_member_move {job : MemberJob} {organization_id member_id : UUID}
    (hcall : job.call = .remove_member organization_id member_id)
    {s s' : Store} {t t' : MemberStage}
    (h : remove_member_next organization_id member_id job.current_user s t = some (s', t')) :
    MemberMove job s t s' t' := by
  cases t with
  | start =>
    simp only [remove_member_next] at h
    split at h
    · cases h
      exact .stopped _ _
    · rename_i actor hp
      cases h
      exact .permitted (by rw [hcall]; rfl) actor hp
  | targeting actor =>
    simp only [remove_member_next] at h
    split at h
    · cases h
      exact .stopped _ _
    · rename_i target hcheck
      cases h
      obtain ⟨hmem, horganization, hold⟩ := removalCheck_ok hcheck
      exact .condemned hcall actor target hmem horganization hold
  | deleting actor target =>
    cases h
    exact .removed hcall actor target
  | _ => cases h

theorem MemberJob.move {job : MemberJob} {s s' : Store} {t t' : MemberStage}
    (h : job.next s t = some (s', t')) : MemberMove job s t s' t' := by
  unfold MemberJob.next at h
  cases hcall : job.call with
  | create_organization payload =>
    rw [hcall] at h
    exact create_organization_move hcall h
  | add_member organization_id payload =>
    rw [hcall] at h
    exact add_member_move hcall h
  | update_member_role organization_id member_id role =>
    rw [hcall] at h
    exact update_member_role_move hcall h
  | remove_member organization_id member_id =>
    rw [hcall] at h
    exact remove_member_move hcall h

/-! ## One transaction alone -/

/-- The handler that the transaction is made of. -/
def MemberJob.handler (job : MemberJob) : Handler Body :=
  match job.call with
  | .create_organization payload =>
    answer (fun o => .organization o.response) (create_organization job.env payload job.current_user)
  | .add_member organization_id payload =>
    answer .member (add_member job.env organization_id payload job.current_user)
  | .update_member_role organization_id member_id role =>
    answer .member (update_member_role job.env organization_id member_id role job.current_user)
  | .remove_member organization_id member_id =>
    answer (fun _ => .no_content) (remove_member organization_id member_id job.current_user)

section
variable {job : MemberJob} {s : Store}

theorem create_organization_reaches {payload : OrganizationCreate}
    (hcall : job.call = .create_organization payload) :
    Ends (answer (fun o => .organization o.response)
      (create_organization job.env payload job.current_user)) ⟨s, s⟩ fun r s' =>
        Reaches job.next s .start s'.committed (.ended r) := by
  have hnext : job.next = create_organization_next job.env payload job.current_user := by
    unfold MemberJob.next
    rw [hcall]
  unfold create_organization
  simp only [ends_answer, ends_bind, ends_attempt, ends_flush]
  cases hins : insertOrganization (new_organization job.env payload job.current_user.id) s with
  | ok s' =>
    simp only [Except.map, if_true, ends_bind, ends_write, ends_commit, ends_pure]
    refine .step ?_ (.refl _ _)
    simp only [hnext, create_organization_next, hins]
  | error failure =>
    have hstart : job.next s .start = if isIntegrityError failure then
        some (s, .ended (.error (HTTPException 409 "Organization slug is already in use")))
        else some (s, .ended (.error failure)) := by
      simp only [hnext, create_organization_next, hins]
    simp only [Except.map]
    split <;> rename_i hcaught
    · rw [if_pos hcaught] at hstart
      exact .step hstart (.refl _ _)
    · rw [if_neg hcaught] at hstart
      exact .step hstart (.refl _ _)

omit [Platform] in
/-- A new membership is found by its id. -/
theorem refreshMember_added {e : Env} (hf : Fresh e s) (organization_id : UUID) (user : User)
    (role : OrganizationRole) :
    refreshMember (new_member e organization_id user.id role) user
      (addMember (new_member e organization_id user.id role) s) =
        .ok (.member (to_member_response (new_member e organization_id user.id role) user)) := by
  have hfind : (addMember (new_member e organization_id user.id role) s).organization_members.find?
      (fun m => m.id = e.uuid 0) = some (new_member e organization_id user.id role) := by
    refine find?_eq_of_unique (List.mem_append_right _ (List.mem_singleton_self _)) ?_ ?_
    · simp [new_member]
    · intro m hm hid
      rcases List.mem_append.mp hm with hm | hm
      · exact absurd (by simpa using hid) (hf.member 0 m hm)
      · exact List.mem_singleton.mp hm
  have hid : (new_member e organization_id user.id role).id = e.uuid 0 := rfl
  unfold refreshMember
  rw [hid, hfind]

theorem add_member_reaches {organization_id : UUID} {payload : MemberAdd}
    (hcall : job.call = .add_member organization_id payload) (hf : Fresh job.env s) :
    Ends (answer .member (add_member job.env organization_id payload job.current_user)) ⟨s, s⟩
      fun r s' => Reaches job.next s .start s'.committed (.ended r) := by
  have hnext : job.next = add_member_next job.env organization_id payload job.current_user := by
    unfold MemberJob.next
    rw [hcall]
  have hfails : ∀ failure, additionCheck organization_id payload job.current_user.id s =
      .error failure → Reaches job.next s .start s (.ended (.error failure)) := by
    intro failure hcheck
    refine .step ?_ (.refl _ _)
    simp only [hnext, add_member_next, hcheck]
  have hlooks : ∀ actor user, additionCheck organization_id payload job.current_user.id s =
      .ok (actor, user) → job.next s .start = some (s, .looking actor user) := by
    intro actor user hcheck
    simp only [hnext, add_member_next, hcheck]
  generalize hcheck : additionCheck organization_id payload job.current_user.id s = check
    at hfails hlooks
  simp only [additionCheck] at hcheck
  unfold add_member
  rw [ends_answer]
  refine ends_ask_checked hcheck hfails fun actor hp hcheck => ?_
  refine ends_if_checked hcheck hfails fun howner hcheck => ?_
  refine ends_if_checked hcheck hfails fun hnew hcheck => ?_
  simp only [ends_bind, ends_select]
  cases huser : (findUserByEmail s payload.email).filter fun u => u.is_active with
  | none =>
    simp only [huser] at hcheck
    exact hfails _ hcheck.symm
  | some user =>
    simp only [huser] at hcheck
    have hstart := hlooks actor user hcheck.symm
    simp only [ends_bind, ends_select]
    by_cases hexists : (findMembership s organization_id user.id).isSome = true
    · have hlook : job.next s (.looking actor user) = some (s, .ended (.error MEMBER_EXISTS)) := by
        simp only [hnext, add_member_next, hexists, if_true]
      simp only [hexists, if_true, ends_throw]
      exact .step hstart (.step hlook (.refl _ _))
    · have hlook : job.next s (.looking actor user) = some (s, .inserting actor user) := by
        simp only [hnext, add_member_next, hexists]
        rfl
      have hmember : isMember s organization_id user.id = false := by
        rw [isMember_eq]
        exact Bool.eq_false_iff.mpr hexists
      have hins : insertMember (new_member job.env organization_id user.id payload.role) s =
          .ok (addMember (new_member job.env organization_id user.id payload.role) s) := by
        simp [insertMember, new_member, hmember]
      have hinsert : job.next s (.inserting actor user) =
          some (addMember (new_member job.env organization_id user.id payload.role) s,
            .refreshing (new_member job.env organization_id user.id payload.role) user) := by
        simp only [hnext, add_member_next, hins]
      simp only [hexists, Bool.false_eq_true, if_false, ends_bind, ends_attempt, ends_flush,
        hins, if_true, ends_commit, ends_pure]
      refine .step hstart (.step hlook (.step hinsert ?_))
      rw [hnext]
      refine .step rfl ?_
      rw [refreshMember_added hf]
      exact .refl _ _

omit [Platform] in
/-- The caller and the target are read from one store: one row of it has each id. -/
theorem loaded_eq (hk : Keyed s) {actor row : OrganizationMember}
    (hactor : actor ∈ s.organization_members) (hrow : row ∈ s.organization_members) :
    loaded actor row = row := by
  unfold loaded
  split
  · exact (hk.member_ids.eq hrow hactor ‹_›).symm
  · rfl

omit [Platform] in
/-- The row of a target after the write of its role; the write of the role
that it has is no write. -/
theorem saveRole_eq (hk : Keyed s) {target : OrganizationMember}
    (hmem : target ∈ s.organization_members) (role : OrganizationRole) :
    saveRole target role s = .ok (updateMember target.id (fun m => { m with role := role }) s) := by
  unfold saveRole
  by_cases hsame : target.role = role
  · have hself : updateWhere (fun m => m.id = target.id) (fun m => { m with role := role })
        s.organization_members = s.organization_members := by
      unfold updateWhere
      refine (List.map_congr_left fun m hm => ?_).trans (List.map_id s.organization_members)
      by_cases hid : m.id = target.id
      · obtain rfl := hk.member_ids.eq hm hmem hid
        simp [← hsame]
      · simp [hid]
    rw [if_pos hsame]
    unfold updateMember
    rw [hself]
  · have hany : s.organization_members.any (fun m => m.id = target.id) = true :=
      List.any_eq_true.mpr ⟨target, hmem, by simp⟩
    rw [if_neg hsame, if_pos hany]

omit [Platform] in
theorem refreshMember_changed (hk : Keyed s) {target : OrganizationMember}
    (hmem : target ∈ s.organization_members) (role : OrganizationRole) (user : User) (row : AuditLog) :
    refreshMember target user (addAudit row (updateMember target.id (fun m => { m with role := role }) s)) =
      .ok (.member (to_member_response { target with role := role } user)) := by
  have hfind : (updateWhere (fun m => m.id = target.id) (fun m => { m with role := role })
      s.organization_members).find? (fun m => m.id = target.id) = some { target with role := role } := by
    refine find?_eq_of_unique (mem_updateWhere_of hmem (by simp)) (by simp) ?_
    intro m hm hid
    obtain ⟨old, hold, rfl⟩ := mem_updateWhere.mp hm
    by_cases holdid : old.id = target.id
    · rw [hk.member_ids.eq hold hmem holdid]
      simp
    · simp only [holdid, decide_false, Bool.false_eq_true, if_false] at hid
  unfold refreshMember
  rw [show (addAudit row (updateMember target.id (fun m => { m with role := role }) s)).organization_members =
    updateWhere (fun m => m.id = target.id) (fun m => { m with role := role }) s.organization_members from rfl,
    hfind]

theorem update_member_role_reaches {organization_id member_id : UUID} {role : OrganizationRole}
    (hcall : job.call = .update_member_role organization_id member_id role) (hk : Keyed s) :
    Ends (answer .member (update_member_role job.env organization_id member_id role job.current_user))
      ⟨s, s⟩ fun r s' => Reaches job.next s .start s'.committed (.ended r) := by
  have hnext : job.next =
      update_member_role_next job.env organization_id member_id role job.current_user := by
    unfold MemberJob.next
    rw [hcall]
  unfold update_member_role
  rw [ends_answer, ends_bind, ends_ask]
  split <;> rename_i actor hp
  · have hstart : job.next s .start = some (s, .targeting actor) := by
      simp only [hnext, update_member_role_next, hp]
    have hactor := (permission_of_ok hp).1
    have hfails : ∀ failure, roleCheck organization_id member_id role actor s = .error failure →
        Reaches job.next s .start s (.ended (.error failure)) := by
      intro failure hcheck
      refine .step hstart (.step ?_ (.refl _ _))
      simp only [hnext, update_member_role_next, hcheck]
    have hdone : ∀ target user, target ∈ s.organization_members →
        roleCheck organization_id member_id role actor s = .ok (target, user) →
          Reaches job.next s .start
            (addAudit (role_audit job.env organization_id target role job.current_user.id)
              (updateMember target.id (fun m => { m with role := role }) s))
            (.ended (.ok (.member (to_member_response { target with role := role } user)))) := by
      intro target user hmem hcheck
      have htarget : job.next s (.targeting actor) = some (s, .saving actor target user) := by
        simp only [hnext, update_member_role_next, hcheck]
      have hsave : job.next s (.saving actor target user) =
          some (addAudit (role_audit job.env organization_id target role job.current_user.id)
            (updateMember target.id (fun m => { m with role := role }) s), .refreshing target user) := by
        simp only [hnext, update_member_role_next, saveRole_eq hk hmem]
      refine .step hstart (.step htarget (.step hsave ?_))
      rw [hnext]
      refine .step rfl ?_
      rw [refreshMember_changed hk hmem]
      exact .refl _ _
    generalize hcheck : roleCheck organization_id member_id role actor s = check at hfails hdone
    simp only [roleCheck] at hcheck
    refine ends_ask_checked hcheck hfails fun target ht hcheck => ?_
    have hmem := (target_of_ok ht).1
    rw [loaded_eq hk hactor hmem] at hcheck
    refine ends_ask_checked hcheck hfails fun user hu hcheck => ?_
    refine ends_if_checked hcheck hfails fun howner hcheck => ?_
    refine ends_if_checked hcheck hfails fun hold hcheck => ?_
    refine ends_if_checked hcheck hfails fun hnew hcheck => ?_
    simp only [ends_bind, ends_write, ends_commit, ends_pure]
    exact hdone target user hmem hcheck.symm
  · refine .step ?_ (.refl _ _)
    simp only [hnext, update_member_role_next, hp, Except.map]

theorem remove_member_reaches {organization_id member_id : UUID}
    (hcall : job.call = .remove_member organization_id member_id) (hk : Keyed s) :
    Ends (answer (fun _ => .no_content) (remove_member organization_id member_id job.current_user))
      ⟨s, s⟩ fun r s' => Reaches job.next s .start s'.committed (.ended r) := by
  have hnext : job.next = remove_member_next organization_id member_id job.current_user := by
    unfold MemberJob.next
    rw [hcall]
  unfold remove_member
  rw [ends_answer, ends_bind, ends_ask]
  split <;> rename_i actor hp
  · have hstart : job.next s .start = some (s, .targeting actor) := by
      simp only [hnext, remove_member_next, hp]
    have hactor := (permission_of_ok hp).1
    have hfails : ∀ failure, removalCheck organization_id member_id job.current_user.id actor s =
        .error failure → Reaches job.next s .start s (.ended (.error failure)) := by
      intro failure hcheck
      refine .step hstart (.step ?_ (.refl _ _))
      simp only [hnext, remove_member_next, hcheck]
    have hdone : ∀ target, removalCheck organization_id member_id job.current_user.id actor s =
        .ok target → Reaches job.next s .start (deleteMember target.id s) (.ended (.ok .no_content)) := by
      intro target hcheck
      have htarget : job.next s (.targeting actor) = some (s, .deleting actor target) := by
        simp only [hnext, remove_member_next, hcheck]
      refine .step hstart (.step htarget ?_)
      rw [hnext]
      exact .step rfl (.refl _ _)
    generalize hcheck : removalCheck organization_id member_id job.current_user.id actor s = check
      at hfails hdone
    simp only [removalCheck] at hcheck
    refine ends_ask_checked hcheck hfails fun target ht hcheck => ?_
    have hmem := (target_of_ok ht).1
    rw [loaded_eq hk hactor hmem] at hcheck
    refine ends_if_checked hcheck hfails fun hself hcheck => ?_
    refine ends_if_checked hcheck hfails fun hold hcheck => ?_
    simp only [ends_bind, ends_write, ends_commit]
    exact hdone target hcheck.symm
  · refine .step ?_ (.refl _ _)
    simp only [hnext, remove_member_next, hp, Except.map]

/-- A transaction that runs alone leaves the store and gives the answer of its handler. -/
theorem member_alone_is_sequential (job : MemberJob) (hk : Keyed s) (hf : Fresh job.env s) :
    ∃ n, run.after (member_turn fun _ : Unit => job) (member_begin s) (List.replicate n ()) =
      ⟨(runRequest job.handler s).2, fun _ => .ended (runRequest job.handler s).1⟩ := by
  apply reaches_turns
  refine ends_runRequest (Q := fun r s' => Reaches job.next s .start s' (.ended r)) ?_
  unfold MemberJob.handler
  cases hcall : job.call with
  | create_organization payload => exact create_organization_reaches hcall
  | add_member organization_id payload => exact add_member_reaches hcall hf
  | update_member_role organization_id member_id role => exact update_member_role_reaches hcall hk
  | remove_member organization_id member_id => exact remove_member_reaches hcall hk

end

end pulseforge

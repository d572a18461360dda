-- What an admin may do to memberships, in every interleaving. A request checks
-- the role of its target before it writes and locks nothing, so the owner may
-- promote the target in between: an admin keeps to the members below, and the
-- audit log tells the role that was replaced, exactly when no role change or
-- removal in between left the target with another role.
import PulseForge.Lib.Overtake
import PulseForge.RoleLaws
import PulseForge.SecretMetadata

open dict txn table interleave

namespace pulseforge

variable [Platform]

/-! ## The entry of a role change -/

omit [Platform] in
theorem role_value_injective {role role' : OrganizationRole} (h : role.value = role'.value) :
    role = role' := by
  cases role <;> cases role' <;> first | rfl | exact absurd h (by decide)

omit [Platform] in
theorem take_role_value (role : OrganizationRole) : role.value.take 500 = role.value := by
  cases role <;> rfl

/-- The sanitizer keeps what the entry of a role change tells. -/
theorem role_audit_metadata (hl : LowerKeepsAscii) (e : Env) (organization_id : UUID)
    (target : OrganizationMember) (role : OrganizationRole) (user_id : UUID) :
    (role_audit e organization_id target role user_id).metadata_json =
      [("target_user_id".toList, .str (Platform.str_uuid target.user_id)),
       ("previous_role".toList, .str target.role.value), ("new_role".toList, .str role.value)] := by
  refine (metadata_plain hl ["target_user_id".toList, "previous_role".toList,
    "new_role".toList] rfl (by decide) (by decide)).trans ?_
  simp [safe_value, take_role_value]

theorem previous_role_of_entry (hl : LowerKeepsAscii) (e : Env) (organization_id : UUID)
    (target : OrganizationMember) (role : OrganizationRole) (user_id : UUID) :
    (role_audit e organization_id target role user_id).metadata_json.lookup "previous_role".toList =
      some (.str target.role.value) := by
  rw [role_audit_metadata hl]
  rfl

/-! ## What a turn may do -/

omit [Platform] in
/-- An admin manages neither the owner nor an admin. -/
theorem manages_iff {role : OrganizationRole} :
    can_manage_role .ADMIN role = true ↔ ¬ (role = .ADMIN ∨ role = .OWNER) := by
  cases role <;> decide

/-- The membership that a request acts with, once it has read it. -/
def MemberStage.actor : MemberStage → Option OrganizationMember
  | .looking actor _ | .inserting actor _ | .targeting actor | .saving actor _ _ | .deleting actor _ =>
    some actor
  | _ => none

/-- The entries that a step adds to the audit log. -/
def newEntries (s s' : Store) : List AuditLog := s'.audit_logs.drop s.audit_logs.length

/-- The target has, if it is still there, the role that was read, and it is
still there if that role is to stay. -/
def AsRead (s : Store) (target : OrganizationMember) (role : OrganizationRole) : Prop :=
  (∀ m ∈ s.organization_members, m.id = target.id → m.role = target.role) ∧
    (target.role = role → ∃ m ∈ s.organization_members, m.id = target.id)

/-- The target has, if it is still there, a role that an admin manages. -/
def BelowAdmins (s : Store) (target : OrganizationMember) : Prop :=
  ∀ m ∈ s.organization_members, m.id = target.id → can_manage_role .ADMIN m.role = true

/-- What the request read of its target still serves the statement that comes next. -/
def InDate (job : MemberJob) (s : Store) (t : MemberStage) : Prop :=
  match t, job.call with
  | .saving _ target _, .update_member_role _ _ role => AsRead s target role
  | .deleting actor target, .remove_member _ _ => actor.role = .ADMIN → BelowAdmins s target
  | _, _ => True

section
variable {ι : Type} [Fintype ι] [DecidableEq ι] (jobs : ι → MemberJob) (g : State ι Store MemberStage)
  (i : ι)

/-- The turn of an admin leaves the owner and the admins alone, and an entry of
a role change names a membership with the role that it had. -/
structure KeepsToRoles : Prop where
  admins : ∀ actor ∈ (g.locals i).actor, actor.role = .ADMIN → ∀ m ∈ g.shared.organization_members,
    m.role = .ADMIN ∨ m.role = .OWNER → m ∈ (member_turn jobs g i).shared.organization_members
  entries : ∀ row ∈ newEntries g.shared (member_turn jobs g i).shared,
    row.action = .MEMBER_ROLE_CHANGED → ∃ m ∈ g.shared.organization_members,
      row.resource_id = some m.id ∧
        row.metadata_json.lookup "previous_role".toList = some (.str m.role.value)

/-! ## One turn -/

variable {jobs g i}

theorem member_turn_of_next {p : Store × MemberStage}
    (h : (jobs i).next g.shared (g.locals i) = some p) : member_turn jobs g i = g.move i p :=
  step_of_some ((lockStep_free rfl).trans h)

/-- A turn that neither changes a role nor removes a member. -/
theorem keepsToRoles_of_idle
    (hsave : ∀ actor target user organization_id member_id role,
      g.locals i = .saving actor target user →
        (jobs i).call ≠ .update_member_role organization_id member_id role)
    (hdelete : ∀ actor target organization_id member_id, g.locals i = .deleting actor target →
      (jobs i).call ≠ .remove_member organization_id member_id) : KeepsToRoles jobs g i := by
  have hkeeps : ∀ s' t', member_turn jobs g i = g.move i (s', t') →
      (∀ m ∈ g.shared.organization_members, m ∈ s'.organization_members) →
      (∀ row ∈ newEntries g.shared s', row.action ≠ .MEMBER_ROLE_CHANGED) → KeepsToRoles jobs g i := by
    intro s' t' heq hmembers hentries
    constructor
    · intro _ _ _ m hm _
      rw [heq]
      exact hmembers m hm
    · intro row hrow haction
      rw [heq] at hrow
      exact absurd haction (hentries row hrow)
  rcases member_turn_cases jobs g i with heq | ⟨s', t', hmove, heq⟩
  · constructor
    · intro _ _ _ m hm _
      rwa [heq]
    · intro row hrow
      rw [heq, newEntries, List.drop_length] at hrow
      cases hrow
  · generalize ht : g.locals i = t at hmove
    cases hmove with
    | created =>
      refine hkeeps _ _ heq (fun m hm => List.mem_append_left _ hm) ?_
      intro row hrow
      simp only [newEntries, addAudit, addMember, List.drop_left, List.mem_singleton] at hrow
      rw [hrow]
      exact nofun
    | added =>
      refine hkeeps _ _ heq (fun m hm => List.mem_append_left _ hm) ?_
      intro row hrow
      simp [newEntries, addMember] at hrow
    | unchanged hcall actor target user => exact absurd hcall (hsave _ _ _ _ _ _ ht)
    | changed hcall actor target user => exact absurd hcall (hsave _ _ _ _ _ _ ht)
    | removed hcall actor target => exact absurd hcall (hdelete _ _ _ _ ht)
    | _ =>
      refine hkeeps _ _ heq (fun m hm => hm) ?_
      intro row hrow
      rw [newEntries, List.drop_length] at hrow
      cases hrow

variable {actor target : OrganizationMember} {user : User} {organization_id member_id : UUID}
  {role : OrganizationRole}

omit [Platform] [Fintype ι] [DecidableEq ι] in
/-- The one row of the target has the role that was read. -/
theorem asRead_iff_of_mem {s : Store} (hids : UniqueOn OrganizationMember.id s.organization_members)
    (hrow : ∃ m ∈ s.organization_members, m.id = target.id) :
    AsRead s target role ↔ ∃ m ∈ s.organization_members, m.id = target.id ∧ m.role = target.role := by
  constructor
  · rintro ⟨hroles, _⟩
    obtain ⟨m, hm, hid⟩ := hrow
    exact ⟨m, hm, hid, hroles m hm hid⟩
  · rintro ⟨m, hm, hid, hrole⟩
    refine ⟨fun m' hm' hid' => ?_, fun _ => hrow⟩
    rw [hids.eq hm' hm (hid'.trans hid.symm), hrole]

/-- A role change that is committed with its entry. -/
theorem keepsToRoles_of_saved (hl : LowerKeepsAscii)
    (hids : UniqueOn OrganizationMember.id g.shared.organization_members) {s' : Store} {t' : MemberStage}
    (hturn : member_turn jobs g i = g.move i
      (addAudit (role_audit (jobs i).env organization_id target role (jobs i).current_user.id) s', t'))
    (haudits : s'.audit_logs = g.shared.audit_logs)
    (hothers : ∀ m ∈ g.shared.organization_members, m.id ≠ target.id → m ∈ s'.organization_members)
    (hstage : g.locals i = .saving actor target user)
    (hold : can_manage_role actor.role target.role = true) : KeepsToRoles jobs g i ↔
      ∃ m ∈ g.shared.organization_members, m.id = target.id ∧ m.role = target.role := by
  have hentry : newEntries g.shared (member_turn jobs g i).shared =
      [role_audit (jobs i).env organization_id target role (jobs i).current_user.id] := by
    rw [hturn]
    simp [newEntries, addAudit, haudits]
  have hprevious := previous_role_of_entry hl (jobs i).env organization_id target role
    (jobs i).current_user.id
  constructor
  · intro h
    obtain ⟨m, hm, hid, hrole⟩ := h.entries _ (by rw [hentry]; exact List.mem_singleton_self _) rfl
    rw [hprevious] at hrole
    injection hrole with hrole
    injection hrole with hrole
    injection hid with hid
    exact ⟨m, hm, hid.symm, (role_value_injective hrole).symm⟩
  · rintro ⟨m, hm, hid, hrole⟩
    constructor
    · intro actor' hactor hadmin m' hm' hsenior
      rw [hturn]
      refine hothers m' hm' fun hid' => ?_
      rw [hstage] at hactor
      cases hactor
      obtain rfl := hids.eq hm' hm (hid'.trans hid.symm)
      rw [hadmin, ← hrole] at hold
      exact manages_iff.mp hold hsenior
    · intro row hrow _
      rw [hentry] at hrow
      obtain rfl := List.mem_singleton.mp hrow
      refine ⟨m, hm, ?_, ?_⟩
      · rw [hid]
        rfl
      · rw [hrole]
        exact hprevious

theorem keepsToRoles_of_saving (hl : LowerKeepsAscii)
    (hids : UniqueOn OrganizationMember.id g.shared.organization_members)
    (hcall : (jobs i).call = .update_member_role organization_id member_id role)
    (hstage : g.locals i = .saving actor target user)
    (hold : can_manage_role actor.role target.role = true) :
    KeepsToRoles jobs g i ↔ AsRead g.shared target role := by
  have hsaved {s' : Store} (h : saveRole target role g.shared = .ok s') :
      member_turn jobs g i = g.move i (addAudit (role_audit (jobs i).env organization_id target role
        (jobs i).current_user.id) s', .refreshing target user) := by
    refine member_turn_of_next ?_
    unfold MemberJob.next
    rw [hcall, hstage]
    simp only [update_member_role_next, h]
  have hfailed {failure : Failure} (h : saveRole target role g.shared = .error failure) :
      member_turn jobs g i = g.move i (g.shared, .ended (.error failure)) := by
    refine member_turn_of_next ?_
    unfold MemberJob.next
    rw [hcall, hstage]
    simp only [update_member_role_next, h]
  have hrow_of (h : ∃ m ∈ g.shared.organization_members, m.id = target.id ∧ m.role = target.role) :
      ∃ m ∈ g.shared.organization_members, m.id = target.id := by
    obtain ⟨m, hm, hid, _⟩ := h
    exact ⟨m, hm, hid⟩
  unfold saveRole at hsaved hfailed
  by_cases hsame : target.role = role
  · rw [if_pos hsame] at hsaved
    rw [keepsToRoles_of_saved hl hids (hsaved rfl) rfl (fun m hm _ => hm) hstage hold]
    constructor
    · intro h
      exact (asRead_iff_of_mem hids (hrow_of h)).mpr h
    · intro h
      exact (asRead_iff_of_mem hids (h.2 hsame)).mp h
  · rw [if_neg hsame] at hsaved hfailed
    by_cases hrow : ∃ m ∈ g.shared.organization_members, m.id = target.id
    · have hany : g.shared.organization_members.any (fun m => m.id = target.id) = true := by
        simpa using hrow
      rw [if_pos hany] at hsaved
      rw [asRead_iff_of_mem hids hrow]
      refine keepsToRoles_of_saved hl hids (hsaved rfl) rfl ?_ hstage hold
      intro m hm hid
      exact mem_updateWhere_of_not hm (by simpa using hid)
    · have hany : ¬ g.shared.organization_members.any (fun m => m.id = target.id) = true := by
        simpa using hrow
      rw [if_neg hany] at hfailed
      have hturn := hfailed rfl
      refine iff_of_true ⟨?_, ?_⟩ ⟨fun m hm hid => absurd ⟨m, hm, hid⟩ hrow, fun h => absurd h hsame⟩
      · intro _ _ _ m hm _
        rwa [hturn]
      · intro row hentry
        rw [hturn, newEntries] at hentry
        simp [State.move] at hentry

theorem deleting_turn (hcall : (jobs i).call = .remove_member organization_id member_id)
    (hstage : g.locals i = .deleting actor target) :
    member_turn jobs g i = g.move i (deleteMember target.id g.shared, .ended (.ok .no_content)) := by
  refine member_turn_of_next ?_
  unfold MemberJob.next
  rw [hcall, hstage]
  rfl

theorem keepsToRoles_of_deleting
    (hcall : (jobs i).call = .remove_member organization_id member_id)
    (hstage : g.locals i = .deleting actor target) :
    KeepsToRoles jobs g i ↔ (actor.role = .ADMIN → BelowAdmins g.shared target) := by
  have hturn := deleting_turn hcall hstage
  constructor
  · intro h hadmin m hm hid
    rw [manages_iff]
    intro hsenior
    have hkept := h.admins actor (by rw [hstage]; rfl) hadmin m hm hsenior
    rw [hturn] at hkept
    simpa [hid] using (List.mem_filter.mp hkept).2
  · intro h
    constructor
    · intro actor' hactor hadmin m hm hsenior
      rw [hstage] at hactor
      cases hactor
      rw [hturn]
      refine List.mem_filter.mpr ⟨hm, ?_⟩
      simp only [ne_eq, decide_eq_true_eq]
      intro hid
      exact manages_iff.mp (h hadmin m hm hid) hsenior
    · intro row hrow
      rw [hturn] at hrow
      simp [newEntries, deleteMember, State.move] at hrow

end

/-! ## Every interleaving -/

section
variable {ι : Type} [Fintype ι] [DecidableEq ι] {jobs : ι → MemberJob} {g : State ι Store MemberStage}
  {i : ι}

/-- A role change passed its check with the role that it read. -/
def MemberStage.passed : MemberStage → Prop
  | .saving actor target _ => can_manage_role actor.role target.role = true
  | _ => True

omit [Fintype ι] in
theorem passed_move {s' : Store} {t' : MemberStage} (h : ∀ j, (g.locals j).passed)
    (hmove : MemberMove (jobs i) g.shared (g.locals i) s' t') :
    ∀ j, ((g.move i (s', t')).locals j).passed := by
  intro j
  by_cases hji : j = i
  · rw [hji, move_self]
    generalize g.locals i = t at hmove
    cases hmove with
    | targeted _ _ _ _ _ _ _ hold => exact hold
    | _ => trivial
  · rw [move_other hji]
    exact h j

theorem passed_run {s₀ : Store} (turns : List ι) :
    ∀ j, ((run.after (member_turn jobs) (member_begin s₀) turns).locals j).passed := by
  induction turns with
  | nil => exact fun _ => trivial
  | cons i turns ih =>
    rw [run.after_cons]
    rcases member_turn_cases jobs (run.after (member_turn jobs) (member_begin s₀) turns) i with
      heq | ⟨s', t', hmove, heq⟩
    · rw [heq]
      exact ih
    · rw [heq]
      exact passed_move ih hmove

theorem keepsToRoles_iff (hl : LowerKeepsAscii)
    (hids : UniqueOn OrganizationMember.id g.shared.organization_members)
    (hpassed : (g.locals i).passed) : KeepsToRoles jobs g i ↔ InDate (jobs i) g.shared (g.locals i) := by
  unfold InDate
  split
  · rename_i actor target user _ _ role hstage hcall
    rw [hstage] at hpassed
    exact keepsToRoles_of_saving hl hids hcall hstage hpassed
  · rename_i actor target _ _ hstage hcall
    exact keepsToRoles_of_deleting hcall hstage
  · rename_i hsave hdelete
    refine iff_of_true (keepsToRoles_of_idle ?_ ?_) trivial
    · intro actor target user organization_id member_id role hstage hcall
      exact hsave _ _ _ _ _ _ hstage hcall
    · intro actor target organization_id member_id hstage hcall
      exact hdelete _ _ _ _ hstage hcall

/-! ## From the read to the write -/

/-- What the turn makes of a membership: the `UPDATE` of a role change gives it a
role, the `DELETE` of a removal leaves none. -/
def Writes (jobs : ι → MemberJob) (member_id : UUID) (g : State ι Store MemberStage) (j : ι) :
    Option OrganizationRole → Prop
  | some role => ∃ actor target user organization_id path_id, g.locals j = .saving actor target user ∧
      (jobs j).call = .update_member_role organization_id path_id role ∧ target.id = member_id ∧
        target.role ≠ role ∧ (member_turn jobs g j).locals j = .refreshing target user
  | none => ∃ actor target organization_id path_id, g.locals j = .deleting actor target ∧
      (jobs j).call = .remove_member organization_id path_id ∧ target.id = member_id

/-- What another request may have made of the target since it was read: a role
change finds the role that was read, and its `UPDATE` (none if that role is to
stay) fails for a removed row; to the removal by an admin the row is gone or was
not made an admin. -/
def Tolerates (job : MemberJob) (t : MemberStage) (role : Option OrganizationRole) : Prop :=
  match t, job.call, role with
  | .saving _ target _, .update_member_role _ _ _, some role => role = target.role
  | .saving _ target _, .update_member_role _ _ role, none => target.role ≠ role
  | .deleting actor _, .remove_member _ _, some role => actor.role = .ADMIN → role ≠ .ADMIN
  | _, _, _ => True

/-- The target that a request has read, while its write is to come. -/
def MemberStage.target : MemberStage → Option OrganizationMember
  | .saving _ target _ | .deleting _ target => some target
  | _ => none

/-- If a write is next, then of the role changes and removals of its target that
were committed since the target was read, the last one, if any, is tolerated. -/
def WritesInDate (jobs : ι → MemberJob) (s₀ : Store) (past : List ι) (i : ι) : Prop :=
  ∀ t, (run.after (member_turn jobs) (member_begin s₀) past).locals i = t → ∀ target ∈ t.target,
    ¬ run.Stale (member_turn jobs) (member_begin s₀) (fun g => g.locals i = t)
      (Writes jobs target.id) (Tolerates (jobs i) t) past

variable {member_id : UUID} {j : ι}

omit [Platform] in
/-- Two stores with the same rows of one id agree on what these rows are like. -/
theorem forall_mem_iff {rows rows' : List OrganizationMember} {P : OrganizationMember → Prop}
    (h : ∀ m, m.id = member_id → (m ∈ rows' ↔ m ∈ rows)) :
    (∀ m ∈ rows', m.id = member_id → P m) ↔ ∀ m ∈ rows, m.id = member_id → P m := by
  constructor
  · exact fun hall m hm hid => hall m ((h m hid).mpr hm) hid
  · exact fun hall m hm hid => hall m ((h m hid).mp hm) hid

omit [Platform] in
theorem exists_mem_iff {rows rows' : List OrganizationMember}
    (h : ∀ m, m.id = member_id → (m ∈ rows' ↔ m ∈ rows)) :
    (∃ m ∈ rows', m.id = member_id) ↔ ∃ m ∈ rows, m.id = member_id := by
  constructor
  · rintro ⟨m, hm, hid⟩
    exact ⟨m, (h m hid).mp hm, hid⟩
  · rintro ⟨m, hm, hid⟩
    exact ⟨m, (h m hid).mpr hm, hid⟩

theorem writes_none (h : Writes jobs member_id g j none) :
    ∀ m ∈ (member_turn jobs g j).shared.organization_members, m.id ≠ member_id := by
  obtain ⟨actor, target, organization_id, path_id, hstage, hcall, rfl⟩ := h
  have hturn := deleting_turn hcall hstage
  intro m hm
  rw [hturn] at hm
  simpa using (List.mem_filter.mp hm).2

/-- After the `UPDATE` of a role the row is there and has the role. -/
theorem writes_some {role : OrganizationRole} (h : Writes jobs member_id g j (some role)) :
    (∃ m ∈ (member_turn jobs g j).shared.organization_members, m.id = member_id) ∧
      ∀ m ∈ (member_turn jobs g j).shared.organization_members, m.id = member_id → m.role = role := by
  obtain ⟨actor, target, user, organization_id, path_id, hstage, hcall, rfl, hdiff, hafter⟩ := h
  rcases member_turn_cases jobs g j with heq | ⟨s', t', hmove, heq⟩
  · rw [heq, hstage] at hafter
    cases hafter
  rw [heq, move_self] at hafter
  rw [heq]
  simp only at hafter
  rw [hstage, hafter] at hmove
  cases hmove with
  | unchanged hcall' _ _ _ hsame =>
    rw [hcall] at hcall'
    cases hcall'
    exact absurd hsame hdiff
  | changed hcall' _ _ _ _ hrow =>
    rw [hcall] at hcall'
    cases hcall'
    obtain ⟨m, hm, hid⟩ := hrow
    refine ⟨⟨_, mem_updateWhere_of hm (by simpa using hid), hid⟩, fun m' hm' hid' => ?_⟩
    obtain ⟨old, _, rfl⟩ := mem_updateWhere.mp hm'
    by_cases hsame : old.id = target.id
    · simp [hsame]
    · simp only [hsame, decide_false, Bool.false_eq_true, if_false] at hid'

/-- A turn that does not write a membership, whose id is not drawn again, leaves its row. -/
theorem writes_nothing (hdrawn : ¬ Undrawn jobs g member_id)
    (h : ¬ ∃ role, Writes jobs member_id g j role) (m : OrganizationMember) (hid : m.id = member_id) :
    m ∈ (member_turn jobs g j).shared.organization_members ↔ m ∈ g.shared.organization_members := by
  rcases member_turn_cases jobs g j with heq | ⟨s', t', hmove, heq⟩
  · rw [heq]
  have hself : (member_turn jobs g j).locals j = t' := by
    rw [heq, move_self]
  have hfresh : (g.locals j).unwritten → ∀ k, m.id ≠ (jobs j).env.uuid k := by
    intro hunwritten k heq
    exact hdrawn ⟨j, k, hunwritten, hid.symm.trans heq⟩
  rw [heq, move_shared]
  generalize ht : g.locals j = t at hmove hfresh
  cases hmove with
  | created =>
    refine ⟨fun hm => ?_, fun hm => List.mem_append_left _ hm⟩
    rcases List.mem_append.mp hm with hm | hm
    · exact hm
    · rw [List.mem_singleton.mp hm] at hfresh
      exact absurd rfl (hfresh trivial _)
  | added =>
    refine ⟨fun hm => ?_, fun hm => List.mem_append_left _ hm⟩
    rcases List.mem_append.mp hm with hm | hm
    · exact hm
    · rw [List.mem_singleton.mp hm] at hfresh
      exact absurd rfl (hfresh trivial _)
  | changed hcall actor target user hdiff hrow =>
    have hother : m.id ≠ target.id := by
      intro heq
      exact h ⟨some _, actor, target, user, _, _, ht, hcall, heq.symm.trans hid, hdiff, hself⟩
    constructor
    · intro hm
      obtain ⟨old, hold, rfl⟩ := mem_updateWhere.mp hm
      by_cases hsame : old.id = target.id
      · simp only [hsame, decide_true, if_true] at hother
        exact absurd rfl hother
      · simpa [hsame] using hold
    · exact fun hm => mem_updateWhere_of_not hm (by simpa using hother)
  | removed hcall actor target =>
    have hother : m.id ≠ target.id :=
      fun heq => h ⟨none, actor, target, _, _, ht, hcall, heq.symm.trans hid⟩
    exact ⟨fun hm => (List.mem_filter.mp hm).1, fun hm => List.mem_filter.mpr ⟨hm, by simpa using hother⟩⟩
  | _ => exact Iff.rfl

/-- What a request just read of its target serves the next statement. -/
theorem inDate_of_read {t : MemberStage} {target : OrganizationMember} (htarget : target ∈ t.target)
    (hids : UniqueOn OrganizationMember.id g.shared.organization_members)
    (hbefore : g.locals i ≠ t) (hafter : (member_turn jobs g j).locals i = t) :
    InDate (jobs i) (member_turn jobs g j).shared t := by
  rcases member_turn_cases jobs g j with heq | ⟨s', t', hmove, heq⟩
  · rw [heq] at hafter
    exact absurd hafter hbefore
  rw [heq] at hafter ⊢
  by_cases hij : i = j
  · subst hij
    rw [move_self] at hafter
    simp only at hafter
    subst hafter
    rw [move_shared]
    generalize g.locals i = t at hmove
    cases hmove with
    | targeted hcall actor target user hmem =>
      simp only [InDate, hcall]
      refine ⟨fun m hm hid => ?_, fun _ => ⟨target, hmem, rfl⟩⟩
      rw [hids.eq hm hmem hid]
    | condemned hcall actor target hmem _ hold =>
      simp only [InDate, hcall]
      intro hadmin m hm hid
      rw [hids.eq hm hmem hid, ← hadmin]
      exact hold
    | _ => cases htarget
  · rw [move_other hij] at hafter
    exact absurd hafter hbefore

/-- After a write, what it made of the target decides. -/
theorem inDate_of_write (h : RolesKept jobs g) {t : MemberStage} {target : OrganizationMember}
    (htarget : target ∈ t.target) {role : Option OrganizationRole}
    (hw : Writes jobs target.id g j role) :
    InDate (jobs i) (member_turn jobs g j).shared t ↔ Tolerates (jobs i) t role := by
  cases role with
  | none =>
    have hgone := writes_none hw
    unfold InDate Tolerates
    cases t with
    | saving actor target' user =>
      cases htarget
      cases (jobs i).call with
      | update_member_role organization_id path_id role =>
        constructor
        · intro hread hsame
          obtain ⟨m, hm, hid⟩ := hread.2 hsame
          exact hgone m hm hid
        · intro hdiff
          exact ⟨fun m hm hid => absurd hid (hgone m hm), fun hsame => absurd hsame hdiff⟩
      | _ => exact Iff.rfl
    | deleting actor target' =>
      cases htarget
      cases (jobs i).call with
      | remove_member organization_id path_id =>
        exact iff_of_true (fun _ m hm hid => absurd hid (hgone m hm)) trivial
      | _ => exact Iff.rfl
    | _ => cases htarget
  | some role =>
    obtain ⟨⟨m, hm, hid⟩, hrole⟩ := writes_some hw
    unfold InDate Tolerates
    cases t with
    | saving actor target' user =>
      cases htarget
      cases (jobs i).call with
      | update_member_role organization_id path_id role' =>
        constructor
        · intro hread
          exact (hrole m hm hid).symm.trans (hread.1 m hm hid)
        · intro hsame
          exact ⟨fun m' hm' hid' => (hrole m' hm' hid').trans hsame, fun _ => ⟨m, hm, hid⟩⟩
      | _ => exact Iff.rfl
    | deleting actor target' =>
      cases htarget
      cases (jobs i).call with
      | remove_member organization_id path_id =>
        refine imp_congr_right fun _ => ?_
        have howner : role ≠ .OWNER := by
          obtain ⟨actor', target', user', organization_id', path_id', hstage, hcall, _⟩ := hw
          have hknows := h.knows j
          rw [hstage] at hknows
          exact (hknows _ _ _ hcall).1.2.1
        constructor
        · rintro hbelow rfl
          exact manages_iff.mp (hbelow m hm hid) (Or.inl (hrole m hm hid))
        · intro hadmin m' hm' hid'
          rw [manages_iff, hrole m' hm' hid', not_or]
          exact ⟨hadmin, howner⟩
      | _ => exact Iff.rfl
    | _ => cases htarget

/-- Without a write of the target nothing changes. -/
theorem inDate_of_no_write (h : RolesKept jobs g) {t : MemberStage} {target : OrganizationMember}
    (htarget : target ∈ t.target) (hstage : g.locals i = t)
    (hnone : ¬ ∃ role, Writes jobs target.id g j role) :
    InDate (jobs i) (member_turn jobs g j).shared t ↔ InDate (jobs i) g.shared t := by
  have hknows := h.knows i
  rw [hstage] at hknows
  have hrows : ¬ Undrawn jobs g target.id → ∀ m, m.id = target.id →
      (m ∈ (member_turn jobs g j).shared.organization_members ↔ m ∈ g.shared.organization_members) :=
    fun hdrawn m hid => writes_nothing hdrawn hnone m hid
  unfold InDate
  cases t with
  | saving actor target' user =>
    cases htarget
    cases hcall : (jobs i).call with
    | update_member_role organization_id path_id role =>
      obtain ⟨_, _, hdrawn⟩ := hknows _ _ _ hcall
      refine and_congr (forall_mem_iff (hrows hdrawn)) (imp_congr_right fun _ => ?_)
      exact exists_mem_iff (hrows hdrawn)
    | _ => exact Iff.rfl
  | deleting actor target' =>
    cases htarget
    cases hcall : (jobs i).call with
    | remove_member organization_id path_id =>
      obtain ⟨_, hdrawn⟩ := hknows organization_id (by rw [hcall]; rfl)
      exact imp_congr_right fun _ => forall_mem_iff (hrows hdrawn)
    | _ => exact Iff.rfl
  | _ => cases htarget

end

section
variable {ι : Type} [Fintype ι] [DecidableEq ι] {jobs : ι → MemberJob}

/-- While a write is to come, what was read of the target serves it exactly
when the last write of others since is tolerated. -/
theorem inDate_iff {s₀ : Store} (hs : Reachable s₀) (hf : FreshEnvs (fun i => (jobs i).env) s₀)
    {past : List ι} {i : ι} {t : MemberStage} {target : OrganizationMember} (htarget : target ∈ t.target)
    (h : (run.after (member_turn jobs) (member_begin s₀) past).locals i = t) :
    InDate (jobs i) (run.after (member_turn jobs) (member_begin s₀) past).shared t ↔
      ¬ run.Stale (member_turn jobs) (member_begin s₀) (fun g => g.locals i = t)
        (Writes jobs target.id) (Tolerates (jobs i) t) past := by
  have hkept := roles_run hs hf
  refine run.ok_iff_not_stale
    (fun past => InDate (jobs i) (run.after (member_turn jobs) (member_begin s₀) past).shared t)
    ?_ ?_ ?_ ?_ h
  · rintro rfl
    cases htarget
  · intro past j hbefore hafter
    exact inDate_of_read htarget (hkept past).member_ids hbefore hafter
  · intro past j role _ hw
    exact inDate_of_write (hkept past) htarget hw
  · intro past j hstage hnone
    exact inDate_of_no_write (hkept past) htarget hstage hnone

/-- In every interleaving, admins leave the owner and the admins alone, and the
audit log tells the roles that were replaced, exactly when no request writes to
a target whose role others have changed, or that they removed, since the request
read it. -/
theorem admins_keep_to_their_members_iff_no_role_is_stale (hl : LowerKeepsAscii) {s₀ : Store}
    (hs : Reachable s₀) (hf : FreshEnvs (fun i => (jobs i).env) s₀) (turns : List ι) :
    run.Every (member_turn jobs) (member_begin s₀) (KeepsToRoles jobs) turns ↔
      run.Each (WritesInDate jobs s₀) turns := by
  refine run.every_iff_each (fun past i => ?_) turns
  rw [keepsToRoles_iff hl (roles_run hs hf past).member_ids (passed_run past i)]
  constructor
  · rintro h t rfl target htarget
    exact (inDate_iff hs hf htarget rfl).mp h
  · intro h
    generalize ht : (run.after (member_turn jobs) (member_begin s₀) past).locals i = t
    cases htarget : t.target with
    | some target => exact (inDate_iff hs hf htarget ht).mpr (h t ht target htarget)
    | none =>
      -- no target was read, so that nothing is written to one
      unfold InDate
      cases t with
      | saving => cases htarget
      | deleting => cases htarget
      | _ => trivial

end

/-! ## A lost promotion -/

/-- The owner of an organization, an admin and an engineer. -/
def threeMembersRun : List (Env × Request) :=
  [(sampleEnv 6, .tenant (sampleBearer 0 1) (.add_member 20 ⟨"eve@example.com".toList, .ENGINEER⟩)),
   (sampleEnv 5, .tenant (sampleBearer 0 1) (.add_member 20 ⟨"bob@example.com".toList, .ADMIN⟩)),
   (sampleEnv 4, .auth (.register { sampleUser with email := "eve@example.com".toList })),
   (sampleEnv 3, .auth (.register { sampleUser with email := "bob@example.com".toList }))] ++
    sampleRun.drop 7

/-- The admin makes the engineer a viewer, and the owner makes the engineer an admin. -/
def viewerAndAdmin (i : Fin 2) : MemberJob :=
  ⟨sampleDraws 2 i, .update_member_role 20 60 (if i = 0 then .VIEWER else .ADMIN),
    if i = 0 then @new_user samplePlatform (sampleEnv 3) { sampleUser with email := "bob@example.com".toList }
    else sampleMember⟩

omit [Platform] in
theorem three_members_reachable :
    @Reachable samplePlatform (run.after (@serve samplePlatform) Store.empty threeMembersRun) := by
  refine ⟨threeMembersRun, ?_, rfl⟩
  exact fresh_of_drawsInOrder [6, 5, 4, 3, 2, 1, 0] rfl (by decide +kernel)

omit [Platform] in
theorem viewerAndAdmin_fresh :
    FreshEnvs (fun i => (viewerAndAdmin i).env)
      (run.after (@serve samplePlatform) Store.empty threeMembersRun) :=
  sample_envs_fresh (fun _ => rfl) (by decide +kernel)

omit [Platform] in
theorem sample_lower_keeps_ascii : @LowerKeepsAscii samplePlatform := by
  intro t h
  refine (List.map_congr_left fun c hc => ?_).trans (List.map_id t)
  rcases h c hc with rfl | hlower
  · rfl
  · unfold Char.isLower at hlower
    simp only [Bool.and_eq_true, decide_eq_true_eq] at hlower
    refine dif_neg fun hupper => ?_
    exact absurd (UInt32.le_trans hlower.1 hupper.2) (by decide)

def rolesOf (s : Store) : List OrganizationRole := s.organization_members.map OrganizationMember.role

omit [Platform] in
theorem an_admin_overrides_a_promotion :
    let s₀ := run.after (@serve samplePlatform) Store.empty threeMembersRun
    let turn := @member_turn samplePlatform _ _ _ viewerAndAdmin
    @LowerKeepsAscii samplePlatform ∧ @Reachable samplePlatform s₀ ∧
      FreshEnvs (fun i => (viewerAndAdmin i).env) s₀ ∧
      rolesOf (run.after turn (member_begin s₀) [1, 1, 1, 0, 0]).shared = [.OWNER, .ADMIN, .ADMIN] ∧
      rolesOf (run.after turn (member_begin s₀) [0, 1, 1, 1, 0, 0]).shared = [.OWNER, .ADMIN, .VIEWER] ∧
      ¬ run.Every turn (member_begin s₀) (@KeepsToRoles samplePlatform _ _ _ viewerAndAdmin)
        [0, 1, 1, 1, 0, 0] := by
  intro s₀ turn
  refine ⟨sample_lower_keeps_ascii, three_members_reachable, viewerAndAdmin_fresh, by decide +kernel,
    by decide +kernel, ?_⟩
  have hlost : ∃ actor ∈ ((run.after turn (member_begin s₀) [1, 1, 1, 0, 0]).locals 0).actor,
      actor.role = .ADMIN ∧
        ∃ m ∈ (run.after turn (member_begin s₀) [1, 1, 1, 0, 0]).shared.organization_members, m.role = .ADMIN ∧
          m ∉ (run.after turn (member_begin s₀) [0, 1, 1, 1, 0, 0]).shared.organization_members := by
    decide +kernel
  clear_value s₀
  intro hevery
  obtain ⟨actor, hactor, hadmin, m, hm, hrole, hgone⟩ := hlost
  exact hgone (@KeepsToRoles.admins samplePlatform _ _ _ _ _ _ hevery.2 actor hactor hadmin m hm
    (Or.inl hrole))

omit [Platform] in
/-- One after the other, both changes are in date. -/
theorem role_changes_in_turn_are_in_date :
    let s₀ := run.after (@serve samplePlatform) Store.empty threeMembersRun
    let turn := @member_turn samplePlatform _ _ _ viewerAndAdmin
    run.Every turn (member_begin s₀) (@KeepsToRoles samplePlatform _ _ _ viewerAndAdmin)
        [1, 1, 1, 0, 0, 0] ∧
      rolesOf (run.after turn (member_begin s₀) [1, 1, 1, 0, 0, 0]).shared = [.OWNER, .ADMIN, .ADMIN] := by
  intro s₀ turn
  refine ⟨?_, by decide +kernel⟩
  refine (@admins_keep_to_their_members_iff_no_role_is_stale samplePlatform _ _ _ viewerAndAdmin
    sample_lower_keeps_ascii s₀ three_members_reachable viewerAndAdmin_fresh _).mpr ?_
  -- no target was read, or it was read in the last turn
  have hfresh : ∀ past i, (∀ before, before = past.tail →
      ((run.after turn (member_begin s₀) before).locals i).target = none) →
        @WritesInDate samplePlatform _ _ _ viewerAndAdmin s₀ past i := by
    rintro past i hnone t _ target htarget hstale
    cases past with
    | nil => exact hstale
    | cons j past =>
      have hnone := hnone past rfl
      rw [hstale.1, htarget] at hnone
      cases hnone
  refine ⟨⟨⟨⟨⟨⟨trivial, ?_⟩, ?_⟩, ?_⟩, ?_⟩, ?_⟩, ?_⟩
  all_goals exact hfresh _ _ (by rintro _ rfl; decide +kernel)

end pulseforge

-- The audit log as a journal. What it tells of incidents, API keys and
-- memberships is what the tables hold: each acknowledge, resolve, issue and
-- revocation has its one entry, and the role changes of a membership lead from
-- the role that it was added with to the one that it has.
import PulseForge.AuditTrail
import PulseForge.AdminLimits
import PulseForge.Lib.Journal

open dict txn table journal

namespace pulseforge

variable [Platform]

/-! ## What entries tell -/

/-- The id of the key that a rotation replaced, as its entry has it. -/
def previousResource (a : AuditLog) : Option Text :=
  match a.metadata_json.lookup "previous_resource_id".toList with
  | some (.str t) => some t
  | _ => none

def tellsOf (actions : List AuditAction) (id : UUID) (a : AuditLog) : Bool :=
  actions.contains a.action && a.resource_id = some id

/-- The entry revokes the key: it names it, or it is of the rotation that replaced it. -/
def tellsRevocation (id : UUID) (a : AuditLog) : Bool :=
  tellsOf [.API_KEY_REVOKED] id a ||
    (a.action = .API_KEY_ROTATED && previousResource a = some (Platform.str_uuid id))

def acknowledgements : Scheme Incident AuditLog UUID (Option UUID) where
  id := Incident.id
  mark i := i.acknowledged_at.isSome
  home i := some i.organization_id
  tells := tellsOf [.INCIDENT_ACKNOWLEDGED]
  place := AuditLog.organization_id

def resolutions : Scheme Incident AuditLog UUID (Option UUID) where
  id := Incident.id
  mark i := i.resolved_at.isSome
  home i := some i.organization_id
  tells := tellsOf [.INCIDENT_RESOLVED]
  place := AuditLog.organization_id

def issues : Scheme ApiKey AuditLog UUID (Option UUID) where
  id := ApiKey.id
  mark _ := true
  home k := some k.organization_id
  tells := tellsOf [.API_KEY_CREATED, .API_KEY_ROTATED]
  place := AuditLog.organization_id

def revocations : Scheme ApiKey AuditLog UUID (Option UUID) where
  id := ApiKey.id
  mark k := k.revoked_at.isSome
  home k := some k.organization_id
  tells := tellsRevocation
  place := AuditLog.organization_id

/-- The entries of the role changes of a membership. -/
def roleChanges (member_id : UUID) (log : List AuditLog) : List AuditLog :=
  log.filter (tellsOf [.MEMBER_ROLE_CHANGED] member_id)

/-- Each entry goes on from the role of the one before it. -/
def RoleChain : OrganizationRole → List AuditLog → OrganizationRole → Prop
  | first, [], last => first = last
  | first, a :: log, last =>
    a.metadata_json.lookup "previous_role".toList = some (.str first.value) ∧
      ∃ role : OrganizationRole, a.metadata_json.lookup "new_role".toList = some (.str role.value) ∧
        RoleChain role log last

/-! ## What a request does -/

/-- The actions of the journal. -/
def journalActions : List AuditAction :=
  [.INCIDENT_ACKNOWLEDGED, .INCIDENT_RESOLVED, .API_KEY_CREATED, .API_KEY_ROTATED, .API_KEY_REVOKED,
   .MEMBER_ROLE_CHANGED]

/-- A request writes nothing that the journal tells, or one of the six writes
that it tells. -/
inductive JournalStep (e : Env) (s s' : Store) : Prop
  | quiet (rows : List AuditLog) (hlog : s'.audit_logs = s.audit_logs ++ rows)
      (hrows : ∀ a ∈ rows, a.action ∉ journalActions)
      (hincidents : ∀ i ∈ s'.incidents,
        (∃ j ∈ s.incidents, i.id = j.id ∧ i.organization_id = j.organization_id ∧
          i.acknowledged_at = j.acknowledged_at ∧ i.resolved_at = j.resolved_at) ∨
        (∃ k, i.id = e.uuid k) ∧ i.acknowledged_at = none ∧ i.resolved_at = none)
      (hkeys : ∀ k ∈ s'.api_keys, ∃ l ∈ s.api_keys, k.id = l.id ∧
        k.organization_id = l.organization_id ∧ k.revoked_at = l.revoked_at)
      (hmembers : ∀ m ∈ s'.organization_members,
        m ∈ s.organization_members ∨ ∃ k, m.id = e.uuid k)
  | acknowledged (incident : Incident) (user_id : UUID) (hmem : incident ∈ s.incidents)
      (hopen : incident.acknowledged_at = none)
      (hs' : s' = addAudit (incident_audit e .INCIDENT_ACKNOWLEDGED incident user_id)
        (updateIncident incident.id (pulseforge.acknowledged user_id (e.clock 1) e.now) s))
  | resolved (incident : Incident) (user_id : UUID) (hmem : incident ∈ s.incidents)
      (hopen : incident.resolved_at = none)
      (hs' : s' = addAudit (incident_audit e .INCIDENT_RESOLVED incident user_id)
        (updateIncident incident.id
          (pulseforge.resolved user_id (e.clock 1) e.now incident.assigned_to.isNone) s))
  | key_created (service : Service) (payload : ApiKeyCreate) (user_id : UUID)
      (hs' : s' = addAudit (key_audit e .API_KEY_CREATED service.organization_id (e.uuid 0) user_id [])
        { s with api_keys := s.api_keys ++ [new_api_key e service payload] })
  | key_revoked (api_key : ApiKey) (user_id : UUID) (hmem : api_key ∈ s.api_keys)
      (hlive : api_key.revoked_at = none)
      (hs' : s' = addAudit (key_audit e .API_KEY_REVOKED api_key.organization_id api_key.id user_id [])
        (revokeKey api_key.id (e.clock 1) s))
  | key_rotated (old_key : ApiKey) (service : Service) (payload : ApiKeyCreate) (user_id : UUID)
      (hmem : old_key ∈ s.api_keys) (hlive : old_key.revoked_at = none)
      (hhome : service.organization_id = old_key.organization_id)
      (hs' : s' = addAudit (key_audit e .API_KEY_ROTATED service.organization_id (e.uuid 0) user_id
          [("previous_resource_id".toList, .uuid old_key.id)])
        { s with
          api_keys := (revokeKey old_key.id (e.clock 2) s).api_keys ++ [new_api_key e service payload] })
  | role_changed (organization_id : UUID) (target : OrganizationMember) (role : OrganizationRole)
      (user_id : UUID) (hmem : target ∈ s.organization_members)
      (hhome : target.organization_id = organization_id)
      (hs' : s' = addAudit (role_audit e organization_id target role user_id)
        (updateMember target.id (fun m => { m with role := role }) s))

section
variable {e : Env} {s s' : Store}

/-- A step that touches none of the tables of the journal. -/
theorem JournalStep.same (rows : List AuditLog) (hlog : s'.audit_logs = s.audit_logs ++ rows)
    (hrows : ∀ a ∈ rows, a.action ∉ journalActions) (hincidents : s'.incidents = s.incidents)
    (hkeys : s'.api_keys = s.api_keys)
    (hmembers : ∀ m ∈ s'.organization_members, m ∈ s.organization_members ∨ ∃ k, m.id = e.uuid k) :
    JournalStep e s s' := by
  refine .quiet rows hlog hrows ?_ ?_ hmembers
  · intro i hi
    rw [hincidents] at hi
    exact Or.inl ⟨i, hi, rfl, rfl, rfl, rfl⟩
  · intro k hk
    rw [hkeys] at hk
    exact ⟨k, hk, rfl, rfl, rfl⟩

theorem JournalStep.unwritten : JournalStep e s s :=
  .same [] (List.append_nil _).symm (List.forall_mem_nil _) rfl rfl fun _ hm => Or.inl hm

theorem passwordAudits_quiet (e : Env) (user_id : UUID) (s : Store) :
    ∀ a ∈ passwordAudits e user_id s, a.action ∉ journalActions := by
  intro a ha
  obtain ⟨k, _, rfl⟩ := List.mem_mapIdx.mp ha
  exact (by decide : AuditAction.PASSWORD_CHANGED ∉ journalActions)

theorem auth_journal {r : AuthRequest} {reply : Except Failure Body} (h : AuthOutcome e s r reply s') :
    JournalStep e s s' := by
  have hnothing : ∀ t : Store, t.audit_logs = s.audit_logs → t.incidents = s.incidents →
      t.api_keys = s.api_keys → t.organization_members = s.organization_members → JournalStep e s t := by
    intro t hlog hincidents hkeys hmembers
    refine .same [] (by rw [hlog, List.append_nil]) (List.forall_mem_nil _) hincidents hkeys ?_
    intro m hm
    rw [hmembers] at hm
    exact Or.inl hm
  cases h with
  | login_failed _ _ row _ haction =>
    refine .same [row] rfl ?_ rfl rfl fun _ hm => Or.inl hm
    intro a ha
    rw [List.mem_singleton.mp ha, haction]
    decide
  | password_changed _ payload user =>
    exact .same _ rfl (passwordAudits_quiet e user.id s) rfl rfl fun _ hm => Or.inl hm
  | password_reset payload row =>
    exact .same _ rfl (passwordAudits_quiet e row.user_id s) rfl rfl fun _ hm => Or.inl hm
  | _ => exact hnothing _ rfl rfl rfl rfl

theorem tenant_journal (hs : Consistent s) (hl : Logged s) {user : User} {r : TenantRequest}
    (h : TenantWrite e user s r s') : JournalStep e s s' := by
  have hentry : ∀ {row : AuditLog}, row.action ∉ journalActions →
      ∀ a ∈ [row], a.action ∉ journalActions := by
    intro row hrow a ha
    rwa [List.mem_singleton.mp ha]
  cases h with
  | organization_created payload =>
    refine .same [organization_audit e payload user.id] rfl
      (hentry (by decide : AuditAction.ORGANIZATION_CREATED ∉ journalActions)) rfl rfl ?_
    intro m hm
    rcases List.mem_append.mp hm with hm | hm
    · exact Or.inl hm
    · rw [List.mem_singleton.mp hm]
      exact Or.inr ⟨1, rfl⟩
  | member_added organization_id payload actor target =>
    refine .same [] (List.append_nil _).symm (List.forall_mem_nil _) rfl rfl ?_
    intro m hm
    rcases List.mem_append.mp hm with hm | hm
    · exact Or.inl hm
    · rw [List.mem_singleton.mp hm]
      exact Or.inr ⟨0, rfl⟩
  | role_changed organization_id member_id role actor target _ ht =>
    obtain ⟨hmem, hhome⟩ := target_of_ok ht
    exact .role_changed organization_id target role user.id hmem hhome rfl
  | member_removed =>
    exact .same [] (List.append_nil _).symm (List.forall_mem_nil _) rfl rfl
      fun m hm => Or.inl (List.mem_filter.mp hm).1
  | service_created payload =>
    exact .same [service_audit e (new_service e payload) user.id] rfl
      (hentry (by decide : AuditAction.SERVICE_CREATED ∉ journalActions)) rfl rfl fun _ hm => Or.inl hm
  | service_updated =>
    exact .same [] (List.append_nil _).symm (List.forall_mem_nil _) rfl rfl fun _ hm => Or.inl hm
  | service_deleted =>
    refine .quiet [] (List.append_nil _).symm (List.forall_mem_nil _) ?_ ?_ fun _ hm => Or.inl hm
    · intro i hi
      exact Or.inl ⟨i, (List.mem_filter.mp hi).1, rfl, rfl, rfl, rfl⟩
    · intro k hk
      exact ⟨k, (List.mem_filter.mp hk).1, rfl, rfl, rfl⟩
  | key_created _ payload service => exact .key_created service payload user.id rfl
  | key_revoked _ api_key _ hk _ hlive =>
    exact .key_revoked api_key user.id (resource_of_ok hk).1 hlive rfl
  | key_rotated _ old_key service _ payload hk _ hlive hv =>
    have hmem := (resource_of_ok hk).1
    obtain ⟨hservice, hid, _⟩ := resource_of_ok hv
    refine .key_rotated old_key service payload user.id hmem hlive ?_ rfl
    obtain ⟨v, hv', hvid, hhome⟩ := hs.keys old_key hmem
    rw [hs.service_ids.eq hservice hv' (hid.trans hvid.symm), hhome]
  | acknowledged _ incident _ hi _ hopen =>
    have hmem := (resource_of_ok hi).1
    exact .acknowledged incident user.id hmem ((hl.rows incident hmem).opened hopen).1 rfl
  | resolved _ incident _ hi _ hopen =>
    have hmem := (resource_of_ok hi).1
    exact .resolved incident user.id hmem ((hl.rows incident hmem).unresolved hopen).1 rfl

/-- Events touch a key, and raise or create an incident. -/
theorem ingest_journal {payload : EventCreate} {k : ApiKey} {reply : Except Failure EventIngestResponse}
    (h : IngestOutcome e payload k s reply s') : JournalStep e s s' := by
  have htouched : ∀ l ∈ (touchApiKey k.id (e.clock 1) s).api_keys, ∃ l' ∈ s.api_keys, l.id = l'.id ∧
      l.organization_id = l'.organization_id ∧ l.revoked_at = l'.revoked_at := by
    intro l hl
    obtain ⟨l', hl', rfl⟩ := mem_updateWhere.mp hl
    refine ⟨l', hl', ?_⟩
    split <;> exact ⟨rfl, rfl, rfl⟩
  have hstored : ∀ t : Store, t.audit_logs = s.audit_logs →
      t.api_keys = (touchApiKey k.id (e.clock 1) s).api_keys →
      t.organization_members = s.organization_members →
      (∀ i ∈ t.incidents,
        (∃ j ∈ s.incidents, i.id = j.id ∧ i.organization_id = j.organization_id ∧
          i.acknowledged_at = j.acknowledged_at ∧ i.resolved_at = j.resolved_at) ∨
        (∃ k, i.id = e.uuid k) ∧ i.acknowledged_at = none ∧ i.resolved_at = none) →
      JournalStep e s t := by
    intro t hlog hkeys hmembers hincidents
    refine .quiet [] (by rw [hlog, List.append_nil]) (List.forall_mem_nil _) hincidents ?_ ?_
    · rw [hkeys]
      exact htouched
    · rw [hmembers]
      exact fun _ hm => Or.inl hm
  have hold : ∀ i ∈ s.incidents,
      (∃ j ∈ s.incidents, i.id = j.id ∧ i.organization_id = j.organization_id ∧
        i.acknowledged_at = j.acknowledged_at ∧ i.resolved_at = j.resolved_at) ∨
      (∃ k, i.id = e.uuid k) ∧ i.acknowledged_at = none ∧ i.resolved_at = none :=
    fun i hi => Or.inl ⟨i, hi, rfl, rfl, rfl, rfl⟩
  cases h with
  | limited => exact .unwritten
  | duplicate => exact hstored _ rfl rfl rfl hold
  | unstorable => exact .unwritten
  | failed => exact .unwritten
  | stored incident_id _ hlimit hv hs he =>
    cases he with
    | quiet => exact hstored _ rfl rfl rfl hold
    | attached incident =>
      obtain ⟨links, rows, _, hrows, heq⟩ := attached_eq e incident (new_event e payload k)
        (storeEvent e payload k s)
      rw [heq]
      refine hstored _ rfl rfl rfl ?_
      rcases hrows with rfl | rfl
      · exact hold
      · intro i hi
        obtain ⟨j, hj, rfl⟩ := mem_updateWhere.mp hi
        refine Or.inl ⟨j, hj, ?_⟩
        split <;> exact ⟨rfl, rfl, rfl, rfl⟩
    | opened w =>
      refine hstored _ rfl rfl rfl ?_
      intro i hi
      rcases List.mem_append.mp hi with hi | hi
      · exact hold i hi
      · rw [List.mem_singleton.mp hi]
        exact Or.inr ⟨⟨1, rfl⟩, rfl, rfl⟩

theorem journal_step (hs : Reachable s) (e : Env) (r : Request) : JournalStep e s (handle e r s).2 := by
  apply served_cases (P := fun _ t => JournalStep e s t)
  · exact fun _ => .unwritten
  · exact fun _ _ _ ho => auth_journal ho
  · exact fun _ _ _ _ _ hw => tenant_journal hs.consistent (reachable_logged hs) hw
  · exact fun _ _ _ _ _ _ ho => ingest_journal ho

end

/-! ## Entries that tell nothing -/

/-- `str(uuid)` has another text for each id. -/
def InjectiveUuidText : Prop := ∀ a b : UUID, Platform.str_uuid a = Platform.str_uuid b → a = b

section
variable {a : AuditLog} {actions : List AuditAction} {id : UUID}

omit [Platform] in
theorem tellsOf_iff : tellsOf actions id a = true ↔ a.action ∈ actions ∧ a.resource_id = some id := by
  simp [tellsOf]

@[simp] theorem tellsOf_audit_row (e : Env) (row_id : UUID) (action : AuditAction) (resource_type : Text)
    (organization_id actor_user_id resource_id : Option UUID) (metadata : Metadata) :
    tellsOf actions id (audit_row e row_id action resource_type organization_id actor_user_id resource_id
      metadata) = (actions.contains action && resource_id = some id) := rfl

@[simp] theorem audit_row_action (e : Env) (row_id : UUID) (action : AuditAction) (resource_type : Text)
    (organization_id actor_user_id resource_id : Option UUID) (metadata : Metadata) :
    (audit_row e row_id action resource_type organization_id actor_user_id resource_id metadata).action =
      action := rfl

omit [Platform] in
theorem tellsOf_other_action (h : a.action ∉ actions) : tellsOf actions id a = false := by
  rw [← Bool.not_eq_true, tellsOf_iff]
  exact fun hboth => h hboth.1

omit [Platform] in
theorem tellsOf_other_resource (h : a.resource_id ≠ some id) : tellsOf actions id a = false := by
  rw [← Bool.not_eq_true, tellsOf_iff]
  exact fun hboth => h hboth.2

theorem tellsRevocation_other_action (h : a.action ∉ [AuditAction.API_KEY_REVOKED, .API_KEY_ROTATED]) :
    tellsRevocation id a = false := by
  simp only [List.mem_cons, List.not_mem_nil, or_false, not_or] at h
  unfold tellsRevocation
  rw [tellsOf_other_action (by simpa using h.1)]
  simp [h.2]

omit [Platform] in
/-- An entry of another action than those of the journal. -/
theorem not_told_of_quiet (h : a.action ∉ journalActions) (hsub : ∀ x ∈ actions, x ∈ journalActions) :
    a.action ∉ actions := fun hmem => h (hsub _ hmem)

/-- The entry of a rotation tells the key that was replaced. -/
theorem previousResource_rotated (hl : LowerKeepsAscii) (e : Env) (organization_id api_key_id user_id : UUID)
    (old_id : UUID) :
    previousResource (key_audit e .API_KEY_ROTATED organization_id api_key_id user_id
      [("previous_resource_id".toList, .uuid old_id)]) = some (Platform.str_uuid old_id) := by
  have hkept : (key_audit e .API_KEY_ROTATED organization_id api_key_id user_id
      [("previous_resource_id".toList, .uuid old_id)]).metadata_json =
        [("previous_resource_id".toList, .str (Platform.str_uuid old_id))] := by
    refine (metadata_plain hl ["previous_resource_id".toList] rfl (by decide) (by decide)).trans ?_
    simp [safe_value]
  unfold previousResource
  rw [hkept]
  rfl

end

/-! ## The journal of a store -/

/-- The replaced keys that entries tell are ids that the log names. -/
def PreviousNamed (s : Store) : Prop :=
  ∀ a ∈ s.audit_logs, a.action = .API_KEY_ROTATED → ∃ id ∈ s.audit_logs.filterMap AuditLog.resource_id,
    previousResource a = some (Platform.str_uuid id)

structure Journaled (s : Store) : Prop where
  acknowledged : ToldOnce acknowledgements s.incidents s.audit_logs
  resolved : ToldOnce resolutions s.incidents s.audit_logs
  issued : ToldOnce issues s.api_keys s.audit_logs
  revoked : ToldOnce revocations s.api_keys s.audit_logs
  previous : PreviousNamed s

theorem journaled_empty : Journaled Store.empty where
  acknowledged := told_nil _
  resolved := told_nil _
  issued := told_nil _
  revoked := told_nil _
  previous := List.forall_mem_nil _

section
variable {e : Env} {s s' : Store} (hf : Fresh e s)
include hf

omit [Platform] in
/-- A drawn id is named by no entry. -/
theorem unnamed (k : Nat) : e.uuid k ∉ s.audit_logs.filterMap AuditLog.resource_id := by
  intro hmem
  refine hf.unused k ?_
  simp only [Store.ids, List.mem_append]
  exact Or.inr hmem

omit [Platform] in
theorem untold_drawn (actions : List AuditAction) (k : Nat) :
    ∀ a ∈ s.audit_logs, tellsOf actions (e.uuid k) a = false := by
  intro a ha
  refine tellsOf_other_resource fun hid => unnamed hf k ?_
  exact List.mem_filterMap.mpr ⟨a, ha, hid⟩

theorem unrevoked_drawn (hu : InjectiveUuidText) (hp : PreviousNamed s) (k : Nat) :
    ∀ a ∈ s.audit_logs, tellsRevocation (e.uuid k) a = false := by
  intro a ha
  unfold tellsRevocation
  rw [untold_drawn hf _ k a ha, Bool.false_or, ← Bool.not_eq_true]
  simp only [Bool.and_eq_true, decide_eq_true_eq]
  rintro ⟨haction, hprevious⟩
  obtain ⟨id, hid, htold⟩ := hp a ha haction
  rw [hprevious, Option.some.injEq] at htold
  rw [← hu _ _ htold] at hid
  exact unnamed hf k hid

end

/-! ## One step -/

omit [Platform] in
/-- An entry that tells of nothing. -/
theorem other_entry {α : Type} {S : Scheme α AuditLog UUID (Option UUID)} {rows rows' : List α}
    {log : List AuditLog} (h : ToldOnce S rows log) {a : AuditLog} (ha : ∀ id, S.tells id a = false)
    (hrows : ∀ x ∈ rows', (∃ y ∈ rows, S.Same x y) ∨ S.mark x = false ∧ Untold S (S.id x) log) :
    ToldOnce S rows' (log ++ [a]) :=
  h.frame hrows fun _ _ => untold_singleton (ha _)

omit [Platform] in
theorem same_rows {α : Type} {S : Scheme α AuditLog UUID (Option UUID)} {rows : List α}
    {log : List AuditLog} :
    ∀ x ∈ rows, (∃ y ∈ rows, S.Same x y) ∨ S.mark x = false ∧ Untold S (S.id x) log :=
  fun x hx => Or.inl ⟨x, hx, rfl, rfl, rfl⟩

omit [Platform] in
/-- The rows after a write that keeps their keys and the mark. -/
theorem updated_rows {α : Type} {S : Scheme α AuditLog UUID (Option UUID)} {rows : List α}
    {log : List AuditLog} {p : α → Bool} {f : α → α} (hf : ∀ x, S.Same (f x) x) :
    ∀ x ∈ updateWhere p f rows, (∃ y ∈ rows, S.Same x y) ∨ S.mark x = false ∧ Untold S (S.id x) log := by
  intro x hx
  obtain ⟨y, hy, rfl⟩ := mem_updateWhere.mp hx
  refine Or.inl ⟨y, hy, ?_⟩
  split
  · exact hf y
  · exact ⟨rfl, rfl, rfl⟩

/-- What the entries of an action tell of the time that it writes to an incident. -/
def incidentTimes (action : AuditAction) (time : Incident → Option Int) :
    Scheme Incident AuditLog UUID (Option UUID) where
  id := Incident.id
  mark i := (time i).isSome
  home i := some i.organization_id
  tells := tellsOf [action]
  place := AuditLog.organization_id

section
variable {e : Env} {s : Store} {action : AuditAction} {time : Incident → Option Int}

omit [Platform] in
/-- Incidents that come from old ones, or are new and without the time. -/
theorem times_kept (hf : Fresh e s) (ht : ToldOnce (incidentTimes action time) s.incidents s.audit_logs)
    {incidents : List Incident} {rows : List AuditLog} (hrows : ∀ a ∈ rows, a.action ∉ [action])
    (hincidents : ∀ i ∈ incidents,
      (∃ j ∈ s.incidents, i.id = j.id ∧ i.organization_id = j.organization_id ∧ time i = time j) ∨
      (∃ k, i.id = e.uuid k) ∧ time i = none) :
    ToldOnce (incidentTimes action time) incidents (s.audit_logs ++ rows) := by
  refine ht.frame ?_ fun x _ a ha => tellsOf_other_action (hrows a ha)
  intro i hi
  rcases hincidents i hi with ⟨j, hj, hid, hhome, htime⟩ | ⟨⟨k, hid⟩, htime⟩
  · exact Or.inl ⟨j, hj, hid, congrArg Option.isSome htime, congrArg some hhome⟩
  · refine Or.inr ⟨congrArg Option.isSome htime, ?_⟩
    show Untold (incidentTimes action time) i.id _
    rw [hid]
    exact untold_drawn hf _ k

/-- The action writes the time of an incident, and its entry. -/
theorem times_set (hids : UniqueOn Incident.id s.incidents)
    (ht : ToldOnce (incidentTimes action time) s.incidents s.audit_logs) {incident : Incident}
    (hmem : incident ∈ s.incidents) (hopen : time incident = none) (user_id : UUID)
    {f : Incident → Incident} (hid : (f incident).id = incident.id)
    (hhome : (f incident).organization_id = incident.organization_id)
    (hset : (time (f incident)).isSome = true) :
    ToldOnce (incidentTimes action time) (updateIncident incident.id f s).incidents
      (s.audit_logs ++ [incident_audit e action incident user_id]) := by
  refine ht.marked (x := incident) hids hmem (congrArg Option.isSome hopen) hid hset
    (congrArg some hhome) ?_ rfl ?_
  · simp [incidentTimes, incident_audit]
  · exact fun y _ hne => by simpa [incidentTimes, incident_audit] using Ne.symm hne

end

section
variable {e : Env} {s s' : Store} (h : JournalStep e s s') (hf : Fresh e s)
include h hf

theorem JournalStep.acknowledgements_told (hids : UniqueOn Incident.id s.incidents)
    (ht : ToldOnce acknowledgements s.incidents s.audit_logs) :
    ToldOnce acknowledgements s'.incidents s'.audit_logs := by
  have hother : ∀ {a : AuditLog}, a.action ≠ .INCIDENT_ACKNOWLEDGED →
      ∀ id, acknowledgements.tells id a = false :=
    fun ha _ => tellsOf_other_action (by simpa using ha)
  cases h with
  | quiet rows hlog hrows hincidents =>
    rw [hlog]
    refine times_kept hf ht (fun a ha => not_told_of_quiet (hrows a ha) (by decide)) fun i hi => ?_
    exact (hincidents i hi).imp (fun ⟨j, hj, hid, hhome, hack, _⟩ => ⟨j, hj, hid, hhome, hack⟩)
      fun ⟨hnew, hack, _⟩ => ⟨hnew, hack⟩
  | acknowledged incident user_id hmem hopen hs' =>
    rw [hs']
    exact times_set hids ht hmem hopen user_id rfl rfl rfl
  | resolved incident user_id hmem hopen hs' =>
    rw [hs']
    exact other_entry ht (hother nofun) (updated_rows fun _ => ⟨rfl, rfl, rfl⟩)
  | key_created _ _ _ hs' | key_revoked _ _ _ _ hs' | key_rotated _ _ _ _ _ _ _ hs'
  | role_changed _ _ _ _ _ _ hs' =>
    rw [hs']
    exact other_entry ht (hother nofun) same_rows

theorem JournalStep.resolutions_told (hids : UniqueOn Incident.id s.incidents)
    (ht : ToldOnce resolutions s.incidents s.audit_logs) :
    ToldOnce resolutions s'.incidents s'.audit_logs := by
  have hother : ∀ {a : AuditLog}, a.action ≠ .INCIDENT_RESOLVED → ∀ id, resolutions.tells id a = false :=
    fun ha _ => tellsOf_other_action (by simpa using ha)
  cases h with
  | quiet rows hlog hrows hincidents =>
    rw [hlog]
    refine times_kept hf ht (fun a ha => not_told_of_quiet (hrows a ha) (by decide)) fun i hi => ?_
    exact (hincidents i hi).imp (fun ⟨j, hj, hid, hhome, _, hres⟩ => ⟨j, hj, hid, hhome, hres⟩)
      fun ⟨hnew, _, hres⟩ => ⟨hnew, hres⟩
  | resolved incident user_id hmem hopen hs' =>
    rw [hs']
    exact times_set hids ht hmem hopen user_id rfl rfl rfl
  | acknowledged incident user_id hmem hopen hs' =>
    rw [hs']
    exact other_entry ht (hother nofun) (updated_rows fun _ => ⟨rfl, rfl, rfl⟩)
  | key_created _ _ _ hs' | key_revoked _ _ _ _ hs' | key_rotated _ _ _ _ _ _ _ hs'
  | role_changed _ _ _ _ _ _ hs' =>
    rw [hs']
    exact other_entry ht (hother nofun) same_rows

theorem JournalStep.issues_told (ht : ToldOnce issues s.api_keys s.audit_logs) :
    ToldOnce issues s'.api_keys s'.audit_logs := by
  have hother : ∀ {a : AuditLog}, a.action ≠ .API_KEY_CREATED → a.action ≠ .API_KEY_ROTATED →
      ∀ id, issues.tells id a = false :=
    fun hc hr _ => tellsOf_other_action (by simp [hc, hr])
  have hrevoked : ∀ (id : UUID) (now : Int),
      ToldOnce issues (revokeKey id now s).api_keys s.audit_logs :=
    fun id now => ht.kept (updated_rows fun _ => ⟨rfl, rfl, rfl⟩)
  have hothers : ∀ k ∈ s.api_keys, k.id ≠ e.uuid 0 := hf.api_key 0
  cases h with
  | quiet rows hlog hrows _ hkeys =>
    rw [hlog]
    refine ht.frame ?_ fun x _ a ha => tellsOf_other_action (not_told_of_quiet (hrows a ha) (by decide))
    intro k hk
    obtain ⟨l, hl, hid, hhome, _⟩ := hkeys k hk
    exact Or.inl ⟨l, hl, hid, rfl, congrArg some hhome⟩
  | key_created service payload user_id hs' =>
    rw [hs']
    refine ht.issued rfl (untold_drawn hf _ 0) ?_ rfl ?_
    · simp [issues, key_audit, new_api_key]
    · exact fun k hk => by simpa [issues, key_audit] using Ne.symm (hothers k hk)
  | key_revoked api_key user_id hmem hlive hs' =>
    rw [hs']
    exact other_entry (hrevoked _ _) (hother nofun nofun) same_rows
  | key_rotated old_key service payload user_id hmem hlive hhome hs' =>
    rw [hs']
    refine (hrevoked old_key.id (e.clock 2)).issued rfl (untold_drawn hf _ 0) ?_ rfl ?_
    · simp [issues, key_audit, new_api_key]
    · intro k hk
      obtain ⟨l, hl, hid⟩ := id_of_revokeKey hk
      simpa [issues, key_audit, ← hid] using Ne.symm (hothers l hl)
  | acknowledged _ _ _ _ hs' | resolved _ _ _ _ hs' | role_changed _ _ _ _ _ _ hs' =>
    rw [hs']
    exact other_entry ht (hother nofun nofun) same_rows

theorem JournalStep.revocations_told (hl : LowerKeepsAscii) (hu : InjectiveUuidText)
    (hp : PreviousNamed s) (hids : UniqueOn ApiKey.id s.api_keys)
    (ht : ToldOnce revocations s.api_keys s.audit_logs) :
    ToldOnce revocations s'.api_keys s'.audit_logs := by
  have hother : ∀ {a : AuditLog}, a.action ≠ .API_KEY_REVOKED → a.action ≠ .API_KEY_ROTATED →
      ∀ id, revocations.tells id a = false :=
    fun hr ho _ => tellsRevocation_other_action (by simp [hr, ho])
  cases h with
  | quiet rows hlog hrows _ hkeys =>
    rw [hlog]
    refine ht.frame ?_ fun x _ a ha =>
      tellsRevocation_other_action (not_told_of_quiet (hrows a ha) (by decide))
    intro k hk
    obtain ⟨l, hl, hid, hhome, hrevoked⟩ := hkeys k hk
    exact Or.inl ⟨l, hl, hid, congrArg Option.isSome hrevoked, congrArg some hhome⟩
  | key_created service payload user_id hs' =>
    rw [hs']
    refine other_entry ht (hother nofun nofun) fun k hk => ?_
    rcases List.mem_append.mp hk with hk | hk
    · exact same_rows k hk
    · rw [List.mem_singleton.mp hk]
      exact Or.inr ⟨rfl, unrevoked_drawn hf hu hp 0⟩
  | key_revoked api_key user_id hmem hlive hs' =>
    rw [hs']
    refine ht.marked (x := api_key) hids hmem (congrArg Option.isSome hlive) rfl rfl rfl ?_ rfl ?_
    · simp [revocations, tellsRevocation, key_audit]
    · intro k _ hne
      simpa [revocations, tellsRevocation, key_audit] using Ne.symm hne
  | key_rotated old_key service payload user_id hmem hlive hhome hs' =>
    rw [hs']
    have htells : ∀ id, revocations.tells id (key_audit e .API_KEY_ROTATED service.organization_id
        (e.uuid 0) user_id [("previous_resource_id".toList, .uuid old_key.id)]) = true ↔
          old_key.id = id := by
      intro id
      simp only [revocations, tellsRevocation]
      rw [previousResource_rotated hl]
      simp only [key_audit, tellsOf_audit_row, audit_row_action, List.contains_cons, Bool.or_eq_true,
        Bool.and_eq_true, decide_eq_true_eq, Option.some.injEq]
      constructor
      · rintro (⟨haction, _⟩ | ⟨_, htext⟩)
        · exact absurd haction (by decide)
        · exact hu _ _ htext
      · rintro rfl
        exact Or.inr ⟨trivial, rfl⟩
    have hmarked : ToldOnce revocations (revokeKey old_key.id (e.clock 2) s).api_keys (s.audit_logs ++
        [key_audit e .API_KEY_ROTATED service.organization_id (e.uuid 0) user_id
          [("previous_resource_id".toList, .uuid old_key.id)]]) := by
      refine ht.marked (x := old_key) hids hmem (congrArg Option.isSome hlive) rfl rfl rfl
        ((htells _).mpr rfl) (congrArg some hhome) fun k _ hne => ?_
      rw [← Bool.not_eq_true]
      exact fun htold => hne ((htells _).mp htold).symm
    refine hmarked.kept fun k hk => ?_
    rcases List.mem_append.mp hk with hk | hk
    · exact same_rows k hk
    · rw [List.mem_singleton.mp hk]
      refine Or.inr ⟨rfl, untold_append (unrevoked_drawn hf hu hp 0) (untold_singleton ?_)⟩
      rw [← Bool.not_eq_true]
      exact fun htold => hf.api_key 0 old_key hmem ((htells _).mp htold)
  | acknowledged _ _ _ _ hs' | resolved _ _ _ _ hs' | role_changed _ _ _ _ _ _ hs' =>
    rw [hs']
    exact other_entry ht (hother nofun nofun) same_rows

omit hf in
/-- A key that an entry of a rotation tells to be replaced has an entry of its own. -/
theorem JournalStep.previous_named (hl : LowerKeepsAscii) (ht : ToldOnce issues s.api_keys s.audit_logs)
    (hp : PreviousNamed s) : PreviousNamed s' := by
  have hgrows : ∀ rows, s'.audit_logs = s.audit_logs ++ rows →
      (∀ a ∈ rows, a.action = .API_KEY_ROTATED → ∃ id ∈ s.audit_logs.filterMap AuditLog.resource_id,
        previousResource a = some (Platform.str_uuid id)) → PreviousNamed s' := by
    intro rows hlog hrows a ha haction
    rw [hlog] at ha ⊢
    have hnamed : ∃ id ∈ s.audit_logs.filterMap AuditLog.resource_id,
        previousResource a = some (Platform.str_uuid id) := by
      rcases List.mem_append.mp ha with ha | ha
      · exact hp a ha haction
      · exact hrows a ha haction
    obtain ⟨id, hid, htold⟩ := hnamed
    exact ⟨id, by rw [List.filterMap_append]; exact List.mem_append_left _ hid, htold⟩
  have hother : ∀ row, s'.audit_logs = s.audit_logs ++ [row] → row.action ≠ .API_KEY_ROTATED →
      PreviousNamed s' := by
    intro row hlog hne
    refine hgrows [row] hlog fun a ha haction => ?_
    rw [List.mem_singleton.mp ha] at haction
    exact absurd haction hne
  cases h with
  | quiet rows hlog hrows =>
    refine hgrows rows hlog fun a ha haction => absurd ?_ (hrows a ha)
    rw [haction]
    decide
  | key_rotated old_key service payload user_id hmem hlive hhome hs' =>
    refine hgrows _ (by rw [hs']; rfl) fun a ha _ => ?_
    rw [List.mem_singleton.mp ha]
    refine ⟨old_key.id, ?_, previousResource_rotated hl _ _ _ _ _⟩
    have hone : 0 < s.audit_logs.countP (issues.tells (issues.id old_key)) := by
      rw [ht.count old_key hmem]
      exact Nat.one_pos
    obtain ⟨b, hb, htells⟩ := List.countP_pos_iff.mp hone
    exact List.mem_filterMap.mpr ⟨b, hb, (tellsOf_iff.mp htells).2⟩
  | acknowledged _ _ _ _ hs' | resolved _ _ _ _ hs' | key_created _ _ _ hs' | key_revoked _ _ _ _ hs'
  | role_changed _ _ _ _ _ _ hs' =>
    refine hother _ (by rw [hs']; rfl) ?_
    exact nofun

theorem JournalStep.journaled (hl : LowerKeepsAscii) (hu : InjectiveUuidText)
    (hincidents : UniqueOn Incident.id s.incidents) (hkeys : UniqueOn ApiKey.id s.api_keys)
    (hj : Journaled s) : Journaled s' where
  acknowledged := h.acknowledgements_told hf hincidents hj.acknowledged
  resolved := h.resolutions_told hf hincidents hj.resolved
  issued := h.issues_told hf hj.issued
  revoked := h.revocations_told hf hl hu hj.previous hkeys hj.revoked
  previous := h.previous_named hl hj.issued hj.previous

end

theorem reachable_journaled (hl : LowerKeepsAscii) (hu : InjectiveUuidText) {s : Store}
    (h : Reachable s) : Journaled s :=
  h.inv journaled_empty fun _ e r hs hf hj =>
    (journal_step hs e r).journaled hf hl hu hs.consistent.incident_ids (reachable_keyed hs).key_ids hj

/-! ## Roles over a run -/

/-- The role of the membership with the id. -/
def roleIn (s : Store) (member_id : UUID) : Option OrganizationRole :=
  (s.organization_members.find? fun m => m.id = member_id).map OrganizationMember.role

/-- The role that a membership was added with: the one that it has after the
request that brought it. -/
def roleAdded : List (Env × Request) → UUID → Option OrganizationRole
  | [], _ => none
  | c :: past, member_id =>
    if (roleIn (run.after serve Store.empty past) member_id).isSome then roleAdded past member_id
    else roleIn (run.after serve Store.empty (c :: past)) member_id

omit [Platform] in
theorem roleChain_snoc {first last next : OrganizationRole} {log : List AuditLog} {a : AuditLog}
    (h : RoleChain first log last)
    (hprevious : a.metadata_json.lookup "previous_role".toList = some (.str last.value))
    (hnew : a.metadata_json.lookup "new_role".toList = some (.str next.value)) :
    RoleChain first (log ++ [a]) next := by
  induction log generalizing first with
  | nil =>
    obtain rfl : first = last := h
    exact ⟨hprevious, next, hnew, rfl⟩
  | cons b log ih =>
    obtain ⟨hfirst, role, hrole, hrest⟩ := h
    exact ⟨hfirst, role, hrole, ih hrest⟩

/-- The entries of a membership tell how it came to its role, in its organization. -/
structure RoleTold (past : List (Env × Request)) (log : List AuditLog) (m : OrganizationMember) : Prop where
  chain : ∃ role, roleAdded past m.id = some role ∧ RoleChain role (roleChanges m.id log) m.role
  place : ∀ a ∈ log, tellsOf [.MEMBER_ROLE_CHANGED] m.id a = true →
    a.organization_id = some m.organization_id

section
variable {past : List (Env × Request)} {e : Env} {r : Request}

theorem roleAdded_kept {member_id : UUID}
    (h : ∃ m ∈ (run.after serve Store.empty past).organization_members, m.id = member_id) :
    roleAdded ((e, r) :: past) member_id = roleAdded past member_id := by
  obtain ⟨m, hm, hid⟩ := h
  have hfound : (roleIn (run.after serve Store.empty past) member_id).isSome = true := by
    rw [roleIn, Option.isSome_map]
    exact List.find?_isSome.mpr ⟨m, hm, by simpa using hid⟩
  rw [roleAdded, if_pos hfound]

theorem roleAdded_new {m : OrganizationMember}
    (hnew : ∀ m' ∈ (run.after serve Store.empty past).organization_members, m'.id ≠ m.id)
    (hids : UniqueOn OrganizationMember.id
      (run.after serve Store.empty ((e, r) :: past)).organization_members)
    (hm : m ∈ (run.after serve Store.empty ((e, r) :: past)).organization_members) :
    roleAdded ((e, r) :: past) m.id = some m.role := by
  have hnone : ¬ (roleIn (run.after serve Store.empty past) m.id).isSome = true := by
    rw [roleIn, Option.isSome_map, List.find?_isSome]
    rintro ⟨m', hm', hid⟩
    exact hnew m' hm' (by simpa using hid)
  rw [roleAdded, if_neg hnone, roleIn,
    find?_eq_of_unique hm (by simp) fun m' hm' hid => hids.eq hm' hm (by simpa using hid)]
  rfl

/-- Entries that are no role changes of the membership. -/
theorem RoleTold.kept {log rows : List AuditLog} {m : OrganizationMember} (h : RoleTold past log m)
    (hm : m ∈ (run.after serve Store.empty past).organization_members)
    (hrows : ∀ a ∈ rows, tellsOf [.MEMBER_ROLE_CHANGED] m.id a = false) :
    RoleTold ((e, r) :: past) (log ++ rows) m := by
  have hnone : roleChanges m.id rows = [] :=
    List.filter_eq_nil_iff.mpr fun a ha => by rw [hrows a ha]; exact Bool.false_ne_true
  constructor
  · rw [roleAdded_kept ⟨m, hm, rfl⟩, roleChanges, List.filter_append]
    rw [roleChanges] at hnone
    rw [hnone, List.append_nil]
    exact h.chain
  · intro a ha htells
    rcases List.mem_append.mp ha with ha | ha
    · exact h.place a ha htells
    · rw [hrows a ha] at htells
      cases htells

end

/-- The entry of a role change goes on from the role of the membership. -/
theorem RoleTold.changed (hl : LowerKeepsAscii) {past : List (Env × Request)} {e : Env} {r : Request}
    {log : List AuditLog} {m : OrganizationMember} {role : OrganizationRole} {user_id : UUID}
    (h : RoleTold past log m)
    (hm : m ∈ (run.after serve Store.empty past).organization_members) :
    RoleTold ((e, r) :: past) (log ++ [role_audit e m.organization_id m role user_id])
      { m with role := role } := by
  have htells : tellsOf [.MEMBER_ROLE_CHANGED] m.id
      (role_audit e m.organization_id m role user_id) = true := by simp [role_audit]
  obtain ⟨first, hadded, hchain⟩ := h.chain
  constructor
  · refine ⟨first, (roleAdded_kept ⟨m, hm, rfl⟩).trans hadded, ?_⟩
    have hlast : roleChanges m.id (log ++ [role_audit e m.organization_id m role user_id]) =
        roleChanges m.id log ++ [role_audit e m.organization_id m role user_id] := by
      rw [roleChanges, List.filter_append, List.filter_singleton, htells]
      rfl
    show RoleChain first (roleChanges m.id _) role
    rw [hlast]
    refine roleChain_snoc hchain (previous_role_of_entry hl _ _ _ _ _) ?_
    rw [role_audit_metadata hl]
    rfl
  · exact forall_insert h.place fun _ => rfl

/-- What a request does to memberships and to the entries of their role changes. -/
theorem JournalStep.roles {e : Env} {s s' : Store} (h : JournalStep e s s') :
    (∃ rows, s'.audit_logs = s.audit_logs ++ rows ∧ (∀ a ∈ rows, a.action ≠ .MEMBER_ROLE_CHANGED) ∧
      ∀ m ∈ s'.organization_members, m ∈ s.organization_members ∨ ∃ k, m.id = e.uuid k) ∨
    ∃ target role user_id, target ∈ s.organization_members ∧
      s' = addAudit (role_audit e target.organization_id target role user_id)
        (updateMember target.id (fun m => { m with role := role }) s) := by
  have hentry : ∀ {row : AuditLog}, row.action ≠ .MEMBER_ROLE_CHANGED →
      ∀ a ∈ [row], a.action ≠ .MEMBER_ROLE_CHANGED := by
    intro row hne a ha
    rwa [List.mem_singleton.mp ha]
  cases h with
  | quiet rows hlog hrows _ _ hmembers =>
    refine Or.inl ⟨rows, hlog, fun a ha haction => hrows a ha ?_, hmembers⟩
    rw [haction]
    decide
  | role_changed organization_id target role user_id hmem hhome hs' =>
    rw [← hhome] at hs'
    exact Or.inr ⟨target, role, user_id, hmem, hs'⟩
  | acknowledged _ _ _ _ hs' | resolved _ _ _ _ hs' | key_created _ _ _ hs' | key_revoked _ _ _ _ hs'
  | key_rotated _ _ _ _ _ _ _ hs' =>
    rw [hs']
    exact Or.inl ⟨_, rfl, hentry nofun, fun m hm => Or.inl hm⟩

theorem roles_told (hl : LowerKeepsAscii) {past : List (Env × Request)}
    (hfresh : run.Every serve Store.empty (fun s c => Fresh c.1 s) past) :
    ∀ m ∈ (run.after serve Store.empty past).organization_members,
      RoleTold past (run.after serve Store.empty past).audit_logs m := by
  induction past with
  | nil => exact List.forall_mem_nil _
  | cons c past ih =>
    obtain ⟨e, r⟩ := c
    have ih := ih hfresh.1
    have hbefore : Reachable (run.after serve Store.empty past) := ⟨past, hfresh.1, rfl⟩
    have hafter : Reachable (run.after serve Store.empty ((e, r) :: past)) := ⟨_, hfresh, rfl⟩
    have hf : Fresh e (run.after serve Store.empty past) := hfresh.2
    have hstep := journal_step hbefore e r
    have hids := (reachable_keyed hbefore).member_ids
    intro m hm
    rcases hstep.roles with ⟨rows, hlog, hrows, hmembers⟩ | ⟨target, role, user_id, htarget, heq⟩
    · have hnone : ∀ a ∈ rows, tellsOf [.MEMBER_ROLE_CHANGED] m.id a = false :=
        fun a ha => tellsOf_other_action (by simpa using hrows a ha)
      show RoleTold _ (handle e r _).2.audit_logs m
      rw [hlog]
      rcases hmembers m hm with hold | ⟨k, hid⟩
      · exact (ih m hold).kept hold hnone
      · -- a new membership: no entry names it yet
        have huntold : ∀ a ∈ (run.after serve Store.empty past).audit_logs ++ rows,
            tellsOf [.MEMBER_ROLE_CHANGED] m.id a = false := by
          intro a ha
          rcases List.mem_append.mp ha with ha | ha
          · rw [hid]
            exact untold_drawn hf _ k a ha
          · exact hnone a ha
        have hempty : roleChanges m.id ((run.after serve Store.empty past).audit_logs ++ rows) = [] :=
          List.filter_eq_nil_iff.mpr fun a ha => by rw [huntold a ha]; exact Bool.false_ne_true
        refine ⟨⟨m.role, ?_, ?_⟩, fun a ha htells => ?_⟩
        · refine roleAdded_new (fun m' hm' heq => ?_) (reachable_keyed hafter).member_ids hm
          exact hf.member k m' hm' (heq.trans hid)
        · rw [hempty]
          rfl
        · rw [huntold a ha] at htells
          cases htells
    · have hs' : run.after serve Store.empty ((e, r) :: past) = _ := heq
      rw [hs'] at hm ⊢
      obtain ⟨old, hold, rfl⟩ := mem_updateWhere.mp hm
      by_cases hid : old.id = target.id
      · obtain rfl := hids.eq hold htarget hid
        simp only [decide_true, if_true]
        exact (ih old hold).changed hl hold
      · simp only [hid, decide_false, Bool.false_eq_true, if_false]
        refine (ih old hold).kept hold fun a ha => ?_
        rw [List.mem_singleton.mp ha]
        simpa [role_audit] using Ne.symm hid

/-! ## The journal of an organization -/

def journalOf (organization_id : UUID) (s : Store) : List AuditLog :=
  s.audit_logs.filter fun a => a.organization_id = some organization_id

/-- After every run, the whole log and the log of the organization tell of its
incidents, keys and memberships what the tables hold. -/
theorem the_audit_log_is_a_faithful_journal (hl : LowerKeepsAscii) (hu : InjectiveUuidText)
    (past : List (Env × Request))
    (hfresh : run.Every serve Store.empty (fun s c => Fresh c.1 s) past) (organization_id : UUID) :
    let s := run.after serve Store.empty past
    ∀ log ∈ [s.audit_logs, journalOf organization_id s],
      (∀ i ∈ s.incidents, i.organization_id = organization_id →
        log.countP (tellsOf [.INCIDENT_ACKNOWLEDGED] i.id) = (if i.acknowledged_at.isSome then 1 else 0) ∧
        log.countP (tellsOf [.INCIDENT_RESOLVED] i.id) = if i.resolved_at.isSome then 1 else 0) ∧
      (∀ k ∈ s.api_keys, k.organization_id = organization_id →
        log.countP (tellsOf [.API_KEY_CREATED, .API_KEY_ROTATED] k.id) = 1 ∧
        log.countP (tellsRevocation k.id) = if k.revoked_at.isSome then 1 else 0) ∧
      ∀ m ∈ s.organization_members, m.organization_id = organization_id →
        ∃ role, roleAdded past m.id = some role ∧ RoleChain role (roleChanges m.id log) m.role := by
  intro s log hlog
  have hj : Journaled s := reachable_journaled hl hu ⟨past, hfresh, rfl⟩
  have hroles := roles_told hl hfresh
  obtain ⟨view, rfl, hview⟩ : ∃ view : AuditLog → Bool, log = s.audit_logs.filter view ∧
      ∀ a, a.organization_id = some organization_id → view a = true := by
    rcases List.mem_cons.mp hlog with rfl | hlog
    · exact ⟨fun _ => true, (List.filter_true _).symm, fun _ _ => rfl⟩
    · rw [List.mem_singleton.mp hlog]
      exact ⟨_, rfl, fun a ha => decide_eq_true ha⟩
  refine ⟨?_, ?_, ?_⟩
  · rintro i hi rfl
    exact ⟨hj.acknowledged.within hi fun a _ ha => hview a ha,
      hj.resolved.within hi fun a _ ha => hview a ha⟩
  · rintro k hk rfl
    exact ⟨hj.issued.within hk fun a _ ha => hview a ha,
      hj.revoked.within hk fun a _ ha => hview a ha⟩
  · rintro m hm rfl
    obtain ⟨⟨role, hadded, hchain⟩, hplace⟩ := hroles m hm
    have hsame : roleChanges m.id (s.audit_logs.filter view) = roleChanges m.id s.audit_logs := by
      rw [roleChanges, List.filter_filter]
      refine List.filter_congr fun a ha => ?_
      by_cases htells : tellsOf [.MEMBER_ROLE_CHANGED] m.id a = true
      · rw [htells, hview a (hplace a ha htells)]
        rfl
      · rw [Bool.not_eq_true] at htells
        rw [htells]
        rfl
    rw [hsame]
    exact ⟨role, hadded, hchain⟩

/-- The key of a service is rotated, and a new member is made an admin. -/
def journalRun : List (Env × Request) :=
  [(sampleEnv 8, .tenant (sampleBearer 0 1) (.update_member_role 20 70 .ADMIN)),
   (sampleEnv 7, .tenant (sampleBearer 0 1) (.add_member 20 ⟨"eve@example.com".toList, .ENGINEER⟩)),
   (sampleEnv 6, .auth (.register { sampleUser with email := "eve@example.com".toList })),
   (sampleEnv 5, .tenant (sampleBearer 0 1) (.rotate_api_key 40))] ++ sampleRun.drop 5

omit [Platform] in
theorem sample_uuid_text_injective : @InjectiveUuidText samplePlatform := by
  intro a b h
  rw [← Nat.ofDigitChars_toDigits (b := 10) (n := a) (by decide) (by decide),
    ← Nat.ofDigitChars_toDigits (b := 10) (n := b) (by decide) (by decide)]
  exact congrArg (fun t => Nat.ofDigitChars 10 t 0) h

omit [Platform] in
theorem journal_run_fresh :
    run.Every (@serve samplePlatform) Store.empty (fun s c => Fresh c.1 s) journalRun :=
  fresh_of_drawsInOrder [8, 7, 6, 5, 4, 3, 2, 1, 0] rfl (by decide +kernel)

omit [Platform] in
/-- The entry of the rotated key is found by its text. -/
theorem the_rotation_of_a_key_is_told_once :
    let s := run.after (@serve samplePlatform) Store.empty journalRun
    ∃ k ∈ s.api_keys, k.revoked_at.isSome = true ∧
      (journalOf 20 s).countP (@tellsRevocation samplePlatform k.id) = 1 := by
  intro s
  have hkey : ∃ k ∈ s.api_keys, k.organization_id = 20 ∧ k.revoked_at.isSome = true := by decide +kernel
  obtain ⟨k, hk, horganization, hrevoked⟩ := hkey
  have h := ((@the_audit_log_is_a_faithful_journal samplePlatform sample_lower_keeps_ascii
    sample_uuid_text_injective journalRun journal_run_fresh 20 (journalOf 20 s) (by simp [s])).2.1 k hk
      horganization).2
  rw [if_pos hrevoked] at h
  exact ⟨k, hk, hrevoked, h⟩

end pulseforge

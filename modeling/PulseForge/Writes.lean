-- What each request for a tenant's resources can leave in the database. One
-- list of writes, with what the handler had checked before each of them;
-- everything that is proved about these requests starts from this list.
import PulseForge.AuthOutcomes

open txn table

namespace pulseforge

variable [Platform]

/-- The store after a write of the request, with the checks that it passed. -/
inductive TenantWrite (e : Env) (user : User) (s : Store) : TenantRequest → Store → Prop
  | organization_created (payload : OrganizationCreate)
      (hslug : (s.organizations.any fun o => o.slug = payload.slug) = false) :
      TenantWrite e user s (.create_organization payload)
        (addAudit (organization_audit e payload user.id) (addMember (owner_membership e user.id)
          { s with organizations := s.organizations ++ [new_organization e payload user.id] }))
  | member_added (organization_id : UUID) (payload : MemberAdd) (actor : OrganizationMember)
      (target : User)
      (hp : require_permission .MEMBER_MANAGE organization_id user.id s = .ok actor)
      (howner : payload.role ≠ .OWNER) (hrole : can_manage_role actor.role payload.role = true)
      (hnew : isMember s organization_id target.id = false) :
      TenantWrite e user s (.add_member organization_id payload)
        (addMember (new_member e organization_id target.id payload.role) s)
  | role_changed (organization_id member_id : UUID) (role : OrganizationRole)
      (actor target : OrganizationMember)
      (hp : require_permission .MEMBER_MANAGE organization_id user.id s = .ok actor)
      (ht : get_target_member organization_id member_id s = .ok target)
      (howner : role ≠ .OWNER) (hold : can_manage_role actor.role target.role = true)
      (hnew : can_manage_role actor.role role = true) :
      TenantWrite e user s (.update_member_role organization_id member_id role)
        (addAudit (role_audit e organization_id target role user.id)
          (updateMember target.id (fun m => { m with role := role }) s))
  | member_removed (organization_id member_id : UUID) (actor target : OrganizationMember)
      (hp : require_permission .MEMBER_MANAGE organization_id user.id s = .ok actor)
      (ht : get_target_member organization_id member_id s = .ok target)
      (hself : target.user_id ≠ user.id) (hold : can_manage_role actor.role target.role = true) :
      TenantWrite e user s (.remove_member organization_id member_id) (deleteMember target.id s)
  | service_created (payload : ServiceCreate) (actor : OrganizationMember)
      (hp : require_permission .SERVICE_CREATE payload.organization_id user.id s = .ok actor)
      (hslug : slugTaken (new_service e payload) s = false)
      (hstorable : (new_service e payload).storable = true) :
      TenantWrite e user s (.create_service payload)
        (addAudit (service_audit e (new_service e payload) user.id)
          { s with services := s.services ++ [new_service e payload] })
  | service_updated (service_id : UUID) (payload : ServiceUpdate) (service changed : Service)
      (actor : OrganizationMember) (name : Text)
      (hv : get_tenant_resource_or_404 Service service_id user.id s = .ok service)
      (hp : require_permission .SERVICE_UPDATE service.organization_id user.id s = .ok actor)
      (hn : changed_name payload service.name = .ok name)
      (hc : changed_service e.now payload name service = .ok changed)
      (hslug : slugTaken changed s = false) (hstorable : changed.storable = true) :
      TenantWrite e user s (.update_service service_id payload)
        { s with services := updateWhere (fun v => v.id = changed.id) (fun _ => changed) s.services }
  | service_deleted (service_id : UUID) (service : Service) (actor : OrganizationMember)
      (hv : get_tenant_resource_or_404 Service service_id user.id s = .ok service)
      (hp : require_permission .SERVICE_DELETE service.organization_id user.id s = .ok actor) :
      TenantWrite e user s (.delete_service service_id) (deleteService service.id s)
  | key_created (service_id : UUID) (payload : ApiKeyCreate) (service : Service)
      (actor : OrganizationMember)
      (hv : get_tenant_resource_or_404 Service service_id user.id s = .ok service)
      (hp : require_permission .API_KEY_MANAGE service.organization_id user.id s = .ok actor)
      (hstorable : Platform.storable_text (new_api_key e service payload).name = true) :
      TenantWrite e user s (.create_service_api_key service_id payload)
        (addAudit (key_audit e .API_KEY_CREATED service.organization_id (e.uuid 0) user.id [])
          { s with api_keys := s.api_keys ++ [new_api_key e service payload] })
  | key_revoked (api_key_id : UUID) (api_key : ApiKey) (actor : OrganizationMember)
      (hk : get_tenant_resource_or_404 ApiKey api_key_id user.id s = .ok api_key)
      (hp : require_permission .API_KEY_MANAGE api_key.organization_id user.id s = .ok actor)
      (hlive : api_key.revoked_at = none) :
      TenantWrite e user s (.revoke_api_key api_key_id)
        (addAudit (key_audit e .API_KEY_REVOKED api_key.organization_id api_key.id user.id [])
          (revokeKey api_key.id (e.clock 1) s))
  | key_rotated (api_key_id : UUID) (old_key : ApiKey) (service : Service)
      (actor : OrganizationMember) (payload : ApiKeyCreate)
      (hk : get_tenant_resource_or_404 ApiKey api_key_id user.id s = .ok old_key)
      (hp : require_permission .API_KEY_MANAGE old_key.organization_id user.id s = .ok actor)
      (hlive : old_key.revoked_at = none)
      (hv : get_tenant_resource_or_404 Service old_key.service_id user.id s = .ok service)
      (hc : ApiKeyCreate.validate old_key.name old_key.scopes old_key.expires_at (e.clock 3) =
        .ok payload)
      (hstorable : Platform.storable_text (new_api_key e service payload).name = true) :
      TenantWrite e user s (.rotate_api_key api_key_id)
        (addAudit (key_audit e .API_KEY_ROTATED service.organization_id (e.uuid 0) user.id
            [("previous_resource_id".toList, .uuid old_key.id)])
          { s with
            api_keys := (revokeKey old_key.id (e.clock 2) s).api_keys ++
              [new_api_key e service payload] })
  | acknowledged (incident_id : UUID) (incident : Incident) (actor : OrganizationMember)
      (hi : get_tenant_resource_or_404 Incident incident_id user.id s = .ok incident)
      (hp : require_permission .INCIDENT_ACKNOWLEDGE incident.organization_id user.id s = .ok actor)
      (hopen : incident.status = .OPEN) :
      TenantWrite e user s (.acknowledge_incident incident_id)
        (addAudit (incident_audit e .INCIDENT_ACKNOWLEDGED incident user.id)
          (updateIncident incident.id (acknowledged user.id (e.clock 1) e.now) s))
  | resolved (incident_id : UUID) (incident : Incident) (actor : OrganizationMember)
      (hi : get_tenant_resource_or_404 Incident incident_id user.id s = .ok incident)
      (hp : require_permission .INCIDENT_RESOLVE incident.organization_id user.id s = .ok actor)
      (hopen : incident.status ≠ .RESOLVED) :
      TenantWrite e user s (.resolve_incident incident_id)
        (addAudit (incident_audit e .INCIDENT_RESOLVED incident user.id)
          (updateIncident incident.id
            (resolved user.id (e.clock 1) e.now incident.assigned_to.isNone) s))

/-! ## The handlers -/

/-- From the committed store `s`, the handler leaves it, or one of the writes of the request. -/
def Leaves {α : Type} (e : Env) (user : User) (r : TenantRequest) (h : Handler α) : Prop :=
  ∀ s, Ends h ⟨s, s⟩ fun _ s' => s'.committed = s ∨ TenantWrite e user s r s'.committed

section
variable (e : Env) (user : User)

theorem create_organization_leaves (payload : OrganizationCreate) :
    Leaves e user (.create_organization payload) (create_organization e payload user) := by
  intro s
  unfold create_organization insertOrganization
  simp only [ends_bind, ends_attempt, ends_flush]
  by_cases ht : Platform.storable_text (new_organization e payload user.id).name = true
  · cases hs : s.organizations.any fun o => o.slug = (new_organization e payload user.id).slug with
    | true => simp [ht, Except.map, isIntegrityError]
    | false =>
      simp only [ht, if_true, Except.map, ends_bind, ends_write, ends_commit, ends_pure]
      exact Or.inr (.organization_created payload hs)
  · simp [ht, Except.map, isIntegrityError]

theorem add_member_leaves (organization_id : UUID) (payload : MemberAdd) :
    Leaves e user (.add_member organization_id payload)
      (add_member e organization_id payload user) := by
  intro s
  unfold add_member insertMember
  simp only [ends_bind, ends_ask]
  split
  · rename_i actor hp
    split
    · simp
    · rename_i howner
      split
      · simp
      · rename_i hrole
        simp only [ends_bind, ends_select]
        split
        · simp
        · rename_i target _
          simp only [ends_bind, ends_select]
          split
          · simp
          · simp only [ends_bind, ends_attempt, ends_flush]
            cases hnew : isMember s organization_id target.id with
            | true => simp [new_member, hnew, isIntegrityError]
            | false =>
              simp only [new_member, hnew, Bool.false_eq_true, if_false, if_true, ends_bind,
                ends_commit, ends_pure]
              exact Or.inr (.member_added organization_id payload actor target hp howner
                (by simpa using hrole) hnew)
  · simp

theorem update_member_role_leaves (organization_id member_id : UUID) (role : OrganizationRole) :
    Leaves e user (.update_member_role organization_id member_id role)
      (update_member_role e organization_id member_id role user) := by
  intro s
  unfold update_member_role
  simp only [ends_bind, ends_ask]
  split
  · rename_i actor hp
    split
    · rename_i target ht
      split
      · split
        · simp
        · rename_i howner
          split
          · simp
          · rename_i hold
            split
            · simp
            · rename_i hnew
              simp only [ends_bind, ends_write, ends_commit, ends_pure]
              exact Or.inr (.role_changed organization_id member_id role actor target hp ht howner
                (by simpa using hold) (by simpa using hnew))
      · simp
    · simp
  · simp

theorem remove_member_leaves (organization_id member_id : UUID) :
    Leaves e user (.remove_member organization_id member_id)
      (remove_member organization_id member_id user) := by
  intro s
  unfold remove_member
  simp only [ends_bind, ends_ask]
  split
  · rename_i actor hp
    split
    · rename_i target ht
      split
      · simp
      · rename_i hself
        split
        · simp
        · rename_i hold
          simp only [ends_bind, ends_write, ends_commit]
          exact Or.inr (.member_removed organization_id member_id actor target hp ht hself
            (by simpa using hold))
    · simp
  · simp

theorem create_service_leaves (payload : ServiceCreate) :
    Leaves e user (.create_service payload) (create_service e payload user) := by
  intro s
  unfold create_service insertService
  simp only [ends_bind, ends_ask]
  split
  · rename_i actor hp
    simp only [ends_attempt, ends_flush]
    by_cases ht : (new_service e payload).storable = true
    · cases hs : slugTaken (new_service e payload) s with
      | true => simp [ht, isIntegrityError]
      | false =>
        simp only [ht, Bool.false_eq_true, if_false, if_true, ends_bind, ends_write,
          ends_commit, ends_pure]
        exact Or.inr (.service_created payload actor hp hs ht)
    · simp [ht, isIntegrityError]
  · simp

theorem update_service_leaves (service_id : UUID) (payload : ServiceUpdate) :
    Leaves e user (.update_service service_id payload)
      (update_service e service_id payload user) := by
  intro s
  unfold update_service updateServiceRow
  simp only [ends_bind, ends_ask]
  split
  · rename_i service hv
    split
    · rename_i actor hp
      split
      · rename_i name hn
        split
        · simp
        · simp
        · rename_i changed hc
          simp only [ends_bind, ends_attempt, ends_flush]
          by_cases ht : changed.storable = true
          · cases hs : slugTaken changed s with
            | true => simp [ht, isIntegrityError]
            | false =>
              simp only [ht, Bool.false_eq_true, if_false, if_true, ends_bind, ends_commit,
                ends_pure]
              exact Or.inr (.service_updated service_id payload service changed actor name hv hp hn
                hc hs ht)
          · simp [ht, isIntegrityError]
      · simp
    · simp
  · simp

theorem delete_service_leaves (service_id : UUID) :
    Leaves e user (.delete_service service_id) (delete_service service_id user) := by
  intro s
  unfold delete_service
  simp only [ends_bind, ends_ask]
  split
  · rename_i service hv
    split
    · rename_i actor hp
      simp only [ends_write, ends_commit]
      exact Or.inr (.service_deleted service_id service actor hv hp)
    · simp
  · simp

theorem create_service_api_key_leaves (service_id : UUID) (payload : ApiKeyCreate) :
    Leaves e user (.create_service_api_key service_id payload)
      (create_service_api_key e service_id payload user) := by
  intro s
  unfold create_service_api_key issue_api_key insertApiKey
  simp only [ends_bind, ends_ask]
  split
  · rename_i service hv
    split
    · rename_i actor hp
      simp only [ends_flush]
      by_cases ht : Platform.storable_text (new_api_key e service payload).name = true
      · simp only [ht, if_true, ends_write, ends_commit, ends_pure]
        exact Or.inr (.key_created service_id payload service actor hv hp ht)
      · simp [ht]
    · simp
  · simp

theorem revoke_api_key_leaves (api_key_id : UUID) :
    Leaves e user (.revoke_api_key api_key_id) (revoke_api_key e api_key_id user) := by
  intro s
  unfold revoke_api_key
  simp only [ends_bind, ends_ask]
  split
  · rename_i api_key hk
    split
    · rename_i actor hp
      split
      · rename_i hlive
        simp only [ends_bind, ends_write, ends_commit]
        exact Or.inr (.key_revoked api_key_id api_key actor hk hp (by simpa using hlive))
      · simp
    · simp
  · simp

theorem rotate_api_key_leaves (api_key_id : UUID) :
    Leaves e user (.rotate_api_key api_key_id) (rotate_api_key e api_key_id user) := by
  intro s
  unfold rotate_api_key issue_api_key insertApiKey
  simp only [ends_bind, ends_ask]
  split
  · rename_i old_key hk
    split
    · rename_i actor hp
      split
      · simp
      · rename_i hlive
        split
        · simp
        · simp only [ends_bind, ends_ask]
          split
          · rename_i service hv
            simp only [ends_write]
            split
            · rename_i payload hc
              simp only [ends_flush]
              by_cases ht : Platform.storable_text (new_api_key e service payload).name = true
              · simp only [ht, if_true, ends_commit, ends_pure]
                exact Or.inr (.key_rotated api_key_id old_key service actor payload hk hp
                  (by simpa using hlive) hv hc ht)
              · simp [ht]
            · simp
          · simp
    · simp
  · simp

theorem acknowledge_incident_leaves (incident_id : UUID) :
    Leaves e user (.acknowledge_incident incident_id) (acknowledge_incident e incident_id user) := by
  intro s
  unfold acknowledge_incident
  simp only [ends_bind, ends_ask]
  split
  · rename_i incident hi
    split
    · rename_i actor hp
      split
      · simp
      · split
        · rename_i hopen
          simp only [ends_bind, ends_write, ends_commit, ends_pure]
          exact Or.inr (.acknowledged incident_id incident actor hi hp hopen)
        · simp
    · simp
  · simp

theorem resolve_incident_leaves (incident_id : UUID) :
    Leaves e user (.resolve_incident incident_id) (resolve_incident e incident_id user) := by
  intro s
  unfold resolve_incident
  simp only [ends_bind, ends_ask]
  split
  · rename_i incident hi
    split
    · rename_i actor hp
      split
      · rename_i hopen
        simp only [ends_bind, ends_write, ends_commit, ends_pure]
        exact Or.inr (.resolved incident_id incident actor hi hp hopen)
      · simp
    · simp
  · simp

/-- A handler that commits nothing. -/
def ReadsOnly {α : Type} (h : Handler α) : Prop :=
  ∀ s, Ends h ⟨s, s⟩ fun _ s' => s'.committed = s

theorem ReadsOnly.leaves {α : Type} {h : Handler α} {r : TenantRequest} (hr : ReadsOnly h) :
    Leaves e user r h :=
  fun s => (hr s).mono fun _ _ heq => Or.inl heq

omit [Platform] in
/-- The reads of the rows of an organization, after a check of the role. -/
theorem readsOnly_permission {α : Type} (p : Permission) (o u : UUID)
    (k : OrganizationMember → Handler α) (hk : ∀ m, ReadsOnly (k m)) :
    ReadsOnly (ask (require_permission p o u) >>= k) := by
  intro s
  simp only [ends_bind, ends_ask]
  split
  · exact hk _ s
  · trivial

omit [Platform] in
/-- The reads of one row, after a check that its organization has the user. -/
theorem readsOnly_resource {α β : Type} [TenantTable β] (id u : UUID) (k : β → Handler α)
    (hk : ∀ b, ReadsOnly (k b)) :
    ReadsOnly (ask (get_tenant_resource_or_404 β id u) >>= k) := by
  intro s
  simp only [ends_bind, ends_ask]
  split
  · exact hk _ s
  · trivial

omit [Platform] in
theorem readsOnly_select {α β : Type} (q : Store → β) (f : β → α) :
    ReadsOnly (select q >>= fun b => (pure (f b) : Handler α)) := by
  intro s
  simp only [ends_bind, ends_select, ends_pure]

omit [Platform] in
theorem readsOnly_ask {α : Type} (q : Store → Except Failure α) : ReadsOnly (ask q : Handler α) :=
  fun _ => (ends_ask _ q _).mpr rfl

omit [Platform] in
theorem readsOnly_all {α : Type} (q : Store → α) : ReadsOnly (select q : Handler α) :=
  fun _ => (ends_select _ q _).mpr rfl

omit [Platform] in
theorem readsOnly_pure {α : Type} (a : α) : ReadsOnly (pure a : Handler α) := fun _ => rfl

theorem Leaves.answer {α : Type} {h : Handler α} {r : TenantRequest} (body : α → Body)
    (hl : Leaves e user r h) : Leaves e user r (answer body h) := by
  intro s
  rw [ends_answer]
  exact hl s

/-- A request for a tenant's resources leaves the store, or one of its writes. -/
theorem tenant_handler_leaves (r : TenantRequest) : Leaves e user r (tenant_handler e user r) := by
  cases r <;> apply Leaves.answer
  case create_organization payload => exact create_organization_leaves e user payload
  case list_organizations => exact (readsOnly_select _ _).leaves e user
  case list_members o =>
    exact (readsOnly_permission _ _ _ _ fun _ => readsOnly_ask _).leaves e user
  case add_member o payload => exact add_member_leaves e user o payload
  case update_member_role o m role => exact update_member_role_leaves e user o m role
  case remove_member o m => exact remove_member_leaves e user o m
  case create_service payload => exact create_service_leaves e user payload
  case list_services o => exact (readsOnly_permission _ _ _ _ fun _ => readsOnly_all _).leaves e user
  case get_service v =>
    exact (readsOnly_resource _ _ _ fun _ => readsOnly_permission _ _ _ _ fun _ =>
      readsOnly_pure _).leaves e user
  case update_service v payload => exact update_service_leaves e user v payload
  case delete_service v => exact delete_service_leaves e user v
  case create_service_api_key v payload => exact create_service_api_key_leaves e user v payload
  case list_service_api_keys v =>
    exact (readsOnly_resource _ _ _ fun _ => readsOnly_permission _ _ _ _ fun _ =>
      readsOnly_select _ _).leaves e user
  case revoke_api_key k => exact revoke_api_key_leaves e user k
  case rotate_api_key k => exact rotate_api_key_leaves e user k
  case list_events o v level limit offset =>
    exact (readsOnly_permission _ _ _ _ fun _ => readsOnly_select _ _).leaves e user
  case get_event v =>
    exact (readsOnly_resource _ _ _ fun _ => readsOnly_permission _ _ _ _ fun _ =>
      readsOnly_pure _).leaves e user
  case list_incidents o status limit =>
    exact (readsOnly_permission _ _ _ _ fun _ => readsOnly_select _ _).leaves e user
  case get_incident i =>
    exact (readsOnly_resource _ _ _ fun _ => readsOnly_permission _ _ _ _ fun _ =>
      readsOnly_pure _).leaves e user
  case acknowledge_incident i => exact acknowledge_incident_leaves e user i
  case resolve_incident i => exact resolve_incident_leaves e user i
  case list_audit_logs o limit offset =>
    exact (readsOnly_permission _ _ _ _ fun _ => readsOnly_select _ _).leaves e user

end

/-! ## Ingestion -/

/-- The store with the new event of an ingest, and with its key marked as used. -/
def storeEvent (e : Env) (payload : EventCreate) (api_key : ApiKey) (s : Store) : Store :=
  touchApiKey api_key.id (e.clock 1) { s with events := s.events ++ [new_event e payload api_key] }

/-- The store after an event was attached to an active incident. -/
def attached (e : Env) (incident : Incident) (event : Event) (s : Store) : Store :=
  let s' := if isLinked incident.id event.id s then s else addLinks [⟨incident.id, event.id⟩] s
  if event.level = .CRITICAL ∧ incident.severity ≠ .SEV_1 then
    updateIncident incident.id (raiseSeverity e.now) s'
  else s'

omit [Platform] in
/-- An attached event adds at most its link and may raise the severity of its incident. -/
theorem attached_eq (e : Env) (incident : Incident) (event : Event) (s : Store) :
    ∃ links rows, (∀ l ∈ links, l = ⟨incident.id, event.id⟩) ∧
      (rows = s.incidents ∨
        rows = updateWhere (fun i => i.id = incident.id) (raiseSeverity e.now) s.incidents) ∧
      attached e incident event s =
        { s with incidents := rows, incident_events := s.incident_events ++ links } := by
  have hlinked : ∃ links : List IncidentEvent, (∀ l ∈ links, l = ⟨incident.id, event.id⟩) ∧
      (if isLinked incident.id event.id s then s else addLinks [⟨incident.id, event.id⟩] s) =
        { s with incident_events := s.incident_events ++ links } := by
    split
    · exact ⟨[], nofun, by simp⟩
    · exact ⟨[⟨incident.id, event.id⟩], fun l hl => List.mem_singleton.mp hl, rfl⟩
  obtain ⟨links, hlinks, heq⟩ := hlinked
  simp only [attached, heq]
  split
  · exact ⟨links, _, hlinks, Or.inr rfl, rfl⟩
  · exact ⟨links, _, hlinks, Or.inl rfl, rfl⟩

/-- The store after an event opened an incident, with the events of its window. -/
def opened (e : Env) (event : Event) (window_start : DateTime) (s : Store) : Store :=
  addLinks ((matchingEvents event window_start s).map fun v => ⟨e.uuid 1, v.id⟩)
    { s with incidents := s.incidents ++ [new_incident e event] }

/-- What the evaluation of a new event leaves, from a session that holds the event. -/
inductive Evaluated (e : Env) (event : Event) (s : Store) : Except Failure (Option UUID) → Store → Prop
  | early (error : Failure) (hlevel : event.level.failing = true)
      (hactive : find_active_incident event s = none)
      (hw : event.occurred_at.minus_seconds INCIDENT_WINDOW_SECONDS = none) :
      Evaluated e event s (.error error) s
  | quiet (h : event.level.failing = false ∨ find_active_incident event s = none ∧
        ∃ w, event.occurred_at.minus_seconds INCIDENT_WINDOW_SECONDS = some w ∧
          (matchingEvents event w s).length < INCIDENT_THRESHOLD) :
      Evaluated e event s (.ok none) s
  | attached (incident : Incident) (hlevel : event.level.failing = true)
      (hactive : find_active_incident event s = some incident) :
      Evaluated e event s (.ok (some incident.id)) (attached e incident event s)
  | opened (w : DateTime) (hlevel : event.level.failing = true)
      (hactive : find_active_incident event s = none)
      (hw : event.occurred_at.minus_seconds INCIDENT_WINDOW_SECONDS = some w)
      (hcount : INCIDENT_THRESHOLD ≤ (matchingEvents event w s).length) :
      Evaluated e event s (.ok (some (e.uuid 1))) (opened e event w s)

omit [Platform] in
/-- The evaluation of an event writes incidents and links. -/
theorem Evaluated.store_eq {e : Env} {event : Event} {s s' : Store}
    {reply : Except Failure (Option UUID)} (h : Evaluated e event s reply s') :
    ∃ incidents links, s' = { s with incidents := incidents, incident_events := links } := by
  cases h with
  | attached incident =>
    obtain ⟨links, rows, _, _, heq⟩ := attached_eq e incident event s
    exact ⟨_, _, heq⟩
  | _ => exact ⟨_, _, rfl⟩

/-- The answer of an ingest, and the store that it leaves, with the checks that it passed. -/
inductive IngestOutcome (e : Env) (payload : EventCreate) (api_key : ApiKey) (s : Store) :
    Except Failure EventIngestResponse → Store → Prop
  | limited (error : Failure) (hlimit : e.retry_after.isSome = true) :
      IngestOutcome e payload api_key s (.error error) s
  | duplicate (existing : Event) (incident_id : Option UUID) (hlimit : e.retry_after = none)
      (hv : findEvent api_key.service_id (strip payload.event_id) s = some existing) :
      IngestOutcome e payload api_key s (.ok ⟨existing.response, true, incident_id⟩)
        (touchApiKey api_key.id (e.clock 1) s)
  | unstorable (error : Failure) (hlimit : e.retry_after = none)
      (hv : findEvent api_key.service_id (strip payload.event_id) s = none)
      (hs : (new_event e payload api_key).storable = false) :
      IngestOutcome e payload api_key s (.error error) s
  | failed (error : Failure) (hlimit : e.retry_after = none)
      (hv : findEvent api_key.service_id (strip payload.event_id) s = none)
      (hs : (new_event e payload api_key).storable = true) (s' : Store)
      (he : Evaluated e (new_event e payload api_key) (storeEvent e payload api_key s)
        (.error error) s') :
      IngestOutcome e payload api_key s (.error error) s
  | stored (incident_id : Option UUID) (s' : Store) (hlimit : e.retry_after = none)
      (hv : findEvent api_key.service_id (strip payload.event_id) s = none)
      (hs : (new_event e payload api_key).storable = true)
      (he : Evaluated e (new_event e payload api_key) (storeEvent e payload api_key s)
        (.ok incident_id) s') :
      IngestOutcome e payload api_key s
        (.ok ⟨(new_event e payload api_key).response, false, incident_id⟩) s'

omit [Platform] in
/-- Without an active incident, the new one meets no constraint. -/
theorem insertIncident_ok {e : Env} {event : Event} {s : Store}
    (h : find_active_incident event s = none) :
    insertIncident (new_incident e event) s =
      .ok { s with incidents := s.incidents ++ [new_incident e event] } := by
  have hany : (s.incidents.any fun i => i.service_id = event.service_id &&
      i.fingerprint = event.fingerprint && i.status.active) = false := by
    rw [List.any_eq_false]
    intro i hi
    exact List.find?_eq_none.mp h i hi
  unfold insertIncident new_incident
  simp only [hany, Bool.and_false, Bool.false_eq_true, if_false]

omit [Platform] in
theorem attach_to_active_ends {e : Env} {incident : Incident} {event : Event} {s : Session Store} :
    Ends (attach_to_active e incident event) s fun r s' =>
      s' = { s with work := attached e incident event s.work } ∧
        ∃ i : Incident, r = .ok i ∧ i.id = incident.id := by
  unfold attach_to_active link_event_if_needed attached
  simp only [ends_bind, ends_select]
  cases isLinked incident.id event.id s.work <;>
    simp only [Bool.false_eq_true, if_false, if_true, ends_pure, ends_write]
  all_goals
    split
    · simp only [ends_bind, ends_write, ends_pure, true_and]
      exact ⟨_, rfl, rfl⟩
    · simp only [ends_pure, true_and]
      exact ⟨_, rfl, rfl⟩

omit [Platform] in
theorem evaluate_evaluated (e : Env) (event : Event) (s : Session Store) :
    Ends (evaluate_event_for_incident e event) s fun r s' =>
      s'.committed = s.committed ∧
        Evaluated e event s.work (r.map fun o => o.map Incident.id) s'.work := by
  unfold evaluate_event_for_incident
  by_cases hlevel : event.level.failing = true
  · simp only [hlevel, Bool.not_true, Bool.false_eq_true, if_false, ends_bind, ends_select]
    cases hactive : find_active_incident event s.work with
    | some incident =>
      simp only [ends_bind]
      refine attach_to_active_ends.mono ?_
      rintro _ _ ⟨rfl, i, rfl, hid⟩
      refine ⟨rfl, ?_⟩
      show Evaluated e event s.work (.ok (some i.id)) _
      rw [hid]
      exact .attached incident hlevel hactive
    | none =>
      simp only [ends_bind, ends_ask]
      unfold windowStart
      cases hw : event.occurred_at.minus_seconds INCIDENT_WINDOW_SECONDS with
      | none => exact ⟨trivial, .early _ hlevel hactive hw⟩
      | some w =>
        simp only [ends_select]
        split
        · rename_i hcount
          exact ⟨rfl, .quiet (Or.inr ⟨hactive, w, hw, hcount⟩)⟩
        · rename_i hcount
          simp only [ends_bind, ends_attempt, ends_flush, insertIncident_ok hactive, if_true,
            ends_select, ends_write, ends_pure]
          exact ⟨trivial, .opened w hlevel hactive hw (by omega)⟩
  · simp only [hlevel]
    exact ⟨rfl, .quiet (Or.inl (by simpa using hlevel))⟩

theorem ingest_outcome (e : Env) (payload : EventCreate) (api_key : ApiKey) (s : Store) :
    Ends (ingest_event e payload api_key) ⟨s, s⟩ fun r s' =>
      IngestOutcome e payload api_key s r s'.committed := by
  unfold ingest_event
  simp only [ends_bind, ends_check_rate_limit]
  cases hl : e.retry_after with
  | some seconds => exact .limited _ (by simp [hl])
  | none =>
    simp only [ends_select]
    cases hv : findEvent api_key.service_id (strip payload.event_id) s with
    | some existing =>
      simp only [answer_duplicate, ends_bind, ends_write, ends_commit, ends_select, ends_pure]
      exact .duplicate existing _ hl hv
    | none =>
      simp only [ends_attempt, ends_bind, ends_flush, insertEvent]
      by_cases hs : (new_event e payload api_key).storable = true
      · have hnew : (findEvent (new_event e payload api_key).service_id
            (new_event e payload api_key).event_id s).isSome = false := by
          show (findEvent api_key.service_id (strip payload.event_id) s).isSome = false
          rw [hv]
          rfl
        simp only [hs, hnew, if_true, Bool.false_eq_true, if_false, Except.map, ends_bind]
        refine (evaluate_evaluated e (new_event e payload api_key) _).mono ?_
        rintro (error | incident) s' ⟨hcommitted, he⟩
        · show IngestOutcome e payload api_key s (.error error) s'.committed
          rw [hcommitted]
          exact .failed error hl hv hs _ he
        · simp only [ends_commit, ends_pure]
          exact .stored _ _ hl hv hs he
      · simp only [hs, Bool.false_eq_true, if_false, Except.map, isIntegrityError]
        exact .unstorable _ hl hv (by simpa using hs)

/-! ## The whole request -/

/-- A tenant request ends in an error of its sign-in check, or in its handler. -/
theorem tenant_outcome (e : Env) (credentials : Option Bearer) (r : TenantRequest) (s : Store) :
    (handle e (.tenant credentials r) s).2 = s ∨
      ∃ user, get_current_user credentials e.now s = .ok user ∧
        TenantWrite e user s r (handle e (.tenant credentials r) s).2 := by
  refine ends_runRequest (Q := fun _ t => t = s ∨ ∃ user, get_current_user credentials e.now s = .ok user ∧
    TenantWrite e user s r t) ?_
  show Ends (ask (get_current_user credentials e.now) >>= fun user => tenant_handler e user r) ⟨s, s⟩ _
  simp only [ends_bind, ends_ask]
  cases hu : get_current_user credentials e.now s with
  | error _ => exact Or.inl trivial
  | ok user =>
    refine (tenant_handler_leaves e user r s).mono ?_
    rintro _ _ (h | h)
    · exact Or.inl h
    · exact Or.inr ⟨user, rfl, h⟩

/-- A key that is not accepted is the end of an ingest. -/
theorem ingest_refused {e : Env} {s : Store} {credentials : Option Bearer} (payload : EventCreate)
    {failure : Failure} (hk : get_ingestion_api_key credentials e.now s = .error failure) :
    handle e (.ingest credentials payload) s = (.error failure, s) := by
  have h : Ends (handler e (.ingest credentials payload)) ⟨s, s⟩
      fun r s' => r = .error failure ∧ s'.committed = s := by
    show Ends (ask _ >>= _) _ _
    simp only [ends_bind, ends_ask, hk, true_and]
  exact Prod.ext h.1 h.2

theorem ingest_served {e : Env} {s : Store} {credentials : Option Bearer} (payload : EventCreate)
    {k : ApiKey} (hk : get_ingestion_api_key credentials e.now s = .ok k) :
    ∃ reply, (handle e (.ingest credentials payload) s).1 = reply.map .ingested ∧
      IngestOutcome e payload k s reply (handle e (.ingest credentials payload) s).2 := by
  refine ends_runRequest (Q := fun r t => ∃ reply, r = Except.map Body.ingested reply ∧
    IngestOutcome e payload k s reply t) ?_
  show Ends (ask (get_ingestion_api_key credentials e.now) >>= fun k =>
    answer .ingested (ingest_event e payload k)) ⟨s, s⟩ _
  simp only [ends_bind, ends_ask, hk, ends_answer]
  exact (ingest_outcome e payload k s).mono fun r _ h => ⟨r, rfl, h⟩

/-- An ingest request ends in an error of its key check, or in its handler. -/
theorem ingest_request_outcome (e : Env) (credentials : Option Bearer) (payload : EventCreate)
    (s : Store) :
    (∃ error, handle e (.ingest credentials payload) s = (.error error, s)) ∨
      ∃ api_key reply, get_ingestion_api_key credentials e.now s = .ok api_key ∧
        (handle e (.ingest credentials payload) s).1 = reply.map .ingested ∧
        IngestOutcome e payload api_key s reply (handle e (.ingest credentials payload) s).2 := by
  cases hk : get_ingestion_api_key credentials e.now s with
  | error error => exact Or.inl ⟨error, ingest_refused payload hk⟩
  | ok api_key =>
    obtain ⟨reply, hreply, hout⟩ := ingest_served payload hk
    exact Or.inr ⟨api_key, reply, rfl, hreply, hout⟩

/-- What every outcome of the three kinds of requests has, the store after a request has. -/
theorem served_cases {e : Env} {s : Store} {P : Request → Store → Prop} (hsame : ∀ r, P r s)
    (hauth : ∀ r reply s', AuthOutcome e s r reply s' → P (.auth r) s')
    (htenant : ∀ credentials user r s', get_current_user credentials e.now s = .ok user →
      TenantWrite e user s r s' → P (.tenant credentials r) s')
    (hingest : ∀ credentials payload k reply s', get_ingestion_api_key credentials e.now s = .ok k →
      IngestOutcome e payload k s reply s' → P (.ingest credentials payload) s')
    (r : Request) : P r (handle e r s).2 := by
  cases r with
  | auth r => exact hauth r _ _ (auth_outcome e r s)
  | tenant credentials r =>
    rcases tenant_outcome e credentials r s with heq | ⟨user, hu, hw⟩
    · rw [heq]
      exact hsame _
    · exact htenant credentials user r _ hu hw
  | ingest credentials payload =>
    rcases ingest_request_outcome e credentials payload s with ⟨_, heq⟩ | ⟨k, reply, hk, _, ho⟩
    · rw [heq]
      exact hsame _
    · exact hingest credentials payload k reply _ hk ho

end pulseforge

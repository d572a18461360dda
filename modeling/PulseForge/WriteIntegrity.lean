-- The frame of every request: a bearer request changes rows of organizations
-- in which its user has the permission, of the user, or of the organization
-- that it creates; an ingest changes rows of the service of its key.
import PulseForge.Consistency

open txn table

namespace pulseforge

/-! ## Rows and their owners -/

inductive Row
  | user (r : User)
  | refresh_token (r : RefreshToken)
  | password_reset_token (r : PasswordResetToken)
  | organization (r : Organization)
  | organization_member (r : OrganizationMember)
  | service (r : Service)
  | api_key (r : ApiKey)
  | event (r : Event)
  | incident (r : Incident)
  | incident_event (r : IncidentEvent)
  | audit_log (r : AuditLog)

/-- The row was inserted, deleted or updated: it is in one of the two stores only. -/
def Touched (s s' : Store) : Row → Prop
  | .user r => Differs s.users s'.users r
  | .refresh_token r => Differs s.refresh_tokens s'.refresh_tokens r
  | .password_reset_token r => Differs s.password_reset_tokens s'.password_reset_tokens r
  | .organization r => Differs s.organizations s'.organizations r
  | .organization_member r => Differs s.organization_members s'.organization_members r
  | .service r => Differs s.services s'.services r
  | .api_key r => Differs s.api_keys s'.api_keys r
  | .event r => Differs s.events s'.events r
  | .incident r => Differs s.incidents s'.incidents r
  | .incident_event r => Differs s.incident_events s'.incident_events r
  | .audit_log r => Differs s.audit_logs s'.audit_logs r

theorem not_touched_self (s : Store) (row : Row) : ¬ Touched s s row := by
  cases row <;> exact not_differs_self _ _

/-- The row belongs to the organization; a link belongs to that of its incident. -/
def Belongs (s : Store) (organization_id : UUID) : Row → Prop
  | .organization r => r.id = organization_id
  | .organization_member r => r.organization_id = organization_id
  | .service r => r.organization_id = organization_id
  | .api_key r => r.organization_id = organization_id
  | .event r => r.organization_id = organization_id
  | .incident r => r.organization_id = organization_id
  | .incident_event r =>
    ∃ i ∈ s.incidents, i.id = r.incident_id ∧ i.organization_id = organization_id
  | .audit_log r => r.organization_id = some organization_id
  | _ => False

/-- The row is of the service; a link is of that of its incident. -/
def RowOfService (s : Store) (service_id : UUID) : Row → Prop
  | .api_key r => r.service_id = service_id
  | .event r => r.service_id = service_id
  | .incident r => r.service_id = service_id
  | .incident_event r => ∃ i ∈ s.incidents, i.id = r.incident_id ∧ i.service_id = service_id
  | _ => False

/-- The permission that a request needs in the organization that it writes to. -/
def TenantRequest.permission : TenantRequest → Option Permission
  | .add_member .. | .update_member_role .. | .remove_member .. => some .MEMBER_MANAGE
  | .create_service .. => some .SERVICE_CREATE
  | .update_service .. => some .SERVICE_UPDATE
  | .delete_service .. => some .SERVICE_DELETE
  | .create_service_api_key .. | .revoke_api_key .. | .rotate_api_key .. => some .API_KEY_MANAGE
  | .acknowledge_incident .. => some .INCIDENT_ACKNOWLEDGE
  | .resolve_incident .. => some .INCIDENT_RESOLVE
  | _ => none

variable [Platform]

/-- The user is a member of the organization with a role that grants the
permission of the request. -/
def Grants (s : Store) (user_id organization_id : UUID) : Request → Prop
  | .tenant _ r => ∃ m ∈ s.organization_members, m.organization_id = organization_id ∧
      m.user_id = user_id ∧ ∃ p, r.permission = some p ∧ p ∈ permissions_for_role m.role
  | _ => False

/-- The request creates an organization, with the first id that it draws. -/
def Creates (e : Env) (organization_id : UUID) : Request → Prop
  | .tenant _ (.create_organization _) => organization_id = e.uuid 0
  | _ => False

/-- The row is the user's own account or session. -/
def OwnRow (user_id : UUID) : Row → Prop
  | .user r => r.id = user_id
  | .refresh_token r => r.user_id = user_id
  | _ => False

/-- The row records that the user changed the own password. -/
def PasswordAudit (user_id : UUID) : Row → Prop
  | .audit_log r => r.action = .PASSWORD_CHANGED ∧ r.actor_user_id = some user_id ∧
      r.resource_id = some user_id
  | _ => False

/-- A request of the user may touch the row. -/
def Permitted (e : Env) (s : Store) (user_id : UUID) (r : Request) (row : Row) : Prop :=
  (∃ o, Belongs s o row ∧ (Grants s user_id o r ∨ Creates e o r)) ∨ OwnRow user_id row ∨
    (∃ c payload, r = .auth (.change_password c payload)) ∧ PasswordAudit user_id row

/-- The credentials of a request with a bearer token of a user. -/
def Request.bearer : Request → Option (Option Bearer)
  | .auth (.change_password credentials _) => some credentials
  | .auth (.logout_all credentials) => some credentials
  | .auth (.list_sessions credentials) => some credentials
  | .auth (.revoke_session credentials _) => some credentials
  | .auth (.get_me credentials) => some credentials
  | .tenant credentials _ => some credentials
  | _ => none

/-! ## The ids of members, keys and sessions are unique -/

structure Keyed (s : Store) : Prop where
  member_ids : UniqueOn OrganizationMember.id s.organization_members
  key_ids : UniqueOn ApiKey.id s.api_keys
  session_ids : UniqueOn RefreshToken.id s.refresh_tokens

omit [Platform] in
theorem id_of_revokeKey {key_id : UUID} {now : Int} {s : Store} {k : ApiKey}
    (hk : k ∈ (revokeKey key_id now s).api_keys) : ∃ row ∈ s.api_keys, row.id = k.id := by
  obtain ⟨row, hrow, rfl⟩ := mem_updateWhere.mp hk
  refine ⟨row, hrow, ?_⟩
  split <;> rfl

omit [Platform] in
theorem Fresh.member {e : Env} {s : Store} (h : Fresh e s) (k : Nat) :
    ∀ m ∈ s.organization_members, m.id ≠ e.uuid k := by
  refine h.of_ids (fun id hid => ?_) k
  simp only [Store.ids, List.mem_append]
  tauto

omit [Platform] in
theorem Fresh.api_key {e : Env} {s : Store} (h : Fresh e s) (k : Nat) :
    ∀ a ∈ s.api_keys, a.id ≠ e.uuid k := by
  refine h.of_ids (fun id hid => ?_) k
  simp only [Store.ids, List.mem_append]
  tauto

omit [Platform] in
theorem Fresh.session {e : Env} {s : Store} (h : Fresh e s) (k : Nat) :
    ∀ a ∈ s.refresh_tokens, a.id ≠ e.uuid k := by
  refine h.of_ids (fun id hid => ?_) k
  simp only [Store.ids, List.mem_append]
  tauto

/-- The sessions after a request: some rows changed, and a new one may be there. -/
theorem auth_sessions_keyed {s s' : Store} (h : UniqueOn RefreshToken.id s.refresh_tokens) {e : Env}
    (hf : Fresh e s) {r : AuthRequest} {reply : Except Failure Body}
    (hs' : AuthOutcome e s r reply s') : UniqueOn RefreshToken.id s'.refresh_tokens := by
  cases hs' with
  | signed_in payload user => exact h.insert (hf.session 0)
  | refresh_replayed => exact h.update fun _ _ _ => rfl
  | refresh_ended => exact h.update fun _ _ _ => rfl
  | refreshed raw row user =>
    have hrotated : UniqueOn RefreshToken.id (rotateSessionRow row.id (e.clock 1) s).refresh_tokens :=
      h.update fun _ _ _ => rfl
    exact hrotated.insert (forall_updateWhere (hf.session 0) fun r hr _ => hf.session 0 r hr)
  | logged_out => exact h.update fun _ _ _ => rfl
  | password_changed => exact h.update fun _ _ _ => rfl
  | password_reset => exact h.update fun _ _ _ => rfl
  | logged_out_all => exact h.update fun _ _ _ => rfl
  | revoked => exact h.update fun _ _ _ => rfl
  | _ => exact h

theorem auth_keyed {s s' : Store} (h : Keyed s) {e : Env} (hf : Fresh e s) {r : AuthRequest}
    {reply : Except Failure Body} (hs' : AuthOutcome e s r reply s') : Keyed s' := by
  refine ⟨?_, ?_, auth_sessions_keyed h.session_ids hf hs'⟩
  · cases hs' <;> exact h.member_ids
  · cases hs' <;> exact h.key_ids

omit [Platform] in
theorem Keyed.congr {s t : Store} (h : Keyed s)
    (hm : t.organization_members = s.organization_members) (hk : t.api_keys = s.api_keys)
    (hr : t.refresh_tokens = s.refresh_tokens) : Keyed t :=
  ⟨hm ▸ h.member_ids, hk ▸ h.key_ids, hr ▸ h.session_ids⟩

theorem tenant_keyed {s s' : Store} (h : Keyed s) {e : Env} (hf : Fresh e s) {user : User}
    {r : TenantRequest} (hs' : TenantWrite e user s r s') : Keyed s' := by
  cases hs' with
  | organization_created => exact { h with member_ids := h.member_ids.insert (hf.member 1) }
  | member_added => exact { h with member_ids := h.member_ids.insert (hf.member 0) }
  | role_changed => exact { h with member_ids := h.member_ids.update fun _ _ _ => rfl }
  | member_removed => exact { h with member_ids := h.member_ids.filter _ }
  | service_created => exact h.congr rfl rfl rfl
  | service_updated => exact h.congr rfl rfl rfl
  | service_deleted => exact { h with key_ids := h.key_ids.filter _ }
  | key_created => exact { h with key_ids := h.key_ids.insert (hf.api_key 0) }
  | key_revoked => exact { h with key_ids := h.key_ids.update fun _ _ _ => rfl }
  | key_rotated _ old_key =>
    have hrevoked : UniqueOn ApiKey.id (revokeKey old_key.id (e.clock 2) s).api_keys :=
      h.key_ids.update fun _ _ _ => rfl
    refine { h with key_ids := hrevoked.insert ?_ }
    exact forall_updateWhere (hf.api_key 0) fun k hk _ => hf.api_key 0 k hk
  | acknowledged => exact h.congr rfl rfl rfl
  | resolved => exact h.congr rfl rfl rfl

theorem ingest_keyed {s s' : Store} (h : Keyed s) {e : Env} {payload : EventCreate} {k : ApiKey}
    {reply : Except Failure EventIngestResponse} (hs' : IngestOutcome e payload k s reply s') :
    Keyed s' := by
  have htouch : Keyed (touchApiKey k.id (e.clock 1) s) :=
    { h with key_ids := h.key_ids.update fun _ _ _ => rfl }
  have hstored : Keyed (storeEvent e payload k s) := htouch.congr rfl rfl rfl
  cases hs' with
  | limited => exact h
  | duplicate => exact htouch
  | unstorable => exact h
  | failed => exact h
  | stored _ _ _ _ _ he =>
    obtain ⟨_, _, rfl⟩ := he.store_eq
    exact hstored.congr rfl rfl rfl

theorem serve_keyed {s : Store} (h : Keyed s) {e : Env} (hf : Fresh e s) (r : Request) :
    Keyed (handle e r s).2 := by
  apply served_cases (P := fun _ t => Keyed t)
  · exact fun _ => h
  · exact fun _ _ _ ho => auth_keyed h hf ho
  · exact fun _ _ _ _ _ hw => tenant_keyed h hf hw
  · exact fun _ _ _ _ _ _ ho => ingest_keyed h ho

theorem reachable_keyed {s : Store} (h : Reachable s) : Keyed s := by
  refine h.inv ?_ fun _ _ r _ hf hs => serve_keyed hs hf r
  constructor <;> simp [Store.empty]

/-! ## The rows that a tenant request touches -/

omit [Platform] in
/-- A row of a service carries the organization of the service. -/
theorem OfService.organization {s : Store} (hc : Consistent s) {service : Service}
    (hmem : service ∈ s.services) {organization_id : UUID} (h : OfService s service.id organization_id) :
    service.organization_id = organization_id := by
  obtain ⟨v, hv, hid, horg⟩ := h
  rw [hc.service_ids.eq hmem hv hid.symm]
  exact horg

omit [Platform] in
theorem grants_of {s : Store} {u o : UUID} {p : Permission} {m : OrganizationMember}
    {c : Option Bearer} {r : TenantRequest} (hp : require_permission p o u s = .ok m)
    (hr : r.permission = some p) : Grants s u o (.tenant c r) := by
  obtain ⟨hm, ho, hu, hin⟩ := permission_of_ok hp
  exact ⟨m, hm, ho, hu, p, hr, hin⟩

section
variable {s : Store} (hc : Consistent s)
include hc

omit [Platform] in
/-- What a deleted service takes with it is of the organization of the service. -/
theorem deleted_belongs {service : Service} (hmem : service ∈ s.services) {row : Row}
    (h : Touched s (deleteService service.id s) row) : Belongs s service.organization_id row := by
  cases row with
  | service r =>
    obtain ⟨hr, hid⟩ := Differs.of_filter h
    have hid : r.id = service.id := by simpa using hid
    rw [hc.service_ids.eq hmem hr hid.symm]
    rfl
  | api_key r =>
    obtain ⟨hr, hid⟩ := Differs.of_filter h
    have hid : r.service_id = service.id := by simpa using hid
    exact (OfService.organization hc hmem (hid ▸ hc.keys r hr)).symm
  | event r =>
    obtain ⟨hr, hid⟩ := Differs.of_filter h
    have hid : r.service_id = service.id := by simpa using hid
    exact (OfService.organization hc hmem (hid ▸ hc.events r hr)).symm
  | incident r =>
    obtain ⟨hr, hid⟩ := Differs.of_filter h
    have hid : r.service_id = service.id := by simpa using hid
    exact (OfService.organization hc hmem (hid ▸ hc.incidents r hr)).symm
  | incident_event l =>
    obtain ⟨hl, hgone⟩ := Differs.of_filter h
    obtain ⟨i, hi, v, hv, hil, hvl, hsame, _⟩ := hc.links l hl
    have hid : i.service_id = service.id := by
      simp only [Bool.and_eq_false_iff, Bool.not_eq_false', List.any_eq_true, Bool.and_eq_true,
        decide_eq_true_eq] at hgone
      rcases hgone with ⟨j, hj, hjl, hjs⟩ | ⟨w, hw, hwl, hws⟩
      · rw [hc.incident_ids.eq hi hj (hil.trans hjl.symm)]
        exact hjs
      · rw [hsame, hc.event_ids.eq hv hw (hvl.trans hwl.symm)]
        exact hws
    exact ⟨i, hi, hil, (OfService.organization hc hmem (hid ▸ hc.incidents i hi)).symm⟩
  | _ => exact absurd h (not_differs_self _ _)

omit [Platform] in
/-- The update of an incident by its id touches that incident only. -/
theorem updated_incident_belongs {incident : Incident} (hmem : incident ∈ s.incidents)
    (f : Incident → Incident) (horg : ∀ i, (f i).organization_id = i.organization_id)
    {a : AuditLog} (ha : a.organization_id = some incident.organization_id) {row : Row}
    (h : Touched s (addAudit a (updateIncident incident.id f s)) row) :
    Belongs s incident.organization_id row := by
  cases row with
  | incident r =>
    rcases Differs.of_update_one hc.incident_ids hmem h (by simp) with rfl | rfl
    · rfl
    · exact horg incident
  | audit_log r =>
    rw [Differs.of_insert h]
    exact ha
  | _ => exact absurd h (not_differs_self _ _)

theorem tenant_touched (hk : Keyed s) {s' : Store} {e : Env} {user : User} {r : TenantRequest}
    (hw : TenantWrite e user s r s') (c : Option Bearer) {row : Row} (h : Touched s s' row) :
    ∃ o, Belongs s o row ∧ (Grants s user.id o (.tenant c r) ∨ Creates e o (.tenant c r)) := by
  cases hw with
  | organization_created payload =>
    refine ⟨e.uuid 0, ?_, Or.inr rfl⟩
    cases row with
    | organization r => rw [Differs.of_insert h]; rfl
    | organization_member r => rw [Differs.of_insert h]; rfl
    | audit_log r => rw [Differs.of_insert h]; rfl
    | _ => exact absurd h (not_differs_self _ _)
  | member_added organization_id payload actor target hp =>
    refine ⟨organization_id, ?_, Or.inl (grants_of hp rfl)⟩
    cases row with
    | organization_member r => rw [Differs.of_insert h]; rfl
    | _ => exact absurd h (not_differs_self _ _)
  | role_changed organization_id member_id role actor target hp ht =>
    refine ⟨organization_id, ?_, Or.inl (grants_of hp rfl)⟩
    obtain ⟨htm, hto⟩ := target_of_ok ht
    cases row with
    | organization_member r =>
      rcases Differs.of_update_one hk.member_ids htm h (by simp) with rfl | rfl <;> exact hto
    | audit_log r => rw [Differs.of_insert h]; rfl
    | _ => exact absurd h (not_differs_self _ _)
  | member_removed organization_id member_id actor target hp ht =>
    refine ⟨organization_id, ?_, Or.inl (grants_of hp rfl)⟩
    obtain ⟨htm, hto⟩ := target_of_ok ht
    cases row with
    | organization_member r =>
      obtain ⟨hr, hid⟩ := Differs.of_filter h
      have hsame : r = target := hk.member_ids.eq hr htm (by simpa using hid)
      rw [hsame]
      exact hto
    | _ => exact absurd h (not_differs_self _ _)
  | service_created payload actor hp =>
    refine ⟨payload.organization_id, ?_, Or.inl (grants_of hp rfl)⟩
    cases row with
    | service r => rw [Differs.of_insert h]; rfl
    | audit_log r => rw [Differs.of_insert h]; rfl
    | _ => exact absurd h (not_differs_self _ _)
  | service_updated service_id payload service changed actor name hv hp hn hc' =>
    refine ⟨service.organization_id, ?_, Or.inl (grants_of hp rfl)⟩
    obtain ⟨hmem, _, _⟩ := resource_of_ok hv
    obtain ⟨hid', horg⟩ := changed_service_keys hc'
    cases row with
    | service r =>
      rcases Differs.of_update_one hc.service_ids hmem h (by simp [hid']) with rfl | rfl
      · rfl
      · exact horg
    | _ => exact absurd h (not_differs_self _ _)
  | service_deleted service_id service actor hv hp =>
    obtain ⟨hmem, _, _⟩ := resource_of_ok hv
    exact ⟨service.organization_id, deleted_belongs hc hmem h, Or.inl (grants_of hp rfl)⟩
  | key_created service_id payload service actor hv hp =>
    refine ⟨service.organization_id, ?_, Or.inl (grants_of hp rfl)⟩
    cases row with
    | api_key r => rw [Differs.of_insert h]; rfl
    | audit_log r => rw [Differs.of_insert h]; rfl
    | _ => exact absurd h (not_differs_self _ _)
  | key_revoked api_key_id api_key actor hk' hp =>
    refine ⟨api_key.organization_id, ?_, Or.inl (grants_of hp rfl)⟩
    obtain ⟨hmem, _, _⟩ := resource_of_ok hk'
    cases row with
    | api_key r =>
      rcases Differs.of_update_one hk.key_ids hmem h (by simp) with rfl | rfl <;> rfl
    | audit_log r => rw [Differs.of_insert h]; rfl
    | _ => exact absurd h (not_differs_self _ _)
  | key_rotated api_key_id old_key service actor payload hk' hp hlive hv =>
    refine ⟨old_key.organization_id, ?_, Or.inl (grants_of hp rfl)⟩
    obtain ⟨hmem, _, _⟩ := resource_of_ok hk'
    obtain ⟨hvm, hvid, _⟩ := resource_of_ok hv
    have hvid : service.id = old_key.service_id := hvid
    have horg : service.organization_id = old_key.organization_id :=
      OfService.organization hc hvm (hvid ▸ hc.keys old_key hmem)
    cases row with
    | api_key r =>
      rcases Differs.trans (m := (revokeKey old_key.id (e.clock 2) s).api_keys) h with h | h
      · rcases Differs.of_update_one hk.key_ids hmem h (by simp) with rfl | rfl <;> rfl
      · rw [Differs.of_insert h]
        exact horg
    | audit_log r =>
      rw [Differs.of_insert h]
      exact congrArg some horg
    | _ => exact absurd h (not_differs_self _ _)
  | acknowledged incident_id incident actor hi hp =>
    obtain ⟨hmem, _, _⟩ := resource_of_ok hi
    exact ⟨incident.organization_id, updated_incident_belongs hc hmem
      (pulseforge.acknowledged user.id (e.clock 1) e.now) (fun _ => rfl) rfl h, Or.inl (grants_of hp rfl)⟩
  | resolved incident_id incident actor hi hp =>
    obtain ⟨hmem, _, _⟩ := resource_of_ok hi
    exact ⟨incident.organization_id, updated_incident_belongs hc hmem
      (pulseforge.resolved user.id (e.clock 1) e.now incident.assigned_to.isNone) (fun _ => rfl) rfl h,
      Or.inl (grants_of hp rfl)⟩

end

/-! ## The rows that the other requests touch -/

theorem passwordAudits_about {e : Env} {user_id : UUID} {s : Store} {a : AuditLog}
    (h : a ∈ passwordAudits e user_id s) : PasswordAudit user_id (.audit_log a) := by
  obtain ⟨k, hk, rfl⟩ := List.mem_mapIdx.mp h
  exact ⟨rfl, rfl, rfl⟩

omit [Platform] in
/-- The bulk revocation of a user touches sessions of that user only. -/
theorem revoked_sessions_own {s : Store} {user_id : UUID} {now : Int} {r : RefreshToken}
    (h : Differs s.refresh_tokens (revoke_user_sessions user_id now s).refresh_tokens r) :
    r.user_id = user_id := by
  obtain ⟨r₀, _, hp, heq⟩ := Differs.of_update h
  simp only [Bool.and_eq_true, decide_eq_true_eq] at hp
  rcases heq with rfl | rfl <;> exact hp.1

theorem auth_touched {s s' : Store} (hk : Keyed s) {e : Env} {r : AuthRequest}
    {reply : Except Failure Body} (ho : AuthOutcome e s r reply s') {c : Option Bearer}
    (hb : (Request.auth r).bearer = some c) {row : Row} (h : Touched s s' row) :
    ∃ user, get_current_user c e.now s = .ok user ∧ (OwnRow user.id row ∨
      (∃ c payload, Request.auth r = .auth (.change_password c payload)) ∧
        PasswordAudit user.id row) := by
  cases ho with
  | password_changed credentials payload user hu =>
    cases hb
    refine ⟨user, hu, ?_⟩
    cases row with
    | user a =>
      obtain ⟨a₀, _, hp, heq⟩ := Differs.of_update h
      have hp : a₀.id = user.id := by simpa using hp
      rcases heq with rfl | rfl <;> exact Or.inl hp
    | refresh_token a => exact Or.inl (revoked_sessions_own h)
    | audit_log a =>
      exact Or.inr ⟨⟨_, payload, rfl⟩, passwordAudits_about (Differs.of_append h)⟩
    | _ => exact absurd h (not_differs_self _ _)
  | logged_out_all credentials user hu =>
    cases hb
    refine ⟨user, hu, Or.inl ?_⟩
    cases row with
    | refresh_token a => exact revoked_sessions_own h
    | _ => exact absurd h (not_differs_self _ _)
  | revoked credentials session_id user stored hu hr =>
    cases hb
    refine ⟨user, hu, Or.inl ?_⟩
    obtain ⟨hm, _, huser⟩ := session_of_some hr
    cases row with
    | refresh_token a =>
      rcases Differs.of_update_one hk.session_ids hm h (by simp) with rfl | rfl <;> exact huser
    | _ => exact absurd h (not_differs_self _ _)
  | password_refused => exact absurd h (not_touched_self s row)
  | logout_all_refused => exact absurd h (not_touched_self s row)
  | list_refused => exact absurd h (not_touched_self s row)
  | listed => exact absurd h (not_touched_self s row)
  | revoke_refused => exact absurd h (not_touched_self s row)
  | revoke_nothing => exact absurd h (not_touched_self s row)
  | me_refused => exact absurd h (not_touched_self s row)
  | me => exact absurd h (not_touched_self s row)
  | _ => cases hb

omit [Platform] in
theorem Touched.trans {s t u : Store} {row : Row} (h : Touched s u row) :
    Touched s t row ∨ Touched t u row := by
  cases row <;> exact Differs.trans h

omit [Platform] in
/-- A key that an ingest marks as used is of its own service. -/
theorem touched_key {s : Store} (hk : Keyed s) {k : ApiKey} (hm : k ∈ s.api_keys) {now : Int}
    {r : ApiKey} (h : Differs s.api_keys (touchApiKey k.id now s).api_keys r) :
    r.service_id = k.service_id := by
  rcases Differs.of_update_one hk.key_ids hm h (by simp) with rfl | rfl <;> rfl

theorem stored_touched {s : Store} (hk : Keyed s) {e : Env} (payload : EventCreate) {k : ApiKey}
    (hm : k ∈ s.api_keys) {t : Store} {row : Row} (h : Touched s (storeEvent e payload k s) row) :
    RowOfService t k.service_id row := by
  cases row with
  | event r => rw [Differs.of_insert h]; rfl
  | api_key r => exact touched_key hk hm h
  | _ => exact absurd h (not_differs_self _ _)

omit [Platform] in
/-- An event that joins an active incident touches that incident and its link. -/
theorem attached_touched {s : Store} (hc : Consistent s) {e : Env} {event : Event}
    {incident : Incident} (hi : find_active_incident event s = some incident) {row : Row}
    (h : Touched s (attached e incident event s) row) :
    RowOfService (attached e incident event s) event.service_id row := by
  obtain ⟨him, hservice, _, _⟩ := activeIncident_of_some hi
  obtain ⟨links, rows, hlinks, hrows, heq⟩ := attached_eq e incident event s
  rw [heq] at h ⊢
  cases row with
  | incident r =>
    rcases hrows with rfl | rfl
    · exact absurd h (not_differs_self _ _)
    · rcases Differs.of_update_one hc.incident_ids him h (by simp) with rfl | rfl <;> exact hservice
  | incident_event l =>
    rw [hlinks l (Differs.of_append h)]
    rcases hrows with rfl | rfl
    · exact ⟨incident, him, rfl, hservice⟩
    · exact ⟨_, mem_updateWhere_of him (by simp), rfl, hservice⟩
  | _ => exact absurd h (not_differs_self _ _)

omit [Platform] in
theorem opened_touched {s : Store} {e : Env} {event : Event} {w : DateTime} {row : Row}
    (h : Touched s (opened e event w s) row) :
    RowOfService (opened e event w s) event.service_id row := by
  cases row with
  | incident r => rw [Differs.of_insert h]; rfl
  | incident_event l =>
    obtain ⟨v, _, rfl⟩ := List.mem_map.mp (Differs.of_append h)
    exact ⟨new_incident e event, List.mem_append_right _ (List.mem_singleton.mpr rfl), rfl, rfl⟩
  | _ => exact absurd h (not_differs_self _ _)

theorem ingest_touched {s s' : Store} (hc : Consistent s) (hk : Keyed s) {e : Env}
    (hf : Fresh e s) {payload : EventCreate} {k : ApiKey} (hm : k ∈ s.api_keys)
    {reply : Except Failure EventIngestResponse} (ho : IngestOutcome e payload k s reply s')
    {row : Row} (h : Touched s s' row) : RowOfService s' k.service_id row := by
  cases ho with
  | limited => exact absurd h (not_touched_self s row)
  | duplicate =>
    cases row with
    | api_key r => exact touched_key hk hm h
    | _ => exact absurd h (not_differs_self _ _)
  | unstorable => exact absurd h (not_touched_self s row)
  | failed => exact absurd h (not_touched_self s row)
  | stored _ _ _ hv _ he =>
    rcases Touched.trans (t := storeEvent e payload k s) h with h | h
    · exact stored_touched hk payload hm h
    · cases he with
      | quiet => exact absurd h (not_touched_self _ row)
      | attached _ _ hactive => exact attached_touched (hc.storeEvent hf payload hm hv) hactive h
      | opened => exact opened_touched h

/-! ## The law -/

/-- A request by bearer token touches only rows that its user may touch, and
no row of an organization where the user may not. An ingest touches only rows
of the service of its key. -/
theorem requests_write_only_where_they_may (s : Store) (h : Reachable s) (e : Env)
    (hf : Fresh e s) (r : Request) :
    (∀ credentials, r.bearer = some credentials → ∀ row, Touched s (handle e r s).2 row →
      ∃ user, get_current_user credentials e.now s = .ok user ∧ Permitted e s user.id r row) ∧
    (∀ credentials, r.bearer = some credentials → ∀ user,
      get_current_user credentials e.now s = .ok user → ∀ o, ¬ Grants s user.id o r →
        ¬ Creates e o r → ∀ row, Belongs s o row → ¬ PasswordAudit user.id row →
          ¬ Touched s (handle e r s).2 row) ∧
    (∀ credentials payload, r = .ingest credentials payload → ∀ row, Touched s (handle e r s).2 row →
      ∃ k, get_ingestion_api_key credentials e.now s = .ok k ∧
        RowOfService (handle e r s).2 k.service_id row) := by
  have hc := h.consistent
  have hk := reachable_keyed h
  have hpermitted : ∀ credentials, r.bearer = some credentials → ∀ row,
      Touched s (handle e r s).2 row →
        ∃ user, get_current_user credentials e.now s = .ok user ∧ Permitted e s user.id r row := by
    intro credentials hb row ht
    cases r with
    | auth request =>
      obtain ⟨user, hu, hown⟩ := auth_touched hk (auth_outcome e request s) hb ht
      exact ⟨user, hu, Or.inr hown⟩
    | tenant c request =>
      cases hb
      rcases tenant_outcome e credentials request s with heq | ⟨user, hu, hw⟩
      · rw [heq] at ht
        exact absurd ht (not_touched_self s row)
      · exact ⟨user, hu, Or.inl (tenant_touched hc hk hw credentials ht)⟩
    | ingest c payload => cases hb
  refine ⟨hpermitted, ?_, ?_⟩
  · intro credentials hb user hu o hgrants hcreates row hrow hnoaudit ht
    obtain ⟨user', hu', hp⟩ := hpermitted credentials hb row ht
    rw [hu] at hu'
    cases hu'
    rcases hp with ⟨o', hrow', hallowed⟩ | hown | ⟨_, haudit⟩
    · have hsame : o' = o := by
        cases row with
        | incident_event l =>
          obtain ⟨i, hi, hil, hio⟩ := hrow
          obtain ⟨j, hj, hjl, hjo⟩ := hrow'
          rw [← hio, ← hjo, hc.incident_ids.eq hi hj (hil.trans hjl.symm)]
        | audit_log a => exact Option.some.inj (hrow'.symm.trans hrow)
        | user a => exact absurd hrow id
        | refresh_token a => exact absurd hrow id
        | password_reset_token a => exact absurd hrow id
        | _ => exact hrow'.symm.trans hrow
      subst hsame
      exact hallowed.elim hgrants hcreates
    · cases row with
      | user a => exact hrow
      | refresh_token a => exact hrow
      | _ => exact hown
    · exact hnoaudit haudit
  · rintro credentials payload rfl row ht
    rcases ingest_request_outcome e credentials payload s with ⟨_, heq⟩ | ⟨k, _, hkey, _, ho⟩
    · rw [heq] at ht
      exact absurd ht (not_touched_self s row)
    · exact ⟨k, hkey, ingest_touched hc hk hf (api_key_of_ok hkey) ho ht⟩

omit [Platform] in
/-- The owner of the sample run deletes the service: its incident goes too, and
the owner may touch it. -/
theorem a_deleted_service_takes_its_own_incident :
    let s := run.after (@serve samplePlatform) Store.empty sampleRun
    let r := Request.tenant (sampleBearer 0 1) (.delete_service 30)
    ∃ i ∈ s.incidents, Touched s (@handle samplePlatform (sampleEnv 10) r s).2 (.incident i) ∧
      ∃ user, get_current_user (sampleBearer 0 1) (sampleEnv 10).now s = .ok user ∧
        Permitted (sampleEnv 10) s user.id r (.incident i) := by
  intro s r
  have hlength : 0 < s.incidents.length := by decide +kernel
  have hgone : (@handle samplePlatform (sampleEnv 10) r s).2.incidents = [] := by decide +kernel
  obtain ⟨i, hi⟩ := List.exists_mem_of_length_pos hlength
  have htouched : Touched s (@handle samplePlatform (sampleEnv 10) r s).2 (.incident i) :=
    Or.inl ⟨hi, by rw [hgone]; exact List.not_mem_nil⟩
  exact ⟨i, hi, htouched, (@requests_write_only_where_they_may samplePlatform s sample_reachable
    (sampleEnv 10) (sample_fresh 10 s (by decide +kernel)) r).1 _ rfl _ htouched⟩

end pulseforge

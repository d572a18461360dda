-- The share of one organization: its rows, beside the accounts, as a store of their
-- own. Every query for the organization finds the same there, and every write for it
-- does the same.
import Mathlib.Data.List.Find
import PulseForge.Controls

open txn table

namespace pulseforge

/-! ## The share of an organization -/

/-- The link is one of an incident of the organization. -/
def linkOf (o : UUID) (s : Store) (l : IncidentEvent) : Bool :=
  s.incidents.any fun i => i.id = l.incident_id && i.organization_id = o

/-- The store `t` holds the accounts and sessions of `s`, and of the tenants' rows
those of the organization. Audit rows of no organization are left aside. -/
structure Share (o : UUID) (s t : Store) : Prop where
  users : t.users = s.users
  refresh_tokens : t.refresh_tokens = s.refresh_tokens
  password_reset_tokens : t.password_reset_tokens = s.password_reset_tokens
  organizations : t.organizations = s.organizations.filter fun r => r.id = o
  organization_members : t.organization_members =
    s.organization_members.filter fun r => r.organization_id = o
  services : t.services = s.services.filter fun r => r.organization_id = o
  api_keys : t.api_keys = s.api_keys.filter fun r => r.organization_id = o
  events : t.events = s.events.filter fun r => r.organization_id = o
  incidents : t.incidents = s.incidents.filter fun r => r.organization_id = o
  incident_events : t.incident_events = s.incident_events.filter (linkOf o s)
  audit_logs : (t.audit_logs.filter fun a => a.organization_id = some o) =
    s.audit_logs.filter fun a => a.organization_id = some o

/-- The rows of the organization that meet a condition. -/
theorem share_rows {α : Type} {rows rows' : List α} {org : α → UUID} {o : UUID} {p : α → Bool}
    (hrows : rows' = rows.filter fun r => org r = o) (hp : ∀ r ∈ rows, p r = true → org r = o) :
    rows.filter p = rows'.filter p := by
  rw [hrows, filter_filter_of_imp]
  exact fun r hr hpr => decide_eq_true (hp r hr hpr)

section
variable {o : UUID} {s t : Store} (h : Share o s t)
include h

/-! ## Queries -/

theorem Share.membership (u : UUID) : findMembership s o u = findMembership t o u := by
  unfold findMembership
  rw [h.organization_members, find?_filter_of_imp]
  intro m _ hm
  simp only [Bool.and_eq_true] at hm
  exact hm.1

theorem Share.member (u : UUID) : isMember s o u = isMember t o u := by
  rw [isMember_eq, isMember_eq, h.membership]

theorem Share.permission (p : Permission) (u : UUID) :
    require_permission p o u s = require_permission p o u t := by
  unfold require_permission get_membership_or_404
  rw [h.membership]

/-- A row of the organization is found by its id. -/
theorem Share.resource {α : Type} [TenantTable α] {u : UUID} {row : α}
    (hrows : TenantTable.rows t = (TenantTable.rows s).filter fun r : α =>
      TenantTable.organization_id r = o)
    (hids : UniqueOn (TenantTable.id : α → UUID) (TenantTable.rows s))
    (hrow : row ∈ TenantTable.rows s) (ho : TenantTable.organization_id row = o) :
    get_tenant_resource_or_404 α (TenantTable.id row) u s =
      get_tenant_resource_or_404 α (TenantTable.id row) u t := by
  have horg : ∀ r : α, r ∈ TenantTable.rows s → TenantTable.id r = TenantTable.id row →
      TenantTable.organization_id r = o := by
    intro r hr hid
    rw [hids.eq hr hrow hid]
    exact ho
  have hfind : findTenantResource α (TenantTable.id row) u s =
      findTenantResource α (TenantTable.id row) u t := by
    unfold findTenantResource
    rw [hrows, ← find?_filter_of_imp (q := fun r : α => TenantTable.organization_id r = o)
      (TenantTable.rows s)]
    · refine List.find?_congr fun r hr => ?_
      have ho : TenantTable.organization_id r = o := of_decide_eq_true (List.mem_filter.mp hr).2
      rw [ho, h.member]
    · intro r hr hp
      simp only [Bool.and_eq_true, decide_eq_true_eq] at hp
      exact decide_eq_true (horg r hr hp.1)
  unfold get_tenant_resource_or_404
  rw [hfind]

theorem Share.target (member_id : UUID) :
    get_target_member o member_id s = get_target_member o member_id t := by
  unfold get_target_member
  rw [h.organization_members, find?_filter_of_imp]
  intro m _ hm
  simp only [Bool.and_eq_true] at hm
  exact hm.1

theorem Share.user (u : UUID) : tokenUser u s = tokenUser u t := by
  unfold tokenUser findUser
  rw [h.users]

theorem Share.members : membersOf o s = membersOf o t := by
  unfold membersOf
  rw [h.organization_members, List.filter_filter]
  simp only [Bool.and_self, h.user]

theorem Share.slug {v : Service} (hv : v.organization_id = o) : slugTaken v s = slugTaken v t := by
  unfold slugTaken
  rw [h.services, any_filter_of_imp]
  intro w _ hw
  simp only [Bool.and_eq_true, decide_eq_true_eq] at hw
  exact decide_eq_true (hw.1.2.trans hv)

theorem Share.current_user (credentials : Option Bearer) (now : Int) :
    get_current_user credentials now s = get_current_user credentials now t := by
  unfold get_current_user sessionOpen findSession findUser
  rw [h.users, h.refresh_tokens]

end

/-! ## Writes for the organization -/

section
variable {o : UUID} {s t : Store} (h : Share o s t)
include h

theorem Share.addAudit (row : AuditLog) :
    Share o (pulseforge.addAudit row s) (pulseforge.addAudit row t) := by
  refine { h with audit_logs := ?_ }
  show (t.audit_logs ++ [row]).filter _ = (s.audit_logs ++ [row]).filter _
  rw [List.filter_append, h.audit_logs, ← List.filter_append]

theorem Share.addOrganization {row : Organization} (hrow : row.id = o) :
    Share o { s with organizations := s.organizations ++ [row] }
      { t with organizations := t.organizations ++ [row] } := by
  refine { h with organizations := ?_ }
  show t.organizations ++ [row] = (s.organizations ++ [row]).filter _
  rw [filter_insert_in (by simpa using hrow), h.organizations]

theorem Share.addMember {row : OrganizationMember} (hrow : row.organization_id = o) :
    Share o (pulseforge.addMember row s) (pulseforge.addMember row t) := by
  refine { h with organization_members := ?_ }
  show t.organization_members ++ [row] = (s.organization_members ++ [row]).filter _
  rw [filter_insert_in (by simpa using hrow), h.organization_members]

theorem Share.updateMember (member_id : UUID) {f : OrganizationMember → OrganizationMember}
    (hf : ∀ m, (f m).organization_id = m.organization_id) :
    Share o (pulseforge.updateMember member_id f s) (pulseforge.updateMember member_id f t) := by
  refine { h with organization_members := ?_ }
  show updateWhere _ _ t.organization_members = (updateWhere _ _ s.organization_members).filter _
  rw [filter_updateWhere_comm fun r _ _ => by rw [hf], h.organization_members]

theorem Share.deleteMember (member_id : UUID) :
    Share o (pulseforge.deleteMember member_id s) (pulseforge.deleteMember member_id t) := by
  refine { h with organization_members := ?_ }
  show t.organization_members.filter _ = (s.organization_members.filter _).filter _
  rw [h.organization_members, List.filter_comm]

theorem Share.addService {row : Service} (hrow : row.organization_id = o) :
    Share o { s with services := s.services ++ [row] } { t with services := t.services ++ [row] } := by
  refine { h with services := ?_ }
  show t.services ++ [row] = (s.services ++ [row]).filter _
  rw [filter_insert_in (by simpa using hrow), h.services]

theorem Share.updateService {changed : Service} (hrow : changed.organization_id = o)
    (hsame : ∀ v ∈ s.services, v.id = changed.id → v.organization_id = o) :
    Share o { s with services := updateWhere (fun v => v.id = changed.id) (fun _ => changed) s.services }
      { t with services := updateWhere (fun v => v.id = changed.id) (fun _ => changed) t.services } := by
  refine { h with services := ?_ }
  show updateWhere _ _ t.services = (updateWhere _ _ s.services).filter _
  rw [filter_updateWhere_comm fun r hr hid => ?_, h.services]
  rw [hrow, hsame r hr (of_decide_eq_true hid)]

theorem Share.addKey {row : ApiKey} (hrow : row.organization_id = o) :
    Share o { s with api_keys := s.api_keys ++ [row] } { t with api_keys := t.api_keys ++ [row] } := by
  refine { h with api_keys := ?_ }
  show t.api_keys ++ [row] = (s.api_keys ++ [row]).filter _
  rw [filter_insert_in (by simpa using hrow), h.api_keys]

theorem Share.updateKeys (p : ApiKey → Bool) {f : ApiKey → ApiKey}
    (hf : ∀ k, (f k).organization_id = k.organization_id) :
    Share o { s with api_keys := updateWhere p f s.api_keys }
      { t with api_keys := updateWhere p f t.api_keys } := by
  refine { h with api_keys := ?_ }
  show updateWhere _ _ t.api_keys = (updateWhere _ _ s.api_keys).filter _
  rw [filter_updateWhere_comm fun r _ _ => by rw [hf], h.api_keys]

theorem Share.revokeKey (key_id : UUID) (now : Int) :
    Share o (pulseforge.revokeKey key_id now s) (pulseforge.revokeKey key_id now t) :=
  h.updateKeys _ fun _ => rfl

theorem Share.touchApiKey (key_id : UUID) (now : Int) :
    Share o (pulseforge.touchApiKey key_id now s) (pulseforge.touchApiKey key_id now t) :=
  h.updateKeys _ fun _ => rfl

theorem Share.addEvent {row : Event} (hrow : row.organization_id = o) :
    Share o { s with events := s.events ++ [row] } { t with events := t.events ++ [row] } := by
  refine { h with events := ?_ }
  show t.events ++ [row] = (s.events ++ [row]).filter _
  rw [filter_insert_in (by simpa using hrow), h.events]

theorem Share.updateIncident (incident_id : UUID) {f : Incident → Incident}
    (hid : ∀ i, (f i).id = i.id) (hf : ∀ i, (f i).organization_id = i.organization_id) :
    Share o (pulseforge.updateIncident incident_id f s) (pulseforge.updateIncident incident_id f t) := by
  refine { h with incidents := ?_, incident_events := ?_ }
  · show updateWhere _ _ t.incidents = (updateWhere _ _ s.incidents).filter _
    rw [filter_updateWhere_comm fun r _ _ => by rw [hf], h.incidents]
  · show t.incident_events = s.incident_events.filter _
    rw [h.incident_events]
    refine List.filter_congr fun l _ => ?_
    exact (any_updateWhere fun i _ _ => by rw [hid, hf]).symm

/-- A new incident, to which no link leads yet. -/
theorem Share.addIncident {row : Incident} (hrow : row.organization_id = o)
    (hnew : ∀ l ∈ s.incident_events, l.incident_id ≠ row.id) :
    Share o { s with incidents := s.incidents ++ [row] } { t with incidents := t.incidents ++ [row] } := by
  refine { h with incidents := ?_, incident_events := ?_ }
  · show t.incidents ++ [row] = (s.incidents ++ [row]).filter _
    rw [filter_insert_in (by simpa using hrow), h.incidents]
  · show t.incident_events = s.incident_events.filter _
    rw [h.incident_events]
    refine List.filter_congr fun l hl => ?_
    have hne : row.id ≠ l.incident_id := fun heq => hnew l hl heq.symm
    simp [linkOf, hne]

theorem Share.addLinks {links : List IncidentEvent} (hlinks : ∀ l ∈ links, linkOf o s l = true) :
    Share o (pulseforge.addLinks links s) (pulseforge.addLinks links t) := by
  refine { h with incident_events := ?_ }
  show t.incident_events ++ links = (s.incident_events ++ links).filter (linkOf o s)
  rw [List.filter_append, List.filter_eq_self.mpr hlinks, h.incident_events]

end

/-! ## Writes of accounts -/

section
variable {o : UUID} {s t : Store} (h : Share o s t)
include h

theorem Share.addUser (row : User) :
    Share o { s with users := s.users ++ [row] } { t with users := t.users ++ [row] } :=
  { h with users := congrArg (· ++ [row]) h.users }

theorem Share.setPassword (user_id : UUID) (password_hash : Text) (now : Int) :
    Share o (pulseforge.setPassword user_id password_hash now s)
      (pulseforge.setPassword user_id password_hash now t) :=
  { h with users := congrArg (updateWhere _ _) h.users }

theorem Share.addRefreshToken (row : RefreshToken) :
    Share o (pulseforge.addRefreshToken row s) (pulseforge.addRefreshToken row t) :=
  { h with refresh_tokens := congrArg (· ++ [row]) h.refresh_tokens }

theorem Share.revoke_sessions (user_id : UUID) (now : Int) :
    Share o (revoke_user_sessions user_id now s) (revoke_user_sessions user_id now t) :=
  { h with refresh_tokens := congrArg (updateWhere _ _) h.refresh_tokens }

theorem Share.updateSession (session_id : UUID) (f : RefreshToken → RefreshToken) :
    Share o (pulseforge.updateSession session_id f s) (pulseforge.updateSession session_id f t) :=
  { h with refresh_tokens := congrArg (updateWhere _ _) h.refresh_tokens }

theorem Share.replaceResetTokens (user_id : UUID) (now : Int) (row : PasswordResetToken) :
    Share o (pulseforge.replaceResetTokens user_id now row s)
      (pulseforge.replaceResetTokens user_id now row t) :=
  { h with password_reset_tokens := congrArg (updateWhere _ _ · ++ [row]) h.password_reset_tokens }

theorem Share.useResetToken (token_id : UUID) (now : Int) :
    Share o (pulseforge.useResetToken token_id now s) (pulseforge.useResetToken token_id now t) :=
  { h with password_reset_tokens := congrArg (updateWhere _ _) h.password_reset_tokens }

end

/-- The incident that a link is of. -/
theorem linkOf_iff {o : UUID} {s : Store} (hc : Consistent s) {l : IncidentEvent} {i : Incident}
    (hi : i ∈ s.incidents) (hil : i.id = l.incident_id) :
    linkOf o s l = true ↔ i.organization_id = o := by
  unfold linkOf
  rw [List.any_eq_true]
  constructor
  · rintro ⟨j, hj, hp⟩
    simp only [Bool.and_eq_true, decide_eq_true_eq] at hp
    rw [hc.incident_ids.eq hi hj (hil.trans hp.1.symm)]
    exact hp.2
  · intro ho
    exact ⟨i, hi, by simp [hil, ho]⟩

section
variable {o : UUID} {s t : Store} (h : Share o s t) (hc : Consistent s)
include h hc

theorem Share.deleteService (service_id : UUID) :
    Share o (pulseforge.deleteService service_id s) (pulseforge.deleteService service_id t) := by
  refine { h with services := ?_, api_keys := ?_, events := ?_, incidents := ?_, incident_events := ?_ }
  · show t.services.filter _ = (s.services.filter _).filter _
    rw [h.services, List.filter_comm]
  · show t.api_keys.filter _ = (s.api_keys.filter _).filter _
    rw [h.api_keys, List.filter_comm]
  · show t.events.filter _ = (s.events.filter _).filter _
    rw [h.events, List.filter_comm]
  · show t.incidents.filter _ = (s.incidents.filter _).filter _
    rw [h.incidents, List.filter_comm]
  · show t.incident_events.filter _ = (s.incident_events.filter _).filter _
    rw [h.incident_events, List.filter_filter, List.filter_filter]
    refine List.filter_congr fun l hl => ?_
    -- The incident and the event of a link are of one service: they stay, or go, together.
    obtain ⟨i, hi, v, hv, hil, hvl, hsame, _⟩ := hc.links l hl
    simp only [linkOf, pulseforge.deleteService, h.incidents, h.events, List.any_filter, ← hil, ← hvl,
      Bool.and_left_comm, hc.incident_ids.any_key hi, hc.event_ids.any_key hv, hsame]
    cases decide (i.organization_id = o) <;> cases decide (v.organization_id = o) <;>
      cases hgone : decide (v.service_id = service_id) <;> simp_all

/-- A row that names the service of a row of the organization is of the organization. -/
theorem Share.of_service {service_id other : UUID} (hrow : OfService s service_id o)
    (hother : OfService s service_id other) : other = o := by
  obtain ⟨v, hv, rfl, rfl⟩ := hrow
  exact (OfService.organization hc hv hother).symm

theorem Share.keys {service : Service} (hv : service ∈ s.services) (ho : service.organization_id = o) :
    keysOf service.id s = keysOf service.id t := by
  unfold keysOf
  rw [share_rows h.api_keys fun k hk hid => ?_]
  refine h.of_service hc ⟨service, hv, rfl, ho⟩ ?_
  rw [← of_decide_eq_true hid]
  exact hc.keys k hk

section
variable {event : Event} (hservice : OfService s event.service_id o)
include hservice

theorem Share.active : find_active_incident event s = find_active_incident event t := by
  unfold find_active_incident
  rw [h.incidents, find?_filter_of_imp]
  intro i hi hp
  simp only [isActiveFor, Bool.and_eq_true, decide_eq_true_eq] at hp
  exact decide_eq_true (h.of_service hc hservice (hp.1.1 ▸ hc.incidents i hi))

theorem Share.matching (w : DateTime) : matchingEvents event w s = matchingEvents event w t := by
  unfold matchingEvents
  refine share_rows h.events fun v hv hp => ?_
  simp only [inWindow, Bool.and_eq_true, decide_eq_true_eq] at hp
  exact h.of_service hc hservice (hp.1.1.1.1 ▸ hc.events v hv)

end

theorem Share.stored {service_id : UUID} (hservice : OfService s service_id o) (event_id : Text) :
    findEvent service_id event_id s = findEvent service_id event_id t := by
  unfold findEvent
  rw [h.events, find?_filter_of_imp]
  intro v hv hp
  simp only [Bool.and_eq_true, decide_eq_true_eq] at hp
  exact decide_eq_true (h.of_service hc hservice (hp.1 ▸ hc.events v hv))

theorem Share.linked {incident : Incident} (hi : incident ∈ s.incidents)
    (ho : incident.organization_id = o) (event_id : UUID) :
    isLinked incident.id event_id s = isLinked incident.id event_id t := by
  unfold isLinked
  rw [h.incident_events, any_filter_of_imp]
  intro l _ hp
  simp only [Bool.and_eq_true, decide_eq_true_eq] at hp
  exact (linkOf_iff hc hi hp.1.symm).mpr ho

/-- The incident of an event of the organization. -/
theorem Share.incident {event : Event} (hv : event ∈ s.events) (ho : event.organization_id = o) :
    find_incident_id event.id s = find_incident_id event.id t := by
  unfold find_incident_id
  rw [h.incident_events, find?_filter_of_imp]
  intro l hl hp
  obtain ⟨i, hi, v, hv', hil, hvl, hsame, _⟩ := hc.links l hl
  have hsame_event : v = event := hc.event_ids.eq hv' hv (hvl.trans (of_decide_eq_true hp))
  refine (linkOf_iff hc hi hil).mpr (h.of_service hc ?_ (hc.incidents i hi))
  rw [hsame, hsame_event, ← ho]
  exact hc.events event hv

end

end pulseforge

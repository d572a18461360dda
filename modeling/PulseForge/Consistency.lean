-- The laws that hold between the tables in every reachable store: a key, an
-- event and an incident carry the organization of their service, a link joins
-- rows of one service and fingerprint, and nothing points to a deleted service.
import PulseForge.Lib.Run
import PulseForge.Writes

open txn table

namespace pulseforge

/-! ## Fresh ids -/

/-- The ids that the store holds, or that its audit log names. -/
def Store.ids (s : Store) : List UUID :=
  s.users.map User.id ++ s.refresh_tokens.map RefreshToken.id ++
    s.password_reset_tokens.map PasswordResetToken.id ++ s.organizations.map Organization.id ++
    s.organization_members.map OrganizationMember.id ++ s.services.map Service.id ++
    s.api_keys.map ApiKey.id ++ s.events.map Event.id ++ s.incidents.map Incident.id ++
    s.audit_logs.map AuditLog.id ++ s.audit_logs.filterMap AuditLog.resource_id

/-- The ids that a request draws are new, as those of `uuid4` are. -/
structure Fresh (e : Env) (s : Store) : Prop where
  distinct : ∀ j k, e.uuid j = e.uuid k → j = k
  unused : ∀ k, e.uuid k ∉ s.ids

section
variable {e : Env} {s : Store} (h : Fresh e s)
include h

/-- No row whose id is among those of the store has a drawn id. -/
theorem Fresh.of_ids {α : Type} {id : α → UUID} {rows : List α} (hids : rows.map id ⊆ s.ids) (k : Nat) :
    ∀ r ∈ rows, id r ≠ e.uuid k := by
  intro r hr heq
  have hmem : id r ∈ s.ids := hids (List.mem_map_of_mem hr)
  rw [heq] at hmem
  exact h.unused k hmem

theorem Fresh.service (k : Nat) : ∀ v ∈ s.services, v.id ≠ e.uuid k := by
  refine h.of_ids (fun id hid => ?_) k
  simp only [Store.ids, List.mem_append]
  tauto

theorem Fresh.event (k : Nat) : ∀ v ∈ s.events, v.id ≠ e.uuid k := by
  refine h.of_ids (fun id hid => ?_) k
  simp only [Store.ids, List.mem_append]
  tauto

theorem Fresh.incident (k : Nat) : ∀ i ∈ s.incidents, i.id ≠ e.uuid k := by
  refine h.of_ids (fun id hid => ?_) k
  simp only [Store.ids, List.mem_append]
  tauto

end

/-- The draws of several processes are new, and apart. -/
structure FreshEnvs {ι : Type} (envs : ι → Env) (s₀ : Store) : Prop where
  fresh : ∀ i, Fresh (envs i) s₀
  apart : ∀ i j a b, (envs i).uuid a = (envs j).uuid b → i = j

/-! ## The invariant -/

/-- The service and the fingerprint that group incidents. -/
def Incident.group (i : Incident) : UUID × Text := (i.service_id, i.fingerprint)

def Incident.isActive (i : Incident) : Bool := i.status.active

/-- The row names a service that is there, and carries its organization. -/
def OfService (s : Store) (service_id organization_id : UUID) : Prop :=
  ∃ v ∈ s.services, v.id = service_id ∧ v.organization_id = organization_id

/-- The link joins an incident and a failing event of its service and fingerprint. -/
def Joins (s : Store) (l : IncidentEvent) : Prop :=
  ∃ i ∈ s.incidents, ∃ v ∈ s.events, i.id = l.incident_id ∧ v.id = l.event_id ∧
    i.service_id = v.service_id ∧ i.fingerprint = v.fingerprint ∧ v.level.failing = true

structure Consistent (s : Store) : Prop where
  service_ids : UniqueOn Service.id s.services
  event_ids : UniqueOn Event.id s.events
  incident_ids : UniqueOn Incident.id s.incidents
  keys : ∀ k ∈ s.api_keys, OfService s k.service_id k.organization_id
  events : ∀ v ∈ s.events, OfService s v.service_id v.organization_id
  incidents : ∀ i ∈ s.incidents, OfService s i.service_id i.organization_id
  links : ∀ l ∈ s.incident_events, Joins s l
  trimmed : ∀ v ∈ s.events, strip v.event_id = v.event_id
  event_keys : UniqueOn (fun v : Event => (v.service_id, strip v.event_id)) s.events
  active_groups : UniqueOn Incident.group (s.incidents.filter Incident.isActive)

/-- The invariant reads these five tables only. -/
theorem Consistent.congr {s t : Store} (h : Consistent s) (hv : t.services = s.services)
    (hk : t.api_keys = s.api_keys) (he : t.events = s.events) (hi : t.incidents = s.incidents)
    (hl : t.incident_events = s.incident_events) : Consistent t where
  service_ids := hv ▸ h.service_ids
  event_ids := he ▸ h.event_ids
  incident_ids := hi ▸ h.incident_ids
  keys := by
    intro k hk'
    rw [hk] at hk'
    unfold OfService
    rw [hv]
    exact h.keys k hk'
  events := by
    intro v hv'
    rw [he] at hv'
    unfold OfService
    rw [hv]
    exact h.events v hv'
  incidents := by
    intro i hi'
    rw [hi] at hi'
    unfold OfService
    rw [hv]
    exact h.incidents i hi'
  links := by
    intro l hl'
    rw [hl] at hl'
    unfold Joins
    rw [hi, he]
    exact h.links l hl'
  trimmed := he ▸ h.trimmed
  event_keys := he ▸ h.event_keys
  active_groups := hi ▸ h.active_groups

/-! ## Lookups -/

theorem resource_of_ok {α : Type} [TenantTable α] {id u : UUID} {s : Store} {r : α}
    (h : get_tenant_resource_or_404 α id u s = .ok r) :
    r ∈ TenantTable.rows s ∧ TenantTable.id r = id ∧
      isMember s (TenantTable.organization_id r) u = true := by
  unfold get_tenant_resource_or_404 at h
  cases hf : findTenantResource α id u s with
  | none => rw [hf] at h; cases h
  | some a =>
    rw [hf] at h
    cases h
    obtain ⟨hm, hp⟩ := find?_mem hf
    simp only [Bool.and_eq_true, decide_eq_true_eq] at hp
    exact ⟨hm, hp.1, hp.2⟩

theorem permission_of_ok {p : Permission} {o u : UUID} {s : Store} {m : OrganizationMember}
    (h : require_permission p o u s = .ok m) :
    m ∈ s.organization_members ∧ m.organization_id = o ∧ m.user_id = u ∧
      p ∈ permissions_for_role m.role := by
  unfold require_permission get_membership_or_404 at h
  cases hf : findMembership s o u with
  | none => simp [hf] at h
  | some a =>
    simp only [hf] at h
    split at h
    · cases h
      obtain ⟨hm, hp⟩ := find?_mem hf
      simp only [Bool.and_eq_true, decide_eq_true_eq] at hp
      exact ⟨hm, hp.1, hp.2, ‹_›⟩
    · cases h

theorem target_of_ok {organization_id member_id : UUID} {s : Store} {m : OrganizationMember}
    (h : get_target_member organization_id member_id s = .ok m) :
    m ∈ s.organization_members ∧ m.organization_id = organization_id := by
  unfold get_target_member at h
  split at h
  · rename_i membership hf
    cases h
    obtain ⟨hm, hp⟩ := find?_mem hf
    simp only [Bool.and_eq_true, decide_eq_true_eq] at hp
    exact ⟨hm, hp.1⟩
  · cases h

/-- What a request with a bearer token has shown. -/
theorem current_user_of_ok {credentials : Option Bearer} {now : Int} {s : Store} {user : User}
    (h : get_current_user credentials now s = .ok user) :
    ∃ token, credentials = some (.signed token) ∧ now < token.exp ∧
      findUser s token.sub = some user ∧ user.is_active = true ∧
      ∀ session_id, token.sid = some session_id → sessionOpen s session_id token.sub now = true := by
  cases credentials with
  | none => cases h
  | some bearer =>
    cases bearer with
    | text raw => cases h
    | signed token =>
      unfold get_current_user jwt_decode at h
      by_cases hexp : now < token.exp
      · simp only [hexp, if_true] at h
        cases hu : findUser s token.sub with
        | none => rw [hu] at h; cases h
        | some found =>
          simp only [hu] at h
          by_cases ha : found.is_active = true
          · simp only [ha, if_true] at h
            cases hs : token.sid with
            | none =>
              simp only [hs] at h
              cases h
              refine ⟨token, rfl, hexp, hu, ha, ?_⟩
              intro sid hsid
              rw [hs] at hsid
              cases hsid
            | some session_id =>
              simp only [hs] at h
              split at h
              · rename_i hopen
                cases h
                refine ⟨token, rfl, hexp, hu, ha, ?_⟩
                intro sid hsid
                rw [hs] at hsid
                cases hsid
                exact hopen
              · cases h
          · simp only [ha] at h
            cases h
      · simp only [hexp, if_false] at h
        cases h

theorem user_id_of_find {s : Store} {user_id : UUID} {user : User}
    (h : findUser s user_id = some user) : user.id = user_id := by
  simpa using (find?_mem h).2

theorem session_of_some {s : Store} {session_id user_id : UUID} {r : RefreshToken}
    (h : findSession s session_id user_id = some r) :
    r ∈ s.refresh_tokens ∧ r.id = session_id ∧ r.user_id = user_id := by
  obtain ⟨hm, hp⟩ := find?_mem h
  simp only [Bool.and_eq_true, decide_eq_true_eq] at hp
  exact ⟨hm, hp.1, hp.2⟩

/-! ## One lemma for each kind of write -/

section
variable {s : Store} (h : Consistent s)
include h

/-- A new service of an organization. -/
theorem Consistent.add_service {v : Service} (hid : ∀ w ∈ s.services, w.id ≠ v.id) :
    Consistent { s with services := s.services ++ [v] } := by
  have hold : ∀ {a b : UUID}, OfService s a b →
      OfService { s with services := s.services ++ [v] } a b := by
    rintro a b ⟨w, hw, hwa⟩
    exact ⟨w, List.mem_append_left _ hw, hwa⟩
  refine { h with service_ids := h.service_ids.insert hid, keys := ?_, events := ?_, incidents := ?_ }
  · intro k hk
    exact hold (h.keys k hk)
  · intro w hw
    exact hold (h.events w hw)
  · intro i hi
    exact hold (h.incidents i hi)

/-- A service whose update keeps its id and its organization. -/
theorem Consistent.update_service {service changed : Service} (hmem : service ∈ s.services)
    (hid : changed.id = service.id) (horg : changed.organization_id = service.organization_id) :
    Consistent { s with
      services := updateWhere (fun v => v.id = changed.id) (fun _ => changed) s.services } := by
  have hold : ∀ {a b : UUID}, OfService s a b → OfService { s with
      services := updateWhere (fun v => v.id = changed.id) (fun _ => changed) s.services } a b := by
    rintro a b ⟨w, hw, hwa, hwb⟩
    by_cases heq : w.id = changed.id
    · have hsame : w = service := h.service_ids.eq hw hmem (heq.trans hid)
      subst hsame
      exact ⟨changed, mem_updateWhere_of (f := fun _ => changed) hw (by simp [heq]),
        hid.trans hwa, horg.trans hwb⟩
    · exact ⟨w, mem_updateWhere_of_not hw (by simp [heq]), hwa, hwb⟩
  refine { h with service_ids := ?_, keys := ?_, events := ?_, incidents := ?_ }
  · refine h.service_ids.update fun r _ hr => ?_
    simp only [decide_eq_true_eq] at hr
    exact hr.symm
  · intro k hk
    exact hold (h.keys k hk)
  · intro w hw
    exact hold (h.events w hw)
  · intro i hi
    exact hold (h.incidents i hi)

/-- A deleted service takes with it everything that names it. -/
theorem Consistent.delete_service (service_id : UUID) : Consistent (deleteService service_id s) := by
  have hold : ∀ {a b : UUID}, a ≠ service_id → OfService s a b →
      OfService (deleteService service_id s) a b := by
    rintro a b ha ⟨w, hw, hwa, hwb⟩
    refine ⟨w, List.mem_filter.mpr ⟨hw, ?_⟩, hwa, hwb⟩
    simp [hwa, ha]
  constructor
  · exact h.service_ids.filter _
  · exact h.event_ids.filter _
  · exact h.incident_ids.filter _
  · intro k hk
    obtain ⟨hk, hne⟩ := List.mem_filter.mp hk
    exact hold (by simpa using hne) (h.keys k hk)
  · intro v hv
    obtain ⟨hv, hne⟩ := List.mem_filter.mp hv
    exact hold (by simpa using hne) (h.events v hv)
  · intro i hi
    obtain ⟨hi, hne⟩ := List.mem_filter.mp hi
    exact hold (by simpa using hne) (h.incidents i hi)
  · intro l hl
    obtain ⟨hl, hkept⟩ := List.mem_filter.mp hl
    obtain ⟨i, hi, v, hv, hil, hvl, hsame, hfp, hlevel⟩ := h.links l hl
    simp only [Bool.and_eq_true, Bool.not_eq_true', List.any_eq_false, decide_eq_true_eq,
      Bool.and_eq_true, not_and] at hkept
    have hne : i.service_id ≠ service_id := hkept.1 i hi hil
    exact ⟨i, List.mem_filter.mpr ⟨hi, by simpa using hne⟩, v,
      List.mem_filter.mpr ⟨hv, by simpa [← hsame] using hne⟩, hil, hvl, hsame, hfp, hlevel⟩
  · intro v hv
    exact h.trimmed v (List.mem_filter.mp hv).1
  · exact h.event_keys.filter _
  · show UniqueOn Incident.group (List.filter _ (List.filter _ _))
    rw [List.filter_comm]
    exact h.active_groups.filter _

/-- A new key of a service that is there. -/
theorem Consistent.add_key {k : ApiKey} (hk : OfService s k.service_id k.organization_id) :
    Consistent { s with api_keys := s.api_keys ++ [k] } := by
  refine { h with keys := ?_ }
  exact forall_insert h.keys hk

/-- Keys whose update keeps their service and their organization. -/
theorem Consistent.update_keys {p : ApiKey → Bool} {f : ApiKey → ApiKey}
    (hf : ∀ k, (f k).service_id = k.service_id ∧ (f k).organization_id = k.organization_id) :
    Consistent { s with api_keys := updateWhere p f s.api_keys } := by
  refine { h with keys := forall_updateWhere h.keys fun k hk _ => ?_ }
  rw [(hf k).1, (hf k).2]
  exact h.keys k hk

/-- The update of an incident that keeps its key columns, and does not open it again. -/
theorem Consistent.update_incident (incident_id : UUID) {f : Incident → Incident}
    (hid : ∀ i, (f i).id = i.id) (hservice : ∀ i, (f i).service_id = i.service_id)
    (horg : ∀ i, (f i).organization_id = i.organization_id)
    (hfp : ∀ i, (f i).fingerprint = i.fingerprint)
    (hactive : ∀ i ∈ s.incidents, i.id = incident_id → (f i).isActive = true → i.isActive = true) :
    Consistent (updateIncident incident_id f s) := by
  refine { h with incident_ids := ?_, incidents := ?_, links := ?_, active_groups := ?_ }
  · exact h.incident_ids.update fun r _ _ => hid r
  · refine forall_updateWhere h.incidents fun i hi _ => ?_
    rw [hservice, horg]
    exact h.incidents i hi
  · intro l hl
    obtain ⟨i, hi, v, hv, hil, hvl, hsame, hsfp, hlevel⟩ := h.links l hl
    by_cases heq : i.id = incident_id
    · exact ⟨f i, mem_updateWhere_of hi (by simpa using heq), v, hv, (hid i).trans hil, hvl,
        (hservice i).trans hsame, (hfp i).trans hsfp, hlevel⟩
    · exact ⟨i, mem_updateWhere_of_not hi (by simpa using heq), v, hv, hil, hvl, hsame, hsfp, hlevel⟩
  · refine h.active_groups.update_filter fun r hr hp => ?_
    simp only [decide_eq_true_eq] at hp
    refine ⟨?_, hactive r hr hp⟩
    unfold Incident.group
    rw [hservice, hfp]

/-- New links of rows that they join. -/
theorem Consistent.add_links {links : List IncidentEvent} (hl : ∀ l ∈ links, Joins s l) :
    Consistent (addLinks links s) := by
  refine { h with links := ?_ }
  intro l hmem
  rcases List.mem_append.mp hmem with hmem | hmem
  · exact h.links l hmem
  · exact hl l hmem

/-- A new event of a service that is there. -/
theorem Consistent.add_event {v : Event} (hid : ∀ w ∈ s.events, w.id ≠ v.id)
    (hv : OfService s v.service_id v.organization_id) (ht : strip v.event_id = v.event_id)
    (hnew : findEvent v.service_id v.event_id s = none) :
    Consistent { s with events := s.events ++ [v] } := by
  refine { h with event_ids := h.event_ids.insert hid, events := ?_, links := ?_, trimmed := ?_,
                  event_keys := h.event_keys.insert ?_ }
  · exact forall_insert h.events hv
  · intro l hl
    obtain ⟨i, hi, w, hw, hrest⟩ := h.links l hl
    exact ⟨i, hi, w, List.mem_append_left _ hw, hrest⟩
  · exact forall_insert h.trimmed ht
  · intro w hw heq
    simp only [Prod.mk.injEq, h.trimmed w hw, ht] at heq
    have := List.find?_eq_none.mp hnew w hw
    simp [heq.1, heq.2] at this

/-- A new incident of a group without an active one. -/
theorem Consistent.add_incident {i : Incident} (hid : ∀ j ∈ s.incidents, j.id ≠ i.id)
    (hi : OfService s i.service_id i.organization_id)
    (hgroup : ∀ j ∈ s.incidents, j.isActive = true → j.group ≠ i.group) :
    Consistent { s with incidents := s.incidents ++ [i] } := by
  refine { h with incident_ids := h.incident_ids.insert hid, incidents := ?_, links := ?_,
                  active_groups := ?_ }
  · exact forall_insert h.incidents hi
  · intro l hl
    obtain ⟨j, hj, hrest⟩ := h.links l hl
    exact ⟨j, List.mem_append_left _ hj, hrest⟩
  · show UniqueOn Incident.group ((s.incidents ++ [i]).filter Incident.isActive)
    rw [List.filter_append]
    by_cases ha : i.isActive = true
    · rw [List.filter_cons_of_pos ha, List.filter_nil]
      refine h.active_groups.insert fun j hj => ?_
      obtain ⟨hj, hja⟩ := List.mem_filter.mp hj
      exact hgroup j hj hja
    · rw [List.filter_cons_of_neg ha, List.filter_nil, List.append_nil]
      exact h.active_groups

end

/-! ## Ingestion -/

variable [Platform]

theorem api_key_of_ok {credentials : Option Bearer} {now : Int} {s : Store} {k : ApiKey}
    (h : get_ingestion_api_key credentials now s = .ok k) : k ∈ s.api_keys := by
  unfold get_ingestion_api_key at h
  split at h
  · split at h
    · split at h
      · cases h
      · rename_i api_key hf
        split at h
        · cases h
        · split at h
          · cases h
          · split at h
            · cases h
            · split at h
              · cases h
                exact (find?_mem hf).1
              · cases h
    · cases h
  · cases h

omit [Platform] in
theorem activeIncident_of_some {event : Event} {s : Store} {i : Incident}
    (h : find_active_incident event s = some i) :
    i ∈ s.incidents ∧ i.service_id = event.service_id ∧ i.fingerprint = event.fingerprint ∧
      i.status.active = true := by
  obtain ⟨hm, hp⟩ := find?_mem h
  simp only [isActiveFor, Bool.and_eq_true, decide_eq_true_eq] at hp
  exact ⟨hm, hp.1.1, hp.1.2, hp.2⟩

omit [Platform] in
theorem no_active_of_none {event : Event} {s : Store} (h : find_active_incident event s = none) :
    ∀ j ∈ s.incidents, j.isActive = true → j.group ≠ (event.service_id, event.fingerprint) := by
  intro j hj ha heq
  have hnot := List.find?_eq_none.mp h j hj
  have ha : j.status.active = true := ha
  simp only [Incident.group, Prod.mk.injEq] at heq
  simp [isActiveFor, heq.1, heq.2, ha] at hnot

omit [Platform] in
/-- An event joins the active incident of its group. -/
theorem Consistent.attached {s : Store} (h : Consistent s) (e : Env) {event : Event}
    {incident : Incident} (hv : event ∈ s.events) (hlevel : event.level.failing = true)
    (hi : find_active_incident event s = some incident) :
    Consistent (pulseforge.attached e incident event s) := by
  obtain ⟨him, hservice, hfp, _⟩ := activeIncident_of_some hi
  obtain ⟨links, rows, hlinks, hrows, heq⟩ := attached_eq e incident event s
  have hlinked := h.add_links fun l (hl : l ∈ links) => by
    rw [hlinks l hl]
    exact ⟨incident, him, event, hv, rfl, rfl, hservice, hfp, hlevel⟩
  rw [heq]
  rcases hrows with rfl | rfl
  · exact hlinked
  · exact hlinked.update_incident _ (fun _ => rfl) (fun _ => rfl) (fun _ => rfl) (fun _ => rfl)
      fun _ _ _ ha => ha

omit [Platform] in
/-- An event opens the incident of its group, with the events of its window. -/
theorem Consistent.opened {s : Store} (h : Consistent s) {e : Env} {event : Event} (w : DateTime)
    (hid : ∀ j ∈ s.incidents, j.id ≠ e.uuid 1) (hv : event ∈ s.events)
    (hi : find_active_incident event s = none) : Consistent (pulseforge.opened e event w s) := by
  have hadd := h.add_incident (i := new_incident e event) hid (h.events event hv)
    (no_active_of_none hi)
  refine hadd.add_links fun l hl => ?_
  obtain ⟨v, hvw, rfl⟩ := List.mem_map.mp hl
  obtain ⟨hvm, hmatch⟩ := List.mem_filter.mp hvw
  simp only [inWindow, Bool.and_eq_true, decide_eq_true_eq] at hmatch
  exact ⟨new_incident e event, List.mem_append_right _ (List.mem_singleton.mpr rfl), v, hvm, rfl,
    rfl, hmatch.1.1.1.1.symm, hmatch.1.1.1.2.symm, hmatch.1.1.2⟩

/-- A new event, with its key marked as used. -/
theorem Consistent.storeEvent {s : Store} (h : Consistent s) {e : Env} (hf : Fresh e s)
    (payload : EventCreate) {k : ApiKey} (hk : k ∈ s.api_keys)
    (hv : findEvent k.service_id (strip payload.event_id) s = none) :
    Consistent (pulseforge.storeEvent e payload k s) := by
  have hadd := h.add_event (v := new_event e payload k) (hf.event 0) (h.keys k hk)
    (strip_strip payload.event_id) hv
  exact hadd.update_keys fun _ => ⟨rfl, rfl⟩

theorem ingest_consistent {s s' : Store} (h : Consistent s) {e : Env} (hf : Fresh e s)
    {payload : EventCreate} {k : ApiKey} (hk : k ∈ s.api_keys)
    {reply : Except Failure EventIngestResponse} (hs' : IngestOutcome e payload k s reply s') :
    Consistent s' := by
  cases hs' with
  | limited => exact h
  | duplicate => exact h.update_keys fun _ => ⟨rfl, rfl⟩
  | unstorable => exact h
  | failed => exact h
  | stored incident_id _ hlimit hv hs he =>
    have hstored := h.storeEvent hf payload hk hv
    have hmem : new_event e payload k ∈ (pulseforge.storeEvent e payload k s).events :=
      List.mem_append_right _ (List.mem_singleton.mpr rfl)
    cases he with
    | quiet => exact hstored
    | attached incident hlevel hactive => exact hstored.attached e hmem hlevel hactive
    | opened w hlevel hactive => exact hstored.opened w (hf.incident 1) hmem hactive

/-! ## The other requests -/

/-- A request under /auth writes none of the five tables. -/
theorem auth_consistent {s s' : Store} (h : Consistent s) {e : Env} {r : AuthRequest}
    {reply : Except Failure Body} (hs' : AuthOutcome e s r reply s') : Consistent s' := by
  cases hs' <;> exact h.congr rfl rfl rfl rfl rfl

theorem changed_service_keys {now : Int} {payload : ServiceUpdate} {name : Text}
    {service changed : Service} (h : changed_service now payload name service = .ok changed) :
    changed.id = service.id ∧ changed.organization_id = service.organization_id := by
  unfold changed_service at h
  simp only at h
  split at h
  · obtain ⟨slug, _, h⟩ := bind_ok h
    obtain ⟨environment, _, h⟩ := bind_ok h
    obtain ⟨status, _, h⟩ := bind_ok h
    obtain rfl := Except.ok.inj h
    split <;> exact ⟨rfl, rfl⟩
  · cases h

theorem tenant_consistent {s s' : Store} (h : Consistent s) {e : Env} (hf : Fresh e s)
    {user : User} {r : TenantRequest} (hs' : TenantWrite e user s r s') : Consistent s' := by
  cases hs' with
  | organization_created => exact h.congr rfl rfl rfl rfl rfl
  | member_added => exact h.congr rfl rfl rfl rfl rfl
  | role_changed => exact h.congr rfl rfl rfl rfl rfl
  | member_removed => exact h.congr rfl rfl rfl rfl rfl
  | service_created payload =>
    exact (h.add_service (v := new_service e payload) (hf.service 0)).congr rfl rfl rfl rfl rfl
  | service_updated _ payload service changed _ name hv _ _ hc =>
    obtain ⟨hmem, _, _⟩ := resource_of_ok hv
    obtain ⟨hid, horg⟩ := changed_service_keys hc
    exact h.update_service hmem hid horg
  | service_deleted _ service => exact h.delete_service service.id
  | key_created _ payload service _ hv =>
    obtain ⟨hmem, _, _⟩ := resource_of_ok hv
    exact (h.add_key (k := new_api_key e service payload) ⟨service, hmem, rfl, rfl⟩).congr
      rfl rfl rfl rfl rfl
  | key_revoked _ api_key =>
    exact (h.update_keys (p := fun k => k.id = api_key.id)
      (f := fun k => { k with revoked_at := some (e.clock 1) }) fun _ => ⟨rfl, rfl⟩).congr
      rfl rfl rfl rfl rfl
  | key_rotated _ old_key service _ payload _ _ _ hv =>
    obtain ⟨hmem, _, _⟩ := resource_of_ok hv
    have hrevoked := h.update_keys (p := fun k => k.id = old_key.id)
      (f := fun k => { k with revoked_at := some (e.clock 2) }) fun _ => ⟨rfl, rfl⟩
    exact (hrevoked.add_key (k := new_api_key e service payload) ⟨service, hmem, rfl, rfl⟩).congr
      rfl rfl rfl rfl rfl
  | acknowledged _ incident _ hi _ hopen =>
    obtain ⟨hmem, _, _⟩ := resource_of_ok hi
    refine (h.update_incident incident.id (f := acknowledged user.id (e.clock 1) e.now)
      (fun _ => rfl) (fun _ => rfl) (fun _ => rfl) (fun _ => rfl) ?_).congr rfl rfl rfl rfl rfl
    intro i hi' hid _
    have hsame : i = incident := h.incident_ids.eq hi' hmem hid
    subst hsame
    show i.status.active = true
    rw [hopen]
    rfl
  | resolved _ incident =>
    refine (h.update_incident incident.id
      (f := resolved user.id (e.clock 1) e.now incident.assigned_to.isNone)
      (fun _ => rfl) (fun _ => rfl) (fun _ => rfl) (fun _ => rfl) ?_).congr rfl rfl rfl rfl rfl
    intro _ _ _ ha
    cases ha

/-! ## Every reachable store -/

def serve (s : Store) (c : Env × Request) : Store := (handle c.1 c.2 s).2

/-- Requests that draw fresh ids lead to the store, from an empty database. -/
def Reachable (s : Store) : Prop :=
  ∃ past, run.Every serve Store.empty (fun s c => Fresh c.1 s) past ∧
    run.after serve Store.empty past = s

/-- What the empty database has, and what requests keep, every reachable store has. -/
theorem Reachable.inv {I : Store → Prop} (h0 : I Store.empty)
    (hserve : ∀ s e r, Reachable s → Fresh e s → I s → I (handle e r s).2) {s : Store}
    (h : Reachable s) : I s := by
  obtain ⟨past, hfresh, rfl⟩ := h
  induction past with
  | nil => exact h0
  | cons c past ih => exact hserve _ c.1 c.2 ⟨past, hfresh.1, rfl⟩ hfresh.2 (ih hfresh.1)

theorem Reachable.served {s : Store} (h : Reachable s) {e : Env} (hf : Fresh e s) (r : Request) :
    Reachable (handle e r s).2 := by
  obtain ⟨past, hpast, rfl⟩ := h
  exact ⟨(e, r) :: past, ⟨hpast, hf⟩, rfl⟩

theorem serve_consistent {s : Store} (h : Consistent s) {e : Env} (hf : Fresh e s) (r : Request) :
    Consistent (handle e r s).2 := by
  apply served_cases (P := fun _ t => Consistent t)
  · exact fun _ => h
  · exact fun _ _ _ ho => auth_consistent h ho
  · exact fun _ _ _ _ _ hw => tenant_consistent h hf hw
  · exact fun _ _ _ _ _ hk ho => ingest_consistent h hf (api_key_of_ok hk) ho

omit [Platform] in
theorem consistent_empty : Consistent Store.empty := by
  constructor <;> simp [Store.empty]

theorem Reachable.consistent {s : Store} (h : Reachable s) : Consistent s :=
  h.inv consistent_empty fun _ _ r _ hf hs => serve_consistent hs hf r

theorem consistent_after {past : List (Env × Request)}
    (hfresh : run.Every serve Store.empty (fun s c => Fresh c.1 s) past) :
    Consistent (run.after serve Store.empty past) :=
  Reachable.consistent ⟨past, hfresh, rfl⟩

/-- The rows of the tables agree in every store that requests lead to. -/
theorem the_tables_agree_in_every_reachable_store (s : Store) (h : Reachable s) : Consistent s :=
  h.consistent

omit [Platform] in
/-- The ids of a request of the sample run come after all ids before it. -/
theorem sample_fresh (n : Nat) (s : Store) (h : ∀ id ∈ s.ids, id < 10 * n) :
    Fresh (sampleEnv n) s where
  distinct j k heq := by
    have heq : 10 * n + j = 10 * n + k := heq
    omega
  unused k hk := by
    have hlt : 10 * n + k < 10 * n := h _ hk
    omega

/-- The store after a sample run, and whether the ids of every request came
after all ids before it. -/
def drawsInOrder : List (Env × Request) → Store × Bool
  | [] => (Store.empty, true)
  | c :: past =>
    match drawsInOrder past with
    | (s, ok) => (@serve samplePlatform s c, ok && s.ids.all fun id => id < c.1.uuid 0)

omit [Platform] in
theorem drawsInOrder_store (past : List (Env × Request)) :
    (drawsInOrder past).1 = run.after (@serve samplePlatform) Store.empty past := by
  induction past with
  | nil => rfl
  | cons c past ih =>
    rw [run.after_cons, ← ih]
    rfl

/-- Where the ids of every request come after all ids before it, they are fresh. -/
theorem fresh_of_numbers {past : List (Env × Request)} (numbers : List Nat)
    (hdraws : past.map Prod.fst = numbers.map sampleEnv)
    (h : run.Every serve Store.empty (fun s c => ∀ id ∈ s.ids, id < c.1.uuid 0) past) :
    run.Every serve Store.empty (fun s c => Fresh c.1 s) past := by
  induction past generalizing numbers with
  | nil => trivial
  | cons c past ih =>
    cases numbers with
    | nil => cases hdraws
    | cons n numbers =>
      obtain ⟨hc, hrest⟩ := List.cons.inj hdraws
      obtain ⟨hpast, hids⟩ := h
      refine ⟨ih numbers hrest hpast, ?_⟩
      show Fresh c.1 _
      rw [hc] at hids ⊢
      exact sample_fresh n _ hids

omit [Platform] in
theorem drawsInOrder_every {past : List (Env × Request)} (h : (drawsInOrder past).2 = true) :
    run.Every (@serve samplePlatform) Store.empty (fun s c => ∀ id ∈ s.ids, id < c.1.uuid 0) past := by
  induction past with
  | nil => trivial
  | cons c past ih =>
    obtain ⟨hpast, hids⟩ := Bool.and_eq_true_iff.mp h
    rw [drawsInOrder_store] at hids
    exact ⟨ih hpast, fun id hid => of_decide_eq_true (List.all_eq_true.mp hids id hid)⟩

omit [Platform] in
/-- One look along a sample run tells that its ids are fresh. -/
theorem fresh_of_drawsInOrder {past : List (Env × Request)} (numbers : List Nat)
    (hdraws : past.map Prod.fst = numbers.map sampleEnv) (h : (drawsInOrder past).2 = true) :
    run.Every (@serve samplePlatform) Store.empty (fun s c => Fresh c.1 s) past :=
  @fresh_of_numbers samplePlatform past numbers hdraws (drawsInOrder_every h)

omit [Platform] in
theorem sample_run_fresh :
    run.Every (@serve samplePlatform) Store.empty (fun s c => Fresh c.1 s) sampleRun :=
  fresh_of_drawsInOrder [9, 8, 7, 6, 5, 4, 3, 2, 1, 0] rfl (by decide +kernel)

omit [Platform] in
theorem sample_reachable :
    @Reachable samplePlatform (run.after (@serve samplePlatform) Store.empty sampleRun) :=
  ⟨sampleRun, sample_run_fresh, rfl⟩

/-- The user of the sample run. -/
def sampleMember : User := @new_user samplePlatform (sampleEnv 0) sampleUser

/-- The draws of process `i` of `n`: from 1000 on, every `n`-th id. -/
def sampleDraws (n : Nat) (i : Fin n) : Env :=
  { sampleEnv (100 + i) with uuid := fun k => 1000 + (n * k + i) }

omit [Platform] in
theorem sample_envs_fresh {n : Nat} {envs : Fin n → Env} {s₀ : Store}
    (henvs : ∀ i, envs i = sampleDraws n i) (hids : ∀ id ∈ s₀.ids, id < 1000) :
    FreshEnvs envs s₀ where
  fresh i := by
    rw [henvs i]
    constructor
    · intro j k heq
      have heq : 1000 + (n * j + i) = 1000 + (n * k + i) := heq
      have hn : 0 < n := i.pos
      have hmul : n * j = n * k := by omega
      exact Nat.eq_of_mul_eq_mul_left hn hmul
    · intro k hk
      have hlt : 1000 + (n * k + i) < 1000 := hids _ hk
      omega
  apart := by
    intro i j a b heq
    rw [henvs i, henvs j] at heq
    have heq : 1000 + (n * a + i) = 1000 + (n * b + j) := heq
    have hsum : n * a + i = n * b + j := by omega
    have hmod := congrArg (· % n) hsum
    simp only [Nat.mul_add_mod, Nat.mod_eq_of_lt i.isLt, Nat.mod_eq_of_lt j.isLt] at hmod
    exact Fin.ext hmod

omit [Platform] in
/-- The incident of five errors in a minute is linked to all of them. -/
theorem the_tables_agree_after_an_incident :
    Consistent (run.after (@serve samplePlatform) Store.empty sampleRun) ∧
      (run.after (@serve samplePlatform) Store.empty sampleRun).incident_events.length = 5 :=
  ⟨@the_tables_agree_in_every_reachable_store samplePlatform _ sample_reachable, by decide +kernel⟩

end pulseforge

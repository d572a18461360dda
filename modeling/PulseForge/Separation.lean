-- Organizations do not touch each other: what is not for an organization leaves its share
-- as it is, so that every run serves it as the run of its own requests would.
import PulseForge.ServedAlone

open txn table

namespace pulseforge

variable [Platform]

/-! ## Requests of other organizations -/

section
variable {o : UUID} {s t : Store} (h : Share o s t)
include h

omit [Platform] in
theorem Share.audit_apart {row : AuditLog} (hrow : row.organization_id ≠ some o) :
    Share o (pulseforge.addAudit row s) t := by
  refine { h with audit_logs := ?_ }
  show _ = (s.audit_logs ++ [row]).filter _
  rw [filter_insert_out (by exact decide_eq_false hrow), h.audit_logs]

omit [Platform] in
theorem Share.member_apart {row : OrganizationMember} (hrow : row.organization_id ≠ o) :
    Share o (pulseforge.addMember row s) t := by
  refine { h with organization_members := ?_ }
  show _ = (s.organization_members ++ [row]).filter _
  rw [filter_insert_out (by exact decide_eq_false hrow), h.organization_members]

omit [Platform] in
theorem Share.key_apart {row : ApiKey} (hrow : row.organization_id ≠ o) :
    Share o { s with api_keys := s.api_keys ++ [row] } t := by
  refine { h with api_keys := ?_ }
  show _ = (s.api_keys ++ [row]).filter _
  rw [filter_insert_out (by exact decide_eq_false hrow), h.api_keys]

omit [Platform] in
theorem Share.incident_apart {row : Incident} (hrow : row.organization_id ≠ o) :
    Share o { s with incidents := s.incidents ++ [row] } t := by
  refine { h with incidents := ?_, incident_events := ?_ }
  · show _ = (s.incidents ++ [row]).filter _
    rw [filter_insert_out (by exact decide_eq_false hrow), h.incidents]
  · rw [h.incident_events]
    refine List.filter_congr fun l _ => ?_
    simp [linkOf, hrow]

omit [Platform] in
theorem Share.links_apart {links : List IncidentEvent} (hlinks : ∀ l ∈ links, linkOf o s l = false) :
    Share o (pulseforge.addLinks links s) t := by
  refine { h with incident_events := ?_ }
  show _ = (s.incident_events ++ links).filter (linkOf o s)
  have hnone : links.filter (linkOf o s) = [] := by
    refine List.filter_eq_nil_iff.mpr fun l hl => ?_
    rw [hlinks l hl]
    exact Bool.false_ne_true
  rw [List.filter_append, hnone, List.append_nil, h.incident_events]

omit [Platform] h in
/-- A row of another organization has no row of the organization at its id. -/
theorem share_rows_apart {α : Type} {rows rows' : List α} {id org : α → UUID}
    (hrows : rows' = rows.filter fun r => org r = o) (hids : UniqueOn id rows) {a : α} (ha : a ∈ rows)
    (hother : org a ≠ o) : ∀ r ∈ rows', id r ≠ id a := by
  intro r hr heq
  rw [hrows] at hr
  obtain ⟨hr, hro⟩ := List.mem_filter.mp hr
  rw [hids.eq hr ha heq] at hro
  exact hother (of_decide_eq_true hro)

omit [Platform] h in
/-- No row of the organization names a service of another organization. -/
theorem share_service_apart {α : Type} {rows rows' : List α} {service_id org : α → UUID}
    (hc : Consistent s) (hrows : rows' = rows.filter fun r => org r = o)
    (hown : ∀ r ∈ rows, OfService s (service_id r) (org r)) {v : Service} (hv : v ∈ s.services)
    (hother : v.organization_id ≠ o) : ∀ r ∈ rows', service_id r ≠ v.id := by
  intro r hr heq
  rw [hrows] at hr
  obtain ⟨hr, ho⟩ := List.mem_filter.mp hr
  have hown := OfService.organization hc hv (heq ▸ hown r hr)
  exact hother (hown.trans (of_decide_eq_true ho))

omit [Platform] in
theorem Share.update_key_apart {k : ApiKey} (hids : UniqueOn ApiKey.id s.api_keys) (hk : k ∈ s.api_keys)
    (hother : k.organization_id ≠ o) {f : ApiKey → ApiKey}
    (hf : ∀ k, (f k).organization_id = k.organization_id) :
    Share o { s with api_keys := updateWhere (fun r => r.id = k.id) f s.api_keys } t := by
  have hkept := h.updateKeys (fun r => r.id = k.id) hf
  rw [updateWhere_eq_self fun r hr => decide_eq_false
    (share_rows_apart h.api_keys hids hk hother r hr)] at hkept
  exact hkept

omit [Platform] in
theorem Share.update_incident_apart {i : Incident} (hnone : ∀ r ∈ t.incidents, r.id ≠ i.id)
    {f : Incident → Incident} (hid : ∀ i, (f i).id = i.id)
    (hf : ∀ i, (f i).organization_id = i.organization_id) :
    Share o (pulseforge.updateIncident i.id f s) t := by
  have hkept := h.updateIncident i.id hid hf
  have hsame : pulseforge.updateIncident i.id f t = t := by
    unfold pulseforge.updateIncident
    rw [updateWhere_eq_self fun r hr => decide_eq_false (hnone r hr)]
  rwa [hsame] at hkept

omit [Platform] in
theorem Share.delete_service_apart (hc : Consistent s) {v : Service} (hv : v ∈ s.services)
    (hother : v.organization_id ≠ o) : Share o (pulseforge.deleteService v.id s) t := by
  have hkept := h.deleteService hc v.id
  have hservices := share_rows_apart h.services hc.service_ids hv hother
  have hkeys := share_service_apart hc h.api_keys hc.keys hv hother
  have hevents := share_service_apart hc h.events hc.events hv hother
  have hincidents := share_service_apart hc h.incidents hc.incidents hv hother
  have hsame : pulseforge.deleteService v.id t = t := by
    have hlinks : ∀ l ∈ t.incident_events,
        (!(t.incidents.any fun i => i.id = l.incident_id && i.service_id = v.id) &&
          !(t.events.any fun w => w.id = l.event_id && w.service_id = v.id)) = true := by
      intro l _
      rw [Bool.and_eq_true, Bool.not_eq_true', Bool.not_eq_true', List.any_eq_false, List.any_eq_false]
      exact ⟨fun i hi => by simp [hincidents i hi], fun w hw => by simp [hevents w hw]⟩
    unfold pulseforge.deleteService
    rw [List.filter_eq_self.mpr fun r hr => decide_eq_true (hservices r hr),
      List.filter_eq_self.mpr fun r hr => decide_eq_true (hkeys r hr),
      List.filter_eq_self.mpr fun r hr => decide_eq_true (hevents r hr),
      List.filter_eq_self.mpr fun r hr => decide_eq_true (hincidents r hr),
      List.filter_eq_self.mpr hlinks]
  rwa [hsame] at hkept

end

omit [Platform] in
theorem org_of_not_named {α : Type} [TenantTable α] {o id : UUID} {s : Store} {r : α}
    (h : named α o id s = false) (hr : r ∈ TenantTable.rows s) (hid : TenantTable.id r = id) :
    TenantTable.organization_id r ≠ o := by
  intro ho
  exact List.any_eq_false.mp h r hr
    (Bool.and_eq_true_iff.mpr ⟨decide_eq_true hid, decide_eq_true ho⟩)

/-- A request that is not for the organization leaves its share as it is. -/
theorem Share.tenant_apart {o : UUID} {s t : Store} (h : Share o s t) (hs : Reachable s) {e : Env}
    {user : User} {r : TenantRequest} {s' : Store} (hw : TenantWrite e user s r s')
    (hr : r.isFor o e s = false) : Share o s' t := by
  have hc := hs.consistent
  have hkeyed := reachable_keyed hs
  have hsome : ∀ {x : UUID}, x ≠ o → (some x : Option UUID) ≠ some o :=
    fun hne heq => hne (Option.some.inj heq)
  cases hw with
  | organization_created payload hslug =>
    have hne : e.uuid 0 ≠ o := by
      intro heq
      have hr : (decide (e.uuid 0 = o) &&
          !s.organizations.any fun x => decide (x.slug = payload.slug)) = false := hr
      rw [decide_eq_true heq, hslug] at hr
      cases hr
    have hadded : Share o
        { s with organizations := s.organizations ++ [new_organization e payload user.id] } t := by
      refine { h with organizations := ?_ }
      show _ = (s.organizations ++ [_]).filter _
      rw [filter_insert_out (by exact decide_eq_false hne), h.organizations]
    exact (hadded.member_apart hne).audit_apart (hsome hne)
  | member_added organization_id payload actor target =>
    have hne : organization_id ≠ o := of_decide_eq_false hr
    exact h.member_apart hne
  | role_changed organization_id member_id role actor target hp ht =>
    have hne : organization_id ≠ o := of_decide_eq_false hr
    obtain ⟨hmem, hto⟩ := target_of_ok ht
    have hkept := h.updateMember target.id (f := fun m => { m with role := role }) fun _ => rfl
    have hsame : pulseforge.updateMember target.id (fun m => { m with role := role }) t = t := by
      unfold pulseforge.updateMember
      rw [updateWhere_eq_self fun r hr => decide_eq_false
        (share_rows_apart h.organization_members hkeyed.member_ids hmem (hto ▸ hne) r hr)]
    rw [hsame] at hkept
    exact hkept.audit_apart (hsome hne)
  | member_removed organization_id member_id actor target hp ht =>
    have hne : organization_id ≠ o := of_decide_eq_false hr
    obtain ⟨hmem, hto⟩ := target_of_ok ht
    have hkept := h.deleteMember target.id
    have hsame : pulseforge.deleteMember target.id t = t := by
      unfold pulseforge.deleteMember
      rw [List.filter_eq_self.mpr fun r hr => decide_eq_true
        (share_rows_apart h.organization_members hkeyed.member_ids hmem (hto ▸ hne) r hr)]
    rwa [hsame] at hkept
  | service_created payload =>
    have hne : payload.organization_id ≠ o := of_decide_eq_false hr
    have hadded : Share o { s with services := s.services ++ [new_service e payload] } t := by
      refine { h with services := ?_ }
      show _ = (s.services ++ [_]).filter _
      rw [filter_insert_out (by exact decide_eq_false hne), h.services]
    exact hadded.audit_apart (hsome hne)
  | service_updated service_id payload service changed actor name hv hp hn hchanged =>
    obtain ⟨hmem, hid, _⟩ := resource_of_ok hv
    have hne : service.organization_id ≠ o := org_of_not_named hr hmem hid
    obtain ⟨hcid, hcorg⟩ := changed_service_keys hchanged
    refine { h with services := ?_ }
    show _ = (updateWhere _ _ s.services).filter _
    rw [filter_updateWhere, h.services]
    intro v hv' hsame
    have hsame : v = service := hc.service_ids.eq hv' hmem ((of_decide_eq_true hsame).trans hcid)
    exact ⟨decide_eq_false (hsame ▸ hne), decide_eq_false (hcorg ▸ hne)⟩
  | service_deleted service_id service actor hv =>
    obtain ⟨hmem, hid, _⟩ := resource_of_ok hv
    exact h.delete_service_apart hc hmem (org_of_not_named hr hmem hid)
  | key_created service_id payload service actor hv =>
    obtain ⟨hmem, hid, _⟩ := resource_of_ok hv
    have hne : service.organization_id ≠ o := org_of_not_named hr hmem hid
    exact (h.key_apart hne).audit_apart (hsome hne)
  | key_revoked api_key_id api_key actor hk =>
    obtain ⟨hmem, hid, _⟩ := resource_of_ok hk
    have hne : api_key.organization_id ≠ o := org_of_not_named hr hmem hid
    have hrevoked : Share o (pulseforge.revokeKey api_key.id (e.clock 1) s) t :=
      h.update_key_apart hkeyed.key_ids hmem hne fun _ => rfl
    exact hrevoked.audit_apart (hsome hne)
  | key_rotated api_key_id old_key service actor payload hk hp hlive hv =>
    obtain ⟨hmem, hid, _⟩ := resource_of_ok hk
    have hne : old_key.organization_id ≠ o := org_of_not_named hr hmem hid
    obtain ⟨hvm, hvid, _⟩ := resource_of_ok hv
    have horg : service.organization_id = old_key.organization_id :=
      OfService.organization hc hvm
        ((show service.id = old_key.service_id from hvid) ▸ hc.keys old_key hmem)
    have hrevoked : Share o (pulseforge.revokeKey old_key.id (e.clock 2) s) t :=
      h.update_key_apart hkeyed.key_ids hmem hne fun _ => rfl
    have hnew : (new_api_key e service payload).organization_id ≠ o := by
      show service.organization_id ≠ o
      rw [horg]
      exact hne
    exact (hrevoked.key_apart hnew).audit_apart (hsome hnew)
  | acknowledged incident_id incident actor hi =>
    obtain ⟨hmem, hid, _⟩ := resource_of_ok hi
    have hne : incident.organization_id ≠ o := org_of_not_named hr hmem hid
    have hnone := share_rows_apart h.incidents hc.incident_ids hmem hne
    have hkept := h.update_incident_apart hnone (f := pulseforge.acknowledged user.id (e.clock 1) e.now)
      (fun _ => rfl) fun _ => rfl
    exact hkept.audit_apart (hsome hne)
  | resolved incident_id incident actor hi =>
    obtain ⟨hmem, hid, _⟩ := resource_of_ok hi
    have hne : incident.organization_id ≠ o := org_of_not_named hr hmem hid
    have hnone := share_rows_apart h.incidents hc.incident_ids hmem hne
    have hkept := h.update_incident_apart hnone
      (f := pulseforge.resolved user.id (e.clock 1) e.now incident.assigned_to.isNone)
      (fun _ => rfl) fun _ => rfl
    exact hkept.audit_apart (hsome hne)

theorem Share.ingest_apart {o : UUID} {s t : Store} (h : Share o s t) (hs : Reachable s) {e : Env}
    (hf : Fresh e s) {payload : EventCreate} {k : ApiKey} (hk : k ∈ s.api_keys)
    (hne : k.organization_id ≠ o) {reply : Except Failure EventIngestResponse} {s' : Store}
    (hout : IngestOutcome e payload k s reply s') : Share o s' t := by
  have hc := hs.consistent
  have hids := (reachable_keyed hs).key_ids
  cases hout with
  | limited => exact h
  | duplicate => exact h.update_key_apart hids hk hne fun _ => rfl
  | unstorable => exact h
  | failed => exact h
  | stored incident_id s' hlimit hv hstorable he =>
    have hadded : Share o { s with events := s.events ++ [new_event e payload k] } t := by
      refine { h with events := ?_ }
      show _ = (s.events ++ [_]).filter _
      rw [filter_insert_out (by exact decide_eq_false hne), h.events]
    have hstored : Share o (storeEvent e payload k s) t :=
      hadded.update_key_apart hids hk hne fun _ => rfl
    have hconsistent := hc.storeEvent hf payload hk hv
    cases he with
    | quiet => exact hstored
    | attached incident hlevel hactive =>
      obtain ⟨hi, hservice, _⟩ := activeIncident_of_some hactive
      have hio : incident.organization_id ≠ o := by
        obtain ⟨v, hvm, hvid, hvorg⟩ := hc.keys k hk
        have hown := hconsistent.incidents incident hi
        rw [hservice, show (new_event e payload k).service_id = v.id from hvid.symm] at hown
        rw [← OfService.organization hconsistent hvm hown, hvorg]
        exact hne
      have hnone := share_rows_apart hstored.incidents hconsistent.incident_ids hi hio
      have hlinked : Share o
          (if isLinked incident.id (new_event e payload k).id (storeEvent e payload k s) then
            storeEvent e payload k s
          else
            pulseforge.addLinks [⟨incident.id, (new_event e payload k).id⟩]
              (storeEvent e payload k s)) t := by
        split
        · exact hstored
        · refine hstored.links_apart fun l hl => ?_
          rw [List.mem_singleton.mp hl]
          exact Bool.eq_false_iff.mpr fun hlink => hio ((linkOf_iff hconsistent hi rfl).mp hlink)
      unfold attached
      dsimp only
      split
      · exact hlinked.update_incident_apart hnone (fun _ => rfl) fun _ => rfl
      · exact hlinked
    | opened w =>
      have hrow : (new_incident e (new_event e payload k)).organization_id ≠ o := hne
      have hadded := hstored.incident_apart hrow
      refine hadded.links_apart fun l hl => ?_
      obtain ⟨v, _, rfl⟩ := List.mem_map.mp hl
      refine List.any_eq_false.mpr fun i hi hp => ?_
      simp only [Bool.and_eq_true, decide_eq_true_eq] at hp
      rcases List.mem_append.mp hi with hold | hnew
      · exact hf.incident 1 i hold hp.1
      · rw [List.mem_singleton.mp hnew] at hp
        exact hne hp.2

/-! ## Every run -/

/-- The request is one for the organization, or one of an account. -/
def Request.isFor (o : UUID) (e : Env) (s : Store) : Request → Bool
  | .auth _ => true
  | .tenant _ r => r.isFor o e s
  | .ingest credentials _ => ingestIsFor o credentials s

/-- What the organization is served of a request, where it is the only one. -/
def onlyFor (o : UUID) (s : Store) (c : Env × Request) : Option (Env × Request) :=
  if c.2.isFor o c.1 s then some (c.1.alone o s c.2, c.2) else none

section
variable {o : UUID} {s t : Store} (h : Share o s t) (hs : Reachable s) {e : Env} (hf : Fresh e s)
include h hs hf

theorem Share.served (r : Request) (hr : r.isFor o e s = true) :
    (handle e r s).1 = (handle (e.alone o s r) r t).1 ∧
      Share o (handle e r s).2 (handle (e.alone o s r) r t).2 := by
  suffices halone : AsAlone o (handler e r) (handler (e.alone o s r) r) ⟨s, s⟩ ⟨t, t⟩ from
    Abreast.runRequest halone
  cases r with
  | auth r => exact h.auth_alone e hs.member_once r
  | tenant credentials r =>
    exact h.ask_alone (h.current_user credentials e.now) fun user _ => h.tenant_alone e user hs r hr
  | ingest credentials payload =>
    refine h.ask_alone (h.ingest_key hs.consistent hr e.now) fun k hk => AsAlone.answer _ ?_
    have ho : k.organization_id = o := by
      have hfor := ingestIsFor_of_ok (o := o) hk
      exact of_decide_eq_true (hfor.symm.trans hr)
    exact h.ingest_alone hs.consistent hf payload (api_key_of_ok hk) ho

theorem Share.unserved (r : Request) (hr : r.isFor o e s = false) : Share o (handle e r s).2 t := by
  refine served_cases (P := fun r s' => r.isFor o e s = false → Share o s' t) (fun _ _ => h) ?_ ?_ ?_ r hr
  · intro r reply s' _ hr
    cases hr
  · exact fun credentials user r s' _ hw hr => h.tenant_apart hs hw hr
  · intro credentials payload k reply s' hk hout hr
    have hne : k.organization_id ≠ o := by
      have hfor := ingestIsFor_of_ok (o := o) hk
      exact of_decide_eq_false (hfor.symm.trans hr)
    exact h.ingest_apart hs hf (api_key_of_ok hk) hne hout

end

/-- In every run, the requests for one organization are answered as if no other
organization were served, and the rows of the organization, its links and its audit log
are those of a backend that serves it alone. -/
theorem an_organization_is_served_as_if_alone (o : UUID) (past : List (Env × Request))
    (hfresh : run.Every serve Store.empty (fun s c => Fresh c.1 s) past) :
    let s := run.after serve Store.empty past
    let t := run.after serve Store.empty (run.part serve Store.empty (onlyFor o) past)
    Share o s t ∧ ∀ e r, Fresh e s → r.isFor o e s = true →
      (handle e r s).1 = (handle (e.alone o s r) r t).1 := by
  intro s t
  have hshare : Share o s t := by
    refine run.part_related (R := Share o) ?_ ?_ ?_ hfresh
    · constructor <;> rfl
    · intro past c c' t' hpast hf h hkeep
      unfold onlyFor at hkeep
      split at hkeep
      · obtain rfl := Option.some.inj hkeep
        exact (h.served ⟨past, hpast, rfl⟩ hf c.2 ‹_›).2
      · cases hkeep
    · intro past c t' hpast hf h hkeep
      unfold onlyFor at hkeep
      split at hkeep
      · cases hkeep
      · rename_i hother
        exact h.unserved ⟨past, hpast, rfl⟩ hf c.2 (Bool.eq_false_iff.mpr hother)
  exact ⟨hshare, fun e r hf hr => (hshare.served ⟨past, hfresh, rfl⟩ hf r hr).1⟩

/-- The sample run, and then another organization with a service of the same slug. -/
def sharedRun : List (Env × Request) :=
  (sampleEnv 11, .tenant (sampleBearer 0 1) (.create_service (sampleService 100))) ::
    (sampleEnv 10, .tenant (sampleBearer 0 1)
      (.create_organization { sampleOrganization with slug := "other".toList, slug_length := by decide })) ::
    sampleRun

omit [Platform] in
/-- Two requests of the run are for the other organization, which has its service: the
first organization is served as after the other ten. -/
theorem the_first_organization_is_served_as_if_alone :
    let s := run.after (@serve samplePlatform) Store.empty sharedRun
    let served := run.part (@serve samplePlatform) Store.empty (@onlyFor samplePlatform 20) sharedRun
    let t := run.after (@serve samplePlatform) Store.empty served
    let r : Request := .tenant (sampleBearer 0 1) (.list_services 20)
    served.length = 10 ∧ s.services.length = 2 ∧ t.services.length = 1 ∧
      (@handle samplePlatform (sampleEnv 12) r s).1 =
        (@handle samplePlatform (@Env.alone samplePlatform 20 s (sampleEnv 12) r) r t).1 := by
  intro s served t r
  have hfresh : run.Every (@serve samplePlatform) Store.empty (fun s c => Fresh c.1 s) sharedRun :=
    fresh_of_drawsInOrder [11, 10, 9, 8, 7, 6, 5, 4, 3, 2, 1, 0] rfl (by decide +kernel)
  have hids : ∀ id ∈ s.ids, id < 10 * 12 := by decide +kernel
  have hlaw := @an_organization_is_served_as_if_alone samplePlatform 20 sharedRun hfresh
  exact ⟨by decide +kernel, by decide +kernel, by decide +kernel,
    hlaw.2 (sampleEnv 12) r (sample_fresh 12 s hids) rfl⟩

end pulseforge

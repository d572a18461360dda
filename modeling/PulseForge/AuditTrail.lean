-- The audit log tells what happened to an incident: one entry for its
-- acknowledge, one for its resolve, and none before. This holds in every
-- reachable store.
import PulseForge.Consistency

open txn table

namespace pulseforge

/-- The entries of an action on an incident. -/
def audits (action : AuditAction) (incident_id : UUID) (s : Store) : Nat :=
  s.audit_logs.countP fun a => a.action = action && a.resource_id = some incident_id

/-- The entries of an incident, by its status. -/
structure Audited (s : Store) (i : Incident) : Prop where
  opened : i.status = .OPEN → i.acknowledged_at = none ∧ audits .INCIDENT_ACKNOWLEDGED i.id s = 0
  unresolved : i.status ≠ .RESOLVED → i.resolved_at = none ∧ audits .INCIDENT_RESOLVED i.id s = 0
  acknowledged : i.status = .ACKNOWLEDGED → 1 ≤ audits .INCIDENT_ACKNOWLEDGED i.id s
  resolved : i.status = .RESOLVED → 1 ≤ audits .INCIDENT_RESOLVED i.id s

structure Logged (s : Store) : Prop where
  rows : ∀ i ∈ s.incidents, Audited s i
  once : ∀ incident_id, audits .INCIDENT_ACKNOWLEDGED incident_id s ≤ 1 ∧
    audits .INCIDENT_RESOLVED incident_id s ≤ 1

theorem logged_empty : Logged Store.empty where
  rows := by
    intro i hi
    cases hi
  once := fun _ => ⟨Nat.zero_le 1, Nat.zero_le 1⟩

theorem audits_addAudit (action : AuditAction) (incident_id : UUID) (row : AuditLog) (s : Store) :
    audits action incident_id (addAudit row s) = audits action incident_id s +
      if row.action = action ∧ row.resource_id = some incident_id then 1 else 0 := by
  simp [audits, addAudit, List.countP_append, List.countP_cons]

/-- An entry of another action is no entry of an incident. -/
theorem audits_other {action : AuditAction} {row : AuditLog} (h : row.action ≠ action)
    (incident_id : UUID) (s : Store) :
    audits action incident_id (addAudit row s) = audits action incident_id s := by
  rw [audits_addAudit, if_neg (fun hboth => h hboth.1), Nat.add_zero]

/-- The first entry of an action on a resource. -/
theorem audits_own {action : AuditAction} {row : AuditLog} {incident_id : UUID} {s : Store}
    (haction : row.action = action) (hresource : row.resource_id = some incident_id)
    (h : audits action incident_id s = 0) : audits action incident_id (addAudit row s) = 1 := by
  rw [audits_addAudit, if_pos ⟨haction, hresource⟩, h]

/-- An id that no entry names has no entries. -/
theorem audits_unused {s : Store} {id : UUID} (h : id ∉ s.ids) (action : AuditAction) :
    audits action id s = 0 := by
  apply List.countP_eq_zero.mpr
  intro a ha hboth
  simp only [Bool.and_eq_true, decide_eq_true_eq] at hboth
  refine h ?_
  have hmem : id ∈ s.audit_logs.filterMap AuditLog.resource_id :=
    List.mem_filterMap.mpr ⟨a, ha, hboth.2⟩
  simp only [Store.ids, List.mem_append]
  tauto

section
variable {s t : Store} (h : Logged s)
include h

/-- A write that keeps the columns of the incidents and the entries of both actions. -/
theorem Logged.congr
    (hrows : ∀ i ∈ t.incidents, ∃ j ∈ s.incidents, j.id = i.id ∧ j.status = i.status ∧
      j.acknowledged_at = i.acknowledged_at ∧ j.resolved_at = i.resolved_at)
    (hack : ∀ id, audits .INCIDENT_ACKNOWLEDGED id t = audits .INCIDENT_ACKNOWLEDGED id s)
    (hres : ∀ id, audits .INCIDENT_RESOLVED id t = audits .INCIDENT_RESOLVED id s) : Logged t where
  rows := by
    intro i hi
    obtain ⟨j, hj, hid, hstatus, hat, hrt⟩ := hrows i hi
    obtain ⟨h1, h2, h3, h4⟩ := h.rows j hj
    rw [hid, hstatus] at h1 h2 h3 h4
    rw [hat] at h1
    rw [hrt] at h2
    constructor
    · rwa [hack]
    · rwa [hres]
    · rwa [hack]
    · rwa [hres]
  once := by
    intro id
    rw [hack, hres]
    exact h.once id

/-- A write that touches no incident and adds no entry of an incident. -/
theorem Logged.elsewhere (hi : t.incidents = s.incidents) (ha : t.audit_logs = s.audit_logs) :
    Logged t := by
  refine h.congr ?_ ?_ ?_
  · intro i hmem
    rw [hi] at hmem
    exact ⟨i, hmem, rfl, rfl, rfl, rfl⟩
  · intro id
    unfold audits
    rw [ha]
  · intro id
    unfold audits
    rw [ha]

/-- Entries of other actions. -/
theorem Logged.other_entries {rows : List AuditLog}
    (hother : ∀ row ∈ rows, row.action ≠ .INCIDENT_ACKNOWLEDGED ∧ row.action ≠ .INCIDENT_RESOLVED) :
    Logged { s with audit_logs := s.audit_logs ++ rows } := by
  have hnone : ∀ action, (∀ row ∈ rows, row.action ≠ action) → ∀ id,
      audits action id { s with audit_logs := s.audit_logs ++ rows } = audits action id s := by
    intro action hne id
    have hzero : rows.countP (fun a => a.action = action && a.resource_id = some id) = 0 := by
      apply List.countP_eq_zero.mpr
      intro a ha hboth
      simp only [Bool.and_eq_true, decide_eq_true_eq] at hboth
      exact hne a ha hboth.1
    simp only [audits, List.countP_append, hzero, Nat.add_zero]
  refine h.congr (fun i hi => ⟨i, hi, rfl, rfl, rfl, rfl⟩) ?_ ?_
  · exact hnone _ fun row hrow => (hother row hrow).1
  · exact hnone _ fun row hrow => (hother row hrow).2

theorem Logged.other_entry {row : AuditLog} (hack : row.action ≠ .INCIDENT_ACKNOWLEDGED)
    (hres : row.action ≠ .INCIDENT_RESOLVED) : Logged (addAudit row s) := by
  apply h.other_entries
  intro a ha
  rw [List.mem_singleton.mp ha]
  exact ⟨hack, hres⟩

theorem Logged.raise (incident_id : UUID) (now : Int) :
    Logged (updateIncident incident_id (raiseSeverity now) s) := by
  refine h.congr ?_ (fun _ => rfl) fun _ => rfl
  intro i hi
  obtain ⟨j, hj, rfl⟩ := mem_updateWhere.mp hi
  refine ⟨j, hj, ?_⟩
  split <;> exact ⟨rfl, rfl, rfl, rfl⟩

/-- A new incident that no entry names. -/
theorem Logged.create {e : Env} (event : Event)
    (hack : audits .INCIDENT_ACKNOWLEDGED (e.uuid 1) s = 0)
    (hres : audits .INCIDENT_RESOLVED (e.uuid 1) s = 0) :
    Logged { s with incidents := s.incidents ++ [new_incident e event] } where
  rows := by
    intro i hi
    rcases List.mem_append.mp hi with hi | hi
    · obtain ⟨h1, h2, h3, h4⟩ := h.rows i hi
      exact ⟨h1, h2, h3, h4⟩
    · rw [List.mem_singleton.mp hi]
      refine ⟨fun _ => ⟨rfl, hack⟩, fun _ => ⟨rfl, hres⟩, ?_, ?_⟩
      · intro hstatus
        cases hstatus
      · intro hstatus
        cases hstatus
  once := h.once

/-- An update of one incident, with an entry that names it: only its own entries change. -/
theorem Logged.written {row_id : UUID} (f : Incident → Incident)
    {entry : AuditLog} (hresource : entry.resource_id = some row_id)
    (ht : t = addAudit entry (updateIncident row_id f s))
    (hrow : ∀ i ∈ s.incidents, i.id = row_id → Audited t (f i))
    (hack : audits .INCIDENT_ACKNOWLEDGED row_id t ≤ 1)
    (hres : audits .INCIDENT_RESOLVED row_id t ≤ 1) : Logged t := by
  have hsame : ∀ action id, id ≠ row_id → audits action id t = audits action id s := by
    intro action id hne
    rw [ht, audits_addAudit, if_neg, Nat.add_zero]
    · rfl
    · rintro ⟨_, hid⟩
      exact hne (Option.some.inj (hid.symm.trans hresource))
  constructor
  · intro i hi
    rw [ht] at hi
    obtain ⟨old, hold, rfl⟩ := mem_updateWhere.mp hi
    by_cases hid : old.id = row_id
    · simp only [hid, decide_true, if_true]
      exact hrow old hold hid
    · simp only [hid, decide_false, Bool.false_eq_true, if_false]
      obtain ⟨h1, h2, h3, h4⟩ := h.rows old hold
      constructor
      · rwa [hsame _ _ hid]
      · rwa [hsame _ _ hid]
      · rwa [hsame _ _ hid]
      · rwa [hsame _ _ hid]
  · intro id
    by_cases hid : id = row_id
    · subst hid
      exact ⟨hack, hres⟩
    · rw [hsame _ _ hid, hsame _ _ hid]
      exact h.once id

/-- An acknowledge of an open incident, with its entry. -/
theorem Logged.acknowledge (hids : UniqueOn Incident.id s.incidents) {row : Incident}
    (hrow : row ∈ s.incidents) (hopen : row.status = .OPEN) {entry : AuditLog}
    (haction : entry.action = .INCIDENT_ACKNOWLEDGED) (hresource : entry.resource_id = some row.id)
    (user_id : UUID) (now updated_at : Int) :
    Logged (addAudit entry (updateIncident row.id (acknowledged user_id now updated_at) s)) := by
  obtain ⟨h1, h2, _, _⟩ := h.rows row hrow
  have hnew := h2 (by simp [hopen])
  have hother : entry.action ≠ .INCIDENT_RESOLVED := by simp [haction]
  have hack : audits .INCIDENT_ACKNOWLEDGED row.id
      (addAudit entry (updateIncident row.id (acknowledged user_id now updated_at) s)) = 1 :=
    audits_own haction hresource (h1 hopen).2
  have hres : audits .INCIDENT_RESOLVED row.id
      (addAudit entry (updateIncident row.id (acknowledged user_id now updated_at) s)) = 0 :=
    (audits_other hother _ _).trans hnew.2
  refine h.written (acknowledged user_id now updated_at) hresource rfl ?_ hack.le (by omega)
  intro i hi hid
  obtain rfl : i = row := hids.eq hi hrow hid
  constructor
  · intro hstatus
    cases hstatus
  · intro _
    exact ⟨hnew.1, hres⟩
  · intro _
    exact hack.ge
  · intro hstatus
    cases hstatus

/-- A resolve of an incident that is not resolved, with its entry. -/
theorem Logged.resolve {row : Incident}
    (hrow : row ∈ s.incidents) (hopen : row.status ≠ .RESOLVED) {entry : AuditLog}
    (haction : entry.action = .INCIDENT_RESOLVED) (hresource : entry.resource_id = some row.id)
    (user_id : UUID) (now updated_at : Int) (assign : Bool) :
    Logged (addAudit entry (updateIncident row.id (resolved user_id now updated_at assign) s)) := by
  obtain ⟨_, h2, _, _⟩ := h.rows row hrow
  have hother : entry.action ≠ .INCIDENT_ACKNOWLEDGED := by simp [haction]
  have hres : audits .INCIDENT_RESOLVED row.id
      (addAudit entry (updateIncident row.id (resolved user_id now updated_at assign) s)) = 1 :=
    audits_own haction hresource (h2 hopen).2
  refine h.written (resolved user_id now updated_at assign) hresource rfl ?_ ?_ hres.le
  · intro i hi hid
    constructor
    · intro hstatus
      cases hstatus
    · intro hstatus
      exact absurd rfl hstatus
    · intro hstatus
      cases hstatus
    · intro _
      show 1 ≤ audits .INCIDENT_RESOLVED i.id _
      rw [hid]
      exact hres.ge
  · rw [audits_other hother]
    exact (h.once row.id).1

end

/-! ## Every reachable store -/

section
variable [Platform]

theorem password_logged {s : Store} (h : Logged s) (e : Env) (user_id : UUID) :
    Logged (audit_password_change e user_id s) := by
  refine h.other_entries ?_
  intro row hrow
  obtain ⟨k, _, rfl⟩ := List.mem_mapIdx.mp hrow
  simp [audit_row]

theorem auth_logged {s s' : Store} (h : Logged s) {e : Env} {r : AuthRequest}
    {reply : Except Failure Body} (hs' : AuthOutcome e s r reply s') : Logged s' := by
  cases hs' with
  | login_failed _ _ row _ haction =>
    exact h.other_entry (by simp [haction]) (by simp [haction])
  | password_changed | password_reset =>
    apply password_logged
    exact h.elsewhere rfl rfl
  | _ => exact h.elsewhere rfl rfl

omit [Platform] in
theorem attached_logged {s : Store} (h : Logged s) (e : Env) (incident : Incident) (event : Event) :
    Logged (attached e incident event s) := by
  obtain ⟨links, rows, _, hrows, heq⟩ := attached_eq e incident event s
  have hlinked : Logged { s with incident_events := s.incident_events ++ links } :=
    h.elsewhere rfl rfl
  rw [heq]
  rcases hrows with rfl | rfl
  · exact hlinked
  · exact hlinked.raise incident.id e.now

theorem ingest_logged {s s' : Store} (h : Logged s) {e : Env} (hf : Fresh e s)
    {payload : EventCreate} {k : ApiKey} {reply : Except Failure EventIngestResponse}
    (hs' : IngestOutcome e payload k s reply s') : Logged s' := by
  have hstored : Logged (storeEvent e payload k s) := h.elsewhere rfl rfl
  have hunused := hf.unused 1
  cases hs' with
  | limited => exact h
  | duplicate => exact h.elsewhere rfl rfl
  | unstorable => exact h
  | failed => exact h
  | stored incident_id _ hlimit hv hs he =>
    cases he with
    | quiet => exact hstored
    | attached incident => exact attached_logged hstored e incident _
    | opened w =>
      have hnew := hstored.create (new_event e payload k) (audits_unused hunused _)
        (audits_unused hunused _)
      exact hnew.elsewhere rfl rfl

theorem tenant_logged {s s' : Store} (h : Logged s) (hs : Consistent s) {e : Env} {user : User}
    {r : TenantRequest} (hs' : TenantWrite e user s r s') : Logged s' := by
  cases hs' with
  | member_added | member_removed | service_updated => exact h.elsewhere rfl rfl
  | service_deleted =>
    refine h.congr ?_ (fun _ => rfl) fun _ => rfl
    intro i hi
    exact ⟨i, (List.mem_filter.mp hi).1, rfl, rfl, rfl, rfl⟩
  | acknowledged _ incident _ hi _ hopen =>
    exact h.acknowledge hs.incident_ids (resource_of_ok hi).1 hopen rfl rfl _ _ _
  | resolved _ incident _ hi _ hopen => exact h.resolve (resource_of_ok hi).1 hopen rfl rfl _ _ _ _
  | _ =>
    -- the other requests add an entry of their own action
    apply Logged.other_entry
    · exact h.elsewhere rfl rfl
    · nofun
    · nofun

theorem serve_logged {s : Store} (h : Logged s) (hs : Consistent s) {e : Env} (hf : Fresh e s)
    (r : Request) : Logged (handle e r s).2 := by
  apply served_cases (P := fun _ t => Logged t)
  · exact fun _ => h
  · exact fun _ _ _ ho => auth_logged h ho
  · exact fun _ _ _ _ _ hw => tenant_logged h hs hw
  · exact fun _ _ _ _ _ _ ho => ingest_logged h hf ho

/-- In every reachable store, the audit log tells what happened to each incident. -/
theorem reachable_logged {s : Store} (h : Reachable s) : Logged s :=
  h.inv logged_empty fun _ _ r hs hf hl => serve_logged hl hs.consistent hf r

end

end pulseforge

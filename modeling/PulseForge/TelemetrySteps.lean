-- What one request does to the events, the incidents and the links of them, as
-- one list of steps. The links are read as the events that each incident has.
import PulseForge.Consistency

open txn table

namespace pulseforge

/-! ## The events of an incident -/

/-- The events that are linked to the incident, oldest first. -/
def linkedEvents (incident_id : UUID) (s : Store) : List Event :=
  s.events.filter fun v => isLinked incident_id v.id s

theorem isLinked_iff {incident_id event_id : UUID} {s : Store} :
    isLinked incident_id event_id s = true ↔ ⟨incident_id, event_id⟩ ∈ s.incident_events := by
  unfold isLinked
  rw [List.any_eq_true]
  constructor
  · rintro ⟨⟨i, v⟩, hl, heq⟩
    simp only [Bool.and_eq_true, decide_eq_true_eq] at heq
    obtain ⟨rfl, rfl⟩ := heq
    exact hl
  · intro hl
    exact ⟨_, hl, by simp⟩

theorem mem_linkedEvents {incident_id : UUID} {s : Store} {v : Event} :
    v ∈ linkedEvents incident_id s ↔ v ∈ s.events ∧ ⟨incident_id, v.id⟩ ∈ s.incident_events := by
  unfold linkedEvents
  rw [List.mem_filter, isLinked_iff]

theorem linkedEvents_congr {s t : Store} (hv : t.events = s.events)
    (hl : t.incident_events = s.incident_events) (i : UUID) : linkedEvents i t = linkedEvents i s := by
  unfold linkedEvents isLinked
  rw [hv, hl]

section
variable {s t : Store} {v : Event} {links : List IncidentEvent}
  (hv : t.events = s.events ++ [v]) (hl : t.incident_events = s.incident_events ++ links)
include hv hl

/-- An event that nothing was linked to joins the events of the incidents that
the new links name, and no others. -/
theorem linkedEvents_other {i : UUID} (hnew : ∀ l ∈ s.incident_events, l.event_id ≠ v.id)
    (hi : ∀ l ∈ links, l.incident_id ≠ i) : linkedEvents i t = linkedEvents i s := by
  have hsame : ∀ w, isLinked i w t = isLinked i w s := by
    intro w
    rw [Bool.eq_iff_iff, isLinked_iff, isLinked_iff, hl, List.mem_append]
    constructor
    · rintro (h | h)
      · exact h
      · exact absurd rfl (hi _ h)
    · exact Or.inl
  have hnone : isLinked i v.id s = false := by
    cases h : isLinked i v.id s with
    | false => rfl
    | true => exact absurd rfl (hnew _ (isLinked_iff.mp h))
  unfold linkedEvents
  simp only [hsame, hv, List.filter_append, List.filter_cons, hnone, Bool.false_eq_true, if_false,
    List.filter_nil, List.append_nil]

theorem linkedEvents_attached {i : UUID} (hlinks : links = [⟨i, v.id⟩])
    (hnew : ∀ w ∈ s.events, w.id ≠ v.id) : linkedEvents i t = linkedEvents i s ++ [v] := by
  have hlast : isLinked i v.id t = true := by
    rw [isLinked_iff, hl, hlinks]
    simp
  have hold : s.events.filter (fun w => isLinked i w.id t) =
      s.events.filter (fun w => isLinked i w.id s) := by
    refine List.filter_congr fun w hw => ?_
    have hne := hnew w hw
    rw [Bool.eq_iff_iff, isLinked_iff, isLinked_iff, hl, hlinks, List.mem_append]
    simp [hne]
  unfold linkedEvents
  rw [hv, List.filter_append, hold]
  simp [hlast]

/-- The events of a new incident are those that its links name. -/
theorem linkedEvents_opened {i : UUID} {p : Event → Bool}
    (hlinks : links = ((s.events ++ [v]).filter p).map fun w => ⟨i, w.id⟩)
    (hids : UniqueOn Event.id (s.events ++ [v])) (hnew : ∀ l ∈ s.incident_events, l.incident_id ≠ i) :
    linkedEvents i t = (s.events ++ [v]).filter p := by
  unfold linkedEvents
  rw [hv]
  refine List.filter_congr fun w hw => ?_
  rw [Bool.eq_iff_iff, isLinked_iff, hl, hlinks, List.mem_append, List.mem_map]
  constructor
  · rintro (h | ⟨u, hu, heq⟩)
    · exact absurd rfl (hnew _ h)
    · obtain ⟨hum, hp⟩ := List.mem_filter.mp hu
      simp only [IncidentEvent.mk.injEq, true_and] at heq
      rw [← hids.eq hum hw heq]
      exact hp
  · intro hp
    exact Or.inr ⟨w, List.mem_filter.mpr ⟨hw, hp⟩, rfl⟩

end

/-- A service takes its events and incidents along, and leaves those of the others. -/
theorem linkedEvents_deleteService {s : Store} (hs : Consistent s) (service_id : UUID) {i : Incident}
    (hi : i ∈ s.incidents) (hne : i.service_id ≠ service_id) :
    linkedEvents i.id (deleteService service_id s) = linkedEvents i.id s := by
  unfold linkedEvents
  show List.filter _ (List.filter _ _) = _
  rw [List.filter_filter]
  refine List.filter_congr fun v hv => ?_
  rw [Bool.eq_iff_iff, Bool.and_eq_true, isLinked_iff, isLinked_iff]
  constructor
  · rintro ⟨hl, -⟩
    exact (List.mem_filter.mp hl).1
  · intro hl
    obtain ⟨j, hj, w, hw, hjl, hwl, hservice, _, _⟩ := hs.links _ hl
    obtain rfl := hs.incident_ids.eq hj hi hjl
    obtain rfl := hs.event_ids.eq hw hv hwl
    have hkept : w.service_id ≠ service_id := hservice ▸ hne
    refine ⟨List.mem_filter.mpr ⟨hl, ?_⟩, by simpa using hkept⟩
    simp only [Bool.and_eq_true, Bool.not_eq_true', List.any_eq_false, decide_eq_true_eq, not_and]
    constructor
    · intro k hk hid
      rw [hs.incident_ids.eq hk hj hid]
      exact hne
    · intro u hu hid
      rw [hs.event_ids.eq hu hw hid]
      exact hkept

variable [Platform]

/-! ## Steps -/

/-- The request delivers the event: its key is good, no limit stops it, the
service has no event with its id, and its columns fit. -/
inductive Delivers (s : Store) (e : Env) : Request → Event → Prop
  | intro {credentials : Option Bearer} {payload : EventCreate} {api_key : ApiKey}
      (hk : get_ingestion_api_key credentials e.now s = .ok api_key) (hlimit : e.retry_after = none)
      (hv : findEvent api_key.service_id (strip payload.event_id) s = none)
      (hs : (new_event e payload api_key).storable = true) :
      Delivers s e (.ingest credentials payload) (new_event e payload api_key)

/-- The events that the count of a new event sees, itself among them. -/
def detectionWindow (event : Event) (window_start : DateTime) (s : Store) : List Event :=
  (s.events ++ [event]).filter (inWindow event window_start)

/-- The event is the fifth of its window, or comes later, and no incident of
its group is active: it opens one. -/
structure Opens (s : Store) (e : Env) (r : Request) (event : Event) (w : DateTime) : Prop where
  delivers : Delivers s e r event
  failing : event.level.failing = true
  unfound : find_active_incident event s = none
  start : event.occurred_at.minus_seconds INCIDENT_WINDOW_SECONDS = some w
  reached : INCIDENT_THRESHOLD ≤ (detectionWindow event w s).length

omit [Platform] in
/-- A failing event lies in its own window. -/
theorem mem_detectionWindow_self {s : Store} {event : Event} {w : DateTime} (hlevel : event.level.failing = true)
    (hw : event.occurred_at.minus_seconds INCIDENT_WINDOW_SECONDS = some w) :
    event ∈ detectionWindow event w s := by
  have hstart := DateTime.minus_seconds_instant hw
  refine List.mem_filter.mpr ⟨by simp, ?_⟩
  unfold inWindow
  simp only [hlevel, hstart, INCIDENT_WINDOW_SECONDS, SECOND, decide_true, Bool.true_and,
    Bool.and_eq_true, decide_eq_true_eq]
  omega

/-- What a critical event makes of the severity of its incident. -/
def escalated (event : Event) (now : Int) (i : Incident) : Incident :=
  if event.level = .CRITICAL ∧ i.severity ≠ .SEV_1 then raiseSeverity now i else i

/-- The events, the incidents and the linked events after a request. -/
inductive TelemetryStep (e : Env) (s : Store) : Request → Store → Prop
  | same {r : Request} {t : Store} (hv : t.events = s.events) (hi : t.incidents = s.incidents)
      (hl : ∀ i, linkedEvents i t = linkedEvents i s) : TelemetryStep e s r t
  | deleted {credentials : Option Bearer} {t : Store} (service_id : UUID)
      (hv : t.events = s.events.filter fun v => v.service_id ≠ service_id)
      (hi : t.incidents = s.incidents.filter fun i => i.service_id ≠ service_id)
      (hl : ∀ i ∈ t.incidents, linkedEvents i.id t = linkedEvents i.id s) :
      TelemetryStep e s (.tenant credentials (.delete_service service_id)) t
  | acknowledged {credentials : Option Bearer} {t : Store} (incident : Incident) (user : User)
      (hmem : incident ∈ s.incidents) (hopen : incident.status = .OPEN) (hv : t.events = s.events)
      (hi : t.incidents = updateWhere (fun i => i.id = incident.id)
        (acknowledged user.id (e.clock 1) e.now) s.incidents)
      (hl : ∀ i, linkedEvents i t = linkedEvents i s) :
      TelemetryStep e s (.tenant credentials (.acknowledge_incident incident.id)) t
  | resolved {credentials : Option Bearer} {t : Store} (incident : Incident) (user : User)
      (hmem : incident ∈ s.incidents) (hopen : incident.status ≠ .RESOLVED)
      (hv : t.events = s.events)
      (hi : t.incidents = updateWhere (fun i => i.id = incident.id)
        (resolved user.id (e.clock 1) e.now incident.assigned_to.isNone) s.incidents)
      (hl : ∀ i, linkedEvents i t = linkedEvents i s) :
      TelemetryStep e s (.tenant credentials (.resolve_incident incident.id)) t
  | quiet {r : Request} {t : Store} {event : Event} (hd : Delivers s e r event)
      (hquiet : event.level.failing = false ∨ find_active_incident event s = none ∧
        ∃ w, event.occurred_at.minus_seconds INCIDENT_WINDOW_SECONDS = some w ∧
          (detectionWindow event w s).length < INCIDENT_THRESHOLD)
      (hv : t.events = s.events ++ [event]) (hi : t.incidents = s.incidents)
      (hl : ∀ i, linkedEvents i t = linkedEvents i s) : TelemetryStep e s r t
  | attached {r : Request} {t : Store} {event : Event} (hd : Delivers s e r event)
      (incident : Incident) (hlevel : event.level.failing = true)
      (hactive : find_active_incident event s = some incident)
      (hv : t.events = s.events ++ [event])
      (hi : t.incidents =
        updateWhere (fun i => i.id = incident.id) (escalated event e.now) s.incidents)
      (hown : linkedEvents incident.id t = linkedEvents incident.id s ++ [event])
      (hl : ∀ i, i ≠ incident.id → linkedEvents i t = linkedEvents i s) : TelemetryStep e s r t
  | opened {r : Request} {t : Store} {event : Event} {w : DateTime} (ho : Opens s e r event w)
      (hv : t.events = s.events ++ [event]) (hi : t.incidents = s.incidents ++ [new_incident e event])
      (hown : linkedEvents (e.uuid 1) t = detectionWindow event w s)
      (hl : ∀ i, i ≠ e.uuid 1 → linkedEvents i t = linkedEvents i s) : TelemetryStep e s r t

section
variable {s : Store} (hs : Consistent s) {e : Env} (hf : Fresh e s)
include hs hf

omit [Platform] in
/-- Nothing is linked to an event that a request draws. -/
theorem unlinked_event (k : Nat) : ∀ l ∈ s.incident_events, l.event_id ≠ e.uuid k := by
  intro l hl heq
  obtain ⟨_, _, v, hv, _, hvl, _⟩ := hs.links l hl
  exact hf.event k v hv (hvl.trans heq)

omit [Platform] in
theorem unlinked_incident (k : Nat) : ∀ l ∈ s.incident_events, l.incident_id ≠ e.uuid k := by
  intro l hl heq
  obtain ⟨i, hi, _, _, hil, _⟩ := hs.links l hl
  exact hf.incident k i hi (hil.trans heq)

omit [Platform] hf in
theorem attached_incidents_eq (event : Event) (now : Int) {incident : Incident}
    (hi : incident ∈ s.incidents) :
    updateWhere (fun i => i.id = incident.id) (escalated event now) s.incidents =
      if event.level = .CRITICAL ∧ incident.severity ≠ .SEV_1 then
        updateWhere (fun i => i.id = incident.id) (raiseSeverity now) s.incidents
      else s.incidents := by
  have hrow : ∀ i ∈ s.incidents, i.id = incident.id → i = incident :=
    fun i hmem heq => hs.incident_ids.eq hmem hi heq
  by_cases hraise : event.level = .CRITICAL ∧ incident.severity ≠ .SEV_1
  · rw [if_pos hraise]
    unfold updateWhere
    refine List.map_congr_left fun i hmem => ?_
    by_cases heq : i.id = incident.id
    · obtain rfl := hrow i hmem heq
      simp [escalated, hraise]
    · simp [heq]
  · rw [if_neg hraise]
    unfold updateWhere
    refine (List.map_congr_left fun i hmem => ?_).trans (List.map_id s.incidents)
    by_cases heq : i.id = incident.id
    · obtain rfl := hrow i hmem heq
      simp [escalated, hraise]
    · simp [heq]

omit hs hf in
/-- The links of a new incident are its own. -/
theorem linkedEvents_opened_other {payload : EventCreate} {k : ApiKey} {w : DateTime}
    (hnew : ∀ l ∈ s.incident_events, l.event_id ≠ e.uuid 0) {i : UUID} (hi : i ≠ e.uuid 1) :
    linkedEvents i (opened e (new_event e payload k) w (storeEvent e payload k s)) =
      linkedEvents i s := by
  refine linkedEvents_other rfl rfl hnew fun l hl => ?_
  obtain ⟨v, _, rfl⟩ := List.mem_map.mp hl
  exact fun h => hi h.symm

theorem ingest_step {credentials : Option Bearer} {payload : EventCreate} {k : ApiKey}
    (hk : get_ingestion_api_key credentials e.now s = .ok k)
    {reply : Except Failure EventIngestResponse} {t : Store}
    (ht : IngestOutcome e payload k s reply t) : TelemetryStep e s (.ingest credentials payload) t := by
  cases ht with
  | limited => exact .same rfl rfl fun _ => rfl
  | duplicate => exact .same rfl rfl fun _ => linkedEvents_congr rfl rfl _
  | unstorable => exact .same rfl rfl fun _ => rfl
  | failed => exact .same rfl rfl fun _ => rfl
  | stored incident_id _ hlimit hv hstorable he =>
    have hd : Delivers s e (.ingest credentials payload) (new_event e payload k) :=
      .intro hk hlimit hv hstorable
    have hunlinked := unlinked_event hs hf 0
    cases he with
    | quiet hquiet =>
      refine .quiet hd hquiet rfl rfl fun i => ?_
      have hlinks : (storeEvent e payload k s).incident_events = s.incident_events ++ [] :=
        (List.append_nil _).symm
      exact linkedEvents_other rfl hlinks hunlinked nofun
    | attached incident hlevel hactive =>
      obtain ⟨hmem, _⟩ := activeIncident_of_some hactive
      have hnone : isLinked incident.id (new_event e payload k).id (storeEvent e payload k s) = false := by
        cases h : isLinked incident.id (new_event e payload k).id (storeEvent e payload k s) with
        | false => rfl
        | true => exact absurd rfl (hunlinked _ (isLinked_iff.mp h))
      have hrows := attached_incidents_eq hs (new_event e payload k) e.now hmem
      have heq : attached e incident (new_event e payload k) (storeEvent e payload k s) =
          { storeEvent e payload k s with
            incidents := updateWhere (fun i => i.id = incident.id)
              (escalated (new_event e payload k) e.now) s.incidents
            incident_events := s.incident_events ++ [⟨incident.id, (new_event e payload k).id⟩] } := by
        rw [hrows]
        simp only [attached, hnone, Bool.false_eq_true, if_false]
        split <;> rfl
      rw [heq]
      refine .attached hd incident hlevel hactive rfl rfl ?_ fun i hi => ?_
      · exact linkedEvents_attached rfl rfl rfl (hf.event 0)
      · refine linkedEvents_other rfl rfl hunlinked fun l hl => ?_
        rw [List.mem_singleton.mp hl]
        exact fun h => hi h.symm
    | opened w hlevel hactive hw hcount =>
      refine .opened ⟨hd, hlevel, hactive, hw, hcount⟩ rfl rfl ?_ fun i hi => ?_
      · exact linkedEvents_opened rfl rfl rfl (hs.event_ids.insert (hf.event 0))
          (unlinked_incident hs hf 1)
      · exact linkedEvents_opened_other hunlinked hi

omit hf in
theorem tenant_step {credentials : Option Bearer} {user : User} {r : TenantRequest} {t : Store}
    (ht : TenantWrite e user s r t) : TelemetryStep e s (.tenant credentials r) t := by
  cases ht with
  | service_deleted _ service _ hservice =>
    obtain ⟨_, rfl, _⟩ := resource_of_ok hservice
    refine .deleted service.id rfl rfl fun i hi => ?_
    obtain ⟨hmem, hne⟩ := List.mem_filter.mp hi
    exact linkedEvents_deleteService hs service.id hmem (by simpa using hne)
  | acknowledged incident_id incident _ hi _ hopen =>
    obtain ⟨hmem, rfl, _⟩ := resource_of_ok hi
    exact .acknowledged incident user hmem hopen rfl rfl fun _ => linkedEvents_congr rfl rfl _
  | resolved incident_id incident _ hi _ hopen =>
    obtain ⟨hmem, rfl, _⟩ := resource_of_ok hi
    exact .resolved incident user hmem hopen rfl rfl fun _ => linkedEvents_congr rfl rfl _
  | _ => exact .same rfl rfl fun _ => linkedEvents_congr rfl rfl _

/-- Every request is one of the steps. -/
theorem telemetry_step (r : Request) : TelemetryStep e s r (handle e r s).2 := by
  apply served_cases (P := fun r t => TelemetryStep e s r t)
  · intro r
    exact .same rfl rfl fun _ => rfl
  · intro r reply t ho
    cases ho <;> exact .same rfl rfl fun _ => linkedEvents_congr rfl rfl _
  · intro credentials user r t _ hw
    exact tenant_step hs hw
  · intro credentials payload k reply t hk ho
    exact ingest_step hs hf hk ho

/-- Where an event opens an incident, the request does just that. -/
theorem Opens.served {r : Request} {event : Event} {w : DateTime} (ho : Opens s e r event w) :
    (handle e r s).2.incidents = s.incidents ++ [new_incident e event] ∧
      linkedEvents (e.uuid 1) (handle e r s).2 = detectionWindow event w s ∧
      ∀ i, i ≠ e.uuid 1 → linkedEvents i (handle e r s).2 = linkedEvents i s := by
  obtain ⟨⟨hk, hlimit, hv, hstorable⟩, hlevel, hactive, hw, hcount⟩ := ho
  obtain ⟨reply, _, hout⟩ := ingest_served _ hk
  generalize (handle e _ s).2 = t at hout ⊢
  cases hout with
  | limited _ h => simp [hlimit] at h
  | duplicate _ _ _ h => cases hv.symm.trans h
  | unstorable _ _ _ h => cases hstorable.symm.trans h
  | failed _ _ _ _ _ he =>
    cases he with
    | early _ _ _ h => cases hw.symm.trans h
  | stored _ _ _ _ _ he =>
    cases he with
    | quiet h =>
      rcases h with h | ⟨_, w', hw', hless⟩
      · cases hlevel.symm.trans h
      · cases hw.symm.trans hw'
        exact absurd hcount (Nat.not_le.mpr hless)
    | attached _ _ h => cases hactive.symm.trans h
    | opened w' _ _ hw' _ =>
      cases hw.symm.trans hw'
      refine ⟨rfl, ?_, fun i hi => ?_⟩
      · exact linkedEvents_opened rfl rfl rfl (hs.event_ids.insert (hf.event 0))
          (unlinked_incident hs hf 1)
      · exact linkedEvents_opened_other (unlinked_event hs hf 0) hi

omit [Platform] hf in
/-- The incident of a linked event is there, in the event's group. -/
theorem incident_of_linked {i : UUID} {v : Event} (hv : v ∈ linkedEvents i s) :
    ∃ row ∈ s.incidents, row.id = i ∧ row.service_id = v.service_id ∧
      row.fingerprint = v.fingerprint ∧ v.level.failing = true := by
  obtain ⟨hmem, hl⟩ := mem_linkedEvents.mp hv
  obtain ⟨row, hrow, w, hw, hid, hwid, hservice, hfp, hlevel⟩ := hs.links _ hl
  obtain rfl := hs.event_ids.eq hw hmem hwid
  exact ⟨row, hrow, hid, hservice, hfp, hlevel⟩

/-- A linked event stays linked, until its service is deleted. -/
theorem TelemetryStep.linked {r : Request} {t : Store} (h : TelemetryStep e s r t) {i : UUID}
    {v : Event} (hv : v ∈ linkedEvents i s)
    (hr : ∀ credentials, r ≠ .tenant credentials (.delete_service v.service_id)) :
    v ∈ linkedEvents i t := by
  obtain ⟨row, hrow, rfl, hservice, _⟩ := incident_of_linked hs hv
  cases h with
  | same _ _ hl => rwa [hl]
  | deleted service_id _ hi hl =>
    have hkept : row ∈ t.incidents := by
      rw [hi]
      refine List.mem_filter.mpr ⟨hrow, ?_⟩
      rw [hservice, decide_eq_true_eq]
      rintro rfl
      exact hr _ rfl
    rwa [hl row hkept]
  | acknowledged _ _ _ _ _ _ hl => rwa [hl]
  | resolved _ _ _ _ _ _ hl => rwa [hl]
  | quiet _ _ _ _ hl => rwa [hl]
  | attached _ incident _ _ _ _ hown hl =>
    by_cases heq : row.id = incident.id
    · rw [heq, hown]
      exact List.mem_append_left _ (heq ▸ hv)
    · rwa [hl _ heq]
  | opened _ _ _ _ hl => rwa [hl _ (hf.incident 1 row hrow)]

end

end pulseforge

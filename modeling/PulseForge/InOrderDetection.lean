-- Detection for a group whose failing events arrive in the order of their
-- times: there is an incident if and only if five of the events are near, the
-- first arrival that made them five detected it, and it has all events since.
import PulseForge.Lib.Window
import PulseForge.FailedRequests
import PulseForge.Interleavings
import PulseForge.TelemetrySteps

open txn table window

namespace pulseforge

/-! ## A group in a store -/

def Event.instant (v : Event) : Int := v.occurred_at.instant

def WINDOW : Int := INCIDENT_WINDOW_SECONDS * SECOND

theorem Event.service_of_group {v : Event} {group : UUID × Text} (h : v.group = group) :
    v.service_id = group.1 := congrArg Prod.fst h

theorem Incident.service_of_group {i : Incident} {group : UUID × Text} (h : i.group = group) :
    i.service_id = group.1 := congrArg Prod.fst h

/-- The failing events of a group, in the order of their arrival. -/
def failingOf (group : UUID × Text) (s : Store) : List Event :=
  s.events.filter fun v => decide (v.group = group) && v.level.failing

/-- The incidents of a group. -/
def incidentsIn (group : UUID × Text) (s : Store) : List Incident :=
  s.incidents.filter fun i => i.group = group

/-- The incidents of a group with the times of their detection. -/
def detections (group : UUID × Text) (s : Store) : List (UUID × DateTime) :=
  (incidentsIn group s).map fun i => (i.id, i.detected_at)

/-- Five of the events lie in a closed interval of 60 seconds. -/
def FiveNear (events : List Event) : Prop := Crowded Event.instant WINDOW INCIDENT_THRESHOLD events

/-- The detection of a group says what its failing events say. -/
inductive Exact (group : UUID × Text) (s : Store) : Prop
  | none (hfew : ¬ FiveNear (failingOf group s)) (hnone : detections group s = [])
  | one (before after : List Event) (v : Event) (incident_id : UUID)
      (heq : failingOf group s = before ++ v :: after) (hfew : ¬ FiveNear before)
      (hfive : FiveNear (before ++ [v])) (hone : detections group s = [(incident_id, v.occurred_at)])
      (hlinked : linkedEvents incident_id s =
        (failingOf group s).filter fun w => decide (v.instant - WINDOW ≤ w.instant))

/-- As long as its failing events come in order, the detection of the group is
exact, and its incident is not resolved. -/
def Tracks (group : UUID × Text) (s : Store) : Prop :=
  Chronological Event.instant (failingOf group s) →
    Exact group s ∧ ∀ i ∈ s.incidents, i.group = group → i.isActive = true

/-! ## What a step leaves alone -/

section
variable {group : UUID × Text} {s t : Store}

theorem mem_detections {incident_id : UUID} {d : DateTime}
    (h : (incident_id, d) ∈ detections group s) :
    ∃ i ∈ s.incidents, i.group = group ∧ i.id = incident_id := by
  obtain ⟨i, hi, heq⟩ := List.mem_map.mp h
  obtain ⟨hmem, hgroup⟩ := List.mem_filter.mp hi
  exact ⟨i, hmem, by simpa using hgroup, congrArg Prod.fst heq⟩

theorem detections_ne_nil {i : Incident} (hi : i ∈ s.incidents) (hgroup : i.group = group) :
    detections group s ≠ [] := by
  intro hnil
  have hmem : (i.id, i.detected_at) ∈ detections group s :=
    List.mem_map.mpr ⟨i, List.mem_filter.mpr ⟨hi, by simpa using hgroup⟩, rfl⟩
  rw [hnil] at hmem
  cases hmem

/-- With an incident in the group, five of its failing events are near. -/
theorem Exact.five (h : Exact group s) {i : Incident} (hi : i ∈ s.incidents)
    (hgroup : i.group = group) : FiveNear (failingOf group s) := by
  cases h with
  | none _ hnone => exact absurd hnone (detections_ne_nil hi hgroup)
  | one before after v _ heq _ hfive _ _ =>
    rw [heq, List.append_cons]
    exact hfive.append after

theorem Exact.congr (h : Exact group s) (hv : failingOf group t = failingOf group s)
    (hi : detections group t = detections group s)
    (hl : ∀ i ∈ s.incidents, i.group = group → linkedEvents i.id t = linkedEvents i.id s) :
    Exact group t := by
  cases h with
  | none hfew hnone => exact .none (hv ▸ hfew) (hi.trans hnone)
  | one before after v incident_id heq hfew hfive hone hlinked =>
    obtain ⟨i, hmem, hgroup, rfl⟩ :=
      mem_detections (d := v.occurred_at) (by rw [hone]; exact List.mem_singleton.mpr rfl)
    refine .one before after v i.id (hv.trans heq) hfew hfive (hi.trans hone) ?_
    rw [hl i hmem hgroup, hlinked, hv]

/-- An update of one incident that keeps its key columns and its detection. -/
theorem detections_update {incident_id : UUID} {f : Incident → Incident}
    (hi : t.incidents = updateWhere (fun i => i.id = incident_id) f s.incidents)
    (hf : ∀ i, (f i).id = i.id ∧ (f i).group = i.group ∧ (f i).detected_at = i.detected_at) :
    detections group t = detections group s := by
  unfold detections incidentsIn
  rw [hi]
  unfold updateWhere
  rw [List.filter_map, List.map_map]
  have hgroup : ∀ i : Incident, (if (decide (i.id = incident_id)) = true then f i else i).group =
      i.group := by
    intro i
    split
    · exact (hf i).2.1
    · rfl
  have hsame : s.incidents.filter ((fun i : Incident => decide (i.group = group)) ∘ fun r =>
      if (decide (r.id = incident_id)) = true then f r else r) =
        s.incidents.filter fun i => decide (i.group = group) :=
    List.filter_congr fun i _ => by rw [Function.comp_apply, hgroup i]
  rw [hsame]
  refine List.map_congr_left fun i _ => ?_
  simp only [Function.comp_apply]
  split
  · rw [(hf i).1, (hf i).2.2]
  · rfl

/-- The rows of an update that keeps every group, and that leaves the rows of
this group active. -/
theorem active_update {incident_id : UUID} {f : Incident → Incident}
    (hi : t.incidents = updateWhere (fun i => i.id = incident_id) f s.incidents)
    (hf : ∀ i, (f i).group = i.group)
    (hrow : ∀ i ∈ s.incidents, i.id = incident_id → i.group = group → (f i).isActive = true)
    (h : ∀ i ∈ s.incidents, i.group = group → i.isActive = true) :
    ∀ i ∈ t.incidents, i.group = group → i.isActive = true := by
  rw [hi]
  refine forall_updateWhere h fun i hmem hid hgroup => ?_
  rw [hf] at hgroup
  exact hrow i hmem (by simpa using hid) hgroup

theorem failingOf_append (group : UUID × Text) {event : Event} (hv : t.events = s.events ++ [event]) :
    failingOf group t = if event.group = group ∧ event.level.failing = true then
      failingOf group s ++ [event] else failingOf group s := by
  unfold failingOf
  rw [hv, List.filter_append]
  by_cases h : event.group = group ∧ event.level.failing = true
  · rw [if_pos h, List.filter_cons_of_pos (by simp [h.1, h.2]), List.filter_nil]
  · rw [if_neg h, List.filter_cons_of_neg (by simpa [Bool.and_eq_true] using h), List.filter_nil,
      List.append_nil]

/-- The window of a failing event holds failing events of its group. -/
theorem detectionWindow_eq {event : Event} {w : DateTime} (hlevel : event.level.failing = true)
    (hw : event.occurred_at.minus_seconds INCIDENT_WINDOW_SECONDS = some w) :
    detectionWindow event w s = (failingOf event.group s ++ [event]).filter
      (within Event.instant WINDOW (event.instant - WINDOW)) := by
  have hstart := DateTime.minus_seconds_instant hw
  have hall : failingOf event.group s ++ [event] =
      (s.events ++ [event]).filter fun v => decide (v.group = event.group) && v.level.failing := by
    unfold failingOf
    rw [List.filter_append, List.filter_cons_of_pos (by simp [hlevel]), List.filter_nil]
  rw [hall, List.filter_filter]
  unfold detectionWindow
  refine List.filter_congr fun v _ => ?_
  unfold inWindow within Event.group WINDOW Event.instant
  rw [hstart, Bool.eq_iff_iff]
  simp only [Bool.and_eq_true, decide_eq_true_eq, Prod.mk.injEq]
  constructor
  · rintro ⟨⟨⟨⟨hservice, hfp⟩, hfailing⟩, hlow⟩, hhigh⟩
    exact ⟨⟨hlow, by omega⟩, ⟨hservice, hfp⟩, hfailing⟩
  · rintro ⟨⟨hlow, hhigh⟩, ⟨hservice, hfp⟩, hfailing⟩
    exact ⟨⟨⟨⟨hservice, hfp⟩, hfailing⟩, hlow⟩, by omega⟩

end

/-! ## Steps -/

variable [Platform]

section
variable {group : UUID × Text} {s t : Store} {e : Env} {r : Request} {event : Event}
  (hs : Consistent s) (hf : Fresh e s)
include hs

omit [Platform] in
/-- Incidents of two groups are two incidents. -/
theorem id_ne_of_group {i j : Incident} (hi : i ∈ s.incidents) (hj : j ∈ s.incidents)
    (hgroup : i.group ≠ j.group) : i.id ≠ j.id :=
  fun heq => hgroup (congrArg Incident.group (hs.incident_ids.eq hi hj heq))

omit [Platform] hs in
theorem tracks_of_no_rows (hv : failingOf group s = []) (hi : ∀ i ∈ s.incidents, i.group ≠ group) :
    Tracks group s := by
  refine fun _ => ⟨.none ?_ ?_, fun i hmem hgroup => absurd hgroup (hi i hmem)⟩
  · rw [hv]
    exact not_crowded_nil (by decide)
  · unfold detections incidentsIn
    rw [List.map_eq_nil_iff, List.filter_eq_nil_iff]
    intro i hmem
    simpa using hi i hmem

omit [Platform] hs in
/-- A step that keeps the rows of the group, or updates them as an
acknowledgement does. -/
theorem Tracks.keep (h : Tracks group s) (hv : failingOf group t = failingOf group s)
    (hi : detections group t = detections group s)
    (hl : ∀ i ∈ s.incidents, i.group = group → linkedEvents i.id t = linkedEvents i.id s)
    (hactive : (∀ i ∈ s.incidents, i.group = group → i.isActive = true) →
      ∀ i ∈ t.incidents, i.group = group → i.isActive = true) : Tracks group t := by
  intro horder
  rw [hv] at horder
  obtain ⟨hexact, hrows⟩ := h horder
  exact ⟨hexact.congr hv hi hl, hactive hrows⟩

omit [Platform] hs in
theorem tracks_deleted (h : Tracks group s) {service_id : UUID}
    (hv : t.events = s.events.filter fun v => v.service_id ≠ service_id)
    (hi : t.incidents = s.incidents.filter fun i => i.service_id ≠ service_id)
    (hl : ∀ i ∈ t.incidents, linkedEvents i.id t = linkedEvents i.id s) : Tracks group t := by
  by_cases hown : group.1 = service_id
  · refine tracks_of_no_rows ?_ fun i hmem hgroup => ?_
    · unfold failingOf
      rw [hv, List.filter_filter, List.filter_eq_nil_iff]
      intro v _ hp
      simp only [Bool.and_eq_true, decide_eq_true_eq] at hp
      exact hp.2 ((Event.service_of_group hp.1.1).trans hown)
    · rw [hi] at hmem
      have hne := (List.mem_filter.mp hmem).2
      simp only [decide_eq_true_eq] at hne
      exact hne ((Incident.service_of_group hgroup).trans hown)
  · refine h.keep ?_ ?_ ?_ ?_
    · unfold failingOf
      rw [hv]
      refine filter_filter_of_imp _ fun v _ hp => ?_
      simp only [Bool.and_eq_true, decide_eq_true_eq] at hp ⊢
      exact fun heq => hown ((Event.service_of_group hp.1).symm.trans heq)
    · unfold detections incidentsIn
      rw [hi]
      congr 1
      refine filter_filter_of_imp _ fun i _ hp => ?_
      simp only [decide_eq_true_eq] at hp ⊢
      exact fun heq => hown ((Incident.service_of_group hp).symm.trans heq)
    · intro i hmem hgroup
      refine hl i ?_
      rw [hi]
      refine List.mem_filter.mpr ⟨hmem, ?_⟩
      rw [decide_eq_true_eq]
      exact fun heq => hown ((Incident.service_of_group hgroup).symm.trans heq)
    · intro hactive i hmem
      rw [hi] at hmem
      exact hactive i (List.mem_filter.mp hmem).1

omit [Platform] hs in
/-- A failing event that opens nothing leaves fewer than five near ones. -/
theorem tracks_quiet (h : Tracks group s) (hquiet : event.level.failing = false ∨
      find_active_incident event s = none ∧
        ∃ w, event.occurred_at.minus_seconds INCIDENT_WINDOW_SECONDS = some w ∧
          (detectionWindow event w s).length < INCIDENT_THRESHOLD)
    (hv : t.events = s.events ++ [event]) (hi : t.incidents = s.incidents)
    (hl : ∀ i, linkedEvents i t = linkedEvents i s) : Tracks group t := by
  have hdet : detections group t = detections group s := by
    unfold detections incidentsIn
    rw [hi]
  have happend := failingOf_append group hv
  by_cases hmine : event.group = group ∧ event.level.failing = true
  · rw [if_pos hmine] at happend
    obtain ⟨rfl, hlevel⟩ := hmine
    rcases hquiet with hquiet | ⟨hactive, w, hw, hless⟩
    · cases hlevel.symm.trans hquiet
    intro horder
    rw [happend] at horder
    obtain ⟨hexact, hrows⟩ := h horder.init
    -- An incident of the group would be active, and would have been found.
    have hnone : ∀ i ∈ s.incidents, i.group ≠ event.group := fun i hmem hgroup =>
      no_active_of_none hactive i hmem (hrows i hmem hgroup) hgroup
    refine ⟨?_, fun i hmem hgroup => absurd hgroup (hnone i (hi ▸ hmem))⟩
    rw [detectionWindow_eq hlevel hw] at hless
    cases hexact with
    | none hfew hnone =>
      refine .none ?_ (hdet.trans hnone)
      rw [happend]
      rintro hfive
      rcases (crowded_snoc_iff horder).mp hfive with hold | hlast
      · exact hfew hold
      · omega
    | one before after v id _ _ _ hone _ =>
      obtain ⟨i, hmem, hgroup, _⟩ :=
        mem_detections (d := v.occurred_at) (by rw [hone]; exact List.mem_singleton.mpr rfl)
      exact absurd hgroup (hnone i hmem)
  · rw [if_neg hmine] at happend
    exact h.keep happend hdet (fun i _ _ => hl i.id) (by rw [hi]; exact id)

omit [Platform] in
theorem tracks_attached (h : Tracks group s) {incident : Incident} {now : Int}
    (hlevel : event.level.failing = true) (hactive : find_active_incident event s = some incident)
    (hv : t.events = s.events ++ [event])
    (hi : t.incidents = updateWhere (fun i => i.id = incident.id) (escalated event now) s.incidents)
    (hown : linkedEvents incident.id t = linkedEvents incident.id s ++ [event])
    (hl : ∀ i, i ≠ incident.id → linkedEvents i t = linkedEvents i s) : Tracks group t := by
  obtain ⟨hmem, hservice, hfp, hopen⟩ := activeIncident_of_some hactive
  have hkeys : ∀ i, (escalated event now i).id = i.id ∧ (escalated event now i).group = i.group ∧
      (escalated event now i).detected_at = i.detected_at := by
    intro i
    unfold escalated
    split <;> exact ⟨rfl, rfl, rfl⟩
  have hdet : detections group t = detections group s := detections_update hi hkeys
  have hrows : (∀ i ∈ s.incidents, i.group = group → i.isActive = true) →
      ∀ i ∈ t.incidents, i.group = group → i.isActive = true := by
    refine active_update hi (fun i => (hkeys i).2.1) fun i hmem' heq _ => ?_
    obtain rfl := hs.incident_ids.eq hmem' hmem heq
    unfold escalated
    split <;> exact hopen
  have hgroup : incident.group = event.group := by
    unfold Incident.group Event.group
    rw [hservice, hfp]
  have happend := failingOf_append group hv
  by_cases hmine : event.group = group
  · subst hmine
    rw [if_pos ⟨rfl, hlevel⟩] at happend
    intro horder
    rw [happend] at horder
    obtain ⟨hexact, hactive⟩ := h horder.init
    refine ⟨?_, hrows hactive⟩
    have hfive := hexact.five hmem hgroup
    cases hexact with
    | none hfew => exact absurd hfive hfew
    | one before after v id heq hfew hnear hone hlinked =>
      have hid : (incident.id, incident.detected_at) ∈ detections event.group s :=
        List.mem_map.mpr ⟨incident, List.mem_filter.mpr ⟨hmem, by simpa using hgroup⟩, rfl⟩
      rw [hone, List.mem_singleton, Prod.mk.injEq] at hid
      obtain ⟨rfl, -⟩ := hid
      refine .one before (after ++ [event]) v incident.id ?_ hfew hnear (hdet.trans hone) ?_
      · rw [happend, heq, List.append_assoc]
        rfl
      · -- The new event comes last, so it is not before the start of the window.
        have hlate : v.instant ≤ event.instant :=
          horder.le_last v (by rw [heq]; simp)
        have hkept : decide (v.instant - WINDOW ≤ event.instant) = true := by
          unfold WINDOW INCIDENT_WINDOW_SECONDS SECOND
          rw [decide_eq_true_eq]
          omega
        rw [hown, hlinked, happend, List.filter_append, List.filter_cons, if_pos hkept,
          List.filter_nil]
  · rw [if_neg (fun h => hmine h.1)] at happend
    refine h.keep happend hdet (fun i hmem' hgroup' => hl i.id ?_) hrows
    refine id_ne_of_group hs hmem' hmem ?_
    rw [hgroup', hgroup]
    exact fun h => hmine h.symm

include hf

omit hs in
theorem tracks_opened (h : Tracks group s) {w : DateTime} (ho : Opens s e r event w)
    (hv : t.events = s.events ++ [event]) (hi : t.incidents = s.incidents ++ [new_incident e event])
    (hown : linkedEvents (e.uuid 1) t = detectionWindow event w s)
    (hl : ∀ i, i ≠ e.uuid 1 → linkedEvents i t = linkedEvents i s) : Tracks group t := by
  have happend := failingOf_append group hv
  have hdet : detections group t = detections group s ++
      if event.group = group then [(e.uuid 1, event.occurred_at)] else [] := by
    unfold detections incidentsIn
    rw [hi, List.filter_append, List.map_append]
    congr 1
    by_cases hmine : event.group = group
    · have hnew : decide ((new_incident e event).group = group) = true := decide_eq_true hmine
      rw [if_pos hmine, List.filter_cons, if_pos hnew]
      rfl
    · have hnew : ¬ decide ((new_incident e event).group = group) = true :=
        fun h => hmine (of_decide_eq_true h)
      rw [if_neg hmine, List.filter_cons, if_neg hnew]
      rfl
  have hother : ∀ i ∈ s.incidents, linkedEvents i.id t = linkedEvents i.id s :=
    fun i hmem => hl i.id (hf.incident 1 i hmem)
  by_cases hmine : event.group = group
  · subst hmine
    rw [if_pos ⟨rfl, ho.failing⟩] at happend
    rw [if_pos rfl] at hdet
    intro horder
    rw [happend] at horder
    obtain ⟨hexact, hactive⟩ := h horder.init
    have hnone : ∀ i ∈ s.incidents, i.group ≠ event.group := fun i hmem hgroup =>
      no_active_of_none ho.unfound i hmem (hactive i hmem hgroup) hgroup
    have hwindow := detectionWindow_eq (s := s) ho.failing ho.start
    constructor
    · cases hexact with
      | none hfew hempty =>
        refine .one (failingOf event.group s) [] event (e.uuid 1) happend hfew ?_ ?_ ?_
        · refine (crowded_snoc_iff horder).mpr (Or.inr ?_)
          rw [← hwindow]
          exact ho.reached
        · rw [hdet, hempty]
          rfl
        · rw [hown, hwindow, horder.filter_within_last, happend]
      | one before after v id _ _ _ hone _ =>
        obtain ⟨i, hmem, hgroup, _⟩ :=
          mem_detections (d := v.occurred_at) (by rw [hone]; exact List.mem_singleton.mpr rfl)
        exact absurd hgroup (hnone i hmem)
    · rw [hi]
      intro i hmem hgroup
      rcases List.mem_append.mp hmem with hmem | hmem
      · exact absurd hgroup (hnone i hmem)
      · rw [List.mem_singleton.mp hmem]
        rfl
  · rw [if_neg (fun h => hmine h.1)] at happend
    rw [if_neg hmine, List.append_nil] at hdet
    refine h.keep happend hdet (fun i hmem _ => hother i hmem) fun hactive i hmem hgroup => ?_
    rw [hi] at hmem
    rcases List.mem_append.mp hmem with hmem | hmem
    · exact hactive i hmem hgroup
    · rw [List.mem_singleton.mp hmem] at hgroup
      exact absurd hgroup hmine

/-- One request, unless it resolves an incident of the group. -/
theorem TelemetryStep.tracks (hstep : TelemetryStep e s r t) (h : Tracks group s)
    (hr : ∀ i ∈ s.incidents, i.group = group →
      ∀ credentials, r ≠ .tenant credentials (.resolve_incident i.id)) : Tracks group t := by
  have hrow : ∀ {f : Incident → Incident} {incident : Incident}, incident ∈ s.incidents →
      t.incidents = updateWhere (fun i => i.id = incident.id) f s.incidents →
      (∀ i, (f i).group = i.group) → ((f incident).isActive = true ∨ incident.group ≠ group) →
      (∀ i ∈ s.incidents, i.group = group → i.isActive = true) →
      ∀ i ∈ t.incidents, i.group = group → i.isActive = true := by
    intro f incident hmem hi hf hor
    refine active_update hi hf fun i hmem' heq hgroup => ?_
    obtain rfl := hs.incident_ids.eq hmem' hmem heq
    rcases hor with hactive | hne
    · exact hactive
    · exact absurd hgroup hne
  have hsame : t.events = s.events → failingOf group t = failingOf group s := by
    intro hv
    unfold failingOf
    rw [hv]
  cases hstep with
  | same hv hi hl =>
    refine h.keep (hsame hv) ?_ (fun i _ _ => hl i.id) (by rw [hi]; exact id)
    unfold detections incidentsIn
    rw [hi]
  | deleted service_id hv hi hl => exact tracks_deleted h hv hi hl
  | acknowledged incident user hmem hopen hv hi hl =>
    exact h.keep (hsame hv) (detections_update hi fun _ => ⟨rfl, rfl, rfl⟩) (fun i _ _ => hl i.id)
      (hrow hmem hi (fun _ => rfl) (Or.inl rfl))
  | resolved incident user hmem hopen hv hi hl =>
    refine h.keep (hsame hv) (detections_update hi fun _ => ⟨rfl, rfl, rfl⟩) (fun i _ _ => hl i.id)
      (hrow hmem hi (fun _ => rfl) (Or.inr fun hgroup => ?_))
    exact hr incident hmem hgroup _ rfl
  | quiet _ hquiet hv hi hl => exact tracks_quiet h hquiet hv hi hl
  | attached _ incident hlevel hactive hv hi hown hl =>
    exact tracks_attached hs h hlevel hactive hv hi hown hl
  | opened ho hv hi hown hl => exact tracks_opened hf h ho hv hi hown hl

end

/-! ## Every run -/

/-- The group of a service and an event type. -/
def typeGroup (service_id : UUID) (event_type : Text) : UUID × Text :=
  (service_id, create_event_fingerprint service_id event_type)

/-- The request resolves an incident of the group, and is not refused. -/
def ResolvesIn (group : UUID × Text) (s : Store) (c : Env × Request) : Prop :=
  ∃ i ∈ s.incidents, i.group = group ∧ ∃ credentials body,
    c.2 = .tenant credentials (.resolve_incident i.id) ∧ (handle c.1 c.2 s).1 = .ok body

theorem tracks_served {group : UUID × Text} {s : Store} {e : Env} {r : Request}
    (hs : Consistent s) (hf : Fresh e s) (h : Tracks group s)
    (hr : ¬ ResolvesIn group s (e, r)) : Tracks group (handle e r s).2 := by
  by_cases hresolve : ∃ i ∈ s.incidents, i.group = group ∧
      ∃ credentials, r = .tenant credentials (.resolve_incident i.id)
  · obtain ⟨i, hi, hgroup, credentials, rfl⟩ := hresolve
    -- The request was refused.
    cases hreply : (handle e (.tenant credentials (.resolve_incident i.id)) s).1 with
    | error failure =>
      rw [tenant_failure e credentials _ s failure hreply]
      exact h
    | ok body => exact absurd ⟨i, hi, hgroup, credentials, body, rfl, hreply⟩ hr
  · refine (telemetry_step hs hf r).tracks hs hf h ?_
    intro i hi hgroup credentials heq
    exact hresolve ⟨i, hi, hgroup, credentials, heq⟩

/-- The incident of a group whose failing events are those of the list: it is
the only one, the first event that made five near ones detected it, and it has
all events from 60 seconds before that one on. -/
def DetectedExactly (group : UUID × Text) (s : Store) (i : Incident) : Prop :=
  incidentsIn group s = [i] ∧
    (∃ before v after, failingOf group s = before ++ v :: after ∧ ¬ FiveNear before ∧
      FiveNear (before ++ [v]) ∧ i.detected_at = v.occurred_at) ∧
    linkedEvents i.id s =
      (failingOf group s).filter fun w => decide (i.detected_at.instant - WINDOW ≤ w.instant)

omit [Platform] in
theorem Exact.detected {group : UUID × Text} {s : Store} (h : Exact group s) :
    ((∃ i ∈ s.incidents, i.group = group) ↔ FiveNear (failingOf group s)) ∧
      ∀ i ∈ s.incidents, i.group = group → DetectedExactly group s i := by
  cases h with
  | none hfew hnone =>
    have hno : ∀ i ∈ s.incidents, i.group ≠ group :=
      fun i hi hgroup => absurd hnone (detections_ne_nil hi hgroup)
    refine ⟨⟨fun ⟨i, hi, hgroup⟩ => absurd hgroup (hno i hi), fun hfive => absurd hfive hfew⟩, ?_⟩
    exact fun i hi hgroup => absurd hgroup (hno i hi)
  | one before after v incident_id heq hfew hfive hone hlinked =>
    obtain ⟨i, hrow, hid⟩ := List.map_eq_singleton_iff.mp hone
    simp only [Prod.mk.injEq] at hid
    obtain ⟨rfl, hdetected⟩ := hid
    have hmem : i ∈ incidentsIn group s := hrow ▸ List.mem_singleton.mpr rfl
    obtain ⟨hi, hgroup⟩ := List.mem_filter.mp hmem
    have hnear : FiveNear (failingOf group s) := by
      rw [heq, List.append_cons]
      exact hfive.append after
    refine ⟨⟨fun _ => hnear, fun _ => ⟨i, hi, by simpa using hgroup⟩⟩, fun j hj hjgroup => ?_⟩
    have hj : j ∈ incidentsIn group s := List.mem_filter.mpr ⟨hj, by simpa using hjgroup⟩
    rw [hrow, List.mem_singleton] at hj
    subst hj
    refine ⟨hrow, ⟨before, v, after, heq, hfew, hfive, hdetected⟩, ?_⟩
    rw [hlinked, hdetected]
    rfl

/-- In a run without a resolution of its incident, a group whose failing events
came in the order of their times has an incident if and only if five of them
are near, and the incident is the one that they ask for. -/
theorem in_order_detection_is_exact (service_id : UUID) (event_type : Text)
    (past : List (Env × Request))
    (hfresh : run.Every serve Store.empty (fun s c => Fresh c.1 s) past)
    (hresolve : run.Every serve Store.empty
      (fun s c => ¬ ResolvesIn (typeGroup service_id event_type) s c) past)
    (horder : Chronological Event.instant
      (failingOf (typeGroup service_id event_type) (run.after serve Store.empty past))) :
    ((∃ i ∈ (run.after serve Store.empty past).incidents, i.group = typeGroup service_id event_type) ↔
        FiveNear (failingOf (typeGroup service_id event_type) (run.after serve Store.empty past))) ∧
      ∀ i ∈ (run.after serve Store.empty past).incidents, i.group = typeGroup service_id event_type →
        DetectedExactly (typeGroup service_id event_type) (run.after serve Store.empty past) i := by
  have hinv := (hfresh.and hresolve).inv
    (I := fun s => Consistent s ∧ Tracks (typeGroup service_id event_type) s) ?_ ?_
  · exact (hinv.2 horder).1.detected
  · refine ⟨consistent_empty, ?_⟩
    refine tracks_of_no_rows rfl fun i hi => ?_
    cases hi
  · rintro s ⟨e, r⟩ ⟨hf, hr⟩ ⟨hs, h⟩
    exact ⟨serve_consistent hs hf r, tracks_served hs hf h hr⟩

omit [Platform] in
/-- The five errors of the sample run. -/
theorem the_sample_incident_is_exact :
    let group := @typeGroup samplePlatform 30 "crash".toList
    let s := run.after (@serve samplePlatform) Store.empty sampleRun
    FiveNear (failingOf group s) ∧ ∃ i ∈ s.incidents, DetectedExactly group s i := by
  intro group s
  have hexact := @in_order_detection_is_exact samplePlatform 30 "crash".toList sampleRun
    sample_run_fresh ?_ (by decide +kernel)
  · have hincident : ∃ i ∈ s.incidents, i.group = group := by decide +kernel
    obtain ⟨i, hi, hgroup⟩ := hincident
    exact ⟨hexact.1.mp ⟨i, hi, hgroup⟩, i, hi, hexact.2 i hi hgroup⟩
  · refine ⟨⟨⟨⟨⟨⟨⟨⟨⟨⟨trivial, ?_⟩, ?_⟩, ?_⟩, ?_⟩, ?_⟩, ?_⟩, ?_⟩, ?_⟩, ?_⟩, ?_⟩
    all_goals
      rintro ⟨_, _, _, _, _, h, _⟩
      cases h

end pulseforge

-- Which deliveries of failing events open an incident. The window of an event
-- looks back from its own time, so the order of two near events matters, and
-- no other order does.
import Mathlib.Data.List.Perm.Subperm
import PulseForge.Lib.Run
import PulseForge.Consistency

open txn table

namespace pulseforge

variable [Platform]

/-! ## Deliveries -/

/-- The delivery of an event, with the key that sent it and its draws. -/
structure Delivery where
  env : Env
  payload : EventCreate
  api_key : ApiKey

/-- The store after the delivery of an event. -/
def deliver (s : Store) (d : Delivery) : Store :=
  (runRequest (ingest_event d.env d.payload d.api_key) s).2

/-- An incident of the service and the fingerprint exists, active or not. -/
def HasIncident (service_id : UUID) (fingerprint : Text) (s : Store) : Prop :=
  ∃ i ∈ s.incidents, i.service_id = service_id ∧ i.fingerprint = fingerprint

/-- Deliveries to one service of failing events of one type, newest first: no
rate limit stops them, and no two of them have one event id. -/
structure OneStream (service_id : UUID) (fingerprint : Text) (past : List Delivery) : Prop where
  limit : ∀ d ∈ past, d.env.retry_after = none
  service : ∀ d ∈ past, d.api_key.service_id = service_id
  type : ∀ d ∈ past, create_event_fingerprint service_id d.payload.event_type = fingerprint
  failing : ∀ d ∈ past, d.payload.level.failing = true
  distinct : (past.map fun d => strip d.payload.event_id).Nodup

/-! ## What counts -/

/-- The columns of the event fit, whatever key sends it. -/
def EventCreate.storable (p : EventCreate) : Bool :=
  Platform.storable_text (strip p.event_id) && (strip p.event_id).length ≤ 120 &&
    Platform.storable_text (Platform.upper (strip p.event_type)) &&
    (Platform.upper (strip p.event_type)).length ≤ 120 &&
    Platform.storable_text (strip p.message) && p.trace_id.all Platform.storable_text &&
    p.request_id.all Platform.storable_text && Platform.storable_json p.metadata

theorem storable_new_event (e : Env) (p : EventCreate) (k : ApiKey) :
    (new_event e p k).storable = p.storable := rfl

/-- The event can be stored while no incident is active: its columns fit, its
window does not start before year 1, and its id is new to the service. -/
def Counts (s₀ : Store) (service_id : UUID) (p : EventCreate) : Prop :=
  p.storable = true ∧ (p.occurred_at.minus_seconds INCIDENT_WINDOW_SECONDS).isSome = true ∧
    findEvent service_id (strip p.event_id) s₀ = none

instance (s₀ : Store) (service_id : UUID) (p : EventCreate) : Decidable (Counts s₀ service_id p) :=
  inferInstanceAs (Decidable (_ ∧ _ ∧ _ = none))

/-- The time lies in the window of the event: the 60 seconds up to its own time. -/
def EventCreate.covers (p : EventCreate) (instant : Int) : Bool :=
  decide (p.occurred_at.instant - INCIDENT_WINDOW_SECONDS * SECOND ≤ instant) &&
    decide (instant ≤ p.occurred_at.instant)

section
variable (s₀ : Store) (service_id : UUID)

/-- The events that count and lie in the window of `p`. -/
def inReach (p : EventCreate) (ps : List EventCreate) : List EventCreate :=
  ps.filter fun q => decide (Counts s₀ service_id q) && p.covers q.occurred_at.instant

/-- Some event that counts finds five in its window when it arrives, with
itself. The list is newest first. -/
def Detects : List EventCreate → Prop
  | [] => False
  | p :: past => Detects past ∨
      Counts s₀ service_id p ∧ INCIDENT_THRESHOLD ≤ (inReach s₀ service_id p (p :: past)).length

/-- The times of the events that count. -/
def countedTimes (ps : List EventCreate) : List Int :=
  (ps.filter fun q => Counts s₀ service_id q).map fun q => q.occurred_at.instant

end

/-- The times of the failing events that a store holds of one group. -/
def storedTimes (service_id : UUID) (fingerprint : Text) (s : Store) : List Int :=
  (s.events.filter fun v => v.service_id = service_id && v.fingerprint = fingerprint &&
    v.level.failing).map fun v => v.occurred_at.instant

theorem inReach_length (s₀ : Store) (service_id : UUID) (p : EventCreate) (ps : List EventCreate) :
    (inReach s₀ service_id p ps).length = (countedTimes s₀ service_id ps).countP p.covers := by
  unfold inReach countedTimes
  induction ps with
  | nil => rfl
  | cons q ps ih =>
    by_cases hq : Counts s₀ service_id q
    · by_cases hc : p.covers q.occurred_at.instant = true
      · simp [hq, hc, ih]
      · simp [hq, hc, ih]
    · simp [hq, ih]

omit [Platform] in
theorem matchingEvents_length {event : Event} {w : DateTime}
    (hw : event.occurred_at.minus_seconds INCIDENT_WINDOW_SECONDS = some w) (s : Store)
    (p : EventCreate) (hp : p.occurred_at = event.occurred_at) :
    (matchingEvents event w s).length =
      (storedTimes event.service_id event.fingerprint s).countP p.covers := by
  have hstart := DateTime.minus_seconds_instant hw
  unfold matchingEvents storedTimes inWindow EventCreate.covers
  rw [hstart, hp, List.countP_map, List.countP_eq_length_filter, List.filter_filter]
  congr 1
  apply List.filter_congr
  intro v _
  simp only [Function.comp_apply, Bool.and_assoc]
  rw [Bool.eq_iff_iff]
  simp only [Bool.and_eq_true]
  tauto

/-! ## What a delivery leaves -/

theorem deliver_outcome (s : Store) (d : Delivery) :
    ∃ reply, IngestOutcome d.env d.payload d.api_key s reply (deliver s d) :=
  ⟨_, ingest_outcome d.env d.payload d.api_key s⟩

/-- An incident never goes away by a delivery. -/
theorem HasIncident.deliver {service_id : UUID} {fingerprint : Text} {s : Store}
    (h : HasIncident service_id fingerprint s) (d : Delivery) :
    HasIncident service_id fingerprint (pulseforge.deliver s d) := by
  obtain ⟨i, hi, hs, hf⟩ := h
  obtain ⟨reply, ho⟩ := deliver_outcome s d
  generalize pulseforge.deliver s d = s' at ho ⊢
  cases ho with
  | limited => exact ⟨i, hi, hs, hf⟩
  | duplicate => exact ⟨i, hi, hs, hf⟩
  | unstorable => exact ⟨i, hi, hs, hf⟩
  | failed => exact ⟨i, hi, hs, hf⟩
  | stored _ _ _ _ _ he =>
    cases he with
    | quiet => exact ⟨i, hi, hs, hf⟩
    | opened => exact ⟨i, List.mem_append_left _ hi, hs, hf⟩
    | attached incident =>
      obtain ⟨links, rows, _, hrows, heq⟩ := attached_eq d.env incident _ _
      rw [heq]
      rcases hrows with rfl | rfl
      · exact ⟨i, hi, hs, hf⟩
      · exact exists_updateWhere hi ⟨hs, hf⟩ fun _ => ⟨hs, hf⟩

/-- As long as no incident is there, the stored times are the times that count. -/
structure Recorded (s₀ : Store) (service_id : UUID) (fingerprint : Text) (past : List Delivery)
    (s : Store) : Prop where
  times : storedTimes service_id fingerprint s =
    (countedTimes s₀ service_id (past.map Delivery.payload)).reverse
  ids : ∀ id, (∀ d ∈ past, strip d.payload.event_id ≠ id) →
    (findEvent service_id id s = none ↔ findEvent service_id id s₀ = none)

section
variable {s₀ : Store} {service_id : UUID} {fingerprint : Text} {past : List Delivery} {d : Delivery}
  {s : Store}

/-- The event of a delivery belongs to the stream. -/
theorem OneStream.event_group (hd : OneStream service_id fingerprint (d :: past)) :
    (new_event d.env d.payload d.api_key).service_id = service_id ∧
      (new_event d.env d.payload d.api_key).fingerprint = fingerprint := by
  have hservice := hd.service d (List.mem_cons_self ..)
  refine ⟨hservice, ?_⟩
  show create_event_fingerprint d.api_key.service_id d.payload.event_type = fingerprint
  rw [hservice, hd.type d (List.mem_cons_self ..)]

/-- The times and the ids after a delivery that stored the event. -/
theorem Recorded.store (h : Recorded s₀ service_id fingerprint past s)
    (hd : OneStream service_id fingerprint (d :: past)) (hc : Counts s₀ service_id d.payload) :
    Recorded s₀ service_id fingerprint (d :: past) (storeEvent d.env d.payload d.api_key s) := by
  obtain ⟨hevent, hfp⟩ := hd.event_group
  have hlevel : (new_event d.env d.payload d.api_key).level.failing = true :=
    hd.failing d (List.mem_cons_self ..)
  constructor
  · have hcounted : countedTimes s₀ service_id ((d :: past).map Delivery.payload) =
        d.payload.occurred_at.instant :: countedTimes s₀ service_id (past.map Delivery.payload) := by
      simp [countedTimes, hc]
    rw [hcounted, List.reverse_cons, ← h.times]
    show ((s.events ++ [new_event d.env d.payload d.api_key]).filter _).map _ = _
    rw [List.filter_append, List.map_append]
    congr 1
    simp only [hevent, hfp, hlevel, List.filter_cons, decide_true, Bool.and_self, if_true,
      List.filter_nil, List.map_cons, List.map_nil]
    rfl
  · intro id hid
    have hne := hid d (List.mem_cons_self ..)
    rw [← h.ids id fun d' hd' => hid d' (List.mem_cons_of_mem _ hd')]
    show (s.events ++ [new_event d.env d.payload d.api_key]).find? _ = none ↔ s.events.find? _ = none
    rw [List.find?_append, Option.or_eq_none_iff]
    have hnot : (List.find? (fun v : Event => v.service_id = service_id && v.event_id = id)
        [new_event d.env d.payload d.api_key]) = none := by
      have hne : (new_event d.env d.payload d.api_key).event_id ≠ id := hne
      simp [hne]
    simp [hnot]

/-- The times and the ids after a delivery that stored no event. -/
theorem Recorded.skip (h : Recorded s₀ service_id fingerprint past s)
    (hc : ¬ Counts s₀ service_id d.payload) {s' : Store} (hs' : s'.events = s.events) :
    Recorded s₀ service_id fingerprint (d :: past) s' := by
  constructor
  · have hcounted : countedTimes s₀ service_id ((d :: past).map Delivery.payload) =
        countedTimes s₀ service_id (past.map Delivery.payload) := by
      simp [countedTimes, hc]
    rw [hcounted, ← h.times]
    unfold storedTimes
    rw [hs']
  · intro id hid
    rw [← h.ids id fun d' hd' => hid d' (List.mem_cons_of_mem _ hd')]
    unfold findEvent
    rw [hs']

/-- The window of a stored event holds the events that count and lie in it. -/
theorem Recorded.window_length
    (h : Recorded s₀ service_id fingerprint (d :: past) (storeEvent d.env d.payload d.api_key s))
    (hd : OneStream service_id fingerprint (d :: past)) {w : DateTime}
    (hw : d.payload.occurred_at.minus_seconds INCIDENT_WINDOW_SECONDS = some w) :
    (matchingEvents (new_event d.env d.payload d.api_key) w
        (storeEvent d.env d.payload d.api_key s)).length =
      (inReach s₀ service_id d.payload ((d :: past).map Delivery.payload)).length := by
  obtain ⟨hevent, hfp⟩ := hd.event_group
  rw [matchingEvents_length (p := d.payload) hw _ rfl, hevent, hfp, h.times, List.countP_reverse,
    inReach_length]

/-- The id of the next delivery is new to the stream, so it is stored only if
it was stored at the start. -/
theorem Recorded.next_id (h : Recorded s₀ service_id fingerprint past s)
    (hd : OneStream service_id fingerprint (d :: past)) :
    findEvent service_id (strip d.payload.event_id) s = none ↔
      findEvent service_id (strip d.payload.event_id) s₀ = none := by
  apply h.ids
  intro d' hd' heq
  have hnodup := hd.distinct
  rw [List.map_cons, List.nodup_cons] at hnodup
  exact hnodup.1 (List.mem_map.mpr ⟨d', hd', heq⟩)

/-- A delivery finds no active incident as long as the stream has none. -/
theorem OneStream.unfound (hd : OneStream service_id fingerprint (d :: past))
    (hnone : ¬ HasIncident service_id fingerprint s) {t : Store} (ht : t.incidents = s.incidents) :
    find_active_incident (new_event d.env d.payload d.api_key) t = none := by
  obtain ⟨hevent, hfp⟩ := hd.event_group
  unfold find_active_incident
  rw [ht]
  refine List.find?_eq_none.mpr fun i hi hp => hnone ?_
  simp only [isActiveFor, Bool.and_eq_true, decide_eq_true_eq] at hp
  exact ⟨i, hi, hp.1.1.trans hevent, hp.1.2.trans hfp⟩

/-- After a delivery an incident is there exactly if its event counts and has
enough others in its window; the records go on as long as none is there. -/
def Decides (s₀ : Store) (service_id : UUID) (fingerprint : Text) (past : List Delivery) (d : Delivery)
    (s' : Store) : Prop :=
  (HasIncident service_id fingerprint s' ↔ Counts s₀ service_id d.payload ∧
    INCIDENT_THRESHOLD ≤
      (inReach s₀ service_id d.payload ((d :: past).map Delivery.payload)).length) ∧
  (¬ HasIncident service_id fingerprint s' → Recorded s₀ service_id fingerprint (d :: past) s')

/-- A delivery that stores nothing, and does not count. -/
theorem Recorded.decides_skip (h : Recorded s₀ service_id fingerprint past s)
    (hnone : ¬ HasIncident service_id fingerprint s) {s' : Store} (hevents : s'.events = s.events)
    (hincidents : s'.incidents = s.incidents) (hc : ¬ Counts s₀ service_id d.payload) :
    Decides s₀ service_id fingerprint past d s' := by
  refine ⟨?_, fun _ => h.skip hc hevents⟩
  constructor
  · rintro ⟨i, hi, hrest⟩
    exact absurd ⟨i, hincidents ▸ hi, hrest⟩ hnone
  · rintro ⟨hyes, _⟩
    exact absurd hyes hc

/-- A delivery that stored its event. -/
theorem Recorded.decides_stored (h : Recorded s₀ service_id fingerprint past s)
    (hnone : ¬ HasIncident service_id fingerprint s)
    (hd : OneStream service_id fingerprint (d :: past))
    (hs : d.payload.storable = true)
    (hnew : findEvent service_id (strip d.payload.event_id) s₀ = none)
    {incident_id : Option UUID} {s' : Store}
    (he : Evaluated d.env (new_event d.env d.payload d.api_key)
      (storeEvent d.env d.payload d.api_key s) (.ok incident_id) s') :
    Decides s₀ service_id fingerprint past d s' := by
  obtain ⟨hevent, hfp⟩ := hd.event_group
  have hcounts : ∀ w, d.payload.occurred_at.minus_seconds INCIDENT_WINDOW_SECONDS = some w →
      Counts s₀ service_id d.payload := by
    intro w hw
    exact ⟨hs, by rw [hw]; rfl, hnew⟩
  cases he with
  | quiet hquiet =>
    rcases hquiet with hquiet | ⟨_, w, hw, hcount⟩
    · have hquiet : d.payload.level.failing = false := hquiet
      rw [hd.failing d (List.mem_cons_self ..)] at hquiet
      cases hquiet
    · have hstored := h.store hd (hcounts w hw)
      rw [hstored.window_length hd hw] at hcount
      refine ⟨?_, fun _ => hstored⟩
      constructor
      · intro hin
        exact absurd hin hnone
      · rintro ⟨_, hle⟩
        omega
  | attached incident _ hactive =>
    rw [hd.unfound hnone (t := storeEvent d.env d.payload d.api_key s) rfl] at hactive
    cases hactive
  | opened w _ _ hw hcount =>
    have hstored := h.store hd (hcounts w hw)
    rw [hstored.window_length hd hw] at hcount
    have hhas : HasIncident service_id fingerprint
        (opened d.env (new_event d.env d.payload d.api_key) w
          (storeEvent d.env d.payload d.api_key s)) :=
      ⟨new_incident d.env (new_event d.env d.payload d.api_key),
        List.mem_append_right _ (List.mem_singleton.mpr rfl), hevent, hfp⟩
    exact ⟨⟨fun _ => ⟨hcounts w hw, hcount⟩, fun _ => hhas⟩, fun hno => absurd hhas hno⟩

/-- One delivery, while no incident is there. -/
theorem deliver_recorded (h : Recorded s₀ service_id fingerprint past s)
    (hnone : ¬ HasIncident service_id fingerprint s)
    (hd : OneStream service_id fingerprint (d :: past)) :
    Decides s₀ service_id fingerprint past d (deliver s d) := by
  have hservice := hd.service d (List.mem_cons_self ..)
  have hnew := h.next_id hd
  obtain ⟨reply, ho⟩ := deliver_outcome s d
  generalize deliver s d = s' at ho ⊢
  cases ho with
  | limited _ hl =>
    rw [hd.limit d (List.mem_cons_self ..)] at hl
    cases hl
  | duplicate existing _ _ hv =>
    refine h.decides_skip hnone rfl rfl ?_
    rintro ⟨_, _, hnone₀⟩
    rw [hservice, hnew.mpr hnone₀] at hv
    cases hv
  | unstorable _ _ _ hs =>
    refine h.decides_skip hnone rfl rfl ?_
    rintro ⟨hstorable, _⟩
    rw [storable_new_event, hstorable] at hs
    cases hs
  | failed _ _ _ _ _ he =>
    refine h.decides_skip hnone rfl rfl ?_
    rintro ⟨_, hwindow, _⟩
    cases he with
    | early _ _ _ hw =>
      have hw : d.payload.occurred_at.minus_seconds INCIDENT_WINDOW_SECONDS = none := hw
      rw [hw] at hwindow
      cases hwindow
  | stored _ _ _ hv hs he =>
    rw [hservice] at hv
    exact h.decides_stored hnone hd ((storable_new_event _ _ _).symm.trans hs) (hnew.mp hv) he

end

/-- The failing events of the group are new to the store. -/
def NoSuchEvents (service_id : UUID) (fingerprint : Text) (s : Store) : Prop :=
  storedTimes service_id fingerprint s = []

theorem OneStream.tail {service_id : UUID} {fingerprint : Text} {d : Delivery} {past : List Delivery}
    (h : OneStream service_id fingerprint (d :: past)) : OneStream service_id fingerprint past where
  limit := fun x hx => h.limit x (List.mem_cons_of_mem _ hx)
  service := fun x hx => h.service x (List.mem_cons_of_mem _ hx)
  type := fun x hx => h.type x (List.mem_cons_of_mem _ hx)
  failing := fun x hx => h.failing x (List.mem_cons_of_mem _ hx)
  distinct := (List.nodup_cons.mp h.distinct).2

/-- An incident exists after a run of deliveries if it was there, or if some
event found five in its window when it arrived. -/
theorem incident_iff_detects {s₀ : Store} {service_id : UUID} {fingerprint : Text}
    (h₀ : NoSuchEvents service_id fingerprint s₀) (past : List Delivery)
    (hd : OneStream service_id fingerprint past) :
    HasIncident service_id fingerprint (run.after deliver s₀ past) ↔
      HasIncident service_id fingerprint s₀ ∨ Detects s₀ service_id (past.map Delivery.payload) := by
  suffices h : (HasIncident service_id fingerprint (run.after deliver s₀ past) ↔
      HasIncident service_id fingerprint s₀ ∨ Detects s₀ service_id (past.map Delivery.payload)) ∧
      (¬ HasIncident service_id fingerprint (run.after deliver s₀ past) →
        Recorded s₀ service_id fingerprint past (run.after deliver s₀ past)) from h.1
  induction past with
  | nil =>
    refine ⟨by simp [Detects], fun _ => ⟨h₀, fun _ _ => Iff.rfl⟩⟩
  | cons d past ih =>
    obtain ⟨hiff, hrecorded⟩ := ih hd.tail
    rw [run.after_cons, List.map_cons, Detects]
    by_cases hhas : HasIncident service_id fingerprint (run.after deliver s₀ past)
    · have hnow := hhas.deliver d
      refine ⟨⟨fun _ => ?_, fun _ => hnow⟩, fun hno => absurd hnow hno⟩
      rcases hiff.mp hhas with h | h
      · exact Or.inl h
      · exact Or.inr (Or.inl h)
    · obtain ⟨hstep, hnext⟩ := deliver_recorded (hrecorded hhas) hhas hd
      refine ⟨?_, hnext⟩
      rw [hstep]
      constructor
      · intro hdetected
        exact Or.inr (Or.inr hdetected)
      · rintro (h | h | h)
        · exact absurd (hiff.mpr (Or.inl h)) hhas
        · exact absurd (hiff.mpr (Or.inr h)) hhas
        · exact h

/-! ## Other orders of arrival -/

/-- Two events whose times are apart, by at most the window, arrive in the
same order in both lists. -/
def KeepsNear (l l' : List EventCreate) : Prop :=
  ∀ p q, [p, q].Sublist l → p.occurred_at.instant ≠ q.occurred_at.instant →
    (p.occurred_at.instant - q.occurred_at.instant).natAbs ≤ INCIDENT_WINDOW_SECONDS * SECOND →
      [p, q].Sublist l'

theorem detects_iff {s₀ : Store} {service_id : UUID} (l : List EventCreate) :
    Detects s₀ service_id l ↔ ∃ newer p older, l = newer ++ p :: older ∧ Counts s₀ service_id p ∧
      INCIDENT_THRESHOLD ≤ (inReach s₀ service_id p (p :: older)).length := by
  induction l with
  | nil =>
    constructor
    · exact False.elim
    · rintro ⟨newer, p, older, h, _⟩
      cases newer <;> cases h
  | cons a l ih =>
    rw [Detects, ih]
    constructor
    · rintro (⟨newer, p, older, rfl, h⟩ | h)
      · exact ⟨a :: newer, p, older, rfl, h⟩
      · exact ⟨[], a, l, rfl, h⟩
    · rintro ⟨newer, p, older, heq, h⟩
      cases newer with
      | nil =>
        cases heq
        exact Or.inr h
      | cons b newer =>
        rw [List.cons_append] at heq
        cases heq
        exact Or.inl ⟨newer, p, older, rfl, h⟩

omit [Platform] in
theorem sublist_of_not_mem {α : Type} {a : α} {r l m : List α} (h : (a :: r).Sublist (l ++ m))
    (ha : a ∉ l) : (a :: r).Sublist m := by
  induction l with
  | nil => exact h
  | cons b l ih =>
    rw [List.mem_cons, not_or] at ha
    rw [List.cons_append] at h
    cases h with
    | cons _ h => exact ih h ha.2
    | cons_cons _ h => exact absurd rfl ha.1

/-- An event that counts lies in its own window. -/
theorem self_mem_inReach {s₀ : Store} {service_id : UUID} {p : EventCreate}
    (hp : Counts s₀ service_id p) (older : List EventCreate) :
    p ∈ inReach s₀ service_id p (p :: older) := by
  refine List.mem_filter.mpr ⟨List.mem_cons_self .., ?_⟩
  have hpos : (0 : Int) ≤ INCIDENT_WINDOW_SECONDS * SECOND := by decide
  simp only [hp, decide_true, Bool.true_and, EventCreate.covers, Bool.and_eq_true,
    decide_eq_true_eq]
  omega

omit [Platform] in
theorem covers_congr {p q : EventCreate} (h : p.occurred_at.instant = q.occurred_at.instant) :
    p.covers = q.covers := by
  unfold EventCreate.covers
  rw [h]

/-- What one order of arrival detects, an order that keeps the near events detects. -/
theorem detects_of_keepsNear {s₀ : Store} {service_id : UUID} {l l' : List EventCreate}
    (hperm : l.Perm l') (hdistinct : l.Nodup) (hkeeps : KeepsNear l l')
    (h : Detects s₀ service_id l) : Detects s₀ service_id l' := by
  classical
  obtain ⟨newer, p, older, rfl, hp, hcount⟩ := (detects_iff l).mp h
  have hsub : (p :: older).Sublist (newer ++ p :: older) := List.sublist_append_right ..
  have hpin := self_mem_inReach hp older
  -- The newest of the events of the window of `p` that carry the time of `p`.
  have hmem : ∀ x ∈ p :: older, x ∈ l' := fun x hx => hperm.mem_iff.mp (hsub.subset hx)
  obtain ⟨p', hfind⟩ : ∃ p', (l'.find? fun x => decide (x ∈ inReach s₀ service_id p (p :: older)) &&
      decide (x.occurred_at.instant = p.occurred_at.instant)) = some p' := by
    rw [← Option.isSome_iff_exists, List.find?_isSome]
    refine ⟨p, hmem p (List.mem_cons_self ..), ?_⟩
    simp [hpin]
  obtain ⟨hp', newer', older', rfl, hnewest⟩ := List.find?_eq_some_iff_append.mp hfind
  simp only [Bool.and_eq_true, decide_eq_true_eq] at hp'
  obtain ⟨hp'in, hp'time⟩ := hp'
  obtain ⟨hp'mem, hp'reach⟩ := List.mem_filter.mp hp'in
  simp only [Bool.and_eq_true, decide_eq_true_eq] at hp'reach
  have hcovers := covers_congr hp'time
  refine (detects_iff _).mpr ⟨newer', p', older', rfl, hp'reach.1, hcount.trans ?_⟩
  have hnodup : (inReach s₀ service_id p (p :: older)).Nodup := (hdistinct.sublist hsub).filter _
  refine (List.Nodup.subperm hnodup fun x hx => ?_).length_le
  obtain ⟨hxmem, hxreach⟩ := List.mem_filter.mp hx
  refine List.mem_filter.mpr ⟨?_, by rw [hcovers]; exact hxreach⟩
  -- An event of the window is at or behind the newest one.
  have hpold : p ∉ newer' := by
    intro hin
    have := hnewest p hin
    simp [hpin] at this
  have hxl' := hmem x hxmem
  by_cases htime : x.occurred_at.instant = p.occurred_at.instant
  · rcases List.mem_append.mp hxl' with hin | hin
    · have := hnewest x hin
      simp [hx, htime] at this
    · exact hin
  · have hxold : x ∈ older := by
      rcases List.mem_cons.mp hxmem with rfl | hin
      · exact absurd rfl htime
      · exact hin
    have hnear : [p, x].Sublist (newer ++ p :: older) :=
      ((List.singleton_sublist.mpr hxold).cons_cons p).trans hsub
    have hwindow : ((p.occurred_at.instant - x.occurred_at.instant).natAbs : Int) ≤
        INCIDENT_WINDOW_SECONDS * SECOND := by
      simp only [Bool.and_eq_true, EventCreate.covers, decide_eq_true_eq] at hxreach
      omega
    have hkept := sublist_of_not_mem (hkeeps p x hnear (fun heq => htime heq.symm) hwindow) hpold
    exact hkept.subset (by simp)

omit [Platform] in
theorem pair_sublist {α : Type} {a b : α} {l : List α} (ha : a ∈ l) (hb : b ∈ l) (hne : a ≠ b) :
    [a, b].Sublist l ∨ [b, a].Sublist l := by
  induction l with
  | nil => cases ha
  | cons c l ih =>
    rcases List.mem_cons.mp ha with rfl | hal
    · rcases List.mem_cons.mp hb with rfl | hbl
      · exact absurd rfl hne
      · exact Or.inl ((List.singleton_sublist.mpr hbl).cons_cons a)
    · rcases List.mem_cons.mp hb with rfl | hbl
      · exact Or.inr ((List.singleton_sublist.mpr hal).cons_cons b)
      · exact (ih hal hbl).imp (fun h => h.cons c) fun h => h.cons c

omit [Platform] in
theorem not_both_orders {α : Type} {a b : α} {l : List α} (hl : l.Nodup) (h : [a, b].Sublist l) :
    ¬ [b, a].Sublist l := by
  induction l with
  | nil => cases h
  | cons c l ih =>
    obtain ⟨hc, hl⟩ := List.nodup_cons.mp hl
    intro h'
    cases h with
    | cons _ h =>
      cases h' with
      | cons _ h' => exact ih hl h h'
      | cons_cons _ h' => exact hc (h.subset (by simp))
    | cons_cons _ h =>
      cases h' with
      | cons _ h' => exact hc (h'.subset (by simp))
      | cons_cons _ h' => exact hc (h.subset (by simp))

omit [Platform] in
theorem KeepsNear.symm {l l' : List EventCreate} (h : KeepsNear l l') (hperm : l.Perm l')
    (hl : l'.Nodup) : KeepsNear l' l := by
  intro p q hpq htime hnear
  have hp : p ∈ l := hperm.mem_iff.mpr (hpq.subset (by simp))
  have hq : q ∈ l := hperm.mem_iff.mpr (hpq.subset (by simp))
  have hne : p ≠ q := fun heq => htime (by rw [heq])
  rcases pair_sublist hp hq hne with hfirst | hsecond
  · exact hfirst
  · refine absurd (h q p hsecond (fun heq => htime heq.symm) ?_) (not_both_orders hl hpq)
    omega

theorem OneStream.nodup {service_id : UUID} {fingerprint : Text} {l : List Delivery}
    (h : OneStream service_id fingerprint l) : (l.map Delivery.payload).Nodup := by
  have hd := h.distinct
  have hmap : (l.map fun d => strip d.payload.event_id) =
      (l.map Delivery.payload).map fun p => strip p.event_id := by
    rw [List.map_map]
    rfl
  rw [hmap] at hd
  exact List.Nodup.of_map _ hd

/-- Two orders of arrival that agree on the near events open an incident
together, or not at all. -/
theorem near_events_in_order_decide_detection (s₀ : Store) (service_id : UUID) (fingerprint : Text)
    (h₀ : NoSuchEvents service_id fingerprint s₀) (l l' : List Delivery)
    (hl : OneStream service_id fingerprint l) (hl' : OneStream service_id fingerprint l')
    (hperm : (l.map Delivery.payload).Perm (l'.map Delivery.payload))
    (hkeeps : KeepsNear (l.map Delivery.payload) (l'.map Delivery.payload)) :
    HasIncident service_id fingerprint (run.after deliver s₀ l) ↔
      HasIncident service_id fingerprint (run.after deliver s₀ l') := by
  rw [incident_iff_detects h₀ l hl, incident_iff_detects h₀ l' hl']
  have hforth := @detects_of_keepsNear _ s₀ service_id _ _ hperm hl.nodup hkeeps
  have hback := @detects_of_keepsNear _ s₀ service_id _ _ hperm.symm hl'.nodup
    (hkeeps.symm hperm hl'.nodup)
  exact ⟨Or.imp_right hforth, Or.imp_right hback⟩

/-! ## Two orders of five errors -/

/-- The key of the sample run. -/
def sampleApiKey : ApiKey :=
  @new_api_key samplePlatform (sampleEnv 4)
    (new_service (sampleEnv 3) (sampleService 20)) sampleKey

def sampleDelivery (n : Nat) (event_id : Char) (at_second : Fin 60) : Delivery :=
  ⟨sampleEnv n, sampleEvent event_id at_second, sampleApiKey⟩

def sampleFingerprint : Text := @create_event_fingerprint samplePlatform 30 "crash".toList

/-- Five errors, one each second, in the order of their times. The list is newest first. -/
def inOrder : List Delivery :=
  [sampleDelivery 9 'e' 4, sampleDelivery 8 'd' 3, sampleDelivery 7 'c' 2, sampleDelivery 6 'b' 1,
   sampleDelivery 5 'a' 0]

omit [Platform] in
theorem oneStream_sample {l : List Delivery}
    (hl : ∀ d ∈ l, ∃ n c t, d = sampleDelivery n c t)
    (hd : (l.map fun d => strip d.payload.event_id).Nodup) :
    @OneStream samplePlatform 30 sampleFingerprint l := by
  refine @OneStream.mk samplePlatform _ _ _ ?_ ?_ ?_ ?_ hd
  all_goals
    intro d hmem
    obtain ⟨n, c, t, rfl⟩ := hl d hmem
    rfl

instance (service_id : UUID) (fingerprint : Text) (s : Store) :
    Decidable (HasIncident service_id fingerprint s) :=
  inferInstanceAs (Decidable (∃ i ∈ s.incidents, _ ∧ _))

omit [Platform] in
/-- The five errors open an incident in their order, and none in the reverse order. -/
theorem the_reverse_order_opens_no_incident :
    let s := run.after (@serve samplePlatform) Store.empty (sampleRun.drop 5)
    NoSuchEvents 30 sampleFingerprint s ∧
      @OneStream samplePlatform 30 sampleFingerprint inOrder ∧
      @OneStream samplePlatform 30 sampleFingerprint inOrder.reverse ∧
      HasIncident 30 sampleFingerprint (run.after (@deliver samplePlatform) s inOrder) ∧
      ¬ HasIncident 30 sampleFingerprint (run.after (@deliver samplePlatform) s inOrder.reverse) := by
  refine ⟨by unfold NoSuchEvents; decide +kernel, oneStream_sample ?_ (by decide +kernel),
    oneStream_sample ?_ (by decide +kernel), by decide +kernel, by decide +kernel⟩
  · simp [inOrder]
  · simp [inOrder]

/-- Five errors of one second. -/
def atOnce : List Delivery :=
  [sampleDelivery 9 'e' 0, sampleDelivery 8 'd' 0, sampleDelivery 7 'c' 0, sampleDelivery 6 'b' 0,
   sampleDelivery 5 'a' 0]

omit [Platform] in
/-- Errors of one second may arrive in any order: here, in two. -/
theorem errors_of_one_second_open_an_incident :
    let s := run.after (@serve samplePlatform) Store.empty (sampleRun.drop 5)
    HasIncident 30 sampleFingerprint (run.after (@deliver samplePlatform) s atOnce.reverse) := by
  intro s
  have hstream : @OneStream samplePlatform 30 sampleFingerprint atOnce :=
    oneStream_sample (by simp [atOnce]) (by decide +kernel)
  have hreverse : @OneStream samplePlatform 30 sampleFingerprint atOnce.reverse :=
    oneStream_sample (by simp [atOnce]) (by decide +kernel)
  have hnone : NoSuchEvents 30 sampleFingerprint s := by unfold NoSuchEvents; decide +kernel
  have htimes : ∀ p ∈ atOnce.map Delivery.payload, p.occurred_at.instant = 120 * SECOND := by
    simp [atOnce, sampleDelivery, sampleEvent, DateTime.instant]
  have hkeeps : KeepsNear (atOnce.map Delivery.payload) (atOnce.reverse.map Delivery.payload) := by
    intro p q hpq htime _
    refine absurd ?_ htime
    rw [htimes p (hpq.subset (by simp)), htimes q (hpq.subset (by simp))]
  have hperm : (atOnce.map Delivery.payload).Perm (atOnce.reverse.map Delivery.payload) :=
    atOnce.reverse_perm.symm.map _
  exact (@near_events_in_order_decide_detection samplePlatform s 30 sampleFingerprint hnone atOnce
    atOnce.reverse hstream hreverse hperm hkeeps).mp (by decide +kernel)

end pulseforge

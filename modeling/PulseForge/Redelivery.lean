-- Deliveries that come again. A run of ingests, acknowledgements and
-- resolutions leaves the same store without the deliveries of events that it
-- had delivered before, but for the time at which each key was last used.
import PulseForge.EventHomes

open txn table

namespace pulseforge

/-! ## Stores up to the use of their keys -/

def unusedKey (k : ApiKey) : ApiKey := { k with last_used_at := none }

/-- The store with all keys as if they had never been used. -/
def forgetUse (s : Store) : Store := { s with api_keys := s.api_keys.map unusedKey }

/-- The stores differ at most in the last use of their keys. -/
def SameButUse (s t : Store) : Prop := forgetUse s = forgetUse t

theorem sameButUse_touch (api_key_id : UUID) (now : Int) (s : Store) :
    SameButUse s (touchApiKey api_key_id now s) := by
  have hkeys : (updateWhere (fun k => k.id = api_key_id)
      (fun k => { k with last_used_at := some now }) s.api_keys).map unusedKey =
        s.api_keys.map unusedKey := by
    unfold updateWhere
    rw [List.map_map]
    refine List.map_congr_left fun k _ => ?_
    simp only [Function.comp_apply]
    split <;> rfl
  unfold SameButUse forgetUse touchApiKey
  simp only [hkeys]

section
variable {s t : Store} (h : SameButUse s t)
include h

/-- A query that does not read the use of keys. -/
theorem SameButUse.query {α : Type} {q : Store → α} (hq : ∀ s, q (forgetUse s) = q s) : q s = q t := by
  rw [← hq s, ← hq t, h]

/-- A write that does not read the use of keys. -/
theorem SameButUse.write {f : Store → Store} (hf : ∀ s, forgetUse (f s) = f (forgetUse s)) :
    SameButUse (f s) (f t) := by
  unfold SameButUse
  rw [hf, hf, h]

theorem SameButUse.touch (api_key_id : UUID) (now : Int) :
    SameButUse (touchApiKey api_key_id now s) (touchApiKey api_key_id now t) :=
  ((sameButUse_touch api_key_id now s).symm.trans h).trans (sameButUse_touch api_key_id now t)

end

/-- The same, of a handler's steps. -/
theorem matches_query {α : Type} {q : Store → α} (hq : ∀ s, q (forgetUse s) = q s) :
    Matches SameButUse Eq (select q : Handler α) (select q) :=
  matches_select fun _ _ h => h.query hq

theorem matches_check {α : Type} {q : Store → Except Failure α} (hq : ∀ s, q (forgetUse s) = q s) :
    Matches SameButUse Eq (ask q) (ask q) :=
  matches_ask fun _ _ h => agree_eq_iff.mpr (h.query hq)

theorem matches_update {f : Store → Store} (hf : ∀ s, forgetUse (f s) = f (forgetUse s)) :
    Matches SameButUse Eq (write f : Handler Unit) (write f) :=
  matches_write fun _ _ h => h.write hf

theorem matches_insert {f : Store → Except Failure Store}
    (hf : ∀ s, (f s).map forgetUse = f (forgetUse s)) :
    Matches SameButUse Eq (flush f) (flush f) := by
  refine matches_flush fun s t h => ?_
  have heq : (f s).map forgetUse = (f t).map forgetUse := by
    rw [hf, hf, h]
  cases hs : f s <;> cases ht : f t <;> simp [hs, ht, Except.map] at heq
  · exact heq
  · exact heq

/-! ## The handlers -/

theorem attach_matches (e : Env) (incident : Incident) (event : Event) :
    Matches SameButUse Eq (attach_to_active e incident event) (attach_to_active e incident event) := by
  unfold attach_to_active link_event_if_needed
  apply Matches.bind_eq
  · apply (matches_query fun _ => rfl).bind_eq
    intro linked
    split
    · exact matches_pure rfl
    · exact matches_update fun _ => rfl
  · intro _
    split
    · refine Matches.bind_eq (matches_update ?_) fun _ => matches_pure rfl
      exact fun _ => rfl
    · exact matches_pure rfl

/-- The index of active incidents is not a matter of keys. -/
theorem insertIncident_matches (incident : Incident) :
    Matches SameButUse Eq (flush (insertIncident incident)) (flush (insertIncident incident)) := by
  refine matches_insert fun s => ?_
  unfold insertIncident
  rw [show (forgetUse s).incidents = s.incidents from rfl]
  by_cases htaken : (incident.status.active && s.incidents.any fun i =>
      decide (i.service_id = incident.service_id) && decide (i.fingerprint = incident.fingerprint) &&
        i.status.active) = true
  · rw [if_pos htaken, if_pos htaken]
    rfl
  · rw [if_neg htaken, if_neg htaken]
    rfl

theorem evaluate_matches (e : Env) (event : Event) :
    Matches SameButUse Eq (evaluate_event_for_incident e event)
      (evaluate_event_for_incident e event) := by
  unfold evaluate_event_for_incident
  split
  · exact matches_pure rfl
  · apply (matches_query fun _ => rfl).bind_eq
    intro found
    split
    · exact (attach_matches e _ event).bind_eq fun _ => matches_pure rfl
    · apply (matches_check fun _ => rfl).bind_eq
      intro window_start
      apply (matches_query fun _ => rfl).bind_eq
      intro matching_count
      split
      · exact matches_pure rfl
      · apply ((insertIncident_matches _).attempt _).bind_eq
        intro stored
        split
        · apply (matches_query fun _ => rfl).bind_eq
          intro matching
          refine Matches.bind_eq (matches_update ?_) fun _ => matches_pure rfl
          exact fun _ => rfl
        · apply (matches_query fun _ => rfl).bind_eq
          intro winner
          split
          · exact matches_throw _
          · exact (attach_matches e _ event).bind_eq fun _ => matches_pure rfl

theorem answer_duplicate_matches (existing : Event) :
    Matches SameButUse Eq (answer_duplicate existing) (answer_duplicate existing) := by
  unfold answer_duplicate
  exact (matches_query fun _ => rfl).bind_eq fun _ => matches_pure rfl

variable [Platform]

theorem insertEvent_matches (event : Event) (api_key_id : UUID) (now : Int) :
    Matches SameButUse Eq (flush fun s => (insertEvent event s).map (touchApiKey api_key_id now))
      (flush fun s => (insertEvent event s).map (touchApiKey api_key_id now)) := by
  refine matches_flush fun s t h => ?_
  have hfind : findEvent event.service_id event.event_id s = findEvent event.service_id event.event_id t :=
    h.query fun _ => rfl
  unfold insertEvent
  rw [hfind]
  split
  · split
    · rfl
    · exact (h.write (f := fun s => { s with events := s.events ++ [event] }) fun _ => rfl).touch _ _
  · rfl

theorem ingest_matches (e : Env) (payload : EventCreate) (k : ApiKey) :
    Matches SameButUse Eq (ingest_event e payload k) (ingest_event e payload k) := by
  unfold ingest_event
  apply Matches.bind_eq
  · unfold check_rate_limit
    split
    · exact matches_throw _
    · exact matches_pure rfl
  · intro _
    apply (matches_query fun _ => rfl).bind_eq
    intro existing
    split
    · apply (matches_write fun _ _ h => h.touch k.id (e.clock 1)).bind_eq
      intro _
      exact matches_commit.bind_eq fun _ => answer_duplicate_matches _
    · apply ((insertEvent_matches _ _ _).attempt _).bind_eq
      intro stored
      split
      · apply (evaluate_matches e _).bind_eq
        intro incident
        exact matches_commit.bind_eq fun _ => matches_pure rfl
      · apply matches_rollback.bind_eq
        intro _
        apply (matches_query fun _ => rfl).bind_eq
        intro winner
        split
        · exact matches_throw _
        · exact answer_duplicate_matches _

/-- A key is found by its hash, whenever it was used last. -/
theorem get_ingestion_api_key_forgetUse (credentials : Option Bearer) (now : Int) (s : Store) :
    get_ingestion_api_key credentials now (forgetUse s) =
      (get_ingestion_api_key credentials now s).map unusedKey := by
  unfold get_ingestion_api_key
  split
  · rename_i raw
    split
    · have hfind : (forgetUse s).api_keys.find? (fun k => k.key_hash = hash_api_key raw) =
          (s.api_keys.find? fun k => k.key_hash = hash_api_key raw).map unusedKey :=
        List.find?_map
      rw [hfind]
      cases s.api_keys.find? fun k => k.key_hash = hash_api_key raw with
      | none => rfl
      | some k =>
        simp only [Option.map_some]
        rw [show (unusedKey k).revoked_at = k.revoked_at from rfl,
          show (unusedKey k).expires_at = k.expires_at from rfl,
          show (unusedKey k).service_id = k.service_id from rfl,
          show (unusedKey k).scopes = k.scopes from rfl,
          show (forgetUse s).services = s.services from rfl]
        split
        · rfl
        · split
          · rfl
          · split
            · rfl
            · split <;> rfl
    · rfl
  · rfl

omit [Platform] in
theorem answer_matches {α : Type} (body : α → Body) {h : Handler α}
    (hm : Matches SameButUse Eq h h) : Matches SameButUse Eq (answer body h) (answer body h) := by
  unfold answer
  exact hm.bind_eq fun _ => matches_pure rfl

theorem ingest_request_matches (e : Env) (credentials : Option Bearer) (payload : EventCreate) :
    Matches SameButUse Eq (handler e (.ingest credentials payload))
      (handler e (.ingest credentials payload)) := by
  have hask : Matches SameButUse (fun k k' => unusedKey k = unusedKey k')
      (ask (get_ingestion_api_key credentials e.now)) (ask (get_ingestion_api_key credentials e.now)) := by
    refine matches_ask fun s t h => ?_
    have heq : (get_ingestion_api_key credentials e.now s).map unusedKey =
        (get_ingestion_api_key credentials e.now t).map unusedKey := by
      rw [← get_ingestion_api_key_forgetUse, ← get_ingestion_api_key_forgetUse, h]
    cases hs : get_ingestion_api_key credentials e.now s <;>
      cases ht : get_ingestion_api_key credentials e.now t <;> simp [hs, ht, Except.map] at heq
    · exact heq
    · exact heq
  refine hask.bind fun k k' hk => ?_
  -- The handler reads no more of a key than its id, its service and its organization.
  have hforget : ∀ k : ApiKey, answer Body.ingested (ingest_event e payload k) =
      answer .ingested (ingest_event e payload (unusedKey k)) := fun _ => rfl
  rw [hforget k, hforget k', hk]
  exact answer_matches _ (ingest_matches e payload _)

omit [Platform] in
/-- Two updates of other columns, and their commit. -/
theorem saved_matches {α : Type} {f g : Store → Store} (hf : ∀ s, forgetUse (f s) = f (forgetUse s))
    (hg : ∀ s, forgetUse (g s) = g (forgetUse s)) (a : α) :
    Matches SameButUse Eq (do write f; write g; commit; return a : Handler α)
      (do write f; write g; commit; return a) := by
  refine (matches_update hf).bind_eq fun _ => ?_
  refine (matches_update hg).bind_eq fun _ => ?_
  exact matches_commit.bind_eq fun _ => matches_pure rfl

theorem operator_matches (e : Env) (user : User) (incident_id : UUID) :
    Matches SameButUse Eq (acknowledge_incident e incident_id user)
        (acknowledge_incident e incident_id user) ∧
      Matches SameButUse Eq (resolve_incident e incident_id user)
        (resolve_incident e incident_id user) := by
  constructor
  · unfold acknowledge_incident
    apply (matches_check fun _ => rfl).bind_eq
    intro incident
    apply (matches_check fun _ => rfl).bind_eq
    intro actor
    split
    · exact matches_throw _
    · split
      · refine saved_matches ?_ ?_ _ <;> exact fun _ => rfl
      · exact matches_pure rfl
  · unfold resolve_incident
    apply (matches_check fun _ => rfl).bind_eq
    intro incident
    apply (matches_check fun _ => rfl).bind_eq
    intro actor
    split
    · refine saved_matches ?_ ?_ _ <;> exact fun _ => rfl
    · exact matches_pure rfl

/-! ## Runs of telemetry -/

/-- The request delivers an event and is accepted, or it is an acknowledgement
or a resolution. -/
def TelemetryRequest (s : Store) (c : Env × Request) : Prop :=
  (∃ response, AnswersEvent s c response) ∨
    ∃ credentials incident_id, c.2 = .tenant credentials (.acknowledge_incident incident_id) ∨
      c.2 = .tenant credentials (.resolve_incident incident_id)

theorem telemetry_matches {s : Store} {c : Env × Request} (h : TelemetryRequest s c) :
    Matches SameButUse Eq (handler c.1 c.2) (handler c.1 c.2) := by
  obtain ⟨e, r⟩ := c
  rcases h with ⟨_, credentials, payload, rfl, _⟩ | ⟨credentials, incident_id, rfl | rfl⟩
  · exact ingest_request_matches e credentials payload
  · exact (matches_check fun _ => rfl).bind_eq fun user =>
      answer_matches _ (operator_matches e user incident_id).1
  · exact (matches_check fun _ => rfl).bind_eq fun user =>
      answer_matches _ (operator_matches e user incident_id).2

/-- The service and the trimmed event id of a delivery. -/
def deliveryPair (s : Store) (c : Env × Request) : Option (UUID × Text) :=
  match c.2 with
  | .ingest credentials payload =>
    match get_ingestion_api_key credentials c.1.now s with
    | .ok k => some (k.service_id, strip payload.event_id)
    | .error _ => none
  | _ => none

section
variable (start : Store)

/-- The pairs that a past delivered. -/
def delivered : List (Env × Request) → List (UUID × Text)
  | [] => []
  | c :: past => (deliveryPair (run.after serve start past) c).toList ++ delivered past

/-- The request delivers a pair that the past delivered before. -/
def redelivers (past : List (Env × Request)) (c : Env × Request) : Bool :=
  (deliveryPair (run.after serve start past) c).any fun p => p ∈ delivered start past

/-- The run without the deliveries that were not the first of their pair. -/
def firstDeliveries : List (Env × Request) → List (Env × Request)
  | [] => []
  | c :: past => if redelivers start past c then firstDeliveries past else c :: firstDeliveries past

end

omit [Platform] in
theorem findEvent_of_prefix {s t : Store} (h : s.events <+: t.events) {service_id : UUID}
    {event_id : Text} {v : Event} (hv : findEvent service_id event_id s = some v) :
    findEvent service_id event_id t = some v := h.find?_eq_some hv

/-- A delivery that is accepted finds its event, or stores it. -/
theorem answered_delivery {s : Store} {c : Env × Request} {response : EventIngestResponse}
    (h : AnswersEvent s c response) : ∃ p, deliveryPair s c = some p ∧
      ((∃ v, findEvent p.1 p.2 s = some v ∧ response.event = v.response ∧
          response.duplicate = true ∧ ∃ api_key_id now, serve s c = touchApiKey api_key_id now s) ∨
        findEvent p.1 p.2 s = none ∧ ∃ v, (serve s c).events = s.events ++ [v] ∧
          findEvent p.1 p.2 (serve s c) = some v ∧ response.event = v.response) := by
  obtain ⟨e, r⟩ := c
  obtain ⟨credentials, payload, rfl, hanswer⟩ := h
  unfold deliveryPair serve
  cases hk : get_ingestion_api_key credentials e.now s with
  | error failure =>
    rw [ingest_refused payload hk] at hanswer
    cases hanswer
  | ok k =>
    simp only [hk, Option.some.injEq, exists_eq_left']
    obtain ⟨reply, hreply, hout⟩ := ingest_served payload hk
    rw [hanswer] at hreply
    generalize (handle e (.ingest credentials payload) s).2 = t at hout ⊢
    cases reply with
    | error _ => cases hreply
    | ok response =>
      cases hreply
      cases hout with
      | duplicate existing _ _ hv => exact Or.inl ⟨existing, hv, rfl, rfl, k.id, _, rfl⟩
      | stored _ _ _ hv _ he =>
        have hevents : t.events = s.events ++ [new_event e payload k] := by
          obtain ⟨_, _, rfl⟩ := he.store_eq
          rfl
        refine Or.inr ⟨hv, new_event e payload k, hevents, ?_, rfl⟩
        unfold findEvent at hv ⊢
        rw [hevents, List.find?_append, hv]
        simp [new_event]

theorem tenant_events (e : Env) (credentials : Option Bearer) (r : TenantRequest)
    (hr : ∀ service_id, r ≠ .delete_service service_id) (s : Store) :
    (handle e (.tenant credentials r) s).2.events = s.events := by
  rcases tenant_outcome e credentials r s with heq | ⟨_, _, hw⟩
  · rw [heq]
  · generalize (handle e (.tenant credentials r) s).2 = t at hw ⊢
    cases hw
    case service_deleted service_id _ _ _ _ => exact absurd rfl (hr service_id)
    all_goals rfl

/-- Telemetry only adds events. -/
theorem telemetry_events {s : Store} {c : Env × Request} (h : TelemetryRequest s c) :
    s.events <+: (serve s c).events := by
  obtain ⟨e, r⟩ := c
  rcases h with ⟨response, hanswer⟩ | ⟨credentials, incident_id, rfl | rfl⟩
  · obtain ⟨p, _, ⟨v, _, _, _, _, _, heq⟩ | ⟨_, v, hevents, _⟩⟩ := answered_delivery hanswer
    · rw [heq]
      exact List.prefix_rfl
    · rw [hevents]
      exact List.prefix_append _ _
  · have hsame := tenant_events e credentials (.acknowledge_incident incident_id) (fun _ => nofun) s
    exact hsame ▸ List.prefix_rfl
  · have hsame := tenant_events e credentials (.resolve_incident incident_id) (fun _ => nofun) s
    exact hsame ▸ List.prefix_rfl

/-- What delivers a pair was accepted. -/
theorem answers_of_pair {s : Store} {c : Env × Request} {p : UUID × Text}
    (h : TelemetryRequest s c) (hp : deliveryPair s c = some p) : ∃ response, AnswersEvent s c response := by
  rcases h with hanswer | ⟨credentials, incident_id, hc | hc⟩
  · exact hanswer
  · simp [deliveryPair, hc] at hp
  · simp [deliveryPair, hc] at hp

/-- A pair that was delivered has its event from then on. -/
theorem stored_of_pair {s : Store} {c : Env × Request} {p : UUID × Text}
    {response : EventIngestResponse} (h : AnswersEvent s c response)
    (hp : deliveryPair s c = some p) :
    ∃ v, findEvent p.1 p.2 (serve s c) = some v ∧ response.event = v.response := by
  obtain ⟨p', hp', hout⟩ := answered_delivery h
  obtain rfl : p' = p := Option.some.inj (hp'.symm.trans hp)
  rcases hout with ⟨v, hv, hevent, _, _, _, heq⟩ | ⟨_, v, _, hv, hevent⟩
  · exact ⟨v, heq ▸ hv, hevent⟩
  · exact ⟨v, hv, hevent⟩

/-- A delivery of a pair that has its event is a duplicate of it. -/
theorem duplicate_of_pair {s : Store} {c : Env × Request} {p : UUID × Text} {v : Event}
    {response : EventIngestResponse} (h : AnswersEvent s c response)
    (hp : deliveryPair s c = some p) (hv : findEvent p.1 p.2 s = some v) :
    response.duplicate = true ∧ response.event = v.response ∧
      ∃ api_key_id now, serve s c = touchApiKey api_key_id now s := by
  obtain ⟨p', hp', hout⟩ := answered_delivery h
  obtain rfl : p' = p := Option.some.inj (hp'.symm.trans hp)
  rcases hout with ⟨w, hw, hevent, hdup, htouch⟩ | ⟨hnone, _⟩
  · obtain rfl : w = v := Option.some.inj (hw.symm.trans hv)
    exact ⟨hdup, hevent, htouch⟩
  · cases hnone.symm.trans hv

/-- The run without the later deliveries stays beside the whole run, where
every pair that was delivered has its event. -/
theorem redelivery_run {start : Store} {past : List (Env × Request)}
    (h : run.Every serve start TelemetryRequest past) :
    SameButUse (run.after serve start (firstDeliveries start past)) (run.after serve start past) ∧
      ∀ p ∈ delivered start past, (findEvent p.1 p.2 (run.after serve start past)).isSome = true := by
  induction past with
  | nil => exact ⟨rfl, fun _ hp => by cases hp⟩
  | cons c past ih =>
    obtain ⟨hbeside, hstored⟩ := ih h.1
    constructor
    · cases hre : redelivers start past c with
      | true =>
        obtain ⟨p, hp, hpast⟩ := (Option.any_eq_true _ _).mp hre
        obtain ⟨response, hanswer⟩ := answers_of_pair h.2 hp
        obtain ⟨v, hv⟩ := Option.isSome_iff_exists.mp (hstored p (of_decide_eq_true hpast))
        obtain ⟨_, _, api_key_id, now, heq⟩ := duplicate_of_pair hanswer hp hv
        simp only [firstDeliveries, hre, if_true, run.after_cons, heq]
        exact hbeside.trans (sameButUse_touch api_key_id now _)
      | false =>
        simp only [firstDeliveries, hre, Bool.false_eq_true, if_false, run.after_cons]
        exact ((telemetry_matches h.2).runRequest hbeside).2
    · intro p hp
      rcases List.mem_append.mp hp with hp | hp
      · have hp := Option.mem_toList.mp hp
        obtain ⟨response, hanswer⟩ := answers_of_pair h.2 hp
        obtain ⟨v, hv, _⟩ := stored_of_pair hanswer hp
        rw [run.after_cons, hv]
        rfl
      · obtain ⟨v, hv⟩ := Option.isSome_iff_exists.mp (hstored p hp)
        rw [run.after_cons, findEvent_of_prefix (telemetry_events h.2) hv]
        rfl

/-- An event that a pair has stays its event. -/
theorem findEvent_after {start : Store} (before : List (Env × Request)) {p : UUID × Text} {v : Event}
    (hv : findEvent p.1 p.2 (run.after serve start before) = some v) (mid : List (Env × Request))
    (h : run.Every serve start TelemetryRequest (mid ++ before)) :
    findEvent p.1 p.2 (run.after serve start (mid ++ before)) = some v := by
  induction mid with
  | nil => exact hv
  | cons c mid ih => exact findEvent_of_prefix (telemetry_events h.2) (ih h.1)

/-- A delivery and a later one of the same pair: the later one is a duplicate,
answered with the event of the earlier one. -/
def AnsweredAlike (start : Store) (before : List (Env × Request)) (c : Env × Request)
    (mid : List (Env × Request)) (d : Env × Request) : Prop :=
  ∃ first again, AnswersEvent (run.after serve start before) c first ∧
    AnswersEvent (run.after serve start (mid ++ c :: before)) d again ∧
    again.duplicate = true ∧ again.event = first.event

/-- A run of accepted deliveries, acknowledgements and resolutions leaves what
it leaves without the later deliveries of each pair, and those were answered as
duplicates of the first. -/
theorem later_deliveries_are_harmless (start : Store) (past : List (Env × Request))
    (h : run.Every serve start TelemetryRequest past) :
    SameButUse (run.after serve start (firstDeliveries start past)) (run.after serve start past) ∧
      ∀ later d mid c before p, past = later ++ d :: (mid ++ c :: before) →
        deliveryPair (run.after serve start before) c = some p →
        deliveryPair (run.after serve start (mid ++ c :: before)) d = some p →
        AnsweredAlike start before c mid d := by
  refine ⟨(redelivery_run h).1, ?_⟩
  rintro later d mid c before p rfl hc hd
  have hall : run.Every serve start TelemetryRequest (d :: (mid ++ c :: before)) :=
    ((run.every_append _ _).mp h).1
  have hfirst : run.Every serve start TelemetryRequest (c :: before) :=
    ((run.every_append _ _).mp hall.1).1
  obtain ⟨first, hanswer⟩ := answers_of_pair hfirst.2 hc
  obtain ⟨again, hagain⟩ := answers_of_pair hall.2 hd
  obtain ⟨v, hv, hevent⟩ := stored_of_pair hanswer hc
  have hstill := findEvent_after (c :: before) hv mid hall.1
  obtain ⟨hdup, heq, _⟩ := duplicate_of_pair hagain hd hstill
  exact ⟨first, again, hanswer, hagain, hdup, heq.trans hevent.symm⟩

/-- The answer to a delivery. -/
def Answered (reply : Except Failure Body) : Bool :=
  match reply with
  | .ok (.ingested _) => true
  | _ => false

theorem answersEvent_of {s : Store} {c : Env × Request} {credentials : Option Bearer}
    {payload : EventCreate} (hc : c.2 = .ingest credentials payload)
    (h : Answered (handle c.1 c.2 s).1 = true) : ∃ response, AnswersEvent s c response := by
  unfold Answered at h
  split at h
  · exact ⟨_, credentials, payload, hc, ‹_›⟩
  · cases h

/-- The events of the sample run, and the first of them once more, at another time. -/
def sampleRedelivery : List (Env × Request) :=
  (sampleEnv 10, .ingest (some (.text (create_raw_key (sampleEnv 4) true))) (sampleEvent 'a' 7)) ::
    sampleRun.take 5

omit [Platform] in
theorem a_sample_event_is_delivered_twice :
    let start := run.after (@serve samplePlatform) Store.empty (sampleRun.drop 5)
    (@firstDeliveries samplePlatform start sampleRedelivery).length = 5 ∧
      SameButUse (run.after (@serve samplePlatform) start
        (@firstDeliveries samplePlatform start sampleRedelivery))
        (run.after (@serve samplePlatform) start sampleRedelivery) := by
  intro start
  refine ⟨by decide +kernel,
    (@later_deliveries_are_harmless samplePlatform start sampleRedelivery ?_).1⟩
  refine ⟨⟨⟨⟨⟨⟨trivial, ?_⟩, ?_⟩, ?_⟩, ?_⟩, ?_⟩, ?_⟩
  all_goals
    left
    exact @answersEvent_of samplePlatform _ _ _ _ rfl (by decide +kernel)

end pulseforge

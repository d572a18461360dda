-- The incidents that an event is linked to, and the answers to its deliveries.
-- A link is unique for its incident and its event, and for nothing less: after
-- a resolution the window of a new failure may hold events of the old incident.
import PulseForge.TelemetrySteps

open txn table

namespace pulseforge

/-- Each event is linked to at most one incident. -/
def OneHome (s : Store) : Prop :=
  ∀ l ∈ s.incident_events, ∀ l' ∈ s.incident_events, l.event_id = l'.event_id →
    l.incident_id = l'.incident_id

instance (s : Store) : Decidable (OneHome s) :=
  inferInstanceAs (Decidable (∀ l ∈ s.incident_events, ∀ l' ∈ s.incident_events, _ → _))

theorem oneHome_iff {s : Store} (hs : Consistent s) :
    OneHome s ↔ ∀ i j v, v ∈ linkedEvents i s → v ∈ linkedEvents j s → i = j := by
  constructor
  · intro h i j v hi hj
    exact h _ (mem_linkedEvents.mp hi).2 _ (mem_linkedEvents.mp hj).2 rfl
  · intro h l hl l' hl' heq
    obtain ⟨_, _, v, hv, _, hvl, _⟩ := hs.links l hl
    refine h _ _ v (mem_linkedEvents.mpr ⟨hv, hvl ▸ hl⟩) (mem_linkedEvents.mpr ⟨hv, ?_⟩)
    rw [hvl, heq]
    exact hl'

variable [Platform]

/-- The event opens an incident, and an event of its window has one already. -/
def Recounts (s : Store) (c : Env × Request) : Prop :=
  ∃ event w, Opens s c.1 c.2 event w ∧
    ∃ v ∈ detectionWindow event w s, ∃ l ∈ s.incident_events, l.event_id = v.id

/-! ## One request -/

section
variable {s : Store} {e : Env} {r : Request} (hs : Consistent s) (hf : Fresh e s)
include hs hf

/-- An event of the window that has an incident is one that was stored before. -/
theorem linked_of_window {event : Event} {w : DateTime} (hd : Delivers s e r event) {v : Event}
    (hv : v ∈ detectionWindow event w s) {l : IncidentEvent} (hl : l ∈ s.incident_events)
    (hid : l.event_id = v.id) : v ∈ linkedEvents l.incident_id s := by
  rcases List.mem_append.mp (List.mem_filter.mp hv).1 with hmem | hmem
  · exact mem_linkedEvents.mpr ⟨hmem, hid ▸ hl⟩
  · obtain rfl := List.mem_singleton.mp hmem
    cases hd
    exact absurd hid (unlinked_event hs hf 0 l hl)

omit hs in
theorem delivered_is_new {event : Event} (hd : Delivers s e r event) : event ∉ s.events := by
  intro hmem
  cases hd
  exact hf.event 0 _ hmem rfl

theorem oneHome_step (hone : OneHome s) (hc : ¬ Recounts s (e, r)) : OneHome (handle e r s).2 := by
  have hnext := serve_consistent hs hf r
  have hstep := telemetry_step hs hf r
  generalize (handle e r s).2 = t at hnext hstep ⊢
  have hold := (oneHome_iff hs).mp hone
  refine (oneHome_iff hnext).mpr fun i j v hi hj => ?_
  cases hstep with
  | same _ _ hl => exact hold i j v (hl i ▸ hi) (hl j ▸ hj)
  | deleted _ _ _ hl =>
    obtain ⟨_, hrow, rfl, _⟩ := incident_of_linked hnext hi
    obtain ⟨_, hrow', rfl, _⟩ := incident_of_linked hnext hj
    exact hold _ _ v (hl _ hrow ▸ hi) (hl _ hrow' ▸ hj)
  | acknowledged _ _ _ _ _ _ hl => exact hold i j v (hl i ▸ hi) (hl j ▸ hj)
  | resolved _ _ _ _ _ _ hl => exact hold i j v (hl i ▸ hi) (hl j ▸ hj)
  | quiet _ _ _ _ hl => exact hold i j v (hl i ▸ hi) (hl j ▸ hj)
  | @attached _ _ event hd incident _ _ _ _ hown hl =>
    have hone_of : ∀ k, v ∈ linkedEvents k t → v ∈ linkedEvents k s ∨ v = event ∧ k = incident.id := by
      intro k hk
      by_cases heq : k = incident.id
      · subst heq
        rw [hown] at hk
        rcases List.mem_append.mp hk with hk | hk
        · exact Or.inl hk
        · exact Or.inr ⟨List.mem_singleton.mp hk, rfl⟩
      · exact Or.inl (hl k heq ▸ hk)
    have hnew := delivered_is_new hf hd
    rcases hone_of i hi with hi | ⟨rfl, rfl⟩
    · rcases hone_of j hj with hj | ⟨rfl, _⟩
      · exact hold i j v hi hj
      · exact absurd (mem_linkedEvents.mp hi).1 hnew
    · rcases hone_of j hj with hj | ⟨_, rfl⟩
      · exact absurd (mem_linkedEvents.mp hj).1 hnew
      · rfl
  | @opened _ _ event w ho _ _ hown hl =>
    have hapart : ∀ k, k ≠ e.uuid 1 → v ∈ linkedEvents k t → v ∉ linkedEvents (e.uuid 1) t := by
      intro k hk hvk hvnew
      rw [hl k hk] at hvk
      rw [hown] at hvnew
      exact hc ⟨event, w, ho, v, hvnew, _, (mem_linkedEvents.mp hvk).2, rfl⟩
    by_cases hinew : i = e.uuid 1
    · by_cases hjnew : j = e.uuid 1
      · rw [hinew, hjnew]
      · exact absurd (hinew ▸ hi) (hapart j hjnew hj)
    · by_cases hjnew : j = e.uuid 1
      · exact absurd (hjnew ▸ hj) (hapart i hinew hi)
      · exact hold i j v (hl i hinew ▸ hi) (hl j hjnew ▸ hj)

/-- After a request each event has one incident, if and only if the request
recounted none. -/
theorem oneHome_step_iff (hone : OneHome s) : OneHome (handle e r s).2 ↔ ¬ Recounts s (e, r) := by
  constructor
  · rintro hnext ⟨event, w, ho, v, hv, l, hl, hid⟩
    obtain ⟨_, hown, hother⟩ := ho.served hs hf
    have hne := unlinked_incident hs hf 1 l hl
    have hlinked := linked_of_window hs hf ho.delivers hv hl hid
    rw [← hother _ hne] at hlinked
    rw [← hown] at hv
    exact hne ((oneHome_iff (serve_consistent hs hf r)).mp hnext _ _ v hlinked hv)
  · exact oneHome_step hs hf hone

end

/-! ## The answers -/

/-- The request delivers an event, and is answered with `response`. -/
def AnswersEvent (s : Store) (c : Env × Request) (response : EventIngestResponse) : Prop :=
  ∃ credentials payload, c.2 = .ingest credentials payload ∧
    (handle c.1 c.2 s).1 = .ok (.ingested response)

/-- An event that an ingest stored with an incident is linked to it. -/
theorem IngestOutcome.linked {e : Env} {payload : EventCreate} {k : ApiKey} {s t : Store}
    {response : EventIngestResponse} (h : IngestOutcome e payload k s (.ok response) t)
    (hnew : response.duplicate = false) {i : UUID} (hi : response.incident_id = some i) :
    ∃ v ∈ linkedEvents i t, response.event = v.response := by
  cases h with
  | duplicate => cases hnew
  | stored incident_id _ _ _ _ he =>
    obtain rfl : incident_id = some i := hi
    refine ⟨new_event e payload k, mem_linkedEvents.mpr ?_, rfl⟩
    cases he with
    | attached incident hlevel hactive =>
      unfold attached
      cases hlinked : isLinked incident.id (new_event e payload k).id (storeEvent e payload k s) with
      | true =>
        have hmem := isLinked_iff.mp hlinked
        simp only [if_true]
        split
        · exact ⟨by simp [storeEvent, touchApiKey, updateIncident], hmem⟩
        · exact ⟨by simp [storeEvent, touchApiKey], hmem⟩
      | false =>
        simp only [Bool.false_eq_true, if_false]
        split
        · exact ⟨by simp [storeEvent, touchApiKey, addLinks, updateIncident],
            by simp [addLinks, updateIncident]⟩
        · exact ⟨by simp [storeEvent, touchApiKey, addLinks], by simp [addLinks]⟩
    | opened w hlevel _ hw _ =>
      have hself := mem_detectionWindow_self (s := s) hlevel hw
      exact ⟨by simp [opened, storeEvent, touchApiKey, addLinks],
        List.mem_append_right _ (List.mem_map.mpr ⟨_, hself, rfl⟩)⟩

/-- The answer to a duplicate: the stored event, and the first link that is found. -/
theorem duplicate_answer (e : Env) (payload : EventCreate) (k : ApiKey) (s : Store) :
    Ends (ingest_event e payload k) ⟨s, s⟩ fun r _ => ∀ response, r = .ok response →
      response.duplicate = true → ∃ existing ∈ s.events,
        response = ⟨existing.response, true, find_incident_id existing.id s⟩ := by
  unfold ingest_event
  simp only [ends_bind, ends_check_rate_limit]
  cases e.retry_after with
  | some seconds =>
    intro _ h
    cases h
  | none =>
    simp only [ends_select]
    cases hv : findEvent k.service_id (strip payload.event_id) s with
    | some existing =>
      simp only [answer_duplicate, ends_bind, ends_write, ends_commit, ends_select, ends_pure]
      intro response h _
      cases h
      exact ⟨existing, (find?_mem hv).1, rfl⟩
    | none =>
      have hnew : (findEvent (new_event e payload k).service_id (new_event e payload k).event_id
          s).isSome = false := by
        show (findEvent k.service_id (strip payload.event_id) s).isSome = false
        rw [hv]
        rfl
      simp only [ends_attempt, ends_bind, ends_flush, insertEvent]
      by_cases hs : (new_event e payload k).storable = true
      · simp only [hs, hnew, if_true, Bool.false_eq_true, if_false, Except.map, ends_bind]
        refine (evaluate_evaluated e (new_event e payload k) _).mono ?_
        rintro (error | incident) s' _
        · intro _ h
          cases h
        · simp only [ends_commit, ends_pure]
          intro response h hdup
          cases h
          cases hdup
      · simp only [hs, Bool.false_eq_true, if_false, Except.map, isIntegrityError]
        intro _ h
        cases h

/-- Nobody deletes the service in the requests. -/
def KeepsService (service_id : UUID) (requests : List (Env × Request)) : Prop :=
  ∀ c ∈ requests, ∀ credentials, c.2 ≠ .tenant credentials (.delete_service service_id)

/-- The past ends with a duplicate of an event that was answered with an incident
when it was stored: the duplicate gets the same answer, whichever link is found. -/
def DuplicatesAgree (past : List (Env × Request)) : Prop :=
  ∀ d mid c before first again i, past = d :: (mid ++ c :: before) →
    KeepsService first.event.service_id mid →
    AnswersEvent (run.after serve Store.empty before) c first → first.duplicate = false →
    first.incident_id = some i →
    AnswersEvent (run.after serve Store.empty (mid ++ c :: before)) d again →
    again.duplicate = true → again.event.service_id = first.event.service_id →
    again.event.event_id = first.event.event_id →
    again.event = first.event ∧ again.incident_id = some i ∧
      ∀ l ∈ (run.after serve Store.empty (mid ++ c :: before)).incident_events,
        l.event_id = again.event.id → l.incident_id = i

/-- An event stays linked over a run that keeps its service. -/
theorem linked_after (before : List (Env × Request)) {i : UUID} {v : Event}
    (hv : v ∈ linkedEvents i (run.after serve Store.empty before)) (mid : List (Env × Request))
    (hfresh : run.Every serve Store.empty (fun s c => Fresh c.1 s) (mid ++ before))
    (hkeep : KeepsService v.service_id mid) :
    v ∈ linkedEvents i (run.after serve Store.empty (mid ++ before)) := by
  induction mid with
  | nil => exact hv
  | cons x mid ih =>
    have hlinked := ih hfresh.1 fun c hc => hkeep c (List.mem_cons_of_mem _ hc)
    have hs := consistent_after hfresh.1
    exact (telemetry_step hs hfresh.2 x.2).linked hs hfresh.2 hlinked
      (hkeep x (List.mem_cons_self ..))

theorem answered_linked {s : Store} {c : Env × Request} {response : EventIngestResponse}
    (h : AnswersEvent s c response) (hnew : response.duplicate = false) {i : UUID}
    (hi : response.incident_id = some i) :
    ∃ v ∈ linkedEvents i (serve s c), response.event = v.response := by
  obtain ⟨e, r⟩ := c
  obtain ⟨credentials, payload, rfl, hanswer⟩ := h
  rcases ingest_request_outcome e credentials payload s with ⟨_, heq⟩ | ⟨k, reply, _, hreply, hout⟩
  · rw [heq] at hanswer
    cases hanswer
  · rw [hanswer] at hreply
    cases reply with
    | error _ => cases hreply
    | ok answer =>
      cases hreply
      exact hout.linked hnew hi

theorem duplicate_answered {s : Store} {c : Env × Request} {response : EventIngestResponse}
    (h : AnswersEvent s c response) (hdup : response.duplicate = true) :
    ∃ existing ∈ s.events, response = ⟨existing.response, true, find_incident_id existing.id s⟩ := by
  obtain ⟨e, r⟩ := c
  obtain ⟨credentials, payload, rfl, hanswer⟩ := h
  cases hk : get_ingestion_api_key credentials e.now s with
  | error failure =>
    have hrefused := ingest_refused payload hk
    rw [hrefused] at hanswer
    cases hanswer
  | ok k =>
    have h : Ends (handler e (.ingest credentials payload)) ⟨s, s⟩ fun r _ =>
        ∀ response, r = .ok (.ingested response) → response.duplicate = true →
          ∃ existing ∈ s.events,
            response = ⟨existing.response, true, find_incident_id existing.id s⟩ := by
      show Ends (ask _ >>= _) _ _
      simp only [ends_bind, ends_ask, hk, ends_answer]
      refine (duplicate_answer e payload k s).mono ?_
      rintro (_ | answer) _ hanswer response heq hdup
      · cases heq
      · cases heq
        exact hanswer answer rfl hdup
    exact h response hanswer hdup

theorem oneHome_after {past : List (Env × Request)}
    (hone : run.Every serve Store.empty (fun s c => OneHome (serve s c)) past) :
    OneHome (run.after serve Store.empty past) := by
  cases past with
  | nil =>
    intro l hl
    cases hl
  | cons c past => exact hone.2

/-- With one home for each event, the answers of a run agree. -/
theorem duplicates_agree {past : List (Env × Request)}
    (hfresh : run.Every serve Store.empty (fun s c => Fresh c.1 s) past)
    (hone : run.Every serve Store.empty (fun s c => OneHome (serve s c)) past) :
    DuplicatesAgree past := by
  rintro d mid c before first again i rfl hkeep hfirst hnew hi hagain hdup hservice hid
  obtain ⟨v, hv, hresponse⟩ := answered_linked hfirst hnew hi
  have hbefore : v ∈ linkedEvents i (run.after serve Store.empty (mid ++ c :: before)) := by
    refine linked_after (c :: before) hv mid hfresh.1 ?_
    rw [hresponse] at hkeep
    exact hkeep
  have hs := consistent_after hfresh.1
  obtain ⟨existing, hmem, heq⟩ := duplicate_answered hagain hdup
  obtain ⟨hvmem, hlink⟩ := mem_linkedEvents.mp hbefore
  have hsame : existing = v := by
    refine hs.event_keys.eq hmem hvmem ?_
    rw [hs.trimmed existing hmem, hs.trimmed v hvmem]
    rw [heq, hresponse] at hservice hid
    exact Prod.ext hservice hid
  subst hsame
  have hlinks : ∀ l ∈ (run.after serve Store.empty (mid ++ c :: before)).incident_events,
      l.event_id = existing.id → l.incident_id = i := by
    intro l hl hle
    have hhome : OneHome (run.after serve Store.empty (mid ++ c :: before)) := oneHome_after hone.1
    exact hhome l hl _ hlink hle
  rw [heq]
  refine ⟨hresponse.symm, ?_, hlinks⟩
  show Option.map _ (List.find? _ _) = some i
  cases hfind : (run.after serve Store.empty (mid ++ c :: before)).incident_events.find?
      (fun l => l.event_id = existing.id) with
  | none =>
    have := List.find?_eq_none.mp hfind _ hlink
    simp at this
  | some l =>
    obtain ⟨hl, hle⟩ := find?_mem hfind
    rw [Option.map_some, hlinks l hl (by simpa using hle)]

/-! ## Every run -/

/-- Each event is linked to at most one incident that is not resolved. -/
def OneActiveHome (s : Store) : Prop :=
  ∀ i ∈ s.incidents, ∀ j ∈ s.incidents, i.isActive = true → j.isActive = true →
    ∀ v, v ∈ linkedEvents i.id s → v ∈ linkedEvents j.id s → i = j

omit [Platform] in
/-- The active incidents of one event are of one group. -/
theorem oneActiveHome {s : Store} (hs : Consistent s) : OneActiveHome s := by
  intro i hi j hj hai haj v hvi hvj
  obtain ⟨i', hi', hid, hservice, hfp, _⟩ := incident_of_linked hs hvi
  obtain ⟨j', hj', hjd, hservice', hfp', _⟩ := incident_of_linked hs hvj
  obtain rfl := hs.incident_ids.eq hi' hi hid
  obtain rfl := hs.incident_ids.eq hj' hj hjd
  refine hs.active_groups.of_filter hi' hj' hai haj ?_
  unfold Incident.group
  rw [hservice, hfp, hservice', hfp']

/-- Each event has one incident after every step of a run, if and only if no
window of an opened incident held an event that had one; then its duplicates
are answered as it was. Of active incidents it never has two. -/
theorem events_have_one_incident_iff_no_window_recounts (past : List (Env × Request))
    (hfresh : run.Every serve Store.empty (fun s c => Fresh c.1 s) past) :
    (run.Every serve Store.empty (fun s c => OneHome (serve s c)) past ↔
        run.Every serve Store.empty (fun s c => ¬ Recounts s c) past) ∧
      (run.Every serve Store.empty (fun s c => ¬ Recounts s c) past → DuplicatesAgree past) ∧
      OneActiveHome (run.after serve Store.empty past) := by
  have hiff : run.Every serve Store.empty (fun s c => OneHome (serve s c)) past ↔
      run.Every serve Store.empty (fun s c => ¬ Recounts s c) past := by
    refine run.every_iff_assuming (I := fun s => Consistent s ∧ OneHome s) ?_ ?_ ?_ hfresh
    · refine ⟨consistent_empty, ?_⟩
      intro l hl
      cases hl
    · rintro s ⟨e, r⟩ ⟨hs, hone⟩ hf hq
      exact ⟨serve_consistent hs hf r, oneHome_step hs hf hone hq⟩
    · rintro s ⟨e, r⟩ ⟨hs, hone⟩ hf
      exact oneHome_step_iff hs hf hone
  exact ⟨hiff, fun hq => duplicates_agree hfresh (hiff.mpr hq), oneActiveHome (consistent_after hfresh)⟩

/-- Five errors, the resolution of their incident, and a sixth error. -/
def sixthError : List (Env × Request) :=
  let key : Option Bearer := some (.text (create_raw_key (sampleEnv 4) true))
  (sampleEnv 11, .ingest key (sampleEvent 'f' 5)) ::
    (sampleEnv 10, .tenant (sampleBearer 0 1) (.resolve_incident 91)) :: sampleRun

omit [Platform] in
theorem sixthError_fresh :
    run.Every (@serve samplePlatform) Store.empty (fun s c => Fresh c.1 s) sixthError :=
  fresh_of_drawsInOrder [11, 10, 9, 8, 7, 6, 5, 4, 3, 2, 1, 0] rfl (by decide +kernel)

omit [Platform] in
/-- The sixth error opens an incident with the five that had one. -/
theorem a_window_recounts_five_events :
    run.Every (@serve samplePlatform) Store.empty (fun s c => Fresh c.1 s) sixthError ∧
      ¬ OneHome (run.after (@serve samplePlatform) Store.empty sixthError) := by
  refine ⟨sixthError_fresh, ?_⟩
  decide +kernel

omit [Platform] in
theorem the_sixth_error_recounts :
    ¬ run.Every (@serve samplePlatform) Store.empty
        (fun s c => ¬ @Recounts samplePlatform s c) sixthError ∧
      OneActiveHome (run.after (@serve samplePlatform) Store.empty sixthError) := by
  have h := @events_have_one_incident_iff_no_window_recounts samplePlatform sixthError sixthError_fresh
  refine ⟨fun hq => ?_, h.2.2⟩
  have hhome : OneHome (run.after (@serve samplePlatform) Store.empty sixthError) := (h.1.mpr hq).2
  exact absurd hhome (by decide +kernel)

end pulseforge

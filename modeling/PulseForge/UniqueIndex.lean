-- What the transactions do to the incidents in any interleaving: every step
-- changes the table in one of five ways, and `unique_active_incident` keeps
-- one active incident for each group.
import PulseForge.Interleavings

open txn table interleave

namespace pulseforge

/-! ## The commits, table by table -/

section
variable {e : Env} {s : Store}

@[simp] theorem attached_events (incident : Incident) (event : Event) :
    (attached e incident event s).events = s.events := by
  obtain ⟨links, rows, _, _, heq⟩ := attached_eq e incident event s
  rw [heq]

@[simp] theorem attached_audit_logs (incident : Incident) (event : Event) :
    (attached e incident event s).audit_logs = s.audit_logs := by
  obtain ⟨links, rows, _, _, heq⟩ := attached_eq e incident event s
  rw [heq]

/-- An attached event may raise the severity of its incident. -/
theorem attached_incidents (incident : Incident) (event : Event) :
    (attached e incident event s).incidents = s.incidents ∨
      (attached e incident event s).incidents =
        updateWhere (fun i => i.id = incident.id) (raiseSeverity e.now) s.incidents := by
  obtain ⟨links, rows, _, hrows, heq⟩ := attached_eq e incident event s
  rw [heq]
  exact hrows

variable [Platform] {payload : EventCreate} {api_key : ApiKey}

@[simp] theorem commitEvent_events (verdict : Verdict) :
    (commitEvent e payload api_key s verdict).events =
      s.events ++ [new_event e payload api_key] := by
  cases verdict with
  | quiet => rfl
  | attach incident => exact attached_events incident _
  | create ids => rfl

@[simp] theorem commitEvent_audit_logs (verdict : Verdict) :
    (commitEvent e payload api_key s verdict).audit_logs = s.audit_logs := by
  cases verdict with
  | quiet => rfl
  | attach incident => exact attached_audit_logs incident _
  | create ids => rfl

end

/-! ## Groups -/

@[simp] theorem raiseSeverity_group (now : Int) (i : Incident) : (raiseSeverity now i).group = i.group := rfl

@[simp] theorem acknowledged_group (user_id : UUID) (now updated_at : Int) (i : Incident) :
    (acknowledged user_id now updated_at i).group = i.group := rfl

@[simp] theorem resolved_group (user_id : UUID) (now updated_at : Int) (assign : Bool) (i : Incident) :
    (resolved user_id now updated_at assign i).group = i.group := rfl

variable [Platform]

/-- The changes of the incidents by one step. -/
inductive IncidentChange (job : Job) (s : Store) (t : Stage) : List Incident → Prop
  | same : IncidentChange job s t s.incidents
  | raised (incident_id : UUID) (now : Int) :
      IncidentChange job s t
        (updateWhere (fun i => i.id = incident_id) (raiseSeverity now) s.incidents)
  | created {payload : EventCreate} {api_key : ApiKey} (hcall : job.call = .ingest payload api_key)
      (ids : List UUID) (ht : t = .committing (.create ids)) :
      IncidentChange job s t
        (s.incidents ++ [new_incident job.env (new_event job.env payload api_key)])
  | acknowledged {incident_id : UUID} {user : User} (hcall : job.call = .acknowledge incident_id user)
      (incident : Incident) (ht : t = .saving incident) (htaken : groupTaken incident s = false) :
      IncidentChange job s t (updateWhere (fun i => i.id = incident.id)
        (acknowledged user.id (job.env.clock 1) job.env.now) s.incidents)
  | resolved {incident_id : UUID} {user : User} (hcall : job.call = .resolve incident_id user)
      (incident : Incident) (ht : t = .saving incident) :
      IncidentChange job s t (updateWhere (fun i => i.id = incident.id)
        (resolved user.id (job.env.clock 1) job.env.now incident.assigned_to.isNone) s.incidents)

theorem Move.incidents {job : Job} {s s' : Store} {t t' : Stage} (h : Move job s t s' t') :
    IncidentChange job s t s'.incidents := by
  cases h with
  | committed hcall verdict =>
    cases verdict with
    | quiet => exact .same
    | attach incident =>
      rcases attached_incidents (e := job.env) (s := storeEvent job.env _ _ s) incident _ with heq | heq
      · show IncidentChange job s _ (attached _ _ _ _).incidents
        rw [heq]
        exact .same
      · show IncidentChange job s _ (attached _ _ _ _).incidents
        rw [heq]
        exact .raised _ _
    | create ids => exact .created hcall ids rfl
  | acknowledged hcall incident htaken => exact .acknowledged hcall incident rfl htaken
  | resolved hcall incident => exact .resolved hcall incident rfl
  | _ => exact .same

/-- An incident keeps its id and its group. -/
theorem IncidentChange.kept {job : Job} {s : Store} {t : Stage} {rows : List Incident}
    (h : IncidentChange job s t rows) {i : Incident} (hi : i ∈ s.incidents) :
    ∃ i' ∈ rows, i'.id = i.id ∧ i'.group = i.group := by
  cases h with
  | same => exact ⟨i, hi, rfl, rfl⟩
  | raised => exact exists_updateWhere hi ⟨rfl, rfl⟩ fun _ => ⟨rfl, rfl⟩
  | created => exact ⟨i, List.mem_append_left _ hi, rfl, rfl⟩
  | acknowledged => exact exists_updateWhere hi ⟨rfl, rfl⟩ fun _ => ⟨rfl, rfl⟩
  | resolved => exact exists_updateWhere hi ⟨rfl, rfl⟩ fun _ => ⟨rfl, rfl⟩

/-! ## When a group is active -/

/-- A group becomes active by a new incident, or by an acknowledge. -/
theorem IncidentChange.gained {job : Job} {s : Store} {t : Stage} {rows : List Incident}
    (h : IncidentChange job s t rows) {i : Incident} (hi : i ∈ rows) (hactive : i.isActive = true) :
    ActiveGroup i.group s ∨
      (∃ payload api_key ids, job.call = .ingest payload api_key ∧ t = .committing (.create ids) ∧
        (new_event job.env payload api_key).group = i.group) ∨
      ∃ incident_id user incident, job.call = .acknowledge incident_id user ∧ t = .saving incident ∧
        ∃ row ∈ s.incidents, row.id = incident.id ∧ row.group = i.group := by
  cases h with
  | same => exact Or.inl ⟨i, hi, rfl, hactive⟩
  | raised =>
    obtain ⟨row, hrow, rfl⟩ := mem_updateWhere.mp hi
    refine Or.inl ⟨row, hrow, ?_, ?_⟩
    · split <;> rfl
    · split at hactive <;> exact hactive
  | created hcall ids ht =>
    rcases List.mem_append.mp hi with hi | hi
    · exact Or.inl ⟨i, hi, rfl, hactive⟩
    · rw [List.mem_singleton.mp hi]
      exact Or.inr (Or.inl ⟨_, _, ids, hcall, ht, rfl⟩)
  | acknowledged hcall incident ht =>
    obtain ⟨row, hrow, rfl⟩ := mem_updateWhere.mp hi
    by_cases hid : row.id = incident.id
    · refine Or.inr (Or.inr ⟨_, _, incident, hcall, ht, row, hrow, hid, ?_⟩)
      split <;> rfl
    · simp only [hid, decide_false, Bool.false_eq_true, if_false] at hactive ⊢
      exact Or.inl ⟨row, hrow, rfl, hactive⟩
  | resolved hcall incident ht =>
    obtain ⟨row, hrow, rfl⟩ := mem_updateWhere.mp hi
    by_cases hid : row.id = incident.id
    · simp only [hid, decide_true, if_true] at hactive
      cases hactive
    · simp only [hid, decide_false, Bool.false_eq_true, if_false] at hactive ⊢
      exact Or.inl ⟨row, hrow, rfl, hactive⟩

/-- Only a resolve ends an active incident. -/
theorem IncidentChange.lost {job : Job} {s : Store} {t : Stage} {rows : List Incident}
    (h : IncidentChange job s t rows) {i : Incident} (hi : i ∈ s.incidents)
    (hactive : i.isActive = true) :
    (∃ i' ∈ rows, i'.id = i.id ∧ i'.group = i.group ∧ i'.isActive = true) ∨
      ∃ incident_id user incident, job.call = .resolve incident_id user ∧ t = .saving incident ∧
        i.id = incident.id := by
  cases h with
  | same => exact Or.inl ⟨i, hi, rfl, rfl, hactive⟩
  | raised => exact Or.inl (exists_updateWhere hi ⟨rfl, rfl, hactive⟩ fun _ => ⟨rfl, rfl, hactive⟩)
  | created => exact Or.inl ⟨i, List.mem_append_left _ hi, rfl, rfl, hactive⟩
  | acknowledged =>
    exact Or.inl (exists_updateWhere hi ⟨rfl, rfl, hactive⟩ fun _ => ⟨rfl, rfl, rfl⟩)
  | resolved hcall incident ht =>
    by_cases hid : i.id = incident.id
    · exact Or.inr ⟨_, _, incident, hcall, ht, hid⟩
    · exact Or.inl ⟨i, mem_updateWhere_of_not hi (by simpa using hid), rfl, rfl, hactive⟩

/-! ## The unique index -/

variable {ι : Type} [Fintype ι] [DecidableEq ι]

/-- The draws of all jobs are new and apart. -/
structure FreshJobs (jobs : ι → Job) (s₀ : Store) : Prop where
  fresh : ∀ i, Fresh (jobs i).env s₀
  apart : ∀ i j a b, (jobs i).env.uuid a = (jobs j).env.uuid b → i = j

/-- What the unique index and the locks keep in every state of the machine. -/
structure Indexed (jobs : ι → Job) (g : State ι Store Stage) : Prop where
  exclusive : Exclusive (fun i => transaction (jobs i)) g
  ids : UniqueOn Incident.id g.shared.incidents
  active_groups : UniqueOn Incident.group (g.shared.incidents.filter Incident.isActive)
  pending : ∀ i group, Lock.incident group ∈ (jobs i).holds (g.locals i) →
    ¬ ActiveGroup group g.shared
  read : ∀ i incident, g.locals i = .saving incident →
    ∃ row ∈ g.shared.incidents, row.id = incident.id ∧ row.group = incident.group
  unused : ∀ i, (∀ reply, g.locals i ≠ .ended reply) →
    ∀ row ∈ g.shared.incidents, row.id ≠ (jobs i).env.uuid 1

theorem Job.holds_start (job : Job) : job.holds .start = [] := by
  unfold Job.holds
  cases job.call <;> rfl

omit [Fintype ι] [DecidableEq ι] in
theorem indexed_begin {jobs : ι → Job} {s₀ : Store} (hs : Consistent s₀) (hf : FreshJobs jobs s₀) :
    Indexed jobs (begin s₀) where
  exclusive := Exclusive.start fun i => (jobs i).holds_start
  ids := hs.incident_ids
  active_groups := hs.active_groups
  pending := by
    intro i group h
    rw [show (begin s₀ : State ι Store Stage).locals i = .start from rfl, (jobs i).holds_start] at h
    cases h
  read := by
    intro i incident h
    cases h
  unused := fun i _ => (hf.fresh i).incident 1

section
variable {jobs : ι → Job} {g : State ι Store Stage} {i : ι} {p : Store × Stage}

/-- A move of the machine was free of the locks of the others, and is a step
of its transaction. -/
theorem move_of_some (hp : lockStep (fun i => transaction (jobs i)) i g = some p) :
    (∀ j l, l ∈ (jobs j).holds (g.locals j) → (jobs i).wants (g.locals i) = some l → j = i) ∧
      Move (jobs i) g.shared (g.locals i) p.1 p.2 := by
  obtain ⟨hfree, hnext⟩ := lockStep_some hp
  refine ⟨?_, Job.move hnext⟩
  intro j l hl hwants
  by_contra hne
  exact hfree ⟨j, hne, l, hl, hwants⟩

/-- A transaction that is not at its end after a move was not before. -/
theorem unfinished_before (hp : lockStep (fun i => transaction (jobs i)) i g = some p) {j : ι}
    (hj : ∀ reply, (g.move i p).locals j ≠ .ended reply) : ∀ reply, g.locals j ≠ .ended reply := by
  intro reply heq
  by_cases hji : j = i
  · subst hji
    obtain ⟨_, hmove⟩ := move_of_some hp
    rw [heq] at hmove
    generalize p.1 = s' at hmove
    generalize p.2 = t' at hmove
    cases hmove
  · exact hj reply (by rw [move_other hji, heq])

theorem turn_of_some (hp : lockStep (fun i => transaction (jobs i)) i g = some p) :
    turn jobs g i = g.move i p := step_of_some hp

/-- A turn changes nothing, or it is a move. -/
theorem turn_cases (jobs : ι → Job) (g : State ι Store Stage) (i : ι) :
    turn jobs g i = g ∨ ∃ s' t', lockStep (fun i => transaction (jobs i)) i g = some (s', t') ∧
      turn jobs g i = g.move i (s', t') := by
  rcases step_cases (lockStep fun i => transaction (jobs i)) g i with heq | ⟨⟨s', t'⟩, hp, heq⟩
  · exact Or.inl heq
  · exact Or.inr ⟨s', t', hp, heq⟩

/-- The turn commits the save of the incident that its transaction read. -/
def Saves (jobs : ι → Job) (g : State ι Store Stage) (i : ι) (incident : Incident) : Prop :=
  g.locals i = .saving incident ∧ (turn jobs g i).locals i = .refreshing incident

theorem saves_of_move (hp : lockStep (fun i => transaction (jobs i)) i g = some p)
    {incident : Incident} (ht : g.locals i = .saving incident) (ht' : p.2 = .refreshing incident) :
    Saves jobs g i incident := by
  refine ⟨ht, ?_⟩
  rw [turn_of_some hp, move_self, ht']

/-- A transaction that holds the place of a group in the index and is at its
commit creates the incident of that group. -/
theorem holds_create {job : Job} {payload : EventCreate} {api_key : ApiKey}
    (hcall : job.call = .ingest payload api_key) (ids : List UUID) :
    Lock.incident (new_event job.env payload api_key).group ∈ job.holds (.committing (.create ids)) := by
  simp [Job.holds, hcall, ingest_holds]

theorem Indexed.active_groups_move (h : Indexed jobs g)
    (hp : lockStep (fun i => transaction (jobs i)) i g = some p) :
    UniqueOn Incident.group (p.1.incidents.filter Incident.isActive) := by
  obtain ⟨_, hmove⟩ := move_of_some hp
  have hchange := hmove.incidents
  generalize p.1.incidents = rows at hchange
  cases hchange with
  | same => exact h.active_groups
  | raised => exact h.active_groups.update_filter fun r _ _ => ⟨rfl, fun hr => hr⟩
  | created hcall ids ht =>
    have hnone := h.pending i _ (by rw [ht]; exact holds_create hcall ids)
    rw [List.filter_append]
    apply h.active_groups.insert
    intro r hr hgroup
    obtain ⟨hmem, hactive⟩ := List.mem_filter.mp hr
    exact hnone ⟨r, hmem, hgroup, hactive⟩
  | acknowledged hcall incident ht htaken =>
    obtain ⟨row, hrow, hid, hgroup⟩ := h.read i incident ht
    refine h.active_groups.update_into h.ids (fun _ _ _ => rfl) ?_ ?_
    · intro r _ r' _ hr hr'
      simp only [decide_eq_true_eq] at hr hr'
      rw [hr, hr']
    · intro r hr r' hr' hsame hother hactive heq
      simp only [decide_eq_true_eq, decide_eq_false_iff_not] at hsame hother
      have hrr : r = row := h.ids.eq hr hrow (hsame.trans hid.symm)
      have htrue : groupTaken incident g.shared = true := by
        apply List.any_eq_true.mpr
        refine ⟨r', hr', ?_⟩
        simp [hother, heq, hrr, hgroup, hactive]
      rw [htrue] at htaken
      cases htaken
  | resolved =>
    refine h.active_groups.update_filter fun r _ _ => ⟨rfl, fun hr => ?_⟩
    cases hr

theorem Indexed.pending_move (h : Indexed jobs g)
    (hp : lockStep (fun i => transaction (jobs i)) i g = some p) (j : ι) (group : UUID × Text)
    (hj : Lock.incident group ∈ (jobs j).holds ((g.move i p).locals j)) :
    ¬ ActiveGroup group p.1 := by
  obtain ⟨hfree, hmove⟩ := move_of_some hp
  by_cases hji : j = i
  · -- the transaction itself: it moves within its savepoint
    subst hji
    rw [move_self] at hj
    have hbefore := h.pending j group
    generalize g.locals j = t at hmove hbefore
    obtain ⟨s', t'⟩ := p
    cases hmove <;> simp only [Job.holds, ingest_holds, *] at hj hbefore <;>
      simp only [List.mem_cons, List.not_mem_nil, or_false, reduceCtorEq, false_or, eventLock,
        Lock.incident.injEq] at hj hbefore
    case won hactive => rwa [hj]
    case gathered => exact hbefore hj
  · rw [move_other hji] at hj
    rintro ⟨row, hrow, hgroup, hactive⟩
    subst hgroup
    rcases hmove.incidents.gained hrow hactive with hold | ⟨_, _, ids, hcall, ht, hgroup⟩ |
      ⟨_, _, incident, hcall, ht, old, hold, hid, hgroup⟩
    · exact h.pending j _ hj hold
    · have hheld := holds_create hcall ids
      rw [hgroup, ← ht] at hheld
      exact hji (h.exclusive j i _ hj hheld)
    · obtain ⟨old', hold', hid', hgroup'⟩ := h.read i incident ht
      have heq : old = old' := h.ids.eq hold hold' (hid.trans hid'.symm)
      refine hji (hfree j _ hj ?_)
      simp only [Job.wants, hcall, ht]
      rw [← hgroup', ← heq, hgroup]

theorem Indexed.ids_move (h : Indexed jobs g)
    (hp : lockStep (fun i => transaction (jobs i)) i g = some p) :
    UniqueOn Incident.id p.1.incidents := by
  obtain ⟨_, hmove⟩ := move_of_some hp
  have hchange := hmove.incidents
  generalize p.1.incidents = rows at hchange
  cases hchange with
  | same => exact h.ids
  | raised => exact h.ids.update fun _ _ _ => rfl
  | created hcall ids ht =>
    apply h.ids.insert
    apply h.unused i
    intro reply heq
    rw [ht] at heq
    cases heq
  | acknowledged => exact h.ids.update fun _ _ _ => rfl
  | resolved => exact h.ids.update fun _ _ _ => rfl

/-- A transaction saves an incident that it read, and that is still there. -/
theorem Indexed.read_move (h : Indexed jobs g)
    (hp : lockStep (fun i => transaction (jobs i)) i g = some p) (j : ι) (incident : Incident)
    (hj : (g.move i p).locals j = .saving incident) :
    ∃ row ∈ p.1.incidents, row.id = incident.id ∧ row.group = incident.group := by
  obtain ⟨_, hmove⟩ := move_of_some hp
  by_cases hji : j = i
  · subst hji
    rw [move_self] at hj
    obtain ⟨s', t'⟩ := p
    simp only at hj
    subst hj
    generalize g.locals j = t at hmove
    cases hmove with
    | acknowledging _ _ hmem => exact ⟨incident, hmem, rfl, rfl⟩
    | resolving _ _ hmem => exact ⟨incident, hmem, rfl, rfl⟩
  · rw [move_other hji] at hj
    obtain ⟨row, hrow, hid, hgroup⟩ := h.read j incident hj
    obtain ⟨row', hrow', hid', hgroup'⟩ := hmove.incidents.kept hrow
    exact ⟨row', hrow', hid'.trans hid, hgroup'.trans hgroup⟩

/-- The id of an incident is used only by the commit of its transaction. -/
theorem Indexed.unused_move {s₀ : Store} (hf : FreshJobs jobs s₀) (h : Indexed jobs g)
    (hp : lockStep (fun i => transaction (jobs i)) i g = some p) (j : ι)
    (hj : ∀ reply, (g.move i p).locals j ≠ .ended reply) :
    ∀ row ∈ p.1.incidents, row.id ≠ (jobs j).env.uuid 1 := by
  obtain ⟨_, hmove⟩ := move_of_some hp
  have hunused := h.unused j (unfinished_before hp hj)
  have hchange := hmove.incidents
  generalize p.1.incidents = rows at hchange
  cases hchange with
  | same => exact hunused
  | raised => exact forall_updateWhere hunused fun row hrow _ => hunused row hrow
  | created hcall ids ht =>
    intro row hrow heq
    rcases List.mem_append.mp hrow with hrow | hrow
    · exact hunused row hrow heq
    · rw [List.mem_singleton.mp hrow] at heq
      obtain rfl := hf.apart i j 1 1 heq
      rw [ht] at hmove
      generalize hs' : p.1 = s' at hmove
      generalize ht' : p.2 = t' at hmove
      cases hmove
      exact hj _ (by rw [move_self, ht'])
  | acknowledged => exact forall_updateWhere hunused fun row hrow _ => hunused row hrow
  | resolved => exact forall_updateWhere hunused fun row hrow _ => hunused row hrow

theorem Indexed.move {s₀ : Store} (hf : FreshJobs jobs s₀) (h : Indexed jobs g)
    (hp : lockStep (fun i => transaction (jobs i)) i g = some p) : Indexed jobs (g.move i p) where
  exclusive := h.exclusive.move hp
  ids := h.ids_move hp
  active_groups := h.active_groups_move hp
  pending := h.pending_move hp
  read := h.read_move hp
  unused := h.unused_move hf hp

end

/-- In every interleaving a group has at most one active incident. -/
theorem indexed_run {jobs : ι → Job} {s₀ : Store} (hs : Consistent s₀) (hf : FreshJobs jobs s₀)
    (turns : List ι) : Indexed jobs (run.after (turn jobs) (begin s₀) turns) :=
  interleave.invariant (indexed_begin hs hf) (fun _ _ _ h hp => h.move hf hp) turns

/-! ## Keys and jobs for a small run -/

def keyRow (n : Nat) : ApiKey :=
  @new_api_key samplePlatform (sampleEnv n) (new_service (sampleEnv 3) (sampleService 20)) sampleKey

omit [Platform] in
theorem sample_jobs_fresh {n : Nat} {jobs : Fin n → Job} {s₀ : Store}
    (hjobs : ∀ i, (jobs i).env = sampleDraws n i) (hids : ∀ id ∈ s₀.ids, id < 1000) :
    FreshJobs jobs s₀ := by
  obtain ⟨hfresh, hapart⟩ := sample_envs_fresh hjobs hids
  exact ⟨hfresh, hapart⟩

end pulseforge

-- Acknowledge and resolve in any interleaving: neither locks the incident
-- that it read, so another action can be committed before the save. The status
-- moves forward, and each action happens once, exactly in the runs where no
-- save is overtaken so.
import PulseForge.UniqueIndex
import PulseForge.AuditTrail
import PulseForge.Lib.Overtake

open txn table interleave

namespace pulseforge

/-! ## Moving forward -/

/-- The order of the statuses. -/
def IncidentStatus.rank : IncidentStatus → Nat
  | .OPEN => 0
  | .ACKNOWLEDGED => 1
  | .RESOLVED => 2

/-- A time that is set stays as it is. -/
def Kept (old new : Option Int) : Prop := old.isSome = true → new = old

/-- From one committed store to the next, no incident goes back or has a time
set twice, and no action has a second entry in the audit log. -/
structure MovesForward (s s' : Store) : Prop where
  incidents : ∀ i ∈ s.incidents, ∃ i' ∈ s'.incidents, i'.id = i.id ∧
    i.status.rank ≤ i'.status.rank ∧ Kept i.acknowledged_at i'.acknowledged_at ∧
      Kept i.resolved_at i'.resolved_at
  entries : ∀ incident_id, audits .INCIDENT_ACKNOWLEDGED incident_id s' ≤ 1 ∧
    audits .INCIDENT_RESOLVED incident_id s' ≤ 1

theorem movesForward_of_same {s s' : Store} (hi : s'.incidents = s.incidents) (h : Logged s') :
    MovesForward s s' where
  incidents := by
    intro i hmem
    rw [hi]
    exact ⟨i, hmem, rfl, le_rfl, fun _ => rfl, fun _ => rfl⟩
  entries := h.once

/-- The update of one incident moves forward when it does so for its row. -/
theorem movesForward_update {s s' : Store} {incident_id : UUID} {f : Incident → Incident}
    (hs' : s'.incidents = updateWhere (fun i => i.id = incident_id) f s.incidents)
    (hf : ∀ i ∈ s.incidents, i.id = incident_id → (f i).id = i.id ∧
      i.status.rank ≤ (f i).status.rank ∧ Kept i.acknowledged_at (f i).acknowledged_at ∧
        Kept i.resolved_at (f i).resolved_at)
    (h : Logged s') : MovesForward s s' where
  incidents := by
    intro i hmem
    rw [hs']
    exact exists_updateWhere hmem ⟨rfl, le_rfl, fun _ => rfl, fun _ => rfl⟩ fun hid =>
      hf i hmem (by simpa using hid)
  entries := h.once

/-! ## The status of one incident -/

/-- The status of the incident, if the store has it, meets the condition. -/
def StatusMeets (ok : IncidentStatus → Prop) (incident_id : UUID) (s : Store) : Prop :=
  ∀ i ∈ s.incidents, i.id = incident_id → ok i.status

/-- The incident is not resolved in the store. -/
def Unresolved (incident_id : UUID) (s : Store) : Prop :=
  StatusMeets (· ≠ .RESOLVED) incident_id s

theorem statusMeets_update {s s' : Store} {ok : IncidentStatus → Prop} {p : Incident → Bool}
    {f : Incident → Incident} {incident_id : UUID} (hs' : s'.incidents = updateWhere p f s.incidents)
    (hid : ∀ i, (f i).id = i.id)
    (hf : ∀ i, p i = true → i.id = incident_id → (ok (f i).status ↔ ok i.status)) :
    StatusMeets ok incident_id s' ↔ StatusMeets ok incident_id s := by
  unfold StatusMeets
  rw [hs']
  constructor
  · intro h i hi heq
    by_cases hp : p i = true
    · exact (hf i hp heq).mp (h (f i) (mem_updateWhere_of hi hp) ((hid i).trans heq))
    · exact h i (mem_updateWhere_of_not hi (by simpa using hp)) heq
  · intro h
    refine forall_updateWhere h fun i hi hp heq => ?_
    rw [hid] at heq
    exact (hf i hp heq).mpr (h i hi heq)

/-! ## Late saves -/

variable [Platform] {ι : Type} [Fintype ι] [DecidableEq ι] {jobs : ι → Job}

/-- The incident, if the store has it, is in the status that the check of the
request asked for: an acknowledge finds it open, a resolve not yet resolved. -/
def CheckHolds (job : Job) (incident_id : UUID) (s : Store) : Prop :=
  match job.call with
  | .acknowledge _ _ => StatusMeets (· = .OPEN) incident_id s
  | _ => Unresolved incident_id s

/-- When the turn commits a save, the check of its request still holds. -/
def NotLate (jobs : ι → Job) (g : State ι Store Stage) (i : ι) : Prop :=
  ∀ incident, Saves jobs g i incident → CheckHolds (jobs i) incident.id g.shared

omit [Platform] [Fintype ι] [DecidableEq ι] in
theorem checkHolds_acknowledge {i : ι} {path_id incident_id : UUID} {user : User} {s : Store}
    (hcall : (jobs i).call = .acknowledge path_id user) :
    CheckHolds (jobs i) incident_id s ↔ StatusMeets (· = .OPEN) incident_id s := by
  simp only [CheckHolds, hcall]

omit [Platform] [Fintype ι] [DecidableEq ι] in
theorem checkHolds_resolve {i : ι} {path_id incident_id : UUID} {user : User} {s : Store}
    (hcall : (jobs i).call = .resolve path_id user) :
    CheckHolds (jobs i) incident_id s ↔ Unresolved incident_id s := by
  simp only [CheckHolds, hcall]

/-! ## Saves -/

section
variable {g : State ι Store Stage} {i j : ι} {incident_id : UUID}

/-- The turn commits an acknowledge or a resolve of the incident. -/
def SavesIncident (jobs : ι → Job) (incident_id : UUID) (g : State ι Store Stage) (i : ι) : Prop :=
  ∃ incident, Saves jobs g i incident ∧ incident.id = incident_id

/-- The turn commits a resolve of the incident. -/
def Resolves (jobs : ι → Job) (incident_id : UUID) (g : State ι Store Stage) (i : ι) : Prop :=
  (∃ path_id user, (jobs i).call = .resolve path_id user) ∧
    ∃ incident, Saves jobs g i incident ∧ incident.id = incident_id

/-- A save is the commit of an acknowledge or of a resolve. -/
theorem saves_cases {incident : Incident} (h : Saves jobs g i incident) :
    ∃ s', turn jobs g i = g.move i (s', .refreshing incident) ∧
      ((∃ path_id user, (jobs i).call = .acknowledge path_id user ∧
          s' = saveAcknowledge (jobs i).env incident user.id g.shared) ∨
        ∃ path_id user, (jobs i).call = .resolve path_id user ∧
          s' = saveResolve (jobs i).env incident user.id g.shared) := by
  obtain ⟨ht, hafter⟩ := h
  rcases turn_cases jobs g i with heq | ⟨s', t', hp, heq⟩
  · rw [heq, ht] at hafter
    cases hafter
  rw [heq, move_self] at hafter
  have hmove : Move (jobs i) g.shared (g.locals i) s' t' := (move_of_some hp).2
  rw [ht] at hmove
  simp only at hafter
  subst hafter
  refine ⟨s', heq, ?_⟩
  cases hmove with
  | acknowledged hcall => exact Or.inl ⟨_, _, hcall, rfl⟩
  | resolved hcall => exact Or.inr ⟨_, _, hcall, rfl⟩

/-- After a save the incident has the status that the request gave it. -/
theorem SavesIncident.status (h : Indexed jobs g) (hsaves : SavesIncident jobs incident_id g j) :
    (∃ row ∈ (turn jobs g j).shared.incidents, row.id = incident_id) ∧
      ((∃ path_id user, (jobs j).call = .acknowledge path_id user) ∧
          StatusMeets (· = .ACKNOWLEDGED) incident_id (turn jobs g j).shared ∨
        (∃ path_id user, (jobs j).call = .resolve path_id user) ∧
          StatusMeets (· = .RESOLVED) incident_id (turn jobs g j).shared) := by
  have hafter : ∀ (f : Incident → Incident) (status : IncidentStatus),
      (∀ i, (f i).id = i.id ∧ (f i).status = status) → ∀ rows : List Incident,
        ∀ i ∈ updateWhere (fun i => i.id = incident_id) f rows, i.id = incident_id → i.status = status := by
    intro f status hf rows i hi hid
    obtain ⟨row, _, rfl⟩ := mem_updateWhere.mp hi
    by_cases hsame : row.id = incident_id
    · simp only [hsame, decide_true, if_true]
      exact (hf row).2
    · simp only [hsame, decide_false, Bool.false_eq_true, if_false] at hid
  obtain ⟨incident, hsaves, rfl⟩ := hsaves
  obtain ⟨row, hrow, hid, _⟩ := h.read j incident hsaves.1
  obtain ⟨s', heq, ⟨path_id, user, hcall, rfl⟩ | ⟨path_id, user, hcall, rfl⟩⟩ := saves_cases hsaves
  · rw [heq]
    refine ⟨⟨acknowledged user.id ((jobs j).env.clock 1) (jobs j).env.now row, ?_, hid⟩,
      Or.inl ⟨⟨path_id, user, hcall⟩, ?_⟩⟩
    · exact mem_updateWhere_of hrow (by simpa using hid)
    · exact hafter (acknowledged user.id ((jobs j).env.clock 1) (jobs j).env.now) _ (fun _ => ⟨rfl, rfl⟩) _
  · rw [heq]
    refine ⟨⟨resolved user.id ((jobs j).env.clock 1) (jobs j).env.now incident.assigned_to.isNone row, ?_, hid⟩,
      Or.inr ⟨⟨path_id, user, hcall⟩, ?_⟩⟩
    · exact mem_updateWhere_of hrow (by simpa using hid)
    · exact hafter (resolved user.id ((jobs j).env.clock 1) (jobs j).env.now incident.assigned_to.isNone) _
        (fun _ => ⟨rfl, rfl⟩) _

theorem SavesIncident.not_open (h : Indexed jobs g) (hsaves : SavesIncident jobs incident_id g j) :
    ¬ StatusMeets (· = .OPEN) incident_id (turn jobs g j).shared := by
  intro hopen
  obtain ⟨⟨row, hrow, hid⟩, ⟨_, hstatus⟩ | ⟨_, hstatus⟩⟩ := hsaves.status h
  · exact absurd ((hopen row hrow hid).symm.trans (hstatus row hrow hid)) (by decide)
  · exact absurd ((hopen row hrow hid).symm.trans (hstatus row hrow hid)) (by decide)

/-- A turn that resolves the incident leaves it resolved. -/
theorem Resolves.resolved (h : Indexed jobs g) (hr : Resolves jobs incident_id g j) :
    ¬ Unresolved incident_id (turn jobs g j).shared := by
  intro hunresolved
  obtain ⟨⟨path_id, user, hcall⟩, hsaves⟩ := hr
  obtain ⟨⟨row, hrow, hid⟩, ⟨⟨_, _, hother⟩, _⟩ | ⟨_, hstatus⟩⟩ := SavesIncident.status h hsaves
  · rw [hcall] at hother
    cases hother
  · exact hunresolved row hrow hid (hstatus row hrow hid)

/-- A save that is no resolve leaves the incident unresolved. -/
theorem SavesIncident.unresolved (h : Indexed jobs g) (hsaves : SavesIncident jobs incident_id g j)
    (hr : ¬ Resolves jobs incident_id g j) :
    (∃ path_id user, (jobs j).call = .acknowledge path_id user) ∧
      Unresolved incident_id (turn jobs g j).shared := by
  rcases (hsaves.status h).2 with ⟨hcall, hstatus⟩ | ⟨hcall, _⟩
  · refine ⟨hcall, fun row hrow hid => ?_⟩
    rw [hstatus row hrow hid]
    decide
  · exact absurd ⟨hcall, hsaves⟩ hr

/-- The first turn of a request is no save: it reads. -/
theorem not_saves_first {s₀ : Store} {past : List ι} {i : ι} (hi : i ∉ past) (incident : Incident) :
    ¬ Saves jobs (run.after (turn jobs) (begin s₀) past) i incident := by
  have hstart : (run.after (turn jobs) (begin s₀) past).locals i = .start := by
    induction past with
    | nil => rfl
    | cons j past ih =>
      rw [List.mem_cons, not_or] at hi
      rw [run.after_cons]
      rcases turn_cases jobs (run.after (turn jobs) (begin s₀) past) j with heq | ⟨s', t', _, heq⟩
      · rw [heq, ih hi.2]
      · rw [heq, move_other hi.1, ih hi.2]
  rintro ⟨ht, _⟩
  rw [hstart] at ht
  cases ht

/-- A turn that does not save the incident leaves its status as it was. -/
theorem statusMeets_kept {ok : IncidentStatus → Prop} (h : Indexed jobs g)
    (hnew : ok .OPEN ∨ ∃ row ∈ g.shared.incidents, row.id = incident_id)
    (hr : ¬ SavesIncident jobs incident_id g j) :
    StatusMeets ok incident_id (turn jobs g j).shared ↔ StatusMeets ok incident_id g.shared := by
  rcases turn_cases jobs g j with heq | ⟨s', t', hp, heq⟩
  · rw [heq]
  rw [heq]
  have hmove : Move (jobs j) g.shared (g.locals j) s' t' := (move_of_some hp).2
  show StatusMeets ok incident_id s' ↔ _
  have hchange := hmove.incidents
  -- a save of another incident
  have hother : ∀ incident, g.locals j = .saving incident → s'.incidents ≠ g.shared.incidents →
      incident.id ≠ incident_id := by
    intro incident ht hmoved hid
    refine hr ⟨incident, saves_of_move hp ht ?_, hid⟩
    rw [ht] at hmove
    cases hmove with
    | crossed => exact absurd rfl hmoved
    | acknowledged => rfl
    | resolved => rfl
  by_cases hsame : s'.incidents = g.shared.incidents
  · unfold StatusMeets
    rw [hsame]
  generalize hrows : s'.incidents = rows at hchange
  cases hchange with
  | same => exact absurd hrows hsame
  | raised => exact statusMeets_update hrows (fun _ => rfl) fun _ _ _ => Iff.rfl
  | created hcall ids ht =>
    unfold StatusMeets
    rw [hrows]
    constructor
    · exact fun hok i hi => hok i (List.mem_append_left _ hi)
    · intro hok
      refine forall_insert hok ?_
      intro hid
      rcases hnew with hnew | ⟨row, hrow, hid'⟩
      · exact hnew
      · refine absurd (hid'.trans hid.symm) (h.unused j ?_ row hrow)
        rw [ht]
        exact fun _ => nofun
  | acknowledged hcall incident ht =>
    refine statusMeets_update hrows (fun _ => rfl) fun i hi hid => ?_
    rw [decide_eq_true_eq] at hi
    exact absurd (hi.symm.trans hid) (hother incident ht hsame)
  | resolved hcall incident ht =>
    refine statusMeets_update hrows (fun _ => rfl) fun i hi hid => ?_
    rw [decide_eq_true_eq] at hi
    exact absurd (hi.symm.trans hid) (hother incident ht hsame)

end

/-- The entries of the audit log, while no save was late. -/
structure Told (jobs : ι → Job) (g : State ι Store Stage) : Prop where
  indexed : Indexed jobs g
  logged : Logged g.shared
  untold : ∀ i, (∀ reply, g.locals i ≠ .ended reply) →
    audits .INCIDENT_ACKNOWLEDGED ((jobs i).env.uuid 1) g.shared = 0 ∧
      audits .INCIDENT_RESOLVED ((jobs i).env.uuid 1) g.shared = 0

omit [Fintype ι] [DecidableEq ι] in
theorem told_begin {s₀ : Store} (hs : Reachable s₀) (hf : FreshJobs jobs s₀) :
    Told jobs (begin s₀) where
  indexed := indexed_begin (hs.consistent) hf
  logged := reachable_logged hs
  untold := fun i _ => ⟨audits_unused ((hf.fresh i).unused 1) _, audits_unused ((hf.fresh i).unused 1) _⟩

theorem commitEvent_logged {s : Store} (h : Logged s) {e : Env}
    (hack : audits .INCIDENT_ACKNOWLEDGED (e.uuid 1) s = 0)
    (hres : audits .INCIDENT_RESOLVED (e.uuid 1) s = 0) (payload : EventCreate) (api_key : ApiKey)
    (verdict : Verdict) : Logged (commitEvent e payload api_key s verdict) := by
  have hstored : Logged (storeEvent e payload api_key s) := h.elsewhere rfl rfl
  cases verdict with
  | quiet => exact hstored
  | attach incident => exact attached_logged hstored e incident _
  | create ids =>
    have hnew := hstored.create (new_event e payload api_key) hack hres
    exact hnew.elsewhere rfl rfl

section
variable {g : State ι Store Stage} {i : ι} {s' : Store} {t' : Stage}

theorem Told.logged_move (h : Told jobs g) (hlate : NotLate jobs g i)
    (hp : lockStep (fun i => transaction (jobs i)) i g = some (s', t')) : Logged s' := by
  have hmove : Move (jobs i) g.shared (g.locals i) s' t' := (move_of_some hp).2
  have huntold := h.untold i
  have hread := h.indexed.read i
  have hsaves := fun incident => @saves_of_move _ _ _ _ jobs g i (s', t') hp incident
  generalize ht : g.locals i = t at hmove
  cases hmove with
  | marked => exact h.logged.elsewhere rfl rfl
  | committed hcall verdict =>
    obtain ⟨hack, hres⟩ := huntold (by simp [ht])
    exact commitEvent_logged h.logged hack hres _ _ verdict
  | acknowledged hcall incident =>
    obtain ⟨row, hrow, hid, _⟩ := hread incident ht
    have hopen := (checkHolds_acknowledge hcall).mp (hlate incident (hsaves incident ht rfl)) row hrow hid
    unfold saveAcknowledge
    rw [← hid]
    exact h.logged.acknowledge h.indexed.ids hrow hopen rfl (by simp [incident_audit, audit_row, hid]) _ _ _
  | resolved hcall incident =>
    obtain ⟨row, hrow, hid, _⟩ := hread incident ht
    have hopen := (checkHolds_resolve hcall).mp (hlate incident (hsaves incident ht rfl)) row hrow hid
    unfold saveResolve
    rw [← hid]
    exact h.logged.resolve hrow hopen rfl (by simp [incident_audit, audit_row, hid]) _ _ _ _
  | _ => exact h.logged

/-- A move adds entries for the incident of its save only. -/
theorem audits_move {action : AuditAction} {id : UUID}
    (hp : lockStep (fun i => transaction (jobs i)) i g = some (s', t'))
    (hid : ∀ incident, g.locals i = .saving incident → incident.id ≠ id) :
    audits action id s' = audits action id g.shared := by
  have hmove : Move (jobs i) g.shared (g.locals i) s' t' := (move_of_some hp).2
  generalize g.locals i = t at hmove hid
  have hentry : ∀ incident user kind (s : Store), t = .saving incident →
      audits action id (addAudit (incident_audit (jobs i).env kind incident user) s) =
        audits action id s := by
    intro incident user kind s ht
    have hne := hid incident ht
    rw [audits_addAudit, if_neg, Nat.add_zero]
    simp [incident_audit, audit_row, hne]
  cases hmove with
  | committed _ verdict =>
    unfold audits
    rw [commitEvent_audit_logs]
  | acknowledged _ incident => exact hentry incident _ _ _ rfl
  | resolved _ incident => exact hentry incident _ _ _ rfl
  | _ => rfl

theorem Told.move {s₀ : Store} (hf : FreshJobs jobs s₀) (h : Told jobs g) (hlate : NotLate jobs g i)
    (hp : lockStep (fun i => transaction (jobs i)) i g = some (s', t')) : Told jobs (g.move i (s', t')) := by
  refine ⟨h.indexed.move hf hp, h.logged_move hlate hp, ?_⟩
  intro j hj
  have hunfinished := unfinished_before hp hj
  have hother : ∀ incident, g.locals i = .saving incident → incident.id ≠ (jobs j).env.uuid 1 := by
    intro incident ht
    obtain ⟨row, hrow, hid, _⟩ := h.indexed.read i incident ht
    rw [← hid]
    exact h.indexed.unused j hunfinished row hrow
  rw [move_shared, audits_move hp hother, audits_move hp hother]
  exact h.untold j hunfinished

/-- A move without a late save goes forward. -/
theorem Told.forward (h : Told jobs g) (hlate : NotLate jobs g i)
    (hp : lockStep (fun i => transaction (jobs i)) i g = some (s', t')) : MovesForward g.shared s' := by
  have hlogged := h.logged_move hlate hp
  have hmove : Move (jobs i) g.shared (g.locals i) s' t' := (move_of_some hp).2
  have hrows := h.logged.rows
  have hsaves := fun incident => @saves_of_move _ _ _ _ jobs g i (s', t') hp incident
  generalize ht : g.locals i = t at hmove
  cases hmove with
  | @committed payload api_key hcall verdict =>
    cases verdict with
    | quiet => exact movesForward_of_same rfl hlogged
    | attach incident =>
      rcases attached_incidents (e := (jobs i).env) (s := storeEvent (jobs i).env payload api_key g.shared)
        incident (new_event (jobs i).env payload api_key) with heq | heq
      · exact movesForward_of_same heq hlogged
      · refine movesForward_update heq ?_ hlogged
        intro row _ _
        exact ⟨rfl, le_rfl, fun _ => rfl, fun _ => rfl⟩
    | create ids =>
      refine ⟨?_, hlogged.once⟩
      intro row hrow
      exact ⟨row, List.mem_append_left _ hrow, rfl, le_rfl, fun _ => rfl, fun _ => rfl⟩
  | acknowledged hcall incident =>
    refine movesForward_update rfl ?_ hlogged
    intro row hrow hid
    have hopen := (checkHolds_acknowledge hcall).mp (hlate incident (hsaves incident ht rfl)) row hrow hid
    refine ⟨rfl, ?_, ?_, fun _ => rfl⟩
    · rw [hopen]
      exact Nat.zero_le _
    · intro hset
      rw [((hrows row hrow).opened hopen).1] at hset
      cases hset
  | resolved hcall incident =>
    refine movesForward_update rfl ?_ hlogged
    intro row hrow hid
    have hopen := (checkHolds_resolve hcall).mp (hlate incident (hsaves incident ht rfl)) row hrow hid
    refine ⟨rfl, ?_, fun _ => rfl, ?_⟩
    · show row.status.rank ≤ 2
      cases row.status <;> simp [IncidentStatus.rank]
    · intro hset
      rw [((hrows row hrow).unresolved hopen).1] at hset
      cases hset
  | _ => exact movesForward_of_same rfl hlogged

/-- A late save goes back, or it makes a second entry. -/
theorem Told.not_late (h : Told jobs g) (hforward : MovesForward g.shared (turn jobs g i).shared) :
    NotLate jobs g i := by
  intro incident hsaves
  obtain ⟨s', heq, hsaved⟩ := saves_cases hsaves
  rw [heq] at hforward
  rcases hsaved with ⟨path_id, user, hcall, rfl⟩ | ⟨path_id, user, hcall, rfl⟩
  · refine (checkHolds_acknowledge hcall).mpr fun row hrow hid => ?_
    have hrows := h.logged.rows row hrow
    obtain ⟨hack, _⟩ := hforward.entries row.id
    simp only [move_shared] at hack
    have hsecond : audits .INCIDENT_ACKNOWLEDGED row.id
        (saveAcknowledge (jobs i).env incident user.id g.shared) =
          audits .INCIDENT_ACKNOWLEDGED row.id g.shared + 1 := by
      unfold saveAcknowledge
      rw [audits_addAudit, if_pos (by simp [incident_audit, audit_row, hid])]
      rfl
    obtain ⟨row', hrow', hid', hrank, _⟩ := hforward.incidents row hrow
    cases hstatus : row.status with
    | OPEN => rfl
    | ACKNOWLEDGED =>
      have hfirst := hrows.acknowledged hstatus
      omega
    | RESOLVED =>
      obtain ⟨old, hold, rfl⟩ := mem_updateWhere.mp hrow'
      rw [hstatus] at hrank
      by_cases hsame : old.id = incident.id
      · simp only [hsame, decide_true, if_true] at hrank
        have hrank : 2 ≤ 1 := hrank
        omega
      · simp only [hsame, decide_false, Bool.false_eq_true, if_false] at hid'
        exact absurd (hid'.trans hid) hsame
  · refine (checkHolds_resolve hcall).mpr fun row hrow hid hstatus => ?_
    have hrows := h.logged.rows row hrow
    obtain ⟨_, hres⟩ := hforward.entries row.id
    simp only [move_shared] at hres
    have hsecond : audits .INCIDENT_RESOLVED row.id
        (saveResolve (jobs i).env incident user.id g.shared) =
          audits .INCIDENT_RESOLVED row.id g.shared + 1 := by
      unfold saveResolve
      rw [audits_addAudit, if_pos (by simp [incident_audit, audit_row, hid])]
      rfl
    have hfirst := hrows.resolved hstatus
    omega

theorem Told.forward_iff (h : Told jobs g) :
    MovesForward g.shared (turn jobs g i).shared ↔ NotLate jobs g i := by
  refine ⟨h.not_late, fun hlate => ?_⟩
  rcases turn_cases jobs g i with heq | ⟨s', t', hp, heq⟩
  · rw [heq]
    exact movesForward_of_same rfl h.logged
  · rw [heq]
    exact h.forward hlate hp

end

theorem told_run {s₀ : Store} (hs : Reachable s₀) (hf : FreshJobs jobs s₀) {past : List ι}
    (h : run.Every (turn jobs) (begin s₀) (fun g i => MovesForward g.shared (turn jobs g i).shared)
      past) : Told jobs (run.after (turn jobs) (begin s₀) past) := by
  induction past with
  | nil => exact told_begin hs hf
  | cons i past ih =>
    obtain ⟨hpast, hi⟩ := h
    have ht := ih hpast
    rw [run.after_cons]
    rcases turn_cases jobs (run.after (turn jobs) (begin s₀) past) i with heq | ⟨s', t', hp, heq⟩
    · rw [heq]
      exact ht
    · rw [heq]
      exact ht.move hf (ht.forward_iff.mp hi) hp

/-! ## From the read to the save -/

/-- The request read the incident and checked its status, and has not saved yet. -/
def AboutToSave (i : ι) (incident_id : UUID) (g : State ι Store Stage) : Prop :=
  ∃ incident, g.locals i = .saving incident ∧ incident.id = incident_id

/-- What a save of the request must not come after: for an acknowledge any other
action on the incident, for a resolve another resolve of it. -/
def Preempts (jobs : ι → Job) (i : ι) (incident_id : UUID) (g : State ι Store Stage) (j : ι) : Prop :=
  match (jobs i).call with
  | .acknowledge _ _ => SavesIncident jobs incident_id g j
  | _ => Resolves jobs incident_id g j

/-- If the turn commits an acknowledge, no other action on the incident was
committed since the request read it; if it commits a resolve, no other resolve. -/
def SavesInTime (jobs : ι → Job) (s₀ : Store) (past : List ι) (i : ι) : Prop :=
  ∀ incident, Saves jobs (run.after (turn jobs) (begin s₀) past) i incident →
    ¬ run.Overtaken (turn jobs) (begin s₀) (AboutToSave i incident.id) (Preempts jobs i incident.id)
      past

section
variable {g : State ι Store Stage} {i j : ι} {incident_id : UUID}

/-- The check holds of the incident that a request just read. -/
theorem checkHolds_of_read (h : Indexed jobs g) (hbefore : ¬ AboutToSave i incident_id g)
    (hafter : AboutToSave i incident_id (turn jobs g j)) :
    CheckHolds (jobs i) incident_id (turn jobs g j).shared := by
  rcases turn_cases jobs g j with heq | ⟨s', t', hp, heq⟩
  · rw [heq] at hafter
    exact absurd hafter hbefore
  rw [heq] at hafter ⊢
  obtain ⟨incident, ht', rfl⟩ := hafter
  by_cases hij : i = j
  · subst hij
    rw [move_self] at ht'
    have hmove : Move (jobs i) g.shared (g.locals i) s' t' := (move_of_some hp).2
    simp only at ht'
    subst ht'
    generalize g.locals i = t at hmove
    cases hmove with
    | acknowledging hcall _ hmem hstatus =>
      refine (checkHolds_acknowledge hcall).mpr fun row hrow hid => ?_
      rw [h.ids.eq hrow hmem hid]
      exact hstatus
    | resolving hcall _ hmem hstatus =>
      refine (checkHolds_resolve hcall).mpr fun row hrow hid => ?_
      rw [h.ids.eq hrow hmem hid]
      exact hstatus
  · rw [move_other hij] at ht'
    exact absurd ⟨incident, ht', rfl⟩ hbefore

/-- While nothing goes back, an incident stays unresolved until a resolve. -/
theorem unresolved_turn (h : Told jobs g) (hforward : MovesForward g.shared (turn jobs g j).shared) :
    Unresolved incident_id (turn jobs g j).shared ↔
      Unresolved incident_id g.shared ∧ ¬ Resolves jobs incident_id g j := by
  by_cases hr : Resolves jobs incident_id g j
  · exact iff_of_false (hr.resolved h.indexed) fun hand => hand.2 hr
  rw [and_iff_left hr]
  by_cases hsaves : SavesIncident jobs incident_id g j
  · -- an acknowledge, which was in time, so that the incident was open
    obtain ⟨⟨path_id, user, hcall⟩, hafter⟩ := hsaves.unresolved h.indexed hr
    refine iff_of_true hafter fun row hrow hid => ?_
    obtain ⟨incident, hsaves, rfl⟩ := hsaves
    have hopen := (checkHolds_acknowledge hcall).mp (h.not_late hforward incident hsaves) row hrow hid
    rw [hopen]
    decide
  · exact statusMeets_kept h.indexed (Or.inl (by decide)) hsaves

/-- While nothing goes back, the check holds on unless the turn preempts the save. -/
theorem checkHolds_kept (h : Told jobs g) (hforward : MovesForward g.shared (turn jobs g j).shared)
    (hbefore : AboutToSave i incident_id g) :
    CheckHolds (jobs i) incident_id (turn jobs g j).shared ↔
      CheckHolds (jobs i) incident_id g.shared ∧ ¬ Preempts jobs i incident_id g j := by
  unfold CheckHolds Preempts
  cases (jobs i).call with
  | acknowledge path_id user =>
    obtain ⟨incident, ht, rfl⟩ := hbefore
    obtain ⟨row, hrow, hid, _⟩ := h.indexed.read i incident ht
    by_cases hsaves : SavesIncident jobs incident.id g j
    · exact iff_of_false (hsaves.not_open h.indexed) fun hand => hand.2 hsaves
    · rw [statusMeets_kept h.indexed (Or.inr ⟨row, hrow, hid⟩) hsaves]
      exact (and_iff_left hsaves).symm
  | resolve path_id user => exact unresolved_turn h hforward
  | ingest payload api_key => exact unresolved_turn h hforward

end

/-- While a request is about to save, its check holds exactly when nothing preempted the save. -/
theorem checkHolds_iff {s₀ : Store} (hs : Reachable s₀) (hf : FreshJobs jobs s₀) {past : List ι}
    (hforward : run.Every (turn jobs) (begin s₀)
      (fun g i => MovesForward g.shared (turn jobs g i).shared) past) {i : ι} {incident_id : UUID}
    (h : AboutToSave i incident_id (run.after (turn jobs) (begin s₀) past)) :
    CheckHolds (jobs i) incident_id (run.after (turn jobs) (begin s₀) past).shared ↔
      ¬ run.Overtaken (turn jobs) (begin s₀) (AboutToSave i incident_id)
        (Preempts jobs i incident_id) past := by
  refine run.ok_iff_not_overtaken_while _
    (fun past => CheckHolds (jobs i) incident_id (run.after (turn jobs) (begin s₀) past).shared)
    ?_ ?_ ?_ hforward h
  · rintro ⟨incident, ht, _⟩
    cases ht
  · intro past j _ hbefore hafter
    exact checkHolds_of_read (indexed_run hs.consistent hf past) hbefore hafter
  · intro past j hgood hbefore _
    exact checkHolds_kept (told_run hs hf hgood.1) hgood.2 hbefore

/-- Along the committed states of an interleaving every incident moves forward
and is acknowledged and resolved at most once, exactly when no acknowledge is
saved after another action on the incident was committed since the acknowledge
read it, and no resolve after another resolve. -/
theorem resolved_is_final_iff_no_save_is_late {s₀ : Store} (hs : Reachable s₀)
    (hf : FreshJobs jobs s₀) (turns : List ι) :
    run.Every (turn jobs) (begin s₀) (fun g i => MovesForward g.shared (turn jobs g i).shared) turns ↔
      run.Each (SavesInTime jobs s₀) turns := by
  refine run.every_iff_each_while (fun past i hforward => ?_) turns
  rw [(told_run hs hf hforward).forward_iff]
  refine forall_congr' fun incident => imp_congr_right fun hsaves => ?_
  exact checkHolds_iff hs hf hforward ⟨incident, hsaves.1, rfl⟩

/-! ## A late acknowledge -/

/-- The two actions on the incident of the sample run. -/
def bothActions (i : Fin 2) : Job :=
  ⟨sampleDraws 2 i, if i = 0 then .acknowledge 91 sampleMember else .resolve 91 sampleMember⟩

omit [Platform] in
/-- Both requests read the open incident; the resolve commits, then the acknowledge. -/
theorem a_late_acknowledge_reopens_the_incident :
    let s₀ := run.after (@serve samplePlatform) Store.empty sampleRun
    @Reachable samplePlatform s₀ ∧ FreshJobs bothActions s₀ ∧
      ¬ run.Every (@turn samplePlatform _ _ _ bothActions) (begin s₀)
        (fun g i => MovesForward g.shared (@turn samplePlatform _ _ _ bothActions g i).shared)
        [0, 1, 1, 0] := by
  intro s₀
  refine ⟨sample_reachable, sample_jobs_fresh (fun _ => rfl) (by decide +kernel), ?_⟩
  rintro ⟨_, hlast⟩
  have hbefore : ∃ i ∈ (run.after (@turn samplePlatform _ _ _ bothActions) (begin s₀)
      [1, 1, 0]).shared.incidents, i.id = 91 ∧ i.status = .RESOLVED := by decide +kernel
  have hafter : ∀ i ∈ (run.after (@turn samplePlatform _ _ _ bothActions) (begin s₀)
      [0, 1, 1, 0]).shared.incidents, i.id = 91 → i.status = .ACKNOWLEDGED := by decide +kernel
  rw [run.after_cons] at hafter
  obtain ⟨i, hi, hid, hstatus⟩ := hbefore
  obtain ⟨i', hi', hid', hrank, _⟩ := hlast.incidents i hi
  rw [hstatus, hafter i' hi' (hid'.trans hid)] at hrank
  exact absurd hrank (by decide)

omit [Platform] in
/-- Both requests read the open incident; the acknowledge commits, then the
resolve: the incident ends resolved, with both times. -/
theorem a_resolve_after_an_acknowledge_moves_forward :
    let s₀ := run.after (@serve samplePlatform) Store.empty sampleRun
    run.Every (@turn samplePlatform _ _ _ bothActions) (begin s₀)
        (fun g i => MovesForward g.shared (@turn samplePlatform _ _ _ bothActions g i).shared)
        [1, 0, 1, 0] ∧
      ∃ i ∈ (run.after (@turn samplePlatform _ _ _ bothActions) (begin s₀) [1, 0, 1, 0]).shared.incidents,
        i.id = 91 ∧ i.status = .RESOLVED ∧ i.acknowledged_at.isSome = true ∧ i.resolved_at.isSome = true := by
  intro s₀
  refine ⟨?_, by decide +kernel⟩
  refine (@resolved_is_final_iff_no_save_is_late samplePlatform _ _ _ bothActions s₀ sample_reachable
    (sample_jobs_fresh (fun _ => rfl) (by decide +kernel)) [1, 0, 1, 0]).mpr ?_
  have hfirst : ∀ past i incident, i ∉ past →
      ¬ @Saves samplePlatform _ _ _ bothActions (run.after (@turn samplePlatform _ _ _ bothActions)
        (begin s₀) past) i incident :=
    fun past i incident hi => @not_saves_first samplePlatform _ _ _ bothActions s₀ past i hi incident
  refine ⟨⟨⟨⟨trivial, ?_⟩, ?_⟩, ?_⟩, ?_⟩
  · exact fun incident hsaves => absurd hsaves (hfirst [] 0 incident (by decide))
  · exact fun incident hsaves => absurd hsaves (hfirst [0] 1 incident (by decide))
  · intro incident _ hovertaken
    rcases hovertaken.some with (hnone | ⟨_, hsaves, _⟩) | ⟨_, hsaves, _⟩
    · exact hnone
    · exact hfirst [] 0 _ (by decide) hsaves
    · exact hfirst [0] 1 _ (by decide) hsaves
  · intro incident _ hovertaken
    rcases hovertaken.some with ((hnone | ⟨_, _, hsaves, _⟩) | ⟨_, _, hsaves, _⟩) | ⟨⟨_, _, hcall⟩, _⟩
    · exact hnone
    · exact hfirst [] 0 _ (by decide) hsaves
    · exact hfirst [0] 1 _ (by decide) hsaves
    · cases hcall

end pulseforge

-- The severity of an incident and the levels of the events linked to it. A
-- critical event that joins an active incident raises it; an error that opens
-- one does not look at the levels of its window.
import PulseForge.TelemetrySteps

open txn table

namespace pulseforge

def Event.critical (v : Event) : Bool := v.level = .CRITICAL

/-- The severity that the linked events ask for. -/
def severityOf (events : List Event) : IncidentSeverity :=
  if events.any Event.critical then .SEV_1 else .SEV_2

/-- Every incident has the severity that its linked events ask for. -/
def SeverityFits (s : Store) : Prop := ∀ i ∈ s.incidents, i.severity = severityOf (linkedEvents i.id s)

instance (s : Store) : Decidable (SeverityFits s) :=
  inferInstanceAs (Decidable (∀ i ∈ s.incidents, _ = _))

theorem severityOf_append (events : List Event) (v : Event) :
    severityOf (events ++ [v]) = if v.level = .CRITICAL then .SEV_1 else severityOf events := by
  unfold severityOf
  rw [List.any_append, List.any_cons, List.any_nil, Bool.or_false]
  by_cases hv : v.level = .CRITICAL
  · simp [Event.critical, hv]
  · simp [Event.critical, hv]

variable [Platform]

/-- The event opens an incident, is no critical one, and finds a critical one
in its window. -/
def HidesCritical (s : Store) (c : Env × Request) : Prop :=
  ∃ event w, Opens s c.1 c.2 event w ∧ event.level ≠ .CRITICAL ∧
    ∃ v ∈ detectionWindow event w s, v.level = .CRITICAL

/-! ## One request -/

section
variable {s : Store} {e : Env} {r : Request}

omit [Platform] in
/-- An update of one incident that keeps its id, and the severity it should have. -/
theorem SeverityFits.update {t : Store} (h : SeverityFits s) {incident_id : UUID}
    {f : Incident → Incident}
    (hi : t.incidents = updateWhere (fun i => i.id = incident_id) f s.incidents)
    (hl : ∀ i, i ≠ incident_id → linkedEvents i t = linkedEvents i s) (hid : ∀ i, (f i).id = i.id)
    (hrow : ∀ i ∈ s.incidents, i.id = incident_id →
      (f i).severity = severityOf (linkedEvents incident_id t)) : SeverityFits t := by
  intro i hmem
  rw [hi] at hmem
  obtain ⟨i₀, hi₀, rfl⟩ := mem_updateWhere.mp hmem
  by_cases heq : i₀.id = incident_id
  · simp only [heq, decide_true, if_true, hid]
    exact hrow i₀ hi₀ heq
  · simp only [heq, decide_false, Bool.false_eq_true, if_false]
    rw [hl _ heq]
    exact h i₀ hi₀

omit [Platform] in
theorem escalated_severity (event : Event) (now : Int) (i : Incident) :
    (escalated event now i).severity = if event.level = .CRITICAL then .SEV_1 else i.severity := by
  unfold escalated
  by_cases hlevel : event.level = .CRITICAL
  · by_cases hsev : i.severity = .SEV_1
    · simp [hlevel, hsev]
    · simp [hlevel, hsev, raiseSeverity]
  · simp [hlevel]

omit [Platform] in
theorem escalated_id (event : Event) (now : Int) (i : Incident) : (escalated event now i).id = i.id := by
  unfold escalated
  split <;> rfl

/-- The new incident fits its window, unless its event hides a critical one. -/
theorem severity_of_opened {event : Event} {w : DateTime} (ho : Opens s e r event w) :
    (new_incident e event).severity = severityOf (detectionWindow event w s) ↔
      ¬ (event.level ≠ .CRITICAL ∧ ∃ v ∈ detectionWindow event w s, v.level = .CRITICAL) := by
  have hself := mem_detectionWindow_self (s := s) ho.failing ho.start
  show (if event.level = .CRITICAL then IncidentSeverity.SEV_1 else .SEV_2) = _ ↔ _
  unfold severityOf
  by_cases hlevel : event.level = .CRITICAL
  · have hany : (detectionWindow event w s).any Event.critical = true :=
      List.any_eq_true.mpr ⟨event, hself, by simp [Event.critical, hlevel]⟩
    simp [hlevel, hany]
  · by_cases hany : ∃ v ∈ detectionWindow event w s, v.level = .CRITICAL
    · obtain ⟨v, hv, hcritical⟩ := hany
      have htrue : (detectionWindow event w s).any Event.critical = true :=
        List.any_eq_true.mpr ⟨v, hv, by simp [Event.critical, hcritical]⟩
      simp only [hlevel, if_false, htrue, if_true, reduceCtorEq, false_iff, not_not]
      exact ⟨hlevel, v, hv, hcritical⟩
    · have hfalse : (detectionWindow event w s).any Event.critical = false := by
        rw [List.any_eq_false]
        intro v hv hcritical
        exact hany ⟨v, hv, by simpa [Event.critical] using hcritical⟩
      simp [hlevel, hfalse, hany]

variable (hs : Consistent s) (hf : Fresh e s) (hfits : SeverityFits s)
include hs hf hfits

theorem severity_step (hc : ¬ HidesCritical s (e, r)) : SeverityFits (handle e r s).2 := by
  have hstep := telemetry_step hs hf r
  generalize (handle e r s).2 = t at hstep ⊢
  cases hstep with
  | same _ hi hl =>
    intro i hmem
    rw [hl]
    exact hfits i (hi ▸ hmem)
  | deleted _ _ hi hl =>
    intro i hmem
    rw [hl i hmem]
    rw [hi] at hmem
    exact hfits i (List.mem_filter.mp hmem).1
  | acknowledged incident _ _ _ _ hi hl =>
    refine hfits.update hi (fun i _ => hl i) (fun _ => rfl) fun i hmem heq => ?_
    rw [hl, ← heq]
    exact hfits i hmem
  | resolved incident _ _ _ _ hi hl =>
    refine hfits.update hi (fun i _ => hl i) (fun _ => rfl) fun i hmem heq => ?_
    rw [hl, ← heq]
    exact hfits i hmem
  | quiet _ _ _ hi hl =>
    intro i hmem
    rw [hl]
    exact hfits i (hi ▸ hmem)
  | attached _ incident _ _ _ hi hown hl =>
    refine hfits.update hi hl (escalated_id _ _) fun i hmem heq => ?_
    rw [escalated_severity, hown, severityOf_append, ← heq, hfits i hmem]
  | @opened _ _ event w ho _ hi hown hl =>
    intro i hmem
    rw [hi] at hmem
    rcases List.mem_append.mp hmem with hmem | hmem
    · rw [hl _ (hf.incident 1 i hmem)]
      exact hfits i hmem
    · obtain rfl := List.mem_singleton.mp hmem
      show _ = severityOf (linkedEvents (e.uuid 1) t)
      rw [hown]
      refine (severity_of_opened ho).mpr fun hhides => hc ⟨event, w, ho, hhides⟩

/-- After a request the severities fit, if and only if it hid no critical event. -/
theorem severity_step_iff : SeverityFits (handle e r s).2 ↔ ¬ HidesCritical s (e, r) := by
  constructor
  · rintro hnext ⟨event, w, ho, hhides⟩
    obtain ⟨hi, hown, _⟩ := ho.served hs hf
    have hnew := hnext (new_incident e event) (by rw [hi]; simp)
    have hid : (new_incident e event).id = e.uuid 1 := rfl
    rw [hid, hown] at hnew
    exact (severity_of_opened ho).mp hnew hhides
  · exact severity_step hs hf hfits

end

/-! ## Every run -/

/-- In a run of requests the severities fit after every step, if and only if no
error ever opened an incident with a critical event in its window. -/
theorem severity_fits_in_every_run_iff_no_error_hides_a_critical (past : List (Env × Request))
    (hfresh : run.Every serve Store.empty (fun s c => Fresh c.1 s) past) :
    run.Every serve Store.empty (fun s c => SeverityFits (serve s c)) past ↔
      run.Every serve Store.empty (fun s c => ¬ HidesCritical s c) past := by
  refine run.every_iff_assuming (I := fun s => Consistent s ∧ SeverityFits s) ?_ ?_ ?_ hfresh
  · constructor
    · exact consistent_empty
    · intro i hi
      cases hi
  · rintro s ⟨e, r⟩ ⟨hs, hfits⟩ hf hq
    exact ⟨serve_consistent hs hf r, severity_step hs hf hfits hq⟩
  · rintro s ⟨e, r⟩ ⟨hs, hfits⟩ hf
    exact severity_step_iff hs hf hfits

/-- Five failures in one minute, the first of them critical and the others errors. -/
def criticalFirst : List (Env × Request) :=
  let key : Option Bearer := some (.text (create_raw_key (sampleEnv 4) true))
  sampleRun.take 4 ++
    (sampleEnv 5, .ingest key { sampleEvent 'a' 0 with level := .CRITICAL }) :: sampleRun.drop 5

omit [Platform] in
theorem criticalFirst_fresh :
    run.Every (@serve samplePlatform) Store.empty (fun s c => Fresh c.1 s) criticalFirst :=
  fresh_of_drawsInOrder [9, 8, 7, 6, 5, 4, 3, 2, 1, 0] rfl (by decide +kernel)

omit [Platform] in
/-- The fifth failure is an error: it opens the incident as `SEV_2`. -/
theorem an_error_hides_a_critical :
    run.Every (@serve samplePlatform) Store.empty (fun s c => Fresh c.1 s) criticalFirst ∧
      ¬ run.Every (@serve samplePlatform) Store.empty
        (fun s c => SeverityFits (@serve samplePlatform s c)) criticalFirst := by
  refine ⟨criticalFirst_fresh, fun h => ?_⟩
  exact absurd h.2 (by decide +kernel)

omit [Platform] in
theorem a_hidden_critical_leaves_sev_2 :
    (¬ run.Every (@serve samplePlatform) Store.empty
        (fun s c => ¬ @HidesCritical samplePlatform s c) criticalFirst) ∧
      (run.after (@serve samplePlatform) Store.empty criticalFirst).incidents.map Incident.severity =
        [.SEV_2] := by
  refine ⟨fun h => ?_, by decide +kernel⟩
  have hfits := (@severity_fits_in_every_run_iff_no_error_hides_a_critical samplePlatform criticalFirst
    criticalFirst_fresh).mpr h
  exact absurd hfits.2 (by decide +kernel)

end pulseforge

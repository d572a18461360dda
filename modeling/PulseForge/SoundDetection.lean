-- What an incident is made of: in every interleaving of ingests and operator
-- actions, each incident goes on having at least five linked events of one
-- window that ends at its detection.
import PulseForge.EventLinks
import PulseForge.MissedIncident

open txn table interleave

namespace pulseforge

/-! ## The events that made an incident -/

/-- A failing event of the incident's group, in the minute that ends at its detection. -/
def detects (i : Incident) (v : Event) : Bool :=
  v.service_id = i.service_id && v.fingerprint = i.fingerprint && v.level.failing &&
    decide (i.detected_at.instant - 60 * SECOND ≤ v.occurred_at.instant) &&
    decide (v.occurred_at.instant ≤ i.detected_at.instant)

/-- The linked events of the incident that detect it. -/
def detectingEvents (i : Incident) (s : Store) : List Event :=
  (linkedEvents i.id s).filter (detects i)

/-- Five different linked events detect the incident, one of them at its time of detection. -/
structure SoundlyDetected (s : Store) (i : Incident) : Prop where
  distinct : ((detectingEvents i s).map Event.id).Nodup
  enough : 5 ≤ (detectingEvents i s).length
  latest : ∃ v ∈ detectingEvents i s, v.occurred_at = i.detected_at

/-- All incidents are soundly detected. -/
def AllSound (s : Store) : Prop := ∀ i ∈ s.incidents, SoundlyDetected s i

theorem distinct_of_ids {s : Store} (h : UniqueOn Event.id s.events) (i : Incident) :
    ((detectingEvents i s).map Event.id).Nodup :=
  ((h.filter _).filter _ : UniqueOn Event.id (detectingEvents i s))

/-- The columns of an incident that say what it was detected from. -/
def Incident.origin (i : Incident) : UUID × (UUID × Text) × DateTime := (i.id, i.group, i.detected_at)

theorem detectingEvents_mono {s t : Store} {i j : Incident} (horigin : j.origin = i.origin)
    (hl : (linkedEvents i.id s).Sublist (linkedEvents i.id t)) :
    (detectingEvents i s).Sublist (detectingEvents j t) := by
  obtain ⟨hid, hservice, hfp, hdetected⟩ : j.id = i.id ∧ j.service_id = i.service_id ∧
      j.fingerprint = i.fingerprint ∧ j.detected_at = i.detected_at := by
    simpa [Incident.origin, Incident.group, and_assoc] using horigin
  have hsame : detects j = detects i := by
    funext v
    simp only [detects, hservice, hfp, hdetected]
  unfold detectingEvents
  rw [hsame, hid]
  exact hl.filter _

/-- An incident stays soundly detected while its links grow. -/
theorem SoundlyDetected.mono {s t : Store} {i j : Incident} (h : SoundlyDetected s i)
    (hids : UniqueOn Event.id t.events) (horigin : j.origin = i.origin)
    (hl : (linkedEvents i.id s).Sublist (linkedEvents i.id t)) : SoundlyDetected t j := by
  have hsub := detectingEvents_mono horigin hl
  obtain ⟨v, hv, hlatest⟩ := h.latest
  have hdetected : j.detected_at = i.detected_at := congrArg (fun o => o.2.2) horigin
  exact ⟨distinct_of_ids hids j, h.enough.trans hsub.length_le, v, hsub.subset hv,
    hlatest.trans hdetected.symm⟩

/-- The events of a detection window detect the incident of its last event. -/
theorem detects_of_inWindow {e : Env} {event v : Event} {w : DateTime}
    (hw : event.occurred_at.minus_seconds INCIDENT_WINDOW_SECONDS = some w)
    (hv : inWindow event w v = true) : detects (new_incident e event) v = true := by
  have hstart := DateTime.minus_seconds_instant hw
  simp only [inWindow, Bool.and_eq_true, decide_eq_true_eq] at hv
  obtain ⟨⟨⟨⟨hservice, hfp⟩, hlevel⟩, hafter⟩, hbefore⟩ := hv
  simp only [INCIDENT_WINDOW_SECONDS, SECOND] at hstart
  have hminute : event.occurred_at.instant - 60 * SECOND ≤ v.occurred_at.instant := by
    simp only [SECOND]
    omega
  simp [detects, new_incident, hservice, hfp, hlevel, hminute, hbefore]

/-- Five linked events of the window, its last one among them, make the new incident sound. -/
theorem sound_of_window {e : Env} {event : Event} {w : DateTime} {t : Store} {found : List Event}
    (hids : UniqueOn Event.id t.events)
    (hw : event.occurred_at.minus_seconds INCIDENT_WINDOW_SECONDS = some w)
    (hfound : ∀ v ∈ found, inWindow event w v = true)
    (hlinked : found.Sublist (linkedEvents (e.uuid 1) t))
    (hcount : INCIDENT_THRESHOLD ≤ found.length) (hown : event ∈ found) :
    SoundlyDetected t (new_incident e event) := by
  have hsub : found.Sublist (detectingEvents (new_incident e event) t) := by
    have hall : found.filter (detects (new_incident e event)) = found :=
      List.filter_eq_self.mpr fun v hv => detects_of_inWindow hw (hfound v hv)
    rw [← hall]
    exact hlinked.filter _
  exact ⟨distinct_of_ids hids _, hcount.trans hsub.length_le, event, hsub.subset hown, rfl⟩

/-! ## One request after the other -/

section
variable [Platform] {s : Store} (hs : Consistent s) {e : Env} (hf : Fresh e s)
include hs hf

theorem AllSound.serve (h : AllSound s) (r : Request) : AllSound (serve s (e, r)) := by
  have hids : UniqueOn Event.id (handle e r s).2.events :=
    (serve_consistent hs hf r : Consistent (pulseforge.serve s (e, r))).event_ids
  have hkeep : ∀ i ∈ s.incidents, ∀ j : Incident, j.origin = i.origin →
      (linkedEvents i.id s).Sublist (linkedEvents i.id (handle e r s).2) →
        SoundlyDetected (handle e r s).2 j :=
    fun i hi j horigin hl => (h i hi).mono hids horigin hl
  have hsame : ∀ i, linkedEvents i (handle e r s).2 = linkedEvents i s →
      (linkedEvents i s).Sublist (linkedEvents i (handle e r s).2) :=
    fun i heq => heq ▸ List.Sublist.refl _
  show ∀ i ∈ (handle e r s).2.incidents, SoundlyDetected (handle e r s).2 i
  have hstep := telemetry_step hs hf r
  generalize (handle e r s).2 = t at hids hkeep hsame hstep
  cases hstep with
  | same _ hi hl =>
    rw [hi]
    exact fun i hmem => hkeep i hmem i rfl (hsame _ (hl i.id))
  | deleted service_id _ hi hl =>
    intro i hmem
    have hold : i ∈ s.incidents := by
      rw [hi] at hmem
      exact (List.mem_filter.mp hmem).1
    exact hkeep i hold i rfl (hsame _ (hl i hmem))
  | acknowledged incident user _ _ _ hi hl =>
    rw [hi]
    exact forall_updateWhere (fun i hmem => hkeep i hmem i rfl (hsame _ (hl i.id)))
      fun i hmem _ => hkeep i hmem _ rfl (hsame _ (hl i.id))
  | resolved incident user _ _ _ hi hl =>
    rw [hi]
    exact forall_updateWhere (fun i hmem => hkeep i hmem i rfl (hsame _ (hl i.id)))
      fun i hmem _ => hkeep i hmem _ rfl (hsame _ (hl i.id))
  | quiet _ _ _ hi hl =>
    rw [hi]
    exact fun i hmem => hkeep i hmem i rfl (hsame _ (hl i.id))
  | @attached _ _ event _ incident _ _ _ hi hown hl =>
    have hgrown : ∀ i ∈ s.incidents, (linkedEvents i.id s).Sublist (linkedEvents i.id t) := by
      intro i _
      by_cases heq : i.id = incident.id
      · rw [heq, hown]
        exact List.sublist_append_left _ _
      · exact hsame _ (hl i.id heq)
    rw [hi]
    refine forall_updateWhere (fun i hmem => hkeep i hmem i rfl (hgrown i hmem)) ?_
    intro i hmem _
    refine hkeep i hmem _ ?_ (hgrown i hmem)
    unfold escalated
    split <;> rfl
  | @opened _ _ event w ho _ hi hown hl =>
    rw [hi]
    intro i hmem
    rcases List.mem_append.mp hmem with hmem | hmem
    · exact hkeep i hmem i rfl (hsame _ (hl i.id (hf.incident 1 i hmem)))
    · rw [List.mem_singleton.mp hmem]
      have hfound : ∀ v ∈ detectionWindow event w s, inWindow event w v = true :=
        fun v hv => (List.mem_filter.mp hv).2
      refine sound_of_window hids ho.start hfound ?_ ho.reached
        (mem_detectionWindow_self ho.failing ho.start)
      rw [hown]

end

theorem sound_reachable [Platform] {s : Store} (h : Reachable s) : AllSound s := by
  refine h.inv ?_ fun _ _ r hs hf hsound => hsound.serve hs.consistent hf r
  exact fun _ hi => absurd hi List.not_mem_nil

/-! ## Every interleaving -/

theorem linkedEvents_grow {s t : Store} (hv : s.events.Sublist t.events)
    (hl : s.incident_events.Sublist t.incident_events) (i : UUID) :
    (linkedEvents i s).Sublist (linkedEvents i t) := by
  have hstill : ∀ v : Event, isLinked i v.id s = true → isLinked i v.id t = true := by
    intro v h
    exact isLinked_iff.mpr (hl.subset (isLinked_iff.mp h))
  exact (List.monotone_filter_right s.events hstill).trans (hv.filter _)

section
variable [Platform] {ι : Type} [Fintype ι] [DecidableEq ι] {jobs : ι → Job}
  {g : State ι Store Stage} {i : ι} {p : Store × Stage}

/-- The commit of a new incident links the events that its transaction counted. -/
theorem sound_of_counted {e : Env} {payload : EventCreate} {api_key : ApiKey} {s : Store}
    {ids : List UUID}
    (hids : UniqueOn Event.id (commitEvent e payload api_key s (.create ids)).events)
    (hcounted : Counted e payload api_key s (.committing (.create ids))) :
    SoundlyDetected (commitEvent e payload api_key s (.create ids))
      (new_incident e (new_event e payload api_key)) := by
  obtain ⟨w, found, hw, rfl, hfound, hcount, hown⟩ := hcounted
  have hwindow : ∀ v ∈ found, inWindow (new_event e payload api_key) w v = true :=
    fun v hv => (List.mem_filter.mp (hfound.subset hv)).2
  refine sound_of_window hids hw hwindow ?_ hcount hown
  have hlinked : ∀ v ∈ found, isLinked (e.uuid 1) v.id
      (commitEvent e payload api_key s (.create (found.map Event.id))) = true := by
    intro v hv
    rw [isLinked_iff, commitEvent_links]
    refine List.mem_append_right _ (List.mem_map.mpr ⟨v.id, ?_, rfl⟩)
    exact List.mem_map.mpr ⟨v, hv, rfl⟩
  have hstored : found.Sublist
      (commitEvent e payload api_key s (.create (found.map Event.id))).events := by
    rw [commitEvent_events]
    exact hfound.trans List.filter_sublist
  have hsub := hstored.filter fun v => isLinked (e.uuid 1) v.id
    (commitEvent e payload api_key s (.create (found.map Event.id)))
  rw [List.filter_eq_self.mpr hlinked] at hsub
  exact hsub

theorem AllSound.move {s₀ : Store} (hf : FreshJobs jobs s₀) (hr : Accounted jobs g)
    (h : AllSound g.shared) (hp : lockStep (fun i => transaction (jobs i)) i g = some p) :
    AllSound p.1 := by
  obtain ⟨_, hmove⟩ := move_of_some hp
  have hids : UniqueOn Event.id p.1.events := (hr.move hf hp).ids
  have hcounted := hr.counted i
  obtain ⟨s', t'⟩ := p
  show ∀ row ∈ s'.incidents, SoundlyDetected s' row
  have hkeep : ∀ row ∈ g.shared.incidents, ∀ row' : Incident, row'.origin = row.origin →
      SoundlyDetected s' row' := by
    intro row hrow row' horigin
    obtain ⟨hv, hl⟩ := hmove.grows
    exact (h row hrow).mono hids horigin (linkedEvents_grow hv hl row.id)
  have hchange := hmove.incidents
  simp only at hmove hids hchange hkeep
  generalize hrows : s'.incidents = rows at hchange
  cases hchange with
  | same => exact fun row hrow => hkeep row hrow row rfl
  | raised =>
    exact forall_updateWhere (fun row hrow => hkeep row hrow row rfl)
      fun row hrow _ => hkeep row hrow _ rfl
  | @created payload api_key hcall ids ht =>
    intro row hrow
    rcases List.mem_append.mp hrow with hrow | hrow
    · exact hkeep row hrow row rfl
    · have hcounted := hcounted payload api_key hcall
      rw [ht] at hmove hcounted
      cases hmove with
      | committed hcall' =>
        rw [hcall] at hcall'
        cases hcall'
        rw [List.mem_singleton.mp hrow]
        exact sound_of_counted hids hcounted
  | acknowledged =>
    exact forall_updateWhere (fun row hrow => hkeep row hrow row rfl)
      fun row hrow _ => hkeep row hrow _ rfl
  | resolved =>
    exact forall_updateWhere (fun row hrow => hkeep row hrow row rfl)
      fun row hrow _ => hkeep row hrow _ rfl

/-- In every interleaving of ingests, acknowledges and resolves, every incident
has the events that it was detected from. -/
theorem every_incident_is_soundly_detected {s₀ : Store} (hs : Reachable s₀)
    (hf : FreshJobs jobs s₀) (turns : List ι) :
    AllSound (run.after (turn jobs) (begin s₀) turns).shared := by
  refine (interleave.invariant (I := fun g => Accounted jobs g ∧ AllSound g.shared) ?_ ?_ turns).2
  · exact ⟨accounted_begin hs.consistent hf, sound_reachable hs⟩
  · rintro g i p ⟨hr, h⟩ hp
    exact ⟨hr.move hf hp, h.move hf hr hp⟩

end

/-- Five errors one after the other open a sound incident. -/
theorem five_errors_make_a_sound_incident :
    let s₀ := run.after (@serve samplePlatform) Store.empty fiveKeysRun
    let g := run.after (@turn samplePlatform _ _ _ fiveErrors) (begin s₀) oneByOne
    g.shared.incidents.length = 1 ∧ ∀ i ∈ g.shared.incidents, SoundlyDetected g.shared i := by
  intro s₀ g
  have hsound : AllSound g.shared :=
    @every_incident_is_soundly_detected samplePlatform (Fin 5) _ _ fiveErrors s₀
      five_keys_reachable five_errors_fresh oneByOne
  exact ⟨by decide +kernel, hsound⟩

end pulseforge

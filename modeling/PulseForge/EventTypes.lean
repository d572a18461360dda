-- What a fingerprint tells: two stored events have one fingerprint just when
-- their service and their stored event type are the same, and the events of an
-- incident have the type that its title names.
import PulseForge.EventLinks
import PulseForge.SanitizedTree

open txn table interleave

namespace pulseforge

/-! ## Texts of ids -/

theorem digitChar_injective : ∀ a < 16, ∀ b < 16, Nat.digitChar a = Nat.digitChar b → a = b := by
  decide

theorem hexDigits_injective {n u w : Nat} (hu : u < 16 ^ n) (hw : w < 16 ^ n)
    (h : hexDigits n u = hexDigits n w) : u = w := by
  induction n generalizing u w with
  | zero => omega
  | succ n ih =>
    obtain ⟨hhigh, hlow⟩ := List.append_inj' h rfl
    have hdigit : u % 16 = w % 16 :=
      digitChar_injective _ (Nat.mod_lt _ (by decide)) _ (Nat.mod_lt _ (by decide))
        (List.singleton_inj.mp hlow)
    have hrest : u / 16 = w / 16 := by
      refine ih ?_ ?_ hhigh
      · rw [Nat.pow_succ] at hu
        omega
      · rw [Nat.pow_succ] at hw
        omega
    omega

theorem hyphen_not_mem_hexDigits (n : Nat) (u : UUID) : ∀ c ∈ hexDigits n u, c ≠ '-' := by
  induction n generalizing u with
  | zero => exact nofun
  | succ n ih =>
    have hdigit : ∀ d < 16, Nat.digitChar d ≠ '-' := by decide
    intro c hc
    rcases List.mem_append.mp hc with hc | hc
    · exact ih _ c hc
    · rw [List.mem_singleton.mp hc]
      exact hdigit _ (Nat.mod_lt _ (by decide))

/-- Without its hyphens, the text of an id is its digits. -/
theorem uuid_text_digits (u : UUID) : (uuid_text u).filter (fun c => c ≠ '-') = hexDigits 32 u := by
  have hkeep : ∀ part : Text, part.Sublist (hexDigits 32 u) → part.filter (fun c => c ≠ '-') = part := by
    intro part hpart
    refine List.filter_eq_self.mpr fun c hc => ?_
    simpa using hyphen_not_mem_hexDigits 32 u c (hpart.subset hc)
  have hcut : ∀ i n : Nat, ((hexDigits 32 u).drop i).take n ++ (hexDigits 32 u).drop (i + n) =
      (hexDigits 32 u).drop i := by
    intro i n
    rw [← List.drop_drop]
    exact List.take_append_drop n _
  unfold uuid_text
  simp only [List.filter_append, List.filter_cons, ne_eq, not_true_eq_false, decide_false,
    Bool.false_eq_true, if_false, List.append_assoc]
  rw [hkeep _ (List.take_sublist _ _), hkeep _ ((List.take_sublist _ _).trans (List.drop_sublist _ _)),
    hkeep _ ((List.take_sublist _ _).trans (List.drop_sublist _ _)),
    hkeep _ ((List.take_sublist _ _).trans (List.drop_sublist _ _)), hkeep _ (List.drop_sublist _ _),
    hcut 16 4, hcut 12 4, hcut 8 4, List.take_append_drop]

theorem uuid_text_injective {u w : UUID} (hu : u < 2 ^ 128) (hw : w < 2 ^ 128)
    (h : uuid_text u = uuid_text w) : u = w := by
  have hdigits : hexDigits 32 u = hexDigits 32 w := by
    rw [← uuid_text_digits, h, uuid_text_digits]
  refine hexDigits_injective ?_ ?_ hdigits
  · exact hu.trans_eq (by decide)
  · exact hw.trans_eq (by decide)

/-! ## Fingerprints -/

variable [Platform]

/-- The id has 128 bits, and `str` gives its canonical text. -/
def PrintsCanonically (id : UUID) : Prop := id < 2 ^ 128 ∧ Platform.str_uuid id = uuid_text id

/-- The service ids of the events are printed as UUIDs. -/
def CanonicalServiceIds (s : Store) : Prop := ∀ v ∈ s.events, PrintsCanonically v.service_id

/-- The fingerprint of a service and a stored event type. -/
def typeFingerprint (service_id : UUID) (event_type : Text) : Text :=
  Platform.sha256 (Platform.str_uuid service_id ++ ':' :: event_type)

/-- `ingest_event` stores a type and a fingerprint of that type. -/
theorem new_event_fingerprint (e : Env) (payload : EventCreate) (api_key : ApiKey) :
    (new_event e payload api_key).fingerprint =
      typeFingerprint (new_event e payload api_key).service_id (new_event e payload api_key).event_type :=
  rfl

section
variable (hsha : Function.Injective Platform.sha256)
include hsha

theorem event_type_of_fingerprint {service_id : UUID} {event_type event_type' : Text}
    (h : typeFingerprint service_id event_type = typeFingerprint service_id event_type') :
    event_type = event_type' :=
  (List.cons.inj (List.append_cancel_left (hsha h))).2

/-- The texts of two ids are equally long, so the first separator splits both
digested texts, whatever the types contain. -/
theorem typeFingerprint_eq_iff {u w : UUID} (hu : PrintsCanonically u) (hw : PrintsCanonically w)
    {event_type event_type' : Text} :
    typeFingerprint u event_type = typeFingerprint w event_type' ↔ u = w ∧ event_type = event_type' := by
  constructor
  · intro h
    have htexts := hsha h
    rw [hu.2, hw.2] at htexts
    have hlength : (uuid_text u).length = (uuid_text w).length :=
      (uuid_text_length u).trans (uuid_text_length w).symm
    obtain ⟨hids, htypes⟩ := List.append_inj htexts hlength
    exact ⟨uuid_text_injective hu.1 hw.1 hids, (List.cons.inj htypes).2⟩
  · rintro ⟨rfl, rfl⟩
    rfl

end

/-! ## Groups by event type -/

/-- The title of the incident names the event type. -/
def Incident.Names (i : Incident) (event_type : Text) : Prop :=
  i.title = "Repeated ".toList ++ event_type ++ " events".toList

/-- Fingerprints group the events by service and type, and an incident by the
type that it names. -/
structure GroupedByType (s : Store) : Prop where
  fingerprints : ∀ v ∈ s.events, ∀ w ∈ s.events,
    v.fingerprint = w.fingerprint ↔ v.service_id = w.service_id ∧ v.event_type = w.event_type
  incidents : ∀ i ∈ s.incidents, ∃ event_type, i.Names event_type ∧
    ∀ v ∈ linkedEvents i.id s, v.event_type = event_type

/-! ## One request after the other -/

/-- The fingerprint of the incident is that of the type in its title. -/
def Incident.Titled (i : Incident) : Prop :=
  ∃ event_type, i.Names event_type ∧ i.fingerprint = typeFingerprint i.service_id event_type

/-- Events and incidents carry the fingerprints of their types. -/
structure Typed (s : Store) : Prop where
  events : ∀ v ∈ s.events, v.fingerprint = typeFingerprint v.service_id v.event_type
  incidents : ∀ i ∈ s.incidents, i.Titled

theorem new_incident_titled (e : Env) {event : Event}
    (h : event.fingerprint = typeFingerprint event.service_id event.event_type) :
    (new_incident e event).Titled := ⟨event.event_type, rfl, h⟩

theorem Delivers.typed {s : Store} {e : Env} {r : Request} {event : Event} (h : Delivers s e r event) :
    event.fingerprint = typeFingerprint event.service_id event.event_type := by
  cases h
  exact new_event_fingerprint _ _ _

theorem Typed.serve {s : Store} (h : Typed s) (hs : Consistent s) {e : Env} (hf : Fresh e s)
    (r : Request) : Typed (handle e r s).2 := by
  have hstep := telemetry_step hs hf r
  generalize (handle e r s).2 = t at hstep
  cases hstep with
  | same hv hi => exact ⟨hv ▸ h.events, hi ▸ h.incidents⟩
  | deleted _ hv hi =>
    refine ⟨?_, ?_⟩
    · rw [hv]
      exact fun v hmem => h.events v (List.mem_filter.mp hmem).1
    · rw [hi]
      exact fun i hmem => h.incidents i (List.mem_filter.mp hmem).1
  | acknowledged _ _ _ _ hv hi =>
    refine ⟨hv ▸ h.events, ?_⟩
    rw [hi]
    exact forall_updateWhere h.incidents fun i hmem _ => h.incidents i hmem
  | resolved _ _ _ _ hv hi =>
    refine ⟨hv ▸ h.events, ?_⟩
    rw [hi]
    exact forall_updateWhere h.incidents fun i hmem _ => h.incidents i hmem
  | quiet hd _ hv hi =>
    refine ⟨?_, hi ▸ h.incidents⟩
    rw [hv]
    exact forall_insert h.events hd.typed
  | attached hd _ _ _ hv hi =>
    refine ⟨?_, ?_⟩
    · rw [hv]
      exact forall_insert h.events hd.typed
    · rw [hi]
      refine forall_updateWhere h.incidents fun i hmem _ => ?_
      unfold escalated
      split <;> exact h.incidents i hmem
  | opened ho hv hi =>
    refine ⟨?_, ?_⟩
    · rw [hv]
      exact forall_insert h.events ho.delivers.typed
    · rw [hi]
      exact forall_insert h.incidents (new_incident_titled e ho.delivers.typed)

theorem reachable_typed {s : Store} (h : Reachable s) : Typed s := by
  refine h.inv ?_ fun _ _ r hs hf ht => ht.serve hs.consistent hf r
  exact ⟨fun _ hv => absurd hv List.not_mem_nil, fun _ hi => absurd hi List.not_mem_nil⟩

/-! ## Every interleaving -/

/-- The link joins an incident and an event of one service and fingerprint. -/
def Paired (s : Store) (l : IncidentEvent) : Prop :=
  ∃ i ∈ s.incidents, ∃ v ∈ s.events, i.id = l.incident_id ∧ v.id = l.event_id ∧ i.group = v.group

section
variable {ι : Type} [Fintype ι] [DecidableEq ι] {jobs : ι → Job} {g : State ι Store Stage} {i : ι}
  {p : Store × Stage}

/-- What every state of the machine keeps about groups: the rows carry their
types, links join rows of a group, and so will the link that a transaction commits. -/
structure Matched (jobs : ι → Job) (g : State ι Store Stage) : Prop where
  typed : Typed g.shared
  links : ∀ l ∈ g.shared.incident_events, Paired g.shared l
  attaching : ∀ i payload api_key incident, (jobs i).call = .ingest payload api_key →
    g.locals i = .committing (.attach incident) → ∃ row ∈ g.shared.incidents,
      row.id = incident.id ∧ row.group = (new_event (jobs i).env payload api_key).group

omit [Fintype ι] [DecidableEq ι] in
theorem matched_begin {s₀ : Store} (hs : Reachable s₀) : Matched jobs (begin s₀) where
  typed := reachable_typed hs
  links := by
    intro l hl
    obtain ⟨row, hrow, v, hv, hid, hvid, hservice, hfp, _⟩ := hs.consistent.links l hl
    exact ⟨row, hrow, v, hv, hid, hvid, Prod.ext hservice hfp⟩
  attaching := by
    intro i payload api_key incident _ hstage
    cases hstage

/-- A step keeps the types of the rows. -/
theorem Typed.move {job : Job} {s s' : Store} {t t' : Stage} (h : Typed s) (hmove : Move job s t s' t') :
    Typed s' := by
  refine ⟨?_, ?_⟩
  · rcases hmove.commits with ⟨hv, _⟩ | ⟨payload, api_key, verdict, _, _, _, rfl, _⟩
    · exact hv ▸ h.events
    · rw [commitEvent_events]
      exact forall_insert h.events (new_event_fingerprint _ _ _)
  · have hchange := hmove.incidents
    generalize s'.incidents = rows at hchange
    cases hchange with
    | same => exact h.incidents
    | created =>
      exact forall_insert h.incidents (new_incident_titled _ (new_event_fingerprint _ _ _))
    | raised => exact forall_updateWhere h.incidents fun row hrow _ => h.incidents row hrow
    | acknowledged => exact forall_updateWhere h.incidents fun row hrow _ => h.incidents row hrow
    | resolved => exact forall_updateWhere h.incidents fun row hrow _ => h.incidents row hrow

/-- A link stays paired: a step takes no event away, and an incident keeps its group. -/
theorem Paired.move {job : Job} {s s' : Store} {t t' : Stage} {l : IncidentEvent} (h : Paired s l)
    (hmove : Move job s t s' t') : Paired s' l := by
  obtain ⟨row, hrow, v, hv, hid, hvid, hgroup⟩ := h
  obtain ⟨row', hrow', hid', hgroup'⟩ := hmove.incidents.kept hrow
  exact ⟨row', hrow', v, hmove.grows.1.subset hv, hid'.trans hid, hvid, hgroup'.trans hgroup⟩

omit [Fintype ι] [DecidableEq ι] in
/-- The links of a commit join its incident and events of its group. -/
theorem Matched.commit_links (h : Matched jobs g) (hr : Accounted jobs g) {payload : EventCreate}
    {api_key : ApiKey} (hcall : (jobs i).call = .ingest payload api_key) {verdict : Verdict}
    (ht : g.locals i = .committing verdict)
    (hmove : Move (jobs i) g.shared (.committing verdict)
      (commitEvent (jobs i).env payload api_key g.shared verdict) p.2) :
    ∀ l ∈ verdict.links (jobs i).env g.shared,
      Paired (commitEvent (jobs i).env payload api_key g.shared verdict) l := by
  have hcounted := hr.counted i payload api_key hcall
  rw [ht] at hcounted
  intro l hl
  unfold Paired
  rw [commitEvent_events]
  cases verdict with
  | quiet => cases hl
  | attach incident =>
    obtain ⟨row, hrow, hid, hgroup⟩ := h.attaching i payload api_key incident hcall ht
    obtain ⟨row', hrow', hid', hgroup'⟩ := hmove.incidents.kept hrow
    simp only [Verdict.links] at hl
    split at hl
    · cases hl
    · rw [List.mem_singleton.mp hl]
      exact ⟨row', hrow', _, List.mem_append_right _ (List.mem_singleton_self _), hid'.trans hid, rfl,
        hgroup'.trans hgroup⟩
  | create ids =>
    obtain ⟨w, found, _, rfl, hfound, _⟩ := hcounted
    obtain ⟨id, hid, rfl⟩ := List.mem_map.mp hl
    obtain ⟨v, hv, rfl⟩ := List.mem_map.mp hid
    obtain ⟨hstored, hwindow⟩ := List.mem_filter.mp (hfound.subset hv)
    simp only [inWindow, Bool.and_eq_true, decide_eq_true_eq] at hwindow
    obtain ⟨⟨⟨⟨hservice, hfp⟩, _⟩, _⟩, _⟩ := hwindow
    exact ⟨new_incident (jobs i).env (new_event (jobs i).env payload api_key),
      List.mem_append_right _ (List.mem_singleton_self _), v, hstored, rfl, rfl,
      Prod.ext hservice.symm hfp.symm⟩

theorem Matched.links_move (h : Matched jobs g) (hr : Accounted jobs g)
    (hp : lockStep (fun i => transaction (jobs i)) i g = some p) :
    ∀ l ∈ p.1.incident_events, Paired p.1 l := by
  obtain ⟨_, hmove⟩ := move_of_some hp
  have hold : ∀ l ∈ g.shared.incident_events, Paired p.1 l := fun l hl => (h.links l hl).move hmove
  rcases hmove.commits with ⟨_, hl⟩ | ⟨payload, api_key, verdict, body, hcall, ht, hs', _⟩
  · rw [hl]
    exact hold
  · rw [hs', ht] at hmove
    rw [hs'] at hold ⊢
    rw [commitEvent_links]
    exact List.forall_mem_append.mpr ⟨hold, h.commit_links hr hcall ht hmove⟩

/-- A transaction attaches to an incident that it found in the group of its event. -/
theorem Matched.attaching_move (h : Matched jobs g)
    (hp : lockStep (fun i => transaction (jobs i)) i g = some p) {j : ι} {payload : EventCreate}
    {api_key : ApiKey} {incident : Incident} (hcall : (jobs j).call = .ingest payload api_key)
    (hj : (g.move i p).locals j = .committing (.attach incident)) : ∃ row ∈ p.1.incidents,
      row.id = incident.id ∧ row.group = (new_event (jobs j).env payload api_key).group := by
  obtain ⟨_, hmove⟩ := move_of_some hp
  by_cases hji : j = i
  · subst hji
    rw [move_self] at hj
    obtain ⟨s', t'⟩ := p
    simp only at hj
    subst hj
    have hfound : find_active_incident (new_event (jobs j).env payload api_key) g.shared = some incident ∧
        s' = g.shared := by
      generalize g.locals j = t at hmove
      cases hmove with
      | found hcall' _ _ hactive =>
        cases hcall.symm.trans hcall'
        exact ⟨hactive, rfl⟩
      | recovered hcall' _ hactive =>
        cases hcall.symm.trans hcall'
        exact ⟨hactive, rfl⟩
    obtain ⟨hmem, hservice, hfp, _⟩ := activeIncident_of_some hfound.1
    refine ⟨incident, ?_, rfl, Prod.ext hservice hfp⟩
    rwa [hfound.2]
  · rw [move_other hji] at hj
    obtain ⟨row, hrow, hid, hgroup⟩ := h.attaching j payload api_key incident hcall hj
    obtain ⟨row', hrow', hid', hgroup'⟩ := hmove.incidents.kept hrow
    exact ⟨row', hrow', hid'.trans hid, hgroup'.trans hgroup⟩

theorem Matched.move (h : Matched jobs g) (hr : Accounted jobs g)
    (hp : lockStep (fun i => transaction (jobs i)) i g = some p) : Matched jobs (g.move i p) where
  typed := h.typed.move (move_of_some hp).2
  links := h.links_move hr hp
  attaching := fun _ _ _ _ hcall hj => h.attaching_move hp hcall hj

theorem matched_run {s₀ : Store} (hs : Reachable s₀) (hf : FreshJobs jobs s₀) (turns : List ι) :
    Matched jobs (run.after (turn jobs) (begin s₀) turns) := by
  refine (interleave.invariant (I := fun g => Accounted jobs g ∧ Matched jobs g) ?_ ?_ turns).2
  · exact ⟨accounted_begin hs.consistent hf, matched_begin hs⟩
  · rintro g i p ⟨hr, h⟩ hp
    exact ⟨hr.move hf hp, h.move hr hp⟩

omit [Platform] in
/-- The events linked to an incident are of its service and fingerprint. -/
theorem linked_group {s : Store} (hids : UniqueOn Incident.id s.incidents)
    (hevents : UniqueOn Event.id s.events) (hlinks : ∀ l ∈ s.incident_events, Paired s l)
    {i : Incident} (hi : i ∈ s.incidents) {v : Event} (hv : v ∈ linkedEvents i.id s) :
    i.group = v.group := by
  obtain ⟨hmem, hl⟩ := mem_linkedEvents.mp hv
  obtain ⟨i', hi', v', hv', hid, hvid, hgroup⟩ := hlinks _ hl
  obtain rfl := hids.eq hi' hi hid
  obtain rfl := hevents.eq hv' hmem hvid
  exact hgroup

/-- In every store that requests lead to, and that transactions lead on to in
any interleaving, a fingerprint stands for one service and one event type. -/
theorem fingerprints_stand_for_event_types (hsha : Function.Injective Platform.sha256) {s₀ : Store}
    (hs : Reachable s₀) (hf : FreshJobs jobs s₀) (turns : List ι)
    (hids : CanonicalServiceIds (run.after (turn jobs) (begin s₀) turns).shared) :
    GroupedByType (run.after (turn jobs) (begin s₀) turns).shared := by
  have hmatched := matched_run hs hf turns
  have hindexed := indexed_run hs.consistent hf turns
  have haccounted := accounted_run hs.consistent hf turns
  refine ⟨?_, ?_⟩
  · intro v hv w hw
    rw [hmatched.typed.events v hv, hmatched.typed.events w hw]
    exact typeFingerprint_eq_iff hsha (hids v hv) (hids w hw)
  · intro i hi
    obtain ⟨event_type, hnames, hfp⟩ := hmatched.typed.incidents i hi
    refine ⟨event_type, hnames, fun v hv => ?_⟩
    have hgroup := linked_group hindexed.ids haccounted.ids hmatched.links hi hv
    obtain ⟨hservice, hsame⟩ := Prod.mk.inj hgroup
    rw [hfp, hmatched.typed.events v (mem_linkedEvents.mp hv).1, ← hservice] at hsame
    exact (event_type_of_fingerprint hsha hsame).symm

end

omit [Platform]

/-- An error of another type, which has the separator in its name. -/
def timeoutEvent : EventCreate :=
  { sampleEvent 'z' 9 with event_type := " db: timeout".toList, event_type_length := by decide }

def oneTimeout (i : Fin 1) : Job := ⟨sampleDraws 1 i, .ingest timeoutEvent ingestKey⟩

def sevenTurns : List (Fin 1) := List.replicate 7 0

theorem uuidPlatform_prints {s : Store} (h : ∀ v ∈ s.events, v.service_id < 2 ^ 128) :
    @CanonicalServiceIds uuidPlatform s := fun v hv => ⟨h v hv, rfl⟩

/-- Five crashes have made an incident, and a timeout comes. -/
theorem a_timeout_is_no_crash :
    let s₀ := run.after (@serve uuidPlatform) Store.empty sampleRun
    let g := run.after (@turn uuidPlatform _ _ _ oneTimeout) (begin s₀) sevenTurns
    g.shared.incidents.map Incident.title = ["Repeated CRASH events".toList] ∧
      g.shared.events.map Event.event_type = List.replicate 5 "CRASH".toList ++ ["DB: TIMEOUT".toList] ∧
      GroupedByType g.shared := by
  intro s₀ g
  have hreachable : @Reachable uuidPlatform s₀ :=
    ⟨sampleRun, @fresh_of_numbers uuidPlatform sampleRun [9, 8, 7, 6, 5, 4, 3, 2, 1, 0] rfl
      (by decide +kernel), rfl⟩
  have hfresh : FreshJobs oneTimeout s₀ := sample_jobs_fresh (fun _ => rfl) (by decide +kernel)
  have hsmall : ∀ v ∈ g.shared.events, v.service_id < 2 ^ 128 := by decide +kernel
  have hids : @CanonicalServiceIds uuidPlatform g.shared := uuidPlatform_prints hsmall
  refine ⟨by decide +kernel, by decide +kernel, ?_⟩
  exact @fingerprints_stand_for_event_types uuidPlatform (Fin 1) _ _ oneTimeout
    (fun _ _ h => (List.cons.inj h).2) s₀ hreachable hfresh sevenTurns hids

end pulseforge

-- Pages of events. `list_events` orders by `occurred_at` alone, so events of one
-- moment come in any order, in each query anew; the audit log, listed by time and
-- id, has one order only. A page with an event that cannot be read back is none.
import PulseForge.Lib.Paging
import PulseForge.Loading

open txn table paging

namespace pulseforge

/-! ## The listing and its pages -/

/-- The rows of `WHERE` in `list_events`. -/
def filteredEvents (organization_id : UUID) (service_id : Option UUID) (level : Option EventLevel)
    (s : Store) : List Event :=
  s.events.filter fun v =>
    v.organization_id = organization_id && service_id.all (fun x => v.service_id = x) &&
      level.all (fun x => v.level = x)

/-- What the database may answer: the matching events, in an order that keeps to
`ORDER BY occurred_at DESC`. -/
structure EventQuery (organization_id : UUID) (service_id : Option UUID)
    (level : Option EventLevel) where
  rows : Store → List Event
  ordered : ∀ s, Listing (fun v => v.occurred_at.instant)
    (filteredEvents organization_id service_id level s) (rows s)

/-- `list_events` over any such query. -/
def list_events_by {organization_id : UUID} {service_id : Option UUID} {level : Option EventLevel}
    (query : EventQuery organization_id service_id level) (limit offset : Nat)
    (current_user : User) : Handler (List EventResponse) := do
  let _ ← ask (require_permission .EVENT_READ organization_id current_user.id)
  let events ← select query.rows
  let listed ← ask fun _ => loadAll (page limit offset events)
  return listed.map Event.response

/-- The answers for offset `0`, `limit`, `2 * limit`, .. from one store, each with a
query of its own. -/
def eventPages {organization_id : UUID} {service_id : Option UUID} {level : Option EventLevel}
    (queries : Nat → EventQuery organization_id service_id level) (limit n : Nat) (user : User)
    (s : Store) : Except Failure (List (List EventResponse)) :=
  (List.range n).mapM fun k => (runRequest (list_events_by (queries k) limit (k * limit) user) s).1

/-- However each query orders events of one moment, the pages have every matching
event once. -/
def PagesPartition (organization_id : UUID) (service_id : Option UUID) (level : Option EventLevel)
    (limit : Nat) (user : User) (s : Store) : Prop :=
  ∀ (queries : Nat → EventQuery organization_id service_id level) (n : Nat),
    (filteredEvents organization_id service_id level s).length ≤ n * limit →
      ∃ answers, eventPages queries limit n user s = .ok answers ∧
        answers.flatten.Perm ((filteredEvents organization_id service_id level s).map Event.response)

/-- No page ends between two events of one moment. -/
def MomentsOnOnePage (organization_id : UUID) (service_id : Option UUID)
    (level : Option EventLevel) (limit : Nat) (s : Store) : Prop :=
  ∀ (moment : Int) (k : Nat),
    let events := filteredEvents organization_id service_id level s
    ¬ (events.countP (fun v => moment < v.occurred_at.instant) < k * limit ∧
      k * limit < events.countP fun v => moment ≤ v.occurred_at.instant)

section
variable {organization_id : UUID} {service_id : Option UUID} {level : Option EventLevel}

/-- The order of the model is one of those that the database may choose. -/
def stableQuery (organization_id : UUID) (service_id : Option UUID) (level : Option EventLevel) :
    EventQuery organization_id service_id level where
  rows := eventsOf organization_id service_id level
  ordered _ := ⟨List.perm_insertionSort _ _, List.pairwise_insertionSort _ _⟩

theorem list_events_by_stable (limit offset : Nat) (user : User) :
    list_events_by (stableQuery organization_id service_id level) limit offset user =
      loading.list_events organization_id service_id level limit offset user := rfl

theorem list_events_by_eq {s : Store} {user : User} {m : OrganizationMember}
    (hm : require_permission .EVENT_READ organization_id user.id s = .ok m)
    (query : EventQuery organization_id service_id level) (limit offset : Nat) :
    (runRequest (list_events_by query limit offset user) s).1 =
      (loadAll (page limit offset (query.rows s))).map fun listed => listed.map Event.response := by
  refine ends_runRequest (Q := fun r _ => r = _) ?_
  simp only [list_events_by, ends_bind, ends_ask, hm, ends_select]
  cases loadAll (page limit offset (query.rows s)) <;> rfl

/-- Where all pages are answered, they are the pages of the listings that the queries
chose, and every event on them can be read. -/
theorem eventPages_answered {s : Store} {user : User} {m : OrganizationMember}
    (hm : require_permission .EVENT_READ organization_id user.id s = .ok m)
    (queries : Nat → EventQuery organization_id service_id level) (limit n : Nat)
    {answers : List (List EventResponse)} (h : eventPages queries limit n user s = .ok answers) :
    answers.flatten = (pages limit n fun k => (queries k).rows s).map Event.response ∧
      ∀ v ∈ pages limit n fun k => (queries k).rows s, loads v = true := by
  unfold eventPages at h
  unfold pages
  generalize List.range n = numbers at h ⊢
  induction numbers generalizing answers with
  | nil =>
    cases h
    exact ⟨rfl, fun v hv => nomatch hv⟩
  | cons k numbers ih =>
    rw [List.mapM_cons, list_events_by_eq hm] at h
    obtain ⟨listed, hlisted, h⟩ := bind_ok h
    obtain ⟨later, hlater, h⟩ := bind_ok h
    cases h
    obtain ⟨hflatten, hloads⟩ := ih hlater
    cases hpage : loadAll (page limit (k * limit) ((queries k).rows s)) with
    | error failure =>
      rw [hpage] at hlisted
      cases hlisted
    | ok rows =>
      rw [hpage] at hlisted
      cases hlisted
      obtain ⟨rfl, hrows⟩ := loadAll_ok hpage
      rw [List.flatMap_cons, List.map_append, List.flatten_cons, hflatten]
      refine ⟨rfl, fun v hv => ?_⟩
      rcases List.mem_append.mp hv with hv | hv
      · exact List.all_eq_true.mp hrows v hv
      · exact hloads v hv

/-- Where every matching event can be read, all pages are answered. -/
theorem eventPages_ok {s : Store} {user : User} {m : OrganizationMember}
    (hm : require_permission .EVENT_READ organization_id user.id s = .ok m)
    (queries : Nat → EventQuery organization_id service_id level) (limit n : Nat)
    (hloads : ∀ v ∈ filteredEvents organization_id service_id level s, loads v = true) :
    ∃ answers, eventPages queries limit n user s = .ok answers := by
  unfold eventPages
  generalize List.range n = numbers
  induction numbers with
  | nil => exact ⟨[], rfl⟩
  | cons k numbers ih =>
    obtain ⟨answers, hanswers⟩ := ih
    have hpage : (page limit (k * limit) ((queries k).rows s)).all loads = true := by
      refine List.all_eq_true.mpr fun v hv => hloads v ?_
      refine ((queries k).ordered s).perm.mem_iff.mp ?_
      exact List.mem_of_mem_drop (List.mem_of_mem_take hv)
    refine ⟨(page limit (k * limit) ((queries k).rows s)).map Event.response :: answers, ?_⟩
    rw [List.mapM_cons, list_events_by_eq hm, loadAll, if_pos hpage, hanswers]
    rfl

/-- The response tells the event, by its id. -/
theorem perm_of_responses {s : Store} (hids : UniqueOn Event.id s.events) {listed rows : List Event}
    (hlisted : ∀ v ∈ listed, v ∈ s.events) (hrows : ∀ v ∈ rows, v ∈ s.events)
    (hnodup : (rows.map Event.response).Nodup)
    (h : (listed.map Event.response).Perm (rows.map Event.response)) : listed.Perm rows := by
  have hsame : ∀ v ∈ s.events, ∀ w ∈ s.events, v.response = w.response → v = w := by
    intro v hv w hw heq
    exact hids.eq hv hw (congrArg EventResponse.id heq)
  refine (List.perm_ext_iff_of_nodup ?_ hnodup.of_map).mpr fun v => ?_
  · exact (h.nodup_iff.mpr hnodup).of_map
  · constructor
    · intro hv
      obtain ⟨w, hw, heq⟩ := List.mem_map.mp (h.mem_iff.mp (List.mem_map_of_mem hv))
      rwa [← hsame w (hrows w hw) v (hlisted v hv) heq]
    · intro hv
      obtain ⟨w, hw, heq⟩ := List.mem_map.mp (h.mem_iff.mpr (List.mem_map_of_mem hv))
      rwa [← hsame w (hlisted w hw) v (hrows v hv) heq]

theorem filteredEvents_mem {s : Store} {v : Event}
    (hv : v ∈ filteredEvents organization_id service_id level s) : v ∈ s.events :=
  List.mem_of_mem_filter hv

theorem filteredEvents_nodup {s : Store} (hids : UniqueOn Event.id s.events) :
    ((filteredEvents organization_id service_id level s).map Event.response).Nodup := by
  have hfiltered : UniqueOn Event.id (filteredEvents organization_id service_id level s) :=
    hids.filter _
  refine List.Nodup.of_map EventResponse.id ?_
  rw [List.map_map]
  exact hfiltered

/-- What the claim says of queries, it says of listings. -/
theorem PagesPartition.perm {limit : Nat} {user : User} {s : Store} {m : OrganizationMember}
    (hall : PagesPartition organization_id service_id level limit user s)
    (hids : UniqueOn Event.id s.events)
    (hm : require_permission .EVENT_READ organization_id user.id s = .ok m)
    {listings : Nat → List Event}
    (hlistings : ∀ k, Listing (fun v => v.occurred_at.instant)
      (filteredEvents organization_id service_id level s) (listings k)) {n : Nat}
    (hn : (filteredEvents organization_id service_id level s).length ≤ n * limit) :
    (pages limit n listings).Perm (filteredEvents organization_id service_id level s) := by
  classical
  -- the queries that list these rows on this store
  let queries : Nat → EventQuery organization_id service_id level := fun k =>
    { rows := fun t => if t = s then listings k else eventsOf organization_id service_id level t
      ordered := fun t => by
        split
        · next heq => exact heq ▸ hlistings k
        · exact (stableQuery organization_id service_id level).ordered t }
  have hqueries : ∀ k, (queries k).rows s = listings k := fun k => if_pos rfl
  obtain ⟨answers, hanswers, hperm⟩ := hall queries n hn
  obtain ⟨hflatten, _⟩ := eventPages_answered hm queries limit n hanswers
  rw [hflatten, funext hqueries] at hperm
  refine perm_of_responses hids (fun v hv => ?_) (fun v => filteredEvents_mem)
    (filteredEvents_nodup hids) hperm
  obtain ⟨k, hk⟩ := mem_pages hv
  exact filteredEvents_mem ((hlistings k).perm.mem_iff.mp hk)

theorem moments_on_one_page {limit : Nat} {user : User} {s : Store} {m : OrganizationMember}
    (hall : PagesPartition organization_id service_id level limit user s)
    (hids : UniqueOn Event.id s.events)
    (hm : require_permission .EVENT_READ organization_id user.id s = .ok m) (hlimit : 1 ≤ limit) :
    MomentsOnOnePage organization_id service_id level limit s := by
  have hstable := (stableQuery organization_id service_id level).ordered s
  refine (pages_perm_iff (filteredEvents_nodup hids).of_map hstable hlimit).mp ?_
  exact fun listings hlistings n hn => hall.perm hids hm hlistings hn

/-- Every matching event was answered on some page. -/
theorem matching_events_load {limit : Nat} {user : User} {s : Store} {m : OrganizationMember}
    (hall : PagesPartition organization_id service_id level limit user s)
    (hids : UniqueOn Event.id s.events)
    (hm : require_permission .EVENT_READ organization_id user.id s = .ok m) (hlimit : 1 ≤ limit) :
    ∀ v ∈ filteredEvents organization_id service_id level s, loads v = true := by
  intro v hv
  obtain ⟨answers, hanswers, hperm⟩ := hall (fun _ => stableQuery organization_id service_id level)
    (filteredEvents organization_id service_id level s).length (Nat.le_mul_of_pos_right _ hlimit)
  obtain ⟨hflatten, hloads⟩ := eventPages_answered hm _ limit _ hanswers
  rw [hflatten] at hperm
  obtain ⟨w, hw, heq⟩ := List.mem_map.mp (hperm.mem_iff.mpr (List.mem_map_of_mem hv))
  obtain ⟨k, hk⟩ := mem_pages hw
  have hlisted : w ∈ filteredEvents organization_id service_id level s :=
    ((stableQuery organization_id service_id level).ordered s).perm.mem_iff.mp hk
  have hsame : w = v := hids.eq (filteredEvents_mem hlisted) (filteredEvents_mem hv)
    (congrArg EventResponse.id heq)
  rw [← hsame]
  exact hloads w hw

end

/-- The pages of `list_events` have every matching event once, however each query
orders events of one moment, exactly if no page ends between two such events and
each of them can be read back. -/
theorem pages_partition_iff_moments_on_one_page [Platform] {s : Store} (h : Reachable s)
    {organization_id : UUID} {user : User} {m : OrganizationMember}
    (hm : require_permission .EVENT_READ organization_id user.id s = .ok m)
    (service_id : Option UUID) (level : Option EventLevel) {limit : Nat} (hlimit : 1 ≤ limit) :
    PagesPartition organization_id service_id level limit user s ↔
      MomentsOnOnePage organization_id service_id level limit s ∧
        ∀ v ∈ filteredEvents organization_id service_id level s,
          inCalendar v.occurred_at.instant = true := by
  constructor
  · intro hall
    exact ⟨moments_on_one_page hall h.consistent.event_ids hm hlimit,
      matching_events_load hall h.consistent.event_ids hm hlimit⟩
  · rintro ⟨hends, hloads⟩ queries n hn
    obtain ⟨answers, hanswers⟩ := eventPages_ok hm queries limit n hloads
    obtain ⟨hflatten, _⟩ := eventPages_answered hm queries limit n hanswers
    refine ⟨answers, hanswers, ?_⟩
    rw [hflatten]
    exact (pages_perm (fun k => (queries k).ordered s) hends hlimit hn).map _

/-- The five events of the sample run have moments of their own. -/
theorem two_events_a_page_partition_the_sample :
    PagesPartition 20 none none 2 sampleMember
      (run.after (@serve samplePlatform) Store.empty sampleRun) := by
  refine (@pages_partition_iff_moments_on_one_page samplePlatform _ sample_reachable 20 sampleMember
    ⟨21, 20, 0, .OWNER, 2 * SECOND⟩ rfl none none 2 (by decide)).mpr ?_
  refine ⟨endsBetweenKeys_of_nodup ((stableQuery 20 none none).ordered _) ?_, ?_⟩
  · decide +kernel
  · decide +kernel

/-- Two errors of one moment, each of its own id. -/
def tiedRun : List (Env × Request) :=
  (sampleEnv 6, .ingest (some (.text (create_raw_key (sampleEnv 4) true))) (sampleEvent 'b' 0)) ::
    sampleRun.drop 4

/-- Read one by one, an event of a moment that two share may come twice and the
other one not at all. -/
theorem pages_of_one_repeat_an_event :
    @Reachable samplePlatform (run.after (@serve samplePlatform) Store.empty tiedRun) ∧
      ¬ PagesPartition 20 none none 1 sampleMember
        (run.after (@serve samplePlatform) Store.empty tiedRun) := by
  have hreachable : @Reachable samplePlatform
      (run.after (@serve samplePlatform) Store.empty tiedRun) :=
    ⟨tiedRun, fresh_of_drawsInOrder [6, 5, 4, 3, 2, 1, 0] rfl (by decide +kernel), rfl⟩
  refine ⟨hreachable, fun hall => ?_⟩
  have hids := (@Reachable.consistent samplePlatform _ hreachable).event_ids
  have hends : MomentsOnOnePage 20 none none 1
      (run.after (@serve samplePlatform) Store.empty tiedRun) :=
    moments_on_one_page hall hids (m := ⟨21, 20, 0, .OWNER, 2 * SECOND⟩) rfl le_rfl
  exact hends (120 * SECOND) 1 (by decide +kernel)

end pulseforge

-- The events page beside the API. Its filters, its loads and the answers of the server may
-- come in any order; what it shows was listed for the selected filters, and no request of
-- it names a service of another organization.
import PulseForge.AuditJournal
import PulseForge.Lib.Words
import PulseForge.Registry

open txn table

namespace pulseforge

variable [Platform]

/-! ## The page -/

/-- An id in a page, where no id is the empty text. -/
def idText (id : Option UUID) : Text := id.elim [] Platform.str_uuid

def EventLevel.value : EventLevel → Text
  | .DEBUG => "DEBUG".toList
  | .INFO => "INFO".toList
  | .WARNING => "WARNING".toList
  | .ERROR => "ERROR".toList
  | .CRITICAL => "CRITICAL".toList

/-- The filters of the page, as its loads ask for them. -/
structure EventFilters where
  organizationId : Option UUID
  level : Option EventLevel
  serviceId : Option UUID
  deriving DecidableEq

def EventFilters.scope (f : EventFilters) : Text :=
  words.joined ':' [idText f.organizationId, f.level.elim [] EventLevel.value, idText f.serviceId]

/-- A load that waits for its two answers. -/
structure EventsLoad where
  request : Nat
  filters : EventFilters
  eventData : Option (List EventResponse)
  serviceData : Option (List Service)

/-- The page, beside the database. -/
structure EventsPage where
  store : Store
  organizationId : Option UUID
  level : Option EventLevel
  /-- An organization, and the service that was selected in it. -/
  serviceFilter : Option UUID × Option UUID
  /-- The effect of the last render has not run yet. -/
  effectDue : Bool
  requestNumber : Nat
  loads : List EventsLoad
  events : List EventResponse
  services : List Service
  loadedScope : Text

namespace EventsPage

/-- The page as it is opened, before the workspace has an organization. -/
def opened : EventsPage where
  store := Store.empty
  organizationId := none
  level := none
  serviceFilter := (none, none)
  effectDue := true
  requestNumber := 0
  loads := []
  events := []
  services := []
  loadedScope := []

def serviceId (p : EventsPage) : Option UUID :=
  if p.serviceFilter.1 = p.organizationId then p.serviceFilter.2 else none

def filters (p : EventsPage) : EventFilters := ⟨p.organizationId, p.level, p.serviceId⟩

def scope (p : EventsPage) : Text := p.filters.scope

def visibleEvents (p : EventsPage) : List EventResponse :=
  if p.loadedScope = p.scope then p.events else []

def visibleServices (p : EventsPage) : List Service :=
  if (idText p.organizationId ++ [':']).isPrefixOf p.loadedScope then p.services else []

/-- `load`, up to its `await`. -/
def load (p : EventsPage) : EventsPage :=
  if p.organizationId.isNone then p
  else { p with
    requestNumber := p.requestNumber + 1
    loads := p.loads ++ [⟨p.requestNumber + 1, p.filters, none, none⟩] }

/-- The rest of `load`. -/
def finishLoad (l : EventsLoad) (eventData : List EventResponse) (serviceData : List Service)
    (p : EventsPage) : EventsPage :=
  if l.request ≠ p.requestNumber ∨ l.filters.scope ≠ p.scope then p
  else { p with events := eventData, services := serviceData, loadedScope := l.filters.scope }

def runEffect (p : EventsPage) : EventsPage :=
  if p.effectDue then load { p with effectDue := false } else p

/-- A render with other selections, after the effect of the render before. -/
def render (organizationId : Option UUID) (level : Option EventLevel)
    (serviceFilter : Option UUID × Option UUID) (p : EventsPage) : EventsPage :=
  let q := { p.runEffect with organizationId, level, serviceFilter }
  { q with effectDue := decide (q.filters ≠ p.filters) }

end EventsPage

def EventsLoad.eventsRequest (l : EventsLoad) (organization_id : UUID) : TenantRequest :=
  .list_events organization_id l.filters.serviceId l.filters.level 100 0

def EventsLoad.received (l : EventsLoad) : Except Failure Body → EventsLoad
  | .ok (.events eventData) => { l with eventData := some eventData }
  | .ok (.services serviceData) => { l with serviceData := some serviceData }
  | _ => l

inductive EventsPageEvent
  /-- Any request of anyone. -/
  | served (e : Env) (r : Request)
  | selectOrganization (organizationId : UUID)
  | selectLevel (level : Option EventLevel)
  | selectService (serviceId : Option UUID)
  | effect
  | refresh
  /-- The server answers the first request of a load, or the second one. -/
  | eventsListed (k : Nat) (e : Env) (credentials : Option Bearer)
  | servicesListed (k : Nat) (e : Env) (credentials : Option Bearer)
  | answered (k : Nat)
  | failed (k : Nat)

/-- The server answers a request of a load that waits for it. -/
def EventsPage.serve (k : Nat) (e : Env) (credentials : Option Bearer)
    (request : EventsLoad → UUID → TenantRequest) (p : EventsPage) : EventsPage :=
  match p.loads[k]? with
  | some l =>
    match l.filters.organizationId with
    | some organization_id =>
      let answer := handle e (.tenant credentials (request l organization_id)) p.store
      { p with store := answer.2, loads := p.loads.set k (l.received answer.1) }
    | none => p
  | none => p

def eventsPageStep (p : EventsPage) : EventsPageEvent → EventsPage
  | .served e r => { p with store := (handle e r p.store).2 }
  | .selectOrganization organizationId => p.render (some organizationId) p.level p.serviceFilter
  | .selectLevel level => p.render p.organizationId level p.serviceFilter
  | .selectService serviceId =>
    -- the options are the visible services
    if serviceId.all fun id => p.visibleServices.any fun v => v.id = id then
      p.render p.organizationId p.level (p.organizationId, serviceId)
    else p
  | .effect => p.runEffect
  | .refresh => p.load
  | .eventsListed k e credentials => p.serve k e credentials EventsLoad.eventsRequest
  | .servicesListed k e credentials =>
    p.serve k e credentials fun _ organization_id => .list_services organization_id
  | .answered k =>
    match p.loads[k]? with
    | some l =>
      match l.eventData, l.serviceData with
      | some eventData, some serviceData =>
        EventsPage.finishLoad l eventData serviceData { p with loads := p.loads.eraseIdx k }
      | _, _ => p
    | none => p
  | .failed k => { p with loads := p.loads.eraseIdx k }

/-! ## The scope of the filters -/

/-- `str(uuid)` is of hexadecimal digits and hyphens, and no two ids have the same text. -/
structure PlainIds : Prop where
  injective : InjectiveUuidText
  not_empty : ∀ id : UUID, Platform.str_uuid id ≠ []
  no_colon : ∀ id : UUID, ':' ∉ Platform.str_uuid id

section
variable (hids : PlainIds)
include hids

theorem idText_inj {a b : Option UUID} (h : idText a = idText b) : a = b := by
  cases a with
  | none =>
    cases b with
    | none => rfl
    | some b => exact absurd h.symm (hids.not_empty b)
  | some a =>
    cases b with
    | none => exact absurd h (hids.not_empty a)
    | some b => exact congrArg some (hids.injective a b h)

theorem colon_idText (id : Option UUID) : ':' ∉ idText id := by
  cases id with
  | none => exact List.not_mem_nil
  | some id => exact hids.no_colon id

omit hids [Platform] in
theorem levelText_inj {a b : Option EventLevel}
    (h : a.elim [] EventLevel.value = b.elim [] EventLevel.value) : a = b := by
  rcases a with _ | a <;> rcases b with _ | b
  · rfl
  · cases b <;> cases h
  · cases a <;> cases h
  · cases a <;> cases b <;> first | rfl | cases h

omit hids [Platform] in
theorem colon_levelText (level : Option EventLevel) : ':' ∉ level.elim [] EventLevel.value := by
  rcases level with _ | level
  · exact List.not_mem_nil
  · cases level <;> decide

/-- The text of a scope tells its filters. -/
theorem scope_inj {f g : EventFilters} (h : f.scope = g.scope) : f = g := by
  have hplain : ∀ k : EventFilters, ∀ w ∈ [idText k.organizationId, k.level.elim [] EventLevel.value,
      idText k.serviceId].dropLast, ':' ∉ w := by
    intro k
    simpa using ⟨colon_idText hids k.organizationId, colon_levelText k.level⟩
  have hparts := words.joined_inj (by rfl) (hplain f) (hplain g) h
  obtain ⟨horganization, hrest⟩ := List.cons.inj hparts
  obtain ⟨hlevel, hrest⟩ := List.cons.inj hrest
  obtain ⟨hservice, _⟩ := List.cons.inj hrest
  cases f
  cases g
  obtain rfl := idText_inj hids horganization
  obtain rfl := levelText_inj hlevel
  obtain rfl := idText_inj hids hservice
  rfl

omit hids in
theorem scope_eq (f : EventFilters) : ∃ rest, f.scope = idText f.organizationId ++ ':' :: rest :=
  ⟨_, words.joined_cons _ _ (List.cons_ne_nil _ _)⟩

/-- A scope begins with the organization of its filters, and with no other one. -/
theorem organization_prefix_iff {id : Option UUID} {f : EventFilters} :
    (idText id ++ [':']).isPrefixOf f.scope = true ↔ id = f.organizationId := by
  obtain ⟨rest, hscope⟩ := scope_eq f
  rw [List.isPrefixOf_iff_prefix, hscope]
  constructor
  · rintro ⟨rest', hrest⟩
    rw [List.append_assoc] at hrest
    exact idText_inj hids
      (words.append_cons_inj (colon_idText hids id) (colon_idText hids f.organizationId) hrest).1
  · rintro rfl
    exact ⟨rest, by rw [List.append_assoc]; rfl⟩

end

/-! ## What the server lists -/

/-- The organization has the service. -/
def HasService (organization_id service_id : UUID) (s : Store) : Prop :=
  ∃ v ∈ s.services, v.id = service_id ∧ v.organization_id = organization_id

theorem list_events_body {e : Env} {s : Store} {credentials : Option Bearer} {organization_id : UUID}
    {service_id : Option UUID} {level : Option EventLevel} {limit offset : Nat} {body : Body}
    (h : (handle e (.tenant credentials
      (.list_events organization_id service_id level limit offset)) s).1 = .ok body) :
    body = .events ((page limit offset (eventsOf organization_id service_id level s)).map
      Event.response) := by
  refine tenant_yields (P := fun body _ => body = .events _) (fun user => ?_) h
  refine yields_answer (yields_ask fun actor _ => yields_select (yields_pure rfl))

theorem list_services_body {e : Env} {s : Store} {credentials : Option Bearer}
    {organization_id : UUID} {body : Body}
    (h : (handle e (.tenant credentials (.list_services organization_id)) s).1 = .ok body) :
    body = .services (servicesOf organization_id s) := by
  refine tenant_yields (P := fun body _ => body = .services _) (fun user => ?_) h
  refine yields_answer (yields_ask fun actor _ => ?_)
  intro services hservices
  injection hservices with hservices
  rw [← hservices]

/-- The newest events for the filters, in an organization. -/
def listedEvents (organization_id : UUID) (f : EventFilters) (s : Store) : List EventResponse :=
  (page 100 0 (eventsOf organization_id f.serviceId f.level s)).map Event.response

/-- What a load holds was listed for it at some moment, of which `seen` tells. -/
structure EventsLoad.Told (seen : (Store → Prop) → Prop) (l : EventsLoad) : Prop where
  service : ∀ id, l.filters.serviceId = some id →
    ∃ o, l.filters.organizationId = some o ∧ seen (HasService o id)
  events : ∀ eventData, l.eventData = some eventData →
    ∃ o, l.filters.organizationId = some o ∧ seen fun s => eventData = listedEvents o l.filters s
  services : ∀ serviceData, l.serviceData = some serviceData →
    ∃ o, l.filters.organizationId = some o ∧ seen fun s => serviceData = servicesOf o s

structure EventsPage.Told (seen : (Store → Prop) → Prop) (p : EventsPage) : Prop where
  filter : ∀ id, p.serviceFilter.2 = some id →
    ∃ o, p.serviceFilter.1 = some o ∧ seen (HasService o id)
  loads : ∀ l ∈ p.loads, l.Told seen
  loaded : p.loadedScope = [] ∧ p.events = [] ∧ p.services = [] ∨ ∃ l : EventsLoad, l.Told seen ∧
    p.loadedScope = l.filters.scope ∧ l.eventData = some p.events ∧ l.serviceData = some p.services

section
variable {seen seen' : (Store → Prop) → Prop}

omit [Platform] in
theorem EventsLoad.Told.mono {l : EventsLoad} (h : l.Told seen) (hseen : ∀ P, seen P → seen' P) :
    l.Told seen' where
  service id hid := by
    obtain ⟨o, ho, hs⟩ := h.service id hid
    exact ⟨o, ho, hseen _ hs⟩
  events eventData hdata := by
    obtain ⟨o, ho, hs⟩ := h.events eventData hdata
    exact ⟨o, ho, hseen _ hs⟩
  services serviceData hdata := by
    obtain ⟨o, ho, hs⟩ := h.services serviceData hdata
    exact ⟨o, ho, hseen _ hs⟩

theorem EventsPage.Told.mono {p : EventsPage} (h : p.Told seen) (hseen : ∀ P, seen P → seen' P) :
    p.Told seen' where
  filter id hid := by
    obtain ⟨o, ho, hs⟩ := h.filter id hid
    exact ⟨o, ho, hseen _ hs⟩
  loads l hl := (h.loads l hl).mono hseen
  loaded := by
    rcases h.loaded with hempty | ⟨l, hl, hscope⟩
    · exact Or.inl hempty
    · exact Or.inr ⟨l, hl.mono hseen, hscope⟩

/-- The service that the filters of the page name is one of its organization. -/
theorem EventsPage.Told.service {p : EventsPage} (h : p.Told seen) (id : UUID)
    (hid : p.filters.serviceId = some id) :
    ∃ o, p.filters.organizationId = some o ∧ seen (HasService o id) := by
  have hselected : p.serviceId = some id := hid
  unfold EventsPage.serviceId at hselected
  split at hselected
  · next hsame =>
    obtain ⟨o, ho, hs⟩ := h.filter id hselected
    exact ⟨o, hsame.symm.trans ho, hs⟩
  · cases hselected

theorem told_load {p : EventsPage} (h : p.Told seen) : p.load.Told seen := by
  unfold EventsPage.load
  split
  · exact h
  · refine { h with loads := fun l hl => ?_ }
    rcases List.mem_append.mp hl with hold | hnew
    · exact h.loads l hold
    · obtain rfl := List.mem_singleton.mp hnew
      refine ⟨h.service, fun _ hdata => ?_, fun _ hdata => ?_⟩
      · cases hdata
      · cases hdata

theorem told_runEffect {p : EventsPage} (h : p.Told seen) : p.runEffect.Told seen := by
  unfold EventsPage.runEffect
  split
  · exact told_load (p := { p with effectDue := false }) ⟨h.filter, h.loads, h.loaded⟩
  · exact h

theorem told_render {p : EventsPage} (h : p.Told seen) (organizationId : Option UUID)
    (level : Option EventLevel) {serviceFilter : Option UUID × Option UUID}
    (hfilter : ∀ id, serviceFilter.2 = some id →
      ∃ o, serviceFilter.1 = some o ∧ seen (HasService o id)) :
    (p.render organizationId level serviceFilter).Told seen :=
  ⟨hfilter, (told_runEffect h).loads, (told_runEffect h).loaded⟩

theorem told_finishLoad {p : EventsPage} (h : p.Told seen) {l : EventsLoad} (hl : l.Told seen)
    {eventData : List EventResponse} {serviceData : List Service} (he : l.eventData = some eventData)
    (hs : l.serviceData = some serviceData) : (p.finishLoad l eventData serviceData).Told seen := by
  unfold EventsPage.finishLoad
  split
  · exact h
  · exact ⟨h.filter, h.loads, Or.inr ⟨l, hl, rfl, he, hs⟩⟩

/-- The visible services were listed for the organization of the page. -/
theorem EventsPage.Told.visible_services (hids : PlainIds) {p : EventsPage} (h : p.Told seen) :
    p.visibleServices = [] ∨
      ∃ o, p.organizationId = some o ∧ seen fun s => p.visibleServices = servicesOf o s := by
  unfold EventsPage.visibleServices
  split
  · next hprefix =>
    rcases h.loaded with ⟨_, _, hempty⟩ | ⟨l, hl, hscope, _, hservices⟩
    · exact Or.inl hempty
    · rw [hscope] at hprefix
      obtain ⟨o, ho, hs⟩ := hl.services _ hservices
      exact Or.inr ⟨o, ((organization_prefix_iff hids).mp hprefix).trans ho, hs⟩
  · exact Or.inl rfl

theorem EventsPage.Told.visible_events (hids : PlainIds) {p : EventsPage} (h : p.Told seen) :
    p.visibleEvents = [] ∨
      ∃ o, p.organizationId = some o ∧ seen fun s => p.visibleEvents = listedEvents o p.filters s := by
  unfold EventsPage.visibleEvents
  split
  · next hscope =>
    rcases h.loaded with ⟨_, hempty, _⟩ | ⟨l, hl, hloaded, hevents, _⟩
    · exact Or.inl hempty
    · have hfilters : l.filters = p.filters := scope_inj hids (hloaded.symm.trans hscope)
      obtain ⟨o, ho, hs⟩ := hl.events _ hevents
      rw [hfilters] at ho hs
      exact Or.inr ⟨o, ho, hs⟩
  · exact Or.inl rfl

omit [Platform] in
theorem hasService_of_listed {o : UUID} {v : Service} {s : Store} (hv : v ∈ servicesOf o s) :
    HasService o v.id s := by
  have hmem := (List.perm_insertionSort _ _).mem_iff.mp hv
  obtain ⟨hrow, horganization⟩ := List.mem_filter.mp hmem
  exact ⟨v, hrow, rfl, of_decide_eq_true horganization⟩

end

/-! ## One event -/

section
variable {seen : (Store → Prop) → Prop} {p : EventsPage}

/-- An answer that was listed from the store that it is about. -/
theorem told_serve (h : p.Told seen) (k : Nat) (e : Env) (credentials : Option Bearer)
    {request : EventsLoad → UUID → TenantRequest}
    (hreceived : ∀ (l : EventsLoad) o, l.Told seen → l.filters.organizationId = some o →
      (l.received (handle e (.tenant credentials (request l o)) p.store).1).Told seen) :
    (p.serve k e credentials request).Told seen := by
  unfold EventsPage.serve
  split
  · next l hl =>
    split
    · next o ho =>
      have hload := h.loads l (List.mem_of_getElem? hl)
      refine ⟨h.filter, fun l' hl' => ?_, h.loaded⟩
      rcases List.mem_or_eq_of_mem_set hl' with hold | rfl
      · exact h.loads l' hold
      · exact hreceived l o hload ho
    · exact h
  · exact h

theorem told_eventsListed (hnow : ∀ P : Store → Prop, P p.store → seen P) (h : p.Told seen) (k : Nat)
    (e : Env) (credentials : Option Bearer) :
    (p.serve k e credentials EventsLoad.eventsRequest).Told seen := by
  refine told_serve h k e credentials fun l o hl ho => ?_
  cases hanswer : (handle e (.tenant credentials (l.eventsRequest o)) p.store).1 with
  | error failure => exact hl
  | ok body =>
    obtain rfl := list_events_body hanswer
    exact { hl with events := fun eventData hdata => ⟨o, ho, hnow _ (Option.some.inj hdata).symm⟩ }

theorem told_servicesListed (hnow : ∀ P : Store → Prop, P p.store → seen P) (h : p.Told seen) (k : Nat)
    (e : Env) (credentials : Option Bearer) :
    (p.serve k e credentials fun _ o => .list_services o).Told seen := by
  refine told_serve h k e credentials fun l o hl ho => ?_
  cases hanswer : (handle e (.tenant credentials (.list_services o)) p.store).1 with
  | error failure => exact hl
  | ok body =>
    obtain rfl := list_services_body hanswer
    exact { hl with services := fun serviceData hdata => ⟨o, ho, hnow _ (Option.some.inj hdata).symm⟩ }

theorem told_step (hids : PlainIds) (hnow : ∀ P : Store → Prop, P p.store → seen P)
    (himp : ∀ P Q : Store → Prop, (∀ s, P s → Q s) → seen P → seen Q) (h : p.Told seen)
    (event : EventsPageEvent) : (eventsPageStep p event).Told seen := by
  cases event with
  | served e r => exact ⟨h.filter, h.loads, h.loaded⟩
  | selectOrganization organizationId => exact told_render h _ _ h.filter
  | selectLevel level => exact told_render h _ _ h.filter
  | selectService serviceId =>
    simp only [eventsPageStep]
    split
    · next hoption =>
      refine told_render h _ _ fun id hid => ?_
      obtain rfl : serviceId = some id := hid
      obtain ⟨v, hv, hvid⟩ := List.any_eq_true.mp hoption
      rcases h.visible_services hids with hempty | ⟨o, ho, hs⟩
      · rw [hempty] at hv
        cases hv
      · refine ⟨o, ho, himp _ _ (fun s hlisted => ?_) hs⟩
        rw [← of_decide_eq_true hvid]
        exact hasService_of_listed (hlisted ▸ hv)
    · exact h
  | effect => exact told_runEffect h
  | refresh => exact told_load h
  | eventsListed k e credentials => exact told_eventsListed hnow h k e credentials
  | servicesListed k e credentials => exact told_servicesListed hnow h k e credentials
  | answered k =>
    have herased : ({ p with loads := p.loads.eraseIdx k } : EventsPage).Told seen :=
      ⟨h.filter, fun l hl => h.loads l (List.mem_of_mem_eraseIdx hl), h.loaded⟩
    simp only [eventsPageStep]
    split
    · next l hl =>
      split
      · next eventData serviceData he hs =>
        exact told_finishLoad herased (h.loads l (List.mem_of_getElem? hl)) he hs
      · exact h
    · exact h
  | failed k => exact ⟨h.filter, fun l hl => h.loads l (List.mem_of_mem_eraseIdx hl), h.loaded⟩

end

/-! ## Every run -/

/-- The database had this at some moment of the run. -/
def StoreOnce (past : List EventsPageEvent) (P : Store → Prop) : Prop :=
  run.Once eventsPageStep EventsPage.opened (fun p => P p.store) past

theorem told_after (hids : PlainIds) (past : List EventsPageEvent) :
    (run.after eventsPageStep EventsPage.opened past).Told (StoreOnce past) := by
  induction past with
  | nil =>
    refine ⟨fun _ hid => ?_, fun _ hl => ?_, Or.inl ⟨rfl, rfl, rfl⟩⟩
    · cases hid
    · cases hl
  | cons event past ih =>
    have hlater : (run.after eventsPageStep EventsPage.opened past).Told (StoreOnce (event :: past)) :=
      ih.mono fun P hP => run.Once.later hP event
    refine told_step hids (fun P hP => ?_) (fun P Q hPQ hP => hP.imp fun p => hPQ p.store) hlater event
    exact run.Once.later (run.Once.now hP) event

/-- In any order of selections, loads and answers, the page shows nothing, or the events that
were listed for the selected organization, service and level, and the services that were
listed for the organization; and a load that names a service names one that its organization
had. -/
theorem the_events_page_keeps_to_its_filters (hids : PlainIds) (past : List EventsPageEvent) :
    let p := run.after eventsPageStep EventsPage.opened past
    (p.visibleEvents = [] ∨ ∃ o, p.organizationId = some o ∧
      StoreOnce past fun s => p.visibleEvents = listedEvents o p.filters s) ∧
    (p.visibleServices = [] ∨ ∃ o, p.organizationId = some o ∧
      StoreOnce past fun s => p.visibleServices = servicesOf o s) ∧
    ∀ l ∈ p.loads, ∀ id, l.filters.serviceId = some id →
      ∃ o, l.filters.organizationId = some o ∧ StoreOnce past (HasService o id) := by
  intro p
  have htold := told_after hids past
  exact ⟨htold.visible_events hids, htold.visible_services hids,
    fun l hl id hid => (htold.loads l hl).service id hid⟩

/-! ## At rest -/

/-- What a load was started with. -/
def EventsLoad.start (l : EventsLoad) : Nat × EventFilters := (l.request, l.filters)

/-- The page has what it asks for, or will have it: its effect is due, or the load with the
newest number is for its filters. -/
def EventsPage.Covered (p : EventsPage) : Prop :=
  p.organizationId = none ∨ p.loadedScope = p.scope ∨ p.effectDue = true ∨
    (p.requestNumber, p.filters) ∈ p.loads.map EventsLoad.start

section
variable {p : EventsPage}

theorem covered_load (p : EventsPage) : p.load.Covered := by
  unfold EventsPage.load
  split
  · next hnone => exact Or.inl (Option.isNone_iff_eq_none.mp hnone)
  · refine Or.inr (Or.inr (Or.inr (List.mem_map.mpr ⟨⟨p.requestNumber + 1, p.filters, none, none⟩, ?_, rfl⟩)))
    exact List.mem_append_right _ (List.mem_singleton_self _)

theorem EventsPage.Covered.runEffect (h : p.Covered) : p.runEffect.Covered := by
  unfold EventsPage.runEffect
  split
  · exact covered_load _
  · exact h

omit [Platform] in
@[simp] theorem filters_load (p : EventsPage) : p.load.filters = p.filters := by
  unfold EventsPage.load
  split <;> rfl

omit [Platform] in
@[simp] theorem filters_runEffect (p : EventsPage) : p.runEffect.filters = p.filters := by
  unfold EventsPage.runEffect
  split
  · exact filters_load _
  · rfl

omit [Platform] in
theorem effectDue_runEffect (p : EventsPage) : p.runEffect.effectDue = false := by
  unfold EventsPage.runEffect
  split
  · unfold EventsPage.load
    split <;> rfl
  · next hdue => exact Bool.eq_false_iff.mpr hdue

theorem EventsPage.Covered.render (h : p.Covered) (organizationId : Option UUID) (level : Option EventLevel)
    (serviceFilter : Option UUID × Option UUID) :
    (p.render organizationId level serviceFilter).Covered := by
  let q : EventsPage := { p.runEffect with organizationId, level, serviceFilter }
  by_cases hsame : q.filters = p.filters
  · have hfilters : q.filters = p.runEffect.filters := hsame.trans (filters_runEffect p).symm
    rcases h.runEffect with hnone | hloaded | hdue | hload
    · refine Or.inl ?_
      have horganization : q.organizationId = p.runEffect.organizationId :=
        congrArg EventFilters.organizationId hfilters
      exact horganization.trans hnone
    · exact Or.inr (Or.inl (hloaded.trans (congrArg EventFilters.scope hfilters.symm)))
    · rw [effectDue_runEffect] at hdue
      cases hdue
    · rw [← hfilters] at hload
      exact Or.inr (Or.inr (Or.inr hload))
  · exact Or.inr (Or.inr (Or.inl (decide_eq_true hsame)))

theorem EventsPage.Covered.serve (h : p.Covered) (k : Nat) (e : Env) (credentials : Option Bearer)
    (request : EventsLoad → UUID → TenantRequest) : (p.serve k e credentials request).Covered := by
  unfold EventsPage.serve
  split
  · next l hl =>
    split
    · next o ho =>
      have hstart : ∀ reply, (l.received reply).start = l.start := by
        intro reply
        unfold EventsLoad.received
        split <;> rfl
      have hstarts : ∀ reply, (p.loads.set k (l.received reply)).map EventsLoad.start =
          p.loads.map EventsLoad.start := by
        intro reply
        obtain ⟨hlt, hget⟩ := List.getElem?_eq_some_iff.mp hl
        rw [List.map_set, hstart, ← hget, ← List.getElem_map EventsLoad.start, List.set_getElem_self]
        simpa using hlt
      rcases h with hnone | hloaded | hdue | hload
      · exact Or.inl hnone
      · exact Or.inr (Or.inl hloaded)
      · exact Or.inr (Or.inr (Or.inl hdue))
      · refine Or.inr (Or.inr (Or.inr ?_))
        show (p.requestNumber, p.filters) ∈ (p.loads.set k _).map EventsLoad.start
        rw [hstarts]
        exact hload
    · exact h
  · exact h

theorem EventsPage.Covered.answered (h : p.Covered) {k : Nat} {l : EventsLoad} (hl : p.loads[k]? = some l)
    (eventData : List EventResponse) (serviceData : List Service) :
    (EventsPage.finishLoad l eventData serviceData
      { p with loads := p.loads.eraseIdx k }).Covered := by
  unfold EventsPage.finishLoad
  split
  · next hdropped =>
    rcases h with hnone | hloaded | hdue | hload
    · exact Or.inl hnone
    · exact Or.inr (Or.inl hloaded)
    · exact Or.inr (Or.inr (Or.inl hdue))
    · refine Or.inr (Or.inr (Or.inr ?_))
      obtain ⟨l', hl', hstart⟩ := List.mem_map.mp hload
      obtain ⟨hnumber, hfilters⟩ := Prod.mk.inj hstart
      obtain ⟨j, hj⟩ := List.mem_iff_getElem?.mp hl'
      have hjk : j ≠ k := by
        rintro rfl
        obtain rfl : l = l' := Option.some.inj (hl.symm.trans hj)
        rcases hdropped with hne | hne
        · exact hne hnumber
        · exact hne (congrArg EventFilters.scope hfilters)
      exact List.mem_map.mpr ⟨l', List.mem_eraseIdx_iff_getElem?.mpr ⟨j, hjk, hj⟩, hstart⟩
  · next haccepted => exact Or.inr (Or.inl (not_not.mp (not_or.mp haccepted).2))

theorem EventsPage.Covered.event (h : p.Covered) {event : EventsPageEvent} (hok : ∀ k, event ≠ .failed k) :
    (eventsPageStep p event).Covered := by
  cases event with
  | served e r => exact h
  | selectOrganization organizationId => exact h.render _ _ _
  | selectLevel level => exact h.render _ _ _
  | selectService serviceId =>
    simp only [eventsPageStep]
    split
    · exact h.render _ _ _
    · exact h
  | effect => exact h.runEffect
  | refresh => exact covered_load p
  | eventsListed k e credentials => exact h.serve k e credentials _
  | servicesListed k e credentials => exact h.serve k e credentials _
  | answered k =>
    simp only [eventsPageStep]
    split
    · next l hl =>
      split
      · exact h.answered hl _ _
      · exact h
    · exact h
  | failed k => exact absurd rfl (hok k)

end

/-- Where nothing is under way any more and no load failed, the page shows the events of the
selected filters and the services of the organization as they were once listed, whatever was
selected and answered before. -/
theorem the_events_page_ends_with_its_filters (hids : PlainIds) (past : List EventsPageEvent)
    (hok : ∀ k, .failed k ∉ past) (o : UUID)
    (horganization : (run.after eventsPageStep EventsPage.opened past).organizationId = some o)
    (hloads : (run.after eventsPageStep EventsPage.opened past).loads = [])
    (heffect : (run.after eventsPageStep EventsPage.opened past).effectDue = false) :
    let p := run.after eventsPageStep EventsPage.opened past
    (StoreOnce past fun s => p.visibleEvents = listedEvents o p.filters s) ∧
      StoreOnce past fun s => p.visibleServices = servicesOf o s := by
  intro p
  have hcovered : p.Covered := by
    clear horganization hloads heffect
    show (run.after eventsPageStep EventsPage.opened past).Covered
    clear p
    induction past with
    | nil => exact Or.inl rfl
    | cons event past ih =>
      refine (ih fun k hk => hok k (List.mem_cons_of_mem _ hk)).event fun k heq => ?_
      exact hok k (heq ▸ List.mem_cons_self)
  have htold := told_after hids past
  have hloaded : p.loadedScope = p.scope := by
    rcases hcovered with hnone | hloaded | hdue | hload
    · exact absurd (horganization.symm.trans hnone) (Option.some_ne_none o)
    · exact hloaded
    · exact absurd (heffect.symm.trans hdue) Bool.false_ne_true
    · rw [show p.loads = [] from hloads] at hload
      cases hload
  rcases htold.loaded with ⟨hempty, _⟩ | ⟨l, hl, hscope, hevents, hservices⟩
  · obtain ⟨rest, hrest⟩ := scope_eq p.filters
    have hnil := hloaded.symm.trans hempty
    exact absurd (hrest.symm.trans hnil) (by simp)
  · have hfilters : l.filters = p.filters := scope_inj hids (hscope.symm.trans hloaded)
    have ho : l.filters.organizationId = some o :=
      (congrArg EventFilters.organizationId hfilters).trans horganization
    obtain ⟨o', ho', hlisted⟩ := hl.events _ hevents
    obtain ⟨o'', ho'', hlisted'⟩ := hl.services _ hservices
    obtain rfl : o' = o := Option.some.inj (ho'.symm.trans ho)
    obtain rfl : o'' = o' := Option.some.inj (ho''.symm.trans ho)
    have hvisible : p.visibleEvents = p.events := if_pos hloaded
    have hprefix : p.visibleServices = p.services := by
      refine if_pos ?_
      rw [hscope]
      exact (organization_prefix_iff hids).mpr (congrArg EventFilters.organizationId hfilters).symm
    rw [hvisible, hprefix, ← hfilters]
    exact ⟨hlisted, hlisted'⟩

omit [Platform] in
theorem sample_plain_ids : @PlainIds samplePlatform :=
  @PlainIds.mk samplePlatform sample_uuid_text_injective (fun _ => Nat.toDigits_ne_nil)
    fun _ hcolon => absurd (Nat.isDigit_of_mem_toDigits (by decide) (by decide) hcolon) (by decide)

/-- After the sample run, the page is opened on its organization and loads. -/
def samplePageRun : List EventsPageEvent :=
  [.answered 0, .servicesListed 0 (sampleEnv 11) (sampleBearer 0 1),
    .eventsListed 0 (sampleEnv 10) (sampleBearer 0 1), .effect, .selectOrganization 20] ++
    sampleRun.map fun c => .served c.1 c.2

omit [Platform] in
/-- The page of the sample shows the five events of the run, as they were listed. -/
theorem the_sample_page_keeps_to_its_filters :
    let p := run.after (@eventsPageStep samplePlatform) EventsPage.opened samplePageRun
    (@EventsPage.visibleEvents samplePlatform p).length = 5 ∧
      ∃ o, p.organizationId = some o ∧
        @StoreOnce samplePlatform samplePageRun fun s =>
          @EventsPage.visibleEvents samplePlatform p = listedEvents o p.filters s := by
  intro p
  have hlength : (@EventsPage.visibleEvents samplePlatform p).length = 5 := by decide +kernel
  refine ⟨hlength, ?_⟩
  rcases (@the_events_page_keeps_to_its_filters samplePlatform sample_plain_ids samplePageRun).1
    with hempty | hlisted
  · rw [show @EventsPage.visibleEvents samplePlatform p = [] from hempty] at hlength
    cases hlength
  · exact hlisted

omit [Platform] in
theorem the_sample_page_ends_with_its_filters :
    let p := run.after (@eventsPageStep samplePlatform) EventsPage.opened samplePageRun
    @StoreOnce samplePlatform samplePageRun fun s =>
      @EventsPage.visibleServices samplePlatform p = servicesOf 20 s := by
  intro p
  have hloads : p.loads = [] := List.isEmpty_iff.mp (by decide +kernel)
  exact (@the_events_page_ends_with_its_filters samplePlatform sample_plain_ids samplePageRun
    (fun k => by simp [samplePageRun]) 20 (by decide +kernel) hloads (by decide +kernel)).2

end pulseforge

-- The services page beside the API, and the raw key that it shows once. A key is created
-- for a row that was on the page, and its answer may come when another organization is
-- selected; the page shows a key only with the organization it belongs to.
import PulseForge.Controls
import PulseForge.EventsPage
import PulseForge.RecordKeeping

open txn table

namespace pulseforge

/-! ## The page -/

/-- A load that waits for its answer. -/
structure ServicesLoad where
  request : Nat
  organizationId : UUID
  result : Option (List Service)

/-- A call of `createKey` that waits for its answer. -/
structure KeyCreation where
  organizationId : Option UUID
  serviceId : UUID
  created : Option ApiKeyCreatedResponse

/-- The page, beside the database. -/
structure ServicesPage where
  store : Store
  organizationId : Option UUID
  /-- The effect of the last render has not run yet. -/
  effectDue : Bool
  requestNumber : Nat
  services : List Service
  loadedOrganizationId : Option UUID
  secret : Option ApiKeyCreatedResponse
  secretOrganizationId : Option UUID
  loads : List ServicesLoad
  /-- The forms that were sent, each with the organization of the closure. -/
  forms : List (Option UUID)
  creations : List KeyCreation

namespace ServicesPage

/-- The page as it is opened, before the workspace has an organization. -/
def opened : ServicesPage where
  store := Store.empty
  organizationId := none
  effectDue := true
  requestNumber := 0
  services := []
  loadedOrganizationId := none
  secret := none
  secretOrganizationId := none
  loads := []
  forms := []
  creations := []

def visibleServices (p : ServicesPage) : List Service :=
  if p.loadedOrganizationId = p.organizationId then p.services else []

/-- What the banner shows. -/
def shownSecret (p : ServicesPage) : Option ApiKeyCreatedResponse :=
  if p.secretOrganizationId = p.organizationId then p.secret else none

/-- `load` of the closure of an organization, up to its `await`. -/
def load (organizationId : Option UUID) (p : ServicesPage) : ServicesPage :=
  match organizationId with
  | some organizationId =>
    { p with
      requestNumber := p.requestNumber + 1
      loads := p.loads ++ [⟨p.requestNumber + 1, organizationId, none⟩] }
  | none => p

/-- The rest of `load`. -/
def finishLoad (l : ServicesLoad) (result : List Service) (p : ServicesPage) : ServicesPage :=
  if l.request ≠ p.requestNumber ∨ some l.organizationId ≠ p.organizationId then p
  else { p with services := result, loadedOrganizationId := some l.organizationId }

/-- The rest of `createKey`. -/
def finishCreation (c : KeyCreation) (created : ApiKeyCreatedResponse) (p : ServicesPage) :
    ServicesPage :=
  if c.organizationId = p.organizationId then
    { p with secret := some created, secretOrganizationId := c.organizationId }
  else p

def runEffect (p : ServicesPage) : ServicesPage :=
  if p.effectDue then load p.organizationId { p with effectDue := false, secret := none } else p

/-- Another organization is rendered, after the effect of the render before. -/
def select (organizationId : UUID) (p : ServicesPage) : ServicesPage :=
  { p.runEffect with
    organizationId := some organizationId
    effectDue := decide (some organizationId ≠ p.organizationId) }

end ServicesPage

def ServicesLoad.received (l : ServicesLoad) : Except Failure Body → ServicesLoad
  | .ok (.services result) => { l with result := some result }
  | _ => l

def KeyCreation.received (c : KeyCreation) : Except Failure Body → KeyCreation
  | .ok (.api_key_created created) => { c with created := some created }
  | _ => c

inductive ServicesPageEvent
  /-- Any request of anyone. -/
  | served (e : Env) (r : Request)
  | select (organizationId : UUID)
  | effect
  | refresh
  | submit
  | submitted (k : Nat)
  | createKey (serviceId : UUID)
  /-- The server answers a load, or the creation of a key. -/
  | listed (k : Nat) (e : Env) (credentials : Option Bearer)
  | issued (k : Nat) (e : Env) (credentials : Option Bearer)
  | answered (k : Nat)
  | keyAnswered (k : Nat)
  | failed (k : Nat)
  | keyFailed (k : Nat)

/-- What a request at the server draws from outside. -/
def ServicesPageEvent.env : ServicesPageEvent → Option Env
  | .served e _ | .listed _ e _ | .issued _ e _ => some e
  | _ => none

variable [Platform]

def servicesPageStep (p : ServicesPage) : ServicesPageEvent → ServicesPage
  | .served e r => { p with store := (handle e r p.store).2 }
  | .select organizationId => p.select organizationId
  | .effect => p.runEffect
  | .refresh => p.load p.organizationId
  | .submit => { p with forms := p.forms ++ [p.organizationId] }
  | .submitted k =>
    match p.forms[k]? with
    | some organizationId => ServicesPage.load organizationId { p with forms := p.forms.eraseIdx k }
    | none => p
  | .createKey serviceId =>
    -- the buttons are in the rows of the page
    if p.visibleServices.any fun v => v.id = serviceId then
      { p with creations := p.creations ++ [⟨p.organizationId, serviceId, none⟩] }
    else p
  | .listed k e credentials =>
    match p.loads[k]? with
    | some l =>
      let answer := handle e (.tenant credentials (.list_services l.organizationId)) p.store
      { p with store := answer.2, loads := p.loads.set k (l.received answer.1) }
    | none => p
  | .issued k e credentials =>
    match p.creations[k]? with
    | some c =>
      let answer := handle e
        (.tenant credentials (.create_service_api_key c.serviceId Workspace.dashboardKey)) p.store
      { p with store := answer.2, creations := p.creations.set k (c.received answer.1) }
    | none => p
  | .answered k =>
    match p.loads[k]? with
    | some l =>
      match l.result with
      | some result => ServicesPage.finishLoad l result { p with loads := p.loads.eraseIdx k }
      | none => p
    | none => p
  | .keyAnswered k =>
    match p.creations[k]? with
    | some c =>
      match c.created with
      | some created =>
        ServicesPage.finishCreation c created { p with creations := p.creations.eraseIdx k }
      | none => p
    | none => p
  | .failed k => { p with loads := p.loads.eraseIdx k }
  | .keyFailed k => { p with creations := p.creations.eraseIdx k }

/-! ## The database under the page -/

/-- The page after a past. -/
def servicesPageAfter (past : List ServicesPageEvent) : ServicesPage :=
  run.after servicesPageStep ServicesPage.opened past

/-- The database had this at some moment of the run. -/
def ServicesOnce (past : List ServicesPageEvent) (P : Store → Prop) : Prop :=
  run.Once servicesPageStep ServicesPage.opened (fun p => P p.store) past

/-- The ids that the requests draw are distinct, and none was in the database before, as
those of `uuid4` are. -/
def NeverDrawn (past : List ServicesPageEvent) : Prop :=
  run.Each (fun past event => ∀ e, event.env = some e → (∀ j k, e.uuid j = e.uuid k → j = k) ∧
    ∀ before, before <:+ past → ∀ k, e.uuid k ∉ (servicesPageAfter before).store.ids) past

/-- An event leaves the database, or it is a request at the server. -/
theorem store_event (p : ServicesPage) (event : ServicesPageEvent) :
    (servicesPageStep p event).store = p.store ∨ ∃ e r, event.env = some e ∧
      (servicesPageStep p event).store = (handle e r p.store).2 := by
  have hload : ∀ organizationId (q : ServicesPage), (q.load organizationId).store = q.store := by
    intro organizationId q
    cases organizationId <;> rfl
  have heffect : p.runEffect.store = p.store := by
    unfold ServicesPage.runEffect
    split
    · exact hload _ _
    · rfl
  cases event with
  | served e r => exact Or.inr ⟨e, r, rfl, rfl⟩
  | select organizationId => exact Or.inl heffect
  | effect => exact Or.inl heffect
  | refresh => exact Or.inl (hload _ _)
  | submit => exact Or.inl rfl
  | submitted k =>
    simp only [servicesPageStep]
    split
    · exact Or.inl (hload _ _)
    · exact Or.inl rfl
  | createKey serviceId =>
    simp only [servicesPageStep]
    split <;> exact Or.inl rfl
  | listed k e credentials =>
    simp only [servicesPageStep]
    split
    · exact Or.inr ⟨e, _, rfl, rfl⟩
    · exact Or.inl rfl
  | issued k e credentials =>
    simp only [servicesPageStep]
    split
    · exact Or.inr ⟨e, _, rfl, rfl⟩
    · exact Or.inl rfl
  | answered k =>
    simp only [servicesPageStep, ServicesPage.finishLoad]
    split
    · split
      · split <;> exact Or.inl rfl
      · exact Or.inl rfl
    · exact Or.inl rfl
  | keyAnswered k =>
    simp only [servicesPageStep, ServicesPage.finishCreation]
    split
    · split
      · split <;> exact Or.inl rfl
      · exact Or.inl rfl
    · exact Or.inl rfl
  | failed k => exact Or.inl rfl
  | keyFailed k => exact Or.inl rfl

/-- From every moment of the run to its end, the rows of the database moved forward. -/
theorem store_history {past : List ServicesPageEvent} (hdraws : NeverDrawn past) :
    Reachable (servicesPageAfter past).store ∧ ∀ before, before <:+ past →
      Store.Forward (fun id => id ∉ (servicesPageAfter before).store.ids)
        (servicesPageAfter before).store (servicesPageAfter past).store := by
  induction past with
  | nil =>
    refine ⟨⟨[], trivial, rfl⟩, fun before hbefore => ?_⟩
    obtain rfl := List.suffix_nil.mp hbefore
    exact .refl _ _
  | cons event past ih =>
    obtain ⟨hreachable, hforward⟩ := ih hdraws.1
    have hstep : (servicesPageAfter (event :: past)).store =
        (servicesPageStep (servicesPageAfter past) event).store := rfl
    rcases store_event (servicesPageAfter past) event with hsame | ⟨e, r, henv, hserved⟩
    · rw [hstep, hsame]
      refine ⟨hreachable, fun before hbefore => ?_⟩
      rcases List.suffix_cons_iff.mp hbefore with rfl | hbefore
      · rw [hstep, hsame]
        exact .refl _ _
      · exact hforward before hbefore
    · obtain ⟨hdistinct, hunused⟩ := hdraws.2 e henv
      have hfresh : Fresh e (servicesPageAfter past).store :=
        ⟨hdistinct, hunused past (List.suffix_refl past)⟩
      refine ⟨?_, fun before hbefore => ?_⟩
      · rw [hstep, hserved]
        exact hreachable.served hfresh r
      · rcases List.suffix_cons_iff.mp hbefore with rfl | hbefore
        · exact .refl _ _
        · rw [hstep, hserved]
          refine (hforward before hbefore).trans ((served_forward hreachable r).mono fun id hdrawn => ?_)
          obtain ⟨k, rfl⟩ := hdrawn
          exact hunused before hbefore k

/-- A service that an organization had is of no other one later. -/
theorem service_keeps_organization {past : List ServicesPageEvent} (hdraws : NeverDrawn past)
    {organization_id service_id : UUID} (h : ServicesOnce past (HasService organization_id service_id))
    {v : Service} (hv : v ∈ (servicesPageAfter past).store.services) (hid : v.id = service_id) :
    v.organization_id = organization_id := by
  obtain ⟨before, hbefore, w, hw, hwid, hworganization⟩ := h
  obtain ⟨_, hforward⟩ := store_history hdraws
  obtain ⟨hearlier, _⟩ := store_history (hdraws.earlier hbefore)
  have hmoved := (hforward before hbefore).services.row hearlier.consistent.service_ids hw hv
    (hid.trans hwid.symm) (not_not.mpr ((deletable_ids _).2.1 (List.mem_map_of_mem hw)))
  have horganization : v.organization_id = w.organization_id :=
    congrArg (fun x => x.2.1) hmoved
  exact horganization.trans hworganization

/-! ## The raw key -/

/-- The organization has the key, and the raw key opens it. -/
def HasKey (organization_id : UUID) (created : ApiKeyCreatedResponse) (s : Store) : Prop :=
  ∃ k ∈ s.api_keys, k.response = created.public_fields ∧ k.organization_id = organization_id ∧
    k.key_hash = hash_api_key created.api_key

/-- An accepted creation issues a key of the service that it names. -/
theorem issued_key {e : Env} {s : Store} {credentials : Option Bearer} {service_id : UUID}
    {payload : ApiKeyCreate} {body : Body}
    (h : (handle e (.tenant credentials (.create_service_api_key service_id payload)) s).1 = .ok body) :
    ∃ created, body = .api_key_created created ∧ ∃ v ∈ s.services, v.id = service_id ∧
      HasKey v.organization_id created
        (handle e (.tenant credentials (.create_service_api_key service_id payload)) s).2 := by
  refine tenant_yields (P := fun body s' => ∃ created, body = .api_key_created created ∧
    ∃ v ∈ s.services, v.id = service_id ∧ HasKey v.organization_id created s') (fun user => ?_) h
  refine yields_answer ?_
  unfold create_service_api_key issue_api_key
  refine yields_ask fun service hv => yields_ask fun actor _ => yields_flush fun w hw => ?_
  obtain ⟨hmem, hid, _⟩ := resource_of_ok hv
  refine yields_write (yields_commit (yields_pure ⟨_, rfl, service, hmem, hid, ?_⟩))
  refine ⟨new_api_key e service payload, ?_, rfl, rfl, rfl⟩
  unfold insertApiKey at hw
  split at hw
  · cases hw
    exact List.mem_append_right _ (List.mem_singleton_self _)
  · cases hw

/-- What the page holds was listed or issued at some moment, of which `seen` tells. -/
structure ServicesPage.Told (seen : (Store → Prop) → Prop) (p : ServicesPage) : Prop where
  loads : ∀ l ∈ p.loads, ∀ result, l.result = some result →
    ∀ v ∈ result, seen (HasService l.organizationId v.id)
  services : ∀ v ∈ p.services, ∃ o, p.loadedOrganizationId = some o ∧ seen (HasService o v.id)
  creations : ∀ c ∈ p.creations, ∃ o, c.organizationId = some o ∧ seen (HasService o c.serviceId) ∧
    ∀ created, c.created = some created → seen (HasKey o created)
  secret : ∀ created, p.secret = some created →
    ∃ o, p.secretOrganizationId = some o ∧ seen (HasKey o created)

section
variable {seen seen' : (Store → Prop) → Prop} {p : ServicesPage}

theorem ServicesPage.Told.mono (h : p.Told seen) (hseen : ∀ P, seen P → seen' P) : p.Told seen' where
  loads l hl result hresult v hv := hseen _ (h.loads l hl result hresult v hv)
  services v hv := by
    obtain ⟨o, ho, hs⟩ := h.services v hv
    exact ⟨o, ho, hseen _ hs⟩
  creations c hc := by
    obtain ⟨o, ho, hs, hcreated⟩ := h.creations c hc
    exact ⟨o, ho, hseen _ hs, fun created heq => hseen _ (hcreated created heq)⟩
  secret created heq := by
    obtain ⟨o, ho, hs⟩ := h.secret created heq
    exact ⟨o, ho, hseen _ hs⟩

theorem ServicesPage.Told.load (h : p.Told seen) (organizationId : Option UUID) :
    (p.load organizationId).Told seen := by
  cases organizationId with
  | none => exact h
  | some organizationId =>
    refine { h with loads := fun l hl result hresult => ?_ }
    rcases List.mem_append.mp hl with hold | hnew
    · exact h.loads l hold result hresult
    · obtain rfl := List.mem_singleton.mp hnew
      cases hresult

theorem ServicesPage.Told.runEffect (h : p.Told seen) : p.runEffect.Told seen := by
  unfold ServicesPage.runEffect
  split
  · refine ServicesPage.Told.load (p := { p with effectDue := false, secret := none })
      ⟨h.loads, h.services, h.creations, fun created heq => ?_⟩ _
    cases heq
  · exact h

theorem ServicesPage.Told.finishLoad (h : p.Told seen) {l : ServicesLoad} {result : List Service}
    (hresult : ∀ v ∈ result, seen (HasService l.organizationId v.id)) :
    (p.finishLoad l result).Told seen := by
  unfold ServicesPage.finishLoad
  split
  · exact h
  · exact { h with services := fun v hv => ⟨l.organizationId, rfl, hresult v hv⟩ }

theorem ServicesPage.Told.finishCreation (h : p.Told seen) {c : KeyCreation}
    {created : ApiKeyCreatedResponse}
    (hcreated : ∃ o, c.organizationId = some o ∧ seen (HasKey o created)) :
    (p.finishCreation c created).Told seen := by
  unfold ServicesPage.finishCreation
  split
  · refine { h with secret := fun created' heq => ?_ }
    obtain rfl := Option.some.inj heq
    exact hcreated
  · exact h

/-- A button is in the row of a service that the organization of the page had. -/
theorem ServicesPage.Told.button (h : p.Told seen) {service_id : UUID}
    (hbutton : (p.visibleServices.any fun v => v.id = service_id) = true) :
    ∃ o, p.organizationId = some o ∧ seen (HasService o service_id) := by
  obtain ⟨v, hv, hid⟩ := List.any_eq_true.mp hbutton
  unfold ServicesPage.visibleServices at hv
  split at hv
  · next hloaded =>
    obtain ⟨o, ho, hs⟩ := h.services v hv
    rw [← of_decide_eq_true hid]
    exact ⟨o, hloaded.symm.trans ho, hs⟩
  · cases hv

/-- One event. What was told of services before it still holds of the rows that are there. -/
theorem ServicesPage.Told.step (hold : p.Told seen) (hlater : ∀ P, seen P → seen' P)
    (hnow : ∀ P : Store → Prop, P p.store → seen' P) {event : ServicesPageEvent}
    (hafter : ∀ P : Store → Prop, P (servicesPageStep p event).store → seen' P)
    (hstays : ∀ o, ∀ v ∈ p.store.services, seen (HasService o v.id) → v.organization_id = o) :
    (servicesPageStep p event).Told seen' := by
  have h := hold.mono hlater
  cases event with
  | served e r => exact ⟨h.loads, h.services, h.creations, h.secret⟩
  | select organizationId =>
    have heffect := h.runEffect
    exact ⟨heffect.loads, heffect.services, heffect.creations, heffect.secret⟩
  | effect => exact h.runEffect
  | refresh => exact h.load _
  | submit => exact ⟨h.loads, h.services, h.creations, h.secret⟩
  | submitted k =>
    simp only [servicesPageStep]
    split
    · exact ServicesPage.Told.load (p := { p with forms := p.forms.eraseIdx k })
        ⟨h.loads, h.services, h.creations, h.secret⟩ _
    · exact h
  | createKey serviceId =>
    simp only [servicesPageStep]
    split
    · next hbutton =>
      refine { h with creations := fun c hc => ?_ }
      rcases List.mem_append.mp hc with hthere | hnew
      · exact h.creations c hthere
      · obtain rfl := List.mem_singleton.mp hnew
        obtain ⟨o, ho, hs⟩ := h.button hbutton
        exact ⟨o, ho, hs, fun _ heq => nomatch heq⟩
    · exact h
  | listed k e credentials =>
    simp only [servicesPageStep]
    split
    · next l hl =>
      refine ⟨fun l' hl' result hresult v hv => ?_, h.services, h.creations, h.secret⟩
      rcases List.mem_or_eq_of_mem_set hl' with hthere | rfl
      · exact h.loads l' hthere result hresult v hv
      · have hload := h.loads l (List.mem_of_getElem? hl)
        revert hresult
        cases hanswer : (handle e (.tenant credentials (.list_services l.organizationId)) p.store).1 with
        | error failure => exact fun hresult => hload result hresult v hv
        | ok body =>
          obtain rfl := list_services_body hanswer
          intro hresult
          obtain rfl := Option.some.inj hresult
          exact hnow _ (hasService_of_listed hv)
    · exact h
  | issued k e credentials =>
    cases hc : p.creations[k]? with
    | none => simpa only [servicesPageStep, hc] using h
    | some c =>
      have hstore : (servicesPageStep p (.issued k e credentials)).store = (handle e (.tenant credentials
          (.create_service_api_key c.serviceId Workspace.dashboardKey)) p.store).2 := by
        simp only [servicesPageStep, hc]
      rw [hstore] at hafter
      simp only [servicesPageStep, hc]
      refine ⟨h.loads, h.services, fun c' hc' => ?_, h.secret⟩
      have hmem := List.mem_of_getElem? hc
      rcases List.mem_or_eq_of_mem_set hc' with hthere | rfl
      · exact h.creations c' hthere
      · obtain ⟨o, ho, hservice, hcreated⟩ := h.creations c hmem
        cases hanswer : (handle e (.tenant credentials
          (.create_service_api_key c.serviceId Workspace.dashboardKey)) p.store).1 with
        | error failure => exact ⟨o, ho, hservice, hcreated⟩
        | ok body =>
          obtain ⟨created, rfl, v, hv, hid, hkey⟩ := issued_key hanswer
          refine ⟨o, ho, hservice, fun created' heq => ?_⟩
          obtain rfl := Option.some.inj heq
          obtain ⟨o', ho', htold, _⟩ := hold.creations c hmem
          obtain rfl : o' = o := Option.some.inj (ho'.symm.trans ho)
          rw [hstays o' v hv (hid ▸ htold)] at hkey
          exact hafter _ hkey
  | answered k =>
    have herased : ({ p with loads := p.loads.eraseIdx k } : ServicesPage).Told seen' :=
      ⟨fun l hl => h.loads l (List.mem_of_mem_eraseIdx hl), h.services, h.creations, h.secret⟩
    simp only [servicesPageStep]
    split
    · next l hl =>
      split
      · next result hresult =>
        exact herased.finishLoad (h.loads l (List.mem_of_getElem? hl) result hresult)
      · exact h
    · exact h
  | keyAnswered k =>
    have herased : ({ p with creations := p.creations.eraseIdx k } : ServicesPage).Told seen' :=
      ⟨h.loads, h.services, fun c hc => h.creations c (List.mem_of_mem_eraseIdx hc), h.secret⟩
    simp only [servicesPageStep]
    split
    · next c hc =>
      split
      · next created hcreated =>
        obtain ⟨o, ho, _, hkey⟩ := h.creations c (List.mem_of_getElem? hc)
        exact herased.finishCreation ⟨o, ho, hkey created hcreated⟩
      · exact h
    · exact h
  | failed k =>
    exact ⟨fun l hl => h.loads l (List.mem_of_mem_eraseIdx hl), h.services, h.creations, h.secret⟩
  | keyFailed k =>
    exact ⟨h.loads, h.services, fun c hc => h.creations c (List.mem_of_mem_eraseIdx hc), h.secret⟩

end

/-! ## Every run -/

theorem services_told {past : List ServicesPageEvent} (hdraws : NeverDrawn past) :
    (servicesPageAfter past).Told (ServicesOnce past) := by
  induction past with
  | nil =>
    refine ⟨fun _ hl => ?_, fun _ hv => ?_, fun _ hc => ?_, fun _ heq => ?_⟩
    · cases hl
    · cases hv
    · cases hc
    · cases heq
  | cons event past ih =>
    refine (ih hdraws.1).step (fun P hP => run.Once.later hP event) (fun P hP => ?_) (fun P hP => ?_)
      fun o v hv hservice => service_keeps_organization hdraws.1 hservice hv rfl
    · exact run.Once.later (run.Once.now hP) event
    · exact run.Once.now hP

/-- In any order of selections, clicks and answers, the raw key that the page shows is of a key
that the selected organization had. -/
theorem a_shown_key_is_of_the_selected_organization (past : List ServicesPageEvent)
    (hdraws : NeverDrawn past) (created : ApiKeyCreatedResponse)
    (hshown : (servicesPageAfter past).shownSecret = some created) :
    ∃ o, (servicesPageAfter past).organizationId = some o ∧ ServicesOnce past (HasKey o created) := by
  unfold ServicesPage.shownSecret at hshown
  split at hshown
  · next hsame =>
    obtain ⟨o, ho, hkey⟩ := (services_told hdraws).secret created hshown
    exact ⟨o, hsame.symm.trans ho, hkey⟩
  · cases hshown

/-! ## Once only -/

/-- What the banner depends on. -/
structure Banner where
  organizationId : Option UUID
  effectDue : Bool
  secret : Option ApiKeyCreatedResponse
  secretOrganizationId : Option UUID

def ServicesPage.banner (p : ServicesPage) : Banner :=
  ⟨p.organizationId, p.effectDue, p.secret, p.secretOrganizationId⟩

def Banner.runEffect (b : Banner) : Banner :=
  if b.effectDue then { b with effectDue := false, secret := none } else b

/-- The event hands the page the answer of the creation of this key. -/
def AnswersKey (p : ServicesPage) (created : ApiKeyCreatedResponse) (event : ServicesPageEvent) : Prop :=
  ∃ k c, event = .keyAnswered k ∧ p.creations[k]? = some c ∧ c.created = some created

/-- What an event does to the banner, with the keys that it may answer. -/
inductive BannerMove (answers : ApiKeyCreatedResponse → Prop) (b : Banner) : Banner → Prop
  | still : BannerMove answers b b
  | effect : BannerMove answers b b.runEffect
  | select (organizationId : UUID) : BannerMove answers b { b.runEffect with
      organizationId := some organizationId
      effectDue := decide (some organizationId ≠ b.organizationId) }
  | shown (created : ApiKeyCreatedResponse) (hanswers : answers created) :
      BannerMove answers b { b with secret := some created, secretOrganizationId := b.organizationId }

/-- A key in the banner is of the organization there, unless the effect that takes it away is due. -/
def Banner.Dated (b : Banner) : Prop :=
  b.secret.isSome = true → b.effectDue = true ∨ b.secretOrganizationId = b.organizationId

/-- The organization is still there, or the key is not shown. -/
def Banner.Gone (organizationId : Option UUID) (created : ApiKeyCreatedResponse) (b : Banner) : Prop :=
  b.secret ≠ some created ∨ b.organizationId = organizationId ∨
    b.effectDue = true ∧ b.secretOrganizationId ≠ b.organizationId

section
variable {answers : ApiKeyCreatedResponse → Prop} {b b' : Banner}

omit [Platform] in
theorem banner_load (organizationId : Option UUID) (p : ServicesPage) :
    (p.load organizationId).banner = p.banner := by
  cases organizationId <;> rfl

omit [Platform] in
theorem banner_runEffect (p : ServicesPage) : p.runEffect.banner = p.banner.runEffect := by
  unfold ServicesPage.runEffect Banner.runEffect
  show _ = if p.effectDue then _ else _
  split
  · exact banner_load _ _
  · rfl

theorem banner_move (p : ServicesPage) (event : ServicesPageEvent) :
    BannerMove (fun created => AnswersKey p created event) p.banner (servicesPageStep p event).banner := by
  cases event with
  | select organizationId =>
    have hselected : (p.select organizationId).banner = { p.banner.runEffect with
        organizationId := some organizationId
        effectDue := decide (some organizationId ≠ p.banner.organizationId) } := by
      rw [← banner_runEffect]
      rfl
    show BannerMove _ _ (p.select organizationId).banner
    rw [hselected]
    exact .select organizationId
  | effect =>
    show BannerMove _ _ p.runEffect.banner
    rw [banner_runEffect]
    exact .effect
  | refresh =>
    show BannerMove _ _ (p.load p.organizationId).banner
    rw [banner_load]
    exact .still
  | submitted k =>
    simp only [servicesPageStep]
    split
    · rw [banner_load]
      exact .still
    · exact .still
  | createKey serviceId =>
    simp only [servicesPageStep]
    split <;> exact .still
  | listed k e credentials =>
    simp only [servicesPageStep]
    split <;> exact .still
  | issued k e credentials =>
    simp only [servicesPageStep]
    split <;> exact .still
  | answered k =>
    simp only [servicesPageStep, ServicesPage.finishLoad]
    split
    · split
      · split <;> exact .still
      · exact .still
    · exact .still
  | keyAnswered k =>
    simp only [servicesPageStep, ServicesPage.finishCreation]
    split
    · next c hc =>
      split
      · next created hcreated =>
        split
        · next hsame =>
          rw [hsame]
          exact .shown created ⟨k, c, rfl, hc, hcreated⟩
        · exact .still
      · exact .still
    · exact .still
  | _ => exact .still

omit [Platform] in
theorem Banner.Dated.move (h : b.Dated) (hmove : BannerMove answers b b') : b'.Dated := by
  cases hmove with
  | still => exact h
  | effect =>
    unfold Banner.runEffect
    split
    · exact fun hsome => nomatch hsome
    · exact h
  | select organizationId =>
    unfold Banner.runEffect
    split
    · exact fun hsome => nomatch hsome
    · next hdue =>
      intro hsome
      by_cases hsame : some organizationId = b.organizationId
      · exact Or.inr (((h hsome).resolve_left hdue).trans hsame.symm)
      · exact Or.inl (decide_eq_true hsame)
  | shown => exact fun _ => Or.inr rfl

omit [Platform] in
/-- Where the key is not answered, it goes with the organization that it was shown with. -/
theorem Banner.Gone.move {organizationId : Option UUID} {created : ApiKeyCreatedResponse}
    (h : b.Gone organizationId created) (hdated : b.Dated) (hmove : BannerMove answers b b')
    (hnone : ¬ answers created) : b'.Gone organizationId created := by
  cases hmove with
  | still => exact h
  | effect =>
    unfold Banner.runEffect
    split
    · exact Or.inl nofun
    · exact h
  | select selected =>
    unfold Banner.runEffect
    split
    · exact Or.inl nofun
    · next hdue =>
      rcases h with hother | hstill | ⟨hdue', _⟩
      · exact Or.inl hother
      · by_cases hsame : some selected = b.organizationId
        · exact Or.inr (Or.inl (hsame.trans hstill))
        · by_cases hsecret : b.secret = some created
          · have horganization : b.secretOrganizationId = b.organizationId :=
              (hdated (by rw [hsecret]; rfl)).resolve_left hdue
            refine Or.inr (Or.inr ⟨decide_eq_true hsame, ?_⟩)
            rw [horganization]
            exact Ne.symm hsame
          · exact Or.inl hsecret
      · exact absurd hdue' hdue
  | shown created' hanswers =>
    refine Or.inl fun heq => hnone ?_
    rw [← Option.some.inj heq]
    exact hanswers

theorem banner_dated (past : List ServicesPageEvent) : (servicesPageAfter past).banner.Dated := by
  induction past with
  | nil => exact fun hsome => nomatch hsome
  | cons event past ih => exact ih.move (banner_move _ event)

end

/-- A raw key that is on the page was answered after every moment at which another organization
was selected: once the organization changes, what was shown is not shown again. -/
theorem a_shown_key_came_after_every_other_organization (later before : List ServicesPageEvent)
    (hother : (servicesPageAfter (later ++ before)).organizationId ≠
      (servicesPageAfter before).organizationId) (created : ApiKeyCreatedResponse)
    (hshown : (servicesPageAfter (later ++ before)).shownSecret = some created) :
    ∃ after event between, later = after ++ event :: between ∧
      AnswersKey (servicesPageAfter (between ++ before)) created event := by
  by_contra hnone
  have hgone : (servicesPageAfter (later ++ before)).banner.Gone
      (servicesPageAfter before).organizationId created := by
    clear hother hshown
    induction later with
    | nil => exact Or.inr (Or.inl rfl)
    | cons event later ih =>
      refine (ih ?_).move (banner_dated _) (banner_move _ event) fun hanswers => ?_
      · rintro ⟨after, event', between, rfl, hanswers⟩
        exact hnone ⟨event :: after, event', between, rfl, hanswers⟩
      · exact hnone ⟨[], event, later, rfl, hanswers⟩
  unfold ServicesPage.shownSecret at hshown
  split at hshown
  · next hsame =>
    rcases hgone with hsecret | hstill | ⟨_, hmoved⟩
    · exact hsecret hshown
    · exact hother hstill
    · exact hmoved hsame
  · cases hshown

/-- The page is opened on the organization of the sample run, and a key is created for the
service in its list. -/
def sampleKeyClicks : List ServicesPageEvent :=
  [.keyAnswered 0, .issued 0 (sampleEnv 11) (sampleBearer 0 1), .createKey 30, .answered 0,
    .listed 0 (sampleEnv 10) (sampleBearer 0 1), .effect, .select 20]

def sampleServed : List ServicesPageEvent := sampleRun.map fun c => .served c.1 c.2

/-- The page after a sample run, a bound on the ids so far, and whether every request drew
its ids from that bound on. -/
def clicksInOrder : List ServicesPageEvent → ServicesPage × Nat × Bool
  | [] => (ServicesPage.opened, 0, true)
  | event :: past =>
    match clicksInOrder past with
    | (p, bound, ok) =>
      let q := @servicesPageStep samplePlatform p event
      (q, q.store.ids.foldl (fun m id => max m (id + 1)) bound,
        ok && event.env.all fun e => bound ≤ e.uuid 0)

omit [Platform] in
theorem clicksInOrder_page (past : List ServicesPageEvent) :
    (clicksInOrder past).1 = @servicesPageAfter samplePlatform past := by
  induction past with
  | nil => rfl
  | cons event past ih =>
    unfold servicesPageAfter at ih ⊢
    rw [run.after_cons, ← ih]
    rfl

omit [Platform] in
theorem lt_foldl_bound (ids : List UUID) (bound : Nat) :
    bound ≤ ids.foldl (fun m id => max m (id + 1)) bound ∧
      ∀ id ∈ ids, id < ids.foldl (fun m id => max m (id + 1)) bound := by
  induction ids generalizing bound with
  | nil => exact ⟨Nat.le_refl _, fun _ hid => absurd hid List.not_mem_nil⟩
  | cons id ids ih =>
    obtain ⟨hbound, hids⟩ := ih (max bound (id + 1))
    refine ⟨(Nat.le_max_left _ _).trans hbound, fun id' hid' => ?_⟩
    rcases List.mem_cons.mp hid' with rfl | hrest
    · exact (Nat.le_max_right bound (id' + 1)).trans hbound
    · exact hids id' hrest

omit [Platform] in
theorem clicksInOrder_bound {past before : List ServicesPageEvent} (hbefore : before <:+ past) :
    ∀ id ∈ (@servicesPageAfter samplePlatform before).store.ids, id < (clicksInOrder past).2.1 := by
  induction past with
  | nil =>
    obtain rfl := List.suffix_nil.mp hbefore
    exact fun _ hid => absurd hid List.not_mem_nil
  | cons event past ih =>
    obtain ⟨hbound, hids⟩ := lt_foldl_bound (clicksInOrder (event :: past)).1.store.ids
      (clicksInOrder past).2.1
    rcases List.suffix_cons_iff.mp hbefore with rfl | hbefore
    · rw [← clicksInOrder_page]
      exact hids
    · exact fun id hid => (ih hbefore id hid).trans_le hbound

omit [Platform] in
/-- One look along a sample run tells that no id of it was drawn before. -/
theorem never_drawn_of_clicksInOrder {past : List ServicesPageEvent}
    (hsample : ∀ event ∈ past, ∀ e, event.env = some e → ∃ n, e = sampleEnv n)
    (h : (clicksInOrder past).2.2 = true) : @NeverDrawn samplePlatform past := by
  induction past with
  | nil => trivial
  | cons event past ih =>
    obtain ⟨hpast, hdrawn⟩ := Bool.and_eq_true_iff.mp h
    refine ⟨ih (fun event hevent => hsample event (List.mem_cons_of_mem _ hevent)) hpast, ?_⟩
    intro e henv
    obtain ⟨n, rfl⟩ := hsample event List.mem_cons_self e henv
    rw [henv] at hdrawn
    have hle : (clicksInOrder past).2.1 ≤ 10 * n := of_decide_eq_true hdrawn
    refine ⟨fun j k heq => ?_, fun before hbefore k hk => ?_⟩
    · have heq : 10 * n + j = 10 * n + k := heq
      omega
    · have hlt : 10 * n + k < _ := clicksInOrder_bound hbefore _ hk
      omega

omit [Platform] in
theorem sample_services_never_drawn : @NeverDrawn samplePlatform (sampleKeyClicks ++ sampleServed) := by
  refine never_drawn_of_clicksInOrder ?_ (by decide +kernel)
  simp [sampleKeyClicks, sampleServed, sampleRun, ServicesPageEvent.env]

omit [Platform] in
theorem sample_key_shown :
    ∃ created, (@servicesPageAfter samplePlatform (sampleKeyClicks ++ sampleServed)).shownSecret = some created :=
  Option.isSome_iff_exists.mp (by decide +kernel)

omit [Platform] in
theorem the_sample_key_is_of_its_organization :
    ∃ created o, (@servicesPageAfter samplePlatform (sampleKeyClicks ++ sampleServed)).organizationId = some o ∧
      @ServicesOnce samplePlatform (sampleKeyClicks ++ sampleServed) (@HasKey samplePlatform o created) := by
  obtain ⟨created, hshown⟩ := sample_key_shown
  exact ⟨created, @a_shown_key_is_of_the_selected_organization samplePlatform (sampleKeyClicks ++ sampleServed)
    sample_services_never_drawn created hshown⟩

omit [Platform] in
/-- Before the clicks of the sample, no organization was selected. -/
theorem the_sample_key_came_after_the_selection :
    ∃ created, (@servicesPageAfter samplePlatform (sampleKeyClicks ++ sampleServed)).shownSecret = some created ∧
      ∃ after event between, sampleKeyClicks = after ++ event :: between ∧
        AnswersKey (@servicesPageAfter samplePlatform (between ++ sampleServed)) created event := by
  have hother : (@servicesPageAfter samplePlatform (sampleKeyClicks ++ sampleServed)).organizationId ≠
      (@servicesPageAfter samplePlatform sampleServed).organizationId := by
    decide +kernel
  obtain ⟨created, hshown⟩ := sample_key_shown
  exact ⟨created, hshown, @a_shown_key_came_after_every_other_organization samplePlatform sampleKeyClicks
    sampleServed hother created hshown⟩

end pulseforge

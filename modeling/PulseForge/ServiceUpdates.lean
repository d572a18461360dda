-- The partial update of a service. The schema lets every field be null, but only
-- the description has a column for it: a null name is stripped, and the null of
-- another column comes back from the database as the conflict of a slug.
import PulseForge.StoredRows

open txn table

namespace pulseforge

variable [Platform]

/-! ## The fields of a partial update -/

/-- What a field of the payload makes of a column: it stays, or takes the value. -/
def Change.Takes {α : Type} (c : Change α) (f : α → α) (old new : α) : Prop :=
  match c with
  | none => new = old
  | some none => False
  | some (some a) => new = f a

/-- The fields of the payload have their values, the others are as they were. -/
structure Updated (payload : ServiceUpdate) (service row : Service) : Prop where
  own : row.id = service.id ∧ row.organization_id = service.organization_id ∧
    row.created_at = service.created_at
  name : payload.name.Takes strip service.name row.name
  slug : payload.slug.Takes id service.slug row.slug
  description : row.description = payload.description.getD service.description
  environment : payload.environment.Takes id service.environment row.environment
  status : payload.status.Takes id service.status row.status

/-- The payload gives a slug that another service of the organization has. -/
def SlugClash (payload : ServiceUpdate) (service : Service) (s : Store) : Prop :=
  ∃ slug, payload.slug = some (some slug) ∧ ∃ w ∈ s.services,
    w.id ≠ service.id ∧ w.organization_id = service.organization_id ∧ w.slug = slug

/-- The update answers 409 exactly if the slug is in use, and otherwise changes
the row of the service, and of it just what the payload gives. -/
structure UpdatesExactly (e : Env) (payload : ServiceUpdate) (service : Service) (user : User)
    (s : Store) : Prop where
  clash : SlugClash payload service s →
    runRequest (update_service e service.id payload user) s = (.error SLUG_IN_USE, s)
  updated : ¬ SlugClash payload service s → ∃ row, Updated payload service row ∧
    runRequest (update_service e service.id payload user) s = (.ok row,
      { s with services := updateWhere (fun v => v.id = service.id) (fun _ => row) s.services })

/-- No null name, texts that the database takes, and no other null that a column
may not hold, unless the slug is in use anyway. -/
structure Updatable (payload : ServiceUpdate) (service : Service) (s : Store) : Prop where
  name : payload.name ≠ some none
  name_storable : ∀ t, payload.name = some (some t) → Platform.storable_text (strip t) = true
  description_storable : ∀ t, payload.description = some (some t) → Platform.storable_text t = true
  columns : SlugClash payload service s ∨
    payload.slug ≠ some none ∧ payload.environment ≠ some none ∧ payload.status ≠ some none

/-! ## The handler -/

/-- What the handler leaves, once the service is found and the role is checked. -/
def update_reply (e : Env) (payload : ServiceUpdate) (service : Service) (s : Store) :
    Except Failure Service × Store :=
  match changed_name payload service.name with
  | .error failure => (.error failure, s)
  | .ok name =>
    match changed_service e.now payload name service with
    | .error .IntegrityError => (.error SLUG_IN_USE, s)
    | .error failure => (.error failure, s)
    | .ok changed =>
      match updateServiceRow changed s with
      | .ok t => (.ok changed, t)
      | .error .IntegrityError => (.error SLUG_IN_USE, s)
      | .error failure => (.error failure, s)

section
variable {e : Env} {payload : ServiceUpdate} {service : Service} {user : User} {s : Store}

theorem update_service_reply {actor : OrganizationMember}
    (hv : get_tenant_resource_or_404 Service service.id user.id s = .ok service)
    (hp : require_permission .SERVICE_UPDATE service.organization_id user.id s = .ok actor) :
    runRequest (update_service e service.id payload user) s = update_reply e payload service s := by
  have hends : Ends (update_service e service.id payload user) ⟨s, s⟩
      fun r s' => (r, s'.committed) = update_reply e payload service s := by
    unfold update_service update_reply
    simp only [ends_bind, ends_ask, hv, hp]
    cases hn : changed_name payload service.name with
    | error failure => simp
    | ok name =>
      simp only
      cases hc : changed_service e.now payload name service with
      | error failure => cases failure <;> simp
      | ok changed =>
        simp only [ends_bind, ends_attempt, ends_flush]
        cases hu : updateServiceRow changed s with
        | ok t => rfl
        | error failure => cases failure <;> simp [isIntegrityError]
  exact hends

omit [Platform] in
theorem Change.Takes.cases {α : Type} {c : Change α} {f : α → α} {old new : α}
    (h : c.Takes f old new) : c = none ∧ new = old ∨ ∃ a, c = some (some a) ∧ new = f a := by
  rcases c with _ | _ | a
  · exact Or.inl ⟨rfl, h⟩
  · exact h.elim
  · exact Or.inr ⟨a, rfl, h⟩

omit [Platform] in
theorem Change.get_ok {α : Type} {c : Change α} (h : c ≠ some none) (old : α) :
    ∃ a, c.get old = .ok a ∧ c.Takes id old a := by
  cases c with
  | none => exact ⟨old, rfl, rfl⟩
  | some given =>
    cases given with
    | none => exact absurd rfl h
    | some a => exact ⟨a, rfl, rfl⟩

omit [Platform] in
theorem changed_name_ok (h : payload.name ≠ some none) (old : Text) :
    ∃ name, changed_name payload old = .ok name ∧ payload.name.Takes strip old name := by
  unfold changed_name
  generalize payload.name = given at h ⊢
  rcases given with _ | _ | name
  · exact ⟨old, rfl, rfl⟩
  · exact absurd rfl h
  · exact ⟨strip name, rfl, rfl⟩

/-- Texts that the database takes. -/
def TextsStorable (payload : ServiceUpdate) (service : Service) (name : Text) : Prop :=
  Platform.storable_text name = true ∧
    (payload.description.getD service.description).all Platform.storable_text = true

theorem changed_service_unstorable {now : Int} {name : Text}
    (h : ¬ TextsStorable payload service name) :
    changed_service now payload name service = .error .DataError := by
  unfold changed_service
  simp only
  rw [if_neg]
  · rfl
  · simpa [TextsStorable] using h

/-- A null that a column may not hold. -/
theorem changed_service_null {now : Int} {name : Text} (h : TextsStorable payload service name)
    (hnull : payload.slug = some none ∨ payload.environment = some none ∨
      payload.status = some none) :
    changed_service now payload name service = .error .IntegrityError := by
  unfold changed_service
  simp only
  rw [if_pos (by simpa [TextsStorable] using h)]
  by_cases hslug : payload.slug = some none
  · rw [hslug]
    rfl
  · obtain ⟨slug, hs, _⟩ := Change.get_ok hslug service.slug
    rw [hs]
    by_cases henvironment : payload.environment = some none
    · rw [henvironment]
      rfl
    · obtain ⟨environment, he, _⟩ := Change.get_ok henvironment service.environment
      have hstatus := (hnull.resolve_left hslug).resolve_left henvironment
      rw [he, hstatus]
      rfl

theorem changed_service_ok {now : Int} {name : Text} (h : TextsStorable payload service name)
    (hname : payload.name.Takes strip service.name name) (hslug : payload.slug ≠ some none)
    (henvironment : payload.environment ≠ some none) (hstatus : payload.status ≠ some none) :
    ∃ changed, changed_service now payload name service = .ok changed ∧
      Updated payload service changed ∧ changed.name = name := by
  obtain ⟨slug, hs, hslug⟩ := Change.get_ok hslug service.slug
  obtain ⟨environment, he, henvironment⟩ := Change.get_ok henvironment service.environment
  obtain ⟨status, ht, hstatus⟩ := Change.get_ok hstatus service.status
  unfold changed_service
  simp only
  rw [if_pos (by simpa [TextsStorable] using h), hs, he, ht]
  let row : Service := { service with
    name, slug, description := payload.description.getD service.description, environment, status }
  have hrow : Updated payload service row ∧ row.name = name :=
    ⟨⟨⟨rfl, rfl, rfl⟩, hname, hslug, rfl, henvironment, hstatus⟩, rfl⟩
  refine ⟨_, rfl, ?_⟩
  split
  · next hsame => exact hsame ▸ hrow
  · exact ⟨⟨⟨rfl, rfl, rfl⟩, hname, hslug, rfl, henvironment, hstatus⟩, rfl⟩

/-! ## The slug -/

omit [Platform] in
theorem slugTaken_of_clash {row : Service} (hrow : Updated payload service row)
    (h : SlugClash payload service s) : slugTaken row s = true := by
  obtain ⟨slug, hslug, w, hw, hid, horg, heq⟩ := h
  refine List.any_eq_true.mpr ⟨w, hw, ?_⟩
  rcases hrow.slug.cases with ⟨hnone, _⟩ | ⟨given, hgiven, hrowslug⟩
  · simp [hslug] at hnone
  · obtain rfl : slug = given := by simpa [hslug] using hgiven
    simp [hrow.own.1, hrow.own.2.1, hrowslug, hid, horg, heq]

/-- Only a slug that the payload gives can be in use by another service. -/
theorem clash_of_slugTaken {row : Service} (hrows : StoredRows s) (hmem : service ∈ s.services)
    (hrow : Updated payload service row) (h : slugTaken row s = true) : SlugClash payload service s := by
  obtain ⟨w, hw, hkey⟩ := List.any_eq_true.mp h
  simp only [Bool.and_eq_true, decide_eq_true_eq, hrow.own.1, hrow.own.2.1] at hkey
  obtain ⟨⟨hid, horg⟩, hslug⟩ := hkey
  rcases hrow.slug.cases with ⟨_, hkept⟩ | ⟨slug, hgiven, hrowslug⟩
  · have hsame : w.slugKey = service.slugKey := Prod.ext horg (hslug.trans hkept)
    exact absurd (congrArg Service.id (hrows.slugs.eq hw hmem hsame)) hid
  · exact ⟨slug, hgiven, w, hw, hid, horg, hslug.trans hrowslug⟩

theorem updated_storable {row : Service} (hrows : StoredRows s) (hmem : service ∈ s.services)
    (hrow : Updated payload service row) (htexts : TextsStorable payload service row.name) :
    row.storable = true := by
  have hold := hrows.services service hmem
  simp only [Service.storable, Bool.and_eq_true, decide_eq_true_eq] at hold ⊢
  obtain ⟨⟨⟨_, hlength⟩, hsluglength⟩, _⟩ := hold
  refine ⟨⟨⟨htexts.1, ?_⟩, ?_⟩, hrow.description ▸ htexts.2⟩
  · rcases hrow.name.cases with ⟨_, hkept⟩ | ⟨name, hgiven, hname⟩
    · rwa [hkept]
    · rw [hname]
      exact (strip_length_le name).trans (payload.name_length name hgiven).2
  · rcases hrow.slug.cases with ⟨_, hkept⟩ | ⟨slug, hgiven, hslug⟩
    · rwa [hkept]
    · rw [hslug]
      exact (payload.slug_length slug hgiven).2

/-! ## When the update is exact -/

/-- The texts of the row are storable exactly if those of the payload are. -/
theorem textsStorable_iff (hrows : StoredRows s) (hmem : service ∈ s.services) {name : Text}
    (hname : payload.name.Takes strip service.name name) :
    TextsStorable payload service name ↔
      (∀ t, payload.name = some (some t) → Platform.storable_text (strip t) = true) ∧
        ∀ t, payload.description = some (some t) → Platform.storable_text t = true := by
  have hold := hrows.services service hmem
  simp only [Service.storable, Bool.and_eq_true, decide_eq_true_eq] at hold
  obtain ⟨⟨⟨hstored, _⟩, _⟩, hdescription⟩ := hold
  refine and_congr ?_ ?_
  · rcases hname.cases with ⟨hnone, hkept⟩ | ⟨given, hgiven, hrow⟩
    · simp [hnone, hkept, hstored]
    · simp [hgiven, hrow]
  · rcases payload.description with _ | _ | given
    · simp [hdescription]
    · simp
    · simp

theorem updates_exactly {actor : OrganizationMember} (hrows : StoredRows s)
    (hmem : service ∈ s.services)
    (hv : get_tenant_resource_or_404 Service service.id user.id s = .ok service)
    (hp : require_permission .SERVICE_UPDATE service.organization_id user.id s = .ok actor)
    (h : Updatable payload service s) : UpdatesExactly e payload service user s := by
  obtain ⟨name, hn, hname⟩ := changed_name_ok h.name service.name
  have htexts : TextsStorable payload service name :=
    (textsStorable_iff hrows hmem hname).mpr ⟨h.name_storable, h.description_storable⟩
  have hreply : runRequest (update_service e service.id payload user) s =
      update_reply e payload service s := update_service_reply hv hp
  by_cases hnull : payload.slug = some none ∨ payload.environment = some none ∨
      payload.status = some none
  · have hclash : SlugClash payload service s := by
      refine h.columns.resolve_right fun hcolumns => ?_
      tauto
    refine ⟨fun _ => ?_, fun hfree => absurd hclash hfree⟩
    rw [hreply, update_reply, hn]
    simp only [changed_service_null htexts hnull]
  · push Not at hnull
    obtain ⟨hslug, henvironment, hstatus⟩ := hnull
    obtain ⟨row, hc, hrow, hrowname⟩ : ∃ row, changed_service e.now payload name service = .ok row ∧
        Updated payload service row ∧ row.name = name :=
      changed_service_ok htexts hname hslug henvironment hstatus
    have hstorable := updated_storable hrows hmem hrow (hrowname ▸ htexts)
    constructor
    · intro hclash
      rw [hreply, update_reply, hn]
      simp only [hc, updateServiceRow, hstorable, slugTaken_of_clash hrow hclash, if_true]
    · intro hfree
      refine ⟨row, hrow, ?_⟩
      have huntaken : slugTaken row s = false := by
        rw [← Bool.not_eq_true]
        exact fun htaken => hfree (clash_of_slugTaken hrows hmem hrow htaken)
      rw [hreply, update_reply, hn]
      simp [hc, updateServiceRow, hstorable, huntaken, hrow.own.1]

/-- A request that ends in another error is no exact update. -/
theorem UpdatesExactly.reply (h : UpdatesExactly e payload service user s) {failure : Failure}
    (hreply : runRequest (update_service e service.id payload user) s = (.error failure, s)) :
    failure = SLUG_IN_USE ∧ SlugClash payload service s := by
  by_cases hclash : SlugClash payload service s
  · have heq := (h.clash hclash).symm.trans hreply
    exact ⟨(Except.error.inj (congrArg Prod.fst heq)).symm, hclash⟩
  · obtain ⟨row, _, hrow⟩ := h.updated hclash
    cases congrArg Prod.fst (hrow.symm.trans hreply)

theorem updatable {actor : OrganizationMember} (hrows : StoredRows s) (hmem : service ∈ s.services)
    (hv : get_tenant_resource_or_404 Service service.id user.id s = .ok service)
    (hp : require_permission .SERVICE_UPDATE service.organization_id user.id s = .ok actor)
    (h : UpdatesExactly e payload service user s) : Updatable payload service s := by
  have hreply : runRequest (update_service e service.id payload user) s =
      update_reply e payload service s := update_service_reply hv hp
  have hname : payload.name ≠ some none := by
    intro hnull
    rw [update_reply, changed_name, hnull] at hreply
    cases (h.reply hreply).1
  obtain ⟨name, hn, hgiven⟩ := changed_name_ok hname service.name
  rw [update_reply, hn] at hreply
  have htexts : TextsStorable payload service name := by
    by_contra hnot
    simp only [changed_service_unstorable hnot] at hreply
    cases (h.reply hreply).1
  obtain ⟨hnames, hdescriptions⟩ := (textsStorable_iff hrows hmem hgiven).mp htexts
  refine ⟨hname, hnames, hdescriptions, ?_⟩
  by_cases hnull : payload.slug = some none ∨ payload.environment = some none ∨
      payload.status = some none
  · simp only [changed_service_null htexts hnull] at hreply
    exact Or.inl (h.reply hreply).2
  · exact Or.inr (by simpa using hnull)

end

/-- In every reachable database, the partial update of a service by a member who
may make it is total and exact exactly if the name is not null, the texts are
storable, and no column gets a null that it may not hold while the slug is free. -/
theorem partial_update_is_exact_iff {s : Store} (h : Reachable s) {service : Service} {user : User}
    {actor : OrganizationMember} (e : Env) (payload : ServiceUpdate)
    (hv : get_tenant_resource_or_404 Service service.id user.id s = .ok service)
    (hp : require_permission .SERVICE_UPDATE service.organization_id user.id s = .ok actor) :
    UpdatesExactly e payload service user s ↔ Updatable payload service s := by
  have hrows := reachable_stored_rows h
  have hmem : service ∈ s.services := (resource_of_ok hv).1
  exact ⟨updatable hrows hmem hv hp, updates_exactly hrows hmem hv hp⟩

/-! ## A null environment -/

/-- A new name with blanks around it, and a status. -/
def renamed : ServiceUpdate where
  name := some (some "  Web shop ".toList)
  slug := none
  description := none
  environment := none
  status := some (some .MAINTENANCE)
  name_length := by simp
  slug_length := by simp
  description_length := by simp

/-- An environment that is null, and nothing else. -/
def nullEnvironment : ServiceUpdate where
  name := none
  slug := none
  description := none
  environment := some none
  status := none
  name_length := by simp
  slug_length := by simp
  description_length := by simp

omit [Platform] in
theorem a_new_name_is_exact :
    let s := run.after (@serve samplePlatform) Store.empty sampleRun
    @UpdatesExactly samplePlatform (sampleEnv 10) renamed soldService sampleMember s := by
  intro s
  have hupdatable : @Updatable samplePlatform renamed soldService s := by
    refine @Updatable.mk samplePlatform _ _ _ (by decide) ?_ (by simp [renamed])
      (Or.inr ⟨by decide, by decide, by decide⟩)
    intro t ht
    obtain rfl : "  Web shop ".toList = t := by simpa [renamed] using ht
    decide +kernel
  exact (@partial_update_is_exact_iff samplePlatform s sample_reachable soldService sampleMember
    ⟨21, 20, 0, .OWNER, 2 * SECOND⟩ (sampleEnv 10) renamed (by decide +kernel)
    (by decide +kernel)).mpr hupdatable

omit [Platform] in
/-- The null comes back as a slug that is in use, though no slug was given. -/
theorem a_null_environment_is_called_a_clash :
    let s := run.after (@serve samplePlatform) Store.empty sampleRun
    runRequest (@update_service samplePlatform (sampleEnv 10) 30 nullEnvironment sampleMember) s =
        (.error SLUG_IN_USE, s) ∧
      ¬ SlugClash nullEnvironment soldService s ∧
      ¬ @UpdatesExactly samplePlatform (sampleEnv 10) nullEnvironment soldService sampleMember s := by
  intro s
  have hfree : ¬ SlugClash nullEnvironment soldService s := by
    rintro ⟨_, hslug, _⟩
    cases hslug
  have hreply : runRequest (@update_service samplePlatform (sampleEnv 10) 30 nullEnvironment
      sampleMember) s = (.error SLUG_IN_USE, s) := by
    refine (@update_service_reply samplePlatform (sampleEnv 10) nullEnvironment soldService
      sampleMember s ⟨21, 20, 0, .OWNER, 2 * SECOND⟩ (by decide +kernel) (by decide +kernel)).trans ?_
    rfl
  exact ⟨hreply, hfree, fun h => hfree (@UpdatesExactly.reply samplePlatform _ _ _ _ _ h _ hreply).2⟩

end pulseforge

-- The requests for one organization, served on its share: each handler answers there as
-- it does on the whole store, and leaves the share of what it leaves.
import PulseForge.OrganizationShare

open txn table

namespace pulseforge

/-! ## Handlers for the organization -/

/-- From its session on the share, the handler answers as it does from its session on
the whole store, and what the two commit is again a store and a share of it. -/
def AsAlone {α : Type} (o : UUID) (h k : Handler α) (s t : Session Store) : Prop :=
  Abreast h k s t fun _ s' t' => Share o s'.committed t'.committed

theorem AsAlone.answer {α : Type} {o : UUID} {h k : Handler α} {s t : Session Store} (body : α → Body)
    (hh : AsAlone o h k s t) : AsAlone o (pulseforge.answer body h) (pulseforge.answer body k) s t := by
  refine Abreast.bind (hh.mono ?_)
  rintro (e | a) s' t' hs
  · exact hs
  · exact abreast_pure hs

/-- The row of the organization that an id names. -/
def named (α : Type) [TenantTable α] (o id : UUID) (s : Store) : Bool :=
  (TenantTable.rows s).any fun r : α => TenantTable.id r = id && TenantTable.organization_id r = o

section
variable {α β : Type} {o : UUID} {s t : Store} (h : Share o s t)
include h

theorem Share.pure_alone (a : α) : AsAlone o (pure a : Handler α) (pure a) ⟨s, s⟩ ⟨t, t⟩ := abreast_pure h

theorem Share.throw_alone (e : Failure) :
    AsAlone o (throw e : Handler α) (throw e) ⟨s, s⟩ ⟨t, t⟩ := abreast_throw h

theorem Share.rollback_alone (e : Failure) :
    AsAlone o (rollback >>= fun _ => (throw e : Handler α)) (rollback >>= fun _ => throw e) ⟨s, s⟩ ⟨t, t⟩ :=
  abreast_rollback (abreast_throw h)

theorem Share.ask_alone {q : Store → Except Failure α} {f g : α → Handler β} (hq : q s = q t)
    (hk : ∀ a, q s = .ok a → AsAlone o (f a) (g a) ⟨s, s⟩ ⟨t, t⟩) :
    AsAlone o (ask q >>= f) (ask q >>= g) ⟨s, s⟩ ⟨t, t⟩ := abreast_ask hq (fun _ => h) hk

omit h in
theorem select_alone {q : Store → α} {f g : α → Handler β} (hq : q s = q t)
    (hk : ∀ a, q s = a → AsAlone o (f a) (g a) ⟨s, s⟩ ⟨t, t⟩) :
    AsAlone o (select q >>= f) (select q >>= g) ⟨s, s⟩ ⟨t, t⟩ := abreast_select hq hk

theorem Share.permission_alone {p : Permission} {u : UUID} {f g : OrganizationMember → Handler β}
    (hk : ∀ m, AsAlone o (f m) (g m) ⟨s, s⟩ ⟨t, t⟩) :
    AsAlone o (ask (require_permission p o u) >>= f) (ask (require_permission p o u) >>= g)
      ⟨s, s⟩ ⟨t, t⟩ := h.ask_alone (h.permission p u) fun m _ => hk m

/-- A request that names a row of the organization goes on with it. -/
theorem Share.resource_alone [TenantTable α] {id u : UUID} {f g : α → Handler β}
    (hnamed : named α o id s = true)
    (hrows : TenantTable.rows t = (TenantTable.rows s).filter fun r : α =>
      TenantTable.organization_id r = o)
    (hids : UniqueOn (TenantTable.id : α → UUID) (TenantTable.rows s))
    (hk : ∀ r : α, r ∈ TenantTable.rows s → TenantTable.organization_id r = o →
      AsAlone o (f r) (g r) ⟨s, s⟩ ⟨t, t⟩) :
    AsAlone o (ask (get_tenant_resource_or_404 α id u) >>= f)
      (ask (get_tenant_resource_or_404 α id u) >>= g) ⟨s, s⟩ ⟨t, t⟩ := by
  obtain ⟨row, hrow, hp⟩ := List.any_eq_true.mp hnamed
  simp only [Bool.and_eq_true, decide_eq_true_eq] at hp
  obtain ⟨rfl, ho⟩ := hp
  refine h.ask_alone (h.resource hrows hids hrow ho) fun r hr => ?_
  obtain ⟨hmem, hid, _⟩ := resource_of_ok hr
  refine hk r hmem ?_
  rw [hids.eq hmem hrow hid]
  exact ho

end

section
variable {o : UUID} {s t : Store} (h : Share o s t) (hc : Consistent s) {e : Env} {event : Event}
include h hc

omit hc in
theorem Share.attach_alone (c c' : Store) {incident : Incident} (hlinked : isLinked incident.id event.id s =
    isLinked incident.id event.id t) (hlink : linkOf o s ⟨incident.id, event.id⟩ = true) :
    Abreast (attach_to_active e incident event) (attach_to_active e incident event) ⟨c, s⟩ ⟨c', t⟩
      fun _ s' t' => s'.committed = c ∧ t'.committed = c' ∧ Share o s'.work t'.work := by
  unfold attach_to_active link_event_if_needed
  have hrest : ∀ {s t : Store}, Share o s t → Abreast
      (if event.level = .CRITICAL ∧ incident.severity ≠ .SEV_1 then do
        write (pulseforge.updateIncident incident.id (raiseSeverity e.now))
        return raiseSeverity e.now incident
      else return incident : Handler Incident)
      (if event.level = .CRITICAL ∧ incident.severity ≠ .SEV_1 then do
        write (pulseforge.updateIncident incident.id (raiseSeverity e.now))
        return raiseSeverity e.now incident
      else return incident) ⟨c, s⟩ ⟨c', t⟩
      fun _ s' t' => s'.committed = c ∧ t'.committed = c' ∧ Share o s'.work t'.work := by
    intro s t h
    split
    · exact abreast_write (abreast_pure ⟨rfl, rfl, h.updateIncident _ (fun _ => rfl) fun _ => rfl⟩)
    · exact abreast_pure ⟨rfl, rfl, h⟩
  refine Abreast.bind (abreast_select hlinked fun linked _ => ?_)
  cases linked with
  | true => exact abreast_pure (hrest h)
  | false =>
    refine ⟨rfl, hrest (h.addLinks fun l hl => ?_)⟩
    rw [List.mem_singleton.mp hl]
    exact hlink

/-- The evaluation of an event of the organization. -/
theorem Share.evaluate_alone (c c' : Store) (hv : event ∈ s.events) (ho : event.organization_id = o)
    (hnew : ∀ l ∈ s.incident_events, l.incident_id ≠ e.uuid 1) :
    Abreast (evaluate_event_for_incident e event) (evaluate_event_for_incident e event) ⟨c, s⟩ ⟨c', t⟩
      fun _ s' t' => s'.committed = c ∧ t'.committed = c' ∧ Share o s'.work t'.work := by
  have hservice : OfService s event.service_id o := ho ▸ hc.events event hv
  unfold evaluate_event_for_incident
  split
  · exact abreast_pure ⟨rfl, rfl, h⟩
  · refine abreast_select (h.active hc hservice) fun found hactive => ?_
    cases found with
    | some incident =>
      obtain ⟨hi, hsame, _⟩ := activeIncident_of_some hactive
      have hio : incident.organization_id = o :=
        h.of_service hc hservice (hsame ▸ hc.incidents incident hi)
      refine Abreast.bind ((h.attach_alone c c' (h.linked hc hi hio event.id)
        ((linkOf_iff hc hi rfl).mpr hio)).mono ?_)
      rintro (_ | _) s' t' hs
      · exact hs
      · exact abreast_pure hs
    | none =>
      refine abreast_ask rfl (fun _ => ⟨rfl, rfl, h⟩) fun w _ => ?_
      refine abreast_select (congrArg List.length (h.matching hc hservice w)) fun count _ => ?_
      split
      · exact abreast_pure ⟨rfl, rfl, h⟩
      · have hactive' : find_active_incident event t = none := (h.active hc hservice).symm.trans hactive
        have hok := insertIncident_ok (e := e) hactive
        have hok' := insertIncident_ok (e := e) hactive'
        refine abreast_attempt ?_ (fun _ => ⟨rfl, rfl, h⟩) ?_ ?_
        · rw [hok, hok']
          rfl
        · intro x y hx hy
          obtain rfl := Except.ok.inj (hok.symm.trans hx)
          obtain rfl := Except.ok.inj (hok'.symm.trans hy)
          have hrow : (new_incident e event).organization_id = o := ho
          have hshare := h.addIncident hrow hnew
          refine abreast_select (h.matching hc hservice w) fun found _ => ?_
          refine abreast_write (abreast_pure ⟨rfl, rfl, hshare.addLinks fun l hl => ?_⟩)
          obtain ⟨v, _, rfl⟩ := List.mem_map.mp hl
          refine List.any_eq_true.mpr ⟨new_incident e event, by simp, ?_⟩
          exact Bool.and_eq_true_iff.mpr ⟨decide_eq_true rfl, decide_eq_true ho⟩
        · intro failure hx _
          rw [hok] at hx
          cases hx

end

variable [Platform]

/-! ## The requests of an organization -/

/-- The request is one for the organization: it names it, or one of its rows, or it
creates it. A creation that is refused for its slug creates nothing. -/
def TenantRequest.isFor (o : UUID) (e : Env) (s : Store) : TenantRequest → Bool
  | .create_organization payload =>
    e.uuid 0 = o && !s.organizations.any fun x => x.slug = payload.slug
  | .list_organizations => false
  | .list_members x | .add_member x _ | .update_member_role x _ _ | .remove_member x _
  | .list_services x | .list_events x _ _ _ _ | .list_incidents x _ _ | .list_audit_logs x _ _ => x = o
  | .create_service payload => payload.organization_id = o
  | .get_service id | .update_service id _ | .delete_service id | .create_service_api_key id _
  | .list_service_api_keys id => named Service o id s
  | .revoke_api_key id | .rotate_api_key id => named ApiKey o id s
  | .get_event id => named Event o id s
  | .get_incident id | .acknowledge_incident id | .resolve_incident id => named Incident o id s

theorem insertService_of_ok {v : Service} {s x : Store} (h : insertService v s = .ok x) :
    x = { s with services := s.services ++ [v] } := by
  unfold insertService at h
  split at h
  · split at h
    · cases h
    · exact (Except.ok.inj h).symm
  · cases h

theorem updateServiceRow_of_ok {v : Service} {s x : Store} (h : updateServiceRow v s = .ok x) :
    x = { s with services := updateWhere (fun w => w.id = v.id) (fun _ => v) s.services } := by
  unfold updateServiceRow at h
  split at h
  · split at h
    · cases h
    · exact (Except.ok.inj h).symm
  · cases h

section
variable {o : UUID} {s t : Store} (h : Share o s t) (e : Env) (user : User)
include h

theorem Share.create_organization_alone (payload : OrganizationCreate) (hid : e.uuid 0 = o)
    (hslug : (s.organizations.any fun x => x.slug = payload.slug) = false) :
    AsAlone o (create_organization e payload user) (create_organization e payload user)
      ⟨s, s⟩ ⟨t, t⟩ := by
  have hslug' : (t.organizations.any fun x => x.slug = payload.slug) = false := by
    rw [h.organizations, List.any_eq_false]
    exact fun x hx => List.any_eq_false.mp hslug x (List.mem_filter.mp hx).1
  have hinsert : ∀ w : Store, (w.organizations.any fun x => x.slug = payload.slug) = false →
      (insertOrganization (new_organization e payload user.id) w).map
          (pulseforge.addMember (owner_membership e user.id)) =
        if Platform.storable_text (strip payload.name) then
          .ok (pulseforge.addMember (owner_membership e user.id)
            { w with organizations := w.organizations ++ [new_organization e payload user.id] })
        else .error .DataError := by
    intro w hw
    unfold insertOrganization
    show (if Platform.storable_text (strip payload.name) = true then _ else _ :
      Except Failure Store).map _ = _
    split
    · have hfree : ¬ (w.organizations.any fun x =>
          x.slug = (new_organization e payload user.id).slug) = true := Bool.eq_false_iff.mp hw
      rw [if_neg hfree]
      rfl
    · rfl
  unfold create_organization
  refine abreast_attempt ?_ (fun _ => h) ?_ fun _ _ _ => h.rollback_alone _
  · show ((insertOrganization _ s).map _).map _ = ((insertOrganization _ t).map _).map _
    rw [hinsert s hslug, hinsert t hslug']
    split <;> rfl
  · intro x y hx hy
    have hx := (hinsert s hslug).symm.trans hx
    have hy := (hinsert t hslug').symm.trans hy
    split at hx
    · rw [if_pos ‹_›] at hy
      obtain rfl := Except.ok.inj hx
      obtain rfl := Except.ok.inj hy
      have hrow : (new_organization e payload user.id).id = o := hid
      have howner : (owner_membership e user.id).organization_id = o := hid
      exact abreast_write (abreast_commit (abreast_pure
        (((h.addOrganization hrow).addMember howner).addAudit _)))
    · cases hx

omit [Platform] in
theorem Share.add_member_alone [Platform] (payload : MemberAdd) :
    AsAlone o (add_member e o payload user) (add_member e o payload user) ⟨s, s⟩ ⟨t, t⟩ := by
  unfold add_member
  refine h.permission_alone fun actor => ?_
  split
  · exact h.throw_alone _
  · split
    · exact h.throw_alone _
    · refine select_alone ?_ fun found _ => ?_
      · unfold findUserByEmail
        rw [h.users]
      · cases found with
        | none => exact h.throw_alone _
        | some target =>
          refine select_alone (h.membership target.id) fun membership _ => ?_
          split
          · exact h.throw_alone _
          · refine abreast_attempt ?_ (fun _ => h) ?_ fun _ _ _ => h.rollback_alone _
            · show (insertMember _ s).map _ = (insertMember _ t).map _
              unfold insertMember
              show (if isMember s o target.id = true then _ else _ : Except Failure Store).map _ =
                (if isMember t o target.id = true then _ else _ : Except Failure Store).map _
              rw [h.member]
              split <;> rfl
            · intro x y hx hy
              unfold insertMember at hx hy
              split at hx
              · cases hx
              · split at hy
                · cases hy
                · obtain rfl := Except.ok.inj hx
                  obtain rfl := Except.ok.inj hy
                  exact abreast_commit (abreast_pure (h.addMember rfl))

theorem Share.update_member_role_alone (member_id : UUID) (role : OrganizationRole) :
    AsAlone o (update_member_role e o member_id role user) (update_member_role e o member_id role user)
      ⟨s, s⟩ ⟨t, t⟩ := by
  unfold update_member_role
  refine h.permission_alone fun actor => ?_
  refine h.ask_alone (h.target member_id) fun target _ => ?_
  refine h.ask_alone (h.user target.user_id) fun target_user _ => ?_
  split
  · exact h.throw_alone _
  · split
    · exact h.throw_alone _
    · split
      · exact h.throw_alone _
      · exact abreast_write (abreast_write (abreast_commit (abreast_pure
          ((h.updateMember target.id (f := fun m => { m with role := role }) fun _ => rfl).addAudit _))))

omit [Platform] in
theorem Share.remove_member_alone (member_id : UUID) :
    AsAlone o (remove_member o member_id user) (remove_member o member_id user) ⟨s, s⟩ ⟨t, t⟩ := by
  unfold remove_member
  refine h.permission_alone fun actor => ?_
  refine h.ask_alone (h.target member_id) fun target _ => ?_
  split
  · exact h.throw_alone _
  · split
    · exact h.throw_alone _
    · exact abreast_write ⟨rfl, h.deleteMember target.id⟩

theorem Share.create_service_alone (payload : ServiceCreate) (ho : payload.organization_id = o) :
    AsAlone o (create_service e payload user) (create_service e payload user) ⟨s, s⟩ ⟨t, t⟩ := by
  have hrow : (new_service e payload).organization_id = o := ho
  unfold create_service
  rw [ho]
  refine h.permission_alone fun actor => ?_
  refine abreast_attempt ?_ (fun _ => h) ?_ fun _ _ _ => h.rollback_alone _
  · show (insertService _ s).map _ = (insertService _ t).map _
    unfold insertService
    rw [h.slug hrow]
    split
    · split <;> rfl
    · rfl
  · intro x y hx hy
    obtain rfl := insertService_of_ok hx
    obtain rfl := insertService_of_ok hy
    exact abreast_write (abreast_commit (abreast_pure ((h.addService hrow).addAudit _)))

/-- A key of a service of the organization, from a session that may have written. -/
theorem Share.issue_alone {c c' : Store} (hcommitted : Share o c c') (service : Service)
    (ho : service.organization_id = o) (payload : ApiKeyCreate) (action : AuditAction)
    (metadata : Metadata) :
    AsAlone o (issue_api_key e service payload user.id action metadata)
      (issue_api_key e service payload user.id action metadata) ⟨c, s⟩ ⟨c', t⟩ := by
  unfold issue_api_key
  refine abreast_flush ?_ (fun _ => hcommitted) fun x y hx hy => ?_
  · show (insertApiKey _ s).map _ = (insertApiKey _ t).map _
    unfold insertApiKey
    split <;> rfl
  · unfold insertApiKey at hx hy
    split at hx
    · rw [if_pos ‹_›] at hy
      obtain rfl := Except.ok.inj hx
      obtain rfl := Except.ok.inj hy
      exact abreast_write (abreast_commit (abreast_pure ((h.addKey ho).addAudit _)))
    · cases hx

section
variable (hs : Reachable s)
include hs

theorem Share.service_alone {α : Type} {id u : UUID} {f g : Service → Handler α}
    (hnamed : named Service o id s = true)
    (hk : ∀ v : Service, v ∈ s.services → v.organization_id = o → AsAlone o (f v) (g v) ⟨s, s⟩ ⟨t, t⟩) :
    AsAlone o (ask (get_tenant_resource_or_404 Service id u) >>= f)
      (ask (get_tenant_resource_or_404 Service id u) >>= g) ⟨s, s⟩ ⟨t, t⟩ :=
  h.resource_alone hnamed h.services hs.consistent.service_ids hk

theorem Share.key_alone {α : Type} {id u : UUID} {f g : ApiKey → Handler α}
    (hnamed : named ApiKey o id s = true)
    (hk : ∀ k : ApiKey, k ∈ s.api_keys → k.organization_id = o → AsAlone o (f k) (g k) ⟨s, s⟩ ⟨t, t⟩) :
    AsAlone o (ask (get_tenant_resource_or_404 ApiKey id u) >>= f)
      (ask (get_tenant_resource_or_404 ApiKey id u) >>= g) ⟨s, s⟩ ⟨t, t⟩ :=
  h.resource_alone hnamed h.api_keys (reachable_keyed hs).key_ids hk

theorem Share.incident_alone {α : Type} {id u : UUID} {f g : Incident → Handler α}
    (hnamed : named Incident o id s = true)
    (hk : ∀ i : Incident, i.organization_id = o → AsAlone o (f i) (g i) ⟨s, s⟩ ⟨t, t⟩) :
    AsAlone o (ask (get_tenant_resource_or_404 Incident id u) >>= f)
      (ask (get_tenant_resource_or_404 Incident id u) >>= g) ⟨s, s⟩ ⟨t, t⟩ :=
  h.resource_alone hnamed h.incidents hs.consistent.incident_ids fun i _ => hk i

theorem Share.update_service_alone {service_id : UUID} (hnamed : named Service o service_id s = true)
    (payload : ServiceUpdate) :
    AsAlone o (update_service e service_id payload user) (update_service e service_id payload user)
      ⟨s, s⟩ ⟨t, t⟩ := by
  unfold update_service
  refine h.service_alone hs hnamed fun service hv ho => ?_
  rw [ho]
  refine h.permission_alone fun _ => ?_
  refine h.ask_alone rfl fun name _ => ?_
  cases hc : changed_service e.now payload name service with
  | error failure =>
    cases failure with
    | IntegrityError => exact h.rollback_alone _
    | _ => exact h.throw_alone _
  | ok changed =>
    obtain ⟨hid, horg⟩ := changed_service_keys hc
    have hrow : changed.organization_id = o := horg.trans ho
    refine abreast_attempt ?_ (fun _ => h) ?_ fun _ _ _ => h.rollback_alone _
    · show (updateServiceRow _ s).map _ = (updateServiceRow _ t).map _
      unfold updateServiceRow
      rw [h.slug hrow]
      split
      · split <;> rfl
      · rfl
    · intro x y hx hy
      obtain rfl := updateServiceRow_of_ok hx
      obtain rfl := updateServiceRow_of_ok hy
      refine abreast_commit (abreast_pure (h.updateService hrow fun v hmem heq => ?_))
      rw [hs.consistent.service_ids.eq hmem hv (heq.trans hid)]
      exact ho

theorem Share.revoke_alone {key_id : UUID} (hnamed : named ApiKey o key_id s = true) :
    AsAlone o (revoke_api_key e key_id user) (revoke_api_key e key_id user) ⟨s, s⟩ ⟨t, t⟩ := by
  unfold revoke_api_key
  refine h.key_alone hs hnamed fun k _ ho => ?_
  rw [ho]
  refine h.permission_alone fun _ => ?_
  split
  · exact abreast_write (abreast_write ⟨rfl, (h.revokeKey k.id _).addAudit _⟩)
  · exact h.pure_alone _

theorem Share.rotate_alone {key_id : UUID} (hnamed : named ApiKey o key_id s = true) :
    AsAlone o (rotate_api_key e key_id user) (rotate_api_key e key_id user) ⟨s, s⟩ ⟨t, t⟩ := by
  unfold rotate_api_key
  refine h.key_alone hs hnamed fun old_key hk ho => ?_
  rw [ho]
  refine h.permission_alone fun _ => ?_
  split
  · exact h.throw_alone _
  · split
    · exact h.throw_alone _
    · obtain ⟨v, hv, hid, horg⟩ := hs.consistent.keys old_key hk
      have hservice : named Service o old_key.service_id s = true :=
        List.any_eq_true.mpr ⟨v, hv, Bool.and_eq_true_iff.mpr
          ⟨decide_eq_true hid, decide_eq_true (horg.trans ho)⟩⟩
      refine h.service_alone hs hservice fun service _ hso => ?_
      refine abreast_write (abreast_ask rfl (fun _ => h) fun payload _ => ?_)
      exact (h.revokeKey old_key.id (e.clock 2)).issue_alone e user h service hso payload _ _

/-- Every request for the organization is served as on its share. -/
theorem Share.tenant_alone (r : TenantRequest) (hr : r.isFor o e s = true) :
    AsAlone o (tenant_handler e user r) (tenant_handler e user r) ⟨s, s⟩ ⟨t, t⟩ := by
  cases r <;> refine AsAlone.answer _ ?_
  case create_organization payload =>
    obtain ⟨hid, hslug⟩ := Bool.and_eq_true_iff.mp hr
    exact h.create_organization_alone e user payload (of_decide_eq_true hid) (by simpa using hslug)
  case list_organizations => cases hr
  case list_members x =>
    obtain rfl := of_decide_eq_true hr
    exact h.permission_alone fun _ => abreast_last_ask h.members fun _ => h
  case add_member x payload =>
    obtain rfl := of_decide_eq_true hr
    exact h.add_member_alone e user payload
  case update_member_role x m role =>
    obtain rfl := of_decide_eq_true hr
    exact h.update_member_role_alone e user m role
  case remove_member x m =>
    obtain rfl := of_decide_eq_true hr
    exact h.remove_member_alone user m
  case create_service payload => exact h.create_service_alone e user payload (of_decide_eq_true hr)
  case list_services x =>
    obtain rfl := of_decide_eq_true hr
    refine h.permission_alone fun _ => abreast_last_select ?_ h
    exact congrArg (orderDesc Service.created_at)
      (share_rows h.services fun _ _ hp => of_decide_eq_true hp)
  case get_service v =>
    refine h.service_alone hs hr fun service _ ho => ?_
    rw [ho]
    exact h.permission_alone fun _ => h.pure_alone _
  case update_service v payload => exact h.update_service_alone e user hs hr payload
  case delete_service v =>
    refine h.service_alone hs hr fun service _ ho => ?_
    rw [ho]
    exact h.permission_alone fun _ => abreast_write ⟨rfl, h.deleteService hs.consistent service.id⟩
  case create_service_api_key v payload =>
    refine h.service_alone hs hr fun service _ ho => ?_
    rw [ho]
    exact h.permission_alone fun _ => h.issue_alone e user h service ho payload _ _
  case list_service_api_keys v =>
    refine h.service_alone hs hr fun service hv ho => ?_
    rw [ho]
    exact h.permission_alone fun _ => select_alone (h.keys hs.consistent hv ho) fun _ _ => h.pure_alone _
  case revoke_api_key k => exact h.revoke_alone e user hs hr
  case rotate_api_key k => exact h.rotate_alone e user hs hr
  case list_events x v level limit offset =>
    obtain rfl := of_decide_eq_true hr
    refine h.permission_alone fun _ => select_alone ?_ fun _ _ => h.pure_alone _
    refine congrArg (orderDesc _) (share_rows h.events fun r _ hp => ?_)
    simp only [Bool.and_eq_true, decide_eq_true_eq] at hp
    exact hp.1.1
  case get_event v =>
    refine h.resource_alone hr h.events hs.consistent.event_ids fun event _ ho => ?_
    have ho : event.organization_id = o := ho
    rw [ho]
    exact h.permission_alone fun _ => h.pure_alone _
  case list_incidents x status limit =>
    obtain rfl := of_decide_eq_true hr
    refine h.permission_alone fun _ => select_alone ?_ fun _ _ => h.pure_alone _
    refine congrArg (orderDesc _) (share_rows h.incidents fun r _ hp => ?_)
    simp only [Bool.and_eq_true, decide_eq_true_eq] at hp
    exact hp.1
  case get_incident i =>
    refine h.incident_alone hs hr fun incident ho => ?_
    rw [ho]
    exact h.permission_alone fun _ => h.pure_alone _
  case acknowledge_incident i =>
    refine h.incident_alone hs hr fun incident ho => ?_
    rw [ho]
    refine h.permission_alone fun _ => ?_
    split
    · exact h.throw_alone _
    · split
      · have hwritten := h.updateIncident incident.id (f := acknowledged user.id (e.clock 1) e.now)
          (fun _ => rfl) fun _ => rfl
        exact abreast_write (abreast_write (abreast_commit (abreast_pure (hwritten.addAudit _))))
      · exact h.pure_alone _
  case resolve_incident i =>
    refine h.incident_alone hs hr fun incident ho => ?_
    rw [ho]
    refine h.permission_alone fun _ => ?_
    split
    · have hwritten := h.updateIncident incident.id
        (f := resolved user.id (e.clock 1) e.now incident.assigned_to.isNone) (fun _ => rfl) fun _ => rfl
      exact abreast_write (abreast_write (abreast_commit (abreast_pure (hwritten.addAudit _))))
    · exact h.pure_alone _
  case list_audit_logs x limit offset =>
    obtain rfl := of_decide_eq_true hr
    refine h.permission_alone fun _ => select_alone ?_ fun _ _ => h.pure_alone _
    unfold auditLogsOf
    rw [h.audit_logs]

end

end

/-! ## Ingestion for the organization -/

/-- The key of an ingest is one of the organization. -/
def ingestIsFor (o : UUID) (credentials : Option Bearer) (s : Store) : Bool :=
  match credentials with
  | some (.text raw) =>
    (s.api_keys.find? fun k => k.key_hash = hash_api_key raw).any fun k => k.organization_id = o
  | _ => false

/-- A key that is taken decides for which organization the ingest is. -/
theorem ingestIsFor_of_ok {o : UUID} {credentials : Option Bearer} {now : Int} {s : Store} {k : ApiKey}
    (h : get_ingestion_api_key credentials now s = .ok k) :
    ingestIsFor o credentials s = decide (k.organization_id = o) := by
  unfold get_ingestion_api_key at h
  split at h
  · split at h
    · split at h
      · cases h
      · rename_i raw _ api_key hf
        have heq : api_key = k := by
          split at h
          · cases h
          · split at h
            · cases h
            · split at h
              · cases h
              · split at h
                · exact Except.ok.inj h
                · cases h
        unfold ingestIsFor
        simp only [hf, heq, Option.any_some]
    · cases h
  · cases h

section
variable {o : UUID} {s t : Store} (h : Share o s t) (hc : Consistent s)
include h hc

theorem Share.ingest_key {credentials : Option Bearer} (hfor : ingestIsFor o credentials s = true)
    (now : Int) :
    get_ingestion_api_key credentials now s = get_ingestion_api_key credentials now t := by
  match credentials, hfor with
  | some (.text raw), hfor =>
    unfold ingestIsFor at hfor
    cases hfind : s.api_keys.find? fun k => k.key_hash = hash_api_key raw with
    | none =>
      simp only [hfind] at hfor
      cases hfor
    | some k =>
    simp only [hfind] at hfor
    have ho : k.organization_id = o := of_decide_eq_true hfor
    have hfind' : (t.api_keys.find? fun k => k.key_hash = hash_api_key raw) = some k := by
      rw [h.api_keys]
      exact find?_filter_of_found hfind (decide_eq_true ho)
    have hmem : k ∈ s.api_keys := (find?_mem hfind).1
    have hservice : (s.services.find? fun v => v.id = k.service_id) =
        t.services.find? fun v => v.id = k.service_id := by
      rw [h.services, find?_filter_of_imp]
      intro v hv hid
      have hid : v.id = k.service_id := of_decide_eq_true hid
      have hown : OfService s v.id k.organization_id := hid ▸ hc.keys k hmem
      exact decide_eq_true ((OfService.organization hc hv hown).trans ho)
    unfold get_ingestion_api_key
    simp only [hfind, hfind', hservice]

theorem Share.ingest_alone {e : Env} (hf : Fresh e s) (payload : EventCreate) {k : ApiKey}
    (hk : k ∈ s.api_keys) (ho : k.organization_id = o) :
    AsAlone o (ingest_event e payload k) (ingest_event e payload k) ⟨s, s⟩ ⟨t, t⟩ := by
  have hservice : OfService s k.service_id o := ho ▸ hc.keys k hk
  unfold ingest_event check_rate_limit
  cases e.retry_after with
  | some seconds => exact Abreast.bind (abreast_throw h)
  | none =>
    refine Abreast.bind (abreast_pure (select_alone (h.stored hc hservice _) fun found hv => ?_))
    cases found with
    | some existing =>
      obtain ⟨hmem, hp⟩ := find?_mem hv
      simp only [Bool.and_eq_true, decide_eq_true_eq] at hp
      have heo : existing.organization_id = o :=
        h.of_service hc hservice (hp.1 ▸ hc.events existing hmem)
      have htouch := h.touchApiKey k.id (e.clock 1)
      refine abreast_write (abreast_commit ?_)
      exact abreast_select (h.incident hc hmem heo) fun _ _ => abreast_pure htouch
    | none =>
      have hv' : findEvent k.service_id (strip payload.event_id) t = none :=
        (h.stored hc hservice _).symm.trans hv
      have hinsert : ∀ w : Store, findEvent k.service_id (strip payload.event_id) w = none →
          (insertEvent (new_event e payload k) w).map (pulseforge.touchApiKey k.id (e.clock 1)) =
            if (new_event e payload k).storable then .ok (storeEvent e payload k w)
            else .error .DataError := by
        intro w hw
        unfold insertEvent
        split
        · have hfree : ¬ (findEvent (new_event e payload k).service_id
              (new_event e payload k).event_id w).isSome = true := by
            show ¬ (findEvent k.service_id (strip payload.event_id) w).isSome = true
            rw [hw]
            exact Bool.false_ne_true
          rw [if_neg hfree]
          rfl
        · rfl
      refine abreast_attempt ?_ (fun _ => h) ?_ ?_
      · show ((insertEvent _ s).map _).map _ = ((insertEvent _ t).map _).map _
        rw [hinsert s hv, hinsert t hv']
        split <;> rfl
      · intro x y hx hy
        have hx := (hinsert s hv).symm.trans hx
        have hy := (hinsert t hv').symm.trans hy
        split at hx
        · rw [if_pos ‹_›] at hy
          obtain rfl := Except.ok.inj hx
          obtain rfl := Except.ok.inj hy
          have heo : (new_event e payload k).organization_id = o := ho
          have hmem : new_event e payload k ∈ (storeEvent e payload k s).events :=
            List.mem_append_right _ (List.mem_singleton.mpr rfl)
          have hshare : Share o (storeEvent e payload k s) (storeEvent e payload k t) :=
            (h.addEvent heo).touchApiKey k.id (e.clock 1)
          have hconsistent := hc.storeEvent hf payload hk hv
          have hnew : ∀ l ∈ (storeEvent e payload k s).incident_events, l.incident_id ≠ e.uuid 1 := by
            intro l hl heq
            obtain ⟨i, hi, _, _, hil, _⟩ := hc.links l hl
            exact hf.incident 1 i hi (hil.trans heq)
          refine Abreast.bind ((hshare.evaluate_alone hconsistent s t hmem heo hnew).mono ?_)
          rintro (failure | incident) s' t' ⟨hs', ht', hwork⟩
          · show Share o s'.committed t'.committed
            rw [hs', ht']
            exact h
          · exact abreast_commit (abreast_pure hwork)
        · cases hx
      · intro failure hx hcaught
        have hx := (hinsert s hv).symm.trans hx
        split at hx
        · cases hx
        · cases hx
          cases hcaught

end

/-- The draws of a password change for the organization alone. A password change records
one audit row for each organization of the user: alone, the row of the organization draws
the id that it draws among them. -/
def aloneDraws (o user_id : UUID) (s : Store) (e : Env) : Env :=
  let place := (s.organization_members.filter fun m => m.user_id = user_id).findIdx
    fun m => m.organization_id = o
  { e with uuid := fun k => if k = 2 then e.uuid (2 + place) else e.uuid k }

/-- The organizations that a password change is recorded for. -/
def passwordTargets (user_id : UUID) (s : Store) : List (Option UUID) :=
  let organization_ids :=
    (s.organization_members.filter fun m => m.user_id = user_id).map fun m => some m.organization_id
  if organization_ids.isEmpty then [none] else organization_ids

omit [Platform] in
theorem passwordTargets_of_member {user_id : UUID} {s : Store}
    (h : (s.organization_members.filter fun m => m.user_id = user_id) ≠ []) :
    passwordTargets user_id s =
      (s.organization_members.filter fun m => m.user_id = user_id).map fun m => some m.organization_id := by
  unfold passwordTargets
  exact if_neg (by simpa [List.isEmpty_iff] using h)

omit [Platform] in
theorem passwordTargets_for (o user_id : UUID) (s : Store) :
    ((passwordTargets user_id s).filter fun x => x = some o) =
      ((s.organization_members.filter fun m => m.user_id = user_id).filter
        fun m => m.organization_id = o).map fun m => some m.organization_id := by
  by_cases hown : (s.organization_members.filter fun m => m.user_id = user_id) = []
  · unfold passwordTargets
    rw [hown]
    rfl
  · rw [passwordTargets_of_member hown, List.filter_map]
    congr 1
    exact List.filter_congr fun x _ => by simp

omit [Platform] in
/-- A user has one membership in an organization at most. -/
theorem own_member {s : Store} (honce : MemberOnce s) (o user_id : UUID) :
    (((s.organization_members.filter fun m => m.user_id = user_id).filter
      fun m => m.organization_id = o) = []) ∨
    ∃ m, m.organization_id = o ∧ ((s.organization_members.filter fun m => m.user_id = user_id).filter
      fun m => m.organization_id = o) = [m] := by
  have honce := UniqueOn.filter (UniqueOn.filter honce fun m => m.user_id = user_id)
    fun m => m.organization_id = o
  have hkeys : ∀ m ∈ (s.organization_members.filter fun m => m.user_id = user_id).filter
      fun m => m.organization_id = o, m.organization_id = o ∧ m.user_id = user_id := by
    intro m hm
    obtain ⟨hm, ho⟩ := List.mem_filter.mp hm
    exact ⟨of_decide_eq_true ho, of_decide_eq_true (List.mem_filter.mp hm).2⟩
  generalize (s.organization_members.filter fun m => m.user_id = user_id).filter
    (fun m => m.organization_id = o) = own at honce hkeys ⊢
  match own with
  | [] => exact Or.inl rfl
  | [m] => exact Or.inr ⟨m, (hkeys m (List.mem_cons_self ..)).1, rfl⟩
  | m :: m' :: own =>
    obtain ⟨ho, hu⟩ := hkeys m (List.mem_cons_self ..)
    obtain ⟨ho', hu'⟩ := hkeys m' (List.mem_cons_of_mem _ (List.mem_cons_self ..))
    have hnot := (List.nodup_cons.mp honce).1
    exact absurd (List.mem_cons.mpr (Or.inl (Prod.ext (ho.trans ho'.symm) (hu.trans hu'.symm)))) hnot

theorem passwordAudits_alone {o : UUID} {s t : Store} (h : Share o s t) (honce : MemberOnce s) (e : Env)
    (user_id : UUID) :
    ((passwordAudits (aloneDraws o user_id s e) user_id t).filter fun a => a.organization_id = some o) =
      (passwordAudits e user_id s).filter fun a => a.organization_id = some o := by
  let row (e : Env) (k : Nat) (organization_id : Option UUID) : AuditLog :=
    audit_row e (e.uuid (2 + k)) .PASSWORD_CHANGED "user".toList organization_id (some user_id)
      (some user_id) []
  have hown : (t.organization_members.filter fun m => m.user_id = user_id) =
      (s.organization_members.filter fun m => m.user_id = user_id).filter
        fun m => m.organization_id = o := by
    rw [h.organization_members, List.filter_comm]
  have htargets := passwordTargets_for o user_id s
  have htargets' := passwordTargets_for o user_id t
  rw [hown, List.filter_filter] at htargets'
  simp only [Bool.and_self] at htargets'
  show ((passwordTargets user_id t).mapIdx (row (aloneDraws o user_id s e))).filter _ =
    ((passwordTargets user_id s).mapIdx (row e)).filter _
  rcases own_member honce o user_id with hnone | ⟨m, hmo, hone⟩
  · rw [hnone] at htargets htargets'
    rw [filter_mapIdx_none (f := row e) (fun _ _ => rfl) htargets,
      filter_mapIdx_none (f := row (aloneDraws o user_id s e)) (fun _ _ => rfl) htargets']
  · rw [hone] at htargets htargets'
    rw [List.map_singleton] at htargets htargets'
    rw [filter_mapIdx_one (f := row e) (fun _ _ => rfl) htargets,
      filter_mapIdx_one (f := row (aloneDraws o user_id s e)) (fun _ _ => rfl) htargets']
    -- The row is the first on the share, and stands at its place among those of the whole store.
    have hplace : (passwordTargets user_id t).findIdx (fun x => x = some o) = 0 := by
      rw [passwordTargets_of_member (by rw [hown, hone]; exact List.cons_ne_nil _ _), hown, hone]
      simp [hmo]
    have hplace' : (passwordTargets user_id s).findIdx (fun x => x = some o) =
        (s.organization_members.filter fun m => m.user_id = user_id).findIdx
          fun m => m.organization_id = o := by
      have hsome : (s.organization_members.filter fun m => m.user_id = user_id) ≠ [] := by
        intro hnil
        rw [hnil] at hone
        cases hone
      rw [passwordTargets_of_member hsome, List.findIdx_map]
      congr 1
      funext x
      simp
    rw [hplace, hplace']
    rfl

theorem Share.audit_password {o : UUID} {s t : Store} (h : Share o s t) (honce : MemberOnce s) (e : Env)
    (user_id : UUID) :
    Share o (audit_password_change e user_id s)
      (audit_password_change (aloneDraws o user_id s e) user_id t) := by
  refine { h with audit_logs := ?_ }
  show (t.audit_logs ++ passwordAudits _ user_id t).filter _ =
    (s.audit_logs ++ passwordAudits e user_id s).filter _
  rw [List.filter_append, List.filter_append, h.audit_logs, passwordAudits_alone h honce]

/-- The user whose password a request is about to change. -/
def passwordOwner (e : Env) (s : Store) : Request → Option UUID
  | .auth (.change_password credentials _) =>
    (get_current_user credentials e.now s).toOption.map User.id
  | .auth (.reset_password payload) =>
    (usableResetToken payload.token (e.clock 1) s).toOption.map PasswordResetToken.user_id
  | _ => none

/-- The draws of a request when the organization is served alone. -/
def Env.alone (o : UUID) (s : Store) (e : Env) (r : Request) : Env :=
  match passwordOwner e s r with
  | some user_id => aloneDraws o user_id s e
  | none => e

section
variable {o : UUID} {s t : Store} (h : Share o s t) (e : Env)
include h

theorem Share.change_password_alone (honce : MemberOnce s) (credentials : Option Bearer)
    (payload : ChangePasswordRequest) :
    AsAlone o (change_password e credentials payload)
      (change_password (e.alone o s (.auth (.change_password credentials payload))) credentials payload)
      ⟨s, s⟩ ⟨t, t⟩ := by
  have hcurrent := h.current_user credentials e.now
  cases hu : get_current_user credentials e.now s with
  | error failure =>
    have halone : e.alone o s (.auth (.change_password credentials payload)) = e := by
      simp only [Env.alone, passwordOwner, hu]
      rfl
    rw [halone]
    refine abreast_ask hcurrent (fun _ => h) fun u hok => ?_
    cases hu.symm.trans hok
  | ok user =>
    have halone : e.alone o s (.auth (.change_password credentials payload)) =
        aloneDraws o user.id s e := by
      simp only [Env.alone, passwordOwner, hu]
      rfl
    rw [halone]
    refine abreast_ask hcurrent (fun _ => h) fun u hok => ?_
    obtain rfl : user = u := Except.ok.inj (hu.symm.trans hok)
    split
    · exact h.throw_alone _
    · split
      · exact h.throw_alone _
      · have hwritten := (h.setPassword user.id (Platform.hash_password e.secret payload.new_password)
          e.now).revoke_sessions user.id (e.clock 1)
        exact abreast_write (abreast_write (abreast_write ⟨rfl, hwritten.audit_password honce e user.id⟩))

theorem Share.reset_password_alone (honce : MemberOnce s) (payload : ResetPasswordRequest) :
    AsAlone o (reset_password e payload)
      (reset_password (e.alone o s (.auth (.reset_password payload))) payload) ⟨s, s⟩ ⟨t, t⟩ := by
  have htoken : usableResetToken payload.token (e.clock 1) s =
      usableResetToken payload.token (e.clock 1) t := by
    unfold usableResetToken
    simp only [h.password_reset_tokens, h.user]
  cases hu : usableResetToken payload.token (e.clock 1) s with
  | error failure =>
    have halone : e.alone o s (.auth (.reset_password payload)) = e := by
      simp only [Env.alone, passwordOwner, hu]
      rfl
    rw [halone]
    refine abreast_ask htoken (fun _ => h) fun u hok => ?_
    cases hu.symm.trans hok
  | ok token =>
    have halone : e.alone o s (.auth (.reset_password payload)) = aloneDraws o token.user_id s e := by
      simp only [Env.alone, passwordOwner, hu]
      rfl
    rw [halone]
    refine abreast_ask htoken (fun _ => h) fun u hok => ?_
    obtain rfl : token = u := Except.ok.inj (hu.symm.trans hok)
    have hwritten := ((h.setPassword token.user_id
      (Platform.hash_password e.secret payload.new_password) e.now).useResetToken token.id
      (e.clock 1)).revoke_sessions token.user_id (e.clock 1)
    exact abreast_write (abreast_write (abreast_write (abreast_write
      ⟨rfl, hwritten.audit_password honce e token.user_id⟩)))

theorem Share.register_alone (payload : UserRegister) :
    AsAlone o (register e payload) (register e payload) ⟨s, s⟩ ⟨t, t⟩ := by
  unfold register check_rate_limit
  cases e.retry_after with
  | some seconds => exact Abreast.bind (abreast_throw h)
  | none =>
    refine Abreast.bind (abreast_pure (abreast_attempt ?_ (fun _ => h) ?_
      fun _ _ _ => h.rollback_alone _))
    · show (insertUser _ s).map _ = (insertUser _ t).map _
      unfold insertUser
      rw [h.users]
      split
      · split <;> rfl
      · rfl
    · intro x y hx hy
      unfold insertUser at hx hy
      split at hx
      · rw [if_pos ‹_›] at hy
        split at hx
        · cases hx
        · split at hy
          · cases hy
          · obtain rfl := Except.ok.inj hx
            obtain rfl := Except.ok.inj hy
            exact abreast_commit (abreast_pure (h.addUser _))
      · cases hx

theorem Share.login_alone (payload : UserLogin) :
    AsAlone o (login e payload) (login e payload) ⟨s, s⟩ ⟨t, t⟩ := by
  unfold login check_rate_limit
  cases e.retry_after with
  | some seconds => exact Abreast.bind (abreast_throw h)
  | none =>
    refine Abreast.bind (abreast_pure (abreast_select ?_ fun found _ => ?_))
    · show verifyLogin payload s = verifyLogin payload t
      unfold verifyLogin findUserByEmail
      rw [h.users]
    · cases found with
      | none => exact abreast_write (abreast_commit (abreast_throw (h.addAudit _)))
      | some user =>
        have hwritten := h.addRefreshToken (new_refresh_token e user.id)
        exact Abreast.bind (abreast_write (abreast_pure (abreast_commit (abreast_pure hwritten))))

theorem Share.refresh_token (raw : Text) : findRefreshToken raw s = findRefreshToken raw t := by
  unfold findRefreshToken
  rw [h.refresh_tokens]

theorem Share.refresh_alone (raw : Option Text) :
    AsAlone o (refresh_access_token e raw) (refresh_access_token e raw) ⟨s, s⟩ ⟨t, t⟩ := by
  unfold refresh_access_token check_rate_limit
  cases e.retry_after with
  | some seconds => exact Abreast.bind (abreast_throw h)
  | none =>
    refine Abreast.bind (abreast_pure ?_)
    cases presentCookie raw with
    | none => exact h.throw_alone _
    | some raw =>
      refine abreast_select (h.refresh_token raw) fun found _ => ?_
      cases found with
      | none => exact h.rollback_alone _
      | some row =>
        dsimp only
        split
        · exact abreast_write (abreast_commit (abreast_throw (h.revoke_sessions _ _)))
        · refine h.ask_alone (h.user row.user_id) fun user _ => ?_
          split
          · exact abreast_write (abreast_commit (abreast_throw (h.updateSession _ _)))
          · have hwritten := (h.updateSession row.id fun r => { r with
              last_used_at := some (e.clock 1), revoked_at := some (e.clock 1) }).addRefreshToken
              (new_refresh_token e user.id)
            exact abreast_write (Abreast.bind (abreast_write (abreast_pure
              (abreast_commit (abreast_pure hwritten)))))

theorem Share.logout_alone (raw : Option Text) :
    AsAlone o (logout e raw) (logout e raw) ⟨s, s⟩ ⟨t, t⟩ := by
  unfold logout
  cases presentCookie raw with
  | none => exact h.pure_alone _
  | some raw =>
    refine abreast_select (h.refresh_token raw) fun found _ => ?_
    cases found with
    | none => exact ⟨rfl, h⟩
    | some row =>
      dsimp only
      split
      · exact abreast_write ⟨rfl, h.updateSession _ _⟩
      · exact ⟨rfl, h⟩

theorem Share.forgot_password_alone (email : Text) :
    AsAlone o (forgot_password e email) (forgot_password e email) ⟨s, s⟩ ⟨t, t⟩ := by
  unfold forgot_password
  refine select_alone ?_ fun found _ => ?_
  · unfold findUserByEmail
    rw [h.users]
  · cases found with
    | none => exact h.pure_alone _
    | some user => exact abreast_write (abreast_commit (abreast_pure (h.replaceResetTokens _ _ _)))

omit [Platform] in
theorem Share.revoke_session_alone (credentials : Option Bearer) (session_id : UUID) :
    AsAlone o (revoke_session e credentials session_id) (revoke_session e credentials session_id)
      ⟨s, s⟩ ⟨t, t⟩ := by
  unfold revoke_session
  refine h.ask_alone (h.current_user credentials e.now) fun user _ => ?_
  refine select_alone ?_ fun found _ => ?_
  · unfold findSession
    rw [h.refresh_tokens]
  · cases found with
    | none => exact h.throw_alone _
    | some row =>
      dsimp only
      split
      · exact abreast_write ⟨rfl, h.updateSession _ _⟩
      · exact h.pure_alone _

/-- Requests of accounts, with the draws of the organization alone. -/
theorem Share.auth_alone (honce : MemberOnce s) (r : AuthRequest) :
    AsAlone o (auth_handler e r) (auth_handler (e.alone o s (.auth r)) r) ⟨s, s⟩ ⟨t, t⟩ := by
  cases r <;> refine AsAlone.answer _ ?_
  case register payload => exact h.register_alone e payload
  case login payload => exact h.login_alone e payload
  case refresh raw => exact h.refresh_alone e raw
  case logout raw => exact h.logout_alone e raw
  case change_password credentials payload => exact h.change_password_alone e honce credentials payload
  case forgot_password email => exact h.forgot_password_alone e email
  case reset_password payload => exact h.reset_password_alone e honce payload
  case logout_all credentials =>
    exact h.ask_alone (h.current_user credentials e.now) fun user _ =>
      abreast_write ⟨rfl, h.revoke_sessions _ _⟩
  case list_sessions credentials =>
    refine h.ask_alone (h.current_user credentials e.now) fun user _ => abreast_last_select ?_ h
    show orderDesc _ (openSessions user.id (e.clock 1) s) =
      orderDesc _ (openSessions user.id (e.clock 1) t)
    unfold openSessions
    rw [h.refresh_tokens]
  case revoke_session credentials session_id => exact h.revoke_session_alone e credentials session_id
  case get_me credentials => exact abreast_last_ask (h.current_user credentials e.now) fun _ => h

end

end pulseforge

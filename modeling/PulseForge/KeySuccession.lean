-- One API key after another: each rotation replaces the key that the last one
-- made. It reads the stored row, and checks it as the payload of a creation; but
-- a name is measured before it is stripped and the stripped one is stored, and an
-- expiry is taken that cannot be read back.
import PulseForge.KeyTransactions
import PulseForge.Loading
import PulseForge.StoredRows

open txn table

namespace pulseforge

variable [Platform]

/-! ## Rotations of a live key -/

/-- A request to rotate a key: who signed it, and the draws of its process. -/
structure Rotation where
  env : Env
  credentials : Option Bearer
  user : User

def Rotation.request (c : Rotation) (key : ApiKey) : Request :=
  .tenant c.credentials (.rotate_api_key key.id)

def Rotation.store (c : Rotation) (key : ApiKey) (s : Store) : Store :=
  loading.serve s (c.env, c.request key)

/-- An owner asks, and the key is not expired when it is looked at. -/
structure Rotation.Allowed (c : Rotation) (key : ApiKey) (s : Store) : Prop where
  fresh : Fresh c.env s
  signed : get_current_user c.credentials c.env.now s = .ok c.user
  owner : ∃ m, findMembership s key.organization_id c.user.id = some m ∧ m.role = .OWNER
  checked : is_expired key.expires_at (c.env.clock 1) = false
  validated : is_expired key.expires_at (c.env.clock 3) = false

/-- The key is revoked, and one new key stands for it. -/
structure Rotation.Succeeds (c : Rotation) (key : ApiKey) (s : Store) (new_key : ApiKey) : Prop where
  reply : ∃ raw_key, (loading.handle c.env (c.request key) s).1 =
    .ok (.api_key_created ⟨new_key.response, raw_key⟩)
  keys : (c.store key s).api_keys = (revokeKey key.id (c.env.clock 2) s).api_keys ++ [new_key]
  live : new_key.revoked_at = none
  organization : new_key.organization_id = key.organization_id
  service : new_key.service_id = key.service_id
  name : new_key.name = key.name
  scopes : new_key.scopes = key.scopes
  expires_at : new_key.expires_at = key.expires_at

/-- The rotations succeed in turn, each of the key that the one before it made, as
long as they are allowed. -/
def RotateInTurn : List Rotation → ApiKey → Store → Prop
  | [], _, _ => True
  | c :: later, key, s =>
    c.Allowed key s → ∃ new_key, c.Succeeds key s new_key ∧ RotateInTurn later new_key (c.store key s)

/-! ## The checks of a rotation -/

section
variable {s : Store} {key : ApiKey}

omit [Platform] in
/-- A member finds the row with its id. -/
theorem resource_ok {α : Type} [TenantTable α] {r : α} {user_id : UUID}
    (hids : UniqueOn TenantTable.id (TenantTable.rows s : List α)) (hr : r ∈ TenantTable.rows s)
    (hm : isMember s (TenantTable.organization_id r) user_id = true) :
    get_tenant_resource_or_404 α (TenantTable.id r) user_id s = .ok r := by
  have hfind : findTenantResource α (TenantTable.id r) user_id s = some r := by
    refine find?_eq_of_unique hr (by simp [hm]) fun a ha hp => ?_
    simp only [Bool.and_eq_true, decide_eq_true_eq] at hp
    exact hids.eq ha hr hp.1
  unfold get_tenant_resource_or_404
  rw [hfind]

omit [Platform] in
theorem owner_manages_keys {organization_id user_id : UUID} {m : OrganizationMember}
    (h : findMembership s organization_id user_id = some m) (howner : m.role = .OWNER) :
    require_permission .API_KEY_MANAGE organization_id user_id s = .ok m := by
  unfold require_permission get_membership_or_404
  rw [h]
  simp only [howner]
  rfl

/-- Nothing but the validation of the stored row is left of the checks. -/
theorem rotationCheck_of_allowed {c : Rotation} (hs : Reachable s) (hkey : key ∈ s.api_keys)
    (hlive : key.revoked_at = none) (hc : c.Allowed key s) :
    ∃ service ∈ s.services, service.id = key.service_id ∧
      service.organization_id = key.organization_id ∧
      rotationCheck c.env key.id c.user.id s =
        (ApiKeyCreate.validate key.name key.scopes key.expires_at (c.env.clock 3)).map
          fun payload => (key, service, payload) := by
  obtain ⟨m, hfind, hrole⟩ := hc.owner
  obtain ⟨service, hmem, hid, horg⟩ := hs.consistent.keys key hkey
  have hmember : isMember s key.organization_id c.user.id = true := by
    rw [isMember_eq, hfind]
    rfl
  have hfound : get_tenant_resource_or_404 ApiKey key.id c.user.id s = .ok key :=
    resource_ok (reachable_keyed hs).key_ids hkey hmember
  have hservice : get_tenant_resource_or_404 Service key.service_id c.user.id s = .ok service := by
    have hreached : isMember s service.organization_id c.user.id = true := by rwa [horg]
    rw [← hid]
    exact resource_ok hs.consistent.service_ids hmem hreached
  refine ⟨service, hmem, hid, horg, ?_⟩
  unfold rotationCheck keyCheck
  rw [hfound]
  simp only [bind, Except.bind, owner_manages_keys hfind hrole, pure, Except.pure, hlive, hc.checked,
    hservice]
  cases ApiKeyCreate.validate key.name key.scopes key.expires_at (c.env.clock 3) <;> rfl

omit [Platform] in
theorem validate_short {name : Text} {scopes : List ApiKeyScope} {expires_at : Option Int} {now : Int}
    (h : name.length < 2) :
    ApiKeyCreate.validate name scopes expires_at now = .error .ValidationError := by
  unfold ApiKeyCreate.validate
  rw [dif_neg]
  omega

/-- A stored row is a valid payload, but for the length of its name. -/
theorem validate_stored (hkey : key.WellFormed) (hlong : 2 ≤ key.name.length) {now : Int}
    (h : is_expired key.expires_at now = false) :
    ∃ payload : ApiKeyCreate, ApiKeyCreate.validate key.name key.scopes key.expires_at now = .ok payload ∧
      payload.name = key.name ∧ payload.scopes = key.scopes ∧ payload.expires_at = key.expires_at := by
  unfold ApiKeyCreate.validate
  rw [dif_pos ⟨⟨hlong, hkey.name_length⟩, hkey.scopes_present, hkey.scopes_unique⟩, h]
  exact ⟨_, rfl, rfl, rfl, rfl⟩

/-! ## One rotation -/

theorem rotate_refused {e : Env} {user : User} {failure : Failure}
    (hcheck : rotationCheck e key.id user.id s = .error failure) :
    runRequest (rotate_api_key e key.id user) s = (.error failure, s) := by
  have hends : Ends (rotate_api_key e key.id user) ⟨s, s⟩
      fun r s' => (r, s'.committed) = (.error failure, s) := by
    refine rotate_ends e key.id user s (fun r t => (r, t) = (.error failure, s)) ?_ ?_ ?_
    · intro failure' h
      cases hcheck.symm.trans h
      rfl
    · intro old_key service payload failure' h
      cases hcheck.symm.trans h
    · intro old_key service payload s' h
      cases hcheck.symm.trans h
  exact hends

theorem rotate_done {e : Env} {user : User} {service : Service} {payload : ApiKeyCreate}
    (hcheck : rotationCheck e key.id user.id s = .ok (key, service, payload))
    (hstorable : Platform.storable_text (new_api_key e service payload).name = true) :
    runRequest (rotate_api_key e key.id user) s =
      (.ok ⟨(new_api_key e service payload).response,
        create_raw_key e (service.environment = .PRODUCTION)⟩,
        commitRotation e key service payload user.id s) := by
  have hends : Ends (rotate_api_key e key.id user) ⟨s, s⟩ fun r s' => (r, s'.committed) =
      (.ok ⟨(new_api_key e service payload).response,
        create_raw_key e (service.environment = .PRODUCTION)⟩,
        commitRotation e key service payload user.id s) := by
    refine rotate_ends e key.id user s (fun r t => (r, t) = _) ?_ ?_ ?_
    · intro failure h
      cases hcheck.symm.trans h
    · intro old_key service' payload' failure h hins
      cases hcheck.symm.trans h
      simp [insertApiKey, hstorable] at hins
    · intro old_key service' payload' s' h _
      cases hcheck.symm.trans h
      rfl
  exact hends

/-- The request comes to its handler. -/
theorem rotation_handled {c : Rotation} (hc : c.Allowed key s) {reply : Except Failure ApiKeyCreatedResponse}
    {t : Store} (h : runRequest (loading.rotate_api_key c.env key.id c.user) s = (reply, t)) :
    loading.handle c.env (c.request key) s = (reply.map .api_key_created, t) := by
  have hends : Ends (loading.handler c.env (c.request key)) ⟨s, s⟩
      fun r s' => (r, s'.committed) = (reply.map .api_key_created, t) := by
    unfold loading.handler Rotation.request
    simp only [ends_bind, ends_ask, hc.signed]
    unfold loading.tenant_handler
    rw [ends_answer]
    exact congrArg (fun end_ => (end_.1.map Body.api_key_created, end_.2)) h
  exact hends

/-- The owner finds the row of the key. -/
theorem rotation_found {c : Rotation} (hs : Reachable s) (hkey : key ∈ s.api_keys)
    (hc : c.Allowed key s) : get_tenant_resource_or_404 ApiKey key.id c.user.id s = .ok key := by
  obtain ⟨m, hfind, _⟩ := hc.owner
  refine resource_ok (reachable_keyed hs).key_ids hkey ?_
  show isMember s key.organization_id c.user.id = true
  rw [isMember_eq, hfind]
  rfl

/-- Where the row can be read, the rotation is the one over rows that all can be. -/
theorem rotation_loaded {c : Rotation} (hs : Reachable s) (hkey : key ∈ s.api_keys)
    (hc : c.Allowed key s) (hloads : loads key = true) :
    runRequest (loading.rotate_api_key c.env key.id c.user) s =
      runRequest (rotate_api_key c.env key.id c.user) s := by
  unfold runRequest
  rw [loading.rotate_loaded c.env (rotation_found hs hkey hc) hloads]

theorem rotation_unread {c : Rotation} (hs : Reachable s) (hkey : key ∈ s.api_keys)
    (hc : c.Allowed key s) (hloads : loads key = false) :
    (loading.handle c.env (c.request key) s).1 = .error .DataError := by
  have hraises : runRequest (loading.rotate_api_key c.env key.id c.user) s = (.error .DataError, s) := by
    unfold runRequest
    rw [loading.rotate_unread c.env (rotation_found hs hkey hc) hloads]
  rw [rotation_handled hc hraises]
  rfl

theorem rotation_refused {c : Rotation} (hs : Reachable s) (hkey : key ∈ s.api_keys)
    (hlive : key.revoked_at = none) (hc : c.Allowed key s) (hloads : loads key = true)
    (hshort : key.name.length < 2) :
    (loading.handle c.env (c.request key) s).1 = .error .ValidationError := by
  obtain ⟨service, _, _, _, hcheck⟩ := rotationCheck_of_allowed hs hkey hlive hc
  rw [validate_short hshort] at hcheck
  rw [rotation_handled hc ((rotation_loaded hs hkey hc hloads).trans (rotate_refused hcheck))]
  rfl

theorem rotation_succeeds {c : Rotation} (hs : Reachable s) (hkey : key ∈ s.api_keys)
    (hlive : key.revoked_at = none) (hc : c.Allowed key s) (hlong : 2 ≤ key.name.length)
    (hloads : loads key = true) :
    ∃ new_key, c.Succeeds key s new_key ∧ Reachable (c.store key s) := by
  have hrow := (reachable_stored_rows hs).keys key hkey
  obtain ⟨service, _, hid, horg, hcheck⟩ := rotationCheck_of_allowed hs hkey hlive hc
  obtain ⟨payload, hvalid, hname, hscopes, hexpires⟩ := validate_stored hrow hlong hc.validated
  rw [hvalid] at hcheck
  have hstripped : (new_api_key c.env service payload).name = key.name := by
    show strip payload.name = key.name
    rw [hname, hrow.stripped]
  have hdone := rotate_done hcheck (by rw [hstripped, hrow.storable])
  have hhandled := rotation_handled hc ((rotation_loaded hs hkey hc hloads).trans hdone)
  refine ⟨new_api_key c.env service payload, ?_, ?_⟩
  swap
  · exact loading.served hs hc.fresh _
  constructor
  · exact ⟨_, congrArg Prod.fst hhandled⟩
  · exact congrArg (fun end_ => end_.2.api_keys) hhandled
  · rfl
  · exact horg
  · exact hid
  · exact hstripped
  · exact hscopes
  · exact hexpires

/-! ## One rotation after another -/

/-- The new key is a key of the store that the rotation leaves, and can be rotated in turn. -/
theorem rotations_go_on (later : List Rotation) (hs : Reachable s) (hkey : key ∈ s.api_keys)
    (hlive : key.revoked_at = none) (hlong : 2 ≤ key.name.length) (hloads : loads key = true) :
    RotateInTurn later key s := by
  induction later generalizing key s with
  | nil => trivial
  | cons c later ih =>
    intro hc
    obtain ⟨new_key, hnew, hreachable⟩ := rotation_succeeds hs hkey hlive hc hlong hloads
    refine ⟨new_key, hnew, ih hreachable ?_ hnew.live ?_ ?_⟩
    · show new_key ∈ (c.store key s).api_keys
      rw [hnew.keys]
      exact List.mem_append_right _ (List.mem_singleton_self _)
    · rwa [hnew.name]
    · show new_key.expires_at.all inCalendar = true
      rw [hnew.expires_at]
      exact hloads

end

/-- In every reachable database, a live key can be rotated, and what replaces it
in turn any number of times, exactly if the name that is stored of it has two
characters left and its expiry can be read back. -/
theorem live_keys_rotate_iff_their_rows_are_read_and_fit {s : Store} (hs : Reachable s) {key : ApiKey}
    (hkey : key ∈ s.api_keys) (hlive : key.revoked_at = none) (c : Rotation) (hc : c.Allowed key s)
    (later : List Rotation) :
    RotateInTurn (c :: later) key s ↔ 2 ≤ key.name.length ∧ key.expires_at.all inCalendar = true := by
  refine ⟨fun h => ?_, fun h => rotations_go_on (c :: later) hs hkey hlive h.1 h.2⟩
  obtain ⟨new_key, hnew, _⟩ := h hc
  obtain ⟨raw_key, hreply⟩ := hnew.reply
  cases hloads : loads key with
  | false =>
    rw [rotation_unread hs hkey hc hloads] at hreply
    cases hreply
  | true =>
    refine ⟨?_, hloads⟩
    by_contra hshort
    rw [rotation_refused hs hkey hlive hc hloads (by omega)] at hreply
    cases hreply

/-! ## A name that is stripped to one character -/

/-- The creation counts the blank. -/
def blankName : ApiKeyCreate where
  name := " a".toList
  scopes := [.EVENTS_WRITE]
  expires_at := none
  name_length := by decide
  scopes_present := sampleKey.scopes_present
  scopes_unique := sampleKey.scopes_unique

/-- The service of the sample run gets a key. -/
def newKeyRun (payload : ApiKeyCreate) : List (Env × Request) :=
  (sampleEnv 4, .tenant (sampleBearer 0 1) (.create_service_api_key 30 payload)) :: sampleRun.drop 6

def newKeyRow (payload : ApiKeyCreate) : ApiKey :=
  @new_api_key samplePlatform (sampleEnv 4) soldService payload

def sampleRotation (n : Nat) : Rotation := ⟨sampleEnv n, sampleBearer 0 1, sampleMember⟩

omit [Platform] in
/-- The owner of the sample run rotates a key that does not expire. -/
theorem sampleRotation_allowed {payload : ApiKeyCreate} {s : Store} (hids : ∀ id ∈ s.ids, id < 50)
    (hsigned : get_current_user (sampleBearer 0 1) (5 * SECOND) s = .ok sampleMember)
    (howner : findMembership s 20 0 = some ⟨21, 20, 0, .OWNER, 2 * SECOND⟩)
    (hexpires : payload.expires_at = none) :
    (sampleRotation 5).Allowed (newKeyRow payload) s where
  fresh := sample_fresh 5 s hids
  signed := hsigned
  owner := ⟨_, howner, rfl⟩
  checked := by simp [newKeyRow, new_api_key, hexpires, is_expired]
  validated := by simp [newKeyRow, new_api_key, hexpires, is_expired]

omit [Platform] in
theorem a_key_is_rotated_twice :
    let s := run.after (@loading.serve samplePlatform) Store.empty (newKeyRun sampleKey)
    @RotateInTurn samplePlatform [sampleRotation 5, sampleRotation 6] (newKeyRow sampleKey) s := by
  intro s
  have hreachable : @Reachable samplePlatform s :=
    ⟨newKeyRun sampleKey, fresh_of_drawsInOrder [4, 3, 2, 1, 0] rfl (by decide +kernel), rfl⟩
  have hallowed : (sampleRotation 5).Allowed (newKeyRow sampleKey) s :=
    sampleRotation_allowed (by decide +kernel) (by decide +kernel) (by decide +kernel) rfl
  exact (@live_keys_rotate_iff_their_rows_are_read_and_fit samplePlatform s hreachable
    (newKeyRow sampleKey) (by decide +kernel) rfl (sampleRotation 5) hallowed
    [sampleRotation 6]).mpr (by decide)

omit [Platform] in
/-- The stored name fails the check that the payload of the creation passed. -/
theorem a_stripped_name_cannot_be_rotated :
    let s := run.after (@loading.serve samplePlatform) Store.empty (newKeyRun blankName)
    @Reachable samplePlatform s ∧ newKeyRow blankName ∈ s.api_keys ∧
      (newKeyRow blankName).revoked_at = none ∧
      (sampleRotation 5).Allowed (newKeyRow blankName) s ∧
      (@loading.handle samplePlatform (sampleEnv 5) (.tenant (sampleBearer 0 1) (.rotate_api_key 40)) s).1 =
        .error .ValidationError ∧
      ¬ @RotateInTurn samplePlatform [sampleRotation 5] (newKeyRow blankName) s := by
  intro s
  have hreachable : @Reachable samplePlatform s :=
    ⟨newKeyRun blankName, fresh_of_drawsInOrder [4, 3, 2, 1, 0] rfl (by decide +kernel), rfl⟩
  have hmem : newKeyRow blankName ∈ s.api_keys := by decide +kernel
  have hallowed : (sampleRotation 5).Allowed (newKeyRow blankName) s :=
    sampleRotation_allowed (by decide +kernel) (by decide +kernel) (by decide +kernel) rfl
  have hrefused := @rotation_refused samplePlatform s (newKeyRow blankName) (sampleRotation 5)
    hreachable hmem rfl hallowed (by decide) (by decide)
  refine ⟨hreachable, hmem, rfl, hallowed, hrefused, fun h => ?_⟩
  obtain ⟨new_key, hnew, _⟩ := h hallowed
  obtain ⟨raw_key, hreply⟩ := @Rotation.Succeeds.reply samplePlatform _ _ _ _ hnew
  cases hrefused.symm.trans hreply

end pulseforge

-- The registry of services and keys, as the answers of the API tell it. A client
-- that reads no table and only keeps the requests and their answers knows every
-- service as it is, and of every key all that the check of an ingest looks at.
import PulseForge.FailedRequests
import PulseForge.SessionMoves

open txn table

namespace pulseforge

/-! ## What the answers tell -/

/-- A key as it was shown when it was made, and whether it was revoked since. -/
structure KnownKey where
  created : ApiKeyCreatedResponse
  revoked : Bool

structure Known where
  services : List Service
  keys : List KnownKey

def Known.nothing : Known := ⟨[], []⟩

/-- The known keys after a revocation. -/
def markRevoked (api_key_id : UUID) (keys : List KnownKey) : List KnownKey :=
  updateWhere (fun k => k.created.public_fields.id = api_key_id) (fun k => { k with revoked := true }) keys

/-- What a request and its answer add to what is known. -/
def Known.observe (known : Known) : Request × Except Failure Body → Known
  | (.tenant _ (.create_service _), .ok (.service service)) =>
    { known with services := known.services ++ [service] }
  | (.tenant _ (.update_service _ _), .ok (.service service)) =>
    { known with services := updateWhere (fun v => v.id = service.id) (fun _ => service) known.services }
  | (.tenant _ (.delete_service service_id), .ok _) =>
    { services := known.services.filter fun v => v.id ≠ service_id
      keys := known.keys.filter fun k => k.created.public_fields.service_id ≠ service_id }
  | (.tenant _ (.create_service_api_key _ _), .ok (.api_key_created created)) =>
    { known with keys := known.keys ++ [⟨created, false⟩] }
  | (.tenant _ (.revoke_api_key api_key_id), .ok _) =>
    { known with keys := markRevoked api_key_id known.keys }
  | (.tenant _ (.rotate_api_key api_key_id), .ok (.api_key_created created)) =>
    { known with keys := markRevoked api_key_id known.keys ++ [⟨created, false⟩] }
  | _ => known

theorem observe_error (known : Known) (r : Request) (failure : Failure) :
    known.observe (r, .error failure) = known := by
  cases r with
  | auth r => rfl
  | tenant credentials r => cases r <;> rfl
  | ingest credentials payload => rfl

variable [Platform]

/-- The requests of a past with their answers, the newest first. -/
def transcript : List (Env × Request) → List (Request × Except Failure Body)
  | [] => []
  | (e, r) :: past => (r, (handle e r (run.after serve Store.empty past)).1) :: transcript past

/-- What a transcript tells. -/
def replay : List (Request × Except Failure Body) → Known := run.after Known.observe Known.nothing

/-! ## What the tables hold of it -/

/-- What the check of an ingest looks at. -/
structure KeyFacts where
  id : UUID
  service_id : UUID
  key_hash : Text
  expires_at : Option Int
  revoked : Bool
  deriving DecidableEq

def ApiKey.facts (k : ApiKey) : KeyFacts :=
  ⟨k.id, k.service_id, k.key_hash, k.expires_at, k.revoked_at.isSome⟩

def KnownKey.facts (k : KnownKey) : KeyFacts :=
  ⟨k.created.public_fields.id, k.created.public_fields.service_id, hash_api_key k.created.api_key,
    k.created.public_fields.expires_at, k.revoked⟩

structure Tells (known : Known) (s : Store) : Prop where
  services : s.services = known.services
  keys : s.api_keys.map ApiKey.facts = known.keys.map KnownKey.facts

/-- A key with these facts is revoked. -/
def KeyFacts.revoke (x : KeyFacts) : KeyFacts := { x with revoked := true }

theorem facts_markRevoked (api_key_id : UUID) (keys : List KnownKey) :
    (markRevoked api_key_id keys).map KnownKey.facts =
      updateWhere (fun x => x.id = api_key_id) KeyFacts.revoke (keys.map KnownKey.facts) := by
  unfold markRevoked
  refine map_updateWhere_comm ?_ ?_ keys
  · exact fun _ => rfl
  · exact fun _ => rfl

omit [Platform] in
theorem facts_revokeKey (api_key_id : UUID) (now : Int) (s : Store) :
    (revokeKey api_key_id now s).api_keys.map ApiKey.facts =
      updateWhere (fun x => x.id = api_key_id) KeyFacts.revoke (s.api_keys.map ApiKey.facts) := by
  unfold revokeKey
  refine map_updateWhere_comm ?_ ?_ s.api_keys
  · exact fun _ => rfl
  · exact fun _ => rfl

omit [Platform] in
theorem facts_touchApiKey (api_key_id : UUID) (now : Int) (s : Store) :
    (touchApiKey api_key_id now s).api_keys.map ApiKey.facts = s.api_keys.map ApiKey.facts := by
  refine map_updateWhere ?_
  exact fun _ _ _ => rfl

section
variable {e : Env} {user : User} {s : Store}

/-! ## The requests that write services and keys -/

theorem create_service_yields (payload : ServiceCreate) :
    Yields (create_service e payload user) ⟨s, s⟩ fun service s' =>
      s'.committed.services = s.services ++ [service] ∧ s'.committed.api_keys = s.api_keys := by
  unfold create_service
  refine yields_ask fun actor _ => ?_
  refine yields_attempt (fun w hw => ?_) (yields_rollback_throw _)
  refine yields_write (yields_commit (yields_pure ?_))
  unfold insertService at hw
  split at hw
  · split at hw
    · cases hw
    · cases hw
      exact ⟨rfl, rfl⟩
  · cases hw

theorem update_service_yields (service_id : UUID) (payload : ServiceUpdate) :
    Yields (update_service e service_id payload user) ⟨s, s⟩ fun service s' =>
      s'.committed.services = updateWhere (fun v => v.id = service.id) (fun _ => service) s.services ∧
        s'.committed.api_keys = s.api_keys := by
  unfold update_service
  refine yields_ask fun service _ => yields_ask fun actor _ => yields_ask fun name _ => ?_
  split
  · exact yields_rollback_throw _
  · exact yields_throw _
  · refine yields_attempt (fun w hw => ?_) (yields_rollback_throw _)
    refine yields_commit (yields_pure ?_)
    unfold updateServiceRow at hw
    split at hw
    · split at hw
      · cases hw
      · cases hw
        exact ⟨rfl, rfl⟩
    · cases hw

omit [Platform] in
theorem delete_service_yields (service_id : UUID) :
    Yields (delete_service service_id user) ⟨s, s⟩ fun _ s' =>
      s'.committed = deleteService service_id s := by
  unfold delete_service
  refine yields_ask fun service hv => yields_ask fun actor _ => yields_write ?_
  rintro _ ⟨⟩
  exact congrArg (deleteService · s) (resource_of_ok hv).2.1

theorem issue_api_key_yields (service : Service) (payload : ApiKeyCreate) (user_id : UUID)
    (action : AuditAction) (metadata : Metadata) (t : Session Store) :
    Yields (issue_api_key e service payload user_id action metadata) t fun created s' =>
      s'.committed.services = t.work.services ∧
        s'.committed.api_keys.map ApiKey.facts =
          t.work.api_keys.map ApiKey.facts ++ [(⟨created, false⟩ : KnownKey).facts] := by
  unfold issue_api_key
  refine yields_flush fun w hw => yields_write (yields_commit (yields_pure ?_))
  unfold insertApiKey at hw
  split at hw
  · cases hw
    refine ⟨rfl, ?_⟩
    show (t.work.api_keys ++ [new_api_key e service payload]).map ApiKey.facts = _
    rw [List.map_append]
    rfl
  · cases hw

theorem create_service_api_key_yields (service_id : UUID) (payload : ApiKeyCreate) :
    Yields (create_service_api_key e service_id payload user) ⟨s, s⟩ fun created s' =>
      s'.committed.services = s.services ∧
        s'.committed.api_keys.map ApiKey.facts =
          s.api_keys.map ApiKey.facts ++ [(⟨created, false⟩ : KnownKey).facts] := by
  unfold create_service_api_key
  refine yields_ask fun service _ => yields_ask fun actor _ => ?_
  exact issue_api_key_yields service payload user.id _ _ _

theorem rotate_api_key_yields (api_key_id : UUID) :
    Yields (rotate_api_key e api_key_id user) ⟨s, s⟩ fun created s' =>
      s'.committed.services = s.services ∧
        s'.committed.api_keys.map ApiKey.facts =
          updateWhere (fun x => x.id = api_key_id) KeyFacts.revoke (s.api_keys.map ApiKey.facts) ++
            [(⟨created, false⟩ : KnownKey).facts] := by
  unfold rotate_api_key
  refine yields_ask fun old_key hk => yields_ask fun actor _ => ?_
  obtain rfl : old_key.id = api_key_id := (resource_of_ok hk).2.1
  split
  · exact yields_throw _
  · split
    · exact yields_throw _
    · refine yields_ask fun service _ => yields_write (yields_ask fun payload _ => ?_)
      have hissued := issue_api_key_yields (e := e) service payload user.id .API_KEY_ROTATED
        [("previous_resource_id".toList, .uuid old_key.id)] ⟨s, revokeKey old_key.id (e.clock 2) s⟩
      rwa [facts_revokeKey] at hissued

theorem revoke_api_key_yields (hids : UniqueOn ApiKey.id s.api_keys) (api_key_id : UUID) :
    Yields (revoke_api_key e api_key_id user) ⟨s, s⟩ fun _ s' =>
      s'.committed.services = s.services ∧
        s'.committed.api_keys.map ApiKey.facts =
          updateWhere (fun x => x.id = api_key_id) KeyFacts.revoke (s.api_keys.map ApiKey.facts) := by
  unfold revoke_api_key
  refine yields_ask fun api_key hk => yields_ask fun actor _ => ?_
  obtain ⟨hmem, rfl, _⟩ := resource_of_ok hk
  split
  · refine yields_write (yields_write ?_)
    rintro _ ⟨⟩
    exact ⟨rfl, facts_revokeKey _ _ _⟩
  · rename_i hrevoked
    refine yields_pure ⟨rfl, (updateWhere_fixed fun x hx hid => ?_).symm⟩
    obtain ⟨k, hkmem, rfl⟩ := List.mem_map.mp hx
    obtain rfl : k = api_key := hids.eq hkmem hmem (of_decide_eq_true hid)
    have hsome : k.revoked_at.isSome = true := by
      simpa [← Option.isSome_iff_ne_none] using hrevoked
    simp [ApiKey.facts, KeyFacts.revoke, hsome]

/-! ## One request -/

/-- The requests that write services or keys. -/
def TenantRequest.registers : TenantRequest → Bool
  | .create_service _ | .update_service _ _ | .delete_service _ | .create_service_api_key _ _
  | .revoke_api_key _ | .rotate_api_key _ => true
  | _ => false

omit [Platform] in
theorem observe_other {r : TenantRequest} (hr : r.registers = false) (known : Known)
    (credentials : Option Bearer) (reply : Except Failure Body) :
    known.observe (.tenant credentials r, reply) = known := by
  cases r with
  | create_service | update_service | delete_service | create_service_api_key | revoke_api_key
  | rotate_api_key => cases hr
  | _ => rfl

theorem other_tables {r : TenantRequest} {s' : Store} (hr : r.registers = false)
    (hw : TenantWrite e user s r s') : s'.services = s.services ∧ s'.api_keys = s.api_keys := by
  cases hw with
  | service_created | service_updated | service_deleted | key_created | key_revoked
  | key_rotated => cases hr
  | _ => exact ⟨rfl, rfl⟩

omit [Platform] in
theorem yields_answer {α : Type} {body : α → Body} {h : Handler α} {t : Session Store}
    {P : Body → Session Store → Prop} (hh : Yields h t fun a s' => P (body a) s') :
    Yields (answer body h) t P :=
  hh.bind fun _ _ hP => yields_pure hP

/-- What the handler of an accepted request yields, the request yields. -/
theorem tenant_yields {credentials : Option Bearer} {r : TenantRequest} {P : Body → Store → Prop}
    (h : ∀ user, Yields (tenant_handler e user r) ⟨s, s⟩ fun body s' => P body s'.committed)
    {body : Body} (hreply : (handle e (.tenant credentials r) s).1 = .ok body) :
    P body (handle e (.tenant credentials r) s).2 := by
  have hyields : Yields (handler e (.tenant credentials r)) ⟨s, s⟩ fun body s' => P body s'.committed :=
    yields_ask fun user _ => h user
  exact hyields body hreply

variable {known : Known} (h : Tells known s)
include h

theorem Tells.kept {s' : Store} (hservices : s'.services = s.services)
    (hkeys : s'.api_keys.map ApiKey.facts = s.api_keys.map ApiKey.facts) : Tells known s' :=
  ⟨hservices.trans h.services, hkeys.trans h.keys⟩

/-- A request that is accepted changes the registry as its answer tells. -/
theorem Tells.tenant (hids : UniqueOn ApiKey.id s.api_keys) {credentials : Option Bearer}
    {r : TenantRequest} {body : Body} (hreply : (handle e (.tenant credentials r) s).1 = .ok body) :
    Tells (known.observe (.tenant credentials r, .ok body)) (handle e (.tenant credentials r) s).2 := by
  by_cases hr : r.registers = false
  · rw [observe_other hr]
    rcases tenant_outcome e credentials r s with heq | ⟨user, _, hw⟩
    · rw [heq]
      exact h
    · obtain ⟨hservices, hkeys⟩ := other_tables hr hw
      exact h.kept hservices (by rw [hkeys])
  refine tenant_yields (P := fun body s' => Tells (known.observe (.tenant credentials r, .ok body)) s')
    (fun user => ?_) hreply
  cases r with
  | create_service payload =>
    refine yields_answer ((create_service_yields payload).mono fun reply s' hr service heq => ?_)
    obtain ⟨hservices, hkeys⟩ := hr service heq
    exact ⟨by rw [hservices, h.services]; rfl, by rw [hkeys, h.keys]; rfl⟩
  | update_service service_id payload =>
    refine yields_answer ((update_service_yields service_id payload).mono fun reply s' hr service heq => ?_)
    obtain ⟨hservices, hkeys⟩ := hr service heq
    exact ⟨by rw [hservices, h.services]; rfl, by rw [hkeys, h.keys]; rfl⟩
  | delete_service service_id =>
    refine yields_answer ((delete_service_yields service_id).mono fun reply s' hr _ heq => ?_)
    show Tells (known.observe (.tenant credentials (.delete_service service_id), .ok .no_content)) s'.committed
    rw [hr () heq]
    refine ⟨?_, ?_⟩
    · show s.services.filter _ = known.services.filter _
      rw [h.services]
    · show (s.api_keys.filter _).map ApiKey.facts = (known.keys.filter _).map KnownKey.facts
      have hleft : (s.api_keys.filter fun k => k.service_id ≠ service_id).map ApiKey.facts =
          (s.api_keys.map ApiKey.facts).filter fun x => x.service_id ≠ service_id := by
        rw [List.filter_map]
        rfl
      have hright : (known.keys.filter fun k => k.created.public_fields.service_id ≠ service_id).map
          KnownKey.facts = (known.keys.map KnownKey.facts).filter fun x => x.service_id ≠ service_id := by
        rw [List.filter_map]
        rfl
      rw [hleft, hright, h.keys]
  | create_service_api_key service_id payload =>
    refine yields_answer ((create_service_api_key_yields service_id payload).mono
      fun reply s' hr created heq => ?_)
    obtain ⟨hservices, hkeys⟩ := hr created heq
    refine ⟨by rw [hservices, h.services]; rfl, ?_⟩
    rw [hkeys, h.keys]
    exact (@List.map_append _ _ _ known.keys [⟨created, false⟩]).symm
  | revoke_api_key api_key_id =>
    refine yields_answer ((revoke_api_key_yields hids api_key_id).mono fun reply s' hr _ heq => ?_)
    obtain ⟨hservices, hkeys⟩ := hr () heq
    refine ⟨by rw [hservices, h.services]; rfl, ?_⟩
    rw [hkeys, h.keys]
    exact (facts_markRevoked api_key_id known.keys).symm
  | rotate_api_key api_key_id =>
    refine yields_answer ((rotate_api_key_yields api_key_id).mono fun reply s' hr created heq => ?_)
    obtain ⟨hservices, hkeys⟩ := hr created heq
    refine ⟨by rw [hservices, h.services]; rfl, ?_⟩
    rw [hkeys, h.keys, ← facts_markRevoked]
    exact (@List.map_append _ _ _ (markRevoked api_key_id known.keys) [⟨created, false⟩]).symm
  | _ => exact absurd rfl hr

theorem Tells.step (hids : UniqueOn ApiKey.id s.api_keys) (r : Request) :
    Tells (known.observe (r, (handle e r s).1)) (handle e r s).2 := by
  cases r with
  | auth r =>
    show Tells known _
    have hout := auth_outcome e r s
    generalize (handle e (.auth r) s).1 = reply at hout
    generalize (handle e (.auth r) s).2 = s' at hout ⊢
    cases hout <;> exact h.kept rfl rfl
  | tenant credentials r =>
    cases hreply : (handle e (.tenant credentials r) s).1 with
    | error failure =>
      rw [tenant_failure e credentials r s failure hreply, observe_error]
      exact h
    | ok body => exact h.tenant hids hreply
  | ingest credentials payload =>
    show Tells known _
    rcases ingest_request_outcome e credentials payload s with ⟨_, heq⟩ | ⟨k, reply, _, _, hout⟩
    · rw [heq]
      exact h
    · generalize (handle e (.ingest credentials payload) s).2 = s' at hout ⊢
      cases hout with
      | duplicate => exact h.kept rfl (facts_touchApiKey _ _ _)
      | stored _ _ _ _ _ he =>
        obtain ⟨_, _, rfl⟩ := he.store_eq
        exact h.kept rfl (facts_touchApiKey _ _ _)
      | _ => exact h

end

theorem tells_run {past : List (Env × Request)}
    (hfresh : run.Every serve Store.empty (fun s c => Fresh c.1 s) past) :
    Tells (replay (transcript past)) (run.after serve Store.empty past) := by
  induction past with
  | nil => exact ⟨rfl, rfl⟩
  | cons c past ih =>
    have hids := (reachable_keyed ⟨past, hfresh.1, rfl⟩).key_ids
    exact (ih hfresh.1).step hids c.2

/-! ## Requests that read rows back -/

/-- The requests of a past with their answers, where rows are read back. -/
def loading.transcript : List (Env × Request) → List (Request × Except Failure Body)
  | [] => []
  | (e, r) :: past =>
    (r, (loading.handle e r (run.after loading.serve Store.empty past)).1) :: loading.transcript past

/-- The expiry that a creation of a key asks for, if it does, is in years 1 to 9999 of UTC. -/
def ExpiresInCalendar (r : Request) : Prop :=
  ∀ credentials service_id payload, r = .tenant credentials (.create_service_api_key service_id payload) →
    payload.expires_at.all inCalendar = true

/-- A request that fails after it has committed is an ingest, and tells nothing. -/
theorem Tells.step_loading {known : Known} {s : Store} (h : Tells known s)
    (hids : UniqueOn ApiKey.id s.api_keys) (e : Env) {r : Request} (hr : ExpiresInCalendar r) :
    Tells (known.observe (r, (loading.handle e r s).1)) (loading.handle e r s).2 := by
  rcases loading.handle_cases e r s with
    hsame | ⟨failure, hraises⟩ | ⟨body, failure, _, hbody, hraises⟩
  · rw [hsame]
    exact h.step hids r
  · rw [hraises, observe_error]
    exact h
  · cases r with
    | auth r => exact hbody.elim
    | ingest credentials payload =>
      rw [hraises, observe_error]
      exact h.step (e := e) hids (.ingest credentials payload)
    | tenant credentials r =>
      cases r with
      | create_service_api_key service_id payload =>
        rcases create_ends (e := e) (s := s) credentials service_id payload with
          ⟨failure', hrefused, _⟩ | ⟨_, _, hreply⟩
        · rw [hrefused, observe_error]
          exact h
        · rw [hr credentials service_id payload rfl, hraises] at hreply
          obtain ⟨_, hok⟩ := hreply
          cases hok
      | _ => exact hbody.elim

theorem tells_run_loading {past : List (Env × Request)}
    (hfresh : run.Every loading.serve Store.empty (fun s c => Fresh c.1 s) past)
    (hexpires : ∀ c ∈ past, ExpiresInCalendar c.2) :
    Tells (replay (loading.transcript past)) (run.after loading.serve Store.empty past) := by
  induction past with
  | nil => exact ⟨rfl, rfl⟩
  | cons c past ih =>
    have hids := (reachable_keyed (loading.reachable hfresh.1)).key_ids
    have htells := ih hfresh.1 fun c hc => hexpires c (List.mem_cons_of_mem _ hc)
    exact htells.step_loading hids c.1 (hexpires c List.mem_cons_self)

/-- In every run of the API whose keys are made with an expiry that can be read back,
the services are those that the transcript of the requests and their answers tells, in
its order, and the keys are, too: their ids, services, hashes and expiry times, and
whether they are revoked. -/
theorem the_answers_tell_the_registry (past : List (Env × Request))
    (hfresh : run.Every loading.serve Store.empty (fun s c => Fresh c.1 s) past)
    (hexpires : ∀ c ∈ past, ExpiresInCalendar c.2) :
    let known := replay (loading.transcript past)
    let s := run.after loading.serve Store.empty past
    s.services = known.services ∧ s.api_keys.map ApiKey.facts = known.keys.map KnownKey.facts :=
  ⟨(tells_run_loading hfresh hexpires).services, (tells_run_loading hfresh hexpires).keys⟩

omit [Platform] in
theorem sample_expires_in_calendar : ∀ c ∈ sampleRun, ExpiresInCalendar c.2 := by
  intro c hc credentials service_id payload heq
  unfold sampleRun at hc
  simp only [List.mem_cons, List.not_mem_nil, or_false] at hc
  rcases hc with rfl | rfl | rfl | rfl | rfl | rfl | rfl | rfl | rfl | rfl
  case inr.inr.inr.inr.inr.inl =>
    cases heq
    rfl
  all_goals cases heq

omit [Platform] in
theorem the_sample_registry_is_told :
    let s := run.after (@loading.serve samplePlatform) Store.empty sampleRun
    let known := replay (@loading.transcript samplePlatform sampleRun)
    known.services = [soldService] ∧ s.services = [soldService] ∧
      s.api_keys.map ApiKey.facts = known.keys.map (@KnownKey.facts samplePlatform) ∧
      known.keys.length = 1 := by
  intro s known
  have hlaw := @the_answers_tell_the_registry samplePlatform sampleRun sample_run_fresh
    sample_expires_in_calendar
  have hknown : known.services = [soldService] := by decide +kernel
  exact ⟨hknown, hlaw.1.trans hknown, hlaw.2, by decide +kernel⟩

end pulseforge

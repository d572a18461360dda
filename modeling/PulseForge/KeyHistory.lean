-- Which raw keys an ingest is taken with, as the answers of the API tell it: those
-- that an answer has shown and no later one has revoked, rotated away or deleted,
-- as long as they have not expired and their service is not disabled.
import PulseForge.Registry
import PulseForge.StoredRows

open txn table

namespace pulseforge

variable [Platform]

/-! ## Raw keys -/

/-- The raw key of every issued answer is new among those that are known. -/
def NewRawKeys : List (Env × Request) → Prop
  | [] => True
  | (e, _) :: past => NewRawKeys past ∧
      ∀ k ∈ (replay (transcript past)).keys, ∀ production, k.created.api_key ≠ create_raw_key e production

instance decidableNewRawKeys : (past : List (Env × Request)) → Decidable (NewRawKeys past)
  | [] => .isTrue trivial
  | (_, _) :: past =>
    haveI := decidableNewRawKeys past
    inferInstanceAs (Decidable (_ ∧ _))

/-- The text begins like a key of the API. -/
def hasKeyPrefix (raw : Text) : Bool :=
  "pf_live_".toList.isPrefixOf raw || "pf_test_".toList.isPrefixOf raw

/-- What is known of raw keys: they look like keys, and no two are the same. -/
structure RawKeys (keys : List KnownKey) : Prop where
  prefixed : ∀ k ∈ keys, hasKeyPrefix k.created.api_key = true
  apart : UniqueOn (fun k => k.created.api_key) keys

omit [Platform] in
theorem create_raw_key_prefixed (e : Env) (production : Bool) :
    hasKeyPrefix (create_raw_key e production) = true := by
  unfold hasKeyPrefix create_raw_key
  cases production <;> simp [List.isPrefixOf]

section
variable {keys : List KnownKey} (h : RawKeys keys)
include h

omit [Platform] in
theorem RawKeys.mark (api_key_id : UUID) : RawKeys (markRevoked api_key_id keys) where
  prefixed := forall_updateWhere h.prefixed fun k hk _ => h.prefixed k hk
  apart := h.apart.update fun _ _ _ => rfl

omit [Platform] in
theorem RawKeys.filter (p : KnownKey → Bool) : RawKeys (keys.filter p) where
  prefixed k hk := h.prefixed k (List.mem_of_mem_filter hk)
  apart := h.apart.filter p

omit [Platform] in
theorem RawKeys.add {e : Env} {created : ApiKeyCreatedResponse} {production : Bool}
    (hraw : created.api_key = create_raw_key e production)
    (hnew : ∀ k ∈ keys, ∀ production, k.created.api_key ≠ create_raw_key e production) :
    RawKeys (keys ++ [⟨created, false⟩]) where
  prefixed := forall_insert h.prefixed (hraw ▸ create_raw_key_prefixed e production)
  apart := h.apart.insert fun k hk => hraw ▸ hnew k hk production

end

section
variable {e : Env} {user : User} {s : Store}

/-- The answer shows a raw key that the request drew. -/
def ShowsRawKey (e : Env) (created : ApiKeyCreatedResponse) : Prop :=
  ∃ production, created.api_key = create_raw_key e production

theorem issue_api_key_shows (service : Service) (payload : ApiKeyCreate) (user_id : UUID)
    (action : AuditAction) (metadata : Metadata) (t : Session Store) :
    Yields (issue_api_key e service payload user_id action metadata) t
      fun created _ => ShowsRawKey e created := by
  unfold issue_api_key
  exact yields_flush fun w _ => yields_write (yields_commit (yields_pure ⟨_, rfl⟩))

/-- A handler that issues a key, as the whole request. -/
theorem issued_shows {credentials : Option Bearer} {r : TenantRequest}
    {k : User → Handler ApiKeyCreatedResponse} {created : ApiKeyCreatedResponse}
    (hk : ∀ user, tenant_handler e user r = answer .api_key_created (k user))
    (hyields : ∀ user, Yields (k user) ⟨s, s⟩ fun created _ => ShowsRawKey e created)
    (hreply : (handle e (.tenant credentials r) s).1 = .ok (.api_key_created created)) :
    ShowsRawKey e created := by
  have hbody : ∀ user, Yields (tenant_handler e user r) ⟨s, s⟩
      fun body _ => ∀ c, body = .api_key_created c → ShowsRawKey e c := by
    intro user
    rw [hk user]
    refine yields_answer ((hyields user).mono fun reply s' hr c hc c' heq => ?_)
    cases heq
    exact hr c hc
  exact tenant_yields (P := fun body _ => ∀ c, body = .api_key_created c → ShowsRawKey e c) hbody
    hreply created rfl

theorem create_key_shows (service_id : UUID) (payload : ApiKeyCreate) :
    Yields (create_service_api_key e service_id payload user) ⟨s, s⟩
      fun created _ => ShowsRawKey e created := by
  unfold create_service_api_key
  exact yields_ask fun service _ => yields_ask fun actor _ =>
    issue_api_key_shows service payload user.id _ _ _

theorem rotate_key_shows (api_key_id : UUID) :
    Yields (rotate_api_key e api_key_id user) ⟨s, s⟩ fun created _ => ShowsRawKey e created := by
  unfold rotate_api_key
  refine yields_ask fun old_key _ => yields_ask fun actor _ => ?_
  split
  · exact yields_throw _
  · split
    · exact yields_throw _
    · exact yields_ask fun service _ => yields_write (yields_ask fun payload _ =>
        issue_api_key_shows service payload user.id _ _ _)

theorem rawKeys_step {known : Known} (h : RawKeys known.keys) (r : Request)
    (hnew : ∀ k ∈ known.keys, ∀ production, k.created.api_key ≠ create_raw_key e production) :
    RawKeys (known.observe (r, (handle e r s).1)).keys := by
  cases hreply : (handle e r s).1 with
  | error failure =>
    rw [observe_error]
    exact h
  | ok body =>
    cases r with
    | auth r => exact h
    | ingest credentials payload => exact h
    | tenant credentials r =>
      cases r with
      | delete_service service_id => exact h.filter _
      | revoke_api_key api_key_id => exact h.mark api_key_id
      | create_service_api_key service_id payload =>
        cases body with
        | api_key_created created =>
          obtain ⟨production, hraw⟩ := issued_shows (fun _ => rfl)
            (fun _ => create_key_shows service_id payload) hreply
          exact h.add hraw hnew
        | _ => exact h
      | rotate_api_key api_key_id =>
        cases body with
        | api_key_created created =>
          obtain ⟨production, hraw⟩ := issued_shows (fun _ => rfl) (fun _ => rotate_key_shows api_key_id)
            hreply
          refine (h.mark api_key_id).add hraw ?_
          exact forall_updateWhere hnew fun k hk _ => hnew k hk
        | _ => exact h
      | create_service payload => cases body <;> exact h
      | update_service service_id payload => cases body <;> exact h
      | _ => exact h

theorem rawKeys_run {past : List (Env × Request)} (hnew : NewRawKeys past) :
    RawKeys (replay (transcript past)).keys := by
  induction past with
  | nil => exact ⟨nofun, List.nodup_nil⟩
  | cons c past ih => exact rawKeys_step (ih hnew.1) c.2 hnew.2

end

/-! ## The check of an ingest -/

/-- The check of an ingest has nothing against the key. -/
structure KnownKey.Usable (k : KnownKey) (known : Known) (now : Int) : Prop where
  live : k.revoked = false
  unexpired : is_expired k.created.public_fields.expires_at now = false
  service : ∃ v ∈ known.services, v.id = k.created.public_fields.service_id ∧ v.status ≠ .DISABLED

/-- The digest of keys is injective. -/
def InjectiveKeyHash : Prop := ∀ a b : Text, hash_api_key a = hash_api_key b → a = b

section
variable {known : Known} {s : Store} {now : Int} {raw : Text} {api_key : ApiKey}

/-- A row of the table is a known key, and the other way round. -/
theorem Tells.known_of_row (h : Tells known s) (hk : api_key ∈ s.api_keys) :
    ∃ k ∈ known.keys, k.facts = api_key.facts := by
  have hmem : api_key.facts ∈ known.keys.map KnownKey.facts := h.keys ▸ List.mem_map_of_mem hk
  exact List.mem_map.mp hmem

theorem Tells.row_of_known (h : Tells known s) {k : KnownKey} (hk : k ∈ known.keys) :
    ∃ api_key ∈ s.api_keys, api_key.facts = k.facts := by
  have hmem : k.facts ∈ s.api_keys.map ApiKey.facts := h.keys ▸ List.mem_map_of_mem hk
  exact List.mem_map.mp hmem

/-- The rows have hashes of their own. -/
theorem Tells.hashes_apart (h : Tells known s) (hhash : InjectiveKeyHash) (hraw : RawKeys known.keys) :
    UniqueOn ApiKey.key_hash s.api_keys := by
  have hcolumn : s.api_keys.map ApiKey.key_hash = (known.keys.map fun k => k.created.api_key).map hash_api_key := by
    have hmap := congrArg (List.map KeyFacts.key_hash) h.keys
    rw [List.map_map, List.map_map] at hmap
    rw [List.map_map]
    exact hmap
  unfold UniqueOn
  rw [hcolumn]
  exact List.Nodup.map (fun a b heq => hhash a b heq) hraw.apart

omit [Platform] in
theorem write_scope (h : api_key.scopes ≠ []) : ApiKeyScope.EVENTS_WRITE ∈ api_key.scopes := by
  cases hscopes : api_key.scopes with
  | nil => exact absurd hscopes h
  | cons scope scopes =>
    cases scope
    exact List.mem_cons_self

/-- A raw key that is taken is found, live, unexpired and of a service that is not disabled. -/
theorem taken_iff (hkind : hasKeyPrefix raw = true) :
    get_ingestion_api_key (some (.text raw)) now s = .ok api_key ↔
      (s.api_keys.find? fun k => k.key_hash = hash_api_key raw) = some api_key ∧
        api_key.revoked_at.isSome = false ∧ is_expired api_key.expires_at now = false ∧
        (∃ v, (s.services.find? fun v => v.id = api_key.service_id) = some v ∧ v.status ≠ .DISABLED) ∧
        ApiKeyScope.EVENTS_WRITE ∈ api_key.scopes := by
  unfold get_ingestion_api_key
  unfold hasKeyPrefix at hkind
  simp only [hkind, if_true]
  cases hfind : s.api_keys.find? fun k => k.key_hash = hash_api_key raw with
  | none => simp
  | some row =>
    simp only [Option.some.injEq]
    by_cases hended : (row.revoked_at.isSome || is_expired row.expires_at now) = true
    · rw [if_pos hended]
      refine iff_of_false nofun ?_
      rintro ⟨rfl, hrevoked, hexpired, _⟩
      simp [hrevoked, hexpired] at hended
    · rw [if_neg hended]
      simp only [Bool.or_eq_true, not_or, Bool.not_eq_true] at hended
      cases hservice : s.services.find? fun v => v.id = row.service_id with
      | none =>
        refine iff_of_false nofun ?_
        rintro ⟨rfl, _, _, ⟨v, hv, _⟩, _⟩
        rw [hservice] at hv
        cases hv
      | some v =>
        simp only
        split
        · rename_i hdisabled
          refine iff_of_false nofun ?_
          rintro ⟨rfl, _, _, ⟨v', hv', henabled⟩, _⟩
          rw [hservice] at hv'
          cases hv'
          exact henabled hdisabled
        · rename_i henabled
          split
          · rename_i hscope
            constructor
            · rintro ⟨⟩
              exact ⟨rfl, hended.1, hended.2, ⟨v, hservice, henabled⟩, hscope⟩
            · rintro ⟨rfl, _⟩
              rfl
          · rename_i hscope
            refine iff_of_false nofun ?_
            rintro ⟨rfl, _, _, _, hin⟩
            exact hscope hin

end

/-- In every run of the API, a raw key is taken at a moment exactly when an
answer has shown it for a new or a rotated key, no accepted request has revoked or
rotated that key or deleted its service since, it has not expired, and its service
was not disabled last. The row that is found is the one of that answer. -/
theorem an_ingest_key_is_taken_as_the_answers_tell (hhash : InjectiveKeyHash)
    (past : List (Env × Request))
    (hfresh : run.Every serve Store.empty (fun s c => Fresh c.1 s) past) (hnew : NewRawKeys past)
    (raw : Text) (now : Int) :
    let s := run.after serve Store.empty past
    let known := replay (transcript past)
    let taken := get_ingestion_api_key (some (.text raw)) now s
    (taken.isOk = true ↔ ∃ k ∈ known.keys, k.created.api_key = raw ∧ k.Usable known now) ∧
      ∀ api_key, taken = .ok api_key →
        ∃ k ∈ known.keys, k.created.api_key = raw ∧ api_key.facts = k.facts := by
  intro s known taken
  have htells : Tells known s := tells_run hfresh
  have hraw : RawKeys known.keys := rawKeys_run hnew
  have hreach : Reachable s := ⟨past, hfresh, rfl⟩
  have hrow : ∀ api_key, taken = .ok api_key → hasKeyPrefix raw = true →
      ∃ k ∈ known.keys, k.created.api_key = raw ∧ api_key.facts = k.facts := by
    intro api_key htaken hkind
    obtain ⟨hfind, _⟩ := (taken_iff hkind).mp htaken
    obtain ⟨hmem, hsame⟩ := find?_mem hfind
    obtain ⟨k, hk, hfacts⟩ := htells.known_of_row hmem
    have hsum : hash_api_key k.created.api_key = hash_api_key raw :=
      (congrArg KeyFacts.key_hash hfacts).trans (of_decide_eq_true hsame)
    exact ⟨k, hk, hhash _ _ hsum, hfacts.symm⟩
  have hprefix_of : ∀ api_key, taken = .ok api_key → hasKeyPrefix raw = true := by
    intro api_key htaken
    by_contra hno
    have hnone : taken = .error INVALID_API_KEY := by
      show get_ingestion_api_key _ _ _ = _
      unfold get_ingestion_api_key
      unfold hasKeyPrefix at hno
      simp only [hno]
      rfl
    rw [hnone] at htaken
    cases htaken
  refine ⟨⟨?_, ?_⟩, fun api_key htaken => hrow api_key htaken (hprefix_of api_key htaken)⟩
  · intro hok
    obtain ⟨api_key, htaken⟩ : ∃ api_key, taken = .ok api_key := by
      cases htaken : taken with
      | error failure =>
        rw [htaken] at hok
        cases hok
      | ok api_key => exact ⟨api_key, rfl⟩
    have hkind := hprefix_of api_key htaken
    obtain ⟨k, hk, hshown, hfacts⟩ := hrow api_key htaken hkind
    obtain ⟨_, hrevoked, hexpired, ⟨v, hv, henabled⟩, _⟩ := (taken_iff hkind).mp htaken
    obtain ⟨hvmem, hvid⟩ := find?_mem hv
    refine ⟨k, hk, hshown, ?_, ?_, v, htells.services ▸ hvmem, ?_, henabled⟩
    · exact (congrArg KeyFacts.revoked hfacts).symm.trans hrevoked
    · have hsame : api_key.expires_at = k.created.public_fields.expires_at :=
        congrArg KeyFacts.expires_at hfacts
      rwa [← hsame]
    · exact (of_decide_eq_true hvid).trans (congrArg KeyFacts.service_id hfacts)
  · rintro ⟨k, hk, rfl, husable⟩
    obtain ⟨api_key, hmem, hfacts⟩ := htells.row_of_known hk
    obtain ⟨v, hv, hvid, henabled⟩ := husable.service
    have hfind : (s.api_keys.find? fun row => row.key_hash = hash_api_key k.created.api_key) =
        some api_key := by
      have hsum : api_key.key_hash = hash_api_key k.created.api_key := congrArg KeyFacts.key_hash hfacts
      refine find?_eq_of_unique hmem (by simpa using hsum) fun row hrow' hsame => ?_
      exact (htells.hashes_apart hhash hraw).eq hrow' hmem ((of_decide_eq_true hsame).trans hsum.symm)
    have hservice : (s.services.find? fun v => v.id = api_key.service_id) = some v := by
      have hid : v.id = api_key.service_id := hvid.trans (congrArg KeyFacts.service_id hfacts).symm
      have hvs : v ∈ s.services := htells.services ▸ hv
      refine find?_eq_of_unique hvs (by simpa using hid) fun w hw hsame => ?_
      exact hreach.consistent.service_ids.eq hw hvs ((of_decide_eq_true hsame).trans hid.symm)
    have htaken : taken = .ok api_key := by
      refine (taken_iff (hraw.prefixed k hk)).mpr ⟨hfind, ?_, ?_, ⟨v, hservice, henabled⟩, ?_⟩
      · exact (congrArg KeyFacts.revoked hfacts).trans husable.live
      · have hsame : api_key.expires_at = k.created.public_fields.expires_at :=
          congrArg KeyFacts.expires_at hfacts
        rw [hsame]
        exact husable.unexpired
      · exact write_scope (((reachable_stored_rows hreach).keys api_key hmem).scopes_present)
    rw [htaken]
    rfl

omit [Platform] in
/-- The raw key of the sample run is shown once, and an ingest is taken with it. -/
theorem the_sample_key_is_taken :
    ∃ k ∈ (replay (@transcript samplePlatform sampleRun)).keys,
      k.created.api_key = create_raw_key (sampleEnv 4) true ∧
        k.Usable (replay (@transcript samplePlatform sampleRun)) (sampleEnv 10).now := by
  have hhash : @InjectiveKeyHash samplePlatform := fun a b h => by
    have hsum : samplePlatform.settings.api_key_pepper ++ ':' :: a =
        samplePlatform.settings.api_key_pepper ++ ':' :: b := h
    exact (List.cons.inj (List.append_cancel_left hsum)).2
  have hlaw := @an_ingest_key_is_taken_as_the_answers_tell samplePlatform hhash sampleRun
    sample_run_fresh (by decide +kernel) (create_raw_key (sampleEnv 4) true) (sampleEnv 10).now
  exact hlaw.1.mp (by decide +kernel)

end pulseforge

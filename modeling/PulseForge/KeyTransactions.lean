-- The rotation and the revocation of API keys as transactions under READ
-- COMMITTED. Both read the key without a lock. A rotation writes it in its
-- flush, and from there to its commit the row is locked.
import PulseForge.Lib.Locks
import PulseForge.WriteIntegrity

open txn table interleave

namespace pulseforge

variable [Platform]

/-! ## Jobs and stages -/

inductive KeyCall
  | rotate (api_key_id : UUID) (current_user : User)
  | revoke (api_key_id : UUID) (current_user : User)

/-- A request with the draws and the clock of its process. -/
structure KeyJob where
  env : Env
  call : KeyCall

/-- What a transaction does next; its reads and checks are made from `flushing` and
`saving` on. -/
inductive KeyStage
  | start
  | flushing (old_key : ApiKey) (service : Service) (payload : ApiKeyCreate)
  | committing (old_key : ApiKey) (service : Service) (payload : ApiKeyCreate)
  | refreshing (new_key : ApiKey) (raw_key : Text)
  | saving (api_key : ApiKey)
  | ended (reply : Except Failure Body)

/-! ## The statements -/

/-- The key of a request, if the user may manage it. -/
def keyCheck (api_key_id user_id : UUID) (s : Store) : Except Failure ApiKey := do
  let api_key ← get_tenant_resource_or_404 ApiKey api_key_id user_id s
  let _ ← require_permission .API_KEY_MANAGE api_key.organization_id user_id s
  return api_key

/-- What a rotation checks before its first write. Only the key is in a table
that these transactions write, so its reads are one step. -/
def rotationCheck (e : Env) (api_key_id user_id : UUID) (s : Store) :
    Except Failure (ApiKey × Service × ApiKeyCreate) := do
  let old_key ← keyCheck api_key_id user_id s
  if old_key.revoked_at.isSome then
    throw (HTTPException 409 "Revoked API keys cannot be rotated")
  else if is_expired old_key.expires_at (e.clock 1) then
    throw (HTTPException 409 "Expired API keys cannot be rotated")
  else
    let service ← get_tenant_resource_or_404 Service old_key.service_id user_id s
    let payload ← ApiKeyCreate.validate old_key.name old_key.scopes old_key.expires_at (e.clock 3)
    return (old_key, service, payload)

/-- The commit of a rotation: the old key, the new one and the audit row. -/
def commitRotation (e : Env) (old_key : ApiKey) (service : Service) (payload : ApiKeyCreate)
    (user_id : UUID) (s : Store) : Store :=
  addAudit (key_audit e .API_KEY_ROTATED service.organization_id (e.uuid 0) user_id
      [("previous_resource_id".toList, .uuid old_key.id)])
    { s with
      api_keys := (revokeKey old_key.id (e.clock 2) s).api_keys ++ [new_api_key e service payload] }

/-- The commit of a revocation. -/
def commitRevocation (e : Env) (api_key : ApiKey) (user_id : UUID) (s : Store) : Store :=
  addAudit (key_audit e .API_KEY_REVOKED api_key.organization_id api_key.id user_id [])
    (revokeKey api_key.id (e.clock 1) s)

/-- The row of a new key after its commit; none of these transactions deletes a key. -/
def refreshedKey (api_key : ApiKey) (s : Store) : ApiKey :=
  (s.api_keys.find? fun k => k.id = api_key.id).getD api_key

def rotate_next (e : Env) (api_key_id : UUID) (current_user : User) (s : Store) :
    KeyStage → Option (Store × KeyStage)
  | .start =>
    match rotationCheck e api_key_id current_user.id s with
    | .error failure => some (s, .ended (.error failure))
    | .ok (old_key, service, payload) => some (s, .flushing old_key service payload)
  | .flushing old_key service payload =>
    match insertApiKey (new_api_key e service payload) (revokeKey old_key.id (e.clock 2) s) with
    | .error failure => some (s, .ended (.error failure))
    | .ok _ => some (s, .committing old_key service payload)
  | .committing old_key service payload =>
    some (commitRotation e old_key service payload current_user.id s,
      .refreshing (new_api_key e service payload) (create_raw_key e (service.environment = .PRODUCTION)))
  | .refreshing new_key raw_key =>
    some (s, .ended (.ok (.api_key_created ⟨(refreshedKey new_key s).response, raw_key⟩)))
  | _ => none

def revoke_next (e : Env) (api_key_id : UUID) (current_user : User) (s : Store) :
    KeyStage → Option (Store × KeyStage)
  | .start =>
    match keyCheck api_key_id current_user.id s with
    | .error failure => some (s, .ended (.error failure))
    | .ok api_key =>
      if api_key.revoked_at.isNone then some (s, .saving api_key)
      else some (s, .ended (.ok .no_content))
  | .saving api_key =>
    some (commitRevocation e api_key current_user.id s, .ended (.ok .no_content))
  | _ => none

/-! ## The machine -/

def KeyJob.next (job : KeyJob) : Store → KeyStage → Option (Store × KeyStage) :=
  match job.call with
  | .rotate api_key_id current_user => rotate_next job.env api_key_id current_user
  | .revoke api_key_id current_user => revoke_next job.env api_key_id current_user

/-- Both write the row of the key, so they wait for who wrote it and did not commit. -/
def KeyStage.wants : KeyStage → Option UUID
  | .flushing old_key _ _ => some old_key.id
  | .saving api_key => some api_key.id
  | _ => none

/-- The row that a flush has written. -/
def KeyStage.holds : KeyStage → List UUID
  | .committing old_key _ _ => [old_key.id]
  | _ => []

/-- Each step of a transaction, with what it read. -/
inductive KeyMove (job : KeyJob) (s : Store) : KeyStage → Store → KeyStage → Prop
  | refused (failure : Failure) : KeyMove job s .start s (.ended (.error failure))
  | unchanged {api_key_id : UUID} {user : User} (hcall : job.call = .revoke api_key_id user) (body : Body) :
      KeyMove job s .start s (.ended (.ok body))
  | checked {api_key_id : UUID} {user : User} (hcall : job.call = .rotate api_key_id user)
      (old_key : ApiKey) (service : Service) (payload : ApiKeyCreate) (hmem : old_key ∈ s.api_keys)
      (hid : old_key.id = api_key_id) (hlive : old_key.revoked_at = none) :
      KeyMove job s .start s (.flushing old_key service payload)
  | unstorable {api_key_id : UUID} {user : User} (hcall : job.call = .rotate api_key_id user)
      (old_key : ApiKey) (service : Service) (payload : ApiKeyCreate) (failure : Failure) :
      KeyMove job s (.flushing old_key service payload) s (.ended (.error failure))
  | flushed {api_key_id : UUID} {user : User} (hcall : job.call = .rotate api_key_id user)
      (old_key : ApiKey) (service : Service) (payload : ApiKeyCreate) :
      KeyMove job s (.flushing old_key service payload) s (.committing old_key service payload)
  | rotated {api_key_id : UUID} {user : User} (hcall : job.call = .rotate api_key_id user)
      (old_key : ApiKey) (service : Service) (payload : ApiKeyCreate) (new_key : ApiKey) (raw_key : Text) :
      KeyMove job s (.committing old_key service payload)
        (commitRotation job.env old_key service payload user.id s) (.refreshing new_key raw_key)
  | refreshed {api_key_id : UUID} {user : User} (hcall : job.call = .rotate api_key_id user)
      (new_key : ApiKey) (raw_key : Text) (body : Body) :
      KeyMove job s (.refreshing new_key raw_key) s (.ended (.ok body))
  | revoking {api_key_id : UUID} {user : User} (hcall : job.call = .revoke api_key_id user)
      (api_key : ApiKey) (hmem : api_key ∈ s.api_keys) (hid : api_key.id = api_key_id) :
      KeyMove job s .start s (.saving api_key)
  | revoked {api_key_id : UUID} {user : User} (hcall : job.call = .revoke api_key_id user)
      (api_key : ApiKey) (body : Body) :
      KeyMove job s (.saving api_key) (commitRevocation job.env api_key user.id s) (.ended (.ok body))

omit [Platform] in
theorem keyCheck_ok {api_key_id user_id : UUID} {s : Store} {api_key : ApiKey}
    (h : keyCheck api_key_id user_id s = .ok api_key) :
    api_key ∈ s.api_keys ∧ api_key.id = api_key_id := by
  obtain ⟨found, hk, h⟩ := bind_ok h
  obtain ⟨_, _, h⟩ := bind_ok h
  cases h
  obtain ⟨hmem, hid, _⟩ := resource_of_ok hk
  exact ⟨hmem, hid⟩

omit [Platform] in
/-- A rotation goes on with a key that it read as not revoked. -/
theorem rotationCheck_ok {e : Env} {api_key_id user_id : UUID} {s : Store} {old_key : ApiKey}
    {service : Service} {payload : ApiKeyCreate}
    (h : rotationCheck e api_key_id user_id s = .ok (old_key, service, payload)) :
    old_key ∈ s.api_keys ∧ old_key.id = api_key_id ∧ old_key.revoked_at = none := by
  obtain ⟨found, hk, h⟩ := bind_ok h
  obtain ⟨hmem, hid⟩ := keyCheck_ok hk
  split at h
  · cases h
  rename_i hlive
  split at h
  · cases h
  obtain ⟨_, _, h⟩ := bind_ok h
  obtain ⟨_, _, h⟩ := bind_ok h
  cases h
  exact ⟨hmem, hid, by simpa using hlive⟩

theorem KeyJob.move {job : KeyJob} {s s' : Store} {t t' : KeyStage}
    (h : job.next s t = some (s', t')) : KeyMove job s t s' t' := by
  unfold KeyJob.next at h
  cases hcall : job.call with
  | rotate api_key_id user =>
    simp only [hcall] at h
    cases t with
    | start =>
      simp only [rotate_next] at h
      split at h
      · cases h
        exact .refused _
      · rename_i old_key service payload hcheck
        cases h
        obtain ⟨hmem, hid, hlive⟩ := rotationCheck_ok hcheck
        exact .checked hcall old_key service payload hmem hid hlive
    | flushing old_key service payload =>
      simp only [rotate_next] at h
      split at h
      · cases h
        exact .unstorable hcall old_key service payload _
      · cases h
        exact .flushed hcall old_key service payload
    | committing old_key service payload =>
      cases h
      exact .rotated hcall old_key service payload _ _
    | refreshing new_key raw_key =>
      cases h
      exact .refreshed hcall new_key raw_key _
    | saving => cases h
    | ended => cases h
  | revoke api_key_id user =>
    simp only [hcall] at h
    cases t with
    | start =>
      simp only [revoke_next] at h
      split at h
      · cases h
        exact .refused _
      · rename_i api_key hcheck
        obtain ⟨hmem, hid⟩ := keyCheck_ok hcheck
        split at h
        · cases h
          exact .revoking hcall api_key hmem hid
        · cases h
          exact .unchanged hcall _
    | saving api_key =>
      cases h
      exact .revoked hcall api_key _
    | flushing => cases h
    | committing => cases h
    | refreshing => cases h
    | ended => cases h

theorem KeyMove.acquires {job : KeyJob} {s s' : Store} {t t' : KeyStage} (h : KeyMove job s t s' t') :
    ∀ l ∈ t'.holds, l ∈ t.holds ∨ t.wants = some l := by
  intro l hl
  cases h with
  | flushed _ old_key =>
    rw [List.mem_singleton.mp hl]
    exact Or.inr rfl
  | _ => cases hl

def key_transaction (job : KeyJob) : Process Store KeyStage UUID where
  next := job.next
  wants := KeyStage.wants
  holds := KeyStage.holds
  acquires _ _ _ h := (KeyJob.move h).acquires

variable {ι : Type}

def key_begin (s₀ : Store) : State ι Store KeyStage := ⟨s₀, fun _ => .start⟩

/-- The turn of one transaction. -/
def key_turn [Fintype ι] [DecidableEq ι] (jobs : ι → KeyJob) :
    State ι Store KeyStage → ι → State ι Store KeyStage :=
  step (lockStep fun i => key_transaction (jobs i))

/-! ## One transaction alone -/

/-- The handler that the transaction is made of. -/
def KeyJob.handler (job : KeyJob) : Handler Body :=
  match job.call with
  | .rotate api_key_id user => answer .api_key_created (rotate_api_key job.env api_key_id user)
  | .revoke api_key_id user => answer (fun _ => .no_content) (revoke_api_key job.env api_key_id user)

theorem refreshedKey_rotated (old_key : ApiKey) (service : Service) (payload : ApiKeyCreate)
    (user_id : UUID) {e : Env} {s : Store} (hf : Fresh e s) :
    refreshedKey (new_api_key e service payload) (commitRotation e old_key service payload user_id s) =
      new_api_key e service payload := by
  have hnone : ∀ k ∈ (revokeKey old_key.id (e.clock 2) s).api_keys, k.id ≠ e.uuid 0 :=
    forall_updateWhere (hf.api_key 0) fun k hk _ => hf.api_key 0 k hk
  have hfind : (commitRotation e old_key service payload user_id s).api_keys.find?
      (fun k => k.id = e.uuid 0) = some (new_api_key e service payload) := by
    refine find?_eq_of_unique (List.mem_append_right _ (List.mem_singleton_self _)) ?_ ?_
    · simp [new_api_key]
    · intro k hk hid
      rcases List.mem_append.mp hk with hk | hk
      · exact absurd (by simpa using hid) (hnone k hk)
      · exact List.mem_singleton.mp hk
  unfold refreshedKey
  have hid : (new_api_key e service payload).id = e.uuid 0 := rfl
  rw [hid, hfind]
  rfl

/-- The handler of a rotation is its check, its flush and its commit. -/
theorem rotate_ends (e : Env) (api_key_id : UUID) (user : User) (s : Store)
    (Q : Except Failure ApiKeyCreatedResponse → Store → Prop)
    (hfails : ∀ failure, rotationCheck e api_key_id user.id s = .error failure → Q (.error failure) s)
    (hflush : ∀ old_key service payload failure,
      rotationCheck e api_key_id user.id s = .ok (old_key, service, payload) →
      insertApiKey (new_api_key e service payload) (revokeKey old_key.id (e.clock 2) s) =
        .error failure → Q (.error failure) s)
    (hdone : ∀ old_key service payload s',
      rotationCheck e api_key_id user.id s = .ok (old_key, service, payload) →
      insertApiKey (new_api_key e service payload) (revokeKey old_key.id (e.clock 2) s) = .ok s' →
        Q (.ok ⟨(new_api_key e service payload).response,
          create_raw_key e (service.environment = .PRODUCTION)⟩)
          (commitRotation e old_key service payload user.id s)) :
    Ends (rotate_api_key e api_key_id user) ⟨s, s⟩ fun r s' => Q r s'.committed := by
  generalize hcheck : rotationCheck e api_key_id user.id s = check at hfails hflush hdone
  simp only [rotationCheck, keyCheck, bind_assoc, pure_bind] at hcheck
  unfold rotate_api_key issue_api_key
  refine ends_ask_checked hcheck hfails fun old_key hk hcheck => ?_
  refine ends_ask_checked hcheck hfails fun actor hp hcheck => ?_
  refine ends_if_checked hcheck hfails fun hrevoked hcheck => ?_
  refine ends_if_checked hcheck hfails fun hexpired hcheck => ?_
  refine ends_ask_checked hcheck hfails fun service hv hcheck => ?_
  rw [ends_bind, ends_write]
  refine ends_ask_checked hcheck hfails fun payload hc hcheck => ?_
  simp only [ends_bind, ends_flush]
  cases hins : insertApiKey (new_api_key e service payload)
      (revokeKey old_key.id (e.clock 2) s) with
  | error failure => exact hflush _ _ _ _ hcheck.symm hins
  | ok s' =>
    have hrow : s' = { revokeKey old_key.id (e.clock 2) s with
        api_keys := (revokeKey old_key.id (e.clock 2) s).api_keys ++
          [new_api_key e service payload] } := by
      unfold insertApiKey at hins
      split at hins
      · cases hins
        rfl
      · cases hins
    have hcommitted := hdone _ _ _ _ hcheck.symm hins
    simp only [ends_write, ends_commit, ends_pure]
    rw [hrow]
    exact hcommitted

theorem rotate_reaches {job : KeyJob} {api_key_id : UUID} {user : User}
    (hcall : job.call = .rotate api_key_id user) {s : Store} (hf : Fresh job.env s) :
    Ends (answer .api_key_created (rotate_api_key job.env api_key_id user)) ⟨s, s⟩ fun r s' =>
      Reaches job.next s .start s'.committed (.ended r) := by
  have hnext : job.next = rotate_next job.env api_key_id user := by
    unfold KeyJob.next
    rw [hcall]
  rw [ends_answer]
  refine rotate_ends job.env api_key_id user s
    (fun r s' => Reaches job.next s .start s' (.ended (r.map .api_key_created))) ?_ ?_ ?_
  · intro failure hcheck
    refine .step ?_ (.refl _ _)
    simp only [hnext, rotate_next, hcheck, Except.map]
  · intro old_key service payload failure hcheck hins
    have hstart : job.next s .start = some (s, .flushing old_key service payload) := by
      simp only [hnext, rotate_next, hcheck]
    have hrefused : job.next s (.flushing old_key service payload) =
        some (s, .ended (.error failure)) := by
      simp only [hnext, rotate_next, hins]
    exact .step hstart (.step hrefused (.refl _ _))
  · intro old_key service payload s' hcheck hins
    have hstart : job.next s .start = some (s, .flushing old_key service payload) := by
      simp only [hnext, rotate_next, hcheck]
    have hflushed : job.next s (.flushing old_key service payload) =
        some (s, .committing old_key service payload) := by
      simp only [hnext, rotate_next, hins]
    have hrow := refreshedKey_rotated old_key service payload user.id hf
    refine .step hstart (.step hflushed ?_)
    rw [hnext]
    refine .step rfl (.step rfl ?_)
    rw [hrow]
    exact .refl _ _

theorem revoke_reaches {job : KeyJob} {api_key_id : UUID} {user : User}
    (hcall : job.call = .revoke api_key_id user) (s : Store) :
    Ends (answer (fun _ => .no_content) (revoke_api_key job.env api_key_id user)) ⟨s, s⟩ fun r s' =>
      Reaches job.next s .start s'.committed (.ended r) := by
  have hnext : job.next = revoke_next job.env api_key_id user := by
    unfold KeyJob.next
    rw [hcall]
  unfold revoke_api_key
  simp only [ends_answer, ends_bind, ends_ask]
  split <;> rename_i api_key hk
  · split <;> rename_i actor hp
    · have hcheck : keyCheck api_key_id user.id s = .ok api_key := by
        simp [keyCheck, hk, hp, bind, Except.bind, pure, Except.pure]
      by_cases hlive : api_key.revoked_at.isNone = true
      · simp only [hlive, if_true, ends_bind, ends_write, ends_commit]
        have hstart : job.next s .start = some (s, .saving api_key) := by
          simp only [hnext, revoke_next, hcheck, hlive, if_true]
        refine .step hstart ?_
        rw [hnext]
        exact .step rfl (.refl _ _)
      · simp only [hlive]
        refine .step ?_ (.refl _ _)
        simp only [hnext, revoke_next, hcheck, hlive]
        rfl
    · refine .step ?_ (.refl _ _)
      simp [hnext, revoke_next, keyCheck, hk, hp, bind, Except.bind, Except.map]
  · refine .step ?_ (.refl _ _)
    simp [hnext, revoke_next, keyCheck, hk, bind, Except.bind, Except.map]

/-- A transaction that runs alone leaves the store and gives the answer of its handler. -/
theorem key_alone_is_sequential (job : KeyJob) {s : Store} (hf : Fresh job.env s) :
    ∃ n, run.after (key_turn fun _ : Unit => job) (key_begin s) (List.replicate n ()) =
      ⟨(runRequest job.handler s).2, fun _ => .ended (runRequest job.handler s).1⟩ := by
  apply reaches_turns
  refine ends_runRequest (Q := fun r s' => Reaches job.next s .start s' (.ended r)) ?_
  unfold KeyJob.handler
  cases hcall : job.call with
  | rotate api_key_id user => exact rotate_reaches hcall hf
  | revoke api_key_id user => exact revoke_reaches hcall s

end pulseforge

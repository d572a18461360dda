-- Single use of tokens in any interleaving: a refresh token and a reset token
-- are checked and used up under the lock of their row, and no request takes
-- back that a token is used up, whether it waits for the lock or not.
import PulseForge.Lib.Overtake
import PulseForge.TokenTransactions

open txn table interleave

namespace pulseforge

/-! ## The tables of tokens -/

def RefreshToken.isOver (r : RefreshToken) : Prop := r.revoked_at ≠ none

def PasswordResetToken.isOver (r : PasswordResetToken) : Prop := r.used_at ≠ none

/-- The token of the lock is in its table, and used up. -/
def Over : AuthLock → Store → Prop
  | .session token_hash, s => Gone RefreshToken.token_hash RefreshToken.isOver token_hash s.refresh_tokens
  | .reset_token token_hash, s =>
    Gone PasswordResetToken.token_hash PasswordResetToken.isOver token_hash s.password_reset_tokens

/-- The columns that the schema keeps unique. -/
structure UniqueTokens (s : Store) : Prop where
  session_hashes : UniqueOn RefreshToken.token_hash s.refresh_tokens
  reset_hashes : UniqueOn PasswordResetToken.token_hash s.password_reset_tokens

/-- The hash is of no token in the tables. -/
structure UnusedHash (token_hash : Text) (s : Store) : Prop where
  session : ∀ r ∈ s.refresh_tokens, r.token_hash ≠ token_hash
  reset : ∀ r ∈ s.password_reset_tokens, r.token_hash ≠ token_hash

/-- What a step does to both tables; its new rows have the hash. -/
structure TokenSteps (token_hash : Text) (s s' : Store) : Prop where
  sessions : Advances RefreshToken.id RefreshToken.token_hash RefreshToken.isOver
    (fun r => r.token_hash = token_hash) s.refresh_tokens s'.refresh_tokens
  resets : Advances PasswordResetToken.id PasswordResetToken.token_hash PasswordResetToken.isOver
    (fun r => r.token_hash = token_hash) s.password_reset_tokens s'.password_reset_tokens

section
variable {token_hash : Text} {s s' : Store}

theorem TokenSteps.refl (token_hash : Text) (s : Store) : TokenSteps token_hash s s := ⟨.refl _, .refl _⟩

theorem TokenSteps.over (h : TokenSteps token_hash s s') (hu : UnusedHash token_hash s) {l : AuthLock}
    (hl : Over l s) : Over l s' := by
  cases l with
  | session k =>
    obtain ⟨r, hr, hkey⟩ := hl.there
    refine h.sessions.gone hl fun a ha heq => hu.session r hr ?_
    rw [hkey, ← heq, ha]
  | reset_token k =>
    obtain ⟨r, hr, hkey⟩ := hl.there
    refine h.resets.gone hl fun a ha heq => hu.reset r hr ?_
    rw [hkey, ← heq, ha]

theorem TokenSteps.unique (h : TokenSteps token_hash s s') (hu : UnusedHash token_hash s)
    (hs : UniqueTokens s) : UniqueTokens s' where
  session_hashes := h.sessions.unique hs.session_hashes fun r hr _ ha => ha ▸ hu.session r hr
  reset_hashes := h.resets.unique hs.reset_hashes fun r hr _ ha => ha ▸ hu.reset r hr

/-- The hash of another process stays unused. -/
theorem TokenSteps.unused (h : TokenSteps token_hash s s') {other : Text} (hu : UnusedHash other s)
    (hne : token_hash ≠ other) : UnusedHash other s' := by
  constructor
  · intro r hr heq
    rcases h.sessions.key_of hr with ⟨r₀, hr₀, hkey⟩ | hnew
    · exact hu.session r₀ hr₀ (hkey.trans heq)
    · exact hne (hnew.symm.trans heq)
  · intro r hr heq
    rcases h.resets.key_of hr with ⟨r₀, hr₀, hkey⟩ | hnew
    · exact hu.reset r₀ hr₀ (hkey.trans heq)
    · exact hne (hnew.symm.trans heq)

end

variable [Platform]

/-- The one hash of a new secret, of whichever kind the token is. -/
def Env.token_hash (e : Env) : Text := Platform.sha256 e.secret

/-! ## What a step does to the tables -/

omit [Platform] in
theorem revoked_session_steps (token_hash : Text) (session_id : UUID) (now : Int) (s : Store) :
    TokenSteps token_hash s (revokeSessionRow session_id now s) :=
  ⟨.update fun _ _ => ⟨rfl, rfl, Option.some_ne_none _⟩, .refl _⟩

section
variable {job : AuthJob} {s s' : Store} {t t' : AuthStage}

theorem session_committed_steps (e : Env) (user_id : UUID) (stored_token : Option RefreshToken) (s : Store) :
    TokenSteps e.token_hash s (commitSession e user_id stored_token s) := by
  refine ⟨?_, ?_⟩
  · cases stored_token with
    | none => exact .add rfl
    | some row => exact .replace (fun _ _ => ⟨rfl, rfl, Option.some_ne_none _⟩) rfl
  · cases stored_token <;> exact .refl _

/-- The commit of an UPDATE over the sessions, and of what its request writes besides. -/
theorem bulk_committed_steps (token_hash : Text) (call : AuthCall) (e : Env) (user_id : UUID)
    (reset_token : Option PasswordResetToken) (rows : List RefreshToken) (s : Store) :
    TokenSteps token_hash s (call.writes e user_id reset_token (revokeRows rows (e.clock 1) s)) := by
  unfold AuthCall.writes
  split
  · exact ⟨.update fun _ _ => ⟨rfl, rfl, Option.some_ne_none _⟩, .refl _⟩
  · exact ⟨.update fun _ _ => ⟨rfl, rfl, Option.some_ne_none _⟩,
      .update fun _ _ => ⟨rfl, rfl, Option.some_ne_none _⟩⟩
  · exact ⟨.update fun _ _ => ⟨rfl, rfl, Option.some_ne_none _⟩, .refl _⟩

theorem auth_steps (h : job.next s t = some (s', t')) : TokenSteps job.env.token_hash s s' := by
  cases t with
  | issuing user_id stored_token =>
    cases h
    exact session_committed_steps ..
  | expiring stored_token =>
    cases h
    exact revoked_session_steps ..
  | sweeping user_id reset_token todo done =>
    cases todo with
    | nil =>
      cases h
      exact bulk_committed_steps ..
    | cons row todo =>
      simp only [AuthJob.next] at h
      split at h <;> cases h <;> exact .refl _ _
  | ended reply => cases h
  | refusing =>
    cases h
    exact ⟨.refl _, .refl _⟩
  | _ =>
    cases h
    exact .refl _ _

/-- Only the last step of a transaction writes. -/
theorem auth_writes_last (h : job.next s t = some (s', t')) : s' = s ∨ t'.finished = true := by
  cases t with
  | sweeping user_id reset_token todo done =>
    cases todo with
    | nil =>
      cases h
      exact Or.inr rfl
    | cons row todo =>
      simp only [AuthJob.next] at h
      split at h <;> cases h <;> exact Or.inl rfl
  | start =>
    cases h
    exact Or.inl rfl
  | revoking user_id reset_token =>
    cases h
    exact Or.inl rfl
  | ended reply => cases h
  | _ =>
    cases h
    exact Or.inr rfl

end

section
variable {job : TokenJob} {s s' : Store} {t t' : TokenStage} (h : TokenMove job s t s' t')
include h

theorem TokenMove.steps : TokenSteps job.env.token_hash s s' := by
  cases h with
  | auth hcall hnext => exact auth_steps hnext
  | read => exact .refl _ _
  | left => exact revoked_session_steps ..
  | closed => exact revoked_session_steps ..
  | forgot hcall user_id done =>
    exact ⟨.refl _, .replace (fun _ _ => ⟨rfl, rfl, Option.some_ne_none _⟩) rfl⟩

theorem TokenMove.writes_last : s' = s ∨ t'.finished = true := by
  cases h with
  | auth hcall hnext => exact auth_writes_last hnext
  | read => exact Or.inl rfl
  | _ => exact Or.inr rfl

theorem TokenMove.unfinished : t.finished = false := by
  cases h with
  | @auth call hcall stage _ _ hnext =>
    cases stage with
    | ended reply => cases hnext
    | _ => rfl
  | read _ ht => exact ht
  | _ => rfl

end

/-! ## What a transaction claims, and what it has used up -/

/-- The token that the transaction has found usable, and is about to use up. -/
def AuthJob.claims (job : AuthJob) : AuthStage → Option AuthLock
  | .issuing _ (some _) | .revoking _ (some _) | .sweeping _ (some _) _ _ => job.own
  | _ => none

/-- The token that the transaction has used up. -/
def AuthJob.spends (job : AuthJob) : AuthStage → Option AuthLock
  | .ended (.ok _) => job.own
  | _ => none

/-- What a transaction knows at its stage: the row that it carries is the one
that it has locked. -/
def Rests (job : AuthJob) (s : Store) : AuthStage → Prop
  | .issuing _ none => ∃ payload, job.call = .login payload
  | .issuing _ (some row) =>
    ∃ r ∈ s.refresh_tokens, r.id = row.id ∧ job.own = some (.session r.token_hash)
  | .revoking _ none | .sweeping _ none _ _ => ∀ payload, job.call ≠ .reset_password payload
  | .revoking _ (some row) | .sweeping _ (some row) _ _ =>
    (∃ payload, job.call = .reset_password payload) ∧
      ∃ r ∈ s.password_reset_tokens, r.id = row.id ∧ job.own = some (.reset_token r.token_hash)
  | .ended (.ok _) => ∀ raw, job.call = .refresh raw → job.own.isSome = true
  | _ => True

/-- What a check leads to: the stage rests on the store, claims no token that is
used up, and has used up none itself. -/
structure Vetted (job : AuthJob) (s : Store) (t : AuthStage) : Prop where
  rests : Rests job s t
  usable : ∀ l, job.claims t = some l → ¬ Over l s
  unspent : job.spends t = none

section
variable {job : AuthJob} {s s' : Store} {t t' : AuthStage}

theorem vetted_error (job : AuthJob) (s : Store) (failure : Failure) :
    Vetted job s (.ended (.error failure)) :=
  ⟨trivial, fun _ => nofun, rfl⟩

theorem login_start_vetted {payload : UserLogin} (hcall : job.call = .login payload) :
    Vetted job s (login_start job.env payload s) := by
  unfold login_start
  split
  · exact vetted_error ..
  · split
    · exact ⟨trivial, fun _ => nofun, rfl⟩
    · exact ⟨⟨payload, hcall⟩, fun _ => nofun, rfl⟩

theorem refresh_start_vetted {raw_refresh_token : Option Text}
    (hcall : job.call = .refresh raw_refresh_token) :
    Vetted job s (refresh_start job.env raw_refresh_token s) := by
  unfold refresh_start
  split
  · exact vetted_error ..
  rename_i hretry
  split
  · exact vetted_error ..
  rename_i raw hraw
  split
  · exact vetted_error ..
  rename_i row hrow
  split
  · refine ⟨fun payload heq => ?_, fun _ => nofun, rfl⟩
    rw [hcall] at heq
    cases heq
  rename_i hopen
  split
  · exact vetted_error ..
  split
  · exact ⟨trivial, fun _ => nofun, rfl⟩
  -- the row was read under the lock of its hash
  obtain ⟨hmem, hhash⟩ := find?_mem hrow
  have hhash : row.token_hash = hash_refresh_token raw := by simpa using hhash
  have hown : job.own = some (.session row.token_hash) := by
    unfold AuthJob.own
    simp only [hcall, hretry, hraw, hhash]
    rfl
  refine ⟨⟨row, hmem, rfl, hown⟩, fun l hl hover => ?_, rfl⟩
  cases hown.symm.trans hl
  have hrevoked := hover.spent row hmem rfl
  unfold RefreshToken.isOver at hrevoked
  simp only [Bool.not_eq_true, Option.isSome_eq_false_iff, Option.isNone_iff_eq_none] at hopen
  exact hrevoked hopen

theorem reset_password_start_vetted {payload : ResetPasswordRequest}
    (hcall : job.call = .reset_password payload) :
    Vetted job s (reset_password_start job.env payload s) := by
  unfold reset_password_start
  split
  · exact vetted_error ..
  rename_i row husable
  unfold usableResetToken at husable
  split at husable
  · cases husable
  rename_i found hfound
  split at husable
  · cases husable
  rename_i hunused
  split at husable
  · cases husable
  split at husable
  · cases husable
    obtain ⟨hmem, hhash⟩ := find?_mem hfound
    have hhash : row.token_hash = hash_password_reset_token payload.token := by simpa using hhash
    have hown : job.own = some (.reset_token row.token_hash) := by
      unfold AuthJob.own
      simp only [hcall, hhash]
    refine ⟨⟨⟨payload, hcall⟩, row, hmem, rfl, hown⟩, fun l hl hover => ?_, rfl⟩
    cases hown.symm.trans hl
    have hused := hover.spent row hmem rfl
    unfold PasswordResetToken.isOver at hused
    simp only [Bool.or_eq_true, not_or, Bool.not_eq_true, Option.isSome_eq_false_iff,
      Option.isNone_iff_eq_none] at hunused
    exact hused hunused.1
  · cases husable

theorem check_vetted (job : AuthJob) (s : Store) : Vetted job s (job.check s) := by
  unfold AuthJob.check
  split <;> rename_i hcall
  · exact login_start_vetted hcall
  · exact refresh_start_vetted hcall
  · unfold logout_all_start
    split
    · exact vetted_error ..
    · refine ⟨fun payload heq => ?_, fun _ => nofun, rfl⟩
      rw [hcall] at heq
      cases heq
  · unfold change_password_start
    split
    · exact vetted_error ..
    · split
      · exact vetted_error ..
      · split
        · exact vetted_error ..
        · refine ⟨fun payload heq => ?_, fun _ => nofun, rfl⟩
          rw [hcall] at heq
          cases heq
  · exact reset_password_start_vetted hcall

/-- What a transaction knows, no step of another takes away. -/
theorem Rests.steps (h : Rests job s t) {token_hash : Text} (hs : TokenSteps token_hash s s') :
    Rests job s' t := by
  have hsession : ∀ {row : RefreshToken},
      (∃ r ∈ s.refresh_tokens, r.id = row.id ∧ job.own = some (.session r.token_hash)) →
        ∃ r ∈ s'.refresh_tokens, r.id = row.id ∧ job.own = some (.session r.token_hash) := by
    rintro row ⟨r, hr, hid, hown⟩
    obtain ⟨r', hr', hid', hhash⟩ := hs.sessions.kept hr
    exact ⟨r', hr', hid'.trans hid, by rw [hhash, hown]⟩
  have hreset : ∀ {row : PasswordResetToken},
      (∃ r ∈ s.password_reset_tokens, r.id = row.id ∧ job.own = some (.reset_token r.token_hash)) →
        ∃ r ∈ s'.password_reset_tokens, r.id = row.id ∧ job.own = some (.reset_token r.token_hash) := by
    rintro row ⟨r, hr, hid, hown⟩
    obtain ⟨r', hr', hid', hhash⟩ := hs.resets.kept hr
    exact ⟨r', hr', hid'.trans hid, by rw [hhash, hown]⟩
  cases t with
  | issuing user_id stored_token =>
    cases stored_token with
    | none => exact h
    | some row => exact hsession h
  | revoking user_id reset_token =>
    cases reset_token with
    | none => exact h
    | some row => exact ⟨h.1, hreset h.2⟩
  | sweeping user_id reset_token todo done =>
    cases reset_token with
    | none => exact h
    | some row => exact ⟨h.1, hreset h.2⟩
  | ended reply =>
    cases reply with
    | ok body => exact h
    | error failure => trivial
  | _ => trivial

theorem auth_rests (h : job.next s t = some (s', t')) (hr : Rests job s t) : Rests job s' t' := by
  have hkept := hr.steps (auth_steps h)
  cases t with
  | start =>
    cases h
    exact (check_vetted job s).rests
  | issuing user_id stored_token =>
    cases h
    intro raw hcall
    cases stored_token with
    | none =>
      obtain ⟨payload, hlogin⟩ := hr
      rw [hcall] at hlogin
      cases hlogin
    | some row =>
      obtain ⟨_, _, _, hown⟩ := hr
      rw [hown]
      rfl
  | revoking user_id reset_token =>
    cases h
    cases reset_token <;> exact hkept
  | sweeping user_id reset_token todo done =>
    cases todo with
    | nil =>
      cases h
      unfold AuthCall.bulkReply
      split
      · trivial
      · rename_i hrefresh
        intro raw hcall
        exact absurd hcall (hrefresh raw)
    | cons row todo =>
      simp only [AuthJob.next] at h
      split at h <;> cases h <;> cases reset_token <;> exact hkept
  | ended reply => cases h
  | _ =>
    cases h
    trivial

theorem auth_claims (h : job.next s t = some (s', t')) {l : AuthLock} (hl : job.claims t' = some l) :
    job.claims t = some l ∨ ¬ Over l s := by
  cases t with
  | start =>
    cases h
    exact Or.inr ((check_vetted job s).usable l hl)
  | revoking user_id reset_token =>
    cases h
    cases reset_token with
    | none => cases hl
    | some row => exact Or.inl hl
  | sweeping user_id reset_token todo done =>
    cases todo with
    | nil =>
      cases h
      cases hl
    | cons row todo =>
      simp only [AuthJob.next] at h
      split at h <;> cases h <;> cases reset_token <;> first | cases hl | exact Or.inl hl
  | ended reply => cases h
  | _ =>
    cases h
    cases hl

/-- The commit of an exchange uses up its refresh token. -/
theorem over_of_exchange (hu : UniqueTokens s) {e : Env} (hnew : UnusedHash e.token_hash s)
    {r row : RefreshToken} (hr : r ∈ s.refresh_tokens) (hid : r.id = row.id) (user_id : UUID) :
    Over (.session r.token_hash) (commitSession e user_id (some row) s) := by
  have hgone : Gone RefreshToken.token_hash RefreshToken.isOver r.token_hash
      (rotateSessionRow row.id (e.clock 1) s).refresh_tokens :=
    gone_of_update hr (by simpa using hid) hu.session_hashes fun _ _ => ⟨rfl, Option.some_ne_none _⟩
  exact hgone.add (hnew.session r hr).symm

/-- The commit of a reset uses up its reset token. -/
theorem over_of_reset (hu : UniqueTokens s) {e : Env} {payload : ResetPasswordRequest}
    {r row : PasswordResetToken} (hr : r ∈ s.password_reset_tokens) (hid : r.id = row.id)
    (user_id : UUID) (rows : List RefreshToken) :
    Over (.reset_token r.token_hash) (AuthCall.writes (.reset_password payload) e user_id (some row)
      (revokeRows rows (e.clock 1) s)) := by
  have hgone : Gone PasswordResetToken.token_hash PasswordResetToken.isOver r.token_hash
      (useResetToken row.id (e.clock 1) s).password_reset_tokens :=
    gone_of_update hr (by simpa using hid) hu.reset_hashes fun _ _ => ⟨rfl, Option.some_ne_none _⟩
  exact hgone

theorem auth_spends (h : job.next s t = some (s', t')) (hr : Rests job s t) (hu : UniqueTokens s)
    (hnew : UnusedHash job.env.token_hash s) {l : AuthLock} (hl : job.spends t' = some l) :
    job.spends t = some l ∨ job.claims t = some l ∧ Over l s' := by
  cases t with
  | start =>
    cases h
    rw [(check_vetted job s).unspent] at hl
    cases hl
  | issuing user_id stored_token =>
    cases h
    cases stored_token with
    | none =>
      obtain ⟨payload, hlogin⟩ := hr
      simp only [AuthJob.spends, AuthJob.own, hlogin] at hl
      cases hl
    | some row =>
      obtain ⟨r, hmem, hid, hown⟩ := hr
      refine Or.inr ⟨hl, ?_⟩
      cases hown.symm.trans hl
      exact over_of_exchange hu hnew hmem hid user_id
  | sweeping user_id reset_token todo done =>
    cases todo with
    | nil =>
      cases h
      cases reset_token with
      | none =>
        -- no other request with a token of its own answers that it went well
        unfold AuthJob.spends AuthCall.bulkReply AuthJob.own at hl
        cases hcall : job.call with
        | reset_password payload => exact absurd hcall (hr payload)
        | _ =>
          simp only [hcall] at hl
          cases hl
      | some row =>
        obtain ⟨⟨payload, hcall⟩, r, hmem, hid, hown⟩ := hr
        rw [hcall] at hl ⊢
        have hl : job.own = some l := hl
        refine Or.inr ⟨hl, ?_⟩
        cases hown.symm.trans hl
        exact over_of_reset hu hmem hid user_id done
    | cons row todo =>
      simp only [AuthJob.next] at h
      split at h <;> cases h <;> cases hl
  | ended reply => cases h
  | _ =>
    cases h
    cases hl

end

/-! ## The run -/

theorem AuthJob.held {job : AuthJob} {t : AuthStage} {l : AuthLock} (h : job.claims t = some l) :
    l ∈ job.holds t := by
  cases t with
  | issuing user_id stored_token =>
    cases stored_token with
    | none => cases h
    | some row => exact Option.mem_toList.mpr h
  | revoking user_id reset_token =>
    cases reset_token with
    | none => cases h
    | some row => exact Option.mem_toList.mpr h
  | sweeping user_id reset_token todo done =>
    cases reset_token with
    | none => cases h
    | some row => exact List.mem_append_left _ (Option.mem_toList.mpr h)
  | _ => cases h

/-- What holds of a request that opens or revokes sessions; the others neither
claim nor use up a token. -/
def TokenJob.within (f : AuthJob → AuthStage → Option AuthLock) (job : TokenJob) :
    TokenStage → Option AuthLock
  | .auth stage =>
    match job.call with
    | .auth call => f (job.auth call) stage
    | _ => none
  | _ => none

omit [Platform] in
theorem TokenJob.within_auth {f : AuthJob → AuthStage → Option AuthLock} {job : TokenJob}
    {call : AuthCall} (hcall : job.call = .auth call) (stage : AuthStage) :
    job.within f (.auth stage) = f (job.auth call) stage := by
  unfold TokenJob.within
  simp only [hcall]

omit [Platform] in
theorem TokenJob.within_some {f : AuthJob → AuthStage → Option AuthLock} {job : TokenJob}
    {t : TokenStage} {l : AuthLock} (h : job.within f t = some l) :
    ∃ call stage, job.call = .auth call ∧ t = .auth stage ∧ f (job.auth call) stage = some l := by
  cases t with
  | auth stage =>
    unfold TokenJob.within at h
    cases hcall : job.call with
    | auth call =>
      simp only [hcall] at h
      exact ⟨call, stage, rfl, rfl, h⟩
    | _ =>
      simp only [hcall] at h
      cases h
  | _ => cases h

variable {ι : Type} {jobs : ι → TokenJob} {g : State ι Store TokenStage}

/-- The secrets that the transactions draw are new, and apart. -/
structure FreshSecrets (jobs : ι → TokenJob) (s₀ : Store) : Prop where
  fresh : ∀ i, UnusedHash (jobs i).env.token_hash s₀
  apart : ∀ i j, (jobs i).env.token_hash = (jobs j).env.token_hash → i = j

structure TokensKept (jobs : ι → TokenJob) (g : State ι Store TokenStage) : Prop where
  unique : UniqueTokens g.shared
  unused : ∀ i, (g.locals i).finished = false → UnusedHash (jobs i).env.token_hash g.shared
  rests : ∀ i call stage, (jobs i).call = .auth call → g.locals i = .auth stage →
    Rests ((jobs i).auth call) g.shared stage

theorem tokens_begin {s₀ : Store} (hs : UniqueTokens s₀) (hf : FreshSecrets jobs s₀) :
    TokensKept jobs (token_begin jobs s₀) where
  unique := hs
  unused i _ := hf.fresh i
  rests i call stage hcall hstage := by
    have hfirst : (jobs i).call.first = .auth stage := hstage
    rw [hcall] at hfirst
    cases hfirst
    trivial

theorem TokensKept.move [DecidableEq ι] (h : TokensKept jobs g)
    (hapart : ∀ i j, (jobs i).env.token_hash = (jobs j).env.token_hash → i = j) {i : ι} {s' : Store}
    {t' : TokenStage} (hmove : TokenMove (jobs i) g.shared (g.locals i) s' t') :
    TokensKept jobs (g.move i (s', t')) := by
  have hsteps := hmove.steps
  have hunused := h.unused i hmove.unfinished
  refine ⟨hsteps.unique hunused h.unique, ?_, ?_⟩
  · intro j hj
    rw [move_shared]
    by_cases hji : j = i
    · subst hji
      rw [move_self] at hj
      rcases hmove.writes_last with hsame | hfinished
      · rw [hsame]
        exact hunused
      · rw [hfinished] at hj
        cases hj
    · rw [move_other hji] at hj
      exact hsteps.unused (h.unused j hj) fun heq => hji (hapart i j heq).symm
  · intro j call stage hcall hstage
    rw [move_shared]
    by_cases hji : j = i
    · subst hji
      rw [move_self] at hstage
      generalize ht : g.locals j = t at hmove
      cases hmove with
      | auth hcall' hnext =>
        rw [hcall] at hcall'
        cases hcall'
        cases hstage
        exact auth_rests hnext (h.rests j call _ hcall ht)
      | read hother => exact absurd hcall (hother call)
      | left hother => exact absurd hcall (hother call)
      | closed hother => exact absurd hcall (hother call)
      | forgot hother => exact absurd hcall (hother call)
    · rw [move_other hji] at hstage
      exact (h.rests j call stage hcall hstage).steps hsteps

variable [Fintype ι] [DecidableEq ι]

omit [Fintype ι] [DecidableEq ι] in
/-- The transactions use up tokens as keys that are spent once. -/
theorem tokens_spend (jobs : ι → TokenJob) :
    Spends (fun i => token_transaction (jobs i)) (fun i => (jobs i).within AuthJob.claims)
      (fun i => (jobs i).within AuthJob.spends) Over (TokensKept jobs) where
  held := by
    intro i t l hl
    obtain ⟨call, stage, hcall, rfl, hclaims⟩ := TokenJob.within_some hl
    show l ∈ (jobs i).holds (.auth stage)
    unfold TokenJob.holds
    simp only [hcall]
    exact AuthJob.held hclaims
  gone := by
    intro g i p hg hp l hl
    have hmove := TokenJob.move hp
    exact hmove.steps.over (hg.unused i hmove.unfinished) hl
  claimed := by
    rintro g i ⟨s', t'⟩ hg hp l hl
    obtain ⟨call, stage', hcall, ht', hclaims⟩ := TokenJob.within_some hl
    have hmove := TokenJob.move hp
    dsimp only at ht'
    subst ht'
    generalize ht : g.locals i = t at hmove
    cases hmove with
    | auth hcall' hnext =>
      rw [hcall] at hcall'
      cases hcall'
      rw [TokenJob.within_auth hcall]
      exact auth_claims hnext hclaims
    | read _ _ hother => exact absurd rfl (hother stage')
  spent := by
    rintro g i ⟨s', t'⟩ hg hp l hl
    obtain ⟨call, stage', hcall, ht', hspends⟩ := TokenJob.within_some hl
    have hmove := TokenJob.move hp
    have hunused := hg.unused i hmove.unfinished
    dsimp only at ht'
    subst ht'
    generalize ht : g.locals i = t at hmove
    cases hmove with
    | auth hcall' hnext =>
      rw [hcall] at hcall'
      cases hcall'
      rw [TokenJob.within_auth hcall, TokenJob.within_auth hcall]
      exact auth_spends hnext (hg.rests i call _ hcall ht) hg.unique hunused hspends
    | read _ _ hother => exact absurd rfl (hother stage')

theorem tokens_run {s₀ : Store} (hs : UniqueTokens s₀) (hf : FreshSecrets jobs s₀) (turns : List ι) :
    TokensKept jobs (run.after (token_turn jobs) (token_begin jobs s₀) turns) ∧
      Once (fun i => (jobs i).within AuthJob.claims) (fun i => (jobs i).within AuthJob.spends) Over
        (run.after (token_turn jobs) (token_begin jobs s₀) turns) := by
  refine (tokens_spend jobs).once (tokens_begin hs hf) ?_ ?_ ?_ turns
  · intro g i p hg hp
    exact hg.move hf.apart (TokenJob.move hp)
  · intro i
    show (jobs i).holds (jobs i).call.first = []
    cases hcall : (jobs i).call <;> simp [TokenCall.first, TokenJob.holds, AuthJob.holds, hcall]
  · intro i
    show (jobs i).within AuthJob.spends (jobs i).call.first = none
    cases hcall : (jobs i).call <;> simp [TokenCall.first, TokenJob.within, AuthJob.spends, hcall]

/-! ## The laws -/

/-- The request has exchanged the refresh token: it answered with a new session. -/
def Exchanges (jobs : ι → TokenJob) (g : State ι Store TokenStage) (token_hash : Text) (i : ι) : Prop :=
  (∃ raw, (jobs i).call = .auth (.refresh (some raw)) ∧ hash_refresh_token raw = token_hash) ∧
    ∃ body, g.locals i = .auth (.ended (.ok body))

/-- The request has changed a password with the reset token. -/
def Redeems (jobs : ι → TokenJob) (g : State ι Store TokenStage) (token_hash : Text) (i : ι) : Prop :=
  (∃ payload, (jobs i).call = .auth (.reset_password payload) ∧
    hash_password_reset_token payload.token = token_hash) ∧
      ∃ body, g.locals i = .auth (.ended (.ok body))

/-- The session of the first token was exchanged for that of the second. -/
def Replaces (jobs : ι → TokenJob) (g : State ι Store TokenStage) (old new : Text) : Prop :=
  ∃ i, Exchanges jobs g old i ∧ new = hash_refresh_token (jobs i).env.secret

/-- The session of the second token descends from that of the first. -/
def Descends (jobs : ι → TokenJob) (g : State ι Store TokenStage) : Text → Text → Prop :=
  Relation.ReflTransGen (Replaces jobs g)

/-- A refresh that locks a row locks that of its token. -/
theorem AuthJob.own_of_refresh {job : AuthJob} {raw : Text} (hcall : job.call = .refresh (some raw))
    (h : job.own.isSome = true) : job.own = some (.session (hash_refresh_token raw)) := by
  unfold AuthJob.own at h ⊢
  rw [hcall] at h ⊢
  dsimp only at h ⊢
  split <;> rename_i hlimited
  · rw [if_pos hlimited] at h
    cases h
  · rw [if_neg hlimited] at h
    cases hraw : presentCookie (some raw) with
    | none =>
      rw [hraw] at h
      cases h
    | some raw' =>
      obtain ⟨heq, _⟩ := Option.filter_eq_some_iff.mp hraw
      cases heq
      rfl

omit [Fintype ι] [DecidableEq ι] in
theorem spends_of_exchanges (h : TokensKept jobs g) {token_hash : Text} {i : ι}
    (he : Exchanges jobs g token_hash i) :
    (jobs i).within AuthJob.spends (g.locals i) = some (.session token_hash) := by
  obtain ⟨⟨raw, hcall, rfl⟩, body, ht⟩ := he
  have hsome := h.rests i _ _ hcall ht raw rfl
  rw [ht, TokenJob.within_auth hcall]
  exact AuthJob.own_of_refresh rfl hsome

omit [Fintype ι] [DecidableEq ι] in
theorem spends_of_redeems {token_hash : Text} {i : ι} (hr : Redeems jobs g token_hash i) :
    (jobs i).within AuthJob.spends (g.locals i) = some (.reset_token token_hash) := by
  obtain ⟨⟨payload, hcall, rfl⟩, body, ht⟩ := hr
  rw [ht, TokenJob.within_auth hcall]
  rfl

/-- A step that adds a session or changes a password ends its transaction with success. -/
theorem auth_succeeds {job : AuthJob} {s s' : Store} {t t' : AuthStage}
    (h : job.next s t = some (s', t')) :
    (s'.users = s.users ∧ s'.refresh_tokens.length = s.refresh_tokens.length) ∨
      ∃ body, t' = .ended (.ok body) := by
  have hlength : ∀ rows, (revokeRows rows (job.env.clock 1) s).refresh_tokens.length =
      s.refresh_tokens.length := fun rows => List.length_map ..
  cases t with
  | issuing user_id stored_token =>
    cases h
    exact Or.inr ⟨_, rfl⟩
  | expiring stored_token =>
    cases h
    exact Or.inl ⟨rfl, List.length_map ..⟩
  | sweeping user_id reset_token todo done =>
    cases todo with
    | nil =>
      cases h
      cases hcall : job.call with
      | refresh raw =>
        refine Or.inl ⟨?_, ?_⟩
        · cases reset_token <;> rfl
        · cases reset_token <;> exact hlength done
      | _ => exact Or.inr ⟨_, rfl⟩
    | cons row todo =>
      simp only [AuthJob.next] at h
      split at h <;> cases h <;> exact Or.inl ⟨rfl, rfl⟩
  | ended reply => cases h
  | _ =>
    cases h
    exact Or.inl ⟨rfl, rfl⟩

theorem token_turn_cases (jobs : ι → TokenJob) (g : State ι Store TokenStage) (i : ι) :
    token_turn jobs g i = g ∨ ∃ s' t', TokenMove (jobs i) g.shared (g.locals i) s' t' ∧
      token_turn jobs g i = g.move i (s', t') := by
  rcases lockStep_cases (fun i => token_transaction (jobs i)) g i with heq | ⟨s', t', hnext, heq⟩
  · exact Or.inl heq
  · exact Or.inr ⟨s', t', TokenJob.move hnext, heq⟩

/-- What a turn of a request does that adds a session or changes a password. -/
theorem turn_succeeds {i : ι} {call : AuthCall} (hcall : (jobs i).call = .auth call)
    (hwrites : (token_turn jobs g i).shared.users ≠ g.shared.users ∨
      (token_turn jobs g i).shared.refresh_tokens.length ≠ g.shared.refresh_tokens.length) :
    (∀ reply, g.locals i ≠ .auth (.ended reply)) ∧
      ∃ body, (token_turn jobs g i).locals i = .auth (.ended (.ok body)) := by
  rcases token_turn_cases jobs g i with heq | ⟨s', t', hmove, heq⟩
  · rw [heq] at hwrites
    rcases hwrites with h | h <;> exact absurd rfl h
  · rw [heq, move_shared] at hwrites
    rw [heq, move_self]
    have hunfinished := hmove.unfinished
    generalize g.locals i = t at hmove hunfinished ⊢
    refine ⟨fun reply ht => ?_, ?_⟩
    · rw [ht] at hunfinished
      cases hunfinished
    · cases hmove with
      | auth _ hnext =>
        rcases auth_succeeds hnext with ⟨husers, hlength⟩ | ⟨body, rfl⟩
        · rcases hwrites with h | h
          · exact absurd husers h
          · exact absurd hlength h
        · exact ⟨body, rfl⟩
      | read hother => exact absurd hcall (hother call)
      | left hother => exact absurd hcall (hother call)
      | closed hother => exact absurd hcall (hother call)
      | forgot hother => exact absurd hcall (hother call)

/-- Each token is used once, and the sessions that descend from one form a
chain with at most one open end. The last two fields tie the answers of the
requests to what they write. -/
structure UsedOnce (jobs : ι → TokenJob) (g : State ι Store TokenStage) : Prop where
  exchanged : ∀ token_hash i j, Exchanges jobs g token_hash i → Exchanges jobs g token_hash j → i = j
  redeemed : ∀ token_hash i j, Redeems jobs g token_hash i → Redeems jobs g token_hash j → i = j
  chain : ∀ first a b, Descends jobs g first a → Descends jobs g first b →
    Descends jobs g a b ∨ Descends jobs g b a
  one_open : ∀ first, ∀ r ∈ g.shared.refresh_tokens, ∀ r' ∈ g.shared.refresh_tokens,
    Descends jobs g first r.token_hash → Descends jobs g first r'.token_hash →
      r.revoked_at = none → r'.revoked_at = none → r = r'
  issues : ∀ i raw, (jobs i).call = .auth (.refresh (some raw)) →
    (token_turn jobs g i).shared.refresh_tokens.length ≠ g.shared.refresh_tokens.length →
      ¬ Exchanges jobs g (hash_refresh_token raw) i ∧
        Exchanges jobs (token_turn jobs g i) (hash_refresh_token raw) i
  changes : ∀ i payload, (jobs i).call = .auth (.reset_password payload) →
    (token_turn jobs g i).shared.users ≠ g.shared.users →
      ¬ Redeems jobs g (hash_password_reset_token payload.token) i ∧
        Redeems jobs (token_turn jobs g i) (hash_password_reset_token payload.token) i

/-- In every run of sign-ins, refreshes, logouts, revocations, password changes
and resets, each refresh token is exchanged once and each reset token changes
the password once. -/
theorem tokens_are_used_once {s₀ : Store} (hs : UniqueTokens s₀) (hf : FreshSecrets jobs s₀)
    (turns : List ι) :
    UsedOnce jobs (run.after (token_turn jobs) (token_begin jobs s₀) turns) := by
  obtain ⟨hkept, honce⟩ := tokens_run hs hf turns
  generalize run.after (token_turn jobs) (token_begin jobs s₀) turns = g at hkept honce
  have hexchanged : ∀ token_hash i j, Exchanges jobs g token_hash i → Exchanges jobs g token_hash j →
      i = j := by
    intro token_hash i j hi hj
    exact honce.once i j _ (spends_of_exchanges hkept hi) (spends_of_exchanges hkept hj)
  have hreplaced : ∀ a b c, Replaces jobs g a b → Replaces jobs g a c → b = c := by
    rintro a b c ⟨i, hi, rfl⟩ ⟨j, hj, rfl⟩
    rw [hexchanged a i j hi hj]
  have hclosed : ∀ a b, Replaces jobs g a b →
      ¬ ∃ r ∈ g.shared.refresh_tokens, r.token_hash = a ∧ r.revoked_at = none := by
    rintro a b ⟨i, hi, rfl⟩ ⟨r, hr, hhash, hopen⟩
    have hover := honce.gone i _ (spends_of_exchanges hkept hi)
    exact hover.spent r hr hhash hopen
  refine ⟨hexchanged, ?_, ?_, ?_, ?_, ?_⟩
  · intro token_hash i j hi hj
    exact honce.once i j _ (spends_of_redeems hi) (spends_of_redeems hj)
  · intro first a b ha hb
    exact Relation.ReflTransGen.total_of_right_unique hreplaced ha hb
  · intro first r hr r' hr' hd hd' hopen hopen'
    have hsame : r.token_hash = r'.token_hash :=
      run.live_unique (fun a => ∃ r ∈ g.shared.refresh_tokens, r.token_hash = a ∧ r.revoked_at = none)
        hreplaced hclosed hd hd' ⟨r, hr, rfl, hopen⟩ ⟨r', hr', rfl, hopen'⟩
    exact hkept.unique.session_hashes.eq hr hr' hsame
  · intro i raw hcall hgrown
    obtain ⟨hbefore, hafter⟩ := turn_succeeds hcall (Or.inr hgrown)
    exact ⟨fun h => h.2.elim fun body ht => hbefore _ ht, ⟨raw, hcall, rfl⟩, hafter⟩
  · intro i payload hcall hchanged
    obtain ⟨hbefore, hafter⟩ := turn_succeeds hcall (Or.inl hchanged)
    exact ⟨fun h => h.2.elim fun body ht => hbefore _ ht, ⟨payload, hcall, rfl⟩, hafter⟩

/-! ## One cookie sent twice -/

/-- Two requests with the refresh token of the login of the sample run. -/
def sameCookie (i : Fin 2) : TokenJob where
  env := sampleDraws 2 i
  call := .auth (.refresh (some (sampleEnv 1).secret))
  scan := id
  scan_perm _ := .refl _
  scan_resets := id
  scan_resets_perm _ := .refl _

/-- The request has ended, and not in a failure. -/
def TokenStage.answered : TokenStage → Bool
  | .auth (.ended reply) => reply.isOk
  | _ => false

omit [Platform] in
theorem TokenStage.ended_of_answered {t : TokenStage} (h : t.answered = true) :
    ∃ body, t = .auth (.ended (.ok body)) := by
  unfold TokenStage.answered at h
  split at h
  · rename_i reply
    cases reply with
    | error _ => cases h
    | ok body => exact ⟨body, rfl⟩
  · cases h

omit [Platform] in
/-- The first request exchanges the token; the second one waits for its row, finds
it revoked, and revokes the new session too. -/
theorem a_token_sent_twice_is_exchanged_once :
    let s₀ := run.after (@serve samplePlatform) Store.empty (sampleRun.drop 8)
    let turns : List (Fin 2) := [1, 1, 1, 1, 0, 1, 0]
    let g := run.after (@token_turn samplePlatform _ _ _ sameCookie) (token_begin sameCookie s₀) turns
    let token_hash := @hash_refresh_token samplePlatform (sampleEnv 1).secret
    @Exchanges samplePlatform _ sameCookie g token_hash 0 ∧
      (∀ r ∈ g.shared.refresh_tokens, r.revoked_at.isSome = true) ∧
      ∀ i, @Exchanges samplePlatform _ sameCookie g token_hash i → i = 0 := by
  intro s₀ turns g token_hash
  have hs : UniqueTokens s₀ := by
    constructor <;> (unfold UniqueOn; decide +kernel)
  have hf : @FreshSecrets samplePlatform _ sameCookie s₀ := by
    refine @FreshSecrets.mk samplePlatform _ _ _ (fun i => ⟨?_, ?_⟩) (by decide +kernel)
    all_goals revert i; decide +kernel
  have hfirst : @Exchanges samplePlatform _ sameCookie g token_hash 0 :=
    ⟨⟨(sampleEnv 1).secret, rfl, rfl⟩, TokenStage.ended_of_answered (by decide +kernel)⟩
  obtain ⟨hexchanged, _⟩ := @tokens_are_used_once samplePlatform _ _ _ _ s₀ hs hf turns
  exact ⟨hfirst, by decide +kernel, fun i hi => hexchanged token_hash i 0 hi hfirst⟩

end pulseforge

-- Reset tokens and passwords over whole runs. A request for a token uses up the
-- older ones of the user, and a reset uses up its own. A password change by the
-- user uses up none: a token that was issued before it can still set the password.
import PulseForge.WriteIntegrity

open txn table

namespace pulseforge

variable [Platform]

/-! ## Usable tokens and password changes -/

/-- The token is unused and unexpired. -/
def PasswordResetToken.Usable (row : PasswordResetToken) (now : Int) : Prop :=
  row.used_at = none ∧ has_expired row.expires_at now = false

/-- The request passes the checks of the handler, which sets a new password of the user. -/
inductive ChangesPassword (e : Env) (s : Store) (user_id : UUID) : Request → Prop
  | by_password (credentials : Option Bearer) (payload : ChangePasswordRequest) (user : User)
      (hu : get_current_user credentials e.now s = .ok user) (hid : user.id = user_id)
      (hcurrent : Platform.verify_password payload.current_password user.password_hash = true)
      (hnew : Platform.verify_password payload.new_password user.password_hash = false) :
      ChangesPassword e s user_id (.auth (.change_password credentials payload))
  | by_token (payload : ResetPasswordRequest) (row : PasswordResetToken)
      (hr : usableResetToken payload.token (e.clock 1) s = .ok row) (hid : row.user_id = user_id) :
      ChangesPassword e s user_id (.auth (.reset_password payload))

/-- After the past, a user has one usable token at most, and none that was there
before a change of the password is usable from the time of the change on. -/
structure TokensEndWithPassword (past : List (Env × Request)) : Prop where
  one_usable : ∀ now, ∀ a ∈ (run.after serve Store.empty past).password_reset_tokens,
    ∀ b ∈ (run.after serve Store.empty past).password_reset_tokens,
      a.user_id = b.user_id → a.Usable now → b.Usable now → a = b
  none_outlives : ∀ later e r before, past = later ++ (e, r) :: before → ∀ user_id,
    ChangesPassword e (run.after serve Store.empty before) user_id r →
      ∀ row ∈ (run.after serve Store.empty past).password_reset_tokens, row.user_id = user_id →
        row.id ∈ (run.after serve Store.empty before).password_reset_tokens.map PasswordResetToken.id →
          ∀ now, e.clock 1 ≤ now → ¬ row.Usable now

/-- If the request is an accepted `change_password`, its user has no usable token. -/
def MeetsNoToken (s : Store) (c : Env × Request) : Prop :=
  ∀ credentials payload, c.2 = .auth (.change_password credentials payload) →
    ∀ user_id, ChangesPassword c.1 s user_id c.2 →
      ∀ row ∈ s.password_reset_tokens, row.user_id = user_id → ¬ row.Usable (c.1.clock 1)

/-! ## What a request does to the tokens -/

/-- The three ways in which a request leaves the table. -/
inductive ResetMove (e : Env) (s s' : Store) : Prop
  | kept (h : s'.password_reset_tokens = s.password_reset_tokens)
  | issued (user_id : UUID) (h : s'.password_reset_tokens =
      (replaceResetTokens user_id (e.clock 1) (new_reset_token e user_id) s).password_reset_tokens)
  | used (token_id : UUID) (h : s'.password_reset_tokens =
      (useResetToken token_id (e.clock 1) s).password_reset_tokens)

section
variable {e : Env} {s s' : Store}

theorem auth_reset_move {r : AuthRequest} {reply : Except Failure Body}
    (ho : AuthOutcome e s r reply s') : ResetMove e s s' := by
  cases ho with
  | forgot email user => exact .issued user.id rfl
  | password_reset payload row => exact .used row.id rfl
  | _ => exact .kept rfl

theorem reset_move (e : Env) (r : Request) (s : Store) : ResetMove e s (handle e r s).2 := by
  apply served_cases (P := fun _ t => ResetMove e s t)
  · exact fun _ => .kept rfl
  · exact fun _ _ _ ho => auth_reset_move ho
  · intro _ _ _ _ _ hw
    cases hw <;> exact .kept rfl
  · intro _ _ _ _ _ _ ho
    cases ho with
    | stored _ _ _ _ _ he =>
      obtain ⟨_, _, rfl⟩ := he.store_eq
      exact .kept rfl
    | _ => exact .kept rfl

/-- At most one token of a user is unused. -/
def OneUnused (s : Store) : Prop :=
  ∀ a ∈ s.password_reset_tokens, ∀ b ∈ s.password_reset_tokens,
    a.user_id = b.user_id → a.used_at = none → b.used_at = none → a = b

omit [Platform] in
/-- An update that uses tokens up leaves an unused one as it was. -/
theorem unused_of_update {p : PasswordResetToken → Bool} {now : Int} {rows : List PasswordResetToken}
    {row : PasswordResetToken}
    (h : row ∈ updateWhere p (fun r => { r with used_at := some now }) rows) (hopen : row.used_at = none) :
    row ∈ rows ∧ p row = false := by
  obtain ⟨r, hr, rfl⟩ := mem_updateWhere.mp h
  split at hopen
  · cases hopen
  · rename_i hp
    rw [if_neg hp]
    exact ⟨hr, by simpa using hp⟩

omit [Platform] in
theorem ids_of_update {p : PasswordResetToken → Bool} {now : Int} {rows : List PasswordResetToken} :
    (updateWhere p (fun r => { r with used_at := some now }) rows).map PasswordResetToken.id =
      rows.map PasswordResetToken.id :=
  map_updateWhere fun _ _ _ => rfl

/-- The token that a request for one adds is the only unused one of the user. -/
theorem unused_of_issued {user_id : UUID} {row : PasswordResetToken}
    (h : row ∈ (replaceResetTokens user_id (e.clock 1) (new_reset_token e user_id) s).password_reset_tokens)
    (hopen : row.used_at = none) :
    row ∈ s.password_reset_tokens ∧ row.user_id ≠ user_id ∨ row = new_reset_token e user_id := by
  rcases List.mem_append.mp h with hold | hnew
  · obtain ⟨hmem, hp⟩ := unused_of_update hold hopen
    refine Or.inl ⟨hmem, fun heq => ?_⟩
    simp [heq, hopen] at hp
  · exact Or.inr (List.mem_singleton.mp hnew)

theorem ResetMove.one_unused (h : ResetMove e s s') (hs : OneUnused s) : OneUnused s' := by
  intro a ha b hb huser haopen hbopen
  cases h with
  | kept h =>
    rw [h] at ha hb
    exact hs a ha b hb huser haopen hbopen
  | issued user_id h =>
    rw [h] at ha hb
    rcases unused_of_issued ha haopen with ⟨ha, hother⟩ | rfl <;>
      rcases unused_of_issued hb hbopen with ⟨hb, hother'⟩ | rfl
    · exact hs a ha b hb huser haopen hbopen
    · exact absurd huser hother
    · exact absurd huser.symm hother'
    · rfl
  | used token_id h =>
    rw [h] at ha hb
    exact hs a (unused_of_update ha haopen).1 b (unused_of_update hb hbopen).1 huser haopen hbopen

/-- A token stays in the table. -/
theorem ResetMove.ids_stay (h : ResetMove e s s') {id : UUID}
    (hid : id ∈ s.password_reset_tokens.map PasswordResetToken.id) :
    id ∈ s'.password_reset_tokens.map PasswordResetToken.id := by
  cases h with
  | kept h => rwa [h]
  | issued user_id h =>
    rw [h]
    simp only [replaceResetTokens, List.map_append, List.mem_append, ids_of_update]
    exact Or.inl hid
  | used token_id h =>
    rw [h]
    simpa only [useResetToken, ids_of_update] using hid

omit [Platform] in
theorem Fresh.reset_token (h : Fresh e s) (k : Nat) :
    ∀ r ∈ s.password_reset_tokens, r.id ≠ e.uuid k := by
  refine h.of_ids (fun id hid => ?_) k
  simp only [Store.ids, List.mem_append]
  tauto

/-- A usable token whose id was there before was there, as it is. -/
theorem ResetMove.usable_before (h : ResetMove e s s') (hf : Fresh e s) {row : PasswordResetToken}
    (hrow : row ∈ s'.password_reset_tokens)
    (hid : row.id ∈ s.password_reset_tokens.map PasswordResetToken.id) {now : Int}
    (husable : row.Usable now) : row ∈ s.password_reset_tokens := by
  cases h with
  | kept h => rwa [h] at hrow
  | issued user_id h =>
    rw [h] at hrow
    rcases unused_of_issued hrow husable.1 with ⟨hmem, _⟩ | rfl
    · exact hmem
    · obtain ⟨old, hold, hsame⟩ := List.mem_map.mp hid
      exact absurd hsame (hf.reset_token 0 old hold)
  | used token_id h =>
    rw [h] at hrow
    exact (unused_of_update hrow husable.1).1

/-! ## The two changes of a password -/

theorem change_password_served {credentials : Option Bearer} {payload : ChangePasswordRequest}
    {user : User} (hu : get_current_user credentials e.now s = .ok user)
    (hcurrent : Platform.verify_password payload.current_password user.password_hash = true)
    (hnew : Platform.verify_password payload.new_password user.password_hash = false) :
    (handle e (.auth (.change_password credentials payload)) s).2 =
      passwordChanged e user.id payload.new_password s := by
  have hends : Ends (auth_handler e (.change_password credentials payload)) ⟨s, s⟩
      fun _ s' => s'.committed = passwordChanged e user.id payload.new_password s := by
    unfold auth_handler change_password
    simp only [ends_answer, ends_bind, ends_ask, hu, hcurrent, hnew]
    rfl
  exact hends

theorem reset_password_served {payload : ResetPasswordRequest} {row : PasswordResetToken}
    (hr : usableResetToken payload.token (e.clock 1) s = .ok row) :
    (handle e (.auth (.reset_password payload)) s).2 =
      passwordReset e row.user_id row.id payload.new_password s := by
  have hends : Ends (auth_handler e (.reset_password payload)) ⟨s, s⟩
      fun _ s' => s'.committed = passwordReset e row.user_id row.id payload.new_password s := by
    unfold auth_handler reset_password
    simp only [ends_answer, ends_bind, ends_ask, hr]
    rfl
  exact hends

theorem usable_of_ok {raw : Text} {now : Int} {row : PasswordResetToken}
    (h : usableResetToken raw now s = .ok row) : row ∈ s.password_reset_tokens ∧ row.used_at = none := by
  unfold usableResetToken at h
  split at h
  · cases h
  · rename_i stored hfind
    split at h
    · cases h
    · rename_i hopen
      have hmem := List.mem_of_find?_eq_some hfind
      simp only [Bool.or_eq_true, not_or, Bool.not_eq_true, Option.isSome_eq_false_iff,
        Option.isNone_iff_eq_none] at hopen
      split at h
      · cases h
      · split at h <;> cases h
        exact ⟨hmem, hopen.1⟩

/-- A reset leaves no unused token of its user. -/
theorem no_unused_after_reset (hs : OneUnused s) {payload : ResetPasswordRequest}
    {used : PasswordResetToken} (hr : usableResetToken payload.token (e.clock 1) s = .ok used) :
    ∀ row ∈ (handle e (.auth (.reset_password payload)) s).2.password_reset_tokens,
      row.user_id = used.user_id → row.used_at ≠ none := by
  intro row hrow huser hopen
  obtain ⟨hmem, hunused⟩ := usable_of_ok hr
  rw [reset_password_served hr] at hrow
  obtain ⟨hold, hother⟩ := unused_of_update (p := fun r => r.id = used.id) hrow hopen
  rw [hs row hold used hmem huser hopen hunused] at hother
  simp at hother

/-- After a change of the password, no token of the user is usable, if none was
before a change by the user. -/
theorem no_usable_after_change (hs : OneUnused s) {r : Request} {user_id : UUID}
    (hc : ChangesPassword e s user_id r) (hmeets : MeetsNoToken s (e, r)) :
    ∀ row ∈ (handle e r s).2.password_reset_tokens, row.user_id = user_id →
      ∀ now, e.clock 1 ≤ now → ¬ row.Usable now := by
  rintro row hrow huser now hnow ⟨hopen, hlive⟩
  have hthen : has_expired row.expires_at (e.clock 1) = false := by
    simp only [has_expired, decide_eq_false_iff_not] at hlive ⊢
    omega
  have hchange := hc
  cases hc with
  | by_password credentials payload user hu hid hcurrent hnew =>
    rw [change_password_served hu hcurrent hnew] at hrow
    exact hmeets credentials payload rfl user_id hchange row hrow huser ⟨hopen, hthen⟩
  | by_token payload used hr hid =>
    exact no_unused_after_reset hs hr row hrow (huser.trans hid.symm) hopen

end

/-! ## Whole runs -/

section
variable {past : List (Env × Request)}

theorem one_unused_after (past : List (Env × Request)) : OneUnused (run.after serve Store.empty past) := by
  induction past with
  | nil => exact fun a ha => nomatch ha
  | cons c past ih => exact (reset_move c.1 c.2 _).one_unused ih

theorem ids_stay_after (later before : List (Env × Request)) {id : UUID}
    (hid : id ∈ (run.after serve Store.empty before).password_reset_tokens.map PasswordResetToken.id) :
    id ∈ (run.after serve Store.empty (later ++ before)).password_reset_tokens.map
      PasswordResetToken.id := by
  induction later with
  | nil => exact hid
  | cons c later ih => exact (reset_move c.1 c.2 _).ids_stay ih

/-- The induction is on the requests after `before`: none makes an old token usable again. -/
theorem usable_before (later before : List (Env × Request))
    (hfresh : run.Every serve Store.empty (fun s c => Fresh c.1 s) (later ++ before))
    {row : PasswordResetToken} {now : Int}
    (hrow : row ∈ (run.after serve Store.empty (later ++ before)).password_reset_tokens)
    (hid : row.id ∈ (run.after serve Store.empty before).password_reset_tokens.map PasswordResetToken.id)
    (husable : row.Usable now) : row ∈ (run.after serve Store.empty before).password_reset_tokens := by
  induction later with
  | nil => exact hrow
  | cons c later ih =>
    have hthere := ids_stay_after later before hid
    exact ih hfresh.1 ((reset_move c.1 c.2 _).usable_before hfresh.2 hrow hthere husable)

theorem tokensEndWithPassword (hfresh : run.Every serve Store.empty (fun s c => Fresh c.1 s) past)
    (hmeets : run.Every serve Store.empty MeetsNoToken past) : TokensEndWithPassword past := by
  constructor
  · intro now a ha b hb huser hausable hbusable
    exact one_unused_after past a ha b hb huser hausable.1 hbusable.1
  · rintro later e r before rfl user_id hchange row hrow huser hid now hnow husable
    have hstep : MeetsNoToken (run.after serve Store.empty before) (e, r) :=
      ((run.every_append _ _).mp hmeets).1.2
    have hthere := ids_stay_after [(e, r)] before hid
    have hold := usable_before later ((e, r) :: before) hfresh hrow hthere husable
    exact no_usable_after_change (one_unused_after before) hchange hstep row hold huser now hnow husable

/-- A change by the user leaves the tokens as they were. -/
theorem meetsNoToken_of_last {c : Env × Request} (h : TokensEndWithPassword (c :: past)) :
    MeetsNoToken (run.after serve Store.empty past) c := by
  obtain ⟨e, r⟩ := c
  intro credentials payload hr user_id hchange row hrow huser
  refine h.none_outlives [] e r past rfl user_id hchange row ?_ huser (List.mem_map_of_mem hrow) _ le_rfl
  cases hchange with
  | by_password credentials payload user hu hid hcurrent hnew =>
    show row ∈ (handle e (.auth (.change_password credentials payload)) _).2.password_reset_tokens
    rw [change_password_served hu hcurrent hnew]
    exact hrow
  | by_token => cases hr

end

/-- In every state of a run, reset tokens end with the password that they were
issued for, exactly if every accepted `change_password` of the run meets no usable
token of its user. -/
theorem reset_tokens_end_with_the_password_iff {past : List (Env × Request)}
    (hfresh : run.Every serve Store.empty (fun s c => Fresh c.1 s) past) :
    (∀ later before, past = later ++ before → TokensEndWithPassword before) ↔
      run.Every serve Store.empty MeetsNoToken past := by
  constructor
  · intro h
    by_contra hnot
    obtain ⟨later, c, before, heq, hmeets⟩ := run.exists_of_not_every hnot
    exact hmeets (meetsNoToken_of_last (h later (c :: before) heq))
  · rintro hmeets later before rfl
    exact tokensEndWithPassword ((run.every_append _ _).mp hfresh).1 ((run.every_append _ _).mp hmeets).1

/-! ## A token that outlives a password -/

/-- The user of the sample runs changes the first password, or the second. -/
def firstChange : ChangePasswordRequest where
  current_password := sampleUser.password
  new_password := "quiet evening".toList
  current_password_length := by decide
  new_password_length := by decide

def secondChange : ChangePasswordRequest :=
  { firstChange with current_password := "battery staple".toList, current_password_length := by decide }

/-- A reset with the token of the sample runs. -/
def sampleReset : ResetPasswordRequest where
  token := (sampleEnv 1).secret
  new_password := "battery staple".toList
  token_length := by decide
  new_password_length := staple_length

/-- A forgotten password is reset, and then changed. -/
def resetRun : List (Env × Request) :=
  [(sampleEnv 4, .auth (.change_password (sampleBearer 0 3) secondChange)),
   (sampleEnv 3, .auth (.login ⟨sampleUser.email, "battery staple".toList, by decide⟩)),
   (sampleEnv 2, .auth (.reset_password sampleReset)),
   (sampleEnv 1, .auth (.forgot_password sampleUser.email)),
   (sampleEnv 0, .auth (.register sampleUser))]

/-- A forgotten password comes back to mind, and is changed. -/
def rememberedRun : List (Env × Request) :=
  [(sampleEnv 3, .auth (.change_password (sampleBearer 0 2) firstChange)),
   (sampleEnv 2, .auth (.login sampleLogin)),
   (sampleEnv 1, .auth (.forgot_password sampleUser.email)),
   (sampleEnv 0, .auth (.register sampleUser))]

theorem meetsNoToken_of_used {s : Store} (h : ∀ row ∈ s.password_reset_tokens, row.used_at ≠ none)
    (c : Env × Request) : MeetsNoToken s c :=
  fun _ _ _ _ _ row hrow _ husable => h row hrow husable.1

omit [Platform] in
theorem a_used_token_ends_with_the_password : @TokensEndWithPassword samplePlatform resetRun := by
  have hfresh : run.Every (@serve samplePlatform) Store.empty (fun s c => Fresh c.1 s) resetRun :=
    fresh_of_drawsInOrder [4, 3, 2, 1, 0] rfl (by decide +kernel)
  refine (@reset_tokens_end_with_the_password_iff samplePlatform resetRun hfresh).mpr ?_ [] resetRun rfl
  refine ⟨⟨⟨⟨⟨trivial, ?_⟩, ?_⟩, ?_⟩, ?_⟩, ?_⟩
  · exact @meetsNoToken_of_used samplePlatform _ (by decide +kernel) _
  · exact @meetsNoToken_of_used samplePlatform _ (by decide +kernel) _
  · intro credentials payload hr
    cases hr
  · exact @meetsNoToken_of_used samplePlatform _ (by decide +kernel) _
  · exact @meetsNoToken_of_used samplePlatform _ (by decide +kernel) _

omit [Platform] in
/-- The token from before the change sets the password once more. -/
theorem a_token_outlives_the_password :
    run.Every (@serve samplePlatform) Store.empty (fun s c => Fresh c.1 s) rememberedRun ∧
      (@handle samplePlatform (sampleEnv 4) (.auth (.reset_password sampleReset))
        (run.after (@serve samplePlatform) Store.empty rememberedRun)).1 = .ok .no_content ∧
      ¬ @TokensEndWithPassword samplePlatform rememberedRun := by
  refine ⟨fresh_of_drawsInOrder [3, 2, 1, 0] rfl (by decide +kernel), rfl, fun h => ?_⟩
  have hchange : @ChangesPassword samplePlatform (sampleEnv 3)
      (run.after (@serve samplePlatform) Store.empty (rememberedRun.drop 1)) 0
      (.auth (.change_password (sampleBearer 0 2) firstChange)) :=
    @ChangesPassword.by_password samplePlatform _ _ _ _ _ sampleMember (by decide +kernel) rfl
      (by decide +kernel) (by decide +kernel)
  exact @TokensEndWithPassword.none_outlives samplePlatform rememberedRun h [] _ _ _ rfl 0 hchange
    (@new_reset_token samplePlatform (sampleEnv 1) 0) (by decide +kernel) rfl (by decide +kernel)
    (3 * SECOND) le_rfl ⟨rfl, by decide⟩

end pulseforge

-- The password of an account, as the accepted requests tell it: the one of its
-- registration, or of the last change or reset since. A login is accepted with this
-- password and with no other.
import PulseForge.BulkRevocation
import PulseForge.SessionMoves

open txn table

namespace pulseforge

variable [Platform]

/-! ## The history specification -/

def accepted (e : Env) (r : Request) (s : Store) : Bool := (handle e r s).1.isOk

/-- The user that a bearer token names. -/
def bearerUser : Option Bearer → Option UUID
  | some (.signed token) => some token.sub
  | _ => none

/-- The password that a request gives to a user, if it is accepted. -/
def givenPassword (e : Env) (s : Store) (user_id : UUID) : Request → Option Text
  | .auth (.register payload) => if e.uuid 0 = user_id then some payload.password else none
  | .auth (.change_password credentials payload) =>
    if bearerUser credentials = some user_id then some payload.new_password else none
  | .auth (.reset_password payload) =>
    if resetUser payload.token s = some user_id then some payload.new_password else none
  | _ => none

/-- The request registers an account for the e-mail address. -/
def registers (email : Text) : Request → Bool
  | .auth (.register payload) => Platform.lower payload.email = email
  | _ => false

/-- The password that the accepted requests of a past gave a user last. -/
def lastPassword (user_id : UUID) : List (Env × Request) → Option Text
  | [] => none
  | (e, r) :: past =>
    let s := run.after serve Store.empty past
    if accepted e r s then (givenPassword e s user_id r).or (lastPassword user_id past)
    else lastPassword user_id past

/-- The user whose registration for the e-mail address was accepted. -/
def accountOf (email : Text) : List (Env × Request) → Option UUID
  | [] => none
  | (e, r) :: past =>
    if accepted e r (run.after serve Store.empty past) && registers email r then some (e.uuid 0)
    else accountOf email past

/-! ## What a request does to the accounts -/

/-- The accounts after a request: as they were, with a new one, or with a new
password for one of them, as the answer tells. -/
inductive AccountMove (e : Env) (s : Store) (r : Request) : Except Failure Body → Store → Prop
  | same {reply : Except Failure Body} {s' : Store} (husers : s'.users = s.users)
      (h : reply.isOk = false ∨
        (∀ user_id, givenPassword e s user_id r = none) ∧ ∀ email, registers email r = false) :
      AccountMove e s r reply s'
  | registered (payload : UserRegister) {reply : Except Failure Body} {s' : Store}
      (hr : r = .auth (.register payload)) (hok : reply.isOk = true)
      (hnew : ∀ u ∈ s.users, u.email ≠ Platform.lower payload.email)
      (husers : s'.users = s.users ++ [new_user e payload]) : AccountMove e s r reply s'
  | changed (user_id : UUID) (password : Text) {reply : Except Failure Body} {s' : Store}
      (hok : reply.isOk = true)
      (hgiven : ∀ u, givenPassword e s u r = if user_id = u then some password else none)
      (hr : ∀ email, registers email r = false)
      (husers : s'.users =
        (setPassword user_id (Platform.hash_password e.secret password) e.now s).users) :
      AccountMove e s r reply s'

section
variable {e : Env} {s s' : Store}

omit [Platform] in
/-- The bearer of an accepted token is its user. -/
theorem bearerUser_of_ok {credentials : Option Bearer} {now : Int} {user : User}
    (hu : get_current_user credentials now s = .ok user) : bearerUser credentials = some user.id := by
  obtain ⟨token, rfl, _, hfind, _⟩ := current_user_of_ok hu
  rw [user_id_of_find hfind]
  rfl

theorem auth_account_move {r : AuthRequest} {reply : Except Failure Body}
    (ho : AuthOutcome e s r reply s') : AccountMove e s (.auth r) reply s' := by
  cases ho with
  | registered payload hnew => exact .registered payload rfl rfl hnew rfl
  | register_refused => exact .same rfl (Or.inl rfl)
  | password_refused => exact .same rfl (Or.inl rfl)
  | reset_refused => exact .same rfl (Or.inl rfl)
  | password_changed credentials payload user hu =>
    refine .changed user.id payload.new_password rfl (fun u => ?_) (fun _ => rfl) rfl
    simp only [givenPassword, bearerUser_of_ok hu, Option.some.injEq]
  | password_reset payload row hr =>
    refine .changed row.user_id payload.new_password rfl (fun u => ?_) (fun _ => rfl) rfl
    simp only [givenPassword, resetUser_of_usable hr, Option.some.injEq]
  | _ => exact .same rfl (Or.inr ⟨fun _ => rfl, fun _ => rfl⟩)

theorem account_move (e : Env) (s : Store) (r : Request) :
    AccountMove e s r (handle e r s).1 (handle e r s).2 := by
  cases r with
  | auth r => exact auth_account_move (auth_outcome e r s)
  | tenant credentials r =>
    refine .same ?_ (Or.inr ⟨fun _ => rfl, fun _ => rfl⟩)
    rcases tenant_outcome e credentials r s with heq | ⟨_, _, hw⟩
    · rw [heq]
    · exact (tenant_accounts hw).1
  | ingest credentials payload =>
    refine .same ?_ (Or.inr ⟨fun _ => rfl, fun _ => rfl⟩)
    rcases ingest_request_outcome e credentials payload s with ⟨_, heq⟩ | ⟨_, _, _, _, ho⟩
    · rw [heq]
    · exact (ingest_accounts ho).1

end

/-! ## The accounts and the history -/

/-- The table of users tells what the past tells. -/
structure PasswordsKept (past : List (Env × Request)) (s : Store) : Prop where
  emails : ∀ email, accountOf email past = (s.users.find? fun u => u.email = email).map User.id
  hashes : ∀ u ∈ s.users, ∃ salt password, lastPassword u.id past = some password ∧
    u.password_hash = Platform.hash_password salt password

omit [Platform] in
theorem Fresh.user {e : Env} {s : Store} (h : Fresh e s) (k : Nat) : ∀ u ∈ s.users, u.id ≠ e.uuid k := by
  refine h.of_ids (fun id hid => ?_) k
  simp only [Store.ids, List.mem_append]
  tauto

omit [Platform] in
/-- A new password leaves the addresses where they are. -/
theorem findEmail_setPassword (user_id : UUID) (password_hash : Text) (now : Int) (s : Store) (email : Text) :
    ((setPassword user_id password_hash now s).users.find? fun u => u.email = email).map User.id =
      (s.users.find? fun u => u.email = email).map User.id := by
  have hfind : (setPassword user_id password_hash now s).users.find? (fun u => u.email = email) =
      (s.users.find? fun u => u.email = email).map fun u =>
        if u.id = user_id then { u with password_hash := password_hash, updated_at := now } else u := by
    refine (find?_updateWhere ?_ s.users).trans ?_
    · exact fun _ _ => rfl
    · simp only [decide_eq_true_eq]
  rw [hfind, Option.map_map]
  congr 1
  funext u
  simp only [Function.comp]
  split <;> rfl

section
variable {e : Env} {r : Request} {past : List (Env × Request)}

theorem lastPassword_kept {user_id : UUID}
    (h : accepted e r (run.after serve Store.empty past) = false ∨
      givenPassword e (run.after serve Store.empty past) user_id r = none) :
    lastPassword user_id ((e, r) :: past) = lastPassword user_id past := by
  rw [lastPassword]
  rcases h with h | h
  · simp [h]
  · simp [h]

theorem lastPassword_given {user_id : UUID} {password : Text}
    (h : accepted e r (run.after serve Store.empty past) = true)
    (hgiven : givenPassword e (run.after serve Store.empty past) user_id r = some password) :
    lastPassword user_id ((e, r) :: past) = some password := by
  rw [lastPassword]
  simp [h, hgiven]

theorem accountOf_kept {email : Text}
    (h : accepted e r (run.after serve Store.empty past) = false ∨ registers email r = false) :
    accountOf email ((e, r) :: past) = accountOf email past := by
  rw [accountOf, if_neg]
  rcases h with h | h <;> simp [h]

theorem PasswordsKept.step (h : PasswordsKept past (run.after serve Store.empty past))
    (hf : Fresh e (run.after serve Store.empty past)) :
    PasswordsKept ((e, r) :: past) (run.after serve Store.empty ((e, r) :: past)) := by
  show PasswordsKept ((e, r) :: past) (handle e r (run.after serve Store.empty past)).2
  have hmove := account_move e (run.after serve Store.empty past) r
  generalize hs' : (handle e r (run.after serve Store.empty past)).2 = s' at hmove ⊢
  generalize hreply : (handle e r (run.after serve Store.empty past)).1 = reply at hmove
  have haccepted : accepted e r (run.after serve Store.empty past) = reply.isOk := by
    rw [accepted, hreply]
  cases hmove with
  | same husers hnone =>
    constructor
    · intro email
      rw [husers, accountOf_kept, h.emails email]
      exact hnone.imp haccepted.trans fun hboth => hboth.2 email
    · intro u hu
      rw [husers] at hu
      rw [lastPassword_kept]
      · exact h.hashes u hu
      · exact hnone.imp haccepted.trans fun hboth => hboth.1 u.id
  | registered payload hr hok hnew husers =>
    subst hr
    constructor
    · intro email
      rw [husers, List.find?_append, accountOf, haccepted, hok]
      by_cases hemail : Platform.lower payload.email = email
      · have hnone : (run.after serve Store.empty past).users.find? (fun u => u.email = email) = none := by
          refine List.find?_eq_none.mpr fun u hu heq => hnew u hu ?_
          rw [of_decide_eq_true heq, hemail]
        simp [registers, hemail, hnone, new_user]
      · simp [registers, hemail, new_user, h.emails email]
    · intro u hu
      rw [husers] at hu
      rcases List.mem_append.mp hu with hu | hu
      · rw [lastPassword_kept]
        · exact h.hashes u hu
        · exact Or.inr (if_neg (hf.user 0 u hu).symm)
      · obtain rfl := List.mem_singleton.mp hu
        exact ⟨e.secret, payload.password, lastPassword_given (haccepted.trans hok) (if_pos rfl), rfl⟩
  | changed user_id password hok hgiven hr husers =>
    constructor
    · intro email
      rw [husers, accountOf_kept (Or.inr (hr email)), h.emails email, findEmail_setPassword]
    · intro u hu
      rw [husers] at hu
      obtain ⟨row, hrow, rfl⟩ := mem_updateWhere.mp hu
      by_cases hid : row.id = user_id
      · refine ⟨e.secret, password, ?_, by simp [hid]⟩
        refine lastPassword_given (haccepted.trans hok) ((hgiven _).trans (if_pos ?_))
        simp [hid]
      · rw [if_neg (by simpa using hid)]
        rw [lastPassword_kept (Or.inr ((hgiven _).trans (if_neg fun heq => hid heq.symm)))]
        exact h.hashes row hrow

end

theorem passwords_kept {past : List (Env × Request)}
    (hfresh : run.Every serve Store.empty (fun s c => Fresh c.1 s) past) :
    PasswordsKept past (run.after serve Store.empty past) := by
  induction past with
  | nil => exact ⟨fun _ => rfl, nofun⟩
  | cons c past ih => exact (ih hfresh.1).step hfresh.2

/-! ## The checks of a password -/

theorem login_accepted (e : Env) (hlimit : e.retry_after = none) (payload : UserLogin) (s : Store) :
    accepted e (.auth (.login payload)) s = (verifyLogin payload s).isSome := by
  have h : Ends (answer .tokens (login e payload)) ⟨s, s⟩ fun reply _ =>
      reply.isOk = (verifyLogin payload s).isSome := by
    rw [ends_answer]
    unfold login issue_session record_audit_log
    simp only [ends_bind, ends_check_rate_limit, hlimit, ends_select]
    cases verifyLogin payload s <;> rfl
  exact h

theorem change_password_accepted (e : Env) (credentials : Option Bearer) (payload : ChangePasswordRequest)
    (s : Store) :
    accepted e (.auth (.change_password credentials payload)) s = true ↔
      ∃ user, get_current_user credentials e.now s = .ok user ∧
        Platform.verify_password payload.current_password user.password_hash = true ∧
        Platform.verify_password payload.new_password user.password_hash = false := by
  have h : Ends (answer (fun _ => .no_content) (change_password e credentials payload)) ⟨s, s⟩
      fun reply _ => reply.isOk = true ↔ ∃ user, get_current_user credentials e.now s = .ok user ∧
        Platform.verify_password payload.current_password user.password_hash = true ∧
        Platform.verify_password payload.new_password user.password_hash = false := by
    rw [ends_answer]
    unfold change_password
    simp only [ends_bind, ends_ask]
    cases get_current_user credentials e.now s with
    | error failure => simp [Except.map, Except.isOk, Except.toBool]
    | ok user =>
      cases hcurrent : Platform.verify_password payload.current_password user.password_hash with
      | false => simp [Except.map, Except.isOk, Except.toBool, hcurrent]
      | true =>
        cases hnew : Platform.verify_password payload.new_password user.password_hash with
        | true => simp [Except.map, Except.isOk, Except.toBool, hcurrent, hnew]
        | false => simp [Except.map, Except.isOk, Except.toBool, hcurrent, hnew]
  exact h

/-- A password check takes a hash of the same password, whatever its salt. -/
def VerifiesHashes : Prop :=
  ∀ p salt q, Platform.verify_password p (Platform.hash_password salt q) = true ↔ p = q

/-- In every run of the API, a login that the limiter lets through is accepted
exactly when its e-mail address was registered and its password is the one that
the account was given last, by its registration, a change or a reset. A change is
accepted exactly when its current password is that one and the new one another. -/
theorem the_last_password_signs_in (hverify : VerifiesHashes) (past : List (Env × Request))
    (hfresh : run.Every serve Store.empty (fun s c => Fresh c.1 s) past) (e : Env) :
    let s := run.after serve Store.empty past
    (∀ payload : UserLogin, e.retry_after = none →
      (accepted e (.auth (.login payload)) s = true ↔
        ∃ user_id, accountOf (Platform.lower payload.email) past = some user_id ∧
          lastPassword user_id past = some payload.password)) ∧
    ∀ (credentials : Option Bearer) (payload : ChangePasswordRequest),
      accepted e (.auth (.change_password credentials payload)) s = true ↔
        ∃ user, get_current_user credentials e.now s = .ok user ∧
          lastPassword user.id past = some payload.current_password ∧
          payload.new_password ≠ payload.current_password := by
  intro s
  have hkept := passwords_kept hfresh
  have hverifies : ∀ u ∈ s.users, ∀ password,
      Platform.verify_password password u.password_hash = true ↔ lastPassword u.id past = some password := by
    intro u hu password
    obtain ⟨salt, last, hlast, hhash⟩ := hkept.hashes u hu
    rw [hhash, hverify, hlast, Option.some.injEq, eq_comm]
  constructor
  · intro payload hlimit
    rw [login_accepted e hlimit, verifyLogin, findUserByEmail, hkept.emails]
    cases hfind : s.users.find? fun u => u.email = Platform.lower payload.email with
    | none => simp
    | some u =>
      have hu := List.mem_of_find?_eq_some hfind
      have hactive : u.is_active = true := Reachable.active ⟨past, hfresh, rfl⟩ u hu
      simp [Option.isSome_filter, hactive, hverifies u hu]
  · intro credentials payload
    rw [change_password_accepted]
    refine exists_congr fun user => and_congr_right fun hu => ?_
    obtain ⟨_, _, _, hfind, _⟩ := current_user_of_ok hu
    have hmem := List.mem_of_find?_eq_some hfind
    rw [← Bool.not_eq_true, hverifies user hmem, hverifies user hmem]
    refine and_congr_right fun hlast => ?_
    rw [hlast, Option.some.injEq, ne_comm]

/-- The sample platform, whose hashes begin with the length of their salt. -/
@[reducible] def saltedPlatform : Platform :=
  { samplePlatform with
    hash_password := fun salt password => List.replicate salt.length '1' ++ '0' :: password
    verify_password := fun password hash => (hash.dropWhile (· = '1')).drop 1 = password }

omit [Platform] in
theorem saltedPlatform_verifies : @VerifiesHashes saltedPlatform := by
  intro p salt q
  have hsalt : (List.replicate salt.length '1' ++ '0' :: q).dropWhile (· = '1') = '0' :: q := by
    induction salt.length with
    | zero => rfl
    | succ n ih => exact ih
  show decide (((List.replicate salt.length '1' ++ '0' :: q).dropWhile (· = '1')).drop 1 = p) = true ↔ _
  rw [hsalt, decide_eq_true_eq]
  exact eq_comm

omit [Platform] in
theorem staple_login_length :
    1 ≤ "battery staple".toList.length ∧ "battery staple".toList.length ≤ 128 :=
  ⟨Nat.le_trans (Nat.le_add_left 1 11) staple_length.1, staple_length.2⟩

def stapleLogin : UserLogin where
  email := sampleLogin.email
  password := "battery staple".toList
  password_length := staple_login_length

/-- A registration, a login and a password change. -/
def passwordRun : List (Env × Request) :=
  [(sampleEnv 2, .auth (.change_password (sampleBearer 0 1) samplePassword)),
   (sampleEnv 1, .auth (.login sampleLogin)),
   (sampleEnv 0, .auth (.register sampleUser))]

omit [Platform] in
/-- After the change the old password signs nobody in, and the new one its user. -/
theorem the_new_password_signs_in :
    @accepted saltedPlatform (sampleEnv 3) (.auth (.login sampleLogin))
        (run.after (@serve saltedPlatform) Store.empty passwordRun) = false ∧
      @accepted saltedPlatform (sampleEnv 3) (.auth (.login stapleLogin))
        (run.after (@serve saltedPlatform) Store.empty passwordRun) = true := by
  have hfresh := @fresh_of_numbers saltedPlatform passwordRun [2, 1, 0] rfl (by decide +kernel)
  have hlaw := (@the_last_password_signs_in saltedPlatform saltedPlatform_verifies passwordRun hfresh
    (sampleEnv 3)).1
  constructor
  · rw [Bool.eq_false_iff]
    intro h
    obtain ⟨user_id, haccount, hlast⟩ := (hlaw sampleLogin rfl).mp h
    have hid : some user_id = some 0 := haccount.symm.trans (by decide +kernel)
    cases hid
    revert hlast
    decide +kernel
  · exact (hlaw stapleLogin rfl).mpr ⟨0, by decide +kernel, by decide +kernel⟩

end pulseforge

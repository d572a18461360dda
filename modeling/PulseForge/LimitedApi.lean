-- The backend behind its rate limiter: one process, with the limiter in its
-- memory and the tables in its database. A request is turned away for what its own
-- client did in its own scope; what other clients do makes no difference.
import PulseForge.Consistency
import PulseForge.Lib.Words
import PulseForge.RetryAfter
import PulseForge.Unauthorized
import Mathlib.Algebra.BigOperators.Group.Finset.Basic
import Mathlib.Algebra.Order.BigOperators.Group.Finset

open txn table sliding words

namespace pulseforge

variable [Platform]

/-! ## Keys -/

/-- `str(part).strip().lower()`. -/
def normalPart (part : Text) : Text := Platform.lower (strip part)

def UNIT_SEPARATOR : Char := '\x1f'

def private_rate_limit_key (scope : Text) (identity_parts : List Text) : Text :=
  scope ++ ':' :: Platform.sha256 (joined UNIT_SEPARATOR (identity_parts.map normalPart))

/-- `str(host) if host else "unknown"`. -/
def client_ip (e : Env) : Text := (e.client_host.filter fun host => !host.isEmpty).getD "unknown".toList

/-- The scopes of the keys, each with the policy that it is checked with. -/
inductive LimitScope
  | REGISTER | LOGIN | REFRESH | EVENT_INGESTION
  deriving DecidableEq

def LimitScope.text : LimitScope → Text
  | .REGISTER => "register".toList
  | .LOGIN => "login".toList
  | .REFRESH => "refresh".toList
  | .EVENT_INGESTION => "event-ingestion".toList

def LimitScope.policy : LimitScope → RateLimitPolicy
  | .REGISTER => REGISTER_RATE_LIMIT
  | .LOGIN => LOGIN_RATE_LIMIT
  | .REFRESH => REFRESH_RATE_LIMIT
  | .EVENT_INGESTION => EVENT_INGESTION_RATE_LIMIT

/-- What the handler of a request asks the limiter about first. The key of an
ingest is looked up before. -/
def limited_by (e : Env) (s : Store) : Request → Option (LimitScope × List Text)
  | .auth (.register _) => some (.REGISTER, [client_ip e])
  | .auth (.login payload) => some (.LOGIN, [client_ip e, Platform.lower payload.email])
  | .auth (.refresh raw_refresh_token) =>
    some (.REFRESH, [((presentCookie raw_refresh_token).map hash_refresh_token).getD (client_ip e)])
  | .ingest credentials _ =>
    match get_ingestion_api_key credentials e.now s with
    | .ok api_key => some (.EVENT_INGESTION, [Platform.str_uuid api_key.id])
    | .error _ => none
  | _ => none

/-! ## A process -/

structure Process where
  limiter : InMemoryRateLimiter
  store : Store

/-- A request, with its reading of the monotonic clock. The verdict of the
limiter that its draws name is not used. -/
structure Arrival where
  env : Env
  request : Request
  monotonic : ℚ

/-- What a check has its handler raise: nothing, a rate-limit error, or the
`IndexError` of an empty bucket. -/
def verdict : Except CheckError Unit → Except CheckError (Option Nat)
  | .ok () => .ok none
  | .error (.RateLimitError retry_after) => .ok (some retry_after.toNat)
  | .error .IndexError => .error .IndexError

def checkLimit (p : Process) (a : Arrival) : Except CheckError (Option Nat) × InMemoryRateLimiter :=
  match limited_by a.env p.store a.request with
  | none => (.ok none, p.limiter)
  | some (scope, parts) =>
    let checked := check_locked (private_rate_limit_key scope.text parts) scope.policy a.monotonic p.limiter
    (verdict checked.1, checked.2)

/-- One request at the process. The outer error is an exception of the limiter
that the application does not name. -/
def serveLimited (p : Process) (a : Arrival) : Except CheckError (Except Failure Body) × Process :=
  match checkLimit p a with
  | (.error error, limiter) => (.error error, ⟨limiter, p.store⟩)
  | (.ok retry_after, limiter) =>
    let served := handle { a.env with retry_after := retry_after } a.request p.store
    (.ok served.1, ⟨limiter, served.2⟩)

def Process.new : Process := ⟨InMemoryRateLimiter.new, Store.empty⟩

def nextProcess (p : Process) (a : Arrival) : Process := (serveLimited p a).2

/-- The process after a past of requests, the newest first. -/
def processAfter : List Arrival → Process := run.after nextProcess Process.new

/-! ## What is counted -/

/-- What a key stands for: a scope, and the parts as they are compared. -/
structure Identity where
  scope : LimitScope
  parts : List Text
  deriving DecidableEq

def Identity.of (scope : LimitScope) (parts : List Text) : Identity := ⟨scope, parts.map normalPart⟩

def Identity.key (i : Identity) : Text :=
  i.scope.text ++ ':' :: Platform.sha256 (joined UNIT_SEPARATOR i.parts)

def identityOf (e : Env) (s : Store) (r : Request) : Option Identity :=
  (limited_by e s r).map fun g => Identity.of g.1 g.2

def Failure.limited (failure : Failure) : Bool := (error_response failure).status_code = 429

/-- The answer has status 429. -/
def turnedAway : Except CheckError (Except Failure Body) → Bool
  | .ok (.error failure) => failure.limited
  | _ => false

/-- The clock readings of the requests of an identity that were not turned away, oldest first. -/
def admittedTimes (i : Identity) : List Arrival → List ℚ
  | [] => []
  | a :: past =>
    let p := processAfter past
    if identityOf a.env p.store a.request = some i ∧ turnedAway (serveLimited p a).1 = false then
      admittedTimes i past ++ [a.monotonic]
    else admittedTimes i past

/-- The requests come in the order of the clock, from clients whose addresses
do not hold the separator. -/
structure Orderly (past : List Arrival) : Prop where
  clock : past.Pairwise fun late early => early.monotonic ≤ late.monotonic
  hosts : ∀ a ∈ past, UNIT_SEPARATOR ∉ normalPart (client_ip a.env)

theorem Orderly.past {a : Arrival} {past : List Arrival} (h : Orderly (a :: past)) : Orderly past where
  clock := (List.pairwise_cons.mp h.clock).2
  hosts b hb := h.hosts b (List.mem_cons_of_mem _ hb)

/-! ## The handlers -/

section
variable {e : Env} {s : Store} {α : Type}

omit [Platform] in
theorem ends_turned_away {n : Nat} (hl : e.retry_after = some n) (body : α → Body)
    (k : Unit → Handler α) :
    Ends (answer body (check_rate_limit e >>= k)) ⟨s, s⟩ fun reply s' =>
      reply = .error (RateLimitError n) ∧ s'.committed = s := by
  rw [ends_answer, ends_bind, ends_check_rate_limit, hl]
  exact ⟨rfl, rfl⟩

/-- Where the limiter rejects, the request does nothing else. -/
theorem handle_turned_away {n : Nat} {r : Request} {g : LimitScope × List Text}
    (hg : limited_by e s r = some g) (hl : e.retry_after = some n) :
    handle e r s = (.error (RateLimitError n), s) := by
  have h : Ends (handler e r) ⟨s, s⟩ fun reply s' =>
      reply = .error (RateLimitError n) ∧ s'.committed = s := by
    cases r with
    | auth r =>
      cases r with
      | register payload => exact ends_turned_away hl _ _
      | login payload => exact ends_turned_away hl _ _
      | refresh raw => exact ends_turned_away hl _ _
      | _ => cases hg
    | tenant credentials r => cases hg
    | ingest credentials payload =>
      show Ends (ask (get_ingestion_api_key credentials e.now) >>= _) _ _
      rw [ends_bind, ends_ask]
      cases hk : get_ingestion_api_key credentials e.now s with
      | error failure =>
        simp only [limited_by, hk, reduceCtorEq] at hg
      | ok api_key => exact ends_turned_away hl _ _
  exact Prod.ext h.1 h.2

/-- No error of the handler is answered 429. -/
def NeverLimited (h : Handler α) : Prop := Raises (fun failure => failure.limited = false) h

omit [Platform] in
theorem never_limited_check (hl : e.retry_after = none) {k : Unit → Handler α}
    (hk : NeverLimited (k ())) : NeverLimited (check_rate_limit e >>= k) := by
  unfold check_rate_limit
  rw [hl]
  exact (sure_pure ()).raises.bind fun _ => hk

omit [Platform] in
theorem rollback_never_limited {failure : Failure} (h : failure.limited = false) :
    NeverLimited (rollback >>= fun _ => (throw failure : Handler α)) :=
  sure_rollback.raises.bind fun _ => raises_throw h

theorem register_never_limited (hl : e.retry_after = none) (payload : UserRegister) :
    NeverLimited (register e payload) := by
  refine never_limited_check hl ?_
  refine ((raises_flush fun s failure h => ?_).attempt _).bind fun stored => ?_
  · unfold insertUser at h
    split at h
    · split at h
      · cases h
        rfl
      · cases h
    · cases h
      rfl
  · split
    · exact (sure_commit.bind fun _ => sure_pure _).raises
    · exact rollback_never_limited rfl

theorem issue_session_sure (user_id : UUID) {k : SessionTokens → Handler α} (hk : ∀ t, Sure (k t)) :
    Sure (issue_session e user_id >>= k) :=
  ((sure_write _).bind fun _ => sure_pure _).bind hk

theorem login_never_limited (hl : e.retry_after = none) (payload : UserLogin) :
    NeverLimited (login e payload) := by
  refine never_limited_check hl ?_
  refine (sure_select _).raises.bind fun found => ?_
  split
  · exact (sure_write _).raises.bind fun _ => sure_commit.raises.bind fun _ => raises_throw rfl
  · exact (issue_session_sure _ fun _ => sure_commit.bind fun _ => sure_pure _).raises

theorem refresh_never_limited (hl : e.retry_after = none) (raw : Option Text) :
    NeverLimited (refresh_access_token e raw) := by
  refine never_limited_check hl ?_
  split
  · exact raises_throw rfl
  · refine (sure_select _).raises.bind fun found => ?_
    have hwritten : ∀ f : Store → Store,
        NeverLimited (write f >>= fun _ => commit >>= fun _ => (throw INVALID_REFRESH_TOKEN : Handler SessionTokens)) :=
      fun f => (sure_write f).raises.bind fun _ => sure_commit.raises.bind fun _ => raises_throw rfl
    split
    · exact rollback_never_limited rfl
    · split
      · exact hwritten _
      · refine (raises_ask fun s failure h => ?_).bind fun user => ?_
        · unfold tokenUser at h
          split at h
          · cases h
          · cases h
            rfl
        · split
          · exact hwritten _
          · exact ((sure_write _).bind fun _ =>
              issue_session_sure _ fun _ => sure_commit.bind fun _ => sure_pure _).raises

omit [Platform] in
theorem attach_to_active_sure (incident : Incident) (event : Event) {k : Incident → Handler α}
    (hk : ∀ i, Sure (k i)) : Sure (attach_to_active e incident event >>= k) := by
  refine Sure.bind ?_ hk
  unfold attach_to_active link_event_if_needed
  refine Sure.bind ?_ fun _ => ?_
  · refine (sure_select _).bind fun linked => ?_
    split
    · exact sure_pure _
    · exact sure_write _
  · split
    · exact (sure_write _).bind fun _ => sure_pure _
    · exact sure_pure _

omit [Platform] in
theorem evaluate_never_limited (event : Event) : NeverLimited (evaluate_event_for_incident e event) := by
  unfold evaluate_event_for_incident
  split
  · exact (sure_pure _).raises
  · refine (sure_select _).raises.bind fun active => ?_
    split
    · exact (attach_to_active_sure _ _ fun _ => sure_pure _).raises
    · refine (raises_ask fun s failure h => ?_).bind fun window_start => ?_
      · unfold windowStart at h
        split at h
        · cases h
        · cases h
          rfl
      · refine (sure_select _).raises.bind fun matching_count => ?_
        split
        · exact (sure_pure _).raises
        · refine ((raises_flush fun s failure h => ?_).attempt _).bind fun inserted => ?_
          · unfold insertIncident at h
            split at h
            · cases h
              rfl
            · cases h
          · split
            · exact ((sure_select _).bind fun _ => (sure_write _).bind fun _ => sure_pure _).raises
            · refine (sure_select _).raises.bind fun found => ?_
              split
              · exact raises_throw rfl
              · exact (attach_to_active_sure _ _ fun _ => sure_pure _).raises

theorem ingest_never_limited (hl : e.retry_after = none) (payload : EventCreate) (api_key : ApiKey) :
    NeverLimited (ingest_event e payload api_key) := by
  refine never_limited_check hl ?_
  refine (sure_select _).raises.bind fun found => ?_
  have hduplicate : ∀ existing, Sure (answer_duplicate existing) :=
    fun existing => (sure_select _).bind fun _ => sure_pure _
  split
  · exact ((sure_write _).bind fun _ => sure_commit.bind fun _ => hduplicate _).raises
  · refine ((raises_flush fun s failure h => ?_).attempt _).bind fun stored => ?_
    · have hinsert := error_of_map h
      unfold insertEvent at hinsert
      split at hinsert
      · split at hinsert
        · cases hinsert
          rfl
        · cases hinsert
      · cases hinsert
        rfl
    · split
      · refine (evaluate_never_limited _).bind fun incident => ?_
        exact (sure_commit.bind fun _ => sure_pure _).raises
      · refine sure_rollback.raises.bind fun _ => (sure_select _).raises.bind fun found => ?_
        split
        · exact raises_throw rfl
        · exact (hduplicate _).raises

omit [Platform] in
theorem ends_admitted {h : Handler α} (hn : NeverLimited h) (body : α → Body) (s : Session Store) :
    Ends (answer body h) s fun reply _ => turnedAway (.ok reply) = false := by
  rw [ends_answer]
  refine (hn s).mono fun reply _ hreply => ?_
  cases reply with
  | error failure => exact hreply failure rfl
  | ok result => rfl

/-- Where the limiter accepts, no answer of the request has status 429. -/
theorem handle_admitted {r : Request} {g : LimitScope × List Text} (hg : limited_by e s r = some g)
    (hl : e.retry_after = none) : turnedAway (.ok (handle e r s).1) = false := by
  have h : Ends (handler e r) ⟨s, s⟩ fun reply _ => turnedAway (.ok reply) = false := by
    cases r with
    | auth r =>
      cases r with
      | register payload => exact ends_admitted (register_never_limited hl payload) _ _
      | login payload => exact ends_admitted (login_never_limited hl payload) _ _
      | refresh raw => exact ends_admitted (refresh_never_limited hl raw) _ _
      | _ => cases hg
    | tenant credentials r => cases hg
    | ingest credentials payload =>
      show Ends (ask (get_ingestion_api_key credentials e.now) >>= _) _ _
      rw [ends_bind, ends_ask]
      cases hk : get_ingestion_api_key credentials e.now s with
      | error failure => simp only [limited_by, hk, reduceCtorEq] at hg
      | ok api_key => exact ends_admitted (ingest_never_limited hl payload api_key) _ _
  exact h

end

/-! ## Keys stand for identities -/

/-- How many parts the keys of a scope have. -/
def LimitScope.arity : LimitScope → Nat
  | .LOGIN => 2
  | _ => 1

/-- The identity has the parts of its scope, and the separator is in its last part at most. -/
structure Identity.WellFormed (i : Identity) : Prop where
  arity : i.parts.length = i.scope.arity
  plain : ∀ part ∈ i.parts.dropLast, UNIT_SEPARATOR ∉ part

theorem key_of_parts (scope : LimitScope) (parts : List Text) :
    private_rate_limit_key scope.text parts = (Identity.of scope parts).key := rfl

theorem identity_wellFormed {e : Env} {s : Store} {r : Request} {i : Identity}
    (hhost : UNIT_SEPARATOR ∉ normalPart (client_ip e)) (h : identityOf e s r = some i) :
    i.WellFormed := by
  obtain ⟨⟨scope, parts⟩, hg, rfl⟩ := Option.map_eq_some_iff.mp h
  have hsingle : ∀ {part : Text} {scope : LimitScope}, scope.arity = 1 →
      (Identity.of scope [part]).WellFormed := fun harity => ⟨harity.symm, by simp [Identity.of]⟩
  cases r with
  | auth r =>
    cases r with
    | register payload =>
      cases hg
      exact hsingle rfl
    | login payload =>
      cases hg
      exact ⟨rfl, by simpa [Identity.of] using hhost⟩
    | refresh raw =>
      cases hg
      exact hsingle rfl
    | _ => cases hg
  | tenant credentials r => cases hg
  | ingest credentials payload =>
    cases hk : get_ingestion_api_key credentials e.now s with
    | error failure => simp only [limited_by, hk, reduceCtorEq] at hg
    | ok api_key =>
      simp only [limited_by, hk, Option.some.injEq, Prod.mk.injEq] at hg
      obtain ⟨rfl, rfl⟩ := hg
      exact hsingle rfl

omit [Platform] in
theorem scope_of_text {scope scope' : LimitScope} {t t' : Text}
    (h : scope.text ++ ':' :: t = scope'.text ++ ':' :: t') : scope = scope' ∧ t = t' := by
  have hplain : ∀ scope : LimitScope, ':' ∉ scope.text := by
    intro scope
    cases scope <;> decide
  obtain ⟨htext, hrest⟩ := append_cons_inj (hplain scope) (hplain scope') h
  refine ⟨?_, hrest⟩
  cases scope <;> cases scope' <;> first | rfl | exact absurd htext (by decide)

theorem key_inj (hsha : Function.Injective Platform.sha256) {i j : Identity} (hi : i.WellFormed)
    (hj : j.WellFormed) (h : i.key = j.key) : i = j := by
  obtain ⟨hscope, hdigest⟩ := scope_of_text h
  have hlen : i.parts.length = j.parts.length := by rw [hi.arity, hj.arity, hscope]
  have hparts := joined_inj hlen hi.plain hj.plain (hsha hdigest)
  cases i
  cases j
  cases hscope
  cases hparts
  rfl

/-! ## The limiter of a process -/

/-- The checks that the requests have made, the newest first. -/
def madeChecks : List Arrival → List LimiterCall
  | [] => []
  | a :: past =>
    match limited_by a.env (processAfter past).store a.request with
    | none => madeChecks past
    | some (scope, parts) =>
      .check (private_rate_limit_key scope.text parts) scope.policy a.monotonic :: madeChecks past

section
variable {a : Arrival} {past : List Arrival}

theorem madeChecks_none (hg : limited_by a.env (processAfter past).store a.request = none) :
    madeChecks (a :: past) = madeChecks past := by
  rw [madeChecks, hg]

theorem madeChecks_some {g : LimitScope × List Text}
    (hg : limited_by a.env (processAfter past).store a.request = some g) :
    madeChecks (a :: past) =
      .check (private_rate_limit_key g.1.text g.2) g.1.policy a.monotonic :: madeChecks past := by
  rw [madeChecks, hg]

theorem mem_madeChecks {call : LimiterCall} (h : call ∈ madeChecks past) :
    ∃ a ∈ past, ∃ s g, limited_by a.env s a.request = some g ∧
      call = .check (private_rate_limit_key g.1.text g.2) g.1.policy a.monotonic := by
  induction past with
  | nil => cases h
  | cons a past ih =>
    have hrest : call ∈ madeChecks past → ∃ b ∈ a :: past, ∃ s g,
        limited_by b.env s b.request = some g ∧
          call = .check (private_rate_limit_key g.1.text g.2) g.1.policy b.monotonic := by
      intro hpast
      obtain ⟨b, hb, hmade⟩ := ih hpast
      exact ⟨b, List.mem_cons_of_mem _ hb, hmade⟩
    cases hg : limited_by a.env (processAfter past).store a.request with
    | none =>
      rw [madeChecks_none hg] at h
      exact hrest h
    | some g =>
      rw [madeChecks_some hg] at h
      rcases List.mem_cons.mp h with rfl | hpast
      · exact ⟨a, List.mem_cons_self, _, g, hg, rfl⟩
      · exact hrest hpast

omit [Platform] in
theorem policy_of_scope (scope : LimitScope) : 1 ≤ scope.policy.limit ∧
    0 < scope.policy.window_seconds ∧ scope.policy.window_seconds ≤ MAX_RATE_LIMIT_WINDOW_SECONDS := by
  cases scope <;> decide

/-- The process uses its limiter as the window asks for. -/
theorem madeChecks_wellUsed (h : past.Pairwise fun late early => early.monotonic ≤ late.monotonic) :
    WellUsed (madeChecks past) where
  clock := by
    induction past with
    | nil => exact List.Pairwise.nil
    | cons a past ih =>
      obtain ⟨hfirst, hrest⟩ := List.pairwise_cons.mp h
      cases hg : limited_by a.env (processAfter past).store a.request with
      | none =>
        rw [madeChecks_none hg]
        exact ih hrest
      | some g =>
        rw [madeChecks_some hg]
        refine List.pairwise_cons.mpr ⟨fun call hcall t ht u hu => ?_, ih hrest⟩
        obtain ⟨b, hb, _, _, _, rfl⟩ := mem_madeChecks hcall
        cases ht
        cases hu
        exact hfirst b hb
  one_policy key policy now policy' now' hc hc' := by
    obtain ⟨_, _, _, _, _, heq⟩ := mem_madeChecks hc
    obtain ⟨_, _, _, _, _, heq'⟩ := mem_madeChecks hc'
    cases heq
    obtain ⟨hkey, rfl, _⟩ := LimiterCall.check.inj heq'
    rw [(scope_of_text hkey).1]
  limits key policy now hc := by
    obtain ⟨_, _, _, g, _, heq⟩ := mem_madeChecks hc
    cases heq
    exact (policy_of_scope g.1).1
  windows key policy now hc := by
    obtain ⟨_, _, _, g, _, heq⟩ := mem_madeChecks hc
    cases heq
    exact (policy_of_scope g.1).2

theorem serveLimited_limiter (p : Process) (a : Arrival) :
    (nextProcess p a).limiter = (checkLimit p a).2 := by
  unfold nextProcess serveLimited
  rcases checkLimit p a with ⟨error | retry_after, limiter⟩ <;> rfl

/-- The limiter of the process has seen the checks, and nothing else. -/
theorem limiter_of_process (past : List Arrival) :
    (processAfter past).limiter = limiterAfter (madeChecks past) := by
  induction past with
  | nil => rfl
  | cons a past ih =>
    show (nextProcess (processAfter past) a).limiter = _
    rw [serveLimited_limiter]
    unfold checkLimit
    cases hg : limited_by a.env (processAfter past).store a.request with
    | none =>
      rw [madeChecks_none hg]
      exact ih
    | some g =>
      rw [madeChecks_some hg, ih]
      rfl

/-! ## One request -/

/-- The process serves a request with the verdict `retry_after` of its limiter. -/
def ServedWith (p : Process) (a : Arrival) (retry_after : Option Nat) : Prop :=
  (serveLimited p a).1 = .ok (handle { a.env with retry_after := retry_after } a.request p.store).1 ∧
    (nextProcess p a).store = (handle { a.env with retry_after := retry_after } a.request p.store).2

theorem served_of_check {p : Process} {retry_after : Option Nat}
    (h : (checkLimit p a).1 = .ok retry_after) : ServedWith p a retry_after := by
  unfold ServedWith nextProcess serveLimited
  generalize checkLimit p a = checked at h ⊢
  obtain ⟨result, limiter⟩ := checked
  obtain rfl : result = .ok retry_after := h
  exact ⟨rfl, rfl⟩

/-- A request that asks nothing of the limiter. -/
theorem served_unlimited {p : Process} (hg : limited_by a.env p.store a.request = none) :
    ServedWith p a none := by
  refine served_of_check ?_
  rw [checkLimit, hg]

/-- A request that asks is served with the verdict on its key: nothing where the
check is accepted, else a wait of at least a second and at most a window. -/
theorem served_limited {g : LimitScope × List Text}
    (hclock : (a :: past).Pairwise fun late early => early.monotonic ≤ late.monotonic)
    (hg : limited_by a.env (processAfter past).store a.request = some g) :
    if accepts (madeChecks past) (private_rate_limit_key g.1.text g.2) g.1.policy a.monotonic then
      ServedWith (processAfter past) a none
    else ∃ n : Nat, 1 ≤ n ∧ n ≤ g.1.policy.window_seconds ∧
      ServedWith (processAfter past) a (some n) := by
  have hused := madeChecks_wellUsed hclock
  rw [madeChecks_some hg] at hused
  have hcheck : (checkLimit (processAfter past) a).1 =
      verdict (check_locked (private_rate_limit_key g.1.text g.2) g.1.policy a.monotonic
        (limiterAfter (madeChecks past))).1 := by
    rw [checkLimit, hg, limiter_of_process]
  split
  · rename_i haccepted
    refine served_of_check ?_
    rw [hcheck]
    unfold accepts at haccepted
    cases hr : (check_locked (private_rate_limit_key g.1.text g.2) g.1.policy a.monotonic
        (limiterAfter (madeChecks past))).1 with
    | error error =>
      rw [hr] at haccepted
      cases haccepted
    | ok _ => rfl
  · rename_i hrejected
    obtain ⟨r, hr⟩ := rejected_of_not_accepted hused (by simpa using hrejected)
    obtain ⟨oldest, rest, _, _, hin, hle, hceil⟩ := rejection_cases hused hr
    have hone : 1 ≤ r := by
      rw [hceil, Int.one_le_ceil_iff]
      linarith
    have hwidth : r ≤ g.1.policy.window_seconds := by
      rw [hceil, Int.ceil_le]
      linarith
    refine ⟨r.toNat, by omega, by omega, served_of_check ?_⟩
    rw [hcheck, hr]
    rfl

/-- What a request is limited by does not depend on a verdict. -/
theorem limited_by_verdict (e : Env) (retry_after : Option Nat) (s : Store) (r : Request) :
    limited_by { e with retry_after := retry_after } s r = limited_by e s r := by
  cases r with
  | auth r => cases r <;> rfl
  | tenant => rfl
  | ingest => rfl

/-- What the answer of a request tells about its check. -/
theorem turnedAway_iff {g : LimitScope × List Text}
    (hclock : (a :: past).Pairwise fun late early => early.monotonic ≤ late.monotonic)
    (hg : limited_by a.env (processAfter past).store a.request = some g) :
    turnedAway (serveLimited (processAfter past) a).1 = false ↔
      accepts (madeChecks past) (private_rate_limit_key g.1.text g.2) g.1.policy a.monotonic = true := by
  have hserved := served_limited hclock hg
  have hsame : ∀ retry_after,
      limited_by { a.env with retry_after := retry_after } (processAfter past).store a.request = some g :=
    fun retry_after => (limited_by_verdict a.env retry_after _ _).trans hg
  split at hserved
  · rename_i haccepted
    rw [hserved.1]
    exact iff_of_true (handle_admitted (hsame none) rfl) haccepted
  · rename_i hrejected
    obtain ⟨n, _, _, hreply, _⟩ := hserved
    rw [hreply, handle_turned_away (hsame (some n)) rfl]
    exact iff_of_false nofun hrejected

/-- The accepted checks of the key of an identity are its admitted requests. -/
theorem timesOf_key (hsha : Function.Injective Platform.sha256) {i : Identity} (hi : i.WellFormed)
    (h : Orderly past) : timesOf i.key (acceptedCalls (madeChecks past)) = admittedTimes i past := by
  induction past with
  | nil => rfl
  | cons a past ih =>
    have ih := ih h.past
    unfold admittedTimes
    cases hg : limited_by a.env (processAfter past).store a.request with
    | none =>
      have hno : identityOf a.env (processAfter past).store a.request ≠ some i := by
        simp [identityOf, hg]
      rw [madeChecks_none hg]
      simp only [hno, false_and, if_false]
      exact ih
    | some g =>
      have hidentity : identityOf a.env (processAfter past).store a.request =
          some (Identity.of g.1 g.2) := by
        simp [identityOf, hg]
      have hkey : private_rate_limit_key g.1.text g.2 = i.key ↔ Identity.of g.1 g.2 = i := by
        rw [key_of_parts]
        refine ⟨key_inj hsha (identity_wellFormed (h.hosts a List.mem_cons_self) hidentity) hi, ?_⟩
        rintro rfl
        rfl
      rw [madeChecks_some hg, acceptedCalls_check]
      simp only [turnedAway_iff h.clock hg, hidentity, Option.some.injEq, ← hkey]
      by_cases hsame : private_rate_limit_key g.1.text g.2 = i.key
      · by_cases haccepted : accepts (madeChecks past) (private_rate_limit_key g.1.text g.2) g.1.policy
            a.monotonic = true
        · rw [if_pos haccepted, if_pos ⟨hsame, haccepted⟩, timesOf_append, ih, hsame, timesOf_self]
        · rw [if_neg haccepted, if_neg (fun hboth : _ ∧ _ => haccepted hboth.2), ih]
      · rw [if_neg (fun hboth : _ ∧ _ => hsame hboth.1)]
        split
        · rw [timesOf_append, timesOf_other hsame, List.append_nil, ih]
        · exact ih

end

/-! ## Laws of every run -/

/-- A request that is checked gets past the limiter exactly when fewer than the
limit of the earlier requests of its own scope and identity, that were not turned
away, are in its window. Then it is served; otherwise it is told to wait, for a
second at least and a window at most, and leaves the tables as they are. The
limiter itself never fails. -/
theorem a_request_is_limited_for_its_own_identity (hsha : Function.Injective Platform.sha256)
    (past : List Arrival) (a : Arrival) (h : Orderly (a :: past)) :
    let p := processAfter past
    (identityOf a.env p.store a.request = none → ServedWith p a none) ∧
    ∀ i, identityOf a.env p.store a.request = some i →
      let policy := i.scope.policy
      let window := since (a.monotonic - policy.window_seconds) (admittedTimes i past)
      ((window.length : Int) < policy.limit →
        turnedAway (serveLimited p a).1 = false ∧ ServedWith p a none) ∧
      (policy.limit ≤ window.length → ∃ n : Nat, 1 ≤ n ∧ n ≤ policy.window_seconds ∧
        (serveLimited p a).1 = .ok (.error (RateLimitError n)) ∧ (nextProcess p a).store = p.store) := by
  intro p
  constructor
  · intro hnone
    exact served_unlimited (Option.map_eq_none_iff.mp hnone)
  · intro i hi policy window
    obtain ⟨g, hg, hgi⟩ := Option.map_eq_some_iff.mp hi
    have hwf := identity_wellFormed (h.hosts a List.mem_cons_self) hi
    have hkey : private_rate_limit_key g.1.text g.2 = i.key := by rw [key_of_parts, hgi]
    have hpolicy : g.1.policy = policy := by
      subst hgi
      rfl
    have hused := madeChecks_wellUsed h.clock
    rw [madeChecks_some hg] at hused
    have hiff := accepts_iff hused
    have hserved := served_limited h.clock hg
    have haway := turnedAway_iff h.clock hg
    rw [countSince, hkey, timesOf_key hsha hwf h.past, hpolicy] at hiff
    rw [hkey, hpolicy] at hserved haway
    constructor
    · intro hroom
      rw [if_pos (hiff.mpr hroom)] at hserved
      exact ⟨haway.mpr (hiff.mpr hroom), hserved⟩
    · intro hfull
      have hrejected : ¬ accepts (madeChecks past) i.key policy a.monotonic = true :=
        fun haccepted => absurd (hiff.mp haccepted) (not_lt.mpr hfull)
      rw [if_neg hrejected] at hserved
      obtain ⟨n, hone, hwidth, hreply, hstore⟩ := hserved
      have hsame : limited_by { a.env with retry_after := some n } p.store a.request = some g := by
        rw [limited_by_verdict]
        exact hg
      rw [handle_turned_away hsame rfl] at hreply hstore
      exact ⟨n, hone, hwidth, hreply, hstore⟩

/-- A login of the sample user, in second `n` of the process. -/
def sampleGuess (n : Nat) : Arrival :=
  ⟨{ sampleEnv n with client_host := some "10.0.0.7".toList }, .auth (.login sampleLogin), n⟩

def sampleGuesses : List Arrival := [40, 30, 20, 10, 0].map sampleGuess

omit [Platform] in
theorem sampleGuesses_orderly :
    @Orderly samplePlatform (sampleGuess 41 :: sampleGuesses) := by
  refine @Orderly.mk samplePlatform _ ?_ ?_
  · simp only [sampleGuesses, sampleGuess, List.map_cons, List.map_nil]
    norm_num
  · intro a ha
    simp only [sampleGuesses, List.map_cons, List.map_nil, List.mem_cons, List.not_mem_nil, or_false] at ha
    rcases ha with rfl | rfl | rfl | rfl | rfl | rfl <;> decide

omit [Platform] in
theorem samplePlatform_sha256 : Function.Injective (@Platform.sha256 samplePlatform) :=
  fun _ _ h => (List.cons.inj h).2

omit [Platform] in
/-- The sixth guess of a client within a minute does not reach the password. -/
theorem a_sixth_guess_is_turned_away : ∃ n : Nat, 1 ≤ n ∧ n ≤ LOGIN_RATE_LIMIT.window_seconds ∧
    (@serveLimited samplePlatform (@processAfter samplePlatform sampleGuesses) (sampleGuess 41)).1 =
      .ok (.error (RateLimitError n)) := by
  let _ := samplePlatform
  have hlaw := (a_request_is_limited_for_its_own_identity samplePlatform_sha256 sampleGuesses
    (sampleGuess 41) sampleGuesses_orderly).2
      (Identity.of .LOGIN ["10.0.0.7".toList, "ada@example.com".toList]) (by decide +kernel)
  obtain ⟨n, hone, hwidth, hreply, _⟩ := hlaw.2 (by decide +kernel)
  exact ⟨n, hone, hwidth, hreply⟩

/-- Behind the limiter, the tables go through the states of the API. -/
theorem process_store_reachable {past : List Arrival}
    (hfresh : run.Every nextProcess Process.new (fun p a => Fresh a.env p.store) past) :
    Reachable (processAfter past).store := by
  induction past with
  | nil => exact ⟨[], trivial, rfl⟩
  | cons a past ih =>
    have hbefore := ih hfresh.1
    show Reachable (nextProcess (processAfter past) a).store
    unfold nextProcess serveLimited
    rcases checkLimit (processAfter past) a with ⟨error | retry_after, limiter⟩
    · exact hbefore
    · have hf : Fresh { a.env with retry_after := retry_after } (processAfter past).store :=
        ⟨hfresh.2.distinct, hfresh.2.unused⟩
      exact hbefore.served hf a.request

/-- The window of an identity holds no more admitted requests than the limit. -/
theorem admitted_in_window (hsha : Function.Injective Platform.sha256) {i : Identity}
    (hi : i.WellFormed) {past : List Arrival} (h : Orderly past) {now : ℚ}
    (hread : ∀ a ∈ past, a.monotonic ≤ now) :
    ((since (now - i.scope.policy.window_seconds) (admittedTimes i past)).length : Int) ≤
      i.scope.policy.limit := by
  have huse : ∀ policy' now', .check i.key policy' now' ∈ madeChecks past → policy' = i.scope.policy := by
    intro policy' now' hc
    obtain ⟨_, _, _, _, _, heq⟩ := mem_madeChecks hc
    obtain ⟨hkey, rfl, _⟩ := LimiterCall.check.inj heq
    rw [(scope_of_text hkey).1]
  have hread' : ReadBy now (madeChecks past) := by
    intro call hcall t ht
    obtain ⟨a, ha, _, _, _, rfl⟩ := mem_madeChecks hcall
    cases ht
    exact hread a ha
  have hkept := window_keeps_limit (madeChecks_wellUsed h.clock) (policy_of_scope i.scope).1 huse hread'
  rwa [countSince, timesOf_key hsha hi h] at hkept

/-- The request is a login for the account of an email, from a client address. -/
def isGuess (email host : Text) (a : Arrival) : Bool :=
  match a.request with
  | .auth (.login payload) => Platform.lower payload.email = email && client_ip a.env = host
  | _ => false

/-- How many logins for the account came from the address after the cutoff and
had their password checked. -/
def guesses (email host : Text) (cutoff : ℚ) : List Arrival → Nat
  | [] => 0
  | a :: past =>
    guesses email host cutoff past +
      if isGuess email host a && !turnedAway (serveLimited (processAfter past) a).1 &&
        decide (cutoff < a.monotonic) then 1 else 0

/-- The guesses of an address are admitted requests of one identity. -/
theorem guesses_le (email host : Text) (cutoff : ℚ) (past : List Arrival) :
    guesses email host cutoff past ≤
      (since cutoff (admittedTimes (Identity.of .LOGIN [host, email]) past)).length := by
  induction past with
  | nil => exact Nat.le_refl 0
  | cons a past ih =>
    unfold guesses admittedTimes
    have hgrow : ∀ more : List ℚ,
        (since cutoff (admittedTimes (Identity.of .LOGIN [host, email]) past)).length ≤
          (since cutoff (admittedTimes (Identity.of .LOGIN [host, email]) past ++ more)).length := by
      intro more
      rw [since_append, List.length_append]
      omega
    split
    · rename_i hguess
      simp only [Bool.and_eq_true, Bool.not_eq_true', decide_eq_true_eq] at hguess
      obtain ⟨⟨hlogin, hadmitted⟩, hlate⟩ := hguess
      have hidentity : identityOf a.env (processAfter past).store a.request =
          some (Identity.of .LOGIN [host, email]) := by
        unfold isGuess at hlogin
        split at hlogin
        · rename_i payload hr
          simp only [Bool.and_eq_true, decide_eq_true_eq] at hlogin
          rw [hr, ← hlogin.1, ← hlogin.2]
          rfl
        · cases hlogin
      rw [if_pos ⟨hidentity, hadmitted⟩, since_append, List.length_append]
      have hone : (since cutoff [a.monotonic]).length = 1 := by
        simp [since, hlate]
      omega
    · rw [Nat.add_zero]
      simp only
      split
      · exact ih.trans (hgrow _)
      · exact ih

/-- However many clients sign in, and whatever else is asked for in between: in
no minute are more than five passwords of an account checked for each address that
the attempts come from. -/
theorem passwords_are_guessed_five_times_a_minute (hsha : Function.Injective Platform.sha256)
    (past : List Arrival) (h : Orderly past) (email : Text) (hosts : Finset Text)
    (hplain : ∀ host ∈ hosts, UNIT_SEPARATOR ∉ normalPart host) (now : ℚ)
    (hread : ∀ a ∈ past, a.monotonic ≤ now) :
    ∑ host ∈ hosts, guesses email host (now - 60) past ≤ 5 * hosts.card := by
  have hone : ∀ host ∈ hosts, guesses email host (now - 60) past ≤ 5 := by
    intro host hhost
    have hwf : (Identity.of .LOGIN [host, email]).WellFormed :=
      ⟨rfl, by simpa [Identity.of] using hplain host hhost⟩
    have hkept := admitted_in_window hsha hwf h hread
    have hle := guesses_le email host (now - 60) past
    have hwidth : ((60 : Int) : ℚ) = 60 := rfl
    simp only [Identity.of, LimitScope.policy, LOGIN_RATE_LIMIT, hwidth] at hkept hle
    omega
  exact (Finset.sum_le_card_nsmul hosts _ 5 hone).trans_eq (Nat.mul_comm _ _)

omit [Platform] in
theorem five_guesses_of_a_client :
    ∑ host ∈ {"10.0.0.7".toList}, @guesses samplePlatform "ada@example.com".toList host (41 - 60)
        (sampleGuess 41 :: sampleGuesses) ≤ 5 * 1 ∧
      @guesses samplePlatform "ada@example.com".toList "10.0.0.7".toList (41 - 60)
        (sampleGuess 41 :: sampleGuesses) = 5 := by
  let _ := samplePlatform
  refine ⟨?_, by decide +kernel⟩
  refine passwords_are_guessed_five_times_a_minute samplePlatform_sha256 _ sampleGuesses_orderly _ _ ?_ 41 ?_
  · intro host hhost
    rw [Finset.mem_singleton.mp hhost]
    decide
  · intro a ha
    simp only [sampleGuesses, List.map_cons, List.map_nil, List.mem_cons, List.not_mem_nil, or_false] at ha
    rcases ha with rfl | rfl | rfl | rfl | rfl | rfl <;> simp [sampleGuess] <;> norm_num

end pulseforge

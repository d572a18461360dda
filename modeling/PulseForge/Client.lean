-- The browser client `lib/api.ts`: the variables of its module, and its
-- functions cut at every `await`. Each part between two of them runs at once;
-- the parts of concurrent calls come in any order.
import PulseForge.Api
import PulseForge.Lib.Run

namespace pulseforge

/-! ## The module -/

/-- The requests that pages make through `api()`. -/
inductive ApiRequest
  | change_password (payload : ChangePasswordRequest)
  | logout_all
  | list_sessions
  | revoke_session (session_id : UUID)
  | get_me
  | tenant (request : TenantRequest)

/-- A `fetch`, with the access token in its header. -/
inductive Fetch
  | refresh
  | api (request : ApiRequest) (bearer : Option AccessToken)
  | login (payload : UserLogin)
  | logout
  | reset_password (payload : ResetPasswordRequest)

/-- A response: its status, and the `access_token` of its body if it has one. -/
structure Response where
  status : Nat
  access_token : Option AccessToken
  deriving DecidableEq

def Response.ok (response : Response) : Bool := 200 ≤ response.status && response.status ≤ 299

/-- What a call of `api()` holds on to. -/
structure ApiCall where
  request : ApiRequest
  requestAccessToken : Option AccessToken
  requestGeneration : Nat
  /-- `changePassword` and `logoutAll` clear the tokens after their request. -/
  clears : Bool

/-- Where a function of the module waits. A number `refresh` names the refresh
whose promise is awaited. -/
inductive ClientStage
  | refreshFetch (generation : Nat)
  | refreshBody (generation : Nat) (access_token : Option AccessToken)
  /-- `performSessionRefresh` has returned, its `finally` is due. -/
  | refreshFinally (result : Bool)
  | refreshSettled (result : Bool)
  | apiFetch (call : ApiCall)
  | apiRefresh (call : ApiCall) (refresh : Nat)
  | apiRetry (call : ApiCall)
  | apiError (call : ApiCall) (status : Nat)
  | apiOk (call : ApiCall) (status : Nat)
  | loginWait (payload : UserLogin) (refresh : Nat)
  | loginFetch
  /-- The session that the login has begun has this number. -/
  | loginBody (generation : Nat) (access_token : Option AccessToken)
  | logoutWait (refresh : Nat)
  | logoutFetch
  | resetFetch
  | done

/-- The variables of the module, every call of its functions with the place
where it waits, and the requests that were sent, each with its call. -/
structure Client where
  accessToken : Option AccessToken
  sessionGeneration : Nat
  refreshInFlight : Option Nat
  stages : List ClientStage
  fetches : List (Nat × Fetch)

/-- The module when the page is loaded. -/
def Client.loaded : Client := ⟨none, 0, none, [], []⟩

/-! ## Its functions -/

namespace Client

def storeAccessToken (access_token : Option AccessToken) (c : Client) : Client :=
  { c with accessToken := access_token }

def clearTokens (c : Client) : Client :=
  { c with sessionGeneration := c.sessionGeneration + 1, accessToken := none }

/-- Call `i` goes on to its next `await`. -/
def awaits (i : Nat) (stage : ClientStage) (c : Client) : Client :=
  { c with stages := c.stages.set i stage }

/-- A new call, up to its first `await`. -/
def begins (stage : ClientStage) (c : Client) : Client := { c with stages := c.stages ++ [stage] }

def sends (i : Nat) (fetch : Fetch) (c : Client) : Client :=
  { c with fetches := c.fetches ++ [(i, fetch)] }

/-- The part before the first `await`. -/
def performSessionRefresh (c : Client) : Client :=
  (c.begins (.refreshFetch c.sessionGeneration)).sends c.stages.length .refresh

/-- The promise that `refreshSession` returns, as the number of its refresh. -/
def refreshSession (c : Client) : Client × Nat :=
  match c.refreshInFlight with
  | some refresh => (c, refresh)
  | none => ({ c.performSessionRefresh with refreshInFlight := some c.stages.length }, c.stages.length)

def api (request : ApiRequest) (clears : Bool) (c : Client) : Client :=
  (c.begins (.apiFetch ⟨request, c.accessToken, c.sessionGeneration, clears⟩)).sends
    c.stages.length (.api request c.accessToken)

/-- The second attempt of `api()`, if there is a token for it. -/
def retry (i : Nat) (call : ApiCall) (replacementToken : Option AccessToken) (c : Client) : Client :=
  match replacementToken with
  | some token => (c.awaits i (.apiRetry call)).sends i (.api call.request (some token))
  | none => c.awaits i (.apiError call 401)

/-- `api()` after its last attempt. -/
def settle (i : Nat) (call : ApiCall) (response : Response) (c : Client) : Client :=
  if response.ok then c.awaits i (.apiOk call response.status)
  else c.awaits i (.apiError call response.status)

def login (payload : UserLogin) (c : Client) : Client :=
  match c.refreshInFlight with
  | some refresh => c.begins (.loginWait payload refresh)
  | none => (c.begins .loginFetch).sends c.stages.length (.login payload)

def logout (c : Client) : Client :=
  match c.refreshInFlight with
  | some refresh => c.begins (.logoutWait refresh)
  | none => (c.begins .logoutFetch).sends c.stages.length .logout

def resetPassword (payload : ResetPasswordRequest) (c : Client) : Client :=
  (c.begins .resetFetch).sends c.stages.length (.reset_password payload)

/-- The value of a refresh's promise, once it is settled. -/
def settled (c : Client) (refresh : Nat) : Option Bool :=
  match c.stages[refresh]? with
  | some (.refreshSettled result) => some result
  | _ => none

end Client

/-! ## Runs -/

/-- A call that a page makes. -/
inductive PageCall
  | api (request : ApiRequest)
  | login (payload : UserLogin)
  | logout
  | resetPassword (payload : ResetPasswordRequest)
  | changePassword (payload : ChangePasswordRequest)
  | logoutAll
  | clearTokens

/-- A page calls a function; a request is answered; a request or the reading
of a body fails; a body has been read, or an awaited promise is settled. -/
inductive ClientEvent
  | called (call : PageCall)
  | responded (i : Nat) (response : Response)
  | failed (i : Nat)
  | resumed (i : Nat)

namespace Client

def call (c : Client) : PageCall → Client
  | .api request => c.api request false
  | .login payload => c.login payload
  | .logout => c.logout
  | .resetPassword payload => c.resetPassword payload
  | .changePassword payload => c.api (.change_password payload) true
  | .logoutAll => c.api .logout_all true
  | .clearTokens => c.clearTokens

/-- After `await fetch(...)`. -/
def respond (i : Nat) (response : Response) (c : Client) : Client :=
  match c.stages[i]? with
  | some (.refreshFetch generation) =>
    if generation ≠ c.sessionGeneration then c.awaits i (.refreshFinally false)
    else if response.ok then c.awaits i (.refreshBody generation response.access_token)
    else c.clearTokens.awaits i (.refreshFinally false)
  | some (.apiFetch call) =>
    if response.status = 401 ∧ call.requestGeneration = c.sessionGeneration then
      if c.accessToken = call.requestAccessToken then
        c.refreshSession.1.awaits i (.apiRefresh call c.refreshSession.2)
      else c.retry i call c.accessToken
    else c.settle i call response
  | some (.apiRetry call) => c.settle i call response
  | some .loginFetch =>
    if response.ok then
      { c with sessionGeneration := c.sessionGeneration + 1 }.awaits i
        (.loginBody (c.sessionGeneration + 1) response.access_token)
    else c.awaits i .done
  | some .logoutFetch => c.clearTokens.awaits i .done
  | some .resetFetch => if response.ok then c.clearTokens.awaits i .done else c.awaits i .done
  | _ => c

/-- A rejected promise. A `catch` clears the tokens, the other functions throw. -/
def fail (i : Nat) (c : Client) : Client :=
  match c.stages[i]? with
  | some (.refreshFetch generation) | some (.refreshBody generation _) =>
    if generation = c.sessionGeneration then c.clearTokens.awaits i (.refreshFinally false)
    else c.awaits i (.refreshFinally false)
  | some .logoutFetch => c.clearTokens.awaits i .done
  -- `parseError` never throws, and an answer 204 has no body.
  | some (.apiOk _ status) => if status = 204 then c else c.awaits i .done
  | some (.apiFetch _) | some (.apiRetry _) | some .loginFetch | some (.loginBody ..)
  | some .resetFetch => c.awaits i .done
  | _ => c

/-- After any other `await`. -/
def resume (i : Nat) (c : Client) : Client :=
  match c.stages[i]? with
  | some (.refreshBody _ access_token) =>
    (c.storeAccessToken access_token).awaits i (.refreshFinally true)
  | some (.refreshFinally result) =>
    { c with refreshInFlight := none }.awaits i (.refreshSettled result)
  | some (.apiRefresh call refresh) =>
    match c.settled refresh with
    | some result => c.retry i call (if result then c.accessToken else none)
    | none => c
  | some (.apiError call status) =>
    if status = 401 ∧ call.requestGeneration = c.sessionGeneration then c.clearTokens.awaits i .done
    else c.awaits i .done
  | some (.apiOk call _) => if call.clears then c.clearTokens.awaits i .done else c.awaits i .done
  | some (.loginWait payload refresh) =>
    match c.settled refresh with
    | some _ => (c.awaits i .loginFetch).sends i (.login payload)
    | none => c
  | some (.loginBody _ access_token) => (c.storeAccessToken access_token).awaits i .done
  | some (.logoutWait refresh) =>
    match c.settled refresh with
    | some _ => (c.awaits i .logoutFetch).sends i .logout
    | none => c
  | _ => c

end Client

def clientStep (c : Client) : ClientEvent → Client
  | .called call => c.call call
  | .responded i response => c.respond i response
  | .failed i => c.fail i
  | .resumed i => c.resume i

/-! ## What an event does -/

/-- The generation of a refresh that waits for its answer or for its body. -/
def ClientStage.refreshGeneration : ClientStage → Option Nat
  | .refreshFetch generation => some generation
  | .refreshBody generation _ => some generation
  | _ => none

/-- A refresh whose `finally` has not run. -/
def ClientStage.refreshes : ClientStage → Bool
  | .refreshFetch _ => true
  | .refreshBody .. => true
  | .refreshFinally _ => true
  | _ => false

/-- A refresh, running or settled. -/
def ClientStage.ofRefresh : ClientStage → Bool
  | .refreshSettled _ => true
  | stage => stage.refreshes

/-- The stage awaits a `fetch`. -/
def ClientStage.fetching : ClientStage → Bool
  | .refreshFetch _ => true
  | .apiFetch _ => true
  | .apiRetry _ => true
  | .loginFetch => true
  | .logoutFetch => true
  | .resetFetch => true
  | _ => false

/-- The call waits for a promise before it sends a request. -/
def ClientStage.unsent : ClientStage → Bool
  | .apiRefresh .. => true
  | .loginWait .. => true
  | .logoutWait _ => true
  | _ => false

/-- The call takes its token for rejected. -/
def ClientStage.suspects : ClientStage → Bool
  | .apiRefresh .. => true
  | .apiRetry _ => true
  | .apiError _ status => status = 401
  | _ => false

/-- The event is what call `i` waits for. -/
def ClientEvent.Continues (i : Nat) (stage : ClientStage) : ClientEvent → Prop
  | .called _ => False
  | .responded j _ => i = j ∧ stage.fetching = true
  | .failed j => i = j
  | .resumed j => i = j ∧ stage.fetching = false

/-- The event is an answer 401. -/
def ClientEvent.unauthorized : ClientEvent → Bool
  | .responded _ response => response.status = 401
  | _ => false

/-- An event and what it changes. One that finds nothing to go on with changes
nothing. -/
inductive ClientMove (c : Client) : ClientEvent → Client → Prop
  | idle (event : ClientEvent) : ClientMove c event c
  | cleared : ClientMove c (.called .clearTokens) c.clearTokens
  | api (call : PageCall) (request : ApiRequest) (clears : Bool) :
      ClientMove c (.called call) (c.api request clears)
  | login (payload : UserLogin) (h : c.refreshInFlight = none) :
      ClientMove c (.called (.login payload))
        ((c.begins .loginFetch).sends c.stages.length (.login payload))
  | login_waits (payload : UserLogin) (refresh : Nat) (h : c.refreshInFlight = some refresh) :
      ClientMove c (.called (.login payload)) (c.begins (.loginWait payload refresh))
  | logout (h : c.refreshInFlight = none) :
      ClientMove c (.called .logout) ((c.begins .logoutFetch).sends c.stages.length .logout)
  | logout_waits (refresh : Nat) (h : c.refreshInFlight = some refresh) :
      ClientMove c (.called .logout) (c.begins (.logoutWait refresh))
  | reset (payload : ResetPasswordRequest) :
      ClientMove c (.called (.resetPassword payload)) (c.resetPassword payload)
  | refresh_answered (i : Nat) (response : Response)
      (h : c.stages[i]? = some (.refreshFetch c.sessionGeneration)) (hok : response.ok = true) :
      ClientMove c (.responded i response)
        (c.awaits i (.refreshBody c.sessionGeneration response.access_token))
  | refresh_stale (event : ClientEvent) (i : Nat) (stage : ClientStage) (generation : Nat)
      (h : c.stages[i]? = some stage) (hstage : stage.refreshGeneration = some generation)
      (hg : generation ≠ c.sessionGeneration) (hevent : event.Continues i stage) :
      ClientMove c event (c.awaits i (.refreshFinally false))
  | refresh_denied (event : ClientEvent) (i : Nat) (stage : ClientStage)
      (h : c.stages[i]? = some stage) (hevent : event.Continues i stage)
      (hstage : stage.refreshGeneration = some c.sessionGeneration) :
      ClientMove c event (c.clearTokens.awaits i (.refreshFinally false))
  | refresh_stored (i : Nat) (generation : Nat) (access_token : Option AccessToken)
      (h : c.stages[i]? = some (.refreshBody generation access_token)) :
      ClientMove c (.resumed i) ((c.storeAccessToken access_token).awaits i (.refreshFinally true))
  | refresh_settled (i : Nat) (result : Bool) (h : c.stages[i]? = some (.refreshFinally result)) :
      ClientMove c (.resumed i)
        ({ c with refreshInFlight := none }.awaits i (.refreshSettled result))
  | api_refreshes (i : Nat) (response : Response) (call : ApiCall)
      (h : c.stages[i]? = some (.apiFetch call)) (hstatus : response.status = 401)
      (hg : call.requestGeneration = c.sessionGeneration)
      (htoken : c.accessToken = call.requestAccessToken) (hflight : c.refreshInFlight = none) :
      ClientMove c (.responded i response)
        ({ c.performSessionRefresh with refreshInFlight := some c.stages.length }.awaits i
          (.apiRefresh call c.stages.length))
  | api_joins (i : Nat) (response : Response) (call : ApiCall) (refresh : Nat)
      (h : c.stages[i]? = some (.apiFetch call)) (hstatus : response.status = 401)
      (hg : call.requestGeneration = c.sessionGeneration)
      (htoken : c.accessToken = call.requestAccessToken)
      (hflight : c.refreshInFlight = some refresh) :
      ClientMove c (.responded i response) (c.awaits i (.apiRefresh call refresh))
  | api_reuses (i : Nat) (response : Response) (call : ApiCall)
      (h : c.stages[i]? = some (.apiFetch call)) (hstatus : response.status = 401)
      (hg : call.requestGeneration = c.sessionGeneration)
      (htoken : c.accessToken ≠ call.requestAccessToken) :
      ClientMove c (.responded i response) (c.retry i call c.accessToken)
  | api_answered (i : Nat) (response : Response) (call : ApiCall)
      (h : c.stages[i]? = some (.apiFetch call))
      (hlast : ¬ (response.status = 401 ∧ call.requestGeneration = c.sessionGeneration)) :
      ClientMove c (.responded i response) (c.settle i call response)
  | retry_answered (i : Nat) (response : Response) (call : ApiCall)
      (h : c.stages[i]? = some (.apiRetry call)) :
      ClientMove c (.responded i response) (c.settle i call response)
  | api_resumes (i : Nat) (call : ApiCall) (refresh : Nat) (result : Bool)
      (h : c.stages[i]? = some (.apiRefresh call refresh)) (hr : c.settled refresh = some result) :
      ClientMove c (.resumed i) (c.retry i call (if result then c.accessToken else none))
  | login_answered (i : Nat) (response : Response) (h : c.stages[i]? = some .loginFetch)
      (hok : response.ok = true) :
      ClientMove c (.responded i response)
        ({ c with sessionGeneration := c.sessionGeneration + 1 }.awaits i
          (.loginBody (c.sessionGeneration + 1) response.access_token))
  | login_stored (i : Nat) (generation : Nat) (access_token : Option AccessToken)
      (h : c.stages[i]? = some (.loginBody generation access_token)) :
      ClientMove c (.resumed i) ((c.storeAccessToken access_token).awaits i .done)
  | login_resumes (i : Nat) (payload : UserLogin) (refresh : Nat) (result : Bool)
      (h : c.stages[i]? = some (.loginWait payload refresh)) (hr : c.settled refresh = some result) :
      ClientMove c (.resumed i) ((c.awaits i .loginFetch).sends i (.login payload))
  | logout_resumes (i : Nat) (refresh : Nat) (result : Bool)
      (h : c.stages[i]? = some (.logoutWait refresh)) (hr : c.settled refresh = some result) :
      ClientMove c (.resumed i) ((c.awaits i .logoutFetch).sends i .logout)
  | ended (event : ClientEvent) (i : Nat) (stage : ClientStage) (h : c.stages[i]? = some stage)
      (hstage : stage.ofRefresh = false) (hevent : event.Continues i stage) :
      ClientMove c event (c.awaits i .done)
  | signed_out (event : ClientEvent) (i : Nat) (stage : ClientStage) (h : c.stages[i]? = some stage)
      (hstage : stage.ofRefresh = false) (hevent : event.Continues i stage) :
      ClientMove c event (c.clearTokens.awaits i .done)

section
variable (c : Client)

theorem call_moves (call : PageCall) : ClientMove c (.called call) (c.call call) := by
  cases call with
  | api request => exact .api _ _ _
  | login payload =>
    simp only [Client.call, Client.login]
    split
    · next refresh h => exact .login_waits payload refresh h
    · next h => exact .login payload h
  | logout =>
    simp only [Client.call, Client.logout]
    split
    · next refresh h => exact .logout_waits refresh h
    · next h => exact .logout h
  | resetPassword payload => exact .reset payload
  | changePassword payload => exact .api _ _ _
  | logoutAll => exact .api _ _ _
  | clearTokens => exact .cleared

theorem respond_moves (i : Nat) (response : Response) :
    ClientMove c (.responded i response) (c.respond i response) := by
  unfold Client.respond
  split
  · next generation h =>
    split
    · next hg => exact .refresh_stale _ i _ generation h rfl hg ⟨rfl, rfl⟩
    · next hg =>
      obtain rfl := not_not.mp hg
      split
      · next hok => exact .refresh_answered i response h hok
      · exact .refresh_denied _ i _ h ⟨rfl, rfl⟩ rfl
  · next call h =>
    split
    · next hrefused =>
      obtain ⟨hstatus, hg⟩ := hrefused
      split
      · next htoken =>
        unfold Client.refreshSession
        split
        · next refresh hflight => exact .api_joins i response call refresh h hstatus hg htoken hflight
        · next hflight => exact .api_refreshes i response call h hstatus hg htoken hflight
      · next htoken => exact .api_reuses i response call h hstatus hg htoken
    · next hlast => exact .api_answered i response call h hlast
  · next call h => exact .retry_answered i response call h
  · next h =>
    split
    · next hok => exact .login_answered i response h hok
    · exact .ended _ i _ h rfl ⟨rfl, rfl⟩
  · next h => exact .signed_out _ i _ h rfl ⟨rfl, rfl⟩
  · next h =>
    split
    · exact .signed_out _ i _ h rfl ⟨rfl, rfl⟩
    · exact .ended _ i _ h rfl ⟨rfl, rfl⟩
  · exact .idle _

theorem fail_moves (i : Nat) : ClientMove c (.failed i) (c.fail i) := by
  have hrefresh : ∀ stage generation, c.stages[i]? = some stage →
      stage.refreshGeneration = some generation →
      ClientMove c (.failed i) (if generation = c.sessionGeneration
        then c.clearTokens.awaits i (.refreshFinally false)
        else c.awaits i (.refreshFinally false)) := by
    intro stage generation h hstage
    split
    · next hg => exact .refresh_denied _ i stage h rfl (hg ▸ hstage)
    · next hg => exact .refresh_stale _ i stage generation h hstage hg rfl
  unfold Client.fail
  split
  · next h => exact hrefresh _ _ h rfl
  · next h => exact hrefresh _ _ h rfl
  · next h => exact .signed_out _ i _ h rfl rfl
  · next h =>
    split
    · exact .idle _
    · exact .ended _ i _ h rfl rfl
  · next h => exact .ended _ i _ h rfl rfl
  · next h => exact .ended _ i _ h rfl rfl
  · next h => exact .ended _ i _ h rfl rfl
  · next h => exact .ended _ i _ h rfl rfl
  · next h => exact .ended _ i _ h rfl rfl
  · exact .idle _

theorem resume_moves (i : Nat) : ClientMove c (.resumed i) (c.resume i) := by
  unfold Client.resume
  split
  · next h => exact .refresh_stored i _ _ h
  · next h => exact .refresh_settled i _ h
  · next call refresh h =>
    split
    · next result hr => exact .api_resumes i call refresh result h hr
    · exact .idle _
  · next h =>
    split
    · exact .signed_out _ i _ h rfl ⟨rfl, rfl⟩
    · exact .ended _ i _ h rfl ⟨rfl, rfl⟩
  · next h =>
    split
    · exact .signed_out _ i _ h rfl ⟨rfl, rfl⟩
    · exact .ended _ i _ h rfl ⟨rfl, rfl⟩
  · next payload refresh h =>
    split
    · next result hr => exact .login_resumes i payload refresh result h hr
    · exact .idle _
  · next h => exact .login_stored i _ _ h
  · next refresh h =>
    split
    · next result hr => exact .logout_resumes i refresh result h hr
    · exact .idle _
  · exact .idle _

/-- Every event is one of the moves. -/
theorem client_moves (event : ClientEvent) : ClientMove c event (clientStep c event) := by
  cases event with
  | called call => exact call_moves c call
  | responded i response => exact respond_moves c i response
  | failed i => exact fail_moves c i
  | resumed i => exact resume_moves c i

end

/-! ## How a call goes on -/

/-- The first stages of the calls. A refresh begins only with a call of `api()`. -/
inductive ClientStage.First : ClientStage → Prop
  | api (call : ApiCall) : First (.apiFetch call)
  | login_waits (payload : UserLogin) (refresh : Nat) : First (.loginWait payload refresh)
  | login : First .loginFetch
  | logout_waits (refresh : Nat) : First (.logoutWait refresh)
  | logout : First .logoutFetch
  | reset : First .resetFetch

/-- A stage and the one after it, the settling of a refresh apart. A body is
awaited with the generation of the moment, and only an answer 401 makes `api()`
send its request again. -/
inductive ClientStage.Next (event : ClientEvent) (generation : Nat) :
    ClientStage → ClientStage → Prop
  | body (access_token : Option AccessToken) :
      Next event generation (.refreshFetch generation) (.refreshBody generation access_token)
  | returned (stage : ClientStage) (result : Bool) (h : stage.refreshGeneration.isSome = true) :
      Next event generation stage (.refreshFinally result)
  | waits (call : ApiCall) (refresh : Nat) (h : event.unauthorized = true) :
      Next event generation (.apiFetch call) (.apiRefresh call refresh)
  | retries (call : ApiCall) (h : event.unauthorized = true) :
      Next event generation (.apiFetch call) (.apiRetry call)
  | retries_refreshed (call : ApiCall) (refresh : Nat) :
      Next event generation (.apiRefresh call refresh) (.apiRetry call)
  | answered (stage : ClientStage) (call : ApiCall) (status : Nat) (h : stage.ofRefresh = false) :
      Next event generation stage (.apiOk call status)
  | erred (stage : ClientStage) (call : ApiCall) (status : Nat)
      (hold : stage = .apiFetch call ∨ stage.suspects = true)
      (h : stage = .apiFetch call → status = 401 → event.unauthorized = true) :
      Next event generation stage (.apiError call status)
  | login (payload : UserLogin) (refresh : Nat) :
      Next event generation (.loginWait payload refresh) .loginFetch
  | login_body (access_token : Option AccessToken) :
      Next event generation .loginFetch (.loginBody generation access_token)
  | logout (refresh : Nat) : Next event generation (.logoutWait refresh) .logoutFetch
  | done (stage : ClientStage) (h : stage.ofRefresh = false) : Next event generation stage .done

/-- What an event does to the calls: nothing, one begins, one goes on, a refresh
is settled, or a call of `api()` begins a refresh. -/
inductive Turn (c c' : Client) (event : ClientEvent) : Prop
  | still (hstages : c'.stages = c.stages) (hflight : c'.refreshInFlight = c.refreshInFlight)
  | begun (stage : ClientStage) (hfirst : stage.First) (hstages : c'.stages = c.stages ++ [stage])
      (hflight : c'.refreshInFlight = c.refreshInFlight)
  | moved (i : Nat) (old new : ClientStage) (h : c.stages[i]? = some old)
      (hevent : event.Continues i old) (hnext : old.Next event c'.sessionGeneration new)
      (hstages : c'.stages = c.stages.set i new) (hflight : c'.refreshInFlight = c.refreshInFlight)
  | settled (i : Nat) (result : Bool) (h : c.stages[i]? = some (.refreshFinally result))
      (hstages : c'.stages = c.stages.set i (.refreshSettled result))
      (hflight : c'.refreshInFlight = none)
  | forked (i : Nat) (call : ApiCall) (h : c.stages[i]? = some (.apiFetch call))
      (hevent : event.Continues i (.apiFetch call)) (hrefused : event.unauthorized = true)
      (hidle : c.refreshInFlight = none)
      (hstages : c'.stages = (c.stages ++ [ClientStage.refreshFetch c'.sessionGeneration]).set i
        (.apiRefresh call c.stages.length))
      (hflight : c'.refreshInFlight = some c.stages.length)

section
variable {c c' : Client} {event : ClientEvent} {i j : Nat} {call : ApiCall}

theorem turn_retry {old : ClientStage} (h : c.stages[i]? = some old)
    (hold : old = .apiFetch call ∨ old.suspects = true) (hevent : event.Continues i old)
    (hrefused : old = .apiFetch call → event.unauthorized = true)
    (hnext : old.Next event c.sessionGeneration (.apiRetry call))
    (replacementToken : Option AccessToken) : Turn c (c.retry i call replacementToken) event := by
  cases replacementToken with
  | none =>
    exact .moved i old _ h hevent (.erred old call 401 hold fun hfirst _ => hrefused hfirst) rfl rfl
  | some token => exact .moved i old _ h hevent hnext rfl rfl

theorem turn_settle {old : ClientStage} {response : Response} (h : c.stages[i]? = some old)
    (hold : old = .apiFetch call ∨ old = .apiRetry call) (hfetching : old.fetching = true) :
    Turn c (c.settle i call response) (.responded i response) := by
  unfold Client.settle
  split
  · refine .moved i old _ h ⟨rfl, hfetching⟩ (.answered old call _ ?_) rfl rfl
    rcases hold with rfl | rfl <;> rfl
  · refine .moved i old _ h ⟨rfl, hfetching⟩ (.erred old call _ ?_ ?_) rfl rfl
    · exact hold.imp_right fun hretry => by rw [hretry]; rfl
    · exact fun _ hstatus => decide_eq_true hstatus

theorem ClientMove.turn (h : ClientMove c event c') : Turn c c' event := by
  cases h with
  | idle => exact .still rfl rfl
  | cleared => exact .still rfl rfl
  | api => exact .begun _ (.api _) rfl rfl
  | login => exact .begun _ .login rfl rfl
  | login_waits => exact .begun _ (.login_waits _ _) rfl rfl
  | logout => exact .begun _ .logout rfl rfl
  | logout_waits => exact .begun _ (.logout_waits _) rfl rfl
  | reset => exact .begun _ .reset rfl rfl
  | refresh_answered i response h => exact .moved i _ _ h ⟨rfl, rfl⟩ (.body _) rfl rfl
  | refresh_stale _ i stage generation h hstage _ hevent =>
    exact .moved i _ _ h hevent (.returned _ _ (by rw [hstage]; rfl)) rfl rfl
  | refresh_denied _ i stage h hevent hstage =>
    exact .moved i _ _ h hevent (.returned _ _ (by rw [hstage]; rfl)) rfl rfl
  | refresh_stored i generation access_token h =>
    exact .moved i _ _ h ⟨rfl, rfl⟩ (.returned _ _ rfl) rfl rfl
  | refresh_settled i result h => exact .settled i result h rfl rfl
  | api_refreshes i response call h hstatus _ _ hflight =>
    exact .forked i call h ⟨rfl, rfl⟩ (decide_eq_true hstatus) hflight rfl rfl
  | api_joins i response call refresh h hstatus =>
    exact .moved i _ _ h ⟨rfl, rfl⟩ (.waits call refresh (decide_eq_true hstatus)) rfl rfl
  | api_reuses i response call h hstatus =>
    have hrefused : (ClientEvent.responded i response).unauthorized = true := decide_eq_true hstatus
    refine turn_retry h (Or.inl rfl) ?_ (fun _ => hrefused) (.retries call hrefused) _
    exact ⟨rfl, rfl⟩
  | api_answered i response call h => exact turn_settle h (Or.inl rfl) rfl
  | retry_answered i response call h => exact turn_settle h (Or.inr rfl) rfl
  | api_resumes i call refresh result h =>
    refine turn_retry h (Or.inr rfl) ?_ nofun (.retries_refreshed call refresh) _
    exact ⟨rfl, rfl⟩
  | login_answered i response h => exact .moved i _ _ h ⟨rfl, rfl⟩ (.login_body _) rfl rfl
  | login_stored i generation access_token h =>
    exact .moved i _ _ h ⟨rfl, rfl⟩ (.done _ rfl) rfl rfl
  | login_resumes i payload refresh result h =>
    exact .moved i _ _ h ⟨rfl, rfl⟩ (.login payload refresh) rfl rfl
  | logout_resumes i refresh result h => exact .moved i _ _ h ⟨rfl, rfl⟩ (.logout refresh) rfl rfl
  | ended _ i stage h hstage hevent => exact .moved i _ _ h hevent (.done stage hstage) rfl rfl
  | signed_out _ i stage h hstage hevent => exact .moved i _ _ h hevent (.done stage hstage) rfl rfl

theorem client_turns (c : Client) (event : ClientEvent) : Turn c (clientStep c event) event :=
  (client_moves c event).turn

theorem stage_set {stages : List ClientStage} {new stage : ClientStage}
    (h : (stages.set i new)[j]? = some stage) :
    (i = j ∧ stage = new) ∨ (i ≠ j ∧ stages[j]? = some stage) := by
  rw [List.getElem?_set] at h
  split at h
  · next hij =>
    split at h
    · exact Or.inl ⟨hij, (Option.some.inj h).symm⟩
    · cases h
  · next hij => exact Or.inr ⟨hij, h⟩

theorem stage_append {stages : List ClientStage} {new stage : ClientStage}
    (h : (stages ++ [new])[j]? = some stage) :
    stages[j]? = some stage ∨ (stages[j]? = none ∧ j = stages.length ∧ stage = new) := by
  rcases Nat.lt_or_ge j stages.length with hlt | hge
  · exact Or.inl (by rwa [List.getElem?_append_left hlt] at h)
  · rw [List.getElem?_append_right hge] at h
    have hmem := List.mem_of_getElem? h
    have hlt := (List.getElem?_eq_some_iff.mp h).1
    have hlast : j = stages.length := by
      simp only [List.length_singleton] at hlt
      omega
    exact Or.inr ⟨List.getElem?_eq_none hge, hlast, List.mem_singleton.mp hmem⟩

/-- How a call came to the stage where it is. -/
inductive CameTo (c c' : Client) (event : ClientEvent) (j : Nat) (stage : ClientStage) : Prop
  | stayed (h : c.stages[j]? = some stage)
  | begun (h : c.stages[j]? = none) (hfirst : stage.First)
  | moved (old : ClientStage) (h : c.stages[j]? = some old) (hevent : event.Continues j old)
      (hnext : old.Next event c'.sessionGeneration stage)
  | settled (result : Bool) (h : c.stages[j]? = some (.refreshFinally result))
      (hstage : stage = .refreshSettled result)
  | forked (h : c.stages[j]? = none) (hstage : stage = .refreshFetch c'.sessionGeneration)

theorem Turn.came_to (h : Turn c c' event) {stage : ClientStage} (hj : c'.stages[j]? = some stage) :
    CameTo c c' event j stage := by
  cases h with
  | still hstages => exact .stayed (hstages ▸ hj)
  | begun new hfirst hstages =>
    rw [hstages] at hj
    rcases stage_append hj with hold | ⟨hnone, _, rfl⟩
    · exact .stayed hold
    · exact .begun hnone hfirst
  | moved i old new h hevent hnext hstages =>
    rw [hstages] at hj
    rcases stage_set hj with ⟨rfl, rfl⟩ | ⟨_, hold⟩
    · exact .moved old h hevent hnext
    · exact .stayed hold
  | settled i result h hstages =>
    rw [hstages] at hj
    rcases stage_set hj with ⟨rfl, rfl⟩ | ⟨_, hold⟩
    · exact .settled result h rfl
    · exact .stayed hold
  | forked i call h hevent hrefused _ hstages =>
    rw [hstages] at hj
    rcases stage_set hj with ⟨rfl, rfl⟩ | ⟨_, hold⟩
    · exact .moved _ h hevent (.waits call _ hrefused)
    · rcases stage_append hold with hold | ⟨hnone, _, rfl⟩
      · exact .stayed hold
      · exact .forked hnone rfl

/-- No call is forgotten. -/
theorem Turn.goes_on (h : Turn c c' event) {old : ClientStage} (hj : c.stages[j]? = some old) :
    ∃ stage, c'.stages[j]? = some stage := by
  have hlength : c.stages.length ≤ c'.stages.length := by
    cases h with
    | still hstages => rw [hstages]
    | begun _ _ hstages => simp [hstages]
    | moved _ _ _ _ _ _ hstages => simp [hstages]
    | settled _ _ _ hstages => simp [hstages]
    | forked _ _ _ _ _ _ hstages => simp [hstages]
  have hlt := (List.getElem?_eq_some_iff.mp hj).1
  exact ⟨_, List.getElem?_eq_getElem (hlt.trans_le hlength)⟩

/-- What awaits no answer to an event stays as it is. -/
theorem Turn.stays (h : Turn c c' event) {stage : ClientStage} (hj : c.stages[j]? = some stage)
    (hother : ¬ event.Continues j stage) (hstage : stage.fetching = true) :
    c'.stages[j]? = some stage := by
  have hlt := (List.getElem?_eq_some_iff.mp hj).1
  cases h with
  | still hstages => rwa [hstages]
  | begun _ _ hstages => rwa [hstages, List.getElem?_append_left hlt]
  | moved i old new h hevent _ hstages =>
    rw [hstages, List.getElem?_set_ne, hj]
    rintro rfl
    cases hj.symm.trans h
    exact hother hevent
  | settled i result h hstages =>
    rw [hstages, List.getElem?_set_ne, hj]
    rintro rfl
    cases hj.symm.trans h
    cases hstage
  | forked i call h hevent _ _ hstages =>
    rw [hstages, List.getElem?_set_ne, List.getElem?_append_left hlt, hj]
    rintro rfl
    cases hj.symm.trans h
    exact hother hevent

/-! ## One refresh at a time -/

/-- The promise of the module is that of the one refresh that is not settled. -/
def SingleFlight (c : Client) : Prop :=
  ∀ j, c.refreshInFlight = some j ↔ c.stages[j]?.any ClientStage.refreshes = true

theorem ClientStage.Next.refreshes {generation : Nat} {old new : ClientStage}
    (h : old.Next event generation new) : new.refreshes = old.refreshes := by
  have hother : ∀ stage : ClientStage, stage.ofRefresh = false → stage.refreshes = false := by
    intro stage hstage
    cases stage <;> first | rfl | cases hstage
  cases h with
  | returned _ result h =>
    cases old with
    | refreshFetch => rfl
    | refreshBody => rfl
    | _ => cases h
  | answered _ _ _ h => exact (hother _ h).symm
  | erred _ _ _ hold =>
    rcases hold with rfl | hsuspects
    · rfl
    · cases old <;> first | rfl | cases hsuspects
  | done _ h => exact (hother _ h).symm
  | _ => rfl

theorem ClientStage.First.refreshes {stage : ClientStage} (h : stage.First) :
    stage.refreshes = false := by
  cases h <;> rfl

theorem SingleFlight.turn (h : SingleFlight c) (hturn : Turn c c' event) : SingleFlight c' := by
  cases hturn with
  | still hstages hflight =>
    unfold SingleFlight
    rwa [hstages, hflight]
  | begun stage hfirst hstages hflight =>
    intro j
    rw [hflight, h j, hstages]
    rcases Nat.lt_trichotomy j c.stages.length with hlt | rfl | hgt
    · rw [List.getElem?_append_left hlt]
    · simp [hfirst.refreshes]
    · have hlonger : (c.stages ++ [stage]).length ≤ j := by
        rw [List.length_append]
        exact hgt
      rw [List.getElem?_eq_none hgt.le, List.getElem?_eq_none hlonger]
  | moved i old new hi _ hnext hstages hflight =>
    intro j
    rw [hflight, h j, hstages, List.getElem?_set]
    split
    · next hij =>
      subst hij
      rw [hi, if_pos (List.getElem?_eq_some_iff.mp hi).1, Option.any_some, Option.any_some,
        hnext.refreshes]
    · exact Iff.rfl
  | settled i result hi hstages hflight =>
    intro j
    have hmine : c.refreshInFlight = some i := (h i).mpr (by rw [hi]; rfl)
    rw [hflight, hstages, List.getElem?_set]
    split
    · simp [(List.getElem?_eq_some_iff.mp hi).1, ClientStage.refreshes]
    · next hij =>
      rw [← h j, hmine]
      simp [hij]
  | forked i call hi _ _ hidle hstages hflight =>
    intro j
    have hlt := (List.getElem?_eq_some_iff.mp hi).1
    have hnone : c.stages[j]?.any ClientStage.refreshes = false := by
      rw [Bool.eq_false_iff, ne_eq, ← h j, hidle]
      exact nofun
    rw [hflight, hstages]
    by_cases hij : i = j
    · subst hij
      have hstage : ((c.stages ++ [ClientStage.refreshFetch c'.sessionGeneration]).set i
          (.apiRefresh call c.stages.length))[i]? = some (.apiRefresh call c.stages.length) := by
        rw [List.getElem?_set_self]
        rw [List.length_append]
        exact Nat.lt_add_right _ hlt
      simp [hstage, ClientStage.refreshes, hlt.ne']
    · rw [List.getElem?_set_ne hij]
      rcases Nat.lt_trichotomy j c.stages.length with hj | rfl | hj
      · rw [List.getElem?_append_left hj, hnone]
        simp [hj.ne']
      · simp [ClientStage.refreshes]
      · have hlonger : (c.stages ++ [ClientStage.refreshFetch c'.sessionGeneration]).length ≤ j := by
          rw [List.length_append]
          exact hj
        rw [List.getElem?_eq_none hlonger]
        simp [hj.ne]

theorem singleFlight_loaded : SingleFlight Client.loaded := fun j => by simp [Client.loaded]

/-- At every moment at most one refresh runs. -/
theorem singleFlight_after (past : List ClientEvent) :
    SingleFlight (run.after clientStep Client.loaded past) := by
  induction past with
  | nil => exact singleFlight_loaded
  | cons event past ih => exact ih.turn (client_turns _ event)

/-! ## What is sent -/

/-- The request that a stage awaits. -/
def ClientStage.Sends : ClientStage → Fetch → Prop
  | .refreshFetch _, .refresh => True
  | .apiFetch call, .api request bearer => request = call.request ∧ bearer = call.requestAccessToken
  | .apiRetry call, .api request bearer => request = call.request ∧ bearer.isSome = true
  | .loginFetch, .login _ => True
  | .logoutFetch, .logout => True
  | .resetFetch, .reset_password _ => True
  | _, _ => False

/-- An event sends at most one request, of a call that it begins, that has waited
to send it, or whose first attempt was answered 401. -/
inductive Sent (c c' : Client) (event : ClientEvent) : Prop
  | nothing (h : c'.fetches = c.fetches)
  | one (j : Nat) (fetch : Fetch) (stage : ClientStage) (h : c'.fetches = c.fetches ++ [(j, fetch)])
      (hstage : c'.stages[j]? = some stage) (hsends : stage.Sends fetch)
      (hold : ∀ old, c.stages[j]? = some old → event.Continues j old ∧
        (old.unsent = true ∨ ∃ call, old = .apiFetch call ∧ event.unauthorized = true))

theorem sent_begins {stage : ClientStage} {fetch : Fetch} (hsends : stage.Sends fetch) :
    Sent c ((c.begins stage).sends c.stages.length fetch) event := by
  refine .one _ fetch stage rfl List.getElem?_concat_length hsends ?_
  intro old hold
  simp at hold

theorem sent_awaits {old stage : ClientStage} {fetch : Fetch} (h : c.stages[i]? = some old)
    (hevent : event.Continues i old)
    (hold : old.unsent = true ∨ ∃ call, old = .apiFetch call ∧ event.unauthorized = true)
    (hsends : stage.Sends fetch) : Sent c ((c.awaits i stage).sends i fetch) event := by
  refine .one i fetch stage rfl ?_ hsends ?_
  · simp [Client.sends, Client.awaits, (List.getElem?_eq_some_iff.mp h).1]
  · intro old' hold'
    cases h.symm.trans hold'
    exact ⟨hevent, hold⟩

theorem sent_retry {old : ClientStage} (h : c.stages[i]? = some old)
    (hevent : event.Continues i old)
    (hold : old.unsent = true ∨ ∃ call, old = .apiFetch call ∧ event.unauthorized = true)
    (replacementToken : Option AccessToken) :
    Sent c (c.retry i call replacementToken) event := by
  cases replacementToken with
  | none => exact .nothing rfl
  | some token => exact sent_awaits h hevent hold ⟨rfl, rfl⟩

theorem sent_settle (response : Response) : Sent c (c.settle i call response) event := by
  unfold Client.settle
  split
  · exact .nothing rfl
  · exact .nothing rfl

theorem ClientMove.sent (h : ClientMove c event c') : Sent c c' event := by
  cases h with
  | api => exact sent_begins ⟨rfl, rfl⟩
  | login => exact sent_begins trivial
  | logout => exact sent_begins trivial
  | reset => exact sent_begins trivial
  | api_refreshes i response call h =>
    have hlt := (List.getElem?_eq_some_iff.mp h).1
    refine .one c.stages.length .refresh (.refreshFetch c.sessionGeneration) rfl ?_ trivial ?_
    · rw [Client.awaits, List.getElem?_set_ne hlt.ne]
      exact List.getElem?_concat_length
    · intro old hold
      simp at hold
  | api_reuses i response call h hstatus =>
    have hrefused : (ClientEvent.responded i response).unauthorized = true := decide_eq_true hstatus
    refine sent_retry h ?_ (Or.inr ⟨call, rfl, hrefused⟩) _
    exact ⟨rfl, rfl⟩
  | api_answered => exact sent_settle _
  | retry_answered => exact sent_settle _
  | api_resumes i call refresh result h =>
    refine sent_retry h ?_ (Or.inl rfl) _
    exact ⟨rfl, rfl⟩
  | login_resumes i payload refresh result h =>
    refine sent_awaits h ?_ (Or.inl rfl) trivial
    exact ⟨rfl, rfl⟩
  | logout_resumes i refresh result h =>
    refine sent_awaits h ?_ (Or.inl rfl) trivial
    exact ⟨rfl, rfl⟩
  | _ => exact .nothing rfl

end

end pulseforge

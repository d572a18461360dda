-- The second attempts of the client. A call that waits for a refresh compares its
-- token with the one of the module before it waits, and takes whatever token is
-- there when it goes on; what makes that token another one is that the refresh
-- was still to store its own when the call began to wait.
import PulseForge.ClientTokens

namespace pulseforge

/-! ## Attempts and issued tokens -/

/-- What a request carries that is an attempt of a call of `api()`. -/
def Fetch.attempt : Fetch → Option (Option AccessToken)
  | .api _ bearer => some bearer
  | _ => none

/-- The access tokens that the attempts of call `i` carry, first to last. -/
def Client.attempts (c : Client) (i : Nat) : List (Option AccessToken) :=
  c.fetches.filterMap fun p => if p.1 = i then p.2.attempt else none

/-- The token that the server issues with an answer to a refresh or to a login. -/
def issuedToken (c : Client) : ClientEvent → Option AccessToken
  | .responded i response =>
    match c.stages[i]? with
    | some (.refreshFetch _) | some .loginFetch => if response.ok then response.access_token else none
    | _ => none
  | _ => none

/-- The tokens issued in a run, newest first. -/
def issuedTokens : List ClientEvent → List AccessToken
  | [] => []
  | event :: past =>
    (issuedToken (run.after clientStep Client.loaded past) event).toList ++ issuedTokens past

/-- `performSessionRefresh` has returned, its `finally` is due. -/
def ClientStage.returned : ClientStage → Bool
  | .refreshFinally _ => true
  | _ => false

/-- The promise jobs of a task run before the next one: no answer is handled
between the end of a refresh and its `finally`. -/
def JobsFirst (c : Client) : ClientEvent → Prop
  | .responded _ _ => ∀ stage ∈ c.stages, stage.returned = false
  | _ => True

/-! ## One event -/

/-- The call that may still send its second attempt. -/
def ClientStage.waitingCall : ClientStage → Option ApiCall
  | .apiFetch call => some call
  | .apiRefresh call _ => some call
  | _ => none

/-- The token in a body that has not been read. -/
def ClientStage.bodyToken : ClientStage → Option AccessToken
  | .refreshBody _ access_token => access_token
  | .loginBody _ access_token => access_token
  | _ => none

/-- A refresh that has stored its token. -/
def ClientStage.refreshed : ClientStage → Bool
  | .refreshFinally result => result
  | .refreshSettled result => result
  | _ => false

/-- The stage has no token, now or later. -/
structure ClientStage.Plain (stage : ClientStage) : Prop where
  calls : stage.waitingCall = none
  body : stage.bodyToken = none

def Client.refreshed (c : Client) (i : Nat) : Bool := c.stages[i]?.any ClientStage.refreshed

/-- A token that the module or one of its calls has got. -/
inductive Client.Holds (c : Client) (token : AccessToken) : Prop
  | stored (h : c.accessToken = some token)
  | sent (i : Nat) (stage : ClientStage) (call : ApiCall) (h : c.stages[i]? = some stage)
      (hstage : stage.waitingCall = some call) (hcall : call.requestAccessToken = some token)

/-- What an event does to the tokens and to the attempts: next to nothing, a call
begins, an answer comes with a token, a token is stored, a call begins to wait for
a refresh, or a call sends its second attempt. -/
inductive RetryMove (c : Client) (event : ClientEvent) (c' : Client) : Prop
  | quiet
      (hstages : ∀ j stage, c'.stages[j]? = some stage → c.stages[j]? = some stage ∨
        stage.Plain ∧ (stage.refreshed = true → c.refreshed j = true))
      (htoken : c'.accessToken = c.accessToken ∨ c'.accessToken = none)
      (hattempts : ∀ j, c'.attempts j = c.attempts j)
  | begins (call : ApiCall) (hcall : call.requestAccessToken = c.accessToken)
      (hstages : c'.stages = c.stages ++ [.apiFetch call]) (htoken : c'.accessToken = c.accessToken)
      (hattempts : ∀ j, c'.attempts j =
        c.attempts j ++ if c.stages.length = j then [c.accessToken] else [])
  | answered (i : Nat) (stage : ClientStage) (hevent : ∃ response, event = .responded i response)
      (hissued : stage.bodyToken = issuedToken c event) (hcalls : stage.waitingCall = none)
      (hother : stage.refreshed = false)
      (hstages : c'.stages = c.stages.set i stage) (htoken : c'.accessToken = c.accessToken)
      (hattempts : ∀ j, c'.attempts j = c.attempts j)
  | stored (i : Nat) (old stage : ClientStage) (h : c.stages[i]? = some old) (hplain : stage.Plain)
      (hstages : c'.stages = c.stages.set i stage) (htoken : c'.accessToken = old.bodyToken)
      (hattempts : ∀ j, c'.attempts j = c.attempts j)
  | waits (i : Nat) (call : ApiCall) (refresh : Nat) (h : c.stages[i]? = some (.apiFetch call))
      (hevent : ∃ response, event = .responded i response)
      (hflight : c.refreshInFlight = some refresh ∨ c.stages.length = refresh)
      (hstages : ∀ j stage, c'.stages[j]? = some stage → c.stages[j]? = some stage ∨
        i = j ∧ stage = .apiRefresh call refresh ∨ ∃ generation, stage = .refreshFetch generation)
      (htoken : c'.accessToken = c.accessToken) (hattempts : ∀ j, c'.attempts j = c.attempts j)
  | retries (i : Nat) (old stage : ClientStage) (call : ApiCall) (token : AccessToken)
      (h : c.stages[i]? = some old) (hcall : old.waitingCall = some call)
      (htoken : c.accessToken = some token)
      (hnew : old = .apiFetch call ∧ call.requestAccessToken ≠ some token ∨
        ∃ refresh, old = .apiRefresh call refresh ∧ c.refreshed refresh = true)
      (hplain : stage.Plain) (hother : stage.refreshed = false)
      (hstages : c'.stages = c.stages.set i stage) (hkept : c'.accessToken = c.accessToken)
      (hattempts : ∀ j, c'.attempts j = c.attempts j ++ if i = j then [some token] else [])

section
variable {c c' : Client} {event : ClientEvent} {i j : Nat} {call : ApiCall}

theorem attempts_sends {fetch : Fetch} {bearer : Option AccessToken}
    (h : c'.fetches = c.fetches ++ [(i, fetch)]) (hfetch : fetch.attempt = some bearer) :
    c'.attempts j = c.attempts j ++ if i = j then [bearer] else [] := by
  unfold Client.attempts
  rw [h, List.filterMap_append]
  by_cases hij : i = j
  · simp [hij, hfetch]
  · simp [hij]

/-- Other requests are no attempts of a call of `api()`. -/
theorem attempts_unsaid {fetch : Fetch} (h : c'.fetches = c.fetches ++ [(i, fetch)])
    (hfetch : fetch.attempt = none) : c'.attempts j = c.attempts j := by
  unfold Client.attempts
  rw [h, List.filterMap_append]
  simp [hfetch]

/-- A call goes on to a stage without a token. -/
theorem quiet_awaits {stage : ClientStage} (hplain : stage.Plain)
    (hrefreshed : stage.refreshed = true → c.refreshed i = true)
    (hstages : c'.stages = c.stages.set i stage)
    (htoken : c'.accessToken = c.accessToken ∨ c'.accessToken = none)
    (hattempts : ∀ j, c'.attempts j = c.attempts j) : RetryMove c event c' := by
  refine .quiet (fun j new hj => ?_) htoken hattempts
  rw [hstages] at hj
  rcases stage_set hj with ⟨rfl, rfl⟩ | ⟨_, hold⟩
  · exact Or.inr ⟨hplain, hrefreshed⟩
  · exact Or.inl hold

theorem quiet_ends {stage : ClientStage} (hplain : stage.Plain) (hother : stage.refreshed = false)
    (hstages : c'.stages = c.stages.set i stage)
    (htoken : c'.accessToken = c.accessToken ∨ c'.accessToken = none)
    (hattempts : ∀ j, c'.attempts j = c.attempts j) : RetryMove c event c' :=
  quiet_awaits hplain (fun hrefreshed => by simp [hother] at hrefreshed) hstages htoken hattempts

/-- A call begins that has no token. -/
theorem quiet_begins {stage : ClientStage} (hplain : stage.Plain) (hother : stage.refreshed = false)
    (hstages : c'.stages = c.stages ++ [stage]) (htoken : c'.accessToken = c.accessToken)
    (hattempts : ∀ j, c'.attempts j = c.attempts j) : RetryMove c event c' := by
  refine .quiet (fun j new hj => ?_) (Or.inl htoken) hattempts
  rw [hstages] at hj
  rcases stage_append hj with hold | ⟨_, _, rfl⟩
  · exact Or.inl hold
  · exact Or.inr ⟨hplain, fun h => by simp [hother] at h⟩

theorem quiet_settle (response : Response) : RetryMove c event (c.settle i call response) := by
  unfold Client.settle
  split
  · exact quiet_ends ⟨rfl, rfl⟩ rfl rfl (Or.inl rfl) fun _ => rfl
  · exact quiet_ends ⟨rfl, rfl⟩ rfl rfl (Or.inl rfl) fun _ => rfl

theorem token_retry {old : ClientStage} (h : c.stages[i]? = some old)
    (hcall : old.waitingCall = some call) {token : Option AccessToken}
    (htoken : ∀ t, token = some t → c.accessToken = some t ∧
      (old = .apiFetch call ∧ call.requestAccessToken ≠ some t ∨
        ∃ refresh, old = .apiRefresh call refresh ∧ c.refreshed refresh = true)) :
    RetryMove c event (c.retry i call token) := by
  cases token with
  | none => exact quiet_ends ⟨rfl, rfl⟩ rfl rfl (Or.inl rfl) fun _ => rfl
  | some token =>
    obtain ⟨hstored, hnew⟩ := htoken token rfl
    exact .retries i old _ call token h hcall hstored hnew ⟨rfl, rfl⟩ rfl rfl rfl
      fun j => attempts_sends rfl rfl

theorem refreshed_of_settled {refresh : Nat} (h : c.settled refresh = some true) :
    c.refreshed refresh = true := by
  unfold Client.settled at h
  unfold Client.refreshed
  split at h
  · next result hstage => simpa [hstage, ClientStage.refreshed] using h
  · cases h

theorem retry_moves (h : ClientMove c event c') : RetryMove c event c' := by
  cases h with
  | idle => exact .quiet (fun _ _ => Or.inl) (Or.inl rfl) fun _ => rfl
  | cleared => exact .quiet (fun _ _ => Or.inl) (Or.inr rfl) fun _ => rfl
  | api call request clears => exact .begins _ rfl rfl rfl fun j => attempts_sends rfl rfl
  | login payload =>
    exact quiet_begins ⟨rfl, rfl⟩ rfl rfl rfl fun j => attempts_unsaid rfl rfl
  | login_waits => exact quiet_begins ⟨rfl, rfl⟩ rfl rfl rfl fun _ => rfl
  | logout =>
    exact quiet_begins ⟨rfl, rfl⟩ rfl rfl rfl fun j => attempts_unsaid rfl rfl
  | logout_waits => exact quiet_begins ⟨rfl, rfl⟩ rfl rfl rfl fun _ => rfl
  | reset payload =>
    exact quiet_begins ⟨rfl, rfl⟩ rfl rfl rfl fun j => attempts_unsaid rfl rfl
  | refresh_answered i response h hok =>
    refine .answered i _ ⟨response, rfl⟩ ?_ rfl rfl rfl rfl fun _ => rfl
    simp [issuedToken, h, hok, ClientStage.bodyToken]
  | refresh_stale => exact quiet_ends ⟨rfl, rfl⟩ rfl rfl (Or.inl rfl) fun _ => rfl
  | refresh_denied => exact quiet_ends ⟨rfl, rfl⟩ rfl rfl (Or.inr rfl) fun _ => rfl
  | refresh_stored i generation access_token h =>
    exact .stored i _ _ h ⟨rfl, rfl⟩ rfl rfl fun _ => rfl
  | refresh_settled i result h =>
    refine quiet_awaits ⟨rfl, rfl⟩ (fun hresult => ?_) rfl (Or.inl rfl) fun _ => rfl
    simpa [Client.refreshed, ClientStage.refreshed, h] using hresult
  | api_refreshes i response call h =>
    refine .waits i call _ h ⟨response, rfl⟩ (Or.inr rfl) (fun j stage hj => ?_) rfl fun j => ?_
    · rcases stage_set hj with ⟨rfl, rfl⟩ | ⟨_, hold⟩
      · exact Or.inr (Or.inl ⟨rfl, rfl⟩)
      · rcases stage_append hold with hold | ⟨_, _, rfl⟩
        · exact Or.inl hold
        · exact Or.inr (Or.inr ⟨_, rfl⟩)
    · have hsent : c.performSessionRefresh.fetches = c.fetches ++ [(c.stages.length, .refresh)] := rfl
      exact attempts_unsaid hsent rfl
  | api_joins i response call refresh h _ _ _ hflight =>
    refine .waits i call refresh h ⟨response, rfl⟩ (Or.inl hflight) (fun j stage hj => ?_) rfl
      fun _ => rfl
    rcases stage_set hj with ⟨rfl, rfl⟩ | ⟨_, hold⟩
    · exact Or.inr (Or.inl ⟨rfl, rfl⟩)
    · exact Or.inl hold
  | api_reuses i response call h _ _ htoken =>
    refine token_retry h rfl fun t ht => ⟨ht, Or.inl ⟨rfl, fun hsame => ?_⟩⟩
    exact htoken (ht.trans hsame.symm)
  | api_answered => exact quiet_settle _
  | retry_answered => exact quiet_settle _
  | api_resumes i call refresh result h hr =>
    refine token_retry h rfl fun t ht => ?_
    cases result with
    | false => cases ht
    | true => exact ⟨ht, Or.inr ⟨refresh, rfl, refreshed_of_settled hr⟩⟩
  | login_answered i response h hok =>
    refine .answered i _ ⟨response, rfl⟩ ?_ rfl rfl rfl rfl fun _ => rfl
    simp [issuedToken, h, hok, ClientStage.bodyToken]
  | login_stored i generation access_token h =>
    exact .stored i _ _ h ⟨rfl, rfl⟩ rfl rfl fun _ => rfl
  | login_resumes i payload =>
    refine quiet_ends ⟨rfl, rfl⟩ rfl rfl (Or.inl rfl) fun j => ?_
    exact attempts_unsaid rfl rfl
  | logout_resumes i =>
    refine quiet_ends ⟨rfl, rfl⟩ rfl rfl (Or.inl rfl) fun j => ?_
    exact attempts_unsaid rfl rfl
  | ended => exact quiet_ends ⟨rfl, rfl⟩ rfl rfl (Or.inl rfl) fun _ => rfl
  | signed_out => exact quiet_ends ⟨rfl, rfl⟩ rfl rfl (Or.inr rfl) fun _ => rfl

/-! ## At most two attempts -/

/-- A call that waits has sent one attempt, with the token that it has. -/
structure Tried (c : Client) : Prop where
  unbegun : ∀ i, c.stages[i]? = none → c.attempts i = []
  waiting : ∀ i stage call, c.stages[i]? = some stage → stage.waitingCall = some call →
    c.attempts i = [call.requestAccessToken]
  twice : ∀ i, (c.attempts i).length ≤ 2

section
variable (h : Tried c) (hgrows : ∀ j : Nat, c'.stages[j]? = none → c.stages[j]? = none)
include h hgrows

theorem Tried.unsent (hattempts : ∀ j, c'.attempts j = c.attempts j)
    (hold : ∀ (j : Nat) (stage : ClientStage) call, c'.stages[j]? = some stage →
      stage.waitingCall = some call →
        ∃ old : ClientStage, c.stages[j]? = some old ∧ old.waitingCall = some call) : Tried c' := by
  refine ⟨fun j hj => ?_, fun j stage call hj hcall => ?_, fun j => ?_⟩
  · rw [hattempts, h.unbegun j (hgrows j hj)]
  · obtain ⟨old, hj, hcall⟩ := hold j stage call hj hcall
    rw [hattempts, h.waiting j old call hj hcall]
  · rw [hattempts]
    exact h.twice j

/-- The new call has no attempt before its first one. -/
theorem Tried.begins (hcall : call.requestAccessToken = c.accessToken)
    (hstages : c'.stages = c.stages ++ [.apiFetch call])
    (hattempts : ∀ j, c'.attempts j =
      c.attempts j ++ if c.stages.length = j then [c.accessToken] else []) : Tried c' := by
  have hfirst : c.attempts c.stages.length = [] := h.unbegun _ (List.getElem?_eq_none le_rfl)
  refine ⟨fun j hj => ?_, fun j stage call' hj hcall' => ?_, fun j => ?_⟩
  · have hlength : c.stages.length ≠ j := by
      rintro rfl
      simp [hstages] at hj
    simp [hattempts, h.unbegun j (hgrows j hj), hlength]
  · rw [hstages] at hj
    rcases stage_append hj with hold | ⟨_, rfl, rfl⟩
    · have hlt := (List.getElem?_eq_some_iff.mp hold).1
      simp [hattempts, h.waiting j stage call' hold hcall', hlt.ne']
    · cases hcall'
      simp [hattempts, hfirst, hcall]
  · rw [hattempts]
    split
    · next hj => simp [← hj, hfirst]
    · simpa using h.twice j

/-- The call that waited has one attempt before its second one. -/
theorem Tried.retries {old stage : ClientStage} {token : AccessToken} (hi : c.stages[i]? = some old)
    (hcall : old.waitingCall = some call) (hplain : stage.Plain)
    (hstages : c'.stages = c.stages.set i stage)
    (hattempts : ∀ j, c'.attempts j = c.attempts j ++ if i = j then [some token] else []) :
    Tried c' := by
  refine ⟨fun j hj => ?_, fun j new call' hj hcall' => ?_, fun j => ?_⟩
  · have hne : i ≠ j := by
      rintro rfl
      simp [hgrows i hj] at hi
    simp [hattempts, h.unbegun j (hgrows j hj), hne]
  · rw [hstages] at hj
    rcases stage_set hj with ⟨rfl, rfl⟩ | ⟨hne, hold⟩
    · simp [hplain.calls] at hcall'
    · simp [hattempts, h.waiting j new call' hold hcall', hne]
  · rw [hattempts]
    split
    · next hj => simp [← hj, h.waiting i old call hi hcall]
    · simpa using h.twice j

end

theorem Tried.step (h : Tried c) (event : ClientEvent) : Tried (clientStep c event) := by
  have hturn := client_turns c event
  have hmove := retry_moves (client_moves c event)
  generalize clientStep c event = c' at hturn hmove ⊢
  have hgrows : ∀ j : Nat, c'.stages[j]? = none → c.stages[j]? = none := by
    intro j hj
    refine Option.eq_none_iff_forall_ne_some.mpr fun old hold => ?_
    obtain ⟨stage, hstage⟩ := hturn.goes_on hold
    simp [hj] at hstage
  cases hmove with
  | quiet hstages _ hattempts =>
    refine h.unsent hgrows hattempts fun j stage call hj hcall => ?_
    rcases hstages j stage hj with hold | ⟨hplain, _⟩
    · exact ⟨stage, hold, hcall⟩
    · simp [hplain.calls] at hcall
  | answered i stage _ _ hcalls _ hstages _ hattempts =>
    refine h.unsent hgrows hattempts fun j new call hj hcall => ?_
    rw [hstages] at hj
    rcases stage_set hj with ⟨rfl, rfl⟩ | ⟨_, hold⟩
    · simp [hcalls] at hcall
    · exact ⟨new, hold, hcall⟩
  | stored i old stage _ hplain hstages _ hattempts =>
    refine h.unsent hgrows hattempts fun j new call hj hcall => ?_
    rw [hstages] at hj
    rcases stage_set hj with ⟨rfl, rfl⟩ | ⟨_, hold⟩
    · simp [hplain.calls] at hcall
    · exact ⟨new, hold, hcall⟩
  | waits i call refresh hi _ _ hstages _ hattempts =>
    refine h.unsent hgrows hattempts fun j stage call' hj hcall => ?_
    rcases hstages j stage hj with hold | ⟨rfl, rfl⟩ | ⟨generation, rfl⟩
    · exact ⟨stage, hold, hcall⟩
    · exact ⟨_, hi, hcall⟩
    · cases hcall
  | begins call hcall hstages _ hattempts => exact h.begins hgrows hcall hstages hattempts
  | retries i old stage call token hi hcall _ _ hplain _ hstages _ hattempts =>
    exact h.retries hgrows hi hcall hplain hstages hattempts

theorem tried_after (past : List ClientEvent) : Tried (run.after clientStep Client.loaded past) := by
  induction past with
  | nil =>
    refine ⟨fun _ _ => rfl, fun i stage call h => ?_, fun i => ?_⟩
    · simp [Client.loaded] at h
    · simp [Client.loaded, Client.attempts]
  | cons event past ih => exact ih.step event

/-! ## Tokens that nobody has -/

/-- The token of call `i` that has not been read from its body. -/
def Client.pending (c : Client) (i : Nat) : Option AccessToken :=
  c.stages[i]?.bind ClientStage.bodyToken

theorem pending_of_stage {stage : ClientStage} (h : c.stages[i]? = some stage) :
    c.pending i = stage.bodyToken := by
  simp [Client.pending, h]

/-- Where the stage of a call comes from. -/
inductive RetryStage (c : Client) (event : ClientEvent) (j : Nat) (stage : ClientStage) : Prop
  | same (h : c.stages[j]? = some stage)
  | plain (h : stage.Plain)
  | begun (call : ApiCall) (h : call.requestAccessToken = c.accessToken)
      (hstage : stage = .apiFetch call)
  | answered (hevent : ∃ response, event = .responded j response)
      (hissued : stage.bodyToken = issuedToken c event) (hcalls : stage.waitingCall = none)
  | waits (call : ApiCall) (refresh : Nat) (h : c.stages[j]? = some (.apiFetch call))
      (hevent : ∃ response, event = .responded j response)
      (hflight : c.refreshInFlight = some refresh ∨ c.stages.length = refresh)
      (hstage : stage = .apiRefresh call refresh)

theorem stage_move (h : RetryMove c event c') {stage : ClientStage}
    (hj : c'.stages[j]? = some stage) : RetryStage c event j stage := by
  cases h with
  | quiet hstages =>
    rcases hstages j stage hj with hold | ⟨hplain, _⟩
    · exact .same hold
    · exact .plain hplain
  | begins call hcall hstages =>
    rw [hstages] at hj
    rcases stage_append hj with hold | ⟨_, _, rfl⟩
    · exact .same hold
    · exact .begun call hcall rfl
  | answered i new hevent hissued hcalls _ hstages =>
    rw [hstages] at hj
    rcases stage_set hj with ⟨rfl, rfl⟩ | ⟨_, hold⟩
    · exact .answered hevent hissued hcalls
    · exact .same hold
  | stored i old new _ hplain hstages =>
    rw [hstages] at hj
    rcases stage_set hj with ⟨rfl, rfl⟩ | ⟨_, hold⟩
    · exact .plain hplain
    · exact .same hold
  | waits i call refresh hi hevent hflight hstages =>
    rcases hstages j stage hj with hold | ⟨rfl, rfl⟩ | ⟨generation, rfl⟩
    · exact .same hold
    · exact .waits call refresh hi hevent hflight rfl
    · exact .plain ⟨rfl, rfl⟩
  | retries i old new _ token _ _ _ _ hplain _ hstages =>
    rw [hstages] at hj
    rcases stage_set hj with ⟨rfl, rfl⟩ | ⟨_, hold⟩
    · exact .plain hplain
    · exact .same hold

/-- Only an answer brings a token. -/
theorem pending_move (h : RetryMove c event c') {t : AccessToken} (hj : c'.pending j = some t) :
    c.pending j = some t ∨ (∃ response, event = .responded j response) ∧ issuedToken c event = some t := by
  obtain ⟨stage, hstage, hbody⟩ := Option.bind_eq_some_iff.mp hj
  cases stage_move h hstage with
  | same hold => exact Or.inl ((pending_of_stage hold).trans hbody)
  | plain hplain => simp [hplain.body] at hbody
  | begun call _ hstage => simp [hstage, ClientStage.bodyToken] at hbody
  | answered hevent hissued => exact Or.inr ⟨hevent, hissued.symm.trans hbody⟩
  | waits call refresh _ _ _ hstage => simp [hstage, ClientStage.bodyToken] at hbody

/-- A call waits with the token that it had, or begins with the one of the module. -/
theorem sent_move (h : RetryMove c event c') {stage : ClientStage}
    (hj : c'.stages[j]? = some stage) (hcall : stage.waitingCall = some call) :
    call.requestAccessToken = c.accessToken ∨
      ∃ old, c.stages[j]? = some old ∧ old.waitingCall = some call := by
  cases stage_move h hj with
  | same hold => exact Or.inr ⟨stage, hold, hcall⟩
  | plain hplain => simp [hplain.calls] at hcall
  | begun new hnew hstage =>
    rw [hstage] at hcall
    cases hcall
    exact Or.inl hnew
  | answered _ _ hcalls => simp [hcalls] at hcall
  | waits waiting refresh hold _ _ hstage =>
    rw [hstage] at hcall
    exact Or.inr ⟨_, hold, hcall⟩

theorem refreshed_of_stage {stage : ClientStage} (h : c.stages[i]? = some stage) :
    c.refreshed i = stage.refreshed := by
  simp [Client.refreshed, h]

/-- The token of the module has been read from its body, or it was there before
and no refresh has stored one. -/
theorem stored_move (h : RetryMove c event c') {t : AccessToken} (ht : c'.accessToken = some t) :
    (∃ i, c.pending i = some t ∧ c'.pending i = none) ∨
      c.accessToken = some t ∧ ∀ j, c'.refreshed j = true → c.refreshed j = true := by
  have hkept : c'.accessToken = c.accessToken →
      (∀ (j : Nat) (stage : ClientStage), c'.stages[j]? = some stage → c.stages[j]? = some stage ∨
        (stage.refreshed = true → c.refreshed j = true)) →
      c.accessToken = some t ∧ ∀ j, c'.refreshed j = true → c.refreshed j = true := by
    intro hsame hstages
    refine ⟨hsame.symm.trans ht, fun j hj => ?_⟩
    cases hstage : c'.stages[j]? with
    | none => simp [Client.refreshed, hstage] at hj
    | some stage =>
      rw [refreshed_of_stage hstage] at hj
      rcases hstages j stage hstage with hold | hbefore
      · rwa [refreshed_of_stage hold]
      · exact hbefore hj
  have hset : ∀ {i : Nat} {stage : ClientStage}, stage.refreshed = false →
      c'.stages = c.stages.set i stage → ∀ (j : Nat) (new : ClientStage), c'.stages[j]? = some new →
        c.stages[j]? = some new ∨ (new.refreshed = true → c.refreshed j = true) := by
    intro i stage hother hstages j new hnew
    rw [hstages] at hnew
    rcases stage_set hnew with ⟨_, rfl⟩ | ⟨_, hold⟩
    · simp [hother]
    · exact Or.inl hold
  cases h with
  | quiet hstages htoken =>
    rcases htoken with hsame | hnone
    · exact Or.inr (hkept hsame fun j stage hj => (hstages j stage hj).imp_right And.right)
    · simp [hnone] at ht
  | begins call _ hstages hsame =>
    refine Or.inr (hkept hsame fun j stage hj => ?_)
    rw [hstages] at hj
    rcases stage_append hj with hold | ⟨_, _, rfl⟩
    · exact Or.inl hold
    · exact Or.inr nofun
  | answered i stage _ _ _ hother hstages hsame => exact Or.inr (hkept hsame (hset hother hstages))
  | stored i old stage hi hplain hstages htoken =>
    have hlt := (List.getElem?_eq_some_iff.mp hi).1
    have hnew : c'.stages[i]? = some stage := by simp [hstages, hlt]
    refine Or.inl ⟨i, ?_, ?_⟩
    · rw [pending_of_stage hi, ← htoken, ht]
    · rw [pending_of_stage hnew, hplain.body]
  | waits i call refresh _ _ _ hstages hsame =>
    refine Or.inr (hkept hsame fun j stage hj => ?_)
    rcases hstages j stage hj with hold | ⟨_, rfl⟩ | ⟨generation, rfl⟩
    · exact Or.inl hold
    · exact Or.inr nofun
    · exact Or.inr nofun
  | retries i old stage call token _ _ _ _ _ hother hstages hsame =>
    exact Or.inr (hkept hsame (hset hother hstages))

/-- A token that is got was there before, or has been read from its body. -/
theorem holds_move (h : RetryMove c event c') {t : AccessToken} (ht : c'.Holds t) :
    c.Holds t ∨ ∃ i, c.pending i = some t ∧ c'.pending i = none := by
  cases ht with
  | sent j stage call hj hcall htoken =>
    refine Or.inl ?_
    rcases sent_move h hj hcall with hmodule | ⟨old, hold, hwaited⟩
    · exact .stored (hmodule.symm.trans htoken)
    · exact .sent j old call hold hwaited htoken
  | stored hstored =>
    rcases stored_move h hstored with hread | ⟨hbefore, _⟩
    · exact Or.inr hread
    · exact Or.inl (.stored hbefore)

/-- A token that has not been read is in one body only, and nobody has it. -/
structure Apart (c : Client) (issued : List AccessToken) : Prop where
  pending : ∀ i t, c.pending i = some t → t ∈ issued
  alone : ∀ i j t, c.pending i = some t → c.pending j = some t → i = j
  held : ∀ t, c.Holds t → t ∈ issued ∧ ∀ i, c.pending i ≠ some t

theorem Apart.step {issued : List AccessToken} (h : Apart c issued) (hmove : RetryMove c event c')
    (hnodup : ((issuedToken c event).toList ++ issued).Nodup) :
    Apart c' ((issuedToken c event).toList ++ issued) := by
  have hnew : ∀ t ∈ issued, issuedToken c event ≠ some t := by
    intro t ht hissue
    simp [hissue, ht] at hnodup
  constructor
  · intro j t hj
    rcases pending_move hmove hj with hold | ⟨_, hissue⟩
    · exact List.mem_append_right _ (h.pending j t hold)
    · simp [hissue]
  · intro j k t hj hk
    rcases pending_move hmove hj with hold | ⟨⟨response, rfl⟩, hissue⟩
    · rcases pending_move hmove hk with hother | ⟨_, hissue⟩
      · exact h.alone j k t hold hother
      · exact absurd hissue (hnew t (h.pending j t hold))
    · rcases pending_move hmove hk with hother | ⟨⟨_, heq⟩, _⟩
      · exact absurd hissue (hnew t (h.pending k t hother))
      · cases heq
        rfl
  · intro t ht
    rcases holds_move hmove ht with hold | ⟨k, hk, hread⟩
    · obtain ⟨hissued, hbodies⟩ := h.held t hold
      refine ⟨List.mem_append_right _ hissued, fun j hj => ?_⟩
      rcases pending_move hmove hj with hbody | ⟨_, hissue⟩
      · exact hbodies j hbody
      · exact hnew t hissued hissue
    · have hissued := h.pending k t hk
      refine ⟨List.mem_append_right _ hissued, fun j hj => ?_⟩
      rcases pending_move hmove hj with hbody | ⟨_, hissue⟩
      · rw [h.alone j k t hbody hk, hread] at hj
        cases hj
      · exact hnew t hissued hissue

/-! ## Second attempts -/

/-- No call waits for a refresh that has stored its token, with the token that is
stored now. -/
def WaitsForAnother (c : Client) : Prop :=
  ∀ (i : Nat) (call : ApiCall) (refresh : Nat) (t : AccessToken),
    c.stages[i]? = some (.apiRefresh call refresh) → c.refreshed refresh = true →
      c.accessToken = some t → call.requestAccessToken ≠ some t

/-- The refresh that a call begins to wait for has yet to store its token. -/
theorem unread_when_waiting (hflight : SingleFlight c) (hjobs : JobsFirst c event) {refresh : Nat}
    (hevent : ∃ response, event = .responded i response) 
    (h : c.refreshInFlight = some refresh ∨ c.stages.length = refresh) :
    c.refreshed refresh = false := by
  obtain ⟨response, rfl⟩ := hevent
  rcases h with h | rfl
  · have hrefreshes := (hflight refresh).mp h
    cases hstage : c.stages[refresh]? with
    | none => simp [Client.refreshed, hstage]
    | some stage =>
      rw [refreshed_of_stage hstage]
      rw [hstage] at hrefreshes
      cases stage with
      | refreshFinally result => cases hjobs _ (List.mem_of_getElem? hstage)
      | refreshSettled => cases hrefreshes
      | _ => rfl
  · simp [Client.refreshed]

theorem WaitsForAnother.step {issued : List AccessToken} (h : WaitsForAnother c)
    (hmove : RetryMove c event c') (hapart : Apart c issued) (hflight : SingleFlight c)
    (hjobs : JobsFirst c event) : WaitsForAnother c' := by
  intro i call refresh t hi hrefreshed ht hcall
  have hread : ∀ old, c.stages[i]? = some old → old.waitingCall = some call →
      ¬ ∃ j, c.pending j = some t ∧ c'.pending j = none := by
    rintro old hold hwaited ⟨j, hj, _⟩
    exact (hapart.held t (.sent i old call hold hwaited hcall)).2 j hj
  cases stage_move hmove hi with
  | same hold =>
    obtain ⟨hbefore, hsame⟩ := (stored_move hmove ht).resolve_left (hread _ hold rfl)
    exact h i call refresh t hold (hsame refresh hrefreshed) hbefore hcall
  | plain hplain => cases hplain.calls
  | begun _ _ hstage => cases hstage
  | answered _ _ hcalls => cases hcalls
  | waits call' refresh' hold hevent hwaits hstage =>
    cases hstage
    obtain ⟨_, hsame⟩ := (stored_move hmove ht).resolve_left (hread _ hold rfl)
    have hunread := unread_when_waiting hflight hjobs hevent hwaits
    simp [hsame refresh hrefreshed] at hunread

/-- A call that has sent its second attempt has sent it with another token. -/
def RetriesWithAnother (c : Client) : Prop :=
  ∀ i first second, c.attempts i = [first, second] → first ≠ second

theorem RetriesWithAnother.step (h : RetriesWithAnother c) (hmove : RetryMove c event c')
    (htried : Tried c) (hwaits : WaitsForAnother c) : RetriesWithAnother c' := by
  intro j first second hj
  cases hmove with
  | quiet _ _ hattempts => exact h j first second ((hattempts j).symm.trans hj)
  | answered _ _ _ _ _ _ _ _ hattempts => exact h j first second ((hattempts j).symm.trans hj)
  | stored _ _ _ _ _ _ _ hattempts => exact h j first second ((hattempts j).symm.trans hj)
  | waits _ _ _ _ _ _ _ _ hattempts => exact h j first second ((hattempts j).symm.trans hj)
  | begins call _ _ _ hattempts =>
    rw [hattempts] at hj
    split at hj
    · next hlength =>
      have hnone := htried.unbegun j (List.getElem?_eq_none hlength.le)
      simp [hnone] at hj
    · exact h j first second (by simpa using hj)
  | retries i old stage call token hi hcall htoken hnew _ _ _ _ hattempts =>
    rw [hattempts] at hj
    split at hj
    · next heq =>
      subst heq
      rw [htried.waiting i old call hi hcall] at hj
      obtain ⟨rfl, rfl⟩ : call.requestAccessToken = first ∧ some token = second := by simpa using hj
      rcases hnew with ⟨_, hne⟩ | ⟨refresh, rfl, hrefreshed⟩
      · exact hne
      · exact hwaits i call refresh token hi hrefreshed htoken
    · exact h j first second (by simpa using hj)

theorem retries_after (past : List ClientEvent)
    (hjobs : run.Every clientStep Client.loaded JobsFirst past) (hissued : (issuedTokens past).Nodup) :
    Apart (run.after clientStep Client.loaded past) (issuedTokens past) ∧
      WaitsForAnother (run.after clientStep Client.loaded past) ∧
        RetriesWithAnother (run.after clientStep Client.loaded past) := by
  induction past with
  | nil =>
    refine ⟨⟨fun i t h => ?_, fun i j t h => ?_, fun t h => ?_⟩, fun i call refresh t h => ?_,
      fun i first second h => ?_⟩
    · simp [Client.loaded, Client.pending] at h
    · simp [Client.loaded, Client.pending] at h
    · cases h with
      | stored h => cases h
      | sent i stage call h => simp [Client.loaded] at h
    · simp [Client.loaded] at h
    · simp [Client.loaded, Client.attempts] at h
  | cons event past ih =>
    obtain ⟨hpast, hevent⟩ := hjobs
    obtain ⟨hapart, hwaits, hretries⟩ := ih hpast (List.Nodup.of_append_right hissued)
    have hmove := retry_moves (client_moves (run.after clientStep Client.loaded past) event)
    refine ⟨hapart.step hmove hissued, ?_, hretries.step hmove (tried_after past) hwaits⟩
    exact hwaits.step hmove hapart (singleFlight_after past) hevent

end

/-- Whatever calls run at once, at most one refresh of a tab is in flight, every
call of `api()` sends its request at most twice, and as long as the server issues
no token twice, the second attempt carries another token than the first. -/
theorem refresh_is_single_flight_and_retries_are_fresh (past : List ClientEvent) :
    let c := run.after clientStep Client.loaded past
    (∀ i j : Nat, c.stages[i]?.any ClientStage.refreshes = true →
      c.stages[j]?.any ClientStage.refreshes = true → i = j) ∧
    ∀ i, (c.attempts i).length ≤ 2 ∧
      (run.Every clientStep Client.loaded JobsFirst past → (issuedTokens past).Nodup →
        ∀ first second, c.attempts i = [first, second] → first ≠ second) := by
  refine ⟨fun i j hi hj => ?_, fun i => ⟨(tried_after past).twice i, fun hjobs hissued => ?_⟩⟩
  · have hflight := singleFlight_after past
    exact Option.some.inj (((hflight i).mpr hi).symm.trans ((hflight j).mpr hj))
  · exact (retries_after past hjobs hissued).2.2 i

/-! ## A call that refreshes -/

def firstToken : AccessToken := ⟨0, some 1, 0⟩
def secondToken : AccessToken := ⟨0, some 1, 1⟩

/-- A login, a request whose token is rejected, the refresh that it begins, and
the second attempt. -/
def aRefreshedRetry : List ClientEvent :=
  [.resumed 1, .resumed 2, .resumed 2, .responded 2 ⟨200, some secondToken⟩,
    .responded 1 ⟨401, none⟩, .called (.api .get_me), .resumed 0, .responded 0 ⟨200, some firstToken⟩,
    .called (.login ⟨[], ['a'], by decide⟩)]

theorem a_retry_carries_the_new_token :
    let c := run.after clientStep Client.loaded aRefreshedRetry
    c.attempts 1 = [some firstToken, some secondToken] ∧ some firstToken ≠ some secondToken := by
  have hattempts : (run.after clientStep Client.loaded aRefreshedRetry).attempts 1 =
      [some firstToken, some secondToken] := by decide
  refine ⟨hattempts, ?_⟩
  have h := (refresh_is_single_flight_and_retries_are_fresh aRefreshedRetry).2 1
  refine h.2 ?_ (by decide) _ _ hattempts
  simp only [aRefreshedRetry, run.Every, JobsFirst]
  decide

end pulseforge

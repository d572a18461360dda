-- One tab against the server: the module `lib/api.ts`, the cookie jar of the
-- browser, the messages in flight, and the whole backend. Every message is
-- delivered, in any order; the server handles a request at once.
import PulseForge.Client
import PulseForge.WriteIntegrity
import Mathlib.Data.List.Perm.Basic

open txn table

namespace pulseforge

variable [Platform]

/-! ## Messages -/

def ApiRequest.request (credentials : Option Bearer) : ApiRequest → Request
  | .change_password payload => .auth (.change_password credentials payload)
  | .logout_all => .auth (.logout_all credentials)
  | .list_sessions => .auth (.list_sessions credentials)
  | .revoke_session session_id => .auth (.revoke_session credentials session_id)
  | .get_me => .auth (.get_me credentials)
  | .tenant request => .tenant credentials request

/-- The request of a `fetch`, with the refresh cookie of the jar. -/
def Fetch.request (cookie : Option Text) : Fetch → Request
  | .refresh => .auth (.refresh cookie)
  | .api request bearer => request.request (bearer.map .signed)
  | .login payload => .auth (.login payload)
  | .logout => .auth (.logout cookie)
  | .reset_password payload => .auth (.reset_password payload)

/-- The `Set-Cookie` of a response. -/
inductive SetCookie
  | keep
  | set (raw : Text)
  | delete
  deriving DecidableEq

def SetCookie.apply (cookie : Option Text) : SetCookie → Option Text
  | .keep => cookie
  | .set raw => some raw
  | .delete => none

structure Answer where
  response : Response
  cookie : SetCookie

/-- The client tells a success with a body from one without, and 401 from other
errors. -/
def status_code : Except Failure Body → Nat
  | .error failure => (error_response failure).status_code
  | .ok .no_content => 204
  | .ok _ => 200

def bodyToken : Except Failure Body → Option AccessToken
  | .ok (.tokens tokens) => some tokens.access_token
  | _ => none

/-- `set_refresh_cookie` and `delete_refresh_cookie`. An error response sets no cookie. -/
def setCookie (r : Request) : Except Failure Body → SetCookie
  | .error _ => .keep
  | .ok (.tokens tokens) => .set tokens.refresh_cookie
  | .ok _ =>
    match r with
    | .auth (.logout _) => .delete
    | .auth (.change_password ..) => .delete
    | .auth (.reset_password _) => .delete
    | .auth (.logout_all _) => .delete
    | _ => .keep

def answerTo (r : Request) (reply : Except Failure Body) : Answer :=
  ⟨⟨status_code reply, bodyToken reply⟩, setCookie r reply⟩

/-! ## The tab and the server -/

/-- The messages in flight carry the number of their call. -/
structure Web where
  client : Client
  jar : Option Text
  store : Store
  requests : List (Nat × Request)
  answers : List (Nat × Answer)

/-- A page that was just loaded, with the cookie of an earlier visit. -/
def Web.loaded (jar : Option Text) (store : Store) : Web := ⟨Client.loaded, jar, store, [], []⟩

/-- A page calls a function; the server handles a request, or an answer arrives
at the tab, by their places among those in flight; a call goes on that awaits
no message. -/
inductive WebEvent
  | called (call : PageCall)
  | handled (k : Nat) (e : Env)
  | arrived (k : Nat)
  | resumed (i : Nat)

namespace Web

/-- The client after an event, its requests on their way. -/
def post (w : Web) (c : Client) : Web :=
  { w with
    client := { c with fetches := [] },
    requests := w.requests ++ c.fetches.map fun p => (p.1, p.2.request w.jar) }

def handled (k : Nat) (e : Env) (w : Web) : Web :=
  match w.requests[k]? with
  | some (i, r) =>
    let out := handle e r w.store
    { w with
      store := out.2,
      requests := w.requests.eraseIdx k,
      answers := w.answers ++ [(i, answerTo r out.1)] }
  | none => w

/-- The browser stores the cookie of an answer before the page sees it. -/
def arrived (k : Nat) (w : Web) : Web :=
  match w.answers[k]? with
  | some (i, answer) =>
    let w' := { w with answers := w.answers.eraseIdx k, jar := answer.cookie.apply w.jar }
    w'.post (w'.client.respond i answer.response)
  | none => w

end Web

def webStep (w : Web) : WebEvent → Web
  | .called call => w.post (w.client.call call)
  | .handled k e => w.handled k e
  | .arrived k => w.arrived k
  | .resumed i => w.post (w.client.resume i)

/-! ## The messages and the calls -/

/-- The calls that have a message in flight. -/
def Web.numbers (w : Web) : List Nat := w.requests.map Prod.fst ++ w.answers.map Prod.fst

/-- A call has at most one message in flight, and awaits its answer. -/
structure Wired (w : Web) : Prop where
  sent : w.client.fetches = []
  numbers : w.numbers.Nodup
  requests : ∀ p ∈ w.requests, ∃ stage fetch cookie, w.client.stages[p.1]? = some stage ∧
    stage.Sends fetch ∧ p.2 = fetch.request cookie
  answers : ∀ p ∈ w.answers, ∃ stage, w.client.stages[p.1]? = some stage ∧ stage.fetching = true

omit [Platform] in
theorem ClientStage.Sends.fetching {stage : ClientStage} {fetch : Fetch} (h : stage.Sends fetch) :
    stage.fetching = true := by
  cases stage <;> first | rfl | exact h.elim

omit [Platform] in
/-- A message and the others. -/
theorem perm_eraseIdx {α : Type} {l : List (Nat × α)} {k : Nat} {p : Nat × α} (h : l[k]? = some p) :
    (l.map Prod.fst).Perm (p.1 :: (l.eraseIdx k).map Prod.fst) := by
  obtain ⟨hlt, rfl⟩ := List.getElem?_eq_some_iff.mp h
  exact ((List.getElem_cons_eraseIdx_perm hlt).map Prod.fst).symm

section
variable {w : Web}

omit [Platform] in
theorem Wired.awaited (h : Wired w) {j : Nat} (hj : j ∈ w.numbers) :
    ∃ stage, w.client.stages[j]? = some stage ∧ stage.fetching = true := by
  rcases List.mem_append.mp hj with hj | hj
  · obtain ⟨p, hp, rfl⟩ := List.mem_map.mp hj
    obtain ⟨stage, fetch, _, hstage, hsends, _⟩ := h.requests p hp
    exact ⟨stage, hstage, hsends.fetching⟩
  · obtain ⟨p, hp, rfl⟩ := List.mem_map.mp hj
    exact h.answers p hp

omit [Platform] in
/-- A call that goes on by itself has no message in flight. -/
theorem Wired.not_resumed (h : Wired w) {i j : Nat} (hj : j ∈ w.numbers) {stage : ClientStage}
    (hstage : w.client.stages[j]? = some stage) :
    ¬ (ClientEvent.resumed i).Continues j stage := by
  rintro ⟨_, hwaits⟩
  obtain ⟨stage', hstage', hfetching⟩ := h.awaited hj
  cases hstage.symm.trans hstage'
  rw [hwaits] at hfetching
  cases hfetching

omit [Platform] in
/-- A client event that answers none of the messages in flight. -/
theorem Wired.post (h : Wired w) (event : ClientEvent) (hother : ∀ j ∈ w.numbers, ∀ stage,
    w.client.stages[j]? = some stage → ¬ event.Continues j stage) :
    Wired (w.post (clientStep w.client event)) := by
  have hmoves := client_moves w.client event
  generalize clientStep w.client event = c' at hmoves ⊢
  have hturn := hmoves.turn
  have hstays : ∀ j ∈ w.numbers, ∀ stage, w.client.stages[j]? = some stage →
      c'.stages[j]? = some stage := by
    intro j hj stage hstage
    obtain ⟨stage', hstage', hfetching⟩ := h.awaited hj
    cases hstage.symm.trans hstage'
    exact hturn.stays hstage (hother j hj stage hstage) hfetching
  have hrequests : ∀ p ∈ w.requests, ∃ stage fetch cookie, c'.stages[p.1]? = some stage ∧
      stage.Sends fetch ∧ p.2 = fetch.request cookie := by
    intro p hp
    obtain ⟨stage, fetch, cookie, hstage, hrest⟩ := h.requests p hp
    have hnumber : p.1 ∈ w.numbers := List.mem_append_left _ (List.mem_map_of_mem hp)
    exact ⟨stage, fetch, cookie, hstays _ hnumber stage hstage, hrest⟩
  have hanswers : ∀ p ∈ w.answers, ∃ stage, c'.stages[p.1]? = some stage ∧
      stage.fetching = true := by
    intro p hp
    obtain ⟨stage, hstage, hfetching⟩ := h.answers p hp
    have hnumber : p.1 ∈ w.numbers := List.mem_append_right _ (List.mem_map_of_mem hp)
    exact ⟨stage, hstays _ hnumber stage hstage, hfetching⟩
  cases hmoves.sent with
  | nothing hsame =>
    rw [h.sent] at hsame
    refine ⟨rfl, ?_, ?_, hanswers⟩
    · simpa [Web.numbers, Web.post, hsame] using h.numbers
    · simpa [Web.post, hsame] using hrequests
  | one j fetch stage hone hstage hsends hold =>
    rw [h.sent, List.nil_append] at hone
    have hnew : j ∉ w.numbers := by
      intro hj
      obtain ⟨old, hstage', _⟩ := h.awaited hj
      exact hother j hj old hstage' (hold old hstage').1
    refine ⟨rfl, ?_, ?_, hanswers⟩
    · have hperm : (w.post c').numbers.Perm (j :: w.numbers) := by
        simp only [Web.numbers, Web.post, hone, List.map_append, List.map_cons, List.map_nil,
          List.append_assoc, List.singleton_append]
        exact List.perm_middle
      exact hperm.nodup_iff.mpr (List.nodup_cons.mpr ⟨hnew, h.numbers⟩)
    · intro p hp
      rcases List.mem_append.mp hp with hold' | hp
      · exact hrequests p hold'
      · rw [hone] at hp
        obtain rfl := List.mem_singleton.mp hp
        exact ⟨stage, fetch, w.jar, hstage, hsends, rfl⟩

/-- Handling a request turns it into an answer. -/
theorem Wired.handled (h : Wired w) (k : Nat) (e : Env) : Wired (w.handled k e) := by
  unfold Web.handled
  split
  · next i r hk =>
    have hmem := List.mem_of_getElem? hk
    obtain ⟨stage, fetch, _, hstage, hsends, _⟩ := h.requests _ hmem
    refine ⟨h.sent, ?_, fun p hp => h.requests p (List.mem_of_mem_eraseIdx hp), ?_⟩
    · have hperm : w.numbers.Perm ((w.requests.eraseIdx k).map Prod.fst ++
          (w.answers ++ [(i, answerTo r (handle e r w.store).1)]).map Prod.fst) := by
        rw [List.map_append, ← List.append_assoc]
        exact ((perm_eraseIdx hk).append_right _).trans (List.perm_append_singleton i _).symm
      exact hperm.nodup_iff.mp h.numbers
    · intro p hp
      rcases List.mem_append.mp hp with hold | hnew
      · exact h.answers p hold
      · obtain rfl := List.mem_singleton.mp hnew
        exact ⟨stage, hstage, hsends.fetching⟩
  · exact h

omit [Platform] in
/-- Without the answer that arrives, no message of its call is in flight. -/
theorem Wired.without (h : Wired w) {k i : Nat} {answer : Answer} (hk : w.answers[k]? = some (i, answer))
    (jar : Option Text) :
    Wired { w with answers := w.answers.eraseIdx k, jar := jar } ∧
      i ∉ ({ w with answers := w.answers.eraseIdx k, jar := jar } : Web).numbers := by
  have hperm : w.numbers.Perm
      (i :: (w.requests.map Prod.fst ++ (w.answers.eraseIdx k).map Prod.fst)) :=
    ((perm_eraseIdx hk).append_left _).trans List.perm_middle
  have hnodup := List.nodup_cons.mp (hperm.nodup_iff.mp h.numbers)
  exact ⟨⟨h.sent, hnodup.2, h.requests, fun p hp => h.answers p (List.mem_of_mem_eraseIdx hp)⟩,
    hnodup.1⟩

omit [Platform] in
theorem Wired.arrived (h : Wired w) (k : Nat) : Wired (w.arrived k) := by
  unfold Web.arrived
  split
  · next i answer hk =>
    obtain ⟨hwithout, hi⟩ := h.without hk (answer.cookie.apply w.jar)
    refine hwithout.post (.responded i answer.response) fun j hj stage _ hevent => ?_
    obtain ⟨rfl, _⟩ := hevent
    exact hi hj
  · exact h

theorem Wired.step (h : Wired w) (event : WebEvent) : Wired (webStep w event) := by
  cases event with
  | called call => exact h.post (.called call) fun _ _ _ _ => id
  | handled k e => exact h.handled k e
  | arrived k => exact h.arrived k
  | resumed i => exact h.post (.resumed i) fun _ hj _ hstage => h.not_resumed hj hstage

end

omit [Platform] in
theorem wired_loaded (jar : Option Text) (store : Store) : Wired (Web.loaded jar store) :=
  ⟨rfl, List.nodup_nil, fun _ hp => absurd hp List.not_mem_nil, fun _ hp => absurd hp List.not_mem_nil⟩

theorem wired_after (jar : Option Text) (store : Store) (past : List WebEvent) :
    Wired (run.after webStep (Web.loaded jar store) past) := by
  induction past with
  | nil => exact wired_loaded jar store
  | cons event past ih => exact ih.step event

end pulseforge

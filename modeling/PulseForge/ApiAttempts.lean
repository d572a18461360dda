-- The attempts of a call of `api()`. The client takes every 401 for a rejected
-- token; as long as no handler answers 401 itself, the handler of a call runs at
-- most once, and only a token that was rejected makes the client send again.
import PulseForge.Browser
import PulseForge.Unauthorized

open txn table

namespace pulseforge

variable [Platform]

/-! ## Attempts, and the handlers that run for them -/

/-- The server handles a request of call `i`, and its token is accepted: the
handler runs. -/
def runsHandler (w : Web) (i : Nat) : WebEvent → Bool
  | .handled k e =>
    match w.requests[k]? with
    | some (j, r) => j = i && signedIn e w.store r
    | none => false
  | _ => false

/-- `get_current_user` rejects the token of a request of call `i`. -/
def rejectsToken (w : Web) (i : Nat) : WebEvent → Bool
  | .handled k e =>
    match w.requests[k]? with
    | some (j, r) => j = i && r.bearer.isSome && !signedIn e w.store r
    | none => false
  | _ => false

/-- The handler of a request of call `i` runs, and answers 401. -/
def handlerRefuses (w : Web) (i : Nat) : WebEvent → Bool
  | .handled k e =>
    match w.requests[k]? with
    | some (j, r) => j = i && signedIn e w.store r && refused (handle e r w.store).1
    | none => false
  | _ => false

/-- The request that the server handles is not a password change with a wrong
current password. -/
def NoWrongPassword (w : Web) : WebEvent → Prop
  | .handled k e => ∀ i r, w.requests[k]? = some (i, r) → ¬ WrongPassword e w.store r
  | _ => True

section
variable (start : Web)

/-- How often the handler has run for call `i`. -/
def handlerRuns (i : Nat) : List WebEvent → Nat
  | [] => 0
  | event :: past =>
    handlerRuns i past + (runsHandler (run.after webStep start past) i event).toNat

/-- An attempt of call `i` was rejected for its token. -/
def TokenRejected (i : Nat) : List WebEvent → Prop
  | [] => False
  | event :: past =>
    rejectsToken (run.after webStep start past) i event = true ∨ TokenRejected i past

/-- A handler has answered 401 to call `i`. -/
def HandlerRefused (i : Nat) : List WebEvent → Prop
  | [] => False
  | event :: past =>
    handlerRefuses (run.after webStep start past) i event = true ∨ HandlerRefused i past

/-- Every call has its handler run at most once; one that refreshes, sends again
or clears the tokens for a 401 has had its token rejected; and no such 401 came
from a handler. -/
structure ExecutedOnce (past : List WebEvent) : Prop where
  once : ∀ i, handlerRuns start i past ≤ 1
  rejected : ∀ i stage, (run.after webStep start past).client.stages[i]? = some stage →
    stage.suspects = true → TokenRejected start i past
  handlers : ∀ i, ¬ HandlerRefused start i past

end

/-! ## One step -/

/-- What is known of the attempts of each call, by where it waits: `runs` counts
the runs of its handler, and `rejected` tells if its token was rejected. -/
structure Attempted (w : Web) (runs : Nat → Nat) (rejected : Nat → Prop) : Prop where
  once : ∀ i, runs i ≤ 1
  unbegun : ∀ i, w.client.stages[i]? = none → runs i = 0
  unsent : ∀ i stage, w.client.stages[i]? = some stage → stage.unsent = true → runs i = 0
  requests : ∀ p ∈ w.requests, runs p.1 = 0
  answers : ∀ p ∈ w.answers, p.2.response.status = 401 → ∀ call,
    w.client.stages[p.1]? = some (.apiFetch call) → runs p.1 = 0 ∧ rejected p.1
  suspects : ∀ i stage, w.client.stages[i]? = some stage → stage.suspects = true → rejected i

section
variable {w : Web} {runs : Nat → Nat} {rejected : Nat → Prop}

omit [Platform] in
/-- The stage after an event of a call that suspects its token. -/
theorem ClientStage.Next.suspects {event : ClientEvent} {generation : Nat} {old new : ClientStage}
    (h : old.Next event generation new) (hnew : new.suspects = true) :
    old.suspects = true ∨ ∃ call, old = .apiFetch call ∧ event.unauthorized = true := by
  cases h with
  | waits call _ h => exact Or.inr ⟨call, rfl, h⟩
  | retries call h => exact Or.inr ⟨call, rfl, h⟩
  | retries_refreshed => exact Or.inl rfl
  | erred _ call status hold h =>
    rcases hold with rfl | hold
    · exact Or.inr ⟨call, rfl, h rfl (of_decide_eq_true hnew)⟩
    · exact Or.inl hold
  | _ => cases hnew

omit [Platform] in
/-- The stage after an event of a call that is yet to send. -/
theorem ClientStage.Next.unsent {event : ClientEvent} {generation : Nat} {old new : ClientStage}
    (h : old.Next event generation new) (hnew : new.unsent = true) :
    ∃ call, old = .apiFetch call ∧ event.unauthorized = true := by
  cases h with
  | waits call _ h => exact ⟨call, rfl, h⟩
  | _ => cases hnew

omit [Platform] in
/-- A client event. An answer 401 to a first attempt is one that the call was
rejected with. -/
theorem Attempted.post (h : Attempted w runs rejected) (hwired : Wired w) (event : ClientEvent)
    (hother : ∀ j ∈ w.numbers, ∀ stage, w.client.stages[j]? = some stage →
      ¬ event.Continues j stage)
    (hrefused : event.unauthorized = true → ∀ i call, event.Continues i (.apiFetch call) →
      w.client.stages[i]? = some (.apiFetch call) → runs i = 0 ∧ rejected i) :
    Attempted (w.post (clientStep w.client event)) runs rejected := by
  have hmoves := client_moves w.client event
  generalize clientStep w.client event = c' at hmoves ⊢
  have hturn := hmoves.turn
  refine ⟨h.once, ?_, ?_, ?_, ?_, ?_⟩
  · intro i hi
    refine h.unbegun i (Option.eq_none_iff_forall_ne_some.mpr fun old hold => ?_)
    obtain ⟨stage, hstage⟩ := hturn.goes_on hold
    exact Option.some_ne_none stage (hstage.symm.trans hi)
  · intro i stage hstage hunsent
    cases hturn.came_to hstage with
    | stayed hsame => exact h.unsent i stage hsame hunsent
    | begun hnone => exact h.unbegun i hnone
    | moved old hold hevent hnext =>
      obtain ⟨call, rfl, h401⟩ := hnext.unsent hunsent
      exact (hrefused h401 i call hevent hold).1
    | settled _ _ heq => rw [heq] at hunsent; cases hunsent
    | forked hnone => exact h.unbegun i hnone
  · intro p hp
    rcases List.mem_append.mp hp with hold | hnew
    · exact h.requests p hold
    · obtain ⟨q, hq, rfl⟩ := List.mem_map.mp hnew
      cases hmoves.sent with
      | nothing hsame =>
        rw [hsame, hwired.sent] at hq
        cases hq
      | one j fetch stage hone _ _ hold =>
        rw [hone, hwired.sent] at hq
        obtain rfl := List.mem_singleton.mp hq
        cases hj : w.client.stages[j]? with
        | none => exact h.unbegun j hj
        | some old =>
          obtain ⟨hevent, hunsent | ⟨call, rfl, h401⟩⟩ := hold old hj
          · exact h.unsent j old hj hunsent
          · exact (hrefused h401 j call hevent hj).1
  · intro p hp hstatus call hstage
    have hnumber : p.1 ∈ w.numbers := List.mem_append_right _ (List.mem_map_of_mem hp)
    obtain ⟨stage, hbefore, hfetching⟩ := hwired.answers p hp
    have hsame := hturn.stays hbefore (hother _ hnumber stage hbefore) hfetching
    cases hsame.symm.trans hstage
    exact h.answers p hp hstatus call hbefore
  · intro i stage hstage hsuspects
    cases hturn.came_to hstage with
    | stayed hsame => exact h.suspects i stage hsame hsuspects
    | begun _ hfirst => cases hfirst <;> cases hsuspects
    | moved old hold hevent hnext =>
      rcases hnext.suspects hsuspects with hbefore | ⟨call, rfl, h401⟩
      · exact h.suspects i old hold hbefore
      · exact (hrefused h401 i call hevent hold).2
    | settled _ _ heq => rw [heq] at hsuspects; cases hsuspects
    | forked _ heq => rw [heq] at hsuspects; cases hsuspects

omit [Platform] in
theorem ApiRequest.bearer (request : ApiRequest) (credentials : Option Bearer) :
    (request.request credentials).bearer = some credentials := by
  cases request <;> rfl

omit [Platform] in
theorem refused_of_status {reply : Except Failure Body} (h : status_code reply = 401) :
    refused reply = true := by
  cases reply with
  | error failure => exact decide_eq_true h
  | ok body => cases body <;> cases h

omit [Platform] in
/-- A message of another call stays in flight when the one at place `k` is taken. -/
theorem Wired.other {k i : Nat} {r : Request} (hwired : Wired w) (hk : w.requests[k]? = some (i, r)) :
    (∀ p ∈ w.requests.eraseIdx k, p.1 ≠ i) ∧ ∀ p ∈ w.answers, p.1 ≠ i := by
  have hperm : w.numbers.Perm
      (i :: ((w.requests.eraseIdx k).map Prod.fst ++ w.answers.map Prod.fst)) :=
    (perm_eraseIdx hk).append_right _
  have hfresh := (List.nodup_cons.mp (hperm.nodup_iff.mp hwired.numbers)).1
  constructor
  · rintro p hp rfl
    exact hfresh (List.mem_append_left _ (List.mem_map_of_mem hp))
  · rintro p hp rfl
    exact hfresh (List.mem_append_right _ (List.mem_map_of_mem hp))

omit [Platform] in
theorem ClientStage.not_fetching_of_unsent {stage : ClientStage} (h : stage.unsent = true) :
    stage.fetching = false := by
  cases stage <;> first | rfl | cases h

/-- The server handles a request. -/
theorem Attempted.handled (h : Attempted w runs rejected) (hwired : Wired w) (k : Nat) (e : Env)
    (hpassword : NoWrongPassword w (.handled k e)) :
    Attempted (w.handled k e) (fun i => runs i + (runsHandler w i (.handled k e)).toNat)
      (fun i => rejectsToken w i (.handled k e) = true ∨ rejected i) := by
  cases hk : w.requests[k]? with
  | none =>
    have hsame : w.handled k e = w := by simp only [Web.handled, hk]
    have hruns : ∀ i, runsHandler w i (.handled k e) = false := fun i => by
      simp only [runsHandler, hk]
    simp only [hsame, hruns, Bool.toNat_false, Nat.add_zero]
    exact ⟨h.once, h.unbegun, h.unsent, h.requests,
      fun p hp hs call hc => (h.answers p hp hs call hc).imp_right Or.inr,
      fun i stage hi hs => Or.inr (h.suspects i stage hi hs)⟩
  | some p =>
    obtain ⟨i, r⟩ := p
    have hmem := List.mem_of_getElem? hk
    have hzero := h.requests _ hmem
    obtain ⟨hotherRequests, hotherAnswers⟩ := hwired.other hk
    obtain ⟨stage, fetch, cookie, hstage, hsends, hr⟩ := hwired.requests _ hmem
    have hother : ∀ j, j ≠ i → runsHandler w j (.handled k e) = false := fun j hj => by
      simp only [runsHandler, hk, decide_eq_false (Ne.symm hj), Bool.false_and]
    have hsame : ∀ j, j ≠ i → runs j + (runsHandler w j (.handled k e)).toNat = runs j := by
      intro j hj
      rw [hother j hj]
      rfl
    have hstep : w.handled k e =
        { w with
          store := (handle e r w.store).2,
          requests := w.requests.eraseIdx k,
          answers := w.answers ++ [(i, answerTo r (handle e r w.store).1)] } := by
      simp only [Web.handled, hk]
    rw [hstep]
    refine ⟨fun j => ?_, fun j hj => ?_, fun j old hj hunsent => ?_, fun p hp => ?_, ?_, ?_⟩
    · by_cases hji : j = i
      · rw [hji, hzero, Nat.zero_add]
        exact Bool.toNat_le _
      · rw [hsame j hji]
        exact h.once j
    · have hji : j ≠ i := by
        rintro rfl
        exact Option.some_ne_none stage (hstage.symm.trans hj)
      rw [hsame j hji]
      exact h.unbegun j hj
    · have hji : j ≠ i := by
        rintro rfl
        cases hstage.symm.trans hj
        have hidle := ClientStage.not_fetching_of_unsent hunsent
        exact Bool.false_ne_true (hidle.symm.trans hsends.fetching)
      rw [hsame j hji]
      exact h.unsent j old hj hunsent
    · rw [hsame _ (hotherRequests p hp)]
      exact h.requests p (List.mem_of_mem_eraseIdx hp)
    · intro p hp hstatus call hcall
      rcases List.mem_append.mp hp with hold | hnew
      · rw [hsame _ (hotherAnswers p hold)]
        exact (h.answers p hold hstatus call hcall).imp_right Or.inr
      · obtain rfl := List.mem_singleton.mp hnew
        cases hstage.symm.trans hcall
        -- Only a token that was rejected gives an answer 401.
        have hbearer : ∃ credentials, r.bearer = some credentials := by
          cases fetch with
          | api request bearer =>
            refine ⟨bearer.map .signed, ?_⟩
            rw [show r = request.request (bearer.map .signed) from hr]
            exact request.bearer _
          | _ => exact hsends.elim
        have hrejected : signedIn e w.store r = false := by
          rw [Bool.eq_false_iff]
          intro hsigned
          exact hpassword i r hk ((refused_iff hsigned).mp (refused_of_status hstatus))
        obtain ⟨credentials, hbearer⟩ := hbearer
        constructor
        · simp [hzero, runsHandler, hk, hrejected]
        · left
          simp [rejectsToken, hk, hbearer, hrejected]
    · exact fun j old hj hsuspects => Or.inr (h.suspects j old hj hsuspects)

/-- Under the condition, no handler answers 401. -/
theorem not_handlerRefuses {event : WebEvent} (hpassword : NoWrongPassword w event) (i : Nat) :
    handlerRefuses w i event = false := by
  cases event with
  | handled k e =>
    cases hk : w.requests[k]? with
    | none => simp only [handlerRefuses, hk]
    | some p =>
      obtain ⟨j, r⟩ := p
      cases hsigned : signedIn e w.store r with
      | false => simp [handlerRefuses, hk, hsigned]
      | true =>
        have hkept : refused (handle e r w.store).1 = false := by
          rw [Bool.eq_false_iff]
          intro h
          exact hpassword j r hk ((refused_iff hsigned).mp h)
        simp [handlerRefuses, hk, hkept]
  | _ => rfl

end

/-! ## Runs -/

section
variable {start : Web} {past : List WebEvent}

theorem Attempted.step {w : Web} {runs : Nat → Nat} {rejected : Nat → Prop}
    (h : Attempted w runs rejected) (hwired : Wired w) {event : WebEvent}
    (hpassword : NoWrongPassword w event) :
    Attempted (webStep w event) (fun i => runs i + (runsHandler w i event).toNat)
      (fun i => rejectsToken w i event = true ∨ rejected i) := by
  have hclient : ∀ w', Attempted w' runs rejected → (∀ i, runsHandler w i event = false) →
      Attempted w' (fun i => runs i + (runsHandler w i event).toNat)
        (fun i => rejectsToken w i event = true ∨ rejected i) := by
    intro w' h hruns
    simp only [hruns, Bool.toNat_false, Nat.add_zero]
    exact ⟨h.once, h.unbegun, h.unsent, h.requests,
      fun p hp hs call hc => (h.answers p hp hs call hc).imp_right Or.inr,
      fun i stage hi hs => Or.inr (h.suspects i stage hi hs)⟩
  cases event with
  | called call =>
    exact hclient _ (h.post hwired (.called call) (fun _ _ _ _ => id) nofun) fun _ => rfl
  | handled k e => exact h.handled hwired k e hpassword
  | resumed i =>
    refine hclient _ (h.post hwired (.resumed i) ?_ nofun) fun _ => rfl
    exact fun _ hj _ hstage => hwired.not_resumed hj hstage
  | arrived k =>
    refine hclient _ ?_ fun _ => rfl
    show Attempted (w.arrived k) runs rejected
    unfold Web.arrived
    split
    · next i answer hk =>
      obtain ⟨hwithout, hi⟩ := hwired.without hk (answer.cookie.apply w.jar)
      have hrest : Attempted { w with answers := w.answers.eraseIdx k, jar := answer.cookie.apply w.jar }
          runs rejected :=
        { h with answers := fun p hp => h.answers p (List.mem_of_mem_eraseIdx hp) }
      refine hrest.post hwithout (.responded i answer.response) ?_ ?_
      · rintro j hj stage _ ⟨rfl, _⟩
        exact hi hj
      · rintro h401 j call ⟨rfl, _⟩ hstage
        exact h.answers _ (List.mem_of_getElem? hk) (of_decide_eq_true h401) call hstage
    · exact h

omit [Platform] in
theorem attempted_loaded (jar : Option Text) (store : Store) :
    Attempted (Web.loaded jar store) (fun _ => 0) (fun _ => False) :=
  ⟨fun _ => Nat.zero_le _, fun _ _ => rfl, fun _ _ _ _ => rfl, fun _ _ => rfl,
    fun _ hp => absurd hp List.not_mem_nil, fun i stage hi _ => by cases hi⟩

theorem attempted_after {jar : Option Text} {store : Store}
    (h : run.Every webStep (Web.loaded jar store) NoWrongPassword past) :
    Attempted (run.after webStep (Web.loaded jar store) past)
      (fun i => handlerRuns (Web.loaded jar store) i past)
      (fun i => TokenRejected (Web.loaded jar store) i past) := by
  induction past with
  | nil => exact attempted_loaded jar store
  | cons event past ih => exact (ih h.1).step (wired_after jar store past) h.2

/-- As long as no call changes the password with a wrong current one, every call
is executed at most once, whatever the order of the messages. -/
theorem every_call_is_executed_once_unless_a_current_password_is_wrong (jar : Option Text)
    (store : Store) (past : List WebEvent)
    (h : run.Every webStep (Web.loaded jar store) NoWrongPassword past) :
    ExecutedOnce (Web.loaded jar store) past := by
  have hattempted := attempted_after h
  refine ⟨hattempted.once, hattempted.suspects, fun i => ?_⟩
  clear hattempted
  induction past with
  | nil => exact id
  | cons event past ih =>
    rintro (hrefuses | hbefore)
    · rw [not_handlerRefuses h.2 i] at hrefuses
      cases hrefuses
    · exact ih h.1 hbefore

end

/-! ## An expired token -/

/-- The database after the registration of a user. -/
def registered : Store :=
  (@handle samplePlatform (sampleEnv 0) (.auth (.register sampleUser)) Store.empty).2

/-- A user signs in and creates an organization when the access token has expired:
the request is rejected, the tab refreshes and sends it again. -/
def anExpiredToken : List WebEvent :=
  [.resumed 1, .arrived 0, .handled 0 (sampleEnv 3002), .resumed 1, .resumed 2, .resumed 2,
    .arrived 0, .handled 0 (sampleEnv 3001), .arrived 0, .handled 0 (sampleEnv 3000),
    .called (.api (.tenant (.create_organization sampleOrganization))),
    .resumed 0, .arrived 0, .handled 0 (sampleEnv 1), .called (.login sampleLogin)]

/-- The request that the server handles is no password change. -/
def changesNoPassword (w : Web) : WebEvent → Bool
  | .handled k _ =>
    match w.requests[k]? with
    | some (_, .auth (.change_password _ _)) => false
    | _ => true
  | _ => true

theorem noWrongPassword_of_none {w : Web} {event : WebEvent} (h : changesNoPassword w event = true) :
    NoWrongPassword w event := by
  cases event with
  | handled k e =>
    rintro i r hr ⟨credentials, payload, user, rfl, _⟩
    simp only [changesNoPassword, hr] at h
    cases h
  | _ => trivial

omit [Platform] in
/-- The handler runs for the second attempt only, and the organization is created once. -/
theorem an_expired_token_is_refreshed_and_the_call_runs_once :
    @ExecutedOnce samplePlatform (Web.loaded none registered) anExpiredToken ∧
      @TokenRejected samplePlatform (Web.loaded none registered) 1 anExpiredToken ∧
      @handlerRuns samplePlatform (Web.loaded none registered) 1 anExpiredToken = 1 ∧
      (run.after (@webStep samplePlatform) (Web.loaded none registered)
        anExpiredToken).store.organizations.length = 1 := by
  have hnone : run.Every (@webStep samplePlatform) (Web.loaded none registered)
      (fun w event => changesNoPassword w event = true) anExpiredToken := by decide +kernel
  refine ⟨?_, ?_, by decide +kernel, by decide +kernel⟩
  · exact @every_call_is_executed_once_unless_a_current_password_is_wrong samplePlatform none registered _
      (hnone.mono fun _ _ h => @noWrongPassword_of_none samplePlatform _ _ h)
  · simp only [anExpiredToken, TokenRejected]
    decide +kernel

/-! ## A wrong current password -/

def wrongPassword : ChangePasswordRequest where
  current_password := "wrong horse".toList
  new_password := "battery staple".toList
  current_password_length := by decide
  new_password_length := staple_length

/-- A user signs in and changes the password with a wrong current one; the tab
refreshes, sends the request again, and clears its tokens. -/
def aWrongPassword : List WebEvent :=
  [.resumed 1, .arrived 0, .handled 0 (sampleEnv 4), .resumed 1, .resumed 2, .resumed 2,
    .arrived 0, .handled 0 (sampleEnv 3), .arrived 0, .handled 0 (sampleEnv 2),
    .called (.changePassword wrongPassword),
    .resumed 0, .arrived 0, .handled 0 (sampleEnv 1), .called (.login sampleLogin)]

omit [Platform] in
theorem a_wrong_current_password_is_checked_twice :
    ¬ @ExecutedOnce samplePlatform (Web.loaded none registered) aWrongPassword ∧
      (run.after (@webStep samplePlatform) (Web.loaded none registered)
        aWrongPassword).client.accessToken = none ∧
      (run.after (@webStep samplePlatform) (Web.loaded none registered)
        aWrongPassword).store.refresh_tokens.map (fun r => r.revoked_at.isSome) = [true, false] := by
  have htwice : @handlerRuns samplePlatform (Web.loaded none registered) 1 aWrongPassword = 2 := by
    decide +kernel
  refine ⟨fun h => ?_, by decide +kernel, by decide +kernel⟩
  have hle := @ExecutedOnce.once samplePlatform _ _ h 1
  rw [htwice] at hle
  omega

end pulseforge

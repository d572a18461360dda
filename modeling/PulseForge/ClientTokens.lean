-- The access token of a tab. A refresh compares the generation before it reads
-- the body of its answer, and stores the token after: the token is stored in its
-- own session exactly if no session began or ended while the body was awaited.
import PulseForge.Client

namespace pulseforge

/-! ## Tokens and their sessions -/

/-- The generation whose token is stored when the body has been read: that of
the refresh, or that of the session that the login has begun. -/
def ClientStage.body : ClientStage → Option Nat
  | .refreshBody generation _ => some generation
  | .loginBody generation _ => some generation
  | _ => none

def Client.bodyOf (c : Client) (i : Nat) : Option Nat := c.stages[i]?.bind ClientStage.body

/-- The generation whose token the event stores. -/
def storesFor (c : Client) : ClientEvent → Option Nat
  | .resumed i => c.bodyOf i
  | _ => none

/-- A token is stored in the session that it belongs to. -/
def InItsSession (c : Client) (event : ClientEvent) : Prop :=
  ∀ generation, storesFor c event = some generation → generation = c.sessionGeneration

/-- The event runs `clearTokens`, or is the answer of a login that goes through. -/
def turnsSession (c : Client) : ClientEvent → Bool
  | .called .clearTokens => true
  | .called _ => false
  | .responded i response =>
    match c.stages[i]? with
    | some (.refreshFetch generation) => generation = c.sessionGeneration && !response.ok
    | some .loginFetch => response.ok
    | some .logoutFetch => true
    | some .resetFetch => response.ok
    | _ => false
  | .failed i =>
    match c.stages[i]? with
    | some (.refreshFetch generation) => generation = c.sessionGeneration
    | some (.refreshBody generation _) => generation = c.sessionGeneration
    | some .logoutFetch => true
    | _ => false
  | .resumed i =>
    match c.stages[i]? with
    | some (.apiError call status) => status = 401 && call.requestGeneration = c.sessionGeneration
    | some (.apiOk call _) => call.clears
    | _ => false

/-- While call `i` waited for its body, a session began or ended. -/
def Overtaken (i : Nat) : List ClientEvent → Prop
  | [] => False
  | event :: past =>
    let c := run.after clientStep Client.loaded past
    (c.bodyOf i).isSome = true ∧ turnsSession c event = true ∨ Overtaken i past

/-- The event does not store the token of a body that was overtaken. -/
def NotOvertaken (past : List ClientEvent) (event : ClientEvent) : Prop :=
  ∀ i, event = .resumed i →
    ((run.after clientStep Client.loaded past).bodyOf i).isSome = true → ¬ Overtaken i past

/-! ## One event -/

section
variable (c : Client) (i : Nat)

theorem sessionGeneration_login (payload : UserLogin) :
    (c.login payload).sessionGeneration = c.sessionGeneration := by
  unfold Client.login
  split <;> rfl

theorem sessionGeneration_logout : c.logout.sessionGeneration = c.sessionGeneration := by
  unfold Client.logout
  split <;> rfl

theorem sessionGeneration_refreshSession :
    c.refreshSession.1.sessionGeneration = c.sessionGeneration := by
  unfold Client.refreshSession
  split <;> rfl

theorem sessionGeneration_retry (call : ApiCall) (token : Option AccessToken) :
    (c.retry i call token).sessionGeneration = c.sessionGeneration := by
  cases token <;> rfl

theorem sessionGeneration_settle (call : ApiCall) (response : Response) :
    (c.settle i call response).sessionGeneration = c.sessionGeneration := by
  unfold Client.settle
  split <;> rfl

theorem sessionGeneration_respond (response : Response) :
    (c.respond i response).sessionGeneration =
      c.sessionGeneration + (turnsSession c (.responded i response)).toNat := by
  unfold Client.respond
  simp only [turnsSession]
  cases h : c.stages[i]? with
  | none => rfl
  | some stage =>
    cases stage with
    | refreshFetch generation =>
      by_cases hg : generation = c.sessionGeneration
      · cases hok : response.ok <;> simp [hg, Client.awaits, Client.clearTokens]
      · simp [hg, Client.awaits]
    | apiFetch call =>
      simp only
      split
      · split
        · exact sessionGeneration_refreshSession c
        · exact sessionGeneration_retry c i call _
      · exact sessionGeneration_settle c i call response
    | apiRetry call => exact sessionGeneration_settle c i call response
    | loginFetch => cases hok : response.ok <;> rfl
    | resetFetch => cases hok : response.ok <;> rfl
    | _ => rfl

theorem sessionGeneration_fail :
    (c.fail i).sessionGeneration =
      c.sessionGeneration + (turnsSession c (.failed i)).toNat := by
  unfold Client.fail
  simp only [turnsSession]
  cases h : c.stages[i]? with
  | none => rfl
  | some stage =>
    cases stage with
    | refreshFetch generation =>
      by_cases hg : generation = c.sessionGeneration <;> simp [hg, Client.awaits, Client.clearTokens]
    | refreshBody generation _ =>
      by_cases hg : generation = c.sessionGeneration <;> simp [hg, Client.awaits, Client.clearTokens]
    | apiOk call status =>
      simp only
      split <;> rfl
    | _ => rfl

theorem sessionGeneration_resume :
    (c.resume i).sessionGeneration =
      c.sessionGeneration + (turnsSession c (.resumed i)).toNat := by
  unfold Client.resume
  simp only [turnsSession]
  cases h : c.stages[i]? with
  | none => rfl
  | some stage =>
    cases stage with
    | apiRefresh call refresh =>
      simp only
      split
      · exact sessionGeneration_retry c i call _
      · rfl
    | apiError call status =>
      simp only
      split
      · next h => simp [h, Client.awaits, Client.clearTokens]
      · next h => simpa [Client.awaits] using h
    | apiOk call status =>
      simp only
      cases call.clears <;> rfl
    | loginWait payload refresh =>
      simp only
      split <;> rfl
    | logoutWait refresh =>
      simp only
      split <;> rfl
    | _ => rfl

end

/-- `sessionGeneration` counts the sessions that began or ended. -/
theorem sessionGeneration_step (c : Client) (event : ClientEvent) :
    (clientStep c event).sessionGeneration =
      c.sessionGeneration + (turnsSession c event).toNat := by
  cases event with
  | called call =>
    cases call with
    | login => exact sessionGeneration_login c _
    | logout => exact sessionGeneration_logout c
    | _ => rfl
  | responded i response => exact sessionGeneration_respond c i response
  | failed i => exact sessionGeneration_fail c i
  | resumed i => exact sessionGeneration_resume c i

theorem accessToken_retry (c : Client) (i : Nat) (call : ApiCall) (token : Option AccessToken) :
    (c.retry i call token).accessToken = c.accessToken := by
  cases token <;> rfl

theorem accessToken_settle (c : Client) (i : Nat) (call : ApiCall) (response : Response) :
    (c.settle i call response).accessToken = c.accessToken := by
  unfold Client.settle
  split <;> rfl

theorem accessToken_of_move {c c' : Client} {event : ClientEvent} (hmove : ClientMove c event c')
    (h : storesFor c event = none) : c'.accessToken = c.accessToken ∨ c'.accessToken = none := by
  cases hmove with
  | cleared => exact Or.inr rfl
  | refresh_denied => exact Or.inr rfl
  | signed_out => exact Or.inr rfl
  | refresh_stored i generation access_token hstage =>
    simp [storesFor, Client.bodyOf, hstage, ClientStage.body] at h
  | login_stored i generation access_token hstage =>
    simp [storesFor, Client.bodyOf, hstage, ClientStage.body] at h
  | api_refreshes => exact Or.inl rfl
  | api_reuses i response call => exact Or.inl (accessToken_retry c i call _)
  | api_answered i response call => exact Or.inl (accessToken_settle c i call response)
  | retry_answered i response call => exact Or.inl (accessToken_settle c i call response)
  | api_resumes i call => exact Or.inl (accessToken_retry c i call _)
  | _ => exact Or.inl rfl

/-- No other event stores a token. -/
theorem accessToken_step (c : Client) (event : ClientEvent) (h : storesFor c event = none) :
    (clientStep c event).accessToken = c.accessToken ∨ (clientStep c event).accessToken = none :=
  accessToken_of_move (client_moves c event) h

/-- The stages of a call before its body is awaited. -/
def ClientStage.early : ClientStage → Bool
  | .refreshFetch _ => true
  | .loginWait .. => true
  | .loginFetch => true
  | _ => false

/-- The call has not come to its body yet, or has not begun. -/
def Client.Early (c : Client) (i : Nat) : Prop := ∀ stage ∈ c.stages[i]?, stage.early = true

theorem ClientStage.Next.early_before {event : ClientEvent} {generation : Nat} {old new : ClientStage}
    (h : old.Next event generation new) (hnew : new.early = true) : old.early = true := by
  cases h with
  | login => rfl
  | _ => cases hnew

/-- A stage with a body comes from an early one, in the session of the moment. -/
theorem ClientStage.Next.body_new {event : ClientEvent} {generation g : Nat}
    {old new : ClientStage} (h : old.Next event generation new) (hnew : new.body = some g) :
    old.early = true ∧ g = generation := by
  cases h with
  | body => exact ⟨rfl, (Option.some.inj hnew).symm⟩
  | login_body => exact ⟨rfl, (Option.some.inj hnew).symm⟩
  | _ => cases hnew

/-- A call that is early after an event was early before it. -/
theorem early_before {c : Client} {i : Nat} (event : ClientEvent) (h : (clientStep c event).Early i) :
    c.Early i := by
  intro old hold
  have hturn := client_turns c event
  obtain ⟨stage, hstage⟩ := hturn.goes_on hold
  have hearly := h stage hstage
  cases hturn.came_to hstage with
  | stayed hsame =>
    cases hold.symm.trans hsame
    exact hearly
  | moved _ hsame _ hnext =>
    cases hold.symm.trans hsame
    exact hnext.early_before hearly
  | settled result _ hsettled =>
    subst hsettled
    cases hearly
  | begun hnone => cases hold.symm.trans hnone
  | forked hnone => cases hold.symm.trans hnone

/-- A body that is awaited after an event was awaited before it, or is of the
session of the moment. -/
theorem bodyOf_step {c : Client} {i g : Nat} (event : ClientEvent)
    (h : (clientStep c event).bodyOf i = some g) :
    c.bodyOf i = some g ∨ c.Early i ∧ g = (clientStep c event).sessionGeneration := by
  obtain ⟨stage, hstage, hbody⟩ := Option.bind_eq_some_iff.mp h
  cases (client_turns c event).came_to hstage with
  | stayed hold => exact Or.inl (Option.bind_eq_some_iff.mpr ⟨stage, hold, hbody⟩)
  | begun _ hfirst => cases hfirst <;> cases hbody
  | moved old hold _ hnext =>
    obtain ⟨hearly, hg⟩ := hnext.body_new hbody
    exact Or.inr ⟨by rintro _ hmem; cases hold.symm.trans hmem; exact hearly, hg⟩
  | settled result _ hsettled =>
    subst hsettled
    cases hbody
  | forked _ hforked =>
    subst hforked
    cases hbody

/-! ## Runs -/

/-- Every body that is awaited is of the current session or of an earlier one,
and of the current one exactly if nothing has overtaken it. -/
structure Dated (c : Client) (past : List ClientEvent) : Prop where
  early : ∀ i, c.Early i → ¬ Overtaken i past
  bodies : ∀ i g, c.bodyOf i = some g →
    g ≤ c.sessionGeneration ∧ (g = c.sessionGeneration ↔ ¬ Overtaken i past)

theorem bodyOf_of_early {c : Client} {i : Nat} (h : c.Early i) : c.bodyOf i = none := by
  unfold Client.bodyOf
  cases hstage : c.stages[i]? with
  | none => rfl
  | some stage =>
    have hearly := h stage hstage
    cases stage with
    | refreshBody => cases hearly
    | loginBody => cases hearly
    | _ => rfl

theorem dated (past : List ClientEvent) : Dated (run.after clientStep Client.loaded past) past := by
  induction past with
  | nil => exact ⟨fun _ _ => id, fun i g h => by simp [run.after, Client.bodyOf, Client.loaded] at h⟩
  | cons event past ih =>
    rw [run.after_cons]
    generalize hc : run.after clientStep Client.loaded past = c at ih ⊢
    have hover : ∀ i, Overtaken i (event :: past) ↔
        (c.bodyOf i).isSome = true ∧ turnsSession c event = true ∨ Overtaken i past := by
      intro i
      rw [Overtaken, hc]
    have hgeneration := sessionGeneration_step c event
    constructor
    · intro i hearly
      have hbefore := early_before event hearly
      rw [hover, bodyOf_of_early hbefore]
      simpa using ih.early i hbefore
    · intro i g hbody
      rcases bodyOf_step event hbody with hold | ⟨hearly, hg⟩
      · obtain ⟨hle, hiff⟩ := ih.bodies i g hold
        rw [hover, hold, not_or, ← hiff, hgeneration]
        cases hturn : turnsSession c event with
        | true =>
          refine ⟨hle.trans (Nat.le_add_right _ _), ?_⟩
          constructor
          · intro heq
            simp only [Bool.toNat_true] at heq
            omega
          · rintro ⟨hkept, _⟩
            exact absurd ⟨rfl, rfl⟩ hkept
        | false => simpa using hle
      · refine ⟨hg.le, iff_of_true hg ?_⟩
        rw [hover, bodyOf_of_early hearly]
        simpa using ih.early i hearly

/-- The tokens that a tab stores are those of its own session, whatever the
order of the answers, exactly in the runs in which no session begins or ends
while the body of a token that is stored later is awaited. -/
theorem tokens_are_stored_in_their_session_iff_no_body_is_overtaken (past : List ClientEvent) :
    run.Every clientStep Client.loaded InItsSession past ↔ run.Each NotOvertaken past := by
  refine run.every_iff_each (fun past event => ?_) past
  have h := dated past
  unfold InItsSession NotOvertaken
  constructor
  · rintro hown i rfl hbody
    obtain ⟨g, hg⟩ := Option.isSome_iff_exists.mp hbody
    exact (h.bodies i g hg).2.mp (hown g hg)
  · intro hkept g hg
    cases event with
    | resumed i => exact (h.bodies i g hg).2.mpr (hkept i rfl (Option.isSome_iff_exists.mpr ⟨g, hg⟩))
    | _ => cases hg

/-! ## A token of a session that is over -/

def lateToken : AccessToken := ⟨0, some 1, 0⟩

/-- A refresh that a request of the page needs is answered, the logout that runs
beside it clears the tokens, and then the body of the refresh is read. -/
def aTokenAfterLogout : List ClientEvent :=
  [.resumed 2, .responded 1 ⟨204, none⟩, .responded 2 ⟨200, some lateToken⟩,
    .responded 0 ⟨401, none⟩, .called .logout, .called (.api .get_me)]

theorem a_tab_gets_a_token_after_its_logout :
    ¬ run.Every clientStep Client.loaded InItsSession aTokenAfterLogout ∧
      (run.after clientStep Client.loaded aTokenAfterLogout).accessToken = some lateToken := by
  constructor
  · rintro ⟨_, hown⟩
    exact absurd (hown 0 rfl) (by decide)
  · rfl

end pulseforge

-- One tab and its refresh tokens: its cookie jar and the messages in flight
-- hold tokens of open sessions, unless a sign-out that the server has already
-- handled ended the session while a refresh was on its way.
import PulseForge.SessionMoves

open txn table

namespace pulseforge

variable [Platform]

/-! ## The property -/

/-- The server handles a refresh with a token that it has already revoked. -/
def CarriesRevoked (w : Web) : WebEvent → Prop
  | .handled k _ => ∃ i raw, w.requests[k]? = some (i, .auth (.refresh (some raw))) ∧
      tokenRevoked raw w.store = some true
  | _ => False

/-- A request that carries the cookie leaves the open sessions of other tokens,
those of other devices among them, as they are. -/
def KeepsOthers (w : Web) : WebEvent → Prop
  | .handled k e => ∀ i r raw, w.requests[k]? = some (i, r) → r.refreshCookie = some raw →
      ∀ row ∈ w.store.refresh_tokens, row.revoked_at = none →
        row.token_hash ≠ hash_refresh_token raw → row ∈ (handle e r w.store).2.refresh_tokens
  | _ => True

/-- Replay detection stays quiet, and no other device is signed out. -/
def Unnoticed (w : Web) (event : WebEvent) : Prop := ¬ CarriesRevoked w event ∧ KeepsOthers w event

/-! ## The condition -/

/-- The server handles a request that signs the session of the token out. -/
def HandlesSignOut (raw : Text) (w : Web) : WebEvent → Prop
  | .handled k e => ∃ i r, w.requests[k]? = some (i, r) ∧
      SignsTokenOut w.store (handle e r w.store).1 raw r
  | _ => False

def SignedOut (start : Web) (raw : Text) (past : List WebEvent) : Prop :=
  run.Some webStep start (HandlesSignOut raw) past

/-- A refresh that the server handles comes before any sign-out of its session. -/
def BeforeSignOut (start : Web) (past : List WebEvent) : WebEvent → Prop
  | .handled k _ => ∀ i raw,
      (run.after webStep start past).requests[k]? = some (i, .auth (.refresh (some raw))) →
        ¬ SignedOut start raw past
  | _ => True

/-- The draws of a request are new, and the session that a refresh names has not
expired. -/
structure OrdinaryDraws (e : Env) (s : Store) (r : Request) : Prop where
  fresh : Fresh e s
  secret : NewSecret e s
  live : ∀ raw row, r = .auth (.refresh (some raw)) → findRefreshToken raw s = some row →
    e.clock 1 < row.expires_at

def OrdinaryStep (w : Web) : WebEvent → Prop
  | .handled k e => ∀ i r, w.requests[k]? = some (i, r) → OrdinaryDraws e w.store r
  | _ => True

/-! ## The invariant -/

/-- The session of the token is there, and open if it was not signed out. -/
def Usable (s : Store) (out : Text → Prop) (raw : Text) : Prop :=
  tokenRevoked raw s = some false ∨ tokenRevoked raw s = some true ∧ out raw

/-- Only the answer to call `i` has a token of this hash. -/
structure OnlyAnswer (w : Web) (i : Nat) (raw : Text) : Prop where
  answers : ∀ p ∈ w.answers, ∀ t, p.2.cookie = .set t →
    hash_refresh_token t = hash_refresh_token raw → p.1 = i
  jar : ∀ t, w.jar = some t → hash_refresh_token t ≠ hash_refresh_token raw
  requests : ∀ p ∈ w.requests, ∀ t, p.2 = .auth (.refresh (some t)) →
    hash_refresh_token t ≠ hash_refresh_token raw

/-- The answer to the running refresh is in flight, with a new cookie. -/
def CookieComes (w : Web) : Prop :=
  ∃ p ∈ w.answers, (∃ raw, p.2.cookie = .set raw) ∧
    ∃ generation, w.client.stages[p.1]? = some (.refreshFetch generation)

/-- The tokens that the tab and the messages in flight hold. -/
structure OneTab (w : Web) (out : Text → Prop) : Prop where
  reachable : Reachable w.store
  wired : Wired w
  flight : SingleFlight w.client
  requests : ∀ p ∈ w.requests, ∀ raw, p.2 = .auth (.refresh (some raw)) → Usable w.store out raw
  answers : ∀ p ∈ w.answers, ∀ raw, p.2.cookie = .set raw →
    Usable w.store out raw ∧ OnlyAnswer w p.1 raw
  jar : ∀ raw, w.jar = some raw →
    Usable w.store out raw ∨ tokenRevoked raw w.store = some true ∧ CookieComes w

/-! ## What the tab does -/

omit [Platform] in
theorem refresh_of_request {fetch : Fetch} {cookie : Option Text} {raw : Text}
    (h : fetch.request cookie = .auth (.refresh (some raw))) : fetch = .refresh ∧ cookie = some raw := by
  cases fetch with
  | refresh =>
    cases h
    exact ⟨rfl, rfl⟩
  | api request bearer => cases request <;> cases h
  | _ => cases h

section
variable {w : Web} {out : Text → Prop}

omit [Platform] in
/-- A refresh in flight is the running one. -/
theorem Wired.refreshing (h : Wired w) {p : Nat × Request} (hp : p ∈ w.requests) {raw : Text}
    (hr : p.2 = .auth (.refresh (some raw))) :
    ∃ generation, w.client.stages[p.1]? = some (.refreshFetch generation) := by
  obtain ⟨stage, fetch, cookie, hstage, hsends, hrequest⟩ := h.requests p hp
  obtain ⟨rfl, _⟩ := refresh_of_request (hrequest.symm.trans hr)
  cases stage with
  | refreshFetch generation => exact ⟨generation, hstage⟩
  | _ => exact hsends.elim

omit [Platform] in
theorem SingleFlight.same {c : Client} (h : SingleFlight c) {i j g g' : Nat}
    (hi : c.stages[i]? = some (.refreshFetch g)) (hj : c.stages[j]? = some (.refreshFetch g')) :
    i = j := by
  have hi := (h i).mpr (by rw [hi]; rfl)
  have hj := (h j).mpr (by rw [hj]; rfl)
  exact Option.some.inj (hi.symm.trans hj)

/-- A client event that answers none of the messages in flight. -/
theorem OneTab.post (h : OneTab w out) (event : ClientEvent) (hother : ∀ j ∈ w.numbers, ∀ stage,
    w.client.stages[j]? = some stage → ¬ event.Continues j stage) :
    OneTab (w.post (clientStep w.client event)) out := by
  have hwired := h.wired.post event hother
  have hmoves := client_moves w.client event
  generalize clientStep w.client event = c' at hmoves hwired ⊢
  have hflight : SingleFlight c' := h.flight.turn hmoves.turn
  have hcomes : ∀ p ∈ w.answers, ∀ generation,
      w.client.stages[p.1]? = some (.refreshFetch generation) →
      c'.stages[p.1]? = some (.refreshFetch generation) := by
    intro p hp generation hstage
    have hnumber : p.1 ∈ w.numbers := List.mem_append_right _ (List.mem_map_of_mem hp)
    exact hmoves.turn.stays hstage (hother p.1 hnumber _ hstage) rfl
  have hnew : ∀ p ∈ c'.fetches, ∀ raw, p.2.request w.jar = .auth (.refresh (some raw)) →
      w.jar = some raw ∧ ¬ CookieComes w := by
    intro p hp raw hr
    obtain ⟨hfetch, hjar⟩ := refresh_of_request hr
    refine ⟨hjar, ?_⟩
    rintro ⟨q, hq, _, generation, hstage⟩
    cases hmoves.sent with
    | nothing hsame =>
      rw [hsame, h.wired.sent] at hp
      cases hp
    | one j fetch stage hone hstage' hsends hold =>
      rw [hone, h.wired.sent] at hp
      obtain rfl := List.mem_singleton.mp hp
      cases hfetch
      cases stage with
      | refreshFetch generation' =>
        -- the running refresh awaits the answer `q`, so no other begins
        obtain rfl := hflight.same (hcomes q hq generation hstage) hstage'
        have hnumber : q.1 ∈ w.numbers := List.mem_append_right _ (List.mem_map_of_mem hq)
        exact hother q.1 hnumber _ hstage (hold _ hstage).1
      | _ => exact hsends.elim
  have hrequests : ∀ p ∈ (w.post c').requests, ∀ raw, p.2 = .auth (.refresh (some raw)) →
      p ∈ w.requests ∨ w.jar = some raw ∧ ¬ CookieComes w := by
    intro p hp raw hr
    rcases List.mem_append.mp hp with hold | hp
    · exact Or.inl hold
    · obtain ⟨q, hq, rfl⟩ := List.mem_map.mp hp
      exact Or.inr (hnew q hq raw hr)
  refine ⟨h.reachable, hwired, hflight, ?_, ?_, ?_⟩
  · intro p hp raw hr
    rcases hrequests p hp raw hr with hold | ⟨hjar, hcookie⟩
    · exact h.requests p hold raw hr
    · exact (h.jar raw hjar).resolve_right fun hlate => hcookie hlate.2
  · intro p hp raw hset
    obtain ⟨husable, honly⟩ := h.answers p hp raw hset
    refine ⟨husable, honly.answers, honly.jar, fun q hq t hr => ?_⟩
    rcases hrequests q hq t hr with hold | ⟨hjar, _⟩
    · exact honly.requests q hold t hr
    · exact honly.jar t hjar
  · intro raw hjar
    refine (h.jar raw hjar).imp_right fun ⟨hrevoked, p, hp, hset, generation, hstage⟩ => ?_
    exact ⟨hrevoked, p, hp, hset, generation, hcomes p hp generation hstage⟩

/-- The browser stores the cookie of an answer. -/
theorem OneTab.without (h : OneTab w out) {k i : Nat} {answer : Answer}
    (hk : w.answers[k]? = some (i, answer)) :
    OneTab { w with answers := w.answers.eraseIdx k, jar := answer.cookie.apply w.jar } out := by
  obtain ⟨hwired, hi⟩ := h.wired.without hk (answer.cookie.apply w.jar)
  have hmem := List.mem_of_getElem? hk
  refine ⟨h.reachable, hwired, h.flight, h.requests, ?_, ?_⟩
  · intro p hp raw hset
    obtain ⟨husable, honly⟩ := h.answers p (List.mem_of_mem_eraseIdx hp) raw hset
    refine ⟨husable, fun q hq => honly.answers q (List.mem_of_mem_eraseIdx hq), ?_, honly.requests⟩
    intro t ht hhash
    cases hcookie : answer.cookie with
    | keep =>
      rw [hcookie] at ht
      exact honly.jar t ht hhash
    | set new =>
      rw [hcookie] at ht
      cases ht
      have hsame : i = p.1 := honly.answers (i, answer) hmem t hcookie hhash
      rw [hsame] at hi
      exact hi (List.mem_append_right _ (List.mem_map_of_mem hp))
    | delete =>
      rw [hcookie] at ht
      cases ht
  · intro raw hjar
    cases hcookie : answer.cookie with
    | keep =>
      rw [hcookie] at hjar
      refine (h.jar raw hjar).imp_right fun ⟨hrevoked, p, hp, ⟨new, hset⟩, hstage⟩ => ?_
      obtain ⟨hlt, hget⟩ := List.getElem?_eq_some_iff.mp hk
      rcases List.mem_cons.mp ((List.getElem_cons_eraseIdx_perm hlt).mem_iff.mpr hp) with rfl | hrest
      · rw [hget, hcookie] at hset
        cases hset
      · exact ⟨hrevoked, p, hrest, ⟨new, hset⟩, hstage⟩
    | set new =>
      rw [hcookie] at hjar
      cases hjar
      exact Or.inl (h.answers (i, answer) hmem raw hcookie).1
    | delete =>
      rw [hcookie] at hjar
      cases hjar

theorem OneTab.arrived (h : OneTab w out) (k : Nat) : OneTab (w.arrived k) out := by
  unfold Web.arrived
  split
  · next i answer hk =>
    refine (h.without hk).post (.responded i answer.response) fun j hj stage _ hevent => ?_
    obtain ⟨rfl, _⟩ := hevent
    exact (h.wired.without hk _).2 hj
  · exact h

end

/-! ## What the server does -/

theorem tokenRevoked_congr {raw t : Text} (h : hash_refresh_token t = hash_refresh_token raw) (s : Store) :
    tokenRevoked t s = tokenRevoked raw s := by
  unfold tokenRevoked findRefreshToken
  rw [h]

section
variable {e : Env} {s s' : Store} {r : Request} {reply : Except Failure Body}
  {out out' : Text → Prop} {raw : Text}

theorem Usable.named (h : Usable s out raw) : tokenRevoked raw s ≠ none := by
  rcases h with h | ⟨h, _⟩ <;> rw [h] <;> exact Option.some_ne_none _

/-- A new token is no token that the server knows. -/
theorem NewSecret.apart (h : NewSecret e s) (hraw : tokenRevoked raw s ≠ none) :
    hash_refresh_token raw ≠ hash_refresh_token e.secret := by
  intro hhash
  rw [tokenRevoked_congr hhash, tokenRevoked, h.unfound] at hraw
  exact hraw rfl

/-- A usable token stays usable, unless a refresh comes with it or with a revoked one. -/
theorem Usable.after (h : Usable s out raw) (hmove : SessionMove e s r reply s')
    (hids : UniqueOn RefreshToken.id s.refresh_tokens) (hout : ∀ t, out t → out' t)
    (hsigns : ∀ t, SignsTokenOut s reply t r → out' t)
    (hother : ∀ t, r = .auth (.refresh (some t)) →
      hash_refresh_token t ≠ hash_refresh_token raw ∧ tokenRevoked t s ≠ some true) :
    Usable s' out' raw := by
  rcases h with hopen | ⟨hrevoked, hraw⟩
  · exact (hmove.stays_open hids hopen hother).imp_right fun h => ⟨h.1, hsigns raw h.2⟩
  · exact Or.inr ⟨hmove.stays_revoked hids hrevoked, hout raw hraw⟩

end

/-- The request at place `k` is handled, and it is no refresh with a revoked token. -/
structure Serves (w : Web) (out out' : Text → Prop) (k i : Nat) (e : Env) (r : Request)
    (reply : Except Failure Body) (s' : Store) : Prop where
  found : w.requests[k]? = some (i, r)
  move : SessionMove e w.store r reply s'
  draws : OrdinaryDraws e w.store r
  keeps : ∀ raw, out raw → out' raw
  signs : ∀ raw, SignsTokenOut w.store reply raw r → out' raw
  live : ∀ t, r = .auth (.refresh (some t)) → tokenRevoked t w.store ≠ some true

section
variable {w : Web} {out out' : Text → Prop} {k i : Nat} {e : Env} {r : Request}
  {reply : Except Failure Body} {s' : Store} {raw : Text}

theorem OneTab.session_ids (h : OneTab w out) : UniqueOn RefreshToken.id w.store.refresh_tokens :=
  (reachable_keyed h.reachable).session_ids

theorem OneTab.jar_named (h : OneTab w out) (hjar : w.jar = some raw) :
    tokenRevoked raw w.store ≠ none := by
  rcases h.jar raw hjar with husable | ⟨hrevoked, _⟩
  · exact husable.named
  · rw [hrevoked]
    exact Option.some_ne_none _

theorem OneTab.request_after (h : OneTab w out) (hserves : Serves w out out' k i e r reply s')
    {p : Nat × Request} (hp : p ∈ w.requests.eraseIdx k) (hr : p.2 = .auth (.refresh (some raw))) :
    Usable s' out' raw := by
  have hp' := List.mem_of_mem_eraseIdx hp
  refine (h.requests p hp' raw hr).after hserves.move h.session_ids hserves.keeps hserves.signs
    fun t ht => ?_
  -- two refreshes are never in flight at once
  obtain ⟨g, hg⟩ := h.wired.refreshing (List.mem_of_getElem? hserves.found) ht
  obtain ⟨g', hg'⟩ := h.wired.refreshing hp' hr
  have hsame := h.flight.same hg hg'
  have hnodup := (List.nodup_append.mp h.wired.numbers).1
  have hrest := List.nodup_cons.mp ((perm_eraseIdx hserves.found).nodup_iff.mp hnodup)
  exact absurd (hsame ▸ List.mem_map_of_mem hp) hrest.1

theorem OneTab.answer_after (h : OneTab w out) (hserves : Serves w out out' k i e r reply s')
    {p : Nat × Answer} (hp : p ∈ w.answers) (hset : p.2.cookie = .set raw) : Usable s' out' raw := by
  obtain ⟨husable, honly⟩ := h.answers p hp raw hset
  refine husable.after hserves.move h.session_ids hserves.keeps hserves.signs fun t ht => ?_
  exact ⟨honly.requests (i, r) (List.mem_of_getElem? hserves.found) t ht, hserves.live t ht⟩

/-- The jar keeps a usable token, or a refresh with it was exchanged and its
answer brings the next one. -/
theorem OneTab.jar_after (h : OneTab w out) (hserves : Serves w out out' k i e r reply s')
    (hjar : w.jar = some raw) : Usable s' out' raw ∨ tokenRevoked raw s' = some true ∧
      (CookieComes w ∨ (∃ new, setCookie r reply = .set new) ∧
        ∃ generation, w.client.stages[i]? = some (.refreshFetch generation)) := by
  have hmove := hserves.move
  rcases h.jar raw hjar with husable | ⟨hrevoked, hcomes⟩
  · by_cases hmine : ∃ t, r = .auth (.refresh (some t)) ∧
        hash_refresh_token t = hash_refresh_token raw
    · obtain ⟨t, rfl, hhash⟩ := hmine
      have hopen : tokenRevoked t w.store = some false := by
        rw [tokenRevoked_congr hhash]
        refine husable.resolve_right fun hrevoked => hserves.live t rfl ?_
        rw [tokenRevoked_congr hhash, hrevoked.1]
      rcases hmove.exchanges hopen fun row hrow => hserves.draws.live t row rfl hrow with hkept | hset
      · rw [tokenRevoked_congr hhash] at hkept
        exact Or.inl (Or.inl hkept)
      · have hstage := h.wired.refreshing (List.mem_of_getElem? hserves.found) rfl
        cases hafter : tokenRevoked raw s' with
        | none => exact absurd hafter (hmove.named h.session_ids husable.named)
        | some revoked =>
          cases revoked with
          | false => exact Or.inl (Or.inl hafter)
          | true => exact Or.inr ⟨rfl, Or.inr ⟨⟨_, hset⟩, hstage⟩⟩
    · refine Or.inl (husable.after hmove h.session_ids hserves.keeps hserves.signs fun t ht => ?_)
      exact ⟨fun hhash => hmine ⟨t, ht, hhash⟩, hserves.live t ht⟩
  · exact Or.inr ⟨hmove.stays_revoked h.session_ids hrevoked, Or.inl hcomes⟩

/-- The request that is handled turns into an answer, and the tokens of the others
stay usable. -/
theorem OneTab.handled (h : OneTab w out) (hk : w.requests[k]? = some (i, r))
    (hdraws : OrdinaryDraws e w.store r) (hout : ∀ raw, out raw → out' raw)
    (hsigns : ∀ raw, SignsTokenOut w.store (handle e r w.store).1 raw r → out' raw)
    (hlive : ∀ t, r = .auth (.refresh (some t)) → tokenRevoked t w.store ≠ some true) :
    OneTab (w.handled k e) out' := by
  have hwired := h.wired.handled k e
  have hserves : Serves w out out' k i e r (handle e r w.store).1 (handle e r w.store).2 :=
    ⟨hk, h.reachable.move e r, hdraws, hout, hsigns, hlive⟩
  have hreachable := h.reachable.served hdraws.fresh r
  have hnew : ∀ t, tokenRevoked t w.store ≠ none →
      hash_refresh_token t ≠ hash_refresh_token e.secret := fun _ => hdraws.secret.apart
  unfold Web.handled at hwired ⊢
  simp only [hk] at hwired ⊢
  generalize (handle e r w.store).1 = reply at *
  generalize (handle e r w.store).2 = s' at *
  refine ⟨hreachable, hwired, h.flight, fun p hp raw hr => h.request_after hserves hp hr, ?_, ?_⟩
  · intro p hp raw hset
    rcases List.mem_append.mp hp with hold | hp
    · have honly := (h.answers p hold raw hset).2
      refine ⟨h.answer_after hserves hold hset, fun q hq t hcookie hhash => ?_, honly.jar,
        fun q hq => honly.requests q (List.mem_of_mem_eraseIdx hq)⟩
      rcases List.mem_append.mp hq with hq | hq
      · exact honly.answers q hq t hcookie hhash
      · obtain rfl := List.mem_singleton.mp hq
        obtain ⟨rfl, _⟩ := hserves.move.cookie hdraws.secret hcookie
        exact absurd hhash.symm (hnew raw (h.answers p hold raw hset).1.named)
    · obtain rfl := List.mem_singleton.mp hp
      obtain ⟨rfl, hopen⟩ := hserves.move.cookie hdraws.secret hset
      refine ⟨Or.inl hopen, fun q hq t hcookie hhash => ?_, fun t ht => hnew t (h.jar_named ht),
        fun q hq t ht => hnew t (h.requests q (List.mem_of_mem_eraseIdx hq) t ht).named⟩
      rcases List.mem_append.mp hq with hq | hq
      · exact absurd hhash (hnew t (h.answers q hq t hcookie).1.named)
      · rw [List.mem_singleton.mp hq]
  · intro raw hjar
    refine (h.jar_after hserves hjar).imp_right fun ⟨hrevoked, hcomes⟩ => ⟨hrevoked, ?_⟩
    rcases hcomes with ⟨p, hp, hcookie⟩ | ⟨hset, hstage⟩
    · exact ⟨p, List.mem_append_left _ hp, hcookie⟩
    · exact ⟨(i, answerTo r reply), List.mem_append_right _ (List.mem_singleton_self _), hset, hstage⟩

end

/-! ## Runs -/

theorem handled_store {w : Web} {k i : Nat} {r : Request} (hk : w.requests[k]? = some (i, r)) (e : Env) :
    (w.handled k e).store = (handle e r w.store).2 := by
  simp only [Web.handled, hk]

/-- Only the server changes the database, one request at a time. -/
theorem webStep_store (w : Web) (event : WebEvent) :
    (webStep w event).store = w.store ∨ ∃ k e i r, event = .handled k e ∧
      w.requests[k]? = some (i, r) ∧ (webStep w event).store = (handle e r w.store).2 := by
  cases event with
  | called call => exact Or.inl rfl
  | handled k e =>
    cases hk : w.requests[k]? with
    | none =>
      left
      simp only [webStep, Web.handled, hk]
    | some p => exact Or.inr ⟨k, e, p.1, p.2, rfl, hk, handled_store hk e⟩
  | arrived k =>
    left
    rw [webStep, Web.arrived]
    split <;> rfl
  | resumed i => exact Or.inl rfl

/-- Handling nothing changes nothing. -/
theorem handled_nothing {w : Web} {k : Nat} (hk : w.requests[k]? = none) (e : Env) : w.handled k e = w := by
  unfold Web.handled
  rw [hk]

theorem OneTab.mono {w : Web} {out out' : Text → Prop} (h : OneTab w out)
    (hout : ∀ raw, out raw → out' raw) : OneTab w out' := by
  have husable : ∀ raw, Usable w.store out raw → Usable w.store out' raw :=
    fun raw => Or.imp_right fun hraw => ⟨hraw.1, hout raw hraw.2⟩
  exact ⟨h.reachable, h.wired, h.flight, fun p hp raw hr => husable raw (h.requests p hp raw hr),
    fun p hp raw hset => (h.answers p hp raw hset).imp_left (husable raw),
    fun raw hjar => (h.jar raw hjar).imp_left (husable raw)⟩

/-- A refresh in flight whose session was not signed out has an open one. -/
theorem OneTab.quiet {w : Web} {out : Text → Prop} (h : OneTab w out) {p : Nat × Request}
    (hp : p ∈ w.requests) {raw : Text} (hr : p.2 = .auth (.refresh (some raw))) (hout : ¬ out raw) :
    tokenRevoked raw w.store ≠ some true := by
  rcases h.requests p hp raw hr with hopen | ⟨_, hraw⟩
  · rw [hopen]
    exact nofun
  · exact absurd hraw hout

section
variable {start : Web} {past : List WebEvent}

theorem OneTab.step (h : OneTab (run.after webStep start past) fun raw => SignedOut start raw past)
    {event : WebEvent} (hstep : OrdinaryStep (run.after webStep start past) event)
    (hbefore : BeforeSignOut start past event) :
    OneTab (run.after webStep start (event :: past)) fun raw => SignedOut start raw (event :: past) := by
  rw [run.after_cons]
  cases event with
  | called call => exact (h.post (.called call) fun _ _ _ _ => id).mono fun _ => Or.inl
  | arrived k => exact (h.arrived k).mono fun _ => Or.inl
  | resumed i =>
    refine (h.post (.resumed i) fun _ hj _ hstage => ?_).mono fun _ => Or.inl
    exact h.wired.not_resumed hj hstage
  | handled k e =>
    cases hk : (run.after webStep start past).requests[k]? with
    | none =>
      rw [webStep, handled_nothing hk]
      exact h.mono fun _ => Or.inl
    | some p =>
      obtain ⟨i, r⟩ := p
      refine h.handled hk (hstep i r hk) (fun _ => Or.inl) (fun raw hsigns => ?_) fun t ht => ?_
      · exact Or.inr ⟨i, r, hk, hsigns⟩
      · exact h.quiet (List.mem_of_getElem? hk) ht (hbefore i t (ht ▸ hk))

/-- A refresh before the sign-out of its session meets an open session, and no
request with a cookie touches the sessions of other tokens. -/
theorem OneTab.unnoticed
    (h : OneTab (run.after webStep start past) fun raw => SignedOut start raw past)
    {event : WebEvent} (hbefore : BeforeSignOut start past event) :
    Unnoticed (run.after webStep start past) event := by
  cases event with
  | handled k e =>
    have hquiet : ∀ i raw, (run.after webStep start past).requests[k]? =
        some (i, .auth (.refresh (some raw))) →
        tokenRevoked raw (run.after webStep start past).store ≠ some true := fun i raw hk =>
      h.quiet (List.mem_of_getElem? hk) rfl (hbefore i raw hk)
    constructor
    · rintro ⟨i, raw, hk, hrevoked⟩
      exact hquiet i raw hk hrevoked
    · intro i r raw hk hcookie row hrow hopen hother
      refine (h.reachable.move e r).keeps_others (reachable_keyed h.reachable).session_ids hcookie ?_
        hrow hopen hother
      rintro rfl
      exact hquiet i raw hk
  | _ => exact ⟨id, trivial⟩

end

section
variable {s₀ : Store} {jar : Option Text} (hs : Reachable s₀)
  (hjar : ∀ raw, jar = some raw → tokenRevoked raw s₀ = some false)

include hs hjar in
theorem oneTab_loaded : OneTab (Web.loaded jar s₀) fun _ => False where
  reachable := hs
  wired := wired_loaded jar s₀
  flight := singleFlight_loaded
  requests := List.forall_mem_nil _
  answers := List.forall_mem_nil _
  jar := fun raw hraw => Or.inl (Or.inl (hjar raw hraw))

include hs hjar in
theorem oneTab_after {past : List WebEvent}
    (hrun : run.Every webStep (Web.loaded jar s₀) OrdinaryStep past)
    (hbefore : run.Each (BeforeSignOut (Web.loaded jar s₀)) past) :
    OneTab (run.after webStep (Web.loaded jar s₀) past)
      fun raw => SignedOut (Web.loaded jar s₀) raw past := by
  induction past with
  | nil => exact oneTab_loaded hs hjar
  | cons event past ih => exact (ih hrun.1 hbefore.1).step hrun.2 hbefore.2

include hs in
theorem reachable_web {past : List WebEvent}
    (hrun : run.Every webStep (Web.loaded jar s₀) OrdinaryStep past) :
    Reachable (run.after webStep (Web.loaded jar s₀) past).store := by
  induction past with
  | nil => exact hs
  | cons event past ih =>
    have hbefore := ih hrun.1
    rw [run.after_cons]
    rcases webStep_store (run.after webStep (Web.loaded jar s₀) past) event with
      hsame | ⟨k, e, i, r, rfl, hk, hstore⟩
    · rwa [hsame]
    · rw [hstore]
      exact hbefore.served (hrun.2 i r hk).fresh r

include hs in
/-- What was signed out stays revoked. -/
theorem revoked_of_signedOut {past : List WebEvent} {raw : Text}
    (hrun : run.Every webStep (Web.loaded jar s₀) OrdinaryStep past)
    (hout : SignedOut (Web.loaded jar s₀) raw past) :
    tokenRevoked raw (run.after webStep (Web.loaded jar s₀) past).store = some true := by
  induction past with
  | nil => exact hout.elim
  | cons event past ih =>
    have hreachable := reachable_web hs hrun.1
    have hids := (reachable_keyed hreachable).session_ids
    rw [run.after_cons]
    rcases hout with hbefore | hsigns
    · have hrevoked := ih hrun.1 hbefore
      rcases webStep_store (run.after webStep (Web.loaded jar s₀) past) event with
        hsame | ⟨k, e, i, r, rfl, hk, hstore⟩
      · rwa [hsame]
      · rw [hstore]
        exact (hreachable.move e r).stays_revoked hids hrevoked
    · cases event with
      | handled k e =>
        obtain ⟨i, r, hk, hsigns⟩ := hsigns
        rw [webStep, handled_store hk]
        exact (hreachable.move e r).signs_out hsigns
      | _ => exact hsigns.elim

end

/-- Replay detection stays quiet exactly in the runs where no refresh is handled
after a sign-out that ended its session. -/
theorem a_tab_goes_unnoticed_iff_no_refresh_follows_its_sign_out (s₀ : Store) (hs : Reachable s₀)
    (jar : Option Text) (hjar : ∀ raw, jar = some raw → tokenRevoked raw s₀ = some false)
    (past : List WebEvent) (hrun : run.Every webStep (Web.loaded jar s₀) OrdinaryStep past) :
    run.Every webStep (Web.loaded jar s₀) Unnoticed past ↔
      run.Each (BeforeSignOut (Web.loaded jar s₀)) past := by
  induction past with
  | nil => exact Iff.rfl
  | cons event past ih =>
    have ih := ih hrun.1
    constructor
    · rintro ⟨hbefore, hquiet, _⟩
      refine ⟨ih.mp hbefore, ?_⟩
      cases event with
      | handled k e =>
        intro i raw hk hout
        exact hquiet ⟨i, raw, hk, revoked_of_signedOut hs hrun.1 hout⟩
      | _ => trivial
    · rintro ⟨hbefore, hstep⟩
      exact ⟨ih.mpr hbefore, (oneTab_after hs hjar hrun.1 hbefore).unnoticed hstep⟩

/-! ## A page that is loaded again, and a logout in flight -/

instance (e : Env) (s : Store) : Decidable (NewSecret e s) :=
  inferInstanceAs (Decidable (∀ row ∈ s.refresh_tokens, row.token_hash ≠ hash_refresh_token e.secret))

omit [Platform] in
/-- The draws of a request of a sample run come after all draws before it. -/
theorem sample_ordinary (n : Nat) (s : Store) (r : Request) (hids : ∀ id ∈ s.ids, id < 10 * n)
    (hsecret : @NewSecret samplePlatform (sampleEnv n) s)
    (hlive : ∀ row ∈ s.refresh_tokens, (sampleEnv n).clock 1 < row.expires_at) :
    @OrdinaryDraws samplePlatform (sampleEnv n) s r :=
  @OrdinaryDraws.mk samplePlatform _ _ _ (sample_fresh n s hids) hsecret
    fun _ row _ hfind => hlive row (find?_mem hfind).1

/-- A user with one open session. -/
def oneSession : List (Env × Request) :=
  [(sampleEnv 1, .auth (.login sampleLogin)), (sampleEnv 0, .auth (.register sampleUser))]

omit [Platform] in
theorem one_session_reachable :
    @Reachable samplePlatform (run.after (@serve samplePlatform) Store.empty oneSession) :=
  ⟨oneSession, fresh_of_drawsInOrder [1, 0] rfl (by decide +kernel), rfl⟩

/-- A page that is loaded with the cookie of that session, and refreshes it. -/
def aReloadedPage : List WebEvent :=
  [.handled 0 (sampleEnv 3), .arrived 0, .handled 0 (sampleEnv 2), .called (.api .get_me)]

omit [Platform] in
theorem a_reloaded_page_goes_unnoticed :
    let w := Web.loaded (some (sampleEnv 1).secret)
      (run.after (@serve samplePlatform) Store.empty oneSession)
    run.Every (@webStep samplePlatform) w (@Unnoticed samplePlatform) aReloadedPage ∧
      (run.after (@webStep samplePlatform) w aReloadedPage).store.refresh_tokens.map
        (fun r => (r.id, r.revoked_at.isSome)) = [(10, true), (30, false)] := by
  intro w
  have hrun : run.Every (@webStep samplePlatform) w (@OrdinaryStep samplePlatform) aReloadedPage := by
    refine ⟨⟨⟨⟨trivial, trivial⟩, ?_⟩, trivial⟩, ?_⟩
    all_goals
      intro i r _
      exact sample_ordinary _ _ r (by decide +kernel) (by decide +kernel) (by decide +kernel)
  refine ⟨(@a_tab_goes_unnoticed_iff_no_refresh_follows_its_sign_out samplePlatform _
    one_session_reachable _ ?_ _ hrun).mpr ⟨⟨⟨⟨trivial, trivial⟩, ?_⟩, trivial⟩, ?_⟩,
    by decide +kernel⟩
  · intro raw hraw
    cases hraw
    decide +kernel
  · intro i raw hk
    cases hk
  · rintro i raw _ (((hnever | hcalled) | ⟨j, r, hk, row, _, hsigns⟩) | harrived)
    · exact hnever
    · exact hcalled
    · cases hk
      exact hsigns
    · exact harrived

/-- The token of a refresh. -/
def Request.refreshToken : Request → Option Text
  | .auth (.refresh raw) => raw
  | _ => none

theorem carriesRevoked_of {w : Web} {k : Nat} {raw : Text}
    (h : (w.requests[k]?.bind fun p => p.2.refreshToken) = some raw)
    (hrevoked : tokenRevoked raw w.store = some true) (e : Env) : CarriesRevoked w (.handled k e) := by
  obtain ⟨⟨i, r⟩, hk, hr⟩ := Option.bind_eq_some_iff.mp h
  cases r with
  | auth r =>
    cases r with
    | refresh t =>
      obtain rfl : t = some raw := hr
      exact ⟨i, raw, hk, hrevoked⟩
    | _ => cases hr
  | _ => cases hr

/-- The tab signs in and out again; a request that the logout overtakes is
answered 401 and starts a refresh before the answer to the logout arrives. -/
def aLogoutInFlight : List WebEvent :=
  [.handled 0 (sampleEnv 5), .arrived 1, .handled 0 (sampleEnv 4), .handled 0 (sampleEnv 3),
    .called (.api .get_me), .called .logout, .resumed 0, .arrived 0, .handled 0 (sampleEnv 2),
    .called (.login sampleLogin)]

omit [Platform] in
theorem logout_in_flight_ordinary :
    run.Every (@webStep samplePlatform)
      (Web.loaded none (run.after (@serve samplePlatform) Store.empty oneSession))
      (@OrdinaryStep samplePlatform) aLogoutInFlight := by
  refine ⟨⟨⟨⟨⟨⟨⟨⟨⟨⟨trivial, trivial⟩, ?_⟩, trivial⟩, trivial⟩, trivial⟩, trivial⟩,
    ?_⟩, ?_⟩, trivial⟩, ?_⟩
  all_goals
    intro i r _
    exact sample_ordinary _ _ r (by decide +kernel) (by decide +kernel) (by decide +kernel)

omit [Platform] in
/-- The refresh carries the token that the logout has revoked, and the session
of the other device ends. -/
theorem a_logout_in_flight_signs_out_another_device :
    let w := Web.loaded none (run.after (@serve samplePlatform) Store.empty oneSession)
    @Reachable samplePlatform w.store ∧
      run.Every (@webStep samplePlatform) w (@OrdinaryStep samplePlatform) aLogoutInFlight ∧
      @CarriesRevoked samplePlatform (run.after (@webStep samplePlatform) w aLogoutInFlight.tail)
        (.handled 0 (sampleEnv 5)) ∧
      ¬ run.Every (@webStep samplePlatform) w (@Unnoticed samplePlatform) aLogoutInFlight ∧
      (run.after (@webStep samplePlatform) w aLogoutInFlight.tail).store.refresh_tokens.map
        (fun r => (r.id, r.revoked_at.isSome)) = [(10, false), (20, true)] ∧
      (run.after (@webStep samplePlatform) w aLogoutInFlight).store.refresh_tokens.map
        (fun r => (r.id, r.revoked_at.isSome)) = [(10, true), (20, true)] := by
  intro w
  have hcarries : @CarriesRevoked samplePlatform
      (run.after (@webStep samplePlatform) w aLogoutInFlight.tail) (.handled 0 (sampleEnv 5)) :=
    @carriesRevoked_of samplePlatform _ 0 (sampleEnv 2).secret (by decide +kernel) (by decide +kernel) _
  refine ⟨one_session_reachable, logout_in_flight_ordinary, hcarries, ?_, by decide +kernel,
    by decide +kernel⟩
  exact fun hquiet => hquiet.2.1 hcarries

end pulseforge

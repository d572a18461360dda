-- What a request does to the refresh sessions, as their tokens show it: it signs
-- sessions out, it opens one, it exchanges one for another, or it ends all
-- sessions of a user because a revoked token came back.
import PulseForge.Browser
import PulseForge.SessionFamilies

open txn table

namespace pulseforge

variable [Platform]

/-! ## The moves -/

/-- Whether the session of a raw token is revoked, if there is one. -/
def tokenRevoked (raw : Text) (s : Store) : Option Bool :=
  (findRefreshToken raw s).map fun row => row.revoked_at.isSome

/-- The request signs the session of the row out: a logout with its token, a
request to revoke it, or one that signs its user out everywhere. -/
def SignsRowOut (s : Store) (reply : Except Failure Body) (row : RefreshToken) : Request → Prop
  | .auth (.logout raw) => ∃ t, presentCookie raw = some t ∧ findRefreshToken t s = some row
  | .auth (.revoke_session credentials session_id) =>
    Accepted reply ∧ By credentials row.user_id ∧ session_id = row.id
  | .auth (.logout_all credentials) => Accepted reply ∧ By credentials row.user_id
  | .auth (.change_password credentials _) => Accepted reply ∧ By credentials row.user_id
  | .auth (.reset_password payload) =>
    Accepted reply ∧ resetUser payload.token s = some row.user_id
  | _ => False

/-- A request and what it leaves of the sessions, where all accounts are active. -/
inductive SessionMove (e : Env) (s : Store) : Request → Except Failure Body → Store → Prop
  | signed_out (r : Request) (reply : Except Failure Body) (s' : Store) (p : RefreshToken → Bool)
      (revoked_at : Int)
      (hrows : s'.refresh_tokens =
        updateWhere p (fun row => { row with revoked_at := some revoked_at }) s.refresh_tokens)
      (hp : ∀ row ∈ s.refresh_tokens, row.revoked_at = none →
        (p row = true ↔ SignsRowOut s reply row r))
      (hcookie : ∀ raw, setCookie r reply ≠ .set raw) : SessionMove e s r reply s'
  | signed_in (payload : UserLogin) (user : User) :
      SessionMove e s (.auth (.login payload)) (.ok (.tokens (sessionTokens e user.id)))
        (addRefreshToken (new_refresh_token e user.id) s)
  | exchanged (raw : Text) (row : RefreshToken) (user : User) (hr : findRefreshToken raw s = some row)
      (hopen : row.revoked_at = none) :
      SessionMove e s (.auth (.refresh (some raw))) (.ok (.tokens (sessionTokens e user.id)))
        (addRefreshToken (new_refresh_token e user.id) (rotateSessionRow row.id (e.clock 1) s))
  | replayed (raw : Text) (row : RefreshToken) (error : Failure)
      (hr : findRefreshToken raw s = some row) (hrevoked : row.revoked_at.isSome = true) :
      SessionMove e s (.auth (.refresh (some raw))) (.error error)
        (revoke_user_sessions row.user_id (e.clock 1) s)
  | expired (raw : Text) (row : RefreshToken) (error : Failure)
      (hr : findRefreshToken raw s = some row) (hend : row.expires_at ≤ e.clock 1) :
      SessionMove e s (.auth (.refresh (some raw))) (.error error)
        (revokeSessionRow row.id (e.clock 1) s)

section
variable {e : Env} {s s' : Store} {r : Request} {reply : Except Failure Body}

/-- A request that signs no open session out, and leaves the sessions as they are. -/
theorem SessionMove.kept (hrows : s'.refresh_tokens = s.refresh_tokens)
    (hout : ∀ row ∈ s.refresh_tokens, row.revoked_at = none → ¬ SignsRowOut s reply row r)
    (hcookie : ∀ raw, setCookie r reply ≠ .set raw) : SessionMove e s r reply s' := by
  refine .signed_out r reply s' (fun _ => false) 0 ?_ (fun row hrow hopen => ?_) hcookie
  · rw [hrows, updateWhere_eq_self fun _ _ => rfl]
  · exact iff_of_false Bool.false_ne_true (hout row hrow hopen)

omit [Platform] in
/-- The bulk revocation of the user of an accepted request. -/
theorem bulk_signs_out {credentials : Option Bearer} {user : User}
    (hu : get_current_user credentials e.now s = .ok user) {row : RefreshToken}
    (hopen : row.revoked_at = none) :
    (row.user_id = user.id && row.revoked_at.isNone) = true ↔
      Accepted (.ok .no_content) ∧ By credentials row.user_id := by
  rw [by_iff hu, hopen, Option.isNone_none, Bool.and_true, decide_eq_true_eq]
  constructor
  · rintro heq
    exact ⟨⟨_, rfl⟩, heq.symm⟩
  · rintro ⟨_, heq⟩
    exact heq.symm

omit [Platform] in
/-- A row that is found by its id is the one that a token finds, if it has its id. -/
theorem signs_out_by_id (hids : UniqueOn RefreshToken.id s.refresh_tokens) {stored row : RefreshToken}
    (hstored : stored ∈ s.refresh_tokens) (hrow : row ∈ s.refresh_tokens) :
    decide (row.id = stored.id) = true ↔ row = stored := by
  rw [decide_eq_true_eq]
  exact ⟨fun hid => hids.eq hrow hstored hid, fun heq => heq ▸ rfl⟩

/-- What a request under /auth does. -/
theorem auth_session_move {r : AuthRequest} (hids : UniqueOn RefreshToken.id s.refresh_tokens)
    (hactive : AllActive s) (hpresent : ∀ raw, r = .logout raw → presentCookie raw ≠ none)
    (ho : AuthOutcome e s r reply s') : SessionMove e s (.auth r) reply s' := by
  cases ho with
  | signed_in payload user => exact .signed_in payload user
  | refreshed raw row user _ hr hopen => exact .exchanged raw row user hr hopen
  | refresh_replayed raw error row _ hr hrevoked => exact .replayed raw row error hr hrevoked
  | refresh_ended raw error row user _ hr _ hu hend =>
    refine .expired raw row error hr (hend.resolve_right fun hinactive => ?_)
    rw [hactive user (find?_mem hu).1] at hinactive
    cases hinactive
  | logout_nothing raw hr =>
    refine .kept rfl (fun row _ hopen hsigns => ?_) nofun
    obtain ⟨t, ht, hfind⟩ := hsigns
    have hrevoked := hr t ht row hfind
    rw [hopen] at hrevoked
    cases hrevoked
  | logged_out raw stored hr =>
    have hcookie : presentCookie (some raw) = some raw := by
      obtain ⟨t, ht⟩ := Option.ne_none_iff_exists'.mp (hpresent _ rfl)
      cases eq_some_of_present ht
      exact ht
    refine .signed_out _ _ _ _ (e.clock 1) rfl (fun row hrow _ => ?_) nofun
    rw [signs_out_by_id hids (find?_mem hr).1 hrow]
    constructor
    · rintro rfl
      exact ⟨raw, hcookie, hr⟩
    · rintro ⟨t, ht, hfind⟩
      cases hcookie.symm.trans ht
      exact Option.some.inj (hfind.symm.trans hr)
  | password_changed credentials payload user hu =>
    exact .signed_out _ _ _ _ (e.clock 1) rfl (fun row _ hopen => bulk_signs_out hu hopen) nofun
  | logged_out_all credentials user hu =>
    exact .signed_out _ _ _ _ (e.clock 1) rfl (fun row _ hopen => bulk_signs_out hu hopen) nofun
  | password_reset payload stored hr =>
    refine .signed_out _ _ _ _ (e.clock 1) rfl (fun row _ hopen => ?_) nofun
    have huser : resetUser payload.token s = some stored.user_id := resetUser_of_usable hr
    simp only [SignsRowOut, huser, hopen, Option.isNone_none, Bool.and_true, decide_eq_true_eq,
      Option.some.injEq]
    exact ⟨fun heq => ⟨⟨_, rfl⟩, heq.symm⟩, fun hsigns => hsigns.2.symm⟩
  | revoked credentials session_id user stored hu hr =>
    obtain ⟨hstored, hid, huser⟩ := session_of_some hr
    refine .signed_out _ _ _ _ (e.clock 1) rfl (fun row hrow _ => ?_) nofun
    rw [signs_out_by_id hids hstored hrow]
    constructor
    · rintro rfl
      exact ⟨⟨_, rfl⟩, (by_iff hu _).mpr huser.symm, hid.symm⟩
    · rintro ⟨_, _, heq⟩
      exact hids.eq hrow hstored (heq.symm.trans hid.symm)
  | revoke_nothing credentials session_id user stored hu hr hrevoked =>
    obtain ⟨hstored, hid, _⟩ := session_of_some hr
    refine .kept rfl (fun row hrow hopen hsigns => ?_) nofun
    have hsame : row = stored := hids.eq hrow hstored (hsigns.2.2.symm.trans hid.symm)
    rw [← hsame, hopen] at hrevoked
    cases hrevoked
  | password_refused => exact .kept rfl (fun _ _ _ hsigns => not_accepted _ hsigns.1) nofun
  | reset_refused => exact .kept rfl (fun _ _ _ hsigns => not_accepted _ hsigns.1) nofun
  | logout_all_refused => exact .kept rfl (fun _ _ _ hsigns => not_accepted _ hsigns.1) nofun
  | revoke_refused => exact .kept rfl (fun _ _ _ hsigns => not_accepted _ hsigns.1) nofun
  | _ => exact .kept rfl (fun _ _ _ => id) nofun

/-! ## Every request -/

theorem tenant_accounts {user : User} {r : TenantRequest} (hw : TenantWrite e user s r s') :
    s'.users = s.users ∧ s'.refresh_tokens = s.refresh_tokens := by
  cases hw <;> exact ⟨rfl, rfl⟩

theorem ingest_accounts {payload : EventCreate} {k : ApiKey}
    {reply : Except Failure EventIngestResponse} (ho : IngestOutcome e payload k s reply s') :
    s'.users = s.users ∧ s'.refresh_tokens = s.refresh_tokens := by
  cases ho with
  | stored _ _ _ _ _ he =>
    obtain ⟨_, _, rfl⟩ := he.store_eq
    exact ⟨rfl, rfl⟩
  | _ => exact ⟨rfl, rfl⟩

/-- The answer carries no tokens. -/
def Tokenless (reply : Except Failure Body) : Prop := ∀ tokens, reply ≠ .ok (.tokens tokens)

omit [Platform] in
theorem Tokenless.cookie (h : Tokenless reply) (raw : Text) : setCookie r reply ≠ .set raw := by
  unfold setCookie
  split
  · exact nofun
  · next tokens => exact absurd rfl (h tokens)
  · split <;> exact nofun

omit [Platform] in
theorem ends_tokenless {α : Type} (body : α → Body) (hbody : ∀ a tokens, body a ≠ .tokens tokens)
    (h : Handler α) (t : Session Store) : Ends (answer body h) t fun reply _ => Tokenless reply := by
  rw [ends_answer]
  unfold Ends
  intro tokens htokens
  cases hreply : (h t).1 with
  | error _ =>
    rw [hreply] at htokens
    cases htokens
  | ok a =>
    rw [hreply] at htokens
    exact hbody a tokens (Except.ok.inj htokens)

theorem tenant_tokenless (credentials : Option Bearer) (r : TenantRequest) :
    Tokenless (handle e (.tenant credentials r) s).1 := by
  refine ends_runRequest (Q := fun reply _ => Tokenless reply) ?_
  show Ends (handler e (.tenant credentials r)) ⟨s, s⟩ _
  simp only [handler, ends_bind, ends_ask]
  split
  · cases r <;> exact ends_tokenless _ (fun _ _ => Body.noConfusion) _ _
  · intro tokens htokens
    cases htokens

theorem ingest_tokenless (credentials : Option Bearer) (payload : EventCreate) :
    Tokenless (handle e (.ingest credentials payload) s).1 := by
  refine ends_runRequest (Q := fun reply _ => Tokenless reply) ?_
  show Ends (handler e (.ingest credentials payload)) ⟨s, s⟩ _
  simp only [handler, ends_bind, ends_ask]
  split
  · exact ends_tokenless _ (fun _ _ => Body.noConfusion) _ _
  · intro tokens htokens
    cases htokens

/-- A logout without a cookie. -/
theorem logout_absent {raw : Option Text} (h : presentCookie raw = none) :
    handle e (.auth (.logout raw)) s = (.ok .no_content, s) := by
  show runRequest (answer (fun _ => .no_content) (logout e raw)) s = _
  unfold logout
  rw [h]
  rfl

/-- Every request is one of the moves. -/
theorem session_move (hids : UniqueOn RefreshToken.id s.refresh_tokens) (hactive : AllActive s)
    (r : Request) : SessionMove e s r (handle e r s).1 (handle e r s).2 := by
  have hsessions := served_cases (e := e) (s := s)
    (P := fun r t => (∀ request, r ≠ .auth request) → t.refresh_tokens = s.refresh_tokens)
    (fun _ _ => rfl) (fun r _ _ _ hother => absurd rfl (hother r))
    (fun _ _ _ _ _ hw _ => (tenant_accounts hw).2) (fun _ _ _ _ _ _ ho _ => (ingest_accounts ho).2) r
  cases r with
  | auth r =>
    by_cases habsent : ∃ raw, r = .logout raw ∧ presentCookie raw = none
    · obtain ⟨raw, rfl, hnone⟩ := habsent
      rw [logout_absent hnone]
      refine .kept rfl (fun row _ _ hsigns => ?_) nofun
      obtain ⟨t, ht, _⟩ := hsigns
      rw [hnone] at ht
      cases ht
    · refine auth_session_move hids hactive (fun raw hr hnone => ?_) (auth_outcome e r s)
      exact habsent ⟨raw, hr, hnone⟩
  | tenant credentials r =>
    exact .kept (hsessions nofun) (fun _ _ _ => id) (tenant_tokenless credentials r).cookie
  | ingest credentials payload =>
    exact .kept (hsessions nofun) (fun _ _ _ => id) (ingest_tokenless credentials payload).cookie

end

theorem Reachable.active {s : Store} (h : Reachable s) : AllActive s := by
  refine h.inv (List.forall_mem_nil _) fun s e r _ _ hs => ?_
  apply served_cases (P := fun _ t => AllActive t)
  · exact fun _ => hs
  · exact fun _ _ _ ho => auth_active ho hs
  · exact fun _ _ _ _ _ hw u hu => hs u (by rwa [(tenant_accounts hw).1] at hu)
  · exact fun _ _ _ _ _ _ ho u hu => hs u (by rwa [(ingest_accounts ho).1] at hu)

theorem Reachable.move {s : Store} (h : Reachable s) (e : Env) (r : Request) :
    SessionMove e s r (handle e r s).1 (handle e r s).2 :=
  session_move (reachable_keyed h).session_ids h.active r

/-! ## What a move leaves -/

/-- The drawn token is the token of no session. -/
def NewSecret (e : Env) (s : Store) : Prop :=
  ∀ row ∈ s.refresh_tokens, row.token_hash ≠ hash_refresh_token e.secret

/-- The refresh token that a request carries as its cookie. -/
def Request.refreshCookie : Request → Option Text
  | .auth (.refresh raw) => raw
  | .auth (.logout raw) => raw
  | _ => none

/-- The request signs the session of the token out. -/
def SignsTokenOut (s : Store) (reply : Except Failure Body) (raw : Text) (r : Request) : Prop :=
  ∃ row, findRefreshToken raw s = some row ∧ SignsRowOut s reply row r

theorem found_hash {raw : Text} {s : Store} {row : RefreshToken}
    (h : findRefreshToken raw s = some row) : row.token_hash = hash_refresh_token raw :=
  of_decide_eq_true (find?_mem h).2

theorem found_updated {s s' : Store} {p : RefreshToken → Bool} {f : RefreshToken → RefreshToken}
    (hrows : s'.refresh_tokens = updateWhere p f s.refresh_tokens)
    (hf : ∀ row, (f row).token_hash = row.token_hash) (raw : Text) :
    findRefreshToken raw s' =
      (findRefreshToken raw s).map fun row => if p row then f row else row := by
  unfold findRefreshToken
  rw [hrows, find?_updateWhere]
  intro row _
  rw [hf row]

theorem found_inserted {raw : Text} {s : Store} {row : RefreshToken}
    (h : findRefreshToken raw s = some row) (new : RefreshToken) :
    findRefreshToken raw (addRefreshToken new s) = some row := by
  unfold findRefreshToken at h
  unfold findRefreshToken addRefreshToken
  rw [List.find?_append, h, Option.some_or]

theorem tokenRevoked_of_found {raw : Text} {s : Store} {row : RefreshToken}
    (h : findRefreshToken raw s = some row) : tokenRevoked raw s = some row.revoked_at.isSome := by
  rw [tokenRevoked, h, Option.map_some]

theorem NewSecret.unfound {e : Env} {s : Store} (h : NewSecret e s) : findRefreshToken e.secret s = none :=
  List.find?_eq_none.mpr fun row hrow => by simpa using h row hrow

/-- The token that a new session is opened for. -/
theorem tokenRevoked_new {e : Env} {s : Store} (h : findRefreshToken e.secret s = none)
    (user_id : UUID) :
    tokenRevoked e.secret (addRefreshToken (new_refresh_token e user_id) s) = some false := by
  have hhash : (new_refresh_token e user_id).token_hash = hash_refresh_token e.secret := rfl
  unfold findRefreshToken at h
  unfold tokenRevoked findRefreshToken addRefreshToken
  rw [List.find?_append, h, Option.none_or, List.find?_singleton, if_pos (decide_eq_true hhash)]
  rfl

section
variable {e : Env} {s s' : Store} {r : Request} {reply : Except Failure Body} {raw : Text}

/-- A session is as it was, or it is revoked: it was before, the request signs
it out, or the request is a refresh with its token or with a revoked one. -/
theorem SessionMove.row_after (h : SessionMove e s r reply s')
    (hids : UniqueOn RefreshToken.id s.refresh_tokens) {row : RefreshToken}
    (hfind : findRefreshToken raw s = some row) :
    ∃ row', findRefreshToken raw s' = some row' ∧ (row' = row ∨ row'.revoked_at.isSome = true ∧
      (row.revoked_at.isSome = true ∨ SignsRowOut s reply row r ∨
        ∃ t stored, r = .auth (.refresh (some t)) ∧ findRefreshToken t s = some stored ∧
          (stored = row ∨ stored.revoked_at.isSome = true))) := by
  have hrow := (find?_mem hfind).1
  have hcases : ∀ (t : Store) (p : RefreshToken → Bool) (f : RefreshToken → RefreshToken),
      t.refresh_tokens = updateWhere p f s.refresh_tokens →
      (∀ row, (f row).token_hash = row.token_hash) →
      (∀ row, (f row).revoked_at.isSome = true) →
      ∃ row', findRefreshToken raw t = some row' ∧
        (row' = row ∨ row'.revoked_at.isSome = true ∧ p row = true) := by
    intro t p f hrows hhash hrevokes
    refine ⟨_, by rw [found_updated hrows hhash, hfind, Option.map_some], ?_⟩
    by_cases hp : p row = true
    · rw [if_pos hp]
      exact Or.inr ⟨hrevokes row, hp⟩
    · rw [if_neg hp]
      exact Or.inl rfl
  cases h with
  | signed_out _ _ _ p revoked_at hrows hp =>
    obtain ⟨row', hfind', hsame | ⟨hrevoked, hmatch⟩⟩ :=
      hcases s' p _ hrows (fun _ => rfl) fun _ => rfl
    · exact ⟨row', hfind', Or.inl hsame⟩
    · refine ⟨row', hfind', Or.inr ⟨hrevoked, ?_⟩⟩
      cases hopen : row.revoked_at with
      | none => exact Or.inr (Or.inl ((hp row hrow hopen).mp hmatch))
      | some _ => exact Or.inl rfl
  | signed_in payload user => exact ⟨row, found_inserted hfind _, Or.inl rfl⟩
  | exchanged t stored user hr hopen =>
    obtain ⟨row', hfind', hrest⟩ :=
      hcases (rotateSessionRow stored.id (e.clock 1) s) _ _ rfl (fun _ => rfl) fun _ => rfl
    refine ⟨row', found_inserted hfind' _, hrest.imp_right fun hrest => ⟨hrest.1, ?_⟩⟩
    have hsame := (signs_out_by_id hids (find?_mem hr).1 hrow).mp hrest.2
    exact Or.inr (Or.inr ⟨t, stored, rfl, hr, Or.inl hsame.symm⟩)
  | replayed t stored error hr hrevoked =>
    obtain ⟨row', hfind', hrest⟩ :=
      hcases (revoke_user_sessions stored.user_id (e.clock 1) s) _ _ rfl (fun _ => rfl) fun _ => rfl
    refine ⟨row', hfind', hrest.imp_right fun hrest => ⟨hrest.1, ?_⟩⟩
    exact Or.inr (Or.inr ⟨t, stored, rfl, hr, Or.inr hrevoked⟩)
  | expired t stored error hr hend =>
    obtain ⟨row', hfind', hrest⟩ :=
      hcases (revokeSessionRow stored.id (e.clock 1) s) _ _ rfl (fun _ => rfl) fun _ => rfl
    refine ⟨row', hfind', hrest.imp_right fun hrest => ⟨hrest.1, ?_⟩⟩
    have hsame := (signs_out_by_id hids (find?_mem hr).1 hrow).mp hrest.2
    exact Or.inr (Or.inr ⟨t, stored, rfl, hr, Or.inl hsame.symm⟩)

section
variable (h : SessionMove e s r reply s') (hids : UniqueOn RefreshToken.id s.refresh_tokens)
include h hids

theorem SessionMove.named (hraw : tokenRevoked raw s ≠ none) : tokenRevoked raw s' ≠ none := by
  obtain ⟨revoked, hsome⟩ := Option.ne_none_iff_exists'.mp hraw
  obtain ⟨row, hfind, _⟩ := Option.map_eq_some_iff.mp hsome
  obtain ⟨row', hfind', _⟩ := h.row_after hids hfind
  rw [tokenRevoked_of_found hfind']
  exact Option.some_ne_none _

theorem SessionMove.stays_revoked (hraw : tokenRevoked raw s = some true) :
    tokenRevoked raw s' = some true := by
  obtain ⟨row, hfind, hrevoked⟩ := Option.map_eq_some_iff.mp hraw
  obtain ⟨row', hfind', rfl | ⟨hrevoked', _⟩⟩ := h.row_after hids hfind
  · rw [tokenRevoked_of_found hfind', hrevoked]
  · rw [tokenRevoked_of_found hfind', hrevoked']

/-- An open session stays open, unless the request signs it out or is a refresh
with its token. -/
theorem SessionMove.stays_open (hraw : tokenRevoked raw s = some false)
    (hother : ∀ t, r = .auth (.refresh (some t)) →
      hash_refresh_token t ≠ hash_refresh_token raw ∧ tokenRevoked t s ≠ some true) :
    tokenRevoked raw s' = some false ∨
      tokenRevoked raw s' = some true ∧ SignsTokenOut s reply raw r := by
  obtain ⟨row, hfind, hopen⟩ := Option.map_eq_some_iff.mp hraw
  obtain ⟨row', hfind', rfl | ⟨hrevoked', hwhy⟩⟩ := h.row_after hids hfind
  · left
    rw [tokenRevoked_of_found hfind', hopen]
  · right
    refine ⟨by rw [tokenRevoked_of_found hfind', hrevoked'], ?_⟩
    rcases hwhy with hrevoked | hsigns | ⟨t, stored, hr, hstored, hwhy⟩
    · rw [hopen] at hrevoked
      cases hrevoked
    · exact ⟨row, hfind, hsigns⟩
    · obtain ⟨hhash, hlive⟩ := hother t hr
      rcases hwhy with rfl | hrevoked
      · exact absurd ((found_hash hstored).symm.trans (found_hash hfind)) hhash
      · exact absurd (by rw [tokenRevoked_of_found hstored, hrevoked]) hlive

omit hids in
/-- A sign-out revokes its session, if it was not revoked before. -/
theorem SessionMove.signs_out (hsigns : SignsTokenOut s reply raw r) : tokenRevoked raw s' = some true := by
  obtain ⟨row, hfind, hsigns⟩ := hsigns
  cases h with
  | signed_out _ _ _ p revoked_at hrows hp =>
    have hfind' := found_updated hrows (fun _ => rfl) raw
    rw [hfind, Option.map_some] at hfind'
    rw [tokenRevoked_of_found hfind']
    split
    · rfl
    · next hmatch =>
      cases hopen : row.revoked_at with
      | none => exact absurd ((hp row (find?_mem hfind).1 hopen).mpr hsigns) hmatch
      | some _ => rfl
  | _ => exact hsigns.elim

omit hids in
/-- The cookie that an answer sets is that of a new session. -/
theorem SessionMove.cookie (hnew : NewSecret e s) (hset : setCookie r reply = .set raw) :
    raw = e.secret ∧ tokenRevoked e.secret s' = some false := by
  cases h with
  | signed_out _ _ _ _ _ _ _ hcookie => exact absurd hset (hcookie raw)
  | signed_in payload user =>
    cases hset
    exact ⟨rfl, tokenRevoked_new hnew.unfound user.id⟩
  | exchanged t stored user hr hopen =>
    cases hset
    refine ⟨rfl, tokenRevoked_new ?_ user.id⟩
    have hrotated : findRefreshToken e.secret (rotateSessionRow stored.id (e.clock 1) s) = _ :=
      found_updated (by rfl) (fun _ => by rfl) e.secret
    rw [hrotated, hnew.unfound, Option.map_none]
  | replayed => cases hset
  | expired => cases hset

end

/-- A refresh with the token of an open session leaves it open, or exchanges it. -/
theorem SessionMove.exchanges (h : SessionMove e s (.auth (.refresh (some raw))) reply s')
    (hopen : tokenRevoked raw s = some false)
    (hlive : ∀ row, findRefreshToken raw s = some row → e.clock 1 < row.expires_at) :
    tokenRevoked raw s' = some false ∨
      setCookie (.auth (.refresh (some raw))) reply = .set e.secret := by
  obtain ⟨row, hfind, hrow⟩ := Option.map_eq_some_iff.mp hopen
  cases h with
  | signed_out _ _ _ p revoked_at hrows hp =>
    left
    have hfind' := found_updated hrows (fun _ => rfl) raw
    have hnone : row.revoked_at = none := by simpa using hrow
    have hkept : ¬ p row = true := fun hmatch => (hp row (find?_mem hfind).1 hnone).mp hmatch
    rw [hfind, Option.map_some, if_neg hkept] at hfind'
    rw [tokenRevoked_of_found hfind', hrow]
  | exchanged => exact Or.inr rfl
  | replayed _ stored _ hr hrevoked =>
    cases hfind.symm.trans hr
    rw [hrow] at hrevoked
    cases hrevoked
  | expired _ stored _ hr hend =>
    cases hfind.symm.trans hr
    exact absurd (hlive row hfind) (not_lt.mpr hend)

/-- A refresh with an open token, and a logout, leave the open sessions of other
tokens as they are. -/
theorem SessionMove.keeps_others (h : SessionMove e s r reply s')
    (hids : UniqueOn RefreshToken.id s.refresh_tokens) (hcookie : r.refreshCookie = some raw)
    (hlive : r = .auth (.refresh (some raw)) → tokenRevoked raw s ≠ some true) {row : RefreshToken}
    (hrow : row ∈ s.refresh_tokens) (hopen : row.revoked_at = none)
    (hother : row.token_hash ≠ hash_refresh_token raw) : row ∈ s'.refresh_tokens := by
  have hapart : ∀ stored, findRefreshToken raw s = some stored →
      decide (row.id = stored.id) = false := by
    intro stored hfind
    rw [decide_eq_false_iff_not]
    intro hid
    refine hother ?_
    rw [hids.eq hrow (find?_mem hfind).1 hid]
    exact found_hash hfind
  cases h with
  | signed_out _ _ _ p revoked_at hrows hp =>
    rw [hrows]
    refine mem_updateWhere_of_not hrow ?_
    rw [Bool.eq_false_iff, ne_eq, hp row hrow hopen]
    intro hsigns
    cases r with
    | auth r =>
      cases r with
      | logout token =>
        obtain ⟨t, ht, hfind⟩ := hsigns
        cases (eq_some_of_present ht).symm.trans hcookie
        exact hother (found_hash hfind)
      | refresh => exact hsigns
      | _ => cases hcookie
    | _ => cases hcookie
  | signed_in => cases hcookie
  | exchanged t stored user hr =>
    cases hcookie
    exact List.mem_append_left _ (mem_updateWhere_of_not hrow (hapart stored hr))
  | replayed t stored error hr hrevoked =>
    cases hcookie
    exact absurd (by rw [tokenRevoked_of_found hr, hrevoked]) (hlive rfl)
  | expired t stored error hr =>
    cases hcookie
    exact mem_updateWhere_of_not hrow (hapart stored hr)

end

end pulseforge

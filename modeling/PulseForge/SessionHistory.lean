-- Sessions as their history tells them: a session is live from the answer
-- that issued it to the first request that ends it, and the three checks of
-- the code accept it as long as it is live.
import PulseForge.Lib.Run
import PulseForge.Consistency

open txn table

namespace pulseforge

variable [Platform]

/-! ## Runs -/

/-- A step of a run: a request under /auth, or an operator who switches an account. -/
inductive AuthStep
  | request (e : Env) (r : AuthRequest)
  | set_active (user_id : UUID) (active : Bool)

def setActive (user_id : UUID) (active : Bool) (s : Store) : Store :=
  { s with users := updateWhere (fun u => u.id = user_id) (fun u => { u with is_active := active }) s.users }

def proceed (s : Store) : AuthStep → Store
  | .request e r => (handle e (.auth r) s).2
  | .set_active user_id active => setActive user_id active s

/-! ## The history specification -/

/-- A refresh session as the answer that issued it shows it. -/
structure IssuedSession where
  id : UUID
  user_id : UUID
  raw : Text
  expires_at : Int
  deriving DecidableEq

/-- The session that an answer issues. -/
def issuedBy (e : Env) : Except Failure Body → Option IssuedSession
  | .ok (.tokens t) =>
    t.access_token.sid.map fun sid =>
      ⟨sid, t.access_token.sub, t.refresh_cookie, refresh_expires_at (e.clock 2)⟩
  | _ => none

/-- The request was answered without an error. -/
def Accepted (reply : Except Failure Body) : Prop := ∃ body, reply = .ok body

/-- The credentials are an access token of the user. -/
def By (credentials : Option Bearer) (user_id : UUID) : Prop :=
  ∃ token, credentials = some (.signed token) ∧ token.sub = user_id

def ActiveUser (s : Store) (user_id : UUID) : Prop :=
  ∃ user, findUser s user_id = some user ∧ user.is_active = true

/-- The user whose password a reset token resets. -/
def resetUser (raw : Text) (s : Store) : Option UUID :=
  (s.password_reset_tokens.find? fun r => r.token_hash = hash_password_reset_token raw).map
    PasswordResetToken.user_id

/-- The request ends the session: `created` and `live` tell which sessions
were issued, and which of them are live, before it. -/
def EndsSession (before : Store) (created live : IssuedSession → Prop) (e : Env)
    (reply : Except Failure Body) (S : IssuedSession) : AuthRequest → Prop
  | .refresh (some raw) =>
    (raw = S.raw ∧ Accepted reply) ∨
    (raw = S.raw ∧ e.retry_after = none ∧
      (S.expires_at ≤ e.clock 1 ∨ ¬ ActiveUser before S.user_id)) ∨
    (e.retry_after = none ∧ ∃ T, created T ∧ T.user_id = S.user_id ∧ T.raw = raw ∧ ¬ live T)
  | .logout (some raw) => raw = S.raw
  | .revoke_session credentials session_id =>
    Accepted reply ∧ By credentials S.user_id ∧ session_id = S.id
  | .logout_all credentials => Accepted reply ∧ By credentials S.user_id
  | .change_password credentials _ => Accepted reply ∧ By credentials S.user_id
  | .reset_password payload => Accepted reply ∧ resetUser payload.token before = some S.user_id
  | _ => False

section
variable (s₀ : Store)

/-- The answer that a request got after a past. -/
def reply (past : List AuthStep) (e : Env) (r : AuthRequest) : Except Failure Body :=
  (handle e (.auth r) (run.after proceed s₀ past)).1

/-- The session was issued in the past. -/
def Created : List AuthStep → IssuedSession → Prop
  | [], _ => False
  | .request e r :: past, S => issuedBy e (reply s₀ past e r) = some S ∨ Created past S
  | .set_active _ _ :: past, S => Created past S

/-- The session was issued in the past, and nothing has ended it since. -/
def Live : List AuthStep → IssuedSession → Prop
  | [], _ => False
  | .request e r :: past, S =>
    issuedBy e (reply s₀ past e r) = some S ∨
      Live past S ∧ ¬ EndsSession (run.after proceed s₀ past) (Created s₀ past) (Live past) e
        (reply s₀ past e r) S r
  | .set_active _ _ :: past, S => Live past S

/-- The sessions that were issued in the past, newest first. -/
def createdSessions : List AuthStep → List IssuedSession
  | [] => []
  | .request e r :: past => (issuedBy e (reply s₀ past e r)).toList ++ createdSessions past
  | .set_active _ _ :: past => createdSessions past

/-- The id and the token that a request draws are new. -/
def FreshDraws : List AuthStep → Prop
  | [] => True
  | .request e _ :: past => FreshDraws past ∧ e.secret ≠ [] ∧
      ∀ S, Created s₀ past S → S.id ≠ e.uuid 0 ∧ S.raw ≠ e.secret
  | .set_active _ _ :: past => FreshDraws past

end

theorem mem_createdSessions {s₀ : Store} {past : List AuthStep} {S : IssuedSession} :
    S ∈ createdSessions s₀ past ↔ Created s₀ past S := by
  induction past with
  | nil => simp [createdSessions, Created]
  | cons step past ih =>
    cases step with
    | request e r =>
      rw [createdSessions, List.mem_append, Option.mem_toList, ih]
      rfl
    | set_active => exact ih

instance decidableFreshDraws (s₀ : Store) : (past : List AuthStep) → Decidable (FreshDraws s₀ past)
  | [] => isTrue trivial
  | .request e _ :: past =>
    have := decidableFreshDraws s₀ past
    decidable_of_iff (FreshDraws s₀ past ∧ e.secret ≠ [] ∧
        ∀ S ∈ createdSessions s₀ past, S.id ≠ e.uuid 0 ∧ S.raw ≠ e.secret) <| by
      simp only [mem_createdSessions]
      rfl
  | .set_active _ _ :: past => decidableFreshDraws s₀ past

/-! ## The rows and the history -/

/-- The row is the one of the session. -/
structure RowOf (r : RefreshToken) (S : IssuedSession) : Prop where
  id : r.id = S.id
  user : r.user_id = S.user_id
  hash : r.token_hash = hash_refresh_token S.raw
  expires : r.expires_at = S.expires_at

/-- The token hashes are injective. -/
def InjectiveHash : Prop := ∀ a b : Text, Platform.sha256 a = Platform.sha256 b → a = b

/-- The table of sessions tells what the past tells. -/
structure Faithful (s₀ : Store) (past : List AuthStep) (s : Store) : Prop where
  row_of : ∀ S, Created s₀ past S → ∃ r ∈ s.refresh_tokens, RowOf r S
  of_row : ∀ r ∈ s.refresh_tokens, ∃ S, Created s₀ past S ∧ RowOf r S
  live : ∀ S, Created s₀ past S → ∀ r ∈ s.refresh_tokens, RowOf r S →
    (r.revoked_at = none ↔ Live s₀ past S)
  ids : UniqueOn RefreshToken.id s.refresh_tokens
  hashes : UniqueOn RefreshToken.token_hash s.refresh_tokens
  users : ∀ S, Created s₀ past S → (findUser s S.user_id).isSome = true
  raws : ∀ S, Created s₀ past S → S.raw ≠ []

section
variable {s₀ : Store} {past : List AuthStep} {s : Store} (h : Faithful s₀ past s)
include h

theorem Faithful.row_unique {S : IssuedSession} {r r' : RefreshToken} (hr : r ∈ s.refresh_tokens)
    (hr' : r' ∈ s.refresh_tokens) (hS : RowOf r S) (hS' : RowOf r' S) : r = r' :=
  h.ids.eq hr hr' (hS.id.trans hS'.id.symm)

/-- A raw token finds the row of the session that it was issued for. -/
theorem Faithful.found (hinj : InjectiveHash) {raw : Text} {row : RefreshToken}
    (hrow : findRefreshToken raw s = some row) {S : IssuedSession} (hS : Created s₀ past S) :
    S.raw = raw ↔ RowOf row S := by
  obtain ⟨hmem, hhash⟩ := find?_mem hrow
  have hhash : row.token_hash = hash_refresh_token raw := by simpa using hhash
  constructor
  · rintro rfl
    obtain ⟨r, hr, hrS⟩ := h.row_of S hS
    rw [h.hashes.eq hmem hr (hhash.trans hrS.hash.symm)]
    exact hrS
  · intro hrS
    exact hinj _ _ (hrS.hash.symm.trans hhash)

theorem Faithful.not_found {raw : Text} (hnone : findRefreshToken raw s = none)
    {S : IssuedSession} (hS : Created s₀ past S) : raw ≠ S.raw := by
  rintro rfl
  obtain ⟨r, hr, hrS⟩ := h.row_of S hS
  have := List.find?_eq_none.mp hnone r hr
  simp [hrS.hash] at this

end

/-- What a request does to the table of sessions: it revokes the rows with
`p`, and adds the row of the session that it issues. -/
structure Effect (s₀ : Store) (past : List AuthStep) (e : Env) (r : AuthRequest)
    (reply : Except Failure Body) (s s' : Store) where
  p : RefreshToken → Bool
  f : RefreshToken → RefreshToken
  new : List RefreshToken
  rows : s'.refresh_tokens = updateWhere p f s.refresh_tokens ++ new
  keeps : ∀ r, (f r).id = r.id ∧ (f r).user_id = r.user_id ∧ (f r).token_hash = r.token_hash ∧
    (f r).expires_at = r.expires_at
  revokes : ∀ r, (f r).revoked_at ≠ none
  ends : ∀ S row, Created s₀ past S → row ∈ s.refresh_tokens → RowOf row S →
    row.revoked_at = none →
      (p row = true ↔ EndsSession s (Created s₀ past) (Live s₀ past) e reply S r)
  issues : (issuedBy e reply = none ∧ new = []) ∨ ∃ T row, issuedBy e reply = some T ∧
    new = [row] ∧ RowOf row T ∧ row.revoked_at = none ∧ T.id = e.uuid 0 ∧ T.raw = e.secret ∧
      (findUser s' T.user_id).isSome = true
  users : ∀ u, (findUser s u).isSome = true → (findUser s' u).isSome = true

section
variable {s₀ : Store} {past : List AuthStep} {e : Env} {r : AuthRequest} {reply : Except Failure Body}
  {s s' : Store} (eff : Effect s₀ past e r reply s s')
include eff

theorem Effect.rowOf_iff (r₀ : RefreshToken) (S : IssuedSession) :
    RowOf (if eff.p r₀ then eff.f r₀ else r₀) S ↔ RowOf r₀ S := by
  split
  · obtain ⟨hid, huser, hhash, hexp⟩ := eff.keeps r₀
    constructor
    · rintro ⟨h1, h2, h3, h4⟩
      exact ⟨hid ▸ h1, huser ▸ h2, hhash ▸ h3, hexp ▸ h4⟩
    · rintro ⟨h1, h2, h3, h4⟩
      exact ⟨hid.trans h1, huser.trans h2, hhash.trans h3, hexp.trans h4⟩
  · exact Iff.rfl

/-- A row is an old one, in its old or its revoked form, or the new one. -/
theorem Effect.mem_iff (a : RefreshToken) :
    a ∈ s'.refresh_tokens ↔
      (∃ r₀ ∈ s.refresh_tokens, a = if eff.p r₀ then eff.f r₀ else r₀) ∨ a ∈ eff.new := by
  rw [eff.rows, List.mem_append, mem_updateWhere]

end

theorem created_cons {s₀ : Store} {past : List AuthStep} {e : Env} {r : AuthRequest} {S : IssuedSession} :
    Created s₀ (.request e r :: past) S ↔
      issuedBy e (reply s₀ past e r) = some S ∨ Created s₀ past S := Iff.rfl

section
variable {s₀ : Store} {past : List AuthStep} {e : Env} {r : AuthRequest} {s' : Store}
  (eff : Effect s₀ past e r (reply s₀ past e r) (run.after proceed s₀ past) s')
  (h : Faithful s₀ past (run.after proceed s₀ past))
include eff h

/-- The row of an old session is open afterwards as long as the request did
not end the session. -/
theorem Effect.live_iff {S : IssuedSession} (hS : Created s₀ past S) {r₀ : RefreshToken}
    (hr₀ : r₀ ∈ (run.after proceed s₀ past).refresh_tokens) (hrow : RowOf r₀ S) :
    (if eff.p r₀ then eff.f r₀ else r₀).revoked_at = none ↔ Live s₀ past S ∧
      ¬ EndsSession (run.after proceed s₀ past) (Created s₀ past) (Live s₀ past) e
        (reply s₀ past e r) S r := by
  rw [← h.live S hS r₀ hr₀ hrow]
  by_cases hopen : r₀.revoked_at = none
  · rw [← eff.ends S r₀ hS hr₀ hrow hopen]
    by_cases hp : eff.p r₀ = true
    · simp [hp, eff.revokes r₀]
    · simp [hp, hopen]
  · constructor
    · intro hnone
      split at hnone
      · exact absurd hnone (eff.revokes r₀)
      · exact absurd hnone hopen
    · intro hno
      exact absurd hno.1 hopen

/-- Every session of the past keeps its row. -/
theorem Effect.row_of {S : IssuedSession} (hS : Created s₀ past S) :
    ∃ a ∈ s'.refresh_tokens, RowOf a S := by
  obtain ⟨r₀, hr₀, hrow⟩ := h.row_of S hS
  exact ⟨_, (eff.mem_iff _).mpr (Or.inl ⟨r₀, hr₀, rfl⟩), (eff.rowOf_iff r₀ S).mpr hrow⟩

/-- A request that issues nothing. -/
theorem Effect.faithful_of_none (hnone : issuedBy e (reply s₀ past e r) = none)
    (hnew : eff.new = []) : Faithful s₀ (.request e r :: past) s' := by
  have hcreated : ∀ S, Created s₀ (.request e r :: past) S ↔ Created s₀ past S := by
    intro S
    rw [created_cons, hnone]
    simp
  have hmem : ∀ a, a ∈ s'.refresh_tokens ↔ ∃ r₀ ∈ (run.after proceed s₀ past).refresh_tokens,
      a = if eff.p r₀ then eff.f r₀ else r₀ := by
    intro a
    rw [eff.mem_iff, hnew]
    simp
  refine ⟨?_, ?_, ?_, ?_, ?_, ?_, ?_⟩
  · intro S hS
    exact eff.row_of h ((hcreated S).mp hS)
  · intro a ha
    obtain ⟨r₀, hr₀, rfl⟩ := (hmem a).mp ha
    obtain ⟨S, hS, hrow⟩ := h.of_row r₀ hr₀
    exact ⟨S, (hcreated S).mpr hS, (eff.rowOf_iff r₀ S).mpr hrow⟩
  · intro S hS a ha hrow
    obtain ⟨r₀, hr₀, rfl⟩ := (hmem a).mp ha
    rw [eff.live_iff h ((hcreated S).mp hS) hr₀ ((eff.rowOf_iff r₀ S).mp hrow), Live, hnone]
    simp
  · rw [eff.rows, hnew, List.append_nil]
    exact h.ids.update fun a _ _ => (eff.keeps a).1
  · rw [eff.rows, hnew, List.append_nil]
    exact h.hashes.update fun a _ _ => (eff.keeps a).2.2.1
  · intro S hS
    exact eff.users _ (h.users S ((hcreated S).mp hS))
  · intro S hS
    exact h.raws S ((hcreated S).mp hS)

omit eff h in
/-- With fresh draws, the row of the new session shares neither its id nor its
hash with the row of an old one. -/
theorem FreshDraws.apart (hinj : InjectiveHash) (hf : FreshDraws s₀ (.request e r :: past))
    {T : IssuedSession} {row : RefreshToken} (hrow : RowOf row T) (hid : T.id = e.uuid 0)
    (hraw : T.raw = e.secret) {S : IssuedSession} (hS : Created s₀ past S) {a : RefreshToken}
    (ha : RowOf a S) : a.id ≠ row.id ∧ a.token_hash ≠ row.token_hash := by
  obtain ⟨hnewid, hnewraw⟩ := hf.2.2 S hS
  constructor
  · intro heq
    exact hnewid (ha.id.symm.trans (heq.trans (hrow.id.trans hid)))
  · intro heq
    have hhash : hash_refresh_token S.raw = hash_refresh_token T.raw :=
      ha.hash.symm.trans (heq.trans hrow.hash)
    exact hnewraw ((hinj _ _ hhash).trans hraw)

/-- A request that issues a session with a new id and a new token. -/
theorem Effect.faithful_of_some (hinj : InjectiveHash) (hf : FreshDraws s₀ (.request e r :: past))
    {T : IssuedSession} {row : RefreshToken} (hT : issuedBy e (reply s₀ past e r) = some T)
    (hnew : eff.new = [row]) (hrow : RowOf row T) (hopen : row.revoked_at = none)
    (hid : T.id = e.uuid 0) (hraw : T.raw = e.secret)
    (huser : (findUser s' T.user_id).isSome = true) :
    Faithful s₀ (.request e r :: past) s' := by
  have hcreated : ∀ S, Created s₀ (.request e r :: past) S ↔ T = S ∨ Created s₀ past S := by
    intro S
    rw [created_cons, hT, Option.some.injEq]
  have hmem : ∀ a, a ∈ s'.refresh_tokens ↔ (∃ r₀ ∈ (run.after proceed s₀ past).refresh_tokens,
      a = if eff.p r₀ then eff.f r₀ else r₀) ∨ a = row := by
    intro a
    rw [eff.mem_iff, hnew, List.mem_singleton]
  have hold : ∀ S, Created s₀ past S → ∀ a, RowOf a S →
      a.id ≠ row.id ∧ a.token_hash ≠ row.token_hash :=
    fun S hS a ha => hf.apart hinj hrow hid hraw hS ha
  refine ⟨?_, ?_, ?_, ?_, ?_, ?_, ?_⟩
  · intro S hS
    rcases (hcreated S).mp hS with rfl | hS
    · exact ⟨row, (hmem row).mpr (Or.inr rfl), hrow⟩
    · exact eff.row_of h hS
  · intro a ha
    rcases (hmem a).mp ha with ⟨r₀, hr₀, rfl⟩ | rfl
    · obtain ⟨S, hS, hrS⟩ := h.of_row r₀ hr₀
      exact ⟨S, (hcreated S).mpr (Or.inr hS), (eff.rowOf_iff r₀ S).mpr hrS⟩
    · exact ⟨T, (hcreated T).mpr (Or.inl rfl), hrow⟩
  · intro S hS a ha hrS
    rw [Live, hT, Option.some.injEq]
    rcases (hmem a).mp ha with ⟨r₀, hr₀, rfl⟩ | rfl
    · have hrS := (eff.rowOf_iff r₀ S).mp hrS
      rcases (hcreated S).mp hS with rfl | hS
      · obtain ⟨S', hS', hrS'⟩ := h.of_row r₀ hr₀
        exact absurd (hrS.id.trans hrow.id.symm) (hold S' hS' r₀ hrS').1
      · rw [eff.live_iff h hS hr₀ hrS]
        have hother : T ≠ S := by
          rintro rfl
          exact (hf.2.2 T hS).1 hid
        simp [hother]
    · rcases (hcreated S).mp hS with rfl | hS
      · simp [hopen]
      · exact absurd rfl (hold S hS a hrS).1
  · rw [eff.rows, hnew]
    refine (h.ids.update fun a _ _ => (eff.keeps a).1).insert fun a ha => ?_
    obtain ⟨r₀, hr₀, rfl⟩ := mem_updateWhere.mp ha
    obtain ⟨S, hS, hrS⟩ := h.of_row r₀ hr₀
    exact (hold S hS _ ((eff.rowOf_iff r₀ S).mpr hrS)).1
  · rw [eff.rows, hnew]
    refine (h.hashes.update fun a _ _ => (eff.keeps a).2.2.1).insert fun a ha => ?_
    obtain ⟨r₀, hr₀, rfl⟩ := mem_updateWhere.mp ha
    obtain ⟨S, hS, hrS⟩ := h.of_row r₀ hr₀
    exact (hold S hS _ ((eff.rowOf_iff r₀ S).mpr hrS)).2
  · intro S hS
    rcases (hcreated S).mp hS with rfl | hS
    · exact huser
    · exact eff.users _ (h.users S hS)
  · intro S hS
    rcases (hcreated S).mp hS with rfl | hS
    · rw [hraw]
      exact hf.2.1
    · exact h.raws S hS

theorem Effect.faithful (hinj : InjectiveHash) (hf : FreshDraws s₀ (.request e r :: past)) :
    Faithful s₀ (.request e r :: past) s' := by
  rcases eff.issues with ⟨hnone, hnew⟩ | ⟨T, row, hT, hnew, hrow, hopen, hid, hraw, huser⟩
  · exact eff.faithful_of_none h hnone hnew
  · exact eff.faithful_of_some h hinj hf hT hnew hrow hopen hid hraw huser

end

/-! ## The effect of each request -/

section
variable {s₀ : Store} {past : List AuthStep} {e : Env} {r : AuthRequest} {reply : Except Failure Body}
  {s s' : Store}

/-- A request that ends no live session, and issues none. -/
def Effect.nothing (hrows : s'.refresh_tokens = s.refresh_tokens)
    (hends : ∀ S row, Created s₀ past S → row ∈ s.refresh_tokens → RowOf row S →
      row.revoked_at = none → ¬ EndsSession s (Created s₀ past) (Live s₀ past) e reply S r)
    (hissues : issuedBy e reply = none)
    (husers : ∀ u, (findUser s u).isSome = true → (findUser s' u).isSome = true) :
    Effect s₀ past e r reply s s' where
  p := fun _ => false
  f := fun row => { row with revoked_at := some e.now }
  new := []
  rows := by
    rw [hrows, updateWhere_eq_self fun _ _ => rfl, List.append_nil]
  keeps := fun _ => ⟨rfl, rfl, rfl, rfl⟩
  revokes := fun _ => Option.some_ne_none _
  ends := by
    intro S row hS hrow hrowS hopen
    have hno := hends S row hS hrow hrowS hopen
    simp [hno]
  issues := Or.inl ⟨hissues, rfl⟩
  users := husers

/-- A request that revokes the rows with `q`, and issues no session. -/
def Effect.revoking (q : RefreshToken → Bool) (now : Int)
    (hrows : s'.refresh_tokens = updateWhere q (fun row => { row with revoked_at := some now }) s.refresh_tokens)
    (hends : ∀ S row, Created s₀ past S → row ∈ s.refresh_tokens → RowOf row S →
      row.revoked_at = none →
        (q row = true ↔ EndsSession s (Created s₀ past) (Live s₀ past) e reply S r))
    (hissues : issuedBy e reply = none)
    (husers : ∀ u, (findUser s u).isSome = true → (findUser s' u).isSome = true) :
    Effect s₀ past e r reply s s' where
  p := q
  f := fun row => { row with revoked_at := some now }
  new := []
  rows := by rw [hrows, List.append_nil]
  keeps := fun _ => ⟨rfl, rfl, rfl, rfl⟩
  revokes := fun _ => Option.some_ne_none _
  ends := hends
  issues := Or.inl ⟨hissues, rfl⟩
  users := husers

end

omit [Platform] in
theorem not_accepted (error : Failure) : ¬ Accepted (.error error : Except Failure Body) := by
  rintro ⟨_, h⟩
  cases h

omit [Platform] in
/-- An update that keeps the ids does not decide who is there. -/
theorem findUser_update {s s' : Store} {p : User → Bool} {f : User → User}
    (hs' : s'.users = updateWhere p f s.users) (hf : ∀ x, (f x).id = x.id) {u : UUID}
    (h : (findUser s u).isSome = true) : (findUser s' u).isSome = true := by
  unfold findUser at h ⊢
  rw [List.find?_isSome] at h ⊢
  obtain ⟨x, hx, hid⟩ := h
  rw [hs']
  exact exists_updateWhere hx hid fun _ => by rw [hf x]; exact hid

omit [Platform] in
theorem findUser_setPassword (user_id : UUID) (password : Text) (now : Int) (s : Store) (u : UUID)
    (h : (findUser s u).isSome = true) : (findUser (setPassword user_id password now s) u).isSome = true := by
  refine findUser_update rfl ?_ h
  exact fun _ => rfl

omit [Platform] in
/-- The user of an accepted bearer token is the one that the token names. -/
theorem by_iff {credentials : Option Bearer} {now : Int} {s : Store} {user : User}
    (hu : get_current_user credentials now s = .ok user) (u : UUID) : By credentials u ↔ user.id = u := by
  obtain ⟨token, rfl, _, hfind, _⟩ := current_user_of_ok hu
  have hid := user_id_of_find hfind
  constructor
  · rintro ⟨token', heq, rfl⟩
    cases heq
    exact hid
  · rintro rfl
    exact ⟨token, rfl, hid.symm⟩

/-- A usable reset token resets the password of its user. -/
theorem resetUser_of_usable {raw : Text} {now : Int} {s : Store} {r : PasswordResetToken}
    (h : usableResetToken raw now s = .ok r) : resetUser raw s = some r.user_id := by
  unfold usableResetToken at h
  unfold resetUser
  split at h
  · cases h
  · rename_i stored hfind
    rw [hfind]
    split at h
    · cases h
    · split at h
      · cases h
      · split at h
        · cases h
          rfl
        · cases h

/-- The bulk revocation of the user ends the live sessions of the user. -/
theorem bulk_ends {S : IssuedSession} {row : RefreshToken} (hrow : RowOf row S)
    (hopen : row.revoked_at = none) {user_id : UUID} {P : Prop} (hP : P ↔ user_id = S.user_id) :
    (row.user_id = user_id && row.revoked_at.isNone) = true ↔ P := by
  rw [hP]
  simp only [hopen, hrow.user, Option.isNone_none, Bool.and_true, decide_eq_true_eq]
  exact eq_comm

section
variable {s₀ : Store} {past : List AuthStep} {e : Env} {s s' : Store}

/-- A login issues a session, or it does nothing to them. -/
theorem login_effect {payload : UserLogin} {reply : Except Failure Body}
    (ho : AuthOutcome e s (.login payload) reply s') :
    Nonempty (Effect s₀ past e (.login payload) reply s s') := by
  cases ho with
  | login_limited => exact ⟨.nothing rfl (fun _ _ _ _ _ _ => id) rfl fun _ => id⟩
  | login_failed => exact ⟨.nothing rfl (fun _ _ _ _ _ _ => id) rfl fun _ => id⟩
  | signed_in payload user hu =>
    have huser : (findUser s user.id).isSome = true := by
      obtain ⟨hmem, _⟩ := find?_mem (Option.filter_eq_some_iff.mp hu).1
      exact List.find?_isSome.mpr ⟨user, hmem, by simp⟩
    refine ⟨{ p := fun _ => false, f := fun row => { row with revoked_at := some e.now },
              new := [new_refresh_token e user.id], rows := ?_, keeps := fun _ => ⟨rfl, rfl, rfl, rfl⟩,
              revokes := fun _ => Option.some_ne_none _, ends := ?_, issues := ?_,
              users := fun _ => id }⟩
    · rw [updateWhere_eq_self fun _ _ => rfl]
      rfl
    · intro S row _ _ _ _
      exact ⟨fun hp => absurd hp Bool.false_ne_true, False.elim⟩
    · exact Or.inr ⟨_, new_refresh_token e user.id, rfl, rfl, ⟨rfl, rfl, rfl, rfl⟩, rfl, rfl, rfl, huser⟩

theorem change_password_effect {credentials : Option Bearer} {payload : ChangePasswordRequest}
    {reply : Except Failure Body} (ho : AuthOutcome e s (.change_password credentials payload) reply s') :
    Nonempty (Effect s₀ past e (.change_password credentials payload) reply s s') := by
  cases ho with
  | password_refused =>
    exact ⟨.nothing rfl (fun _ _ _ _ _ _ hends => not_accepted _ hends.1) rfl fun _ => id⟩
  | password_changed credentials payload user hu =>
    refine ⟨.revoking _ (e.clock 1) rfl ?_ rfl fun u => findUser_setPassword user.id _ _ s u⟩
    intro S row hS hm hrow hopen
    refine bulk_ends hrow hopen ?_
    rw [← by_iff hu S.user_id]
    exact ⟨fun hends => hends.2, fun hby => ⟨⟨_, rfl⟩, hby⟩⟩

theorem reset_password_effect {payload : ResetPasswordRequest} {reply : Except Failure Body}
    (ho : AuthOutcome e s (.reset_password payload) reply s') :
    Nonempty (Effect s₀ past e (.reset_password payload) reply s s') := by
  cases ho with
  | reset_refused =>
    exact ⟨.nothing rfl (fun _ _ _ _ _ _ hends => not_accepted _ hends.1) rfl fun _ => id⟩
  | password_reset payload stored hr =>
    refine ⟨.revoking _ (e.clock 1) rfl ?_ rfl fun u => findUser_setPassword stored.user_id _ _ s u⟩
    intro S row hS hm hrow hopen
    refine bulk_ends hrow hopen ?_
    have huser : resetUser payload.token s = some stored.user_id := resetUser_of_usable hr
    constructor
    · rintro ⟨_, heq⟩
      rw [huser] at heq
      exact Option.some.inj heq
    · intro heq
      exact ⟨⟨_, rfl⟩, by rw [huser, heq]⟩

theorem logout_all_effect {credentials : Option Bearer} {reply : Except Failure Body}
    (ho : AuthOutcome e s (.logout_all credentials) reply s') :
    Nonempty (Effect s₀ past e (.logout_all credentials) reply s s') := by
  cases ho with
  | logout_all_refused =>
    exact ⟨.nothing rfl (fun _ _ _ _ _ _ hends => not_accepted _ hends.1) rfl fun _ => id⟩
  | logged_out_all credentials user hu =>
    refine ⟨.revoking _ (e.clock 1) rfl ?_ rfl fun _ => id⟩
    intro S row hS hm hrow hopen
    refine bulk_ends hrow hopen ?_
    rw [← by_iff hu S.user_id]
    exact ⟨fun hends => hends.2, fun hby => ⟨⟨_, rfl⟩, hby⟩⟩

end

section
variable {s₀ : Store} {past : List AuthStep} {s s' : Store} (h : Faithful s₀ past s)
  (hinj : InjectiveHash) {e : Env}
include h hinj

/-- A row that a raw token finds is the row of the sessions with that token only. -/
theorem found_row_iff {raw : Text} {stored : RefreshToken} (hr : findRefreshToken raw s = some stored)
    {S : IssuedSession} {row : RefreshToken} (hS : Created s₀ past S) (hm : row ∈ s.refresh_tokens)
    (hrow : RowOf row S) : decide (row.id = stored.id) = true ↔ raw = S.raw := by
  rw [decide_eq_true_eq, eq_comm (a := raw), h.found hinj hr hS]
  obtain ⟨hstored, _⟩ := find?_mem hr
  constructor
  · intro hid
    rw [← h.ids.eq hm hstored hid]
    exact hrow
  · intro hrow'
    rw [h.row_unique hm hstored hrow hrow']

omit h hinj in
/-- A refresh that is refused ends no session when no session has its token. -/
theorem unknown_ends {raw : Option Text} {error : Failure}
    (hraw : ∀ t, raw = some t → ∀ T, Created s₀ past T → T.raw ≠ t) {S : IssuedSession}
    (hS : Created s₀ past S) :
    ¬ EndsSession s (Created s₀ past) (Live s₀ past) e (.error error) S (.refresh raw) := by
  intro hends
  cases raw with
  | none => exact hends
  | some raw =>
    rcases hends with ⟨_, hok⟩ | ⟨heq, _⟩ | ⟨_, T, hT, _, heq, _⟩
    · exact not_accepted _ hok
    · exact hraw raw rfl S hS heq.symm
    · exact hraw raw rfl T hT heq

/-- A refresh with the token of a revoked row ends the sessions of its user. -/
theorem replay_ends {raw : Text} {error : Failure} {stored : RefreshToken}
    (hlimit : e.retry_after = none) (hr : findRefreshToken raw s = some stored)
    (hrevoked : stored.revoked_at.isSome = true) {S : IssuedSession} (hS : Created s₀ past S) :
    EndsSession s (Created s₀ past) (Live s₀ past) e (.error error) S (.refresh (some raw)) ↔
      stored.user_id = S.user_id := by
  obtain ⟨hstored, _⟩ := find?_mem hr
  constructor
  · rintro (⟨_, hok⟩ | ⟨hraw, _⟩ | ⟨_, T, hT, huser, hraw, _⟩)
    · exact absurd hok (not_accepted _)
    · exact ((h.found hinj hr hS).mp hraw.symm).user
    · rw [← huser]
      exact ((h.found hinj hr hT).mp hraw).user
  · intro huser
    obtain ⟨T, hT, hstoredT⟩ := h.of_row stored hstored
    refine Or.inr (Or.inr ⟨hlimit, T, hT, hstoredT.user.symm.trans huser,
      (h.found hinj hr hT).mpr hstoredT, ?_⟩)
    intro hlive
    have hnone := (h.live T hT stored hstored hstoredT).mpr hlive
    rw [hnone] at hrevoked
    cases hrevoked

/-- A refresh with the token of an open row ends no session with another token. -/
theorem open_token_ends {raw : Text} {reply : Except Failure Body} {stored : RefreshToken}
    (hr : findRefreshToken raw s = some stored) (hopen : stored.revoked_at = none)
    {S : IssuedSession}
    (hends : EndsSession s (Created s₀ past) (Live s₀ past) e reply S (.refresh (some raw))) :
    raw = S.raw := by
  obtain ⟨hm, _⟩ := find?_mem hr
  rcases hends with ⟨hraw, _⟩ | ⟨hraw, _⟩ | ⟨_, T, hT, _, hraw, hdead⟩
  · exact hraw
  · exact hraw
  · have hlive := (h.live T hT stored hm ((h.found hinj hr hT).mp hraw)).mp hopen
    exact absurd hlive hdead

/-- A refresh revokes the session of its token and goes on with a new one, or
it revokes more than that, or nothing. -/
theorem refresh_effect {raw : Option Text} {reply : Except Failure Body}
    (ho : AuthOutcome e s (.refresh raw) reply s') :
    Nonempty (Effect s₀ past e (.refresh raw) reply s s') := by
  cases ho with
  | refresh_limited raw error hlimit =>
    refine ⟨.nothing rfl ?_ rfl fun _ => id⟩
    intro S row hS hm hrow hopen hends
    have hlimit : e.retry_after ≠ none := Option.isSome_iff_ne_none.mp hlimit
    cases raw with
    | none => exact hends
    | some raw =>
      rcases hends with ⟨_, hok⟩ | ⟨_, hno, _⟩ | ⟨hno, _⟩
      · exact not_accepted _ hok
      · exact hlimit hno
      · exact hlimit hno
  | refresh_absent raw error hr =>
    refine ⟨.nothing rfl (fun S _ hS _ _ _ => unknown_ends ?_ hS) rfl fun _ => id⟩
    rintro _ rfl T hT rfl
    have hne := h.raws T hT
    simp [presentCookie, hne] at hr
  | refresh_unknown raw error hr =>
    refine ⟨.nothing rfl (fun S _ hS _ _ _ => unknown_ends ?_ hS) rfl fun _ => id⟩
    rintro _ ⟨⟩ T hT heq
    exact h.not_found hr hT heq.symm
  | refresh_replayed raw error stored hlimit hr hrevoked =>
    refine ⟨.revoking _ (e.clock 1) rfl ?_ rfl fun _ => id⟩
    intro S row hS hm hrow hopen
    exact bulk_ends hrow hopen (replay_ends h hinj hlimit hr hrevoked hS)
  | refresh_orphan raw error stored hr hu =>
    obtain ⟨hstored, _⟩ := find?_mem hr
    obtain ⟨T, hT, hstoredT⟩ := h.of_row stored hstored
    have := h.users T hT
    rw [← hstoredT.user, hu] at this
    cases this
  | refresh_ended raw error stored user hlimit hr hopen' hu hend =>
    refine ⟨.revoking _ (e.clock 1) rfl ?_ rfl fun _ => id⟩
    intro S row hS hm hrow hopen
    rw [found_row_iff h hinj hr hS hm hrow]
    refine ⟨fun hraw => ?_, open_token_ends h hinj hr hopen'⟩
    have hstoredS := (h.found hinj hr hS).mp hraw.symm
    refine Or.inr (Or.inl ⟨hraw, hlimit, ?_⟩)
    rw [← hstoredS.expires, ← hstoredS.user]
    refine hend.imp_right ?_
    rintro hinactive ⟨user', hu', hactive⟩
    rw [hu] at hu'
    cases hu'
    rw [hinactive] at hactive
    cases hactive
  | refreshed raw stored user hlimit hr hopen' hu hlive hactive =>
    have huser : (findUser s user.id).isSome = true := by
      rw [user_id_of_find hu, hu]
      rfl
    refine ⟨{ p := fun row => row.id = stored.id,
              f := fun row => { row with last_used_at := some (e.clock 1), revoked_at := some (e.clock 1) },
              new := [new_refresh_token e user.id], rows := rfl, keeps := fun _ => ⟨rfl, rfl, rfl, rfl⟩,
              revokes := fun _ => Option.some_ne_none _, ends := ?_, issues := ?_,
              users := fun _ => id }⟩
    · intro S row hS hm hrow hopen
      rw [found_row_iff h hinj hr hS hm hrow]
      exact ⟨fun hraw => Or.inl ⟨hraw, _, rfl⟩, open_token_ends h hinj hr hopen'⟩
    · exact Or.inr ⟨_, new_refresh_token e user.id, rfl, rfl, ⟨rfl, rfl, rfl, rfl⟩, rfl, rfl, rfl, huser⟩

theorem logout_effect {raw : Option Text} {reply : Except Failure Body}
    (ho : AuthOutcome e s (.logout raw) reply s') :
    Nonempty (Effect s₀ past e (.logout raw) reply s s') := by
  cases ho with
  | logout_nothing raw hr =>
    refine ⟨.nothing rfl ?_ rfl fun _ => id⟩
    intro S row hS hm hrow hopen hends
    cases raw with
    | none => exact hends
    | some raw =>
      have hraw : raw = S.raw := hends
      have hpresent : presentCookie (some raw) = some raw := by
        have hne := h.raws S hS
        simp [presentCookie, hraw, hne]
      cases hfind : findRefreshToken raw s with
      | none => exact h.not_found hfind hS hraw
      | some stored =>
        obtain ⟨hstored, _⟩ := find?_mem hfind
        have hsome := hr raw hpresent stored hfind
        have hsame := h.row_unique hm hstored hrow ((h.found hinj hfind hS).mp hraw.symm)
        rw [← hsame, hopen] at hsome
        cases hsome
  | logged_out raw stored hr hopen' =>
    refine ⟨.revoking _ (e.clock 1) rfl ?_ rfl fun _ => id⟩
    intro S row hS hm hrow hopen
    exact found_row_iff h hinj hr hS hm hrow

omit hinj in
theorem revoke_session_effect {credentials : Option Bearer} {session_id : UUID} {reply : Except Failure Body}
    (ho : AuthOutcome e s (.revoke_session credentials session_id) reply s') :
    Nonempty (Effect s₀ past e (.revoke_session credentials session_id) reply s s') := by
  cases ho with
  | revoke_refused =>
    exact ⟨.nothing rfl (fun _ _ _ _ _ _ hends => not_accepted _ hends.1) rfl fun _ => id⟩
  | revoke_nothing credentials session_id user stored hu hr hrevoked =>
    refine ⟨.nothing rfl ?_ rfl fun _ => id⟩
    rintro S row hS hm hrow hopen ⟨_, _, hid⟩
    obtain ⟨hstored, hsid, _⟩ := session_of_some hr
    rw [← h.ids.eq hm hstored (hrow.id.trans (hid.symm.trans hsid.symm)), hopen] at hrevoked
    cases hrevoked
  | revoked credentials session_id user stored hu hr hopen' =>
    refine ⟨.revoking _ (e.clock 1) rfl ?_ rfl fun _ => id⟩
    intro S row hS hm hrow hopen
    obtain ⟨hstored, hsid, huser⟩ := session_of_some hr
    rw [decide_eq_true_eq]
    constructor
    · intro hid
      have hsame := h.ids.eq hm hstored hid
      refine ⟨⟨_, rfl⟩, (by_iff hu _).mpr ?_, ?_⟩
      · rw [← hrow.user, hsame, huser]
      · rw [← hrow.id, hsame, hsid]
    · rintro ⟨_, _, hid⟩
      exact hrow.id.trans (hid.symm.trans hsid.symm)

/-- Every outcome of a request has an effect that its history tells. -/
theorem auth_effect {r : AuthRequest} {reply : Except Failure Body}
    (ho : AuthOutcome e s r reply s') : Nonempty (Effect s₀ past e r reply s s') := by
  cases r with
  | register payload =>
    cases ho with
    | registered payload hnew =>
      refine ⟨.nothing rfl (fun _ _ _ _ _ _ => id) rfl fun u hu => ?_⟩
      unfold findUser at hu ⊢
      rw [List.find?_append, Option.isSome_or, hu]
      rfl
    | register_refused => exact ⟨.nothing rfl (fun _ _ _ _ _ _ => id) rfl fun _ => id⟩
  | login payload => exact login_effect ho
  | refresh raw => exact refresh_effect h hinj ho
  | logout raw => exact logout_effect h hinj ho
  | change_password credentials payload => exact change_password_effect ho
  | forgot_password email =>
    cases ho <;> exact ⟨.nothing rfl (fun _ _ _ _ _ _ => id) rfl fun _ => id⟩
  | reset_password payload => exact reset_password_effect ho
  | logout_all credentials => exact logout_all_effect ho
  | list_sessions credentials =>
    cases ho <;> exact ⟨.nothing rfl (fun _ _ _ _ _ _ => id) rfl fun _ => id⟩
  | revoke_session credentials session_id => exact revoke_session_effect h ho
  | get_me credentials =>
    cases ho <;> exact ⟨.nothing rfl (fun _ _ _ _ _ _ => id) rfl fun _ => id⟩

end

/-! ## Every run -/

theorem Faithful.set_active {s₀ : Store} {past : List AuthStep} {s : Store} (h : Faithful s₀ past s)
    (user_id : UUID) (active : Bool) :
    Faithful s₀ (.set_active user_id active :: past) (setActive user_id active s) := by
  refine ⟨h.row_of, h.of_row, h.live, h.ids, h.hashes, ?_, h.raws⟩
  intro S hS
  refine findUser_update rfl ?_ (h.users S hS)
  exact fun _ => rfl

theorem faithful_run (hinj : InjectiveHash) {s₀ : Store} (h₀ : s₀.refresh_tokens = [])
    (past : List AuthStep) (hf : FreshDraws s₀ past) :
    Faithful s₀ past (run.after proceed s₀ past) := by
  induction past with
  | nil =>
    refine ⟨fun _ => False.elim, ?_, fun _ => False.elim, ?_, ?_, fun _ => False.elim,
      fun _ => False.elim⟩
    · intro r hr
      rw [run.after_nil, h₀] at hr
      cases hr
    · rw [run.after_nil, h₀]
      exact uniqueOn_nil _
    · rw [run.after_nil, h₀]
      exact uniqueOn_nil _
  | cons step past ih =>
    cases step with
    | request e r =>
      have h := ih hf.1
      obtain ⟨eff⟩ := auth_effect h hinj (auth_outcome e r (run.after proceed s₀ past))
      exact eff.faithful h hinj hf
    | set_active user_id active => exact (ih hf).set_active user_id active

/-! ## The three checks of the code -/

section
variable {s₀ : Store} {past : List AuthStep} {s : Store} (h : Faithful s₀ past s) {S : IssuedSession}
  (hS : Created s₀ past S)
include h hS

theorem session_row : ∃ r ∈ s.refresh_tokens, RowOf r S ∧ (r.revoked_at = none ↔ Live s₀ past S) := by
  obtain ⟨r, hr, hrow⟩ := h.row_of S hS
  exact ⟨r, hr, hrow, h.live S hS r hr hrow⟩

/-- `get_current_user` takes the access tokens of a live session. -/
theorem access_token_iff {token : AccessToken} (hsub : token.sub = S.user_id)
    (hsid : token.sid = some S.id) (t : Int) :
    (∃ user, get_current_user (some (.signed token)) t s = .ok user ∧ user.id = S.user_id) ↔
      ActiveUser s S.user_id ∧ t < token.exp ∧ t < S.expires_at ∧ Live s₀ past S := by
  obtain ⟨r, hr, hrow, hlive⟩ := session_row h hS
  have hfind : findSession s S.id S.user_id = some r := by
    refine find?_eq_of_unique hr (by simp [hrow.id, hrow.user]) fun a ha hp => ?_
    simp only [Bool.and_eq_true, decide_eq_true_eq] at hp
    exact h.ids.eq ha hr (hp.1.trans hrow.id.symm)
  have hopen : sessionOpen s S.id token.sub t = true ↔ t < S.expires_at ∧ Live s₀ past S := by
    unfold sessionOpen is_expired
    rw [hsub, hfind, ← hlive, ← hrow.expires]
    simp only [Bool.and_eq_true, Option.isNone_iff_eq_none, Bool.not_eq_true', decide_eq_false_iff_not,
      not_le]
    exact And.comm
  constructor
  · rintro ⟨user, hu, _⟩
    obtain ⟨token', heq, hexp, hfindu, hactive, hsession⟩ := current_user_of_ok hu
    cases heq
    obtain ⟨hunexpired, hl⟩ := hopen.mp (hsession S.id hsid)
    exact ⟨⟨user, hsub ▸ hfindu, hactive⟩, hexp, hunexpired, hl⟩
  · rintro ⟨⟨user, hu, hactive⟩, hexp, hunexpired, hl⟩
    have hso := hopen.mpr ⟨hunexpired, hl⟩
    refine ⟨user, ?_, user_id_of_find hu⟩
    unfold get_current_user jwt_decode
    rw [← hsub] at hu
    simp only [hexp, if_true, hu, hactive, hsid, hso]

/-- `/auth/refresh` exchanges the token of a live session. -/
theorem refresh_iff (hinj : InjectiveHash) {e : Env} (hlimit : e.retry_after = none) :
    Accepted (handle e (.auth (.refresh (some S.raw))) s).1 ↔
      ActiveUser s S.user_id ∧ e.clock 1 < S.expires_at ∧ Live s₀ past S := by
  have ho := auth_outcome e (.refresh (some S.raw)) s
  generalize (handle e (.auth (.refresh (some S.raw))) s).1 = reply at ho ⊢
  generalize (handle e (.auth (.refresh (some S.raw))) s).2 = s' at ho
  have hrowOf : ∀ row, findRefreshToken S.raw s = some row → row ∈ s.refresh_tokens ∧ RowOf row S :=
    fun row hr => ⟨(find?_mem hr).1, (h.found hinj hr hS).mp rfl⟩
  cases ho with
  | refresh_limited _ _ hl =>
    rw [hlimit] at hl
    cases hl
  | refresh_absent _ _ hr =>
    have hne := h.raws S hS
    simp [presentCookie, hne] at hr
  | refresh_unknown _ _ hr => exact absurd rfl (h.not_found hr hS)
  | refresh_orphan _ _ row hr hu =>
    obtain ⟨hm, hrow⟩ := hrowOf row hr
    have := h.users S hS
    rw [← hrow.user, hu] at this
    cases this
  | refresh_replayed _ error row _ hr hrevoked =>
    obtain ⟨hm, hrow⟩ := hrowOf row hr
    refine ⟨fun hok => absurd hok (not_accepted _), ?_⟩
    rintro ⟨_, _, hl⟩
    rw [(h.live S hS row hm hrow).mpr hl] at hrevoked
    cases hrevoked
  | refresh_ended _ error row user _ hr hopen hu hend =>
    obtain ⟨hm, hrow⟩ := hrowOf row hr
    refine ⟨fun hok => absurd hok (not_accepted _), ?_⟩
    rintro ⟨⟨user', hu', hactive⟩, hunexpired, _⟩
    rw [hrow.user, hu'] at hu
    cases hu
    rcases hend with hexpired | hinactive
    · rw [hrow.expires] at hexpired
      omega
    · rw [hactive] at hinactive
      cases hinactive
  | refreshed _ row user _ hr hopen hu hunexpired hactive =>
    obtain ⟨hm, hrow⟩ := hrowOf row hr
    refine ⟨fun _ => ⟨⟨user, hrow.user ▸ hu, hactive⟩, hrow.expires ▸ hunexpired, ?_⟩,
      fun _ => ⟨_, rfl⟩⟩
    exact (h.live S hS row hm hrow).mp hopen

/-- `list_sessions` shows the live sessions of the user. -/
theorem list_iff {e : Env} {credentials : Option Bearer} {user : User}
    (hu : get_current_user credentials e.now s = .ok user) (hid : user.id = S.user_id) :
    ∃ l, (handle e (.auth (.list_sessions credentials)) s).1 = .ok (.sessions l) ∧
      ((∃ x ∈ l, x.id = S.id) ↔ e.clock 1 < S.expires_at ∧ Live s₀ past S) := by
  obtain ⟨r, hr, hrow, hlive⟩ := session_row h hS
  have hends : Ends (handler e (.auth (.list_sessions credentials))) ⟨s, s⟩ fun reply _ =>
      reply = .ok (.sessions ((orderDesc RefreshToken.created_at
        (openSessions user.id (e.clock 1) s)).map RefreshToken.response)) := by
    show Ends (answer _ (list_sessions e credentials)) _ _
    simp only [list_sessions, ends_answer, ends_bind, ends_ask, hu, ends_select, Except.map]
  refine ⟨_, hends, ?_⟩
  rw [← hlive, ← hrow.expires]
  constructor
  · rintro ⟨x, hx, hxid⟩
    obtain ⟨a, ha, rfl⟩ := List.mem_map.mp hx
    have ha := (List.perm_insertionSort _ _).mem_iff.mp ha
    obtain ⟨ham, hp⟩ := List.mem_filter.mp ha
    have hxid : a.id = S.id := hxid
    have hsame : a = r := h.ids.eq ham hr (hxid.trans hrow.id.symm)
    subst hsame
    simp only [Bool.and_eq_true, decide_eq_true_eq, Option.isNone_iff_eq_none] at hp
    exact ⟨hp.2, hp.1.2⟩
  · rintro ⟨hunexpired, hopen⟩
    refine ⟨r.response, List.mem_map.mpr ⟨r, ?_, rfl⟩, hrow.id⟩
    refine (List.perm_insertionSort _ _).mem_iff.mpr (List.mem_filter.mpr ⟨hr, ?_⟩)
    simp [hrow.user, hid, hopen, hunexpired]

end

/-- The checks of the code accept a session as long as its history has not
ended it, its user is active and it has not expired. -/
theorem a_session_lives_until_its_history_ends_it (hinj : InjectiveHash) (s₀ : Store)
    (h₀ : s₀.refresh_tokens = []) (past : List AuthStep) (hf : FreshDraws s₀ past)
    (S : IssuedSession) (hS : Created s₀ past S) :
    (∀ token t, token.sub = S.user_id → token.sid = some S.id →
      ((∃ user, get_current_user (some (.signed token)) t (run.after proceed s₀ past) = .ok user ∧
          user.id = S.user_id) ↔
        ActiveUser (run.after proceed s₀ past) S.user_id ∧ t < token.exp ∧ t < S.expires_at ∧
          Live s₀ past S)) ∧
    (∀ e, e.retry_after = none →
      (Accepted (reply s₀ past e (.refresh (some S.raw))) ↔
        ActiveUser (run.after proceed s₀ past) S.user_id ∧ e.clock 1 < S.expires_at ∧
          Live s₀ past S)) ∧
    (∀ e credentials user,
      get_current_user credentials e.now (run.after proceed s₀ past) = .ok user →
      user.id = S.user_id →
        ∃ l, reply s₀ past e (.list_sessions credentials) = .ok (.sessions l) ∧
          ((∃ x ∈ l, x.id = S.id) ↔ e.clock 1 < S.expires_at ∧ Live s₀ past S)) := by
  have h := faithful_run hinj h₀ past hf
  exact ⟨fun _ t hsub hsid => access_token_iff h hS hsub hsid t,
    fun _ hlimit => refresh_iff h hS hinj hlimit, fun _ _ _ hu hid => list_iff h hS hu hid⟩

/-- The session of the first login of the sample user. -/
def sampleSession : IssuedSession where
  id := 10
  user_id := 0
  raw := (sampleEnv 1).secret
  expires_at := @refresh_expires_at samplePlatform SECOND

def sampleLogins : List AuthStep :=
  [.request (sampleEnv 1) (.login sampleLogin), .request (sampleEnv 0) (.register sampleUser)]

omit [Platform] in
/-- A login and then a refresh with its token: the refresh is answered. -/
theorem a_new_session_is_exchanged :
    Accepted (@reply samplePlatform Store.empty sampleLogins (sampleEnv 2)
      (.refresh (some sampleSession.raw))) := by
  have hinj : @InjectiveHash samplePlatform := fun a b h => (List.cons.inj h).2
  have hissued : @issuedBy samplePlatform (sampleEnv 1) (@reply samplePlatform Store.empty
      [.request (sampleEnv 0) (.register sampleUser)] (sampleEnv 1) (.login sampleLogin)) =
        some sampleSession := by decide +kernel
  have hfresh : @FreshDraws samplePlatform Store.empty sampleLogins := by decide +kernel
  have hactive : ActiveUser (run.after (@proceed samplePlatform) Store.empty sampleLogins) 0 :=
    ⟨@new_user samplePlatform (sampleEnv 0) sampleUser, by decide +kernel, rfl⟩
  exact ((@a_session_lives_until_its_history_ends_it samplePlatform hinj Store.empty rfl sampleLogins
    hfresh sampleSession (Or.inl hissued)).2.1 (sampleEnv 2) rfl).mpr
      ⟨hactive, by decide +kernel, Or.inl hissued⟩

end pulseforge

-- Families of sessions: a login with its rotations. A family ends for a cause
-- of its own, unless a refresh with a token that was revoked before, for
-- whatever reason, meets it.
import PulseForge.SessionHistory

open txn table

namespace pulseforge

variable [Platform]

/-! ## Families and their ends -/

/-- How a new session comes to the family of the login session `L`. -/
def Enters (family : IssuedSession → Prop) (L S : IssuedSession) : AuthRequest → Prop
  | .login _ => L = S
  | .refresh (some raw) => ∃ T, family T ∧ T.raw = raw
  | _ => False

/-- The causes that end a session by itself: its own expiry, a logout with its
token, a request to revoke it, or one that revokes all sessions of its user. -/
def EndCause (before : Store) (e : Env) (reply : Except Failure Body) (S : IssuedSession)
    (r : AuthRequest) : Prop :=
  S.expires_at ≤ e.clock 1 ∨
    match r with
    | .logout (some raw) => raw = S.raw
    | .revoke_session credentials session_id =>
      Accepted reply ∧ By credentials S.user_id ∧ session_id = S.id
    | .logout_all credentials => Accepted reply ∧ By credentials S.user_id
    | .change_password credentials _ => Accepted reply ∧ By credentials S.user_id
    | .reset_password payload => Accepted reply ∧ resetUser payload.token before = some S.user_id
    | _ => False

section
variable (s₀ : Store)

/-- The session is the login session `L`, or comes from it by rotations. -/
def Family : List AuthStep → IssuedSession → IssuedSession → Prop
  | [], _, _ => False
  | .request e r :: past, L, S =>
    Family past L S ∨ issuedBy e (reply s₀ past e r) = some S ∧ Enters (Family past L) L S r
  | .set_active _ _ :: past, L, S => Family past L S

/-- Whenever a family stops having a live session, the session that ended did
so for a cause of its own. -/
def EndsForACause : List AuthStep → Prop
  | [] => True
  | .request e r :: past => EndsForACause past ∧
      ∀ L S, Family s₀ past L S → Live s₀ past S →
        (∀ T, Family s₀ (.request e r :: past) L T → ¬ Live s₀ (.request e r :: past) T) →
          EndCause (run.after proceed s₀ past) e (reply s₀ past e r) S r
  | .set_active _ _ :: past => EndsForACause past

end

/-- A refresh with a revoked token meets no session of its user that is open
and has not expired. -/
def NoAlarm (s : Store) : AuthStep → Prop
  | .request e (.refresh (some raw)) => e.retry_after = none →
      ∀ row, findRefreshToken raw s = some row → row.revoked_at.isSome = true →
        ∀ r ∈ s.refresh_tokens, r.user_id = row.user_id → r.revoked_at = none →
          r.expires_at ≤ e.clock 1
  | _ => True

/-! ## What issues a session -/

theorem created_of_live {s₀ : Store} {past : List AuthStep} {S : IssuedSession}
    (h : Live s₀ past S) : Created s₀ past S := by
  induction past with
  | nil => exact h
  | cons step past ih =>
    cases step with
    | request e r => exact h.imp_right fun hlive => ih hlive.1
    | set_active => exact ih h

theorem created_of_family {s₀ : Store} {past : List AuthStep} {L S : IssuedSession}
    (h : Family s₀ past L S) : Created s₀ past S := by
  induction past with
  | nil => exact h
  | cons step past ih =>
    cases step with
    | request e r =>
      rcases h with h | ⟨h, _⟩
      · exact Or.inr (ih h)
      · exact Or.inl h
    | set_active => exact ih h

section
variable {s₀ : Store} {past : List AuthStep} (h : Faithful s₀ past (run.after proceed s₀ past))
  (hinj : InjectiveHash) {e : Env}
include h hinj

/-- A session is issued to a login, or to a refresh with the token of a live
session of the same user. -/
theorem issued_cases {r : AuthRequest} {S : IssuedSession}
    (hS : issuedBy e (reply s₀ past e r) = some S) :
    (∃ payload, r = .login payload) ∨
      ∃ T, r = .refresh (some T.raw) ∧ Live s₀ past T ∧ S.user_id = T.user_id := by
  have ho := auth_outcome e r (run.after proceed s₀ past)
  unfold reply at hS
  generalize (handle e (.auth r) (run.after proceed s₀ past)).1 = answer at ho hS
  generalize (handle e (.auth r) (run.after proceed s₀ past)).2 = s' at ho
  cases ho with
  | signed_in payload => exact Or.inl ⟨payload, rfl⟩
  | refreshed raw stored user _ hr hopen hu =>
    obtain ⟨hstored, _⟩ := find?_mem hr
    obtain ⟨T, hT, hrow⟩ := h.of_row stored hstored
    have hraw := (h.found hinj hr hT).mpr hrow
    have huser : user.id = T.user_id := (user_id_of_find hu).trans hrow.user
    cases hS
    exact Or.inr ⟨T, by rw [hraw], (h.live T hT stored hstored hrow).mp hopen, huser⟩
  | _ => cases hS

omit h hinj in
/-- The token of a new session is the one that its request drew. -/
theorem issued_raw {r : AuthRequest} {S : IssuedSession}
    (hS : issuedBy e (reply s₀ past e r) = some S) : S.raw = e.secret := by
  have ho := auth_outcome e r (run.after proceed s₀ past)
  unfold reply at hS
  generalize (handle e (.auth r) (run.after proceed s₀ past)).1 = answer at ho hS
  generalize (handle e (.auth r) (run.after proceed s₀ past)).2 = s' at ho
  cases ho with
  | signed_in =>
    cases hS
    rfl
  | refreshed =>
    cases hS
    rfl
  | _ => cases hS

omit h hinj in
/-- An answered refresh issues a session. -/
theorem issued_of_accepted {raw : Text} (hok : Accepted (reply s₀ past e (.refresh (some raw)))) :
    ∃ S, issuedBy e (reply s₀ past e (.refresh (some raw))) = some S := by
  have ho := auth_outcome e (.refresh (some raw)) (run.after proceed s₀ past)
  unfold reply at hok ⊢
  generalize (handle e (.auth (.refresh (some raw))) (run.after proceed s₀ past)).1 = answer at ho hok ⊢
  generalize (handle e (.auth (.refresh (some raw))) (run.after proceed s₀ past)).2 = s' at ho
  cases ho with
  | refreshed => exact ⟨_, rfl⟩
  | _ => exact absurd hok (not_accepted _)

omit hinj in
/-- Two created sessions with one token are one session. -/
theorem raw_unique {S T : IssuedSession} (hS : Created s₀ past S) (hT : Created s₀ past T)
    (hraw : S.raw = T.raw) : S = T := by
  obtain ⟨r, hr, hrS⟩ := h.row_of S hS
  obtain ⟨r', hr', hrT⟩ := h.row_of T hT
  have hsame : r = r' := by
    refine h.hashes.eq hr hr' ?_
    rw [hrS.hash, hrT.hash, hraw]
  subst hsame
  cases S
  cases T
  simp only [IssuedSession.mk.injEq]
  exact ⟨hrS.id.symm.trans hrT.id, hrS.user.symm.trans hrT.user, hraw,
    hrS.expires.symm.trans hrT.expires⟩

end

/-! ## The members of a family -/

section
variable {s₀ : Store} (hinj : InjectiveHash) (h₀ : s₀.refresh_tokens = [])
include hinj h₀

/-- A family belongs to one user. -/
theorem family_user {past : List AuthStep} (hf : FreshDraws s₀ past) {L S : IssuedSession}
    (h : Family s₀ past L S) : S.user_id = L.user_id := by
  induction past generalizing S with
  | nil => exact h.elim
  | cons step past ih =>
    cases step with
    | set_active => exact ih hf h
    | request e r =>
      rcases h with h | ⟨hS, henters⟩
      · exact ih hf.1 h
      · have hfaith := faithful_run hinj h₀ past hf.1
        rcases issued_cases hfaith hinj hS with ⟨payload, rfl⟩ | ⟨T, rfl, hlive, huser⟩
        · have henters : L = S := henters
          rw [henters]
        · obtain ⟨T', hT', hraw⟩ := henters
          have hsame := raw_unique hfaith (created_of_family hT') (created_of_live hlive) hraw
          rw [huser, ← hsame]
          exact ih hf.1 hT'

/-- Every session is in the family of some login. -/
theorem family_of_created {past : List AuthStep} (hf : FreshDraws s₀ past) {S : IssuedSession}
    (h : Created s₀ past S) : ∃ L, Family s₀ past L S := by
  induction past generalizing S with
  | nil => exact h.elim
  | cons step past ih =>
    cases step with
    | set_active => exact ih hf h
    | request e r =>
      rcases h with hS | h
      · have hfaith := faithful_run hinj h₀ past hf.1
        rcases issued_cases hfaith hinj hS with ⟨payload, rfl⟩ | ⟨T, rfl, hlive, _⟩
        · exact ⟨S, Or.inr ⟨hS, rfl⟩⟩
        · obtain ⟨L, hL⟩ := ih hf.1 (created_of_live hlive)
          exact ⟨L, Or.inr ⟨hS, T, hL, rfl⟩⟩
      · obtain ⟨L, hL⟩ := ih hf.1 h
        exact ⟨L, Or.inl hL⟩

end

/-! ## Accounts stay active -/

def AllActive (s : Store) : Prop := ∀ u ∈ s.users, u.is_active = true

omit [Platform] in
theorem AllActive.update {s : Store} (h : AllActive s) {p : User → Bool} {f : User → User}
    (hf : ∀ u, (f u).is_active = u.is_active) (s' : Store) (hs' : s'.users = updateWhere p f s.users) :
    AllActive s' := by
  unfold AllActive
  rw [hs']
  refine forall_updateWhere h fun u hu _ => ?_
  rw [hf u]
  exact h u hu

theorem auth_active {e : Env} {r : AuthRequest} {s s' : Store} {reply : Except Failure Body}
    (ho : AuthOutcome e s r reply s') (h : AllActive s) : AllActive s' := by
  cases ho with
  | registered payload => exact forall_insert h rfl
  | password_changed =>
    refine h.update ?_ _ rfl
    exact fun _ => rfl
  | password_reset =>
    refine h.update ?_ _ rfl
    exact fun _ => rfl
  | _ => exact h

/-! ## The step -/

section
variable {s₀ : Store} {past : List AuthStep} (h : Faithful s₀ past (run.after proceed s₀ past))
  (hinj : InjectiveHash) {e : Env}
include h hinj

/-- A refresh with the token of a session that is not live ends the live
sessions of the user, and issues none. -/
theorem alarm_of_dead {T : IssuedSession} (hT : Created s₀ past T) (hdead : ¬ Live s₀ past T)
    (hlimit : e.retry_after = none) {S : IssuedSession} (huser : S.user_id = T.user_id) :
    ¬ Live s₀ (.request e (.refresh (some T.raw)) :: past) S := by
  rintro (hS | ⟨_, hkept⟩)
  · rcases issued_cases h hinj hS with ⟨_, heq⟩ | ⟨T', heq, hlive, _⟩
    · cases heq
    · have hraw : T.raw = T'.raw := by simpa using heq
      rw [raw_unique h hT (created_of_live hlive) hraw] at hdead
      exact hdead hlive
  · exact hkept (Or.inr (Or.inr ⟨hlimit, T, hT, huser.symm, rfl, hdead⟩))

/-- The alarm condition on the tables, as the history tells it. -/
theorem noAlarm_iff {raw : Text} :
    NoAlarm (run.after proceed s₀ past) (.request e (.refresh (some raw))) ↔
      (e.retry_after = none → ∀ T, Created s₀ past T → T.raw = raw → ¬ Live s₀ past T →
        ∀ S, Live s₀ past S → S.user_id = T.user_id → S.expires_at ≤ e.clock 1) := by
  constructor
  · rintro hquiet hlimit T hT rfl hdead S hS huser
    obtain ⟨row, hrow, hrowT, hlive⟩ := session_row h hT
    obtain ⟨r, hr, hrS, hliveS⟩ := session_row h (created_of_live hS)
    have hfind : findRefreshToken T.raw (run.after proceed s₀ past) = some row := by
      refine find?_eq_of_unique hrow (by simp [hrowT.hash]) fun a ha hp => ?_
      exact h.hashes.eq ha hrow ((of_decide_eq_true hp).trans hrowT.hash.symm)
    have hrevoked : row.revoked_at.isSome = true := by
      rw [Option.isSome_iff_ne_none]
      exact fun hnone => hdead (hlive.mp hnone)
    rw [← hrS.expires]
    refine hquiet hlimit row hfind hrevoked r hr ?_ (hliveS.mpr hS)
    rw [hrS.user, hrowT.user, huser]
  · intro hquiet hlimit row hfind hrevoked r hr huser hopen
    obtain ⟨hrow, _⟩ := find?_mem hfind
    obtain ⟨T, hT, hrowT⟩ := h.of_row row hrow
    obtain ⟨S, hS, hrS⟩ := h.of_row r hr
    rw [hrS.expires]
    refine hquiet hlimit T hT ((h.found hinj hfind hT).mpr hrowT) ?_ S ((h.live S hS r hr hrS).mp hopen)
      (by rw [← hrS.user, huser, hrowT.user])
    intro hlive
    rw [(h.live T hT row hrow hrowT).mpr hlive] at hrevoked
    cases hrevoked

end

section
variable {s₀ : Store} (hinj : InjectiveHash) (h₀ : s₀.refresh_tokens = []) {past : List AuthStep}
  (hf : FreshDraws s₀ past) {e : Env} {r : AuthRequest}
include hinj h₀ hf

/-- A family that stops having a live session does so for a cause, unless an
alarm ended the session. -/
theorem cause_of_noAlarm (hactive : AllActive (run.after proceed s₀ past))
    (hquiet : NoAlarm (run.after proceed s₀ past) (.request e r)) {L S : IssuedSession}
    (hL : Family s₀ past L S) (hS : Live s₀ past S)
    (hstops : ∀ T, Family s₀ (.request e r :: past) L T → ¬ Live s₀ (.request e r :: past) T) :
    EndCause (run.after proceed s₀ past) e (reply s₀ past e r) S r := by
  have h := faithful_run hinj h₀ past hf
  have hended : EndsSession (run.after proceed s₀ past) (Created s₀ past) (Live s₀ past) e
      (reply s₀ past e r) S r := by
    by_contra hkept
    exact hstops S (Or.inl hL) (Or.inr ⟨hS, hkept⟩)
  cases r with
  | refresh raw =>
    cases raw with
    | none => exact hended.elim
    | some raw =>
      rcases hended with ⟨rfl, hok⟩ | ⟨_, _, hexpired | hinactive⟩ | ⟨hlimit, T, hT, huser, hraw, hdead⟩
      · -- The rotation goes on in the same family.
        obtain ⟨T, hT⟩ := issued_of_accepted hok
        exact absurd (Or.inl hT) (hstops T (Or.inr ⟨hT, S, hL, rfl⟩))
      · exact Or.inl hexpired
      · obtain ⟨user, hu⟩ := Option.isSome_iff_exists.mp (h.users S (created_of_live hS))
        exact absurd ⟨user, hu, hactive user (find?_mem hu).1⟩ hinactive
      · exact Or.inl ((noAlarm_iff h hinj).mp hquiet hlimit T hT hraw hdead S hS huser.symm)
  | logout raw =>
    cases raw with
    | none => exact hended.elim
    | some raw => exact Or.inr hended
  | revoke_session credentials session_id => exact Or.inr hended
  | logout_all credentials => exact Or.inr hended
  | change_password credentials payload => exact Or.inr hended
  | reset_password payload => exact Or.inr hended
  | _ => exact hended.elim

/-- An alarm that meets a session ends its family without a cause. -/
theorem noAlarm_of_cause
    (hcause : ∀ L S, Family s₀ past L S → Live s₀ past S →
      (∀ T, Family s₀ (.request e r :: past) L T → ¬ Live s₀ (.request e r :: past) T) →
        EndCause (run.after proceed s₀ past) e (reply s₀ past e r) S r) :
    NoAlarm (run.after proceed s₀ past) (.request e r) := by
  have h := faithful_run hinj h₀ past hf
  cases r with
  | refresh raw =>
    cases raw with
    | none => trivial
    | some raw =>
      rw [noAlarm_iff h hinj]
      rintro hlimit T hT rfl hdead S hS huser
      obtain ⟨L, hL⟩ := family_of_created hinj h₀ hf (created_of_live hS)
      have hstops : ∀ T', Family s₀ (.request e (.refresh (some T.raw)) :: past) L T' →
          ¬ Live s₀ (.request e (.refresh (some T.raw)) :: past) T' := by
        rintro T' (hT' | ⟨hT', henters⟩)
        · refine alarm_of_dead h hinj hT hdead hlimit ?_
          rw [family_user hinj h₀ hf hT', ← family_user hinj h₀ hf hL, huser]
        · rcases issued_cases h hinj hT' with ⟨_, heq⟩ | ⟨T₁, heq, hlive, _⟩
          · cases heq
          · have hraw : T.raw = T₁.raw := by simpa using heq
            rw [raw_unique h hT (created_of_live hlive) hraw] at hdead
            exact absurd hlive hdead
      rcases hcause L S hL hS hstops with hexpired | hother
      · exact hexpired
      · exact hother.elim
  | _ => trivial

end

/-! ## Runs of devices -/

/-- A request under /auth, and the device that sends it. -/
structure DeviceRequest where
  device : Nat
  env : Env
  request : AuthRequest

def DeviceRequest.step (c : DeviceRequest) : AuthStep := .request c.env c.request

def steps (past : List DeviceRequest) : List AuthStep := past.map DeviceRequest.step

/-- The newest refresh token that the device received. -/
def newestToken (s₀ : Store) (device : Nat) : List DeviceRequest → Option Text
  | [] => none
  | c :: past =>
    match issuedBy c.env (reply s₀ (steps past) c.env c.request) with
    | some S => if c.device = device then some S.raw else newestToken s₀ device past
    | none => newestToken s₀ device past

/-- Every device presents only the newest refresh token that it received. -/
def Honest (s₀ : Store) : List DeviceRequest → Prop
  | [] => True
  | c :: past => Honest s₀ past ∧
      ∀ raw, c.request = .refresh (some raw) → newestToken s₀ c.device past = some raw

theorem active_run {s₀ : Store} (hactive : AllActive s₀) (past : List DeviceRequest) :
    AllActive (run.after proceed s₀ (steps past)) := by
  induction past with
  | nil => exact hactive
  | cons c past ih => exact auth_active (auth_outcome c.env c.request _) ih

/-- In every run of devices, each end of a family has a cause of its own if
and only if no refresh with a revoked token meets an open session. -/
theorem families_end_for_a_cause_iff_no_alarm_meets_a_session (hinj : InjectiveHash) (s₀ : Store)
    (h₀ : s₀.refresh_tokens = []) (hactive : AllActive s₀) (past : List DeviceRequest)
    (hf : FreshDraws s₀ (steps past)) :
    EndsForACause s₀ (steps past) ↔ run.Every proceed s₀ NoAlarm (steps past) := by
  induction past with
  | nil => exact Iff.rfl
  | cons c past ih =>
    have ih := ih hf.1
    have hall := active_run hactive past
    constructor
    · rintro ⟨hends, hcause⟩
      exact ⟨ih.mp hends, noAlarm_of_cause hinj h₀ hf.1 hcause⟩
    · rintro ⟨hquiet, hlast⟩
      exact ⟨ih.mpr hquiet, fun _ _ hL hS hstops =>
        cause_of_noAlarm hinj h₀ hf.1 hall hlast hL hS hstops⟩

/-! ## Honest devices -/

/-- A request of the past exchanged the token for another one. -/
def Rotated (s₀ : Store) : List DeviceRequest → Text → Prop
  | [], _ => False
  | c :: past, raw => Rotated s₀ past raw ∨
      c.request = .refresh (some raw) ∧ Accepted (reply s₀ (steps past) c.env c.request)

theorem newestToken_of_issued {s₀ : Store} {c : DeviceRequest} {past : List DeviceRequest}
    {S : IssuedSession} (h : issuedBy c.env (reply s₀ (steps past) c.env c.request) = some S)
    (d : Nat) : newestToken s₀ d (c :: past) =
      if c.device = d then some S.raw else newestToken s₀ d past := by
  simp only [newestToken, h]

theorem newestToken_of_none {s₀ : Store} {c : DeviceRequest} {past : List DeviceRequest}
    (h : issuedBy c.env (reply s₀ (steps past) c.env c.request) = none) (d : Nat) :
    newestToken s₀ d (c :: past) = newestToken s₀ d past := by
  simp only [newestToken, h]

/-- The newest token of a device is the one of a session. -/
theorem created_of_newest {s₀ : Store} {past : List DeviceRequest} {d : Nat} {raw : Text}
    (h : newestToken s₀ d past = some raw) : ∃ S, Created s₀ (steps past) S ∧ S.raw = raw := by
  induction past with
  | nil => cases h
  | cons c past ih =>
    have hkept : newestToken s₀ d past = some raw →
        ∃ S, Created s₀ (steps (c :: past)) S ∧ S.raw = raw := by
      intro h
      obtain ⟨S, hS, hraw⟩ := ih h
      exact ⟨S, Or.inr hS, hraw⟩
    cases hissued : issuedBy c.env (reply s₀ (steps past) c.env c.request) with
    | none =>
      rw [newestToken_of_none hissued] at h
      exact hkept h
    | some S =>
      rw [newestToken_of_issued hissued] at h
      split at h
      · exact ⟨S, Or.inl hissued, Option.some.inj h⟩
      · exact hkept h

/-- Two devices never have the same newest token. -/
theorem device_of_newest {s₀ : Store} {past : List DeviceRequest} (hf : FreshDraws s₀ (steps past))
    {d d' : Nat} {raw : Text} (h : newestToken s₀ d past = some raw)
    (h' : newestToken s₀ d' past = some raw) : d = d' := by
  induction past with
  | nil => cases h
  | cons c past ih =>
    cases hissued : issuedBy c.env (reply s₀ (steps past) c.env c.request) with
    | none =>
      rw [newestToken_of_none hissued] at h h'
      exact ih hf.1 h h'
    | some S =>
      -- A token of the past is not the one that the request drew.
      have hnew : ∀ k, newestToken s₀ k past ≠ some S.raw := by
        intro k hk
        obtain ⟨T, hT, hraw⟩ := created_of_newest hk
        exact (hf.2.2 T hT).2 (hraw.trans (issued_raw hissued))
      rw [newestToken_of_issued hissued] at h h'
      by_cases hd : c.device = d
      · by_cases hd' : c.device = d'
        · rw [← hd, hd']
        · rw [if_pos hd] at h
          rw [if_neg hd', ← h] at h'
          exact absurd h' (hnew d')
      · rw [if_neg hd] at h
        by_cases hd' : c.device = d'
        · rw [if_pos hd'] at h'
          rw [← h'] at h
          exact absurd h (hnew d)
        · rw [if_neg hd'] at h'
          exact ih hf.1 h h'

section
variable {s₀ : Store} (hinj : InjectiveHash) (h₀ : s₀.refresh_tokens = [])
include hinj h₀

theorem created_of_rotated {past : List DeviceRequest} (hf : FreshDraws s₀ (steps past)) {raw : Text}
    (h : Rotated s₀ past raw) : ∃ S, Created s₀ (steps past) S ∧ S.raw = raw := by
  induction past with
  | nil => exact h.elim
  | cons c past ih =>
    rcases h with h | ⟨hrequest, hok⟩
    · obtain ⟨S, hS, hraw⟩ := ih hf.1 h
      exact ⟨S, Or.inr hS, hraw⟩
    · rw [hrequest] at hok
      obtain ⟨S, hS⟩ := issued_of_accepted hok
      rcases issued_cases (faithful_run hinj h₀ _ hf.1) hinj hS with ⟨_, heq⟩ | ⟨T, heq, hlive, _⟩
      · cases heq
      · exact ⟨T, Or.inr (created_of_live hlive), by simpa using heq.symm⟩

/-- The newest token of an honest device has not been exchanged. -/
theorem newest_not_rotated {past : List DeviceRequest} (hf : FreshDraws s₀ (steps past))
    (hh : Honest s₀ past) {d : Nat} {raw : Text} (h : newestToken s₀ d past = some raw) :
    ¬ Rotated s₀ past raw := by
  induction past generalizing d raw with
  | nil => exact id
  | cons c past ih =>
    cases hissued : issuedBy c.env (reply s₀ (steps past) c.env c.request) with
    | none =>
      rw [newestToken_of_none hissued] at h
      rintro (hrotated | ⟨hrequest, hok⟩)
      · exact ih hf.1 hh.1 h hrotated
      · rw [hrequest] at hok hissued
        obtain ⟨S, hS⟩ := issued_of_accepted hok
        rw [hissued] at hS
        cases hS
    | some S =>
      rw [newestToken_of_issued hissued] at h
      by_cases hd : c.device = d
      · -- The token is new, so nobody had it before.
        rw [if_pos hd] at h
        have hnew : ∀ T, Created s₀ (steps past) T → T.raw ≠ raw := by
          intro T hT
          rw [← Option.some.inj h, issued_raw hissued]
          exact (hf.2.2 T hT).2
        rintro (hrotated | ⟨hrequest, _⟩)
        · obtain ⟨T, hT, hraw⟩ := created_of_rotated hinj h₀ hf.1 hrotated
          exact hnew T hT hraw
        · obtain ⟨T, hT, hraw⟩ := created_of_newest (hh.2 raw hrequest)
          exact hnew T hT hraw
      · rw [if_neg hd] at h
        rintro (hrotated | ⟨hrequest, _⟩)
        · exact ih hf.1 hh.1 h hrotated
        · exact hd (device_of_newest hf.1 (hh.2 raw hrequest) h)

/-- An honest device never presents a token that was exchanged: what the
refresh takes for a replay is a token that was revoked otherwise. -/
theorem honest_refreshes_replay_nothing {c : DeviceRequest} {past : List DeviceRequest}
    (hf : FreshDraws s₀ (steps past)) (hh : Honest s₀ (c :: past)) {raw : Text}
    (hr : c.request = .refresh (some raw)) : ¬ Rotated s₀ past raw :=
  newest_not_rotated hinj h₀ hf hh.1 (hh.2 raw hr)

end

/-! ## Two devices -/

/-- The session of the second login of the sample user. -/
def secondSession : IssuedSession where
  id := 20
  user_id := 0
  raw := (sampleEnv 2).secret
  expires_at := @refresh_expires_at samplePlatform (2 * SECOND)

/-- Two devices of one user sign in, and the second one revokes the session of the first. -/
def revokedDevice : List DeviceRequest :=
  [⟨2, sampleEnv 3, .revoke_session (sampleBearer 0 2) 10⟩, ⟨2, sampleEnv 2, .login sampleLogin⟩,
   ⟨1, sampleEnv 1, .login sampleLogin⟩, ⟨1, sampleEnv 0, .register sampleUser⟩]

/-- The first device, which does not know of it, refreshes. -/
def revokedRefresh : DeviceRequest := ⟨1, sampleEnv 4, .refresh (some (sampleEnv 1).secret)⟩

omit [Platform] in
/-- The refresh of the revoked device ends the session of the device that revoked it. -/
theorem a_revoked_device_ends_the_session_of_another :
    @Honest samplePlatform Store.empty (revokedRefresh :: revokedDevice) ∧
      @FreshDraws samplePlatform Store.empty (steps (revokedRefresh :: revokedDevice)) ∧
      @Live samplePlatform Store.empty (steps revokedDevice) secondSession ∧
      ¬ @EndsForACause samplePlatform Store.empty (steps (revokedRefresh :: revokedDevice)) := by
  have hinj : @InjectiveHash samplePlatform := fun a b h => (List.cons.inj h).2
  have hfresh : @FreshDraws samplePlatform Store.empty (steps (revokedRefresh :: revokedDevice)) := by
    decide +kernel
  have hissued : @issuedBy samplePlatform (sampleEnv 2) (@reply samplePlatform Store.empty
      (steps (revokedDevice.drop 2)) (sampleEnv 2) (.login sampleLogin)) = some secondSession := by
    decide +kernel
  refine ⟨?_, hfresh, Or.inr ⟨Or.inl hissued, fun hends => absurd hends.2.2 (by decide)⟩, ?_⟩
  · refine ⟨⟨⟨⟨⟨trivial, ?_⟩, ?_⟩, ?_⟩, ?_⟩, ?_⟩
    · rintro raw ⟨⟩
    · rintro raw ⟨⟩
    · rintro raw ⟨⟩
    · rintro raw ⟨⟩
    · rintro raw ⟨⟩
      decide +kernel
  · rintro ⟨_, hcause⟩
    have hquiet := @noAlarm_of_cause samplePlatform Store.empty hinj rfl (steps revokedDevice)
      hfresh.1 _ _ hcause
    have hrevoked : (@findRefreshToken samplePlatform (sampleEnv 1).secret
        (run.after (@proceed samplePlatform) Store.empty (steps revokedDevice))).any
          (fun row => row.revoked_at.isSome && row.user_id = 0) = true := by decide +kernel
    have hopen : ∃ r ∈ (run.after (@proceed samplePlatform) Store.empty
        (steps revokedDevice)).refresh_tokens,
          r.user_id = 0 ∧ r.revoked_at = none ∧ 4 * SECOND < r.expires_at := by decide +kernel
    obtain ⟨row, hrow⟩ := Option.isSome_iff_exists.mp (Option.isSome_of_any hrevoked)
    rw [hrow, Option.any_some, Bool.and_eq_true, decide_eq_true_eq] at hrevoked
    obtain ⟨r, hr, huser, hopen, hexpires⟩ := hopen
    have hexpired := hquiet rfl row hrow hrevoked.1 r hr (huser.trans hrevoked.2.symm) hopen
    exact absurd hexpires (not_lt.mpr hexpired)

omit [Platform] in
/-- A device that refreshes while nobody has revoked its session is rotated,
and every family of the run that ends has a cause. -/
theorem two_devices_refresh_in_peace :
    @EndsForACause samplePlatform Store.empty
      (steps (revokedRefresh :: revokedDevice.drop 1)) := by
  have hinj : @InjectiveHash samplePlatform := fun a b h => (List.cons.inj h).2
  refine (@families_end_for_a_cause_iff_no_alarm_meets_a_session samplePlatform hinj Store.empty rfl
    (fun _ hu => absurd hu List.not_mem_nil) _ (by decide +kernel)).mpr ?_
  refine ⟨⟨⟨⟨trivial, trivial⟩, trivial⟩, trivial⟩, ?_⟩
  have hopen : (@findRefreshToken samplePlatform (sampleEnv 1).secret (run.after (@proceed samplePlatform)
      Store.empty (steps (revokedDevice.drop 1)))).all (fun row => row.revoked_at.isNone) = true := by
    decide +kernel
  intro _ row hrow hrevoked
  unfold steps at hopen
  rw [hrow, Option.all_some, Option.isNone_iff_eq_none] at hopen
  rw [hopen] at hrevoked
  cases hrevoked

end pulseforge

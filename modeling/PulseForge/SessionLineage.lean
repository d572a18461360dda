-- Signing a device out. A session has no link to the one that it was exchanged
-- for, so a revocation of an exchanged session changes nothing: the device is
-- signed out exactly when no later session of its line is active.
import PulseForge.SessionFamilies

open txn table

namespace pulseforge

variable [Platform]

/-! ## Lines of sessions -/

section
variable (s₀ : Store)

/-- The session is `S`, or comes from it by exchanges of refresh tokens. -/
def InLine : List AuthStep → IssuedSession → IssuedSession → Prop
  | [], _, _ => False
  | .request e r :: past, S, T =>
    InLine past S T ∨ issuedBy e (reply s₀ past e r) = some T ∧
      (T = S ∨ ∃ U, InLine past S U ∧ r = .refresh (some U.raw))
  | .set_active _ _ :: past, S, T => InLine past S T

/-- The session is neither revoked nor expired. -/
def ActiveAt (past : List AuthStep) (now : Int) (S : IssuedSession) : Prop :=
  Live s₀ past S ∧ now < S.expires_at

/-- The request revokes the session by its id or with its token, and is answered. -/
def RevokesSession (reply : Except Failure Body) (S : IssuedSession) : AuthRequest → Prop
  | .revoke_session credentials session_id =>
    Accepted reply ∧ By credentials S.user_id ∧ session_id = S.id
  | .logout (some raw) => Accepted reply ∧ raw = S.raw
  | _ => False

/-- The requests read the clock at this time or later. -/
def ReadFrom (t : Int) (later : List AuthStep) : Prop :=
  ∀ e r, AuthStep.request e r ∈ later → ∀ k, t ≤ e.clock k

/-- After the request, whatever comes later, no session of the line is active. -/
def SignsOut (past : List AuthStep) (e : Env) (r : AuthRequest) (S : IssuedSession) : Prop :=
  ∀ later, FreshDraws s₀ (later ++ .request e r :: past) → ReadFrom e.now later →
    ∀ now, e.now ≤ now → ∀ T, InLine s₀ (later ++ .request e r :: past) S T →
      ¬ ActiveAt s₀ (later ++ .request e r :: past) now T

end

/-! ## One step of a line -/

theorem created_of_inLine {s₀ : Store} {past : List AuthStep} {S T : IssuedSession}
    (h : InLine s₀ past S T) : Created s₀ past T := by
  induction past with
  | nil => exact h
  | cons step past ih =>
    cases step with
    | request e r =>
      rcases h with h | ⟨h, _⟩
      · exact Or.inr (ih h)
      · exact Or.inl h
    | set_active => exact ih h

/-- The first session of a line was issued before. -/
theorem created_of_line {s₀ : Store} {past : List AuthStep} {S T : IssuedSession}
    (h : InLine s₀ past S T) : Created s₀ past S := by
  induction past generalizing T with
  | nil => exact h
  | cons step past ih =>
    cases step with
    | request e r =>
      rcases h with h | ⟨h, rfl | ⟨U, hU, _⟩⟩
      · exact Or.inr (ih h)
      · exact Or.inl h
      · exact Or.inr (ih hU)
    | set_active => exact ih h

theorem accepted_of_issued {e : Env} {reply : Except Failure Body} {S : IssuedSession}
    (h : issuedBy e reply = some S) : Accepted reply := by
  cases reply with
  | ok body => exact ⟨body, rfl⟩
  | error failure => cases h

omit [Platform] in
theorem accepted_of_isOk {reply : Except Failure Body} (h : reply.isOk = true) : Accepted reply := by
  cases reply with
  | ok body => exact ⟨body, rfl⟩
  | error failure => cases h

section
variable {s₀ : Store} {past : List AuthStep} {e : Env} {r : AuthRequest} {S T : IssuedSession}

/-- A session of the past is not issued again. -/
theorem not_issued_again (hf : FreshDraws s₀ (.request e r :: past)) (hS : Created s₀ past S) :
    issuedBy e (reply s₀ past e r) ≠ some S := by
  intro hissued
  exact (hf.2.2 S hS).2 (issued_raw hissued)

/-- A live session of the past was live before. -/
theorem live_before (hf : FreshDraws s₀ (.request e r :: past)) (hS : Created s₀ past S)
    (h : Live s₀ (.request e r :: past) S) : Live s₀ past S ∧
      ¬ EndsSession (run.after proceed s₀ past) (Created s₀ past) (Live s₀ past) e
        (reply s₀ past e r) S r := by
  rcases h with hissued | h
  · exact absurd hissued (not_issued_again hf hS)
  · exact h

/-- A live session has not been exchanged. -/
theorem line_of_live (hf : FreshDraws s₀ past) (hlive : Live s₀ past S) (h : InLine s₀ past S T) :
    T = S := by
  induction past generalizing T with
  | nil => exact h.elim
  | cons step past ih =>
    cases step with
    | set_active => exact ih hf hlive h
    | request e r =>
      rcases h with h | ⟨hissued, rfl | ⟨U, hU, rfl⟩⟩
      · exact ih hf.1 (live_before hf (created_of_line h) hlive).1 h
      · rfl
      · obtain ⟨hbefore, hkept⟩ := live_before hf (created_of_line hU) hlive
        have hsame := ih hf.1 hbefore hU
        exact absurd (Or.inl ⟨by rw [hsame], accepted_of_issued hissued⟩) hkept

variable (hinj : InjectiveHash) (h₀ : s₀.refresh_tokens = [])
include hinj h₀

/-- A token that is exchanged is that of a live session that has not expired. -/
theorem exchanged_session (hf : FreshDraws s₀ past) {U : IssuedSession} (hU : Created s₀ past U)
    (hissued : issuedBy e (reply s₀ past e (.refresh (some U.raw))) = some T) :
    ActiveAt s₀ past (e.clock 1) U := by
  have h := faithful_run hinj h₀ past hf
  have ho := auth_outcome e (.refresh (some U.raw)) (run.after proceed s₀ past)
  unfold reply at hissued
  generalize (handle e (.auth (.refresh (some U.raw))) (run.after proceed s₀ past)).1 = answer
    at ho hissued
  generalize (handle e (.auth (.refresh (some U.raw))) (run.after proceed s₀ past)).2 = s' at ho
  cases ho with
  | refreshed _ row user _ hr hopen hu hunexpired hactive =>
    have hrow := (h.found hinj hr hU).mp rfl
    exact ⟨(h.live U hU row (find?_mem hr).1 hrow).mp hopen, hrow.expires ▸ hunexpired⟩
  | _ => cases hissued

/-- As long as every live session of a line has expired, the line gets no new one. -/
theorem expired_line (hf : FreshDraws s₀ (.request e r :: past)) (hS : Created s₀ past S) {t : Int}
    (hlate : ∀ k, t ≤ e.clock k)
    (h : ∀ T, InLine s₀ past S T → Live s₀ past T → T.expires_at ≤ t)
    (hT : InLine s₀ (.request e r :: past) S T) (hlive : Live s₀ (.request e r :: past) T) :
    T.expires_at ≤ t := by
  rcases hT with hT | ⟨hissued, rfl | ⟨U, hU, rfl⟩⟩
  · exact h T hT (live_before hf (created_of_inLine hT) hlive).1
  · exact absurd hissued (not_issued_again hf hS)
  · obtain ⟨hopen, hunexpired⟩ := exchanged_session hinj h₀ hf.1 (created_of_inLine hU) hissued
    exact absurd (hunexpired.trans_le (h U hU hopen)) (not_lt.mpr (hlate 1))

theorem expired_from (hS : Created s₀ past S) {t : Int}
    (h : ∀ T, InLine s₀ past S T → Live s₀ past T → T.expires_at ≤ t) {later : List AuthStep}
    (hlater : FreshDraws s₀ (later ++ past)) (hlate : ReadFrom t later) :
    Created s₀ (later ++ past) S ∧
      ∀ T, InLine s₀ (later ++ past) S T → Live s₀ (later ++ past) T → T.expires_at ≤ t := by
  induction later with
  | nil => exact ⟨hS, h⟩
  | cons step later ih =>
    have hrest : ReadFrom t later := fun e r hr => hlate e r (List.mem_cons_of_mem _ hr)
    cases step with
    | set_active => exact ih hlater hrest
    | request e r =>
      obtain ⟨hcreated, hexpired⟩ := ih hlater.1 hrest
      exact ⟨Or.inr hcreated, fun T hT hlive =>
        expired_line hinj h₀ hlater hcreated (hlate e r List.mem_cons_self) hexpired hT hlive⟩

end

/-! ## Signing a device out -/

/-- A revocation issues nothing and ends its session. -/
theorem RevokesSession.ends {before : Store} {created live : IssuedSession → Prop} {e : Env} {r : AuthRequest}
    {reply : Except Failure Body} {S : IssuedSession} (h : RevokesSession reply S r) :
    EndsSession before created live e reply S r := by
  cases r with
  | revoke_session => exact h
  | logout raw =>
    cases raw with
    | none => exact h
    | some raw => exact h.2
  | _ => exact h.elim

/-- Two sessions with one id are one session. -/
theorem id_unique {s₀ : Store} {past : List AuthStep} (h : Faithful s₀ past (run.after proceed s₀ past))
    (hinj : InjectiveHash) {S T : IssuedSession} (hS : Created s₀ past S) (hT : Created s₀ past T)
    (hid : S.id = T.id) : S = T := by
  obtain ⟨r, hr, hrS⟩ := h.row_of S hS
  obtain ⟨r', hr', hrT⟩ := h.row_of T hT
  have hsame : r = r' := h.ids.eq hr hr' (hrS.id.trans (hid.trans hrT.id.symm))
  subst hsame
  exact raw_unique h hS hT (hinj _ _ (hrS.hash.symm.trans hrT.hash))

/-- A revocation ends no other session. -/
theorem RevokesSession.same {s₀ : Store} {past : List AuthStep} {before : Store}
    {created live : IssuedSession → Prop} {e : Env} {r : AuthRequest} {reply : Except Failure Body}
    {S T : IssuedSession} (h : RevokesSession reply S r)
    (hfaith : Faithful s₀ past (run.after proceed s₀ past)) (hinj : InjectiveHash)
    (hT : Created s₀ past T) (hS : Created s₀ past S)
    (hends : EndsSession before created live e reply T r) : T = S := by
  cases r with
  | revoke_session => exact id_unique hfaith hinj hT hS (hends.2.2.symm.trans h.2.2)
  | logout raw =>
    cases raw with
    | none => exact h.elim
    | some raw => exact raw_unique hfaith hT hS (hends.symm.trans h.2)
  | _ => exact h.elim

theorem RevokesSession.issues_none {s₀ : Store} {past : List AuthStep} {e : Env} {r : AuthRequest}
    {reply' : Except Failure Body} {S T : IssuedSession} (h : RevokesSession reply' S r)
    (hfaith : Faithful s₀ past (run.after proceed s₀ past)) (hinj : InjectiveHash) :
    issuedBy e (reply s₀ past e r) ≠ some T := by
  intro hissued
  rcases issued_cases hfaith hinj hissued with ⟨_, rfl⟩ | ⟨_, rfl, _⟩
  · exact h
  · exact h

/-- A revocation that is answered signs the device out exactly when no other
session of the line is active when it comes: the session has not been
exchanged, or what it was exchanged for is over. -/
theorem a_revocation_signs_out_iff_no_successor_is_active (hinj : InjectiveHash) (s₀ : Store)
    (h₀ : s₀.refresh_tokens = []) (past : List AuthStep) (e : Env) (r : AuthRequest)
    (hf : FreshDraws s₀ (.request e r :: past)) (S : IssuedSession) (hS : Created s₀ past S)
    (hr : RevokesSession (reply s₀ past e r) S r) :
    SignsOut s₀ past e r S ↔ ∀ T, InLine s₀ past S T → T ≠ S → ¬ ActiveAt s₀ past e.now T := by
  have hfaith := faithful_run hinj h₀ past hf.1
  have hkeeps : ∀ T, InLine s₀ (.request e r :: past) S T ↔ InLine s₀ past S T := by
    intro T
    exact or_iff_left fun h => hr.issues_none hfaith hinj h.1
  constructor
  · intro hout T hT hne hactive
    refine hout [] hf (fun _ _ h => absurd h List.not_mem_nil) e.now le_rfl T ((hkeeps T).mpr hT) ?_
    refine ⟨Or.inr ⟨hactive.1, fun hends => hne ?_⟩, hactive.2⟩
    exact hr.same hfaith hinj (created_of_inLine hT) hS hends
  · intro hover later hlater hlate now hnow T hT ⟨hlive, hunexpired⟩
    have hexpired : ∀ U, InLine s₀ (.request e r :: past) S U → Live s₀ (.request e r :: past) U →
        U.expires_at ≤ e.now := by
      intro U hU hopen
      have hU := (hkeeps U).mp hU
      obtain ⟨hbefore, hkept⟩ := live_before hf (created_of_inLine hU) hopen
      by_cases hsame : U = S
      · rw [hsame] at hkept
        exact absurd hr.ends hkept
      · exact not_lt.mp fun hlt => hover U hU hsame ⟨hbefore, hlt⟩
    have hcreated : Created s₀ (.request e r :: past) S := Or.inr hS
    have h := (expired_from hinj h₀ hcreated hexpired hlater hlate).2 T hT hlive
    exact absurd (hunexpired.trans_le h) (not_lt.mpr hnow)

/-! ## A device that refreshed meanwhile -/

/-- Two devices of one user sign in. -/
def twoDevices : List AuthStep := .request (sampleEnv 2) (.login sampleLogin) :: sampleLogins

/-- The first device exchanges its token. -/
def firstRefreshed : List AuthStep :=
  .request (sampleEnv 3) (.refresh (some sampleSession.raw)) :: twoDevices

/-- The session that it gets. -/
def laterSession : IssuedSession where
  id := 30
  user_id := 0
  raw := (sampleEnv 3).secret
  expires_at := @refresh_expires_at samplePlatform (3 * SECOND)

/-- The second device revokes the session of the first one. -/
def revokeFirst : AuthRequest := .revoke_session (sampleBearer 0 2) 10

omit [Platform] in
theorem sample_session_issued :
    @issuedBy samplePlatform (sampleEnv 1) (@reply samplePlatform Store.empty
      [.request (sampleEnv 0) (.register sampleUser)] (sampleEnv 1) (.login sampleLogin)) =
        some sampleSession := by
  decide +kernel

omit [Platform] in
/-- The revocation of a session that was exchanged is answered, and its device
goes on with the next session. -/
theorem a_revoked_device_goes_on :
    @FreshDraws samplePlatform Store.empty (.request (sampleEnv 4) revokeFirst :: firstRefreshed) ∧
      @Created samplePlatform Store.empty firstRefreshed sampleSession ∧
      @RevokesSession (@reply samplePlatform Store.empty firstRefreshed (sampleEnv 4) revokeFirst) sampleSession
        revokeFirst ∧
      ¬ @SignsOut samplePlatform Store.empty firstRefreshed (sampleEnv 4) revokeFirst sampleSession := by
  have hfresh : @FreshDraws samplePlatform Store.empty
      (.request (sampleEnv 4) revokeFirst :: firstRefreshed) := by decide +kernel
  have hissued : @issuedBy samplePlatform (sampleEnv 3) (@reply samplePlatform Store.empty twoDevices
      (sampleEnv 3) (.refresh (some sampleSession.raw))) = some laterSession := by decide +kernel
  refine ⟨hfresh, Or.inr (Or.inr (Or.inl sample_session_issued)), ⟨?_, ?_, rfl⟩, ?_⟩
  · exact accepted_of_isOk (by decide +kernel)
  · exact ⟨_, rfl, rfl⟩
  · intro hout
    refine hout [] hfresh (fun _ _ h => absurd h List.not_mem_nil) (sampleEnv 4).now le_rfl laterSession
      ?_ ⟨?_, by decide +kernel⟩
    · exact Or.inl (Or.inr ⟨hissued, Or.inr ⟨sampleSession,
        Or.inl (Or.inr ⟨sample_session_issued, Or.inl rfl⟩), rfl⟩⟩)
    · exact Or.inr ⟨Or.inl hissued, fun hends => absurd hends.2.2 (by decide)⟩

omit [Platform] in
/-- A device that has not refreshed is signed out. -/
theorem a_device_that_has_not_refreshed_is_signed_out :
    @SignsOut samplePlatform Store.empty twoDevices (sampleEnv 4) revokeFirst sampleSession := by
  have hinj : @InjectiveHash samplePlatform := fun a b h => (List.cons.inj h).2
  have hfresh : @FreshDraws samplePlatform Store.empty
      (.request (sampleEnv 4) revokeFirst :: twoDevices) := by decide +kernel
  have hlive : @Live samplePlatform Store.empty twoDevices sampleSession :=
    Or.inr ⟨Or.inl sample_session_issued, id⟩
  refine (@a_revocation_signs_out_iff_no_successor_is_active samplePlatform hinj Store.empty rfl
    twoDevices (sampleEnv 4) revokeFirst hfresh sampleSession
    (Or.inr (Or.inl sample_session_issued)) ⟨?_, ?_, rfl⟩).mpr ?_
  · exact accepted_of_isOk (by decide +kernel)
  · exact ⟨_, rfl, rfl⟩
  · intro T hT hne
    exact absurd (@line_of_live samplePlatform _ _ _ _ hfresh.1 hlive hT) hne

end pulseforge

-- Bulk revocation against sign-ins in flight: the UPDATE meets the sessions
-- that were committed when it began, so a sign-in that had made its check by
-- then, and commits later, keeps its session.
import PulseForge.SessionTransactions
import PulseForge.UniqueIndex

open txn table interleave

namespace pulseforge

variable [Platform]

/-! ## What a step does to the open sessions -/

@[simp] theorem writes_refresh_tokens (call : AuthCall) (e : Env) (user_id : UUID)
    (reset_token : Option PasswordResetToken) (s : Store) :
    (call.writes e user_id reset_token s).refresh_tokens = s.refresh_tokens := by
  unfold AuthCall.writes
  split <;> rfl

/-- The rows that a transaction carries from its reads. -/
def AuthStage.rows : AuthStage → List RefreshToken
  | .issuing _ stored_token => stored_token.toList
  | .expiring stored_token => [stored_token]
  | .sweeping _ _ todo done => todo ++ done
  | _ => []

/-- A step revokes rows that its transaction carries, and adds the row of the
session that it issues. -/
inductive SessionWrite (e : Env) (t : AuthStage) (rows rows' : List RefreshToken) : Prop
  | intro (p : RefreshToken → Bool) (f : RefreshToken → RefreshToken) (new : List RefreshToken)
      (written : rows' = updateWhere p f rows ++ new)
      (keeps : ∀ r, (f r).id = r.id ∧ (f r).token_hash = r.token_hash ∧ (f r).revoked_at ≠ none)
      (carried : ∀ r, p r = true → ∃ q ∈ t.rows, q.id = r.id)
      (issued : ∀ r ∈ new, ∃ u, t.issues u = true ∧ r = new_refresh_token e u)

theorem session_unchanged (e : Env) (t : AuthStage) (rows : List RefreshToken) :
    SessionWrite e t rows rows := by
  refine .intro (fun _ => false) (fun r => { r with revoked_at := some 0 }) [] ?_
    (fun _ => ⟨rfl, rfl, Option.some_ne_none _⟩) (fun _ hp => Bool.noConfusion hp) (by simp)
  rw [updateWhere_eq_self fun _ _ => rfl, List.append_nil]

section
variable {job : AuthJob} {s s' : Store} {t t' : AuthStage} (h : job.next s t = some (s', t'))
include h

theorem session_write : SessionWrite job.env t s.refresh_tokens s'.refresh_tokens := by
  cases t with
  | issuing user_id stored_token =>
    cases h
    have hissued : ∀ r ∈ [new_refresh_token job.env user_id], ∃ u,
        AuthStage.issues u (.issuing user_id stored_token) = true ∧
          r = new_refresh_token job.env u :=
      fun r hr => ⟨user_id, by simp [AuthStage.issues], List.mem_singleton.mp hr⟩
    cases stored_token with
    | none =>
      refine .intro (fun _ => false) (fun r => { r with revoked_at := some 0 }) _ ?_
        (fun _ => ⟨rfl, rfl, Option.some_ne_none _⟩) (fun _ hp => Bool.noConfusion hp) hissued
      rw [updateWhere_eq_self fun _ _ => rfl]
      rfl
    | some row =>
      refine .intro _ _ _ rfl (fun _ => ⟨rfl, rfl, Option.some_ne_none _⟩) ?_ hissued
      intro r hr
      exact ⟨row, by simp [AuthStage.rows], (of_decide_eq_true hr).symm⟩
  | expiring row =>
    cases h
    refine .intro _ _ [] (List.append_nil _).symm (fun _ => ⟨rfl, rfl, Option.some_ne_none _⟩) ?_
      (by simp)
    intro r hr
    exact ⟨row, by simp [AuthStage.rows], (of_decide_eq_true hr).symm⟩
  | sweeping user_id reset_token todo done =>
    cases todo with
    | nil =>
      cases h
      rw [writes_refresh_tokens]
      refine .intro _ _ [] (List.append_nil _).symm (fun _ => ⟨rfl, rfl, Option.some_ne_none _⟩) ?_
        (by simp)
      intro r hr
      obtain ⟨q, hq, hid⟩ := List.any_eq_true.mp hr
      exact ⟨q, by simpa [AuthStage.rows] using hq, of_decide_eq_true hid⟩
    | cons row todo =>
      simp only [AuthJob.next] at h
      split at h <;> cases h <;> exact session_unchanged ..
  | ended reply => cases h
  | _ =>
    cases h
    exact session_unchanged ..

/-- A row after a step was there before, or the step issued it. -/
theorem row_of_next {r : RefreshToken} (hr : r ∈ s'.refresh_tokens) :
    (∃ r₀ ∈ s.refresh_tokens, r₀.id = r.id ∧ r₀.token_hash = r.token_hash ∧
      (r.revoked_at = none → r = r₀)) ∨
      t.issues r.user_id = true ∧ r = new_refresh_token job.env r.user_id := by
  obtain ⟨p, f, new, written, keeps, _, issued⟩ := session_write h
  rw [written, List.mem_append, mem_updateWhere] at hr
  rcases hr with ⟨r₀, hr₀, rfl⟩ | hr
  · refine Or.inl ⟨r₀, hr₀, ?_⟩
    by_cases hp : p r₀ = true
    · rw [if_pos hp]
      obtain ⟨hid, hhash, hrevoked⟩ := keeps r₀
      exact ⟨hid.symm, hhash.symm, fun hopen => absurd hopen hrevoked⟩
    · rw [if_neg hp]
      exact ⟨rfl, rfl, fun _ => rfl⟩
  · obtain ⟨u, hu, rfl⟩ := issued r hr
    exact Or.inr ⟨hu, rfl⟩

/-- An open session after a step was there before, or the step issued it. -/
theorem open_row_of_next {r : RefreshToken} (hr : r ∈ s'.refresh_tokens)
    (hopen : r.revoked_at = none) :
    r ∈ s.refresh_tokens ∨ t.issues r.user_id = true ∧ r.id = job.env.uuid 0 := by
  rcases row_of_next h hr with ⟨r₀, hr₀, _, _, hsame⟩ | ⟨hissues, hnew⟩
  · rw [hsame hopen]
    exact Or.inl hr₀
  · exact Or.inr ⟨hissues, by rw [hnew]; rfl⟩

/-- A step leaves the id of every row. -/
theorem id_of_next {r : RefreshToken} (hr : r ∈ s.refresh_tokens) :
    ∃ r' ∈ s'.refresh_tokens, r'.id = r.id := by
  obtain ⟨p, f, new, written, keeps, _, _⟩ := session_write h
  rw [written]
  refine ⟨_, List.mem_append_left _ (mem_updateWhere.mpr ⟨r, hr, rfl⟩), ?_⟩
  split
  · exact (keeps r).1
  · rfl

/-- A step leaves a row alone that its transaction does not carry. -/
theorem kept_of_next {r : RefreshToken} (hr : r ∈ s.refresh_tokens)
    (hother : ∀ q ∈ t.rows, q.id ≠ r.id) : r ∈ s'.refresh_tokens := by
  obtain ⟨p, f, new, written, _, carried, _⟩ := session_write h
  rw [written]
  refine List.mem_append_left _ (mem_updateWhere_of_not hr ?_)
  by_contra hp
  obtain ⟨q, hq, hid⟩ := carried r (by simpa using hp)
  exact hother q hq hid

theorem unfinished_of_next : t.finished = false := by
  cases t with
  | ended reply => cases h
  | _ => rfl

/-- The commit of a sign-in adds its session. -/
theorem issued_of_next {user_id : UUID} (hi : t.issues user_id = true) :
    t'.finished = true ∧ new_refresh_token job.env user_id ∈ s'.refresh_tokens := by
  cases t with
  | issuing u stored_token =>
    obtain rfl : u = user_id := by simpa [AuthStage.issues] using hi
    cases h
    refine ⟨rfl, ?_⟩
    cases stored_token <;> exact List.mem_append_right _ (List.mem_singleton_self _)
  | _ => cases hi

omit [Platform] h in
theorem unfinished_of_issues {user_id : UUID} (hi : t.issues user_id = true) :
    t.finished = false := by
  cases t with
  | issuing => rfl
  | _ => cases hi

/-- Only a check makes a transaction issue a session. -/
theorem issues_of_next {user_id : UUID} (hi : t'.issues user_id = true) : t = .start := by
  cases t with
  | start => rfl
  | sweeping u reset_token todo done =>
    cases todo with
    | nil =>
      cases h
      cases hi
    | cons row todo =>
      simp only [AuthJob.next] at h
      split at h <;> cases h <;> cases hi
  | ended reply => cases h
  | _ =>
    cases h
    cases hi

theorem start_of_next : t' ≠ .start := by
  rintro rfl
  cases t with
  | start =>
    obtain ⟨_, hcheck⟩ := Prod.mk.inj (Option.some.inj h)
    have := check_checked job s
    rw [hcheck] at this
    cases this
  | sweeping u reset_token todo done =>
    cases todo with
    | nil => cases h
    | cons row todo =>
      simp only [AuthJob.next] at h
      split at h <;> cases h
  | _ => cases h

/-- A transaction is within its UPDATE because the UPDATE began, or because it
looked at one more row. -/
theorem sweeping_of_next {user_id : UUID} {reset_token : Option PasswordResetToken}
    {todo done : List RefreshToken} (ht' : t' = .sweeping user_id reset_token todo done) :
    s' = s ∧ ((t = .revoking user_id reset_token ∧ todo = job.scan (openRows user_id s) ∧ done = []) ∨
      ∃ row before, t = .sweeping user_id reset_token (row :: todo) before ∧
        (done = row :: before ∨ done = before ∧ stillOpen user_id row s = false)) := by
  subst ht'
  cases t with
  | start =>
    obtain ⟨_, hcheck⟩ := Prod.mk.inj (Option.some.inj h)
    have := check_checked job s
    rw [hcheck] at this
    cases this
  | revoking u tok =>
    cases h
    exact ⟨rfl, Or.inl ⟨rfl, rfl, rfl⟩⟩
  | sweeping u tok todo' before =>
    cases todo' with
    | nil => cases h
    | cons row todo' =>
      simp only [AuthJob.next] at h
      split at h
      · cases h
        exact ⟨rfl, Or.inr ⟨row, _, rfl, Or.inl rfl⟩⟩
      · rename_i hskip
        cases h
        exact ⟨rfl, Or.inr ⟨row, _, rfl, Or.inr ⟨rfl, by simpa using hskip⟩⟩⟩
  | _ => cases h

end

/-! ## The sessions that the UPDATE meets -/

variable {ι : Type} [Fintype ι] [DecidableEq ι]

/-- While the transaction is within its UPDATE over the sessions of the user,
no transaction is between its check and its commit for that user. -/
def Calm (user_id : UUID) (b : ι) (g : State ι Store AuthStage) : Prop :=
  (g.locals b).sweeps user_id = true → ∀ i, (g.locals i).issues user_id = false

instance (user_id : UUID) (b : ι) (g : State ι Store AuthStage) : Decidable (Calm user_id b g) :=
  inferInstanceAs (Decidable (_ → _))

/-- The next turn of the transaction commits its revocation of the sessions of the user. -/
def Revokes (user_id : UUID) (b : ι) (g : State ι Store AuthStage) : Prop :=
  (g.locals b).swept user_id = true

instance (user_id : UUID) (b : ι) (g : State ι Store AuthStage) : Decidable (Revokes user_id b g) :=
  inferInstanceAs (Decidable (_ = true))

omit [Platform] in
theorem sweeping_of_swept {user_id : UUID} {t : AuthStage} (h : t.swept user_id = true) :
    ∃ reset_token done, t = .sweeping user_id reset_token [] done := by
  cases t with
  | sweeping u reset_token todo done =>
    cases todo with
    | nil =>
      obtain rfl : u = user_id := by simpa [AuthStage.swept] using h
      exact ⟨reset_token, done, rfl⟩
    | cons => cases h
  | _ => cases h

/-- The UPDATE has every open session of the user on its lists. -/
def Covered (user_id : UUID) (b : ι) (g : State ι Store AuthStage) : Prop :=
  ∀ reset_token todo done, g.locals b = .sweeping user_id reset_token todo done →
    ∀ r ∈ g.shared.refresh_tokens, r.user_id = user_id → r.revoked_at = none →
      ∃ q, (q ∈ todo ∨ q ∈ done) ∧ q.id = r.id

variable {jobs : ι → AuthJob} {user_id : UUID} {b : ι}

omit [Platform] [Fintype ι] [DecidableEq ι] in
theorem stillOpen_of_mem {s : Store} {row r : RefreshToken} (hr : r ∈ s.refresh_tokens)
    (hid : r.id = row.id) (huser : r.user_id = user_id) (hopen : r.revoked_at = none) :
    stillOpen user_id row s = true :=
  List.any_eq_true.mpr ⟨r, hr, by simp [hid, openRow, huser, hopen]⟩

theorem covered_step (g : State ι Store AuthStage) (i : ι) (hcalm : Calm user_id b g)
    (hg : Covered user_id b g) : Covered user_id b (auth_turn jobs g i) := by
  rcases lockStep_cases (fun i => auth_transaction (jobs i)) g i with heq | ⟨s', t', hstep, heq⟩
  · unfold auth_turn
    rw [heq]
    exact hg
  · unfold auth_turn
    rw [heq]
    have hnext : (jobs i).next g.shared (g.locals i) = some (s', t') := hstep
    intro reset_token todo done hb r hr huser hopen
    rw [move_shared] at hr
    by_cases hib : b = i
    · subst hib
      rw [move_self] at hb
      obtain ⟨rfl, ⟨_, rfl, rfl⟩ | ⟨row, before, ht, hdone⟩⟩ := sweeping_of_next hnext hb
      · have hmem : r ∈ (jobs b).scan (openRows user_id g.shared) :=
          ((jobs b).scan_perm _).mem_iff.mpr (mem_openRows.mpr ⟨hr, huser, hopen⟩)
        exact ⟨r, Or.inl hmem, rfl⟩
      · obtain ⟨q, hq, hid⟩ := hg reset_token (row :: todo) before ht r hr huser hopen
        refine ⟨q, ?_, hid⟩
        rcases hdone with rfl | ⟨rfl, hskip⟩
        · simp only [List.mem_cons] at hq ⊢
          tauto
        · rcases hq with hq | hq
          · rcases List.mem_cons.mp hq with rfl | hq
            -- The second look would have found the row.
            · rw [stillOpen_of_mem hr hid.symm huser hopen] at hskip
              cases hskip
            · exact Or.inl hq
          · exact Or.inr hq
    · rw [move_other hib] at hb
      rcases open_row_of_next hnext hr hopen with hr | ⟨hissues, _⟩
      · exact hg reset_token todo done hb r hr huser hopen
      · have hsweeps : (g.locals b).sweeps user_id = true := by
          rw [hb]
          simp [AuthStage.sweeps]
        rw [huser, hcalm hsweeps i] at hissues
        cases hissues

theorem covered_run {s₀ : Store} {past : List ι}
    (hcalm : run.Every (auth_turn jobs) (auth_begin s₀) (fun g _ => Calm user_id b g) past) :
    Covered user_id b (run.after (auth_turn jobs) (auth_begin s₀) past) := by
  refine run.Every.inv ?_ covered_step hcalm
  intro reset_token todo done hb
  cases hb

/-! ## After the commit -/

/-- Every open session of the user is from a transaction that had not made its
check yet at the state `m`. -/
def BeatsEarlier (jobs : ι → AuthJob) (user_id : UUID) (m g : State ι Store AuthStage) : Prop :=
  ∀ r ∈ g.shared.refresh_tokens, r.user_id = user_id → r.revoked_at = none →
    ∃ i, r.id = (jobs i).env.uuid 0 ∧ m.locals i = .start

/-- No transaction can add another session of the user. -/
structure Later (jobs : ι → AuthJob) (user_id : UUID) (m g : State ι Store AuthStage) : Prop where
  rows : BeatsEarlier jobs user_id m g
  issuing : ∀ i, (g.locals i).issues user_id = true → m.locals i = .start
  starting : ∀ i, g.locals i = .start → m.locals i = .start

theorem Later.step {m g : State ι Store AuthStage} (h : Later jobs user_id m g) {i : ι}
    {p : Store × AuthStage} (hp : lockStep (fun i => auth_transaction (jobs i)) i g = some p) :
    Later jobs user_id m (g.move i p) := by
  obtain ⟨s', t'⟩ := p
  have hnext : (jobs i).next g.shared (g.locals i) = some (s', t') := (lockStep_some hp).2
  constructor
  · intro r hr huser hopen
    rcases open_row_of_next hnext hr hopen with hr | ⟨hissues, hid⟩
    · exact h.rows r hr huser hopen
    · rw [huser] at hissues
      exact ⟨i, hid, h.issuing i hissues⟩
  · intro j hj
    by_cases hji : j = i
    · subst hji
      rw [move_self] at hj
      exact h.starting j (issues_of_next hnext hj)
    · rw [move_other hji] at hj
      exact h.issuing j hj
  · intro j hj
    by_cases hji : j = i
    · subst hji
      rw [move_self] at hj
      exact absurd hj (start_of_next hnext)
    · rw [move_other hji] at hj
      exact h.starting j hj

/-- The commit of an UPDATE that has all open sessions on its list leaves none. -/
theorem later_of_commit {m : State ι Store AuthStage} (hready : Revokes user_id b m)
    (hcovered : Covered user_id b m) (hcalm : Calm user_id b m) :
    Later jobs user_id m (auth_turn jobs m b) := by
  obtain ⟨reset_token, done, hb⟩ := sweeping_of_swept hready
  have hsweeps : (m.locals b).sweeps user_id = true := by
    rw [hb]
    simp [AuthStage.sweeps]
  have hfree : ¬ Blocked (fun i => auth_transaction (jobs i)) m b := by
    rintro ⟨_, _, l, _, hwants⟩
    simp only [auth_transaction, hb, AuthJob.wants] at hwants
    cases hwants
  have hp : lockStep (fun i => auth_transaction (jobs i)) b m =
      some ((jobs b).call.writes (jobs b).env user_id reset_token
        (revokeRows done ((jobs b).env.clock 1) m.shared), .ended (jobs b).call.bulkReply) := by
    rw [lockStep_eq hfree]
    simp only [auth_transaction, hb, AuthJob.next]
  unfold auth_turn
  rw [step_of_some hp]
  constructor
  · intro r hr huser hopen
    rw [move_shared, writes_refresh_tokens] at hr
    obtain ⟨r₀, hr₀, rfl⟩ := mem_updateWhere.mp hr
    split at hopen
    · cases hopen
    · rename_i hmissed
      rw [if_neg hmissed] at huser
      obtain ⟨q, hq, hid⟩ := hcovered reset_token [] done hb r₀ hr₀ huser hopen
      have hq : q ∈ done := hq.resolve_left (by simp)
      exact absurd (List.any_eq_true.mpr ⟨q, hq, decide_eq_true hid⟩) hmissed
  · intro i hi
    by_cases hib : i = b
    · rw [hib, move_self] at hi
      cases hi
    · rw [move_other hib, hcalm hsweeps i] at hi
      cases hi
  · intro i hi
    by_cases hib : i = b
    · rw [hib, move_self] at hi
      cases hi
    · rw [move_other hib] at hi
      exact hi

theorem later_run {s₀ : Store} {past : List ι} (later : List ι)
    (hready : Revokes user_id b (run.after (auth_turn jobs) (auth_begin s₀) past))
    (hcalm : run.Every (auth_turn jobs) (auth_begin s₀) (fun g _ => Calm user_id b g) (b :: past)) :
    Later jobs user_id (run.after (auth_turn jobs) (auth_begin s₀) past)
      (run.after (auth_turn jobs) (auth_begin s₀) (later ++ b :: past)) := by
  have hcommit : Later jobs user_id (run.after (auth_turn jobs) (auth_begin s₀) past)
      (run.after (auth_turn jobs) (auth_begin s₀) (b :: past)) :=
    later_of_commit hready (covered_run hcalm.1) hcalm.2
  rw [run.after_append]
  exact interleave.invariant hcommit (fun _ _ _ h hp => h.step hp) later

/-! ## A sign-in across the UPDATE -/

/-- A check reads at most the row of the refresh token that it was given. -/
theorem check_rows {job : AuthJob} {s : Store} {q : RefreshToken} (hq : q ∈ (job.check s).rows) :
    q ∈ s.refresh_tokens ∧
      ∃ raw, job.call = .refresh (some raw) ∧ q.token_hash = hash_refresh_token raw := by
  unfold AuthJob.check at hq
  split at hq
  · unfold login_start at hq
    split at hq
    · cases hq
    · split at hq <;> cases hq
  · rename_i raw hcall
    unfold refresh_start at hq
    split at hq
    · cases hq
    · split at hq
      · cases hq
      · rename_i raw' hraw
        obtain rfl := eq_some_of_present hraw
        split at hq
        · cases hq
        · rename_i row hr
          obtain ⟨hmem, hhash⟩ := find?_mem hr
          suffices hrow : q = row by
            rw [hrow]
            exact ⟨hmem, raw', hcall, by simpa using hhash⟩
          split at hq
          · cases hq
          · split at hq
            · cases hq
            · split at hq
              · exact List.mem_singleton.mp hq
              · exact List.mem_singleton.mp hq
  · unfold logout_all_start at hq
    split at hq <;> cases hq
  · unfold change_password_start at hq
    split at hq
    · cases hq
    · split at hq
      · cases hq
      · split at hq <;> cases hq
  · unfold reset_password_start at hq
    split at hq <;> cases hq

/-- What a transaction carries after a step, it carried before, or it read it. -/
theorem rows_of_next {job : AuthJob} {s s' : Store} {t t' : AuthStage}
    (h : job.next s t = some (s', t')) {q : RefreshToken} (hq : q ∈ t'.rows) :
    q ∈ t.rows ∨ (q ∈ (job.check s).rows ∧ t = .start) ∨
      ∃ user_id reset_token, t = .revoking user_id reset_token ∧ q ∈ openRows user_id s := by
  cases t with
  | start =>
    cases h
    exact Or.inr (Or.inl ⟨hq, rfl⟩)
  | revoking user_id reset_token =>
    cases h
    rw [AuthStage.rows, List.append_nil] at hq
    exact Or.inr (Or.inr ⟨user_id, reset_token, rfl, (job.scan_perm _).mem_iff.mp hq⟩)
  | sweeping user_id reset_token todo done =>
    left
    cases todo with
    | nil =>
      cases h
      cases hq
    | cons row todo =>
      simp only [AuthJob.next] at h
      split at h
      · cases h
        simp only [AuthStage.rows, List.mem_append, List.mem_cons] at hq ⊢
        tauto
      · cases h
        exact List.mem_cons_of_mem _ hq
  | ended reply => cases h
  | _ =>
    cases h
    cases hq

/-- The ids of the sessions that the transactions draw are new. -/
structure FreshSessions (jobs : ι → AuthJob) (s₀ : Store) : Prop where
  fresh : ∀ i, ∀ r ∈ s₀.refresh_tokens, r.id ≠ (jobs i).env.uuid 0
  apart : ∀ i j, (jobs i).env.uuid 0 = (jobs j).env.uuid 0 → i = j

/-- The rows that the transactions carry are in the table, and no session is
there before its transaction has ended. -/
structure Named (jobs : ι → AuthJob) (g : State ι Store AuthStage) : Prop where
  carried : ∀ i, ∀ q ∈ (g.locals i).rows, ∃ r ∈ g.shared.refresh_tokens, r.id = q.id
  unborn : ∀ i, (g.locals i).finished = false →
    ∀ r ∈ g.shared.refresh_tokens, r.id ≠ (jobs i).env.uuid 0

theorem Named.move {s₀ : Store} (hf : FreshSessions jobs s₀) {g : State ι Store AuthStage}
    (h : Named jobs g) {i : ι} {p : Store × AuthStage}
    (hp : lockStep (fun i => auth_transaction (jobs i)) i g = some p) : Named jobs (g.move i p) := by
  obtain ⟨s', t'⟩ := p
  have hnext : (jobs i).next g.shared (g.locals i) = some (s', t') := (lockStep_some hp).2
  constructor
  · intro k q hq
    have hbefore : ∃ r ∈ g.shared.refresh_tokens, r.id = q.id := by
      by_cases hki : k = i
      · subst hki
        rw [move_self] at hq
        rcases rows_of_next hnext hq with hq | ⟨hq, _⟩ | ⟨u, tok, _, hq⟩
        · exact h.carried k q hq
        · exact ⟨q, (check_rows hq).1, rfl⟩
        · exact ⟨q, (mem_openRows.mp hq).1, rfl⟩
      · rw [move_other hki] at hq
        exact h.carried k q hq
    obtain ⟨r, hr, hid⟩ := hbefore
    obtain ⟨r', hr', hid'⟩ := id_of_next hnext hr
    exact ⟨r', hr', hid'.trans hid⟩
  · intro k hk r hr
    rcases row_of_next hnext hr with ⟨r₀, hr₀, hid, _⟩ | ⟨hissues, hnew⟩
    · rw [← hid]
      refine h.unborn k ?_ r₀ hr₀
      by_cases hki : k = i
      · subst hki
        exact unfinished_of_next hnext
      · rwa [move_other hki] at hk
    · intro hid
      rw [hnew] at hid
      obtain rfl := hf.apart i k hid
      rw [move_self, (issued_of_next hnext hissues).1] at hk
      cases hk

/-- The transaction is about to revoke the sessions of a user, or within it. -/
def AuthStage.revokes : AuthStage → Bool
  | .revoking .. | .sweeping .. => true
  | _ => false

/-- The session of `j` is not on the list of any UPDATE, and it is open once
it is committed. -/
structure Escapes (jobs : ι → AuthJob) (user_id : UUID) (b j : ι) (g : State ι Store AuthStage) :
    Prop where
  bulk : (g.locals b).sweeps user_id = true ∨ (g.locals b).finished = true
  carried : ∀ k, k ≠ j → ∀ q ∈ (g.locals k).rows, q.id ≠ (jobs j).env.uuid 0
  hash : ∀ r ∈ g.shared.refresh_tokens, r.id = (jobs j).env.uuid 0 →
    r.token_hash = hash_refresh_token (jobs j).env.secret
  session : (g.locals j).issues user_id = true ∨ (g.locals j).finished = true ∧
    ∃ r ∈ g.shared.refresh_tokens, r.id = (jobs j).env.uuid 0 ∧ r.user_id = user_id ∧
      r.revoked_at = none

/-- The tokens that the refreshes present were issued before the run. -/
def OlderTokens (jobs : ι → AuthJob) : Prop :=
  ∀ i raw, (jobs i).call = .refresh (some raw) →
    ∀ j, hash_refresh_token raw ≠ hash_refresh_token (jobs j).env.secret

/-- No other transaction revokes the sessions of a user. -/
def OneBulk (b : ι) (g : State ι Store AuthStage) : Prop :=
  ∀ k, k ≠ b → (g.locals k).revokes = false

theorem sweeps_of_next {job : AuthJob} {s s' : Store} {t t' : AuthStage}
    (h : job.next s t = some (s', t')) (ht : t.sweeps user_id = true) :
    t'.sweeps user_id = true ∨ t'.finished = true := by
  cases t with
  | sweeping u reset_token todo done =>
    cases todo with
    | nil =>
      cases h
      exact Or.inr rfl
    | cons row todo =>
      simp only [AuthJob.next] at h
      split at h <;> cases h <;> exact Or.inl ht
  | _ => cases ht

omit [Fintype ι] in
/-- A row that a step reads is not the session of `j`: its check asks for an
older token, and only `b` begins a bulk revocation. -/
theorem Escapes.read_apart {j k : ι} (htokens : OlderTokens jobs) {g : State ι Store AuthStage}
    (h : Escapes jobs user_id b j g) (hone : OneBulk b g) {p : Store × AuthStage}
    (hnext : (jobs k).next g.shared (g.locals k) = some p) (hkj : k ≠ j) {q : RefreshToken}
    (hq : q ∈ p.2.rows) : q.id ≠ (jobs j).env.uuid 0 := by
  rcases rows_of_next hnext hq with hq | ⟨hq, _⟩ | ⟨u, tok, ht, _⟩
  · exact h.carried k hkj q hq
  · obtain ⟨hmem, raw, hcall, hhash⟩ := check_rows hq
    intro hid
    exact htokens k raw hcall j (hhash.symm.trans (h.hash q hmem hid))
  · by_cases hkb : k = b
    · subst hkb
      rcases h.bulk with hsweeps | hended
      · rw [ht] at hsweeps
        cases hsweeps
      · rw [unfinished_of_next hnext] at hended
        cases hended
    · have hquiet := hone k hkb
      rw [ht] at hquiet
      cases hquiet

theorem Escapes.move {s₀ : Store} {j : ι} (hf : FreshSessions jobs s₀) (htokens : OlderTokens jobs)
    {g : State ι Store AuthStage} (h : Escapes jobs user_id b j g) (hone : OneBulk b g) {i : ι}
    {p : Store × AuthStage} (hp : lockStep (fun i => auth_transaction (jobs i)) i g = some p) :
    Escapes jobs user_id b j (g.move i p) := by
  obtain ⟨s', t'⟩ := p
  have hnext : (jobs i).next g.shared (g.locals i) = some (s', t') := (lockStep_some hp).2
  have hunended := unfinished_of_next hnext
  refine ⟨?_, ?_, ?_, ?_⟩
  · by_cases hbi : b = i
    · subst hbi
      rw [move_self]
      rcases h.bulk with hsweeps | hended
      · exact sweeps_of_next hnext hsweeps
      · rw [hunended] at hended
        cases hended
    · rw [move_other hbi]
      exact h.bulk
  · intro k hkj q hq
    by_cases hki : k = i
    · subst hki
      rw [move_self] at hq
      exact h.read_apart htokens hone hnext hkj hq
    · rw [move_other hki] at hq
      exact h.carried k hkj q hq
  · intro r hr hid
    rcases row_of_next hnext hr with ⟨r₀, hr₀, hid₀, hhash, _⟩ | ⟨_, hnew⟩
    · rw [← hhash]
      exact h.hash r₀ hr₀ (hid₀.trans hid)
    · rw [hnew] at hid
      rw [hnew, hf.apart i j hid]
      rfl
  · by_cases hji : j = i
    · subst hji
      rw [move_self]
      rcases h.session with hissues | ⟨hended, _⟩
      · obtain ⟨hended, hnew⟩ := issued_of_next hnext hissues
        exact Or.inr ⟨hended, _, hnew, rfl, rfl, rfl⟩
      · rw [hunended] at hended
        cases hended
    · rw [move_other hji]
      refine h.session.imp_right ?_
      rintro ⟨hended, r, hr, hid, huser, hopen⟩
      refine ⟨hended, r, kept_of_next hnext hr fun q hq => ?_, hid, huser, hopen⟩
      rw [hid]
      exact h.carried i (Ne.symm hji) q hq

omit [Fintype ι] [DecidableEq ι] in
/-- What the transactions carry while `b` is within its UPDATE and `j` is
about to commit a session is not that session. -/
theorem escapes_of_named {j : ι} {g : State ι Store AuthStage} (h : Named jobs g)
    (hb : (g.locals b).sweeps user_id = true) (hj : (g.locals j).issues user_id = true) :
    Escapes jobs user_id b j g := by
  have hunended : (g.locals j).finished = false := unfinished_of_issues hj
  refine ⟨Or.inl hb, ?_, ?_, Or.inl hj⟩
  · intro k _ q hq hid
    obtain ⟨r, hr, hrid⟩ := h.carried k q hq
    exact h.unborn j hunended r hr (hrid.trans hid)
  · intro r hr hid
    exact absurd hid (h.unborn j hunended r hr)

/-- A transaction that has made its check never comes back to it. -/
theorem checked_run {s₀ : Store} {past : List ι} {i : ι}
    (h : (run.after (auth_turn jobs) (auth_begin s₀) past).locals i ≠ .start) (later : List ι) :
    (run.after (auth_turn jobs) (auth_begin s₀) (later ++ past)).locals i ≠ .start := by
  rw [run.after_append]
  refine interleave.invariant (I := fun g => g.locals i ≠ AuthStage.start) h ?_ later
  intro g j p hg hp
  by_cases hij : i = j
  · subst hij
    rw [move_self]
    exact start_of_next (lockStep_some hp).2
  · rw [move_other hij]
    exact hg

theorem named_run {s₀ : Store} (hf : FreshSessions jobs s₀) (turns : List ι) :
    Named jobs (run.after (auth_turn jobs) (auth_begin s₀) turns) := by
  refine interleave.invariant ⟨?_, ?_⟩ (fun _ _ _ h hp => h.move hf hp) turns
  · intro i q hq
    cases hq
  · intro i _ r hr
    exact hf.fresh i r hr

theorem escapes_run {s₀ : Store} {j : ι} (hf : FreshSessions jobs s₀) (htokens : OlderTokens jobs)
    {g : State ι Store AuthStage} (h : Escapes jobs user_id b j g) {later : List ι}
    (hone : run.Every (auth_turn jobs) g (fun g _ => OneBulk b g) later) :
    Escapes jobs user_id b j (run.after (auth_turn jobs) g later) := by
  refine run.Every.inv h ?_ hone
  intro g i hone h
  rcases step_cases (lockStep fun i => auth_transaction (jobs i)) g i with heq | ⟨p, hp, heq⟩
  · unfold auth_turn
    rw [heq]
    exact h
  · unfold auth_turn
    rw [heq]
    exact h.move hf htokens hone hp

/-- One bulk revocation that no earlier sign-in survives is one that no
sign-in overlapped. -/
theorem calm_of_beaten {s₀ : Store} (hf : FreshSessions jobs s₀) (htokens : OlderTokens jobs)
    {past later : List ι}
    (hone : run.Every (auth_turn jobs) (auth_begin s₀) (fun g _ => OneBulk b g) (later ++ b :: past))
    (hend : ∀ i,
      ((run.after (auth_turn jobs) (auth_begin s₀) (later ++ b :: past)).locals i).finished = true)
    (hbeats : BeatsEarlier jobs user_id (run.after (auth_turn jobs) (auth_begin s₀) past)
      (run.after (auth_turn jobs) (auth_begin s₀) (later ++ b :: past))) :
    run.Every (auth_turn jobs) (auth_begin s₀) (fun g _ => Calm user_id b g) (b :: past) := by
  by_contra hnot
  obtain ⟨mid, i, first, heq, hloud⟩ := run.exists_of_not_every hnot
  simp only [Calm, not_forall, Bool.not_eq_false] at hloud
  obtain ⟨hb, j, hj⟩ := hloud
  have hsplit : later ++ b :: past = (later ++ (mid ++ [i])) ++ first := by
    rw [heq]
    simp
  rw [hsplit] at hone hend hbeats
  rw [run.every_append] at hone
  have hescapes := escapes_run hf htokens (escapes_of_named (named_run hf first) hb hj) hone.2
  rw [← run.after_append] at hescapes
  rcases hescapes.session with hissues | ⟨_, r, hr, hid, huser, hopen⟩
  · have hended := hend j
    rw [unfinished_of_issues hissues] at hended
    cases hended
  · -- The session of `j` is open, but `j` had made its check before the commit.
    obtain ⟨k, hk, hstart⟩ := hbeats r hr huser hopen
    obtain rfl := hf.apart k j (hk.symm.trans hid)
    have hchecked : (run.after (auth_turn jobs) (auth_begin s₀) first).locals k ≠ .start := by
      intro hstart
      rw [hstart] at hj
      cases hj
    cases mid with
    | nil =>
      obtain ⟨_, rfl⟩ := List.cons.inj heq
      exact hchecked hstart
    | cons b' mid =>
      obtain ⟨_, rfl⟩ := List.cons.inj heq
      have hlater := checked_run hchecked (mid ++ [i])
      rw [List.append_assoc] at hlater
      exact hlater hstart

/-- A bulk revocation leaves no session of an earlier check if no sign-in is
between its check and its commit while the UPDATE runs. One bulk revocation
alone leaves none only then. -/
theorem calm_bulk_revocations_beat_earlier_sign_ins (jobs : ι → AuthJob) (s₀ : Store)
    (user_id : UUID) (b : ι) (past later : List ι)
    (hready : Revokes user_id b (run.after (auth_turn jobs) (auth_begin s₀) past)) :
    (run.Every (auth_turn jobs) (auth_begin s₀) (fun g _ => Calm user_id b g) (b :: past) →
      BeatsEarlier jobs user_id (run.after (auth_turn jobs) (auth_begin s₀) past)
        (run.after (auth_turn jobs) (auth_begin s₀) (later ++ b :: past))) ∧
    (FreshSessions jobs s₀ → OlderTokens jobs →
      run.Every (auth_turn jobs) (auth_begin s₀) (fun g _ => OneBulk b g) (later ++ b :: past) →
      (∀ i,
        ((run.after (auth_turn jobs) (auth_begin s₀) (later ++ b :: past)).locals i).finished = true) →
      BeatsEarlier jobs user_id (run.after (auth_turn jobs) (auth_begin s₀) past)
        (run.after (auth_turn jobs) (auth_begin s₀) (later ++ b :: past)) →
      run.Every (auth_turn jobs) (auth_begin s₀) (fun g _ => Calm user_id b g) (b :: past)) :=
  ⟨fun hcalm => (later_run later hready hcalm).rows,
    fun hf htokens hone hend hbeats => calm_of_beaten hf htokens hone hend hbeats⟩

/-! ## A login across a password change -/

def samplePassword : ChangePasswordRequest where
  current_password := sampleLogin.password
  new_password := "battery staple".toList
  current_password_length := by decide
  new_password_length := staple_length

/-- The user signs in on one device and changes the password on another. -/
def passwordRace (i : Fin 2) : AuthJob where
  env := sampleDraws 2 i
  call := if i = 0 then .login sampleLogin else .change_password (sampleBearer 0 1) samplePassword
  scan := id
  scan_perm := .refl

omit [Platform] in
/-- The login checks the old password, the password is changed, the login
commits: its session is open, though both requests have ended. -/
theorem a_login_in_flight_survives_the_password_change :
    let s₀ := run.after (@serve samplePlatform) Store.empty (sampleRun.drop 8)
    let after := run.after (@auth_turn samplePlatform _ _ _ passwordRace) (auth_begin s₀)
    @Reachable samplePlatform s₀ ∧ Revokes 0 1 (after [1, 1, 1, 0]) ∧
      (∀ i, ((after [0, 1, 1, 1, 1, 0]).locals i).finished = true) ∧
      ¬ BeatsEarlier passwordRace 0 (after [1, 1, 1, 0]) (after [0, 1, 1, 1, 1, 0]) := by
  intro s₀ after
  refine ⟨?_, by decide +kernel, by decide +kernel, ?_⟩
  · exact ⟨sampleRun.drop 8, fresh_of_drawsInOrder [1, 0] rfl (by decide +kernel), rfl⟩
  · intro hbeats
    have hopen : ∃ r ∈ (after [0, 1, 1, 1, 1, 0]).shared.refresh_tokens,
        r.user_id = 0 ∧ r.revoked_at = none := by decide +kernel
    obtain ⟨r, hr, huser, hopen⟩ := hopen
    obtain ⟨i, _, hstart⟩ := hbeats r hr huser hopen
    have hchecked : ∀ i, ((after [1, 1, 1, 0]).locals i).checked = true ∨
      ((after [1, 1, 1, 0]).locals i).swept 0 = true := by decide +kernel
    have hi := hchecked i
    rw [hstart] at hi
    rcases hi with hi | hi <;> cases hi

omit [Platform] in
/-- A login that has committed before the password is changed is revoked with
the older session. -/
theorem a_login_before_the_password_change_is_revoked :
    let s₀ := run.after (@serve samplePlatform) Store.empty (sampleRun.drop 8)
    let after := run.after (@auth_turn samplePlatform _ _ _ passwordRace) (auth_begin s₀)
    BeatsEarlier passwordRace 0 (after [1, 1, 1, 1, 0, 0]) (after [1, 1, 1, 1, 1, 0, 0]) ∧
      ∀ r ∈ (after [1, 1, 1, 1, 1, 0, 0]).shared.refresh_tokens, r.revoked_at.isSome = true := by
  intro s₀ after
  refine ⟨?_, by decide +kernel⟩
  have hready : Revokes 0 1 (after [1, 1, 1, 1, 0, 0]) := by decide +kernel
  refine (@calm_bulk_revocations_beat_earlier_sign_ins samplePlatform _ _ _ passwordRace s₀ 0 1
    [1, 1, 1, 1, 0, 0] [] hready).1 ?_
  refine ⟨⟨⟨⟨⟨⟨⟨trivial, ?_⟩, ?_⟩, ?_⟩, ?_⟩, ?_⟩, ?_⟩, ?_⟩
  all_goals decide +kernel

end pulseforge

-- The seconds of a rate-limit error: a check that comes before them is over is
-- rejected again, and the first one after them is accepted.
import PulseForge.RateLimitWindow

open sliding

namespace pulseforge

/-! ## The window of a key -/

section
variable {past : List LimiterCall} {key : Text} {policy : RateLimitPolicy} {now : ℚ}

/-- The accepted checks of a key come in the order of their times. -/
theorem times_in_order (h : WellUsed past) :
    (timesOf key (acceptedCalls past)).Pairwise (· ≤ ·) ∧
      ∀ t, ReadBy t past → ∀ u ∈ timesOf key (acceptedCalls past), u ≤ t := by
  induction past with
  | nil => simp [acceptedCalls, timesOf]
  | cons call past ih =>
    obtain ⟨hord, hbound⟩ := ih h.past
    have hreads : ∀ t, ReadBy t (call :: past) → ReadBy t past :=
      fun t ht c hc => ht c (List.mem_cons_of_mem _ hc)
    cases call with
    | reset => simp [acceptedCalls, timesOf]
    | check other policy' now' =>
      unfold acceptedCalls
      split
      · rw [timesOf_append]
        by_cases hother : other = key
        · subst hother
          rw [timesOf_self]
          refine ⟨pairwise_snoc hord (hbound now' h.readBy), ?_⟩
          intro t ht u hu
          rcases List.mem_append.mp hu with hu | hu
          · exact hbound t (hreads t ht) u hu
          · rw [List.mem_singleton.mp hu]
            exact ht _ List.mem_cons_self now' rfl
        · rw [timesOf_other hother, List.append_nil]
          exact ⟨hord, fun t ht => hbound t (hreads t ht)⟩
      · exact ⟨hord, fun t ht => hbound t (hreads t ht)⟩

/-- No window of the policy holds more accepted checks than the limit. -/
theorem window_keeps_limit (h : WellUsed past) (hlimit : 1 ≤ policy.limit)
    (huse : ∀ policy' now', .check key policy' now' ∈ past → policy' = policy)
    (hread : ReadBy now past) :
    (countSince key (now - policy.window_seconds) (acceptedCalls past) : Int) ≤ policy.limit := by
  induction past generalizing now with
  | nil =>
    simp only [acceptedCalls, countSince, timesOf]
    exact (by omega : (0 : Int) ≤ policy.limit)
  | cons call past ih =>
    have huse' : ∀ policy' now', .check key policy' now' ∈ past → policy' = policy :=
      fun policy' now' hc => huse policy' now' (List.mem_cons_of_mem _ hc)
    have ih : (countSince key (now - policy.window_seconds) (acceptedCalls past) : Int) ≤ policy.limit :=
      ih h.past huse' fun c hc => hread c (List.mem_cons_of_mem _ hc)
    cases call with
    | reset =>
      simp only [acceptedCalls, countSince, timesOf]
      exact (by omega : (0 : Int) ≤ policy.limit)
    | check other policy' now' =>
      unfold acceptedCalls
      split
      · rename_i haccepted
        by_cases hother : other = key
        · subst hother
          obtain rfl := huse policy' now' List.mem_cons_self
          have hroom := (accepts_iff h).mp haccepted
          have hle : now' ≤ now := hread _ List.mem_cons_self now' rfl
          -- the window of a later check holds no more than the one of this check did
          have hshrink : (since (now - policy'.window_seconds)
              (timesOf other (acceptedCalls past))).length ≤
                (since (now' - policy'.window_seconds) (timesOf other (acceptedCalls past))).length := by
            rw [← since_since (sub_le_sub_right hle (policy'.window_seconds : ℚ))]
            exact List.length_filter_le _ _
          have hlast : (since (now - policy'.window_seconds) [now']).length ≤ 1 :=
            List.length_filter_le _ _
          unfold countSince at hroom ⊢
          rw [timesOf_append, timesOf_self, since_append, List.length_append]
          omega
        · unfold countSince at ih ⊢
          rwa [timesOf_append, timesOf_other hother, List.append_nil]
      · exact ih

/-- What a rejection says: its window is full, and the seconds are those until
the oldest check of the window leaves it. -/
theorem rejection_cases {r : Int} (h : WellUsed (.check key policy now :: past))
    (hr : (check_locked key policy now (limiterAfter past)).1 = .error (.RateLimitError r)) :
    ∃ oldest rest, since (now - policy.window_seconds) (timesOf key (acceptedCalls past)) =
        oldest :: rest ∧ ((oldest :: rest).length : Int) = policy.limit ∧
      now - policy.window_seconds < oldest ∧ oldest ≤ now ∧ r = ⌈oldest + policy.window_seconds - now⌉ := by
  have hmax := (h.windows key policy now List.mem_cons_self).2
  have huse : ∀ policy' now', .check key policy' now' ∈ past → policy' = policy :=
    fun policy' now' hc =>
      h.one_policy key policy' now' policy now (List.mem_cons_of_mem _ hc) List.mem_cons_self
  have hlimit := h.limits key policy now List.mem_cons_self
  have hrep : Represents (countWith everyThousandth now (limiterWith everyThousandth past))
      (slidingWindow past) key policy.window_seconds now :=
    (represents_window everyThousandth h.past hmax huse now h.readBy).counted hmax
  rw [← limiterAfter_eq, ← countCheck_eq, ← acceptedCalls_eq h.past] at hrep
  have hcurrent := hrep.current
  unfold check_locked decideBucket at hr
  simp only [hcurrent] at hr
  split at hr
  · rename_i hfull
    cases hwindow : since (now - policy.window_seconds) (timesOf key (acceptedCalls past)) with
    | nil =>
      simp [hwindow] at hfull
      omega
    | cons oldest rest =>
      have hkept := window_keeps_limit h.past hlimit huse h.readBy
      unfold countSince at hkept
      rw [hwindow] at hfull hr hkept
      have hmem : oldest ∈ since (now - policy.window_seconds) (timesOf key (acceptedCalls past)) := by
        simp [hwindow]
      obtain ⟨hold, hin⟩ := List.mem_filter.mp hmem
      have hin : now - policy.window_seconds < oldest := of_decide_eq_true hin
      refine ⟨oldest, rest, rfl, by omega, hin, (times_in_order h.past).2 now h.readBy oldest hold, ?_⟩
      have hpos : 1 ≤ ⌈oldest + policy.window_seconds - now⌉ := by
        rw [Int.one_le_ceil_iff]
        linarith
      simp only [retryAfter, Except.error.injEq, CheckError.RateLimitError.injEq] at hr
      omega
  · cases hr

/-- A check that is not accepted raises a rate-limit error. -/
theorem rejected_of_not_accepted (h : WellUsed (.check key policy now :: past))
    (hno : accepts past key policy now = false) :
    ∃ r, (check_locked key policy now (limiterAfter past)).1 = .error (.RateLimitError r) := by
  have hlimit := h.limits key policy now List.mem_cons_self
  unfold accepts at hno
  unfold check_locked decideBucket at hno ⊢
  simp only at hno ⊢
  split at hno
  · rename_i hfull
    rw [if_pos hfull]
    cases htimes : currentTimes key policy now (countCheck now (limiterAfter past)) with
    | nil =>
      simp [htimes] at hfull
      omega
    | cons oldest rest => exact ⟨_, rfl⟩
  · cases hno

end

/-! ## Between two checks -/

/-- No check of the key is accepted in the later calls. -/
def NoneAccepted (key : Text) (past : List LimiterCall) : List LimiterCall → Prop
  | [] => True
  | .reset :: later => NoneAccepted key past later
  | .check other policy now :: later => NoneAccepted key past later ∧
      (other = key → accepts (later ++ past) other policy now = false)

section
variable {key : Text} {past : List LimiterCall}

theorem acceptedCalls_check (other : Text) (policy : RateLimitPolicy) (now : ℚ) (past : List LimiterCall) :
    acceptedCalls (.check other policy now :: past) =
      if accepts past other policy now then acceptedCalls past ++ [(other, now)]
      else acceptedCalls past := rfl

/-- The window of the key holds what it held, or nothing since a reset. -/
theorem times_of_noneAccepted {later : List LimiterCall} (h : NoneAccepted key past later) :
    timesOf key (acceptedCalls (later ++ past)) = timesOf key (acceptedCalls past) ∨
      .reset ∈ later ∧ timesOf key (acceptedCalls (later ++ past)) = [] := by
  induction later with
  | nil => exact Or.inl rfl
  | cons call later ih =>
    cases call with
    | reset => exact Or.inr ⟨List.mem_cons_self, rfl⟩
    | check other policy now =>
      have hsame : timesOf key (acceptedCalls (.check other policy now :: (later ++ past))) =
          timesOf key (acceptedCalls (later ++ past)) := by
        rw [acceptedCalls_check]
        split
        · rename_i haccepted
          have hother : other ≠ key := by
            intro hkey
            rw [h.2 hkey] at haccepted
            cases haccepted
          rw [timesOf_append, timesOf_other hother, List.append_nil]
        · rfl
      rw [List.cons_append, hsame]
      exact (ih h.1).imp_right fun hreset => ⟨List.mem_cons_of_mem _ hreset.1, hreset.2⟩

end

/-! ## The seconds of a rejection -/

section
variable {key : Text} {policy : RateLimitPolicy} {now later : ℚ} {past between : List LimiterCall} {r : Int}

/-- The calls after a rejection, with the check that comes after them. -/
theorem WellUsed.drop_between (h : WellUsed (between ++ past)) : WellUsed past := by
  induction between with
  | nil => exact h
  | cons call between ih => exact ih h.past

theorem acceptedCalls_rejected
    (hr : (check_locked key policy now (limiterAfter past)).1 = .error (.RateLimitError r)) :
    acceptedCalls (.check key policy now :: past) = acceptedCalls past := by
  have hno : accepts past key policy now = false := by
    unfold accepts
    rw [hr]
    rfl
  simp [acceptedCalls, hno]

/-- A check before the seconds are over finds the window of the rejection. -/
theorem rejected_before
    (hr : (check_locked key policy now (limiterAfter past)).1 = .error (.RateLimitError r))
    (h : WellUsed (.check key policy later :: (between ++ .check key policy now :: past)))
    (hnone : NoneAccepted key (.check key policy now :: past) between) (hreset : .reset ∉ between)
    (hearly : later ≤ now + r - 1) :
    accepts (between ++ .check key policy now :: past) key policy later = false := by
  have hbefore : WellUsed (.check key policy now :: past) := h.past.drop_between
  obtain ⟨oldest, rest, hwindow, hlength, _, _, rfl⟩ := rejection_cases hbefore hr
  have hkept := (times_of_noneAccepted hnone).resolve_right fun hmem => hreset hmem.1
  rw [acceptedCalls_rejected hr] at hkept
  have hceil := Int.ceil_lt_add_one (oldest + policy.window_seconds - now)
  have hcut : later - policy.window_seconds < oldest := by linarith
  have hfull := since_length_le (times_in_order hbefore.past).1 hwindow hcut
  rw [Bool.eq_false_iff]
  intro haccepted
  have hroom := (accepts_iff h).mp haccepted
  unfold countSince at hroom
  rw [hkept] at hroom
  omega

/-- So no check of the key in between is accepted either. -/
theorem noneAccepted_before
    (hr : (check_locked key policy now (limiterAfter past)).1 = .error (.RateLimitError r))
    (h : WellUsed (between ++ .check key policy now :: past)) (hreset : .reset ∉ between)
    (hearly : ∀ call ∈ between, ∀ t ∈ call.now?, t ≤ now + r - 1) :
    NoneAccepted key (.check key policy now :: past) between := by
  induction between with
  | nil => trivial
  | cons call between ih =>
    have hreset' : .reset ∉ between := fun hmem => hreset (List.mem_cons_of_mem _ hmem)
    have ih := ih h.past hreset' fun c hc => hearly c (List.mem_cons_of_mem _ hc)
    cases call with
    | reset => exact absurd List.mem_cons_self hreset
    | check other policy' now' =>
      refine ⟨ih, ?_⟩
      rintro rfl
      obtain rfl : policy' = policy := h.one_policy other policy' now' policy now List.mem_cons_self
        (List.mem_cons_of_mem _ (List.mem_append_right _ List.mem_cons_self))
      exact rejected_before hr h ih hreset' (hearly _ List.mem_cons_self now' rfl)

end

/-- A rejection at the time `now` tells how long it holds: at least a second and
at most a window. From then on the next check of the key is accepted; until a
second before, every check of it is rejected, whatever the other keys do. -/
theorem retry_after_is_exact (past : List LimiterCall) (key : Text) (policy : RateLimitPolicy) (now : ℚ)
    (r : Int) (h : WellUsed (.check key policy now :: past))
    (hr : (check_locked key policy now (limiterAfter past)).1 = .error (.RateLimitError r)) :
    1 ≤ r ∧ r ≤ policy.window_seconds ∧ ∀ between later,
      WellUsed (.check key policy later :: (between ++ .check key policy now :: past)) →
        (now + r ≤ later → NoneAccepted key (.check key policy now :: past) between →
          accepts (between ++ .check key policy now :: past) key policy later = true) ∧
        (later ≤ now + r - 1 → .reset ∉ between →
          ∃ r', (check_locked key policy later
            (limiterAfter (between ++ .check key policy now :: past))).1 = .error (.RateLimitError r')) := by
  obtain ⟨oldest, rest, hwindow, hlength, hin, hle, hceil⟩ := rejection_cases h hr
  have hone : 1 ≤ r := by
    rw [hceil, Int.one_le_ceil_iff]
    linarith
  have hwidth : r ≤ policy.window_seconds := by
    rw [hceil, Int.ceil_le]
    linarith
  refine ⟨hone, hwidth, ?_⟩
  intro between later hlater
  constructor
  · intro hwaited hnone
    have hreached : oldest ≤ later - policy.window_seconds := by
      have hle := Int.le_ceil (oldest + policy.window_seconds - now)
      rw [← hceil] at hle
      linarith
    have hpos : (1 : ℚ) ≤ r := by exact_mod_cast hone
    have hgone : (since (later - policy.window_seconds) (timesOf key (acceptedCalls past))).length ≤
        rest.length := since_length_lt (by linarith) hwindow hreached
    refine (accepts_iff hlater).mpr ?_
    have hlimit := h.limits key policy now List.mem_cons_self
    simp only [List.length_cons, Nat.cast_add, Nat.cast_one] at hlength
    unfold countSince
    rcases times_of_noneAccepted hnone with htimes | ⟨_, htimes⟩
    · rw [htimes, acceptedCalls_rejected hr]
      omega
    · rw [htimes]
      simp only [since_nil, List.length_nil, Nat.cast_zero]
      omega
  · intro hearly hreset
    refine rejected_of_not_accepted hlater ?_
    have hclock : ∀ call ∈ between, ∀ t ∈ call.now?, t ≤ now + r - 1 :=
      fun call hcall t ht => (hlater.readBy call (List.mem_append_left _ hcall) t ht).trans hearly
    exact rejected_before hr hlater (noneAccepted_before hr hlater.past hreset hclock) hreset hearly

/-- The sixth sign-in of a client, 41 seconds after the first one, is to wait 19
seconds: after 18 it is rejected again, and after 19 it is accepted. -/
theorem a_sixth_sign_in_waits :
    let sixth : List LimiterCall := .check "login:a".toList LOGIN_RATE_LIMIT 41 :: sampleCalls
    (check_locked "login:a".toList LOGIN_RATE_LIMIT 41 (limiterAfter sampleCalls)).1 =
        .error (.RateLimitError 19) ∧
      accepts sixth "login:a".toList LOGIN_RATE_LIMIT 60 = true ∧
      ∃ r, (check_locked "login:a".toList LOGIN_RATE_LIMIT 59 (limiterAfter sixth)).1 =
        .error (.RateLimitError r) := by
  intro sixth
  have hused : ∀ later : ℚ, 41 ≤ later →
      WellUsed (.check "login:a".toList LOGIN_RATE_LIMIT later :: sixth) := by
    intro later hlater
    refine wellUsed_of_policies samplePolicy ?_ ?_ samplePolicy_allowed
    · simp [sixth, sampleCalls, LimiterCall.now?]
      refine ⟨⟨hlater, ?_⟩, ?_⟩
      · refine ⟨?_, ?_, ?_, ?_, ?_, ?_⟩ <;> linarith
      · norm_num
    · intro key policy now hc
      simp only [sixth, sampleCalls, List.mem_cons, LimiterCall.check.injEq, List.not_mem_nil,
        or_false] at hc
      rcases hc with ⟨rfl, rfl, _⟩ | ⟨rfl, rfl, _⟩ | ⟨rfl, rfl, _⟩ | ⟨rfl, rfl, _⟩ | ⟨rfl, rfl, _⟩ |
        ⟨rfl, rfl, _⟩ | ⟨rfl, rfl, _⟩ | ⟨rfl, rfl, _⟩ <;> rfl
  have hr : (check_locked "login:a".toList LOGIN_RATE_LIMIT 41 (limiterAfter sampleCalls)).1 =
      .error (.RateLimitError 19) := by decide +kernel
  obtain ⟨_, _, hnext⟩ := retry_after_is_exact sampleCalls _ _ 41 19 (hused 41 le_rfl).past hr
  refine ⟨hr, ?_, ?_⟩
  · exact (hnext [] 60 (hused 60 (by norm_num))).1 (by norm_num) trivial
  · exact (hnext [] 59 (hused 59 (by norm_num))).2 (by norm_num) (by simp)

end pulseforge

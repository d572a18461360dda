-- Checks of one key in several threads. A check reads the clock before it takes
-- the lock, so the bodies may run in another order than their readings, and a
-- body with a later reading may drop what one with an earlier reading should
-- have counted. The limit holds in every run in which no body comes after such
-- a one with its window full of bodies.
import Mathlib.Algebra.BigOperators.Group.Finset.Basic
import PulseForge.Lib.Interleave
import PulseForge.RateLimitWindow

open interleave sliding

namespace pulseforge

/-! ## The threads -/

/-- Where a call of `check` stands: it has not begun, it has read the clock and
waits for the lock, or it is over. -/
inductive CheckStage
  | start
  | waiting (now : ℚ)
  | ended (now : ℚ) (result : Except CheckError Unit)

/-- The limiter of the process, and how often its clock was read. -/
structure LimiterProcess where
  limiter : InMemoryRateLimiter
  readings : Nat

/-- Reading number `n` of the clock is `clock n`, whichever thread takes it. -/
def check_next (clock : Nat → ℚ) (key : Text) (policy : RateLimitPolicy) (s : LimiterProcess) :
    CheckStage → Option (LimiterProcess × CheckStage)
  | .start => some ({ s with readings := s.readings + 1 }, .waiting (clock s.readings))
  | .waiting now =>
    let result := check_locked key policy now s.limiter
    some ({ s with limiter := result.2 }, .ended now result.1)
  | .ended _ _ => none

variable {ι : Type} [DecidableEq ι]

def checks_begin : State ι LimiterProcess CheckStage :=
  ⟨⟨InMemoryRateLimiter.new, 0⟩, fun _ => .start⟩

def checks_turn (clock : Nat → ℚ) (key : Text) (policy : RateLimitPolicy) :
    State ι LimiterProcess CheckStage → ι → State ι LimiterProcess CheckStage :=
  step fun i g => check_next clock key policy g.shared (g.locals i)

/-- The clock reading of an accepted call. -/
def CheckStage.accepted : CheckStage → Option ℚ
  | .ended now result => if result.isOk then some now else none
  | _ => none

/-- The clock readings of all accepted calls. -/
def acceptedReadings [Fintype ι] (g : State ι LimiterProcess CheckStage) : Multiset ℚ :=
  ∑ i, ((g.locals i).accepted.toList : Multiset ℚ)

/-- The readings in `(t - window_seconds, t]`. -/
def readingsUpTo (policy : RateLimitPolicy) (t : ℚ) (readings : Multiset ℚ) : Multiset ℚ :=
  readings.filter fun a => t - policy.window_seconds < a ∧ a ≤ t

theorem readingsUpTo_cons (policy : RateLimitPolicy) (t now : ℚ) (readings : Multiset ℚ) :
    readingsUpTo policy t (now ::ₘ readings) =
      if t - policy.window_seconds < now ∧ now ≤ t then now ::ₘ readingsUpTo policy t readings
      else readingsUpTo policy t readings := by
  split
  · exact Multiset.filter_cons_of_pos _ ‹_›
  · exact Multiset.filter_cons_of_neg _ ‹_›

theorem count_readingsUpTo (policy : RateLimitPolicy) (t a : ℚ) (readings : Multiset ℚ) :
    (readingsUpTo policy t readings).count a =
      if t - policy.window_seconds < a ∧ a ≤ t then readings.count a else 0 := by
  split
  · exact Multiset.count_filter_of_pos ‹_›
  · exact Multiset.count_filter_of_neg ‹_›

/-- What the body of a check with this reading finds in its bucket. -/
def foundTimes (key : Text) (policy : RateLimitPolicy) (now : ℚ) (limiter : InMemoryRateLimiter) :
    List ℚ := currentTimes key policy now (countCheck now limiter)

/-- The reading of a call that waits for the lock. -/
def CheckStage.reading : CheckStage → Option ℚ
  | .waiting now => some now
  | _ => none

/-- The readings of the locked bodies that ran, newest body first. -/
def bodies (clock : Nat → ℚ) (key : Text) (policy : RateLimitPolicy) : List ι → List ℚ :=
  run.part (checks_turn clock key policy) checks_begin fun g i => (g.locals i).reading

/-- A body that ran later may have dropped the reading: its own is a window
later, so that it evicts it; or it swept, and the body between them had an
earlier reading, by which the bucket was idle. -/
def MayBeLost (policy : RateLimitPolicy) (t : ℚ) : List ℚ → Prop
  | [] => False
  | later :: ran => MayBeLost policy t ran ∨ (t ∈ ran ∧ t + policy.window_seconds ≤ later) ∨
      ((ran.length + 1) % 1000 = 0 ∧ ∃ last, [last, t].Sublist ran ∧ last < t ∧
        last + MAX_RATE_LIMIT_WINDOW_SECONDS ≤ later)

/-- The body that is about to run is in one window with as many bodies before
it as the limit allows, and one of these may be lost by now. -/
def ComesLate (clock : Nat → ℚ) (key : Text) (policy : RateLimitPolicy) (past : List ι) (i : ι) : Prop :=
  ∃ now t, (run.after (checks_turn clock key policy) checks_begin past).locals i = .waiting now ∧
    t - policy.window_seconds < now ∧ now ≤ t ∧
    policy.limit ≤ (readingsUpTo policy t (bodies clock key policy past)).card ∧
    ∃ a ∈ readingsUpTo policy t (bodies clock key policy past),
      MayBeLost policy a (now :: bodies clock key policy past)

/-- The body that is about to run has a reading that is not before those of
the bodies that ran. -/
def InOrder (clock : Nat → ℚ) (key : Text) (policy : RateLimitPolicy) (past : List ι) (i : ι) : Prop :=
  ∀ now ∈ ((run.after (checks_turn clock key policy) checks_begin past).locals i).reading,
    ∀ earlier ∈ bodies clock key policy past, earlier ≤ now

/-! ## One turn -/

section
variable [Fintype ι] {clock : Nat → ℚ} {key : Text} {policy : RateLimitPolicy}
  {g : State ι LimiterProcess CheckStage} {i : ι}

theorem acceptedReadings_move (h : (g.locals i).accepted = none) (p : LimiterProcess × CheckStage) :
    acceptedReadings (g.move i p) = p.2.accepted.toList + acceptedReadings g := by
  unfold acceptedReadings
  rw [← Finset.add_sum_erase _ _ (Finset.mem_univ i), ← Finset.add_sum_erase _ _ (Finset.mem_univ i)]
  have hrest : (∑ j ∈ Finset.univ.erase i, (((g.move i p).locals j).accepted.toList : Multiset ℚ)) =
      ∑ j ∈ Finset.univ.erase i, ((g.locals j).accepted.toList : Multiset ℚ) :=
    Finset.sum_congr rfl fun j hj => by rw [move_other (Finset.ne_of_mem_erase hj)]
  rw [hrest, move_self, h]
  simp

theorem isOk_decideBucket {now : ℚ} {limiter : InMemoryRateLimiter} :
    (decideBucket key policy now limiter).1.isOk = true ↔
      ((currentTimes key policy now limiter).length : Int) < policy.limit := by
  unfold decideBucket
  simp only
  split
  · rename_i hfull
    exact iff_of_false nofun (not_lt.mpr hfull)
  · rename_i hroom
    exact iff_of_true rfl (not_le.mp hroom)

omit [Fintype ι] in
variable (clock key policy) in
/-- A turn is that of a call that is over, or it reads the clock, or it is a body. -/
theorem checks_turn_cases (g : State ι LimiterProcess CheckStage) (i : ι) :
    ((g.locals i).reading = none ∧ checks_turn clock key policy g i = g) ∨
      (g.locals i = .start ∧ checks_turn clock key policy g i =
        g.move i (⟨g.shared.limiter, g.shared.readings + 1⟩, .waiting (clock g.shared.readings))) ∨
      ∃ now, g.locals i = .waiting now ∧ checks_turn clock key policy g i =
        g.move i (⟨(check_locked key policy now g.shared.limiter).2, g.shared.readings⟩,
          .ended now (check_locked key policy now g.shared.limiter).1) := by
  unfold checks_turn
  cases hstage : g.locals i with
  | start => exact Or.inr (Or.inl ⟨rfl, step_of_some (by rw [hstage]; rfl)⟩)
  | waiting now => exact Or.inr (Or.inr ⟨now, rfl, step_of_some (by rw [hstage]; rfl)⟩)
  | ended now result => exact Or.inl ⟨rfl, step_of_none (by rw [hstage]; rfl)⟩

variable (clock key policy) in
/-- The accepted calls after a turn: those before it, and the call of the turn
when its body found room. -/
theorem acceptedReadings_turn (g : State ι LimiterProcess CheckStage) (i : ι) :
    acceptedReadings (checks_turn clock key policy g i) = acceptedReadings g ∨
      ∃ now, g.locals i = .waiting now ∧
        ((foundTimes key policy now g.shared.limiter).length : Int) < policy.limit ∧
        acceptedReadings (checks_turn clock key policy g i) = now ::ₘ acceptedReadings g := by
  rcases checks_turn_cases clock key policy g i with
    ⟨_, heq⟩ | ⟨hstage, heq⟩ | ⟨now, hstage, heq⟩
  · rw [heq]
    exact Or.inl rfl
  · refine Or.inl ?_
    rw [heq, acceptedReadings_move (by rw [hstage]; rfl)]
    simp [CheckStage.accepted]
  · rw [heq, acceptedReadings_move (by rw [hstage]; rfl)]
    by_cases hroom : ((foundTimes key policy now g.shared.limiter).length : Int) < policy.limit
    · have hok : (check_locked key policy now g.shared.limiter).1.isOk = true :=
        isOk_decideBucket.mpr hroom
      refine Or.inr ⟨now, hstage, hroom, ?_⟩
      simp [CheckStage.accepted, hok]
    · have hrejected : (check_locked key policy now g.shared.limiter).1.isOk = false :=
        Bool.eq_false_iff.mpr fun hok => hroom (isOk_decideBucket.mp hok)
      refine Or.inl ?_
      simp [CheckStage.accepted, hrejected]

/-- No window of one width holds more than the limit. -/
def KeepsLimit (policy : RateLimitPolicy) (g : State ι LimiterProcess CheckStage) : Prop :=
  ∀ t, ((readingsUpTo policy t (acceptedReadings g)).card : Int) ≤ policy.limit

end

/-! ## What a body finds -/

section
variable {key : Text} {policy : RateLimitPolicy} {now t : ℚ} {limiter : InMemoryRateLimiter}
  {ran : List ℚ}

/-- A body finds its bucket as it is, unless it sweeps and the bucket is idle. -/
theorem bucket_countCheck (now : ℚ) (limiter : InMemoryRateLimiter) (key : Text) :
    (countCheck now limiter).bucket key = limiter.bucket key ∨
      (countCheck now limiter).bucket key = [] ∧ (limiter.checks + 1) % 1000 = 0 ∧
        isIdle (now - MAX_RATE_LIMIT_WINDOW_SECONDS) (limiter.bucket key) = true := by
  unfold countCheck
  simp only
  split
  · rename_i hsweeps
    rw [bucket_sweep]
    split
    · rename_i hidle
      exact Or.inr ⟨rfl, hsweeps, hidle⟩
    · exact Or.inl rfl
  · exact Or.inl rfl

theorem foundTimes_suffix : foundTimes key policy now limiter <:+ limiter.bucket key := by
  refine (List.dropWhile_suffix _).trans ?_
  rcases bucket_countCheck now limiter key with heq | ⟨heq, _⟩
  · rw [heq]
  · rw [heq]
    exact List.nil_suffix

theorem isIdle_iff {cutoff : ℚ} {times : List ℚ} (h : isIdle cutoff times = true) :
    times = [] ∨ ∃ first last, times = first ++ [last] ∧ last ≤ cutoff := by
  unfold isIdle at h
  rcases List.eq_nil_or_concat times with rfl | ⟨first, last, rfl⟩
  · exact Or.inl rfl
  · refine Or.inr ⟨first, last, List.concat_eq_append, ?_⟩
    simpa using h

/-- A body finds every reading of its bucket that it does not lose. -/
theorem count_foundTimes (hwindow : policy.window_seconds ≤ MAX_RATE_LIMIT_WINDOW_SECONDS)
    (hchecks : limiter.checks = ran.length) (horder : (limiter.bucket key).reverse.Sublist ran)
    (h : ¬ MayBeLost policy t (now :: ran)) :
    (limiter.bucket key).count t ≤ (foundTimes key policy now limiter).count t := by
  by_cases hin : t ∈ limiter.bucket key
  · have hran : t ∈ ran := horder.subset (List.mem_reverse.mpr hin)
    have hlate : now - policy.window_seconds < t := by
      by_contra hnot
      exact h (Or.inr (Or.inl ⟨hran, by linarith⟩))
    have hwindow : (policy.window_seconds : ℚ) ≤ MAX_RATE_LIMIT_WINDOW_SECONDS := by
      exact_mod_cast hwindow
    rcases bucket_countCheck now limiter key with hsame | ⟨_, hsweeps, hidle⟩
    · unfold foundTimes currentTimes
      rw [hsame, count_dropWhile _ (by simpa using hlate)]
    · -- the sweep took the bucket, whose last reading is not after this one
      rcases isIdle_iff hidle with hnil | ⟨first, last, hbucket, hlast⟩
      · rw [hnil] at hin
        cases hin
      · exfalso
        by_cases hbefore : last < t
        · refine h (Or.inr (Or.inr ⟨by rwa [← hchecks], last, ?_, hbefore, by linarith⟩))
          have hfirst : t ∈ first := by
            rw [hbucket] at hin
            rcases List.mem_append.mp hin with hin | hin
            · exact hin
            · exact absurd (List.mem_singleton.mp hin) hbefore.ne'
          refine List.Sublist.trans ?_ horder
          rw [hbucket, List.reverse_append]
          exact (List.singleton_sublist.mpr (List.mem_reverse.mpr hfirst)).cons_cons last
        · linarith
  · rw [List.count_eq_zero_of_not_mem hin]
    exact Nat.zero_le _

end

/-! ## The run -/

theorem bodies_cons (clock : Nat → ℚ) (key : Text) (policy : RateLimitPolicy) (past : List ι) (i : ι) :
    bodies clock key policy (i :: past) =
      ((run.after (checks_turn clock key policy) checks_begin past).locals i).reading.toList ++
        bodies clock key policy past := by
  unfold bodies
  rw [run.part]
  cases ((run.after (checks_turn clock key policy) checks_begin past).locals i).reading <;> rfl

/-- The limiter against the bodies that ran: the bucket has the accepted
readings in the order of their bodies, and every one that is not lost. -/
structure CountsBodies [Fintype ι] (key : Text) (policy : RateLimitPolicy)
    (g : State ι LimiterProcess CheckStage) (ran : List ℚ) : Prop where
  checks : g.shared.limiter.checks = ran.length
  order : (g.shared.limiter.bucket key).reverse.Sublist ran
  accepted : acceptedReadings g ≤ (ran : Multiset ℚ)
  kept : ∀ t, ¬ MayBeLost policy t ran →
    (acceptedReadings g).count t ≤ (g.shared.limiter.bucket key).count t

section
variable [Fintype ι] {clock : Nat → ℚ} {key : Text} {policy : RateLimitPolicy}
  {g : State ι LimiterProcess CheckStage} {i : ι} {now : ℚ} {ran : List ℚ}

omit [DecidableEq ι] in
theorem countsBodies_begin :
    CountsBodies key policy (checks_begin : State ι LimiterProcess CheckStage) [] := by
  have hnone : acceptedReadings (checks_begin : State ι LimiterProcess CheckStage) = 0 := by
    simp [acceptedReadings, checks_begin, CheckStage.accepted]
  refine ⟨rfl, List.Sublist.slnil, ?_, fun t _ => ?_⟩
  · rw [hnone]
    exact le_refl _
  · rw [hnone]
    exact Nat.zero_le _

/-- The body of a check: it keeps what it finds, and adds its reading if there is room. -/
theorem check_locked_bucket (key : Text) (policy : RateLimitPolicy) (now : ℚ)
    (limiter : InMemoryRateLimiter) :
    (check_locked key policy now limiter).2.checks = limiter.checks + 1 ∧
      (check_locked key policy now limiter).2.bucket key = foundTimes key policy now limiter ++
        (if (check_locked key policy now limiter).1.isOk then [now] else []) := by
  unfold check_locked decideBucket foundTimes
  simp only
  have hchecks : (countCheck now limiter).checks = limiter.checks + 1 := by
    unfold countCheck
    simp only
    split <;> rfl
  split
  · refine ⟨hchecks, ?_⟩
    rw [bucket_setBucket]
    exact (List.append_nil _).symm
  · refine ⟨hchecks, ?_⟩
    rw [bucket_setBucket]
    rfl

theorem CountsBodies.body (h : CountsBodies key policy g ran)
    (hwindow : policy.window_seconds ≤ MAX_RATE_LIMIT_WINDOW_SECONDS)
    (hstage : g.locals i = .waiting now) :
    CountsBodies key policy (g.move i (⟨(check_locked key policy now g.shared.limiter).2, g.shared.readings⟩,
      .ended now (check_locked key policy now g.shared.limiter).1)) (now :: ran) := by
  obtain ⟨hchecks, hbucket⟩ := check_locked_bucket key policy now g.shared.limiter
  have haccepted := acceptedReadings_move (by rw [hstage]; rfl)
    (⟨(check_locked key policy now g.shared.limiter).2, g.shared.readings⟩,
      CheckStage.ended now (check_locked key policy now g.shared.limiter).1)
  have hfound : (foundTimes key policy now g.shared.limiter).reverse.Sublist ran :=
    foundTimes_suffix.sublist.reverse.trans h.order
  simp only [CheckStage.accepted] at haccepted
  refine ⟨?_, ?_, ?_, fun t ht => ?_⟩
  · rw [move_shared, hchecks, h.checks, List.length_cons]
  · rw [move_shared, hbucket, List.reverse_append]
    split
    · exact hfound.cons_cons now
    · exact hfound.cons now
  · rw [haccepted]
    split
    · exact Multiset.cons_le_cons now h.accepted
    · refine (le_of_eq ?_).trans (h.accepted.trans (Multiset.le_cons_self _ now))
      exact zero_add _
  · have hnow := (h.kept t fun hlost => ht (Or.inl hlost)).trans
      (count_foundTimes hwindow h.checks h.order ht)
    rw [haccepted, move_shared, hbucket, List.count_append]
    split
    · have hadded : (([now] : List ℚ) : Multiset ℚ).count t = [now].count t := Multiset.coe_count ..
      rw [Option.toList_some, Multiset.count_add, hadded]
      omega
    · simpa using hnow

variable (clock key policy) in
theorem CountsBodies.turn {past : List ι} (hwindow : policy.window_seconds ≤ MAX_RATE_LIMIT_WINDOW_SECONDS)
    (h : CountsBodies key policy (run.after (checks_turn clock key policy) checks_begin past)
      (bodies clock key policy past)) (i : ι) :
    CountsBodies key policy (run.after (checks_turn clock key policy) checks_begin (i :: past))
      (bodies clock key policy (i :: past)) := by
  have hbodies : ∀ reading, ((run.after (checks_turn clock key policy) checks_begin past).locals i).reading =
      reading → bodies clock key policy (i :: past) = reading.toList ++ bodies clock key policy past := by
    rintro reading rfl
    exact bodies_cons clock key policy past i
  rw [run.after_cons]
  rcases checks_turn_cases clock key policy
    (run.after (checks_turn clock key policy) checks_begin past) i with
    ⟨hstage, heq⟩ | ⟨hstage, heq⟩ | ⟨now, hstage, heq⟩
  · rw [heq, hbodies none hstage]
    exact h
  · rw [heq, hbodies none (by rw [hstage]; rfl)]
    have hsame := acceptedReadings_move (g := run.after (checks_turn clock key policy) checks_begin past)
      (by rw [hstage]; rfl)
      (⟨(run.after (checks_turn clock key policy) checks_begin past).shared.limiter,
        (run.after (checks_turn clock key policy) checks_begin past).shared.readings + 1⟩,
        CheckStage.waiting (clock (run.after (checks_turn clock key policy) checks_begin past).shared.readings))
    have hsame := hsame.trans (zero_add _)
    exact ⟨h.checks, h.order, hsame ▸ h.accepted, hsame ▸ h.kept⟩
  · rw [heq, hbodies (some now) (by rw [hstage]; rfl)]
    exact h.body hwindow hstage

end

/-! ## Every interleaving -/

theorem countsBodies_run [Fintype ι] (clock : Nat → ℚ) (key : Text) {policy : RateLimitPolicy}
    (hwindow : policy.window_seconds ≤ MAX_RATE_LIMIT_WINDOW_SECONDS) (past : List ι) :
    CountsBodies key policy (run.after (checks_turn clock key policy) checks_begin past)
      (bodies clock key policy past) := by
  induction past with
  | nil => exact countsBodies_begin
  | cons i past ih => exact ih.turn clock key policy hwindow i

/-- A window that the body belongs to holds less than the limit, where the body
finds room and does not come late. -/
theorem window_has_room [Fintype ι] {clock : Nat → ℚ} {key : Text} {policy : RateLimitPolicy}
    (hwindow : policy.window_seconds ≤ MAX_RATE_LIMIT_WINDOW_SECONDS) {past : List ι} {i : ι} {now t : ℚ}
    (hstage : (run.after (checks_turn clock key policy) checks_begin past).locals i = .waiting now)
    (hroom : ((foundTimes key policy now (run.after (checks_turn clock key policy) checks_begin
      past).shared.limiter).length : Int) < policy.limit)
    (h : ¬ ComesLate clock key policy past i) (hafter : t - policy.window_seconds < now)
    (hbefore : now ≤ t) :
    ((readingsUpTo policy t (acceptedReadings (run.after (checks_turn clock key policy) checks_begin
      past))).card : Int) < policy.limit := by
  have hcounts := countsBodies_run clock key hwindow past
  by_cases hfull : policy.limit ≤ (readingsUpTo policy t (bodies clock key policy past)).card
  · -- none of the bodies in the window is lost, so that the bucket has them all
    refine lt_of_le_of_lt ?_ hroom
    have hle : readingsUpTo policy t (acceptedReadings (run.after (checks_turn clock key policy)
        checks_begin past)) ≤ (foundTimes key policy now (run.after (checks_turn clock key policy)
          checks_begin past).shared.limiter : Multiset ℚ) := by
      refine Multiset.le_iff_count.mpr fun a => ?_
      by_cases ha : t - policy.window_seconds < a ∧ a ≤ t
      · rw [count_readingsUpTo, if_pos ha, Multiset.coe_count]
        by_cases hran : a ∈ bodies clock key policy past
        · have hfound : ¬ MayBeLost policy a (now :: bodies clock key policy past) := by
            intro hlost
            refine h ⟨now, t, hstage, hafter, hbefore, hfull, a, ?_, hlost⟩
            exact Multiset.mem_filter.mpr ⟨Multiset.mem_coe.mpr hran, ha⟩
          exact (hcounts.kept a fun hlost => hfound (Or.inl hlost)).trans
            (count_foundTimes hwindow hcounts.checks hcounts.order hfound)
        · rw [Multiset.count_eq_zero_of_notMem]
          · exact Nat.zero_le _
          · exact fun hin => hran (Multiset.mem_coe.mp (Multiset.mem_of_le hcounts.accepted hin))
      · rw [count_readingsUpTo, if_neg ha]
        exact Nat.zero_le _
    have hcard := Multiset.card_le_card hle
    rw [Multiset.coe_card] at hcard
    exact_mod_cast hcard
  · have hle := Multiset.card_le_card (Multiset.filter_le_filter
      (fun a => t - policy.window_seconds < a ∧ a ≤ t) hcounts.accepted)
    rw [not_le] at hfull
    exact lt_of_le_of_lt (by exact_mod_cast hle) hfull

/-- In every run in which no body comes late, no window of the policy's width
ever holds more accepted calls than the limit. -/
theorem checks_keep_the_limit_unless_one_comes_late [Fintype ι] (clock : Nat → ℚ) (key : Text)
    (policy : RateLimitPolicy) (hlimit : 1 ≤ policy.limit)
    (hwindow : policy.window_seconds ≤ MAX_RATE_LIMIT_WINDOW_SECONDS) (turns : List ι)
    (h : run.Each (fun past i => ¬ ComesLate clock key policy past i) turns) :
    KeepsLimit policy (run.after (checks_turn clock key policy) checks_begin turns) := by
  induction turns with
  | nil =>
    intro t
    have hnone : acceptedReadings (checks_begin : State ι LimiterProcess CheckStage) = 0 := by
      simp [acceptedReadings, checks_begin, CheckStage.accepted]
    rw [run.after_nil, hnone]
    exact_mod_cast (zero_le_one.trans hlimit : (0 : Int) ≤ policy.limit)
  | cons i past ih =>
    intro t
    rcases acceptedReadings_turn clock key policy
      (run.after (checks_turn clock key policy) checks_begin past) i with
      heq | ⟨now, hstage, hroom, heq⟩
    · rw [run.after_cons, heq]
      exact ih h.1 t
    · rw [run.after_cons, heq]
      by_cases hin : t - policy.window_seconds < now ∧ now ≤ t
      · have hless := window_has_room hwindow hstage hroom h.2 hin.1 hin.2
        rw [readingsUpTo_cons, if_pos hin, Multiset.card_cons]
        omega
      · rw [readingsUpTo_cons, if_neg hin]
        exact ih h.1 t

/-! ## Bodies in the order of their readings -/

/-- Where the bodies kept their order, a reading is lost only out of its window. -/
theorem evicted_of_mayBeLost {policy : RateLimitPolicy} {t : ℚ} {ran : List ℚ}
    (horder : ran.Pairwise (· ≥ ·)) (h : MayBeLost policy t ran) :
    ∃ later ∈ ran, t + policy.window_seconds ≤ later := by
  induction ran with
  | nil => exact h.elim
  | cons now ran ih =>
    obtain ⟨_, horder⟩ := List.pairwise_cons.mp horder
    rcases h with h | ⟨_, hlate⟩ | ⟨_, last, hsub, hbefore, _⟩
    · obtain ⟨later, hmem, hlate⟩ := ih horder h
      exact ⟨later, List.mem_cons_of_mem _ hmem, hlate⟩
    · exact ⟨now, List.mem_cons_self, hlate⟩
    · have hpair := horder.sublist hsub
      exact absurd (List.rel_of_pairwise_cons hpair (List.mem_singleton_self t)) (not_le.mpr hbefore)

/-- In a run whose bodies keep the order of their readings none comes late. -/
theorem checks_in_order_come_in_time (clock : Nat → ℚ) (key : Text) (policy : RateLimitPolicy)
    {turns : List ι} (h : run.Each (InOrder clock key policy) turns) :
    run.Each (fun past i => ¬ ComesLate clock key policy past i) turns := by
  suffices hboth : (bodies clock key policy turns).Pairwise (· ≥ ·) ∧
      run.Each (fun past i => ¬ ComesLate clock key policy past i) turns from hboth.2
  induction turns with
  | nil => exact ⟨List.Pairwise.nil, trivial⟩
  | cons i past ih =>
    obtain ⟨horder, hpast⟩ := ih h.1
    have hnow : ∀ now, (run.after (checks_turn clock key policy) checks_begin past).locals i = .waiting now →
        (now :: bodies clock key policy past).Pairwise (· ≥ ·) := by
      intro now hstage
      refine List.pairwise_cons.mpr ⟨fun earlier hran => ?_, horder⟩
      exact h.2 now (by rw [hstage]; rfl) earlier hran
    refine ⟨?_, hpast, ?_⟩
    · rw [bodies_cons]
      cases hstage : (run.after (checks_turn clock key policy) checks_begin past).locals i with
      | waiting now => exact hnow now hstage
      | _ => exact horder
    · rintro ⟨now, t, hstage, _, hbefore, _, a, ha, hlost⟩
      obtain ⟨later, hmem, hlate⟩ := evicted_of_mayBeLost (hnow now hstage) hlost
      have hlater : later ≤ now := by
        rcases List.mem_cons.mp hmem with rfl | hmem
        · exact le_refl _
        · exact (List.pairwise_cons.mp (hnow now hstage)).1 later hmem
      have hafter := (Multiset.mem_filter.mp ha).2.1
      linarith

/-! ## A body that comes late, and one that does not -/

/-- Three readings at once, one just within the window of them, one just out of it. -/
def lateClock (n : Nat) : ℚ := if n < 3 then 0 else if n < 4 then 3599 else 3600

/-- The body of the last reading runs before the one of the reading before it. -/
def overtakenCheck : List (Fin 5) := [3, 4, 4, 3, 2, 2, 1, 1, 0, 0]

theorem lateClock_monotone : Monotone lateClock := by
  refine monotone_nat_of_le_succ fun n => ?_
  unfold lateClock
  split_ifs <;> first | omega | norm_num

theorem an_overtaken_check_exceeds_the_limit :
    Monotone lateClock ∧ 1 ≤ REGISTER_RATE_LIMIT.limit ∧
      REGISTER_RATE_LIMIT.window_seconds ≤ MAX_RATE_LIMIT_WINDOW_SECONDS ∧
      ¬ KeepsLimit REGISTER_RATE_LIMIT
        (run.after (checks_turn lateClock "register:a".toList REGISTER_RATE_LIMIT) checks_begin
          overtakenCheck) := by
  refine ⟨lateClock_monotone, by decide, by decide, ?_⟩
  intro h
  have hmany := h 3599
  revert hmany
  decide +kernel

/-- The body of the last reading runs before the one of the reading before it,
but the limit allows all three of them. -/
theorem few_checks_keep_the_limit :
    KeepsLimit REGISTER_RATE_LIMIT
      (run.after (checks_turn (fun n => lateClock (n + 2)) "register:a".toList REGISTER_RATE_LIMIT)
        checks_begin ([1, 2, 2, 1, 0, 0] : List (Fin 3))) := by
  refine checks_keep_the_limit_unless_one_comes_late _ _ _ (by decide) (by decide) _ ?_
  have hfew : ∀ (past : List (Fin 3)) (i : Fin 3),
      (bodies (fun n => lateClock (n + 2)) "register:a".toList REGISTER_RATE_LIMIT past).length < 3 →
        ¬ ComesLate (fun n => lateClock (n + 2)) "register:a".toList REGISTER_RATE_LIMIT past i := by
    rintro past i hless ⟨now, t, _, _, _, hmany, _⟩
    have hle := Multiset.card_le_card (Multiset.filter_le
      (fun a => t - REGISTER_RATE_LIMIT.window_seconds < a ∧ a ≤ t)
      (bodies (fun n => lateClock (n + 2)) "register:a".toList REGISTER_RATE_LIMIT past : Multiset ℚ))
    rw [Multiset.coe_card] at hle
    have hmany : (3 : Int) ≤ _ := hmany
    unfold readingsUpTo at hmany
    omega
  refine ⟨⟨⟨⟨⟨⟨trivial, ?_⟩, ?_⟩, ?_⟩, ?_⟩, ?_⟩, ?_⟩
  all_goals exact hfew _ _ (by decide +kernel)

/-- In order, the fourth of five finds no room. -/
example :
    run.Each (fun past i => ¬ ComesLate lateClock "register:a".toList REGISTER_RATE_LIMIT past i)
      ([4, 4, 3, 3, 2, 2, 1, 1, 0, 0] : List (Fin 5)) := by
  refine checks_in_order_come_in_time _ _ _ ?_
  simp only [run.Each, InOrder]
  decide +kernel

end pulseforge

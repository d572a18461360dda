-- Request handlers over one database session: what a handler can end in, as
-- rules for each command, what one that returns has done, when its answer is the
-- same on two stores, when a handler that raises leaves no trace, and when two
-- handlers, or two sessions of one handler, stay side by side.
-- Nothing here names a table or an error of a program.
import Mathlib.Logic.Basic

namespace txn

/-- One database session: the committed store, and the store with the writes
of the session that are not committed yet. -/
structure Session (σ : Type) where
  committed : σ
  work : σ

/-- A handler reads and writes its session, and answers or raises. -/
abbrev Handler (σ ε α : Type) := ExceptT ε (StateM (Session σ)) α

variable {σ ε α β : Type}

/-- Checks that went through, one after the other. -/
theorem bind_ok {x : Except ε α} {f : α → Except ε β} {b : β} (h : (x >>= f) = .ok b) :
    ∃ a, x = .ok a ∧ f a = .ok b := by
  cases x with
  | error failure => cases h
  | ok a => exact ⟨a, rfl, h⟩

/-! ## The commands -/

/-- A query that may raise. -/
def ask (q : σ → Except ε α) : Handler σ ε α := fun s => (q s.work, s)

/-- A query. -/
def select (q : σ → α) : Handler σ ε α := fun s => (.ok (q s.work), s)

/-- A write that nothing can refuse. -/
def write (f : σ → σ) : Handler σ ε Unit := fun s => (.ok (), { s with work := f s.work })

/-- A write that the constraints of the store may refuse. -/
def flush (f : σ → Except ε σ) : Handler σ ε Unit := fun s =>
  match f s.work with
  | .ok w => (.ok (), { s with work := w })
  | .error e => (.error e, s)

def commit : Handler σ ε Unit := fun s => (.ok (), { s with committed := s.work })

def rollback : Handler σ ε Unit := fun s => (.ok (), { s with work := s.committed })

/-- `try: h` with an `except` for the errors that `caught` names: it says if
`h` went through. -/
def attempt (caught : ε → Bool) (h : Handler σ ε Unit) : Handler σ ε Bool := fun s =>
  match h s with
  | (.ok _, s') => (.ok true, s')
  | (.error e, s') => if caught e then (.ok false, s') else (.error e, s')

/-- A whole request: closing the session drops what is not committed. -/
def runRequest (h : Handler σ ε α) (s : σ) : Except ε α × σ :=
  let end_ := h ⟨s, s⟩
  (end_.1, end_.2.committed)

/-! ## What a handler can end in -/

/-- From the session `s`, the handler ends in a result and a session with `Q`. -/
def Ends (h : Handler σ ε α) (s : Session σ) (Q : Except ε α → Session σ → Prop) : Prop :=
  Q (h s).1 (h s).2

theorem Ends.mono {h : Handler σ ε α} {s : Session σ} {P Q : Except ε α → Session σ → Prop}
    (hP : Ends h s P) (hPQ : ∀ r s', P r s' → Q r s') : Ends h s Q := hPQ _ _ hP

theorem ends_runRequest {h : Handler σ ε α} {s : σ} {Q : Except ε α → σ → Prop}
    (hQ : Ends h ⟨s, s⟩ (fun r s' => Q r s'.committed)) : Q (runRequest h s).1 (runRequest h s).2 :=
  hQ

section Rules
variable (s : Session σ)

@[simp] theorem ends_pure (a : α) (Q : Except ε α → Session σ → Prop) :
    Ends (pure a : Handler σ ε α) s Q ↔ Q (.ok a) s := Iff.rfl

@[simp] theorem ends_throw (e : ε) (Q : Except ε α → Session σ → Prop) :
    Ends (throw e : Handler σ ε α) s Q ↔ Q (.error e) s := Iff.rfl

@[simp] theorem ends_ask (q : σ → Except ε α) (Q : Except ε α → Session σ → Prop) :
    Ends (ask q) s Q ↔ Q (q s.work) s := Iff.rfl

@[simp] theorem ends_select (q : σ → α) (Q : Except ε α → Session σ → Prop) :
    Ends (select q) s Q ↔ Q (.ok (q s.work)) s := Iff.rfl

@[simp] theorem ends_write (f : σ → σ) (Q : Except ε Unit → Session σ → Prop) :
    Ends (write f) s Q ↔ Q (.ok ()) { s with work := f s.work } := Iff.rfl

@[simp] theorem ends_commit (Q : Except ε Unit → Session σ → Prop) :
    Ends commit s Q ↔ Q (.ok ()) { s with committed := s.work } := Iff.rfl

@[simp] theorem ends_rollback (Q : Except ε Unit → Session σ → Prop) :
    Ends rollback s Q ↔ Q (.ok ()) { s with work := s.committed } := Iff.rfl

@[simp] theorem ends_flush (f : σ → Except ε σ) (Q : Except ε Unit → Session σ → Prop) :
    Ends (flush f) s Q ↔ match f s.work with
      | .ok w => Q (.ok ()) { s with work := w }
      | .error e => Q (.error e) s := by
  unfold Ends flush
  cases f s.work <;> rfl

/-- A sequence ends as its second part does from where the first part ends. -/
@[simp] theorem ends_bind (h : Handler σ ε α) (k : α → Handler σ ε β)
    (Q : Except ε β → Session σ → Prop) :
    Ends (h >>= k) s Q ↔ Ends h s (fun r s' => match r with
      | .ok a => Ends (k a) s' Q
      | .error e => Q (.error e) s') := by
  unfold Ends
  show Q ((ExceptT.bind h k) s).1 ((ExceptT.bind h k) s).2 ↔ _
  unfold ExceptT.bind ExceptT.mk
  simp only [bind, StateT.bind]
  rcases h s with ⟨r, s'⟩
  cases r <;> rfl

@[simp] theorem ends_attempt (caught : ε → Bool) (h : Handler σ ε Unit)
    (Q : Except ε Bool → Session σ → Prop) :
    Ends (attempt caught h) s Q ↔ Ends h s (fun r s' => match r with
      | .ok _ => Q (.ok true) s'
      | .error e => if caught e then Q (.ok false) s' else Q (.error e) s') := by
  unfold Ends attempt
  rcases h s with ⟨r, s'⟩
  cases r
  · simp only
    split <;> rfl
  · rfl

end Rules

section Checked
variable {γ : Type} {s : Session σ} {check : Except ε γ} {Q : Except ε β → Session σ → Prop}

/-- A query that a check starts with: where the query raises, so does the check. -/
theorem ends_ask_checked {q : σ → Except ε α} {r : α → Except ε γ} {k : α → Handler σ ε β}
    (hcheck : (q s.work >>= r) = check) (hfails : ∀ e, check = .error e → Q (.error e) s)
    (hk : ∀ a, q s.work = .ok a → r a = check → Ends (k a) s Q) : Ends (ask q >>= k) s Q := by
  rw [ends_bind, ends_ask]
  cases hq : q s.work with
  | error e =>
    rw [hq] at hcheck
    exact hfails e hcheck.symm
  | ok a =>
    rw [hq] at hcheck
    exact hk a hq hcheck

/-- A guard that a check starts with. -/
theorem ends_if_checked {c : Prop} [Decidable c] {e : ε} {r : Except ε γ} {k : Handler σ ε β}
    (hcheck : (if c then throw e else r) = check) (hfails : ∀ e, check = .error e → Q (.error e) s)
    (hk : ¬c → r = check → Ends k s Q) : Ends (if c then throw e else k) s Q := by
  by_cases hc : c
  · rw [if_pos hc] at hcheck
    rw [if_pos hc]
    exact hfails e hcheck.symm
  · rw [if_neg hc] at hcheck
    rw [if_neg hc]
    exact hk hc hcheck

end Checked

/-! ## Handlers that return -/

/-- Where the handler does not raise, its result and its session have `P`. -/
def Yields (h : Handler σ ε α) (s : Session σ) (P : α → Session σ → Prop) : Prop :=
  Ends h s fun r s' => ∀ a, r = .ok a → P a s'

section
variable {s : Session σ} {P : β → Session σ → Prop}

theorem yields_pure {a : β} (h : P a s) : Yields (pure a : Handler σ ε β) s P := by
  rintro _ ⟨⟩
  exact h

theorem yields_throw (e : ε) : Yields (throw e : Handler σ ε β) s P := fun _ h => nomatch h

theorem Yields.bind {h : Handler σ ε α} {k : α → Handler σ ε β} {Q : α → Session σ → Prop}
    (hh : Yields h s Q) (hk : ∀ a s', Q a s' → Yields (k a) s' P) : Yields (h >>= k) s P := by
  unfold Yields
  rw [ends_bind]
  refine Ends.mono hh ?_
  rintro (e | a) s' hr
  · exact fun _ h => nomatch h
  · exact hk a s' (hr a rfl)

theorem yields_ask {q : σ → Except ε α} {k : α → Handler σ ε β}
    (hk : ∀ a, q s.work = .ok a → Yields (k a) s P) : Yields (ask q >>= k) s P := by
  refine Yields.bind (Q := fun a s' => q s.work = .ok a ∧ s' = s) (fun a ha => ⟨ha, rfl⟩) ?_
  rintro a _ ⟨ha, rfl⟩
  exact hk a ha

theorem yields_select {q : σ → α} {k : α → Handler σ ε β} (hk : Yields (k (q s.work)) s P) :
    Yields (select q >>= k) s P := hk

theorem yields_write {f : σ → σ} {k : Unit → Handler σ ε β}
    (hk : Yields (k ()) { s with work := f s.work } P) : Yields (write f >>= k) s P := hk

theorem yields_commit {k : Unit → Handler σ ε β}
    (hk : Yields (k ()) { s with committed := s.work } P) : Yields (commit >>= k) s P := hk

theorem yields_rollback_throw (e : ε) : Yields (rollback >>= fun _ => (throw e : Handler σ ε β)) s P :=
  fun _ h => nomatch h

theorem yields_flush {f : σ → Except ε σ} {k : Unit → Handler σ ε β}
    (hk : ∀ w, f s.work = .ok w → Yields (k ()) { s with work := w } P) : Yields (flush f >>= k) s P := by
  refine Yields.bind (Q := fun _ s' => ∃ w, f s.work = .ok w ∧ s' = { s with work := w }) ?_ ?_
  · unfold Yields
    rw [ends_flush]
    cases hw : f s.work with
    | error e => exact fun _ h => nomatch h
    | ok w => exact fun _ _ => ⟨w, rfl, rfl⟩
  · rintro _ _ ⟨w, hw, rfl⟩
    exact hk w hw

/-- A write that may be refused, with what follows in both cases. -/
theorem yields_attempt {caught : ε → Bool} {f : σ → Except ε σ} {k : Bool → Handler σ ε β}
    (hdone : ∀ w, f s.work = .ok w → Yields (k true) { s with work := w } P)
    (hcaught : Yields (k false) s P) : Yields (attempt caught (flush f) >>= k) s P := by
  refine Yields.bind (Q := fun done s' => (∃ w, f s.work = .ok w ∧ done = true ∧ s' = { s with work := w }) ∨
    done = false ∧ s' = s) ?_ ?_
  · unfold Yields
    rw [ends_attempt, ends_flush]
    cases hw : f s.work with
    | error e =>
      dsimp only
      by_cases hc : caught e = true
      · rw [if_pos hc]
        rintro _ ⟨⟩
        exact Or.inr ⟨rfl, rfl⟩
      · rw [if_neg hc]
        exact fun _ h => nomatch h
    | ok w =>
      rintro _ ⟨⟩
      exact Or.inl ⟨w, rfl, rfl, rfl⟩
  · rintro _ _ (⟨w, hw, rfl, rfl⟩ | ⟨rfl, rfl⟩)
    · exact hdone w hw
    · exact hcaught

end

/-! ## The same answer on two stores -/

/-- On two stores that `R` relates, the handler answers the same. -/
def Alike (R : σ → σ → Prop) (h : Handler σ ε α) : Prop :=
  ∀ s t : Session σ, R s.work t.work → (h s).1 = (h t).1

theorem Alike.mono {R S : σ → σ → Prop} {h : Handler σ ε α} (hS : Alike S h)
    (hRS : ∀ s t, R s t → S s t) : Alike R h := fun s t hR => hS s t (hRS _ _ hR)

/-- The answer of the handler is one and the same from every session. -/
def Settled (h : Handler σ ε α) : Prop := ∀ s t, (h s).1 = (h t).1

theorem Settled.alike {R : σ → σ → Prop} {h : Handler σ ε α} (hs : Settled h) : Alike R h :=
  fun s t _ => hs s t

theorem settled_pure (a : α) : Settled (pure a : Handler σ ε α) := fun _ _ => rfl

theorem settled_throw (e : ε) : Settled (throw e : Handler σ ε α) := fun _ _ => rfl

theorem settled_commit : Settled (commit : Handler σ ε Unit) := fun _ _ => rfl

theorem settled_write_then (f : σ → σ) {k : Unit → Handler σ ε β} (hk : Settled (k ())) :
    Settled (write f >>= k) := fun _ _ => hk _ _

theorem settled_commit_then {k : Unit → Handler σ ε β} (hk : Settled (k ())) :
    Settled (commit >>= k) := fun _ _ => hk _ _

theorem settled_rollback_then {k : Unit → Handler σ ε β} (hk : Settled (k ())) :
    Settled (rollback >>= k) := fun _ _ => hk _ _

/-- A first step with one answer on both stores, and then a settled rest. -/
theorem alike_then {R : σ → σ → Prop} {h : Handler σ ε α} {k : α → Handler σ ε β} (hh : Alike R h)
    (hk : ∀ a, Settled (k a)) : Alike R (h >>= k) := by
  intro s t hR
  have heq := hh s t hR
  show ((ExceptT.bind h k) s).1 = ((ExceptT.bind h k) t).1
  unfold ExceptT.bind ExceptT.mk
  simp only [bind, StateT.bind]
  rcases hs : h s with ⟨r, s'⟩
  rcases ht : h t with ⟨r', t'⟩
  rw [hs, ht] at heq
  cases heq
  cases r with
  | error e => rfl
  | ok a => exact hk a s' t'

theorem settled_bind {h : Handler σ ε α} {k : α → Handler σ ε β} (hh : Settled h)
    (hk : ∀ a, Settled (k a)) : Settled (h >>= k) :=
  fun s t => alike_then (R := fun _ _ => True) hh.alike hk s t trivial

theorem settled_ask {q : σ → Except ε α} (hq : ∀ s t, q s = q t) : Settled (ask q) :=
  fun _ _ => hq _ _

/-- A write that is refused, or not, whatever the store is. -/
theorem settled_flush {f : σ → Except ε σ}
    (hf : ∀ s t, (f s).map (fun _ => ()) = (f t).map (fun _ => ())) : Settled (flush f) := by
  intro s t
  have h := hf s.work t.work
  unfold flush
  rcases hs : f s.work with e | w <;> rcases ht : f t.work with e' | w' <;>
    simp only [hs, ht, Except.map, reduceCtorEq, Except.error.injEq] at h
  · rw [h]
  · rfl

/-- A query that answers the same on both stores; what it answered is known
from there on. -/
theorem alike_ask {R : σ → σ → Prop} {q : σ → Except ε α} {k : α → Handler σ ε β}
    (hq : ∀ s t, R s t → q s = q t)
    (hk : ∀ a, Alike (fun s t => R s t ∧ q s = .ok a ∧ q t = .ok a) (k a)) :
    Alike R (ask q >>= k) := by
  intro s t hR
  have h := hq _ _ hR
  show ((ExceptT.bind (ask q) k) s).1 = ((ExceptT.bind (ask q) k) t).1
  unfold ExceptT.bind ExceptT.mk ask
  simp only [bind, StateT.bind]
  cases hs : q s.work with
  | error e => rw [hs] at h; rw [← h]; rfl
  | ok a =>
    rw [hs] at h
    rw [← h]
    exact hk a s t ⟨hR, hs, h.symm⟩

/-- The last query of a handler. -/
theorem alike_last {R : σ → σ → Prop} {q : σ → Except ε α} (hq : ∀ s t, R s t → q s = q t) :
    Alike R (ask q) := fun _ _ hR => hq _ _ hR

theorem alike_select {R : σ → σ → Prop} {q : σ → α} {k : α → Handler σ ε β}
    (hq : ∀ s t, R s t → q s = q t) (hk : ∀ a, Alike R (k a)) : Alike R (select q >>= k) := by
  intro s t hR
  show (k (q s.work) s).1 = (k (q t.work) t).1
  rw [hq _ _ hR]
  exact hk _ s t hR

theorem alike_last_select {R : σ → σ → Prop} {q : σ → α} (hq : ∀ s t, R s t → q s = q t) :
    Alike R (select q : Handler σ ε α) := fun _ _ hR => congrArg Except.ok (hq _ _ hR)

/-- A write that both stores refuse alike, before a settled rest. -/
theorem alike_flush {R : σ → σ → Prop} {caught : ε → Bool} {f : σ → Except ε σ}
    {k : Bool → Handler σ ε β}
    (hf : ∀ s t, R s t → (f s).map (fun _ => ()) = (f t).map (fun _ => ()))
    (hk : ∀ b, Settled (k b)) : Alike R (attempt caught (flush f) >>= k) := by
  intro s t hR
  have h := hf _ _ hR
  show ((ExceptT.bind (attempt caught (flush f)) k) s).1 =
    ((ExceptT.bind (attempt caught (flush f)) k) t).1
  unfold ExceptT.bind ExceptT.mk attempt flush
  simp only [bind, StateT.bind]
  rcases hs : f s.work with e | w <;> rcases ht : f t.work with e' | w' <;>
    simp only [hs, ht, Except.map, reduceCtorEq, Except.error.injEq] at h
  · subst h
    by_cases hc : caught e = true
    · simp only [hc, if_true]
      exact hk false _ _
    · simp only [hc]
      rfl
  · exact hk true _ _

/-! ## Handlers that raise -/

/-- The handler commits nothing. -/
def Pending (h : Handler σ ε α) : Prop := ∀ s, Ends h s fun _ s' => s'.committed = s.committed

/-- The handler never raises. -/
def Sure (h : Handler σ ε α) : Prop := ∀ s, Ends h s fun r _ => ∃ a, r = .ok a

/-- Where the handler raises, it has committed nothing. -/
def Tidy (h : Handler σ ε α) : Prop :=
  ∀ s, Ends h s fun r s' => ∀ e, r = .error e → s'.committed = s.committed

theorem Pending.tidy {h : Handler σ ε α} (hp : Pending h) : Tidy h :=
  fun s => (hp s).mono fun _ _ heq _ _ => heq

theorem Sure.tidy {h : Handler σ ε α} (hs : Sure h) : Tidy h := by
  intro s
  refine (hs s).mono ?_
  rintro _ _ ⟨a, rfl⟩ e he
  cases he

theorem pending_pure (a : α) : Pending (pure a : Handler σ ε α) := fun _ => rfl

theorem pending_throw (e : ε) : Pending (throw e : Handler σ ε α) := fun _ => rfl

theorem pending_ask (q : σ → Except ε α) : Pending (ask q) := fun _ => rfl

theorem pending_select (q : σ → α) : Pending (select q : Handler σ ε α) := fun _ => rfl

theorem pending_write (f : σ → σ) : Pending (write f : Handler σ ε Unit) := fun _ => rfl

theorem pending_rollback : Pending (rollback : Handler σ ε Unit) := fun _ => rfl

theorem pending_flush (f : σ → Except ε σ) : Pending (flush f) := by
  intro s
  rw [ends_flush]
  cases f s.work <;> rfl

theorem Pending.attempt {h : Handler σ ε Unit} (hp : Pending h) (caught : ε → Bool) :
    Pending (attempt caught h) := by
  intro s
  rw [ends_attempt]
  refine (hp s).mono ?_
  rintro (e | _) s' heq
  · simp only
    split <;> exact heq
  · exact heq

/-- Before the first commit, nothing that is raised leaves a trace. -/
theorem Pending.then_tidy {h : Handler σ ε α} {k : α → Handler σ ε β} (hp : Pending h)
    (hk : ∀ a, Tidy (k a)) : Tidy (h >>= k) := by
  intro s
  rw [ends_bind]
  refine (hp s).mono ?_
  rintro (e | a) s' heq
  · exact fun _ _ => heq
  · refine (hk a s').mono fun r t ht e he => ?_
    rw [ht e he, heq]

theorem Pending.bind {h : Handler σ ε α} {k : α → Handler σ ε β} (hp : Pending h)
    (hk : ∀ a, Pending (k a)) : Pending (h >>= k) := by
  intro s
  rw [ends_bind]
  refine (hp s).mono ?_
  rintro (e | a) s' heq
  · exact heq
  · refine (hk a s').mono fun r t ht => ?_
    rw [ht, heq]

theorem sure_pure (a : α) : Sure (pure a : Handler σ ε α) := fun _ => ⟨a, rfl⟩

theorem sure_commit : Sure (commit : Handler σ ε Unit) := fun _ => ⟨(), rfl⟩

theorem Sure.bind {h : Handler σ ε α} {k : α → Handler σ ε β} (hs : Sure h)
    (hk : ∀ a, Sure (k a)) : Sure (h >>= k) := by
  intro s
  rw [ends_bind]
  refine (hs s).mono ?_
  rintro _ s' ⟨a, rfl⟩
  exact hk a s'

/-- Every error that the handler raises has `P`. -/
def Raises (P : ε → Prop) (h : Handler σ ε α) : Prop :=
  ∀ s, Ends h s fun r _ => ∀ e, r = .error e → P e

section
variable {P : ε → Prop}

theorem Sure.raises {h : Handler σ ε α} (hs : Sure h) : Raises P h := by
  intro s
  refine (hs s).mono ?_
  rintro _ _ ⟨a, rfl⟩ e he
  cases he

theorem raises_throw {e : ε} (he : P e) : Raises P (throw e : Handler σ ε α) := by
  rintro s _ ⟨⟩
  exact he

theorem raises_ask {q : σ → Except ε α} (hq : ∀ s e, q s = .error e → P e) : Raises P (ask q) :=
  fun s e he => hq s.work e he

theorem sure_select (q : σ → α) : Sure (select q : Handler σ ε α) := fun _ => ⟨_, rfl⟩

theorem sure_write (f : σ → σ) : Sure (write f : Handler σ ε Unit) := fun _ => ⟨_, rfl⟩

theorem sure_rollback : Sure (rollback : Handler σ ε Unit) := fun _ => ⟨_, rfl⟩

theorem raises_flush {f : σ → Except ε σ} (hf : ∀ s e, f s = .error e → P e) :
    Raises P (flush f) := by
  intro s
  rw [ends_flush]
  cases hw : f s.work with
  | ok w => exact fun _ he => nomatch he
  | error e =>
    rintro _ ⟨⟩
    exact hf _ _ hw

theorem Raises.attempt {h : Handler σ ε Unit} (hr : Raises P h) (caught : ε → Bool) :
    Raises P (attempt caught h) := by
  intro s
  rw [ends_attempt]
  refine (hr s).mono ?_
  rintro (e | _) s' he
  · simp only
    split
    · exact fun _ h => nomatch h
    · exact fun e' h => he e' (by cases h; rfl)
  · exact fun _ h => nomatch h

theorem Raises.bind {h : Handler σ ε α} {k : α → Handler σ ε β} (hr : Raises P h)
    (hk : ∀ a, Raises P (k a)) : Raises P (h >>= k) := by
  intro s
  rw [ends_bind]
  refine (hr s).mono ?_
  rintro (e | a) s' he
  · exact fun e' h => he e' (by cases h; rfl)
  · exact hk a s'

end

/-! ## Two handlers side by side -/

/-- The same error, or results that `V` relates. -/
def Agree (V : α → β → Prop) : Except ε α → Except ε β → Prop
  | .ok a, .ok b => V a b
  | .error e, .error e' => e = e'
  | _, _ => False

/-- Both stores of the sessions are related. -/
def Beside (R : σ → σ → Prop) (s t : Session σ) : Prop := R s.work t.work ∧ R s.committed t.committed

/-- From related sessions the handlers agree, and leave related sessions. -/
def Matches (R : σ → σ → Prop) (V : α → β → Prop) (h : Handler σ ε α) (k : Handler σ ε β) : Prop :=
  ∀ s t, Beside R s t → Agree V (h s).1 (k t).1 ∧ Beside R (h s).2 (k t).2

section
variable {γ δ : Type} {R : σ → σ → Prop} {V : α → β → Prop} {W : γ → δ → Prop}

theorem matches_pure {a : α} {b : β} (h : V a b) :
    Matches R V (pure a : Handler σ ε α) (pure b) := fun _ _ hR => ⟨h, hR⟩

theorem matches_throw (e : ε) : Matches R V (throw e : Handler σ ε α) (throw e) :=
  fun _ _ hR => ⟨rfl, hR⟩

theorem matches_ask {q : σ → Except ε α} {q' : σ → Except ε β}
    (h : ∀ s t, R s t → Agree V (q s) (q' t)) : Matches R V (ask q) (ask q') :=
  fun _ _ hR => ⟨h _ _ hR.1, hR⟩

theorem matches_select {q : σ → α} {q' : σ → β} (h : ∀ s t, R s t → V (q s) (q' t)) :
    Matches R V (select q : Handler σ ε α) (select q') :=
  fun _ _ hR => ⟨h _ _ hR.1, hR⟩

theorem matches_write {f g : σ → σ} (h : ∀ s t, R s t → R (f s) (g t)) :
    Matches R Eq (write f : Handler σ ε Unit) (write g) :=
  fun _ _ hR => ⟨rfl, h _ _ hR.1, hR.2⟩

theorem matches_commit : Matches R Eq (commit : Handler σ ε Unit) commit :=
  fun _ _ hR => ⟨rfl, hR.1, hR.1⟩

theorem matches_rollback : Matches R Eq (rollback : Handler σ ε Unit) rollback :=
  fun _ _ hR => ⟨rfl, hR.2, hR.2⟩

theorem matches_flush {f g : σ → Except ε σ} (h : ∀ s t, R s t → Agree R (f s) (g t)) :
    Matches R Eq (flush f) (flush g) := by
  intro s t hR
  have hagree := h _ _ hR.1
  unfold flush
  rcases hs : f s.work with e | s' <;> rcases ht : g t.work with e' | t' <;>
    simp only [hs, ht, Agree] at hagree
  · exact ⟨hagree, hR⟩
  · exact ⟨rfl, hagree, hR.2⟩

theorem Matches.attempt {h k : Handler σ ε Unit} (hm : Matches R Eq h k) (caught : ε → Bool) :
    Matches R Eq (attempt caught h) (attempt caught k) := by
  intro s t hR
  have hend := hm s t hR
  unfold txn.attempt
  rcases hs : h s with ⟨e | a, s'⟩ <;> rcases ht : k t with ⟨e' | b, t'⟩ <;>
    simp only [hs, ht, Agree, false_and] at hend
  · obtain ⟨rfl, hR'⟩ := hend
    by_cases hc : caught e = true
    · simp only [hc, if_true]
      exact ⟨rfl, hR'⟩
    · simp only [hc]
      exact ⟨rfl, hR'⟩
  · exact ⟨rfl, hend.2⟩

theorem Matches.bind {h : Handler σ ε α} {k : Handler σ ε β} {f : α → Handler σ ε γ}
    {g : β → Handler σ ε δ} (hm : Matches R V h k) (hf : ∀ a b, V a b → Matches R W (f a) (g b)) :
    Matches R W (h >>= f) (k >>= g) := by
  intro s t hR
  have hend := hm s t hR
  show Agree W ((ExceptT.bind h f) s).1 ((ExceptT.bind k g) t).1 ∧
    Beside R ((ExceptT.bind h f) s).2 ((ExceptT.bind k g) t).2
  unfold ExceptT.bind ExceptT.mk
  simp only [Bind.bind, StateT.bind]
  rcases hs : h s with ⟨e | a, s'⟩ <;> rcases ht : k t with ⟨e' | b, t'⟩ <;>
    simp only [hs, ht, Agree, false_and] at hend
  · exact hend
  · exact hf a b hend.1 s' t' hend.2

theorem Matches.bind_eq {h k : Handler σ ε α} {f g : α → Handler σ ε γ} {W : γ → γ → Prop}
    (hm : Matches R Eq h k) (hf : ∀ a, Matches R W (f a) (g a)) : Matches R W (h >>= f) (k >>= g) :=
  hm.bind fun a _ heq => heq ▸ hf a

/-- Two whole requests. -/
theorem Matches.runRequest {h : Handler σ ε α} {k : Handler σ ε β} (hm : Matches R V h k) {s t : σ}
    (hR : R s t) : Agree V (runRequest h s).1 (runRequest k t).1 ∧
      R (runRequest h s).2 (runRequest k t).2 := by
  have hend := hm ⟨s, s⟩ ⟨t, t⟩ ⟨hR, hR⟩
  exact ⟨hend.1, hend.2.2⟩

theorem agree_eq_iff {x y : Except ε α} : Agree Eq x y ↔ x = y := by
  cases x <;> cases y <;> simp [Agree]

end

/-! ## Two sessions of one handler -/

/-- The handlers answer the same, each from its own session, and what they
leave has `Q`. -/
def Abreast (h k : Handler σ ε α) (s t : Session σ)
    (Q : Except ε α → Session σ → Session σ → Prop) : Prop :=
  (h s).1 = (k t).1 ∧ Q (h s).1 (h s).2 (k t).2

section
variable {s t : Session σ}

theorem Abreast.mono {h k : Handler σ ε α} {P Q : Except ε α → Session σ → Session σ → Prop}
    (hP : Abreast h k s t P) (hPQ : ∀ r s' t', P r s' t' → Q r s' t') : Abreast h k s t Q :=
  ⟨hP.1, hPQ _ _ _ hP.2⟩

/-- Two whole requests. -/
theorem Abreast.runRequest {h k : Handler σ ε α} {s t : σ} {R : σ → σ → Prop}
    (hh : Abreast h k ⟨s, s⟩ ⟨t, t⟩ fun _ s' t' => R s'.committed t'.committed) :
    (runRequest h s).1 = (runRequest k t).1 ∧ R (runRequest h s).2 (runRequest k t).2 := hh

variable {f g : α → Handler σ ε β} {Q : Except ε β → Session σ → Session σ → Prop}

theorem abreast_pure {b : β} (h : Q (.ok b) s t) :
    Abreast (pure b : Handler σ ε β) (pure b) s t Q := ⟨rfl, h⟩

theorem abreast_throw {e : ε} (h : Q (.error e) s t) :
    Abreast (throw e : Handler σ ε β) (throw e) s t Q := ⟨rfl, h⟩

theorem Abreast.bind {h k : Handler σ ε α}
    (hh : Abreast h k s t fun r s' t' => match r with
      | .ok a => Abreast (f a) (g a) s' t' Q
      | .error e => Q (.error e) s' t') : Abreast (h >>= f) (k >>= g) s t Q := by
  obtain ⟨hreply, hleft⟩ := hh
  show ((ExceptT.bind h f) s).1 = ((ExceptT.bind k g) t).1 ∧
    Q ((ExceptT.bind h f) s).1 ((ExceptT.bind h f) s).2 ((ExceptT.bind k g) t).2
  unfold ExceptT.bind ExceptT.mk
  simp only [Bind.bind, StateT.bind]
  rcases hs : h s with ⟨r, s'⟩
  rcases ht : k t with ⟨r', t'⟩
  rw [hs, ht] at hreply hleft
  cases hreply
  cases r with
  | error e => exact ⟨rfl, hleft⟩
  | ok a => exact hleft

theorem abreast_ask {q q' : σ → Except ε α} (hq : q s.work = q' t.work)
    (hfails : ∀ e, Q (.error e) s t) (hk : ∀ a, q s.work = .ok a → Abreast (f a) (g a) s t Q) :
    Abreast (ask q >>= f) (ask q' >>= g) s t Q := by
  refine Abreast.bind ⟨hq, ?_⟩
  show match q s.work with
    | .ok a => Abreast (f a) (g a) s t Q
    | .error e => Q (.error e) s t
  split
  · exact hk _ ‹_›
  · exact hfails _

theorem abreast_last_ask {q q' : σ → Except ε β} (hq : q s.work = q' t.work) (h : ∀ r, Q r s t) :
    Abreast (ask q) (ask q') s t Q := ⟨hq, h _⟩

theorem abreast_select {q q' : σ → α} (hq : q s.work = q' t.work)
    (hk : ∀ a, q s.work = a → Abreast (f a) (g a) s t Q) :
    Abreast (select q >>= f) (select q' >>= g) s t Q :=
  Abreast.bind ⟨congrArg Except.ok hq, hk _ rfl⟩

theorem abreast_last_select {q q' : σ → β} (hq : q s.work = q' t.work) (h : Q (.ok (q s.work)) s t) :
    Abreast (select q) (select q') s t Q := ⟨congrArg Except.ok hq, h⟩

section
variable {f g : Unit → Handler σ ε β}

theorem abreast_write {w w' : σ → σ}
    (hk : Abreast (f ()) (g ()) { s with work := w s.work } { t with work := w' t.work } Q) :
    Abreast (write w >>= f) (write w' >>= g) s t Q := Abreast.bind ⟨rfl, hk⟩

theorem abreast_commit
    (hk : Abreast (f ()) (g ()) { s with committed := s.work } { t with committed := t.work } Q) :
    Abreast (commit >>= f) (commit >>= g) s t Q := Abreast.bind ⟨rfl, hk⟩

theorem abreast_rollback
    (hk : Abreast (f ()) (g ()) { s with work := s.committed } { t with work := t.committed } Q) :
    Abreast (rollback >>= f) (rollback >>= g) s t Q := Abreast.bind ⟨rfl, hk⟩

/-- A write that the constraints of both stores refuse, or neither. -/
theorem abreast_flush {w w' : σ → Except ε σ}
    (hw : (w s.work).map (fun _ => ()) = (w' t.work).map fun _ => ())
    (hfails : ∀ e, Q (.error e) s t)
    (hk : ∀ x y, w s.work = .ok x → w' t.work = .ok y →
      Abreast (f ()) (g ()) { s with work := x } { t with work := y } Q) :
    Abreast (flush w >>= f) (flush w' >>= g) s t Q := by
  refine Abreast.bind ?_
  unfold Abreast flush
  rcases hs : w s.work with e | x <;> rcases ht : w' t.work with e' | y <;>
    simp only [hs, ht, Except.map, reduceCtorEq, Except.error.injEq] at hw
  · subst hw
    exact ⟨rfl, hfails e⟩
  · exact ⟨rfl, hk x y hs ht⟩

end

theorem abreast_attempt {caught : ε → Bool} {w w' : σ → Except ε σ} {f g : Bool → Handler σ ε β}
    (hw : (w s.work).map (fun _ => ()) = (w' t.work).map fun _ => ())
    (hfails : ∀ e, Q (.error e) s t)
    (hdone : ∀ x y, w s.work = .ok x → w' t.work = .ok y →
      Abreast (f true) (g true) { s with work := x } { t with work := y } Q)
    (hcaught : ∀ e, w s.work = .error e → caught e = true → Abreast (f false) (g false) s t Q) :
    Abreast (attempt caught (flush w) >>= f) (attempt caught (flush w') >>= g) s t Q := by
  refine Abreast.bind ?_
  unfold Abreast attempt flush
  rcases hs : w s.work with e | x <;> rcases ht : w' t.work with e' | y <;>
    simp only [hs, ht, Except.map, reduceCtorEq, Except.error.injEq] at hw
  · subst hw
    by_cases hc : caught e = true
    · simp only [hc, if_true, true_and]
      exact hcaught e hs hc
    · simp only [hc]
      exact ⟨rfl, hfails e⟩
  · exact ⟨rfl, hdone x y hs ht⟩

end

end txn

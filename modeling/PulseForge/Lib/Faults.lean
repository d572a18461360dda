-- A handler beside one without its faults: it does the same, or raises before
-- anything is committed, or raises when the other one has come to its answer.
-- Nothing here names a table or an error of a program.
import PulseForge.Lib.Transaction

namespace txn

variable {σ ε α β : Type} {P : α → Prop} {s : Session σ}

/-- From `s`, the handler `h'` does what `h` does, but it may raise: before it has
committed anything, or where `h` answers with a value that has `P`. -/
inductive Follows (P : α → Prop) (h' h : Handler σ ε α) (s : Session σ) : Prop
  | same (heq : h' s = h s)
  | raised (e : ε) (s' : Session σ) (heq : h' s = (.error e, s'))
      (hcommitted : s'.committed = s.committed)
  | late (a : α) (s' : Session σ) (e : ε) (heq : h s = (.ok a, s')) (ha : P a)
      (hraises : h' s = (.error e, s'))

theorem follows_refl (h : Handler σ ε α) (s : Session σ) : Follows P h h s := .same rfl

theorem Follows.mono {Q : α → Prop} {h' h : Handler σ ε α} (hf : Follows P h' h s)
    (hPQ : ∀ a, P a → Q a) : Follows Q h' h s := by
  rcases hf with hsame | ⟨e, s', hraises, hs'⟩ | ⟨a, s', e, hok, ha, hraises⟩
  · exact .same hsame
  · exact .raised e s' hraises hs'
  · exact .late a s' e hok (hPQ a ha) hraises

/-- The sequence after a first part that answered. -/
theorem bind_of_ok {h : Handler σ ε α} {k : α → Handler σ ε β} {a : α} {s' : Session σ}
    (heq : h s = (.ok a, s')) : (h >>= k) s = k a s' := by
  show (ExceptT.bind h k) s = _
  unfold ExceptT.bind ExceptT.mk
  simp only [bind, StateT.bind, heq]
  rfl

theorem bind_of_error {h : Handler σ ε α} {k : α → Handler σ ε β} {e : ε} {s' : Session σ}
    (heq : h s = (.error e, s')) : (h >>= k) s = (.error e, s') := by
  show (ExceptT.bind h k) s = _
  unfold ExceptT.bind ExceptT.mk
  simp only [bind, StateT.bind, heq]
  rfl

/-- The rests agree on what the first part ends in. -/
theorem bind_congr {h : Handler σ ε α} {k' k : α → Handler σ ε β}
    (hk : ∀ a s', h s = (.ok a, s') → k' a s' = k a s') : (h >>= k') s = (h >>= k) s := by
  rcases heq : h s with ⟨e | a, s'⟩
  · rw [bind_of_error heq, bind_of_error heq]
  · rw [bind_of_ok heq, bind_of_ok heq, hk a s' heq]

/-- A first part that both handlers share, and that commits nothing. -/
theorem Pending.then_follows {P : β → Prop} {h : Handler σ ε α} {k' k : α → Handler σ ε β}
    (hp : Pending h) (hk : ∀ a s', h s = (.ok a, s') → Follows P (k' a) (k a) s') :
    Follows P (h >>= k') (h >>= k) s := by
  have hcommitted : (h s).2.committed = s.committed := hp s
  rcases heq : h s with ⟨e | a, s'⟩
  · exact .same (by rw [bind_of_error heq, bind_of_error heq])
  · rw [heq] at hcommitted
    rcases hk a s' heq with hsame | ⟨e, t, hraises, ht⟩ | ⟨b, t, e, hok, hb, hraises⟩
    · exact .same (by rw [bind_of_ok heq, bind_of_ok heq, hsame])
    · exact .raised e t (by rw [bind_of_ok heq, hraises]) (ht.trans hcommitted)
    · exact .late b t e (by rw [bind_of_ok heq, hok]) hb (by rw [bind_of_ok heq, hraises])

/-- A query that raises where the other one does not, and else answers the same. -/
theorem follows_ask {P : β → Prop} {q' q : σ → Except ε α} {k' k : α → Handler σ ε β}
    (hq : ∀ a, q' s.work = .ok a → q s.work = .ok a)
    (hk : ∀ a, q' s.work = .ok a → Follows P (k' a) (k a) s) :
    Follows P (ask q' >>= k') (ask q >>= k) s := by
  cases hq' : q' s.work with
  | error e =>
    have hraises : (ask q' : Handler σ ε α) s = (.error e, s) := by rw [ask, hq']
    exact .raised e s (bind_of_error hraises) rfl
  | ok a =>
    have hanswers' : (ask q' : Handler σ ε α) s = (.ok a, s) := by rw [ask, hq']
    have hanswers : (ask q : Handler σ ε α) s = (.ok a, s) := by rw [ask, hq a hq']
    rcases hk a hq' with hsame | ⟨e, t, hraises, ht⟩ | ⟨b, t, e, hok, hb, hraises⟩
    · exact .same (by rw [bind_of_ok hanswers', bind_of_ok hanswers, hsame])
    · exact .raised e t (by rw [bind_of_ok hanswers', hraises]) ht
    · exact .late b t e (by rw [bind_of_ok hanswers, hok]) hb (by rw [bind_of_ok hanswers', hraises])

/-- A query that the other handler makes as well, and that raises there never. -/
theorem follows_select {P : β → Prop} {q' : σ → Except ε α} {q : σ → α} {k' k : α → Handler σ ε β}
    (hq : ∀ a, q' s.work = .ok a → q s.work = a)
    (hk : ∀ a, q' s.work = .ok a → Follows P (k' a) (k a) s) :
    Follows P (ask q' >>= k') (select q >>= k) s :=
  follows_ask (q := fun w => .ok (q w)) (fun a ha => congrArg Except.ok (hq a ha)) hk

/-- A query that only one of the handlers makes, before the rest. -/
theorem follows_check {q : σ → Except ε β} {k : β → Handler σ ε α} {h : Handler σ ε α}
    (hk : ∀ b, q s.work = .ok b → Follows P (k b) h s) : Follows P (ask q >>= k) h s := by
  cases hq : q s.work with
  | error e =>
    have hraises : (ask q : Handler σ ε β) s = (.error e, s) := by rw [ask, hq]
    exact .raised e s (bind_of_error hraises) rfl
  | ok b =>
    have hanswers : (ask q : Handler σ ε β) s = (.ok b, s) := by rw [ask, hq]
    rcases hk b hq with hsame | ⟨e, t, hraises, ht⟩ | ⟨a, t, e, hok, ha, hraises⟩
    · exact .same (by rw [bind_of_ok hanswers, hsame])
    · exact .raised e t (by rw [bind_of_ok hanswers, hraises]) ht
    · exact .late a t e hok ha (by rw [bind_of_ok hanswers, hraises])

/-- One first part follows the other and commits nothing; so do the rests. -/
theorem Follows.bind {P : β → Prop} {h' h : Handler σ ε α} {k' k : α → Handler σ ε β}
    (hf : Follows (fun _ => False) h' h s) (hp : (h s).2.committed = s.committed)
    (hk : ∀ a s', h' s = (.ok a, s') → h s = (.ok a, s') → Follows P (k' a) (k a) s') :
    Follows P (h' >>= k') (h >>= k) s := by
  rcases hf with hsame | ⟨e, s', hraises, hs'⟩ | ⟨_, _, _, _, hfalse, _⟩
  · rcases heq : h s with ⟨e | a, s'⟩
    · exact .same (by rw [bind_of_error (hsame.trans heq), bind_of_error heq])
    · have heq' := hsame.trans heq
      rw [heq] at hp
      rcases hk a s' heq' heq with hsame | ⟨e, t, hraises, ht⟩ | ⟨b, t, e, hok, hb, hraises⟩
      · exact .same (by rw [bind_of_ok heq', bind_of_ok heq, hsame])
      · exact .raised e t (by rw [bind_of_ok heq', hraises]) (ht.trans hp)
      · exact .late b t e (by rw [bind_of_ok heq, hok]) hb (by rw [bind_of_ok heq', hraises])
  · exact .raised e s' (bind_of_error hraises) hs'
  · exact hfalse.elim

/-- What is done with the answer raises nothing more. -/
theorem Follows.map {h' h : Handler σ ε α} (hf : Follows P h' h s) (f : α → β) :
    Follows (fun b => ∃ a, P a ∧ f a = b) (h' >>= fun a => pure (f a)) (h >>= fun a => pure (f a))
      s := by
  rcases hf with hsame | ⟨e, s', hraises, hs'⟩ | ⟨a, s', e, hok, ha, hraises⟩
  · refine .same ?_
    rcases heq : h s with ⟨e | a, s'⟩
    · rw [bind_of_error (hsame.trans heq), bind_of_error heq]
    · rw [bind_of_ok (hsame.trans heq), bind_of_ok heq]
  · exact .raised e s' (bind_of_error hraises) hs'
  · exact .late (f a) s' e (bind_of_ok hok) ⟨a, ha, rfl⟩ (bind_of_error hraises)

/-- A query after the last commit: it raises, or the answer is the same. -/
theorem follows_last {h : Handler σ ε α} {q : σ → Except ε Unit}
    (hq : ∀ a s' e, h s = (.ok a, s') → q s'.work = .error e → P a) :
    Follows P (h >>= fun a => ask q >>= fun _ => pure a) h s := by
  rcases heq : h s with ⟨e | a, s'⟩
  · exact .same (by rw [bind_of_error heq, heq])
  · cases hraises : q s'.work with
    | error e =>
      have hask : (ask q : Handler σ ε Unit) s' = (.error e, s') := by rw [ask, hraises]
      exact .late a s' e heq (hq a s' e heq hraises) (by rw [bind_of_ok heq, bind_of_error hask])
    | ok _ =>
      have hask : (ask q : Handler σ ε Unit) s' = (.ok (), s') := by rw [ask, hraises]
      exact .same (by rw [bind_of_ok heq, bind_of_ok hask, heq]; rfl)

/-- A query between the commit and the answer. -/
theorem follows_committed {a : α} {q : σ → Except ε Unit} (hq : ∀ e, q s.work = .error e → P a) :
    Follows P (commit >>= fun _ => ask q >>= fun _ => pure a) (commit >>= fun _ => pure a) s :=
  follows_last (h := commit >>= fun _ => pure a) fun _ _ e heq hraises => by
    cases heq
    exact hq e hraises

end txn

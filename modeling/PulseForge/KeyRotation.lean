-- The rotations and the revocations of keys in any interleaving: a rotation
-- checks a key that it did not lock. Each key is replaced once at most, and
-- not after a revocation, exactly when no rotation is overtaken.
import PulseForge.KeyTransactions
import PulseForge.Lib.Overtake

open txn table interleave

namespace pulseforge

variable [Platform]

/-! ## What a step writes -/

def KeyCall.api_key_id : KeyCall → UUID
  | .rotate api_key_id _ => api_key_id
  | .revoke api_key_id _ => api_key_id

/-- The key that the transaction has read and is going to write. -/
def KeyStage.key : KeyStage → Option ApiKey
  | .flushing old_key _ _ => some old_key
  | .committing old_key _ _ => some old_key
  | .saving api_key => some api_key
  | _ => none

/-- The next step commits the write. -/
def KeyStage.commits : KeyStage → Bool
  | .committing _ _ _ | .saving _ => true
  | _ => false

/-- The transaction has gone through. -/
def KeyStage.done : KeyStage → Bool
  | .refreshing _ _ | .ended (.ok _) => true
  | _ => false

/-- A step leaves the keys, or it commits a write of the key that was read. -/
theorem KeyMove.keys {job : KeyJob} {s s' : Store} {t t' : KeyStage} (h : KeyMove job s t s' t') :
    s'.api_keys = s.api_keys ∧ t.commits = false ∨
    ∃ key, t.key = some key ∧ t.commits = true ∧ t'.done = true ∧
      ((∃ now, s'.api_keys = (revokeKey key.id now s).api_keys) ∨
        ∃ now service payload, (∃ user, job.call = .rotate job.call.api_key_id user) ∧
          s'.api_keys = (revokeKey key.id now s).api_keys ++ [new_api_key job.env service payload]) := by
  cases h with
  | rotated hcall old_key service payload =>
    refine Or.inr ⟨old_key, rfl, rfl, rfl, Or.inr ⟨_, service, payload, ?_, rfl⟩⟩
    rw [hcall]
    exact ⟨_, rfl⟩
  | revoked hcall api_key => exact Or.inr ⟨api_key, rfl, rfl, rfl, Or.inl ⟨_, rfl⟩⟩
  | _ => exact Or.inl ⟨rfl, rfl⟩

/-- A transaction writes the key that it was asked for, as it found it. -/
theorem KeyMove.reads {job : KeyJob} {s s' : Store} {t t' : KeyStage} (h : KeyMove job s t s' t')
    {key : ApiKey} (hkey : t'.key = some key) :
    t.key = some key ∨ key ∈ s.api_keys ∧ key.id = job.call.api_key_id ∧ t = .start ∧
      ∀ api_key_id user, job.call = .rotate api_key_id user → key.revoked_at = none := by
  cases h with
  | checked hcall old_key service payload hmem hid hlive =>
    cases hkey
    refine Or.inr ⟨hmem, ?_, rfl, fun _ _ _ => hlive⟩
    rw [hcall]
    exact hid
  | revoking hcall api_key hmem hid =>
    cases hkey
    refine Or.inr ⟨hmem, ?_, rfl, ?_⟩
    · rw [hcall]
      exact hid
    · intro api_key_id user hrotate
      rw [hcall] at hrotate
      cases hrotate
  | flushed => exact Or.inl hkey
  | _ => cases hkey

/-! ## The rows of the keys -/

variable {ι : Type} [Fintype ι] [DecidableEq ι] {jobs : ι → KeyJob}

/-- The key is in the table and revoked. -/
def RevokedKey (key_id : UUID) (s : Store) : Prop :=
  ∃ k ∈ s.api_keys, k.id = key_id ∧ k.revoked_at.isSome = true

/-- The key is in the table and not revoked. -/
def LiveKey (key_id : UUID) (s : Store) : Prop := ∃ k ∈ s.api_keys, k.id = key_id ∧ k.revoked_at = none

/-- What every state of the machine keeps about the keys. -/
structure KeysKept (jobs : ι → KeyJob) (g : State ι Store KeyStage) : Prop where
  ids : UniqueOn ApiKey.id g.shared.api_keys
  unused : ∀ i, (g.locals i).done = false → ∀ k ∈ g.shared.api_keys, k.id ≠ (jobs i).env.uuid 0
  read : ∀ i key, (g.locals i).key = some key →
    key.id = (jobs i).call.api_key_id ∧ ∃ k ∈ g.shared.api_keys, k.id = key.id

omit [Fintype ι] [DecidableEq ι] in
theorem keysKept_begin {s₀ : Store} (hs : Reachable s₀) (hf : FreshEnvs (fun i => (jobs i).env) s₀) :
    KeysKept jobs (key_begin s₀) where
  ids := (reachable_keyed hs).key_ids
  unused := fun i _ => (hf.fresh i).api_key 0
  read := by
    intro i key h
    cases h

omit [Platform] in
theorem RevokedKey.not_live {key_id : UUID} {s : Store} (h : RevokedKey key_id s)
    (hids : UniqueOn ApiKey.id s.api_keys) : ¬ LiveKey key_id s := by
  rintro ⟨k, hk, hid, hlive⟩
  obtain ⟨k', hk', hid', hrevoked⟩ := h
  rw [hids.eq hk' hk (hid'.trans hid.symm), hlive] at hrevoked
  cases hrevoked

section
variable {g : State ι Store KeyStage} {i : ι} {p : Store × KeyStage}

/-- A key stays in the table, and stays revoked. -/
theorem KeyMove.kept {job : KeyJob} {s s' : Store} {t t' : KeyStage} (h : KeyMove job s t s' t')
    {k : ApiKey} (hk : k ∈ s.api_keys) :
    ∃ k' ∈ s'.api_keys, k'.id = k.id ∧ (k.revoked_at.isSome = true → k'.revoked_at.isSome = true) := by
  rcases h.keys with ⟨heq, _⟩ | ⟨key, _, _, _, ⟨now, heq⟩ | ⟨now, service, payload, _, heq⟩⟩
  · rw [heq]
    exact ⟨k, hk, rfl, id⟩
  all_goals
    rw [heq]
    have hrow : ∃ k' ∈ (revokeKey key.id now s).api_keys, k'.id = k.id ∧
        (k.revoked_at.isSome = true → k'.revoked_at.isSome = true) :=
      exists_updateWhere hk ⟨rfl, id⟩ fun _ => ⟨rfl, fun _ => rfl⟩
  · exact hrow
  · obtain ⟨k', hk', hid, hrevoked⟩ := hrow
    exact ⟨k', List.mem_append_left _ hk', hid, hrevoked⟩

theorem KeysKept.move {s₀ : Store} (hf : FreshEnvs (fun i => (jobs i).env) s₀) (h : KeysKept jobs g)
    (hp : lockStep (fun i => key_transaction (jobs i)) i g = some p) : KeysKept jobs (g.move i p) := by
  have hmove : KeyMove (jobs i) g.shared (g.locals i) p.1 p.2 := KeyJob.move (lockStep_some hp).2
  have hundone : ∀ j, ((g.move i p).locals j).done = false → (g.locals j).done = false := by
    intro j hj
    by_cases hji : j = i
    · subst hji
      rw [move_self] at hj
      generalize p.1 = s' at hmove
      generalize p.2 = t' at hmove hj
      generalize g.locals j = t at hmove
      cases hmove <;> first | rfl | exact hj
    · rwa [move_other hji] at hj
  refine ⟨?_, ?_, ?_⟩
  · rw [move_shared]
    rcases hmove.keys with ⟨heq, _⟩ |
      ⟨key, _, hcommits, _, ⟨now, heq⟩ | ⟨now, service, payload, _, heq⟩⟩
    · rw [heq]
      exact h.ids
    · rw [heq]
      exact h.ids.update fun _ _ _ => rfl
    · rw [heq]
      have hids : UniqueOn ApiKey.id (revokeKey key.id now g.shared).api_keys :=
        h.ids.update fun _ _ _ => rfl
      have hactive : (g.locals i).done = false := by
        cases hi : g.locals i with
        | committing => rfl
        | saving => rfl
        | _ =>
          rw [hi] at hcommits
          cases hcommits
      apply hids.insert
      intro k hk hid
      obtain ⟨row, hrow, hrowid⟩ := id_of_revokeKey hk
      exact h.unused i hactive row hrow (hrowid.trans hid)
  · intro j hj
    have hunused := h.unused j (hundone j hj)
    rw [move_shared]
    rcases hmove.keys with ⟨heq, _⟩ | ⟨key, _, _, hdone, ⟨now, heq⟩ | ⟨now, service, payload, _, heq⟩⟩
    · rw [heq]
      exact hunused
    · rw [heq]
      intro k hk hid
      obtain ⟨row, hrow, hrowid⟩ := id_of_revokeKey hk
      exact hunused row hrow (hrowid.trans hid)
    · rw [heq]
      intro k hk hid
      rcases List.mem_append.mp hk with hk | hk
      · obtain ⟨row, hrow, hrowid⟩ := id_of_revokeKey hk
        exact hunused row hrow (hrowid.trans hid)
      · rw [List.mem_singleton.mp hk] at hid
        obtain rfl := hf.apart i j 0 0 hid
        rw [move_self, hdone] at hj
        cases hj
  · intro j key hkey
    by_cases hji : j = i
    · subst hji
      rw [move_self] at hkey
      rcases hmove.reads hkey with hold | ⟨hmem, hid, _⟩
      · obtain ⟨hid, k, hk, hkid⟩ := h.read j key hold
        obtain ⟨k', hk', hid', _⟩ := hmove.kept hk
        exact ⟨hid, k', hk', hid'.trans hkid⟩
      · obtain ⟨k', hk', hid', _⟩ := hmove.kept hmem
        exact ⟨hid, k', hk', hid'⟩
    · rw [move_other hji] at hkey
      obtain ⟨hid, k, hk, hkid⟩ := h.read j key hkey
      obtain ⟨k', hk', hid', _⟩ := hmove.kept hk
      exact ⟨hid, k', hk', hid'.trans hkid⟩

end

theorem keysKept_run {s₀ : Store} (hs : Reachable s₀) (hf : FreshEnvs (fun i => (jobs i).env) s₀)
    (turns : List ι) : KeysKept jobs (run.after (key_turn jobs) (key_begin s₀) turns) :=
  interleave.invariant (keysKept_begin hs hf) (fun _ _ _ h hp => h.move hf hp) turns

/-! ## Commits -/

/-- The turn commits a write of the key: a rotation or a revocation. -/
def KeyWrites (jobs : ι → KeyJob) (key_id : UUID) (g : State ι Store KeyStage) (i : ι) : Prop :=
  (jobs i).call.api_key_id = key_id ∧ (g.locals i).commits = true ∧
    ((key_turn jobs g i).locals i).done = true

/-- The turn commits a rotation of the key. -/
def Rotates (jobs : ι → KeyJob) (key_id : UUID) (g : State ι Store KeyStage) (i : ι) : Prop :=
  (∃ user, (jobs i).call = .rotate key_id user) ∧ (g.locals i).commits = true ∧
    ((key_turn jobs g i).locals i).done = true

theorem Rotates.writes {key_id : UUID} {g : State ι Store KeyStage} {i : ι}
    (h : Rotates jobs key_id g i) : KeyWrites jobs key_id g i := by
  obtain ⟨⟨user, hcall⟩, hcommits, hdone⟩ := h
  refine ⟨?_, hcommits, hdone⟩
  rw [hcall]
  rfl

section
variable {g : State ι Store KeyStage} {i j : ι} {key_id : UUID}

theorem key_turn_cases (jobs : ι → KeyJob) (g : State ι Store KeyStage) (i : ι) :
    key_turn jobs g i = g ∨ ∃ s' t', KeyMove (jobs i) g.shared (g.locals i) s' t' ∧
      key_turn jobs g i = g.move i (s', t') := by
  rcases lockStep_cases (fun i => key_transaction (jobs i)) g i with heq | ⟨s', t', hnext, heq⟩
  · exact Or.inl heq
  · exact Or.inr ⟨s', t', KeyJob.move hnext, heq⟩

omit [Platform] in
theorem done_of_commits {t : KeyStage} (h : t.commits = true) : t.done = false := by
  cases t <;> first | rfl | cases h

theorem RevokedKey.kept (h : RevokedKey key_id g.shared) :
    RevokedKey key_id (key_turn jobs g i).shared := by
  rcases key_turn_cases jobs g i with heq | ⟨s', t', hmove, heq⟩
  · rwa [heq]
  · rw [heq]
    obtain ⟨k, hk, hid, hrevoked⟩ := h
    obtain ⟨k', hk', hid', hkept⟩ := hmove.kept hk
    exact ⟨k', hk', hid'.trans hid, hkept hrevoked⟩

/-- Each commit leaves its key revoked. -/
theorem KeyWrites.revoked (h : KeysKept jobs g) (hw : KeyWrites jobs key_id g i) :
    RevokedKey key_id (key_turn jobs g i).shared := by
  obtain ⟨hcall, hcommits, hdone⟩ := hw
  rcases key_turn_cases jobs g i with heq | ⟨s', t', hmove, heq⟩
  · rw [heq, done_of_commits hcommits] at hdone
    cases hdone
  rw [heq]
  show RevokedKey key_id s'
  rcases hmove.keys with ⟨_, hno⟩ | ⟨key, hkey, _, _, hrows⟩
  · rw [hcommits] at hno
    cases hno
  obtain ⟨hid, row, hrow, hrowid⟩ := h.read i key hkey
  have hwritten : ∀ now, ∃ k ∈ (revokeKey key.id now g.shared).api_keys, k.id = key_id ∧
      k.revoked_at.isSome = true := by
    intro now
    refine ⟨_, mem_updateWhere_of hrow (by simpa using hrowid), ?_, rfl⟩
    exact hrowid.trans (hid.trans hcall)
  unfold RevokedKey
  rcases hrows with ⟨now, heq⟩ | ⟨now, service, payload, _, heq⟩
  · rw [heq]
    exact hwritten now
  · rw [heq]
    obtain ⟨k, hk, hkid⟩ := hwritten now
    exact ⟨k, List.mem_append_left _ hk, hkid⟩

/-- A rotation that has gone through did so before, or in this turn. -/
theorem done_of_turn {user : User} (hcall : (jobs i).call = .rotate key_id user)
    (h : ((key_turn jobs g j).locals i).done = true) :
    (g.locals i).done = true ∨ i = j ∧ Rotates jobs key_id g i := by
  by_cases hij : i = j
  · subst hij
    rcases key_turn_cases jobs g i with heq | ⟨s', t', hmove, heq⟩
    · rw [heq] at h
      exact Or.inl h
    · have hdone := h
      rw [heq, move_self] at h
      generalize ht : g.locals i = t at hmove
      cases hmove with
      | unchanged hcall' =>
        rw [hcall] at hcall'
        cases hcall'
      | revoked hcall' =>
        rw [hcall] at hcall'
        cases hcall'
      | rotated => exact Or.inr ⟨rfl, ⟨user, hcall⟩, by rw [ht]; rfl, hdone⟩
      | refreshed => exact Or.inl rfl
      | _ => cases h
  · rcases key_turn_cases jobs g j with heq | ⟨s', t', _, heq⟩
    · rw [heq] at h
      exact Or.inl h
    · rw [heq, move_other hij] at h
      exact Or.inl h

end

/-! ## From the check to the commit -/

/-- The rotation has checked the key, and has not committed yet. -/
def Checked (jobs : ι → KeyJob) (i : ι) (key_id : UUID) (g : State ι Store KeyStage) : Prop :=
  (∃ user, (jobs i).call = .rotate key_id user) ∧ (g.locals i).key.isSome = true

/-- If the turn commits a rotation, no write of its key was committed since it
checked the key. -/
def KeyInTime (jobs : ι → KeyJob) (s₀ : Store) (past : List ι) (i : ι) : Prop :=
  ∀ key_id, Rotates jobs key_id (run.after (key_turn jobs) (key_begin s₀) past) i →
    ¬ run.Overtaken (key_turn jobs) (key_begin s₀) (Checked jobs i key_id) (KeyWrites jobs key_id) past

/-- If the turn commits a rotation, no rotation and no revocation of its key
was committed before. -/
def FirstWrite (jobs : ι → KeyJob) (s₀ : Store) (past : List ι) (i : ι) : Prop :=
  ∀ key_id, Rotates jobs key_id (run.after (key_turn jobs) (key_begin s₀) past) i →
    ¬ run.Some (key_turn jobs) (key_begin s₀) (KeyWrites jobs key_id) past

section
variable {s₀ : Store} (hs : Reachable s₀) (hf : FreshEnvs (fun i => (jobs i).env) s₀)
include hs hf

theorem revoked_of_written {key_id : UUID} {past : List ι}
    (h : run.Some (key_turn jobs) (key_begin s₀) (KeyWrites jobs key_id) past) :
    RevokedKey key_id (run.after (key_turn jobs) (key_begin s₀) past).shared := by
  induction past with
  | nil => cases h
  | cons i past ih =>
    rcases h with hpast | hnow
    · exact (ih hpast).kept
    · exact hnow.revoked (keysKept_run hs hf past)

/-- A rotation that starts to rely on its check read a key that nobody had written. -/
theorem unwritten_of_checked {past : List ι} {i j : ι} {key_id : UUID}
    (hbefore : ¬ Checked jobs i key_id (run.after (key_turn jobs) (key_begin s₀) past))
    (hafter : Checked jobs i key_id (run.after (key_turn jobs) (key_begin s₀) (j :: past))) :
    ¬ run.Some (key_turn jobs) (key_begin s₀) (KeyWrites jobs key_id) (j :: past) := by
  have hkept := keysKept_run hs hf past
  have hrevoked : run.Some (key_turn jobs) (key_begin s₀) (KeyWrites jobs key_id) past →
      RevokedKey key_id (run.after (key_turn jobs) (key_begin s₀) past).shared :=
    revoked_of_written hs hf
  rw [run.after_cons] at hafter
  simp only [run.Some]
  generalize run.after (key_turn jobs) (key_begin s₀) past = g at *
  obtain ⟨⟨user, hcall⟩, hkey⟩ := hafter
  rcases key_turn_cases jobs g j with heq | ⟨s', t', hmove, heq⟩
  · rw [heq] at hkey
    exact absurd ⟨⟨user, hcall⟩, hkey⟩ hbefore
  by_cases hij : i = j
  · subst hij
    rw [heq, move_self] at hkey
    obtain ⟨key, hkey⟩ := Option.isSome_iff_exists.mp hkey
    rcases hmove.reads hkey with hold | ⟨hmem, hid, hstart, hlive⟩
    · refine absurd ⟨⟨user, hcall⟩, ?_⟩ hbefore
      rw [hold]
      rfl
    · rw [hcall] at hid
      have hread : LiveKey key_id g.shared := ⟨key, hmem, hid, hlive _ _ hcall⟩
      rintro (hpast | ⟨_, hcommits, _⟩)
      · exact (hrevoked hpast).not_live hkept.ids hread
      · rw [hstart] at hcommits
        cases hcommits
  · rw [heq, move_other hij] at hkey
    exact absurd ⟨⟨user, hcall⟩, hkey⟩ hbefore

/-- A rotation is the first write of its key exactly when it was not overtaken. -/
theorem firstWrite_iff (past : List ι) (i : ι) : FirstWrite jobs s₀ past i ↔ KeyInTime jobs s₀ past i := by
  unfold FirstWrite KeyInTime
  refine forall_congr' fun key_id => forall_congr' fun hrotates => ?_
  have hchecked : Checked jobs i key_id (run.after (key_turn jobs) (key_begin s₀) past) := by
    obtain ⟨hcall, hcommits, _⟩ := hrotates
    refine ⟨hcall, ?_⟩
    generalize (run.after (key_turn jobs) (key_begin s₀) past).locals i = t at hcommits
    cases t <;> first | rfl | cases hcommits
  refine run.ok_iff_not_overtaken
    (fun past => ¬ run.Some (key_turn jobs) (key_begin s₀) (KeyWrites jobs key_id) past)
    ?_ ?_ ?_ hchecked
  · rintro ⟨_, hkey⟩
    cases hkey
  · exact fun past j hbefore hafter => unwritten_of_checked hs hf hbefore hafter
  · intro past j _ _
    exact not_or

end

/-! ## Keys that replace one another -/

/-- The first key was rotated into the second one. -/
def Replaced (jobs : ι → KeyJob) (g : State ι Store KeyStage) (a b : UUID) : Prop :=
  ∃ i, (∃ user, (jobs i).call = .rotate a user) ∧ (g.locals i).done = true ∧
    (jobs i).env.uuid 0 = b

/-- Of the keys that come from one key, at most one is live. -/
def OneLive (jobs : ι → KeyJob) (g : State ι Store KeyStage) : Prop :=
  ∀ a b c, Relation.ReflTransGen (Replaced jobs g) a b → Relation.ReflTransGen (Replaced jobs g) a c →
    LiveKey b g.shared → LiveKey c g.shared → b = c

/-- A rotation comes first among the writes of its key, and the keys that come
from one key stay one live key. -/
def Linear (jobs : ι → KeyJob) (s₀ : Store) (past : List ι) (i : ι) : Prop :=
  FirstWrite jobs s₀ past i ∧ OneLive jobs (run.after (key_turn jobs) (key_begin s₀) (i :: past))

section
variable {s₀ : Store}

theorem rotates_of_done {i : ι} {key_id : UUID} {user : User} (hcall : (jobs i).call = .rotate key_id user)
    {past : List ι} (h : ((run.after (key_turn jobs) (key_begin s₀) past).locals i).done = true) :
    run.Some (key_turn jobs) (key_begin s₀) (KeyWrites jobs key_id) past := by
  induction past with
  | nil => cases h
  | cons j past ih =>
    rcases done_of_turn hcall h with hpast | ⟨rfl, hnow⟩
    · exact Or.inl (ih hpast)
    · exact Or.inr hnow.writes

/-- Where each rotation is the first write of its key, no key has two of them. -/
theorem one_rotation {past : List ι} (h : run.Each (FirstWrite jobs s₀) past) {i j : ι} {key_id : UUID}
    {user user' : User} (hi : (jobs i).call = .rotate key_id user)
    (hj : (jobs j).call = .rotate key_id user')
    (hidone : ((run.after (key_turn jobs) (key_begin s₀) past).locals i).done = true)
    (hjdone : ((run.after (key_turn jobs) (key_begin s₀) past).locals j).done = true) : i = j := by
  induction past with
  | nil => cases hidone
  | cons k past ih =>
    rcases done_of_turn hi hidone with hipast | ⟨rfl, hinow⟩
    · rcases done_of_turn hj hjdone with hjpast | ⟨rfl, hjnow⟩
      · exact ih h.1 hipast hjpast
      · exact absurd (rotates_of_done hi hipast) (h.2 key_id hjnow)
    · rcases done_of_turn hj hjdone with hjpast | ⟨rfl, _⟩
      · exact absurd (rotates_of_done hj hjpast) (h.2 key_id hinow)
      · rfl

theorem oneLive_of_first (hs : Reachable s₀) (hf : FreshEnvs (fun i => (jobs i).env) s₀)
    {past : List ι} (h : run.Each (FirstWrite jobs s₀) past) :
    OneLive jobs (run.after (key_turn jobs) (key_begin s₀) past) := by
  intro a b c hb hc hlb hlc
  refine run.live_unique (fun x => LiveKey x _) ?_ ?_ hb hc hlb hlc
  · rintro x y z ⟨i, ⟨user, hi⟩, hidone, rfl⟩ ⟨j, ⟨user', hj⟩, hjdone, rfl⟩
    rw [one_rotation h hi hj hidone hjdone]
  · rintro x y ⟨i, ⟨user, hi⟩, hidone, _⟩
    exact (revoked_of_written hs hf (rotates_of_done hi hidone)).not_live (keysKept_run hs hf past).ids

end

/-- In every interleaving of rotations and revocations each key is rotated once
at most and not after a revocation, and of the keys that come from one key one
at most is live, exactly when no rotation is overtaken. -/
theorem rotations_are_linear_iff_none_is_overtaken {s₀ : Store} (hs : Reachable s₀)
    (hf : FreshEnvs (fun i => (jobs i).env) s₀) (turns : List ι) :
    run.Each (Linear jobs s₀) turns ↔ run.Each (KeyInTime jobs s₀) turns := by
  constructor
  · exact fun h => h.mono fun past i hlinear => (firstWrite_iff hs hf past i).mp hlinear.1
  · intro h
    have hfirst : run.Each (FirstWrite jobs s₀) turns :=
      h.mono fun past i hin => (firstWrite_iff hs hf past i).mpr hin
    clear h
    induction turns with
    | nil => trivial
    | cons i past ih => exact ⟨ih hfirst.1, hfirst.2, oneLive_of_first hs hf hfirst⟩

/-! ## Two rotations at once, and one alone -/

/-- Two rotations of the key of the sample run. -/
def twoRotations (i : Fin 2) : KeyJob :=
  ⟨sampleDraws 2 i, .rotate 40 sampleMember⟩

omit [Platform] in
theorem twoRotations_fresh :
    FreshEnvs (fun i => (twoRotations i).env)
      (run.after (@serve samplePlatform) Store.empty sampleRun) :=
  sample_envs_fresh (fun _ => rfl) (by decide +kernel)

instance (key_id : UUID) (s : Store) : Decidable (LiveKey key_id s) :=
  inferInstanceAs (Decidable (∃ k ∈ s.api_keys, _ ∧ _))

omit [Platform] in
/-- Both rotations check the key before the first one commits: both replace it. -/
theorem two_rotations_leave_two_live_keys :
    let s₀ := run.after (@serve samplePlatform) Store.empty sampleRun
    let both : List (Fin 2) := [1, 1, 0, 0, 1, 0]
    let g := run.after (@key_turn samplePlatform _ _ _ twoRotations) (@key_begin _ s₀) both
    @Reachable samplePlatform s₀ ∧ FreshEnvs (fun i => (twoRotations i).env) s₀ ∧
      LiveKey 40 s₀ ∧ (∀ i, (g.locals i).done = true) ∧ LiveKey 1000 g.shared ∧ LiveKey 1001 g.shared ∧
      ¬ run.Each (@Linear samplePlatform _ _ _ twoRotations s₀) both := by
  intro s₀ both g
  have hdone : ∀ i, (g.locals i).done = true := by decide +kernel
  have hfirst : LiveKey 1000 g.shared := by decide +kernel
  have hsecond : LiveKey 1001 g.shared := by decide +kernel
  refine ⟨sample_reachable, twoRotations_fresh, by decide +kernel, hdone, hfirst, hsecond, ?_⟩
  rintro ⟨_, _, hone⟩
  have hreplaced : ∀ i : Fin 2, Replaced twoRotations g 40 ((twoRotations i).env.uuid 0) :=
    fun i => ⟨i, ⟨_, rfl⟩, hdone i, rfl⟩
  have heq := hone 40 1000 1001 (.single (hreplaced 0)) (.single (hreplaced 1)) hfirst hsecond
  exact absurd heq (by decide)

omit [Platform] in
/-- A rotation that comes after the other one is refused, and one live key is left. -/
theorem a_later_rotation_leaves_one_live_key :
    let s₀ := run.after (@serve samplePlatform) Store.empty sampleRun
    let apart : List (Fin 2) := [1, 0, 0, 0, 0]
    let g := run.after (@key_turn samplePlatform _ _ _ twoRotations) (@key_begin _ s₀) apart
    run.Each (@Linear samplePlatform _ _ _ twoRotations s₀) apart ∧
      (g.locals 0).done = true ∧ (g.locals 1).done = false ∧
      LiveKey 1000 g.shared ∧ ¬ LiveKey 40 g.shared ∧ ¬ LiveKey 1001 g.shared := by
  intro s₀ apart g
  refine ⟨?_, by decide +kernel, by decide +kernel, by decide +kernel, by decide +kernel,
    by decide +kernel⟩
  refine (@rotations_are_linear_iff_none_is_overtaken samplePlatform _ _ _ twoRotations s₀
    sample_reachable twoRotations_fresh apart).mpr ?_
  have hwrite : ∀ past i key_id, ((run.after (@key_turn samplePlatform _ _ _ twoRotations)
      (@key_begin _ s₀) past).locals i).commits = false →
        ¬ @KeyWrites samplePlatform _ _ _ twoRotations key_id (run.after
          (@key_turn samplePlatform _ _ _ twoRotations) (@key_begin _ s₀) past) i := by
    rintro past i key_id hno ⟨_, hcommits, _⟩
    rw [hcommits] at hno
    cases hno
  have hidle : ∀ past i, ((run.after (@key_turn samplePlatform _ _ _ twoRotations)
      (@key_begin _ s₀) past).locals i).commits = false →
        @KeyInTime samplePlatform _ _ _ twoRotations s₀ past i :=
    fun past i hno key_id hrotates => absurd (@Rotates.writes samplePlatform _ _ _ _ _ _ _ hrotates)
      (hwrite past i key_id hno)
  -- the first rotation commits in its third turn, and the second one never does
  have hcommit : @KeyInTime samplePlatform _ _ _ twoRotations s₀ [0, 0] 0 := by
    intro key_id _ hovertaken
    rcases hovertaken.some with (hnone | hstart) | hflush
    · exact hnone
    · exact hwrite [] 0 key_id (by decide +kernel) hstart
    · exact hwrite [0] 0 key_id (by decide +kernel) hflush
  exact ⟨⟨⟨⟨⟨trivial, hidle [] 0 (by decide +kernel)⟩, hidle [0] 0 (by decide +kernel)⟩, hcommit⟩,
    hidle [0, 0, 0] 0 (by decide +kernel)⟩, hidle [0, 0, 0, 0] 1 (by decide +kernel)⟩

end pulseforge

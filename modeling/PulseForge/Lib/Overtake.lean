-- Checks that go stale: a process reads something, relies on what it read for
-- some steps, and others write it meanwhile. And things that replace one
-- another, where one that was replaced is no longer live.
import Mathlib.Logic.Relation
import PulseForge.Lib.Run

namespace run

variable {σ ι : Type} {step : σ → ι → σ} {start : σ}

/-! ## Reliance -/

/-- Since the process began to rely on what it read, a step wrote it. -/
def Overtaken (step : σ → ι → σ) (start : σ) (relies : σ → Prop) (writes : σ → ι → Prop) :
    List ι → Prop
  | [] => False
  | i :: past => relies (after step start past) ∧
      (writes (after step start past) i ∨ Overtaken step start relies writes past)

/-- Who was overtaken, was so by a write. -/
theorem Overtaken.some {relies : σ → Prop} {writes : σ → ι → Prop} {past : List ι}
    (h : Overtaken step start relies writes past) : Some step start writes past := by
  induction past with
  | nil => exact h
  | cons i past ih =>
    rcases h.2 with hwrite | hpast
    · exact Or.inr hwrite
    · exact Or.inl (ih hpast)

/-- What is true when the process begins to rely on it, and is over for good
with the next write, is true exactly while the process is not overtaken. The
steps may be known to meet a condition. -/
theorem ok_iff_not_overtaken_while (good : σ → ι → Prop) {relies : σ → Prop}
    {writes : σ → ι → Prop} (ok : List ι → Prop) (h0 : relies start → ok [])
    (hbegin : ∀ past i, Every step start good (i :: past) → ¬ relies (after step start past) →
      relies (after step start (i :: past)) → ok (i :: past))
    (hkeep : ∀ past i, Every step start good (i :: past) → relies (after step start past) →
      relies (after step start (i :: past)) →
      (ok (i :: past) ↔ ok past ∧ ¬ writes (after step start past) i))
    {past : List ι} (hgood : Every step start good past) (h : relies (after step start past)) :
    ok past ↔ ¬ Overtaken step start relies writes past := by
  induction past with
  | nil =>
    simp only [Overtaken, not_false_eq_true, iff_true]
    exact h0 h
  | cons i past ih =>
    simp only [Overtaken]
    by_cases hbefore : relies (after step start past)
    · rw [hkeep past i hgood hbefore h, ih hgood.1 hbefore, not_and, not_or]
      constructor
      · rintro ⟨hnot, hwrite⟩ _
        exact ⟨hwrite, hnot⟩
      · intro hnone
        exact (hnone hbefore).symm
    · refine iff_of_true (hbegin past i hgood hbefore h) ?_
      rintro ⟨hrelies, _⟩
      exact hbefore hrelies

theorem ok_iff_not_overtaken {relies : σ → Prop} {writes : σ → ι → Prop} (ok : List ι → Prop)
    (h0 : relies start → ok [])
    (hbegin : ∀ past i, ¬ relies (after step start past) → relies (after step start (i :: past)) →
      ok (i :: past))
    (hkeep : ∀ past i, relies (after step start past) → relies (after step start (i :: past)) →
      (ok (i :: past) ↔ ok past ∧ ¬ writes (after step start past) i))
    {past : List ι} (h : relies (after step start past)) :
    ok past ↔ ¬ Overtaken step start relies writes past :=
  ok_iff_not_overtaken_while (fun _ _ => True) ok h0 (fun past i _ => hbegin past i)
    (fun past i _ => hkeep past i) (Every.of_all (fun _ _ => trivial) past) h

/-! ## Stale values -/

/-- Since the process began to rely on the value that it read, others wrote it,
and the last of them left one that does not fit. -/
def Stale {β : Type} (step : σ → ι → σ) (start : σ) (relies : σ → Prop) (writes : σ → ι → β → Prop)
    (fits : β → Prop) : List ι → Prop
  | [] => False
  | i :: past => relies (after step start past) ∧
      ((∃ b, writes (after step start past) i b ∧ ¬ fits b) ∨
        (¬ ∃ b, writes (after step start past) i b) ∧ Stale step start relies writes fits past)

/-- What is true when the process begins to rely on it, and what every write
decides by its value, is true exactly while the last write fits. -/
theorem ok_iff_not_stale {β : Type} {relies : σ → Prop} {writes : σ → ι → β → Prop} {fits : β → Prop}
    (ok : List ι → Prop) (h0 : relies start → ok [])
    (hbegin : ∀ past i, ¬ relies (after step start past) → relies (after step start (i :: past)) →
      ok (i :: past))
    (hwrite : ∀ past i b, relies (after step start past) → writes (after step start past) i b →
      (ok (i :: past) ↔ fits b))
    (hkeep : ∀ past i, relies (after step start past) → (¬ ∃ b, writes (after step start past) i b) →
      (ok (i :: past) ↔ ok past))
    {past : List ι} (h : relies (after step start past)) :
    ok past ↔ ¬ Stale step start relies writes fits past := by
  induction past with
  | nil => exact iff_of_true (h0 h) not_false
  | cons i past ih =>
    by_cases hbefore : relies (after step start past)
    · by_cases hwrites : ∃ b, writes (after step start past) i b
      · obtain ⟨b, hb⟩ := hwrites
        rw [hwrite past i b hbefore hb]
        constructor
        · rintro hfits ⟨_, ⟨b', hb', hnot⟩ | ⟨hnone, _⟩⟩
          · exact hnot ((hwrite past i b' hbefore hb').mp ((hwrite past i b hbefore hb).mpr hfits))
          · exact hnone ⟨b, hb⟩
        · intro hfresh
          by_contra hnot
          exact hfresh ⟨hbefore, Or.inl ⟨b, hb, hnot⟩⟩
      · rw [hkeep past i hbefore hwrites, ih hbefore]
        constructor
        · rintro hfresh ⟨_, ⟨b, hb, _⟩ | ⟨_, hstale⟩⟩
          · exact hwrites ⟨b, hb⟩
          · exact hfresh hstale
        · intro hfresh hstale
          exact hfresh ⟨hbefore, Or.inr ⟨hwrites, hstale⟩⟩
    · refine iff_of_true (hbegin past i hbefore h) ?_
      rintro ⟨hrelies, _⟩
      exact hbefore hrelies

/-! ## Replacement -/

/-- Where each thing is replaced at most once, and is not live from then on, at
most one of those that come from one thing is live. -/
theorem live_unique {α : Type} {replaced : α → α → Prop} (live : α → Prop)
    (hone : ∀ a b c, replaced a b → replaced a c → b = c) (hlive : ∀ a b, replaced a b → ¬ live a)
    {a b c : α} (hb : Relation.ReflTransGen replaced a b) (hc : Relation.ReflTransGen replaced a c)
    (hlb : live b) (hlc : live c) : b = c := by
  have hlast : ∀ x y, Relation.ReflTransGen replaced x y → live x → x = y := by
    intro x y hxy hx
    rcases hxy.cases_head with heq | ⟨z, hz, _⟩
    · exact heq
    · exact absurd hx (hlive x z hz)
  rcases Relation.ReflTransGen.total_of_right_unique hone hb hc with h | h
  · exact hlast b c h hlb
  · exact (hlast c b h hlc).symm

end run

import Mathlib

/-!
# Where and how often something happens

A loop that polls until something decisive happens is described by the first
decisive index below its bound, or by there being none.  What must happen at
most once is counted with `Nat.count`.
-/

namespace Foundation

/-- `index` is where it happens for the first time. -/
def FirstAt (happens : Nat → Prop) (index : Nat) : Prop :=
  happens index ∧ ∀ earlier < index, ¬ happens earlier

theorem FirstAt.unique
    {happens : Nat → Prop} {first second : Nat}
    (atFirst : FirstAt happens first)
    (atSecond : FirstAt happens second) :
    first = second := by
  rcases Nat.lt_trichotomy first second with before | same | after
  · exact absurd atFirst.1 (atSecond.2 first before)
  · exact same
  · exact absurd atSecond.1 (atFirst.2 second after)

/-- Below any bound there is a first index, or there is none at all. -/
theorem firstAt_or_never (happens : Nat → Prop) (bound : Nat) :
    (∃ index, index < bound ∧ FirstAt happens index) ∨
      ∀ index < bound, ¬ happens index := by
  induction bound with
  | zero => exact Or.inr fun index below => absurd below (Nat.not_lt_zero _)
  | succ bound inductionHypothesis =>
      rcases inductionHypothesis with ⟨index, below, first⟩ | never
      · exact Or.inl ⟨index, Nat.lt_succ_of_lt below, first⟩
      · by_cases here : happens bound
        · exact Or.inl ⟨bound, Nat.lt_succ_self bound, here, never⟩
        · refine Or.inr fun index below => ?_
          rcases Nat.lt_succ_iff_lt_or_eq.mp below with earlier | rfl
          · exact never index earlier
          · exact here

/-- It happens at most once exactly when it does not at two indices. -/
theorem count_le_one_iff
    (happens : Nat → Prop) [DecidablePred happens] (bound : Nat) :
    Nat.count happens bound ≤ 1 ↔
      ¬ ∃ first second, first < second ∧ second < bound ∧
        happens first ∧ happens second := by
  constructor
  · rintro atMostOne ⟨first, second, before, below, atFirst, atSecond⟩
    have one := Nat.count_strict_mono atFirst before
    have two := Nat.count_strict_mono atSecond below
    omega
  · intro notTwice
    induction bound with
    | zero => simp
    | succ bound inductionHypothesis =>
        have earlier := inductionHypothesis (by
          rintro ⟨first, second, before, below, both⟩
          exact notTwice
            ⟨first, second, before, Nat.lt_succ_of_lt below, both⟩)
        rw [Nat.count_succ]
        by_cases here : happens bound
        · have noneBefore : Nat.count happens bound = 0 := by
            rw [Nat.count_iff_forall_not]
            intro first before atFirst
            exact notTwice
              ⟨first, bound, before, Nat.lt_succ_self bound, atFirst, here⟩
          simp [noneBefore, here]
        · simpa [here] using earlier

end Foundation

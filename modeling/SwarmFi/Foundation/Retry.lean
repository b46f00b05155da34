import SwarmFi.Foundation.Program

/-!
# Bounded retries

`retrying` repeats a program while it raises a retryable error, at most a
given number of extra times, and raises the last error in the end.  Against
any environment its outcome is the first settled one among the outcomes of
the successive attempts, and `attemptsMade` counts the attempts that were
really made.
-/

namespace Foundation

variable {vocabulary : Vocabulary} {ε α σ : Type}

namespace Program

/-- One attempt and up to `extra` more, each only after a retryable error. -/
def retrying
    (retryable : ε → Bool) (once : Program vocabulary ε α) :
    Nat → Program vocabulary ε α
  | 0 => once
  | extra + 1 =>
      once.recover fun error =>
        if retryable error then
          retrying retryable once extra
        else
          .raise error

theorem Uses.retrying
    {allowed : vocabulary.Call → Prop} {retryable : ε → Bool}
    {once : Program vocabulary ε α} (uses : once.Uses allowed) :
    ∀ extra, (once.retrying retryable extra).Uses allowed
  | 0 => uses
  | extra + 1 => by
      refine uses.recover fun error => ?_
      split
      · exact Uses.retrying uses extra
      · trivial

end Program

/-! ## Attempts read off a stream of outcomes -/

/-- Does this outcome lead to another attempt? -/
def Unsettled (retryable : ε → Bool) : Except ε α → Bool
  | .ok _ => false
  | .error error => retryable error

/-- The outcome of a bounded retry over the outcomes of its attempts. -/
def firstSettled
    (retryable : ε → Bool) (outcomes : Nat → Except ε α) :
    Nat → Except ε α
  | 0 => outcomes 0
  | extra + 1 =>
      if Unsettled retryable (outcomes 0) then
        firstSettled retryable (fun index => outcomes (index + 1)) extra
      else
        outcomes 0

/-- A bounded retry succeeds when its first settled attempt does. -/
theorem firstSettled_ok_iff
    (retryable : ε → Bool) (outcomes : Nat → Except ε α)
    (extra : Nat) :
    (∃ value, firstSettled retryable outcomes extra = .ok value) ↔
      ∃ attempt ≤ extra, (∃ value, outcomes attempt = .ok value) ∧
        ∀ earlier < attempt,
          Unsettled retryable (outcomes earlier) = true := by
  induction extra generalizing outcomes with
  | zero =>
      constructor
      · intro succeeded
        exact ⟨0, Nat.le_refl 0, succeeded,
          fun earlier below => absurd below (Nat.not_lt_zero _)⟩
      · rintro ⟨attempt, within, succeeded, _⟩
        rw [Nat.le_zero.mp within] at succeeded
        exact succeeded
  | succ extra inductionHypothesis =>
      rw [firstSettled]
      by_cases again : Unsettled retryable (outcomes 0) = true
      · rw [if_pos again, inductionHypothesis]
        constructor
        · rintro ⟨attempt, within, succeeded, before⟩
          refine ⟨attempt + 1, Nat.succ_le_succ within, succeeded, ?_⟩
          intro earlier below
          cases earlier with
          | zero => exact again
          | succ earlier => exact before earlier (by omega)
        · rintro ⟨attempt, within, ⟨value, succeeded⟩, before⟩
          cases attempt with
          | zero =>
              rw [succeeded] at again
              cases again
          | succ attempt =>
              exact ⟨attempt, by omega, ⟨value, succeeded⟩,
                fun earlier below => before (earlier + 1) (by omega)⟩
      · rw [if_neg again]
        constructor
        · intro succeeded
          exact ⟨0, Nat.zero_le _, succeeded,
            fun earlier below => absurd below (Nat.not_lt_zero _)⟩
        · rintro ⟨attempt, _, succeeded, before⟩
          cases attempt with
          | zero => exact succeeded
          | succ attempt => exact absurd (before 0 (Nat.succ_pos _)) again

/-- How many attempts a bounded retry makes. -/
def attemptsMade
    (retryable : ε → Bool) (outcomes : Nat → Except ε α) : Nat → Nat
  | 0 => 1
  | extra + 1 =>
      if Unsettled retryable (outcomes 0) then
        attemptsMade retryable (fun index => outcomes (index + 1)) extra + 1
      else
        1

/-- An attempt is made when all before it were unsettled. -/
theorem lt_attemptsMade_iff
    (retryable : ε → Bool) (outcomes : Nat → Except ε α)
    (extra index : Nat) :
    index < attemptsMade retryable outcomes extra ↔
      index ≤ extra ∧
        ∀ earlier < index, Unsettled retryable (outcomes earlier) = true := by
  induction extra generalizing outcomes index with
  | zero =>
      simp only [attemptsMade, Nat.lt_one_iff, Nat.le_zero]
      constructor
      · rintro rfl
        exact ⟨rfl, fun earlier below => absurd below (Nat.not_lt_zero _)⟩
      · exact And.left
  | succ extra inductionHypothesis =>
      cases index with
      | zero =>
          have positive :
              0 < attemptsMade retryable outcomes (extra + 1) := by
            rw [attemptsMade]
            split <;> omega
          simp [positive]
      | succ index =>
          rw [attemptsMade]
          by_cases again : Unsettled retryable (outcomes 0) = true
          · rw [if_pos again, Nat.succ_lt_succ_iff,
              inductionHypothesis (fun attempt => outcomes (attempt + 1))]
            simp only [Nat.succ_le_succ_iff]
            refine and_congr_right fun _ => ⟨fun all earlier below => ?_,
              fun all earlier below => all (earlier + 1) (by omega)⟩
            cases earlier with
            | zero => exact again
            | succ earlier => exact all earlier (by omega)
          · rw [if_neg again]
            constructor
            · intro below
              omega
            · rintro ⟨_, all⟩
              exact absurd (all 0 (Nat.succ_pos index)) again

/-- The last attempt that is made settles a bounded retry. -/
theorem firstSettled_eq_last
    (retryable : ε → Bool) (outcomes : Nat → Except ε α) (extra : Nat) :
    ∃ last, attemptsMade retryable outcomes extra = last + 1 ∧
      firstSettled retryable outcomes extra = outcomes last := by
  induction extra generalizing outcomes with
  | zero => exact ⟨0, rfl, rfl⟩
  | succ extra inductionHypothesis =>
      rw [attemptsMade, firstSettled]
      by_cases again : Unsettled retryable (outcomes 0) = true
      · rw [if_pos again, if_pos again]
        rcases inductionHypothesis (fun index => outcomes (index + 1)) with
          ⟨last, isLast, settled⟩
        exact ⟨last + 1, congrArg Nat.succ isLast, settled⟩
      · rw [if_neg again, if_neg again]
        exact ⟨0, rfl, rfl⟩

/-- Attempts that pass through `states` with `outcomes` give the first
settled outcome and stop in the state after the last attempt. -/
theorem Program.run_retrying
    (environment : Environment vocabulary σ) (retryable : ε → Bool)
    (once : Program vocabulary ε α) (extra : Nat)
    (outcomes : Nat → Except ε α) (states : Nat → σ)
    (each : ∀ index,
      once.run environment (states index) =
        (outcomes index, states (index + 1))) :
    (once.retrying retryable extra).run environment (states 0) =
      (firstSettled retryable outcomes extra,
        states (attemptsMade retryable outcomes extra)) := by
  induction extra generalizing outcomes states with
  | zero => exact each 0
  | succ extra inductionHypothesis =>
      have later :=
        inductionHypothesis
          (fun index => outcomes (index + 1))
          (fun index => states (index + 1))
          (fun index => each (index + 1))
      rw [Program.retrying, run_recover, each 0]
      cases first : outcomes 0 with
      | ok value =>
          simp [firstSettled, attemptsMade, Unsettled, first]
      | error error =>
          by_cases again : retryable error = true
          · simpa [firstSettled, attemptsMade, Unsettled, first, again]
              using later
          · simp [firstSettled, attemptsMade, Unsettled, first, again]

end Foundation

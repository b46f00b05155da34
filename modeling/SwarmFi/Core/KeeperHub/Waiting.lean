import SwarmFi.Foundation.FirstHit
import SwarmFi.Python.Arithmetic
import SwarmFi.Core.KeeperHub.Client

/-!
# Waiting for an execution

`wait_for_completion` polls the status of an execution until one is terminal
or its own clock, which counts the intervals it has slept, has reached the
timeout; then it polls once more.  The loop runs on any arithmetic: with
floats it is the code, with fractions its clock is exact.
-/

namespace SwarmFi.Core.KeeperHub

open Foundation Python

/-! ## The loop -/

inductive WaitCall (Number : Type) where
  | getExecutionStatus (executionId : String)
  | sleep (seconds : Number)

/-- A poll is answered or raises; `asyncio.sleep` returns. -/
abbrev Wait (Number : Type) : Vocabulary where
  Call := WaitCall Number
  Answer
    | .getExecutionStatus _ => Except Exception KHExecutionStatus_
    | .sleep _ => Unit

namespace Wait

variable {Number : Type}

def getExecutionStatus (executionId : String) :
    Program (Wait Number) Exception KHExecutionStatus_ :=
  .call (.getExecutionStatus executionId) Program.ofExcept

def sleep (seconds : Number) : Program (Wait Number) Exception Unit :=
  .call (.sleep seconds) .done

/-- The loop of `wait_for_completion` for at most `turns` turns, the poll
after the timeout included; `none` while it is still waiting then. -/
def loop
    (arithmetic : Arithmetic Number) (executionId : String)
    (pollInterval timeout : Number) :
    Nat → Number → Program (Wait Number) Exception (Option KHExecutionStatus_)
  | 0, _ => return none
  | turns + 1, elapsed =>
      if arithmetic.lt elapsed timeout then do
        let status ← getExecutionStatus executionId
        if status.isTerminal then
          return some status
        else
          sleep pollInterval
          loop arithmetic executionId pollInterval timeout turns
            (arithmetic.add elapsed pollInterval)
      else do
        let status ← getExecutionStatus executionId
        return some status

end Wait

def waitForCompletion {Number : Type}
    (arithmetic : Arithmetic Number) (executionId : String)
    (pollInterval timeout : Number) (turns : Nat) :
    Program (Wait Number) Exception (Option KHExecutionStatus_) :=
  Wait.loop arithmetic executionId pollInterval timeout turns
    (arithmetic.literal 0)

/-! ## The polls against a sequence of statuses -/

namespace Wait

/-- The statuses come one after the other; the state counts the polls. -/
def answering {Number : Type} (statuses : Nat → KHExecutionStatus_) :
    Environment (Wait Number) Nat
  | polls, .getExecutionStatus _ => (.ok (statuses polls), polls + 1)
  | polls, .sleep _ => ((), polls)

def Terminal (statuses : Nat → KHExecutionStatus_) (poll : Nat) : Prop :=
  (statuses poll).isTerminal = true

section Exact

variable {pollInterval timeout : Rat} {limit : Nat}

/-- Before the least number of intervals that fills the timeout, and only
there, the clock is below it. -/
theorem clock_lt_iff
    (positive : 0 < pollInterval)
    (least : IsLeast {n : Nat | timeout ≤ n * pollInterval} limit)
    (poll : Nat) :
    (poll : Rat) * pollInterval < timeout ↔ poll < limit := by
  constructor
  · intro below
    by_contra notBefore
    have reached : limit ≤ poll := Nat.le_of_not_lt notBefore
    have later : (limit : Rat) * pollInterval ≤ poll * pollInterval :=
      mul_le_mul_of_nonneg_right (Nat.cast_le.mpr reached) positive.le
    exact absurd below (not_lt_of_ge (least.1.trans later))
  · intro before
    by_contra notBelow
    exact absurd (least.2 (not_lt.mp notBelow)) (Nat.not_le.mpr before)

theorem clock_succ (poll : Nat) (interval : Rat) :
    (poll : Rat) * interval + interval =
      ((poll + 1 : Nat) : Rat) * interval := by
  rw [Nat.cast_succ, add_mul, one_mul]

variable (executionId : String) (statuses : Nat → KHExecutionStatus_)

/-- A turn before the timeout ends the loop or leaves it one poll later. -/
theorem run_loop_succ_of_lt
    (positive : 0 < pollInterval)
    (least : IsLeast {n : Nat | timeout ≤ n * pollInterval} limit)
    {poll : Nat} (before : poll < limit) (turns : Nat) :
    (loop .fraction executionId pollInterval timeout (turns + 1)
        (poll * pollInterval)).run (answering statuses) poll =
      if (statuses poll).isTerminal then
        (.ok (some (statuses poll)), poll + 1)
      else
        (loop .fraction executionId pollInterval timeout turns
          ((poll + 1 : Nat) * pollInterval)).run
            (answering statuses) (poll + 1) := by
  have below : (poll : Rat) * pollInterval < timeout :=
    (clock_lt_iff positive least poll).mpr before
  rw [loop, Arithmetic.fraction_lt, decide_eq_true below, if_pos rfl,
    ← clock_succ]
  cases terminal : (statuses poll).isTerminal <;>
    simp [getExecutionStatus, sleep, Program.run_bind, answering, terminal]

/-- The poll after the timeout is the last. -/
theorem run_loop_succ_of_reached
    (positive : 0 < pollInterval)
    (least : IsLeast {n : Nat | timeout ≤ n * pollInterval} limit)
    (turns : Nat) :
    (loop .fraction executionId pollInterval timeout (turns + 1)
        (limit * pollInterval)).run (answering statuses) limit =
      (.ok (some (statuses limit)), limit + 1) := by
  have reached : ¬ (limit : Rat) * pollInterval < timeout := fun below =>
    Nat.lt_irrefl _ ((clock_lt_iff positive least limit).mp below)
  rw [loop, Arithmetic.fraction_lt, decide_eq_false reached]
  simp [getExecutionStatus, Program.run_bind, answering]

/-- Where the loop stops when the first terminal status from `poll` on is the
one at `first`, before the timeout. -/
theorem run_loop_of_firstAt
    (positive : 0 < pollInterval)
    (least : IsLeast {n : Nat | timeout ≤ n * pollInterval} limit)
    {first : Nat} (inTime : first < limit)
    (atFirst : FirstAt (Terminal statuses) first)
    (turns poll : Nat) (notPast : poll ≤ first)
    (enough : limit < poll + turns) :
    (loop .fraction executionId pollInterval timeout turns
        (poll * pollInterval)).run (answering statuses) poll =
      (.ok (some (statuses first)), first + 1) := by
  induction turns generalizing poll with
  | zero => omega
  | succ turns inductionHypothesis =>
      have before : poll < limit := Nat.lt_of_le_of_lt notPast inTime
      rw [run_loop_succ_of_lt executionId statuses positive least before]
      by_cases here : poll = first
      · subst here
        exact if_pos atFirst.1
      · have earlier : poll < first := Nat.lt_of_le_of_ne notPast here
        have waiting : ¬ (statuses poll).isTerminal = true :=
          atFirst.2 poll earlier
        rw [if_neg waiting]
        exact inductionHypothesis (poll + 1) earlier (by omega)

/-- Where the loop stops when no status before the timeout is terminal. -/
theorem run_loop_of_never
    (positive : 0 < pollInterval)
    (least : IsLeast {n : Nat | timeout ≤ n * pollInterval} limit)
    (never : ∀ poll < limit, ¬ Terminal statuses poll)
    (turns poll : Nat) (notPast : poll ≤ limit)
    (enough : limit < poll + turns) :
    (loop .fraction executionId pollInterval timeout turns
        (poll * pollInterval)).run (answering statuses) poll =
      (.ok (some (statuses limit)), limit + 1) := by
  induction turns generalizing poll with
  | zero => omega
  | succ turns inductionHypothesis =>
      by_cases atLimit : poll = limit
      · subst atLimit
        exact run_loop_succ_of_reached executionId statuses positive least
          turns
      · have before : poll < limit := Nat.lt_of_le_of_ne notPast atLimit
        have waiting : ¬ (statuses poll).isTerminal = true :=
          never poll before
        rw [run_loop_succ_of_lt executionId statuses positive least before,
          if_neg waiting]
        exact inductionHypothesis (poll + 1) before (by omega)

end Exact

/-- Some number of positive intervals fills the timeout, and a least one. -/
theorem exists_limit {pollInterval : Rat} (positive : 0 < pollInterval)
    (timeout : Rat) :
    ∃ limit : Nat, IsLeast {n : Nat | timeout ≤ n * pollInterval} limit := by
  have filled : ∃ n : Nat, timeout ≤ n * pollInterval := by
    obtain ⟨n, isLarge⟩ := exists_nat_ge (timeout / pollInterval)
    exact ⟨n, (div_le_iff₀ positive).mp isLarge⟩
  exact ⟨Nat.find filled, Nat.find_spec filled,
    fun _ fills => Nat.find_min' filled fills⟩

end Wait

/-! ## What is returned, and after how many polls -/

/-- With an exact clock, `wait_for_completion` returns the first terminal
status before the timeout, or else the one it polls after it; one turn more
than the timeout has intervals is enough. -/
theorem waitForCompletion_returns_first
    (executionId : String) (pollInterval timeout : Rat)
    (positive : 0 < pollInterval) (statuses : Nat → KHExecutionStatus_) :
    ∃ limit : Nat,
      IsLeast {n : Nat | timeout ≤ n * pollInterval} limit ∧
      (timeout ≤ 0 → limit = 0) ∧
      ∀ turns, limit < turns →
        (∀ first < limit, FirstAt (Wait.Terminal statuses) first →
          (waitForCompletion .fraction executionId pollInterval timeout
              turns).run (Wait.answering statuses) 0 =
            (.ok (some (statuses first)), first + 1)) ∧
        ((∀ poll < limit, ¬ Wait.Terminal statuses poll) →
          (waitForCompletion .fraction executionId pollInterval timeout
              turns).run (Wait.answering statuses) 0 =
            (.ok (some (statuses limit)), limit + 1)) := by
  obtain ⟨limit, least⟩ := Wait.exists_limit positive timeout
  have start : (Arithmetic.fraction.literal 0 : Rat) =
      ((0 : Nat) : Rat) * pollInterval := by simp
  refine ⟨limit, least, ?_, ?_⟩
  · intro expired
    have atOnce : timeout ≤ ((0 : Nat) : Rat) * pollInterval := by
      simpa using expired
    exact Nat.le_zero.mp (least.2 atOnce)
  · intro turns enough
    rw [waitForCompletion, start]
    constructor
    · intro first inTime atFirst
      exact Wait.run_loop_of_firstAt executionId statuses positive least
        inTime atFirst turns 0 (Nat.zero_le _) (by omega)
    · intro never
      exact Wait.run_loop_of_never executionId statuses positive least never
        turns 0 (Nat.zero_le _) (by omega)

/-- An execution whose third poll finds it failed. -/
def Wait.failsThird (poll : Nat) : KHExecutionStatus_ where
  status := if poll < 2 then .running else .failed

theorem waitForCompletion_returns_third :
    (0 : Rat) < 2 ∧
      ∃ limit : Nat,
        IsLeast {n : Nat | (120 : Rat) ≤ n * 2} limit ∧
        ((120 : Rat) ≤ 0 → limit = 0) ∧
        ∀ turns, limit < turns →
          (∀ first < limit, FirstAt (Wait.Terminal Wait.failsThird) first →
            (waitForCompletion .fraction "0xkh" 2 120 turns).run
                (Wait.answering Wait.failsThird) 0 =
              (.ok (some (Wait.failsThird first)), first + 1)) ∧
          ((∀ poll < limit, ¬ Wait.Terminal Wait.failsThird poll) →
            (waitForCompletion .fraction "0xkh" 2 120 turns).run
                (Wait.answering Wait.failsThird) 0 =
              (.ok (some (Wait.failsThird limit)), limit + 1)) :=
  ⟨by decide,
    waitForCompletion_returns_first "0xkh" 2 120 (by decide)
      Wait.failsThird⟩

end SwarmFi.Core.KeeperHub

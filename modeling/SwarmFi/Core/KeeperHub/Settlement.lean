import SwarmFi.Core.KeeperHub.Verdict

/-!
# How a swap settles

For every script of a swap: when its result is SUBMITTED, when it is
CONFIRMED, and when a CONFIRMED result has no transaction hash.
-/

namespace SwarmFi.Core.KeeperHub

open Foundation Python Uniswap
open KeeperHubSwapExecutor

/-! ## What the polls leave -/

/-- The first decisive poll, and what it answered. -/
def DecidedBy (script : SwapScript) (status : KHExecutionStatus_) : Prop :=
  ∃ poll < maxPolls,
    FirstAt (fun index => Decisive (script.polls index)) poll ∧
      script.polls poll = .ok status

def Undecided (script : SwapScript) : Prop :=
  ∀ poll < maxPolls, ¬ Decisive (script.polls poll)

/-- A hash that is still running, or nothing decisive, no hash in the logs and
nothing but running as the last status. -/
def StaysRunning (script : SwapScript) : Prop :=
  (∃ status, DecidedBy script status ∧ truthy status.txHash = true ∧
      status.status = .running) ∨
    (Undecided script ∧ script.logTx = none ∧
      ((lastSeen script.polls maxPolls).map (·.status)).getD .running =
        .running)

/-- A success that is polled, or a hash in the logs where the polls surface
none. -/
def Succeeds (script : SwapScript) : Prop :=
  (∃ status, DecidedBy script status ∧
      (status.succeeded = true ∨
        (truthy status.txHash = false ∧ script.logTx.isSome = true))) ∨
    (Undecided script ∧ script.logTx.isSome = true)

/-- A success that is polled without a hash, and no hash in the logs. -/
def SucceedsUnhashed (script : SwapScript) : Prop :=
  ∃ status, DecidedBy script status ∧ truthy status.txHash = false ∧
    status.succeeded = true ∧ script.logTx = none

theorem DecidedBy.unique {script : SwapScript}
    {first second : KHExecutionStatus_} (atFirst : DecidedBy script first)
    (atSecond : DecidedBy script second) : first = second := by
  obtain ⟨poll, _, isFirst, answer⟩ := atFirst
  obtain ⟨other, _, isOther, otherAnswer⟩ := atSecond
  have same : other = poll := isOther.unique isFirst
  rw [same, answer] at otherAnswer
  exact Except.ok.inj otherAnswer

theorem not_undecided_of_decidedBy {script : SwapScript}
    {status : KHExecutionStatus_} (decided : DecidedBy script status) :
    ¬ Undecided script := by
  obtain ⟨poll, below, first, _⟩ := decided
  intro undecided
  exact undecided poll below first.1

/-- A status without a hash decides only when it is terminal. -/
theorem not_running_of_unhashed {script : SwapScript}
    {status : KHExecutionStatus_} (decided : DecidedBy script status)
    (unhashed : truthy status.txHash = false) :
    status.status ≠ .running := by
  obtain ⟨poll, _, first, answer⟩ := decided
  have decisive := first.1
  simp only [answer, decisive_ok_iff, unhashed, Bool.false_eq_true,
    false_or] at decisive
  intro running
  rw [KHExecutionStatus_.isTerminal, running] at decisive
  exact absurd decisive (by decide)

/-! ## The status after an accepted transfer -/

section Awaited

variable {script : SwapScript} {pollEnd : PollEnd} {count : Nat}

/-- The two ends of the polls. -/
theorem decidedBy_or_undecided (polled : PollsTo script.polls pollEnd count) :
    (∃ status, DecidedBy script status ∧ pollEnd = endOf status) ∨
      (Undecided script ∧
        pollEnd = .stopped (lastSeen script.polls maxPolls)) := by
  cases polled with
  | decided index status below answer first =>
      left
      exact ⟨status, ⟨index, below, first, answer⟩, rfl⟩
  | undecided never =>
      right
      exact ⟨never, rfl⟩

theorem awaited_running_iff (polled : PollsTo script.polls pollEnd count)
    (executionId : String) :
    (awaited script executionId pollEnd).status = .running ↔
      StaysRunning script := by
  unfold StaysRunning
  rcases decidedBy_or_undecided polled with ⟨status, decided, rfl⟩ |
    ⟨undecided, rfl⟩
  · have notUndecided := not_undecided_of_decidedBy decided
    rw [or_iff_left (fun both => notUndecided both.1)]
    constructor
    · intro running
      refine ⟨status, decided, ?_⟩
      by_cases hashed : truthy status.txHash = true
      · rw [endOf, if_pos hashed] at running
        exact ⟨hashed, running⟩
      · have unhashed : truthy status.txHash = false := by
          simpa using hashed
        rw [endOf, if_neg hashed, awaited] at running
        cases found : script.logTx with
        | some tx =>
            rw [found] at running
            cases running
        | none =>
            rw [found] at running
            exact absurd running (not_running_of_unhashed decided unhashed)
    · intro stays
      obtain ⟨other, otherDecided, hashed, running⟩ := stays
      rw [otherDecided.unique decided] at hashed running
      rw [endOf, if_pos hashed]
      exact running
  · have notDecided : ¬ ∃ status, DecidedBy script status ∧
        truthy status.txHash = true ∧ status.status = .running := by
      intro found
      obtain ⟨status, decided, _⟩ := found
      exact not_undecided_of_decidedBy decided undecided
    rw [or_iff_right notDecided, and_iff_right undecided, awaited]
    cases found : script.logTx with
    | some tx =>
        constructor
        · intro running
          cases running
        · intro stays
          cases stays.1
    | none =>
        rw [and_iff_right rfl]
        rfl

theorem awaited_succeeded_iff (polled : PollsTo script.polls pollEnd count)
    (executionId : String) :
    (awaited script executionId pollEnd).succeeded = true ↔
      Succeeds script := by
  unfold Succeeds
  rcases decidedBy_or_undecided polled with ⟨status, decided, rfl⟩ |
    ⟨undecided, rfl⟩
  · have notUndecided := not_undecided_of_decidedBy decided
    have isSucceeded : (awaited script executionId (endOf status)).succeeded =
        true ↔ (status.succeeded = true ∨
          (truthy status.txHash = false ∧ script.logTx.isSome = true)) := by
      by_cases hashed : truthy status.txHash = true
      · rw [endOf, if_pos hashed, hashed]
        simp [awaited, ofStatus, ExecStatus.succeeded,
          KHExecutionStatus_.succeeded]
      · have unhashed : truthy status.txHash = false := by
          simpa using hashed
        rw [endOf, if_neg hashed, awaited_succeeded_of_stopped, unhashed]
        simp [or_comm]
    rw [or_iff_left (fun both => notUndecided both.1), isSucceeded]
    constructor
    · intro succeeds
      exact ⟨status, decided, succeeds⟩
    · intro found
      obtain ⟨other, otherDecided, succeeds⟩ := found
      rw [otherDecided.unique decided] at succeeds
      exact succeeds
  · have notDecided : ¬ ∃ status, DecidedBy script status ∧
        (status.succeeded = true ∨
          (truthy status.txHash = false ∧ script.logTx.isSome = true)) := by
      intro found
      obtain ⟨status, decided, _⟩ := found
      exact not_undecided_of_decidedBy decided undecided
    rw [or_iff_right notDecided, and_iff_right undecided,
      awaited_succeeded_of_stopped, lastSeen_not_succeeded _ undecided,
      Bool.or_false]

theorem truthy_hexText {value : Json} {tx : String}
    (found : hexText value = some tx) : truthy (some tx) = true := by
  cases value with
  | str text =>
      simp only [hexText] at found
      by_cases isHex : text ≠ "" ∧ startsWith text "0x" = true
      · rw [if_pos isHex] at found
        cases found
        simpa [truthy] using isHex.1
      · rw [if_neg isHex] at found
        cases found
  | _ => cases found

theorem truthy_entryTx {entry : Json} {tx : String}
    (found : entryTx entry = some tx) : truthy (some tx) = true := by
  unfold entryTx at found
  split at found
  · split at found
    · exact truthy_hexText found
    · cases found
  · cases found

/-- A hash in the logs is never empty. -/
theorem truthy_logTx {tx : String} (found : script.logTx = some tx) :
    truthy (some tx) = true := by
  unfold SwapScript.logTx at found
  split at found
  · cases found
  · next logs _ =>
      cases logs with
      | arr entries =>
          have inEntries : entries.findSome? entryTx = some tx := found
          obtain ⟨entry, _, isTx⟩ := List.exists_of_findSome?_eq_some inEntries
          exact truthy_entryTx isTx
      | _ => cases found

theorem awaited_unhashed_iff (polled : PollsTo script.polls pollEnd count)
    (executionId : String) :
    (awaited script executionId pollEnd).succeeded = true ∧
        truthy (awaited script executionId pollEnd).txHash = false ↔
      SucceedsUnhashed script := by
  unfold SucceedsUnhashed
  rcases decidedBy_or_undecided polled with ⟨status, decided, rfl⟩ |
    ⟨undecided, rfl⟩
  · have isUnhashed :
        ((awaited script executionId (endOf status)).succeeded = true ∧
          truthy (awaited script executionId (endOf status)).txHash =
            false) ↔
        (truthy status.txHash = false ∧ status.succeeded = true ∧
          script.logTx = none) := by
      by_cases hashed : truthy status.txHash = true
      · rw [endOf, if_pos hashed, hashed]
        simp [awaited, ofStatus, hashed]
      · have unhashed : truthy status.txHash = false := by
          simpa using hashed
        rw [endOf, if_neg hashed, awaited_succeeded_of_stopped, unhashed,
          awaited]
        cases found : script.logTx with
        | some tx =>
            have hasHash : truthy (some tx) = true := truthy_logTx found
            simp [hasHash]
        | none => simp [lastResort, unhashed]
    rw [isUnhashed]
    constructor
    · intro bare
      exact ⟨status, decided, bare⟩
    · intro found
      obtain ⟨other, otherDecided, bare⟩ := found
      rw [otherDecided.unique decided] at bare
      exact bare
  · have notDecided : ¬ ∃ status, DecidedBy script status ∧
        truthy status.txHash = false ∧ status.succeeded = true ∧
          script.logTx = none := by
      intro found
      obtain ⟨status, decided, _⟩ := found
      exact not_undecided_of_decidedBy decided undecided
    apply iff_of_false _ notDecided
    intro bare
    obtain ⟨succeeds, hashless⟩ := bare
    rw [awaited_succeeded_of_stopped, lastSeen_not_succeeded _ undecided,
      Bool.or_false] at succeeds
    obtain ⟨tx, found⟩ := Option.isSome_iff_exists.mp succeeds
    rw [awaited, found] at hashless
    rw [truthy_logTx found] at hashless
    cases hashless

end Awaited

/-! ## The status of the result -/

section Result

variable (script : SwapScript) (self : KeeperHubSwapExecutor)
  (args : SwapArguments)

/-- SUBMITTED stands for a quirk of the quote or for an execution that is
still running. -/
theorem result_submitted_iff :
    (script.result self args).status = .submitted ↔
      QuoteRaisesQuirk script args ∨
        (script.Accepted self args ∧ StaysRunning script) := by
  rw [← quoteOutcome_quirk_iff script self]
  have ended := script.ends self args
  generalize script.result self args = result at ended ⊢
  generalize script.finish self args = state at ended
  cases ended with
  | quoteRaised exc quoted =>
      have notAccepted : ¬ script.Accepted self args := by
        intro accepted
        obtain ⟨⟨quote, quotedOk⟩, _⟩ := accepted
        rw [quoted] at quotedOk
        cases quotedOk
      simp [quoted, capturedResult_submitted_iff, notAccepted]
  | noRecipient quote quoted missing =>
      have notAccepted : ¬ script.Accepted self args :=
        fun accepted => accepted.2.1 missing
      simp [quoted, swapResult, finalStatus_noRecipient, notAccepted]
  | transferRaised quote exc quoted present transferred =>
      have notAccepted : ¬ script.Accepted self args := by
        intro accepted
        obtain ⟨_, _, transfer, transferredOk⟩ := accepted
        rw [transferred] at transferredOk
        cases transferredOk
      simp [quoted, swapResult, finalStatus_eq_submitted_iff, notAccepted]
  | accepted quote transfer pollEnd count quoted present transferred polled =>
      have accepted : script.Accepted self args :=
        ⟨⟨quote, quoted⟩, present, transfer, transferred⟩
      have running := awaited_running_iff polled transfer.executionId
      simp [quoted, swapResult, finalStatus_eq_submitted_iff, accepted,
        running]

theorem capturedResult_not_confirmed (exc : Exception) :
    (capturedResult args exc).status ≠ .confirmed := by
  simp only [capturedResult]
  split <;> decide

/-- CONFIRMED stands for an accepted transfer that succeeds. -/
theorem result_confirmed_iff :
    (script.result self args).status = .confirmed ↔
      script.Accepted self args ∧ Succeeds script := by
  have ended := script.ends self args
  generalize script.result self args = result at ended ⊢
  generalize script.finish self args = state at ended
  cases ended with
  | quoteRaised exc quoted =>
      have notAccepted : ¬ script.Accepted self args := by
        intro accepted
        obtain ⟨⟨quote, quotedOk⟩, _⟩ := accepted
        rw [quoted] at quotedOk
        cases quotedOk
      have notConfirmed := capturedResult_not_confirmed args exc
      simp [notAccepted, notConfirmed]
  | noRecipient quote quoted missing =>
      have notAccepted : ¬ script.Accepted self args :=
        fun accepted => accepted.2.1 missing
      simp [swapResult, finalStatus_noRecipient, notAccepted]
  | transferRaised quote exc quoted present transferred =>
      have notAccepted : ¬ script.Accepted self args := by
        intro accepted
        obtain ⟨_, _, transfer, transferredOk⟩ := accepted
        rw [transferred] at transferredOk
        cases transferredOk
      simp [swapResult, finalStatus_eq_confirmed_iff, notAccepted,
        ExecStatus.succeeded, KHExecutionStatus.isSuccess]
  | accepted quote transfer pollEnd count quoted present transferred polled =>
      have accepted : script.Accepted self args :=
        ⟨⟨quote, quoted⟩, present, transfer, transferred⟩
      rw [and_iff_right accepted, swapResult, finalStatus_eq_confirmed_iff]
      exact awaited_succeeded_iff polled transfer.executionId

/-- A CONFIRMED result without a hash. -/
theorem result_unhashed_iff :
    (script.result self args).status = .confirmed ∧
        truthy (script.result self args).txHash = false ↔
      script.Accepted self args ∧ SucceedsUnhashed script := by
  have ended := script.ends self args
  generalize script.result self args = result at ended ⊢
  generalize script.finish self args = state at ended
  cases ended with
  | quoteRaised exc quoted =>
      have notAccepted : ¬ script.Accepted self args := by
        intro accepted
        obtain ⟨⟨quote, quotedOk⟩, _⟩ := accepted
        rw [quoted] at quotedOk
        cases quotedOk
      have notConfirmed := capturedResult_not_confirmed args exc
      simp [notAccepted, notConfirmed]
  | noRecipient quote quoted missing =>
      have notAccepted : ¬ script.Accepted self args :=
        fun accepted => accepted.2.1 missing
      simp [swapResult, finalStatus_noRecipient, notAccepted]
  | transferRaised quote exc quoted present transferred =>
      have notAccepted : ¬ script.Accepted self args := by
        intro accepted
        obtain ⟨_, _, transfer, transferredOk⟩ := accepted
        rw [transferred] at transferredOk
        cases transferredOk
      simp [swapResult, finalStatus_eq_confirmed_iff, notAccepted,
        ExecStatus.succeeded, KHExecutionStatus.isSuccess]
  | accepted quote transfer pollEnd count quoted present transferred polled =>
      have accepted : script.Accepted self args :=
        ⟨⟨quote, quoted⟩, present, transfer, transferred⟩
      rw [and_iff_right accepted, swapResult, finalStatus_eq_confirmed_iff]
      exact awaited_unhashed_iff polled transfer.executionId

end Result

end SwarmFi.Core.KeeperHub

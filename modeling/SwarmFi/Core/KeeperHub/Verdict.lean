import SwarmFi.Core.KeeperHub.Runs

/-!
# What a swap result says about the execution

Two verdicts of `execute_swap` against what the same call was told: CONFIRMED
against the status polls, and SUBMITTED against the transfers KeeperHub
accepted.  Each holds exactly outside one kind of run.
-/

namespace SwarmFi.Core.KeeperHub

open Foundation Python Uniswap
open KeeperHubSwapExecutor

namespace SwapScript

variable
  (script : SwapScript) (self : KeeperHubSwapExecutor)
  (args : SwapArguments)

/-- The result of the scripted call. -/
def result : SwapResult :=
  Program.valueOf
    ((self.executeSwap args).run script.environment .initial).1

/-- What the scripted call has left behind. -/
def finish : SwapState :=
  ((self.executeSwap args).run script.environment .initial).2

theorem ends :
    Ends script self args (script.result self args)
      (script.finish self args) := by
  obtain ⟨result, state, ended, ran⟩ := run_executeSwap script self args
  rw [SwapScript.result, SwapScript.finish, ran]
  exact ended

/-- The transfer is reached and KeeperHub returns an execution result. -/
def Accepted : Prop :=
  (∃ quote, script.quoteOutcome self args = .ok quote) ∧
    self.recipient ≠ "" ∧ ∃ transfer, script.transfer = .ok transfer

end SwapScript

/-! ## Final statuses -/

theorem finalStatus_eq_confirmed_iff (result : ExecStatus) :
    finalStatus result = .confirmed ↔ result.succeeded = true := by
  unfold finalStatus
  split
  · simp_all
  · split <;> simp_all

theorem finalStatus_eq_submitted_iff (result : ExecStatus) :
    finalStatus result = .submitted ↔ result.status = .running := by
  unfold finalStatus ExecStatus.succeeded
  cases result.status <;> decide

theorem finalStatus_eq_failed_iff (result : ExecStatus) :
    finalStatus result = .failed ↔
      result.succeeded = false ∧ result.status ≠ .running := by
  unfold finalStatus ExecStatus.succeeded
  cases result.status <;> decide

theorem finalStatus_noRecipient : finalStatus noRecipient = .failed := rfl

/-! ## What polls report -/

/-- The answer is a status of the given kind. -/
def Reports
    (kind : KHExecutionStatus → Bool)
    (answer : Except Exception KHExecutionStatus_) : Prop :=
  ∃ status, answer = .ok status ∧ kind status.status = true

theorem reports_ok_iff
    (kind : KHExecutionStatus → Bool) (status : KHExecutionStatus_) :
    Reports kind (.ok status) ↔ kind status.status = true := by
  simp [Reports]

theorem isFailure_eq_false_of_isSuccess
    {status : KHExecutionStatus} (success : status.isSuccess = true) :
    status.isFailure = false := by
  cases status <;> first | rfl | cases success

/-- Polling goes on only while neither success nor failure is reported. -/
theorem not_reports_failure_of_not_decisive
    {answer : Except Exception KHExecutionStatus_}
    (undecided : ¬ Decisive answer) :
    ¬ Reports KHExecutionStatus.isFailure answer := by
  rintro ⟨status, rfl, failure⟩
  refine undecided ((decisive_ok_iff status).mpr (Or.inr ?_))
  rw [status.isTerminal_eq, failure, Bool.or_true]

theorem not_reports_success_of_not_decisive
    {answer : Except Exception KHExecutionStatus_}
    (undecided : ¬ Decisive answer) :
    ¬ Reports KHExecutionStatus.isSuccess answer := by
  rintro ⟨status, rfl, success⟩
  refine undecided ((decisive_ok_iff status).mpr (Or.inr ?_))
  rw [status.isTerminal_eq, success, Bool.true_or]

/-! ## CONFIRMED and the polls -/

/-- CONFIRMED only when a poll of the call reported success, and never when
one reported failure. -/
def NoFalseSuccess
    (script : SwapScript) (self : KeeperHubSwapExecutor)
    (args : SwapArguments) : Prop :=
  (script.result self args).status = .confirmed →
    (∃ poll < (script.finish self args).polls,
      Reports KHExecutionStatus.isSuccess (script.polls poll)) ∧
    ∀ poll < (script.finish self args).polls,
      ¬ Reports KHExecutionStatus.isFailure (script.polls poll)

/-- The polls leave the verdict to the logs without having reported success:
none of them is decisive, or the first decisive one has no hash and is a
failure. -/
def PollsLackSuccess (script : SwapScript) : Prop :=
  (∀ poll < maxPolls, ¬ Decisive (script.polls poll)) ∨
    ∃ poll < maxPolls, ∃ status,
      script.polls poll = .ok status ∧
        FirstAt (fun index => Decisive (script.polls index)) poll ∧
          truthy status.txHash = false ∧ status.succeeded = false

/-- A run whose first decisive poll is known lacks success in the one way. -/
theorem pollsLackSuccess_iff_of_decided
    {script : SwapScript} {index : Nat} {status : KHExecutionStatus_}
    (below : index < maxPolls)
    (answer : script.polls index = .ok status)
    (first : FirstAt (fun poll => Decisive (script.polls poll)) index) :
    PollsLackSuccess script ↔
      truthy status.txHash = false ∧ status.succeeded = false := by
  constructor
  · rintro (never | ⟨other, _, found, otherAnswer, otherFirst, lacking⟩)
    · exact absurd first.1 (never index below)
    · have same : other = index := otherFirst.unique first
      subst same
      rw [answer] at otherAnswer
      cases otherAnswer
      exact lacking
  · intro lacking
    exact Or.inr ⟨index, below, status, answer, first, lacking⟩

/-- A poll loop that stops on a reported success saw success and no
failure. -/
theorem success_reported_of_decided
    {script : SwapScript} {index : Nat} {status : KHExecutionStatus_}
    (answer : script.polls index = .ok status)
    (first : FirstAt (fun poll => Decisive (script.polls poll)) index)
    (success : status.succeeded = true) :
    (∃ poll < index + 1,
      Reports KHExecutionStatus.isSuccess (script.polls poll)) ∧
    ∀ poll < index + 1,
      ¬ Reports KHExecutionStatus.isFailure (script.polls poll) := by
  constructor
  · exact ⟨index, Nat.lt_succ_self index, status, answer, success⟩
  · intro poll below
    rcases Nat.lt_succ_iff_lt_or_eq.mp below with earlier | rfl
    · exact not_reports_failure_of_not_decisive (first.2 poll earlier)
    · rw [answer, reports_ok_iff, isFailure_eq_false_of_isSuccess success]
      exact Bool.false_ne_true

theorem awaited_succeeded_of_stopped
    (script : SwapScript) (executionId : String)
    (lastStatus : Option KHExecutionStatus_) :
    (awaited script executionId (.stopped lastStatus)).succeeded =
      (script.logTx.isSome ||
        (lastStatus.map (·.succeeded)).getD false) := by
  unfold awaited
  cases script.logTx with
  | some tx => rfl
  | none => cases lastStatus <;> rfl

/-- The last status seen is not a success while no poll is decisive. -/
theorem lastSeen_not_succeeded
    {polls : Nat → Except Exception KHExecutionStatus_} (count : Nat)
    (never : ∀ poll < count, ¬ Decisive (polls poll)) :
    ((lastSeen polls count).map (·.succeeded)).getD false = false := by
  induction count with
  | zero => rfl
  | succ count inductionHypothesis =>
      have undecided := never count (Nat.lt_succ_self count)
      rw [lastSeen]
      cases answer : polls count with
      | error exc =>
          exact inductionHypothesis fun poll below =>
            never poll (Nat.lt_succ_of_lt below)
      | ok status =>
          have quiet := not_reports_success_of_not_decisive undecided
          rw [answer, reports_ok_iff] at quiet
          simpa [KHExecutionStatus_.succeeded] using quiet

/-- The verdict of an accepted transfer is sound exactly when the logs hold no
hash or the polls do not lack a success. -/
theorem noFalseSuccess_of_polled
    {script : SwapScript} {pollEnd : PollEnd} {count : Nat}
    (polled : PollsTo script.polls pollEnd count) (executionId : String) :
    ((awaited script executionId pollEnd).succeeded = true →
      (∃ poll < count,
        Reports KHExecutionStatus.isSuccess (script.polls poll)) ∧
      ∀ poll < count,
        ¬ Reports KHExecutionStatus.isFailure (script.polls poll)) ↔
      ¬ (script.logTx.isSome = true ∧ PollsLackSuccess script) := by
  cases polled with
  | decided index status below answer first =>
      rw [pollsLackSuccess_iff_of_decided below answer first]
      by_cases success : status.succeeded = true
      · constructor
        · rintro - ⟨-, -, failed⟩
          rw [success] at failed
          cases failed
        · intro _ _
          exact success_reported_of_decided answer first success
      · have failed : status.succeeded = false := by simpa using success
        have noSuccess :
            ¬ ∃ poll < index + 1,
              Reports KHExecutionStatus.isSuccess (script.polls poll) := by
          rintro ⟨poll, atMost, reported⟩
          rcases Nat.lt_succ_iff_lt_or_eq.mp atMost with earlier | rfl
          · exact not_reports_success_of_not_decisive
              (first.2 poll earlier) reported
          · rw [answer, reports_ok_iff] at reported
            exact success reported
        by_cases hash : truthy status.txHash = true
        · have surfaced :
              (awaited script executionId (endOf status)).succeeded =
                false := by
            rw [endOf, if_pos hash]
            exact failed
          simp [surfaced, hash]
        · have noHash : truthy status.txHash = false := by simpa using hash
          rw [endOf, if_neg hash, awaited_succeeded_of_stopped]
          constructor
          · rintro sound ⟨logged, -⟩
            exact noSuccess (sound (by rw [logged, Bool.true_or])).1
          · intro notBoth confirmed
            have logged : script.logTx.isSome = true := by
              simpa [failed] using confirmed
            exact absurd ⟨logged, noHash, failed⟩ notBoth
  | undecided never =>
      have lacking : PollsLackSuccess script := Or.inl never
      have noSuccess :
          ¬ ∃ poll < maxPolls,
            Reports KHExecutionStatus.isSuccess (script.polls poll) := by
        rintro ⟨poll, below, reported⟩
        exact not_reports_success_of_not_decisive (never poll below) reported
      rw [awaited_succeeded_of_stopped, lastSeen_not_succeeded _ never,
        Bool.or_false]
      constructor
      · rintro sound ⟨logged, -⟩
        exact noSuccess (sound logged).1
      · intro notBoth logged
        exact absurd ⟨logged, lacking⟩ notBoth

/-- CONFIRMED is backed by the polls exactly outside the runs in which a
transfer is accepted, the polls lack a success and the logs hold a hash. -/
theorem noFalseSuccess_iff
    (script : SwapScript) (self : KeeperHubSwapExecutor)
    (args : SwapArguments) :
    NoFalseSuccess script self args ↔
      ¬ (script.Accepted self args ∧ script.logTx.isSome = true ∧
        PollsLackSuccess script) := by
  have ended := script.ends self args
  unfold NoFalseSuccess
  generalize script.result self args = result at ended ⊢
  generalize script.finish self args = state at ended ⊢
  cases ended with
  | quoteRaised exc quoted =>
      have notAccepted : ¬ script.Accepted self args := by
        rintro ⟨⟨quote, quotedOk⟩, _⟩
        rw [quoted] at quotedOk
        cases quotedOk
      have notConfirmed : (capturedResult args exc).status ≠ .confirmed := by
        unfold capturedResult
        simp only
        split <;> decide
      simp [notAccepted, notConfirmed]
  | noRecipient quote quoted missing =>
      have notAccepted : ¬ script.Accepted self args :=
        fun accepted => accepted.2.1 missing
      simp [notAccepted, swapResult, finalStatus_noRecipient]
  | transferRaised quote exc quoted present transferred =>
      have notAccepted : ¬ script.Accepted self args := by
        rintro ⟨_, _, transfer, transferredOk⟩
        rw [transferred] at transferredOk
        cases transferredOk
      have notConfirmed :
          ¬ (ExecStatus.succeeded
            { executionId := "", status := .failed,
              error := some exc.text }) = true := by
        simp [ExecStatus.succeeded, KHExecutionStatus.isSuccess]
      simp [notAccepted, swapResult, finalStatus_eq_confirmed_iff,
        notConfirmed]
  | accepted quote transfer pollEnd count quoted present transferred polled =>
      have accepted : script.Accepted self args :=
        ⟨⟨quote, quoted⟩, present, transfer, transferred⟩
      simp only [swapResult, finalStatus_eq_confirmed_iff, accepted,
        true_and]
      exact noFalseSuccess_of_polled polled transfer.executionId

/-- An executor with a wallet and an empty environment. -/
def walletOnly : KeeperHubSwapExecutor where
  wallet := "0xaaaa"
  environ := fun _ => none
  hasZg := false
  elapsedMs := 1200

def ethForUsdc : SwapArguments where
  tokenIn := "0x0000000000000000000000000000000000000000"
  tokenOut := "0x833589fCD6eDb6E08f4c7C32D4f71b54bdA02913"
  amountInWei := "1000000000000000000"

/-- An execution that fails at the first poll and whose log entry shows a
hash. -/
def failedWithLogs : SwapScript where
  quote := .ok { routing := .classic, amountOut := some "1950000000" }
  transfer := .ok { executionId := "direct_1", status := .pending }
  polls := fun _ =>
    .ok { status := .failed, error := some "reverted" }
  logs := .ok
    (.arr [.obj [("output", .obj [("transactionHash", .str "0xab")])]])
  audit := .ok ()

/-- A failed execution is reported as CONFIRMED. -/
theorem failed_execution_confirmed :
    ¬ ∀ script self args, NoFalseSuccess script self args := by
  intro always
  have confirmed :
      (failedWithLogs.result walletOnly ethForUsdc).status =
        .confirmed := by
    decide +kernel
  have polledOnce :
      (failedWithLogs.finish walletOnly ethForUsdc).polls = 1 := by
    decide +kernel
  obtain ⟨_, noFailure⟩ :=
    always failedWithLogs walletOnly ethForUsdc confirmed
  rw [polledOnce] at noFailure
  exact noFailure 0 Nat.zero_lt_one ⟨_, rfl, rfl⟩

/-! ## SUBMITTED and the transfer -/

/-- SUBMITTED only when `execute_transfer` returned a result in the call. -/
def NoPhantomSubmission
    (script : SwapScript) (self : KeeperHubSwapExecutor)
    (args : SwapArguments) : Prop :=
  (script.result self args).status = .submitted →
    (script.finish self args).transfers ≠ []

/-- The quote is asked for and raises a text that the handler takes for a
deferred settlement. -/
def QuoteRaisesQuirk (script : SwapScript) (args : SwapArguments) : Prop :=
  OutOfRange 0 50 args.slippage = false ∧
    ∃ exc, script.quote = .error exc ∧ isQuirk exc.text = true

/-- A refused slippage is not mistaken for a quirk. -/
theorem isQuirk_slippageError (slippage : PyFloat) :
    isQuirk
      (validationError "QuoteRequest" "slippageTolerance"
        (rangeProblem "0" "50" slippage 0)).text = false := by
  unfold rangeProblem
  split <;> decide +kernel

theorem quoteOutcome_quirk_iff
    (script : SwapScript) (self : KeeperHubSwapExecutor)
    (args : SwapArguments) :
    (∃ exc, script.quoteOutcome self args = .error exc ∧
      isQuirk exc.text = true) ↔ QuoteRaisesQuirk script args := by
  unfold SwapScript.quoteOutcome quoteRequest QuoteRequest.make
    QuoteRaisesQuirk
  by_cases inRange : OutOfRange 0 50 args.slippage = false
  · simp [inRange]
  · simp [inRange, isQuirk_slippageError]

theorem capturedResult_submitted_iff
    (args : SwapArguments) (exc : Exception) :
    (capturedResult args exc).status = .submitted ↔
      isQuirk exc.text = true := by
  unfold capturedResult
  simp only
  split <;> simp_all

/-- SUBMITTED stands for an accepted transfer exactly when the quote does not
raise one of the quirk texts. -/
theorem noPhantomSubmission_iff
    (script : SwapScript) (self : KeeperHubSwapExecutor)
    (args : SwapArguments) :
    NoPhantomSubmission script self args ↔
      ¬ QuoteRaisesQuirk script args := by
  rw [← quoteOutcome_quirk_iff script self]
  have ended := script.ends self args
  unfold NoPhantomSubmission
  generalize script.result self args = result at ended ⊢
  generalize script.finish self args = state at ended ⊢
  cases ended with
  | quoteRaised exc quoted =>
      simp [quoted, capturedResult_submitted_iff, SwapState.initial]
  | noRecipient quote quoted missing =>
      simp [quoted, swapResult, finalStatus_noRecipient]
  | transferRaised quote exc quoted present transferred =>
      simp [quoted, swapResult, finalStatus_eq_submitted_iff]
  | accepted quote transfer pollEnd count quoted present transferred polled =>
      simp [quoted]

/-- Uniswap's answer when its server fails. -/
def serverError : Response Unit where
  statusCode := 500
  reasonPhrase := "Internal Server Error"
  url := "https://trade-api.gateway.uniswap.org/v1/quote"
  body := ()

/-- The quote raises what `raise_for_status` raises for that answer. -/
def quoteServerError : SwapScript where
  quote :=
    serverError.raiseForStatus.map fun _ =>
      { routing := .classic, amountOut := none }
  transfer := .ok { executionId := "direct_1", status := .pending }
  polls := fun _ =>
    .ok { status := .success, txHash := some "0xab" }
  logs := .ok (.arr [])
  audit := .ok ()

/-- A quote that fails with a server error is reported as SUBMITTED. -/
theorem failed_quote_submitted :
    ¬ ∀ script self args, NoPhantomSubmission script self args := by
  intro always
  have submitted :
      (quoteServerError.result walletOnly ethForUsdc).status =
        .submitted := by
    decide +kernel
  have noTransfer :
      (quoteServerError.finish walletOnly ethForUsdc).transfers = [] := by
    decide +kernel
  exact always quoteServerError walletOnly ethForUsdc submitted noTransfer

end SwarmFi.Core.KeeperHub

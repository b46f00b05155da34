import SwarmFi.Foundation.FirstHit
import SwarmFi.Core.KeeperHub.Executor

/-!
# Runs of a swap

A script fixes what every step of one `execute_swap` call meets: the quote,
the transfer, each status poll, the logs and the audit write.  `Ends` lists
the ways a scripted run can end, and `run_executeSwap` shows that every run
ends in one of them.
-/

namespace SwarmFi.Core.KeeperHub

open Foundation Python Uniswap
open KeeperHubSwapExecutor

structure SwapScript where
  quote : Except Exception QuoteResponse
  transfer : Except Exception KHExecutionResult
  polls : Nat → Except Exception KHExecutionStatus_
  logs : Except Exception Json
  audit : Except Exception Unit

/-- The polls made and the results that `execute_transfer` has returned. -/
structure SwapState where
  polls : Nat
  transfers : List KHExecutionResult

def SwapState.initial : SwapState where
  polls := 0
  transfers := []

namespace SwapScript

def environment (script : SwapScript) : Environment Swap SwapState
  | state, .quote _ => (script.quote, state)
  | state, .executeTransfer _ =>
      (script.transfer,
        { state with
          transfers := state.transfers ++ script.transfer.toOption.toList })
  | state, .getExecutionStatus _ =>
      (script.polls state.polls, { state with polls := state.polls + 1 })
  | state, .getExecutionLogs _ => (script.logs, state)
  | state, .appendAudit _ _ _ => (script.audit, state)

/-- The outcome of the quote step: the request is validated first. -/
def quoteOutcome
    (script : SwapScript) (self : KeeperHubSwapExecutor)
    (args : SwapArguments) : Except Exception QuoteResponse :=
  match self.quoteRequest args with
  | .error exc => .error exc
  | .ok _ => script.quote

/-- The hash the logs hold, if they can be fetched and hold one. -/
def logTx (script : SwapScript) : Option String :=
  match script.logs with
  | .error _ => none
  | .ok logs => logsTx logs

end SwapScript

/-! ## What the poll loop ends with -/

/-- An answer that ends the polling: a hash or a terminal status. -/
def Decisive (answer : Except Exception KHExecutionStatus_) : Prop :=
  ∃ status, answer = .ok status ∧
    (truthy status.txHash = true ∨ status.isTerminal = true)

theorem decisive_ok_iff (status : KHExecutionStatus_) :
    Decisive (.ok status) ↔
      truthy status.txHash = true ∨ status.isTerminal = true := by
  simp [Decisive]

/-- Where a decisive status leads. -/
def endOf (status : KHExecutionStatus_) : PollEnd :=
  if truthy status.txHash then .surfaced status else .stopped (some status)

/-- The last status among the first `count` polls. -/
def lastSeen (polls : Nat → Except Exception KHExecutionStatus_) :
    Nat → Option KHExecutionStatus_
  | 0 => none
  | count + 1 =>
      match polls count with
      | .ok status => some status
      | .error _ => lastSeen polls count

/-- The end of the poll loop over a stream of answers, with the number of
polls made. -/
inductive PollsTo (polls : Nat → Except Exception KHExecutionStatus_) :
    PollEnd → Nat → Prop where
  | decided
      (index : Nat) (status : KHExecutionStatus_)
      (below : index < maxPolls)
      (answer : polls index = .ok status)
      (first : FirstAt (fun poll => Decisive (polls poll)) index) :
      PollsTo polls (endOf status) (index + 1)
  | undecided
      (never : ∀ poll < maxPolls, ¬ Decisive (polls poll)) :
      PollsTo polls (.stopped (lastSeen polls maxPolls)) maxPolls

section Polling

variable {ε : Type} (script : SwapScript) (executionId : String)

/-- One poll of the loop. -/
theorem run_pollStatus_succ
    (count : Nat) (lastStatus : Option KHExecutionStatus_)
    (state : SwapState) :
    (pollStatus executionId (count + 1) lastStatus :
        Program Swap ε PollEnd).run script.environment state =
      match script.polls state.polls with
      | .error _ =>
          (pollStatus executionId count lastStatus).run script.environment
            { state with polls := state.polls + 1 }
      | .ok status =>
          if truthy status.txHash = true ∨ status.isTerminal = true then
            (.ok (endOf status), { state with polls := state.polls + 1 })
          else
            (pollStatus executionId count (some status)).run
              script.environment
              { state with polls := state.polls + 1 } := by
  simp only [pollStatus, KeeperHubClient.getExecutionStatus,
    Program.bind_eq_bind, Program.run_bind, Program.run_call,
    SwapScript.environment, Program.run_done]
  cases script.polls state.polls with
  | error exc => rfl
  | ok status =>
      by_cases hash : truthy status.txHash = true
      · simp [hash, endOf]
      · by_cases terminal : status.isTerminal = true
        · simp [hash, terminal, endOf]
        · simp [hash, terminal]

theorem run_pollStatus_decided
    {index : Nat} {status : KHExecutionStatus_}
    (answer : script.polls index = .ok status)
    (decisive : Decisive (script.polls index))
    (count : Nat) (lastStatus : Option KHExecutionStatus_)
    (state : SwapState)
    (started : state.polls ≤ index) (below : index < state.polls + count)
    (earlier : ∀ poll, state.polls ≤ poll → poll < index →
      ¬ Decisive (script.polls poll)) :
    (pollStatus executionId count lastStatus :
        Program Swap ε PollEnd).run script.environment state =
      (.ok (endOf status), { state with polls := index + 1 }) := by
  induction count generalizing state lastStatus with
  | zero => omega
  | succ count inductionHypothesis =>
      rw [run_pollStatus_succ]
      by_cases here : state.polls = index
      · rw [here, answer]
        rw [answer, decisive_ok_iff] at decisive
        simp [decisive]
      · have notYet := earlier state.polls (Nat.le_refl _) (by omega)
        have later : ∀ last,
            (pollStatus executionId count last :
                Program Swap ε PollEnd).run script.environment
                  { state with polls := state.polls + 1 } =
              (.ok (endOf status), { state with polls := index + 1 }) := by
          intro last
          refine inductionHypothesis last
            { state with polls := state.polls + 1 } ?_ ?_ ?_
          · show state.polls + 1 ≤ index
            omega
          · show index < state.polls + 1 + count
            omega
          · intro poll afterStart beforeIndex
            exact earlier poll (Nat.le_of_succ_le afterStart) beforeIndex
        cases seen : script.polls state.polls with
        | error exc => exact later lastStatus
        | ok other =>
            rw [seen, decisive_ok_iff] at notYet
            simp only [notYet, if_false]
            exact later (some other)

theorem run_pollStatus_undecided
    (count : Nat) (state : SwapState)
    (never : ∀ poll, state.polls ≤ poll → poll < state.polls + count →
      ¬ Decisive (script.polls poll)) :
    (pollStatus executionId count (lastSeen script.polls state.polls) :
        Program Swap ε PollEnd).run script.environment state =
      (.ok (.stopped (lastSeen script.polls (state.polls + count))),
        { state with polls := state.polls + count }) := by
  induction count generalizing state with
  | zero => rfl
  | succ count inductionHypothesis =>
      have notYet := never state.polls (Nat.le_refl _) (by omega)
      have later :=
        inductionHypothesis { state with polls := state.polls + 1 } (by
          intro poll afterStart beforeEnd
          simp only at afterStart beforeEnd
          exact never poll (by omega) (by omega))
      simp only [Nat.add_assoc, Nat.add_comm 1 count] at later
      rw [run_pollStatus_succ]
      cases seen : script.polls state.polls with
      | error exc =>
          simpa [lastSeen, seen] using later
      | ok status =>
          rw [seen, decisive_ok_iff] at notYet
          simp only [notYet, if_false]
          simpa [lastSeen, seen] using later

theorem run_pollStatus (transfers : List KHExecutionResult) :
    ∃ pollEnd count, PollsTo script.polls pollEnd count ∧
      (pollStatus executionId maxPolls none :
          Program Swap ε PollEnd).run script.environment ⟨0, transfers⟩ =
        (.ok pollEnd, ⟨count, transfers⟩) := by
  rcases firstAt_or_never
      (fun poll => Decisive (script.polls poll)) maxPolls with
    ⟨index, below, first⟩ | never
  · obtain ⟨status, answer, _⟩ := first.1
    refine ⟨_, _, .decided index status below answer first, ?_⟩
    exact run_pollStatus_decided script executionId answer first.1
      maxPolls none ⟨0, transfers⟩ (Nat.zero_le index) (by simpa using below)
      (fun poll _ before => first.2 poll before)
  · refine ⟨_, _, .undecided never, ?_⟩
    have reached :=
      run_pollStatus_undecided (ε := ε) script executionId maxPolls
        ⟨0, transfers⟩ (by
          intro poll _ below
          exact never poll (by simpa using below))
    simpa [lastSeen] using reached

end Polling

/-! ## The ends of a swap -/

/-- The status object after the polling and the look into the logs. -/
def awaited
    (script : SwapScript) (executionId : String) : PollEnd → ExecStatus
  | .surfaced status => ofStatus executionId status
  | .stopped lastStatus =>
      match script.logTx with
      | some tx =>
          { executionId := executionId
            status := .success
            txHash := some tx }
      | none => lastResort executionId lastStatus

/-- How a run of `execute_swap` can end. -/
inductive Ends
    (script : SwapScript) (self : KeeperHubSwapExecutor)
    (args : SwapArguments) : SwapResult → SwapState → Prop where
  | quoteRaised
      (exc : Exception)
      (quoted : script.quoteOutcome self args = .error exc) :
      Ends script self args (capturedResult args exc) .initial
  | noRecipient
      (quote : QuoteResponse)
      (quoted : script.quoteOutcome self args = .ok quote)
      (missing : self.recipient = "") :
      Ends script self args (swapResult args quote noRecipient) .initial
  | transferRaised
      (quote : QuoteResponse) (exc : Exception)
      (quoted : script.quoteOutcome self args = .ok quote)
      (present : self.recipient ≠ "")
      (transferred : script.transfer = .error exc) :
      Ends script self args
        (swapResult args quote
          { executionId := "", status := .failed, error := some exc.text })
        .initial
  | accepted
      (quote : QuoteResponse) (transfer : KHExecutionResult)
      (pollEnd : PollEnd) (count : Nat)
      (quoted : script.quoteOutcome self args = .ok quote)
      (present : self.recipient ≠ "")
      (transferred : script.transfer = .ok transfer)
      (polled : PollsTo script.polls pollEnd count) :
      Ends script self args
        (swapResult args quote
          (awaited script transfer.executionId pollEnd))
        ⟨count, [transfer]⟩

section Steps

variable
  {ε : Type} (script : SwapScript) (self : KeeperHubSwapExecutor)

/-- Any environment that answers the quote as the script says. -/
theorem run_getQuote_of {σ : Type} (environment : Environment Swap σ)
    (answers : ∀ state request,
      environment state (.quote request) = (script.quote, state))
    (args : SwapArguments) (state : σ) :
    (self.getQuote args).run environment state =
      (script.quoteOutcome self args, state) := by
  simp only [getQuote, SwapScript.quoteOutcome, Program.bind_eq_bind,
    Program.run_bind, Program.run_ofExcept, UniswapClient.quote,
    Program.run_call, Program.run_done, answers]
  cases self.quoteRequest args <;> rfl

theorem run_getQuote (args : SwapArguments) (state : SwapState) :
    (self.getQuote args).run script.environment state =
      (script.quoteOutcome self args, state) :=
  run_getQuote_of script self script.environment (fun _ _ => rfl) args state

theorem run_writeAudit (audit : KHAuditEntry) (state : SwapState) :
    (self.writeAudit audit : Program Swap ε Unit).run
        script.environment state =
      (.ok (), state) := by
  unfold writeAudit
  split <;> rfl

theorem run_findLogTx (executionId : String) (state : SwapState) :
    (findLogTx executionId : Program Swap ε (Option String)).run
        script.environment state =
      (.ok script.logTx, state) := by
  simp only [findLogTx, KeeperHubClient.getExecutionLogs,
    SwapScript.logTx, Program.bind_eq_bind, Program.run_bind,
    Program.run_call, SwapScript.environment, Program.run_done]
  cases script.logs <;> rfl

theorem run_awaitTransfer
    (executionId : String) (transfers : List KHExecutionResult) :
    ∃ pollEnd count, PollsTo script.polls pollEnd count ∧
      (awaitTransfer executionId : Program Swap ε ExecStatus).run
          script.environment ⟨0, transfers⟩ =
        (.ok (awaited script executionId pollEnd), ⟨count, transfers⟩) := by
  obtain ⟨pollEnd, count, polled, ran⟩ :=
    run_pollStatus (ε := ε) script executionId transfers
  refine ⟨pollEnd, count, polled, ?_⟩
  simp only [awaitTransfer, Program.bind_eq_bind]
  rw [Program.run_bind_of_ok _ ran]
  cases pollEnd with
  | surfaced status => rfl
  | stopped lastStatus =>
      simp only [Program.run_bind, run_findLogTx, awaited]
      cases script.logTx <;> rfl

theorem run_submitTreasuryCommitment
    (present : self.recipient ≠ "") :
    (self.submitTreasuryCommitment : Program Swap ε ExecStatus).run
        script.environment .initial =
      match script.transfer with
      | .error exc =>
          (.ok { executionId := "", status := .failed, error := some exc.text },
            .initial)
      | .ok transfer =>
          (awaitTransfer transfer.executionId : Program Swap ε ExecStatus).run
            script.environment ⟨0, [transfer]⟩ := by
  simp only [submitTreasuryCommitment, present, if_false,
    KeeperHubClient.executeTransfer, Program.bind_eq_bind,
    Program.run_bind, Program.run_call, SwapScript.environment,
    Program.run_done]
  cases script.transfer <;> rfl

/-- After the commitment only the audit write is left, which changes
nothing. -/
theorem run_executeSwap_of_committed
    {args : SwapArguments} {quote : QuoteResponse} {result : ExecStatus}
    {state : SwapState}
    (quoted : script.quoteOutcome self args = .ok quote)
    (committed :
      (self.submitTreasuryCommitment :
          Program Swap Exception ExecStatus).run
            script.environment .initial =
        (.ok result, state)) :
    (self.executeSwap args).run script.environment .initial =
      (.ok (swapResult args quote result), state) := by
  rw [executeSwap, Program.run_recover]
  simp only [attemptSwap, Program.bind_eq_bind, Program.run_bind,
    run_getQuote, quoted, committed, run_writeAudit, Program.pure_eq_done,
    Program.run_done]

end Steps

/-- Every scripted run ends in one of the listed ways. -/
theorem run_executeSwap
    (script : SwapScript) (self : KeeperHubSwapExecutor)
    (args : SwapArguments) :
    ∃ result state, Ends script self args result state ∧
      (self.executeSwap args).run script.environment .initial =
        (.ok result, state) := by
  cases quoted : script.quoteOutcome self args with
  | error exc =>
      refine ⟨_, _, .quoteRaised exc quoted, ?_⟩
      rw [executeSwap, Program.run_recover]
      simp only [attemptSwap, Program.bind_eq_bind, Program.run_bind,
        run_getQuote, quoted, Program.run_done]
  | ok quote =>
      by_cases missing : self.recipient = ""
      · refine ⟨_, _, .noRecipient quote quoted missing, ?_⟩
        refine run_executeSwap_of_committed script self quoted ?_
        simp [submitTreasuryCommitment, missing]
      · cases transferred : script.transfer with
        | error exc =>
            refine ⟨_, _, .transferRaised quote exc quoted missing
              transferred, ?_⟩
            refine run_executeSwap_of_committed script self quoted ?_
            rw [run_submitTreasuryCommitment script self missing, transferred]
        | ok transfer =>
            obtain ⟨pollEnd, count, polled, ran⟩ :=
              run_awaitTransfer (ε := Exception) script
                transfer.executionId [transfer]
            refine ⟨_, _, .accepted quote transfer pollEnd count quoted
              missing transferred polled, ?_⟩
            refine run_executeSwap_of_committed script self quoted ?_
            rw [run_submitTreasuryCommitment script self missing, transferred]
            exact ran

/-! ## What follows an accepted transfer only polls -/

def Polls : SwapCall → Prop
  | .getExecutionStatus _ => True
  | .getExecutionLogs _ => True
  | _ => False

section Uses

variable {ε : Type}

theorem uses_pollStatus
    (executionId : String) (count : Nat)
    (lastStatus : Option KHExecutionStatus_) :
    (pollStatus executionId count lastStatus :
      Program Swap ε PollEnd).Uses Polls := by
  induction count generalizing lastStatus with
  | zero => trivial
  | succ count inductionHypothesis =>
      refine ⟨trivial, fun answer => ?_⟩
      cases answer with
      | error exc => exact inductionHypothesis lastStatus
      | ok status =>
          by_cases hash : truthy status.txHash = true
          · simp [hash, Program.bind]
          · by_cases terminal : status.isTerminal = true
            · simp [hash, terminal, Program.bind]
            · simpa [hash, terminal, Program.bind] using
                inductionHypothesis (some status)

theorem uses_findLogTx (executionId : String) :
    (findLogTx executionId :
      Program Swap ε (Option String)).Uses Polls := by
  refine ⟨trivial, fun answer => ?_⟩
  cases answer <;> trivial

theorem uses_awaitTransfer (executionId : String) :
    (awaitTransfer executionId :
      Program Swap ε ExecStatus).Uses Polls := by
  refine (uses_pollStatus executionId maxPolls none).bind fun pollEnd => ?_
  cases pollEnd with
  | surfaced status => trivial
  | stopped lastStatus =>
      refine (uses_findLogTx executionId).bind fun tx => ?_
      cases tx <;> trivial

end Uses

end SwarmFi.Core.KeeperHub

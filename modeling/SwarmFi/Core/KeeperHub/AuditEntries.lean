import SwarmFi.Core.KeeperHub.Verdict

/-!
# What the audit entry says about the transfer

The audit entry takes its network from the chain of the quote and its event
from a `succeeded` of its own.  It describes the transfer that was made exactly
when that network is the one of the commitment and no poll ends the call with
COMPLETED.
-/

namespace SwarmFi.Core.KeeperHub

open Foundation Python Uniswap
open KeeperHubSwapExecutor

/-! ## Recorded runs -/

/-- What `_write_audit` appends to the log. -/
structure AuditLine where
  eventType : LogEventType
  agentRole : String
  data : Dict

/-- The transfers a call has sent and the audit lines it has written. -/
structure SwapRecord where
  sent : List KHTransferRequest
  audits : List AuditLine

namespace SwapRecord

def empty : SwapRecord where
  sent := []
  audits := []

def add (record : SwapRecord) : SwapCall → SwapRecord
  | .executeTransfer req => { record with sent := record.sent ++ [req] }
  | .appendAudit eventType agentRole data =>
      { record with
        audits := record.audits ++ [⟨eventType, agentRole, data⟩] }
  | _ => record

/-- Polling leaves no record. -/
theorem add_of_polls (record : SwapRecord) {call : SwapCall}
    (polls : Polls call) : record.add call = record := by
  cases call with
  | executeTransfer req => exact polls.elim
  | appendAudit eventType agentRole data => exact polls.elim
  | _ => rfl

end SwapRecord

namespace SwapScript

/-- The scripted environment, keeping a record. -/
def recorded (script : SwapScript) :
    Environment Swap (SwapState × SwapRecord) :=
  fun state request =>
    ((script.environment state.1 request).1,
      (script.environment state.1 request).2, state.2.add request)

/-- The record of the scripted call. -/
def record
    (script : SwapScript) (self : KeeperHubSwapExecutor)
    (args : SwapArguments) : SwapRecord :=
  ((self.executeSwap args).run script.recorded (.initial, .empty)).2.2

/-- Keeping a record changes neither the outcome nor the state. -/
theorem run_recorded {ε α : Type}
    (script : SwapScript) (program : Program Swap ε α) (state : SwapState)
    (record : SwapRecord) :
    (program.run script.recorded (state, record)).1 =
        (program.run script.environment state).1 ∧
      (program.run script.recorded (state, record)).2.1 =
        (program.run script.environment state).2 := by
  apply Program.run_simulation script.recorded script.environment
    (fun left right => left.1 = right)
  · rintro ⟨reached, kept⟩ right rfl request
    exact ⟨rfl, rfl⟩
  · rfl

end SwapScript

/-! ## The line of one audit -/

namespace KHAuditEntry

def line (audit : KHAuditEntry) : AuditLine where
  eventType := if audit.succeeded then .tradeExecuted else .tradeFailed
  agentRole := "executor"
  data := audit.toLogData

theorem eventType_line_iff (audit : KHAuditEntry) :
    audit.line.eventType = .tradeExecuted ↔ audit.status = .success := by
  have byStatus : audit.succeeded = true ↔ audit.status = .success :=
    beq_iff_eq
  unfold line
  by_cases success : audit.status = .success
  · simp [byStatus.mpr success, success]
  · have failed : audit.succeeded = false :=
      Bool.eq_false_iff.mpr fun succeeded => success (byStatus.mp succeeded)
    simp [failed, success]

theorem network_line (audit : KHAuditEntry) :
    audit.line.data.get? "network" = some (.str audit.network) := by
  obtain ⟨_, _, txHash, blockNumber, gasUsed, error, explorerUrl⟩ := audit
  cases txHash <;> cases blockNumber <;> cases gasUsed <;>
    cases error <;> cases explorerUrl <;> rfl

theorem executionId_line (audit : KHAuditEntry) :
    audit.line.data.get? "execution_id" = some (.str audit.executionId) :=
  rfl

theorem txHash_line (audit : KHAuditEntry) :
    audit.line.data.getD "tx_hash" .null = optionalStr audit.txHash := by
  obtain ⟨_, _, txHash, blockNumber, gasUsed, error, explorerUrl⟩ := audit
  cases txHash <;> cases blockNumber <;> cases gasUsed <;>
    cases error <;> cases explorerUrl <;> rfl

end KHAuditEntry

/-! ## The record of a call -/

section Record

variable
  (script : SwapScript) (self : KeeperHubSwapExecutor)
  (args : SwapArguments)

/-- The call gets as far as `execute_transfer`. -/
def SwapScript.Submits : Prop :=
  (∃ quote, script.quoteOutcome self args = .ok quote) ∧
    self.recipient ≠ ""

/-- The commitment sends the one request, or nothing where it has no
recipient. -/
theorem record_of_commitment {ε : Type} (record : SwapRecord) :
    ((self.submitTreasuryCommitment : Program Swap ε ExecStatus).run
        script.recorded (.initial, record)).2.2 =
      if self.recipient = "" then
        record
      else
        { record with sent := record.sent ++ [self.transferRequest] } := by
  by_cases missing : self.recipient = ""
  · rw [submitTreasuryCommitment, if_pos missing, if_pos missing]
    rfl
  · simp only [submitTreasuryCommitment, if_neg missing,
      KeeperHubClient.executeTransfer, Program.bind_eq_bind,
      Program.run_bind, Program.run_call, SwapScript.recorded,
      SwapScript.environment, Program.run_done]
    cases script.transfer with
    | error exc => rfl
    | ok transfer =>
        have quiet : ∀ (state : SwapState × SwapRecord) (request : SwapCall),
            Polls request →
              (script.recorded state request).2.2 = state.2 :=
          fun state request polls => state.2.add_of_polls polls
        exact (uses_awaitTransfer transfer.executionId).run_preserves
          Prod.snd quiet _

theorem record_of_writeAudit {ε : Type}
    (audit : KHAuditEntry) (state : SwapState × SwapRecord) :
    (self.writeAudit audit : Program Swap ε Unit).run
        script.recorded state =
      (.ok (),
        if self.hasZg then
          (state.1,
            { state.2 with audits := state.2.audits ++ [audit.line] })
        else
          state) := by
  unfold writeAudit
  split <;> rfl

/-- A call whose quote fails leaves no record. -/
theorem record_of_quoteRaised
    {exc : Exception}
    (quoted : script.quoteOutcome self args = .error exc) :
    script.record self args = .empty := by
  have quoteRun :=
    run_getQuote_of script self script.recorded (fun _ _ => rfl) args
      (.initial, .empty)
  rw [quoted] at quoteRun
  rw [SwapScript.record, executeSwap, Program.run_recover, attemptSwap,
    Program.bind_eq_bind, Program.run_bind_of_error _ quoteRun]
  rfl

/-- The commitment of a recorded call. -/
theorem run_commitment_recorded
    {result : ExecStatus} {state : SwapState}
    (committed :
      (self.submitTreasuryCommitment :
          Program Swap Exception ExecStatus).run
            script.environment .initial =
        (.ok result, state)) :
    ∃ record : SwapRecord,
      (self.submitTreasuryCommitment :
          Program Swap Exception ExecStatus).run
            script.recorded (.initial, .empty) =
        (.ok result, state, record) ∧
      record.sent =
        (if self.recipient = "" then [] else [self.transferRequest]) ∧
      record.audits = [] := by
  obtain ⟨sameOutcome, sameState⟩ :=
    script.run_recorded
      (self.submitTreasuryCommitment : Program Swap Exception ExecStatus)
      .initial .empty
  have sameRecord :=
    record_of_commitment (ε := Exception) script self .empty
  rw [committed] at sameOutcome sameState
  rcases ran :
      (self.submitTreasuryCommitment : Program Swap Exception ExecStatus).run
        script.recorded (.initial, .empty) with ⟨outcome, reached, record⟩
  rw [ran] at sameOutcome sameState sameRecord
  simp only at sameOutcome sameState sameRecord
  refine ⟨record, ?_, ?_, ?_⟩
  · rw [sameOutcome, sameState]
  · rw [sameRecord]
    split <;> rfl
  · rw [sameRecord]
    split <;> rfl

/-- The record of a call whose commitment ends with a status object. -/
theorem record_of_committed
    {quote : QuoteResponse} {result : ExecStatus} {state : SwapState}
    (quoted : script.quoteOutcome self args = .ok quote)
    (committed :
      (self.submitTreasuryCommitment :
          Program Swap Exception ExecStatus).run
            script.environment .initial =
        (.ok result, state)) :
    (script.record self args).sent =
        (if self.recipient = "" then [] else [self.transferRequest]) ∧
      (script.record self args).audits =
        if self.hasZg then
          [(auditEntry args.chainId result self.elapsedMs).line]
        else [] := by
  have quoteRun :=
    run_getQuote_of script self script.recorded (fun _ _ => rfl) args
      (.initial, .empty)
  rw [quoted] at quoteRun
  obtain ⟨record, commitRun, isSent, noAudit⟩ :=
    run_commitment_recorded script self committed
  have auditRun :=
    record_of_writeAudit (ε := Exception) script self
      (auditEntry args.chainId result self.elapsedMs) (state, record)
  rw [SwapScript.record, executeSwap, Program.run_recover]
  simp only [attemptSwap, Program.bind_eq_bind, Program.run_bind, quoteRun,
    commitRun, auditRun, Program.pure_eq_done, Program.run_done]
  cases self.hasZg with
  | false => exact ⟨isSent, noAudit⟩
  | true =>
      refine ⟨isSent, ?_⟩
      show record.audits ++ [_] = [_]
      rw [noAudit]
      rfl

end Record

/-! ## What the commitment ends with -/

/-- The id of the execution; a transfer that raises has none. -/
def SwapScript.executionId (script : SwapScript) : String :=
  match script.transfer with
  | .ok transfer => transfer.executionId
  | .error _ => ""

/-- The status objects that the commitment can return once it has sent its
transfer. -/
inductive CommitsTo (script : SwapScript) : ExecStatus → Prop where
  | raised (exc : Exception) (transferred : script.transfer = .error exc) :
      CommitsTo script
        { executionId := "", status := .failed, error := some exc.text }
  | accepted
      (transfer : KHExecutionResult) (pollEnd : PollEnd) (count : Nat)
      (transferred : script.transfer = .ok transfer)
      (polled : PollsTo script.polls pollEnd count) :
      CommitsTo script (awaited script transfer.executionId pollEnd)

theorem commitsTo_of_present
    {ε : Type} (script : SwapScript) {self : KeeperHubSwapExecutor}
    (present : self.recipient ≠ "") :
    ∃ result state, CommitsTo script result ∧
      (self.submitTreasuryCommitment : Program Swap ε ExecStatus).run
          script.environment .initial =
        (.ok result, state) := by
  rw [run_submitTreasuryCommitment script self present]
  cases transferred : script.transfer with
  | error exc => exact ⟨_, _, .raised exc transferred, rfl⟩
  | ok transfer =>
      obtain ⟨pollEnd, count, polled, ran⟩ :=
        run_awaitTransfer (ε := ε) script transfer.executionId [transfer]
      exact ⟨_, _, .accepted transfer pollEnd count transferred polled, ran⟩

theorem executionId_awaited
    (script : SwapScript) (executionId : String) (pollEnd : PollEnd) :
    (awaited script executionId pollEnd).executionId = executionId := by
  cases pollEnd with
  | surfaced status => rfl
  | stopped lastStatus =>
      unfold awaited
      cases script.logTx <;> rfl

theorem CommitsTo.executionId
    {script : SwapScript} {result : ExecStatus}
    (commits : CommitsTo script result) :
    result.executionId = script.executionId := by
  cases commits with
  | raised exc transferred => rw [SwapScript.executionId, transferred]
  | accepted transfer pollEnd count transferred polled =>
      rw [SwapScript.executionId, transferred, executionId_awaited]

/-! ## COMPLETED -/

/-- The first decisive poll says COMPLETED, and its own hash or the lack of one
in the logs makes that the last word. -/
def SwapScript.PollsCompleted (script : SwapScript) : Prop :=
  ∃ poll < maxPolls, ∃ status,
    script.polls poll = .ok status ∧
      FirstAt (fun index => Decisive (script.polls index)) poll ∧
        status.status = .completed ∧
          (truthy status.txHash = true ∨ script.logTx = none)

/-- The polling of an accepted transfer ends with COMPLETED. -/
def SwapScript.EndsCompleted (script : SwapScript) : Prop :=
  (∃ transfer, script.transfer = .ok transfer) ∧ script.PollsCompleted

theorem status_endOf
    (script : SwapScript) (executionId : String)
    (status : KHExecutionStatus_) :
    (awaited script executionId (endOf status)).status = .completed ↔
      status.status = .completed ∧
        (truthy status.txHash = true ∨ script.logTx = none) := by
  by_cases hash : truthy status.txHash = true
  · rw [endOf, if_pos hash]
    simp [awaited, ofStatus, hash]
  · rw [endOf, if_neg hash, awaited]
    cases script.logTx with
    | some tx => simp [hash]
    | none => simp [lastResort]

/-- What is last seen while no poll is decisive is no terminal status. -/
theorem lastSeen_not_completed
    {polls : Nat → Except Exception KHExecutionStatus_} (count : Nat)
    (never : ∀ poll < count, ¬ Decisive (polls poll)) :
    ((lastSeen polls count).map (·.status)).getD .running ≠ .completed := by
  induction count with
  | zero => nofun
  | succ count inductionHypothesis =>
      have undecided := never count (Nat.lt_succ_self count)
      rw [lastSeen]
      cases answer : polls count with
      | error exc =>
          exact inductionHypothesis fun poll below =>
            never poll (Nat.lt_succ_of_lt below)
      | ok status =>
          rw [answer, decisive_ok_iff] at undecided
          intro completed
          have isCompleted : status.status = .completed := completed
          have terminal : status.isTerminal = true := by
            rw [KHExecutionStatus_.isTerminal, isCompleted]
            rfl
          exact undecided (Or.inr terminal)

theorem awaited_completed_iff
    {script : SwapScript} {pollEnd : PollEnd} {count : Nat}
    (polled : PollsTo script.polls pollEnd count) (executionId : String) :
    (awaited script executionId pollEnd).status = .completed ↔
      script.PollsCompleted := by
  cases polled with
  | decided index status below answer first =>
      rw [status_endOf]
      constructor
      · intro completed
        exact ⟨index, below, status, answer, first, completed⟩
      · rintro ⟨other, _, found, otherAnswer, otherFirst, completed⟩
        have same : other = index := otherFirst.unique first
        subst same
        rw [answer] at otherAnswer
        cases otherAnswer
        exact completed
  | undecided never =>
      have notPolled : ¬ script.PollsCompleted := by
        rintro ⟨poll, below, _, _, first, _⟩
        exact never poll below first.1
      have notLast := lastSeen_not_completed maxPolls never
      rw [awaited]
      cases script.logTx with
      | some tx => simp [notPolled]
      | none => simpa [lastResort, notPolled] using notLast

theorem CommitsTo.completed_iff
    {script : SwapScript} {result : ExecStatus}
    (commits : CommitsTo script result) :
    result.status = .completed ↔ script.EndsCompleted := by
  cases commits with
  | raised exc transferred =>
      have notAccepted : ¬ script.EndsCompleted := by
        rintro ⟨⟨transfer, accepted⟩, _⟩
        rw [transferred] at accepted
        cases accepted
      simp [notAccepted]
  | accepted transfer pollEnd count transferred polled =>
      rw [awaited_completed_iff polled, SwapScript.EndsCompleted]
      simp [transferred]

/-! ## Whether the entry describes the transfer -/

/-- The entry is about the transfer that was requested and the result that was
returned. -/
structure AuditLine.Describes
    (line : AuditLine) (request : KHTransferRequest) (executionId : String)
    (result : SwapResult) : Prop where
  network : line.data.get? "network" = some (.str request.network.value)
  executionId : line.data.get? "execution_id" = some (.str executionId)
  txHash : line.data.getD "tx_hash" .null = optionalStr result.txHash
  event : line.eventType = .tradeExecuted ↔ result.status = .confirmed

/-- A call that sends a transfer writes one entry, which describes it. -/
def AuditDescribes
    (script : SwapScript) (self : KeeperHubSwapExecutor)
    (args : SwapArguments) : Prop :=
  ∀ request ∈ (script.record self args).sent,
    ∃ line, (script.record self args).audits = [line] ∧
      line.Describes request script.executionId (script.result self args)

theorem KHNetwork.value_eq_iff (first second : KHNetwork) :
    first.value = second.value ↔ first = second := by
  cases first <;> cases second <;> decide

/-- The two definitions of success differ on COMPLETED alone. -/
theorem event_agrees_iff (chainId : Int) (result : ExecStatus)
    (elapsedMs : Int) :
    ((auditEntry chainId result elapsedMs).line.eventType =
          .tradeExecuted ↔
        finalStatus result = .confirmed) ↔
      result.status ≠ .completed := by
  rw [KHAuditEntry.eventType_line_iff, finalStatus_eq_confirmed_iff,
    ExecStatus.succeeded]
  show (result.status = .success ↔ _) ↔ _
  cases result.status <;> decide

theorem describes_iff
    (args : SwapArguments) (quote : QuoteResponse) (result : ExecStatus)
    (request : KHTransferRequest) (elapsedMs : Int) :
    (auditEntry args.chainId result elapsedMs).line.Describes request
        result.executionId (swapResult args quote result) ↔
      chainNetwork args.chainId = request.network ∧
        result.status ≠ .completed := by
  have network :
      (auditEntry args.chainId result elapsedMs).line.data.get? "network" =
          some (.str request.network.value) ↔
        chainNetwork args.chainId = request.network := by
    rw [KHAuditEntry.network_line, ← KHNetwork.value_eq_iff]
    show some (Json.str _) = _ ↔ _
    rw [Option.some_inj, Json.str.injEq]
    rfl
  have event := event_agrees_iff args.chainId result elapsedMs
  constructor
  · intro describes
    exact ⟨network.mp describes.network, event.mp describes.event⟩
  · rintro ⟨sameNetwork, notCompleted⟩
    exact {
      network := network.mpr sameNetwork
      executionId := KHAuditEntry.executionId_line _
      txHash := KHAuditEntry.txHash_line _
      event := event.mpr notCompleted }

/-- The entry describes the transfer exactly where the chain of the quote maps
to the commitment's network and the polling does not end with COMPLETED. -/
theorem auditDescribes_iff
    (script : SwapScript) (self : KeeperHubSwapExecutor)
    (args : SwapArguments) (audited : self.hasZg = true) :
    AuditDescribes script self args ↔
      (script.Submits self args →
        chainNetwork args.chainId = self.commitNetwork ∧
          ¬ script.EndsCompleted) := by
  unfold AuditDescribes
  cases quoted : script.quoteOutcome self args with
  | error exc =>
      have notSubmitted : ¬ script.Submits self args := by
        rintro ⟨⟨quote, quotedOk⟩, _⟩
        rw [quoted] at quotedOk
        cases quotedOk
      simp [record_of_quoteRaised script self args quoted,
        SwapRecord.empty, notSubmitted]
  | ok quote =>
      by_cases missing : self.recipient = ""
      · have notSubmitted : ¬ script.Submits self args :=
          fun submitted => submitted.2 missing
        have committed :
            (self.submitTreasuryCommitment :
                Program Swap Exception ExecStatus).run
                  script.environment .initial =
              (.ok noRecipient, .initial) := by
          rw [submitTreasuryCommitment, if_pos missing]
          rfl
        obtain ⟨isSent, _⟩ :=
          record_of_committed script self args quoted committed
        rw [isSent, if_pos missing]
        simp [notSubmitted]
      · have submitted : script.Submits self args :=
          ⟨⟨quote, quoted⟩, missing⟩
        obtain ⟨result, state, commits, committed⟩ :=
          commitsTo_of_present (ε := Exception) script missing
        obtain ⟨isSent, isAudited⟩ :=
          record_of_committed script self args quoted committed
        have isResult : script.result self args =
            swapResult args quote result := by
          rw [SwapScript.result,
            run_executeSwap_of_committed script self quoted committed]
          rfl
        have described :=
          describes_iff args quote result self.transferRequest
            self.elapsedMs
        have isNetwork :
            self.transferRequest.network = self.commitNetwork := by
          rw [transferRequest]
        rw [commits.executionId, ne_eq, commits.completed_iff,
          isNetwork] at described
        rw [isSent, if_neg missing, isAudited, if_pos audited, isResult]
        constructor
        · intro always _
          obtain ⟨line, isLine, describes⟩ :=
            always self.transferRequest (List.mem_singleton_self _)
          cases isLine
          exact described.mp describes
        · intro condition request member
          rw [List.mem_singleton.mp member]
          exact ⟨_, rfl, described.mpr (condition submitted)⟩

/-- The default settings, with a 0G client. -/
def auditingExecutor : KeeperHubSwapExecutor :=
  { walletOnly with hasZg := true }

/-- A transfer that succeeds at the first poll. -/
def succeedsAtOnce : SwapScript where
  quote := .ok { routing := .classic, amountOut := some "1950000000" }
  transfer := .ok { executionId := "direct_1", status := .pending }
  polls := fun _ => .ok { status := .success, txHash := some "0xab" }
  logs := .ok (.arr [])
  audit := .ok ()

/-- A quote on Sepolia, where the commitment goes by default. -/
def sepoliaSwap : SwapArguments :=
  { ethForUsdc with chainId := 11155111 }

theorem sepolia_audit_describes :
    AuditDescribes succeedsAtOnce auditingExecutor sepoliaSwap := by
  refine (auditDescribes_iff succeedsAtOnce auditingExecutor sepoliaSwap
    rfl).mpr fun _ => ⟨by decide, ?_⟩
  rintro ⟨_, _, _, _, answer, _, completed, _⟩
  cases answer
  cases completed

/-- A swap quoted on Base is recorded as settled there; its transfer went to
Sepolia. -/
theorem base_audit_misnames_network :
    ¬ ∀ script self args, self.hasZg = true →
      AuditDescribes script self args := by
  intro always
  have sent :
      (succeedsAtOnce.record auditingExecutor ethForUsdc).sent =
        [auditingExecutor.transferRequest] := by
    decide +kernel
  obtain ⟨line, isLine, describes⟩ :=
    always succeedsAtOnce auditingExecutor ethForUsdc rfl
      auditingExecutor.transferRequest
      (sent ▸ List.mem_singleton_self _)
  have recorded :
      (succeedsAtOnce.record auditingExecutor ethForUsdc).audits.map
          (fun line => (line.data.get? "network").bind Json.str?) =
        [some "base"] := by
    decide +kernel
  rw [isLine, List.map_singleton, describes.network] at recorded
  revert recorded
  decide

end SwarmFi.Core.KeeperHub

import SwarmFi.Core.KeeperHub.Verdict
import SwarmFi.Core.KeeperHub.LiveRuns

/-!
# How many transfers one swap creates

Only `execute_transfer` makes KeeperHub create transfers, and one call of it
creates one for every POST attempt that is processed.
-/

namespace SwarmFi.Core.KeeperHub

open Foundation Python Uniswap
open KeeperHubSwapExecutor

/-! ## Only the transfer call creates -/

def NotTransfer : SwapCall → Prop
  | .executeTransfer _ => False
  | _ => True

theorem created_of_notTransfer
    (script : LiveScript) (state : LiveState) (call : SwapCall)
    (quiet : NotTransfer call) :
    (script.environment state call).2.created = state.created := by
  cases call with
  | quote req => rfl
  | executeTransfer req => exact quiet.elim
  | getExecutionStatus executionId =>
      simp only [LiveScript.environment, serve_getExecutionStatus]
  | getExecutionLogs executionId =>
      simp only [LiveScript.environment, serve_getExecutionLogs]
  | appendAudit eventType agentRole data => rfl

theorem notTransfer_of_polls (call : SwapCall) (polls : Polls call) :
    NotTransfer call := by
  cases call with
  | executeTransfer req => exact polls.elim
  | _ => trivial

theorem uses_writeAudit {ε : Type}
    (self : KeeperHubSwapExecutor) (audit : KHAuditEntry) :
    (self.writeAudit audit : Program Swap ε Unit).Uses NotTransfer := by
  unfold writeAudit
  split
  · exact ⟨trivial, fun _ => trivial⟩
  · trivial

/-! ## The transfers of a run -/

section Runs

variable
  (script : LiveScript) (self : KeeperHubSwapExecutor)
  (args : SwapArguments)

theorem run_getQuote_live (state : LiveState) :
    (self.getQuote args).run script.environment state =
      (script.facade.quoteOutcome self args, state) :=
  run_getQuote_of script.facade self script.environment (fun _ _ => rfl)
    args state

/-- The swap gets as far as `execute_transfer`. -/
def TransferReached : Prop :=
  (∃ quote, script.facade.quoteOutcome self args = .ok quote) ∧
    self.recipient ≠ ""

theorem created_after_commitment {ε : Type}
    (present : self.recipient ≠ "") :
    ((self.submitTreasuryCommitment : Program Swap ε ExecStatus).run
        script.environment .initial).2.created =
      createdBy script self.transferRequest.toApiDict
        (postsMade script) := by
  simp only [submitTreasuryCommitment, present, if_false,
    KeeperHubClient.executeTransfer, Program.bind_eq_bind,
    Program.run_bind, Program.run_call, LiveScript.environment,
    serve_executeTransfer, Program.run_done]
  cases transferOutcome script with
  | error exc => simp [LiveState.initial]
  | ok transfer =>
      simp only
      have quiet : (awaitTransfer transfer.executionId :
          Program Swap ε ExecStatus).Uses NotTransfer :=
        (uses_awaitTransfer transfer.executionId).mono notTransfer_of_polls
      rw [quiet.run_preserves LiveState.created
        (created_of_notTransfer script)]
      simp [LiveState.initial]

/-- The outer handler creates nothing. -/
theorem finish_created_eq :
    (script.finish self args).created =
      ((self.attemptSwap args).run
        script.environment .initial).2.created :=
  Program.run_recover_preserves LiveState.created
    (created_of_notTransfer script) (self.attemptSwap args)
    (fun exc => Program.uses_done (capturedResult args exc)) .initial

/-- What is created after the quote is created by the commitment. -/
theorem finish_created_of_quoted
    {quote : QuoteResponse}
    (quoted : script.facade.quoteOutcome self args = .ok quote) :
    (script.finish self args).created =
      ((self.submitTreasuryCommitment :
        Program Swap Exception ExecStatus).run
          script.environment .initial).2.created := by
  have quoteRun := run_getQuote_live script self args .initial
  rw [quoted] at quoteRun
  rw [finish_created_eq]
  simp only [attemptSwap, Program.bind_eq_bind]
  rw [Program.run_bind_of_ok _ quoteRun]
  refine Program.run_bind_preserves LiveState.created
    (created_of_notTransfer script) _ (fun result => ?_) _
  exact (uses_writeAudit self
    (auditEntry args.chainId result self.elapsedMs)).bind
    fun _ => Program.uses_done (swapResult args quote result)

theorem finish_created_of_reached
    (reached : TransferReached script self args) :
    (script.finish self args).created =
      createdBy script self.transferRequest.toApiDict
        (postsMade script) := by
  obtain ⟨⟨quote, quoted⟩, present⟩ := reached
  rw [finish_created_of_quoted script self args quoted,
    created_after_commitment script self present]

theorem finish_created_of_not_reached
    (unreached : ¬ TransferReached script self args) :
    (script.finish self args).created = [] := by
  cases quoted : script.facade.quoteOutcome self args with
  | error exc =>
      have quoteRun := run_getQuote_live script self args .initial
      rw [quoted] at quoteRun
      rw [finish_created_eq]
      simp only [attemptSwap, Program.bind_eq_bind]
      rw [Program.run_bind_of_error _ quoteRun]
      rfl
  | ok quote =>
      have missing : self.recipient = "" := by
        by_contra present
        exact unreached ⟨⟨quote, quoted⟩, present⟩
      rw [finish_created_of_quoted script self args quoted,
        submitTreasuryCommitment, if_pos missing]
      rfl

end Runs

/-! ## At most one -/

/-- At most one transfer exists at KeeperHub when the call returns. -/
def AtMostOneTransfer
    (script : LiveScript) (self : KeeperHubSwapExecutor)
    (args : SwapArguments) : Prop :=
  (script.finish self args).created.length ≤ 1

/-- A POST attempt is processed and its answer lost, and a later one of the
three attempts reaches the server, with no answer in between. -/
def LostThenReached (script : LiveScript) : Prop :=
  ∃ lost reached, lost < reached ∧ reached < 3 ∧
    (script.posts lost).isLost = true ∧
      (script.posts reached).processed = true ∧
        ∀ attempt < reached, (script.posts attempt).isAnswered = false

theorem lt_postsMade_iff (script : LiveScript) (attempt : Nat) :
    attempt < postsMade script ↔
      attempt < 3 ∧
        ∀ earlier < attempt,
          (script.posts earlier).isAnswered = false := by
  rw [postsMade, lt_attemptsMade_iff]
  simp only [unsettled_attemptOutcome_seen, Bool.not_eq_true',
    extraAttempts, Nat.lt_succ_iff]

theorem PostOutcome.isLost_iff (outcome : PostOutcome) :
    outcome.isLost = true ↔
      outcome.processed = true ∧ outcome.isAnswered = false := by
  cases outcome <;>
    simp [PostOutcome.isLost, PostOutcome.processed,
      PostOutcome.isAnswered]

theorem createdBy_length_le_one_iff (script : LiveScript) (json : Dict) :
    (createdBy script json (postsMade script)).length ≤ 1 ↔
      ¬ LostThenReached script := by
  rw [length_createdBy, count_le_one_iff]
  refine not_congr ⟨?_, ?_⟩
  · rintro ⟨lost, reached, before, made, atLost, atReached⟩
    obtain ⟨withinBudget, unanswered⟩ :=
      (lt_postsMade_iff script reached).mp made
    have isLost := (script.posts lost).isLost_iff.mpr
      ⟨atLost, unanswered lost before⟩
    exact ⟨lost, reached, before, withinBudget, isLost, atReached,
      unanswered⟩
  · rintro ⟨lost, reached, before, withinBudget, isLost, atReached,
      unanswered⟩
    have made := (lt_postsMade_iff script reached).mpr
      ⟨withinBudget, unanswered⟩
    exact ⟨lost, reached, before, made,
      ((script.posts lost).isLost_iff.mp isLost).1, atReached⟩

/-- One swap creates at most one transfer exactly when its transfer step is
not reached or no lost attempt is followed by one that reaches KeeperHub. -/
theorem atMostOneTransfer_iff
    (script : LiveScript) (self : KeeperHubSwapExecutor)
    (args : SwapArguments) :
    AtMostOneTransfer script self args ↔
      ¬ (TransferReached script self args ∧ LostThenReached script) := by
  unfold AtMostOneTransfer
  by_cases reached : TransferReached script self args
  · rw [finish_created_of_reached script self args reached,
      createdBy_length_le_one_iff]
    simp [reached]
  · rw [finish_created_of_not_reached script self args reached]
    simp [reached]

def okResponse (body : Json) : Response Body where
  statusCode := 200
  reasonPhrase := "OK"
  url := "https://app.keeperhub.com/api"
  body := .ok body

/-- The first POST is processed and its answer times out; the retry is
answered. -/
def lostAnswer : LiveScript where
  quote := .ok { routing := .classic, amountOut := some "1950000000" }
  posts
    | 0 => .lost "ReadTimeout"
    | _ => .answered (okResponse
        (.obj [("executionId", .str "direct_2"),
          ("status", .str "completed")]))
  statusGets := fun _ _ =>
    .ok (okResponse
      (.obj [("status", .str "completed"),
        ("transactionHash", .str "0xab")]))
  logGets := fun _ => .ok (okResponse (.arr []))
  audit := .ok ()

/-- A lost answer makes the client send the money twice. -/
theorem lost_answer_transfers_twice :
    ¬ ∀ script self args, AtMostOneTransfer script self args := by
  intro always
  have twice :
      (lostAnswer.finish walletOnly ethForUsdc).created.length = 2 := by
    decide +kernel
  have atMostOne := always lostAnswer walletOnly ethForUsdc
  rw [AtMostOneTransfer, twice] at atMostOne
  omega

end SwarmFi.Core.KeeperHub

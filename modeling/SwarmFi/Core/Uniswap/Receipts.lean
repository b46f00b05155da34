import SwarmFi.Core.Uniswap.DryRun
import SwarmFi.Core.Uniswap.Nonces

/-!
# What a receipt confirms

The polls for a receipt end with the first one that is there.  A swap with a
receipt is CONFIRMED, whatever the status in it says: a transaction that the
chain has reverted has a receipt, too.
-/

namespace SwarmFi.Core.Uniswap.Receipts

open Foundation Python Compute SwapSteps SwapExecutor

/-! ## The receipts of a run -/

def receiptOf : Event SwapVocabulary → Option Receipt
  | ⟨.getTransactionReceipt _, .ok receipt⟩ => receipt
  | _ => none

/-- The receipts that the polls have obtained. -/
def obtained (events : List (Event SwapVocabulary)) : List Receipt :=
  events.filterMap receiptOf

/-- CONFIRMED only if the receipt that was obtained has status 1. -/
def NoRevertConfirmed (result : SwapResult)
    (events : List (Event SwapVocabulary)) : Prop :=
  result.status = .confirmed →
    ∃ receipt, obtained events = [receipt] ∧ receipt.status = 1

/-- A call that is no poll for a receipt. -/
def Unpolled : SwapCall → Prop
  | .getTransactionReceipt _ => False
  | _ => True

theorem obtained_append_unpolled
    (events : List (Event SwapVocabulary))
    {later : List (Event SwapVocabulary)}
    (unpolled : ∀ event ∈ later, Unpolled event.call) :
    obtained (events ++ later) = obtained events := by
  have none_ : later.filterMap receiptOf = [] := by
    apply List.filterMap_eq_nil_iff.mpr
    intro event member
    have plain := unpolled event member
    obtain ⟨request, answer⟩ := event
    cases request with
    | getTransactionReceipt txHash => exact plain.elim
    | _ => rfl
  unfold obtained
  rw [List.filterMap_append, none_, List.append_nil]

/-- One more poll. -/
theorem obtained_poll (events : List (Event SwapVocabulary))
    (txHash : String) (answer : Except Exception (Option Receipt)) :
    obtained (events ++ [⟨.getTransactionReceipt txHash, answer⟩]) =
      obtained events ++ (answer.toOption.bind id).toList := by
  have last : obtained [⟨.getTransactionReceipt txHash, answer⟩] =
      (answer.toOption.bind id).toList := by
    cases answer with
    | error exc => rfl
    | ok receipt => cases receipt <;> rfl
  rw [← last]
  exact List.filterMap_append

/-! ## A swap, call by call -/

/-- No call needs anything of the history. -/
def Free (_ : List (Event SwapVocabulary)) (_ : SwapCall) : Prop := True

/-- A result is CONFIRMED exactly when a receipt was obtained. -/
def VerdictPost :
    Except Exception SwapResult → List (Event SwapVocabulary) → Prop
  | .ok result, history =>
      (result.status = .confirmed ∧
          ∃ receipt, obtained history = [receipt]) ∨
        (result.status ≠ .confirmed ∧ obtained history = [])
  | .error _, history => obtained history = []

/-- A program that does not poll, before any poll. -/
theorem satisfies_unpolled_bind {α : Type} {program : SwapSteps α}
    (uses : program.Uses Unpolled) {next : α → SwapSteps SwapResult}
    {history : List (Event SwapVocabulary)}
    (nothing : obtained history = [])
    (rest : ∀ value reached, obtained reached = [] →
      (next value).Satisfies Free VerdictPost reached) :
    (program.bind next).Satisfies Free VerdictPost history := by
  apply (Program.satisfies_bind _ _ _).mpr
  apply uses.satisfies (fun _ _ _ => trivial)
  intro outcome later unpolled
  have still : obtained (history ++ later) = [] := by
    rw [obtained_append_unpolled history unpolled]
    exact nothing
  cases outcome with
  | error exc => exact still
  | ok value => exact rest value _ still

/-- How the polls end. -/
def PollPost :
    Except Exception (Option Receipt) → List (Event SwapVocabulary) → Prop
  | .ok receipt, history => obtained history = receipt.toList
  | .error _, history => obtained history = []

/-- The polls end with the first receipt. -/
theorem satisfies_pollReceipt (txHash : String) (tries : Nat)
    {history : List (Event SwapVocabulary)}
    (nothing : obtained history = []) :
    (pollReceipt txHash tries).Satisfies Free PollPost history := by
  induction tries generalizing history with
  | zero => exact nothing
  | succ tries inductionHypothesis =>
      constructor
      · trivial
      · intro answer
        have polled := obtained_poll history txHash answer
        rw [nothing, List.nil_append] at polled
        have again (empty : (answer.toOption.bind id).toList = []) :
            (sleep.bind fun _ => pollReceipt txHash tries).Satisfies Free
              PollPost
              (history ++ [⟨.getTransactionReceipt txHash, answer⟩]) := by
          constructor
          · trivial
          · intro slept
            apply inductionHypothesis
            rw [obtained_append_unpolled, polled, empty]
            intro event member
            rw [List.mem_singleton.mp member]
            trivial
        cases answer with
        | error exc => exact again rfl
        | ok receipt =>
            cases receipt with
            | none => exact again rfl
            | some receipt => exact polled

theorem satisfies_waitForReceipt_bind (txHash : String)
    {next : Option Receipt → SwapSteps SwapResult}
    {history : List (Event SwapVocabulary)}
    (nothing : obtained history = [])
    (rest : ∀ receipt reached, obtained reached = receipt.toList →
      (next receipt).Satisfies Free VerdictPost reached) :
    ((waitForReceipt txHash).bind next).Satisfies Free VerdictPost
      history := by
  unfold waitForReceipt
  rw [Program.bind_eq_bind, Program.bind_assoc]
  apply satisfies_unpolled_bind (uses_connect trivial) nothing
  intro _ connected nothing
  apply (Program.satisfies_bind _ _ _).mpr
  apply (satisfies_pollReceipt txHash maxPollTries nothing).mono
  intro outcome reached polled
  cases outcome with
  | error exc => exact polled
  | ok receipt => exact rest receipt reached polled

theorem uses_broadcast (executor : SwapExecutor)
    (transaction : TransactionRequest) :
    (executor.broadcast transaction).Uses Unpolled :=
  SwapExecutor.uses_broadcast executor trivial (fun _ => trivial)
    (fun _ => trivial) (fun _ => trivial) (fun _ => trivial) transaction

theorem uses_approving (executor : SwapExecutor) (asked : Order) :
    (executor.approving asked).Uses Unpolled := by
  unfold approving
  split
  · trivial
  · apply (uses_checkApproval trivial).bind
    intro response
    split
    · split
      · trivial
      · apply (uses_broadcast executor _).bind
        intro txHash
        trivial
    · trivial

/-- Without a receipt nothing is CONFIRMED. -/
theorem verdict_of_nothing {result : SwapResult}
    {history : List (Event SwapVocabulary)}
    (nothing : obtained history = [])
    (unconfirmed : result.status ≠ .confirmed) :
    VerdictPost (.ok result) history :=
  Or.inr ⟨unconfirmed, nothing⟩

theorem satisfies_submitSwap (executor : SwapExecutor) (asked : Order)
    (response : FullQuoteResponse) (request : SwapRequest)
    {history : List (Event SwapVocabulary)}
    (nothing : obtained history = []) :
    (executor.submitSwap asked response request).Satisfies Free VerdictPost
      history := by
  apply satisfies_unpolled_bind (uses_swap trivial) nothing
  intro transaction reached nothing
  apply satisfies_unpolled_bind (Program.uses_ofExcept _) nothing
  intro _ validated nothing
  split
  · apply verdict_of_nothing nothing
    exact SwapStatus.noConfusion
  · apply satisfies_unpolled_bind (uses_broadcast executor transaction)
      nothing
    intro txHash sent nothing
    apply satisfies_waitForReceipt_bind txHash nothing
    intro receipt polled isReceipt
    cases receipt with
    | none =>
        apply verdict_of_nothing isReceipt
        exact SwapStatus.noConfusion
    | some receipt =>
        left
        exact ⟨rfl, receipt, isReceipt⟩

theorem satisfies_submitOrder (asked : Order)
    (response : FullQuoteResponse) (request : SwapRequest)
    {history : List (Event SwapVocabulary)}
    (nothing : obtained history = []) :
    (submitOrder asked response request).Satisfies Free VerdictPost
      history := by
  have orders : (order request).Uses Unpolled :=
    ⟨trivial, fun answer => Program.uses_ofExcept _⟩
  apply satisfies_unpolled_bind orders nothing
  intro result ordered nothing
  apply satisfies_unpolled_bind (Program.uses_ofExcept _) nothing
  intro orderId read nothing
  apply satisfies_unpolled_bind (Program.uses_ofExcept _) nothing
  intro amountIn validated nothing
  apply verdict_of_nothing nothing
  exact SwapStatus.noConfusion

theorem satisfies_swapping (executor : SwapExecutor) (asked : Order) :
    (executor.swapping asked).Satisfies Free VerdictPost [] := by
  have nothing : obtained [] = [] := rfl
  apply satisfies_unpolled_bind (uses_approving executor asked) nothing
  intro _ approved nothing
  apply satisfies_unpolled_bind (Program.uses_ofExcept _) nothing
  intro request requested nothing
  apply satisfies_unpolled_bind (uses_quote trivial) nothing
  intro response quoted nothing
  apply satisfies_unpolled_bind
    (uses_signatureFor executor (fun _ => trivial) response) nothing
  intro signature signed nothing
  unfold submit
  split
  · exact satisfies_submitOrder asked response _ nothing
  · exact satisfies_submitSwap executor asked response _ nothing

/-! ## The verdict of a run -/

/-- The result of `execute_swap`. -/
def resultOf {σ : Type} (environment : Environment SwapVocabulary σ)
    (state : σ) (executor : SwapExecutor) (asked : Order) : SwapResult :=
  Program.valueOf ((executor.executeSwap asked).run environment state).1

/-- Whatever happens, the result is CONFIRMED exactly when one receipt was
obtained, and else there was none. -/
theorem verdict_executeSwap {σ : Type}
    (environment : Environment SwapVocabulary σ) (state : σ)
    (executor : SwapExecutor) (asked : Order) :
    VerdictPost (.ok (resultOf environment state executor asked))
      ((executor.executeSwap asked).trace environment state) := by
  have recovered : (executor.executeSwap asked).Satisfies Free
      (fun outcome history => VerdictPost (.ok (Program.valueOf outcome))
        history) [] := by
    apply (Program.satisfies_recover _ _ _).mpr
    apply (satisfies_swapping executor asked).mono
    intro outcome history verdict
    cases outcome with
    | ok result => exact verdict
    | error exc =>
        apply verdict_of_nothing verdict
        exact SwapStatus.noConfusion
  exact (recovered.trace environment state).1

/-- A revert is not CONFIRMED exactly when every receipt that a poll obtains
has status 1. -/
theorem noRevertConfirmed_iff {σ : Type}
    (environment : Environment SwapVocabulary σ) (state : σ)
    (executor : SwapExecutor) (asked : Order) :
    NoRevertConfirmed (resultOf environment state executor asked)
        ((executor.executeSwap asked).trace environment state) ↔
      ∀ receipt ∈ obtained
          ((executor.executeSwap asked).trace environment state),
        receipt.status = 1 := by
  have verdict := verdict_executeSwap environment state executor asked
  unfold NoRevertConfirmed
  rcases verdict with ⟨isConfirmed, receipt, isObtained⟩ |
    ⟨notConfirmed, nothing⟩
  · rw [isObtained]
    constructor
    · intro sound found member
      obtain ⟨same, isSame, succeeded⟩ := sound isConfirmed
      cases isSame
      rw [List.mem_singleton.mp member]
      exact succeeded
    · intro all _
      exact ⟨receipt, rfl, all receipt (List.mem_singleton_self _)⟩
  · rw [nothing]
    constructor
    · intro _ receipt member
      cases member
    · intro _ isConfirmed
      exact absurd isConfirmed notConfirmed

/-! ## A reverted swap -/

/-- The swap is mined and reverted. -/
def revertedReceipt : Receipt where
  status := 0
  blockNumber := 21000000
  gasUsed := 300000

/-- Every call succeeds, and the first poll finds the receipt. -/
def revertedAnswers : (request : SwapCall) → SwapCall.Answer request
  | .getTransactionReceipt _ => .ok (some revertedReceipt)
  | request => Nonces.approvingAnswers request

def reverting : Environment SwapVocabulary Unit :=
  fun _ request => (revertedAnswers request, ())

/-- A swap that the chain reverts is reported as CONFIRMED. -/
theorem revert_confirmed :
    ¬ ∀ (σ : Type) (environment : Environment SwapVocabulary σ) (state : σ)
        (executor : SwapExecutor) (asked : Order),
      executor.dryRun = false →
        NoRevertConfirmed (resultOf environment state executor asked)
          ((executor.executeSwap asked).trace environment state) := by
  intro always
  have isConfirmed : (resultOf reverting () Nonces.liveExecutor
      Nonces.usdcOrder).status = .confirmed := by
    decide +kernel
  have statuses : (obtained ((Nonces.liveExecutor.executeSwap
      Nonces.usdcOrder).trace reverting ())).map Receipt.status = [0] := by
    decide +kernel
  obtain ⟨receipt, isObtained, succeeded⟩ :=
    always Unit reverting () Nonces.liveExecutor Nonces.usdcOrder rfl
      isConfirmed
  rw [isObtained] at statuses
  cases statuses.symm.trans (congrArg (fun status => [status]) succeeded)

end SwarmFi.Core.Uniswap.Receipts

import SwarmFi.Core.Uniswap.Executor

/-!
# The nonces of an approval and a swap

Each broadcast takes the number of the account's mined transactions for its
nonce.  The account's chain mines pending transactions at any time between two
calls, each only when its nonce is the next one.  Nothing waits for the
approval, so the swap has a nonce of its own only if it was mined in time.
-/

namespace SwarmFi.Core.Uniswap.Nonces

open Foundation Python Compute SwapSteps SwapExecutor

/-! ## The account's chain -/

/-- The mined transactions of an account, the nonces in order. -/
structure Mined where
  transactions : List SignedTransaction
  in_order : ∀ (index : Nat) (transaction : SignedTransaction),
    transactions[index]? = some transaction → transaction.nonce = index

namespace Mined

def count (mined : Mined) : Nat := mined.transactions.length

/-- A nonce has been used once as many transactions were mined. -/
theorem used_iff (mined : Mined) (nonce : Nat) :
    (∃ transaction ∈ mined.transactions, transaction.nonce = nonce) ↔
      nonce < mined.count := by
  constructor
  · intro used
    obtain ⟨transaction, member, isNonce⟩ := used
    obtain ⟨index, isAt⟩ := List.mem_iff_getElem?.mp member
    have isIndex := mined.in_order index transaction isAt
    have bound := (List.getElem?_eq_some_iff.mp isAt).1
    rw [← isNonce, isIndex]
    exact bound
  · intro bound
    have isAt : mined.transactions[nonce]? =
        some mined.transactions[nonce] := List.getElem?_eq_getElem bound
    exact ⟨_, List.mem_of_getElem? isAt, mined.in_order nonce _ isAt⟩

/-- The next transaction is mined. -/
def extend (mined : Mined) (transaction : SignedTransaction)
    (next : transaction.nonce = mined.count) : Mined where
  transactions := mined.transactions ++ [transaction]
  in_order := by
    intro index tested isAt
    by_cases earlier : index < mined.transactions.length
    · rw [List.getElem?_append_left earlier] at isAt
      exact mined.in_order index tested isAt
    · rw [List.getElem?_append_right (Nat.le_of_not_lt earlier)] at isAt
      have isLast := List.mem_of_getElem? isAt
      have same := List.mem_singleton.mp isLast
      have bound := (List.getElem?_eq_some_iff.mp isAt).1
      have isLength : index = mined.transactions.length := by
        simp only [List.length_singleton] at bound
        omega
      rw [same, next, isLength]
      rfl

end Mined

/-- The account at a node: what was mined, what is pending, and what had been
mined each time the transactions were counted. -/
structure Node where
  mined : Mined
  pool : List SignedTransaction
  counted : List Mined
  asked : Nat

namespace Node

def start (mined : Mined) (pool : List SignedTransaction) : Node where
  mined := mined
  pool := pool
  counted := []
  asked := 0

/-- A pending transaction is mined if its nonce is the next one. -/
def mineAt (node : Node) (index : Nat) : Node :=
  match node.pool[index]? with
  | none => node
  | some transaction =>
      if next : transaction.nonce = node.mined.count then
        { node with
          mined := node.mined.extend transaction next
          pool := node.pool.eraseIdx index }
      else
        node

def mine (node : Node) (indices : List Nat) : Node :=
  indices.foldl mineAt node

end Node

abbrev SwapAnswers := (request : SwapCall) → SwapCall.Answer request

/-- Which pending transactions are tried before each call, and the answers
to the calls; a count that is answered is the number of mined
transactions. -/
structure Schedule where
  mines : Nat → List Nat
  answers : Nat → SwapAnswers

namespace Schedule

/-- The node when its next call arrives. -/
def arrive (schedule : Schedule) (node : Node) : Node :=
  { node.mine (schedule.mines node.asked) with asked := node.asked + 1 }

def environment (schedule : Schedule) :
    Environment SwapVocabulary Node :=
  fun node request =>
    let arrived := schedule.arrive node
    match request with
    | .getTransactionCount address =>
        match schedule.answers node.asked (.getTransactionCount address) with
        | .error exc => (.error exc, arrived)
        | .ok _ =>
            (.ok arrived.mined.count,
              { arrived with counted := arrived.counted ++ [arrived.mined] })
    | .sendRawTransaction transaction =>
        match schedule.answers node.asked
            (.sendRawTransaction transaction) with
        | .error exc => (.error exc, arrived)
        | .ok txHash =>
            (.ok txHash,
              { arrived with pool := arrived.pool ++ [transaction] })
    | request => (schedule.answers node.asked request, arrived)

end Schedule

/-! ## Counts and broadcasts of a run -/

def countOf : Event SwapVocabulary → Option Nat
  | ⟨.getTransactionCount _, .ok count⟩ => some count
  | _ => none

def sentOf : Event SwapVocabulary → Option SignedTransaction
  | ⟨.sendRawTransaction transaction, _⟩ => some transaction
  | _ => none

/-- The numbers that were counted. -/
def counts (events : List (Event SwapVocabulary)) : List Nat :=
  events.filterMap countOf

/-- The transactions that were broadcast. -/
def broadcasts (events : List (Event SwapVocabulary)) :
    List SignedTransaction :=
  events.filterMap sentOf

/-- A call that neither counts nor broadcasts. -/
def Unnumbered : SwapCall → Prop
  | .getTransactionCount _ => False
  | .sendRawTransaction _ => False
  | _ => True

theorem counts_append_unnumbered
    (events : List (Event SwapVocabulary))
    {later : List (Event SwapVocabulary)}
    (unnumbered : ∀ event ∈ later, Unnumbered event.call) :
    counts (events ++ later) = counts events ∧
      broadcasts (events ++ later) = broadcasts events := by
  have noCount : later.filterMap countOf = [] := by
    apply List.filterMap_eq_nil_iff.mpr
    intro event member
    have plain := unnumbered event member
    obtain ⟨request, answer⟩ := event
    cases request with
    | getTransactionCount address => exact plain.elim
    | _ => rfl
  have noSend : later.filterMap sentOf = [] := by
    apply List.filterMap_eq_nil_iff.mpr
    intro event member
    have plain := unnumbered event member
    obtain ⟨request, answer⟩ := event
    cases request with
    | sendRawTransaction transaction => exact plain.elim
    | _ => rfl
  unfold counts broadcasts
  rw [List.filterMap_append, List.filterMap_append, noCount, noSend,
    List.append_nil, List.append_nil]
  exact ⟨rfl, rfl⟩

/-! ### What the node counts -/

theorem Node.mineAt_counted (node : Node) (index : Nat) :
    (node.mineAt index).counted = node.counted := by
  unfold Node.mineAt
  split
  · rfl
  · split <;> rfl

theorem Node.mine_counted (node : Node) (indices : List Nat) :
    (node.mine indices).counted = node.counted := by
  unfold Node.mine
  induction indices generalizing node with
  | nil => rfl
  | cons index rest inductionHypothesis =>
      rw [List.foldl_cons, inductionHypothesis, Node.mineAt_counted]

/-- What the node counted along a history. -/
def CountedBy (state : Node × List (Event SwapVocabulary)) : Prop :=
  counts state.2 = state.1.counted.map Mined.count

theorem countedBy_step (schedule : Schedule)
    (state : Node × List (Event SwapVocabulary)) (request : SwapCall)
    (counted : CountedBy state) :
    CountedBy (recording schedule.environment state request).2 := by
  obtain ⟨node, history⟩ := state
  have arrived : (schedule.arrive node).counted = node.counted :=
    node.mine_counted _
  unfold CountedBy at counted ⊢
  simp only [recording, counts, List.filterMap_append] at counted ⊢
  cases request with
  | getTransactionCount address =>
      simp only [Schedule.environment]
      cases schedule.answers node.asked (.getTransactionCount address) with
      | error exc =>
          simp only [List.filterMap_cons, List.filterMap_nil, countOf,
            List.append_nil]
          rw [arrived]
          exact counted
      | ok number =>
          simp only [List.filterMap_cons, List.filterMap_nil, countOf,
            List.map_append, List.map_cons, List.map_nil]
          rw [arrived, counted]
  | sendRawTransaction transaction =>
      simp only [Schedule.environment]
      cases schedule.answers node.asked
          (.sendRawTransaction transaction) with
      | error exc =>
          simp only [List.filterMap_cons, List.filterMap_nil, countOf,
            List.append_nil]
          rw [arrived]
          exact counted
      | ok txHash =>
          simp only [List.filterMap_cons, List.filterMap_nil, countOf,
            List.append_nil]
          rw [arrived]
          exact counted
  | _ =>
      simp only [Schedule.environment, List.filterMap_cons,
        List.filterMap_nil, countOf, List.append_nil]
      rw [arrived]
      exact counted

/-- The counts in the trace of a run are those of the node. -/
theorem counts_trace {ε α : Type} (schedule : Schedule)
    (program : Program SwapVocabulary ε α) (mined : Mined)
    (pool : List SignedTransaction) :
    counts (program.trace schedule.environment (.start mined pool)) =
      (program.run schedule.environment
        (.start mined pool)).2.counted.map Mined.count := by
  have related := Program.run_related
    (fun first second => CountedBy first → CountedBy second)
    (fun _ => id) (fun _ _ _ earlier later => later ∘ earlier)
    (countedBy_step schedule) program
    ((Node.start mined pool, []) : Node × List (Event SwapVocabulary))
  have counted := related rfl
  have sameNode := (Program.run_recording schedule.environment program
    (.start mined pool) []).2
  unfold CountedBy at counted
  rw [sameNode] at counted
  exact counted

/-! ### Every broadcast is numbered by its own count -/

/-- One count for each broadcast, and its number is the nonce. -/
def Numbered (history : List (Event SwapVocabulary)) : Prop :=
  counts history = (broadcasts history).map SignedTransaction.nonce

def NonceGuard (history : List (Event SwapVocabulary)) : SwapCall → Prop
  | .sendRawTransaction transaction =>
      counts history =
        (broadcasts history).map SignedTransaction.nonce ++
          [transaction.nonce]
  | _ => True

def NoncePost {α : Type} :
    Except Exception α → List (Event SwapVocabulary) → Prop
  | .ok _, history => Numbered history
  | .error _, _ => True

theorem Numbered.append_unnumbered
    {history later : List (Event SwapVocabulary)}
    (numbered : Numbered history)
    (unnumbered : ∀ event ∈ later, Unnumbered event.call) :
    Numbered (history ++ later) := by
  obtain ⟨sameCounts, sameSent⟩ :=
    counts_append_unnumbered history unnumbered
  unfold Numbered
  rw [sameCounts, sameSent]
  exact numbered

theorem free_of_unnumbered (history : List (Event SwapVocabulary))
    (request : SwapCall) (unnumbered : Unnumbered request) :
    NonceGuard history request := by
  cases request with
  | sendRawTransaction transaction => exact unnumbered.elim
  | _ => trivial

/-- A program that only makes other calls keeps the numbering. -/
theorem satisfies_unnumbered_bind {α β : Type} {program : SwapSteps α}
    (uses : program.Uses Unnumbered) {next : α → SwapSteps β}
    {history : List (Event SwapVocabulary)}
    (numbered : Numbered history)
    (rest : ∀ value reached, Numbered reached →
      (next value).Satisfies NonceGuard NoncePost reached) :
    (program.bind next).Satisfies NonceGuard NoncePost history := by
  apply uses.satisfies_bind free_of_unnumbered
  · intro error later
    trivial
  · intro value later unnumbered
    exact rest value _ (numbered.append_unnumbered unnumbered)

theorem satisfies_unnumbered {α : Type} {program : SwapSteps α}
    (uses : program.Uses Unnumbered)
    {history : List (Event SwapVocabulary)}
    (numbered : Numbered history) :
    program.Satisfies NonceGuard NoncePost history := by
  apply uses.satisfies free_of_unnumbered
  intro outcome later unnumbered
  cases outcome with
  | error exc => trivial
  | ok value => exact numbered.append_unnumbered unnumbered

theorem nonce_of_transactionFor
    {request : TransactionRequest} {sender : String} {nonce : Nat}
    {signed : SignedTransaction}
    (made : transactionFor request sender nonce = .ok signed) :
    signed.nonce = nonce := by
  simp only [transactionFor, bind_eq_ok_iff] at made
  obtain ⟨value, _, made⟩ := made
  split at made
  · simp only [bind_eq_ok_iff] at made
    obtain ⟨_, _, _, _, made⟩ := made
    cases made
    rfl
  · split at made
    · simp only [bind_eq_ok_iff] at made
      obtain ⟨_, _, made⟩ := made
      cases made
      rfl
    · cases made
      rfl

/-- A number that was counted, and not used yet. -/
def Counted (number : Nat) (history : List (Event SwapVocabulary)) : Prop :=
  counts history =
    (broadcasts history).map SignedTransaction.nonce ++ [number]

theorem Counted.append_unnumbered
    {number : Nat} {history later : List (Event SwapVocabulary)}
    (counted : Counted number history)
    (unnumbered : ∀ event ∈ later, Unnumbered event.call) :
    Counted number (history ++ later) := by
  obtain ⟨sameCounts, sameSent⟩ :=
    counts_append_unnumbered history unnumbered
  unfold Counted
  rw [sameCounts, sameSent]
  exact counted

theorem Numbered.counted {history : List (Event SwapVocabulary)}
    (numbered : Numbered history) (sender : String) (number : Nat) :
    Counted number
      (history ++ [⟨.getTransactionCount sender, .ok number⟩]) := by
  unfold Numbered at numbered
  unfold Counted
  have counted : counts
      (history ++ [⟨.getTransactionCount sender, .ok number⟩]) =
        counts history ++ [number] := List.filterMap_append
  have sent : broadcasts
      (history ++ [⟨.getTransactionCount sender, .ok number⟩]) =
        broadcasts history ++ [] := List.filterMap_append
  rw [counted, sent, List.append_nil, numbered]

theorem Counted.sent {history : List (Event SwapVocabulary)}
    {transaction : SignedTransaction}
    (counted : Counted transaction.nonce history)
    (answer : Except Exception String) :
    Numbered
      (history ++ [⟨.sendRawTransaction transaction, answer⟩]) := by
  unfold Counted at counted
  unfold Numbered
  have sameCounts : counts
      (history ++ [⟨.sendRawTransaction transaction, answer⟩]) =
        counts history ++ [] := List.filterMap_append
  have sent : broadcasts
      (history ++ [⟨.sendRawTransaction transaction, answer⟩]) =
        broadcasts history ++ [transaction] := List.filterMap_append
  rw [sameCounts, sent, List.append_nil, counted, List.map_append]
  rfl

theorem satisfies_signAndSend (transaction : TransactionRequest)
    (sender : String) {number : Nat}
    {history : List (Event SwapVocabulary)}
    (counted : Counted number history) :
    (signAndSend transaction sender number).Satisfies NonceGuard NoncePost
      history := by
  apply (Program.satisfies_ofExcept_bind _ _ _).mpr
  cases made : transactionFor transaction sender number with
  | error exc => trivial
  | ok signed =>
      rw [← nonce_of_transactionFor made] at counted
      constructor
      · trivial
      · intro answer
        have stillCounted : Counted signed.nonce
            (history ++ [⟨.signTransaction signed, answer⟩]) := by
          apply counted.append_unnumbered
          intro event member
          rw [List.mem_singleton.mp member]
          trivial
        cases answer with
        | error exc => trivial
        | ok _ =>
            constructor
            · exact stillCounted
            · intro sent
              cases sent with
              | error exc => trivial
              | ok txHash => exact stillCounted.sent _

/-- A broadcast takes one number and uses it. -/
theorem satisfies_broadcast (executor : SwapExecutor)
    (transaction : TransactionRequest)
    {history : List (Event SwapVocabulary)}
    (numbered : Numbered history) :
    (executor.broadcast transaction).Satisfies NonceGuard NoncePost
      history := by
  have keys : (fromKey executor.privateKey).Uses Unnumbered :=
    ⟨trivial, fun answer => Program.uses_ofExcept answer⟩
  apply satisfies_unnumbered_bind (uses_connect trivial) numbered
  intro _ connected numbered
  apply satisfies_unnumbered_bind keys numbered
  intro sender opened numbered
  constructor
  · trivial
  · intro answer
    cases answer with
    | error exc => trivial
    | ok number =>
        exact satisfies_signAndSend transaction sender
          (numbered.counted sender number)

/-- What follows a broadcast. -/
theorem satisfies_broadcast_bind {β : Type} (executor : SwapExecutor)
    (transaction : TransactionRequest) {next : String → SwapSteps β}
    {history : List (Event SwapVocabulary)}
    (numbered : Numbered history)
    (rest : ∀ txHash reached, Numbered reached →
      (next txHash).Satisfies NonceGuard NoncePost reached) :
    ((executor.broadcast transaction).bind next).Satisfies NonceGuard
      NoncePost history := by
  apply (Program.satisfies_bind _ _ _).mpr
  apply (satisfies_broadcast executor transaction numbered).mono
  intro outcome reached post
  cases outcome with
  | error exc => trivial
  | ok txHash => exact rest txHash reached post

theorem uses_pollReceipt (txHash : String) (tries : Nat) :
    (pollReceipt txHash tries).Uses Unnumbered := by
  induction tries with
  | zero => trivial
  | succ tries inductionHypothesis =>
      constructor
      · trivial
      · intro answer
        cases answer with
        | error exc => exact ⟨trivial, fun _ => inductionHypothesis⟩
        | ok receipt =>
            cases receipt with
            | none => exact ⟨trivial, fun _ => inductionHypothesis⟩
            | some receipt => trivial

theorem uses_waitForReceipt (txHash : String) :
    (waitForReceipt txHash).Uses Unnumbered := by
  apply (uses_connect trivial).bind
  intro _
  exact uses_pollReceipt txHash maxPollTries

theorem satisfies_approving (executor : SwapExecutor) (asked : Order)
    {history : List (Event SwapVocabulary)}
    (numbered : Numbered history) :
    (executor.approving asked).Satisfies NonceGuard NoncePost history := by
  unfold approving
  split
  · exact numbered
  · apply satisfies_unnumbered_bind (uses_checkApproval trivial) numbered
    intro response reached numbered
    split
    · split
      · exact numbered
      · apply satisfies_broadcast_bind executor _ numbered
        intro txHash sent numbered
        exact numbered
    · exact numbered

theorem satisfies_submitSwap (executor : SwapExecutor) (asked : Order)
    (response : FullQuoteResponse) (request : SwapRequest)
    {history : List (Event SwapVocabulary)}
    (numbered : Numbered history) :
    (executor.submitSwap asked response request).Satisfies NonceGuard
      NoncePost history := by
  apply satisfies_unnumbered_bind (uses_swap trivial) numbered
  intro transaction reached numbered
  apply satisfies_unnumbered_bind (Program.uses_ofExcept _) numbered
  intro _ validated numbered
  split
  · exact numbered
  · apply satisfies_broadcast_bind executor transaction numbered
    intro txHash sent numbered
    apply satisfies_unnumbered_bind (uses_waitForReceipt txHash) numbered
    intro receipt polled numbered
    exact numbered

theorem satisfies_swapping (executor : SwapExecutor) (asked : Order) :
    (executor.swapping asked).Satisfies NonceGuard NoncePost [] := by
  have nothing : Numbered [] := rfl
  apply (Program.satisfies_bind _ _ _).mpr
  apply (satisfies_approving executor asked nothing).mono
  intro outcome approved numbered
  cases outcome with
  | error exc => trivial
  | ok _ =>
      apply satisfies_unnumbered_bind (Program.uses_ofExcept _) numbered
      intro request requested numbered
      apply satisfies_unnumbered_bind (uses_quote trivial) numbered
      intro response quoted numbered
      apply satisfies_unnumbered_bind
        (uses_signatureFor executor (fun _ => trivial) response) numbered
      intro signature signed numbered
      unfold submit
      split
      · exact satisfies_unnumbered (uses_submitOrder asked response trivial)
          numbered
      · exact satisfies_submitSwap executor asked response _ numbered

/-! ## Two broadcasts -/

/-- The numbers that a run counted before its second broadcast are the two
nonces. -/
theorem counts_of_two {events : List (Event SwapVocabulary)}
    (guarded : Guarded NonceGuard events)
    {approval swap : SignedTransaction}
    (sent : broadcasts events = [approval, swap]) :
    ∃ later, counts events = approval.nonce :: swap.nonce :: later := by
  have parts : broadcasts events = [approval] ++ [swap] := sent
  obtain ⟨first, second, isEvents, sentFirst, sentSecond⟩ :=
    List.filterMap_eq_append_iff.mp parts
  obtain ⟨quiet, event, after, isSecond, noneSent, isSwap, _⟩ :=
    List.filterMap_eq_cons_iff.mp sentSecond
  have quietSent : quiet.filterMap sentOf = [] :=
    List.filterMap_eq_nil_iff.mpr noneSent
  have before : broadcasts (first ++ quiet) = [approval] := by
    unfold broadcasts
    rw [List.filterMap_append, sentFirst, quietSent]
    rfl
  have split : events = (first ++ quiet) ++ event :: after := by
    rw [isEvents, isSecond, List.append_assoc]
  have admissible := guarded _ _ _ split
  obtain ⟨request, answer⟩ := event
  cases request with
  | sendRawTransaction transaction =>
      cases isSwap
      have counted : counts (first ++ quiet) =
          [approval.nonce] ++ [swap.nonce] := by
        rw [← List.map_singleton, ← before]
        exact admissible
      refine ⟨counts (⟨.sendRawTransaction swap, answer⟩ :: after), ?_⟩
      rw [split]
      unfold counts at counted ⊢
      rw [List.filterMap_append, counted]
      rfl
  | _ => cases isSwap

/-- When an approval and a swap are broadcast, the swap has the greater nonce
exactly when a transaction with the approval's nonce had been mined when the
transactions were counted for the swap. -/
theorem nonce_grows_iff (schedule : Schedule) (mined : Mined)
    (pool : List SignedTransaction) (executor : SwapExecutor)
    (asked : Order) {approval swap : SignedTransaction}
    (sent : broadcasts ((executor.executeSwap asked).trace
      schedule.environment (.start mined pool)) = [approval, swap]) :
    approval.nonce < swap.nonce ↔
      ∃ seen, ((executor.executeSwap asked).run schedule.environment
          (.start mined pool)).2.counted[1]? = some seen ∧
        ∃ transaction ∈ seen.transactions,
          transaction.nonce = approval.nonce := by
  have sameTrace :
      (executor.executeSwap asked).trace schedule.environment
          (.start mined pool) =
        (executor.swapping asked).trace schedule.environment
          (.start mined pool) :=
    Program.trace_recover_done _ _ (failedSwap asked) _
  have guarded := ((satisfies_swapping executor asked).trace
    schedule.environment (.start mined pool)).2
  rw [← sameTrace] at guarded
  obtain ⟨later, isCounts⟩ := counts_of_two guarded sent
  rw [counts_trace] at isCounts
  have second := congrArg (fun numbers => numbers[1]?) isCounts
  simp only [List.getElem?_map, List.getElem?_cons_succ,
    List.getElem?_cons_zero] at second
  obtain ⟨seen, isSeen, isNonce⟩ := Option.map_eq_some_iff.mp second
  rw [← isNonce, ← seen.used_iff]
  constructor
  · intro used
    exact ⟨seen, isSeen, used⟩
  · intro found
    obtain ⟨other, isOther, used⟩ := found
    rw [isSeen] at isOther
    cases isOther
    exact used

/-! ## An approval that is not mined in time -/

def approvalTransaction : TransactionRequest where
  toAddress := usdc
  data := "0x095ea7b3"
  chainId := baseChainId
  data_not_empty := rfl

def swapTransaction : TransactionRequest where
  toAddress := "0x3fC91A3afd70395Cd496C647d5a6CC9D4B2b7FAD"
  data := "0xabab"
  chainId := baseChainId
  data_not_empty := rfl

/-- The token needs an approval, and every call succeeds. -/
def approvingAnswers : SwapAnswers
  | .checkApproval _ =>
      .ok { needsApproval := true, approvalTx := some approvalTransaction }
  | .quote _ _ =>
      .ok { routing := .classic, amountOut := some "1950000000", quote := [] }
  | .swap _ => .ok swapTransaction
  | .order _ => .error ⟨.runtimeError, "no order"⟩
  | .signPermit _ => .error ⟨.runtimeError, "no permit"⟩
  | .connect => .ok ()
  | .fromKey _ => .ok "0xaaaa"
  | .getTransactionCount _ => .ok 0
  | .signTransaction _ => .ok ()
  | .sendRawTransaction _ => .ok "0x5678"
  | .getTransactionReceipt _ => .ok none
  | .sleep => ()

/-- The chain mines nothing between the two broadcasts. -/
def idleChain : Schedule where
  mines := fun _ => []
  answers := fun _ => approvingAnswers

def noneMined : Mined where
  transactions := []
  in_order := by
    intro index transaction isAt
    cases isAt

def liveExecutor : SwapExecutor := .new "0xaaaa" (some "0x01") false

def usdcOrder : Order where
  tokenIn := usdc
  tokenOut := nativeEth
  amountInWei := "1000000"

/-- What is signed for a request with the nonce 0. -/
def firstSigned (request : TransactionRequest) : SignedTransaction where
  toAddress := request.toAddress
  sender := "0xaaaa"
  data := request.data
  value := 0
  chainId := request.chainId
  nonce := 0
  maxFeePerGas := none
  maxPriorityFeePerGas := none
  gas := none

theorem broadcasts_unmined :
    broadcasts ((liveExecutor.executeSwap usdcOrder).trace
      idleChain.environment (.start noneMined [])) =
        [firstSigned approvalTransaction, firstSigned swapTransaction] := by
  decide +kernel

theorem nonce_grows_iff_unmined :
    (firstSigned approvalTransaction).nonce <
        (firstSigned swapTransaction).nonce ↔
      ∃ seen, ((liveExecutor.executeSwap usdcOrder).run
          idleChain.environment (.start noneMined [])).2.counted[1]? =
            some seen ∧
        ∃ transaction ∈ seen.transactions,
          transaction.nonce = (firstSigned approvalTransaction).nonce :=
  nonce_grows_iff idleChain noneMined [] liveExecutor usdcOrder
    broadcasts_unmined

/-- An approval and the swap after it are signed with one nonce. -/
theorem nonce_used_twice :
    ¬ ∀ (schedule : Schedule) (mined : Mined)
        (pool : List SignedTransaction) (executor : SwapExecutor)
        (asked : Order) (approval swap : SignedTransaction),
      broadcasts ((executor.executeSwap asked).trace schedule.environment
          (.start mined pool)) = [approval, swap] →
        approval.nonce < swap.nonce := by
  intro always
  have grows := always idleChain noneMined [] liveExecutor usdcOrder _ _
    broadcasts_unmined
  exact Nat.lt_irrefl 0 grows

end SwarmFi.Core.Uniswap.Nonces

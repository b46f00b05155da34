import SwarmFi.Foundation.History
import SwarmFi.Core.Uniswap.Models
import SwarmFi.Core.Compute.RiskScorer

/-!
# The swap executor

The swap pipeline over the Uniswap Trading API: the approval, the quote, the
permit, then a swap transaction that is broadcast or an order that is handed
in.  A program calls the API, the wallet and the node.  A signed transaction
is kept as what was signed; the typed data of a permit, the logs and the
timings are left out.
-/

namespace SwarmFi.Core.Uniswap

open Foundation Python Compute

/-! ## Requests and responses -/

inductive SwapType where
  | exactInput
  | exactOutput
  deriving DecidableEq, Repr

structure ApprovalRequest where
  token : String
  amount : String
  walletAddress : String
  chainId : Int

/-- `not v or v in ("", "0x")` -/
def emptyData (data : String) : Bool := data == "" || data == "0x"

/-- A transaction ready for signing; its data is never empty. -/
structure TransactionRequest where
  toAddress : String
  data : String
  value : String := "0x0"
  chainId : Int
  gasLimit : Option String := none
  maxFeePerGas : Option String := none
  maxPriorityFeePerGas : Option String := none
  data_not_empty : emptyData data = false

structure ApprovalResponse where
  needsApproval : Bool := false
  approvalTx : Option TransactionRequest := none

/-- The response of a quote with the quote itself and the permit data. -/
structure FullQuoteResponse extends QuoteResponse where
  quote : Dict
  permitData : Option Dict := none

/-- DUTCH_V2, DUTCH_V3 and PRIORITY quotes go to the order endpoint. -/
def FullQuoteResponse.useOrderEndpoint (response : FullQuoteResponse) :
    Bool :=
  [RoutingType.dutchV2, .dutchV3, .priority].contains response.routing

/-- The body for `/swap` and `/order`. -/
structure SwapRequest where
  quote : Dict
  signature : Option String
  permitData : Option Dict

/-- What is signed. -/
structure SignedTransaction where
  toAddress : String
  sender : String
  data : String
  value : Int
  chainId : Int
  nonce : Nat
  maxFeePerGas : Option Int
  maxPriorityFeePerGas : Option Int
  gas : Option Int
  deriving DecidableEq

/-- A mined transaction has status 1, a reverted one 0. -/
structure Receipt where
  status : Int
  blockNumber : Int
  gasUsed : Int

/-! ## What the executor calls -/

inductive SwapCall where
  | checkApproval (request : ApprovalRequest)
  | quote (request : QuoteRequest) (swapType : SwapType)
  | swap (request : SwapRequest)
  | order (request : SwapRequest)
  | signPermit (permitData : Dict)
  | connect
  | fromKey (privateKey : Option String)
  | getTransactionCount (address : String)
  | signTransaction (transaction : SignedTransaction)
  | sendRawTransaction (transaction : SignedTransaction)
  | getTransactionReceipt (txHash : String)
  | sleep

abbrev SwapCall.Answer : SwapCall → Type
  | .checkApproval _ => Except Exception ApprovalResponse
  | .quote _ _ => Except Exception FullQuoteResponse
  | .swap _ => Except Exception TransactionRequest
  | .order _ => Except Exception Json
  | .signPermit _ => Except Exception String
  | .connect => Except Exception Unit
  | .fromKey _ => Except Exception String
  | .getTransactionCount _ => Except Exception Nat
  | .signTransaction _ => Except Exception Unit
  | .sendRawTransaction _ => Except Exception String
  | .getTransactionReceipt _ => Except Exception (Option Receipt)
  | .sleep => Unit

abbrev SwapVocabulary : Vocabulary where
  Call := SwapCall
  Answer := SwapCall.Answer

abbrev SwapSteps (α : Type) := Program SwapVocabulary Exception α

namespace SwapSteps

def checkApproval (request : ApprovalRequest) :
    SwapSteps ApprovalResponse :=
  Program.bind (.call (SwapCall.checkApproval request) .done) .ofExcept

def quote (request : QuoteRequest) (swapType : SwapType) :
    SwapSteps FullQuoteResponse :=
  Program.bind (.call (SwapCall.quote request swapType) .done) .ofExcept

def swap (request : SwapRequest) : SwapSteps TransactionRequest :=
  Program.bind (.call (SwapCall.swap request) .done) .ofExcept

/-- The client logs the id of the order, so the reply must be a dict. -/
def order (request : SwapRequest) : SwapSteps Dict :=
  Program.bind (.call (SwapCall.order request) .done) fun answer =>
    .ofExcept (answer >>= Json.asDict)

def signPermit (permitData : Dict) : SwapSteps String :=
  Program.bind (.call (SwapCall.signPermit permitData) .done) .ofExcept

/-- `_get_web3` -/
def connect : SwapSteps Unit :=
  Program.bind (.call SwapCall.connect .done) .ofExcept

def fromKey (privateKey : Option String) : SwapSteps String :=
  Program.bind (.call (SwapCall.fromKey privateKey) .done) .ofExcept

def getTransactionCount (address : String) : SwapSteps Nat :=
  Program.bind (.call (SwapCall.getTransactionCount address) .done)
    .ofExcept

def signTransaction (transaction : SignedTransaction) : SwapSteps Unit :=
  Program.bind (.call (SwapCall.signTransaction transaction) .done)
    .ofExcept

def sendRawTransaction (transaction : SignedTransaction) :
    SwapSteps String :=
  Program.bind (.call (SwapCall.sendRawTransaction transaction) .done)
    .ofExcept

def getTransactionReceipt (txHash : String) :
    SwapSteps (Except Exception (Option Receipt)) :=
  .call (SwapCall.getTransactionReceipt txHash) .done

def sleep : SwapSteps Unit := .call SwapCall.sleep .done

end SwapSteps

open SwapSteps

/-! ## The executor -/

/-- Without a private key an executor is in dry-run mode. -/
structure SwapExecutor where
  walletAddress : String
  privateKey : Option String
  dryRun : Bool
  keyless_dry : privateKey = none → dryRun = true

def SwapExecutor.new (walletAddress : String) (privateKey : Option String)
    (dryRun : Bool) : SwapExecutor where
  walletAddress := walletAddress
  privateKey := privateKey
  dryRun := dryRun || privateKey.isNone
  keyless_dry := by
    intro keyless
    rw [keyless]
    exact Bool.or_true dryRun

namespace SwapExecutor

/-- `int(text, base)` -/
def intOf (base : Nat) (text : String) : Except Exception Int :=
  match parseInt base text with
  | some value => .ok value
  | none =>
      .error ⟨.valueError,
        "invalid literal for int() with base " ++ toString base ++ ": '" ++
          text ++ "'"⟩

/-- A value in hexadecimal or decimal text. -/
def valueOf (text : String) : Except Exception Int :=
  if startsWith text "0x" then intOf 16 text else intOf 10 text

/-- The transaction as it is signed: the fees of the request, or else its
gas limit. -/
def transactionFor (transaction : TransactionRequest) (sender : String)
    (nonce : Nat) : Except Exception SignedTransaction := do
  let value ← valueOf transaction.value
  let plain : SignedTransaction :=
    { toAddress := transaction.toAddress
      sender := sender
      data := transaction.data
      value := value
      chainId := transaction.chainId
      nonce := nonce
      maxFeePerGas := none
      maxPriorityFeePerGas := none
      gas := none }
  if truthy transaction.maxFeePerGas then
    let fee ← intOf 16 (transaction.maxFeePerGas.getD "")
    let priority ←
      intOf 16 (orElse (transaction.maxPriorityFeePerGas.getD "") "0x0")
    return { plain with
      maxFeePerGas := some fee
      maxPriorityFeePerGas := some priority }
  else if truthy transaction.gasLimit then
    let gas ← intOf 16 (transaction.gasLimit.getD "")
    return { plain with gas := some gas }
  else
    return plain

/-- The end of `_broadcast`, with the nonce. -/
def signAndSend (transaction : TransactionRequest) (sender : String)
    (nonce : Nat) : SwapSteps String := do
  let signed ← .ofExcept (transactionFor transaction sender nonce)
  signTransaction signed
  sendRawTransaction signed

/-- `_broadcast` -/
def broadcast (executor : SwapExecutor) (transaction : TransactionRequest) :
    SwapSteps String := do
  connect
  let sender ← fromKey executor.privateKey
  let nonce ← getTransactionCount sender
  signAndSend transaction sender nonce

/-- `_MAX_POLL_TRIES` -/
def maxPollTries : Nat := 30

/-- The polls for a receipt; one that raises counts as none. -/
def pollReceipt (txHash : String) : Nat → SwapSteps (Option Receipt)
  | 0 => return none
  | tries + 1 => do
      let answer ← getTransactionReceipt txHash
      match answer with
      | .ok (some receipt) => return some receipt
      | _ =>
          sleep
          pollReceipt txHash tries

def waitForReceipt (txHash : String) : SwapSteps (Option Receipt) := do
  connect
  pollReceipt txHash maxPollTries

/-- Never broadcast a transaction with empty data. -/
def validateTx (transaction : TransactionRequest) :
    Except Exception Unit :=
  if emptyData transaction.data then
    .error ⟨.valueError,
      "Refusing to broadcast: transaction data is empty. " ++
        "This would result in loss of funds."⟩
  else
    .ok ()

/-- The responses let no such transaction through. -/
theorem validateTx_ok (transaction : TransactionRequest) :
    validateTx transaction = .ok () := by
  unfold validateTx
  rw [transaction.data_not_empty]
  rfl

def ensureApproval (executor : SwapExecutor)
    (token amount : String) (chainId : Int) : SwapSteps Unit := do
  let response ← checkApproval {
    token := token
    amount := amount
    walletAddress := executor.walletAddress
    chainId := chainId }
  match response.needsApproval, response.approvalTx with
  | true, some approvalTx =>
      if executor.dryRun then
        return ()
      else
        let _ ← executor.broadcast approvalTx
        return ()
  | _, _ => return ()

/-- `"0x" + "ff" * 65` -/
def mockSignature : String :=
  "0x" ++ String.ofList (List.replicate 130 'f')

/-- `"0x" + "00" * 32` -/
def zeroHash : String :=
  "0x" ++ String.ofList (List.replicate 64 '0')

/-- `_sign_permit` -/
def signPermitData (executor : SwapExecutor) (permitData : Dict) :
    SwapSteps String :=
  if executor.dryRun || !truthy executor.privateKey then
    return mockSignature
  else
    signPermit permitData

/-- The signature of a permit that the quote needs. -/
def signatureFor (executor : SwapExecutor)
    (response : FullQuoteResponse) : SwapSteps (Option String) :=
  match response.permitData with
  | none => return none
  | some permitData =>
      if executor.dryRun then
        return none
      else do
        let signature ← executor.signPermitData permitData
        return some signature

/-- The swap that `execute_swap` is asked for. -/
structure Order where
  tokenIn : String
  tokenOut : String
  amountInWei : String
  chainId : Int := baseChainId
  slippage : PyFloat := .fin (1 / 2)
  swapType : SwapType := .exactInput

def submitSwap (executor : SwapExecutor) (asked : Order)
    (response : FullQuoteResponse) (request : SwapRequest) :
    SwapSteps SwapResult := do
  let transaction ← swap request
  .ofExcept (validateTx transaction)
  if executor.dryRun then
    return {
      status := .submitted
      txHash := some zeroHash
      tokenIn := asked.tokenIn
      tokenOut := asked.tokenOut
      chainId := asked.chainId
      amountIn := asked.amountInWei
      amountOut := response.amountOut
      routing := some response.routing }
  else
    let txHash ← executor.broadcast transaction
    let receipt ← waitForReceipt txHash
    return {
      status := if receipt.isSome then .confirmed else .submitted
      txHash := some txHash
      tokenIn := asked.tokenIn
      tokenOut := asked.tokenOut
      chainId := asked.chainId
      amountIn := asked.amountInWei
      amountOut := response.amountOut
      routing := some response.routing
      blockNumber := receipt.map Receipt.blockNumber
      gasUsed := receipt.map Receipt.gasUsed }

/-- `order_id[:12]` is logged: only a string or a list has it. -/
def orderIdOf : Json → Except Exception String
  | .str orderId => .ok orderId
  | .arr _ =>
      .error (validationError "SwapResult" "tx_hash"
        "Input should be a valid string")
  | other =>
      .error ⟨.typeError,
        "'" ++ other.typeName ++ "' object is not subscriptable"⟩

/-- A gasless order: handed in to the fillers, with no local broadcast. -/
def submitOrder (asked : Order) (response : FullQuoteResponse)
    (request : SwapRequest) : SwapSteps SwapResult := do
  let result ← order request
  let orderId ← .ofExcept (orderIdOf (result.getD "orderId" (.str "")))
  let amountIn ←
    .ofExcept (validStr "SwapResult" "amount_in"
      (request.quote.getD "amount" (.str "0")))
  return {
    status := .submitted
    txHash := some orderId
    tokenIn := asked.tokenIn
    tokenOut := asked.tokenOut
    chainId := asked.chainId
    amountIn := amountIn
    amountOut := response.amountOut
    routing := some response.routing }

def submit (executor : SwapExecutor) (asked : Order)
    (response : FullQuoteResponse) (request : SwapRequest) :
    SwapSteps SwapResult :=
  if response.useOrderEndpoint then
    submitOrder asked response request
  else
    executor.submitSwap asked response request

/-- The approval of a token that is not the native one. -/
def approving (executor : SwapExecutor) (asked : Order) : SwapSteps Unit :=
  if asked.tokenIn = nativeEth then
    return ()
  else
    executor.ensureApproval asked.tokenIn asked.amountInWei asked.chainId

/-- What follows the approval. -/
def trading (executor : SwapExecutor) (asked : Order) :
    SwapSteps SwapResult := do
  let request ← .ofExcept (QuoteRequest.make asked.tokenIn asked.tokenOut
    asked.chainId asked.amountInWei executor.walletAddress asked.slippage)
  let response ← quote request asked.swapType
  let signature ← executor.signatureFor response
  executor.submit asked response {
    quote := response.quote
    signature := signature
    permitData := response.permitData }

/-- The body of the `try`. -/
def swapping (executor : SwapExecutor) (asked : Order) :
    SwapSteps SwapResult := do
  executor.approving asked
  executor.trading asked

def failedSwap (asked : Order) (exc : Exception) : SwapResult where
  status := .failed
  error := some exc.text
  tokenIn := asked.tokenIn
  tokenOut := asked.tokenOut
  chainId := asked.chainId
  amountIn := asked.amountInWei

/-- `execute_swap`: never raises. -/
def executeSwap (executor : SwapExecutor) (asked : Order) :
    Program SwapVocabulary Empty SwapResult :=
  (executor.swapping asked).recover fun exc =>
    .done (failedSwap asked exc)

/-! ## Which calls the parts make -/

section Uses

variable {allowed : SwapCall → Prop} (executor : SwapExecutor)

theorem uses_connect (may : allowed .connect) : connect.Uses allowed :=
  ⟨may, fun answer => Program.uses_ofExcept answer⟩

theorem uses_checkApproval {request : ApprovalRequest}
    (may : allowed (.checkApproval request)) :
    (checkApproval request).Uses allowed :=
  ⟨may, fun answer => Program.uses_ofExcept answer⟩

theorem uses_quote {request : QuoteRequest} {swapType : SwapType}
    (may : allowed (.quote request swapType)) :
    (quote request swapType).Uses allowed :=
  ⟨may, fun answer => Program.uses_ofExcept answer⟩

theorem uses_swap {request : SwapRequest}
    (may : allowed (.swap request)) : (swap request).Uses allowed :=
  ⟨may, fun answer => Program.uses_ofExcept answer⟩

theorem uses_broadcast (connects : allowed .connect)
    (keys : ∀ privateKey, allowed (.fromKey privateKey))
    (counts : ∀ address, allowed (.getTransactionCount address))
    (signs : ∀ transaction, allowed (.signTransaction transaction))
    (sends : ∀ transaction, allowed (.sendRawTransaction transaction))
    (transaction : TransactionRequest) :
    (executor.broadcast transaction).Uses allowed := by
  have opened : (fromKey executor.privateKey).Uses allowed :=
    ⟨keys _, fun answer => Program.uses_ofExcept answer⟩
  have counted : ∀ sender, (getTransactionCount sender).Uses allowed :=
    fun _ => ⟨counts _, fun answer => Program.uses_ofExcept answer⟩
  have signed : ∀ signed, (signTransaction signed).Uses allowed :=
    fun _ => ⟨signs _, fun answer => Program.uses_ofExcept answer⟩
  have sent : ∀ signed, (sendRawTransaction signed).Uses allowed :=
    fun _ => ⟨sends _, fun answer => Program.uses_ofExcept answer⟩
  apply (uses_connect connects).bind
  intro _
  apply opened.bind
  intro sender
  apply (counted sender).bind
  intro nonce
  apply (Program.uses_ofExcept _).bind
  intro transaction
  apply (signed transaction).bind
  intro _
  exact sent transaction

theorem uses_signatureFor
    (signs : ∀ permitData, allowed (.signPermit permitData))
    (response : FullQuoteResponse) :
    (executor.signatureFor response).Uses allowed := by
  have permits : ∀ permitData,
      (executor.signPermitData permitData).Uses allowed := by
    intro permitData
    unfold signPermitData
    split
    · trivial
    · exact ⟨signs _, fun answer => Program.uses_ofExcept answer⟩
  unfold signatureFor
  split
  · trivial
  · split
    · trivial
    · apply (permits _).bind
      intro signature
      trivial

theorem uses_submitOrder (asked : Order) (response : FullQuoteResponse)
    {request : SwapRequest} (may : allowed (.order request)) :
    (submitOrder asked response request).Uses allowed := by
  have orders : (order request).Uses allowed :=
    ⟨may, fun answer => Program.uses_ofExcept _⟩
  apply orders.bind
  intro result
  apply (Program.uses_ofExcept _).bind
  intro orderId
  apply (Program.uses_ofExcept _).bind
  intro amountIn
  trivial

end Uses

end SwapExecutor

end SwarmFi.Core.Uniswap

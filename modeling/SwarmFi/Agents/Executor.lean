import SwarmFi.Agents.Base
import SwarmFi.Core.KeeperHub.Executor

/-!
# The executor agent

A TRADE_DECISION with a valid payload is refused when it says HOLD and
executed otherwise; either way a result goes to the researcher.  How pydantic
reads the payload stays a parameter, and the log lines are left out.
-/

namespace SwarmFi.Agents

open Foundation Python SwarmFi.Core Uniswap KeeperHub

structure ExecutorAgent (vocabulary : Vocabulary) where
  base : BaseAgent vocabulary
  wallet : String
  readDecision : Dict → Except Exception TradeDecisionPayload
  executeSwap : SwapArguments → Program vocabulary Exception SwapResult

namespace ExecutorAgent

variable {vocabulary : Vocabulary} (self : ExecutorAgent vocabulary)

/-- `f"HOLD: {decision.rejection_reason}"` -/
def holdText (decision : TradeDecisionPayload) : String :=
  "HOLD: " ++ decision.rejectionReason.getD "None"

def holdWrites (decision : TradeDecisionPayload) : List MemoryWrite :=
  [.updateStatus .idle [],
    .logEvent .tradeFailed
      [("action", .str "HOLD"),
        ("reason", optionalStr decision.rejectionReason),
        ("risk_score", .float decision.riskScore)]]

/-- What is remembered of an executed swap. -/
def resultWrites (result : SwapResult) : List MemoryWrite :=
  if result.succeeded then
    [.updateStatus .idle [("last_tx_hash", optionalStr result.txHash)],
      .logEvent .tradeExecuted result.toLogData]
  else
    [.updateStatus .error [("error_message", optionalStr result.error)],
      .logEvent .tradeFailed result.toLogData]

def swapArguments (decision : TradeDecisionPayload) : SwapArguments where
  tokenIn := decision.tokenIn
  tokenOut := decision.tokenOut
  amountInWei := toString decision.amountInWei
  chainId := decision.chainId
  walletAddress := some self.wallet

/-- `result.status in (SwapStatus.CONFIRMED, SwapStatus.SUBMITTED)` -/
def isSuccess (result : SwapResult) : Bool :=
  [SwapStatus.confirmed, .submitted].contains result.status

/-- `_send_result`: building the message can raise, sending it cannot. -/
def sendResult (success : Bool) (txHash error : Option String) :
    Program vocabulary Exception Unit := do
  let payload ← .ofExcept
    (ExecutionResultPayload.make success (if success then txHash else none)
      (if success then none else error))
  let pubkey ← .ofExcept self.base.pubkey
  let stamp ← self.base.newStamp
  let message ← .ofExcept
    (SwarmMessage.make stamp .executionResult .executor pubkey
      payload.modelDump)
  (self.base.send .researcher message).recover fun _ => .done ()

def hold (decision : TradeDecisionPayload) :
    Program vocabulary Exception Unit := do
  self.base.remember (holdWrites decision)
  self.sendResult false none (some (holdText decision))

def execute (decision : TradeDecisionPayload) :
    Program vocabulary Exception Unit := do
  self.base.remember [.updateStatus .executing []]
  let result ← self.executeSwap (self.swapArguments decision)
  self.base.remember (resultWrites result)
  self.sendResult (isSuccess result) result.txHash result.error

/-- `_handle_trade_decision`: an invalid payload is only logged. -/
def handleTradeDecision (message : SwarmMessage) :
    Program vocabulary Exception Unit :=
  match self.readDecision message.payload with
  | .error _ => return ()
  | .ok decision =>
      if decision.action = .hold then
        self.hold decision
      else
        self.execute decision

def onMessage (received : ReceivedMessage) :
    Program vocabulary Exception Unit :=
  if received.message.messageType = .tradeDecision then
    self.handleTradeDecision received.message
  else
    return ()

end ExecutorAgent

end SwarmFi.Agents

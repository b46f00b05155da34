import SwarmFi.Agents.Base
import SwarmFi.Core.Compute.RiskScorer

/-!
# The risk agent

A MARKET_SIGNAL is scored and the decision is sent to the executor.
-/

namespace SwarmFi.Agents

open Foundation Python SwarmFi.Core Compute

structure RiskAgent (vocabulary : Vocabulary) where
  base : BaseAgent vocabulary
  chat : Prompt → Program vocabulary Exception (Except Exception String)
  limits : RecursionLimits := {}

namespace RiskAgent

variable {vocabulary : Vocabulary} (self : RiskAgent vocabulary)

def decisionWrites (decision : SwarmMessage) : List MemoryWrite :=
  [.logEvent .riskDecision decision.payload,
    .updateStatus .idle
      [("last_risk_score", decision.payload.getD "risk_score" .null)]]

def handleSignal (signal : Dict) : Program vocabulary Exception Unit := do
  self.base.remember
    [.updateStatus .deciding [("last_signal", .obj signal)]]
  let pubkey ← .ofExcept self.base.pubkey
  let decision ←
    score self.chat self.base.newStamp signal pubkey self.limits
  self.base.remember (decisionWrites decision)
  self.base.send .executor decision

def onMessage (received : ReceivedMessage) :
    Program vocabulary Exception Unit :=
  if received.message.messageType = .marketSignal then
    self.handleSignal received.message.payload
  else
    return ()

end RiskAgent

end SwarmFi.Agents

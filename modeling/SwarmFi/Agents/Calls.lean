import SwarmFi.Foundation.History
import SwarmFi.Agents.Executor
import SwarmFi.Agents.Risk

/-!
# Agents over their HTTP requests

One vocabulary for the two agents of the decision path: the requests to the
AXL node, the memory writes, the swap executor and the model.  Over it `send`
and `recv` are the AXL client's own methods, so that every attempt is a call
of its own.
-/

namespace SwarmFi.Agents

open Foundation Python SwarmFi.Core Uniswap KeeperHub Compute

inductive AgentCall where
  | getRecv
  | postSend (dest : String) (content : Bytes)
  | newStamp
  | latency
  | isRunning
  | write (write : MemoryWrite)
  | executeSwap (args : SwapArguments)
  | chat (prompt : Prompt)

abbrev AgentCall.Answer : AgentCall → Type
  | .getRecv => Except Exception (Response Delivery)
  | .postSend _ _ => Except Exception (Response Unit)
  | .newStamp => Stamp
  | .latency => PyFloat
  | .isRunning => Bool
  | .write _ => Except Exception Unit
  | .executeSwap _ => Except Exception SwapResult
  | .chat _ => Except Exception String

abbrev Agent : Vocabulary where
  Call := AgentCall
  Answer := AgentCall.Answer

/-- What stays fixed while an agent runs. -/
structure AgentConfig where
  ownPubkey : String
  registry : AgentRegistry
  codec : Codec
  hasMemory : Bool

namespace AgentConfig

variable (config : AgentConfig)

def node : AxlNode Agent where
  getRecv := Program.bind (.call AgentCall.getRecv .done) .ofExcept
  postSend := fun dest content =>
    Program.bind (.call (AgentCall.postSend dest content) .done) .ofExcept

def client : AxlClient Agent where
  codec := config.codec
  node := node

def base (role : AgentRole) : BaseAgent Agent where
  role := role
  ownPubkey := config.ownPubkey
  hasMemory := config.hasMemory
  recv := config.client.recv
  clientSend := config.client.send
  send := sendToRole config.registry config.client
  write := fun write =>
    Program.bind (.call (AgentCall.write write) .done) .ofExcept
  newStamp := .call AgentCall.newStamp .done
  latency := .call AgentCall.latency .done
  isRunning := .call AgentCall.isRunning .done

/-- An executor agent with a wallet and pydantic's reading of a decision. -/
def executor
    (wallet : String)
    (readDecision : Dict → Except Exception TradeDecisionPayload) :
    ExecutorAgent Agent where
  base := config.base .executor
  wallet := wallet
  readDecision := readDecision
  executeSwap := fun args =>
    Program.bind (.call (AgentCall.executeSwap args) .done) .ofExcept

def risk : RiskAgent Agent where
  base := config.base .risk
  chat := fun prompt => .call (AgentCall.chat prompt) .done

end AgentConfig

/-- The dispatch loop of an executor agent. -/
def executorLoop (agent : ExecutorAgent Agent) (rounds : Nat) :
    Program Agent Exception Progress :=
  agent.base.dispatchLoop agent.onMessage rounds

/-- The dispatch loop of a risk agent. -/
def riskLoop (agent : RiskAgent Agent) (rounds : Nat) :
    Program Agent Exception Progress :=
  agent.base.dispatchLoop agent.onMessage rounds

/-! ## Calls that neither poll, send nor trade -/

section Uses

variable
  (config : AgentConfig) (role : AgentRole)
  {allowed : AgentCall → Prop}

theorem uses_write
    (free : ∀ write, allowed (.write write)) (write : MemoryWrite) :
    ((config.base role).write write).Uses allowed :=
  Program.Uses.bind ⟨free write, fun _ => trivial⟩ fun outcome =>
    Program.uses_ofExcept outcome

theorem uses_remember
    (free : ∀ write, allowed (.write write)) (writes : List MemoryWrite) :
    ((config.base role).remember writes).Uses allowed := by
  unfold BaseAgent.remember
  split
  · induction writes with
    | nil => trivial
    | cons write writes inductionHypothesis =>
        exact (uses_write config role free write).bind
          fun _ => inductionHypothesis
  · trivial

theorem uses_attemptSend
    {dest : String} {content : Bytes}
    (free : allowed (.postSend dest content)) :
    (config.client.attemptSend dest content).Uses allowed := by
  refine Program.Uses.bind (Program.Uses.bind ⟨free, fun _ => trivial⟩
    fun outcome => Program.uses_ofExcept outcome) fun response => ?_
  exact Program.uses_ofExcept _

theorem uses_clientSend
    {dest : String} {message : SwarmMessage}
    (free : allowed (.postSend dest (config.codec.encode message))) :
    (config.client.send dest message).Uses allowed :=
  Program.Uses.retrying (uses_attemptSend config free) extraAttempts

theorem uses_sendToRole
    {message : SwarmMessage}
    (free : ∀ dest,
      allowed (.postSend dest (config.codec.encode message)))
    (destRole : AgentRole) :
    (sendToRole config.registry config.client destRole message).Uses
      allowed :=
  (Program.uses_ofExcept _).bind fun dest =>
    uses_clientSend config (free dest)

theorem uses_handlePing
    (clock : allowed .latency) (stamps : allowed .newStamp)
    (posts : ∀ dest content, allowed (.postSend dest content))
    (received : ReceivedMessage) :
    ((config.base role).handlePing received).Uses allowed := by
  refine Program.Uses.bind ⟨clock, fun _ => trivial⟩ fun latencyMs => ?_
  refine (Program.uses_ofExcept _).bind fun pubkey => ?_
  refine Program.Uses.bind ⟨stamps, fun _ => trivial⟩ fun stamp => ?_
  refine (Program.uses_ofExcept _).bind fun pong => ?_
  exact uses_clientSend config (posts _ _)

end Uses

/-- A poll asks the node once, and the codec reads the answer. -/
theorem satisfies_recv
    {guard : List (Event Agent) → AgentCall → Prop}
    {post : Except Exception (Option ReceivedMessage) →
      List (Event Agent) → Prop}
    (config : AgentConfig) (history : List (Event Agent)) :
    config.client.recv.Satisfies guard post history ↔
      guard history .getRecv ∧
        ∀ answer : Except Exception (Response Delivery),
          post (readDelivery config.codec answer)
            (history ++ [⟨.getRecv, answer⟩]) := by
  refine and_congr_right fun _ => forall_congr' fun answer => ?_
  cases answer <;> exact Program.satisfies_ofExcept _ _

/-- By induction on the rounds: a guard that lets every poll through holds in
a dispatch loop as soon as it holds in the routing of what a poll brings. -/
theorem satisfies_dispatchLoop
    {guard : List (Event Agent) → AgentCall → Prop}
    (config : AgentConfig) (role : AgentRole)
    (onMessage : ReceivedMessage → Program Agent Exception Unit)
    (polls : ∀ history, guard history .getRecv)
    (asks : ∀ history, guard history .isRunning)
    (routes : ∀ history answer received,
      readDelivery config.codec answer = .ok (some received) →
        ((config.base role).route onMessage received).Satisfies guard
          (fun _ _ => True)
          (history ++ [⟨.getRecv, answer⟩] ++ [⟨.isRunning, true⟩]))
    (rounds : Nat) (history : List (Event Agent)) :
    ((config.base role).dispatchLoop onMessage rounds).Satisfies guard
      (fun _ _ => True) history := by
  induction rounds generalizing history with
  | zero => trivial
  | succ rounds inductionHypothesis =>
      unfold BaseAgent.dispatchLoop
      apply (Program.satisfies_bind _ _ _).mpr
      apply (satisfies_recv config history).mpr
      refine ⟨polls history, fun answer => ?_⟩
      cases read : readDelivery config.codec answer with
      | error exc => trivial
      | ok polled =>
          cases polled with
          | none => exact inductionHypothesis _
          | some received =>
              refine ⟨asks _, fun running => ?_⟩
              cases running with
              | false => trivial
              | true =>
                  have routed := routes history answer received read
                  simp only [Program.done_bind]
                  apply (Program.satisfies_bind _ _ _).mpr
                  apply routed.mono
                  intro outcome reached _
                  cases outcome with
                  | error exc => trivial
                  | ok _ =>
                      apply (Program.satisfies_bind _ _ _).mpr
                      apply (inductionHypothesis reached).mono
                      intro progress later _
                      cases progress <;> trivial

end SwarmFi.Agents

import SwarmFi.Agents.ExecutionReports
import SwarmFi.Agents.Calls

/-!
# What makes the executor trade

`ledgerOf` reads the history of an executor: the message it is handling, the
swaps started since that message came, and what was delivered and executed so
far.  Every `execute_swap` of every run answers the TRADE_DECISION that was
delivered last, with the arguments of its payload and only once.

Who delivered that message plays no part: neither the dispatch loop nor the
handler looks at the sender's key, so any peer can trigger a trade.
-/

namespace SwarmFi.Agents

open Foundation Python SwarmFi.Core Uniswap KeeperHub

/-! ## The ledger of a history -/

/-- What the history of an executor says.  `current` is what the last poll
returned, `executed` the message being handled at each `execute_swap`. -/
structure Ledger where
  current : Option ReceivedMessage
  swapsSince : Nat
  delivered : List ReceivedMessage
  executed : List (Option ReceivedMessage)

namespace Ledger

def empty : Ledger where
  current := none
  swapsSince := 0
  delivered := []
  executed := []

def polled (ledger : Ledger) : Option ReceivedMessage → Ledger
  | none => { ledger with current := none, swapsSince := 0 }
  | some received =>
      { ledger with
        current := some received
        swapsSince := 0
        delivered := ledger.delivered ++ [received] }

def traded (ledger : Ledger) : Ledger :=
  { ledger with
    swapsSince := ledger.swapsSince + 1
    executed := ledger.executed ++ [ledger.current] }

/-- The message that an answer to `/recv` brings. -/
def messageOf (codec : Codec) (answer : Except Exception (Response Delivery)) :
    Option ReceivedMessage :=
  match readDelivery codec answer with
  | .ok received => received
  | .error _ => none

theorem readDelivery_of_messageOf
    {codec : Codec} {answer : Except Exception (Response Delivery)}
    {received : ReceivedMessage}
    (brought : messageOf codec answer = some received) :
    readDelivery codec answer = .ok (some received) := by
  unfold messageOf at brought
  split at brought
  · next polled isPolled => rw [isPolled, brought]
  · cases brought

def record (codec : Codec) (ledger : Ledger) : Event Agent → Ledger
  | ⟨.getRecv, answer⟩ => ledger.polled (messageOf codec answer)
  | ⟨.executeSwap _, _⟩ => ledger.traded
  | _ => ledger

end Ledger

def ledgerOf (codec : Codec) (history : List (Event Agent)) : Ledger :=
  summary (Ledger.record codec) .empty history

section LedgerOf

variable (codec : Codec) (history : List (Event Agent))

theorem ledgerOf_snoc (event : Event Agent) :
    ledgerOf codec (history ++ [event]) =
      (ledgerOf codec history).record codec event :=
  summary_snoc _ _ history event

@[simp]
theorem ledgerOf_polled (answer : Except Exception (Response Delivery)) :
    ledgerOf codec (history ++ [⟨.getRecv, answer⟩]) =
      (ledgerOf codec history).polled (Ledger.messageOf codec answer) :=
  ledgerOf_snoc codec history _

@[simp]
theorem ledgerOf_traded
    (args : SwapArguments) (result : Except Exception SwapResult) :
    ledgerOf codec (history ++ [⟨.executeSwap args, result⟩]) =
      (ledgerOf codec history).traded :=
  ledgerOf_snoc codec history _

/-- A call that neither polls nor trades. -/
def Idle : AgentCall → Prop
  | .getRecv => False
  | .executeSwap _ => False
  | _ => True

theorem record_idle (ledger : Ledger) (event : Event Agent)
    (idle : Idle event.call) : ledger.record codec event = ledger := by
  obtain ⟨request, answer⟩ := event
  cases request with
  | getRecv => exact idle.elim
  | executeSwap args => exact idle.elim
  | _ => rfl

end LedgerOf

/-! ## The trigger of a trade -/

/-- A swap with these arguments is what the message being handled asks for,
and the first one since it came. -/
def TriggeredBy
    (agent : ExecutorAgent Agent) (ledger : Ledger) (args : SwapArguments)
    (received : ReceivedMessage) : Prop :=
  ledger.current = some received ∧ ledger.swapsSince = 0 ∧
    received.message.messageType = .tradeDecision ∧
    ∃ decision, agent.readDecision received.message.payload = .ok decision ∧
      decision.action ≠ .hold ∧ args = agent.swapArguments decision

def TradeGuard (agent : ExecutorAgent Agent) (codec : Codec)
    (history : List (Event Agent)) : AgentCall → Prop
  | .executeSwap args =>
      ∃ received, TriggeredBy agent (ledgerOf codec history) args received
  | _ => True

section Executor

variable
  (config : AgentConfig) (wallet : String)
  (readDecision : Dict → Except Exception TradeDecisionPayload)

theorem tradeGuard_of_idle
    (agent : ExecutorAgent Agent) (codec : Codec)
    (history : List (Event Agent)) (request : AgentCall)
    (idle : Idle request) : TradeGuard agent codec history request := by
  cases request with
  | executeSwap args => exact idle.elim
  | _ => trivial

theorem idle_remember (writes : List MemoryWrite) :
    ((config.base .executor).remember writes).Uses Idle :=
  uses_remember config .executor (fun _ => trivial) writes

theorem idle_sendResult
    (success : Bool) (txHash error : Option String) :
    ((config.executor wallet readDecision).sendResult success txHash
      error).Uses Idle := by
  unfold ExecutorAgent.sendResult
  refine (Program.uses_ofExcept _).bind fun payload => ?_
  refine (Program.uses_ofExcept _).bind fun pubkey => ?_
  refine Program.Uses.bind ⟨trivial, fun _ => trivial⟩ fun stamp => ?_
  refine (Program.uses_ofExcept _).bind fun message => ?_
  exact (uses_sendToRole config (fun _ => trivial) .researcher).recover
    fun _ => trivial

/-- A program that neither polls nor trades passes the guard. -/
theorem satisfies_of_idle
    {α : Type} {program : Program Agent Exception α}
    {agent : ExecutorAgent Agent} {codec : Codec}
    (idle : program.Uses Idle) (history : List (Event Agent)) :
    program.Satisfies (TradeGuard agent codec) (fun _ _ => True) history :=
  idle.satisfies (tradeGuard_of_idle agent codec) fun _ _ _ => trivial

/-- In front of another one it leaves the ledger as it is. -/
theorem satisfies_idle_bind
    {α β : Type} {program : Program Agent Exception α}
    {agent : ExecutorAgent Agent} {codec : Codec}
    {next : α → Program Agent Exception β}
    {after : Except Exception β → List (Event Agent) → Prop}
    (idle : program.Uses Idle) {history : List (Event Agent)}
    (failed : ∀ exc reached, after (.error exc) reached)
    (rest : ∀ value reached,
      ledgerOf codec reached = ledgerOf codec history →
        (next value).Satisfies (TradeGuard agent codec) after reached) :
    (program.bind next).Satisfies (TradeGuard agent codec) after history :=
  idle.satisfies_summary_bind (tradeGuard_of_idle agent codec)
    (record_idle codec) failed rest

/-- Executing the decision of the message being handled trades as it says. -/
theorem satisfies_execute
    {decision : TradeDecisionPayload} {history : List (Event Agent)}
    (triggered : ∃ received,
      TriggeredBy (config.executor wallet readDecision)
        (ledgerOf config.codec history)
        ((config.executor wallet readDecision).swapArguments decision)
        received) :
    ((config.executor wallet readDecision).execute decision).Satisfies
      (TradeGuard (config.executor wallet readDecision) config.codec)
      (fun _ _ => True) history := by
  refine satisfies_idle_bind (idle_remember config _)
    (fun _ _ => trivial) ?_
  intro _ reached unchanged
  refine ⟨?_, fun answer => ?_⟩
  · rw [TradeGuard, unchanged]
    exact triggered
  · cases answer with
    | error exc => trivial
    | ok result =>
        refine satisfies_of_idle ?_ _
        exact (idle_remember config _).bind fun _ =>
          idle_sendResult config wallet readDecision _ _ _

theorem satisfies_onMessage
    {received : ReceivedMessage} {history : List (Event Agent)}
    (handling : (ledgerOf config.codec history).current = some received)
    (fresh : (ledgerOf config.codec history).swapsSince = 0) :
    ((config.executor wallet readDecision).onMessage received).Satisfies
      (TradeGuard (config.executor wallet readDecision) config.codec)
      (fun _ _ => True) history := by
  unfold ExecutorAgent.onMessage
  split
  · rename_i isDecision
    unfold ExecutorAgent.handleTradeDecision
    split
    · trivial
    · rename_i decision valid
      split
      · refine satisfies_of_idle ?_ _
        exact (idle_remember config _).bind fun _ =>
          idle_sendResult config wallet readDecision _ _ _
      · rename_i notHold
        apply satisfies_execute
        exact ⟨received, handling, fresh, isDecision, decision, valid,
          notHold, rfl⟩
  · trivial

theorem satisfies_route
    {received : ReceivedMessage} {history : List (Event Agent)}
    (handling : (ledgerOf config.codec history).current = some received)
    (fresh : (ledgerOf config.codec history).swapsSince = 0) :
    ((config.base .executor).route
        (config.executor wallet readDecision).onMessage received).Satisfies
      (TradeGuard (config.executor wallet readDecision) config.codec)
      (fun _ _ => True) history := by
  unfold BaseAgent.route
  split
  · refine satisfies_of_idle ?_ _
    exact uses_handlePing config .executor trivial trivial
      (fun _ _ => trivial) received
  · apply (Program.satisfies_recover _ _ _).mpr
    apply (satisfies_onMessage config wallet readDecision
      handling fresh).mono
    intro outcome reached _
    cases outcome <;> trivial

/-- Each poll brings a message of its own to trade on. -/
theorem satisfies_executorLoop (rounds : Nat) :
    (executorLoop (config.executor wallet readDecision) rounds).Satisfies
      (TradeGuard (config.executor wallet readDecision) config.codec)
      (fun _ _ => True) [] := by
  apply satisfies_dispatchLoop config .executor
  · intro history
    trivial
  · intro history
    trivial
  · intro history answer received read
    have ledger :
        ledgerOf config.codec
            (history ++ [⟨.getRecv, answer⟩] ++ [⟨.isRunning, true⟩]) =
          (ledgerOf config.codec history).polled (some received) := by
      have idle : Idle (.isRunning) := trivial
      rw [ledgerOf_snoc, record_idle _ _ _ idle, ledgerOf_polled,
        Ledger.messageOf, read]
    apply satisfies_route
    · rw [ledger]
      rfl
    · rw [ledger]
      rfl

/-- The sender that the envelope claims and the peer that delivered it make
no difference. -/
theorem onMessage_ignores_sender
    (agent : ExecutorAgent Agent) (received : ReceivedMessage)
    (senderRole : AgentRole) (senderPubkey fromPubkey : String) :
    agent.onMessage
        { message :=
            { received.message with
              senderRole := senderRole
              senderPubkey := senderPubkey }
          fromPubkey := fromPubkey } =
      agent.onMessage received := rfl

/-- In every run each trade answers the decision delivered last, whoever
delivered it. -/
theorem trades_answer_decisions
    (rounds : Nat) {σ : Type} (environment : Environment Agent σ)
    (state : σ) :
    Guarded
        (TradeGuard (config.executor wallet readDecision) config.codec)
        ((executorLoop (config.executor wallet readDecision)
          rounds).trace environment state) ∧
      ∀ (received : ReceivedMessage) (senderRole : AgentRole)
          (senderPubkey fromPubkey : String),
        (config.executor wallet readDecision).onMessage
            { message :=
                { received.message with
                  senderRole := senderRole
                  senderPubkey := senderPubkey }
              fromPubkey := fromPubkey } =
          (config.executor wallet readDecision).onMessage received := by
  constructor
  · exact ((satisfies_executorLoop config wallet readDecision
      rounds).trace environment state).2
  · exact onMessage_ignores_sender (config.executor wallet readDecision)

end Executor

/-! ## A stranger's decision -/

/-- The messages a run of the executor traded on. -/
def tradedOn {σ : Type}
    (config : AgentConfig) (wallet : String)
    (readDecision : Dict → Except Exception TradeDecisionPayload)
    (rounds : Nat) (environment : Environment Agent σ) (state : σ) :
    List (Option ReceivedMessage) :=
  (ledgerOf config.codec
    ((executorLoop (config.executor wallet readDecision) rounds).trace
      environment state)).executed

def executorKey : String :=
  "aaaaaaaaaaaaaaaaaaaaaaaaaaaaaaaaaaaaaaaaaaaaaaaaaaaaaaaaaaaaaaaa"

def riskKey : String :=
  "bbbbbbbbbbbbbbbbbbbbbbbbbbbbbbbbbbbbbbbbbbbbbbbbbbbbbbbbbbbbbbbb"

def researcherKey : String :=
  "dddddddddddddddddddddddddddddddddddddddddddddddddddddddddddddddd"

def strangerKey : String :=
  "cccccccccccccccccccccccccccccccccccccccccccccccccccccccccccccccc"

def purchase : TradeDecisionPayload where
  action := .buy
  tokenIn := "0x0000000000000000000000000000000000000000"
  tokenOut := "0x833589fCD6eDb6E08f4c7C32D4f71b54bdA02913"
  chainId := 8453
  amountInWei := 100000000000000000
  riskScore := .fin 3
  confidence := .fin 1
  rejectionReason := none
  amount_positive := by decide
  risk_in_range := approvedBuy.risk_in_range
  confidence_in_range := approvedBuy.confidence_in_range
  hold_needs_reason := approvedBuy.hold_needs_reason

def purchaseMessage : SwarmMessage where
  messageId := "7f8a1c1e-3d52-4d0e-9d5b-0a4b6f1c2e3d"
  messageType := .tradeDecision
  senderRole := .risk
  senderPubkey := riskKey
  timestamp := "2026-01-01T00:00:00Z"
  payload := purchase.modelDump

/-- The JSON of `purchaseMessage`. -/
def purchaseText : Bytes :=
  utf8 ["\x7b\"message_id\":\"7f8a1c1e-3d52-4d0e-9d5b-0a4b6f1c2e3d\",",
    "\"message_type\":\"trade_decision\",\"sender_role\":\"risk\",",
    "\"sender_pubkey\":\"", riskKey, "\",",
    "\"timestamp\":\"2026-01-01T00:00:00Z\",\"payload\":\x7b",
    "\"action\":\"buy\",",
    "\"token_in\":\"0x0000000000000000000000000000000000000000\",",
    "\"token_out\":\"0x833589fCD6eDb6E08f4c7C32D4f71b54bdA02913\",",
    "\"chain_id\":8453,\"amount_in_wei\":100000000000000000,",
    "\"risk_score\":3.0,\"confidence\":1.0,",
    "\"rejection_reason\":null\x7d\x7d"]

def swarmRegistry : AgentRegistry where
  bootstrapped := true
  publicKey := fun
    | .researcher => some researcherKey
    | .risk => some riskKey
    | .executor => some executorKey

/-- An executor without memory. -/
def lonelyExecutor : AgentConfig where
  ownPubkey := executorKey
  registry := swarmRegistry
  codec := .ofTexts [(purchaseText, purchaseMessage)]
  hasMemory := false

def httpOk {β : Type} (body : β) : Response β where
  statusCode := 200
  reasonPhrase := "OK"
  url := "http://127.0.0.1:9022"
  body := body

def confirmedSwap : SwapResult where
  status := .confirmed
  txHash := some "0xabc"
  tokenIn := purchase.tokenIn
  tokenOut := purchase.tokenOut
  chainId := 8453
  amountIn := "100000000000000000"

/-- A stranger's node delivers the purchase, and everything works. -/
def strangerDelivers : Environment Agent Unit :=
  fun _ request =>
    (match request with
      | .getRecv => .ok (httpOk ⟨purchaseText, strangerKey⟩)
      | .postSend _ _ => .ok (httpOk ())
      | .newStamp => ⟨"id-2", "2026-01-01T00:00:01Z"⟩
      | .latency => .fin 0
      | .isRunning => true
      | .write _ => .ok ()
      | .executeSwap _ => .ok confirmedSwap
      | .chat _ => .ok "", ())

/-- A message that claims to be the risk agent's is traded on, though another
peer delivered it. -/
theorem stranger_triggers_trade :
    ¬ ∀ (config : AgentConfig) (wallet : String)
        (readDecision : Dict → Except Exception TradeDecisionPayload)
        (rounds : Nat) (environment : Environment Agent Unit)
        (handled : Option ReceivedMessage),
      handled ∈ tradedOn config wallet readDecision rounds environment () →
        ∃ received, handled = some received ∧
          received.message.messageType = .tradeDecision ∧
          config.registry.pubkeyFor .risk = .ok received.fromPubkey := by
  intro always
  have senders :
      (tradedOn lonelyExecutor "0xaaaa" TradeDecisionPayload.readDump 1
          strangerDelivers ()).map
        (Option.map ReceivedMessage.fromPubkey) = [some strangerKey] := by
    decide +kernel
  obtain ⟨handled, member, sender⟩ :=
    List.mem_map.mp (senders ▸ List.mem_singleton_self (some strangerKey))
  obtain ⟨received, isReceived, _, sentByRisk⟩ :=
    always _ _ _ _ _ _ member
  rw [isReceived] at sender
  have fromStranger : received.fromPubkey = strangerKey := by
    simpa using sender
  rw [fromStranger] at sentByRisk
  have different :
      swarmRegistry.pubkeyFor .risk ≠ .ok strangerKey := by
    decide +kernel
  exact different sentByRisk

end SwarmFi.Agents

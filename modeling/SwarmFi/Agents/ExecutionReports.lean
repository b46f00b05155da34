import SwarmFi.Agents.Executor
import SwarmFi.Core.KeeperHub.Verdict

/-!
# The result of a decision

How often `_handle_trade_decision` sends an execution result, for every result
the swap executor can return and every pattern of memory writes that raise.
-/

namespace SwarmFi.Agents

open Foundation Python SwarmFi.Core Uniswap KeeperHub

/-! ## The handler and what it meets -/

inductive HandlerCall where
  | write (write : MemoryWrite)
  | executeSwap (args : SwapArguments)
  | send (destRole : AgentRole) (message : SwarmMessage)
  | newStamp

abbrev HandlerCall.Answer : HandlerCall → Type
  | .write _ => Except Exception Unit
  | .executeSwap _ => SwapResult
  | .send _ _ => Except Exception Unit
  | .newStamp => Stamp

abbrev Handler : Vocabulary where
  Call := HandlerCall
  Answer := HandlerCall.Answer

/-- What stays fixed while an executor agent runs. -/
structure ExecutorSettings where
  ownPubkey : String
  hasMemory : Bool
  wallet : String
  readDecision : Dict → Except Exception TradeDecisionPayload

/-- The executor agent over these calls; its handler neither polls nor
answers PINGs. -/
def ExecutorSettings.agent (settings : ExecutorSettings) :
    ExecutorAgent Handler where
  wallet := settings.wallet
  readDecision := settings.readDecision
  executeSwap := fun args => .call (HandlerCall.executeSwap args) .done
  base := {
    role := .executor
    ownPubkey := settings.ownPubkey
    hasMemory := settings.hasMemory
    recv := .done none
    clientSend := fun _ _ => .done ()
    send := fun destRole message =>
      Program.bind (.call (HandlerCall.send destRole message) .done)
        .ofExcept
    write := fun write =>
      Program.bind (.call (HandlerCall.write write) .done) .ofExcept
    newStamp := .call HandlerCall.newStamp .done
    latency := .done (.fin 0)
    isRunning := .done true }

namespace ExecutorSettings

variable (settings : ExecutorSettings)

theorem agent_newStamp :
    settings.agent.base.newStamp = .call HandlerCall.newStamp .done := rfl

theorem agent_send (destRole : AgentRole) (message : SwarmMessage) :
    settings.agent.base.send destRole message =
      Program.bind (.call (HandlerCall.send destRole message) .done)
        .ofExcept := rfl

theorem agent_write (write : MemoryWrite) :
    settings.agent.base.write write =
      Program.bind (.call (HandlerCall.write write) .done) .ofExcept := rfl

theorem agent_executeSwap (args : SwapArguments) :
    settings.agent.executeSwap args =
      .call (HandlerCall.executeSwap args) .done := rfl

end ExecutorSettings

/-- What the handling of one message meets: the swap executor with everything
its clients do, the outcome of each memory write, and of the send. -/
structure HandlerScript where
  executor : KeeperHubSwapExecutor
  swap : SwapScript
  writes : Nat → Except Exception Unit
  send : Except Exception Unit
  stamp : Stamp

structure HandlerState where
  writes : Nat
  sends : List (AgentRole × SwarmMessage)

def HandlerScript.environment (script : HandlerScript) :
    Environment Handler HandlerState
  | state, .write _ =>
      (script.writes state.writes, { state with writes := state.writes + 1 })
  | state, .executeSwap args =>
      (script.swap.result script.executor args, state)
  | state, .send destRole message =>
      (script.send,
        { state with sends := state.sends ++ [(destRole, message)] })
  | state, .newStamp => (script.stamp, state)

section Handling

variable (settings : ExecutorSettings) (script : HandlerScript)

/-- The sends that have been attempted when the handling ends. -/
def sendsFor (message : SwarmMessage) : List (AgentRole × SwarmMessage) :=
  ((settings.agent.handleTradeDecision message).run
    script.environment ⟨0, []⟩).2.sends

/-! ## Memory writes -/

/-- The next `count` writes do not raise. -/
def WritesPass (first count : Nat) : Prop :=
  ∀ index < count, script.writes (first + index) = .ok ()

theorem writesPass_succ_iff (first count : Nat) :
    WritesPass script first (count + 1) ↔
      script.writes first = .ok () ∧
        WritesPass script (first + 1) count := by
  constructor
  · intro pass
    refine ⟨pass 0 (Nat.succ_pos _), fun index below => ?_⟩
    rw [Nat.add_assoc, Nat.add_comm 1]
    exact pass (index + 1) (by omega)
  · rintro ⟨now, later⟩ index below
    cases index with
    | zero => exact now
    | succ index =>
        rw [Nat.add_comm index, ← Nat.add_assoc]
        exact later index (by omega)

theorem run_write (write : MemoryWrite) (state : HandlerState) :
    (settings.agent.base.write write).run script.environment state =
      (script.writes state.writes,
        { state with writes := state.writes + 1 }) := by
  rw [settings.agent_write]
  simp only [Program.run_bind, Program.run_call, Program.run_done,
    Program.run_ofExcept, HandlerScript.environment]

/-- Writes in a row pass when each of them does, and else raise; nothing is
sent. -/
theorem run_writes (writes : List MemoryWrite) (state : HandlerState) :
    (WritesPass script state.writes writes.length ∧
      (writes.forM settings.agent.base.write).run script.environment
          state =
        (.ok (), { state with writes := state.writes + writes.length })) ∨
    (¬ WritesPass script state.writes writes.length ∧
      ∃ exc count,
        (writes.forM settings.agent.base.write).run script.environment
            state =
          (.error exc, { state with writes := count })) := by
  induction writes generalizing state with
  | nil =>
      exact Or.inl ⟨fun index below => absurd below (Nat.not_lt_zero _),
        rfl⟩
  | cons write writes inductionHypothesis =>
      rw [List.length_cons, writesPass_succ_iff]
      simp only [List.forM, Program.bind_eq_bind]
      cases now : script.writes state.writes with
      | error exc =>
          refine Or.inr ⟨fun pass => (by cases pass.1), exc,
            state.writes + 1, ?_⟩
          have ran := run_write settings script write state
          rw [now] at ran
          rw [Program.run_bind_of_error _ ran]
      | ok value =>
          have ran := run_write settings script write state
          rw [now] at ran
          rw [Program.run_bind_of_ok _ ran]
          rcases inductionHypothesis
              { state with writes := state.writes + 1 } with
            ⟨pass, rest⟩ | ⟨blocked, exc, count, rest⟩
          · refine Or.inl ⟨⟨rfl, pass⟩, ?_⟩
            rw [rest]
            simp only [Nat.add_assoc, Nat.add_comm 1]
          · exact Or.inr ⟨fun pass => blocked pass.2, exc, count, rest⟩

/-- The writes made: none without memory. -/
def ExecutorSettings.writesMade (count : Nat) : Nat :=
  if settings.hasMemory then count else 0

theorem run_remember (writes : List MemoryWrite) (state : HandlerState) :
    (WritesPass script state.writes (settings.writesMade writes.length) ∧
      (settings.agent.base.remember writes).run script.environment state =
        (.ok (),
          { state with
            writes :=
              state.writes + settings.writesMade writes.length })) ∨
    (¬ WritesPass script state.writes
        (settings.writesMade writes.length) ∧
      ∃ exc count,
        (settings.agent.base.remember writes).run script.environment
            state =
          (.error exc, { state with writes := count })) := by
  unfold ExecutorSettings.writesMade BaseAgent.remember
  cases memory : settings.hasMemory with
  | false =>
      have forgetful : settings.agent.base.hasMemory = false := memory
      refine Or.inl ⟨fun index below => absurd below (Nat.not_lt_zero _), ?_⟩
      simp [forgetful]
  | true =>
      have present : settings.agent.base.hasMemory = true := memory
      simp only [present, if_true]
      exact run_writes settings script writes state

/-! ## Sending the result -/

/-- The message can be built around a payload with its detail. -/
def CanSend (success : Bool) (txHash error : Option String) : Prop :=
  HasDetail success txHash error ∧
    ∃ key, validPubkey settings.ownPubkey = .ok key

theorem hasDetail_selected_iff
    (success : Bool) (txHash error : Option String) :
    HasDetail success (if success then txHash else none)
        (if success then none else error) ↔
      HasDetail success txHash error := by
  cases success <;> simp [HasDetail]

/-- One execution result to the researcher. -/
def OneResult (sends : List (AgentRole × SwarmMessage)) : Prop :=
  ∃ message, sends = [(.researcher, message)] ∧
    message.messageType = .executionResult

/-- Sending the finished message, whatever comes of it. -/
theorem run_send (message : SwarmMessage) (state : HandlerState) :
    ((settings.agent.base.send .researcher message).recover fun _ =>
        (.done () : Program Handler Exception Unit)).run
          script.environment state =
      (.ok (),
        { state with
          sends := state.sends ++ [(.researcher, message)] }) := by
  rw [Program.run_recover, settings.agent_send]
  simp only [Program.run_bind, Program.run_call, Program.run_done,
    Program.run_ofExcept, HandlerScript.environment]
  cases script.send <;> rfl

/-- The one message that is sent, with the success it reports. -/
theorem sent_of_can
    {success : Bool} {txHash error : Option String}
    (can : CanSend settings success txHash error) (writes : Nat) :
    ∃ message,
      ((settings.agent.sendResult success txHash error).run
        script.environment ⟨writes, []⟩).2.sends =
          [(.researcher, message)] ∧
      message.messageType = .executionResult ∧
        message.payload.get? "success" = some (.bool success) := by
  obtain ⟨detail, key, valid⟩ := can
  obtain ⟨payload, made⟩ :=
    (ExecutionResultPayload.make_ok_iff _ _ _).mpr
      ((hasDetail_selected_iff success txHash error).mpr detail)
  have known : settings.agent.base.pubkey = .ok settings.ownPubkey :=
    settings.agent.base.pubkey_of_valid valid
  have reported : payload.success = success :=
    ExecutionResultPayload.success_of_make made
  simp only [ExecutorAgent.sendResult, made, known, settings.agent_newStamp,
    SwarmMessage.make_of_valid valid, Program.bind_eq_bind,
    Program.ofExcept_ok, Program.done_bind]
  rw [Program.run_bind]
  simp only [Program.run_call, Program.run_done,
    HandlerScript.environment, run_send]
  refine ⟨_, rfl, rfl, ?_⟩
  rw [← reported]
  rfl

theorem run_sendResult_of_can
    {success : Bool} {txHash error : Option String}
    (can : CanSend settings success txHash error) (writes : Nat) :
    OneResult
      ((settings.agent.sendResult success txHash error).run
        script.environment ⟨writes, []⟩).2.sends := by
  obtain ⟨message, sent, isResult, _⟩ :=
    sent_of_can settings script can writes
  exact ⟨message, sent, isResult⟩

theorem run_sendResult_of_cannot
    {success : Bool} {txHash error : Option String}
    (cannot : ¬ CanSend settings success txHash error) (writes : Nat) :
    ((settings.agent.sendResult success txHash error).run
      script.environment ⟨writes, []⟩).2.sends = [] := by
  cases made : ExecutionResultPayload.make success
      (if success then txHash else none)
      (if success then none else error) with
  | error exc =>
      simp only [ExecutorAgent.sendResult, made, Program.bind_eq_bind,
        Program.ofExcept_error, Program.raise_bind, Program.run_raise]
  | ok payload =>
      have detail :=
        (hasDetail_selected_iff success txHash error).mp
          ((ExecutionResultPayload.make_ok_iff _ _ _).mp ⟨payload, made⟩)
      cases known : settings.agent.base.pubkey with
      | error exc =>
          simp only [ExecutorAgent.sendResult, made, known,
            Program.bind_eq_bind, Program.ofExcept_ok, Program.done_bind,
            Program.ofExcept_error, Program.raise_bind, Program.run_raise]
      | ok pubkey =>
          have own : pubkey = settings.ownPubkey :=
            settings.agent.base.eq_of_pubkey known
          cases checked : validPubkey settings.ownPubkey with
          | ok key => exact absurd ⟨detail, key, checked⟩ cannot
          | error exc =>
              simp only [ExecutorAgent.sendResult, made, known, own,
                settings.agent_newStamp,
                SwarmMessage.make_of_invalid checked,
                Program.bind_eq_bind, Program.ofExcept_ok,
                Program.done_bind, Program.ofExcept_error,
                Program.raise_bind]
              rw [Program.run_bind]
              simp only [Program.run_call, Program.run_done,
                Program.run_raise, HandlerScript.environment]

theorem not_oneResult_nil : ¬ OneResult [] := by
  rintro ⟨message, absent, _⟩
  cases absent

theorem oneResult_sendResult_iff
    (success : Bool) (txHash error : Option String) (writes : Nat) :
    OneResult
        ((settings.agent.sendResult success txHash error).run
          script.environment ⟨writes, []⟩).2.sends ↔
      CanSend settings success txHash error := by
  by_cases can : CanSend settings success txHash error
  · exact iff_of_true
      (run_sendResult_of_can settings script can writes) can
  · rw [run_sendResult_of_cannot settings script can writes]
    exact iff_of_false not_oneResult_nil can

/-! ## Both branches of the handler -/

/-- After writes that pass the rest decides; writes that raise end it with
nothing sent. -/
theorem oneResult_after_remember_iff
    (writes : List MemoryWrite) (first : Nat)
    (next : Unit → Program Handler Exception Unit) :
    OneResult
        (((settings.agent.base.remember writes).bind next).run
          script.environment ⟨first, []⟩).2.sends ↔
      WritesPass script first (settings.writesMade writes.length) ∧
        OneResult
          ((next ()).run script.environment
            ⟨first + settings.writesMade writes.length, []⟩).2.sends := by
  rcases run_remember settings script writes ⟨first, []⟩ with
    ⟨passes, ran⟩ | ⟨blocked, exc, count, ran⟩
  · rw [Program.run_bind_of_ok _ ran]
    exact ⟨fun one => ⟨passes, one⟩, And.right⟩
  · rw [Program.run_bind_of_error _ ran]
    exact iff_of_false not_oneResult_nil fun both => blocked both.1

theorem writesPass_add_iff (first left right : Nat) :
    WritesPass script first (left + right) ↔
      WritesPass script first left ∧
        WritesPass script (first + left) right := by
  constructor
  · intro pass
    refine ⟨fun index below => pass index (by omega),
      fun index below => ?_⟩
    rw [Nat.add_assoc]
    exact pass (left + index) (by omega)
  · rintro ⟨atFirst, afterwards⟩ index below
    by_cases early : index < left
    · exact atFirst index early
    · have late := afterwards (index - left) (by omega)
      rwa [Nat.add_assoc, Nat.add_sub_cancel' (by omega)] at late

theorem writesMade_add (left right : Nat) :
    settings.writesMade (left + right) =
      settings.writesMade left + settings.writesMade right := by
  unfold ExecutorSettings.writesMade
  split <;> rfl

theorem length_resultWrites (result : SwapResult) :
    (ExecutorAgent.resultWrites result).length = 2 := by
  unfold ExecutorAgent.resultWrites
  split <;> rfl

/-- A reason makes the text of a HOLD a detail. -/
theorem hasDetail_hold (decision : TradeDecisionPayload) :
    HasDetail false none (some (ExecutorAgent.holdText decision)) := by
  refine ⟨fun absent => (by cases absent), fun _ => ?_⟩
  have nonempty : ExecutorAgent.holdText decision ≠ "" := by
    intro empty
    have long := congrArg String.length empty
    rw [ExecutorAgent.holdText, String.length_append] at long
    have startLength : ("HOLD: ".length : Nat) = 6 := by decide
    rw [startLength] at long
    simp at long
  simpa using nonempty

theorem oneResult_hold_iff (decision : TradeDecisionPayload) :
    OneResult
        ((settings.agent.hold decision).run script.environment
          ⟨0, []⟩).2.sends ↔
      WritesPass script 0 (settings.writesMade 2) ∧
        ∃ key, validPubkey settings.ownPubkey = .ok key := by
  simp only [ExecutorAgent.hold, Program.bind_eq_bind]
  rw [oneResult_after_remember_iff, oneResult_sendResult_iff, CanSend,
    and_iff_right (hasDetail_hold decision)]
  rfl

/-- What `execute_swap` returns for this decision. -/
def swapResultFor (decision : TradeDecisionPayload) : SwapResult :=
  script.swap.result script.executor
    (settings.agent.swapArguments decision)

theorem oneResult_execute_iff (decision : TradeDecisionPayload) :
    OneResult
        ((settings.agent.execute decision).run script.environment
          ⟨0, []⟩).2.sends ↔
      WritesPass script 0 (settings.writesMade 3) ∧
        CanSend settings
          (ExecutorAgent.isSuccess (swapResultFor settings script decision))
          (swapResultFor settings script decision).txHash
          (swapResultFor settings script decision).error := by
  simp only [ExecutorAgent.execute, Program.bind_eq_bind,
    settings.agent_executeSwap]
  rw [oneResult_after_remember_iff, Program.run_bind]
  simp only [Program.run_call, Program.run_done, HandlerScript.environment]
  rw [oneResult_after_remember_iff, oneResult_sendResult_iff,
    length_resultWrites, ← and_assoc, Nat.zero_add, List.length_singleton,
    show 3 = 1 + 2 from rfl, writesMade_add, writesPass_add_iff,
    Nat.zero_add]
  rfl

end Handling

/-! ## Exactly one result -/

/-- A message with a valid decision leads to exactly one attempt to send an
execution result, and that to the researcher. -/
def ExactlyOneResult
    (settings : ExecutorSettings) (script : HandlerScript)
    (message : SwarmMessage) : Prop :=
  ∀ decision, settings.readDecision message.payload = .ok decision →
    OneResult (sendsFor settings script message)

/-- No write on the way raises, the own key is valid, and the result of a
swap has the detail that goes with its status. -/
structure CanReport
    (settings : ExecutorSettings) (script : HandlerScript)
    (decision : TradeDecisionPayload) : Prop where
  writes : settings.hasMemory = true →
    ∀ index < (if decision.action = .hold then 2 else 3),
      script.writes index = .ok ()
  key : ∃ key, validPubkey settings.ownPubkey = .ok key
  detail : decision.action ≠ .hold →
    HasDetail
      (ExecutorAgent.isSuccess (swapResultFor settings script decision))
      (swapResultFor settings script decision).txHash
      (swapResultFor settings script decision).error

theorem writesPass_writesMade_iff
    (settings : ExecutorSettings) (script : HandlerScript) (count : Nat) :
    WritesPass script 0 (settings.writesMade count) ↔
      (settings.hasMemory = true →
        ∀ index < count, script.writes index = .ok ()) := by
  unfold WritesPass ExecutorSettings.writesMade
  cases settings.hasMemory <;> simp

theorem oneResult_sendsFor_iff
    (settings : ExecutorSettings) (script : HandlerScript)
    {message : SwarmMessage} {decision : TradeDecisionPayload}
    (read : settings.readDecision message.payload = .ok decision) :
    OneResult (sendsFor settings script message) ↔
      CanReport settings script decision := by
  have readHere :
      settings.agent.readDecision message.payload = .ok decision := read
  unfold sendsFor ExecutorAgent.handleTradeDecision
  rw [readHere]
  simp only
  by_cases held : decision.action = .hold
  · rw [if_pos held, oneResult_hold_iff, writesPass_writesMade_iff]
    constructor
    · rintro ⟨writes, key⟩
      exact ⟨by rw [if_pos held]; exact writes, key,
        fun notHeld => absurd held notHeld⟩
    · intro can
      have writes := can.writes
      rw [if_pos held] at writes
      exact ⟨writes, can.key⟩
  · rw [if_neg held, oneResult_execute_iff, writesPass_writesMade_iff]
    constructor
    · rintro ⟨writes, detail, key⟩
      exact ⟨by rw [if_neg held]; exact writes, key, fun _ => detail⟩
    · intro can
      have writes := can.writes
      rw [if_neg held] at writes
      exact ⟨writes, can.detail held, can.key⟩

/-- Exactly one result is sent exactly when it can be reported. -/
theorem exactlyOneResult_iff
    (settings : ExecutorSettings) (script : HandlerScript)
    (message : SwarmMessage) :
    ExactlyOneResult settings script message ↔
      ∀ decision, settings.readDecision message.payload = .ok decision →
        CanReport settings script decision := by
  refine forall_congr' fun decision => forall_congr' fun read => ?_
  exact oneResult_sendsFor_iff settings script read

/-- A transfer that is accepted and stays running through every poll. -/
def neverSettles : SwapScript where
  quote := .ok { routing := .classic, amountOut := some "1950000000" }
  transfer := .ok { executionId := "direct_1", status := .pending }
  polls := fun _ => .ok { status := .running }
  logs := .ok (.arr [])
  audit := .ok ()

/-- No write and no send raises. -/
def calmHandling : HandlerScript where
  executor := walletOnly
  swap := neverSettles
  writes := fun _ => .ok ()
  send := .ok ()
  stamp := { messageId := "id-2", timestamp := "2026-01-01T00:00:01Z" }

def startedExecutor : ExecutorSettings where
  ownPubkey :=
    "aaaaaaaaaaaaaaaaaaaaaaaaaaaaaaaaaaaaaaaaaaaaaaaaaaaaaaaaaaaaaaaa"
  hasMemory := false
  wallet := "0xaaaa"
  readDecision := TradeDecisionPayload.readDump

/-- An approved purchase. -/
def approvedBuy : TradeDecisionPayload where
  action := .buy
  tokenIn := "0x0000000000000000000000000000000000000000"
  tokenOut := "0x833589fCD6eDb6E08f4c7C32D4f71b54bdA02913"
  chainId := 8453
  amountInWei := 1000000000000000000
  riskScore := .fin 3
  confidence := .fin 1
  rejectionReason := none
  amount_positive := by decide
  risk_in_range := by decide +kernel
  confidence_in_range := by decide +kernel
  hold_needs_reason := fun held => by cases held

def decisionMessage (decision : TradeDecisionPayload) : SwarmMessage where
  messageId := "id-1"
  messageType := .tradeDecision
  senderRole := .risk
  senderPubkey :=
    "bbbbbbbbbbbbbbbbbbbbbbbbbbbbbbbbbbbbbbbbbbbbbbbbbbbbbbbbbbbbbbbb"
  timestamp := "2026-01-01T00:00:00Z"
  payload := decision.modelDump

/-- The result of a trade that was executed but shows no hash yet is never
sent. -/
theorem executed_trade_not_reported :
    ¬ ∀ settings script message,
      ExactlyOneResult settings script message := by
  intro always
  have silent :
      (sendsFor startedExecutor calmHandling
        (decisionMessage approvedBuy)).length = 0 := by
    decide +kernel
  obtain ⟨message, sent, _⟩ :=
    always startedExecutor calmHandling (decisionMessage approvedBuy)
      approvedBuy (TradeDecisionPayload.readDump_modelDump approvedBuy)
  rw [sent] at silent
  cases silent

end SwarmFi.Agents

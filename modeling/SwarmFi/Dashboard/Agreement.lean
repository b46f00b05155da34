import SwarmFi.Agents.ExecutionReports
import SwarmFi.Core.KeeperHub.Settlement
import SwarmFi.Dashboard.StateFile

/-!
# Two accounts of one swap

The executor agent and the trade cycle of the dashboard each tell the
executor's memory what became of a swap, and the agent reports it to the
researcher.  When the log, the report and the other log agree.
-/

namespace SwarmFi.Dashboard.Agreement

open Foundation Python SwarmFi.Core Uniswap KeeperHub Agents

/-! ## What is told to a memory -/

def statusOf : MemoryWrite → Option AgentStatus
  | .updateStatus status _ => some status
  | .logEvent _ _ => none

def typeOf : MemoryWrite → Option LogEventType
  | .updateStatus _ _ => none
  | .logEvent eventType _ => some eventType

def lastStatus (told : List MemoryWrite) : Option AgentStatus :=
  (told.filterMap statusOf).getLast?

def loggedTypes (told : List MemoryWrite) : List LogEventType :=
  told.filterMap typeOf

/-- What a run has told the executor's memory, the last swap it has made, and
whether a write to that memory raised. -/
structure Ledger where
  told : List MemoryWrite
  swap : Option (Except Exception SwapResult)
  failed : Bool

namespace Ledger

def blank : Ledger where
  told := []
  swap := none
  failed := false

def write (ledger : Ledger) (memoryWrite : MemoryWrite)
    (answer : Except Exception Unit) : Ledger :=
  { ledger with
    told := ledger.told ++ [memoryWrite]
    failed := ledger.failed || !answer.isOk }

def recordHandling (ledger : Ledger) : Event Handler → Ledger
  | ⟨.write memoryWrite, answer⟩ => ledger.write memoryWrite answer
  | ⟨.executeSwap _, result⟩ => { ledger with swap := some (.ok result) }
  | _ => ledger

def recordCycle (ledger : Ledger) : Event CycleVocabulary → Ledger
  | ⟨.write .executor memoryWrite, answer⟩ =>
      ledger.write memoryWrite answer
  | ⟨.executeSwap _, answer⟩ => { ledger with swap := some answer }
  | _ => ledger

end Ledger

/-- The ledger of one handling of a decision. -/
def handlingLedger (settings : ExecutorSettings) (script : HandlerScript)
    (message : SwarmMessage) : Ledger :=
  summary Ledger.recordHandling .blank
    ((settings.agent.handleTradeDecision message).trace
      script.environment ⟨0, []⟩)

/-- The ledger of one trade cycle. -/
def cycleLedger {σ : Type} (environment : Environment CycleVocabulary σ)
    (state : σ) (wallet : String) (signal : Dict) : Ledger :=
  summary Ledger.recordCycle .blank
    ((Cycle.runTradeCycle wallet signal).trace environment state)

/-- The researcher is sent a result that says success. -/
def ReportsSuccess (sends : List (AgentRole × SwarmMessage)) : Prop :=
  ∃ message, (AgentRole.researcher, message) ∈ sends ∧
    message.messageType = .executionResult ∧
      message.payload.get? "success" = some (.bool true)

/-- The agent logs an execution exactly when it reports one, and the cycle
logs the same and leaves the same status. -/
structure Agrees (agent cycle : Ledger)
    (sends : List (AgentRole × SwarmMessage)) : Prop where
  report : LogEventType.tradeExecuted ∈ loggedTypes agent.told ↔
    ReportsSuccess sends
  log : loggedTypes cycle.told = loggedTypes agent.told
  status : lastStatus cycle.told = lastStatus agent.told

/-! ## The handling of a decision -/

section Handling

variable {settings : ExecutorSettings} {script : HandlerScript}

/-- The agent has a memory and no write to it raises. -/
structure MemoryWritesSucceed (settings : ExecutorSettings)
    (script : HandlerScript) : Prop where
  hasMemory : settings.hasMemory = true
  writes : ∀ index, script.writes index = .ok ()

def writeEvent (memoryWrite : MemoryWrite) : Event Handler :=
  ⟨.write memoryWrite, .ok ()⟩

theorem run_remember_ok (succeed : MemoryWritesSucceed settings script)
    (writes : List MemoryWrite) (state : HandlerState) :
    (settings.agent.base.remember writes).run script.environment state =
      (.ok (),
        { state with
          writes := state.writes + settings.writesMade writes.length }) := by
  rcases run_remember settings script writes state with
    ⟨_, ran⟩ | ⟨blocked, _⟩
  · exact ran
  · exact absurd (fun index _ => succeed.writes _) blocked

theorem trace_writes (succeed : MemoryWritesSucceed settings script)
    (writes : List MemoryWrite) (state : HandlerState) :
    (writes.forM settings.agent.base.write).trace script.environment
      state = writes.map writeEvent := by
  induction writes generalizing state with
  | nil => rfl
  | cons memoryWrite writes inductionHypothesis =>
      have ran := run_write settings script memoryWrite state
      rw [succeed.writes] at ran
      have first : (settings.agent.base.write memoryWrite).trace
          script.environment state = [writeEvent memoryWrite] := by
        have called : settings.agent.base.write memoryWrite =
            .call (HandlerCall.write memoryWrite) .ofExcept := rfl
        rw [called, Program.trace_call]
        simp only [HandlerScript.environment, succeed.writes]
        rfl
      simp only [List.forM, Program.bind_eq_bind]
      rw [Program.trace_bind_of_ok _ ran, first, inductionHypothesis]
      rfl

theorem trace_remember (succeed : MemoryWritesSucceed settings script)
    (writes : List MemoryWrite) (state : HandlerState) :
    (settings.agent.base.remember writes).trace script.environment state =
      writes.map writeEvent := by
  have remembers : settings.agent.base.hasMemory = true := succeed.hasMemory
  rw [BaseAgent.remember, if_pos remembers]
  exact trace_writes succeed writes state

/-- A call that is neither a write nor a swap. -/
def Sending : HandlerCall → Prop
  | .send _ _ => True
  | .newStamp => True
  | _ => False

theorem uses_sendResult (success : Bool) (txHash error : Option String) :
    (settings.agent.sendResult success txHash error).Uses Sending := by
  unfold ExecutorAgent.sendResult
  apply (Program.uses_ofExcept _).bind
  intro payload
  apply (Program.uses_ofExcept _).bind
  intro pubkey
  have stamped : settings.agent.base.newStamp.Uses Sending :=
    ⟨trivial, fun _ => trivial⟩
  apply stamped.bind
  intro stamp
  apply (Program.uses_ofExcept _).bind
  intro message
  apply Program.Uses.recover
  · exact ⟨trivial, fun answer => Program.uses_ofExcept answer⟩
  · exact fun _ => trivial

theorem recordHandling_of_sending (ledger : Ledger) (event : Event Handler)
    (sending : Sending event.call) : ledger.recordHandling event = ledger := by
  obtain ⟨request, answer⟩ := event
  cases request with
  | send destRole message => rfl
  | newStamp => rfl
  | _ => exact sending.elim

theorem summary_writes (writes : List MemoryWrite) (ledger : Ledger) :
    summary Ledger.recordHandling ledger (writes.map writeEvent) =
      { ledger with told := ledger.told ++ writes } := by
  induction writes generalizing ledger with
  | nil => simp [summary]
  | cons memoryWrite writes inductionHypothesis =>
      have first : ledger.recordHandling (writeEvent memoryWrite) =
          { ledger with told := ledger.told ++ [memoryWrite] } := by
        simp [writeEvent, Ledger.recordHandling, Ledger.write,
          Except.isOk, Except.toBool]
      have later := inductionHypothesis
        { ledger with told := ledger.told ++ [memoryWrite] }
      rw [List.map_cons, summary, List.foldl_cons, first,
        List.append_cons ledger.told memoryWrite writes]
      exact later

/-- What the handling of an executed decision has told the memory. -/
theorem told_execute (succeed : MemoryWritesSucceed settings script)
    (decision : TradeDecisionPayload) :
    (summary Ledger.recordHandling .blank
      ((settings.agent.execute decision).trace script.environment
        ⟨0, []⟩)).told =
      .updateStatus .executing [] ::
        ExecutorAgent.resultWrites
          (swapResultFor settings script decision) := by
  have swapped (state : HandlerState) :
      (settings.agent.executeSwap
        (settings.agent.swapArguments decision)).run script.environment
          state = (.ok (swapResultFor settings script decision), state) := rfl
  have swapTrace (state : HandlerState) :
      (settings.agent.executeSwap
        (settings.agent.swapArguments decision)).trace script.environment
          state = [⟨.executeSwap (settings.agent.swapArguments decision),
            swapResultFor settings script decision⟩] := rfl
  simp only [ExecutorAgent.execute, Program.bind_eq_bind]
  rw [Program.trace_bind_of_ok _ (run_remember_ok succeed _ _),
    Program.trace_bind_of_ok _ (swapped _),
    Program.trace_bind_of_ok _ (run_remember_ok succeed _ _),
    trace_remember succeed, trace_remember succeed, swapTrace,
    ← List.append_assoc, ← List.append_assoc]
  rw [summary_append Ledger.recordHandling .blank recordHandling_of_sending
    _ _ (Program.Uses.trace (uses_sendResult _ _ _) _ _)]
  rw [summary_concat, summary_concat, summary_writes, summary_writes]
  rfl

/-! ### The report -/

theorem reportsSuccess_sendResult_iff
    (success : Bool) (txHash error : Option String) (writes : Nat) :
    ReportsSuccess
        ((settings.agent.sendResult success txHash error).run
          script.environment ⟨writes, []⟩).2.sends ↔
      success = true ∧ CanSend settings success txHash error := by
  by_cases can : CanSend settings success txHash error
  · obtain ⟨message, sent, isResult, outcome⟩ :=
      sent_of_can settings script can writes
    rw [sent, and_iff_left can]
    constructor
    · intro reported
      obtain ⟨other, member, _, success⟩ := reported
      have same : other = message := by simpa using member
      rw [same, outcome] at success
      simpa using success
    · intro isSuccess
      rw [isSuccess] at outcome
      exact ⟨message, List.mem_singleton_self _, isResult, outcome⟩
  · rw [run_sendResult_of_cannot settings script can writes]
    apply iff_of_false
    · intro reported
      obtain ⟨message, member, _⟩ := reported
      cases member
    · intro both
      exact can both.2

theorem sends_execute (succeed : MemoryWritesSucceed settings script)
    (decision : TradeDecisionPayload) :
    ∃ writes,
      ((settings.agent.execute decision).run script.environment
        ⟨0, []⟩).2.sends =
      ((settings.agent.sendResult
        (ExecutorAgent.isSuccess (swapResultFor settings script decision))
        (swapResultFor settings script decision).txHash
        (swapResultFor settings script decision).error).run
          script.environment ⟨writes, []⟩).2.sends := by
  have swapped (state : HandlerState) :
      (settings.agent.executeSwap
        (settings.agent.swapArguments decision)).run script.environment
          state = (.ok (swapResultFor settings script decision), state) := rfl
  simp only [ExecutorAgent.execute, Program.bind_eq_bind]
  rw [Program.run_bind_of_ok _ (run_remember_ok succeed _ _),
    Program.run_bind_of_ok _ (swapped _),
    Program.run_bind_of_ok _ (run_remember_ok succeed _ _)]
  exact ⟨_, rfl⟩

/-- Success is reported of a result that is CONFIRMED or SUBMITTED, shows a
hash, and comes from an agent whose key is valid. -/
theorem reportsSuccess_execute_iff
    (succeed : MemoryWritesSucceed settings script)
    (decision : TradeDecisionPayload) :
    ReportsSuccess
        ((settings.agent.execute decision).run script.environment
          ⟨0, []⟩).2.sends ↔
      ((swapResultFor settings script decision).status = .confirmed ∨
        (swapResultFor settings script decision).status = .submitted) ∧
      truthy (swapResultFor settings script decision).txHash = true ∧
        ∃ key, validPubkey settings.ownPubkey = .ok key := by
  obtain ⟨writes, sent⟩ := sends_execute succeed decision
  rw [sent, reportsSuccess_sendResult_iff]
  have isSuccess :
      ExecutorAgent.isSuccess (swapResultFor settings script decision) =
        true ↔
      ((swapResultFor settings script decision).status = .confirmed ∨
        (swapResultFor settings script decision).status = .submitted) := by
    simp [ExecutorAgent.isSuccess]
  rw [← isSuccess]
  apply and_congr_right
  intro success
  rw [success]
  simp [CanSend, HasDetail]

end Handling

/-! ## The trade cycle -/

section Cycle

/-- The call is neither a swap nor a write to the executor's memory. -/
def Aside : CycleCall → Prop
  | .write role _ => role ≠ .executor
  | .executeSwap _ => False
  | _ => True

theorem recordCycle_of_aside (ledger : Ledger)
    (event : Event CycleVocabulary) (aside : Aside event.call) :
    ledger.recordCycle event = ledger := by
  obtain ⟨request, answer⟩ := event
  cases request with
  | write role memoryWrite =>
      cases role with
      | executor => exact absurd rfl aside
      | _ => rfl
  | executeSwap request => exact aside.elim
  | _ => rfl

theorem aside_of_reports {roles : AgentRole → Prop}
    (notExecutor : ¬ roles .executor) (request : CycleCall)
    (reports : Cycle.Reports roles request) : Aside request := by
  cases request with
  | write role memoryWrite =>
      intro isExecutor
      rw [isExecutor] at reports
      exact notExecutor reports
  | executeSwap request => exact reports.elim
  | _ => trivial

/-- What the cycle tells the memory of a result. -/
def cycleWrites (result : SwapResult) : List MemoryWrite :=
  if result.succeeded || result.status.value == "submitted" then
    [.updateStatus .idle [("last_tx_hash", optionalStr result.txHash)],
      .logEvent .tradeExecuted result.toLogData]
  else
    [.updateStatus .error [("error_message", optionalStr result.error)],
      .logEvent .tradeFailed result.toLogData]

def ledgerOf (history : List (Event CycleVocabulary)) : Ledger :=
  summary Ledger.recordCycle .blank history

/-- Once a swap has returned and no write raised, the memory has been told
that it was executing and then what the cycle makes of the result. -/
def Settled (ledger : Ledger) : Prop :=
  ∀ result, ledger.swap = some (.ok result) → ledger.failed = false →
    ledger.told = .updateStatus .executing [] :: cycleWrites result

theorem settled_of_failed {ledger : Ledger} (failed : ledger.failed = true) :
    Settled ledger := by
  intro result _ calm
  rw [failed] at calm
  cases calm

theorem settled_of_unswapped {ledger : Ledger}
    (unswapped : ledger.swap = none) : Settled ledger := by
  intro result swapped
  rw [unswapped] at swapped
  cases swapped

abbrev Settles {ε α : Type} (program : Program CycleVocabulary ε α)
    (history : List (Event CycleVocabulary)) : Prop :=
  program.Satisfies (fun _ _ => True)
    (fun _ reached => Settled (ledgerOf reached)) history

theorem settles_of_aside {ε α : Type}
    {program : Program CycleVocabulary ε α} (uses : program.Uses Aside)
    {history : List (Event CycleVocabulary)}
    (settled : Settled (ledgerOf history)) : Settles program history := by
  apply uses.satisfies (fun _ _ _ => trivial)
  intro outcome later quiet
  have same : ledgerOf (history ++ later) = ledgerOf history :=
    summary_append _ _ recordCycle_of_aside _ _ quiet
  rw [same]
  exact settled

theorem settles_bind_of_aside {ε α β : Type}
    {program : Program CycleVocabulary ε α} (uses : program.Uses Aside)
    {next : α → Program CycleVocabulary ε β}
    {history : List (Event CycleVocabulary)}
    (settled : Settled (ledgerOf history))
    (rest : ∀ value reached, ledgerOf reached = ledgerOf history →
      Settles (next value) reached) :
    Settles (program.bind next) history := by
  apply (Program.satisfies_bind _ _ _).mpr
  apply uses.satisfies (fun _ _ _ => trivial)
  intro outcome later quiet
  have same : ledgerOf (history ++ later) = ledgerOf history :=
    summary_append _ _ recordCycle_of_aside _ _ quiet
  cases outcome with
  | ok value => exact rest value _ same
  | error error =>
      show Settled (ledgerOf (history ++ later))
      rw [same]
      exact settled

/-- What is left to do after a program that settles stands aside. -/
theorem settles_then_aside {ε α β : Type}
    {program : Program CycleVocabulary ε α}
    {next : α → Program CycleVocabulary ε β}
    {history : List (Event CycleVocabulary)}
    (settles : Settles program history)
    (uses : ∀ value, (next value).Uses Aside) :
    Settles (program.bind next) history := by
  apply (Program.satisfies_bind _ _ _).mpr
  apply settles.mono
  intro outcome reached settled
  cases outcome with
  | ok value => exact settles_of_aside (uses value) settled
  | error error => exact settled

/-- A write to the executor's memory, and what is done when it passes. -/
theorem settles_write_bind {β : Type} (memoryWrite : MemoryWrite)
    {next : Unit → Cycle.Steps β}
    {history : List (Event CycleVocabulary)}
    (rest : ∀ reached, ledgerOf reached =
        { ledgerOf history with
          told := (ledgerOf history).told ++ [memoryWrite] } →
      Settles (next ()) reached) :
    Settles ((Cycle.write .executor memoryWrite).bind next) history := by
  apply (Program.satisfies_bind _ _ _).mpr
  constructor
  · trivial
  · intro answer
    have written : ledgerOf (history ++ [⟨.write .executor memoryWrite,
        answer⟩]) = (ledgerOf history).write memoryWrite answer :=
      summary_snoc _ _ _ _
    cases answer with
    | error exc =>
        apply settled_of_failed
        rw [written]
        exact Bool.or_true _
    | ok value =>
        apply rest
        rw [written, Ledger.write]
        simp [Except.isOk, Except.toBool]

theorem settles_recordResult (view : Dict) {result : SwapResult}
    {history : List (Event CycleVocabulary)}
    (told : (ledgerOf history).told = [.updateStatus .executing []])
    (swapped : (ledgerOf history).swap = some (.ok result)) :
    Settles (Cycle.recordResult view result) history := by
  have done (reached : List (Event CycleVocabulary))
      (first second : MemoryWrite)
      (writes : cycleWrites result = [first, second])
      (later : ledgerOf reached =
        { ledgerOf history with
          told := (ledgerOf history).told ++ [first] ++ [second] }) :
      Settled (ledgerOf reached) := by
    intro other isResult _
    rw [later] at isResult
    rw [later, told]
    have same : some (Except.ok (ε := Exception) result) =
        some (.ok other) := swapped.symm.trans isResult
    cases same
    rw [writes]
    rfl
  unfold Cycle.recordResult
  by_cases executed :
      (result.succeeded || result.status.value == "submitted") = true
  · rw [if_pos executed]
    apply settles_write_bind
    intro first firstLedger
    apply settles_write_bind
    intro second secondLedger
    rw [firstLedger] at secondLedger
    exact done second _ _ (by rw [cycleWrites, if_pos executed])
      secondLedger
  · rw [if_neg executed]
    apply settles_write_bind
    intro first firstLedger
    apply settles_write_bind
    intro second secondLedger
    rw [firstLedger] at secondLedger
    exact done second _ _ (by rw [cycleWrites, if_neg executed])
      secondLedger

theorem settles_executing (wallet : String) (signal view payload : Dict)
    {history : List (Event CycleVocabulary)}
    (fresh : ledgerOf history = .blank) :
    Settles (Cycle.executing wallet signal view payload) history := by
  have silent : ∀ request, Cycle.Reports (fun _ => False) request →
      Aside request := aside_of_reports id
  apply settles_bind_of_aside (Cycle.uses_publishPartial silent _ _)
  · rw [fresh]
    exact settled_of_unswapped rfl
  intro _ published afterPublish
  rw [fresh] at afterPublish
  apply settles_write_bind
  intro written afterWrite
  rw [afterPublish] at afterWrite
  apply (Program.satisfies_bind _ _ _).mpr
  constructor
  · trivial
  intro answer
  have swapped : ledgerOf (written ++ [⟨.executeSwap _, answer⟩]) =
      { ledgerOf written with swap := some answer } :=
    summary_snoc _ _ _ _
  rw [afterWrite] at swapped
  cases answer with
  | error exc =>
      intro result isResult
      rw [swapped] at isResult
      cases isResult
  | ok result =>
      apply settles_then_aside
      · apply settles_recordResult view
        · rw [swapped]
          rfl
        · rw [swapped]
      · intro recorded
        apply (Cycle.uses_recordSettlement silent result).bind
        intro _
        exact (Cycle.uses_announce silent _ _).bind fun _ => trivial

theorem settles_acting (wallet : String) (signal view payload : Dict)
    {history : List (Event CycleVocabulary)}
    (fresh : ledgerOf history = .blank) :
    Settles (Cycle.acting wallet signal view payload) history := by
  unfold Cycle.acting
  split
  · apply settles_write_bind
    intro reached written
    rw [fresh] at written
    apply settled_of_unswapped
    rw [written]
    rfl
  · exact settles_executing wallet signal view payload fresh

theorem settles_insideClients (wallet : String) (signal view : Dict)
    {history : List (Event CycleVocabulary)}
    (fresh : ledgerOf history = .blank) :
    Settles (Cycle.insideClients wallet signal view) history := by
  have unswapped : Settled .blank := settled_of_unswapped rfl
  have scans : (Cycle.scanning signal).Uses Aside :=
    Cycle.uses_scanning (aside_of_reports (by decide)) signal
  have decides : (Cycle.deciding signal).Uses Aside :=
    Cycle.uses_deciding (aside_of_reports (by decide)) (fun _ => trivial)
      trivial signal
  apply settles_bind_of_aside scans (by rwa [fresh])
  intro _ scanned afterScan
  rw [fresh] at afterScan
  apply settles_bind_of_aside decides (by rwa [afterScan])
  intro payload decided afterDecision
  rw [afterScan] at afterDecision
  apply settles_then_aside
  · exact settles_acting wallet signal _ payload afterDecision
  · intro acted
    have commits : (Cycle.committing signal acted).Uses Aside :=
      Cycle.uses_committing (aside_of_reports id) trivial signal acted
    exact commits.bind fun _ => trivial

theorem settles_runTradeCycle (wallet : String) (signal : Dict) :
    Settles (Cycle.runTradeCycle wallet signal) [] := by
  have unswapped : Settled (ledgerOf []) := settled_of_unswapped rfl
  have numbered :
      (Cycle.readStateFile.bind fun view =>
        (.ofExcept (Cycle.nextCycle view) :
          Cycle.Steps Json)).Uses Aside :=
    Program.Uses.bind ⟨trivial, fun _ => trivial⟩
      fun view => Program.uses_ofExcept (Cycle.nextCycle view)
  have opened : Cycle.openClients.Uses Aside :=
    ⟨trivial, fun answer => Program.uses_ofExcept answer⟩
  have closed : ∀ (ended : Except Exception
      (Dict × Option String × Option String))
      (publish : Dict × Option String × Option String →
        Cycle.Steps Unit),
      (∀ parts, (publish parts).Uses Aside) →
        (Cycle.closeClients.bind fun _ =>
          (Program.ofExcept ended).bind publish).Uses Aside := by
    intro ended publish published
    have closing : Cycle.closeClients.Uses Aside :=
      ⟨trivial, fun answer => Program.uses_ofExcept answer⟩
    apply closing.bind
    intro _
    exact (Program.uses_ofExcept _).bind published
  have cycled : Settles (Cycle.cycle wallet signal) [] := by
    apply settles_bind_of_aside numbered unswapped
    intro number read afterRead
    apply settles_bind_of_aside opened (by rw [afterRead]; exact unswapped)
    intro _ begun afterOpen
    rw [afterRead] at afterOpen
    apply (Program.satisfies_bind _ _ _).mpr
    apply (Program.satisfies_recover _ _ _).mpr
    apply (Program.satisfies_bind _ _ _).mpr
    apply (settles_insideClients wallet signal _ afterOpen).mono
    intro outcome reached settled
    cases outcome <;>
      refine settles_of_aside (closed _ _ ?_) settled <;>
        exact fun _ => ⟨trivial, fun _ => trivial⟩
  apply (Program.satisfies_recover _ _ _).mpr
  apply cycled.mono
  intro outcome reached settled
  cases outcome <;> exact settled

/-- What a cycle has told the executor's memory of the swap it made. -/
theorem told_runTradeCycle {σ : Type}
    {environment : Environment CycleVocabulary σ} {state : σ}
    {wallet : String} {signal : Dict} {result : SwapResult}
    (swapped : (cycleLedger environment state wallet signal).swap =
      some (.ok result))
    (passed : (cycleLedger environment state wallet signal).failed =
      false) :
    (cycleLedger environment state wallet signal).told =
      .updateStatus .executing [] :: cycleWrites result := by
  have settled :=
    ((settles_runTradeCycle wallet signal).trace environment state).1
  exact settled result swapped passed

end Cycle

/-! ## When the accounts agree -/

theorem loggedTypes_handling (result : SwapResult) :
    loggedTypes (.updateStatus .executing [] ::
      ExecutorAgent.resultWrites result) =
        [if result.status = .confirmed then .tradeExecuted
          else .tradeFailed] := by
  unfold ExecutorAgent.resultWrites SwapResult.succeeded
  cases result.status <;> rfl

theorem lastStatus_handling (result : SwapResult) :
    lastStatus (.updateStatus .executing [] ::
      ExecutorAgent.resultWrites result) =
        some (if result.status = .confirmed then .idle else .error) := by
  unfold ExecutorAgent.resultWrites SwapResult.succeeded
  cases result.status <;> rfl

/-- For the cycle a SUBMITTED swap is executed as well. -/
theorem loggedTypes_cycle (result : SwapResult) :
    loggedTypes (.updateStatus .executing [] :: cycleWrites result) =
      [if result.status = .confirmed ∨ result.status = .submitted then
        .tradeExecuted else .tradeFailed] := by
  unfold cycleWrites SwapResult.succeeded
  cases result.status <;> rfl

theorem lastStatus_cycle (result : SwapResult) :
    lastStatus (.updateStatus .executing [] :: cycleWrites result) =
      some (if result.status = .confirmed ∨ result.status = .submitted then
        .idle else .error) := by
  unfold cycleWrites SwapResult.succeeded
  cases result.status <;> rfl

/-- Both accounts of one swap: the handling of a decision that is no HOLD,
and any cycle that made a swap with the same result while no write to the
executor's memory raised. -/
def AccountsAgree (settings : ExecutorSettings) (script : HandlerScript)
    (message : SwarmMessage) {σ : Type}
    (environment : Environment CycleVocabulary σ) (state : σ)
    (wallet : String) (signal : Dict) : Prop :=
  Agrees (handlingLedger settings script message)
    (cycleLedger environment state wallet signal)
    (sendsFor settings script message)

/-- The result is not SUBMITTED, and where it is CONFIRMED it shows a hash and
the agent's own key is valid. -/
structure Unambiguous (settings : ExecutorSettings) (script : HandlerScript)
    (decision : TradeDecisionPayload) : Prop where
  quote : ¬ QuoteRaisesQuirk script.swap
    (settings.agent.swapArguments decision)
  settles : script.swap.Accepted script.executor
    (settings.agent.swapArguments decision) → ¬ StaysRunning script.swap
  hashed : script.swap.Accepted script.executor
    (settings.agent.swapArguments decision) →
      ¬ SucceedsUnhashed script.swap
  key : script.swap.Accepted script.executor
    (settings.agent.swapArguments decision) → Succeeds script.swap →
      ∃ key, validPubkey settings.ownPubkey = .ok key

theorem unambiguous_iff (settings : ExecutorSettings)
    (script : HandlerScript) (decision : TradeDecisionPayload) :
    Unambiguous settings script decision ↔
      (swapResultFor settings script decision).status ≠ .submitted ∧
      ((swapResultFor settings script decision).status = .confirmed →
        truthy (swapResultFor settings script decision).txHash = true ∧
          ∃ key, validPubkey settings.ownPubkey = .ok key) := by
  have submitted := result_submitted_iff script.swap script.executor
    (settings.agent.swapArguments decision)
  have confirmed := result_confirmed_iff script.swap script.executor
    (settings.agent.swapArguments decision)
  have unhashed := result_unhashed_iff script.swap script.executor
    (settings.agent.swapArguments decision)
  unfold swapResultFor
  constructor
  · intro clear
    constructor
    · intro isSubmitted
      rcases submitted.mp isSubmitted with quirk | ⟨accepted, running⟩
      · exact clear.quote quirk
      · exact clear.settles accepted running
    · intro isConfirmed
      obtain ⟨accepted, succeeds⟩ := confirmed.mp isConfirmed
      constructor
      · by_contra noHash
        have bare := unhashed.mp ⟨isConfirmed, by simpa using noHash⟩
        exact clear.hashed accepted bare.2
      · exact clear.key accepted succeeds
  · intro both
    obtain ⟨notSubmitted, whenConfirmed⟩ := both
    constructor
    · intro quirk
      exact notSubmitted (submitted.mpr (Or.inl quirk))
    · intro accepted running
      exact notSubmitted (submitted.mpr (Or.inr ⟨accepted, running⟩))
    · intro accepted bare
      obtain ⟨isConfirmed, noHash⟩ := unhashed.mpr ⟨accepted, bare⟩
      rw [(whenConfirmed isConfirmed).1] at noHash
      cases noHash
    · intro accepted succeeds
      exact (whenConfirmed (confirmed.mpr ⟨accepted, succeeds⟩)).2

/-- The accounts agree exactly when the result is unambiguous. -/
theorem accountsAgree_iff (settings : ExecutorSettings)
    (script : HandlerScript) (message : SwarmMessage)
    (decision : TradeDecisionPayload)
    (read : settings.readDecision message.payload = .ok decision)
    (trades : decision.action ≠ .hold)
    (succeed : MemoryWritesSucceed settings script)
    {σ : Type} (environment : Environment CycleVocabulary σ) (state : σ)
    (wallet : String) (signal : Dict)
    (swapped : (cycleLedger environment state wallet signal).swap =
      some (.ok (swapResultFor settings script decision)))
    (passed : (cycleLedger environment state wallet signal).failed =
      false) :
    AccountsAgree settings script message environment state wallet signal ↔
      Unambiguous settings script decision := by
  have readHere :
      settings.agent.readDecision message.payload = .ok decision := read
  have handling : settings.agent.handleTradeDecision message =
      settings.agent.execute decision := by
    rw [ExecutorAgent.handleTradeDecision, readHere]
    exact if_neg trades
  have reports := reportsSuccess_execute_iff succeed decision
  have sent : sendsFor settings script message =
      ((settings.agent.execute decision).run script.environment
        ⟨0, []⟩).2.sends := by
    rw [sendsFor, handling]
  have handlingTold : (handlingLedger settings script message).told =
      .updateStatus .executing [] ::
        ExecutorAgent.resultWrites
          (swapResultFor settings script decision) := by
    rw [handlingLedger, handling]
    exact told_execute succeed decision
  have cycleTold := told_runTradeCycle swapped passed
  rw [unambiguous_iff]
  rw [← sent] at reports
  generalize swapResultFor settings script decision = result at *
  constructor
  · intro agrees
    have report := agrees.report
    have log := agrees.log
    rw [handlingTold, loggedTypes_handling] at report
    rw [cycleTold, handlingTold, loggedTypes_cycle,
      loggedTypes_handling] at log
    constructor
    · intro submitted
      rw [submitted] at log
      simp at log
    · intro confirmed
      rw [if_pos confirmed, reports] at report
      exact (report.mp (List.mem_singleton_self _)).2
  · intro clear
    obtain ⟨notSubmitted, whenConfirmed⟩ := clear
    have sameTest : (result.status = .confirmed ∨
        result.status = .submitted) ↔ result.status = .confirmed :=
      or_iff_left notSubmitted
    constructor
    · rw [handlingTold, loggedTypes_handling, reports, sameTest]
      by_cases confirmed : result.status = .confirmed
      · rw [if_pos confirmed]
        exact iff_of_true (List.mem_singleton_self _)
          ⟨confirmed, whenConfirmed confirmed⟩
      · rw [if_neg confirmed]
        apply iff_of_false
        · simp
        · intro reported
          exact confirmed reported.1
    · rw [cycleTold, handlingTold, loggedTypes_cycle, loggedTypes_handling]
      simp only [sameTest]
    · rw [cycleTold, handlingTold, lastStatus_cycle, lastStatus_handling]
      simp only [sameTest]

/-! ## A swap that is still running -/

/-- An execution that shows a hash and is still running. -/
def runningWithHash : SwapScript :=
  { neverSettles with
    polls := fun _ => .ok { status := .running, txHash := some "0xab" } }

/-- An execution that succeeds at the first poll. -/
def succeedingAtOnce : SwapScript :=
  { neverSettles with
    polls := fun _ => .ok { status := .success, txHash := some "0xab" } }

def remembering : ExecutorSettings :=
  { startedExecutor with hasMemory := true }

def handlingOf (swap : SwapScript) : HandlerScript :=
  { calmHandling with swap := swap }

/-- The model approves a purchase, and the swap returns this result. -/
def approvingAnswers (result : SwapResult) : CycleAnswers
  | .readStateFile => .obj []
  | .chat _ =>
      .ok "\x7b\"risk_score\": 2, \"action\": \"buy\", \"confidence\": 1\x7d"
  | .executeSwap _ => .ok result
  | request => calmAnswers (.ok (none, none)) request

def approvingCycle (swap : SwapScript) :
    Environment CycleVocabulary Unit :=
  fun _ request =>
    (approvingAnswers
      (swapResultFor remembering (handlingOf swap) approvedBuy) request, ())

theorem writesSucceed (swap : SwapScript) :
    MemoryWritesSucceed remembering (handlingOf swap) :=
  ⟨rfl, fun _ => rfl⟩

theorem accountsAgree_iff_succeeding :
    AccountsAgree remembering (handlingOf succeedingAtOnce)
        (decisionMessage approvedBuy) (approvingCycle succeedingAtOnce) ()
        "0xaaaa" calmSignal ↔
      Unambiguous remembering (handlingOf succeedingAtOnce) approvedBuy :=
  accountsAgree_iff remembering (handlingOf succeedingAtOnce)
    (decisionMessage approvedBuy) approvedBuy
    (TradeDecisionPayload.readDump_modelDump approvedBuy) (by decide)
    (writesSucceed succeedingAtOnce) (approvingCycle succeedingAtOnce) ()
    "0xaaaa" calmSignal (by decide +kernel) (by decide +kernel)

/-- A swap that is still running is logged as failed by the agent, which
reports it as a success, and as executed by the cycle. -/
theorem running_swap_disputed :
    ¬ ∀ (settings : ExecutorSettings) (script : HandlerScript)
        (message : SwarmMessage) (decision : TradeDecisionPayload),
      settings.readDecision message.payload = .ok decision →
      decision.action ≠ .hold → MemoryWritesSucceed settings script →
      ∀ (environment : Environment CycleVocabulary Unit) (wallet : String)
        (signal : Dict),
      (cycleLedger environment () wallet signal).swap =
          some (.ok (swapResultFor settings script decision)) →
        (cycleLedger environment () wallet signal).failed = false →
          AccountsAgree settings script message environment () wallet
            signal := by
  intro always
  have agrees := always remembering (handlingOf runningWithHash)
    (decisionMessage approvedBuy) approvedBuy
    (TradeDecisionPayload.readDump_modelDump approvedBuy) (by decide)
    (writesSucceed runningWithHash) (approvingCycle runningWithHash)
    "0xaaaa" calmSignal (by decide +kernel) (by decide +kernel)
  have agentLog : loggedTypes (handlingLedger remembering
      (handlingOf runningWithHash) (decisionMessage approvedBuy)).told =
        [.tradeFailed] := by
    decide +kernel
  have cycleLog : loggedTypes (cycleLedger (approvingCycle runningWithHash)
      () "0xaaaa" calmSignal).told = [.tradeExecuted] := by
    decide +kernel
  have log := agrees.log
  rw [agentLog, cycleLog] at log
  cases log

end SwarmFi.Dashboard.Agreement

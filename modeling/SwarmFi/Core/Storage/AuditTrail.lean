import SwarmFi.Core.KeeperHub.AuditEntries
import SwarmFi.Core.Storage.DurableMemory
import SwarmFi.Core.Storage.PlainModels
import SwarmFi.Core.Storage.RoundTrip

/-!
# Where the audit entries go

`_write_audit` opens a `SwarmKV` of its own for every entry, so that the index
it extends is its own as well.  A run of swaps and log events, one after
another, shows what the memories of the same client see of it: nothing.
-/

namespace SwarmFi.Core.Storage

open Foundation Python
open KeeperHub (KeeperHubSwapExecutor KHExecutionResult SwapArguments
  SwapCall SwapScript SwapState Swap)

/-! ## Swaps that write to a storage -/

/-- The storage of a process and how many `SwarmKV` objects it has made; an
object that is still to be made is as `World.boot` has it. -/
structure Process (live : LiveBackend) where
  world : World live
  made : Nat

variable
  {live : LiveBackend} (sources : Sources) (client : ZeroGClient)
  (models : Models)

/-- The body of `_write_audit`: a new `SwarmKV`, a `SwarmLog` over it, and one
append. -/
def Process.writeAudit
    (process : Process live) (eventType : LogEventType) (agentRole : String)
    (data : Dict) : Except Exception Unit × Process live :=
  let kv : SwarmKV := ⟨process.made, client⟩
  let ran := (SwarmLog.append ⟨client, kv⟩ models eventType agentRole
    (some data)).run (environment live sources) process.world
  (ran.1.map fun _ => (), { world := ran.2, made := process.made + 1 })

/-- A scripted swap whose audit is written to the storage. -/
def swapEnvironment (script : SwapScript) :
    Environment Swap (SwapState × Process live) :=
  fun state request =>
    match request with
    | .appendAudit eventType agentRole data =>
        let written := state.2.writeAudit sources client models eventType
          agentRole data
        (written.1, state.1, written.2)
    | other =>
        let answered := script.environment state.1 other
        (answered.1, answered.2, state.2)

/-! ## Runs -/

inductive TrailOp where
  | logEvent (memory : AgentMemory) (eventType : LogEventType)
      (data : Option Dict)
  | executeSwap (self : KeeperHubSwapExecutor) (args : SwapArguments)
      (script : SwapScript)

/-- One call of a run: how it ended, the executions that KeeperHub has
accepted in it, and the process before and after. -/
structure TrailStep (live : LiveBackend) where
  before : Process live
  outcome : Except Exception Unit
  executions : List KHExecutionResult
  after : Process live

def TrailOp.step (process : Process live) : TrailOp → TrailStep live
  | .logEvent memory eventType data =>
      let ran := (memory.logEvent models eventType data).run
        (environment live sources) process.world
      { before := process
        outcome := ran.1.map fun _ => ()
        executions := []
        after := { process with world := ran.2 } }
  | .executeSwap self args script =>
      let ran := (self.executeSwap args).run
        (swapEnvironment sources client models script) (.initial, process)
      { before := process
        outcome := .ok ()
        executions := ran.2.1.transfers
        after := ran.2.2 }

def trail (process : Process live) : List TrailOp → List (TrailStep live)
  | [] => []
  | op :: ops =>
      let step := op.step sources client models process
      step :: trail step.after ops

/-- The process after the whole run. -/
def afterTrail (process : Process live) (ops : List TrailOp) :
    Process live :=
  ops.foldl (fun reached op => (op.step sources client models reached).after)
    process

/-! ## What the memories see -/

/-- The index that a memory reads. -/
def indexSeen (process : Process live) (memory : AgentMemory) :
    Except Exception LogIndex :=
  ((memory.slog.getIndex models).run (environment live sources)
    process.world).1

/-- The entry under a root, as a memory reads it. -/
def entrySeen (process : Process live) (memory : AgentMemory)
    (root : String) : Except Exception LogEntry :=
  ((memory.slog.getEntry models root).run (environment live sources)
    process.world).1

/-- The step has put one entry behind those that the memory saw before, and
the entry carries the id of the execution. -/
def TrailStep.Lists
    (step : TrailStep live) (memory : AgentMemory) (executionId : String) :
    Prop :=
  ∃ before after root entry,
    indexSeen sources models step.before memory = .ok before ∧
      indexSeen sources models step.after memory = .ok after ∧
        after.entries = before.entries ++ [root] ∧
          entrySeen sources models step.after memory root = .ok entry ∧
            entry.data.get? "execution_id" = some (.str executionId)

/-- Every execution of the run can be found by every memory. -/
def AuditsListed
    (memories : List AgentMemory) (steps : List (TrailStep live)) : Prop :=
  ∀ step ∈ steps, ∀ execution ∈ step.executions, ∀ memory ∈ memories,
    step.Lists sources models memory execution.executionId

/-- The memory is one of the client's, over a `SwarmKV` that has been made. -/
def AgentMemory.Of
    (memory : AgentMemory) (client : ZeroGClient) (made : Nat) : Prop :=
  ∃ kv < made, memory.slog = ⟨client, ⟨kv, client⟩⟩

/-- The log events are of the memories, the executors have the client. -/
def TrailOp.Fits (memories : List AgentMemory) : TrailOp → Prop
  | .logEvent memory _ _ => memory ∈ memories
  | .executeSwap self _ _ => self.hasZg = true

/-! ## A swap leaves every older log alone -/

section Durable

variable {sources client models}
  {sound : World live → Prop}
  {holds : World live → String → Bytes → Prop}
  (durable : Durable sources client sound holds)
  (inverse : ∀ world, sound world → models.InverseOn (Held holds world))

/-- What one process leaves of another: the logs of the objects that the
first has made. -/
structure LogsKept
    (sound : World live → Prop)
    (holds : World live → String → Bytes → Prop) (models : Models)
    (before after : Process live) : Prop where
  sound : sound before.world
  made : before.made ≤ after.made
  logged : ∀ kv < before.made, ∀ logged dict,
    Logged models holds kv logged dict before.world →
      Logged models holds kv logged dict after.world

include durable in
theorem Durable.writeAudit_keeps
    (process : Process live) (eventType : LogEventType) (agentRole : String)
    (data : Dict)
    (isSound : sound (process.writeAudit sources client models eventType
      agentRole data).2.world) :
    LogsKept sound holds models process
      (process.writeAudit sources client models eventType agentRole
        data).2 where
  sound := durable.setting.sound_of_run _ _ isSound
  made := Nat.le_succ _
  logged := by
    intro kv older logged dict before
    have other : ¬ (fun id => id = process.made) kv :=
      Nat.ne_of_lt older
    have stable := durable.stable_logged models
      (fun id => id = process.made) True kv other logged dict
    have uses : (SwarmLog.append ⟨client, ⟨process.made, client⟩⟩ models
        eventType agentRole (some data)).Uses
          (StorageCall.Within (fun id => id = process.made) True) := by
      apply uses_append
      · trivial
      · rfl
    exact stable.run uses isSound before

include durable in
theorem Durable.swap_keeps
    {ε α : Type} (script : SwapScript) (program : Program Swap ε α)
    (state : SwapState × Process live)
    (isSound : sound (program.run
      (swapEnvironment sources client models script) state).2.2.world) :
    LogsKept sound holds models state.2
      (program.run (swapEnvironment sources client models script)
        state).2.2 := by
  revert isSound
  apply Program.run_related
    (fun first second : SwapState × Process live =>
      sound second.2.world → LogsKept sound holds models first.2 second.2)
  · exact fun _ isSound => ⟨isSound, Nat.le_refl _, fun _ _ _ _ => id⟩
  · intro first second third earlier later isSound
    have kept := later isSound
    have keptBefore := earlier kept.sound
    refine ⟨keptBefore.sound, keptBefore.made.trans kept.made, ?_⟩
    intro kv older logged dict before
    apply kept.logged kv (Nat.lt_of_lt_of_le older keptBefore.made)
    exact keptBefore.logged kv older logged dict before
  · intro state request isSound
    cases request with
    | appendAudit eventType agentRole data =>
        exact durable.writeAudit_keeps state.2 eventType agentRole data
          isSound
    | _ => exact ⟨isSound, Nat.le_refl _, fun _ _ _ _ => id⟩

/-! ## What a run keeps -/

/-- Every memory is over an object that has been made, and has a log. -/
def LogsSeen
    (holds : World live → String → Bytes → Prop) (client : ZeroGClient)
    (models : Models) (memories : List AgentMemory)
    (process : Process live) : Prop :=
  ∀ memory ∈ memories, ∃ kv < process.made,
    memory.slog = ⟨client, ⟨kv, client⟩⟩ ∧
      ∃ logged dict, Logged models holds kv logged dict process.world

theorem LogsKept.seen
    {memories : List AgentMemory} {before after : Process live}
    (kept : LogsKept sound holds models before after)
    (seen : LogsSeen holds client models memories before) :
    LogsSeen holds client models memories after := by
  intro memory member
  obtain ⟨kv, older, isLog, logged, dict, logs⟩ := seen memory member
  exact ⟨kv, Nat.lt_of_lt_of_le older kept.made, isLog, logged, dict,
    kept.logged kv older logged dict logs⟩

include durable inverse in
/-- An event that is logged through one of the memories. -/
theorem Durable.logEvent_seen
    {memories : List AgentMemory} {process : Process live}
    (seen : LogsSeen holds client models memories process)
    {memory : AgentMemory} (member : memory ∈ memories)
    {eventType : LogEventType} {data : Option Dict} {root : String}
    {last : World live}
    (finished : (memory.logEvent models eventType data).run
      (environment live sources) process.world = (.ok root, last))
    (isSound : sound last) :
    LogsSeen holds client models memories { process with world := last } := by
  obtain ⟨kv, older, isLog, logged, dict, logs⟩ := seen memory member
  have isLogEvent : memory.logEvent models eventType data =
      (makeAgentMemory kv memory.role client).logEvent models eventType
        data := by
    rw [AgentMemory.logEvent, isLog]
    rfl
  rw [isLogEvent] at finished
  have isLast := congrArg Prod.snd finished
  obtain ⟨entry, raw, _, logsNow⟩ :=
    durable.logEvent_triple inverse kv memory.role logged dict eventType
      data process.world root last logs finished isSound
  intro other otherMember
  obtain ⟨otherKv, otherOlder, otherIsLog, otherLogged, otherDict,
    otherLogs⟩ := seen other otherMember
  by_cases same : otherKv = kv
  · subst same
    exact ⟨otherKv, older, otherIsLog, _, _, logsNow⟩
  · have stable := durable.stable_logged models (fun id => id = kv) True
      otherKv same otherLogged otherDict
    have uses : ((makeAgentMemory kv memory.role client).logEvent models
        eventType data).Uses
          (StorageCall.Within (fun id => id = kv) True) := by
      apply uses_logEvent
      · trivial
      · rfl
    have kept := stable.run uses (isLast.symm ▸ isSound) otherLogs
    rw [isLast] at kept
    exact ⟨otherKv, otherOlder, otherIsLog, otherLogged, otherDict, kept⟩

/-! ## No execution is listed -/

include durable in
/-- The index that a memory reads lists what its log has. -/
theorem Durable.indexSeen_logged
    {process : Process live} {memory : AgentMemory} {kv : KvId}
    (isLog : memory.slog = ⟨client, ⟨kv, client⟩⟩)
    {logged : List LogEntry} {dict : Mapping String Bytes}
    (logs : Logged models holds kv logged dict process.world)
    (isSound : sound process.world) {index : LogIndex}
    (isIndex : indexSeen sources models process memory = .ok index) :
    index.entries.map some = logged.map LogEntry.rootHash := by
  have calm : durable.setting.Calm
      (StorageCall.Within (fun _ => False) False) :=
    fun state request => durable.calm _ state request
  obtain ⟨found, isFound, lists⟩ :=
    durable.loadIndex_returns kv logs.index process.world logs.shows
      (calm.run (uses_loadIndex _ models) isSound)
  rw [indexSeen, isLog] at isIndex
  have same : found = index :=
    Except.ok.inj (isFound.symm.trans isIndex)
  rw [← same]
  exact lists.roots

include durable in
/-- After a swap every memory reads the index that it read before. -/
theorem Durable.swap_unlisted
    {memories : List AgentMemory} {process : Process live}
    (seen : LogsSeen holds client models memories process)
    (self : KeeperHubSwapExecutor) (args : SwapArguments)
    (script : SwapScript)
    (isSound : sound ((TrailOp.executeSwap self args script).step sources
      client models process).after.world)
    {memory : AgentMemory} (member : memory ∈ memories)
    (executionId : String) :
    ¬ ((TrailOp.executeSwap self args script).step sources client models
      process).Lists sources models memory executionId := by
  rintro ⟨before, after, root, entry, isBefore, isAfter, isLonger, _⟩
  have kept := durable.swap_keeps script (self.executeSwap args)
    (.initial, process) isSound
  obtain ⟨kv, older, isLog, logged, dict, logs⟩ := seen memory member
  have rootsBefore :=
    durable.indexSeen_logged isLog logs kept.sound isBefore
  have rootsAfter :=
    durable.indexSeen_logged isLog
      (kept.logged kv older logged dict logs) isSound isAfter
  have sameLength := congrArg List.length (rootsBefore.trans rootsAfter.symm)
  rw [isLonger] at sameLength
  simp at sameLength

include durable inverse in
/-- One call of a run without failures keeps the logs of the memories. -/
theorem Durable.step_seen
    {memories : List AgentMemory} {process : Process live}
    (seen : LogsSeen holds client models memories process)
    {op : TrailOp} (fits : op.Fits memories)
    (noFailure : (op.step sources client models process).outcome = .ok ())
    (isSound : sound (op.step sources client models process).after.world) :
    LogsSeen holds client models memories
      (op.step sources client models process).after := by
  cases op with
  | logEvent memory eventType data =>
      rcases ran : (memory.logEvent models eventType data).run
        (environment live sources) process.world with ⟨outcome, last⟩
      simp only [TrailOp.step, ran] at noFailure isSound ⊢
      cases outcome with
      | error exc => cases noFailure
      | ok root =>
          exact durable.logEvent_seen inverse seen fits ran isSound
  | executeSwap self args script =>
      exact (durable.swap_keeps script (self.executeSwap args)
        (.initial, process) isSound).seen seen

include durable in
theorem Durable.sound_of_step
    {process : Process live} {op : TrailOp}
    (isSound : sound (op.step sources client models process).after.world) :
    sound process.world := by
  cases op with
  | logEvent memory eventType data =>
      exact durable.setting.sound_of_run
        (memory.logEvent models eventType data) process.world isSound
  | executeSwap self args script =>
      have kept : LogsKept sound holds models process
          (TrailOp.step sources client models process
            (.executeSwap self args script)).after :=
        durable.swap_keeps script (self.executeSwap args)
          (.initial, process) isSound
      exact kept.sound

include durable in
theorem Durable.sound_of_trail
    {process : Process live} (ops : List TrailOp)
    (isSound : sound (afterTrail sources client models process ops).world) :
    sound process.world := by
  induction ops generalizing process with
  | nil => exact isSound
  | cons op ops inductionHypothesis =>
      exact durable.sound_of_step (inductionHypothesis isSound)

include durable inverse in
/-- No call of a run without failures lists an execution. -/
theorem Durable.trail_unlisted
    {memories : List AgentMemory} {process : Process live}
    (seen : LogsSeen holds client models memories process)
    {ops : List TrailOp} (fits : ∀ op ∈ ops, op.Fits memories)
    (noFailure : ∀ step ∈ trail sources client models process ops,
      step.outcome = .ok ())
    (isSound : sound (afterTrail sources client models process ops).world)
    {step : TrailStep live}
    (member : step ∈ trail sources client models process ops)
    {execution : KHExecutionResult} (executed : execution ∈ step.executions)
    {memory : AgentMemory} (isMemory : memory ∈ memories)
    (executionId : String) :
    ¬ step.Lists sources models memory executionId := by
  induction ops generalizing process with
  | nil => cases member
  | cons op ops inductionHypothesis =>
      have soundAfter : sound
          (op.step sources client models process).after.world :=
        durable.sound_of_trail ops isSound
      rcases List.mem_cons.mp member with rfl | later
      · cases op with
        | logEvent memory eventType data => cases executed
        | executeSwap self args script =>
            exact durable.swap_unlisted seen self args script soundAfter
              isMemory executionId
      · have seenAfter := durable.step_seen inverse seen
          (fits op List.mem_cons_self)
          (noFailure _ List.mem_cons_self) soundAfter
        exact inductionHypothesis seenAfter
          (fun other isOther => fits other (List.mem_cons_of_mem _ isOther))
          (fun other isOther =>
            noFailure other (List.mem_cons_of_mem _ isOther))
          isSound later

end Durable

/-- A process that has made its memories and used none of them. -/
theorem logsSeen_boot
    {client : ZeroGClient} {models : Models} {memories : List AgentMemory}
    {made : Nat} (ofClient : ∀ memory ∈ memories, memory.Of client made)
    (holds : World live → String → Bytes → Prop) (state : live.State) :
    LogsSeen holds client models memories ⟨.boot state, made⟩ := by
  intro memory member
  obtain ⟨kv, older, isLog⟩ := ofClient memory member
  exact ⟨kv, older, isLog, [], .empty, shows_fresh holds rfl, rfl, nofun⟩

/-- In a run without storage failures the executions are listed exactly where
there is none: no memory finds the entry of any execution that KeeperHub has
accepted. -/
theorem auditsListed_iff
    {sources : Sources} {client : ZeroGClient} {models : Models}
    (store : client.backend = .live → ContentStore live)
    {memories : List AgentMemory} (someMemory : memories ≠ [])
    {made : Nat} (ofClient : ∀ memory ∈ memories, memory.Of client made)
    {ops : List TrailOp} (fits : ∀ op ∈ ops, op.Fits memories)
    (state : live.State)
    (noFailure : ∀ step ∈ trail sources client models ⟨.boot state, made⟩ ops,
      step.outcome = .ok ())
    (collisionFree : CollisionFree
      (afterTrail sources client models ⟨.boot state, made⟩ ops).world.kept)
    (inverse : models.InverseOn
      (Held (client.Holds fun isLive => (store isLive).toBlobStore)
        (afterTrail sources client models ⟨.boot state, made⟩ ops).world)) :
    AuditsListed sources models memories
        (trail sources client models ⟨.boot state, made⟩ ops) ↔
      ∀ step ∈ trail sources client models ⟨.boot state, made⟩ ops,
        step.executions = [] := by
  have durable := (durable_client sources client store).withModels models
  have seen :
      LogsSeen (client.Holds fun isLive => (store isLive).toBlobStore)
        client models memories ⟨.boot state, made⟩ :=
    logsSeen_boot ofClient _ state
  obtain ⟨memory, isMemory⟩ := List.exists_mem_of_ne_nil memories someMemory
  constructor
  · intro listed step member
    rw [List.eq_nil_iff_forall_not_mem]
    intro execution executed
    have unlisted := durable.trail_unlisted (fun _ sound => sound.2) seen fits
      noFailure ⟨collisionFree, inverse⟩ member executed isMemory
      execution.executionId
    exact unlisted (listed step member execution executed memory isMemory)
  · intro none step member execution executed
    rw [none step member] at executed
    cases executed

/-! One swap of an executor that shares its client with a memory. -/

/-- The entry of that swap. -/
def swapEntry : LogEntry where
  entryId := plainSources.uuids 0
  eventType := .tradeExecuted
  agentRole := "executor"
  timestamp := plainSources.clock 0
  data := (KeeperHubSwapExecutor.auditEntry 8453
    { executionId := "direct_1"
      status := .success
      txHash := some "0xab" } 1200).toLogData
  rootHash := none

/-- A flat value as pydantic writes it. -/
def flatValue : Json → String
  | .str text => quoted text
  | .int value => toString value
  | _ => "null"

/-- An entry whose data is flat, as pydantic writes it. -/
def LogEntry.flatText (entry : LogEntry) : String :=
  "\x7b\"entry_id\":" ++ quoted entry.entryId ++
    ",\"event_type\":" ++ quoted (eventTypeValue entry.eventType) ++
    ",\"agent_role\":" ++ quoted entry.agentRole ++
    ",\"timestamp\":" ++ utcText entry.timestamp ++
    ",\"data\":\x7b" ++
    ",".intercalate (entry.data.map fun field =>
      quoted field.1 ++ ":" ++ flatValue field.2) ++
    "\x7d,\"root_hash\":" ++ optionalText entry.rootHash ++ "\x7d"

/-- The same flat dict. -/
def sameFlat : Dict → Dict → Bool
  | [], [] => true
  | (key, .str text) :: rest, (otherKey, .str otherText) :: others =>
      key = otherKey && text = otherText && sameFlat rest others
  | (key, .int value) :: rest, (otherKey, .int otherValue) :: others =>
      key = otherKey && value = otherValue && sameFlat rest others
  | _, _ => false

theorem eq_of_sameFlat
    {first second : Dict} (same : sameFlat first second = true) :
    first = second := by
  fun_induction sameFlat first second with
  | case1 => rfl
  | case2 key text rest otherKey otherText others inductionHypothesis =>
      simp only [Bool.and_eq_true, decide_eq_true_eq] at same
      obtain ⟨⟨rfl, rfl⟩, sameRest⟩ := same
      rw [inductionHypothesis sameRest]
  | case3 key value rest otherKey otherValue others inductionHypothesis =>
      simp only [Bool.and_eq_true, decide_eq_true_eq] at same
      obtain ⟨⟨rfl, rfl⟩, sameRest⟩ := same
      rw [inductionHypothesis sameRest]
  | case4 => cases same

def LogEntry.sameFlat (first second : LogEntry) : Bool :=
  first.entryId = second.entryId && first.eventType = second.eventType &&
    first.agentRole = second.agentRole &&
      first.timestamp = second.timestamp &&
        Storage.sameFlat first.data second.data &&
          first.rootHash = second.rootHash

theorem LogEntry.eq_of_sameFlat
    {first second : LogEntry} (same : first.sameFlat second = true) :
    first = second := by
  obtain ⟨entryId, eventType, agentRole, timestamp, data, rootHash⟩ := first
  simp only [LogEntry.sameFlat, Bool.and_eq_true, decide_eq_true_eq] at same
  obtain ⟨⟨⟨⟨⟨rfl, rfl⟩, rfl⟩, rfl⟩, sameData⟩, rfl⟩ := same
  rw [Storage.eq_of_sameFlat sameData]

def swapIndex : LogIndex where
  entries := [Sha256.hexdigest
    ((frame (encode swapEntry.flatText)).toOption.getD [])]
  entryCount := 1
  lastUpdated := plainSources.clock 0

def swapModels : Models :=
  { plainModels [] [] [] [swapIndex] with
    logEntry := .table [(swapEntry, encode swapEntry.flatText)]
      LogEntry.sameFlat }

theorem swapModels_inverseOn {texts : Bytes → Prop} (notEmpty : ¬ texts []) :
    swapModels.InverseOn texts := by
  have distinct : DistinctTexts [] [] [] [swapIndex] := {
    agents := List.nodup_nil
    swarms := List.nodup_nil
    entries := List.nodup_nil
    indexes := List.nodup_singleton _ }
  have others := plainModels_inverseOn distinct notEmpty
  exact {
    agentState := others.agentState
    swarmState := others.swarmState
    logEntry := ModelCodec.inverseOn_table
      (fun _ _ _ same => LogEntry.eq_of_sameFlat same)
      (List.nodup_singleton _) notEmpty
    logIndex := others.logIndex }

def executorMemory : AgentMemory :=
  makeAgentMemory 0 "executor" ⟨.inMemory⟩

def oneSwap : List TrailOp :=
  [.executeSwap KeeperHub.auditingExecutor KeeperHub.ethForUsdc
    KeeperHub.succeedsAtOnce]

def oneSwapTrail : List (TrailStep downBackend) :=
  trail plainSources ⟨.inMemory⟩ swapModels ⟨.boot (), 1⟩ oneSwap

def afterOneSwap : Process downBackend :=
  afterTrail plainSources ⟨.inMemory⟩ swapModels ⟨.boot (), 1⟩ oneSwap

/-- The swap reaches KeeperHub, and its entry is stored. -/
theorem oneSwap_run :
    (oneSwapTrail.map fun step => step.executions.length) = [1] ∧
      CollisionFree afterOneSwap.world.kept ∧
        ∀ framed ∈ afterOneSwap.world.kept, unframe framed ≠ [] := by
  decide +kernel

/-- No backend is live. -/
def noStore : (⟨.inMemory⟩ : ZeroGClient).backend = .live →
    ContentStore downBackend :=
  nofun

theorem oneSwap_inverse :
    swapModels.InverseOn
      (Held ((⟨.inMemory⟩ : ZeroGClient).Holds
        fun isLive => (noStore isLive).toBlobStore) afterOneSwap.world) := by
  apply swapModels_inverseOn
  rintro ⟨root, held⟩
  rw [ZeroGClient.Holds, dif_neg (by decide)] at held
  exact World.not_uploaded_nil oneSwap_run.2.2 held.uploaded

theorem executorMemory_of :
    ∀ memory ∈ [executorMemory], memory.Of ⟨.inMemory⟩ 1 := by
  intro memory member
  rw [List.mem_singleton.mp member]
  exact ⟨0, Nat.one_pos, rfl⟩

theorem oneSwap_fits : ∀ op ∈ oneSwap, op.Fits [executorMemory] := by
  intro op member
  rw [List.mem_singleton.mp member]
  rfl

theorem oneSwap_noFailure : ∀ step ∈ oneSwapTrail, step.outcome = .ok () := by
  intro step member
  rw [List.mem_singleton.mp member]
  rfl

theorem oneSwap_executed : ∃ step ∈ oneSwapTrail,
    ∃ execution, execution ∈ step.executions := by
  have one := oneSwap_run.1
  rcases isTrail : oneSwapTrail with _ | ⟨step, steps⟩
  · rw [isTrail] at one
    cases one
  · rw [isTrail] at one
    have length : step.executions.length = 1 := (List.cons.inj one).1
    have some_ : step.executions ≠ [] := by
      intro none
      rw [none] at length
      cases length
    exact ⟨step, List.mem_cons_self, List.exists_mem_of_ne_nil _ some_⟩

theorem auditsListed_iff_oneSwap :
    AuditsListed plainSources swapModels [executorMemory] oneSwapTrail ↔
      ∀ step ∈ oneSwapTrail, step.executions = [] :=
  @auditsListed_iff downBackend plainSources ⟨.inMemory⟩ swapModels noStore
    [executorMemory] (List.cons_ne_nil _ _) 1 executorMemory_of oneSwap
    oneSwap_fits () oneSwap_noFailure oneSwap_run.2.1 oneSwap_inverse

/-- The executor's own memory never sees the entry of its swap. -/
theorem audit_not_listed :
    ¬ ∀ (live : LiveBackend) (sources : Sources) (client : ZeroGClient)
      (models : Models)
      (store : client.backend = .live → ContentStore live)
      (memories : List AgentMemory) (made : Nat)
      (_ : ∀ memory ∈ memories, memory.Of client made)
      (ops : List TrailOp) (_ : ∀ op ∈ ops, op.Fits memories)
      (state : live.State)
      (_ : ∀ step ∈ trail sources client models ⟨.boot state, made⟩ ops,
        step.outcome = .ok ())
      (_ : CollisionFree (afterTrail sources client models
        ⟨.boot state, made⟩ ops).world.kept)
      (_ : models.InverseOn
        (Held (client.Holds fun isLive => (store isLive).toBlobStore)
          (afterTrail sources client models ⟨.boot state, made⟩
            ops).world)),
      AuditsListed sources models memories
        (trail sources client models ⟨.boot state, made⟩ ops) := by
  intro always
  have listed := always downBackend plainSources ⟨.inMemory⟩ swapModels
    noStore [executorMemory] 1 executorMemory_of oneSwap oneSwap_fits ()
    oneSwap_noFailure oneSwap_run.2.1 oneSwap_inverse
  obtain ⟨step, member, execution, executed⟩ := oneSwap_executed
  have durable :=
    (durable_client plainSources ⟨.inMemory⟩ noStore).withModels swapModels
  have seen : LogsSeen ((⟨.inMemory⟩ : ZeroGClient).Holds
        fun isLive => (noStore isLive).toBlobStore)
      ⟨.inMemory⟩ swapModels [executorMemory]
      (⟨.boot (), 1⟩ : Process downBackend) :=
    @logsSeen_boot downBackend ⟨.inMemory⟩ swapModels [executorMemory] 1
      executorMemory_of _ ()
  have unlisted := durable.trail_unlisted (fun _ sound => sound.2) seen
    oneSwap_fits oneSwap_noFailure
    ⟨oneSwap_run.2.1, oneSwap_inverse⟩ member executed
    (List.mem_singleton_self _) execution.executionId
  exact unlisted (listed step member execution executed executorMemory
    (List.mem_singleton_self _))

end SwarmFi.Core.Storage

import SwarmFi.Core.Storage.DurableLog
import SwarmFi.Core.Storage.PlainModels
import SwarmFi.Core.Storage.RoundTrip

/-!
# Runs of the log

Appends through any handles that share one `SwarmKV`, one after another, and
between them sets and deletes of keys other than that of the index: the log
holds what was appended, all of it and in that order.
-/

namespace SwarmFi.Core.Storage

open Foundation Python

inductive LogOp where
  | append (slog : SwarmLog) (eventType : LogEventType)
      (agentRole : String) (data : Option Dict)
  | set (key : String) (value : Bytes)
  | delete (key : String)

/-- An append answers with its entry. -/
def LogOp.program (models : Models) (kv : SwarmKV) :
    LogOp → Steps (Option LogEntry)
  | .append slog eventType agentRole data => do
      return some (← slog.append models eventType agentRole data)
  | .set key value => do
      let _ ← kv.set key value
      return none
  | .delete key => do
      kv.delete key
      return none

/-- The handle is one of the `SwarmKV`; the key is not that of the index. -/
def LogOp.Fits (kv : SwarmKV) : LogOp → Prop
  | .append slog _ _ _ => slog = ⟨kv.client, kv⟩
  | .set key _ => key ≠ KVKey.logIndex
  | .delete key => key ≠ KVKey.logIndex

/-- The entries that the appends returned. -/
def appended (answers : List (Option LogEntry)) : List LogEntry :=
  answers.reduceOption

variable
  {live : LiveBackend} {sources : Sources} {client : ZeroGClient}
  {sound : World live → Prop}
  {holds : World live → String → Bytes → Prop} {models : Models}

/-- A step adds the entry that it returns to the log. -/
theorem Durable.logOp_triple
    (durable : Durable sources client sound holds)
    (inverse : ∀ world, sound world → models.InverseOn (Held holds world))
    (kv : KvId) (logged : List LogEntry) (dict : Mapping String Bytes)
    {op : LogOp} (fits : op.Fits ⟨kv, client⟩) :
    Triple durable.setting (Logged models holds kv logged dict)
      (op.program models ⟨kv, client⟩)
      fun answer world => ∃ after,
        Logged models holds kv (logged ++ answer.toList) after world := by
  cases op with
  | append slog eventType agentRole data =>
      cases fits
      refine (durable.append_triple inverse kv logged dict eventType agentRole
        data).bind fun entry => Triple.done ?_
      rintro world ⟨_, raw, logs⟩
      exact ⟨_, logs⟩
  | set key value =>
      refine (durable.set_logged_triple kv logged dict fits value).bind
        fun _ => Triple.done fun world parts => ⟨dict.set key value, ?_⟩
      rw [Option.toList_none, List.append_nil]
      exact parts.1
  | delete key =>
      refine (durable.delete_logged_triple kv logged dict fits).bind
        fun _ => Triple.done fun world logs => ⟨dict.erase key, ?_⟩
      rw [Option.toList_none, List.append_nil]
      exact logs

/-- So does a run of any length. -/
theorem Durable.logOps_logged
    (durable : Durable sources client sound holds)
    (inverse : ∀ world, sound world → models.InverseOn (Held holds world))
    (kv : KvId) {ops : List LogOp}
    (fits : ∀ op ∈ ops, op.Fits ⟨kv, client⟩) {first last : World live}
    {answers : List (Option LogEntry)} (fresh : first.kvs kv = .fresh)
    (finished : (Program.each (LogOp.program models ⟨kv, client⟩) ops).run
      (environment live sources) first = (.ok answers, last))
    (isSound : sound last) :
    ∃ dict, Logged models holds kv (appended answers) dict last := by
  have logs := run_each_induct durable.setting
    (motive := fun ops answers world =>
      (∀ op ∈ ops, op.Fits ⟨kv, client⟩) →
        ∃ dict, Logged models holds kv (appended answers) dict world)
    ?_ ?_ finished isSound fits
  · exact logs
  · exact fun _ => ⟨.empty, shows_fresh holds fresh, rfl, nofun⟩
  · intro ops answers op answer world reached soFar opRun reachedSound allFit
    obtain ⟨dict, logs⟩ := soFar fun earlier member =>
      allFit earlier (List.mem_append_left _ member)
    obtain ⟨after, logsNow⟩ :=
      durable.logOp_triple inverse kv (appended answers) dict
        (allFit op (List.mem_append_right _ List.mem_cons_self))
        world answer reached logs opRun reachedSound
    refine ⟨after, ?_⟩
    have listed : appended (answers ++ [answer]) =
        appended answers ++ answer.toList := by
      rw [appended, List.reduceOption_append, List.reduceOption_singleton]
      rfl
    rw [listed]
    exact logsNow

/-- The last entries of a log. -/
def lastEntries (limit : Int) (logged : List LogEntry) : List LogEntry :=
  logged.drop (logged.length - limit.toNat)

theorem sliceFrom_eq_lastEntries
    {limit : Int} (positive : 1 ≤ limit) (logged : List LogEntry) :
    sliceFrom logged (-limit) = lastEntries limit logged := by
  have start : (logged.length + -limit).toNat =
      logged.length - limit.toNat := by
    omega
  rw [sliceFrom, if_pos (by omega), start, lastEntries]

/-- In a local store whose models are read back, the log is complete: the
stored index lists the roots that the appends returned, in their order, and
`recent` returns the last of the entries, as they were stored. -/
theorem log_complete
    (offline : client.backend ≠ .live) (kv : KvId) {ops : List LogOp}
    (fits : ∀ op ∈ ops, op.Fits ⟨kv, client⟩) (state : live.State)
    {answers : List (Option LogEntry)} {world : World live}
    (finished : (Program.each (LogOp.program models ⟨kv, client⟩) ops).run
      (environment live sources) (.boot state) = (.ok answers, world))
    (collisionFree : CollisionFree world.kept)
    (inverse : models.InverseOn world.Uploaded) :
    (∃ stored,
      (((⟨kv, client⟩ : SwarmKV).get KVKey.logIndex).run
          (environment live sources) world).1 = .ok stored ∧
        (stored = none → appended answers = []) ∧
          ∀ raw, stored = some raw →
            ∃ index, models.logIndex.decode raw = .ok index ∧
              IndexOf (appended answers) index) ∧
      (∃ index,
        ((SwarmLog.getIndex ⟨client, ⟨kv, client⟩⟩ models).run
            (environment live sources) world).1 = .ok index ∧
          IndexOf (appended answers) index) ∧
        ∀ limit : Int, 1 ≤ limit →
          ((SwarmLog.recent ⟨client, ⟨kv, client⟩⟩ models limit).run
              (environment live sources) world).1 =
            .ok ((lastEntries limit (appended answers)).map
              LogEntry.stored) := by
  have durable :=
    (durable_local live sources offline).withModels models
  have isSound : CollisionFree world.kept ∧
      models.InverseOn (Held World.Keeps world) :=
    ⟨collisionFree, inverse.mono fun _ ⟨_, keeps⟩ => keeps.uploaded⟩
  obtain ⟨dict, logs⟩ := durable.logOps_logged (fun _ sound => sound.2) kv
    fits rfl finished isSound
  have calm : durable.setting.Calm
      (StorageCall.Within (fun _ => False) False) :=
    fun state request => durable.calm _ state request
  have stored := logs.index
  rw [IndexStored] at stored
  refine ⟨?_, ?_, ?_⟩
  · refine ⟨dict.get? KVKey.logIndex, durable.answer_of_returns
      (durable.get_returns kv _ dict) (uses_get _ _) isSound logs.shows,
      ?_, ?_⟩
    · intro absent
      rw [absent] at stored
      exact stored
    · intro raw present
      rw [present] at stored
      obtain ⟨index, _, decodes, lists⟩ := stored
      exact ⟨index, decodes, lists⟩
  · obtain ⟨index, isOk, lists⟩ :=
      durable.loadIndex_returns kv logs.index world logs.shows
        (calm.run (uses_loadIndex _ models) isSound)
    exact ⟨index, isOk, lists⟩
  · intro limit positive
    rw [← sliceFrom_eq_lastEntries positive]
    exact durable.answer_of_returns
      (durable.recent_returns (fun _ sound => sound.2) kv _ dict limit)
      (uses_recent _ models limit) isSound logs

/-! ## The entry of an agent that starts -/

def startEntry : LogEntry where
  entryId := plainSources.uuids 0
  eventType := .agentStarted
  agentRole := "risk"
  timestamp := plainSources.clock 0
  data := []
  rootHash := none

def startEntryRoot : String :=
  Sha256.hexdigest
    ((frame (encode startEntry.plainText)).toOption.getD [])

def startIndex : LogIndex where
  entries := [startEntryRoot]
  entryCount := 1
  lastUpdated := plainSources.clock 0

def startModels : Models :=
  plainModels [] [] [startEntry] [startIndex]

theorem startModels_distinct :
    DistinctTexts [] [] [startEntry] [startIndex] where
  agents := List.nodup_nil
  swarms := List.nodup_nil
  entries := List.nodup_singleton _
  indexes := List.nodup_singleton _

/-! ## Two handles -/

/-- The handle of the risk agent. -/
def riskLog : SwarmLog := ⟨⟨.buffered⟩, ⟨0, ⟨.buffered⟩⟩⟩

/-- The handle of the executor, over the same `SwarmKV`. -/
def executorLog : SwarmLog := ⟨⟨.buffered⟩, ⟨0, ⟨.buffered⟩⟩⟩

/-- Both agents start, and a note is set between the appends. -/
def handlesOps : List LogOp :=
  [.append riskLog .agentStarted "risk" none, .set "note" [1],
    .append executorLog .agentStarted "executor" none]

def executorEntry : LogEntry :=
  { startEntry with
    entryId := plainSources.uuids 1
    agentRole := "executor" }

def executorEntryRoot : String :=
  Sha256.hexdigest
    ((frame (encode executorEntry.plainText)).toOption.getD [])

def handlesIndexes : List LogIndex :=
  [startIndex, startIndex.append executorEntryRoot (plainSources.clock 0)]

def handlesModels : Models :=
  plainModels [] [] [startEntry, executorEntry] handlesIndexes

def handlesRun :
    Except Exception (List (Option LogEntry)) × World downBackend :=
  (Program.each (LogOp.program handlesModels ⟨0, ⟨.buffered⟩⟩)
    handlesOps).run (environment downBackend plainSources) (.boot ())

theorem handlesModels_distinct :
    DistinctTexts [] [] [startEntry, executorEntry] handlesIndexes where
  agents := List.nodup_nil
  swarms := List.nodup_nil
  entries := by decide +kernel
  indexes := by decide +kernel

theorem handlesOps_fit :
    ∀ op ∈ handlesOps, op.Fits ⟨0, ⟨.buffered⟩⟩ := by
  intro op member
  simp only [handlesOps, List.mem_cons, List.not_mem_nil, or_false]
    at member
  rcases member with rfl | rfl | rfl
  · rfl
  · show "note" ≠ KVKey.logIndex
    decide
  · rfl

/-- Both entries are logged, and the last of them is the executor's. -/
theorem log_complete_handles :
    ∃ answers, handlesRun.1 = .ok answers ∧
      (appended answers).map LogEntry.entryId =
          [plainSources.uuids 0, plainSources.uuids 1] ∧
        ((executorLog.recent handlesModels 1).run
            (environment downBackend plainSources) handlesRun.2).1 =
          .ok ((lastEntries 1 (appended answers)).map LogEntry.stored) := by
  have run :
      (handlesRun.1.toOption.map fun answers =>
          (appended answers).map LogEntry.entryId) =
          some [plainSources.uuids 0, plainSources.uuids 1] ∧
        CollisionFree handlesRun.2.kept ∧
          ∀ framed ∈ handlesRun.2.kept, unframe framed ≠ [] := by
    decide +kernel
  obtain ⟨both, collisionFree, notEmpty⟩ := run
  have inverse : handlesModels.InverseOn handlesRun.2.Uploaded :=
    plainModels_inverseOn handlesModels_distinct
      (World.not_uploaded_nil notEmpty)
  rcases isRun : handlesRun with ⟨outcome, world⟩
  rw [isRun] at both collisionFree inverse
  cases outcome with
  | error exc => cases both
  | ok answers =>
      rw [handlesRun] at isRun
      have offline : (⟨.buffered⟩ : ZeroGClient).backend ≠ .live := by
        decide
      have complete :=
        @log_complete downBackend plainSources ⟨.buffered⟩ handlesModels
          offline 0 handlesOps handlesOps_fit () answers world isRun
          collisionFree inverse
      exact ⟨answers, rfl, Option.some.inj both,
        complete.2.2 1 (by decide)⟩

end SwarmFi.Core.Storage

import SwarmFi.Core.Storage.LogRuns
import SwarmFi.Core.Storage.PlainBackend

/-!
# Filtered reads of the log

`by_agent` and `by_event_type` read a window of the last entries, keep the
ones they are asked for and take as many as the limit allows from the front.
-/

namespace SwarmFi.Core.Storage

open Foundation Python

/-! ## The front and the end of a list -/

section Lists

variable {α : Type}

/-- The front of the later part is the end of the whole exactly if the later
part is as long as wanted, or is shorter and all there is, or begins as it
ends. -/
theorem take_eq_last_iff (older later : List α) (count : Nat) :
    later.take count =
        (older ++ later).drop ((older ++ later).length - count) ↔
      later.length = count ∨
        later.length < count ∧ older = [] ∨
          count < later.length ∧
            later.take count = later.drop (later.length - count) := by
  have whole : (older ++ later).length = older.length + later.length :=
    List.length_append
  by_cases enough : count ≤ later.length
  · have start : (older ++ later).length - count =
        older.length + (later.length - count) := by
      omega
    have ending : (older ++ later).drop ((older ++ later).length - count) =
        later.drop (later.length - count) := by
      rw [start, List.drop_append, List.drop_eq_nil_of_le (by omega)]
      rw [List.nil_append, Nat.add_sub_cancel_left]
    rw [ending]
    by_cases exactly : later.length = count
    · have noStart : later.length - count = 0 := by omega
      rw [noStart, List.drop_zero, List.take_of_length_le (by omega)]
      exact iff_of_true rfl (Or.inl exactly)
    · constructor
      · intro same
        exact Or.inr (Or.inr ⟨by omega, same⟩)
      · intro either
        rcases either with same | ⟨short, _⟩ | ⟨_, same⟩
        · exact absurd same exactly
        · omega
        · exact same
  · have all : later.take count = later :=
      List.take_of_length_le (by omega)
    rw [all]
    constructor
    · intro same
      have lengths := congrArg List.length same
      rw [List.length_drop] at lengths
      have noneOlder : older.length = 0 := by omega
      exact Or.inr (Or.inl ⟨by omega, List.length_eq_zero_iff.mp noneOlder⟩)
    · intro either
      rcases either with same | ⟨_, noneOlder⟩ | ⟨long, _⟩
      · omega
      · have noStart : ([] ++ later).length - count = 0 := by
          rw [List.nil_append]
          omega
        rw [noneOlder, noStart]
        rfl
      · omega

end Lists

/-! ## What a filtered read returns -/

/-- The entries of the window that are looked for. -/
def inWindow (wanted : LogEntry → Bool) (limit : Int)
    (logged : List LogEntry) : List LogEntry :=
  (lastEntries (limit * 3) logged).filter wanted

/-- The window holds as many of them as wanted, or fewer and all there are,
or more and those at its front are those at its end. -/
def WindowFits (wanted : LogEntry → Bool) (limit : Int)
    (logged : List LogEntry) : Prop :=
  let found := inWindow wanted limit logged
  found.length = limit.toNat ∨
    found.length < limit.toNat ∧
        found.length = (logged.filter wanted).length ∨
      limit.toNat < found.length ∧
        (found.take limit.toNat).map LogEntry.stored =
          (found.drop (found.length - limit.toNat)).map LogEntry.stored

/-- The window is the end of what is looked for. -/
theorem filter_eq_inWindow (wanted : LogEntry → Bool) (limit : Int)
    (logged : List LogEntry) :
    ∃ older, logged.filter wanted =
      older ++ inWindow wanted limit logged := by
  refine ⟨(logged.take (logged.length - (limit * 3).toNat)).filter wanted,
    ?_⟩
  rw [inWindow, lastEntries, ← List.filter_append, List.take_append_drop]

theorem take_inWindow_iff {limit : Int} (wanted : LogEntry → Bool)
    (logged : List LogEntry) :
    ((inWindow wanted limit logged).take limit.toNat).map LogEntry.stored =
        (lastEntries limit (logged.filter wanted)).map LogEntry.stored ↔
      WindowFits wanted limit logged := by
  obtain ⟨older, split⟩ := filter_eq_inWindow wanted limit logged
  have shape := take_eq_last_iff (older.map LogEntry.stored)
    ((inWindow wanted limit logged).map LogEntry.stored) limit.toNat
  rw [← List.map_append, ← split, List.length_map, List.length_map,
    ← List.map_take, ← List.map_drop, ← List.map_drop] at shape
  rw [lastEntries, shape, WindowFits]
  have lengths : (logged.filter wanted).length =
      older.length + (inWindow wanted limit logged).length := by
    rw [split, List.length_append]
  have noneOlder : older.map LogEntry.stored = [] ↔
      (inWindow wanted limit logged).length =
        (logged.filter wanted).length := by
    rw [List.map_eq_nil_iff, ← List.length_eq_zero_iff]
    omega
  rw [noneOlder]

section Reads

variable
  {live : LiveBackend} {sources : Sources} {client : ZeroGClient}
  {sound : World live → Prop}
  {holds : World live → String → Bytes → Prop} {models : Models}

theorem uses_filtered {kvs : KvId → Prop} {stores : Prop}
    (self : SwarmLog) (models : Models) (wanted : LogEntry → Bool)
    (limit : Int) :
    (self.filtered models wanted limit).Uses
      (StorageCall.Within kvs stores) :=
  (uses_recent self models (limit * 3)).bind fun _ => Program.uses_done _

theorem Durable.filtered_returns
    (durable : Durable sources client sound holds)
    (inverse : ∀ world, sound world → models.InverseOn (Held holds world))
    (kv : KvId) (logged : List LogEntry) (dict : Mapping String Bytes)
    {wanted : LogEntry → Bool}
    (storedToo : ∀ entry : LogEntry, wanted entry.stored = wanted entry)
    {limit : Int} (positive : 1 ≤ limit) :
    Returns durable.setting (Logged models holds kv logged dict)
      (SwarmLog.filtered ⟨client, ⟨kv, client⟩⟩ models wanted limit)
      fun found _ => found =
        ((inWindow wanted limit logged).take limit.toNat).map
          LogEntry.stored := by
  apply (durable.recent_returns inverse kv logged dict (limit * 3)).bind
  intro recent
  apply Returns.done
  intro world areRecent
  have atLeast : 1 ≤ limit * 3 := by omega
  have sameWanted : wanted ∘ LogEntry.stored = wanted := by
    funext entry
    exact storedToo entry
  rw [areRecent, sliceFrom_eq_lastEntries atLeast, sliceTo,
    if_neg (by omega), List.filter_map, sameWanted, List.map_take]
  rfl

/-- A filtered read returns the last of the entries exactly where the window
fits. -/
theorem Durable.filtered_iff
    (durable : Durable sources client sound holds)
    (inverse : ∀ world, sound world → models.InverseOn (Held holds world))
    {kv : KvId} {logged : List LogEntry} {dict : Mapping String Bytes}
    {world : World live} (isSound : sound world)
    (logs : Logged models holds kv logged dict world)
    {wanted : LogEntry → Bool}
    (storedToo : ∀ entry : LogEntry, wanted entry.stored = wanted entry)
    {limit : Int} (positive : 1 ≤ limit) :
    ((SwarmLog.filtered ⟨client, ⟨kv, client⟩⟩ models wanted limit).run
          (environment live sources) world).1 =
        .ok ((lastEntries limit (logged.filter wanted)).map
          LogEntry.stored) ↔
      WindowFits wanted limit logged := by
  have answer := durable.answer_of_returns
    (durable.filtered_returns inverse kv logged dict storedToo positive)
    (uses_filtered _ models wanted limit) isSound logs
  rw [answer, ← take_inWindow_iff wanted logged, Except.ok.injEq]

end Reads

/-- For every log, role, event type and limit: the two reads return the last
of the entries that they look for exactly where the window fits. -/
theorem mostRecent_iff {live : LiveBackend} (sources : Sources)
    (models : Models) (client : ZeroGClient)
    (store : client.backend = .live → ContentStore live) (kv : KvId)
    {logged : List LogEntry} {dict : Mapping String Bytes}
    {world : World live}
    (logs : Logged models
      (client.Holds fun isLive => (store isLive).toBlobStore) kv logged dict
        world)
    (collisionFree : CollisionFree world.kept)
    (inverse : models.InverseOn
      (Held (client.Holds fun isLive => (store isLive).toBlobStore) world))
    (role : String) (eventType : LogEventType) {limit : Int}
    (positive : 1 ≤ limit) :
    (((SwarmLog.byAgent ⟨client, ⟨kv, client⟩⟩ models role limit).run
            (environment live sources) world).1 =
          .ok ((lastEntries limit (logged.filter fun entry =>
            entry.agentRole = role)).map LogEntry.stored) ↔
        WindowFits (fun entry => entry.agentRole = role) limit logged) ∧
      (((SwarmLog.byEventType ⟨client, ⟨kv, client⟩⟩ models eventType
              limit).run (environment live sources) world).1 =
            .ok ((lastEntries limit (logged.filter fun entry =>
              entry.eventType = eventType)).map LogEntry.stored) ↔
          WindowFits (fun entry => entry.eventType = eventType) limit
            logged) := by
  have durable :=
    (durable_client sources client store).withModels models
  have isSound : CollisionFree world.kept ∧
      models.InverseOn
        (Held (client.Holds fun isLive => (store isLive).toBlobStore)
          world) :=
    ⟨collisionFree, inverse⟩
  constructor
  · exact durable.filtered_iff (fun _ sound => sound.2) isSound logs
      (fun _ => rfl) positive
  · exact durable.filtered_iff (fun _ sound => sound.2) isSound logs
      (fun _ => rfl) positive

/-! ## Two entries of one agent -/

def secondEntry : LogEntry :=
  { startEntry with entryId := plainSources.uuids 1 }

def twoLogged : List LogEntry :=
  [{ startEntry with rootHash := some "0x0b" },
    { secondEntry with rootHash := some "0x0c" }]

def twoIndex : LogIndex where
  entries := ["0x0b", "0x0c"]
  entryCount := 2
  lastUpdated := plainSources.clock 0

def twoModels : Models :=
  plainModels [] [] [startEntry, secondEntry] [twoIndex]

def twoRoots : Mapping String String :=
  Mapping.empty.set KVKey.logIndex "0x0a"

def twoDict : Mapping String Bytes :=
  Mapping.empty.set KVKey.logIndex (twoModels.logIndex.encode twoIndex)

/-- What is stored under the root. -/
def twoTexts : String → Bytes
  | "0x0a" => twoModels.logIndex.encode twoIndex
  | "0x0b" => twoModels.logEntry.encode startEntry
  | "0x0c" => twoModels.logEntry.encode secondEntry
  | _ => manifestPayload (plainSources.clock 0) twoRoots.toJson

def twoBlob (root : String) : Bytes :=
  (frame (twoTexts root)).toOption.getD []

def twoBlobs : Mapping String Bytes :=
  (((Mapping.empty.set "0a" (twoBlob "0x0a")).set "0b"
    (twoBlob "0x0b")).set "0c" (twoBlob "0x0c")).set "0d"
      (twoBlob "0x0d")

def twoWorld : World plainBackend :=
  ((World.boot twoBlobs).setManifest 0 twoRoots.toJson).setManifestRoot 0
    "0x0d"

/-- Every text is framed and stored, the index is read back, no two blobs
collide, and the entries differ. -/
theorem texts_twoWorld :
    (∀ root ∈ ["0x0a", "0x0b", "0x0c", "0x0d"],
      (frame (twoTexts root)).toOption = some (twoBlob root) ∧
        plainStore.contents twoWorld.live
          (ZeroGStorageClient.withMark root) = some (twoBlob root)) ∧
    (twoModels.logIndex.decode
      (twoModels.logIndex.encode twoIndex)).toOption = some twoIndex ∧
    (∀ item ∈ Mapping.items twoWorld.live, unframe item.2 ≠ []) ∧
      CollisionFree twoWorld.kept ∧
        ([startEntry, secondEntry].map LogEntry.plainText).Nodup := by
  decide +kernel

theorem twoModels_distinct :
    DistinctTexts [] [] [startEntry, secondEntry] [twoIndex] where
  agents := List.nodup_nil
  swarms := List.nodup_nil
  entries := texts_twoWorld.2.2.2.2
  indexes := List.nodup_singleton _

theorem holds_twoWorld {root : String}
    (isRoot : root ∈ ["0x0a", "0x0b", "0x0c", "0x0d"]) :
    plainStore.Holds twoWorld root (twoTexts root) := by
  obtain ⟨isFramed, there⟩ := texts_twoWorld.1 root isRoot
  exact ⟨twoBlob root, eq_ok_of_toOption isFramed, there⟩

theorem logged_twoWorld :
    Logged twoModels plainStore.Holds 0 twoLogged twoDict twoWorld where
  shows := by
    refine ⟨twoRoots, ⟨rfl, ?_⟩, ?_⟩
    · have held := @holds_twoWorld "0x0a" (by decide)
      exact Mapping.related_empty.set KVKey.logIndex held
    · exact ⟨plainSources.clock 0, twoRoots, List.Perm.refl _,
        @holds_twoWorld "0x0d" (by decide)⟩
  index := by
    have decodes := eq_ok_of_toOption texts_twoWorld.2.1
    rw [IndexStored, twoDict, Mapping.get?_set_self]
    exact ⟨twoIndex, rfl, decodes, rfl, rfl⟩
  held := by
    intro entry member
    rcases List.mem_cons.mp member with isFirst | isSecond
    · rw [isFirst]
      exact ⟨"0x0b", rfl, @holds_twoWorld "0x0b" (by decide)⟩
    · rw [List.mem_singleton.mp isSecond]
      exact ⟨"0x0c", rfl, @holds_twoWorld "0x0c" (by decide)⟩

theorem twoModels_inverseOn :
    twoModels.InverseOn (Held plainStore.Holds twoWorld) := by
  apply plainModels_inverseOn twoModels_distinct
  intro isHeld
  obtain ⟨root, held⟩ := isHeld
  exact plainStore_not_holds_nil texts_twoWorld.2.2.1 root held

theorem mostRecent_iff_two :
    (((SwarmLog.byAgent ⟨⟨.live⟩, ⟨0, ⟨.live⟩⟩⟩ twoModels "risk" 2).run
            (environment plainBackend plainSources) twoWorld).1 =
          .ok ((lastEntries 2 (twoLogged.filter fun entry =>
            entry.agentRole = "risk")).map LogEntry.stored) ↔
        WindowFits (fun entry => entry.agentRole = "risk") 2 twoLogged) ∧
      (((SwarmLog.byEventType ⟨⟨.live⟩, ⟨0, ⟨.live⟩⟩⟩ twoModels
              .agentStarted 2).run
              (environment plainBackend plainSources) twoWorld).1 =
            .ok ((lastEntries 2 (twoLogged.filter fun entry =>
              entry.eventType = .agentStarted)).map LogEntry.stored) ↔
          WindowFits (fun entry => entry.eventType = .agentStarted) 2
            twoLogged) := by
  have logs := logged_twoWorld
  have inverse := twoModels_inverseOn
  have collisionFree : CollisionFree twoWorld.kept := texts_twoWorld.2.2.2.1
  rw [← holds_live plainStore.toBlobStore] at logs inverse
  exact mostRecent_iff plainSources twoModels ⟨.live⟩ (fun _ => plainStore)
    0 logs collisionFree inverse "risk" .agentStarted (by decide)

/-- Asked for one entry, the read returns the older of the two. -/
theorem older_entry_returned :
    ¬ ∀ (live : LiveBackend) (sources : Sources) (models : Models)
        (client : ZeroGClient)
        (store : client.backend = .live → ContentStore live) (kv : KvId)
        (logged : List LogEntry) (dict : Mapping String Bytes)
        (world : World live),
      Logged models
          (client.Holds fun isLive => (store isLive).toBlobStore) kv logged
          dict world →
        CollisionFree world.kept →
          models.InverseOn
              (Held
                (client.Holds fun isLive => (store isLive).toBlobStore)
                world) →
            ∀ (role : String) (limit : Int), 1 ≤ limit →
              ((SwarmLog.byAgent ⟨client, ⟨kv, client⟩⟩ models role
                  limit).run (environment live sources) world).1 =
                .ok ((lastEntries limit (logged.filter fun entry =>
                  entry.agentRole = role)).map LogEntry.stored) := by
  intro always
  have logs := logged_twoWorld
  have inverse := twoModels_inverseOn
  have collisionFree : CollisionFree twoWorld.kept := texts_twoWorld.2.2.2.1
  rw [← holds_live plainStore.toBlobStore] at logs inverse
  have returned := always plainBackend plainSources twoModels ⟨.live⟩
    (fun _ => plainStore) 0 twoLogged twoDict twoWorld logs collisionFree
    inverse "risk" 1 (by decide)
  have observed :
      (((SwarmLog.byAgent ⟨⟨.live⟩, ⟨0, ⟨.live⟩⟩⟩ twoModels "risk" 1).run
          (environment plainBackend plainSources) twoWorld).1.toOption.map
        fun entries => entries.map LogEntry.entryId) =
          some [plainSources.uuids 0] := by
    decide +kernel
  rw [returned] at observed
  have newest : ((lastEntries 1 (twoLogged.filter fun entry =>
      entry.agentRole = "risk")).map LogEntry.stored).map
        LogEntry.entryId = [plainSources.uuids 1] := by
    rfl
  have same : ((lastEntries 1 (twoLogged.filter fun entry =>
      entry.agentRole = "risk")).map LogEntry.stored).map
        LogEntry.entryId = [plainSources.uuids 0] :=
    Option.some.inj observed
  rw [newest] at same
  exact absurd same (by decide)

end SwarmFi.Core.Storage

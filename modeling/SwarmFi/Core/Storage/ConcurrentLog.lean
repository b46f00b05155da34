import SwarmFi.Core.Storage.PlainBackend
import SwarmFi.Core.Storage.PlainModels
import SwarmFi.Core.Storage.Revisions
import SwarmFi.Core.Storage.RoundTrip

/-!
# Concurrent appends

Appends through handles that share one `SwarmKV` over the live backend take
turns at the requests to the sidecar.  Two of them that have both read the
index before either has written it leave only one root behind.
-/

namespace SwarmFi.Core.Storage

open Foundation Python

/-- A call of `append`. -/
structure AppendCall where
  slog : SwarmLog
  eventType : LogEventType
  agentRole : String
  data : Option Dict

def AppendCall.program (models : Models) (call : AppendCall) :
    Steps LogEntry :=
  call.slog.append models call.eventType call.agentRole call.data

/-- A handle on the live backend. -/
def liveLog (kv : KvId) : SwarmLog :=
  ⟨⟨.live⟩, ⟨kv, ⟨.live⟩⟩⟩

/-! ## The index as an aggregate -/

def indexAggregate (models : Models) (kv : KvId) :
    Aggregate LogIndex String where
  kv := kv
  key := KVKey.logIndex
  codec := models.logIndex
  fallback := .default
  grow := fun root index now => index.append root now

theorem getIndex_eq_load (models : Models) (kv : KvId) :
    (liveLog kv).getIndex models = (indexAggregate models kv).load := by
  refine congrArg
    (Program.bind ((liveLog kv).kv.get KVKey.logIndex)) (funext fun raw => ?_)
  cases raw with
  | none => rfl
  | some data =>
      simp only [Option.map_some, indexAggregate]
      cases models.logIndex.decode data <;> rfl

theorem extendIndex_eq_revise
    (models : Models) (kv : KvId) (root : String) :
    (liveLog kv).extendIndex models root =
      (indexAggregate models kv).revise root := by
  rw [Aggregate.revise, ← getIndex_eq_load]
  rfl

/-- The index lists the roots. -/
def ListsRoots (roots : List String) (index : LogIndex) : Prop :=
  index.entries = roots ∧ index.entryCount = roots.length

theorem listsRoots_append
    {roots : List String} {index : LogIndex}
    (lists : ListsRoots roots index) (root now : String) :
    ListsRoots (roots ++ [root]) (index.append root now) := by
  obtain ⟨entries, counted⟩ := lists
  refine ⟨?_, ?_⟩
  · simp only [LogIndex.append, entries]
  · simp only [LogIndex.append, counted, List.length_append,
      List.length_singleton]
    rfl

/-! ## One append among others -/

variable
  {live : LiveBackend} {sources : Sources} {store : ContentStore live}
  {models : Models} {kv : KvId} {count task : Nat}

variable (sources store models kv count) in
abbrev appendRevisions :
    Discipline StorageVocabulary (World live) (List (Nat × String)) :=
  (indexAggregate models kv).revisions store sources ListsRoots count

/-- The entry has the root, and is there. -/
def EntryUnder
    (models : Models) (store : ContentStore live) (entry : LogEntry)
    (root : String) (world : World live) : Prop :=
  entry.rootHash = some root ∧
    store.Holds world root (models.logEntry.encode entry.stored)

theorem local_newEntry
    (phase : Aggregate.Phase String) (eventType : LogEventType)
    (agentRole : String) (data : Option Dict) :
    (appendRevisions sources store models kv count).Local task
      (SwarmLog.newEntry eventType agentRole data)
      ((indexAggregate models kv).InPhase task phase)
      fun entry view => entry.rootHash = none ∧
        (indexAggregate models kv).InPhase task phase view := by
  have uuid4Away : StorageCall.uuid4.Away KVKey.logIndex := trivial
  have nowAway : StorageCall.now.Away KVKey.logIndex := trivial
  refine Aggregate.away_bind uuid4Away fun entryId => ?_
  refine Aggregate.away_bind nowAway fun timestamp => ?_
  exact fun view _ _ inPhase => ⟨rfl, inPhase⟩

theorem local_extendIndex
    (bounded : task < count) (root : String) (data : Bytes) :
    (appendRevisions sources store models kv count).Local task
      ((liveLog kv).extendIndex models root)
      (fun view => store.Holds view.shared root data ∧
        (indexAggregate models kv).InPhase task .idle view)
      fun _ view => store.Holds view.shared root data ∧
        (indexAggregate models kv).InPhase task (.done root) view := by
  have grown : ∀ applied index root now, ListsRoots applied index →
      ListsRoots (applied ++ [root])
        ((indexAggregate models kv).grow root index now) :=
    fun _ _ root now lists => listsRoots_append lists root now
  have persistent :
      (appendRevisions sources store models kv count).Persistent
        fun view => store.Holds view.shared root data :=
    Aggregate.persistent_holds root data
  have revised := (Aggregate.local_revise grown bounded root).frame persistent
  rw [extendIndex_eq_revise]
  exact (revised.strengthen fun _ _ _ parts => parts.symm).weaken
    fun _ _ _ _ parts => parts.symm

theorem local_append
    (bounded : task < count) {call : AppendCall}
    (isHandle : call.slog = liveLog kv) :
    (appendRevisions sources store models kv count).Local task
      (call.program models)
      ((indexAggregate models kv).InPhase task .idle)
      fun entry view => ∃ root,
        EntryUnder models store entry root view.shared ∧
          (indexAggregate models kv).InPhase task (.done root) view := by
  obtain ⟨slog, eventType, agentRole, data⟩ := call
  cases isHandle
  refine (local_newEntry _ eventType agentRole data).bind fun entry =>
    .of_fact fun noRoot => ?_
  refine (Aggregate.local_upload (models.logEntry.encode entry) _).bind
    fun result => ?_
  have isStored : ({ entry with rootHash := some result.rootHash } :
      LogEntry).stored = entry := by
    obtain ⟨entryId, kind, role, timestamp, content, rootHash⟩ := entry
    cases noRoot
    rfl
  refine (local_extendIndex bounded result.rootHash
    (models.logEntry.encode entry)).bind fun _ view _ _ parts => ?_
  refine ⟨result.rootHash, ⟨rfl, ?_⟩, parts.2⟩
  rw [isStored]
  exact parts.1

/-! ## All appends -/

/-- A root is that of one text only. -/
theorem BlobStore.Holds.unique
    {world : World live} {root : String} {first second : Bytes}
    (firstHeld : store.Holds world root first)
    (secondHeld : store.Holds world root second) : first = second := by
  obtain ⟨framed, firstOk, found⟩ := firstHeld
  obtain ⟨other, secondOk, alsoFound⟩ := secondHeld
  rw [found] at alsoFound
  cases alsoFound
  exact eq_of_frame firstOk secondOk

/-- Entries under one root have the same UUID. -/
theorem EntryUnder.sameId
    {world : World live} {root : String} {first second : LogEntry}
    (inverse : models.logEntry.InverseOn (Held store.Holds world))
    (firstUnder : EntryUnder models store first root world)
    (secondUnder : EntryUnder models store second root world) :
    first.entryId = second.entryId := by
  have sameText := firstUnder.2.unique secondUnder.2
  have firstDecodes := inverse _ ⟨root, firstUnder.2⟩
  have secondDecodes := inverse _ ⟨root, secondUnder.2⟩
  rw [sameText, secondDecodes] at firstDecodes
  have same : second.stored = first.stored := Except.ok.inj firstDecodes
  exact (congrArg LogEntry.entryId same).symm

/-- Entries with UUIDs of their own have roots of their own. -/
theorem nodup_roots
    {world : World live} {entries : List LogEntry} {roots : List String}
    (inverse : models.logEntry.InverseOn (Held store.Holds world))
    (counted : roots.length = entries.length)
    (under : ∀ (place : Nat) entry root, entries[place]? = some entry →
      roots[place]? = some root → EntryUnder models store entry root world)
    (distinct : (entries.map LogEntry.entryId).Nodup) : roots.Nodup := by
  rw [List.Nodup, List.pairwise_iff_getElem] at distinct ⊢
  intro first second firstIn secondIn before same
  have firstEntry : first < entries.length := counted ▸ firstIn
  have secondEntry : second < entries.length := counted ▸ secondIn
  have firstUnder := under first _ _ (List.getElem?_eq_getElem firstEntry)
    (List.getElem?_eq_getElem firstIn)
  have secondUnder := under second _ _
    (List.getElem?_eq_getElem secondEntry)
    (List.getElem?_eq_getElem secondIn)
  rw [same] at firstUnder
  refine distinct first second (by simpa using firstEntry)
    (by simpa using secondEntry) before ?_
  rw [List.getElem_map, List.getElem_map]
  exact firstUnder.sameId inverse secondUnder

/-- Where no append reads the index while another has yet to write it, the
index lists the root of every append, and counts them; where no UUID is drawn
twice, it lists each root once. -/
theorem appends_listed
    (sources : Sources) (store : ContentStore live) (kv : KvId)
    {calls : List AppendCall}
    (handles : ∀ call ∈ calls, call.slog = liveLog kv)
    {first : World live} (fresh : first.kvs kv = .fresh)
    {last : EventLoop StorageVocabulary Exception LogEntry (World live)}
    (run : EventLoop.Runs (environment live sources) StorageCall.suspends
      (Discipline.Permits (TakesTurns kv KVKey.logIndex))
      (.start (calls.map (AppendCall.program models)) first) last)
    {entries : List LogEntry} (returned : last.Returned entries)
    (inverse : models.InverseOn (Held store.Holds last.shared)) :
    ∃ index,
      (((liveLog kv).getIndex models).run (environment live sources)
          last.shared).1 = .ok index ∧
        (index.entries.map some).Perm (entries.map LogEntry.rootHash) ∧
          index.entryCount = entries.length ∧
            ((entries.map LogEntry.entryId).Nodup →
              ∀ entry ∈ entries, ∀ root, entry.rootHash = some root →
                index.entries.count root = 1) := by
  have manifest : (first.kvs kv).manifest =
      (Mapping.empty : Mapping String String).toJson := by
    rw [fresh]
    rfl
  have reads : (indexAggregate models kv).Reads store (ListsRoots []) first
      ((Mapping.empty : Mapping String String).get? KVKey.logIndex) :=
    fun _ => ⟨rfl, rfl⟩
  have triples : ∀ (task : Nat) (program : Steps LogEntry),
      (calls.map (AppendCall.program models))[task]? = some program →
        (appendRevisions sources store models kv
            (calls.map (AppendCall.program models)).length).Local task
          program ((indexAggregate models kv).InPhase task .idle)
          fun entry view => ∃ root,
            EntryUnder models store entry root view.shared ∧
              (indexAggregate models kv).InPhase task (.done root) view := by
    intro task program isProgram
    rw [List.getElem?_map, Option.map_eq_some_iff] at isProgram
    obtain ⟨call, isCall, rfl⟩ := isProgram
    refine local_append ?_ (handles call (List.mem_of_getElem? isCall))
    rw [List.length_map]
    exact (List.getElem?_eq_some_iff.mp isCall).1
  obtain ⟨applied, roots, index, counted, under, perm, loaded, lists⟩ :=
    Aggregate.runs_revised
      (fun _ entry root world _ => EntryUnder models store entry root world)
      manifest reads (fun _ => Aggregate.kept_inPhase .idle)
      (fun _ => ⟨List.not_mem_nil, nofun⟩) triples run returned
      inverse.logIndex
  have areRoots : roots.map some = entries.map LogEntry.rootHash := by
    refine List.ext_getElem (by simp [counted]) ?_
    intro place inRoots inEntries
    rw [List.length_map] at inRoots inEntries
    have isRoot := under place _ _ (List.getElem?_eq_getElem inEntries)
      (List.getElem?_eq_getElem inRoots)
    rw [List.getElem_map, List.getElem_map, isRoot.1]
  rw [← getIndex_eq_load] at loaded
  have listed : index.entries.Perm roots := lists.1 ▸ perm
  refine ⟨index, loaded, areRoots ▸ listed.map some, ?_, ?_⟩
  · rw [lists.2, perm.length_eq, counted]
  · intro distinct entry isEntry root isRoot
    have nodup : roots.Nodup :=
      nodup_roots inverse.logEntry counted under distinct
    have isListed : root ∈ roots := by
      have there := List.mem_map_of_mem (f := LogEntry.rootHash) isEntry
      rw [isRoot, ← areRoots, List.mem_map] at there
      obtain ⟨_, member, same⟩ := there
      exact Option.some.inj same ▸ member
    rw [listed.count_eq]
    exact List.count_eq_one_of_mem nodup isListed

/-! ## Two appends -/

def twoAppends : List AppendCall :=
  [⟨liveLog 0, .agentStarted, "risk", none⟩,
    ⟨liveLog 0, .agentStopped, "risk", none⟩]

def twoEntries : List LogEntry :=
  [{ entryId := plainSources.uuids 0
     eventType := .agentStarted
     agentRole := "risk"
     timestamp := plainSources.clock 0
     data := []
     rootHash := none },
    { entryId := plainSources.uuids 1
      eventType := .agentStopped
      agentRole := "risk"
      timestamp := plainSources.clock 0
      data := []
      rootHash := none }]

/-- An index of the blobs that were stored in these places. -/
def indexOfBlobs (numbers : List Nat) : LogIndex where
  entries := numbers.map fun number => "0x" ++ numberedRoot number
  entryCount := numbers.length
  lastUpdated := plainSources.clock 0

def twoAppendsModels : Models :=
  plainModels [] [] twoEntries
    [indexOfBlobs [0], indexOfBlobs [1], indexOfBlobs [0, 3]]

def twoAppendsStart : StorageLoop LogEntry plainBackend :=
  .start (twoAppends.map (AppendCall.program twoAppendsModels))
    (.boot (Mapping.empty : Mapping String Bytes))

/-- One after the other. -/
def inTurn : List Nat :=
  List.replicate 12 0 ++ List.replicate 12 1

/-- Both look the index up before either sets it. -/
def bothReadFirst : List Nat :=
  List.replicate 6 0 ++ List.replicate 6 1 ++ List.replicate 6 0 ++
    List.replicate 6 1

theorem twoAppendsModels_inverse
    {world : World plainBackend}
    (notEmpty : ∀ item ∈ Mapping.items world.live, unframe item.2 ≠ []) :
    twoAppendsModels.InverseOn (Held plainStore.Holds world) := by
  refine plainModels_inverseOn ⟨by decide, by decide, ?_, ?_⟩ ?_
  · decide +kernel
  · decide +kernel
  · rintro ⟨root, held⟩
    exact plainStore_not_holds_nil notEmpty root held

theorem appends_listed_in_turn :
    ∃ last entries index,
      EventLoop.Runs (environment plainBackend plainSources)
          StorageCall.suspends
          (Discipline.Permits (TakesTurns 0 KVKey.logIndex))
          twoAppendsStart last ∧
        last.Returned entries ∧ entries.length = 2 ∧
          (((liveLog 0).getIndex twoAppendsModels).run
              (environment plainBackend plainSources) last.shared).1 =
              .ok index ∧
            (index.entries.map some).Perm
              (entries.map LogEntry.rootHash) := by
  obtain ⟨last, run, ended, notEmpty⟩ :
      ∃ last, EventLoop.Runs (environment plainBackend plainSources)
          StorageCall.suspends
          (Discipline.Permits (TakesTurns 0 KVKey.logIndex))
          twoAppendsStart last ∧
        (∀ task ∈ last.tasks, (EventLoop.result task).isSome) ∧
          ∀ item ∈ Mapping.items last.shared.live,
            unframe item.2 ≠ [] := by
    refine EventLoop.exists_run_of_playing inTurn ?_
    decide +kernel
  obtain ⟨entries, returned⟩ := EventLoop.exists_returned ended
  have handles : ∀ call ∈ twoAppends, call.slog = liveLog 0 := by
    intro call member
    simp only [twoAppends, List.mem_cons, List.not_mem_nil, or_false] at member
    rcases member with rfl | rfl <;> rfl
  obtain ⟨index, loaded, listed, _⟩ :=
    @appends_listed plainBackend twoAppendsModels plainSources plainStore 0
      twoAppends handles (.boot (Mapping.empty : Mapping String Bytes)) rfl
      last run entries returned (twoAppendsModels_inverse notEmpty)
  have two : entries.length = 2 := by
    rw [← returned.length_eq, run.length_tasks]
    rfl
  exact ⟨last, entries, index, run, returned, two, loaded, listed⟩

/-- The second append overwrites the index of the first. -/
theorem append_lost :
    ∃ last, EventLoop.Reaches (environment plainBackend plainSources)
        StorageCall.suspends twoAppendsStart last ∧
      twoAppendsModels.InverseOn (Held plainStore.Holds last.shared) ∧
        ∃ entries index,
          last.Returned entries ∧
            (((liveLog 0).getIndex twoAppendsModels).run
                (environment plainBackend plainSources) last.shared).1 =
                .ok index ∧
              entries.length = 2 ∧ index.entryCount = 1 ∧
                ¬ (index.entries.map some).Perm
                  (entries.map LogEntry.rootHash) := by
  obtain ⟨last, run, ended, notEmpty, isIndex⟩ :
      ∃ last, EventLoop.Reaches (environment plainBackend plainSources)
          StorageCall.suspends twoAppendsStart last ∧
        (∀ task ∈ last.tasks, (EventLoop.result task).isSome) ∧
          (∀ item ∈ Mapping.items last.shared.live,
            unframe item.2 ≠ []) ∧
            (((liveLog 0).getIndex twoAppendsModels).run
                (environment plainBackend plainSources)
                last.shared).1.toOption = some (indexOfBlobs [1]) := by
    refine EventLoop.exists_run_of_playing bothReadFirst ?_
    decide +kernel
  obtain ⟨entries, returned⟩ := EventLoop.exists_returned ended
  have two : entries.length = 2 := by
    rw [← returned.length_eq, run.length_tasks]
    rfl
  refine ⟨last, run, twoAppendsModels_inverse notEmpty, entries,
    indexOfBlobs [1], returned, eq_ok_of_toOption isIndex, two, rfl, ?_⟩
  intro perm
  have sameLength := perm.length_eq
  rw [List.length_map, List.length_map, two] at sameLength
  exact absurd sameLength (by decide)

end SwarmFi.Core.Storage

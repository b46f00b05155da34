import SwarmFi.Core.Storage.Attempts
import SwarmFi.Core.Storage.MemoryRuns
import SwarmFi.Core.Storage.PlainBackend

/-!
# Updates that fail half way

`update_status` writes the record of its role and then the state of the swarm.
An upload or a download that raises once the record has been stored leaves the
record of one update beside the swarm's entry of another.
-/

namespace SwarmFi.Core.Storage

open Foundation Python

variable {live : LiveBackend} {sources : Sources}

/-! ## What the reads give -/

section Reads

variable
  (models : Models) (holds : World live → String → Bytes → Prop)
  (kv : KvId) (world : World live)

/-- What `read_agent_state(role)` gives where it returns. -/
def RecordRead (role : String) (record : Option AgentState) : Prop :=
  ∃ found, Finds holds kv world (KVKey.agentState role) found ∧
    found.map models.agentState.decode = record.map .ok

/-- What `read_swarm_state()` gives where it returns; `none` stands for a
`SwarmState()` that is made when it is asked for. -/
def SwarmRead (swarm : Option SwarmState) : Prop :=
  ∃ found, Finds holds kv world KVKey.swarmState found ∧
    swarm = found.bind fun raw => (models.swarmState.decode raw).toOption

/-- The record of a role and its entry in the state of the swarm are the
same. -/
def InStep : Prop :=
  ∀ role record swarm,
    RecordRead models holds kv world role record →
      SwarmRead models holds kv world swarm →
        record = swarm.bind fun read => read.agents.get? role

/-- Both reads give what they gave before. -/
structure SameReads (after : World live) : Prop where
  record : ∀ role record,
    RecordRead models holds kv after role record ↔
      RecordRead models holds kv world role record
  swarm : ∀ swarm,
    SwarmRead models holds kv after swarm ↔
      SwarmRead models holds kv world swarm

end Reads

/-! ## The steps of an update -/

section Steps

variable (sources) (models : Models) (memory : AgentMemory)

theorem run_updateSwarm (state : AgentState) (world : World live) :
    (memory.updateSwarm models state).run (environment live sources)
        world =
      match (memory.readSwarmState models).run (environment live sources)
        world with
      | (.error exc, read) => (.error exc, read)
      | (.ok swarm, read) =>
          match (memory.kv.set KVKey.swarmState
              (models.swarmState.encode
                (swarm.updateAgent memory.role state
                  (sources.clock read.ticks)))).run
            (environment live sources) read.ticked with
          | (.error exc, last) => (.error exc, last)
          | (.ok _, last) => (.ok (), last) := by
  simp only [AgentMemory.updateSwarm, Program.bind_eq_bind]
  rw [Program.run_bind]
  rcases (memory.readSwarmState models).run _ world with ⟨outcome, read⟩
  cases outcome with
  | error exc => rfl
  | ok swarm =>
      simp only
      rw [run_now, Program.run_bind]
      rcases (memory.kv.set _ _).run _ read.ticked with ⟨outcome, last⟩
      cases outcome <;> rfl

/-- The record that the call writes where it begins in the world. -/
def writtenState (update : StatusUpdate) (world : World live) :
    AgentState :=
  update.state memory.role (sources.clock world.ticks)

theorem run_updateStatus (update : StatusUpdate) (world : World live) :
    (memory.updateStatus models update).run (environment live sources)
        world =
      match (memory.kv.set (KVKey.agentState memory.role)
          (models.agentState.encode
            (writtenState sources memory update world))).run
        (environment live sources) world.ticked with
      | (.error exc, last) => (.error exc, last)
      | (.ok _, stored) =>
          (memory.updateSwarm models
            (writtenState sources memory update world)).run
              (environment live sources) stored := by
  simp only [AgentMemory.updateStatus, Program.bind_eq_bind]
  rw [run_now, Program.run_bind, writtenState]
  rcases (memory.kv.set _ _).run _ world.ticked with ⟨outcome, stored⟩
  cases outcome <;> rfl

/-- The record is stored and the swarm's state has been read. -/
structure Halfway (update : StatusUpdate) (world : World live)
    (swarm : SwarmState) (read : World live) : Prop where
  reached : ∃ result stored,
    (memory.kv.set (KVKey.agentState memory.role)
        (models.agentState.encode
          (writtenState sources memory update world))).run
      (environment live sources) world.ticked = (.ok result, stored) ∧
    (memory.readSwarmState models).run (environment live sources) stored =
      (.ok swarm, read)

/-- The text of the swarm's state that is written after that. -/
def swarmText (update : StatusUpdate) (world : World live)
    (swarm : SwarmState) (read : World live) : Bytes :=
  models.swarmState.encode
    (swarm.updateAgent memory.role
      (writtenState sources memory update world)
      (sources.clock read.ticks))

/-- The record is under its key when the call raises, and nothing else. -/
inductive StopsBetween (update : StatusUpdate) (world : World live) :
    World live → Prop
  | manifest {manifest : Json} {last : World live}
      (interrupted : Interrupted sources memory.kv world.ticked
        (.set (KVKey.agentState memory.role)
          (models.agentState.encode
            (writtenState sources memory update world)))
        manifest last) :
      StopsBetween update world last
  | read {result : UploadResult} {stored last : World live}
      {exc : Exception}
      (set : (memory.kv.set (KVKey.agentState memory.role)
          (models.agentState.encode
            (writtenState sources memory update world))).run
        (environment live sources) world.ticked = (.ok result, stored))
      (failed : (memory.readSwarmState models).run
        (environment live sources) stored = (.error exc, last)) :
      StopsBetween update world last
  | upload {swarm : SwarmState} {read last : World live} {exc : Exception}
      (halfway : Halfway sources models memory update world swarm read)
      (failed : (memory.kv.client.upload
          (swarmText sources models memory update world swarm read)).run
        (environment live sources) read.ticked = (.error exc, last)) :
      StopsBetween update world last

/-- Both are under their keys when the call raises. -/
inductive StopsAfter (update : StatusUpdate) (world : World live) :
    World live → Prop
  | manifest {swarm : SwarmState} {read last : World live}
      {manifest : Json}
      (halfway : Halfway sources models memory update world swarm read)
      (interrupted : Interrupted sources memory.kv read.ticked
        (.set KVKey.swarmState
          (swarmText sources models memory update world swarm read))
        manifest last) :
      StopsAfter update world last

end Steps

/-! ## What an update leaves behind -/

section Update

variable
  {client : ZeroGClient} {sound : World live → Prop}
  {holds : World live → String → Bytes → Prop} {models : Models}
  {kv : KvId} {role : String} {update : StatusUpdate}
  {world last : World live}

theorem StopsBetween.raises {memory : AgentMemory}
    (stops : StopsBetween sources models memory update world last) :
    ∃ exc, (memory.updateStatus models update).run
      (environment live sources) world = (.error exc, last) := by
  cases stops with
  | manifest interrupted =>
      obtain ⟨exc, raised⟩ := interrupted.raises
      refine ⟨exc, ?_⟩
      rw [run_updateStatus, set_of_setEdit raised]
  | read set failed =>
      rename_i result stored exc
      refine ⟨exc, ?_⟩
      rw [run_updateStatus, set]
      simp only
      rw [run_updateSwarm, failed]
  | upload halfway failed =>
      rename_i swarm read exc
      obtain ⟨result, stored, set, returned⟩ := halfway.reached
      refine ⟨exc, ?_⟩
      rw [swarmText] at failed
      rw [run_updateStatus, set]
      simp only
      rw [run_updateSwarm, returned]
      simp only
      rw [run_set, failed]

theorem StopsAfter.raises {memory : AgentMemory}
    (stops : StopsAfter sources models memory update world last) :
    ∃ exc, (memory.updateStatus models update).run
      (environment live sources) world = (.error exc, last) := by
  cases stops with
  | manifest halfway interrupted =>
      obtain ⟨result, stored, set, returned⟩ := halfway.reached
      obtain ⟨exc, raised⟩ := interrupted.raises
      refine ⟨exc, ?_⟩
      rw [swarmText] at raised
      rw [run_updateStatus, set]
      simp only
      rw [run_updateSwarm, returned]
      simp only
      rw [set_of_setEdit raised]

/-- Both copies are under their keys, the swarm's made from what was read. -/
def BothWritten (sources : Sources) (models : Models)
    (holds : World live → String → Bytes → Prop) (memory : AgentMemory)
    (update : StatusUpdate) (map : Mapping String Bytes)
    (world last : World live) : Prop :=
  ∃ swarm read stored listed all,
    let text := models.agentState.encode
      (writtenState sources memory update world)
    let swarmsText := swarmText sources models memory update world swarm read
    let between := map.set (KVKey.agentState memory.role) text
    Lists holds memory.kv.id listed between stored ∧
      (memory.readSwarmState models).run (environment live sources)
          stored = (.ok swarm, read) ∧
        Lists holds memory.kv.id all
            (between.set KVKey.swarmState swarmsText) last ∧
          Held holds last text ∧ Held holds last swarmsText

variable
  (storing : Storing sources client sound holds)
  {roots : Mapping String String} {map : Mapping String Bytes}

include storing

/-- Where the call has got half way the record is under its key. -/
theorem Storing.lists_halfway {swarm : SwarmState} {read : World live}
    (halfway : Halfway sources models (makeAgentMemory kv role client)
      update world swarm read)
    (isSound : sound read) (lists : Lists holds kv roots map world) :
    ∃ stored listed,
      let text := models.agentState.encode (writtenState sources
        (makeAgentMemory kv role client) update world)
      Lists holds kv listed (map.set (KVKey.agentState role) text)
          stored ∧
        ((makeAgentMemory kv role client).readSwarmState models).run
            (environment live sources) stored = (.ok swarm, read) ∧
          Lists holds kv listed (map.set (KVKey.agentState role) text)
              read ∧
            Held holds read text := by
  obtain ⟨result, stored, set, returned⟩ := halfway.reached
  have soundStored := storing.sound_run returned isSound
  have soundTicked := storing.sound_run set soundStored
  obtain ⟨listsStored, held⟩ := storing.lists_set set soundStored
    (storing.lists_ticked soundTicked lists)
  have uses : ((makeAgentMemory kv role client).readSwarmState
      models).Uses (StorageCall.Within (fun _ => False) False) :=
    uses_readSwarmState _ models
  refine ⟨stored, _, listsStored, returned, ?_, ?_⟩
  · exact storing.lists_uses uses returned isSound id listsStored
  · exact ⟨_, storing.holds_run returned isSound held⟩

/-- A call that stops in between leaves its record behind. -/
theorem Storing.lists_between
    (stops : StopsBetween sources models (makeAgentMemory kv role client)
      update world last)
    (isSound : sound last) (lists : Lists holds kv roots map world) :
    ∃ listed,
      let text := models.agentState.encode (writtenState sources
        (makeAgentMemory kv role client) update world)
      Lists holds kv listed (map.set (KVKey.agentState role) text) last ∧
        Held holds last text := by
  cases stops with
  | manifest interrupted =>
      obtain ⟨exc, raised⟩ := interrupted.raises
      have soundTicked := storing.sound_run raised isSound
      obtain ⟨root, listsNow, held⟩ := storing.lists_interrupted interrupted
        isSound (storing.lists_ticked soundTicked lists)
      exact ⟨_, listsNow, root, held⟩
  | read set failed =>
      have soundStored := storing.sound_run failed isSound
      have soundTicked := storing.sound_run set soundStored
      obtain ⟨listsStored, held⟩ := storing.lists_set set soundStored
        (storing.lists_ticked soundTicked lists)
      have uses : ((makeAgentMemory kv role client).readSwarmState
          models).Uses (StorageCall.Within (fun _ => False) False) :=
        uses_readSwarmState _ models
      refine ⟨_, storing.lists_uses uses failed isSound id listsStored, ?_⟩
      exact ⟨_, storing.holds_run failed isSound held⟩
  | upload halfway failed =>
      rename_i swarm read exc
      have soundTicked := storing.sound_run failed isSound
      have soundRead : sound read := storing.before read .now soundTicked
      obtain ⟨_, listed, _, _, listsRead, root, held⟩ :=
        storing.lists_halfway halfway soundRead lists
      have uses : (client.upload (swarmText sources models
          (makeAgentMemory kv role client) update world swarm read)).Uses
            (StorageCall.Within (fun _ => False) True) :=
        uses_upload trivial client _
      have heldTicked := storing.stays read .now root _ soundTicked held
      refine ⟨listed, ?_, root, ?_⟩
      · exact storing.lists_uses uses failed isSound id
          (storing.lists_ticked soundTicked listsRead)
      · exact storing.holds_run failed isSound heldTicked

/-- A call that stops after it leaves both behind. -/
theorem Storing.bothWritten_after
    (stops : StopsAfter sources models (makeAgentMemory kv role client)
      update world last)
    (isSound : sound last) (lists : Lists holds kv roots map world) :
    BothWritten sources models holds (makeAgentMemory kv role client)
      update map world last := by
  cases stops with
  | manifest halfway interrupted =>
      rename_i swarm read manifest
      obtain ⟨exc, raised⟩ := interrupted.raises
      have soundTicked := storing.sound_run raised isSound
      have soundRead : sound read := storing.before read .now soundTicked
      obtain ⟨stored, listed, listsStored, returned, listsRead, root,
        held⟩ := storing.lists_halfway halfway soundRead lists
      obtain ⟨swarmRoot, listsNow, swarmHeld⟩ :=
        storing.lists_interrupted interrupted isSound
          (storing.lists_ticked soundTicked listsRead)
      have heldTicked := storing.stays read .now root _ soundTicked held
      have heldNow := storing.holds_run raised isSound heldTicked
      exact ⟨swarm, read, stored, listed, _, listsStored, returned,
        listsNow, ⟨root, heldNow⟩, ⟨swarmRoot, swarmHeld⟩⟩

/-- So does a call that returns. -/
theorem Storing.bothWritten_returned {done : Unit}
    (finished : ((makeAgentMemory kv role client).updateStatus models
      update).run (environment live sources) world = (.ok done, last))
    (isSound : sound last) (lists : Lists holds kv roots map world) :
    BothWritten sources models holds (makeAgentMemory kv role client)
      update map world last := by
  rw [run_updateStatus] at finished
  split at finished
  · cases finished
  · next result stored set =>
      rw [run_updateSwarm] at finished
      split at finished
      · cases finished
      · next swarm read returned =>
          split at finished
          · cases finished
          · next swarmResult reached swarmSet =>
              cases finished
              have halfway : Halfway sources models
                  (makeAgentMemory kv role client) update world swarm
                  read :=
                ⟨result, stored, set, returned⟩
              have soundTicked := storing.sound_run swarmSet isSound
              have soundRead : sound read :=
                storing.before read .now soundTicked
              obtain ⟨there, listed, listsStored, isRead, listsRead, root,
                held⟩ := storing.lists_halfway halfway soundRead lists
              obtain ⟨listsNow, swarmHeld⟩ := storing.lists_set swarmSet
                isSound (storing.lists_ticked soundTicked listsRead)
              have heldTicked :=
                storing.stays read .now root _ soundTicked held
              have heldNow := storing.holds_run swarmSet isSound heldTicked
              exact ⟨swarm, read, there, listed, _, listsStored, isRead,
                listsNow, ⟨root, heldNow⟩, ⟨_, swarmHeld⟩⟩

/-- A call that raises has left the dict alone, or stops in between or
after. -/
theorem Storing.update_raises_cases {exc : Exception}
    (raised : ((makeAgentMemory kv role client).updateStatus models
      update).run (environment live sources) world = (.error exc, last))
    (isSound : sound last) (lists : Lists holds kv roots map world) :
    Lists holds kv roots map last ∨
      StopsBetween sources models (makeAgentMemory kv role client) update
          world last ∨
        StopsAfter sources models (makeAgentMemory kv role client) update
          world last := by
  rw [run_updateStatus] at raised
  split at raised
  · next error reached failed =>
      cases raised
      have soundTicked := storing.sound_run failed isSound
      have listsTicked := storing.lists_ticked soundTicked lists
      rcases stopped_or_interrupted listsTicked.1 failed with stopped |
        ⟨manifest, interrupted⟩
      · left
        have uses : (client.upload (models.agentState.encode
            (writtenState sources (makeAgentMemory kv role client) update
              world))).Uses (StorageCall.Within (fun _ => False) True) :=
          uses_upload trivial client _
        exact storing.lists_uses uses stopped isSound id listsTicked
      · exact Or.inr (Or.inl (.manifest interrupted))
  · next result stored set =>
      rw [run_updateSwarm] at raised
      split at raised
      · next error reached failed =>
          cases raised
          exact Or.inr (Or.inl (.read set failed))
      · next swarm read returned =>
          have halfway : Halfway sources models
              (makeAgentMemory kv role client) update world swarm read :=
            ⟨result, stored, set, returned⟩
          split at raised
          · next error reached failed =>
              cases raised
              have soundTicked := storing.sound_run failed isSound
              have soundRead : sound read :=
                storing.before read .now soundTicked
              obtain ⟨there, listed, _, _, listsRead, _⟩ :=
                storing.lists_halfway halfway soundRead lists
              have listsTicked :=
                storing.lists_ticked soundTicked listsRead
              rcases stopped_or_interrupted listsTicked.1 failed with
                stopped | ⟨manifest, interrupted⟩
              · exact Or.inr (Or.inl (.upload halfway stopped))
              · exact Or.inr (Or.inr (.manifest halfway interrupted))
          · cases raised

end Update

/-! ## States that are kept -/

/-- Both copies are those of what has been written. -/
structure StatesKept
    (models : Models) (holds : World live → String → Bytes → Prop)
    (kv : KvId) (written : List (String × AgentState))
    (map : Mapping String Bytes) (world : World live) : Prop where
  lists : ∃ roots, Lists holds kv roots map world
  swarm : SwarmStored models written map
  agents : AgentsStored models written map

/-- No state of the swarm stands for one without writes. -/
def SwarmShows (written : List (String × AgentState)) :
    Option SwarmState → Prop
  | none => written = []
  | some swarm => SwarmOf written swarm

section Kept

variable
  {client : ZeroGClient} {sound : World live → Prop}
  {holds : World live → String → Bytes → Prop} {models : Models}
  {kv : KvId} {role : String} {update : StatusUpdate}
  {written : List (String × AgentState)} {map : Mapping String Bytes}
  {world last : World live}

theorem statesKept_fresh (fresh : world.kvs kv = .fresh) :
    StatesKept models holds kv [] .empty world where
  lists := by
    refine ⟨.empty, ?_, Mapping.related_empty⟩
    rw [fresh]
    rfl
  swarm := rfl
  agents := fun _ => rfl

/-- A read of the swarm's state that returns gives what has been written. -/
theorem DownloadsRight.readSwarmState
    (right : DownloadsRight sources client holds)
    {roots : Mapping String String}
    (lists : Lists holds kv roots map world)
    (stored : SwarmStored models written map) {swarm : SwarmState}
    (returned : ((makeAgentMemory kv role client).readSwarmState models).run
      (environment live sources) world = (.ok swarm, last)) :
    SwarmOf written swarm := by
  obtain ⟨found, reached, got, rest⟩ :=
    (Program.run_bind_eq_ok_iff _ _ _ _ _ _).mp returned
  have isFound : found = map.get? KVKey.swarmState :=
    right.get lists (congrArg Prod.fst got)
  rw [SwarmStored, ← isFound] at stored
  cases found with
  | none =>
      cases rest
      rw [stored]
      exact swarmOf_default _
  | some raw =>
      obtain ⟨there, decoded, agrees⟩ := stored
      simp only [Option.map_some, decoded] at rest
      cases rest
      exact agrees

/-- `read_agent_state` gives the record that is there. -/
theorem DownloadsRight.recordRead
    (right : DownloadsRight sources client holds)
    {roots : Mapping String String}
    (lists : Lists holds kv roots map world) {asked : Option String}
    {record : Option AgentState}
    (returned : ((makeAgentMemory kv role client).readAgentState models
      asked).run (environment live sources) world = (.ok record, last)) :
    RecordRead models holds kv world
      ((makeAgentMemory kv role client).targetRole asked) record := by
  obtain ⟨found, reached, got, rest⟩ :=
    (Program.run_bind_eq_ok_iff _ _ _ _ _ _).mp returned
  have isFound := right.get lists (congrArg Prod.fst got)
  have finds := lists.finds (KVKey.agentState
    ((makeAgentMemory kv role client).targetRole asked))
  rw [← isFound] at finds
  refine ⟨found, finds, ?_⟩
  cases found with
  | none =>
      cases rest
      rfl
  | some raw =>
      obtain ⟨state, _, decoded, ended⟩ :=
        (Program.run_bind_eq_ok_iff _ _ _ _ _ _).mp rest
      cases ended
      rw [Program.run_ofExcept] at decoded
      rw [Option.map_some, Option.map_some, (Prod.mk.inj decoded).1]

/-- `read_swarm_state` gives the state that is there, or a new one. -/
theorem DownloadsRight.swarmRead
    (right : DownloadsRight sources client holds)
    {roots : Mapping String String}
    (lists : Lists holds kv roots map world) {swarm : SwarmState}
    (returned : ((makeAgentMemory kv role client).readSwarmState
      models).run (environment live sources) world = (.ok swarm, last)) :
    ∃ read, SwarmRead models holds kv world read ∧
      (read = some swarm ∨ read = none ∧ ∃ now, swarm = .default now) := by
  obtain ⟨found, reached, got, rest⟩ :=
    (Program.run_bind_eq_ok_iff _ _ _ _ _ _).mp returned
  have isFound := right.get lists (congrArg Prod.fst got)
  have finds := lists.finds KVKey.swarmState
  rw [← isFound] at finds
  refine ⟨_, ⟨found, finds, rfl⟩, ?_⟩
  cases found with
  | none =>
      cases rest
      exact Or.inr ⟨rfl, _, rfl⟩
  | some raw =>
      rw [Option.bind_some]
      cases decoded : models.swarmState.decode raw with
      | error exc =>
          simp only [Option.map_some, decoded] at rest
          cases rest
          exact Or.inr ⟨rfl, _, rfl⟩
      | ok state =>
          simp only [Option.map_some, decoded] at rest
          cases rest
          exact Or.inl rfl

/-- Both copies of one more state. -/
theorem BothWritten.statesKept
    (right : DownloadsRight sources client holds)
    (both : BothWritten sources models holds
      (makeAgentMemory kv role client) update map world last)
    (inverse : models.InverseOn (Held holds last))
    (kept : StatesKept models holds kv written map world) :
    ∃ after, StatesKept models holds kv
      (written ++ [(role, writtenState sources
        (makeAgentMemory kv role client) update world)]) after last := by
  obtain ⟨swarm, read, stored, listed, all, listsStored, returned,
    listsNow, held, swarmHeld⟩ := both
  have otherKey : KVKey.swarmState ≠ KVKey.agentState role :=
    Ne.symm (KVKey.agentState_ne_swarmState role)
  have swarmBetween := kept.swarm.congr
    (map.get?_set_of_ne otherKey (models.agentState.encode
      (writtenState sources (makeAgentMemory kv role client) update world)))
  have agrees := right.readSwarmState listsStored swarmBetween returned
  refine ⟨_, ⟨all, listsNow⟩, ?_, ?_⟩
  · rw [SwarmStored, Mapping.get?_set_self]
    exact ⟨_, inverse.swarmState _ swarmHeld,
      agrees.updateAgent role _ _⟩
  · have decodes := inverse.agentState _ held
    apply AgentsStored.congr (kept.agents.set decodes)
    intro tested
    exact Mapping.get?_set_of_ne _
      (KVKey.agentState_ne_swarmState tested) _

variable (storing : Storing sources client sound holds)

include storing

theorem Storing.recordRead_iff
    (kept : StatesKept models holds kv written map world) (role : String)
    (record : Option AgentState) :
    RecordRead models holds kv world role record ↔
      record = lastWritten written role := by
  obtain ⟨⟨roots, lists⟩, _, agents⟩ := kept
  have isThere := agents role
  have finds := lists.finds (KVKey.agentState role)
  cases found : map.get? (KVKey.agentState role) with
  | none =>
      rw [found] at isThere finds
      rw [isThere]
      constructor
      · intro read
        obtain ⟨other, isOther, decoded⟩ := read
        rw [storing.finds_unique isOther finds] at decoded
        cases record with
        | none => rfl
        | some state => cases decoded
      · intro same
        rw [same]
        exact ⟨none, finds, rfl⟩
  | some raw =>
      rw [found] at isThere finds
      obtain ⟨state, decodes, isLast⟩ := isThere
      rw [isLast]
      constructor
      · intro read
        obtain ⟨other, isOther, decoded⟩ := read
        rw [storing.finds_unique isOther finds, Option.map_some,
          decodes] at decoded
        cases record with
        | none => cases decoded
        | some recorded =>
            cases decoded
            rfl
      · intro same
        rw [same]
        refine ⟨some raw, finds, ?_⟩
        rw [Option.map_some, decodes]
        rfl

theorem Storing.swarmRead_iff {roots : Mapping String String}
    (lists : Lists holds kv roots map world) (swarm : Option SwarmState) :
    SwarmRead models holds kv world swarm ↔
      swarm = (map.get? KVKey.swarmState).bind fun raw =>
        (models.swarmState.decode raw).toOption := by
  constructor
  · intro read
    obtain ⟨found, finds, isSwarm⟩ := read
    rw [(storing.finds_iff lists _ _).mp finds] at isSwarm
    exact isSwarm
  · intro isSwarm
    exact ⟨_, lists.finds _, isSwarm⟩

/-- The swarm's state that is read has what has been written. -/
theorem Storing.swarmShows_read
    (kept : StatesKept models holds kv written map world)
    {swarm : Option SwarmState}
    (read : SwarmRead models holds kv world swarm) :
    SwarmShows written swarm := by
  obtain ⟨⟨roots, lists⟩, stored, _⟩ := kept
  have isSwarm := (storing.swarmRead_iff lists swarm).mp read
  rw [SwarmStored] at stored
  cases found : map.get? KVKey.swarmState with
  | none =>
      rw [found] at stored isSwarm
      rw [isSwarm]
      exact stored
  | some raw =>
      rw [found] at stored isSwarm
      obtain ⟨state, decodes, agrees⟩ := stored
      rw [Option.bind_some, decodes] at isSwarm
      rw [isSwarm]
      exact agrees

theorem Storing.inStep
    (kept : StatesKept models holds kv written map world) :
    InStep models holds kv world := by
  intro role record swarm isRecord isSwarm
  have recordLast := (storing.recordRead_iff kept role record).mp isRecord
  have agrees := storing.swarmShows_read kept isSwarm
  cases swarm with
  | none =>
      have nothing : written = [] := agrees
      rw [recordLast, nothing]
      rfl
  | some state =>
      have holdsAll : SwarmOf written state := agrees
      rw [recordLast, Option.bind_some, holdsAll.agents role]

/-- A record that was there already is there again. -/
theorem Storing.statesKept_between
    (stops : StopsBetween sources models (makeAgentMemory kv role client)
      update world last)
    (isSound : sound last) (inverse : models.InverseOn (Held holds last))
    (kept : StatesKept models holds kv written map world)
    (same : lastWritten written role = some (writtenState sources
      (makeAgentMemory kv role client) update world)) :
    ∃ after, StatesKept models holds kv written after last ∧
      after.get? KVKey.swarmState = map.get? KVKey.swarmState := by
  obtain ⟨roots, lists⟩ := kept.lists
  obtain ⟨listed, listsNow, held⟩ :=
    storing.lists_between stops isSound lists
  have decodes := inverse.agentState _ held
  have otherKey : KVKey.swarmState ≠ KVKey.agentState role :=
    Ne.symm (KVKey.agentState_ne_swarmState role)
  have swarmThere := map.get?_set_of_ne otherKey
    (models.agentState.encode (writtenState sources
      (makeAgentMemory kv role client) update world))
  refine ⟨_, ⟨⟨listed, listsNow⟩, kept.swarm.congr swarmThere, ?_⟩,
    swarmThere⟩
  intro tested
  by_cases isRole : tested = role
  · rw [isRole, Mapping.get?_set_self]
    exact ⟨_, decodes, same⟩
  · have different : KVKey.agentState tested ≠ KVKey.agentState role :=
      fun sameKey => isRole (KVKey.agentState_injective sameKey)
    rw [Mapping.get?_set_of_ne _ different]
    exact kept.agents tested

omit storing in
/-- After what leaves every key but that of the log alone. -/
theorem StatesKept.of_listsExcept
    (kept : StatesKept models holds kv written map world)
    (lists : ListsExcept holds kv KVKey.logIndex map last) :
    ∃ after, StatesKept models holds kv written after last := by
  obtain ⟨roots, other, listsNow, same⟩ := lists
  refine ⟨other, ⟨roots, listsNow⟩, ?_, ?_⟩
  · exact kept.swarm.congr (same _ KVKey.swarmState_ne_logIndex)
  · exact kept.agents.congr fun role =>
      same _ (KVKey.agentState_ne_logIndex role)

/-- Both reads see one and the same. -/
theorem Storing.sameReads
    {other : Mapping String Bytes}
    (before : StatesKept models holds kv written map world)
    (after : StatesKept models holds kv written other last)
    (sameSwarm : other.get? KVKey.swarmState =
      map.get? KVKey.swarmState) :
    SameReads models holds kv world last where
  record := by
    intro role record
    rw [storing.recordRead_iff before, storing.recordRead_iff after]
  swarm := by
    intro swarm
    obtain ⟨_, lists⟩ := before.lists
    obtain ⟨_, listsNow⟩ := after.lists
    rw [storing.swarmRead_iff lists, storing.swarmRead_iff listsNow,
      sameSwarm]

/-- The version of the swarm's state tells how much has been written. -/
theorem Storing.length_of_sameReads
    {more : List (String × AgentState)} {other : Mapping String Bytes}
    (before : StatesKept models holds kv written map world)
    (after : StatesKept models holds kv more other last)
    (same : SameReads models holds kv world last) :
    more.length = written.length := by
  obtain ⟨_, lists⟩ := after.lists
  have read : SwarmRead models holds kv last
      ((other.get? KVKey.swarmState).bind fun raw =>
        (models.swarmState.decode raw).toOption) :=
    (storing.swarmRead_iff lists _).mpr rfl
  have showsNow := storing.swarmShows_read after read
  have shows := storing.swarmShows_read before ((same.swarm _).mp read)
  cases swarm : (other.get? KVKey.swarmState).bind fun raw =>
      (models.swarmState.decode raw).toOption with
  | none =>
      rw [swarm] at shows showsNow
      have noMore : more = [] := showsNow
      have none_ : written = [] := shows
      rw [noMore, none_]
  | some state =>
      rw [swarm] at shows showsNow
      have agreesNow : SwarmOf more state := showsNow
      have agrees : SwarmOf written state := shows
      have sameVersion := agreesNow.version.symm.trans agrees.version
      exact Int.ofNat.inj sameVersion

end Kept

/-! ## Calls that may raise, one after another -/

/-- A call through a memory, or anything that is done elsewhere. -/
inductive StorageOp where
  | call (op : MemoryOp)
  | elsewhere (program : Steps Unit)

namespace StorageOp

def program (models : Models) : StorageOp → Steps Unit
  | .call op => op.program models
  | .elsewhere program => program

/-- The memory is one of the set; elsewhere nobody writes to its
`SwarmKV`. -/
def Within (kv : KvId) (roles : List String) (client : ZeroGClient) :
    StorageOp → Prop
  | .call op => op.Within kv roles client
  | .elsewhere program =>
      program.Uses (StorageCall.Within (fun other => other ≠ kv) True)

variable (sources) (models : Models)

/-- What the call leaves behind, however it ends. -/
def after (op : StorageOp) (world : World live) : World live :=
  ((op.program models).run (environment live sources) world).2

theorem run_eq {sources : Sources} {models : Models} {op : StorageOp}
    {world : World live} {outcome : Except Exception Unit}
    (ended : ((op.program models).run (environment live sources) world).1 =
      outcome) :
    (op.program models).run (environment live sources) world =
      (outcome, op.after sources models world) :=
  Prod.ext ended rfl

def afterAll (world : World live) (ops : List StorageOp) : World live :=
  ops.foldl (fun reached op => op.after sources models reached) world

variable
  (holds : World live → String → Bytes → Prop) (kv : KvId)

/-- An update that raises leaves both reads as they were. -/
def Whole (op : StorageOp) (world : World live) : Prop :=
  match op with
  | .call ⟨memory, .updateStatus update⟩ =>
      ∀ exc last,
        (memory.updateStatus models update).run (environment live sources)
            world = (.error exc, last) →
          SameReads models holds kv world last
  | _ => True

/-- Nothing raises once the record is under its key, unless the same record
was there and the swarm's state is not yet under its own. -/
def Fits (op : StorageOp) (world : World live) : Prop :=
  match op with
  | .call ⟨memory, .updateStatus update⟩ =>
      (∀ last, ¬ StopsAfter sources models memory update world last) ∧
        ∀ last, StopsBetween sources models memory update world last →
          RecordRead models holds kv world memory.role
            (some (writtenState sources memory update world))
  | _ => True

end StorageOp

/-- In every state that is reached the copies are in step, and every update is
all or nothing. -/
def WholeThroughout (sources : Sources) (models : Models)
    (holds : World live → String → Bytes → Prop) (kv : KvId)
    (world : World live) : List StorageOp → Prop
  | [] => InStep models holds kv world
  | op :: ops =>
      InStep models holds kv world ∧ op.Whole sources models holds kv world ∧
        WholeThroughout sources models holds kv
          (op.after sources models world) ops

def UpdatesFit (sources : Sources) (models : Models)
    (holds : World live → String → Bytes → Prop) (kv : KvId)
    (world : World live) : List StorageOp → Prop
  | [] => True
  | op :: ops =>
      op.Fits sources models holds kv world ∧
        UpdatesFit sources models holds kv (op.after sources models world)
          ops

section Run

variable
  {client : ZeroGClient} {sound : World live → Prop}
  {holds : World live → String → Bytes → Prop} {models : Models}
  {kv : KvId} {roles : List String}
  {written : List (String × AgentState)} {map : Mapping String Bytes}
  {world : World live}
  (storing : Storing sources client sound holds)
  (right : DownloadsRight sources client holds)
  (inverse : ∀ world, sound world → models.InverseOn (Held holds world))

include storing

/-- Whatever does not update a status leaves the states alone. -/
theorem Storing.statesKept_uses {program : Steps Unit}
    {kvs : KvId → Prop} {stores : Prop}
    (uses : program.Uses (StorageCall.Within kvs stores))
    (elsewhere : ¬ kvs kv)
    (isSound : sound (program.run (environment live sources) world).2)
    (kept : StatesKept models holds kv written map world) :
    StatesKept models holds kv written map
      (program.run (environment live sources) world).2 := by
  obtain ⟨roots, lists⟩ := kept.lists
  have listsNow := storing.lists_uses uses rfl isSound elsewhere lists
  exact ⟨⟨roots, listsNow⟩, kept.swarm, kept.agents⟩

variable (models kv) in
/-- A log event leaves the states alone, however it ends. -/
theorem Storing.logEvent_keeps (role : String) (eventType : LogEventType)
    (data : Option Dict) (map : Mapping String Bytes) :
    Keeps storing.setting (ListsExcept holds kv KVKey.logIndex map)
      ((makeAgentMemory kv role client).logEvent models eventType
        data) := by
  have reading {α : Type} {program : Steps α}
      (uses : program.Uses
        (StorageCall.Within (fun _ => False) True)) :
      Keeps storing.setting (ListsExcept holds kv KVKey.logIndex map)
        program :=
    storing.keeps_listsExcept uses id KVKey.logIndex map
  have clock : (ask .now).Uses
      (StorageCall.Within (fun _ => False) True) :=
    uses_ask_bind trivial fun _ => Program.uses_done _
  have extended (root : String) :
      Keeps storing.setting (ListsExcept holds kv KVKey.logIndex map)
        (SwarmLog.extendIndex ⟨client, ⟨kv, client⟩⟩ models root) := by
    apply (reading (uses_loadIndex _ models)).bind
    intro index
    apply (reading clock).bind
    intro now
    apply (storing.set_keeps kv KVKey.logIndex _ map).bind
    exact fun _ => Keeps.done _
  have appended : Keeps storing.setting
      (ListsExcept holds kv KVKey.logIndex map)
      (SwarmLog.append ⟨client, ⟨kv, client⟩⟩ models eventType role
        (some (data.getD []))) := by
    apply (reading (uses_newEntry _ _ _)).bind
    intro entry
    apply (reading (uses_upload trivial client _)).bind
    intro result
    apply (extended result.rootHash).bind
    exact fun _ => Keeps.done _
  apply appended.bind
  exact fun _ => Keeps.done _

include right inverse in
/-- An update is all or nothing where it fits. -/
theorem Storing.whole_update_iff {role : String} {update : StatusUpdate}
    (isSound : sound (((makeAgentMemory kv role client).updateStatus models
      update).run (environment live sources) world).2)
    (kept : StatesKept models holds kv written map world) :
    (StorageOp.call ⟨makeAgentMemory kv role client,
        .updateStatus update⟩).Whole sources models holds kv world ↔
      (StorageOp.call ⟨makeAgentMemory kv role client,
        .updateStatus update⟩).Fits sources models holds kv world := by
  obtain ⟨roots, lists⟩ := kept.lists
  have soundAt {exc : Exception} {last : World live}
      (raised : ((makeAgentMemory kv role client).updateStatus models
        update).run (environment live sources) world =
          (.error exc, last)) : sound last := by
    have there := isSound
    rw [raised] at there
    exact there
  constructor
  · intro whole
    constructor
    · intro last stops
      obtain ⟨exc, raised⟩ := stops.raises
      have soundLast := soundAt raised
      have both := storing.bothWritten_after stops soundLast lists
      obtain ⟨after, keptNow⟩ :=
        both.statesKept right (inverse last soundLast) kept
      have sameLength :=
        storing.length_of_sameReads kept keptNow (whole exc last raised)
      rw [List.length_append, List.length_singleton] at sameLength
      omega
    · intro last stops
      obtain ⟨exc, raised⟩ := stops.raises
      have soundLast := soundAt raised
      obtain ⟨listed, listsNow, held⟩ :=
        storing.lists_between stops soundLast lists
      have decodes := (inverse last soundLast).agentState _ held
      have read : RecordRead models holds kv last role
          (some (writtenState sources (makeAgentMemory kv role client)
            update world)) := by
        refine ⟨_, listsNow.finds (KVKey.agentState role), ?_⟩
        rw [Mapping.get?_set_self, Option.map_some, decodes]
        rfl
      exact ((whole exc last raised).record role _).mp read
  · intro fits exc last raised
    have soundLast := soundAt raised
    rcases storing.update_raises_cases raised soundLast lists with
      unchanged | between | afterwards
    · have keptNow : StatesKept models holds kv written map last :=
        ⟨⟨roots, unchanged⟩, kept.swarm, kept.agents⟩
      exact storing.sameReads kept keptNow rfl
    · have same := (storing.recordRead_iff kept role _).mp
        (fits.2 last between)
      obtain ⟨after, keptNow, sameSwarm⟩ := storing.statesKept_between
        between soundLast (inverse last soundLast) kept same.symm
      exact storing.sameReads kept keptNow sameSwarm
    · exact absurd afterwards (fits.1 last)


include right inverse in
/-- What fits keeps the copies those of what has been written. -/
theorem Storing.statesKept_update {role : String} {update : StatusUpdate}
    (isSound : sound (((makeAgentMemory kv role client).updateStatus models
      update).run (environment live sources) world).2)
    (fits : (StorageOp.call ⟨makeAgentMemory kv role client,
      .updateStatus update⟩).Fits sources models holds kv world)
    (kept : StatesKept models holds kv written map world) :
    ∃ all after, StatesKept models holds kv all after
      (((makeAgentMemory kv role client).updateStatus models update).run
        (environment live sources) world).2 := by
  obtain ⟨roots, lists⟩ := kept.lists
  cases ran : ((makeAgentMemory kv role client).updateStatus models
      update).run (environment live sources) world with
  | mk outcome last =>
      rw [ran] at isSound
      cases outcome with
      | ok done =>
          have both :=
            storing.bothWritten_returned ran isSound lists
          obtain ⟨after, keptNow⟩ :=
            both.statesKept right (inverse last isSound) kept
          exact ⟨_, after, keptNow⟩
      | error exc =>
          rcases storing.update_raises_cases ran isSound lists with
            unchanged | between | afterwards
          · exact ⟨written, map, ⟨roots, unchanged⟩, kept.swarm,
              kept.agents⟩
          · have same := (storing.recordRead_iff kept role _).mp
              (fits.2 last between)
            obtain ⟨after, keptNow, _⟩ := storing.statesKept_between
              between isSound (inverse last isSound) kept same.symm
            exact ⟨written, after, keptNow⟩
          · exact absurd afterwards (fits.1 last)

include right inverse in
/-- So does every other call. -/
theorem Storing.statesKept_op {op : StorageOp}
    (inside : op.Within kv roles client)
    (isSound : sound (op.after sources models world))
    (fits : op.Fits sources models holds kv world)
    (kept : StatesKept models holds kv written map world) :
    ∃ all after, StatesKept models holds kv all after
      (op.after sources models world) := by
  cases op with
  | elsewhere program =>
      have other : ¬ kv ≠ kv := fun different => different rfl
      exact ⟨written, map,
        storing.statesKept_uses inside other isSound kept⟩
  | call op =>
      obtain ⟨memory, asked⟩ := op
      obtain ⟨role, isMember⟩ := inside
      obtain ⟨_, isMemory⟩ := mem_makeSharedMemorySet.mp isMember
      have isMade : memory = makeAgentMemory kv role client := isMemory
      subst isMade
      have unwritten {program : Steps Unit}
          (uses : program.Uses
            (StorageCall.Within (fun _ => False) False))
          (soundNow : sound
            (program.run (environment live sources) world).2) :
          ∃ all after, StatesKept models holds kv all after
            (program.run (environment live sources) world).2 :=
        ⟨written, map, storing.statesKept_uses uses id soundNow kept⟩
      cases asked with
      | updateStatus update =>
          exact storing.statesKept_update right inverse isSound fits kept
      | logEvent eventType data =>
          obtain ⟨roots, lists⟩ := kept.lists
          have start : ListsExcept holds kv KVKey.logIndex map world :=
            ⟨roots, map, lists, fun _ _ => rfl⟩
          have keeps :=
            storing.logEvent_keeps models kv role eventType data map
          have logged :=
            keeps.bind (fun _ => Keeps.done ()) world start isSound
          obtain ⟨after, keptNow⟩ := kept.of_listsExcept logged
          exact ⟨written, after, keptNow⟩
      | readSwarmState =>
          exact unwritten (uses_readCall (uses_readSwarmState _ models))
            isSound
      | readAgentState role =>
          exact unwritten (uses_readCall (uses_readAgentState _ models role))
            isSound
      | readRecentLog limit =>
          exact unwritten (uses_readCall (uses_readRecentLog _ models limit))
            isSound

include right inverse in
/-- One call is all or nothing exactly where it fits. -/
theorem Storing.whole_iff {op : StorageOp}
    (inside : op.Within kv roles client)
    (isSound : sound (op.after sources models world))
    (kept : StatesKept models holds kv written map world) :
    op.Whole sources models holds kv world ↔
      op.Fits sources models holds kv world := by
  cases op with
  | elsewhere program => exact Iff.rfl
  | call op =>
      obtain ⟨memory, asked⟩ := op
      obtain ⟨role, isMember⟩ := inside
      obtain ⟨_, isMemory⟩ := mem_makeSharedMemorySet.mp isMember
      have isMade : memory = makeAgentMemory kv role client := isMemory
      subst isMade
      cases asked with
      | updateStatus update =>
          exact storing.whole_update_iff right inverse isSound kept
      | _ => exact Iff.rfl

theorem Storing.sound_afterAll {ops : List StorageOp}
    (isSound : sound (StorageOp.afterAll sources models world ops)) :
    sound world := by
  induction ops generalizing world with
  | nil => exact isSound
  | cons op ops inductionHypothesis =>
      have soundNext : sound (op.after sources models world) :=
        inductionHypothesis isSound
      exact storing.sound_run rfl soundNext

include right inverse in
theorem Storing.wholeThroughout_of {ops : List StorageOp}
    (inside : ∀ op ∈ ops, op.Within kv roles client)
    (isSound : sound (StorageOp.afterAll sources models world ops))
    (kept : StatesKept models holds kv written map world) :
    WholeThroughout sources models holds kv world ops ↔
      UpdatesFit sources models holds kv world ops := by
  induction ops generalizing world written map with
  | nil => exact iff_of_true (storing.inStep kept) trivial
  | cons op ops inductionHypothesis =>
      have opInside := inside op List.mem_cons_self
      have restInside : ∀ later ∈ ops, later.Within kv roles client :=
        fun later member => inside later (List.mem_cons_of_mem _ member)
      have soundRest : sound (StorageOp.afterAll sources models
          (op.after sources models world) ops) := isSound
      have soundNext := storing.sound_afterAll soundRest
      have here :=
        storing.whole_iff right inverse opInside soundNext kept
      have later (fits : op.Fits sources models holds kv world) :
          WholeThroughout sources models holds kv
              (op.after sources models world) ops ↔
            UpdatesFit sources models holds kv
              (op.after sources models world) ops := by
        obtain ⟨all, after, keptNow⟩ := storing.statesKept_op right inverse
          opInside soundNext fits kept
        exact inductionHypothesis restInside soundRest keptNow
      constructor
      · intro whole
        have fits := here.mp whole.2.1
        exact ⟨fits, (later fits).mp whole.2.2⟩
      · intro fit
        exact ⟨storing.inStep kept, here.mpr fit.1,
          (later fit.1).mpr fit.2⟩

end Run

/-- From the first call on, the copies stay in step and every update is all or
nothing exactly when every update fits. -/
theorem wholeThroughout_iff (sources : Sources) (models : Models)
    (client : ZeroGClient)
    (store : client.backend = .live → FlakyStore live) (kv : KvId)
    (roles : List String) {ops : List StorageOp}
    (inside : ∀ op ∈ ops, op.Within kv roles client) {first : World live}
    (fresh : first.kvs kv = .fresh)
    (collisionFree : CollisionFree
      (StorageOp.afterAll sources models first ops).kept)
    (inverse : models.InverseOn
      (Held (client.Holds fun isLive => (store isLive).toBlobStore)
        (StorageOp.afterAll sources models first ops))) :
    WholeThroughout sources models
        (client.Holds fun isLive => (store isLive).toBlobStore) kv first
        ops ↔
      UpdatesFit sources models
        (client.Holds fun isLive => (store isLive).toBlobStore) kv first
        ops := by
  have storing := (storing_client sources client
    fun isLive => (store isLive).toBlobStore).withModels models
  have right := downloadsRight_client sources client store
  have isSound : CollisionFree
        (StorageOp.afterAll sources models first ops).kept ∧
      models.InverseOn
        (Held (client.Holds fun isLive => (store isLive).toBlobStore)
          (StorageOp.afterAll sources models first ops)) :=
    ⟨collisionFree, inverse⟩
  exact storing.wholeThroughout_of right (fun _ sound => sound.2) inside
    isSound (statesKept_fresh fresh)

/-! ## Uploads that run out -/

def lastUpdate : StatusUpdate :=
  ⟨.idle, none, none, none, none, none⟩

def lastState : AgentState :=
  lastUpdate.state "risk" (plainSources.clock 0)

def lastSwarm : SwarmState :=
  (SwarmState.default (plainSources.clock 0)).updateAgent "risk" lastState
    (plainSources.clock 0)

def lastModels : Models :=
  plainModels [lastState] [lastSwarm] [] []

def lastOp : StorageOp :=
  .call ⟨makeAgentMemory 0 "risk" ⟨.live⟩, .updateStatus lastUpdate⟩

/-- The uploads that are left. -/
def limitedStart (uploads : Nat) : World limitedBackend :=
  .boot ((uploads, .empty) : Nat × Mapping String Bytes)

theorem lastModels_inverseOn {world : World limitedBackend}
    (notEmpty : ∀ item ∈ Mapping.items (Prod.snd world.live),
      unframe item.2 ≠ []) :
    lastModels.InverseOn (Held ((⟨.live⟩ : ZeroGClient).Holds
      fun _ => limitedStore.toBlobStore) world) := by
  have distinct : DistinctTexts [lastState] [lastSwarm] [] [] :=
    ⟨List.nodup_singleton _, List.nodup_singleton _, List.nodup_nil,
      List.nodup_nil⟩
  apply plainModels_inverseOn distinct
  intro isHeld
  obtain ⟨root, held⟩ := isHeld
  rw [holds_live] at held
  exact limitedStore_not_holds_nil notEmpty root held

theorem lastOp_within : lastOp.Within 0 ["risk"] ⟨.live⟩ :=
  ⟨"risk", mem_makeSharedMemorySet.mpr ⟨List.mem_cons_self, rfl⟩⟩

/-- The first update goes through, the second cannot store its record. -/
theorem wholeThroughout_iff_four :
    WholeThroughout plainSources lastModels
        ((⟨.live⟩ : ZeroGClient).Holds fun _ => limitedStore.toBlobStore)
        0 (limitedStart 4) [lastOp, lastOp] ↔
      UpdatesFit plainSources lastModels
        ((⟨.live⟩ : ZeroGClient).Holds fun _ => limitedStore.toBlobStore)
        0 (limitedStart 4) [lastOp, lastOp] := by
  have left : CollisionFree (StorageOp.afterAll plainSources lastModels
          (limitedStart 4) [lastOp, lastOp]).kept ∧
      ∀ item ∈ Mapping.items (Prod.snd (StorageOp.afterAll plainSources
          lastModels (limitedStart 4) [lastOp, lastOp]).live),
        unframe item.2 ≠ [] := by
    decide +kernel
  have inside : ∀ op ∈ [lastOp, lastOp],
      op.Within 0 ["risk"] ⟨.live⟩ := by
    intro op member
    have isOp : op = lastOp := by simpa using member
    rw [isOp]
    exact lastOp_within
  exact wholeThroughout_iff plainSources lastModels ⟨.live⟩
    (fun _ => limitedStore) 0 ["risk"] inside rfl left.1
    (lastModels_inverseOn left.2)

/-- The record is stored, and the state of the swarm cannot be. -/
theorem failed_update_shows :
    ¬ ∀ (live : LiveBackend) (sources : Sources) (models : Models)
        (client : ZeroGClient)
        (store : client.backend = .live → FlakyStore live) (kv : KvId)
        (roles : List String) (ops : List StorageOp) (first : World live),
      (∀ op ∈ ops, op.Within kv roles client) →
        first.kvs kv = .fresh →
          CollisionFree
              (StorageOp.afterAll sources models first ops).kept →
            models.InverseOn
                (Held (client.Holds fun isLive =>
                    (store isLive).toBlobStore)
                  (StorageOp.afterAll sources models first ops)) →
              WholeThroughout sources models
                (client.Holds fun isLive => (store isLive).toBlobStore) kv
                first ops := by
  intro always
  have observed : CollisionFree (StorageOp.afterAll plainSources lastModels
          (limitedStart 2) [lastOp]).kept ∧
      (∀ item ∈ Mapping.items (Prod.snd (StorageOp.afterAll plainSources
          lastModels (limitedStart 2) [lastOp]).live),
        unframe item.2 ≠ []) ∧
        ((lastOp.program lastModels).run
            (environment limitedBackend plainSources)
            (limitedStart 2)).1 =
          .error ⟨.runtimeError, "zg-sidecar failed (code 1)"⟩ ∧
        (((lastOp.after plainSources lastModels (limitedStart 2)).kvs
          0).manifest.get (KVKey.agentState "risk")).toOption.map
            Json.typeName = some "str" := by
    decide +kernel
  obtain ⟨collisionFree, notEmpty, raised, isText⟩ := observed
  have inside : ∀ op ∈ [lastOp], op.Within 0 ["risk"] ⟨.live⟩ := by
    intro op member
    rw [List.mem_singleton.mp member]
    exact lastOp_within
  have throughout := always limitedBackend plainSources lastModels ⟨.live⟩
    (fun _ => limitedStore) 0 ["risk"] [lastOp] (limitedStart 2) inside rfl
    collisionFree (lastModels_inverseOn notEmpty)
  have ran : (lastOp.program lastModels).run
      (environment limitedBackend plainSources) (limitedStart 2) =
        (.error ⟨.runtimeError, "zg-sidecar failed (code 1)"⟩,
          lastOp.after plainSources lastModels (limitedStart 2)) :=
    StorageOp.run_eq raised
  have same := throughout.2.1 _ _ ran
  have absent : RecordRead lastModels
      ((⟨.live⟩ : ZeroGClient).Holds fun _ => limitedStore.toBlobStore) 0
      (limitedStart 2) "risk" none :=
    ⟨none, rfl, rfl⟩
  obtain ⟨found, finds, decoded⟩ := (same.record "risk" none).mpr absent
  cases found with
  | some raw => cases decoded
  | none =>
      have isNull : ((lastOp.after plainSources lastModels
          (limitedStart 2)).kvs 0).manifest.get
            (KVKey.agentState "risk") = .ok .null := finds
      rw [isNull] at isText
      exact absurd isText (by decide)

end SwarmFi.Core.Storage

import SwarmFi.Core.Storage.DurableMemory
import SwarmFi.Core.Storage.LogRuns

/-!
# Runs of a shared memory set

Agents whose memories share one `SwarmKV` update their status, log events and
read, one call after another.  The view of the swarm and the record of each
role agree: both hold what the role has written last.
-/

namespace SwarmFi.Core.Storage

open Foundation Python

inductive MemoryCall where
  | updateStatus (update : StatusUpdate)
  | logEvent (eventType : LogEventType) (data : Option Dict)
  | readSwarmState
  | readAgentState (role : Option String)
  | readRecentLog (limit : Int)

def MemoryCall.program (models : Models) (memory : AgentMemory) :
    MemoryCall → Steps Unit
  | .updateStatus update => memory.updateStatus models update
  | .logEvent eventType data => do
      let _ ← memory.logEvent models eventType data
      return ()
  | .readSwarmState => do
      let _ ← memory.readSwarmState models
      return ()
  | .readAgentState role => do
      let _ ← memory.readAgentState models role
      return ()
  | .readRecentLog limit => do
      let _ ← memory.readRecentLog models limit
      return ()

/-- A call and the memory through which it is made. -/
structure MemoryOp where
  memory : AgentMemory
  call : MemoryCall

def MemoryOp.program (models : Models) (op : MemoryOp) : Steps Unit :=
  op.call.program models op.memory

theorem mem_makeSharedMemorySet
    {kv : KvId} {roles : List String} {client : ZeroGClient}
    {role : String} {memory : AgentMemory} :
    (role, memory) ∈ makeSharedMemorySet kv roles client ↔
      role ∈ roles ∧ memory = makeAgentMemory kv role client := by
  simp only [makeSharedMemorySet, List.mem_map, Prod.mk.injEq]
  constructor
  · rintro ⟨_, member, rfl, rfl⟩
    exact ⟨member, rfl⟩
  · rintro ⟨member, rfl⟩
    exact ⟨role, member, rfl, rfl⟩

/-- The memory is one of the set. -/
def MemoryOp.Within
    (kv : KvId) (roles : List String) (client : ZeroGClient)
    (op : MemoryOp) : Prop :=
  ∃ role, (role, op.memory) ∈ makeSharedMemorySet kv roles client

/-! ## What a run writes -/

section Written

variable {live : LiveBackend} (sources : Sources) (models : Models)

/-- The state that the call writes where it begins in the world. -/
def MemoryOp.writes (op : MemoryOp) (world : World live) :
    List (String × AgentState) :=
  match op.call with
  | .updateStatus update =>
      [(op.memory.role,
        update.state op.memory.role (sources.clock world.ticks))]
  | _ => []

/-- One call of a run, with what has been written so far. -/
def writeStep
    (reached : World live × List (String × AgentState)) (op : MemoryOp) :
    World live × List (String × AgentState) :=
  (((op.program models).run (environment live sources) reached.1).2,
    reached.2 ++ op.writes sources reached.1)

/-- What a run writes, in its order. -/
def written (first : World live) (ops : List MemoryOp) :
    List (String × AgentState) :=
  (ops.foldl (writeStep sources models) (first, [])).2

end Written

/-! ## One call and a whole run -/

variable
  {live : LiveBackend} {sources : Sources} {client : ZeroGClient}
  {sound : World live → Prop}
  {holds : World live → String → Bytes → Prop} {models : Models}

theorem uses_readCall
    {α : Type} {kvs : KvId → Prop} {stores : Prop} {program : Steps α}
    (uses : program.Uses (StorageCall.Within kvs stores)) :
    (do
      let _ ← program
      return () : Steps Unit).Uses (StorageCall.Within kvs stores) :=
  uses.bind fun _ => Program.uses_done _

/-- A call writes what it says, and leaves the rest as it is. -/
theorem Durable.memoryOp_remembered
    (durable : Durable sources client sound holds)
    (inverse : ∀ world, sound world → models.InverseOn (Held holds world))
    (kv : KvId) {role : String} {op : MemoryOp}
    (isMemory : op.memory = makeAgentMemory kv role client)
    {written : List (String × AgentState)} {logged : List LogEntry}
    {dict : Mapping String Bytes} {world last : World live} {done : Unit}
    (before : Remembered models holds kv written logged dict world)
    (finished : (op.program models).run (environment live sources) world =
      (.ok done, last))
    (isSound : sound last) :
    ∃ loggedNow after,
      Remembered models holds kv (written ++ op.writes sources world)
        loggedNow after last := by
  obtain ⟨memory, call⟩ := op
  cases isMemory
  have untouched
      (uses : (call.program models (makeAgentMemory kv role client)).Uses
        (StorageCall.Within (fun _ => False) False)) :
      Remembered models holds kv written logged dict last :=
    uses.triple (durable.stable_remembered (fun _ => False) False kv id
      written logged dict) world done last before finished isSound
  cases call with
  | updateStatus update =>
      obtain ⟨after, now⟩ :=
        durable.updateStatus_remembered inverse kv role written logged dict
          update world.ticks world done last ⟨before, rfl⟩ finished isSound
      exact ⟨logged, after, now⟩
  | logEvent eventType data =>
      obtain ⟨root, reached, logged_, ended⟩ :=
        (Program.run_bind_eq_ok_iff _ _ _ _ _ _).mp finished
      cases ended
      obtain ⟨entry, after, _, now⟩ :=
        durable.logEvent_remembered inverse kv role written logged dict
          eventType data world root last before logged_ isSound
      refine ⟨logged ++ [entry], after, ?_⟩
      rw [MemoryOp.writes, List.append_nil]
      exact now
  | readSwarmState =>
      refine ⟨logged, dict, ?_⟩
      rw [MemoryOp.writes, List.append_nil]
      exact untouched (uses_readCall (uses_readSwarmState _ models))
  | readAgentState asked =>
      refine ⟨logged, dict, ?_⟩
      rw [MemoryOp.writes, List.append_nil]
      exact untouched (uses_readCall (uses_readAgentState _ models asked))
  | readRecentLog limit =>
      refine ⟨logged, dict, ?_⟩
      rw [MemoryOp.writes, List.append_nil]
      exact untouched (uses_readCall (uses_readRecentLog _ models limit))

theorem Durable.memoryOps_remembered
    (durable : Durable sources client sound holds)
    (inverse : ∀ world, sound world → models.InverseOn (Held holds world))
    (kv : KvId) {roles : List String} {ops : List MemoryOp}
    (inside : ∀ op ∈ ops, op.Within kv roles client)
    {first last : World live} {answers : List Unit}
    (fresh : first.kvs kv = .fresh)
    (finished : (Program.each (MemoryOp.program models) ops).run
      (environment live sources) first = (.ok answers, last))
    (isSound : sound last) :
    ∃ logged dict,
      Remembered models holds kv (written sources models first ops) logged
        dict last := by
  have steps := run_each_induct durable.setting
    (motive := fun ops _ world =>
      (∀ op ∈ ops, op.Within kv roles client) →
        (ops.foldl (writeStep sources models) (first, [])).1 = world ∧
          ∃ logged dict,
            Remembered models holds kv (written sources models first ops)
              logged dict world)
    ?_ ?_ finished isSound inside
  · exact steps.2
  · exact fun _ => ⟨rfl, [], .empty, remembered_fresh models holds fresh⟩
  · intro ops _ op done world reached soFar opRun reachedSound allInside
    obtain ⟨isWorld, logged, dict, before⟩ :=
      soFar fun earlier member =>
        allInside earlier (List.mem_append_left _ member)
    obtain ⟨role, isMember⟩ :=
      allInside op (List.mem_append_right _ List.mem_cons_self)
    obtain ⟨loggedNow, after, now⟩ :=
      durable.memoryOp_remembered inverse kv
        (mem_makeSharedMemorySet.mp isMember).2 before opRun reachedSound
    have stepped :
        (ops ++ [op]).foldl (writeStep sources models) (first, []) =
          (reached, written sources models first ops ++
            op.writes sources world) := by
      rw [List.foldl_append, List.foldl_cons, List.foldl_nil, writeStep,
        isWorld]
      exact Prod.ext (congrArg Prod.snd opRun) rfl
    refine ⟨congrArg Prod.fst stepped, loggedNow, after, ?_⟩
    rw [written, stepped]
    exact now

/-- After every run, every memory of the set sees the same: the swarm's state
holds what each role has written last, and nothing else, its version counts
the updates, and the record of a role is the same state.  An empty role names
whoever asks. -/
theorem memory_agrees
    (offline : client.backend ≠ .live) (kv : KvId) {roles : List String}
    {ops : List MemoryOp} (inside : ∀ op ∈ ops, op.Within kv roles client)
    (state : live.State) {answers : List Unit} {world : World live}
    (finished : (Program.each (MemoryOp.program models) ops).run
      (environment live sources) (.boot state) = (.ok answers, world))
    (collisionFree : CollisionFree world.kept)
    (inverse : models.InverseOn world.Uploaded)
    {reader : String} {memory : AgentMemory}
    (isReader : (reader, memory) ∈ makeSharedMemorySet kv roles client) :
    (∃ swarm,
      ((memory.readSwarmState models).run
          (environment live sources) world).1 = .ok swarm ∧
        SwarmOf (written sources models (.boot state) ops) swarm) ∧
      ∀ role, role ≠ "" ∨ role = reader →
        ((memory.readAgentState models (some role)).run
            (environment live sources) world).1 =
          .ok (lastWritten (written sources models (.boot state) ops)
            role) := by
  have durable :=
    (durable_local live sources offline).withModels models
  have isSound : CollisionFree world.kept ∧
      models.InverseOn (Held World.Keeps world) :=
    ⟨collisionFree, inverse.mono fun _ ⟨_, keeps⟩ => keeps.uploaded⟩
  obtain ⟨logged, dict, remembered⟩ :=
    durable.memoryOps_remembered (fun _ sound => sound.2) kv inside rfl
      finished isSound
  have calm : durable.setting.Calm
      (StorageCall.Within (fun _ => False) False) :=
    fun state request => durable.calm _ state request
  obtain ⟨_, rfl⟩ := mem_makeSharedMemorySet.mp isReader
  refine ⟨?_, ?_⟩
  · exact durable.readSwarmState_returns kv reader remembered.swarm world
      remembered.logs.shows (calm.run (uses_readSwarmState _ models) isSound)
  · intro role named
    have target :
        (makeAgentMemory kv reader client).targetRole (some role) = role := by
      show (if role = "" then reader else role) = role
      split
      · next empty =>
          rcases named with notEmpty | isReader
          · exact absurd empty notEmpty
          · exact isReader.symm
      · rfl
    have read := durable.answer_of_returns
      (durable.readAgentState_returns kv reader (some role)
        remembered.agents)
      (uses_readAgentState _ models _) isSound remembered.logs.shows
    rw [target] at read
    exact read

/-! ## Two roles -/

def researcherMemory : AgentMemory :=
  makeAgentMemory 0 "researcher" ⟨.inMemory⟩

def riskMemory : AgentMemory :=
  makeAgentMemory 0 "risk" ⟨.inMemory⟩

/-- The researcher reports that it scans. -/
def scanningUpdate : StatusUpdate :=
  ⟨.scanning, none, none, none, none, none⟩

def decidingUpdate : StatusUpdate :=
  ⟨.deciding, none, none, none, none, none⟩

/-- Both update their status, the risk agent logs an event in between, and
each reads what the other has written. -/
def pairOps : List MemoryOp :=
  [⟨researcherMemory, .updateStatus scanningUpdate⟩,
    ⟨riskMemory, .logEvent .agentStarted none⟩,
    ⟨riskMemory, .updateStatus decidingUpdate⟩,
    ⟨researcherMemory, .readSwarmState⟩,
    ⟨riskMemory, .readAgentState (some "researcher")⟩]

def pairWritten : List (String × AgentState) :=
  [("researcher", scanningUpdate.state "researcher" (plainSources.clock 0)),
    ("risk", decidingUpdate.state "risk" (plainSources.clock 0))]

/-- The states of the swarm on the way. -/
def pairSwarms : List SwarmState :=
  pairWritten.inits.tail.map fun items =>
    items.foldl
      (fun swarm item =>
        swarm.updateAgent item.1 item.2 (plainSources.clock 0))
      (.default (plainSources.clock 0))

def pairModels : Models :=
  plainModels (pairWritten.map Prod.snd) pairSwarms [startEntry] [startIndex]

def pairRun : Except Exception (List Unit) × World downBackend :=
  (Program.each (MemoryOp.program pairModels) pairOps).run
    (environment downBackend plainSources) (.boot ())

theorem pairRun_sound :
    pairRun.1.isOk = true ∧ CollisionFree pairRun.2.kept ∧
      pairModels.InverseOn pairRun.2.Uploaded := by
  have run :
      pairRun.1.isOk = true ∧ CollisionFree pairRun.2.kept ∧
        ∀ framed ∈ pairRun.2.kept, unframe framed ≠ [] := by
    decide +kernel
  have distinct : DistinctTexts (pairWritten.map Prod.snd) pairSwarms
      [startEntry] [startIndex] :=
    ⟨by decide +kernel, by decide +kernel, List.nodup_singleton _,
      List.nodup_singleton _⟩
  exact ⟨run.1, run.2.1,
    plainModels_inverseOn distinct (World.not_uploaded_nil run.2.2)⟩

theorem pairOps_inside :
    ∀ op ∈ pairOps, op.Within 0 ["researcher", "risk"] ⟨.inMemory⟩ := by
  have researcher : ∀ call,
      (⟨researcherMemory, call⟩ : MemoryOp).Within 0 ["researcher", "risk"]
        ⟨.inMemory⟩ :=
    fun _ => ⟨"researcher", mem_makeSharedMemorySet.mpr
      ⟨List.mem_cons_self, rfl⟩⟩
  have risk : ∀ call,
      (⟨riskMemory, call⟩ : MemoryOp).Within 0 ["researcher", "risk"]
        ⟨.inMemory⟩ :=
    fun _ => ⟨"risk", mem_makeSharedMemorySet.mpr
      ⟨List.mem_cons_of_mem _ List.mem_cons_self, rfl⟩⟩
  intro op member
  simp only [pairOps, List.mem_cons, List.not_mem_nil, or_false] at member
  rcases member with rfl | rfl | rfl | rfl | rfl
  · exact researcher _
  · exact risk _
  · exact risk _
  · exact researcher _
  · exact risk _

theorem written_pairOps :
    written plainSources pairModels (.boot () : World downBackend) pairOps =
      pairWritten := rfl

/-- The risk agent finds both states, in the swarm's and in the records. -/
theorem memory_agrees_pair :
    (∃ swarm,
      ((riskMemory.readSwarmState pairModels).run
          (environment downBackend plainSources) pairRun.2).1 = .ok swarm ∧
        SwarmOf pairWritten swarm) ∧
      ∀ item ∈ pairWritten,
        ((riskMemory.readAgentState pairModels (some item.1)).run
            (environment downBackend plainSources) pairRun.2).1 =
          .ok (some item.2) := by
  obtain ⟨ended, collisionFree, inverse⟩ := pairRun_sound
  rcases isRun : pairRun with ⟨outcome, world⟩
  rw [isRun] at ended collisionFree inverse
  cases outcome with
  | error exc => cases ended
  | ok answers =>
      rw [pairRun] at isRun
      have offline : (⟨.inMemory⟩ : ZeroGClient).backend ≠ .live := by
        decide
      have isReader :
          ("risk", riskMemory) ∈
            makeSharedMemorySet 0 ["researcher", "risk"] ⟨.inMemory⟩ :=
        mem_makeSharedMemorySet.mpr
          ⟨List.mem_cons_of_mem _ List.mem_cons_self, rfl⟩
      obtain ⟨swarm, records⟩ :=
        @memory_agrees downBackend plainSources ⟨.inMemory⟩ pairModels
          offline 0 ["researcher", "risk"] pairOps pairOps_inside () answers
          world isRun collisionFree inverse "risk" _ isReader
      rw [written_pairOps] at swarm records
      refine ⟨swarm, ?_⟩
      intro item member
      simp only [pairWritten, List.mem_cons, List.not_mem_nil, or_false]
        at member
      rcases member with rfl | rfl
      · exact records "researcher" (Or.inl (by decide))
      · exact records "risk" (Or.inl (by decide))

/-! ## A role without a name -/

def namelessUpdate : StatusUpdate :=
  ⟨.idle, none, none, none, none, none⟩

def namelessState : AgentState :=
  namelessUpdate.state "" (plainSources.clock 0)

def namelessSwarm : SwarmState :=
  (SwarmState.default (plainSources.clock 0)).updateAgent "" namelessState
    (plainSources.clock 0)

def namelessModels : Models :=
  plainModels [namelessState] [namelessSwarm] [] []

def namelessOps : List MemoryOp :=
  [⟨makeAgentMemory 0 "" ⟨.inMemory⟩, .updateStatus namelessUpdate⟩]

def namelessRun : Except Exception (List Unit) × World downBackend :=
  (Program.each (MemoryOp.program namelessModels) namelessOps).run
    (environment downBackend plainSources) (.boot ())

theorem namelessRun_sound :
    namelessRun.1.isOk = true ∧ CollisionFree namelessRun.2.kept ∧
      namelessModels.InverseOn namelessRun.2.Uploaded := by
  have run :
      namelessRun.1.isOk = true ∧ CollisionFree namelessRun.2.kept ∧
        ∀ framed ∈ namelessRun.2.kept, unframe framed ≠ [] := by
    decide +kernel
  have distinct : DistinctTexts [namelessState] [namelessSwarm] [] [] :=
    ⟨List.nodup_singleton _, List.nodup_singleton _, List.nodup_nil,
      List.nodup_nil⟩
  exact ⟨run.1, run.2.1,
    plainModels_inverseOn distinct (World.not_uploaded_nil run.2.2)⟩

theorem namelessOps_inside :
    ∀ op ∈ namelessOps, op.Within 0 ["", "risk"] ⟨.inMemory⟩ := by
  intro op member
  rw [List.mem_singleton.mp member]
  exact ⟨"", mem_makeSharedMemorySet.mpr ⟨List.mem_cons_self, rfl⟩⟩

/-- The other agent asks for the empty role and is given its own record. -/
theorem nameless_record_missed :
    (namelessRun.1.isOk = true ∧ CollisionFree namelessRun.2.kept ∧
        namelessModels.InverseOn namelessRun.2.Uploaded) ∧
      (∀ op ∈ namelessOps, op.Within 0 ["", "risk"] ⟨.inMemory⟩) ∧
        lastWritten
            (written plainSources namelessModels
              (.boot () : World downBackend) namelessOps) "" =
          some namelessState ∧
          (((makeAgentMemory 0 "risk" ⟨.inMemory⟩).readAgentState
              namelessModels (some "")).run
                (environment downBackend plainSources) namelessRun.2).1 =
            .ok none := by
  refine ⟨namelessRun_sound, namelessOps_inside, rfl, ?_⟩
  obtain ⟨ended, collisionFree, inverse⟩ := namelessRun_sound
  rcases isRun : namelessRun with ⟨outcome, world⟩
  rw [isRun] at ended collisionFree inverse
  cases outcome with
  | error exc => cases ended
  | ok answers =>
      rw [namelessRun] at isRun
      have offline : (⟨.inMemory⟩ : ZeroGClient).backend ≠ .live := by
        decide
      have durable :=
        (durable_local downBackend plainSources offline).withModels
          namelessModels
      have isSound : CollisionFree world.kept ∧
          namelessModels.InverseOn (Held World.Keeps world) :=
        ⟨collisionFree, inverse.mono fun _ ⟨_, keeps⟩ => keeps.uploaded⟩
      obtain ⟨logged, dict, remembered⟩ :=
        durable.memoryOps_remembered (fun _ sound => sound.2) 0
          namelessOps_inside rfl isRun isSound
      exact durable.answer_of_returns
        (durable.readAgentState_returns 0 "risk" (some "")
          remembered.agents)
        (uses_readAgentState _ _ _) isSound remembered.logs.shows

end SwarmFi.Core.Storage

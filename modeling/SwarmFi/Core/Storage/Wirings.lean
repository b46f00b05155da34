import SwarmFi.Core.Storage.MemoryRuns

/-!
# Two ways to wire the memories

`make_shared_memory_set` gives all roles one `SwarmKV`; `make_agent_memory`,
which every agent calls when it starts, makes a new one.  What a role sees is
what was written through its `SwarmKV`: in the first wiring all of it, in the
second its own writes.
-/

namespace SwarmFi.Core.Storage

open Foundation Python

inductive AgentWrite where
  | updateStatus (update : StatusUpdate)
  | logEvent (eventType : LogEventType) (data : Option Dict)

def AgentWrite.call : AgentWrite → MemoryCall
  | .updateStatus update => .updateStatus update
  | .logEvent eventType data => .logEvent eventType data

/-- A write and the role that makes it. -/
structure RoleWrite where
  role : String
  write : AgentWrite

/-- `memories[role]`, and the call through it. -/
def RoleWrite.program
    (models : Models) (memories : List (String × AgentMemory))
    (op : RoleWrite) : Steps Unit :=
  match memories.lookup op.role with
  | some memory => op.write.call.program models memory
  | none => .raise ⟨.keyError, "'" ++ op.role ++ "'"⟩

/-- A memory for each role, as the agents make them when they start. -/
def makeAgentMemories
    (kvOf : String → KvId) (roles : List String) (client : ZeroGClient) :
    List (String × AgentMemory) :=
  roles.map fun role => (role, makeAgentMemory (kvOf role) role client)

theorem makeSharedMemorySet_eq
    (kv : KvId) (roles : List String) (client : ZeroGClient) :
    makeSharedMemorySet kv roles client =
      makeAgentMemories (fun _ => kv) roles client := rfl

theorem mem_makeAgentMemories
    {kvOf : String → KvId} {roles : List String} {client : ZeroGClient}
    {role : String} {memory : AgentMemory} :
    (role, memory) ∈ makeAgentMemories kvOf roles client ↔
      role ∈ roles ∧ memory = makeAgentMemory (kvOf role) role client := by
  simp only [makeAgentMemories, List.mem_map, Prod.mk.injEq]
  constructor
  · rintro ⟨_, member, rfl, rfl⟩
    exact ⟨member, rfl⟩
  · rintro ⟨member, rfl⟩
    exact ⟨role, member, rfl, rfl⟩

/-! ## Times and ids left out -/

def AgentState.undated (state : AgentState) : AgentState :=
  { state with lastSeen := "" }

def LogEntry.undated (entry : LogEntry) : LogEntry :=
  { entry with entryId := "", timestamp := "", rootHash := none }

/-- An entry of `read_recent_log` without its time and its id. -/
def undatedView (view : Dict) : Dict :=
  view.filter fun field =>
    field.1 ≠ "entry_id" ∧ field.1 ≠ "timestamp"

/-- The same state of the swarm, but for the times. -/
structure SwarmState.Same (first second : SwarmState) : Prop where
  version : first.version = second.version
  agents : ∀ role,
    (first.agents.get? role).map AgentState.undated =
      (second.agents.get? role).map AgentState.undated
  activeOpportunity : first.activeOpportunity = second.activeOpportunity
  swarmMetadata : first.swarmMetadata = second.swarmMetadata

section SameView

variable {live : LiveBackend} (sources : Sources) (models : Models)

/-- The first memory shows in its world what the second shows in its own,
but for times and ids. -/
structure SameView
    (first : AgentMemory) (firstWorld : World live)
    (second : AgentMemory) (secondWorld : World live) : Prop where
  swarm : ∃ seen other,
    ((first.readSwarmState models).run
        (environment live sources) firstWorld).1 = .ok seen ∧
      ((second.readSwarmState models).run
          (environment live sources) secondWorld).1 = .ok other ∧
        seen.Same other
  log : ∀ limit, ∃ seen other,
    ((first.readRecentLog models limit).run
        (environment live sources) firstWorld).1 = .ok seen ∧
      ((second.readRecentLog models limit).run
          (environment live sources) secondWorld).1 = .ok other ∧
        seen.map undatedView = other.map undatedView

end SameView

/-! ## What goes through a `SwarmKV` -/

/-- The state that an update writes. -/
def RoleWrite.updated (op : RoleWrite) : Option (String × AgentState) :=
  match op.write with
  | .updateStatus update => some (op.role, update.state op.role "")
  | .logEvent _ _ => none

/-- The entry that is logged. -/
def RoleWrite.logged (op : RoleWrite) : Option LogEntry :=
  match op.write with
  | .updateStatus _ => none
  | .logEvent eventType data => some {
      entryId := ""
      eventType := eventType
      agentRole := op.role
      timestamp := ""
      data := data.getD []
      rootHash := none }

/-- The writes of the roles that use the `SwarmKV`. -/
def through (kvOf : String → KvId) (kv : KvId) (ops : List RoleWrite) :
    List RoleWrite :=
  ops.filter fun op => kvOf op.role = kv

theorem length_updated_add_logged (ops : List RoleWrite) :
    (ops.filterMap RoleWrite.updated).length +
      (ops.filterMap RoleWrite.logged).length = ops.length := by
  induction ops with
  | nil => rfl
  | cons op ops inductionHypothesis =>
      obtain ⟨role, write⟩ := op
      cases write with
      | updateStatus update =>
          simp only [List.filterMap_cons, RoleWrite.updated,
            RoleWrite.logged, List.length_cons]
          omega
      | logEvent eventType data =>
          simp only [List.filterMap_cons, RoleWrite.updated,
            RoleWrite.logged, List.length_cons]
          omega

variable
  {live : LiveBackend} {sources : Sources} {client : ZeroGClient}
  {sound : World live → Prop}
  {holds : World live → String → Bytes → Prop} {models : Models}

/-- The memory of the `SwarmKV` holds the writes. -/
def Seen
    (models : Models) (holds : World live → String → Bytes → Prop)
    (kv : KvId) (ops : List RoleWrite) (world : World live) : Prop :=
  ∃ written logged dict,
    Remembered models holds kv written logged dict world ∧
      written.map (Prod.map id AgentState.undated) =
          ops.filterMap RoleWrite.updated ∧
        logged.map LogEntry.undated = ops.filterMap RoleWrite.logged

theorem undated_of_records
    {entry : LogEntry} {eventType : LogEventType} {role : String}
    {data : Option Dict} (records : entry.Records eventType role data) :
    some entry.undated =
      RoleWrite.logged ⟨role, .logEvent eventType data⟩ := by
  obtain ⟨rfl, rfl, isData⟩ := records
  simp only [LogEntry.undated, RoleWrite.logged, isData]

theorem uses_agentWrite
    (models : Models) (kv : KvId) (role : String) (client : ZeroGClient)
    (write : AgentWrite) :
    (write.call.program models (makeAgentMemory kv role client)).Uses
      (StorageCall.Within (· = kv) True) := by
  cases write with
  | updateStatus update =>
      refine uses_updateStatus _ models trivial ?_ update
      rfl
  | logEvent eventType data =>
      refine Program.Uses.bind ?_ fun _ => Program.uses_done _
      refine uses_logEvent _ models trivial ?_ eventType data
      rfl

/-- A write is seen through its own `SwarmKV`. -/
theorem Durable.write_triple
    (durable : Durable sources client sound holds)
    (inverse : ∀ world, sound world → models.InverseOn (Held holds world))
    (kv : KvId) (role : String) (write : AgentWrite)
    (earlier : List RoleWrite) :
    Triple durable.setting (Seen models holds kv earlier)
      (write.call.program models (makeAgentMemory kv role client))
      fun _ => Seen models holds kv (earlier ++ [⟨role, write⟩]) := by
  rintro world done last
    ⟨written, logged, dict, remembered, isWritten, isLogged⟩ finished isSound
  cases write with
  | updateStatus update =>
      obtain ⟨after, now⟩ :=
        durable.updateStatus_remembered inverse kv role written logged dict
          update world.ticks world done last ⟨remembered, rfl⟩ finished
          isSound
      refine ⟨_, _, _, now, ?_, ?_⟩
      · rw [List.map_append, isWritten, List.filterMap_append]
        rfl
      · rw [isLogged, List.filterMap_append]
        exact (List.append_nil _).symm
  | logEvent eventType data =>
      obtain ⟨root, reached, eventRun, ended⟩ :=
        (Program.run_bind_eq_ok_iff _ _ _ _ _ _).mp finished
      cases ended
      obtain ⟨entry, after, records, now⟩ :=
        durable.logEvent_remembered inverse kv role written logged dict
          eventType data world root last remembered eventRun isSound
      refine ⟨_, _, _, now, ?_, ?_⟩
      · rw [isWritten, List.filterMap_append]
        exact (List.append_nil _).symm
      · rw [List.map_append, isLogged, List.filterMap_append,
          List.filterMap_cons, ← undated_of_records records]
        rfl

/-- Each write is seen by the roles that share its `SwarmKV`. -/
theorem Durable.write_seen
    (durable : Durable sources client sound holds)
    (inverse : ∀ world, sound world → models.InverseOn (Held holds world))
    {kvOf : String → KvId} {roles : List String} {op : RoleWrite}
    {world last : World live} {done : Unit}
    (finished : (op.program models
        (makeAgentMemories kvOf roles client)).run
      (environment live sources) world = (.ok done, last))
    (isSound : sound last) {kv : KvId} {earlier : List RoleWrite}
    (before : Seen models holds kv (through kvOf kv earlier) world) :
    op.role ∈ roles ∧
      Seen models holds kv (through kvOf kv (earlier ++ [op])) last := by
  obtain ⟨role, write⟩ := op
  cases found : (makeAgentMemories kvOf roles client).lookup role with
  | none =>
      rw [RoleWrite.program, found] at finished
      cases finished
  | some memory =>
      rw [RoleWrite.program, found] at finished
      obtain ⟨_, _, split, _⟩ := List.lookup_eq_some_iff.mp found
      have member : (role, memory) ∈
          makeAgentMemories kvOf roles client := by
        rw [split]
        exact List.mem_append_right _ List.mem_cons_self
      obtain ⟨isRole, rfl⟩ := mem_makeAgentMemories.mp member
      refine ⟨isRole, ?_⟩
      rw [through, List.filter_append]
      by_cases own : kvOf role = kv
      · subst own
        rw [List.filter_cons_of_pos (by simp), List.filter_nil]
        exact durable.write_triple inverse (kvOf role) role write _ world
          done last before finished isSound
      · rw [List.filter_cons_of_neg (by simpa using own), List.filter_nil,
          List.append_nil]
        obtain ⟨written, logged, dict, remembered, same⟩ := before
        refine ⟨written, logged, dict, ?_, same⟩
        exact (uses_agentWrite models _ role client write).triple
          (durable.stable_remembered (· = kvOf role) True kv (Ne.symm own)
            written logged dict)
          world done last remembered finished isSound

/-- So is each write of a run. -/
theorem Durable.writes_seen
    (durable : Durable sources client sound holds)
    (inverse : ∀ world, sound world → models.InverseOn (Held holds world))
    {kvOf : String → KvId} {roles : List String} {ops : List RoleWrite}
    {first last : World live} {answers : List Unit}
    (fresh : ∀ kv, first.kvs kv = .fresh)
    (finished : (Program.each (RoleWrite.program models
        (makeAgentMemories kvOf roles client)) ops).run
      (environment live sources) first = (.ok answers, last))
    (isSound : sound last) :
    (∀ op ∈ ops, op.role ∈ roles) ∧
      ∀ kv, Seen models holds kv (through kvOf kv ops) last := by
  have steps := run_each_induct durable.setting
    (motive := fun ops _ world =>
      (∀ op ∈ ops, op.role ∈ roles) ∧
        ∀ kv, Seen models holds kv (through kvOf kv ops) world)
    ?_ ?_ finished isSound
  · exact steps
  · exact ⟨nofun, fun kv =>
      ⟨[], [], .empty, remembered_fresh models holds (fresh kv), rfl, rfl⟩⟩
  · rintro ops _ op done world reached ⟨inside, soFar⟩ opRun reachedSound
    have step (kv : KvId) :=
      durable.write_seen inverse opRun reachedSound (soFar kv)
    refine ⟨?_, fun kv => (step kv).2⟩
    intro tested member
    rcases List.mem_append.mp member with earlier | isLast
    · exact inside tested earlier
    · exact List.mem_singleton.mp isLast ▸ (step 0).1

/-! ## What a role sees -/

theorem lastWritten_undated
    (written : List (String × AgentState)) (role : String) :
    lastWritten (written.map (Prod.map id AgentState.undated)) role =
      (lastWritten written role).map AgentState.undated := by
  rw [lastWritten, lastWritten, ← List.map_reverse, lookup_map]

theorem SwarmOf.same
    {written others : List (String × AgentState)}
    {swarm other : SwarmState}
    (agrees : SwarmOf written swarm) (otherAgrees : SwarmOf others other)
    (sameWrites : written.map (Prod.map id AgentState.undated) =
      others.map (Prod.map id AgentState.undated)) :
    swarm.Same other where
  version := by
    have sameLength := congrArg List.length sameWrites
    rw [List.length_map, List.length_map] at sameLength
    rw [agrees.version, otherAgrees.version, sameLength]
  agents := by
    intro role
    rw [agrees.agents, otherAgrees.agents, ← lastWritten_undated,
      ← lastWritten_undated, sameWrites]
  activeOpportunity :=
    agrees.activeOpportunity.trans otherAgrees.activeOpportunity.symm
  swarmMetadata := agrees.swarmMetadata.trans otherAgrees.swarmMetadata.symm

theorem map_undatedView (logged : List LogEntry) (limit : Int) :
    ((sliceFrom logged (-limit)).map fun entry =>
        AgentMemory.entryView entry.stored).map undatedView =
      (sliceFrom (logged.map LogEntry.undated) (-limit)).map fun entry =>
        undatedView (AgentMemory.entryView entry) := by
  rw [← map_sliceFrom, List.map_map, List.map_map]
  rfl

theorem sliceFrom_zero {α : Type} (items : List α) :
    sliceFrom items (-0) = items := rfl

section Views

variable
  (durable : Durable sources client sound holds)
  (inverse : ∀ world, sound world → models.InverseOn (Held holds world))

include durable inverse

theorem Durable.seen_views
    {kv : KvId} {written : List (String × AgentState)}
    {logged : List LogEntry} {dict : Mapping String Bytes}
    {world : World live}
    (remembered : Remembered models holds kv written logged dict world)
    (isSound : sound world) (role : String) :
    (∃ swarm,
      (((makeAgentMemory kv role client).readSwarmState models).run
          (environment live sources) world).1 = .ok swarm ∧
        SwarmOf written swarm) ∧
      ∀ limit,
        (((makeAgentMemory kv role client).readRecentLog models limit).run
            (environment live sources) world).1 =
          .ok ((sliceFrom logged (-limit)).map fun entry =>
            AgentMemory.entryView entry.stored) := by
  have calm : durable.setting.Calm
      (StorageCall.Within (fun _ => False) False) :=
    fun state request => durable.calm _ state request
  constructor
  · exact durable.readSwarmState_returns kv role remembered.swarm world
      remembered.logs.shows (calm.run (uses_readSwarmState _ models) isSound)
  · exact fun limit => durable.answer_of_returns
      (durable.readRecentLog_returns inverse kv role logged dict limit)
      (uses_readRecentLog _ models limit) isSound remembered.logs

/-- The same writes give the same view. -/
theorem Durable.sameView_of_seen
    {kv otherKv : KvId} {ops : List RoleWrite} {world other : World live}
    (seen : Seen models holds kv ops world)
    (otherSeen : Seen models holds otherKv ops other)
    (isSound : sound world) (otherSound : sound other) (role : String) :
    SameView sources models (makeAgentMemory kv role client) world
      (makeAgentMemory otherKv role client) other := by
  obtain ⟨written, logged, dict, remembered, isWritten, isLogged⟩ := seen
  obtain ⟨others, otherLogged, otherDict, otherRemembered, otherWritten,
    otherIsLogged⟩ := otherSeen
  obtain ⟨⟨swarm, isSwarm, agrees⟩, log⟩ :=
    durable.seen_views inverse remembered isSound role
  obtain ⟨⟨otherSwarm, isOther, otherAgrees⟩, otherLog⟩ :=
    durable.seen_views inverse otherRemembered otherSound role
  constructor
  · exact ⟨swarm, otherSwarm, isSwarm, isOther,
      agrees.same otherAgrees (isWritten.trans otherWritten.symm)⟩
  · intro limit
    refine ⟨_, _, log limit, otherLog limit, ?_⟩
    rw [map_undatedView, map_undatedView, isLogged, otherIsLogged]

/-- The view counts the writes. -/
theorem Durable.length_eq_of_sameView
    {kv otherKv : KvId} {ops others : List RoleWrite}
    {world other : World live} (seen : Seen models holds kv ops world)
    (otherSeen : Seen models holds otherKv others other)
    (isSound : sound world) (otherSound : sound other) {role : String}
    (same : SameView sources models (makeAgentMemory kv role client) world
      (makeAgentMemory otherKv role client) other) :
    ops.length = others.length := by
  obtain ⟨written, logged, dict, remembered, isWritten, isLogged⟩ := seen
  obtain ⟨otherWritten, otherLogged, otherDict, otherRemembered,
    otherIsWritten, otherIsLogged⟩ := otherSeen
  obtain ⟨⟨swarm, isSwarm, agrees⟩, log⟩ :=
    durable.seen_views inverse remembered isSound role
  obtain ⟨⟨otherSwarm, isOther, otherAgrees⟩, otherLog⟩ :=
    durable.seen_views inverse otherRemembered otherSound role
  obtain ⟨⟨_, _, asSwarm, asOther, sameSwarm⟩, sameLog⟩ := same
  obtain ⟨_, _, asLog, asOtherLog, sameViews⟩ := sameLog 0
  rw [isSwarm] at asSwarm
  rw [isOther] at asOther
  rw [log] at asLog
  rw [otherLog] at asOtherLog
  cases asSwarm
  cases asOther
  cases asLog
  cases asOtherLog
  have updates : written.length = otherWritten.length := by
    have versions := sameSwarm.version
    rw [agrees.version, otherAgrees.version] at versions
    exact Int.ofNat_inj.mp versions
  have entries : logged.length = otherLogged.length := by
    have lengths := congrArg List.length sameViews
    simpa only [sliceFrom_zero, List.length_map] using lengths
  rw [← length_updated_add_logged ops, ← length_updated_add_logged others,
    ← isWritten, ← isLogged, ← otherIsWritten, ← otherIsLogged,
    List.length_map, List.length_map, List.length_map, List.length_map,
    updates, entries]

end Views

/-! ## The two wirings -/

theorem eq_of_mem_of_length_le_one {α : Type}
    {items : List α} (atMostOne : items.length ≤ 1) {first second : α}
    (isFirst : first ∈ items) (isSecond : second ∈ items) :
    first = second := by
  rcases items with _ | ⟨only, _ | ⟨other, rest⟩⟩
  · cases isFirst
  · rw [List.mem_singleton.mp isFirst, List.mem_singleton.mp isSecond]
  · rw [List.length_cons, List.length_cons] at atMostOne
    omega

/-- Whatever the backend, the wirings give every role the same view exactly
when there are no two roles or nothing has been written. -/
theorem wirings_agree_iff
    (store : client.backend = .live → ContentStore live)
    {kvOf : String → KvId} (sharedKv : KvId) {roles : List String}
    (distinct : roles.Nodup)
    (apart : ∀ first ∈ roles, ∀ second ∈ roles,
      kvOf first = kvOf second → first = second)
    {ops : List RoleWrite} (state : live.State)
    {ownAnswers sharedAnswers : List Unit} {own shared : World live}
    (ownFinished : (Program.each (RoleWrite.program models
        (makeAgentMemories kvOf roles client)) ops).run
      (environment live sources) (.boot state) = (.ok ownAnswers, own))
    (sharedFinished : (Program.each (RoleWrite.program models
        (makeSharedMemorySet sharedKv roles client)) ops).run
      (environment live sources) (.boot state) =
        (.ok sharedAnswers, shared))
    (ownFree : CollisionFree own.kept)
    (sharedFree : CollisionFree shared.kept)
    (ownInverse : models.InverseOn
      (Held (client.Holds fun isLive => (store isLive).toBlobStore) own))
    (sharedInverse : models.InverseOn
      (Held (client.Holds fun isLive => (store isLive).toBlobStore)
        shared)) :
    (∀ role first second,
      (role, first) ∈ makeAgentMemories kvOf roles client →
        (role, second) ∈ makeSharedMemorySet sharedKv roles client →
          SameView sources models first own second shared) ↔
      roles.length ≤ 1 ∨ ops = [] := by
  have durable :=
    (durable_client sources client store).withModels models
  have inverse : ∀ world : World live,
      CollisionFree world.kept ∧
          models.InverseOn
            (Held (client.Holds fun isLive => (store isLive).toBlobStore)
              world) →
        models.InverseOn
          (Held (client.Holds fun isLive => (store isLive).toBlobStore)
            world) :=
    fun _ isSound => isSound.2
  obtain ⟨inside, ownSeen⟩ := durable.writes_seen inverse (fun _ => rfl)
    ownFinished ⟨ownFree, ownInverse⟩
  rw [makeSharedMemorySet_eq] at sharedFinished
  have sharedSeen := (durable.writes_seen inverse (fun _ => rfl)
    sharedFinished ⟨sharedFree, sharedInverse⟩).2 sharedKv
  have all : through (fun _ => sharedKv) sharedKv ops = ops :=
    List.filter_eq_self.mpr fun _ _ => decide_eq_true rfl
  rw [all] at sharedSeen
  have ownSeenAll (role : String) (sameKv : ∀ op ∈ ops,
      kvOf op.role = kvOf role) :
      Seen models (client.Holds fun isLive => (store isLive).toBlobStore)
        (kvOf role) ops own := by
    have everything : through kvOf (kvOf role) ops = ops :=
      List.filter_eq_self.mpr fun op member =>
        decide_eq_true (sameKv op member)
    rw [← everything]
    exact ownSeen (kvOf role)
  constructor
  · intro same
    rcases ops with _ | ⟨op, rest⟩
    · exact Or.inr rfl
    · left
      have alone : ∀ role ∈ roles, role ∈ [op.role] := by
        intro role isRole
        have lengths := durable.length_eq_of_sameView inverse
          (ownSeen (kvOf role)) sharedSeen ⟨ownFree, ownInverse⟩
          ⟨sharedFree, sharedInverse⟩
          (same role _ _ (mem_makeAgentMemories.mpr ⟨isRole, rfl⟩)
            (mem_makeSharedMemorySet.mpr ⟨isRole, rfl⟩))
        have sameKv := of_decide_eq_true
          (List.length_filter_eq_length_iff.mp lengths op
            List.mem_cons_self)
        exact List.mem_singleton.mpr
          (apart op.role (inside op List.mem_cons_self) role isRole
            sameKv).symm
      exact (List.subperm_of_subset distinct alone).length_le
  · rintro few role first second isFirst isSecond
    obtain ⟨isRole, rfl⟩ := mem_makeAgentMemories.mp isFirst
    obtain ⟨_, rfl⟩ := mem_makeSharedMemorySet.mp isSecond
    have sameKv : ∀ op ∈ ops, kvOf op.role = kvOf role := by
      intro op member
      rcases few with atMostOne | noWrites
      · exact congrArg kvOf
          (eq_of_mem_of_length_le_one atMostOne (inside op member) isRole)
      · rw [noWrites] at member
        cases member
    exact durable.sameView_of_seen inverse (ownSeenAll role sameKv)
      sharedSeen ⟨ownFree, ownInverse⟩ ⟨sharedFree, sharedInverse⟩ role

/-! ## Two agents -/

def scanningState : AgentState :=
  scanningUpdate.state "researcher" (plainSources.clock 0)

def scanningSwarm : SwarmState :=
  (SwarmState.default (plainSources.clock 0)).updateAgent "researcher"
    scanningState (plainSources.clock 0)

def scanningModels : Models :=
  plainModels [scanningState] [scanningSwarm] [] []

def twoRoles : List String := ["researcher", "risk"]

def scanningWrites : List RoleWrite :=
  [⟨"researcher", .updateStatus scanningUpdate⟩]

/-- The first memory has the first `SwarmKV`, and so on. -/
def ownKv (role : String) : KvId :=
  twoRoles.idxOf role

def ownRun : Except Exception (List Unit) × World downBackend :=
  (Program.each (RoleWrite.program scanningModels
      (makeAgentMemories ownKv twoRoles ⟨.inMemory⟩)) scanningWrites).run
    (environment downBackend plainSources) (.boot ())

def sharedRun : Except Exception (List Unit) × World downBackend :=
  (Program.each (RoleWrite.program scanningModels
      (makeSharedMemorySet 0 twoRoles ⟨.inMemory⟩)) scanningWrites).run
    (environment downBackend plainSources) (.boot ())

theorem scanningModels_inverseOn
    {world : World downBackend}
    (notEmpty : ∀ framed ∈ world.kept, unframe framed ≠ [])
    (store : (⟨.inMemory⟩ : ZeroGClient).backend = .live →
      ContentStore downBackend) :
    scanningModels.InverseOn
      (Held ((⟨.inMemory⟩ : ZeroGClient).Holds fun isLive =>
        (store isLive).toBlobStore) world) := by
  have distinct :
      DistinctTexts [scanningState] [scanningSwarm] [] [] :=
    ⟨List.nodup_singleton _, List.nodup_singleton _, List.nodup_nil,
      List.nodup_nil⟩
  refine plainModels_inverseOn distinct ?_
  rintro ⟨root, held⟩
  rw [ZeroGClient.Holds, dif_neg (by decide)] at held
  exact World.not_uploaded_nil notEmpty held.uploaded

/-- The version that the risk agent reads. -/
def riskVersion (kv : KvId) (world : World downBackend) : Option Int :=
  (((makeAgentMemory kv "risk" ⟨.inMemory⟩).readSwarmState
      scanningModels).run (environment downBackend plainSources)
      world).1.toOption.map SwarmState.version

/-- The writes returned, and the stored blobs are apart. -/
def Clean (run : Except Exception (List Unit) × World downBackend) : Prop :=
  run.1.isOk = true ∧ CollisionFree run.2.kept ∧
    ∀ framed ∈ run.2.kept, unframe framed ≠ []

theorem ownRun_clean :
    Clean ownRun ∧ riskVersion (ownKv "risk") ownRun.2 = some 0 := by
  rw [Clean]
  decide +kernel

theorem sharedRun_clean :
    Clean sharedRun ∧ riskVersion 0 sharedRun.2 = some 1 := by
  rw [Clean]
  decide +kernel

/-- In a wiring of their own the risk agent does not see the update, in the
shared one it does. -/
theorem update_not_seen :
    Clean ownRun ∧ Clean sharedRun ∧
      ¬ SameView plainSources scanningModels
        (makeAgentMemory (ownKv "risk") "risk" ⟨.inMemory⟩) ownRun.2
        (makeAgentMemory 0 "risk" ⟨.inMemory⟩) sharedRun.2 := by
  obtain ⟨ownClean, ownVersion⟩ := ownRun_clean
  obtain ⟨sharedClean, sharedVersion⟩ := sharedRun_clean
  refine ⟨ownClean, sharedClean, ?_⟩
  rintro ⟨⟨seen, other, isSeen, isOther, same⟩, _⟩
  rw [riskVersion, isSeen] at ownVersion
  rw [riskVersion, isOther] at sharedVersion
  have versions := same.version
  rw [Option.some.inj ownVersion, Option.some.inj sharedVersion] at versions
  exact absurd versions (by decide)

theorem wirings_agree_iff_two_roles :
    ¬ ∀ role first second,
      (role, first) ∈ makeAgentMemories ownKv twoRoles ⟨.inMemory⟩ →
        (role, second) ∈ makeSharedMemorySet 0 twoRoles ⟨.inMemory⟩ →
          SameView plainSources scanningModels first ownRun.2 second
            sharedRun.2 := by
  obtain ⟨ownOk, ownFree, ownNotEmpty⟩ := ownRun_clean.1
  obtain ⟨sharedOk, sharedFree, sharedNotEmpty⟩ := sharedRun_clean.1
  have store : (⟨.inMemory⟩ : ZeroGClient).backend = .live →
      ContentStore downBackend := by
    intro isLive
    cases isLive
  have distinct : twoRoles.Nodup := by decide
  have apart : ∀ first ∈ twoRoles, ∀ second ∈ twoRoles,
      ownKv first = ownKv second → first = second := by decide
  rcases isOwn : ownRun with ⟨ownOutcome, own⟩
  rcases isShared : sharedRun with ⟨sharedOutcome, shared⟩
  rw [isOwn] at ownOk ownFree ownNotEmpty
  rw [isShared] at sharedOk sharedFree sharedNotEmpty
  cases ownOutcome with
  | error exc => cases ownOk
  | ok ownAnswers =>
      cases sharedOutcome with
      | error exc => cases sharedOk
      | ok sharedAnswers =>
          rw [ownRun] at isOwn
          rw [sharedRun] at isShared
          have agree :=
            @wirings_agree_iff downBackend plainSources ⟨.inMemory⟩
              scanningModels store ownKv 0 twoRoles distinct apart
              scanningWrites () ownAnswers sharedAnswers own shared isOwn
              isShared ownFree sharedFree
              (scanningModels_inverseOn ownNotEmpty store)
              (scanningModels_inverseOn sharedNotEmpty store)
          intro same
          rcases agree.mp same with few | noWrites
          · exact absurd few (by decide)
          · cases noWrites

end SwarmFi.Core.Storage

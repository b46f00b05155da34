import SwarmFi.Core.Storage.AgentMemory
import SwarmFi.Core.Storage.DurableLog

/-!
# Agent memory over a durable client

A status that is written goes under the key of its role and into the state of
the swarm.  `written` lists what has been written, with the roles: the last
state of a role is what both copies hold.
-/

namespace SwarmFi.Core.Storage

open Foundation Python

variable
  {live : LiveBackend} {sources : Sources} {client : ZeroGClient}
  {sound : World live → Prop}
  {holds : World live → String → Bytes → Prop} {models : Models}

/-! ## What has been written -/

/-- The last state that was written for the role. -/
def lastWritten
    (written : List (String × AgentState)) (role : String) :
    Option AgentState :=
  written.reverse.lookup role

theorem lastWritten_snoc
    (written : List (String × AgentState)) (writer : String)
    (state : AgentState) (role : String) :
    lastWritten (written ++ [(writer, state)]) role =
      if role = writer then some state else lastWritten written role := by
  rw [lastWritten, List.reverse_append, List.reverse_singleton,
    List.singleton_append]
  by_cases same : role = writer
  · rw [if_pos same, same, List.lookup_cons_self]
  · rw [if_neg same, List.lookup_cons, beq_eq_false_iff_ne.mpr same]
    rfl

/-- The state of the swarm has the last state of every role, and its version
counts the writes. -/
structure SwarmOf
    (written : List (String × AgentState)) (swarm : SwarmState) : Prop where
  version : swarm.version = written.length
  agents : ∀ role, swarm.agents.get? role = lastWritten written role
  activeOpportunity : swarm.activeOpportunity = none
  swarmMetadata : swarm.swarmMetadata = []

def SwarmStored
    (models : Models) (written : List (String × AgentState))
    (dict : Mapping String Bytes) : Prop :=
  match dict.get? KVKey.swarmState with
  | none => written = []
  | some raw =>
      ∃ swarm, models.swarmState.decode raw = .ok swarm ∧
        SwarmOf written swarm

/-- Under the key of a role is its last state. -/
def AgentsStored
    (models : Models) (written : List (String × AgentState))
    (dict : Mapping String Bytes) : Prop :=
  ∀ role,
    match dict.get? (KVKey.agentState role) with
    | none => lastWritten written role = none
    | some raw =>
        ∃ state, models.agentState.decode raw = .ok state ∧
          lastWritten written role = some state

theorem swarmOf_default (now : String) : SwarmOf [] (.default now) :=
  ⟨rfl, fun _ => rfl, rfl, rfl⟩

theorem SwarmOf.updateAgent
    {written : List (String × AgentState)} {swarm : SwarmState}
    (agrees : SwarmOf written swarm) (role : String) (state : AgentState)
    (now : String) :
    SwarmOf (written ++ [(role, state)])
      (swarm.updateAgent role state now) where
  version := by
    simp only [SwarmState.updateAgent, agrees.version, List.length_append,
      List.length_singleton]
    rfl
  agents := by
    intro tested
    simp only [SwarmState.updateAgent, Mapping.get?_set, lastWritten_snoc,
      agrees.agents]
  activeOpportunity := agrees.activeOpportunity
  swarmMetadata := agrees.swarmMetadata

theorem SwarmStored.congr
    {written : List (String × AgentState)}
    {dict other : Mapping String Bytes}
    (stored : SwarmStored models written dict)
    (same : other.get? KVKey.swarmState = dict.get? KVKey.swarmState) :
    SwarmStored models written other := by
  rw [SwarmStored, same]
  exact stored

theorem AgentsStored.congr
    {written : List (String × AgentState)}
    {dict other : Mapping String Bytes}
    (stored : AgentsStored models written dict)
    (same : ∀ role, other.get? (KVKey.agentState role) =
      dict.get? (KVKey.agentState role)) :
    AgentsStored models written other := by
  intro role
  rw [same]
  exact stored role

/-- Writing the state of one role leaves those of the others. -/
theorem AgentsStored.set
    {written : List (String × AgentState)}
    {dict : Mapping String Bytes}
    (stored : AgentsStored models written dict) {role : String}
    {state : AgentState} {raw : Bytes}
    (decodes : models.agentState.decode raw = .ok state) :
    AgentsStored models (written ++ [(role, state)])
      (dict.set (KVKey.agentState role) raw) := by
  intro tested
  by_cases same : tested = role
  · rw [same, Mapping.get?_set_self]
    exact ⟨state, decodes, by rw [lastWritten_snoc, if_pos rfl]⟩
  · have otherKey : KVKey.agentState tested ≠ KVKey.agentState role :=
      fun sameKey => same (KVKey.agentState_injective sameKey)
    rw [Mapping.get?_set_of_ne _ otherKey, lastWritten_snoc, if_neg same]
    exact stored tested

/-! ## What the operations may change -/

section Uses

variable
  {kvs : KvId → Prop} {stores : Prop} (self : AgentMemory)
  (models : Models)

theorem uses_readSwarmState :
    (self.readSwarmState models).Uses (StorageCall.Within kvs stores) := by
  refine (uses_get self.kv KVKey.swarmState).bind fun raw => ?_
  split
  · exact Program.uses_done _
  · exact uses_ask_bind trivial fun _ => Program.uses_done _

theorem uses_updateSwarm
    (may : stores) (own : kvs self.kv.id) (state : AgentState) :
    (self.updateSwarm models state).Uses
      (StorageCall.Within kvs stores) := by
  refine (uses_readSwarmState self models).bind fun _ => ?_
  refine uses_ask_bind trivial fun _ => ?_
  exact (uses_set self.kv may own _ _).bind fun _ => Program.uses_done _

theorem uses_updateStatus
    (may : stores) (own : kvs self.kv.id) (update : StatusUpdate) :
    (self.updateStatus models update).Uses
      (StorageCall.Within kvs stores) := by
  refine uses_ask_bind trivial fun _ => ?_
  refine (uses_set self.kv may own _ _).bind fun _ => ?_
  exact uses_updateSwarm self models may own _

theorem uses_readAgentState (role : Option String) :
    (self.readAgentState models role).Uses
      (StorageCall.Within kvs stores) := by
  refine (uses_get self.kv _).bind fun raw => ?_
  cases raw with
  | none => exact Program.uses_done _
  | some data =>
      exact (Program.uses_ofExcept _).bind fun _ => Program.uses_done _

theorem uses_logEvent
    (may : stores) (own : kvs self.slog.kv.id) (eventType : LogEventType)
    (data : Option Dict) :
    (self.logEvent models eventType data).Uses
      (StorageCall.Within kvs stores) :=
  (uses_append self.slog models may own _ _ _).bind fun _ =>
    Program.uses_done _

theorem uses_readRecentLog (limit : Int) :
    (self.readRecentLog models limit).Uses
      (StorageCall.Within kvs stores) :=
  (uses_recent self.slog models limit).bind fun _ => Program.uses_done _

end Uses

/-! ## The operations over a durable client -/

section Operations

variable
  (durable : Durable sources client sound holds)
  (inverse : ∀ world, sound world → models.InverseOn (Held holds world))

theorem Durable.readSwarmState_returns
    (kv : KvId) (role : String) {written : List (String × AgentState)}
    {dict : Mapping String Bytes}
    (stored : SwarmStored models written dict) :
    Returns durable.setting (Shows holds kv dict)
      ((makeAgentMemory kv role client).readSwarmState models)
      fun swarm _ => SwarmOf written swarm := by
  refine (durable.get_returns kv KVKey.swarmState dict).bind fun raw => ?_
  rintro world rfl _
  rw [SwarmStored] at stored
  cases found : dict.get? KVKey.swarmState with
  | none =>
      rw [found] at stored
      rw [stored]
      exact ⟨_, rfl, swarmOf_default _⟩
  | some raw =>
      rw [found] at stored
      obtain ⟨swarm, decoded, agrees⟩ := stored
      simp only [Option.map_some, decoded]
      exact ⟨swarm, rfl, agrees⟩

theorem Durable.readAgentState_returns
    (kv : KvId) (reader : String) (role : Option String)
    {written : List (String × AgentState)} {dict : Mapping String Bytes}
    (stored : AgentsStored models written dict) :
    Returns durable.setting (Shows holds kv dict)
      ((makeAgentMemory kv reader client).readAgentState models role)
      fun state _ => state = lastWritten written
        ((makeAgentMemory kv reader client).targetRole role) := by
  refine (durable.get_returns kv _ dict).bind fun raw => ?_
  rintro world rfl _
  have there :=
    stored ((makeAgentMemory kv reader client).targetRole role)
  cases found : dict.get? (KVKey.agentState
      ((makeAgentMemory kv reader client).targetRole role)) with
  | none =>
      rw [found] at there
      exact ⟨none, rfl, there.symm⟩
  | some raw =>
      rw [found] at there
      obtain ⟨state, decodes, isLast⟩ := there
      simp only [decodes]
      exact ⟨some state, rfl, isLast.symm⟩

include inverse in
theorem Durable.readRecentLog_returns
    (kv : KvId) (role : String) (logged : List LogEntry)
    (dict : Mapping String Bytes) (limit : Int) :
    Returns durable.setting (Logged models holds kv logged dict)
      ((makeAgentMemory kv role client).readRecentLog models limit)
      fun views _ =>
        views = (sliceFrom logged (-limit)).map fun entry =>
          AgentMemory.entryView entry.stored := by
  refine (durable.recent_returns inverse kv logged dict limit).bind
    fun entries => Returns.done fun world areEntries => ?_
  rw [areEntries, List.map_map]
  rfl

include inverse in
theorem Durable.updateSwarm_triple
    (kv : KvId) (role : String) {written : List (String × AgentState)}
    {dict : Mapping String Bytes}
    (stored : SwarmStored models written dict) (state : AgentState) :
    Triple durable.setting (Shows holds kv dict)
      ((makeAgentMemory kv role client).updateSwarm models state)
      fun _ world => ∃ raw,
        Shows holds kv (dict.set KVKey.swarmState raw) world ∧
          SwarmStored models (written ++ [(role, state)])
            (dict.set KVKey.swarmState raw) := by
  refine (durable.reading_triple
    (durable.readSwarmState_returns kv role stored)
    (uses_readSwarmState _ models)).bind fun swarm => ?_
  refine Triple.of_fact fun agrees => ?_
  refine Triple.stable_bind
    (durable.stable_shows (fun _ => False) False kv id dict) trivial
    fun now => ?_
  refine (durable.set_triple kv KVKey.swarmState
    (models.swarmState.encode (swarm.updateAgent role state now))
    dict).with_sound.bind fun result => ?_
  refine Triple.done ?_
  rintro world ⟨⟨shows, held⟩, isSound⟩
  refine ⟨_, shows, ?_⟩
  rw [SwarmStored, Mapping.get?_set_self]
  exact ⟨_, (inverse world isSound).swarmState _ ⟨_, held⟩,
    agrees.updateAgent role state now⟩

include inverse in
/-- The record of a role is written and can be read back. -/
theorem Durable.writeState_triple
    (kv : KvId) (role : String) (state : AgentState)
    (dict : Mapping String Bytes) :
    Triple durable.setting (Shows holds kv dict)
      ((⟨kv, client⟩ : SwarmKV).set (KVKey.agentState role)
        (models.agentState.encode state))
      fun _ world =>
        models.agentState.decode (models.agentState.encode state) =
            .ok state ∧
          Shows holds kv (dict.set (KVKey.agentState role)
            (models.agentState.encode state)) world :=
  (durable.set_triple kv (KVKey.agentState role)
    (models.agentState.encode state) dict).with_sound.weaken
      fun _ world parts =>
        ⟨(inverse world parts.2).agentState _ ⟨_, parts.1.2⟩, parts.1.1⟩

include inverse in
/-- Both copies of the state are written, with the time at which the call
began. -/
theorem Durable.updateStatus_triple
    (kv : KvId) (role : String) {written : List (String × AgentState)}
    {dict : Mapping String Bytes}
    (swarmStored : SwarmStored models written dict)
    (agentsStored : AgentsStored models written dict)
    (update : StatusUpdate) (ticks : Nat) :
    Triple durable.setting
      (fun world => Shows holds kv dict world ∧ world.ticks = ticks)
      ((makeAgentMemory kv role client).updateStatus models update)
      fun _ world => ∃ agent swarm,
        let after := (dict.set (KVKey.agentState role) agent).set
          KVKey.swarmState swarm
        let all := written ++
          [(role, update.state role (sources.clock ticks))]
        Shows holds kv after world ∧ SwarmStored models all after ∧
          AgentsStored models all after := by
  refine Triple.call_bind
    (fun now world =>
      now = sources.clock ticks ∧ Shows holds kv dict world) ?_
    fun now => Triple.of_fact fun isNow => ?_
  · rintro world ⟨shows, isTicks⟩ isSound
    refine ⟨by rw [← isTicks]; rfl, ?_⟩
    exact durable.stable_shows (fun _ => False) False kv id dict world .now
      trivial isSound shows
  subst isNow
  refine (durable.writeState_triple inverse kv role _ dict).bind
    fun _ => Triple.of_fact fun decodes => ?_
  have otherKey : KVKey.swarmState ≠ KVKey.agentState role :=
    Ne.symm (KVKey.agentState_ne_swarmState role)
  refine (durable.updateSwarm_triple inverse kv role
    (swarmStored.congr (dict.get?_set_of_ne otherKey _)) _).weaken ?_
  rintro _ world ⟨swarm, shows, stored⟩
  refine ⟨_, swarm, shows, stored, ?_⟩
  refine (agentsStored.set decodes).congr fun tested => ?_
  exact Mapping.get?_set_of_ne _ (KVKey.agentState_ne_swarmState tested) _

/-! ## The whole memory -/

variable (models) in
/-- The log and both copies of the states. -/
structure Remembered
    (holds : World live → String → Bytes → Prop) (kv : KvId)
    (written : List (String × AgentState)) (logged : List LogEntry)
    (dict : Mapping String Bytes) (world : World live) : Prop where
  logs : Logged models holds kv logged dict world
  swarm : SwarmStored models written dict
  agents : AgentsStored models written dict

theorem remembered_fresh
    (models : Models) (holds : World live → String → Bytes → Prop)
    {kv : KvId} {world : World live} (fresh : world.kvs kv = .fresh) :
    Remembered models holds kv [] [] .empty world where
  logs := ⟨shows_fresh holds fresh, rfl, nofun⟩
  swarm := rfl
  agents := fun _ => rfl

theorem Durable.stable_remembered
    (kvs : KvId → Prop) (stores : Prop) (kv : KvId) (other : ¬ kvs kv)
    (written : List (String × AgentState)) (logged : List LogEntry)
    (dict : Mapping String Bytes) :
    durable.setting.Stable (StorageCall.Within kvs stores)
      (Remembered models holds kv written logged dict) := by
  rintro world request within isSound ⟨logs, swarm, agents⟩
  exact ⟨durable.stable_logged models kvs stores kv other logged dict world request
    within isSound logs, swarm, agents⟩

include inverse in
theorem Durable.updateStatus_remembered
    (kv : KvId) (role : String) (written : List (String × AgentState))
    (logged : List LogEntry) (dict : Mapping String Bytes)
    (update : StatusUpdate) (ticks : Nat) :
    Triple durable.setting
      (fun world =>
        Remembered models holds kv written logged dict world ∧
          world.ticks = ticks)
      ((makeAgentMemory kv role client).updateStatus models update)
      fun _ world => ∃ after,
        Remembered models holds kv
          (written ++ [(role, update.state role (sources.clock ticks))])
          logged after world := by
  rintro world done last ⟨⟨⟨shows, index, held⟩, swarm, agents⟩, isTicks⟩
    finished isSound
  obtain ⟨⟨agentRaw, swarmRaw, showsNow, swarmNow, agentsNow⟩, heldNow⟩ :=
    (durable.updateStatus_triple inverse kv role swarm agents update
      ticks).frame (Program.uses_any _)
        (durable.stable_entriesHeld models (fun _ => True) logged)
        world done last ⟨⟨shows, isTicks⟩, held⟩ finished isSound
  refine ⟨_, ⟨showsNow, index.congr ?_, heldNow⟩, swarmNow, agentsNow⟩
  rw [Mapping.get?_set_of_ne _ (Ne.symm KVKey.swarmState_ne_logIndex),
    Mapping.get?_set_of_ne _ (Ne.symm (KVKey.agentState_ne_logIndex role))]

include inverse in
theorem Durable.logEvent_triple
    (kv : KvId) (role : String) (logged : List LogEntry)
    (dict : Mapping String Bytes) (eventType : LogEventType)
    (data : Option Dict) :
    Triple durable.setting (Logged models holds kv logged dict)
      ((makeAgentMemory kv role client).logEvent models eventType data)
      fun _ world => ∃ entry raw,
        entry.Records eventType role data ∧
          Logged models holds kv (logged ++ [entry])
            (dict.set KVKey.logIndex raw) world := by
  refine (durable.append_triple inverse kv logged dict eventType role
    (some (data.getD []))).bind fun entry => Triple.done ?_
  rintro world ⟨records, raw, logs⟩
  exact ⟨entry, raw,
    ⟨records.eventType, records.agentRole, records.data⟩, logs⟩

include inverse in
theorem Durable.logEvent_remembered
    (kv : KvId) (role : String) (written : List (String × AgentState))
    (logged : List LogEntry) (dict : Mapping String Bytes)
    (eventType : LogEventType) (data : Option Dict) :
    Triple durable.setting
      (Remembered models holds kv written logged dict)
      ((makeAgentMemory kv role client).logEvent models eventType data)
      fun _ world => ∃ entry after,
        entry.Records eventType role data ∧
          Remembered models holds kv written (logged ++ [entry]) after
            world := by
  rintro world root last ⟨logs, swarm, agents⟩ finished isSound
  obtain ⟨entry, raw, records, logsNow⟩ :=
    durable.logEvent_triple inverse kv role logged dict eventType data world
      root last logs finished isSound
  refine ⟨entry, _, records, logsNow, swarm.congr ?_, agents.congr ?_⟩
  · exact dict.get?_set_of_ne KVKey.swarmState_ne_logIndex raw
  · exact fun tested =>
      dict.get?_set_of_ne (KVKey.agentState_ne_logIndex tested) raw

end Operations

end SwarmFi.Core.Storage

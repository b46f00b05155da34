import SwarmFi.Core.Storage.Log

/-!
# The memory of an agent

Each agent writes its own state under its own key and then rewrites the
aggregate state of the swarm, which all agents read.
-/

namespace SwarmFi.Core.Storage

open Foundation Python

structure AgentMemory where
  role : String
  client : ZeroGClient
  kv : SwarmKV
  slog : SwarmLog
  deriving DecidableEq

/-- The arguments of `update_status`. -/
structure StatusUpdate where
  status : AgentStatus
  lastSignal : Option Dict
  lastRiskScore : Option PyFloat
  lastTxHash : Option String
  errorMessage : Option String
  metadata : Option Dict

/-- The `AgentState` that `update_status` writes. -/
def StatusUpdate.state
    (update : StatusUpdate) (role now : String) : AgentState where
  agentRole := role
  status := update.status
  lastSeen := now
  lastSignal := update.lastSignal.getD []
  lastRiskScore := update.lastRiskScore
  lastTxHash := update.lastTxHash
  errorMessage := update.errorMessage
  metadata := update.metadata.getD []

namespace AgentMemory

variable (self : AgentMemory) (models : Models)

/-- A state that does not decode counts as empty. -/
def readSwarmState : Steps SwarmState := do
  let raw ← self.kv.get KVKey.swarmState
  match raw.map models.swarmState.decode with
  | some (.ok swarm) => return swarm
  | _ => return .default (← ask .now)

/-- What `update_status` does with the swarm's state. -/
def updateSwarm (state : AgentState) : Steps Unit := do
  let swarm ← self.readSwarmState models
  let now : String ← ask .now
  let _ ← self.kv.set KVKey.swarmState
    (models.swarmState.encode (swarm.updateAgent self.role state now))
  return ()

def updateStatus (update : StatusUpdate) : Steps Unit := do
  let now : String ← ask .now
  let state := update.state self.role now
  let _ ← self.kv.set (KVKey.agentState self.role)
    (models.agentState.encode state)
  self.updateSwarm models state

/-- `role or self.role`: an empty role counts as none. -/
def targetRole (role : Option String) : String :=
  orElse (role.getD "") self.role

def readAgentState (role : Option String) :
    Steps (Option AgentState) := do
  let raw ← self.kv.get (KVKey.agentState (self.targetRole role))
  match raw with
  | none => return none
  | some data =>
      let state ← .ofExcept (models.agentState.decode data)
      return some state

/-! ## History log -/

def logEvent (eventType : LogEventType) (data : Option Dict) :
    Steps String := do
  let entry ← self.slog.append models eventType self.role
    (some (data.getD []))
  return entry.rootHash.getD ""

/-- An entry as `read_recent_log` shows it. -/
def entryView (entry : LogEntry) : Dict :=
  [("entry_id", .str entry.entryId),
    ("event_type", .str (eventTypeValue entry.eventType)),
    ("agent_role", .str entry.agentRole),
    ("timestamp", .str entry.timestamp),
    ("data", .obj entry.data),
    ("root_hash", optionalStr entry.rootHash)]

def readRecentLog (limit : Int) : Steps (List Dict) := do
  let entries ← self.slog.recent models limit
  return entries.map entryView

end AgentMemory

/-! ## Factories -/

/-- `make_agent_memory`; `kv` is the identity of the `SwarmKV` it makes. -/
def makeAgentMemory (kv : KvId) (role : String) (client : ZeroGClient) :
    AgentMemory :=
  let kv : SwarmKV := ⟨kv, client⟩
  { role := role, client := client, kv := kv, slog := ⟨client, kv⟩ }

/-- `make_shared_memory_set`: every role shares the one `SwarmKV` it makes. -/
def makeSharedMemorySet
    (kv : KvId) (roles : List String) (client : ZeroGClient) :
    List (String × AgentMemory) :=
  let sharedKv : SwarmKV := ⟨kv, client⟩
  roles.map fun role =>
    (role,
      { role := role
        client := client
        kv := sharedKv
        slog := ⟨client, sharedKv⟩ })

end SwarmFi.Core.Storage

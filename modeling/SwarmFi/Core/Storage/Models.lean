import SwarmFi.Core.Storage
import SwarmFi.Core.Schema
import SwarmFi.Python.Bytes
import SwarmFi.Python.Mapping

/-!
# The models stored on 0G

The live state of an agent and of the swarm, the entries of the log and its
index.  How pydantic writes a model as JSON and reads it back is a parameter.
A datetime is given by its ISO text.
-/

namespace SwarmFi.Core.Storage

open Python

structure AgentState where
  agentRole : String
  status : AgentStatus
  lastSeen : String
  lastSignal : Dict
  lastRiskScore : Option PyFloat
  lastTxHash : Option String
  errorMessage : Option String
  metadata : Dict

structure SwarmState where
  version : Int
  updatedAt : String
  agents : Mapping String AgentState
  activeOpportunity : Option Dict
  swarmMetadata : Dict

/-- `SwarmState()`; the argument is what `updated_at` defaults to. -/
def SwarmState.default (now : String) : SwarmState where
  version := 0
  updatedAt := now
  agents := .empty
  activeOpportunity := none
  swarmMetadata := []

/-- `update_agent`, at the time given. -/
def SwarmState.updateAgent
    (self : SwarmState) (role : String) (state : AgentState)
    (now : String) : SwarmState :=
  { self with
    version := self.version + 1
    updatedAt := now
    agents := self.agents.set role state }

structure LogEntry where
  entryId : String
  eventType : LogEventType
  agentRole : String
  timestamp : String
  data : Dict
  rootHash : Option String

structure LogIndex where
  entries : List String
  entryCount : Int
  lastUpdated : String
  deriving DecidableEq

/-- `LogIndex()`; the argument is what `last_updated` defaults to. -/
def LogIndex.default (now : String) : LogIndex where
  entries := []
  entryCount := 0
  lastUpdated := now

/-- `append`, at the time given. -/
def LogIndex.append
    (self : LogIndex) (rootHash : String) (now : String) : LogIndex where
  entries := self.entries ++ [rootHash]
  entryCount := self.entryCount + 1
  lastUpdated := now

def eventTypeValue : LogEventType → String
  | .agentStarted => "agent_started"
  | .agentStopped => "agent_stopped"
  | .marketSignal => "market_signal"
  | .riskDecision => "risk_decision"
  | .tradeExecuted => "trade_executed"
  | .tradeFailed => "trade_failed"
  | .stateUpdated => "state_updated"
  | .error => "error"

/-- `model_dump_json().encode("utf-8")` and
`model_validate_json(data.decode("utf-8"))` of one model. -/
structure ModelCodec (α : Type) where
  encode : α → Bytes
  decode : Bytes → Except Exception α

/-- Validating what was dumped gives the model back, for the models whose
dump is among the given texts. -/
def ModelCodec.InverseOn {α : Type}
    (codec : ModelCodec α) (texts : Bytes → Prop) : Prop :=
  ∀ model, texts (codec.encode model) →
    codec.decode (codec.encode model) = .ok model

section Apart

variable {α : Type} (codec : ModelCodec α) (represents : α → Bool)
  (other : Bytes)

/-- The codec on the models that JSON represents; the rest, such as a model
with a NaN, of which the dump is that of another model, has a text of its
own. -/
def ModelCodec.apart : ModelCodec α where
  encode := fun model =>
    if represents model then codec.encode model else other
  decode := codec.decode

variable {codec represents other}

/-- Such a codec is inverse wherever the text of the rest is not used: what
`InverseOn` asks is known of the models that JSON represents. -/
theorem ModelCodec.inverseOn_apart
    (inverse : ∀ model, represents model = true →
      codec.decode (codec.encode model) = .ok model)
    {texts : Bytes → Prop} (unused : ¬ texts other) :
    (codec.apart represents other).InverseOn texts := by
  intro model there
  by_cases represented : represents model = true
  · simp only [apart, if_pos represented]
    exact inverse model represented
  · simp only [apart, if_neg represented] at there
    exact absurd there unused

end Apart

/-- The codecs of the four models. -/
structure Models where
  agentState : ModelCodec AgentState
  swarmState : ModelCodec SwarmState
  logEntry : ModelCodec LogEntry
  logIndex : ModelCodec LogIndex

structure Models.InverseOn
    (models : Models) (texts : Bytes → Prop) : Prop where
  agentState : models.agentState.InverseOn texts
  swarmState : models.swarmState.InverseOn texts
  logEntry : models.logEntry.InverseOn texts
  logIndex : models.logIndex.InverseOn texts

/-! ## Keys -/

namespace KVKey

def swarmState : String := "swarmfi:state:v1"

def logIndex : String := "swarmfi:log:index:v1"

def agentState (role : String) : String :=
  "swarmfi:agent:" ++ role ++ ":v1"

theorem swarmState_ne_logIndex : swarmState ≠ logIndex := by
  decide

theorem agentState_ne_swarmState (role : String) :
    agentState role ≠ swarmState := by
  intro same
  have chars := congrArg (fun text => text.toList.drop 8) same
  simp [agentState, swarmState] at chars

theorem agentState_ne_logIndex (role : String) :
    agentState role ≠ logIndex := by
  intro same
  have chars := congrArg (fun text => text.toList.drop 8) same
  simp [agentState, logIndex] at chars

theorem agentState_injective {first second : String}
    (same : agentState first = agentState second) : first = second := by
  have chars := congrArg String.toList same
  simp only [agentState, String.toList_append] at chars
  have middle := List.append_cancel_left (List.append_cancel_right chars)
  exact String.toList_inj.mp middle

end KVKey

end SwarmFi.Core.Storage

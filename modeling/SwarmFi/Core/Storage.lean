import SwarmFi.Python.Json

/-!
# What agents write to 0G memory

An agent's live status and the entries of the swarm's log.  A write can fail:
whoever makes one gets `Except Exception Unit` back.
-/

namespace SwarmFi.Core

open Python

inductive AgentStatus where
  | idle
  | scanning
  | deciding
  | executing
  | error
  deriving DecidableEq, Repr

inductive LogEventType where
  | agentStarted
  | agentStopped
  | marketSignal
  | riskDecision
  | tradeExecuted
  | tradeFailed
  | stateUpdated
  | error
  deriving DecidableEq, Repr

/-- The writes of `AgentMemory`: a new status with the keyword arguments that
go with it, or a log entry. -/
inductive MemoryWrite where
  | updateStatus (status : AgentStatus) (extra : Dict)
  | logEvent (eventType : LogEventType) (data : Dict)

end SwarmFi.Core

import SwarmFi.Foundation.Retry
import SwarmFi.Python.Http
import SwarmFi.Core.KeeperHub.Models

/-!
# The live KeeperHub client

Each method makes its request under the retry policy and reads the JSON of the
last answer.  A response carries what `resp.json()` returns or raises.
-/

namespace SwarmFi.Core.KeeperHub

open Foundation Python

/-- What `resp.json()` gives: a value, or the error of the decoder. -/
abbrev Body := Except Exception Json

inductive HttpCall where
  | post (path : String) (json : Dict)
  | get (path : String)

/-- A request is answered, or `httpx` raises. -/
abbrev Http : Vocabulary where
  Call := HttpCall
  Answer := fun _ => Except Exception (Response Body)

def Http.send {ε : Type} (call : HttpCall) :
    Program Http ε (Except Exception (Response Body)) :=
  .call call .done

/-- One attempt of a request: `raise_for_status` is part of it. -/
def request (call : HttpCall) :
    Program Http Exception (Response Body) := do
  let resp ← .ofExcept (← Http.send call)
  .ofExcept resp.raiseForStatus
  return resp

/-- The request under the retry policy. -/
def retried (call : HttpCall) :
    Program Http Exception (Response Body) :=
  .retrying retryable (request call) extraAttempts

/-- `_unwrap_response`: the answer itself or what its `data` key holds. -/
def unwrapResponse : Json → Json
  | .obj fields =>
      if Dict.has fields "data" then Dict.getD fields "data" .null
      else .obj fields
  | _ => .obj []

/-! ## Reading the answers -/

def invalidStatus (value : String) : Exception :=
  ⟨.valueError, "'" ++ value ++ "' is not a valid KHExecutionStatus"⟩

/-- `KHExecutionStatus(value)`; the error names the type of a value that is no
string, where Python echoes the value. -/
def executionStatus : Json → Except Exception KHExecutionStatus
  | .str text =>
      match KHExecutionStatus.ofValue? text with
      | some status => .ok status
      | none => .error (invalidStatus text)
  | other => .error (invalidStatus other.typeName)

def readExecutionResult (body : Json) :
    Except Exception KHExecutionResult := do
  let data ← (unwrapResponse body).asDict
  let identifier :=
    (data.getD "executionId" .null).orElse (data.getD "id" (.str ""))
  let status ← executionStatus (data.getD "status" (.str "pending"))
  let executionId ← validStr "KHExecutionResult" "executionId" identifier
  return { executionId := executionId, status := status }

/-- `status_map.get(raw_status, KHExecutionStatus.PENDING)`; a list or a dict
is no key of any dict. -/
def mapStatus : Json → Except Exception KHExecutionStatus
  | .str "completed" => .ok .success
  | .str "error" => .ok .failed
  | .str "pending" => .ok .pending
  | .str "running" => .ok .running
  | .arr _ => .error ⟨.typeError, "unhashable type: 'list'"⟩
  | .obj _ => .error ⟨.typeError, "unhashable type: 'dict'"⟩
  | _ => .ok .pending

def readExecutionStatus (body : Json) :
    Except Exception KHExecutionStatus_ := do
  let data ← (unwrapResponse body).asDict
  let mapped ← mapStatus (data.getD "status" (.str "pending"))
  let txHash ←
    validOptionalStr "KHExecutionStatus_" "txHash"
      (data.getD "transactionHash" .null)
  let error ←
    validOptionalStr "KHExecutionStatus_" "error" (data.getD "error" .null)
  let explorerUrl ←
    validOptionalStr "KHExecutionStatus_" "explorerUrl"
      (data.getD "transactionLink" .null)
  return {
    status := mapped
    txHash := txHash
    error := error
    explorerUrl := explorerUrl }

/-- `data.get("data", data) if isinstance(data, dict) else data` -/
def readExecutionLogs : Json → Json
  | .obj fields => Dict.getD fields "data" (.obj fields)
  | other => other

/-! ## The methods -/

namespace LiveClient

def executeTransfer (req : KHTransferRequest) :
    Program Http Exception KHExecutionResult := do
  let resp ← retried (.post "/execute/transfer" req.toApiDict)
  let body ← .ofExcept resp.body
  .ofExcept (readExecutionResult body)

def getExecutionStatus (executionId : String) :
    Program Http Exception KHExecutionStatus_ := do
  let resp ← retried (.get ("/execute/" ++ executionId ++ "/status"))
  let body ← .ofExcept resp.body
  .ofExcept (readExecutionStatus body)

def getExecutionLogs (executionId : String) :
    Program Http Exception Json := do
  let resp ←
    retried (.get ("/workflows/executions/" ++ executionId ++ "/logs"))
  let body ← .ofExcept resp.body
  return readExecutionLogs body

end LiveClient

end SwarmFi.Core.KeeperHub

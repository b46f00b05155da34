import SwarmFi.Core.Uniswap.Models

/-!
# Models of the KeeperHub API

Networks, execution statuses, the transfer request with its API form, the two
answers about an execution, and the audit entry of an execution.
-/

namespace SwarmFi.Core.KeeperHub

open Python

/-! ## Enumerations -/

inductive KHNetwork where
  | ethereum
  | base
  | arbitrum
  | polygon
  | sepolia
  | baseSepolia
  deriving DecidableEq, Repr

def KHNetwork.value : KHNetwork → String
  | .ethereum => "ethereum"
  | .base => "base"
  | .arbitrum => "arbitrum"
  | .polygon => "polygon"
  | .sepolia => "sepolia"
  | .baseSepolia => "base-sepolia"

/-- `KHNetwork(value)`, `none` where it raises `ValueError`. -/
def KHNetwork.ofValue? : String → Option KHNetwork
  | "ethereum" => some .ethereum
  | "base" => some .base
  | "arbitrum" => some .arbitrum
  | "polygon" => some .polygon
  | "sepolia" => some .sepolia
  | "base-sepolia" => some .baseSepolia
  | _ => none

inductive KHExecutionStatus where
  | pending
  | running
  | success
  | completed
  | failed
  | error
  | cancelled
  deriving DecidableEq, Repr

def KHExecutionStatus.value : KHExecutionStatus → String
  | .pending => "pending"
  | .running => "running"
  | .success => "success"
  | .completed => "completed"
  | .failed => "failed"
  | .error => "error"
  | .cancelled => "cancelled"

/-- `KHExecutionStatus(value)`, `none` where it raises `ValueError`. -/
def KHExecutionStatus.ofValue? : String → Option KHExecutionStatus
  | "pending" => some .pending
  | "running" => some .running
  | "success" => some .success
  | "completed" => some .completed
  | "failed" => some .failed
  | "error" => some .error
  | "cancelled" => some .cancelled
  | _ => none

/-- The statuses that `succeeded` accepts. -/
def KHExecutionStatus.isSuccess (status : KHExecutionStatus) : Bool :=
  [.success, .completed].contains status

/-- The statuses that report a failure. -/
def KHExecutionStatus.isFailure (status : KHExecutionStatus) : Bool :=
  [.failed, .error, .cancelled].contains status

/-! ## The transfer -/

structure KHTransferRequest where
  network : KHNetwork
  recipientAddress : String
  amount : String
  tokenAddress : Option String := none
  deriving DecidableEq, Repr

/-- `to_api_dict`: the aliases as keys, and no key for `None`. -/
def KHTransferRequest.toApiDict (req : KHTransferRequest) : Dict :=
  [("network", .str req.network.value),
    ("recipientAddress", .str req.recipientAddress),
    ("amount", .str req.amount)] ++
    Dict.present "tokenAddress" .str req.tokenAddress

/-! ## Answers about an execution -/

structure KHExecutionResult where
  executionId : String
  status : KHExecutionStatus
  deriving DecidableEq, Repr

/-- `KHExecutionStatus_`, the answer to a status poll; the id it repeats is
never read. -/
structure KHExecutionStatus_ where
  status : KHExecutionStatus
  txHash : Option String := none
  blockNumber : Option Int := none
  gasUsed : Option Int := none
  error : Option String := none
  explorerUrl : Option String := none
  deriving DecidableEq, Repr

namespace KHExecutionStatus_

def succeeded (answer : KHExecutionStatus_) : Bool :=
  answer.status.isSuccess

def isTerminal (answer : KHExecutionStatus_) : Bool :=
  [KHExecutionStatus.success, .completed, .failed, .error,
    .cancelled].contains answer.status

/-- Terminal is success or failure. -/
theorem isTerminal_eq (answer : KHExecutionStatus_) :
    answer.isTerminal =
      (answer.status.isSuccess || answer.status.isFailure) := by
  unfold isTerminal
  cases answer.status <;> rfl

end KHExecutionStatus_

/-! ## The audit entry -/

structure KHAuditEntry where
  executionId : String
  status : KHExecutionStatus
  txHash : Option String := none
  blockNumber : Option Int := none
  gasUsed : Option Int := none
  error : Option String := none
  explorerUrl : Option String := none
  network : String := ""
  contract : String := ""
  functionName : String := ""
  retryCount : Int := 0
  elapsedMs : Int := 0

namespace KHAuditEntry

/-- Only `success` here, where the other models take `completed` as well. -/
def succeeded (audit : KHAuditEntry) : Bool :=
  audit.status == .success

/-- `to_log_data`: the fields that are not `None`. -/
def toLogData (audit : KHAuditEntry) : Dict :=
  [("execution_id", .str audit.executionId),
    ("status", .str audit.status.value)] ++
    Dict.present "tx_hash" .str audit.txHash ++
    Dict.present "block_number" .int audit.blockNumber ++
    Dict.present "gas_used" .int audit.gasUsed ++
    Dict.present "error" .str audit.error ++
    Dict.present "explorer_url" .str audit.explorerUrl ++
    [("network", .str audit.network),
      ("contract", .str audit.contract),
      ("function_name", .str audit.functionName),
      ("retry_count", .int audit.retryCount),
      ("elapsed_ms", .int audit.elapsedMs)]

end KHAuditEntry

end SwarmFi.Core.KeeperHub

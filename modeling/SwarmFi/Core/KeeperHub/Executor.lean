import SwarmFi.Core.Storage
import SwarmFi.Core.KeeperHub.Client

/-!
# The KeeperHub swap executor

`executeSwap` fetches a quote, submits the treasury commitment, polls for its
transaction hash, writes the audit entry and reports a `SwapResult`.  What it
asks of its clients is a vocabulary of five calls, so that the same program
runs over any backend.  The pauses between polls and the log lines are left
out; what the clock measures for the audit entry is a field of the executor.
-/

namespace SwarmFi.Core.KeeperHub

open Foundation Python Uniswap

/-! ## What the executor asks of its clients -/

inductive SwapCall where
  | quote (req : QuoteRequest)
  | executeTransfer (req : KHTransferRequest)
  | getExecutionStatus (executionId : String)
  | getExecutionLogs (executionId : String)
  | appendAudit (eventType : LogEventType) (agentRole : String) (data : Dict)

/-- Every call can raise. -/
abbrev SwapCall.Answer : SwapCall → Type
  | .quote _ => Except Exception QuoteResponse
  | .executeTransfer _ => Except Exception KHExecutionResult
  | .getExecutionStatus _ => Except Exception KHExecutionStatus_
  | .getExecutionLogs _ => Except Exception Json
  | .appendAudit _ _ _ => Except Exception Unit

abbrev Swap : Vocabulary where
  Call := SwapCall
  Answer := SwapCall.Answer

/-! The methods of the clients, each giving what it returns or raises. -/

def UniswapClient.quote {ε : Type} (req : QuoteRequest) :
    Program Swap ε (Except Exception QuoteResponse) :=
  .call (SwapCall.quote req) .done

def KeeperHubClient.executeTransfer {ε : Type} (req : KHTransferRequest) :
    Program Swap ε (Except Exception KHExecutionResult) :=
  .call (SwapCall.executeTransfer req) .done

def KeeperHubClient.getExecutionStatus {ε : Type} (executionId : String) :
    Program Swap ε (Except Exception KHExecutionStatus_) :=
  .call (SwapCall.getExecutionStatus executionId) .done

def KeeperHubClient.getExecutionLogs {ε : Type} (executionId : String) :
    Program Swap ε (Except Exception Json) :=
  .call (SwapCall.getExecutionLogs executionId) .done

def SwarmLog.append {ε : Type}
    (eventType : LogEventType) (agentRole : String) (data : Dict) :
    Program Swap ε (Except Exception Unit) :=
  .call (SwapCall.appendAudit eventType agentRole data) .done

/-- `KeeperHubSwapExecutor`: the configured wallet, the environment variables
it reads and whether it has a 0G client; `elapsedMs` is what the clock measures
from the start of the swap to its audit entry. -/
structure KeeperHubSwapExecutor where
  wallet : String
  environ : Environ
  hasZg : Bool
  elapsedMs : Int

/-- The arguments of `execute_swap`; `swap_type` is never read. -/
structure SwapArguments where
  tokenIn : String
  tokenOut : String
  amountInWei : String
  chainId : Int := baseChainId
  slippage : PyFloat := .fin (1 / 2)
  walletAddress : Option String := none

/-- The status object of `_submit_treasury_commitment`. -/
structure ExecStatus where
  executionId : String
  status : KHExecutionStatus
  txHash : Option String := none
  blockNumber : Option Int := none
  gasUsed : Option Int := none
  error : Option String := none
  explorerUrl : Option String := none

def ExecStatus.succeeded (result : ExecStatus) : Bool :=
  result.status.isSuccess

/-- `_CHAIN_ID_TO_KH_NETWORK.get(chain_id, KHNetwork.BASE)` -/
def chainNetwork (chainId : Int) : KHNetwork :=
  if chainId = 1 then .ethereum
  else if chainId = 8453 then .base
  else if chainId = 42161 then .arbitrum
  else if chainId = 137 then .polygon
  else if chainId = 11155111 then .sepolia
  else if chainId = 84532 then .baseSepolia
  else .base

namespace KeeperHubSwapExecutor

variable (self : KeeperHubSwapExecutor)

/-! ## Settings -/

def keeper : String :=
  getenvOr self.environ "KH_KEEPER_ADDRESS" ""

/-- `keeper or wallet_address or self._wallet` -/
def quoteWallet (walletAddress : Option String) : String :=
  orElse self.keeper (orElse (walletAddress.getD "") self.wallet)

def recipient : String :=
  orElse (getenvOr self.environ "SWARMFI_COMMITMENT_RECIPIENT" "")
    (orElse self.keeper self.wallet)

def commitEth : String :=
  getenvOr self.environ "SWARMFI_COMMITMENT_ETH" "0.0001"

def commitNetwork : KHNetwork :=
  (KHNetwork.ofValue?
    (lower (getenvOr self.environ "SWARMFI_COMMITMENT_NETWORK"
      "sepolia"))).getD .sepolia

def transferRequest : KHTransferRequest where
  network := self.commitNetwork
  recipientAddress := self.recipient
  amount := self.commitEth

/-! ## The quote -/

/-- `"0x" + "0" * 40` -/
def zeroAddress : String :=
  "0x0000000000000000000000000000000000000000"

def quoteRequest (args : SwapArguments) : Except Exception QuoteRequest :=
  QuoteRequest.make args.tokenIn args.tokenOut args.chainId args.amountInWei
    (orElse (self.quoteWallet args.walletAddress) zeroAddress) args.slippage

def getQuote (args : SwapArguments) :
    Program Swap Exception QuoteResponse := do
  let req ← .ofExcept (self.quoteRequest args)
  .ofExcept (← UniswapClient.quote req)

/-! ## Polling for the transaction hash -/

def maxPolls : Nat := 60

/-- How the poll loop ends: with a transaction hash, or with the last status
it has seen. -/
inductive PollEnd where
  | surfaced (status : KHExecutionStatus_)
  | stopped (lastStatus : Option KHExecutionStatus_)

/-- The poll loop; a poll that raises counts as a poll. -/
def pollStatus {ε : Type} (executionId : String) :
    Nat → Option KHExecutionStatus_ → Program Swap ε PollEnd
  | 0, lastStatus => return .stopped lastStatus
  | polls + 1, lastStatus => do
      match ← KeeperHubClient.getExecutionStatus executionId with
      | .error _ => pollStatus executionId polls lastStatus
      | .ok status =>
          if truthy status.txHash then
            return .surfaced status
          else if status.isTerminal then
            return .stopped (some status)
          else
            pollStatus executionId polls (some status)

/-- `isinstance(tx, str) and tx.startswith("0x")`, for a truthy `tx`. -/
def hexText : Json → Option String
  | .str text =>
      if text ≠ "" ∧ startsWith text "0x" = true then some text else none
  | _ => none

/-- The hash in one log entry. -/
def entryTx : Json → Option String
  | .obj entry =>
      match Dict.get? entry "output" with
      | some (.obj out) =>
          hexText
            (Json.orElse (Dict.getD out "transactionHash" .null)
              (Dict.getD out "txHash" .null))
      | _ => none
  | _ => none

/-- The first hash in the logs.  What is not a list has no entry that is a
dict, or cannot be iterated, which raises inside the `try`. -/
def logsTx : Json → Option String
  | .arr entries => entries.findSome? entryTx
  | _ => none

/-- The fallback to the execution logs; whatever they raise is dropped. -/
def findLogTx {ε : Type} (executionId : String) :
    Program Swap ε (Option String) := do
  match ← KeeperHubClient.getExecutionLogs executionId with
  | .error _ => return none
  | .ok logs => return logsTx logs

/-! ## The commitment -/

/-- The last resort: what the polls have left. -/
def lastResort
    (executionId : String) (lastStatus : Option KHExecutionStatus_) :
    ExecStatus where
  executionId := executionId
  status := (lastStatus.map (·.status)).getD .running
  txHash := lastStatus.bind (·.txHash)
  error := lastStatus.bind (·.error)

def ofStatus (executionId : String) (status : KHExecutionStatus_) :
    ExecStatus where
  executionId := executionId
  status := status.status
  txHash := status.txHash
  blockNumber := status.blockNumber
  gasUsed := status.gasUsed
  error := status.error
  explorerUrl := status.explorerUrl

/-- From an accepted transfer to its status object. -/
def awaitTransfer {ε : Type} (executionId : String) :
    Program Swap ε ExecStatus := do
  match ← pollStatus executionId maxPolls none with
  | .surfaced status => return ofStatus executionId status
  | .stopped lastStatus =>
      match ← findLogTx executionId with
      | some tx =>
          return {
            executionId := executionId
            status := .success
            txHash := some tx }
      | none => return lastResort executionId lastStatus

def noRecipient : ExecStatus where
  executionId := ""
  status := .failed
  error := some "No recipient — set KH_KEEPER_ADDRESS or pass wallet_address"

def submitTreasuryCommitment {ε : Type} : Program Swap ε ExecStatus :=
  if self.recipient = "" then
    return noRecipient
  else do
    match ← KeeperHubClient.executeTransfer self.transferRequest with
    | .error exc =>
        return { executionId := "", status := .failed, error := some exc.text }
    | .ok result => awaitTransfer result.executionId

/-! ## The audit entry -/

def auditEntry (chainId : Int) (result : ExecStatus) (elapsedMs : Int) :
    KHAuditEntry where
  executionId := result.executionId
  status := result.status
  txHash := result.txHash
  blockNumber := result.blockNumber
  gasUsed := result.gasUsed
  error := result.error
  explorerUrl := result.explorerUrl
  network := (chainNetwork chainId).value
  contract := "treasury_commitment"
  functionName := "transfer"
  elapsedMs := elapsedMs

/-- `_write_audit`: a write that raises is only logged. -/
def writeAudit {ε : Type} (audit : KHAuditEntry) : Program Swap ε Unit :=
  if self.hasZg then do
    let _ ← SwarmLog.append
      (if audit.succeeded then .tradeExecuted else .tradeFailed)
      "executor" audit.toLogData
  else
    return ()

/-! ## The whole swap -/

def finalStatus (result : ExecStatus) : SwapStatus :=
  if result.succeeded then .confirmed
  else if result.status = .running then .submitted
  else .failed

def swapResult
    (args : SwapArguments) (quote : QuoteResponse) (result : ExecStatus) :
    SwapResult where
  status := finalStatus result
  txHash := result.txHash
  error := if result.succeeded then none else result.error
  tokenIn := args.tokenIn
  tokenOut := args.tokenOut
  chainId := args.chainId
  amountIn := args.amountInWei
  amountOut := quote.amountOut
  routing := some quote.routing
  blockNumber := result.blockNumber
  gasUsed := result.gasUsed

def khQuirks : List String :=
  ["fragment inputs doesn't match arguments",
    "execution reverted (unknown custom error)",
    "missing revert data",
    "500 Internal Server Error"]

/-- `any(q in msg for q in kh_quirks)` -/
def isQuirk (message : String) : Bool :=
  khQuirks.any fun quirk => isIn quirk message

/-- The result for an exception that reaches the outer handler. -/
def capturedResult (args : SwapArguments) (exc : Exception) :
    SwapResult where
  status := if isQuirk exc.text then .submitted else .failed
  error := some exc.text
  tokenIn := args.tokenIn
  tokenOut := args.tokenOut
  chainId := args.chainId
  amountIn := args.amountInWei

/-- The body of the `try`. -/
def attemptSwap (args : SwapArguments) :
    Program Swap Exception SwapResult := do
  let quote ← self.getQuote args
  let result ← self.submitTreasuryCommitment
  self.writeAudit (auditEntry args.chainId result self.elapsedMs)
  return swapResult args quote result

/-- `execute_swap` never raises: no error is left in its type. -/
def executeSwap (args : SwapArguments) : Program Swap Empty SwapResult :=
  (self.attemptSwap args).recover fun exc =>
    .done (capturedResult args exc)

end KeeperHubSwapExecutor

end SwarmFi.Core.KeeperHub

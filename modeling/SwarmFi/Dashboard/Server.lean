import SwarmFi.Foundation.History
import SwarmFi.Core.Compute.RiskScorer
import SwarmFi.Core.Storage
import SwarmFi.Core.Uniswap.Models

/-!
# The dashboard server

The shared configuration, the trade cycle that a signal starts in the
background, and the server that interleaves requests with the steps of the
cycles.

A cycle is a program over what it calls: the clients, the sidecar file, the 0G
memories, the ENS records, the AXL broadcasts, the model and the executor.  An
ENS text is kept as the values that fill its slots.  How `inject_signal` fills
a signal from its request is left out: a cycle starts with any signal.
-/

namespace SwarmFi.Dashboard

open Foundation Python SwarmFi.Core Uniswap Compute

/-! ## The configuration -/

/-- `update_config`: only keys that exist are set. -/
def updateConfig (config updates : Dict) : Dict :=
  updates.foldl
    (fun config entry =>
      if config.has entry.1 then config.set entry.1 entry.2 else config)
    config

/-- No update adds a key or takes one away. -/
theorem has_updateConfig (config updates : Dict) (key : String) :
    Dict.has (updateConfig config updates) key = Dict.has config key := by
  unfold updateConfig
  induction updates generalizing config with
  | nil => rfl
  | cons entry updates inductionHypothesis =>
      rw [List.foldl_cons, inductionHypothesis]
      split
      · next present =>
          rw [Dict.has_set]
          by_cases same : key = entry.1
          · simp [same, present]
          · simp [same]
      · rfl

/-- The number under `risk_threshold`. -/
def thresholdOf (config : Dict) : Option PyFloat :=
  (config.get? "risk_threshold").bind Json.number?

/-- What an operator posts is the threshold from then on. -/
theorem thresholdOf_updateConfig
    {config : Dict} (known : Dict.has config "risk_threshold" = true)
    (value : Json) :
    thresholdOf (updateConfig config [("risk_threshold", value)]) =
      value.number? := by
  unfold updateConfig thresholdOf
  rw [List.foldl_cons, List.foldl_nil, if_pos known, Dict.get?_set,
    if_pos rfl]
  rfl

/-- `_swarm_config`, for the values of `RISK_THRESHOLD` and
`SCAN_INTERVAL`. -/
def swarmConfig (riskThreshold : PyFloat) (scanInterval : Int) : Dict :=
  [("risk_threshold", .float riskThreshold),
    ("scan_interval_s", .int scanInterval),
    ("default_pair", .obj
      [("token_in", .str nativeEth),
        ("token_out", .str usdc),
        ("token_in_sym", .str "ETH"),
        ("token_out_sym", .str "USDC"),
        ("chain_id", .int 8453)]),
    ("amount_in_wei", .int 50000000000000000),
    ("auto_trade", .bool false)]

/-! ## What a cycle calls -/

inductive TextValue where
  | plain (text : String)
  | scanned (tokenIn tokenOut : Json) (price : PyFloat) (strength : Json)
  | decided (action : Json) (riskScore : PyFloat) (confidence : Int)
  | settled (routing txStart : String)

/-- The arguments of `execute_swap` as the payload has them; the amount is
passed as its `str`. -/
structure SwapRequest where
  tokenIn : Json
  tokenOut : Json
  amountInWei : Json
  chainId : Json
  walletAddress : String

inductive CycleCall where
  | openClients
  | closeClients
  | readStateFile
  | publishPartial (stage : String) (fields : Dict)
  | publishStateView
      (snapshotRoot : Option String) (result : Dict)
      (snapshotTx : Option String)
  | write (role : AgentRole) (write : MemoryWrite)
  | updateText (role : AgentRole) (key : String) (value : TextValue)
  | announce (messageType : MessageType) (payload : Dict)
  | chat (prompt : Prompt)
  | newStamp
  | executeSwap (request : SwapRequest)
  | flush

abbrev CycleCall.Answer : CycleCall → Type
  | .openClients => Except Exception Unit
  | .closeClients => Except Exception Unit
  | .readStateFile => Json
  | .publishPartial _ _ => Unit
  | .publishStateView _ _ _ => Unit
  | .write _ _ => Except Exception Unit
  | .updateText _ _ _ => Except Exception Unit
  | .announce _ _ => Except Exception Unit
  | .chat _ => Except Exception String
  | .newStamp => Stamp
  | .executeSwap _ => Except Exception SwapResult
  | .flush => Except Exception (Option String × Option String)

abbrev CycleVocabulary : Vocabulary where
  Call := CycleCall
  Answer := CycleCall.Answer

namespace Cycle

abbrev Steps (α : Type) := Program CycleVocabulary Exception α

def openClients : Steps Unit :=
  Program.bind (.call CycleCall.openClients .done) .ofExcept

def closeClients : Steps Unit :=
  Program.bind (.call CycleCall.closeClients .done) .ofExcept

def readStateFile : Steps Json :=
  .call CycleCall.readStateFile .done

def publishPartial (stage : String) (fields : Dict) : Steps Unit :=
  .call (CycleCall.publishPartial stage fields) .done

def publishStateView
    (snapshotRoot : Option String) (result : Dict)
    (snapshotTx : Option String) : Steps Unit :=
  .call (CycleCall.publishStateView snapshotRoot result snapshotTx) .done

def write (role : AgentRole) (write : MemoryWrite) : Steps Unit :=
  Program.bind (.call (CycleCall.write role write) .done) .ofExcept

def updateText (role : AgentRole) (key : String) (value : TextValue) :
    Steps Unit :=
  Program.bind (.call (CycleCall.updateText role key value) .done)
    .ofExcept

def announce (messageType : MessageType) (payload : Dict) : Steps Unit :=
  Program.bind (.call (CycleCall.announce messageType payload) .done)
    .ofExcept

def chat (prompt : Prompt) : Steps (Except Exception String) :=
  .call (CycleCall.chat prompt) .done

def newStamp : Steps Stamp :=
  .call CycleCall.newStamp .done

def executeSwap (request : SwapRequest) : Steps SwapResult :=
  Program.bind (.call (CycleCall.executeSwap request) .done) .ofExcept

/-- `wait_for(zg.flush(), …)` with the transaction it leaves. -/
def flush : Steps (Option String × Option String) :=
  Program.bind (.call CycleCall.flush .done) .ofExcept

/-! ## The stages -/

/-- `(… .get("cycles") or 0) + 1` -/
def nextCycle (view : Json) : Except Exception Json := do
  let fields ← view.asDict
  match (fields.getD "cycles" .null).orElse (.int 0) with
  | .int cycles => return .int (cycles + 1)
  | .bool cycles => return .int (if cycles then 2 else 1)
  | .float (.fin cycles) => return .float (PyFloat.ofRat (cycles + 1))
  | .float cycles => return .float cycles
  | .str _ =>
      .error ⟨.typeError, "can only concatenate str (not \"int\") to str"⟩
  | .arr _ =>
      .error ⟨.typeError,
        "can only concatenate list (not \"int\") to list"⟩
  | other =>
      .error ⟨.typeError, "unsupported operand type(s) for +: '" ++
        other.typeName ++ "' and 'int'"⟩

def scanning (signal : Dict) : Steps Unit := do
  publishPartial "scanning" [("signal", .obj signal)]
  write .researcher
    (.updateStatus .scanning [("last_signal", .obj signal)])
  write .researcher (.logEvent .marketSignal signal)
  updateText .researcher "swarmfi.role" (.plain "market_scanner")
  updateText .researcher "swarmfi.status" (.plain "scanning")
  let price ← .ofExcept (signal.getD "price_usd" (.int 0)).toFloat
  updateText .researcher "swarmfi.last"
    (.scanned (signal.getD "token_in_sym" (.str "?"))
      (signal.getD "token_out_sym" (.str "?")) price
      (signal.getD "signal" (.str "?")))
  announce .marketSignal signal

/-- `"0"*64` -/
def zeroPubkey : String :=
  "0000000000000000000000000000000000000000000000000000000000000000"

/-- `round(confidence*100)` -/
def confidencePercent : PyFloat → Except Exception Int
  | .fin confidence =>
      match PyFloat.ofRat (confidence * 100) with
      | .fin percent => .ok (PyFloat.roundHalfEven percent)
      | _ =>
          .error ⟨.overflowError,
            "cannot convert float infinity to integer"⟩
  | .nan => .error ⟨.valueError, "cannot convert float NaN to integer"⟩
  | _ =>
      .error ⟨.overflowError, "cannot convert float infinity to integer"⟩

/-- The decision in the ENS records; its numbers must print. -/
def recordDecision (payload : Dict) : Steps Unit := do
  updateText .risk "swarmfi.role" (.plain "ai_risk_scoring")
  updateText .risk "swarmfi.status" (.plain "idle")
  let riskScore ← .ofExcept (payload.getD "risk_score" (.int 0)).toFloat
  let confidence ← .ofExcept (payload.getD "confidence" (.int 0)).toFloat
  let percent ← .ofExcept (confidencePercent confidence)
  updateText .risk "swarmfi.last"
    (.decided (payload.getD "action" (.str "?")) riskScore percent)

def rememberDecision (signal payload : Dict) : Steps Unit := do
  write .risk (.logEvent .riskDecision payload)
  write .risk
    (.updateStatus .idle
      [("last_risk_score", payload.getD "risk_score" .null)])
  publishPartial "deciding"
    [("signal", .obj signal),
      ("risk", payload.getD "risk_score" .null),
      ("action", payload.getD "action" .null),
      ("confidence", payload.getD "confidence" .null)]

/-- From the score to the payload that is announced. -/
def deciding (signal : Dict) : Steps Dict := do
  publishPartial "deciding" [("signal", .obj signal)]
  write .risk (.updateStatus .deciding [])
  let decision ← score chat newStamp signal zeroPubkey
  rememberDecision signal decision.payload
  recordDecision decision.payload
  announce .tradeDecision decision.payload
  return decision.payload

def decidedView (view payload : Dict) : Dict :=
  (((view.set "risk" (payload.getD "risk_score" .null)).set "action"
    (payload.getD "action" .null)).set "confidence"
      (payload.getD "confidence" .null)).set "reasoning"
        (payload.getD "reasoning" .null)

/-- `payload.get("action") == "hold"` -/
def isHold (payload : Dict) : Bool :=
  match payload.get? "action" with
  | some (.str action) => action == "hold"
  | _ => false

def holding (payload : Dict) : Steps Unit :=
  write .executor
    (.logEvent .tradeFailed
      [("action", .str "HOLD"),
        ("reason", payload.getD "rejection_reason" .null)])

def swapRequest (wallet : String) (payload : Dict) : SwapRequest where
  tokenIn := payload.getD "token_in" .null
  tokenOut := payload.getD "token_out" .null
  amountInWei := payload.getD "amount_in_wei" (.int 50000000000000000)
  chainId := payload.getD "chain_id" (.int 8453)
  walletAddress := wallet

/-- `result.routing.value if result.routing else "CLASSIC"` -/
def routingText (result : SwapResult) : String :=
  match result.routing with
  | some routing => routing.value
  | none => "CLASSIC"

/-- What is remembered of the result, and the view with it. -/
def recordResult (view : Dict) (result : SwapResult) : Steps Dict :=
  if result.succeeded || result.status.value == "submitted" then do
    write .executor
      (.updateStatus .idle [("last_tx_hash", optionalStr result.txHash)])
    write .executor (.logEvent .tradeExecuted result.toLogData)
    return (view.set "tx" (optionalStr result.txHash)).set "routing"
      (.str (routingText result))
  else do
    write .executor
      (.updateStatus .error
        [("error_message", optionalStr result.error)])
    write .executor (.logEvent .tradeFailed result.toLogData)
    return view.set "error" (optionalStr result.error)

def recordSettlement (result : SwapResult) : Steps Unit := do
  updateText .executor "swarmfi.role" (.plain "uniswap_keeperhub")
  updateText .executor "swarmfi.status" (.plain "idle")
  match result.txHash with
  | none => return ()
  | some txHash =>
      if txHash = "" then
        return ()
      else
        updateText .executor "swarmfi.tx" (.plain txHash)
        updateText .executor "swarmfi.last"
          (.settled (routingText result)
            (String.ofList (txHash.toList.take 12)))

/-- What follows the swap of a cycle. -/
def settling (view : Dict) (result : SwapResult) : Steps Dict := do
  let view ← recordResult view result
  recordSettlement result
  announce .executionResult
    [("tx_hash", optionalStr result.txHash),
      ("status", .str result.status.value),
      ("routing", optionalStr (result.routing.map RoutingType.value))]
  return view

def executing (wallet : String) (signal view payload : Dict) :
    Steps Dict := do
  publishPartial "executing"
    [("signal", .obj signal),
      ("risk", payload.getD "risk_score" .null),
      ("action", payload.getD "action" .null)]
  write .executor (.updateStatus .executing [])
  let result ← executeSwap (swapRequest wallet payload)
  settling view result

/-- A HOLD is only logged. -/
def acting (wallet : String) (signal view payload : Dict) : Steps Dict :=
  if isHold payload then do
    holding payload
    return view
  else
    executing wallet signal view payload

/-- The root of a snapshot on every agent's record. -/
def recordSnapshot : Option String → Steps Unit
  | none => return ()
  | some root =>
      if root = "" then
        return ()
      else
        [AgentRole.researcher, .risk, .executor].forM fun role =>
          updateText role "swarmfi.snapshot" (.plain root)

/-- One snapshot of the buffered state; a failed flush is only logged. -/
def committing (signal view : Dict) :
    Steps (Option String × Option String) := do
  publishPartial "committing"
    [("signal", .obj signal),
      ("risk", view.getD "risk" .null),
      ("action", view.getD "action" .null),
      ("tx", view.getD "tx" .null)]
  let snapshot ← flush.recover fun _ => .done (none, none)
  recordSnapshot snapshot.1
  return snapshot

/-- The body of the `async with`. -/
def insideClients (wallet : String) (signal view : Dict) :
    Steps (Dict × Option String × Option String) := do
  scanning signal
  let payload ← deciding signal
  let view ← acting wallet signal (decidedView view payload) payload
  let snapshot ← committing signal view
  return (view, snapshot)

def cycle (wallet : String) (signal : Dict) : Steps Unit := do
  let number ← readStateFile.bind fun view => .ofExcept (nextCycle view)
  let view : Dict := [("cycle", number), ("signal", .obj signal)]
  openClients
  let outcome ← (insideClients wallet signal view).attempt
  closeClients
  let (view, snapshot) ← .ofExcept outcome
  publishStateView snapshot.1 view snapshot.2

/-- `_run_trade_cycle`: every error is only logged. -/
def runTradeCycle (wallet : String) (signal : Dict) : Steps Unit :=
  (cycle wallet signal).recover fun _ => .done ()

end Cycle

/-! ## The server -/

/-- A cycle on its way, with the configuration it began under. -/
structure RunningCycle where
  signal : Dict
  config : Dict
  task : Task CycleVocabulary Exception Unit

/-- `waiting` holds the signals whose background task has not begun. -/
structure Server where
  config : Dict
  waiting : List Dict
  cycles : List RunningCycle

abbrev CycleAnswers :=
  (request : CycleCall) → CycleCall.Answer request

/-- The call a cycle is waiting on is answered. -/
def RunningCycle.advance (answers : CycleAnswers) (cycle : RunningCycle) :
    RunningCycle :=
  { cycle with task := cycle.task.answer answers }

inductive ServerMove where
  | updateConfig (updates : Dict)
  | injectSignal (signal : Dict)
  | begin (index : Nat)
  | advance (index : Nat) (answers : CycleAnswers)

namespace Server

def start (config : Dict) : Server where
  config := config
  waiting := []
  cycles := []

def begin (wallet : String) (server : Server) (index : Nat) : Server :=
  match server.waiting[index]? with
  | none => server
  | some signal =>
      { server with
        waiting := server.waiting.eraseIdx index
        cycles := server.cycles ++
          [{ signal := signal
             config := server.config
             task := ⟨[], Cycle.runTradeCycle wallet signal⟩ }] }

def apply (wallet : String) (server : Server) : ServerMove → Server
  | .updateConfig updates =>
      { server with config := updateConfig server.config updates }
  | .injectSignal signal =>
      { server with waiting := server.waiting ++ [signal] }
  | .begin index => server.begin wallet index
  | .advance index answers =>
      { server with
        cycles :=
          server.cycles.modify index (RunningCycle.advance answers) }

def play (wallet : String) (server : Server) (moves : List ServerMove) :
    Server :=
  moves.foldl (apply wallet) server

/-- Every reachable server knows the keys it was started with. -/
theorem has_play
    (wallet : String) (server : Server) (moves : List ServerMove)
    (key : String) :
    Dict.has (server.play wallet moves).config key =
      Dict.has server.config key := by
  induction moves generalizing server with
  | nil => rfl
  | cons move moves inductionHypothesis =>
      have step :
          Dict.has (server.apply wallet move).config key =
            Dict.has server.config key := by
        cases move with
        | updateConfig updates =>
            exact has_updateConfig server.config updates key
        | injectSignal signal => rfl
        | begin index =>
            show Dict.has (server.begin wallet index).config key = _
            unfold begin
            split <;> rfl
        | advance index answers => rfl
      exact (inductionHypothesis (server.apply wallet move)).trans step

end Server

end SwarmFi.Dashboard

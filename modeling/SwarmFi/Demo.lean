import SwarmFi.Core.Scanner
import SwarmFi.Core.Pnl
import SwarmFi.Dashboard.Server

/-!
# The demo

One cycle of `SwarmFiDemo`: the researcher scans, the risk agent scores, the
executor commits, and the cycle is appended to the results that the dashboard
and the profit summary read.  What is only printed is left out, with the
timings; a result is appended by a call, so that a run shows it.
-/

namespace SwarmFi.Demo

open Foundation Python SwarmFi.Core Uniswap Compute Scanner Dashboard

/-! ## The configured pair -/

/-- A value of the demo's `PAIRS`. -/
structure DemoPair where
  tokenIn : String
  tokenOut : String
  inSym : String
  outSym : String
  chainId : Int
  amountWei : Int

def demoEthUsdc : DemoPair where
  tokenIn := nativeEth
  tokenOut := usdc
  inSym := "ETH"
  outSym := "USDC"
  chainId := 8453
  amountWei := 1000000000000000

/-- `PAIRS` -/
def demoPairs : List (String × DemoPair) :=
  [("ETH_USDC", demoEthUsdc),
    ("ETH_USDT",
      { tokenIn := nativeEth
        tokenOut := usdt
        inSym := "ETH"
        outSym := "USDT"
        chainId := 8453
        amountWei := 1000000000000000 }),
    ("USDC_ETH",
      { tokenIn := usdc
        tokenOut := nativeEth
        inSym := "USDC"
        outSym := "ETH"
        chainId := 8453
        amountWei := 100000000 })]

/-- `PAIRS.get(pair_key, PAIRS["ETH_USDC"])` -/
def pairFor (pairKey : String) : DemoPair :=
  (demoPairs.lookup pairKey).getD demoEthUsdc

/-! ## What a cycle calls -/

inductive DemoCall where
  | scanPairs (amountInWei : Int)
  | write (role : AgentRole) (write : MemoryWrite)
  | updateText (role : AgentRole) (key : String) (value : TextValue)
  | announce (messageType : MessageType) (payload : Dict)
  | chat (prompt : Prompt)
  | newStamp
  | executeSwap (request : Dashboard.SwapRequest)
  | readBack
  | appendResult (result : Dict)

abbrev DemoCall.Answer : DemoCall → Type
  | .scanPairs _ => Except Exception ScanResult
  | .write _ _ => Except Exception Unit
  | .updateText _ _ _ => Except Exception Unit
  | .announce _ _ => Except Exception Unit
  | .chat _ => Except Exception String
  | .newStamp => Stamp
  | .executeSwap _ => Except Exception SwapResult
  | .readBack => Except Exception Unit
  | .appendResult _ => Unit

abbrev DemoVocabulary : Vocabulary where
  Call := DemoCall
  Answer := DemoCall.Answer

abbrev Steps (α : Type) := Program DemoVocabulary Exception α

def scanPairs (amountInWei : Int) : Steps ScanResult :=
  Program.bind (.call (DemoCall.scanPairs amountInWei) .done) .ofExcept

/-- `_safe`: storage failures never crash the demo. -/
def safely (role : AgentRole) (write : MemoryWrite) : Steps Unit :=
  .call (DemoCall.write role write) fun _ => .done ()

def updateText (role : AgentRole) (key : String) (value : TextValue) :
    Steps Unit :=
  Program.bind (.call (DemoCall.updateText role key value) .done) .ofExcept

def announce (messageType : MessageType) (payload : Dict) : Steps Unit :=
  Program.bind (.call (DemoCall.announce messageType payload) .done)
    .ofExcept

def chat (prompt : Prompt) : Steps (Except Exception String) :=
  .call (DemoCall.chat prompt) .done

def newStamp : Steps Stamp :=
  .call DemoCall.newStamp .done

def executeSwap (request : Dashboard.SwapRequest) : Steps SwapResult :=
  Program.bind (.call (DemoCall.executeSwap request) .done) .ofExcept

/-- The swarm's state and log, read to be printed; failures are skipped. -/
def readBack : Steps Unit :=
  .call DemoCall.readBack fun _ => .done ()

/-- `self._results.append(result)` -/
def appendResult (result : Dict) : Steps Unit :=
  .call (DemoCall.appendResult result) .done

/-! ## The stages -/

/-- The signal of the pick, or of the configured pair without one. -/
def signalOf (pair : DemoPair) (price : PyFloat) (scan : ScanResult) :
    Dict :=
  match scan.best with
  | some best => best.toSignalPayload pair.amountWei
  | none =>
      [("token_in", .str pair.tokenIn),
        ("token_out", .str pair.tokenOut),
        ("token_in_sym", .str pair.inSym),
        ("token_out_sym", .str pair.outSym),
        ("chain_id", .int pair.chainId),
        ("price_usd", .float price),
        ("signal", .str "weak"),
        ("reason", .str
          ("Fallback — scanner offline · " ++ pair.inSym ++ "/" ++
            pair.outSym)),
        ("amount_in_wei", .int pair.amountWei)]

def researching (signal : Dict) : Steps Unit := do
  safely .researcher
    (.updateStatus .scanning [("last_signal", .obj signal)])
  safely .researcher (.logEvent .marketSignal signal)
  updateText .researcher "swarmfi.role" (.plain "market_scanner")
  updateText .researcher "swarmfi.status" (.plain "scanning")
  let price ← .ofExcept (signal.getD "price_usd" (.int 0)).toFloat
  updateText .researcher "swarmfi.last"
    (.scanned (signal.getD "token_in_sym" (.str "?"))
      (signal.getD "token_out_sym" (.str "?")) price
      (signal.getD "signal" (.str "?")))
  announce .marketSignal signal

/-- What a cycle reads from the decision. -/
structure Decided where
  payload : Dict
  risk : PyFloat
  action : Json
  confidence : PyFloat
  reasoning : Json

/-- The score and the bar it is printed as: `int(risk * 3)` must exist. -/
def scoring (signal : Dict) : Steps Decided := do
  safely .risk (.updateStatus .deciding [])
  let decision ← score chat newStamp signal Cycle.zeroPubkey
  let risk ←
    .ofExcept (decision.payload.getD "risk_score" (.float (.fin 5))).toFloat
  let confidence ←
    .ofExcept
      (decision.payload.getD "confidence" (.float (.fin (1 / 2)))).toFloat
  let _ ← .ofExcept (Json.float (risk.mul (.fin 3))).toInt
  return {
    payload := decision.payload
    risk := risk
    action := decision.payload.getD "action" (.str "hold")
    confidence := confidence
    reasoning := decision.payload.getD "reasoning" (.str "") }

def recordDecision (decided : Decided) : Steps Unit := do
  safely .risk
    (.updateStatus .idle [("last_risk_score", .float decided.risk)])
  safely .risk (.logEvent .riskDecision decided.payload)
  updateText .risk "swarmfi.role" (.plain "ai_risk_scoring")
  updateText .risk "swarmfi.status" (.plain "idle")
  let percent ← .ofExcept (Cycle.confidencePercent decided.confidence)
  updateText .risk "swarmfi.last"
    (.decided decided.action decided.risk percent)
  announce .tradeDecision decided.payload

/-- The signal record with the symbols of the configured pair. -/
def sigView (pair : DemoPair) (signal : Dict) : Dict :=
  (signal.set "token_in_sym" (.str pair.inSym)).set "token_out_sym"
    (.str pair.outSym)

def holding (view : Dict) (number : Int) (decided : Decided) :
    Steps Unit := do
  safely .executor
    (.logEvent .tradeFailed
      [("action", .str "HOLD"),
        ("reason",
          decided.payload.getD "rejection_reason" (.str "risk gate"))])
  appendResult
    [("cycle", .int number), ("action", .str "hold"),
      ("risk", .float decided.risk),
      ("confidence", .float decided.confidence),
      ("reasoning", decided.reasoning), ("signal", .obj view)]

def swapRequest (pair : DemoPair) (wallet : String) (payload : Dict) :
    Dashboard.SwapRequest where
  tokenIn := payload.getD "token_in" (.str pair.tokenIn)
  tokenOut := payload.getD "token_out" (.str pair.tokenOut)
  amountInWei := payload.getD "amount_in_wei" (.int pair.amountWei)
  chainId := payload.getD "chain_id" (.int pair.chainId)
  walletAddress := wallet

/-- `result.tx_hash or (result.error and "queued") or "dry-run"` -/
def txOf (result : SwapResult) : String :=
  if truthy result.txHash then
    result.txHash.getD ""
  else if truthy result.error then
    "queued"
  else
    "dry-run"

/-- The executor's commitment in its text records. -/
def recordCommitment (result : SwapResult) : Steps Unit := do
  updateText .executor "swarmfi.role" (.plain "uniswap_keeperhub")
  updateText .executor "swarmfi.status" (.plain "idle")
  if truthy result.txHash then
    let txHash := result.txHash.getD ""
    updateText .executor "swarmfi.tx" (.plain txHash)
    updateText .executor "swarmfi.last"
      (.settled (Cycle.routingText result)
        (String.ofList (txHash.toList.take 12)))
  else
    return ()

def committed (view : Dict) (number : Int) (decided : Decided)
    (result : SwapResult) : Steps Unit := do
  safely .executor
    (.updateStatus .idle [("last_tx_hash", .str (txOf result))])
  safely .executor (.logEvent .tradeExecuted result.toLogData)
  recordCommitment result
  announce .executionResult
    [("tx_hash", optionalStr result.txHash),
      ("status", .str result.status.value),
      ("routing", optionalStr (result.routing.map RoutingType.value))]
  appendResult
    [("cycle", .int number), ("action", decided.action),
      ("risk", .float decided.risk), ("tx", .str (txOf result)),
      ("confidence", .float decided.confidence),
      ("reasoning", decided.reasoning),
      ("routing", .str (Cycle.routingText result)),
      ("signal", .obj view)]

def failed (view : Dict) (number : Int) (decided : Decided)
    (result : SwapResult) : Steps Unit := do
  safely .executor (.updateStatus .error [])
  safely .executor (.logEvent .tradeFailed result.toLogData)
  appendResult
    [("cycle", .int number), ("action", decided.action),
      ("risk", .float decided.risk), ("error", optionalStr result.error),
      ("confidence", .float decided.confidence),
      ("reasoning", decided.reasoning), ("signal", .obj view)]

def executing (pair : DemoPair) (wallet : String) (view : Dict)
    (number : Int) (decided : Decided) : Steps Unit := do
  safely .executor (.updateStatus .executing [])
  let result ← executeSwap (swapRequest pair wallet decided.payload)
  if result.succeeded || result.status.value == "submitted" then
    committed view number decided result
  else
    failed view number decided result
  readBack

/-- A HOLD is appended at once, without the read-back. -/
def acting (pair : DemoPair) (wallet : String) (view : Dict)
    (number : Int) (decided : Decided) : Steps Unit :=
  if decided.action.str? = some "hold" then
    holding view number decided
  else
    executing pair wallet view number decided

def afterScan (pair : DemoPair) (wallet : String) (number : Int)
    (signal : Dict) : Steps Unit := do
  researching signal
  let decided ← scoring signal
  recordDecision decided
  acting pair wallet (sigView pair signal) number decided

/-- `_cycle`, for the price that the demo was started with. -/
def cycle (pair : DemoPair) (wallet : String) (price : PyFloat)
    (number : Int) : Steps Unit := do
  let scan ← scanPairs pair.amountWei
  afterScan pair wallet number (signalOf pair price scan)

/-! ## Every appended result has the signal record -/

/-- A call that is no scan, and appends no result but one with this signal
record. -/
def Records (view : Dict) : DemoCall → Prop
  | .scanPairs _ => False
  | .appendResult result => result.get? "signal" = some (.obj view)
  | _ => True

section Uses

variable (view : Dict)

theorem uses_safely (role : AgentRole) (write : MemoryWrite) :
    (safely role write).Uses (Records view) :=
  ⟨trivial, fun _ => trivial⟩

theorem uses_updateText
    (role : AgentRole) (key : String) (value : TextValue) :
    (updateText role key value).Uses (Records view) :=
  ⟨trivial, fun answer => Program.uses_ofExcept answer⟩

theorem uses_announce (messageType : MessageType) (payload : Dict) :
    (announce messageType payload).Uses (Records view) :=
  ⟨trivial, fun answer => Program.uses_ofExcept answer⟩

theorem uses_researching (signal : Dict) :
    (researching signal).Uses (Records view) := by
  apply (uses_safely view _ _).bind
  intro _
  apply (uses_safely view _ _).bind
  intro _
  apply (uses_updateText view _ _ _).bind
  intro _
  apply (uses_updateText view _ _ _).bind
  intro _
  apply (Program.uses_ofExcept _).bind
  intro price
  apply (uses_updateText view _ _ _).bind
  intro _
  exact uses_announce view _ _

theorem uses_scoring (signal : Dict) :
    (scoring signal).Uses (Records view) := by
  have chatted : ∀ prompt, (chat prompt).Uses (Records view) :=
    fun prompt => ⟨trivial, fun _ => trivial⟩
  have stamped : newStamp.Uses (Records view) :=
    ⟨trivial, fun _ => trivial⟩
  have scored :
      (score chat newStamp signal Cycle.zeroPubkey).Uses
        (Records view) := by
    apply (Program.uses_ofExcept _).bind
    intro prompt
    apply (chatted prompt).bind
    intro reply
    apply (Program.uses_ofExcept _).bind
    intro decision
    apply stamped.bind
    intro stamp
    exact Program.uses_ofExcept _
  apply (uses_safely view _ _).bind
  intro _
  apply scored.bind
  intro decision
  apply (Program.uses_ofExcept _).bind
  intro risk
  apply (Program.uses_ofExcept _).bind
  intro confidence
  apply (Program.uses_ofExcept _).bind
  intro bar
  trivial

theorem uses_recordDecision (decided : Decided) :
    (recordDecision decided).Uses (Records view) := by
  apply (uses_safely view _ _).bind
  intro _
  apply (uses_safely view _ _).bind
  intro _
  apply (uses_updateText view _ _ _).bind
  intro _
  apply (uses_updateText view _ _ _).bind
  intro _
  apply (Program.uses_ofExcept _).bind
  intro percent
  apply (uses_updateText view _ _ _).bind
  intro _
  exact uses_announce view _ _

theorem uses_holding (number : Int) (decided : Decided) :
    (holding view number decided).Uses (Records view) := by
  apply (uses_safely view _ _).bind
  intro _
  exact ⟨rfl, fun _ => trivial⟩

theorem uses_recordCommitment (result : SwapResult) :
    (recordCommitment result).Uses (Records view) := by
  apply (uses_updateText view _ _ _).bind
  intro _
  apply (uses_updateText view _ _ _).bind
  intro _
  split
  · apply (uses_updateText view _ _ _).bind
    intro _
    exact uses_updateText view _ _ _
  · trivial

theorem uses_committed
    (number : Int) (decided : Decided) (result : SwapResult) :
    (committed view number decided result).Uses (Records view) := by
  apply (uses_safely view _ _).bind
  intro _
  apply (uses_safely view _ _).bind
  intro _
  apply (uses_recordCommitment view result).bind
  intro _
  apply (uses_announce view _ _).bind
  intro _
  exact ⟨rfl, fun _ => trivial⟩

theorem uses_failed
    (number : Int) (decided : Decided) (result : SwapResult) :
    (failed view number decided result).Uses (Records view) := by
  apply (uses_safely view _ _).bind
  intro _
  apply (uses_safely view _ _).bind
  intro _
  exact ⟨rfl, fun _ => trivial⟩

theorem uses_executing (pair : DemoPair) (wallet : String)
    (number : Int) (decided : Decided) :
    (executing pair wallet view number decided).Uses
      (Records view) := by
  have swapped : ∀ request, (executeSwap request).Uses (Records view) :=
    fun request => ⟨trivial, fun answer => Program.uses_ofExcept answer⟩
  have readBacks : readBack.Uses (Records view) :=
    ⟨trivial, fun _ => trivial⟩
  apply (uses_safely view _ _).bind
  intro _
  apply (swapped _).bind
  intro result
  split
  · exact (uses_committed view number decided result).bind
      fun _ => readBacks
  · exact (uses_failed view number decided result).bind
      fun _ => readBacks

/-- All that happens after the scan. -/
theorem uses_afterScan (pair : DemoPair) (wallet : String)
    (number : Int) (signal : Dict) :
    (afterScan pair wallet number signal).Uses
      (Records (sigView pair signal)) := by
  apply (uses_researching _ signal).bind
  intro _
  apply (uses_scoring _ signal).bind
  intro decided
  apply (uses_recordDecision _ decided).bind
  intro _
  unfold acting
  split
  · exact uses_holding _ number decided
  · exact uses_executing _ pair wallet number decided

end Uses

end SwarmFi.Demo

import SwarmFi.Foundation.Program
import SwarmFi.Python.Display
import SwarmFi.Python.JsonReader
import SwarmFi.Core.Schema

/-!
# The risk scorer

A market signal becomes a prompt, the model's reply is read as JSON, the
threshold overrides the action and the validated decision is wrapped in a
message.  The prompt is kept as the values that fill its slots; its fixed
words, which only the model reads, are left out.  A value that has no text
raises all the same.
-/

namespace SwarmFi.Core.Compute

open Foundation Python

/-- The nested calls that the interpreter's recursion limit leaves to the
printing of a value and to the reading of a text; `none` where it is out of
reach. -/
structure RecursionLimits where
  printing : Option Nat := none
  reading : Option Nat := none

/-! ## The prompt -/

def nativeEth : String := "0x0000000000000000000000000000000000000000"

def usdc : String := "0x833589fCD6eDb6E08f4c7C32D4f71b54bdA02913"

/-- `_KNOWN_TOKENS.get(chain_id, {})` -/
def knownTokens (chainId : Int) : List (String × String) :=
  if chainId = 8453 then
    [("0x0000000000000000000000000000000000000000", "ETH"),
      ("0x4200000000000000000000000000000000000006", "WETH"),
      ("0x833589fcd6edb6e08f4c7c32d4f71b54bda02913", "USDC"),
      ("0xfde4c96c8593536e31f229ea8f37b2ada2699bb2", "USDT"),
      ("0x50c5725949a6f0c72e6c4a641f24049a917db0cb", "DAI"),
      ("0xcbb7c0000ab88b473b1f5afd9ef808440eed33bf", "cbBTC")]
  else if chainId = 1 then
    [("0x0000000000000000000000000000000000000000", "ETH"),
      ("0xc02aaa39b223fe8d0a0e5c4f27ead9083c756cc2", "WETH"),
      ("0xa0b86991c6218b36c1d19d4a2e9eb0ce3606eb48", "USDC"),
      ("0xdac17f958d2ee523a2206206994597c13d831ec7", "USDT")]
  else
    []

/-- `addr[:8]` and `addr[-4:]` around an ellipsis. -/
def shortHex (addr : String) : String :=
  String.ofList (addr.toList.take 8) ++ "…" ++
    String.ofList (addr.toList.drop (addr.toList.length - 4))

/-- `value.lower()`: only a string has it. -/
def lowered : Json → Except Exception String
  | .str text => .ok (lower text)
  | other =>
      .error ⟨.attributeError,
        "'" ++ other.typeName ++ "' object has no attribute 'lower'"⟩

def resolveSymbol (addr : Json) (chainId : Int) :
    Except Exception String :=
  if addr.truthy then do
    let a ← lowered addr
    match (knownTokens chainId).lookup a with
    | some symbol => return symbol
    | none => return shortHex (addr.str?.getD "")
  else
    return "?"

def bluechips : List String :=
  ["ETH", "WETH", "USDC", "USDT", "DAI", "cbBTC"]

structure Prompt where
  inSym : String
  outSym : String
  chainLbl : String
  price : PyFloat
  strength : Json
  rationale : Json
  size : Json
  bluechipNote : String

def chainLabel (chainId : Int) : String :=
  if chainId = 8453 then "Base"
  else if chainId = 1 then "Ethereum"
  else "chain " ++ toString chainId

def bluechipNote (inSym outSym : String) : String :=
  if bluechips.contains inSym && bluechips.contains outSym then
    "Both tokens are bluechip on this venue."
  else
    "At least one token is non-bluechip; weight that in your score."

/-- `_build_user_prompt`; the conversions in it can raise, and so can every
slot that prints a value.  The label of the chain is printed for known chains,
too. -/
def buildUserPrompt (signal : Dict) (limits : RecursionLimits := {}) :
    Except Exception Prompt := do
  let chainId ← (signal.getD "chain_id" (.int 8453)).toInt
  let inSym ← resolveSymbol (signal.getD "token_in" .null) chainId
  let outSym ← resolveSymbol (signal.getD "token_out" .null) chainId
  Display.formatWithin limits.printing (.int chainId)
  let price ← (signal.getD "price_usd" (.int 0)).toFloat
  Display.formatWithin limits.printing
    (signal.getD "signal" (.str "medium"))
  Display.formatWithin limits.printing
    (signal.getD "reason" (.str "(no rationale)"))
  Display.formatWithin limits.printing
    (signal.getD "amount_in_wei" (.int 0))
  return {
    inSym := inSym
    outSym := outSym
    chainLbl := chainLabel chainId
    price := price
    strength := signal.getD "signal" (.str "medium")
    rationale := signal.getD "reason" (.str "(no rationale)")
    size := signal.getD "amount_in_wei" (.int 0)
    bluechipNote := bluechipNote inSym outSym }

/-! ## Reading the reply -/

def fence : List Char := "```".toList

/-- Drop every markdown fence, with the word `json` where it follows; the
fuel is the length of the text. -/
def removeFences : Nat → List Char → List Char
  | 0, characters => characters
  | _ + 1, [] => []
  | fuel + 1, head :: characters =>
      match afterStart fence (head :: characters) with
      | some rest =>
          removeFences fuel ((afterStart "json".toList rest).getD rest)
      | none => head :: removeFences fuel characters

/-- From the first opening brace to the last closing one. -/
def bracesOf (characters : List Char) : Option (List Char) :=
  let opened := characters.dropWhile (· ≠ '{')
  let closed := (opened.reverse.dropWhile (· ≠ '}')).reverse
  if closed = [] then none else some closed

/-- `_parse_response`, for a `json.loads` -/
def parseResponseWith {α : Type} (loads : String → Except Exception α)
    (raw : String) : Except Exception α :=
  let cleaned :=
    stripChars (removeFences raw.toList.length raw.toList)
  loads (String.ofList ((bracesOf cleaned).getD cleaned))

/-- `_parse_response` -/
def parseResponse (raw : String) (limits : RecursionLimits := {}) :
    Except Exception Json :=
  parseResponseWith (JsonReader.loadsWithin limits.reading) raw

/-- On inference failure, HOLD is the safe default. -/
def inferenceFailed (exc : Exception) : Json :=
  .obj [("risk_score", .float (.fin 10)), ("action", .str "hold"),
    ("confidence", .float (.fin 0)),
    ("reasoning", .str ("Inference failed: " ++ exc.text)),
    ("rejection_reason", .str ("Inference error: " ++ exc.text))]

/-- The result of the `try`, for the outcome of `chat`. -/
def resultOf (reply : Except Exception String)
    (limits : RecursionLimits := {}) : Json :=
  match reply >>= (parseResponse · limits) with
  | .ok result => result
  | .error exc => inferenceFailed exc

/-! ## The decision -/

/-- `RISK_THRESHOLD` -/
def riskThreshold : PyFloat := .fin 7

structure Assessment where
  riskScore : PyFloat
  actionStr : String
  confidence : PyFloat
  rejectionReason : Json

def assess (result : Json) : Except Exception Assessment := do
  let fields ← result.asDict
  let riskScore ← (fields.getD "risk_score" (.float (.fin 10))).toFloat
  let actionStr ← lowered (fields.getD "action" (.str "hold"))
  let confidence ← (fields.getD "confidence" (.float (.fin (1 / 2)))).toFloat
  return {
    riskScore := riskScore
    actionStr := actionStr
    confidence := confidence
    rejectionReason := fields.getD "rejection_reason" .null }

namespace Assessment

/-- Override to HOLD if the risk is too high. -/
def override (assessment : Assessment) : Assessment :=
  if riskThreshold.le assessment.riskScore && assessment.actionStr != "hold"
  then
    { assessment with
      actionStr := "hold"
      rejectionReason := .str
        ("Risk score " ++ assessment.riskScore.formatOneDecimal ++
          " exceeds threshold 7.0") }
  else
    assessment

def action (assessment : Assessment) : TradeAction :=
  if assessment.actionStr = "buy" then .buy
  else if assessment.actionStr = "sell" then .sell
  else .hold

/-- The `rejection_reason` of the payload, for HOLD only. -/
def reason (assessment : Assessment) : Json :=
  if assessment.action = .hold then
    assessment.rejectionReason.orElse (.str "Risk gate: hold signal")
  else
    .null

end Assessment

def tokenIn (signal : Dict) : Json :=
  signal.getD "token_in" (.str nativeEth)

def tokenOut (signal : Dict) : Json :=
  signal.getD "token_out" (.str usdc)

/-- The payload for an assessment that has been through the override. -/
def payloadFor (signal : Dict) (assessment : Assessment) :
    Except Exception TradeDecisionPayload := do
  let chainId ← (signal.getD "chain_id" (.int 8453)).toInt
  let amountInWei ←
    (signal.getD "amount_in_wei" (.int 100000000000000000)).toInt
  TradeDecisionPayload.make assessment.action (tokenIn signal)
    (tokenOut signal) chainId amountInWei assessment.riskScore
    assessment.confidence assessment.reason

/-- From the outcome of `chat` to the decision. -/
def decisionFor (signal : Dict) (reply : Except Exception String)
    (limits : RecursionLimits := {}) :
    Except Exception TradeDecisionPayload := do
  let assessment ← assess (resultOf reply limits)
  payloadFor signal assessment.override

/-! ## Scoring a signal -/

section Score

variable {vocabulary : Vocabulary}

/-- `RiskScorer.score`, over any way to chat and to stamp a message. -/
def score
    (chat : Prompt →
      Program vocabulary Exception (Except Exception String))
    (newStamp : Program vocabulary Exception Stamp)
    (signal : Dict) (ourPubkey : String) (limits : RecursionLimits := {}) :
    Program vocabulary Exception SwarmMessage := do
  let prompt ← .ofExcept (buildUserPrompt signal limits)
  let reply ← chat prompt
  let decision ← .ofExcept (decisionFor signal reply limits)
  let stamp ← newStamp
  .ofExcept
    (SwarmMessage.make stamp .tradeDecision .risk ourPubkey
      decision.modelDump)

end Score

end SwarmFi.Core.Compute

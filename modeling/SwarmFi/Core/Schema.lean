import SwarmFi.Python.Json

/-!
# Messages of the swarm

The envelope every AXL message starts with and the typed payloads of the
decision path.  A payload whose model has validators is a structure that
carries what they check, so that it cannot be built in violation of them;
`make` is the construction that runs the checks.

A validation error is told by its model, its field and the problem; the echo
of the input and the link at the end of pydantic's text are left out.
-/

namespace SwarmFi.Core

open Python

inductive AgentRole where
  | researcher
  | risk
  | executor
  deriving DecidableEq, Repr

def AgentRole.value : AgentRole → String
  | .researcher => "researcher"
  | .risk => "risk"
  | .executor => "executor"

inductive MessageType where
  | ping
  | pong
  | marketSignal
  | tradeDecision
  | executionResult
  | error
  deriving DecidableEq, Repr

inductive TradeAction where
  | buy
  | sell
  | hold
  deriving DecidableEq, Repr

def TradeAction.value : TradeAction → String
  | .buy => "buy"
  | .sell => "sell"
  | .hold => "hold"

/-- The text of a pydantic error with one problem. -/
def validationError (model field problem : String) : Exception :=
  ⟨.validationError,
    "1 validation error for " ++ model ++ "\n" ++ field ++ "\n  " ++
      problem⟩

/-- A `str` field: pydantic takes no other type for it. -/
def validStr (model field : String) : Json → Except Exception String
  | .str text => .ok text
  | _ => .error (validationError model field "Input should be a valid string")

/-- A `str | None` field. -/
def validOptionalStr (model field : String) :
    Json → Except Exception (Option String)
  | .null => .ok none
  | .str text => .ok (some text)
  | _ => .error (validationError model field "Input should be a valid string")

/-- A `str | None` value as JSON. -/
def optionalStr : Option String → Json
  | none => .null
  | some text => .str text

/-! ## The envelope -/

/-- The two default factories of an envelope: a UUID4 and the time. -/
structure Stamp where
  messageId : String
  timestamp : String
  deriving DecidableEq

structure SwarmMessage where
  messageId : String
  messageType : MessageType
  senderRole : AgentRole
  senderPubkey : String
  timestamp : String
  payload : Dict

/-- The validator of `sender_pubkey`. -/
def pubkeyMustBeHex (v : String) : Except Exception String :=
  match parseInt 16 v with
  | some _ => .ok (lower v)
  | none =>
      .error (validationError "SwarmMessage" "sender_pubkey"
        "Value error, sender_pubkey must be a 64-char hex string")

/-- The constraints on `sender_pubkey`: its length, then its validator. -/
def validPubkey (v : String) : Except Exception String :=
  if v.length < 64 then
    .error (validationError "SwarmMessage" "sender_pubkey"
      "String should have at least 64 characters")
  else if 64 < v.length then
    .error (validationError "SwarmMessage" "sender_pubkey"
      "String should have at most 64 characters")
  else
    pubkeyMustBeHex v

def SwarmMessage.make
    (stamp : Stamp) (messageType : MessageType) (senderRole : AgentRole)
    (senderPubkey : String) (payload : Dict) :
    Except Exception SwarmMessage := do
  let senderPubkey ← validPubkey senderPubkey
  return {
    messageId := stamp.messageId
    messageType := messageType
    senderRole := senderRole
    senderPubkey := senderPubkey
    timestamp := stamp.timestamp
    payload := payload }

/-- A message is made when its sender's key is valid, around the payload. -/
theorem SwarmMessage.make_eq_ok
    {stamp : Stamp} {messageType : MessageType} {senderRole : AgentRole}
    {senderPubkey : String} {payload : Dict} {message : SwarmMessage}
    (made :
      make stamp messageType senderRole senderPubkey payload =
        .ok message) :
    message.messageId = stamp.messageId ∧
      message.messageType = messageType ∧ message.payload = payload := by
  unfold make at made
  cases valid : validPubkey senderPubkey with
  | error exc =>
      rw [valid] at made
      cases made
  | ok key =>
      rw [valid] at made
      cases made
      exact ⟨rfl, rfl, rfl⟩

theorem SwarmMessage.make_of_valid
    {senderPubkey key : String} (valid : validPubkey senderPubkey = .ok key)
    (stamp : Stamp) (messageType : MessageType) (senderRole : AgentRole)
    (payload : Dict) :
    make stamp messageType senderRole senderPubkey payload =
      .ok {
        messageId := stamp.messageId
        messageType := messageType
        senderRole := senderRole
        senderPubkey := key
        timestamp := stamp.timestamp
        payload := payload } := by
  unfold make
  rw [valid]
  rfl

theorem SwarmMessage.make_of_invalid
    {senderPubkey : String} {exc : Exception}
    (invalid : validPubkey senderPubkey = .error exc)
    (stamp : Stamp) (messageType : MessageType) (senderRole : AgentRole)
    (payload : Dict) :
    make stamp messageType senderRole senderPubkey payload =
      .error exc := by
  unfold make
  rw [invalid]
  rfl

theorem SwarmMessage.valid_of_make
    {stamp : Stamp} {messageType : MessageType} {senderRole : AgentRole}
    {senderPubkey : String} {payload : Dict} {message : SwarmMessage}
    (made :
      make stamp messageType senderRole senderPubkey payload =
        .ok message) :
    ∃ key, validPubkey senderPubkey = .ok key := by
  cases checked : validPubkey senderPubkey with
  | ok key => exact ⟨key, rfl⟩
  | error exc =>
      rw [make_of_invalid checked] at made
      cases made

/-! ## Payloads -/

structure PongPayload where
  nonce : String
  latencyMs : PyFloat

def PongPayload.make (nonce : Json) (latencyMs : PyFloat) :
    Except Exception PongPayload := do
  let nonce ← validStr "PongPayload" "nonce" nonce
  return { nonce := nonce, latencyMs := latencyMs }

def PongPayload.modelDump (payload : PongPayload) : Dict :=
  [("nonce", .str payload.nonce), ("latency_ms", .float payload.latencyMs)]

/-- A `float` field with bounds is refused when the value is below the lower
bound or above the upper one. -/
def OutOfRange (lower upper : Rat) (value : PyFloat) : Bool :=
  value.lt (.fin lower) || PyFloat.lt (.fin upper) value

/-- What a bounded field lets through: NaN, and the numbers in its range. -/
theorem outOfRange_eq_false_iff (lower upper : Rat) (value : PyFloat) :
    OutOfRange lower upper value = false ↔
      value = .nan ∨
        ∃ number, value = .fin number ∧ lower ≤ number ∧
          number ≤ upper := by
  cases value with
  | fin number => simp [OutOfRange, PyFloat.lt]
  | _ => simp [OutOfRange, PyFloat.lt]

structure TradeDecisionPayload where
  action : TradeAction
  tokenIn : String
  tokenOut : String
  chainId : Int
  amountInWei : Int
  riskScore : PyFloat
  confidence : PyFloat
  rejectionReason : Option String
  amount_positive : 0 < amountInWei
  risk_in_range : OutOfRange 0 10 riskScore = false
  confidence_in_range : OutOfRange 0 1 confidence = false
  hold_needs_reason : action = .hold → truthy rejectionReason = true

/-- The bound that `value` breaks, in pydantic's words. -/
def rangeProblem (lower upper : String) (value : PyFloat) (least : Rat) :
    String :=
  if value.lt (.fin least) then
    "Input should be greater than or equal to " ++ lower
  else
    "Input should be less than or equal to " ++ upper

/-- `TradeDecisionPayload(**kwargs)` where the tokens and the reason come as
JSON values.  Field checks run in the order of the fields and the model
validator after them. -/
def TradeDecisionPayload.make
    (action : TradeAction) (tokenIn tokenOut : Json)
    (chainId amountInWei : Int) (riskScore confidence : PyFloat)
    (rejectionReason : Json) :
    Except Exception TradeDecisionPayload := do
  let tokenIn ← validStr "TradeDecisionPayload" "token_in" tokenIn
  let tokenOut ← validStr "TradeDecisionPayload" "token_out" tokenOut
  if amountPositive : 0 < amountInWei then
    if riskInRange : OutOfRange 0 10 riskScore = false then
      if confidenceInRange : OutOfRange 0 1 confidence = false then
        let reason ←
          validOptionalStr "TradeDecisionPayload" "rejection_reason"
            rejectionReason
        if needsReason : action = .hold → truthy reason = true then
          return {
            action := action
            tokenIn := tokenIn
            tokenOut := tokenOut
            chainId := chainId
            amountInWei := amountInWei
            riskScore := riskScore
            confidence := confidence
            rejectionReason := reason
            amount_positive := amountPositive
            risk_in_range := riskInRange
            confidence_in_range := confidenceInRange
            hold_needs_reason := needsReason }
        else
          .error (validationError "TradeDecisionPayload" ""
            "Value error, HOLD decisions must include a rejection_reason")
      else
        .error (validationError "TradeDecisionPayload" "confidence"
          (rangeProblem "0" "1" confidence 0))
    else
      .error (validationError "TradeDecisionPayload" "risk_score"
        (rangeProblem "0" "10" riskScore 0))
  else
    .error (validationError "TradeDecisionPayload" "amount_in_wei"
      "Input should be greater than 0")

theorem validStr_eq_ok_iff
    (model field : String) (value : Json) (text : String) :
    validStr model field value = .ok text ↔ value = .str text := by
  cases value <;> simp [validStr]

theorem validOptionalStr_eq_ok_iff
    (model field : String) (value : Json) (text : Option String) :
    validOptionalStr model field value = .ok text ↔
      value = optionalStr text := by
  cases value <;> cases text <;> simp [validOptionalStr, optionalStr]

/-- Validation succeeds with a payload that carries the arguments; that they
pass the checks is then an invariant of the payload. -/
theorem TradeDecisionPayload.make_eq_ok_iff
    (action : TradeAction) (tokenIn tokenOut : Json)
    (chainId amountInWei : Int) (riskScore confidence : PyFloat)
    (rejectionReason : Json) (payload : TradeDecisionPayload) :
    make action tokenIn tokenOut chainId amountInWei riskScore confidence
        rejectionReason = .ok payload ↔
      payload.action = action ∧ tokenIn = .str payload.tokenIn ∧
        tokenOut = .str payload.tokenOut ∧ payload.chainId = chainId ∧
        payload.amountInWei = amountInWei ∧
        payload.riskScore = riskScore ∧
        payload.confidence = confidence ∧
        rejectionReason = optionalStr payload.rejectionReason := by
  constructor
  · intro made
    simp only [make, bind_eq_ok_iff, validStr_eq_ok_iff] at made
    obtain ⟨tokenInText, tokenInIs, tokenOutText, tokenOutIs, made⟩ := made
    split at made
    · split at made
      · split at made
        · simp only [bind_eq_ok_iff, validOptionalStr_eq_ok_iff] at made
          obtain ⟨reason, reasonIs, made⟩ := made
          split at made
          · cases made
            exact ⟨rfl, tokenInIs, tokenOutIs, rfl, rfl, rfl, rfl, reasonIs⟩
          · cases made
        · cases made
      · cases made
    · cases made
  · rintro ⟨rfl, rfl, rfl, rfl, rfl, rfl, rfl, rfl⟩
    have reasonRead :=
      (validOptionalStr_eq_ok_iff "TradeDecisionPayload" "rejection_reason"
        _ _).mpr (Eq.refl (optionalStr payload.rejectionReason))
    simp only [make, validStr, dif_pos payload.amount_positive,
      dif_pos payload.risk_in_range, dif_pos payload.confidence_in_range,
      reasonRead]
    show (if needsReason : _ then _ else _) = _
    rw [dif_pos payload.hold_needs_reason]
    rfl

def TradeDecisionPayload.modelDump (payload : TradeDecisionPayload) : Dict :=
  [("action", .str payload.action.value),
    ("token_in", .str payload.tokenIn),
    ("token_out", .str payload.tokenOut),
    ("chain_id", .int payload.chainId),
    ("amount_in_wei", .int payload.amountInWei),
    ("risk_score", .float payload.riskScore),
    ("confidence", .float payload.confidence),
    ("rejection_reason", optionalStr payload.rejectionReason)]

def TradeAction.ofValue? : String → Option TradeAction
  | "buy" => some .buy
  | "sell" => some .sell
  | "hold" => some .hold
  | _ => none

/-- The strict reading of a dumped decision: every field has the type it was
dumped with. -/
def TradeDecisionPayload.readDump (payload : Dict) :
    Except Exception TradeDecisionPayload :=
  match payload.get? "action", payload.get? "chain_id",
    payload.get? "amount_in_wei", payload.get? "risk_score",
    payload.get? "confidence" with
  | some (.str action), some (.int chainId), some (.int amountInWei),
    some (.float riskScore), some (.float confidence) =>
      match TradeAction.ofValue? action with
      | some action =>
          make action (payload.getD "token_in" .null)
            (payload.getD "token_out" .null) chainId amountInWei riskScore
            confidence (payload.getD "rejection_reason" .null)
      | none =>
          .error (validationError "TradeDecisionPayload" "action"
            "Input should be 'buy', 'sell' or 'hold'")
  | _, _, _, _, _ =>
      .error (validationError "TradeDecisionPayload" "" "Field required")

/-- What is dumped is read back. -/
theorem TradeDecisionPayload.readDump_modelDump
    (payload : TradeDecisionPayload) :
    readDump payload.modelDump = .ok payload := by
  have known : TradeAction.ofValue? payload.action.value =
      some payload.action := by
    cases payload.action <;> rfl
  show (match TradeAction.ofValue? payload.action.value with
    | some action => make action _ _ _ _ _ _ _
    | none => _) = _
  rw [known]
  exact (make_eq_ok_iff _ _ _ _ _ _ _ _ _).mpr
    ⟨rfl, rfl, rfl, rfl, rfl, rfl, rfl, rfl⟩

structure ExecutionResultPayload where
  success : Bool
  txHash : Option String
  error : Option String
  success_has_tx : success = true → truthy txHash = true
  failure_has_error : success = false → truthy error = true

/-- `ExecutionResultPayload(success=…, tx_hash=…, error=…)` with its model
validator `result_must_have_detail`. -/
def ExecutionResultPayload.make
    (success : Bool) (txHash error : Option String) :
    Except Exception ExecutionResultPayload :=
  if hasTx : success = true → truthy txHash = true then
    if hasError : success = false → truthy error = true then
      .ok {
        success := success
        txHash := txHash
        error := error
        success_has_tx := hasTx
        failure_has_error := hasError }
    else
      .error (validationError "ExecutionResultPayload" ""
        "Value error, Failed execution must include error")
  else
    .error (validationError "ExecutionResultPayload" ""
      "Value error, Successful execution must include tx_hash")

/-- The detail that a result needs: a hash for a success, an error for a
failure. -/
def HasDetail (success : Bool) (txHash error : Option String) : Prop :=
  (success = true → truthy txHash = true) ∧
    (success = false → truthy error = true)

theorem ExecutionResultPayload.make_ok_iff
    (success : Bool) (txHash error : Option String) :
    (∃ payload, make success txHash error = .ok payload) ↔
      HasDetail success txHash error := by
  unfold make HasDetail
  by_cases hasTx : success = true → truthy txHash = true
  · by_cases hasError : success = false → truthy error = true
    · rw [dif_pos hasTx, dif_pos hasError]
      exact iff_of_true ⟨_, rfl⟩ ⟨hasTx, hasError⟩
    · rw [dif_pos hasTx, dif_neg hasError]
      exact iff_of_false (fun ⟨_, made⟩ => by cases made)
        fun detail => hasError detail.2
  · rw [dif_neg hasTx]
    exact iff_of_false (fun ⟨_, made⟩ => by cases made)
      fun detail => hasTx detail.1

theorem ExecutionResultPayload.success_of_make
    {success : Bool} {txHash error : Option String}
    {payload : ExecutionResultPayload}
    (made : make success txHash error = .ok payload) :
    payload.success = success := by
  unfold make at made
  split at made
  · split at made
    · cases made
      rfl
    · cases made
  · cases made

def ExecutionResultPayload.modelDump (payload : ExecutionResultPayload) :
    Dict :=
  [("success", .bool payload.success),
    ("tx_hash", optionalStr payload.txHash),
    ("error", optionalStr payload.error),
    ("gas_used", .null),
    ("block_number", .null)]

/-- `make_pong`: the nonce is whatever the ping carried under that key. -/
def makePong
    (stamp : Stamp) (ping : SwarmMessage) (senderRole : AgentRole)
    (senderPubkey : String) (latencyMs : PyFloat) :
    Except Exception SwarmMessage := do
  let nonce := ping.payload.getD "nonce" (.str "")
  let payload ← PongPayload.make nonce latencyMs
  SwarmMessage.make stamp .pong senderRole senderPubkey payload.modelDump

theorem makePong_messageId
    {stamp : Stamp} {ping pong : SwarmMessage} {senderRole : AgentRole}
    {senderPubkey : String} {latencyMs : PyFloat}
    (made :
      makePong stamp ping senderRole senderPubkey latencyMs = .ok pong) :
    pong.messageId = stamp.messageId := by
  obtain ⟨payload, _, make⟩ := (bind_eq_ok_iff _ _ _).mp made
  exact (SwarmMessage.make_eq_ok make).1

end SwarmFi.Core

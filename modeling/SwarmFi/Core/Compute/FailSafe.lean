import SwarmFi.Core.Compute.RiskGate

/-!
# Failing safe

Scoring over every reply of the model, for a signal whose fields have their
types.  Only the call of the model and the parsing of its reply are guarded.
The coercions and the validation behind them raise for some replies and let
others through, so a decision is reached, and is HOLD for a reply that is no
assessment, exactly when the prompt can be printed and the reply is one of
those described here.
-/

namespace SwarmFi.Core.Compute

open Foundation Python

/-! ## The signals and the replies -/

/-- A signal with string tokens, an integer chain, a positive amount and a
numeric price. -/
structure PlainSignal (signal : Dict) : Prop where
  tokenIn : ∃ token, signal.get? "token_in" = some (.str token)
  tokenOut : ∃ token, signal.get? "token_out" = some (.str token)
  chainId : ∃ chainId, signal.get? "chain_id" = some (.int chainId)
  amountInWei : ∃ amount,
    signal.get? "amount_in_wei" = some (.int amount) ∧ 0 < amount
  price : ∃ price number,
    signal.get? "price_usd" = some price ∧ price.number? = some number

/-- A JSON number between two bounds. -/
def NumberIn (lower upper : Rat) (value : Json) : Prop :=
  ∃ number, value.number? = some (.fin number) ∧
    lower ≤ number ∧ number ≤ upper

def IsString (value : Json) : Prop :=
  ∃ text, value = .str text

/-- Every field that is present has its type and is in its range.  The prompt
asks for a null `rejection_reason` where the action is no HOLD; `nullReason`
says whether null counts as a wrong type all the same. -/
structure FieldsFit (nullReason : Bool) (fields : Dict) : Prop where
  riskScore : ∀ value, fields.get? "risk_score" = some value →
    NumberIn 0 10 value
  confidence : ∀ value, fields.get? "confidence" = some value →
    NumberIn 0 1 value
  action : ∀ value, fields.get? "action" = some value → IsString value
  rejectionReason : ∀ value,
    fields.get? "rejection_reason" = some value →
      IsString value ∨ nullReason = false ∧ value = .null

/-- There is no JSON object in the reply, or one of its fields does not
fit. -/
def Malformed (nullReason : Bool) (reply : Except Exception String)
    (limits : RecursionLimits) : Prop :=
  match reply >>= (parseResponse · limits) with
  | .ok (.obj fields) => ¬ FieldsFit nullReason fields
  | _ => True

/-- Scoring returns a decision, and HOLD for a malformed reply. -/
def FailsSafe
    (nullReason : Bool) (signal : Dict) (reply : Except Exception String)
    (stamp : Stamp) (ourPubkey : String) (limits : RecursionLimits) :
    Prop :=
  ∃ message, scored signal reply stamp ourPubkey limits = .ok message ∧
    message.messageType = .tradeDecision ∧
      (Malformed nullReason reply limits →
        message.payload.get? "action" = some (.str "hold"))

/-! ## What gets through -/

/-- `float(value)` is a number that the range of the field lets through. -/
def Converts (lower upper : Rat) (value : Json) (number : PyFloat) : Prop :=
  value.toFloat = .ok number ∧ OutOfRange lower upper number = false

/-- The decision on these fields is HOLD: the action asks for no trade, or
the threshold overrides it. -/
def Held (action : String) (risk : PyFloat) : Prop :=
  (lower action ≠ "buy" ∧ lower action ≠ "sell") ∨
    riskThreshold.le risk = true

/-- The reason of the reply is the one that is validated: the decision is
HOLD, and not because of the threshold. -/
def KeepsReason (action : String) (risk : PyFloat) : Prop :=
  lower action ≠ "buy" ∧ lower action ≠ "sell" ∧
    (lower action = "hold" ∨ riskThreshold.le risk = false)

/-- The fields of the reply are converted and validated without an error, and
the decision on fields that do not fit is HOLD. -/
structure FieldsPass
    (nullReason : Bool) (fields : Dict) (action : String)
    (risk confidence : PyFloat) : Prop where
  isAction : fields.getD "action" (.str "hold") = .str action
  isRisk :
    Converts 0 10 (fields.getD "risk_score" (.float (.fin 10))) risk
  isConfidence :
    Converts 0 1 (fields.getD "confidence" (.float (.fin (1 / 2))))
      confidence
  rejectionReason : KeepsReason action risk →
    ¬ (fields.getD "rejection_reason" .null).truthy = true ∨
      IsString (fields.getD "rejection_reason" .null)
  held : ¬ FieldsFit nullReason fields → Held action risk

/-- Nothing was parsed, or an object whose fields pass. -/
def ReplyPasses (nullReason : Bool) (reply : Except Exception String)
    (limits : RecursionLimits) : Prop :=
  match reply >>= (parseResponse · limits) with
  | .error _ => True
  | .ok (.obj fields) =>
      ∃ action risk confidence,
        FieldsPass nullReason fields action risk confidence
  | .ok _ => False

/-- What the prompt prints has a text: its integers have at most 4300 digits,
and it does not nest too deep. -/
structure SlotsPrint (room : Option Nat) (signal : Dict) : Prop where
  chainId : Display.Prints room (signal.getD "chain_id" (.int 8453))
  strength : Display.Prints room (signal.getD "signal" (.str "medium"))
  rationale :
    Display.Prints room (signal.getD "reason" (.str "(no rationale)"))
  size : Display.Prints room (signal.getD "amount_in_wei" (.int 0))

/-- Where scoring fails safe: the price of the signal fits a float, the slots
of the prompt print, the own key is valid, and the reply passes. -/
structure ScoresSafely
    (nullReason : Bool) (signal : Dict) (reply : Except Exception String)
    (ourPubkey : String) (limits : RecursionLimits) : Prop where
  price : ∃ price,
    (signal.getD "price_usd" (.int 0)).toFloat = .ok price
  slots : SlotsPrint limits.printing signal
  pubkey : ∃ key, validPubkey ourPubkey = .ok key
  reply : ReplyPasses nullReason reply limits

/-! ## The signal -/

theorem Dict.getD_of_get?
    {fields : Dict} {key : String} {value : Json}
    (found : fields.get? key = some value) (default : Json) :
    fields.getD key default = value := by
  unfold Dict.getD
  rw [found]
  rfl

theorem resolveSymbol_str (text : String) (chainId : Int) :
    ∃ symbol, resolveSymbol (.str text) chainId = .ok symbol := by
  have reads : lowered (.str text) = .ok (lower text) := rfl
  unfold resolveSymbol
  split
  · cases found : (knownTokens chainId).lookup (lower text) with
    | none =>
        exact ⟨_, (bind_eq_ok_iff _ _ _).mpr
          ⟨lower text, reads, by rw [found]; rfl⟩⟩
    | some symbol =>
        exact ⟨symbol, (bind_eq_ok_iff _ _ _).mpr
          ⟨lower text, reads, by rw [found]; rfl⟩⟩
  · exact ⟨_, rfl⟩

section Plain

variable {signal : Dict} (plain : PlainSignal signal)

include plain in
/-- Only the price and the printing can stand in the way of the prompt. -/
theorem PlainSignal.prompt_iff (limits : RecursionLimits) :
    (∃ prompt, buildUserPrompt signal limits = .ok prompt) ↔
      (∃ price, (signal.getD "price_usd" (.int 0)).toFloat = .ok price) ∧
        SlotsPrint limits.printing signal := by
  obtain ⟨tokenIn, isTokenIn⟩ := plain.tokenIn
  obtain ⟨tokenOut, isTokenOut⟩ := plain.tokenOut
  obtain ⟨chainId, isChainId⟩ := plain.chainId
  obtain ⟨inSym, isInSym⟩ := resolveSymbol_str tokenIn chainId
  obtain ⟨outSym, isOutSym⟩ := resolveSymbol_str tokenOut chainId
  have readsChainId := Dict.getD_of_get? isChainId (.int 8453)
  unfold buildUserPrompt
  rw [Dict.getD_of_get? isTokenIn, Dict.getD_of_get? isTokenOut,
    readsChainId]
  simp only [Json.toInt, bind_eq_ok_iff, Display.formatWithin_eq_ok_iff]
  constructor
  · intro built
    obtain ⟨prompt, chain, isChain, first, _, second, _, _, chainPrints,
      price, isPrice, _, strength, _, rationale, _, size, _⟩ := built
    cases isChain
    exact ⟨⟨price, isPrice⟩, readsChainId ▸ chainPrints, strength, rationale,
      size⟩
  · intro conditions
    obtain ⟨⟨price, isPrice⟩, slots⟩ := conditions
    have chainPrints := slots.chainId
    rw [readsChainId] at chainPrints
    exact ⟨_, chainId, rfl, inSym, isInSym, outSym, isOutSym, (),
      chainPrints, price, isPrice, (), slots.strength, (), slots.rationale,
      (), slots.size, rfl⟩

include plain in
/-- An assessment becomes a decision when its numbers are in range and its
reason is a string or missing. -/
theorem PlainSignal.decision_iff (assessment : Assessment) :
    (∃ decision,
        payloadFor signal assessment.override = .ok decision) ↔
      OutOfRange 0 10 assessment.riskScore = false ∧
        OutOfRange 0 1 assessment.confidence = false ∧
          ∃ reason, assessment.override.reason = optionalStr reason := by
  constructor
  · intro decided
    obtain ⟨decision, isDecision⟩ := decided
    obtain ⟨_, _, _, _, _, isRisk, isConfidence, isReason⟩ :=
      (payloadFor_eq_ok_iff _ _ _).mp isDecision
    rw [Assessment.override_riskScore] at isRisk
    rw [Assessment.override_confidence] at isConfidence
    rw [← isRisk, ← isConfidence]
    exact ⟨decision.risk_in_range, decision.confidence_in_range, _,
      isReason⟩
  · intro valid
    obtain ⟨risk, confidence, isReason⟩ := valid
    obtain ⟨token, isTokenIn⟩ := plain.tokenIn
    obtain ⟨sold, isTokenOut⟩ := plain.tokenOut
    obtain ⟨chainId, isChainId⟩ := plain.chainId
    obtain ⟨amount, isAmount, positive⟩ := plain.amountInWei
    apply exists_decision
    · exact ⟨chainId, by rw [Dict.getD_of_get? isChainId]; rfl⟩
    · exact ⟨token, Dict.getD_of_get? isTokenIn _⟩
    · exact ⟨sold, Dict.getD_of_get? isTokenOut _⟩
    · exact ⟨amount, by rw [Dict.getD_of_get? isAmount]; rfl, positive⟩
    · exact risk
    · exact confidence
    · exact isReason

end Plain

/-! ## The assessment -/

theorem lowered_eq_ok_iff (value : Json) (text : String) :
    lowered value = .ok text ↔
      ∃ action, value = .str action ∧ lower action = text := by
  cases value <;> simp [lowered]

/-- An object is assessed when its two numbers convert and its action is a
string. -/
theorem assess_obj_eq_ok_iff (fields : Dict) (assessment : Assessment) :
    assess (.obj fields) = .ok assessment ↔
      (fields.getD "risk_score" (.float (.fin 10))).toFloat =
          .ok assessment.riskScore ∧
        (∃ action, fields.getD "action" (.str "hold") = .str action ∧
          lower action = assessment.actionStr) ∧
        (fields.getD "confidence" (.float (.fin (1 / 2)))).toFloat =
          .ok assessment.confidence ∧
        fields.getD "rejection_reason" .null =
          assessment.rejectionReason := by
  simp only [assess, Json.asDict, bind_eq_ok_iff, lowered_eq_ok_iff]
  constructor
  · intro assessed
    obtain ⟨_, same, risk, isRisk, text, ⟨action, isAction, isText⟩,
      confidence, isConfidence, made⟩ := assessed
    cases same
    cases made
    exact ⟨isRisk, ⟨action, isAction, isText⟩, isConfidence, rfl⟩
  · intro read
    obtain ⟨isRisk, isAction, isConfidence, isReason⟩ := read
    refine ⟨fields, rfl, _, isRisk, _, isAction, _, isConfidence, ?_⟩
    rw [isReason]
    rfl

theorem assess_ne_obj
    {result : Json} (notObject : ∀ fields, result ≠ .obj fields)
    (assessment : Assessment) : assess result ≠ .ok assessment := by
  intro assessed
  obtain ⟨fields, isDict, _⟩ := (bind_eq_ok_iff _ _ _).mp assessed
  cases result with
  | obj found => exact notObject found rfl
  | _ => cases isDict

namespace Assessment

/-- The override turns nothing but a trade at or above the threshold into a
HOLD. -/
theorem override_action_hold_iff (assessment : Assessment) :
    assessment.override.action = .hold ↔
      (assessment.actionStr ≠ "buy" ∧ assessment.actionStr ≠ "sell") ∨
        riskThreshold.le assessment.riskScore = true := by
  have kept := assessment.action_ne_hold_iff
  by_cases reached : riskThreshold.le assessment.riskScore = true
  · have held : assessment.override.action = .hold := by
      apply Decidable.byContradiction
      intro approves
      have below := assessment.override_below approves
      rw [override_riskScore, reached] at below
      cases below
    exact iff_of_true held (Or.inr reached)
  · rw [override_of_not_le (Bool.eq_false_iff.mpr reached)]
    rw [or_iff_left reached, ← not_or, ← kept]
    exact Decidable.not_not.symm

theorem optional_of_orElse (first : Json) (text : String) :
    (∃ reason, first.orElse (.str text) = optionalStr reason) ↔
      ¬ first.truthy = true ∨ IsString first := by
  unfold Json.orElse
  by_cases present : first.truthy = true
  · rw [if_pos present, or_iff_right (not_not_intro present)]
    constructor
    · intro isOptional
      obtain ⟨reason, isReason⟩ := isOptional
      cases reason with
      | none =>
          rw [isReason] at present
          cases present
      | some text => exact ⟨text, isReason⟩
    · intro isString
      obtain ⟨text, isText⟩ := isString
      exact ⟨some text, isText⟩
  · rw [if_neg present]
    exact iff_of_true ⟨some text, rfl⟩ (Or.inl present)

/-- The reason is validated as the reply has it only where the decision is
HOLD without the override. -/
theorem reason_valid_iff (assessment : Assessment) :
    (∃ reason, assessment.override.reason = optionalStr reason) ↔
      (assessment.actionStr ≠ "buy" ∧ assessment.actionStr ≠ "sell" ∧
          (assessment.actionStr = "hold" ∨
            riskThreshold.le assessment.riskScore = false) →
        ¬ assessment.rejectionReason.truthy = true ∨
          IsString assessment.rejectionReason) := by
  unfold override
  split
  · next overridden =>
      simp only [Bool.and_eq_true, bne_iff_ne, ne_eq] at overridden
      have written : ∀ text : String,
          ∃ reason, ((Json.str text).orElse
            (.str "Risk gate: hold signal")) = optionalStr reason :=
        fun text => (optional_of_orElse _ _).mpr (Or.inr ⟨text, rfl⟩)
      have held : ∀ text : String,
          ({ assessment with
              actionStr := "hold"
              rejectionReason := .str text } : Assessment).action = .hold :=
        fun _ => rfl
      unfold reason
      rw [if_pos (held _)]
      refine iff_of_true (written _) fun keeps => ?_
      obtain ⟨_, _, asked | below⟩ := keeps
      · exact absurd asked overridden.2
      · rw [overridden.1] at below
        cases below
  · next kept =>
      simp only [Bool.and_eq_true, bne_iff_ne, ne_eq, not_and,
        Decidable.not_not] at kept
      have approves := assessment.action_ne_hold_iff
      unfold reason
      by_cases held : assessment.action = .hold
      · have noTrade : assessment.actionStr ≠ "buy" ∧
            assessment.actionStr ≠ "sell" := by
          rw [← not_or, ← approves]
          exact not_not_intro held
        have keeps : assessment.actionStr = "hold" ∨
            riskThreshold.le assessment.riskScore = false := by
          by_cases reached :
              riskThreshold.le assessment.riskScore = true
          · exact Or.inl (kept reached)
          · exact Or.inr (Bool.eq_false_iff.mpr reached)
        rw [if_pos held, optional_of_orElse]
        exact ⟨fun valid _ => valid,
          fun valid => valid ⟨noTrade.1, noTrade.2, keeps⟩⟩
      · rw [if_neg held]
        refine iff_of_true ⟨none, rfl⟩ fun keeps => ?_
        rcases approves.mp held with isBuy | isSell
        · exact absurd isBuy keeps.1
        · exact absurd isSell keeps.2.1

end Assessment

/-- The assessment of an object whose two numbers and action are these. -/
def assessmentOf (fields : Dict) (action : String)
    (risk confidence : PyFloat) : Assessment where
  riskScore := risk
  actionStr := lower action
  confidence := confidence
  rejectionReason := fields.getD "rejection_reason" .null

/-- A failed inference is assessed as a HOLD with a reason. -/
theorem assess_inferenceFailed (exc : Exception) :
    ∃ assessment, assess (inferenceFailed exc) = .ok assessment ∧
      OutOfRange 0 10 assessment.riskScore = false ∧
        OutOfRange 0 1 assessment.confidence = false ∧
          assessment.override.action = .hold ∧
            ∃ reason, assessment.override.reason = optionalStr reason := by
  have risk : OutOfRange 0 10 (.fin 10) = false := by decide
  have confidence : OutOfRange 0 1 (.fin 0) = false := by decide
  refine ⟨⟨.fin 10, "hold", .fin 0, .str ("Inference error: " ++ exc.text)⟩,
    rfl, risk, confidence, rfl, ?_⟩
  apply (Assessment.reason_valid_iff _).mpr
  intro _
  exact Or.inr ⟨_, rfl⟩

/-! ## When scoring fails safe -/

theorem resultOf_of_ok
    {reply : Except Exception String} {limits : RecursionLimits}
    {result : Json}
    (parsed : (reply >>= (parseResponse · limits)) = .ok result) :
    resultOf reply limits = result := by
  unfold resultOf
  rw [parsed]

theorem resultOf_of_error
    {reply : Except Exception String} {limits : RecursionLimits}
    {exc : Exception}
    (failed : (reply >>= (parseResponse · limits)) = .error exc) :
    resultOf reply limits = inferenceFailed exc := by
  unfold resultOf
  rw [failed]

/-- A decision is reached, and it is HOLD if the reply is malformed. -/
def DecidesSafely
    (nullReason : Bool) (signal : Dict) (reply : Except Exception String)
    (limits : RecursionLimits) : Prop :=
  ∃ assessment decision, assess (resultOf reply limits) = .ok assessment ∧
    payloadFor signal assessment.override = .ok decision ∧
      (Malformed nullReason reply limits →
        assessment.override.action = .hold)

section Scoring

variable
  {signal : Dict} (plain : PlainSignal signal) (nullReason : Bool)
  (reply : Except Exception String) (stamp : Stamp) (ourPubkey : String)
  (limits : RecursionLimits)

include plain in
theorem decidesSafely_of_fields
    {fields : Dict}
    (parsed : (reply >>= (parseResponse · limits)) = .ok (.obj fields))
    {action : String} {risk confidence : PyFloat}
    (pass : FieldsPass nullReason fields action risk confidence) :
    DecidesSafely nullReason signal reply limits := by
  let assessment := assessmentOf fields action risk confidence
  have assessed : assess (resultOf reply limits) = .ok assessment := by
    rw [resultOf_of_ok parsed]
    apply (assess_obj_eq_ok_iff fields assessment).mpr
    exact ⟨pass.isRisk.1, ⟨action, pass.isAction, rfl⟩,
      pass.isConfidence.1, rfl⟩
  have reason : ∃ reason,
      assessment.override.reason = optionalStr reason :=
    assessment.reason_valid_iff.mpr pass.rejectionReason
  obtain ⟨decision, isDecision⟩ :=
    (plain.decision_iff assessment).mpr
      ⟨pass.isRisk.2, pass.isConfidence.2, reason⟩
  refine ⟨assessment, decision, assessed, isDecision, fun malformed => ?_⟩
  rw [Malformed, parsed] at malformed
  exact assessment.override_action_hold_iff.mpr (pass.held malformed)

include plain in
theorem fieldsPass_of_decidesSafely
    {fields : Dict}
    (parsed : (reply >>= (parseResponse · limits)) = .ok (.obj fields))
    (decides : DecidesSafely nullReason signal reply limits) :
    ∃ action risk confidence,
      FieldsPass nullReason fields action risk confidence := by
  obtain ⟨assessment, decision, assessed, isDecision, held⟩ := decides
  rw [resultOf_of_ok parsed, assess_obj_eq_ok_iff] at assessed
  obtain ⟨isRisk, ⟨action, isAction, isText⟩, isConfidence, isReason⟩ :=
    assessed
  obtain ⟨riskInRange, confidenceInRange, reason⟩ :=
    (plain.decision_iff assessment).mp ⟨decision, isDecision⟩
  have keeps := assessment.reason_valid_iff.mp reason
  rw [← isText, ← isReason] at keeps
  refine ⟨action, assessment.riskScore, assessment.confidence, {
    isAction := isAction
    isRisk := ⟨isRisk, riskInRange⟩
    isConfidence := ⟨isConfidence, confidenceInRange⟩
    rejectionReason := keeps
    held := fun malformed => ?_ }⟩
  have holds := held (by rw [Malformed, parsed]; exact malformed)
  have isHeld := assessment.override_action_hold_iff.mp holds
  rw [← isText] at isHeld
  exact isHeld

include plain in
theorem decidesSafely_iff :
    DecidesSafely nullReason signal reply limits ↔
      ReplyPasses nullReason reply limits := by
  unfold ReplyPasses
  cases parsed : reply >>= (parseResponse · limits) with
  | error exc =>
      obtain ⟨assessment, assessed, risk, confidence, held, reason⟩ :=
        assess_inferenceFailed exc
      obtain ⟨decision, isDecision⟩ :=
        (plain.decision_iff assessment).mpr ⟨risk, confidence, reason⟩
      rw [← resultOf_of_error parsed] at assessed
      exact iff_of_true
        ⟨assessment, decision, assessed, isDecision, fun _ => held⟩ trivial
  | ok result =>
      have noObject : (∀ fields, result ≠ .obj fields) →
          ¬ DecidesSafely nullReason signal reply limits := by
        intro notObject decides
        obtain ⟨assessment, _, assessed, _⟩ := decides
        rw [resultOf_of_ok parsed] at assessed
        exact assess_ne_obj notObject assessment assessed
      cases result with
      | obj fields =>
          constructor
          · exact fieldsPass_of_decidesSafely plain nullReason reply limits
              parsed
          · intro passes
            obtain ⟨action, risk, confidence, pass⟩ := passes
            exact decidesSafely_of_fields plain nullReason reply limits parsed
              pass
      | _ =>
          exact iff_of_false (noObject fun _ same => by cases same) id

include plain in
/-- For a plain signal, scoring fails safe exactly where the price fits, the
slots print, the key is valid and the reply passes. -/
theorem failsSafe_iff_safely :
    FailsSafe nullReason signal reply stamp ourPubkey limits ↔
      ScoresSafely nullReason signal reply ourPubkey limits := by
  constructor
  · intro safe
    obtain ⟨message, returned, _, held⟩ := safe
    obtain ⟨prompt, decision, built, decided, made⟩ :=
      (scored_eq_ok_iff _ _ _ _ _ _).mp returned
    obtain ⟨assessment, assessed, isDecision⟩ :=
      (decisionFor_eq_ok_iff _ _ _ _).mp decided
    have isAction := ((payloadFor_eq_ok_iff _ _ _).mp isDecision).2.2.1
    have decides : DecidesSafely nullReason signal reply limits := by
      refine ⟨assessment, decision, assessed, isDecision, ?_⟩
      intro malformed
      have isHold := held malformed
      rw [(SwarmMessage.make_eq_ok made).2.2, modelDump_action] at isHold
      rw [← isAction]
      exact (TradeAction.value_eq_hold_iff _).mp (eq_of_str_eq isHold)
    obtain ⟨price, slots⟩ := (plain.prompt_iff limits).mp ⟨prompt, built⟩
    exact {
      price := price
      slots := slots
      pubkey := SwarmMessage.valid_of_make made
      reply :=
        (decidesSafely_iff plain nullReason reply limits).mp decides }
  · intro safely
    obtain ⟨prompt, built⟩ :=
      (plain.prompt_iff limits).mpr ⟨safely.price, safely.slots⟩
    obtain ⟨key, validKey⟩ := safely.pubkey
    obtain ⟨assessment, decision, assessed, isDecision, held⟩ :=
      (decidesSafely_iff plain nullReason reply limits).mpr safely.reply
    have decided : decisionFor signal reply limits = .ok decision :=
      (decisionFor_eq_ok_iff _ _ _ _).mpr ⟨assessment, assessed, isDecision⟩
    have isAction := ((payloadFor_eq_ok_iff _ _ _).mp isDecision).2.2.1
    have made := SwarmMessage.make_of_valid validKey stamp .tradeDecision
      .risk decision.modelDump
    refine ⟨_, (scored_eq_ok_iff _ _ _ _ _ _).mpr
      ⟨prompt, decision, built, decided, made⟩, rfl, fun malformed => ?_⟩
    show Dict.get? decision.modelDump "action" = _
    rw [modelDump_action, isAction, held malformed]
    rfl

end Scoring

end SwarmFi.Core.Compute

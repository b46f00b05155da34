import SwarmFi.Core.Compute.RiskScorer

/-!
# The risk gate

What the payload of a scored message promises, for every reply of the model,
every signal and every recursion limit.  The threshold and the range checks compare floats, and
every comparison with NaN is false, so the gate holds exactly when no NaN gets
past them.
-/

namespace SwarmFi.Core.Compute

open Foundation Python

/-! ## Scoring against one reply -/

inductive ComputeCall where
  | chat (prompt : Prompt)
  | newStamp

abbrev ComputeCall.Answer : ComputeCall → Type
  | .chat _ => Except Exception String
  | .newStamp => Stamp

abbrev ComputeVocabulary : Vocabulary where
  Call := ComputeCall
  Answer := ComputeCall.Answer

def chat (prompt : Prompt) :
    Program ComputeVocabulary Exception (Except Exception String) :=
  .call (ComputeCall.chat prompt) .done

def newStamp : Program ComputeVocabulary Exception Stamp :=
  .call ComputeCall.newStamp .done

/-- The model gives this reply, or `chat` raises. -/
def replying (reply : Except Exception String) (stamp : Stamp) :
    Environment ComputeVocabulary Unit
  | _, .chat _ => (reply, ())
  | _, .newStamp => (stamp, ())

/-- What `score` returns or raises for one reply. -/
def scored
    (signal : Dict) (reply : Except Exception String) (stamp : Stamp)
    (ourPubkey : String) (limits : RecursionLimits) :
    Except Exception SwarmMessage :=
  ((score chat newStamp signal ourPubkey limits).run (replying reply stamp)
    ()).1

theorem scored_eq_ok_iff
    (signal : Dict) (reply : Except Exception String) (stamp : Stamp)
    (ourPubkey : String) (limits : RecursionLimits)
    (message : SwarmMessage) :
    scored signal reply stamp ourPubkey limits = .ok message ↔
      ∃ prompt decision, buildUserPrompt signal limits = .ok prompt ∧
        decisionFor signal reply limits = .ok decision ∧
          SwarmMessage.make stamp .tradeDecision .risk ourPubkey
            decision.modelDump = .ok message := by
  simp only [scored, score, chat, newStamp, Program.bind_eq_bind,
    Program.run_bind, Program.run_ofExcept, Program.run_call,
    Program.run_done, replying]
  cases buildUserPrompt signal limits with
  | error exc => simp
  | ok prompt =>
      cases decisionFor signal reply limits with
      | error exc => simp
      | ok decision => simp

/-! ## The promise -/

/-- What the payload of a decision message promises. -/
structure RiskGate (payload : Dict) : Prop where
  approved : ∀ action ∈ ["buy", "sell"],
    payload.get? "action" = some (.str action) →
      ∃ risk : Rat, payload.get? "risk_score" = some (.float (.fin risk)) ∧
        0 ≤ risk ∧ risk < 7
  rejected : payload.get? "action" = some (.str "hold") →
    ∃ reason, payload.get? "rejection_reason" = some (.str reason) ∧
      reason ≠ ""
  confident : ∃ confidence : Rat,
    payload.get? "confidence" = some (.float (.fin confidence)) ∧
      0 ≤ confidence ∧ confidence ≤ 1

theorem modelDump_action (decision : TradeDecisionPayload) :
    Dict.get? decision.modelDump "action" =
      some (.str decision.action.value) := rfl

theorem modelDump_riskScore (decision : TradeDecisionPayload) :
    Dict.get? decision.modelDump "risk_score" =
      some (.float decision.riskScore) := rfl

theorem modelDump_confidence (decision : TradeDecisionPayload) :
    Dict.get? decision.modelDump "confidence" =
      some (.float decision.confidence) := rfl

theorem modelDump_rejectionReason (decision : TradeDecisionPayload) :
    Dict.get? decision.modelDump "rejection_reason" =
      some (optionalStr decision.rejectionReason) := rfl

theorem TradeAction.value_eq_hold_iff (action : TradeAction) :
    action.value = "hold" ↔ action = .hold := by
  cases action <;> decide

theorem TradeAction.value_approves_iff (action : TradeAction) :
    action.value ∈ ["buy", "sell"] ↔ action ≠ .hold := by
  cases action <;> decide

theorem eq_of_str_eq {first second : String}
    (same : (some (Json.str first)) = some (.str second)) :
    first = second := by
  cases same
  rfl

/-- A validated decision keeps the promise when its confidence is a number
and an approved risk is a number below the threshold. -/
theorem riskGate_modelDump
    {decision : TradeDecisionPayload}
    (confidenceReal : decision.confidence ≠ .nan)
    (approvedReal : decision.action ≠ .hold → decision.riskScore ≠ .nan)
    (approvedBelow : decision.action ≠ .hold →
      riskThreshold.le decision.riskScore = false) :
    RiskGate decision.modelDump where
  approved := by
    intro action approves isAction
    rw [modelDump_action] at isAction
    have same := eq_of_str_eq isAction
    rw [← same, TradeAction.value_approves_iff] at approves
    have inRange :=
      (outOfRange_eq_false_iff 0 10 _).mp decision.risk_in_range
    rcases inRange with isNan | ⟨risk, isRisk, atLeast, _⟩
    · exact absurd isNan (approvedReal approves)
    · have below := approvedBelow approves
      rw [isRisk] at below
      refine ⟨risk, by rw [modelDump_riskScore, isRisk], atLeast, ?_⟩
      simpa [riskThreshold, PyFloat.le, Rat.not_le] using below
  rejected := by
    intro isHold
    rw [modelDump_action] at isHold
    have held :=
      (TradeAction.value_eq_hold_iff decision.action).mp
        (eq_of_str_eq isHold)
    obtain ⟨reason, isReason, nonempty⟩ :=
      (truthy_eq_true_iff _).mp (decision.hold_needs_reason held)
    refine ⟨reason, ?_, nonempty⟩
    rw [modelDump_rejectionReason, isReason]
    rfl
  confident := by
    have inRange :=
      (outOfRange_eq_false_iff 0 1 _).mp decision.confidence_in_range
    rcases inRange with isNan | ⟨confidence, isConfidence, bounds⟩
    · exact absurd isNan confidenceReal
    · exact ⟨confidence, by rw [modelDump_confidence, isConfidence], bounds⟩

theorem confidence_ne_nan_of_riskGate
    {decision : TradeDecisionPayload}
    (gate : RiskGate decision.modelDump) :
    decision.confidence ≠ .nan := by
  intro isNan
  obtain ⟨confidence, found, _⟩ := gate.confident
  rw [modelDump_confidence, isNan] at found
  cases found

theorem riskScore_ne_nan_of_riskGate
    {decision : TradeDecisionPayload}
    (gate : RiskGate decision.modelDump)
    (approves : decision.action ≠ .hold) :
    decision.riskScore ≠ .nan := by
  intro isNan
  obtain ⟨risk, found, _⟩ :=
    gate.approved decision.action.value
      ((TradeAction.value_approves_iff _).mpr approves)
      (modelDump_action decision)
  rw [modelDump_riskScore, isNan] at found
  cases found

/-! ## The override -/

namespace Assessment

theorem action_ne_hold_iff (assessment : Assessment) :
    assessment.action ≠ .hold ↔
      assessment.actionStr = "buy" ∨ assessment.actionStr = "sell" := by
  unfold action
  by_cases isBuy : assessment.actionStr = "buy"
  · simp [isBuy]
  · by_cases isSell : assessment.actionStr = "sell"
    · simp [isSell]
    · simp [isBuy, isSell]

/-- After the override an approved action has no risk at or above the
threshold. -/
theorem override_below (assessment : Assessment)
    (approves : assessment.override.action ≠ .hold) :
    riskThreshold.le assessment.override.riskScore = false := by
  unfold override at approves ⊢
  split
  · next overridden =>
      rw [if_pos overridden] at approves
      exact absurd rfl approves
  · next kept =>
      rw [if_neg kept, action_ne_hold_iff] at approves
      simp only [Bool.and_eq_true, bne_iff_ne, ne_eq, not_and,
        Decidable.not_not] at kept
      cases reached : riskThreshold.le assessment.riskScore with
      | false => rfl
      | true =>
          rw [kept reached] at approves
          exact absurd approves (by decide)

theorem override_riskScore (assessment : Assessment) :
    assessment.override.riskScore = assessment.riskScore := by
  unfold override
  split <;> rfl

theorem override_confidence (assessment : Assessment) :
    assessment.override.confidence = assessment.confidence := by
  unfold override
  split <;> rfl

theorem override_of_not_le {assessment : Assessment}
    (below : riskThreshold.le assessment.riskScore = false) :
    assessment.override = assessment := by
  unfold override
  rw [below]
  rfl

/-- A NaN risk never reaches the threshold. -/
theorem override_of_nan {assessment : Assessment}
    (isNan : assessment.riskScore = .nan) :
    assessment.override = assessment := by
  apply override_of_not_le
  rw [isNan, PyFloat.le_nan]

/-- An approved action is one that the override has kept. -/
theorem action_of_override {assessment : Assessment}
    (approves : assessment.override.action ≠ .hold) :
    assessment.action ≠ .hold := by
  unfold override at approves
  split at approves
  · exact absurd rfl approves
  · exact approves

/-- The reason of a HOLD is never empty. -/
theorem truthy_reason (assessment : Assessment) {reason : Option String}
    (isReason : assessment.reason = optionalStr reason)
    (held : assessment.action = .hold) :
    truthy reason = true := by
  rw [Assessment.reason, if_pos held, Json.orElse] at isReason
  split at isReason
  · next present =>
      rw [isReason] at present
      cases reason with
      | none => cases present
      | some text => simpa [optionalStr, Json.truthy] using present
  · cases reason with
    | none => cases isReason
    | some text =>
        cases isReason
        decide

end Assessment

/-! ## When the gate holds -/

/-- A NaN where the checks of an assessment would need a number. -/
def CarriesNan (assessment : Assessment) : Prop :=
  assessment.confidence = .nan ∨
    assessment.riskScore = .nan ∧
      (assessment.actionStr = "buy" ∨ assessment.actionStr = "sell")

/-- Nothing else stands in the way of the message. -/
structure OtherwiseValid
    (signal : Dict) (assessment : Assessment) (ourPubkey : String)
    (limits : RecursionLimits) : Prop where
  prompt : ∃ prompt, buildUserPrompt signal limits = .ok prompt
  tokenIn : ∃ text, tokenIn signal = .str text
  tokenOut : ∃ text, tokenOut signal = .str text
  amount : ∃ amount,
    (signal.getD "amount_in_wei" (.int 100000000000000000)).toInt =
      .ok amount ∧ 0 < amount
  risk : OutOfRange 0 10 assessment.riskScore = false
  confidence : OutOfRange 0 1 assessment.confidence = false
  reason : ∃ reason, assessment.override.reason = optionalStr reason
  pubkey : ∃ key, validPubkey ourPubkey = .ok key

theorem chainId_of_prompt
    {signal : Dict} {limits : RecursionLimits} {prompt : Prompt}
    (built : buildUserPrompt signal limits = .ok prompt) :
    ∃ chainId, (signal.getD "chain_id" (.int 8453)).toInt =
      .ok chainId := by
  simp only [buildUserPrompt, bind_eq_ok_iff] at built
  obtain ⟨chainId, isChainId, _⟩ := built
  exact ⟨chainId, isChainId⟩

theorem payloadFor_eq_ok_iff
    (signal : Dict) (assessment : Assessment)
    (decision : TradeDecisionPayload) :
    payloadFor signal assessment = .ok decision ↔
      (signal.getD "chain_id" (.int 8453)).toInt = .ok decision.chainId ∧
        (signal.getD "amount_in_wei" (.int 100000000000000000)).toInt =
          .ok decision.amountInWei ∧
        decision.action = assessment.action ∧
        tokenIn signal = .str decision.tokenIn ∧
        tokenOut signal = .str decision.tokenOut ∧
        decision.riskScore = assessment.riskScore ∧
        decision.confidence = assessment.confidence ∧
        assessment.reason = optionalStr decision.rejectionReason := by
  simp only [payloadFor, bind_eq_ok_iff,
    TradeDecisionPayload.make_eq_ok_iff]
  constructor
  · rintro ⟨chainId, isChainId, amount, isAmount, isAction, isIn, isOut,
      rfl, rfl, isRisk, isConfidence, isReason⟩
    exact ⟨isChainId, isAmount, isAction, isIn, isOut, isRisk,
      isConfidence, isReason⟩
  · rintro ⟨isChainId, isAmount, isAction, isIn, isOut, isRisk,
      isConfidence, isReason⟩
    exact ⟨_, isChainId, _, isAmount, isAction, isIn, isOut, rfl, rfl,
      isRisk, isConfidence, isReason⟩

/-- A decision is reached from an assessment of the reply. -/
theorem decisionFor_eq_ok_iff
    (signal : Dict) (reply : Except Exception String)
    (limits : RecursionLimits) (decision : TradeDecisionPayload) :
    decisionFor signal reply limits = .ok decision ↔
      ∃ assessment, assess (resultOf reply limits) = .ok assessment ∧
        payloadFor signal assessment.override = .ok decision := by
  rw [decisionFor, bind_eq_ok_iff]

/-- What passes every check becomes a decision with the numbers as they
are. -/
theorem exists_decision
    {signal : Dict} {assessment : Assessment}
    (chainId : ∃ chainId,
      (signal.getD "chain_id" (.int 8453)).toInt = .ok chainId)
    (isTokenIn : ∃ text, tokenIn signal = .str text)
    (isTokenOut : ∃ text, tokenOut signal = .str text)
    (amountInWei : ∃ amount,
      (signal.getD "amount_in_wei" (.int 100000000000000000)).toInt =
        .ok amount ∧ 0 < amount)
    (risk : OutOfRange 0 10 assessment.riskScore = false)
    (confidence : OutOfRange 0 1 assessment.confidence = false)
    (isReason : ∃ reason,
      assessment.override.reason = optionalStr reason) :
    ∃ decision, payloadFor signal assessment.override = .ok decision := by
  obtain ⟨chain, isChain⟩ := chainId
  obtain ⟨tokenInText, readsTokenIn⟩ := isTokenIn
  obtain ⟨tokenOutText, readsTokenOut⟩ := isTokenOut
  obtain ⟨amount, isAmount, positive⟩ := amountInWei
  obtain ⟨reason, readsReason⟩ := isReason
  let decision : TradeDecisionPayload := {
    action := assessment.override.action
    tokenIn := tokenInText
    tokenOut := tokenOutText
    chainId := chain
    amountInWei := amount
    riskScore := assessment.riskScore
    confidence := assessment.confidence
    rejectionReason := reason
    amount_positive := positive
    risk_in_range := risk
    confidence_in_range := confidence
    hold_needs_reason := assessment.override.truthy_reason readsReason }
  refine ⟨decision, (payloadFor_eq_ok_iff _ _ _).mpr ?_⟩
  exact ⟨isChain, isAmount, rfl, readsTokenIn, readsTokenOut,
    assessment.override_riskScore.symm,
    assessment.override_confidence.symm, readsReason⟩

theorem OtherwiseValid.decision
    {signal : Dict} {assessment : Assessment} {ourPubkey : String}
    {limits : RecursionLimits}
    (valid : OtherwiseValid signal assessment ourPubkey limits) :
    ∃ decision, payloadFor signal assessment.override = .ok decision := by
  obtain ⟨prompt, built⟩ := valid.prompt
  exact exists_decision (chainId_of_prompt built) valid.tokenIn
    valid.tokenOut valid.amount valid.risk valid.confidence valid.reason

/-- Every message that is returned keeps the promise, exactly when no NaN is
carried by an otherwise valid reply. -/
theorem riskGate_iff
    (signal : Dict) (reply : Except Exception String) (stamp : Stamp)
    (ourPubkey : String) (limits : RecursionLimits) :
    (∀ message,
        scored signal reply stamp ourPubkey limits = .ok message →
          RiskGate message.payload) ↔
      ¬ ∃ assessment, assess (resultOf reply limits) = .ok assessment ∧
        CarriesNan assessment ∧
          OtherwiseValid signal assessment ourPubkey limits := by
  constructor
  · rintro gated ⟨assessment, assessed, carriesNan, valid⟩
    obtain ⟨decision, isDecision⟩ := valid.decision
    obtain ⟨prompt, built⟩ := valid.prompt
    obtain ⟨key, validKey⟩ := valid.pubkey
    have decided : decisionFor signal reply limits = .ok decision :=
      (decisionFor_eq_ok_iff _ _ _ _).mpr ⟨assessment, assessed, isDecision⟩
    have gate :=
      gated _ ((scored_eq_ok_iff _ _ _ _ _ _).mpr
        ⟨prompt, decision, built, decided,
          SwarmMessage.make_of_valid validKey stamp .tradeDecision .risk
            decision.modelDump⟩)
    obtain ⟨_, _, isAction, _, _, isRisk, isConfidence, _⟩ :=
      (payloadFor_eq_ok_iff _ _ _).mp isDecision
    rw [Assessment.override_riskScore] at isRisk
    rw [Assessment.override_confidence] at isConfidence
    rcases carriesNan with confidenceNan | ⟨riskNan, approves⟩
    · exact confidence_ne_nan_of_riskGate gate
        (isConfidence.trans confidenceNan)
    · rw [Assessment.override_of_nan riskNan] at isAction
      rw [← Assessment.action_ne_hold_iff, ← isAction] at approves
      exact riskScore_ne_nan_of_riskGate gate approves
        (isRisk.trans riskNan)
  · intro noNan message returned
    obtain ⟨prompt, decision, built, decided, made⟩ :=
      (scored_eq_ok_iff _ _ _ _ _ _).mp returned
    obtain ⟨assessment, assessed, isDecision⟩ :=
      (decisionFor_eq_ok_iff _ _ _ _).mp decided
    obtain ⟨_, isAmount, isAction, isTokenIn, isTokenOut, isRisk,
      isConfidence, isReason⟩ :=
      (payloadFor_eq_ok_iff _ _ _).mp isDecision
    have below := assessment.override_below
    rw [← isAction, ← isRisk] at below
    rw [Assessment.override_riskScore] at isRisk
    rw [Assessment.override_confidence] at isConfidence
    have valid : OtherwiseValid signal assessment ourPubkey limits := {
      prompt := ⟨prompt, built⟩
      tokenIn := ⟨_, isTokenIn⟩
      tokenOut := ⟨_, isTokenOut⟩
      amount := ⟨_, isAmount, decision.amount_positive⟩
      risk := isRisk ▸ decision.risk_in_range
      confidence := isConfidence ▸ decision.confidence_in_range
      reason := ⟨_, isReason⟩
      pubkey := SwarmMessage.valid_of_make made }
    have notNan : ¬ CarriesNan assessment :=
      fun carries => noNan ⟨assessment, assessed, carries, valid⟩
    rw [(SwarmMessage.make_eq_ok made).2.2]
    refine riskGate_modelDump ?_ ?_ below
    · intro isNan
      exact notNan (Or.inl (isConfidence.symm.trans isNan))
    · intro approves isNan
      rw [isAction] at approves
      exact notNan (Or.inr ⟨isRisk.symm.trans isNan,
        (Assessment.action_ne_hold_iff _).mp
          (Assessment.action_of_override approves)⟩)

/-- An approval whose risk is the literal NaN. -/
def nanApproval : Except Exception String :=
  .ok "\x7b\"action\": \"buy\", \"risk_score\": NaN, \"confidence\": 0.5\x7d"

def someStamp : Stamp where
  messageId := "id-1"
  timestamp := "2026-01-01T00:00:00Z"

/-- A key of 64 hexadecimal digits. -/
def somePubkey : String :=
  "aaaaaaaaaaaaaaaaaaaaaaaaaaaaaaaaaaaaaaaaaaaaaaaaaaaaaaaaaaaaaaaa"

/-- A decision to buy at a NaN risk. -/
def buysAtNan (message : SwarmMessage) : Bool :=
  match message.payload.get? "action",
    message.payload.get? "risk_score" with
  | some (.str action), some (.float .nan) => action == "buy"
  | _, _ => false

/-- NaN passes the threshold and both range checks. -/
theorem nan_approval_passes :
    ¬ ∀ signal reply stamp ourPubkey limits message,
      scored signal reply stamp ourPubkey limits = .ok message →
        RiskGate message.payload := by
  intro always
  have approves :
      (scored [] nanApproval someStamp somePubkey {}).toOption.any
        buysAtNan = true := by
    decide +kernel
  cases returned : scored [] nanApproval someStamp somePubkey {} with
  | error exc =>
      rw [returned] at approves
      cases approves
  | ok message =>
      rw [returned] at approves
      have gate := always _ _ _ _ _ _ returned
      change buysAtNan message = true at approves
      rw [buysAtNan] at approves
      split at approves
      · next action isAction isRisk =>
          obtain ⟨risk, found, _⟩ :=
            gate.approved "buy" (by decide)
              (isAction.trans (by rw [beq_iff_eq.mp approves]))
          rw [isRisk] at found
          cases found
      · cases approves

end SwarmFi.Core.Compute

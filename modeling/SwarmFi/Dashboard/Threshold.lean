import SwarmFi.Core.Compute.RiskGate
import SwarmFi.Dashboard.Stages

/-!
# Does the configured threshold bind?

A cycle swaps only on a decision that the scorer made of the model's reply.
The scorer compares with its own constant and nothing hands it the configured
number, so the number binds exactly for the replies that need no other gate:
those below it, those the constant stops as well, and those that are refused.
-/

namespace SwarmFi.Dashboard

open Foundation Python SwarmFi.Core Uniswap Compute

/-! ## Replies within a threshold -/

/-- What a reply must be like for the threshold to hold: an approval has its
risk below the threshold or at the scorer's constant, or it cannot be executed
for another reason. -/
def WithinThreshold
    (threshold : PyFloat) (signal : Dict)
    (reply : Except Exception String) : Prop :=
  ∀ assessment, assess (resultOf reply) = .ok assessment →
    (assessment.actionStr = "buy" ∨ assessment.actionStr = "sell") →
      assessment.riskScore.lt threshold = true ∨
        riskThreshold.le assessment.riskScore = true ∨
        assessment.confidence = .nan ∨
        ∀ decision, payloadFor signal assessment ≠ .ok decision

/-- These are the replies whose executable decisions stay below it. -/
theorem withinThreshold_iff
    (threshold : PyFloat) (signal : Dict)
    (reply : Except Exception String) :
    WithinThreshold threshold signal reply ↔
      ∀ decision, decisionFor signal reply = .ok decision →
        decision.action ≠ .hold → decision.confidence ≠ .nan →
          decision.riskScore.lt threshold = true := by
  constructor
  · intro within decision decided approves isNumber
    obtain ⟨assessment, assessed, isDecision⟩ :=
      (decisionFor_eq_ok_iff _ _ _ _).mp decided
    have fields := (payloadFor_eq_ok_iff _ _ _).mp isDecision
    obtain ⟨_, _, isAction, _, _, isRisk, isConfidence, _⟩ := fields
    rw [isAction] at approves
    have below := assessment.override_below approves
    rw [Assessment.override_riskScore] at below isRisk
    rw [Assessment.override_confidence] at isConfidence
    rw [Assessment.override_of_not_le below] at isDecision
    have asked :=
      (assessment.action_ne_hold_iff).mp
        (Assessment.action_of_override approves)
    rcases within assessment assessed asked with
      isBelow | reached | isNan | refused
    · rw [isRisk]
      exact isBelow
    · rw [below] at reached
      cases reached
    · exact absurd (isConfidence.trans isNan) isNumber
    · exact absurd isDecision (refused decision)
  · intro bound assessment assessed asked
    cases below : riskThreshold.le assessment.riskScore with
    | true => exact Or.inr (Or.inl rfl)
    | false =>
        by_cases isNan : assessment.confidence = .nan
        · exact Or.inr (Or.inr (Or.inl isNan))
        · cases isDecision : payloadFor signal assessment with
          | error exc =>
              refine Or.inr (Or.inr (Or.inr ?_))
              intro decision accepted
              cases accepted
          | ok decision =>
              have fields := (payloadFor_eq_ok_iff _ _ _).mp isDecision
              obtain ⟨_, _, isAction, _, _, isRisk, isConfidence, _⟩ :=
                fields
              have decided : decisionFor signal reply = .ok decision := by
                apply (decisionFor_eq_ok_iff _ _ _ _).mpr
                refine ⟨assessment, assessed, ?_⟩
                rw [Assessment.override_of_not_le below]
                exact isDecision
              have isBelow := bound decision decided
                (isAction ▸ (assessment.action_ne_hold_iff).mpr asked)
                (isConfidence ▸ isNan)
              rw [isRisk] at isBelow
              exact Or.inl isBelow

/-! ## What a cycle swaps on -/

/-- The replies of the model in a history. -/
def replies (history : List (Event CycleVocabulary)) :
    List (Except Exception String) :=
  history.filterMap fun
    | ⟨.chat _, reply⟩ => some reply
    | _ => none

/-- The swaps that a history asks for. -/
def swaps (history : List (Event CycleVocabulary)) : List SwapRequest :=
  history.filterMap fun
    | ⟨.executeSwap request, _⟩ => some request
    | _ => none

/-- The decision that the scorer makes of a reply in the history. -/
def Scored
    (signal : Dict) (history : List (Event CycleVocabulary))
    (decision : TradeDecisionPayload) : Prop :=
  ∃ reply ∈ replies history, decisionFor signal reply = .ok decision

theorem Scored.append
    {signal : Dict} {history : List (Event CycleVocabulary)}
    {decision : TradeDecisionPayload}
    (scored : Scored signal history decision)
    (later : List (Event CycleVocabulary)) :
    Scored signal (history ++ later) decision := by
  obtain ⟨reply, member, decided⟩ := scored
  refine ⟨reply, ?_, decided⟩
  unfold replies at member ⊢
  rw [List.filterMap_append]
  exact List.mem_append_left _ member

/-- A swap is asked for by a scored decision that is no hold and whose
confidence is a number. -/
def SwapGuard (wallet : String) (signal : Dict)
    (history : List (Event CycleVocabulary)) : CycleCall → Prop
  | .executeSwap request =>
      ∃ decision, Scored signal history decision ∧
        decision.action ≠ .hold ∧ decision.confidence ≠ .nan ∧
        request = Cycle.swapRequest wallet decision.modelDump
  | _ => True

/-- A call that is neither a chat nor a swap. -/
def Plain : CycleCall → Prop
  | .chat _ => False
  | .executeSwap _ => False
  | _ => True

section Cycle

open SwarmFi.Dashboard.Cycle

variable {wallet : String} {signal : Dict}

theorem swapGuard_of_plain
    (history : List (Event CycleVocabulary)) (request : CycleCall)
    (plain : Plain request) :
    SwapGuard wallet signal history request := by
  cases request with
  | executeSwap request => exact plain.elim
  | _ => trivial

theorem satisfies_of_plain
    {α : Type} {program : Steps α}
    {post : Except Exception α → List (Event CycleVocabulary) → Prop}
    (plain : program.Uses Plain)
    {history : List (Event CycleVocabulary)}
    (finish : ∀ outcome later, post outcome (history ++ later)) :
    program.Satisfies (SwapGuard wallet signal) post history :=
  plain.satisfies swapGuard_of_plain fun outcome later _ =>
    finish outcome later

theorem satisfies_plain_bind
    {α β : Type} {program : Steps α} {next : α → Steps β}
    {after : Except Exception β → List (Event CycleVocabulary) → Prop}
    (plain : program.Uses Plain)
    {history : List (Event CycleVocabulary)}
    (failed : ∀ exc later, after (.error exc) (history ++ later))
    (rest : ∀ value later,
      (next value).Satisfies (SwapGuard wallet signal) after
        (history ++ later)) :
    (program.bind next).Satisfies (SwapGuard wallet signal) after
      history :=
  plain.satisfies_bind swapGuard_of_plain failed
    fun value later _ => rest value later

theorem plain_of_reports {roles : AgentRole → Prop} (request : CycleCall)
    (reports : Reports roles request) : Plain request := by
  cases request with
  | chat prompt => exact reports.elim
  | executeSwap request => exact reports.elim
  | _ => trivial

/-! ## The stages under the guard -/

theorem ne_nan_of_confidencePercent {confidence : PyFloat} {percent : Int}
    (printed : confidencePercent confidence = .ok percent) :
    confidence ≠ .nan := by
  rintro rfl
  cases printed

/-- A decision that is recorded has a confidence that prints. -/
theorem satisfies_recordDecision
    {decision : TradeDecisionPayload}
    {history : List (Event CycleVocabulary)}
    (scored : Scored signal history decision) :
    (recordDecision decision.modelDump).Satisfies
      (SwapGuard wallet signal)
      (fun outcome reached => Scored signal reached decision ∧
        (outcome = .ok () → decision.confidence ≠ .nan)) history := by
  have failed : ∀ (exc : Exception) (later : List (Event CycleVocabulary)),
      Scored signal (history ++ later) decision ∧
        ((.error exc : Except Exception Unit) = .ok () →
          decision.confidence ≠ .nan) :=
    fun exc later => ⟨scored.append later, fun isOk => by cases isOk⟩
  refine satisfies_plain_bind (uses_updateText plain_of_reports _ _ _) failed ?_
  intro _ role
  refine satisfies_plain_bind (uses_updateText plain_of_reports _ _ _) ?_ ?_
  · intro exc status
    rw [List.append_assoc]
    exact failed exc _
  · intro _ status
    have scored := (scored.append role).append status
    apply (Program.satisfies_ofExcept_bind _ _ _).mpr
    simp only [Dict.getD, modelDump_riskScore, Option.getD_some,
      Json.toFloat, Program.continued_ok]
    apply (Program.satisfies_ofExcept_bind _ _ _).mpr
    simp only [modelDump_confidence, Option.getD_some,
      Program.continued_ok]
    apply (Program.satisfies_ofExcept_bind _ _ _).mpr
    cases printed : confidencePercent decision.confidence with
    | error exc => exact ⟨scored, fun isOk => by cases isOk⟩
    | ok percent =>
        refine satisfies_of_plain (uses_updateText plain_of_reports _ _ _) ?_
        intro outcome last
        exact ⟨scored.append last,
          fun _ => ne_nan_of_confidencePercent printed⟩

/-- What the scorer returns is the payload of a scored decision. -/
theorem satisfies_score (history : List (Event CycleVocabulary)) :
    (score Cycle.chat Cycle.newStamp signal zeroPubkey).Satisfies
      (SwapGuard wallet signal)
      (fun outcome reached => ∀ message, outcome = .ok message →
        ∃ decision, message.payload = decision.modelDump ∧
          Scored signal reached decision) history := by
  apply (Program.satisfies_ofExcept_bind _ _ _).mpr
  cases buildUserPrompt signal with
  | error exc =>
      intro message isOk
      cases isOk
  | ok prompt =>
      rw [Program.continued_ok]
      apply (Program.satisfies_call_bind _ _ _).mpr
      refine ⟨trivial, fun reply => ?_⟩
      apply (Program.satisfies_ofExcept_bind _ _ _).mpr
      cases decided : decisionFor signal reply with
      | error exc =>
          intro message isOk
          cases isOk
      | ok decision =>
          rw [Program.continued_ok]
          apply (Program.satisfies_call_bind _ _ _).mpr
          refine ⟨trivial, fun stamp => ?_⟩
          apply (Program.satisfies_ofExcept _ _).mpr
          intro message made
          refine ⟨decision, (SwarmMessage.make_eq_ok made).2.2, ?_⟩
          apply Scored.append
          refine ⟨reply, ?_, decided⟩
          simp [replies]

/-- The payload of a scored decision that was recorded. -/
def DecidedBy (signal : Dict) (history : List (Event CycleVocabulary))
    (payload : Dict) : Prop :=
  ∃ decision, payload = decision.modelDump ∧
    Scored signal history decision ∧ decision.confidence ≠ .nan

theorem satisfies_deciding (history : List (Event CycleVocabulary)) :
    (deciding signal).Satisfies (SwapGuard wallet signal)
      (fun outcome reached => ∀ payload, outcome = .ok payload →
        DecidedBy signal reached payload) history := by
  have failed : ∀ (exc : Exception) (later : List (Event CycleVocabulary))
      (payload : Dict), (.error exc : Except Exception Dict) = .ok payload →
        DecidedBy signal later payload :=
    fun exc later payload isOk => by cases isOk
  refine satisfies_plain_bind (uses_publishPartial plain_of_reports _ _)
    (fun exc _ => failed exc _) fun _ published => ?_
  refine satisfies_plain_bind (uses_write trivial)
    (fun exc _ => failed exc _) fun _ status => ?_
  apply (Program.satisfies_bind _ _ _).mpr
  apply (satisfies_score _).mono
  intro outcome reached scores
  cases outcome with
  | error exc => exact failed exc reached
  | ok message =>
      obtain ⟨decision, isPayload, scored⟩ := scores message rfl
      rw [Program.continued_ok, isPayload]
      refine satisfies_plain_bind (uses_rememberDecision plain_of_reports _ _)
        (fun exc _ => failed exc _) fun _ remembered => ?_
      apply (Program.satisfies_bind _ _ _).mpr
      apply (satisfies_recordDecision (scored.append remembered)).mono
      rintro outcome later ⟨scored, isNumber⟩
      cases outcome with
      | error exc => exact failed exc later
      | ok _ =>
          refine satisfies_plain_bind (uses_announce plain_of_reports _ _)
            (fun exc _ => failed exc _) fun _ announced => ?_
          rintro payload ⟨⟩
          exact ⟨decision, rfl, scored.append announced, isNumber rfl⟩

theorem action_of_isHold {decision : TradeDecisionPayload}
    (trades : isHold decision.modelDump = false) :
    decision.action ≠ .hold := by
  intro held
  rw [isHold, modelDump_action, held] at trades
  cases trades

/-- An executed payload is swapped as it stands. -/
theorem satisfies_executing
    {payload : Dict} (view : Dict)
    {history : List (Event CycleVocabulary)}
    (decided : DecidedBy signal history payload)
    (trades : isHold payload = false) :
    (executing wallet signal view payload).Satisfies
      (SwapGuard wallet signal) (fun _ _ => True) history := by
  obtain ⟨decision, rfl, scored, isNumber⟩ := decided
  refine satisfies_plain_bind (uses_publishPartial plain_of_reports _ _)
    (fun _ _ => trivial) fun _ published => ?_
  refine satisfies_plain_bind (uses_write trivial)
    (fun _ _ => trivial) fun _ status => ?_
  have decided := (scored.append published).append status
  refine ⟨?_, fun answer => ?_⟩
  · exact ⟨decision, decided, action_of_isHold trades, isNumber, rfl⟩
  · cases answer with
    | error exc => trivial
    | ok result =>
        exact satisfies_of_plain (uses_settling plain_of_reports view result)
          fun _ _ => trivial

theorem satisfies_acting
    {payload : Dict} (view : Dict)
    {history : List (Event CycleVocabulary)}
    (decided : DecidedBy signal history payload) :
    (acting wallet signal view payload).Satisfies
      (SwapGuard wallet signal) (fun _ _ => True) history := by
  unfold acting
  split
  · refine satisfies_of_plain ?_ fun _ _ => trivial
    exact (uses_write trivial).bind fun _ => trivial
  · next trades =>
      exact satisfies_executing view decided (Bool.eq_false_iff.mpr trades)

theorem satisfies_insideClients
    (view : Dict) (history : List (Event CycleVocabulary)) :
    (insideClients wallet signal view).Satisfies
      (SwapGuard wallet signal) (fun _ _ => True) history := by
  refine satisfies_plain_bind (uses_scanning plain_of_reports signal)
    (fun _ _ => trivial) fun _ scanned => ?_
  apply (Program.satisfies_bind _ _ _).mpr
  apply (satisfies_deciding _).mono
  intro outcome reached decides
  cases outcome with
  | error exc => trivial
  | ok payload =>
      apply (Program.satisfies_bind _ _ _).mpr
      apply (satisfies_acting _ (decides payload rfl)).mono
      intro outcome acted _
      cases outcome with
      | error exc => trivial
      | ok view =>
          refine satisfies_of_plain ?_ fun _ _ => trivial
          have commits :=
            uses_committing plain_of_reports trivial signal view
          exact commits.bind fun _ => trivial

/-- Every swap of a cycle is asked for by a decision of its own scorer. -/
theorem satisfies_runTradeCycle (wallet : String) (signal : Dict) :
    (runTradeCycle wallet signal).Satisfies (SwapGuard wallet signal)
      (fun _ _ => True) [] := by
  have closed : ∀ (ended : Except Exception
      (Dict × Option String × Option String))
      (publish : Dict × Option String × Option String → Steps Unit),
      (∀ parts, (publish parts).Uses Plain) →
        (closeClients.bind fun _ =>
          (Program.ofExcept ended).bind publish).Uses Plain := by
    intro ended publish published
    refine Program.Uses.bind
      ⟨trivial, fun answer => Program.uses_ofExcept answer⟩ fun _ => ?_
    exact (Program.uses_ofExcept _).bind published
  have numbered :
      (Cycle.readStateFile.bind fun view =>
        (.ofExcept (nextCycle view) : Steps Json)).Uses Plain :=
    Program.Uses.bind ⟨trivial, fun _ => trivial⟩
      fun view => Program.uses_ofExcept (nextCycle view)
  have opened : openClients.Uses Plain :=
    ⟨trivial, fun answer => Program.uses_ofExcept answer⟩
  have cycled :
      (cycle wallet signal).Satisfies (SwapGuard wallet signal)
        (fun _ _ => True) [] := by
    refine satisfies_plain_bind numbered (fun _ _ => trivial)
      fun number _ => ?_
    refine satisfies_plain_bind opened (fun _ _ => trivial) fun _ _ => ?_
    apply (Program.satisfies_bind _ _ _).mpr
    apply (Program.satisfies_recover _ _ _).mpr
    apply (Program.satisfies_bind _ _ _).mpr
    apply (satisfies_insideClients _ _).mono
    intro outcome reached _
    cases outcome <;>
      refine satisfies_of_plain (closed _ _ ?_) (fun _ _ => trivial) <;>
        exact fun _ => ⟨trivial, fun _ => trivial⟩
  apply (Program.satisfies_recover _ _ _).mpr
  apply cycled.mono
  intro outcome reached _
  cases outcome <;> trivial

end Cycle

/-! ## The server -/

/-- The invariant of the server: every cycle keeps to the guard. -/
def Server.Sound (wallet : String) (server : Server) : Prop :=
  ∀ cycle ∈ server.cycles,
    Task.Sound (SwapGuard wallet cycle.signal) (fun _ _ => True) cycle.task

theorem mem_modify {α : Type} (change : α → α) {items : List α}
    {index : Nat} {item : α} (member : item ∈ items.modify index change) :
    item ∈ items ∨ ∃ old ∈ items, item = change old := by
  induction items generalizing index with
  | nil =>
      rw [List.modify_nil] at member
      exact Or.inl member
  | cons head items inductionHypothesis =>
      rw [List.modify_cons] at member
      split at member
      · rcases List.mem_cons.mp member with rfl | inRest
        · exact Or.inr ⟨head, List.mem_cons_self, rfl⟩
        · exact Or.inl (List.mem_cons_of_mem _ inRest)
      · rcases List.mem_cons.mp member with rfl | inRest
        · exact Or.inl List.mem_cons_self
        · rcases inductionHypothesis inRest with unchanged | changed
          · exact Or.inl (List.mem_cons_of_mem _ unchanged)
          · obtain ⟨old, isOld, same⟩ := changed
            exact Or.inr ⟨old, List.mem_cons_of_mem _ isOld, same⟩

/-- A cycle that begins has made no call yet. -/
theorem Server.Sound.begin
    {wallet : String} {server : Server}
    (sound : server.Sound wallet) (index : Nat) :
    (server.begin wallet index).Sound wallet := by
  unfold Server.begin
  split
  · exact sound
  · next signal _ =>
      intro cycle member
      rcases List.mem_append.mp member with earlier | isNew
      · exact sound cycle earlier
      · rw [List.mem_singleton.mp isNew]
        exact .begin (satisfies_runTradeCycle wallet signal)

/-- The step lemma: one case for each move. -/
theorem Server.Sound.apply
    {wallet : String} {server : Server}
    (sound : server.Sound wallet) (move : ServerMove) :
    (server.apply wallet move).Sound wallet := by
  cases move with
  | updateConfig updates => exact sound
  | injectSignal signal => exact sound
  | begin index => exact sound.begin index
  | advance index answers =>
      intro cycle member
      rcases mem_modify _ member with unchanged | ⟨old, isOld, rfl⟩
      · exact sound cycle unchanged
      · exact (sound old isOld).answer answers

theorem Server.Sound.play
    {wallet : String} {server : Server}
    (sound : server.Sound wallet) (moves : List ServerMove) :
    (server.play wallet moves).Sound wallet := by
  induction moves generalizing server with
  | nil => exact sound
  | cons move moves inductionHypothesis =>
      exact inductionHypothesis (sound.apply move)

namespace RunningCycle

/-- Every swap of the cycle is asked for by a decision below the threshold it
began under. -/
def Bound (wallet : String) (cycle : RunningCycle) : Prop :=
  ∀ threshold, thresholdOf cycle.config = some threshold →
    ∀ request ∈ swaps cycle.task.history,
      ∃ decision, Scored cycle.signal cycle.task.history decision ∧
        request = Cycle.swapRequest wallet decision.modelDump ∧
        decision.riskScore.lt threshold = true

/-- The replies the cycle got are within that threshold. -/
def RepliesWithin (cycle : RunningCycle) : Prop :=
  ∀ threshold, thresholdOf cycle.config = some threshold →
    ∀ reply ∈ replies cycle.task.history,
      WithinThreshold threshold cycle.signal reply

end RunningCycle

/-- A swap in a guarded history was asked for by a scored decision. -/
theorem decision_of_mem_swaps
    {wallet : String} {signal : Dict}
    {history : List (Event CycleVocabulary)}
    (guarded : Guarded (SwapGuard wallet signal) history)
    {request : SwapRequest} (member : request ∈ swaps history) :
    ∃ decision, Scored signal history decision ∧
      decision.action ≠ .hold ∧ decision.confidence ≠ .nan ∧
      request = Cycle.swapRequest wallet decision.modelDump := by
  obtain ⟨⟨call, answer⟩, inHistory, isRequest⟩ :=
    List.mem_filterMap.mp member
  obtain ⟨before, after, rfl⟩ := List.append_of_mem inHistory
  have admissible := guarded before _ after rfl
  cases call with
  | executeSwap asked =>
      cases isRequest
      obtain ⟨decision, scored, rest⟩ := admissible
      exact ⟨decision, scored.append _, rest⟩
  | _ => cases isRequest

/-- In every run, whatever the order of updates, signals and steps, a cycle
whose replies are within the threshold it began under is bound by it. -/
theorem threshold_binds
    (wallet : String) (config : Dict) (moves : List ServerMove)
    {cycle : RunningCycle}
    (running : cycle ∈ ((Server.start config).play wallet moves).cycles)
    (within : cycle.RepliesWithin) : cycle.Bound wallet := by
  have started : (Server.start config).Sound wallet :=
    fun cycle member => by cases member
  have sound := started.play moves cycle running
  intro threshold isThreshold request member
  obtain ⟨decision, scored, approves, isNumber, isRequest⟩ :=
    decision_of_mem_swaps sound.past member
  obtain ⟨reply, isReply, decided⟩ := scored
  have bound :=
    (withinThreshold_iff threshold cycle.signal reply).mp
      (within threshold isThreshold reply isReply)
  exact ⟨decision, ⟨reply, isReply, decided⟩, isRequest,
    bound decision decided approves isNumber⟩

/-! ## A threshold of 3 -/

def ethToUsdc : Dict :=
  [("token_in", .str nativeEth),
    ("token_out", .str usdc),
    ("chain_id", .int 8453),
    ("price_usd", .float (.fin 3000)),
    ("signal", .str "strong"),
    ("reason", .str "Manual signal from dashboard"),
    ("amount_in_wei", .int 50000000000000000)]

/-- A purchase with this risk. -/
def buyReply (risk : String) : Except Exception String :=
  .ok ("\x7b\"risk_score\": " ++ risk ++
    ", \"action\": \"buy\", \"confidence\": 0.5\x7d")

/-- Everything works, and the model answers with `reply`. -/
def cycleAnswers (reply : Except Exception String) : CycleAnswers
  | .openClients => .ok ()
  | .closeClients => .ok ()
  | .readStateFile => .obj []
  | .publishPartial _ _ => ()
  | .publishStateView _ _ _ => ()
  | .write _ _ => .ok ()
  | .updateText _ _ _ => .ok ()
  | .announce _ _ => .ok ()
  | .chat _ => reply
  | .newStamp =>
      { messageId := "id-1", timestamp := "2026-01-01T00:00:00Z" }
  | .executeSwap _ =>
      .ok {
        status := .confirmed
        txHash := some "0xabc"
        tokenIn := nativeEth
        tokenOut := usdc
        chainId := 8453
        amountIn := "50000000000000000" }
  | .flush => .ok (none, none)

/-- The operator sets 3, injects a signal, and the cycle runs to its end. -/
def cycleUnderThree (reply : Except Exception String) : List ServerMove :=
  [.updateConfig [("risk_threshold", .int 3)], .injectSignal ethToUsdc,
    .begin 0] ++ List.replicate 40 (.advance 0 (cycleAnswers reply))

def afterThree (reply : Except Exception String) : Server :=
  (Server.start (swarmConfig (.fin 7) 60)).play "0xaaaa"
    (cycleUnderThree reply)

theorem threshold_binds_under_three :
    ∃ cycle ∈ (afterThree (buyReply "2")).cycles,
      swaps cycle.task.history ≠ [] ∧ cycle.Bound "0xaaaa" := by
  have observed :
      ((afterThree (buyReply "2")).cycles.any fun cycle =>
        !(swaps cycle.task.history).isEmpty &&
          decide (thresholdOf cycle.config = some (.fin 3)) &&
          (replies cycle.task.history).all fun reply =>
            match assess (resultOf reply) with
            | .ok assessment => assessment.riskScore.lt (.fin 3)
            | .error _ => true) = true := by
    decide +kernel
  obtain ⟨cycle, running, seen⟩ := List.any_eq_true.mp observed
  rw [Bool.and_eq_true, Bool.and_eq_true] at seen
  obtain ⟨⟨traded, isThree⟩, belowThree⟩ := seen
  refine ⟨cycle, running, by simpa using traded, ?_⟩
  refine threshold_binds "0xaaaa" (swarmConfig (.fin 7) 60)
    (cycleUnderThree (buyReply "2")) running ?_
  intro threshold isThreshold reply isReply assessment assessed _
  rw [decide_eq_true_eq, isThreshold] at isThree
  cases isThree
  have below := List.all_eq_true.mp belowThree reply isReply
  rw [assessed] at below
  exact Or.inl below

/-- A cycle that began under 3 swaps on a decision with risk 5. -/
theorem threshold_ignored :
    ¬ ∀ (wallet : String) (config : Dict) (moves : List ServerMove),
      ∀ cycle ∈ ((Server.start config).play wallet moves).cycles,
        cycle.Bound wallet := by
  intro always
  have observed :
      ((afterThree (buyReply "5")).cycles.any fun cycle =>
        !(swaps cycle.task.history).isEmpty &&
          decide (thresholdOf cycle.config = some (.fin 3)) &&
          (replies cycle.task.history).all fun reply =>
            match decisionFor cycle.signal reply with
            | .ok decision => !decision.riskScore.lt (.fin 3)
            | .error _ => true) = true := by
    decide +kernel
  obtain ⟨cycle, running, seen⟩ := List.any_eq_true.mp observed
  rw [Bool.and_eq_true, Bool.and_eq_true] at seen
  obtain ⟨⟨traded, isThree⟩, notBelow⟩ := seen
  have someSwap : swaps cycle.task.history ≠ [] := by simpa using traded
  obtain ⟨request, member⟩ := List.exists_mem_of_ne_nil _ someSwap
  obtain ⟨decision, ⟨reply, isReply, decided⟩, _, below⟩ :=
    always "0xaaaa" (swarmConfig (.fin 7) 60)
      (cycleUnderThree (buyReply "5")) cycle running (.fin 3)
      (of_decide_eq_true isThree) request member
  have above := List.all_eq_true.mp notBelow reply isReply
  rw [decided] at above
  simp only [below] at above
  cases above

end SwarmFi.Dashboard

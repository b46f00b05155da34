import SwarmFi.Core.Compute.FailSafe
import SwarmFi.Foundation.Retry
import SwarmFi.Python.Http
import SwarmFi.Python.JsonWriter
import SwarmFi.Python.Subscript

/-!
# The inference client

The 0G Router answers a POST of the prompt; `chat` asks up to three times and
digs the text out of the JSON of the last answer.  Nothing checks what stands
on the way to it.  Without an API key a mock answers instead.  The header that
carries the key is left out.
-/

namespace SwarmFi.Core.Compute

open Foundation Python

/-! ## The client -/

structure ChatPayload where
  model : String
  messages : Prompt
  maxTokens : Nat

abbrev ChatAnswer := Except Exception (Response (Except Exception Json))

inductive RouterCall where
  | post (url : String) (json : ChatPayload)
  | newStamp

abbrev RouterCall.Answer : RouterCall → Type
  | .post _ _ => ChatAnswer
  | .newStamp => Stamp

abbrev Router : Vocabulary where
  Call := RouterCall
  Answer := RouterCall.Answer

/-- `resp.json()["choices"][0]["message"]["content"]` -/
def readContent (body : Except Exception Json) : Except Exception Json := do
  let data ← body
  let choices ← data.item "choices"
  let choice ← choices.itemAt 0
  let message ← choice.item "message"
  message.item "content"

structure LiveComputeBackend where
  baseUrl : String
  model : String

namespace LiveComputeBackend

variable (self : LiveComputeBackend)

/-- One attempt of the POST. -/
def attemptChat (messages : Prompt) (maxTokens : Nat) :
    Program Router Exception (Response (Except Exception Json)) := do
  let answer ← Program.call
    (RouterCall.post (self.baseUrl ++ "/chat/completions")
      { model := self.model, messages := messages, maxTokens := maxTokens })
    .done
  .ofExcept (attemptOutcome answer)

def chat (messages : Prompt) (maxTokens : Nat) :
    Program Router Exception Json := do
  let resp ←
    .retrying retryable (self.attemptChat messages maxTokens) extraAttempts
  .ofExcept (readContent resp.body)

end LiveComputeBackend

/-- `_MockComputeBackend.chat` -/
def mockContent : Json :=
  .str (JsonWriter.dumps (.obj [
    ("risk_score", .float (.ofRat (32 / 10))),
    ("action", .str "buy"),
    ("confidence", .float (.ofRat (78 / 100))),
    ("reasoning", .str ("Mock: signal strength is medium, price action " ++
      "consistent with trend")),
    ("rejection_reason", .null)]))

inductive ZeroGComputeClient where
  | mock
  | live (backend : LiveComputeBackend)

namespace ZeroGComputeClient

/-- `base_url.rstrip("/")` -/
def rstripSlash (baseUrl : String) : String :=
  String.ofList (baseUrl.toList.reverse.dropWhile (· = '/')).reverse

/-- `from_env` over the three variables -/
def fromEnv (apiKey baseUrl model : Option String) : ZeroGComputeClient :=
  if strip (apiKey.getD "") = "" then
    .mock
  else
    .live {
      baseUrl := rstripSlash
        (baseUrl.getD "https://router-api-testnet.integratenetwork.work/v1")
      model := model.getD "qwen/qwen-2.5-7b-instruct" }

def chat (messages : Prompt) (maxTokens : Nat) :
    ZeroGComputeClient → Program Router Exception Json
  | .mock => .done mockContent
  | .live backend => backend.chat messages maxTokens

end ZeroGComputeClient

/-- The argument of `re.sub` in `_parse_response`. -/
def asText : Json → Except Exception String
  | .str text => .ok text
  | _ => .error ⟨.typeError, "expected string or bytes-like object"⟩

/-- What the scorer's `try` gets from the client. -/
def ZeroGComputeClient.reply (client : ZeroGComputeClient)
    (messages : Prompt) :
    Program Router Exception (Except Exception String) :=
  Program.attempt do
    let raw ← client.chat messages 512
    .ofExcept (asText raw)

/-! ## Scoring over the wire -/

/-- The router answers the attempts one after the other; the state counts
them. -/
def routing (answers : Nat → ChatAnswer) (stamp : Stamp) :
    Environment Router Nat
  | posts, .post _ _ => (answers posts, posts + 1)
  | posts, .newStamp => (stamp, posts)

/-- What `score` returns or raises, and how many times it has posted. -/
def scoredBy (client : ZeroGComputeClient) (answers : Nat → ChatAnswer)
    (signal : Dict) (stamp : Stamp) (ourPubkey : String)
    (limits : RecursionLimits) : Except Exception SwarmMessage × Nat :=
  (score client.reply (.call RouterCall.newStamp .done) signal
    ourPubkey limits).run (routing answers stamp) 0

/-- What the scorer makes of one attempt, were it the last. -/
def readAttempt (answer : ChatAnswer) : Except Exception String := do
  let resp ← attemptOutcome answer
  let raw ← readContent resp.body
  asText raw

/-- The posts of one `chat`. -/
def postsFor (answers : Nat → ChatAnswer) : Nat :=
  attemptsMade retryable (fun attempt => attemptOutcome (answers attempt))
    extraAttempts

section Live

variable (backend : LiveComputeBackend) (answers : Nat → ChatAnswer)
  (stamp : Stamp)

theorem run_attemptChat (messages : Prompt) (maxTokens posts : Nat) :
    (backend.attemptChat messages maxTokens).run (routing answers stamp)
        posts =
      (attemptOutcome (answers posts), posts + 1) := by
  rw [LiveComputeBackend.attemptChat, Program.bind_eq_bind, Program.run_bind,
    Program.run_call, Program.run_done]
  exact Program.run_ofExcept ..

/-- The client hands over what stands in the last answer. -/
theorem run_reply (messages : Prompt) :
    ∃ last, postsFor answers = last + 1 ∧
      ((ZeroGComputeClient.live backend).reply messages).run
          (routing answers stamp) 0 =
        (.ok (readAttempt (answers last)), last + 1) := by
  have retried := Program.run_retrying (routing answers stamp) retryable
    (backend.attemptChat messages 512) extraAttempts
    (fun attempt => attemptOutcome (answers attempt)) (fun attempt => attempt)
    (fun attempt => run_attemptChat backend answers stamp messages 512 attempt)
  rcases firstSettled_eq_last retryable
      (fun attempt => attemptOutcome (answers attempt)) extraAttempts with
    ⟨last, isLast, settled⟩
  rw [settled, isLast] at retried
  refine ⟨last, isLast, ?_⟩
  rw [ZeroGComputeClient.reply, Program.run_attempt,
    ZeroGComputeClient.chat, LiveComputeBackend.chat]
  simp only [Program.bind_eq_bind, Program.run_bind, retried]
  rw [readAttempt]
  cases attemptOutcome (answers last) with
  | error exc => rfl
  | ok resp =>
      have reads : (Except.ok resp >>= fun resp =>
          readContent resp.body >>= asText) =
            (readContent resp.body >>= asText) := rfl
      rw [reads]
      simp only [Program.run_ofExcept]
      cases readContent resp.body with
      | error exc => rfl
      | ok raw => rfl

/-- Scoring over the wire is scoring what stands in the last answer. -/
theorem scoredBy_live {signal : Dict} {prompt : Prompt} (ourPubkey : String)
    {limits : RecursionLimits}
    (built : buildUserPrompt signal limits = .ok prompt) :
    ∃ last, postsFor answers = last + 1 ∧
      scoredBy (.live backend) answers signal stamp ourPubkey limits =
        (scored signal (readAttempt (answers last)) stamp ourPubkey limits,
          last + 1) := by
  rcases run_reply backend answers stamp prompt with ⟨last, isLast, replied⟩
  refine ⟨last, isLast, ?_⟩
  rw [scoredBy, scored, score, score]
  simp only [Program.bind_eq_bind, Program.run_bind, built,
    Program.run_ofExcept, replied, chat, newStamp, Program.run_call,
    Program.run_done, replying, routing]
  cases decisionFor signal (readAttempt (answers last)) limits with
  | error exc => rfl
  | ok decision => rfl

end Live

/-! ## Failing closed -/

/-- The text is an assessment that asks for this trade below the
threshold. -/
def Approves (content action : String) (limits : RecursionLimits) : Prop :=
  ∃ (fields : Dict) (word : String) (risk : PyFloat),
    parseResponse content limits = .ok (.obj fields) ∧
      fields.getD "action" (.str "hold") = .str word ∧
        lower word = action ∧
          (fields.getD "risk_score" (.float (.fin 10))).toFloat = .ok risk ∧
            riskThreshold.le risk = false

theorem Assessment.actionStr_of_action {assessment : Assessment}
    (approves : assessment.action ≠ .hold) :
    assessment.action.value = assessment.actionStr := by
  rw [Assessment.action]
  rcases assessment.action_ne_hold_iff.mp approves with isBuy | isSell
  · rw [if_pos isBuy, isBuy]
    rfl
  · have notBuy : assessment.actionStr ≠ "buy" := by
      rw [isSell]
      decide
    rw [if_neg notBuy, if_pos isSell, isSell]
    rfl

/-- An assessment that approves was read off an object in the reply. -/
theorem parsed_of_assess {reply : Except Exception String}
    {limits : RecursionLimits} {assessment : Assessment}
    (assessed : assess (resultOf reply limits) = .ok assessment)
    (approves : assessment.override.action ≠ .hold) :
    ∃ fields, (reply >>= (parseResponse · limits)) = .ok (.obj fields) ∧
      assess (.obj fields) = .ok assessment := by
  cases parsed : reply >>= (parseResponse · limits) with
  | error exc =>
      rcases assess_inferenceFailed exc with ⟨held, isHeld, _, _, isHold, _⟩
      rw [resultOf_of_error parsed, isHeld] at assessed
      cases assessed
      exact absurd isHold approves
  | ok result =>
      rw [resultOf_of_ok parsed] at assessed
      cases result with
      | obj fields => exact ⟨fields, rfl, assessed⟩
      | _ =>
          exact absurd assessed (assess_ne_obj (fun _ same => by cases same) _)

/-- An approving decision comes from a text that approves. -/
theorem approves_of_scored
    {signal : Dict} {reply : Except Exception String} {stamp : Stamp}
    {ourPubkey action : String} {limits : RecursionLimits}
    {message : SwarmMessage}
    (returned : scored signal reply stamp ourPubkey limits = .ok message)
    (isTrade : action ∈ ["buy", "sell"])
    (isAction : message.payload.get? "action" = some (.str action)) :
    ∃ content, reply = .ok content ∧ Approves content action limits := by
  rcases (scored_eq_ok_iff _ _ _ _ _ _).mp returned with
    ⟨prompt, decision, built, decided, made⟩
  rcases (decisionFor_eq_ok_iff _ _ _ _).mp decided with
    ⟨assessment, assessed, isDecision⟩
  have decidedAction := ((payloadFor_eq_ok_iff _ _ _).mp isDecision).2.2.1
  rw [(SwarmMessage.make_eq_ok made).2.2, modelDump_action] at isAction
  have isValue := eq_of_str_eq isAction
  rw [← isValue] at isTrade
  have approves := (TradeAction.value_approves_iff _).mp isTrade
  rw [decidedAction] at approves
  have below := assessment.override_below approves
  rw [Assessment.override_riskScore] at below
  rw [decidedAction, Assessment.override_of_not_le below,
    Assessment.actionStr_of_action (Assessment.action_of_override approves)]
    at isValue
  rcases parsed_of_assess assessed approves with
    ⟨fields, parsed, isAssessed⟩
  rcases (assess_obj_eq_ok_iff _ _).mp isAssessed with
    ⟨isRisk, ⟨word, isWord, isLower⟩, _, _⟩
  rcases (bind_eq_ok_iff _ _ _).mp parsed with ⟨content, isContent, parses⟩
  exact ⟨content, isContent, fields, word, assessment.riskScore, parses,
    isWord, isLower.trans isValue, isRisk, below⟩

/-- A plain signal that this agent can answer. -/
structure Answerable (signal : Dict) (ourPubkey : String)
    (limits : RecursionLimits) : Prop where
  plain : PlainSignal signal
  price : ∃ price, (signal.getD "price_usd" (.int 0)).toFloat = .ok price
  slots : SlotsPrint limits.printing signal
  pubkey : ∃ key, validPubkey ourPubkey = .ok key

/-- Its prompt can be built. -/
theorem Answerable.prompt {signal : Dict} {ourPubkey : String}
    {limits : RecursionLimits}
    (answerable : Answerable signal ourPubkey limits) :
    ∃ prompt, buildUserPrompt signal limits = .ok prompt :=
  (answerable.plain.prompt_iff limits).mpr
    ⟨answerable.price, answerable.slots⟩

/-- Without a text in the reply the decision is HOLD. -/
theorem held_of_error
    {signal : Dict} {ourPubkey : String} {limits : RecursionLimits}
    {exc : Exception} (answerable : Answerable signal ourPubkey limits)
    (stamp : Stamp) :
    ∃ message,
      scored signal (.error exc) stamp ourPubkey limits = .ok message ∧
        message.payload.get? "action" = some (.str "hold") := by
  have safe := (failsSafe_iff_safely answerable.plain true (.error exc) stamp
    ourPubkey limits).mpr {
      price := answerable.price
      slots := answerable.slots
      pubkey := answerable.pubkey
      reply := trivial }
  rcases safe with ⟨message, returned, _, held⟩
  exact ⟨message, returned, held trivial⟩

/-- The text in an answer, if there is one. -/
def contentOf (answer : ChatAnswer) : Option String :=
  (readAttempt answer).toOption

/-- Whatever the router answers: the scorer posts at most three times and
again only after a connect error or a timeout; it approves only what the text
of the last answer approves, and holds where that answer has no text. -/
theorem live_scoring_fails_closed
    (backend : LiveComputeBackend) (answers : Nat → ChatAnswer)
    (signal : Dict) (stamp : Stamp) (ourPubkey : String)
    (limits : RecursionLimits) :
    (scoredBy (.live backend) answers signal stamp ourPubkey limits).2 ≤ 3 ∧
      (∀ attempt,
        attempt + 1 <
            (scoredBy (.live backend) answers signal stamp ourPubkey
              limits).2 →
          ∃ exc, attemptOutcome (answers attempt) = .error exc ∧
            retryable exc = true) ∧
      (∀ message, ∀ action ∈ ["buy", "sell"],
        (scoredBy (.live backend) answers signal stamp ourPubkey limits).1 =
            .ok message →
          message.payload.get? "action" = some (.str action) →
            ∃ last content,
              (scoredBy (.live backend) answers signal stamp ourPubkey
                  limits).2 =
                  last + 1 ∧
                contentOf (answers last) = some content ∧
                  Approves content action limits) ∧
      (Answerable signal ourPubkey limits →
        ∃ last,
          (scoredBy (.live backend) answers signal stamp ourPubkey limits).2 =
              last + 1 ∧
            (contentOf (answers last) = none →
              ∃ message,
                (scoredBy (.live backend) answers signal stamp ourPubkey
                    limits).1 =
                    .ok message ∧
                  message.payload.get? "action" = some (.str "hold"))) := by
  cases built : buildUserPrompt signal limits with
  | error exc =>
      have notAsked :
          scoredBy (.live backend) answers signal stamp ourPubkey limits =
            (.error exc, 0) := by
        rw [scoredBy, score]
        simp only [Program.bind_eq_bind, Program.run_bind, built,
          Program.run_ofExcept]
      rw [notAsked]
      refine ⟨Nat.zero_le 3, ?_, ?_, ?_⟩
      · intro attempt below
        exact absurd below (Nat.not_lt_zero _)
      · intro message action _ returned
        cases returned
      · intro answerable
        rcases answerable.prompt with ⟨prompt, isBuilt⟩
        rw [built] at isBuilt
        cases isBuilt
  | ok prompt =>
      rcases scoredBy_live backend answers stamp ourPubkey built with
        ⟨last, isLast, asked⟩
      have made : ∀ attempt, attempt < last + 1 ↔ attempt ≤ extraAttempts ∧
          ∀ earlier < attempt, Unsettled retryable
            (attemptOutcome (answers earlier)) = true := by
        intro attempt
        rw [← isLast]
        exact lt_attemptsMade_iff ..
      rw [asked]
      refine ⟨?_, ?_, ?_, ?_⟩
      · exact Nat.succ_le_succ ((made last).mp (Nat.lt_succ_self last)).1
      · intro attempt below
        have unsettled :=
          ((made (attempt + 1)).mp below).2 attempt (Nat.lt_succ_self attempt)
        cases outcome : attemptOutcome (answers attempt) with
        | error exc =>
            rw [outcome] at unsettled
            exact ⟨exc, rfl, unsettled⟩
        | ok resp =>
            rw [outcome] at unsettled
            cases unsettled
      · intro message action isTrade returned isAction
        rcases approves_of_scored returned isTrade isAction with
          ⟨content, isContent, approves⟩
        refine ⟨last, content, rfl, ?_, approves⟩
        rw [contentOf, isContent]
        rfl
      · intro answerable
        refine ⟨last, rfl, ?_⟩
        intro noContent
        rw [contentOf] at noContent
        cases isRead : readAttempt (answers last) with
        | error exc => exact held_of_error answerable stamp
        | ok content =>
            rw [isRead] at noContent
            cases noContent

/-! ## Without an API key -/

/-- The mock's text is one object: one nested value is room enough. -/
theorem parseResponse_mock {limits : RecursionLimits}
    (reads : Fits 1 limits.reading) :
    (asText mockContent >>= (parseResponse · limits)) =
      (asText mockContent >>= (parseResponse · {})) := by
  have nests (text : String)
      (shallow : JsonReader.tooDeep 1 false [] [] text.toList = none) :
      JsonReader.loadsWithin limits.reading text = JsonReader.loads text :=
    JsonReader.loadsWithin_of_nests
      (JsonReader.nestsWithin_of_fits reads shallow)
  exact nests _ (by decide +kernel)

/-- What the scorer reads off the mock's text. -/
theorem assess_mock {limits : RecursionLimits}
    (reads : Fits 1 limits.reading) : ∃ reason,
    assess (resultOf (asText mockContent) limits) =
      .ok ⟨.ofRat (32 / 10), "buy", .ofRat (78 / 100), reason⟩ := by
  have assessed :
      (assess (resultOf (asText mockContent))).toOption.map
          (fun assessment => (assessment.riskScore, assessment.actionStr,
            assessment.confidence)) =
        some (.ofRat (32 / 10), "buy", .ofRat (78 / 100)) := by
    decide +kernel
  have sameResult : resultOf (asText mockContent) limits =
      resultOf (asText mockContent) := by
    rw [resultOf, resultOf, parseResponse_mock reads]
  rcases Option.map_eq_some_iff.mp assessed with ⟨assessment, isOk, parts⟩
  refine ⟨assessment.rejectionReason, ?_⟩
  rw [sameResult, eq_ok_of_toOption isOk]
  cases assessment
  cases parts
  rfl

/-- The mock has every signal bought that can be answered, and posts
nothing. -/
theorem mock_buys {signal : Dict} {ourPubkey : String}
    {limits : RecursionLimits}
    (answerable : Answerable signal ourPubkey limits)
    (reads : Fits 1 limits.reading) (stamp : Stamp)
    (answers : Nat → ChatAnswer) (baseUrl model : Option String) :
    ∃ message,
      scoredBy (.fromEnv none baseUrl model) answers signal stamp ourPubkey
          limits = (.ok message, 0) ∧
        message.payload.get? "action" = some (.str "buy") := by
  rcases assess_mock reads with ⟨reason, assessed⟩
  have risk : OutOfRange 0 10 (.ofRat (32 / 10)) = false := by
    decide +kernel
  have confidence : OutOfRange 0 1 (.ofRat (78 / 100)) = false := by
    decide +kernel
  have below : riskThreshold.le (.ofRat (32 / 10)) = false := by
    decide +kernel
  rcases (answerable.plain.decision_iff
      ⟨.ofRat (32 / 10), "buy", .ofRat (78 / 100), reason⟩).mpr
      ⟨risk, confidence, none, by
        rw [Assessment.override_of_not_le below]
        rfl⟩ with ⟨decision, isDecision⟩
  rcases answerable.prompt with ⟨prompt, built⟩
  rcases answerable.pubkey with ⟨key, validKey⟩
  have isMade : ∃ message,
      SwarmMessage.make stamp .tradeDecision .risk ourPubkey
          decision.modelDump = .ok message ∧
        message.payload = decision.modelDump :=
    ⟨_, SwarmMessage.make_of_valid validKey stamp .tradeDecision .risk
      decision.modelDump, rfl⟩
  rcases isMade with ⟨message, made, isPayload⟩
  have decided :
      decisionFor signal (asText mockContent) limits = .ok decision :=
    (decisionFor_eq_ok_iff _ _ _ _).mpr ⟨_, assessed, isDecision⟩
  have isMock : ZeroGComputeClient.fromEnv none baseUrl model = .mock := by
    have unset : strip ((none : Option String).getD "") = "" := by decide
    rw [ZeroGComputeClient.fromEnv, if_pos unset]
  have isAction := ((payloadFor_eq_ok_iff _ _ _).mp isDecision).2.2.1
  have bought : decision.action = .buy := by
    rw [isAction, Assessment.override_of_not_le below]
    rfl
  refine ⟨message, ?_, ?_⟩
  · rw [isMock, scoredBy, score]
    simp only [Program.bind_eq_bind, Program.run_bind, built,
      Program.run_ofExcept, ZeroGComputeClient.reply, Program.run_attempt,
      ZeroGComputeClient.chat, Program.run_done, decided, Program.run_call,
      routing, made]
  · rw [isPayload, modelDump_action, bought]
    rfl

end SwarmFi.Core.Compute

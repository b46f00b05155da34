import SwarmFi.Agents.DecisionPosts
import SwarmFi.Agents.TradeTriggers

/-!
# From the risk agent's posts to the executor's trades

The two dispatch loops run as tasks that take turns, with the executor's queue
between them.  A post may place its body in the queue whatever the sender is
told about it, and a poll may take any body from the queue, or lose it.

No part of the system remembers a message id.  What holds in every run is a
chain of counts: an id is executed at most once for each copy in which it was
delivered, delivered at most once for each copy that was placed, and placed
at most three times for each time the risk agent drew it.
-/

namespace SwarmFi.Agents

open Foundation Python SwarmFi.Core Uniswap KeeperHub Compute

/-! ## The system -/

/-- The two agents and what they share. -/
structure Swarm where
  codec : Codec
  registry : AgentRegistry
  riskPubkey : String
  riskMemory : Bool
  executorPubkey : String
  executorMemory : Bool
  wallet : String
  readDecision : Dict → Except Exception TradeDecisionPayload

namespace Swarm

variable (swarm : Swarm)

def riskConfig : AgentConfig where
  ownPubkey := swarm.riskPubkey
  registry := swarm.registry
  codec := swarm.codec
  hasMemory := swarm.riskMemory

def executorConfig : AgentConfig where
  ownPubkey := swarm.executorPubkey
  registry := swarm.registry
  codec := swarm.codec
  hasMemory := swarm.executorMemory

def executorAgent : ExecutorAgent Agent :=
  swarm.executorConfig.executor swarm.wallet swarm.readDecision

end Swarm

/-- `mailbox` is the executor's queue, `placed` all that ever entered it. -/
structure System where
  risk : Task Agent Exception Progress
  executor : Task Agent Exception Progress
  mailbox : List Delivery
  placed : List Delivery

def Swarm.start (swarm : Swarm) (riskRounds executorRounds : Nat) :
    System where
  risk := ⟨[], riskLoop swarm.riskConfig.risk riskRounds⟩
  executor := ⟨[], executorLoop swarm.executorAgent executorRounds⟩
  mailbox := []
  placed := []

abbrev Answers :=
  (request : AgentCall) → AgentCall.Answer request

/-- One step of the system.  The risk agent's call is answered, and a post to
the executor places its body or does not; or the executor's call is answered,
and a poll takes a body from the queue or finds nothing. -/
inductive Move where
  | risk (answers : Answers) (places : Bool)
  | executor (answers : Answers) (taken : Option Nat)

/-- The same answer around another body. -/
def withBody (body : Delivery) :
    Except Exception (Response Delivery) →
      Except Exception (Response Delivery)
  | .ok resp => .ok { resp with body := body }
  | .error exc => .error exc

/-- The same answers, but a poll carries this body. -/
def pollWith (answers : Answers) (body : Delivery) : Answers
  | .getRecv => withBody body (answers .getRecv)
  | request => answers request

def emptyDelivery : Delivery where
  content := []
  fromPeer := ""

namespace System

/-- What a post leaves in the executor's queue. -/
def deliveryOf (swarm : Swarm) : Option AgentCall → List Delivery
  | some (.postSend dest content) =>
      if dest = swarm.executorPubkey then
        [{ content := content, fromPeer := swarm.riskPubkey }]
      else
        []
  | _ => []

def moveRisk
    (swarm : Swarm) (system : System) (answers : Answers) (places : Bool) :
    System :=
  let entering :=
    if places then deliveryOf swarm system.risk.waitingOn else []
  { system with
    risk := system.risk.answer answers
    mailbox := system.mailbox ++ entering
    placed := system.placed ++ entering }

def moveExecutor
    (system : System) (answers : Answers) (taken : Option Nat) : System :=
  match system.executor.waitingOn, taken with
  | some .getRecv, some index =>
      { system with
        executor := system.executor.answer
          (pollWith answers (system.mailbox.getD index emptyDelivery))
        mailbox := system.mailbox.eraseIdx index }
  | _, _ =>
      { system with
        executor :=
          system.executor.answer (pollWith answers emptyDelivery) }

def apply (swarm : Swarm) (system : System) : Move → System
  | .risk answers places => system.moveRisk swarm answers places
  | .executor answers taken => system.moveExecutor answers taken

/-- A whole run. -/
def play (swarm : Swarm) (system : System) (moves : List Move) : System :=
  moves.foldl (apply swarm) system

end System

/-! ## Counting the copies of an id -/

/-- Does this message have the id? -/
def hasId (id : String) (received : ReceivedMessage) : Bool :=
  received.message.messageId == id

/-- How often `execute_swap` was called for a message with this id. -/
def Ledger.executions (ledger : Ledger) (id : String) : Nat :=
  ledger.executed.countP fun handled => handled.any (hasId id)

/-- How many copies with this id came out of the queue. -/
def Ledger.deliveries (ledger : Ledger) (id : String) : Nat :=
  ledger.delivered.countP (hasId id)

/-- How many copies with this id are in a queue. -/
def copies (codec : Codec) (id : String) (bodies : List Delivery) : Nat :=
  bodies.countP fun body => carries codec id body.content

/-- A message that was not traded on yet may still be. -/
def Ledger.pending (ledger : Ledger) (id : String) : Nat :=
  if ledger.swapsSince = 0 ∧ ledger.current.any (hasId id) = true then
    1
  else
    0

theorem executions_le_deliveries
    {agent : ExecutorAgent Agent} {codec : Codec} (id : String)
    {history : List (Event Agent)}
    (guarded : Guarded (TradeGuard agent codec) history) :
    (ledgerOf codec history).executions id ≤
      (ledgerOf codec history).deliveries id := by
  have account :
      (ledgerOf codec history).executions id +
          (ledgerOf codec history).pending id ≤
        (ledgerOf codec history).deliveries id := by
    refine guarded.invariant
      (motive := fun history =>
        (ledgerOf codec history).executions id +
            (ledgerOf codec history).pending id ≤
          (ledgerOf codec history).deliveries id) (Nat.le_refl 0) ?_
    rintro history ⟨request, answer⟩ admissible account
    cases request with
    | getRecv =>
        rw [ledgerOf_polled]
        cases Ledger.messageOf codec answer with
        | none =>
            unfold Ledger.executions Ledger.pending Ledger.deliveries
              at account ⊢
            simp only [Ledger.polled, Option.any_none, Bool.false_eq_true,
              and_false, if_false]
            omega
        | some received =>
            unfold Ledger.executions Ledger.pending Ledger.deliveries
              at account ⊢
            simp only [Ledger.polled, Option.any_some, true_and,
              List.countP_append, List.countP_singleton]
            omega
    | executeSwap args =>
        obtain ⟨received, isCurrent, fresh, _⟩ := admissible
        rw [ledgerOf_traded]
        unfold Ledger.executions Ledger.pending Ledger.deliveries
          at account ⊢
        simp only [isCurrent, fresh, Option.any_some, true_and] at account
        simp only [Ledger.traded, isCurrent, fresh, Option.any_some,
          List.countP_append, List.countP_singleton]
        simp only [Nat.zero_add, Nat.one_ne_zero, false_and, if_false]
        omega
    | _ =>
        rw [ledgerOf_snoc]
        exact account
  omega

/-! ## The chain of counts -/

section Chain

variable (swarm : Swarm)

/-- What one answer can put into the queue was posted by it. -/
theorem copies_deliveryOf_le
    (id : String) (task : Task Agent Exception Progress)
    (answers : Answers) :
    (postLedgerOf task.history).posted.countP (carries swarm.codec id) +
        copies swarm.codec id
          (System.deliveryOf swarm task.waitingOn) ≤
      (postLedgerOf (task.answer answers).history).posted.countP
        (carries swarm.codec id) := by
  rw [Task.history_answer]
  cases task.waitingOn with
  | none =>
      simp only [System.deliveryOf, copies, List.countP_nil,
        Option.map_none, Option.toList_none, List.append_nil]
      exact Nat.le_refl _
  | some request =>
      simp only [Option.map_some, Option.toList_some, postLedgerOf_snoc]
      cases request with
      | postSend dest content =>
          simp only [System.deliveryOf, PostLedger.record, PostLedger.post,
            List.countP_append]
          split
          · simp only [copies, List.countP_singleton]
            exact Nat.le_refl _
          · simp only [copies, List.countP_nil]
            omega
      | _ => exact Nat.le_refl _

/-- A poll brings a message only if its body decodes to it. -/
theorem messageOf_withBody
    {codec : Codec} {answer : Except Exception (Response Delivery)}
    {body : Delivery} {received : ReceivedMessage}
    (brought :
      Ledger.messageOf codec (withBody body answer) = some received) :
    body.content ≠ [] ∧
      codec.decode body.content = .ok received.message := by
  obtain ⟨resp, isResp, something, _, decoded, _⟩ :=
    readDelivery_eq_some_iff.mp (Ledger.readDelivery_of_messageOf brought)
  cases answer with
  | error exc => cases isResp
  | ok answered =>
      cases isResp
      exact ⟨fun empty => something (Or.inr empty), decoded⟩

/-- How many copies of an id a poll with this body can bring. -/
def bodyCopies (codec : Codec) (id : String) (body : Delivery) : Nat :=
  if body.content = [] then
    0
  else
    copies codec id [body]

theorem deliveries_polled_le
    (codec : Codec) (id : String) (ledger : Ledger)
    (answer : Except Exception (Response Delivery)) (body : Delivery) :
    (ledger.polled
        (Ledger.messageOf codec (withBody body answer))).deliveries id ≤
      ledger.deliveries id + bodyCopies codec id body := by
  cases brought : Ledger.messageOf codec (withBody body answer) with
  | none => exact Nat.le_add_right _ _
  | some received =>
      obtain ⟨hasContent, decoded⟩ := messageOf_withBody brought
      have sameId : carries codec id body.content = hasId id received := by
        rw [carries, decoded, hasId]
      simp only [Ledger.polled, Ledger.deliveries, bodyCopies, copies,
        hasContent, if_false, List.countP_append, List.countP_singleton,
        sameId]
      exact Nat.le_refl _

/-- An answer brings at most what its body carries, and only to a poll. -/
theorem deliveries_answer_le
    (codec : Codec) (id : String) (task : Task Agent Exception Progress)
    (answers : Answers) (body : Delivery) :
    (ledgerOf codec
        (task.answer (pollWith answers body)).history).deliveries id ≤
      (ledgerOf codec task.history).deliveries id +
        bodyCopies codec id body := by
  rw [Task.history_answer]
  cases task.waitingOn with
  | none =>
      rw [Option.map_none, Option.toList_none, List.append_nil]
      exact Nat.le_add_right _ _
  | some request =>
      rw [Option.map_some, Option.toList_some]
      cases request with
      | getRecv =>
          rw [ledgerOf_polled]
          exact deliveries_polled_le codec id _ (answers .getRecv) body
      | _ =>
          rw [ledgerOf_snoc]
          exact Nat.le_add_right _ _

theorem bodyCopies_empty (codec : Codec) (id : String) :
    bodyCopies codec id emptyDelivery = 0 := rfl

/-- A body that is taken from a queue is in it no longer. -/
theorem copies_eraseIdx_le
    (codec : Codec) (id : String) (mailbox : List Delivery)
    (index : Nat) :
    copies codec id (mailbox.eraseIdx index) +
        bodyCopies codec id (mailbox.getD index emptyDelivery) ≤
      copies codec id mailbox := by
  induction mailbox generalizing index with
  | nil => exact Nat.le_refl _
  | cons body mailbox inductionHypothesis =>
      cases index with
      | zero =>
          simp only [List.eraseIdx_cons_zero, List.getD_cons_zero, bodyCopies,
            copies, List.countP_cons, List.countP_nil]
          split <;> omega
      | succ index =>
          have later := inductionHypothesis index
          unfold copies at later ⊢
          simp only [List.eraseIdx_cons_succ, List.getD_cons_succ,
            List.countP_cons]
          omega

/-- The invariant of the system. -/
structure System.Sound (system : System) : Prop where
  risk : Task.Sound (PostGuard swarm.codec) (fun _ _ => True) system.risk
  executor :
    Task.Sound (TradeGuard swarm.executorAgent swarm.codec)
      (fun _ _ => True) system.executor
  placed_le : ∀ id,
    copies swarm.codec id system.placed ≤
      (postLedgerOf system.risk.history).posted.countP
        (carries swarm.codec id)
  delivered_le : ∀ id,
    (ledgerOf swarm.codec system.executor.history).deliveries id +
        copies swarm.codec id system.mailbox ≤
      copies swarm.codec id system.placed

theorem sound_start (riskRounds executorRounds : Nat) :
    System.Sound swarm (swarm.start riskRounds executorRounds) where
  risk := .begin (satisfies_riskLoop swarm.riskConfig riskRounds)
  executor :=
    .begin (satisfies_executorLoop swarm.executorConfig swarm.wallet
      swarm.readDecision executorRounds)
  placed_le := fun _ => Nat.le_refl 0
  delivered_le := fun _ => Nat.le_refl 0

variable {swarm}

theorem System.Sound.moveRisk
    {system : System} (sound : System.Sound swarm system)
    (answers : Answers) (places : Bool) :
    System.Sound swarm (system.moveRisk swarm answers places) where
  risk := sound.risk.answer answers
  executor := sound.executor
  placed_le := by
    intro id
    have before := sound.placed_le id
    have posted := copies_deliveryOf_le swarm id system.risk answers
    unfold System.moveRisk
    unfold copies at before posted ⊢
    simp only [List.countP_append]
    cases places with
    | false =>
        simp only [Bool.false_eq_true, if_false, List.countP_nil]
        omega
    | true =>
        simp only [if_true]
        omega
  delivered_le := by
    intro id
    have before := sound.delivered_le id
    unfold System.moveRisk
    unfold copies at before ⊢
    simp only [List.countP_append]
    omega

theorem System.Sound.moveExecutor
    {system : System} (sound : System.Sound swarm system)
    (answers : Answers) (taken : Option Nat) :
    System.Sound swarm (system.moveExecutor answers taken) := by
  unfold System.moveExecutor
  split
  · next index _ =>
      refine ⟨sound.risk, sound.executor.answer _, sound.placed_le, ?_⟩
      intro id
      have before := sound.delivered_le id
      have brought := deliveries_answer_le swarm.codec id system.executor
        answers (system.mailbox.getD index emptyDelivery)
      have left := copies_eraseIdx_le swarm.codec id
        system.mailbox index
      simp only
      omega
  · refine ⟨sound.risk, sound.executor.answer _, sound.placed_le, ?_⟩
    intro id
    have before := sound.delivered_le id
    have brought := deliveries_answer_le swarm.codec id system.executor
      answers emptyDelivery
    rw [bodyCopies_empty] at brought
    simp only
    omega

/-- The run lemma: by induction on the moves. -/
theorem System.Sound.play
    {system : System} (sound : System.Sound swarm system)
    (moves : List Move) :
    System.Sound swarm (system.play swarm moves) := by
  induction moves generalizing system with
  | nil => exact sound
  | cons move moves inductionHypothesis =>
      cases move with
      | risk answers places =>
          exact inductionHypothesis (sound.moveRisk answers places)
      | executor answers taken =>
          exact inductionHypothesis (sound.moveExecutor answers taken)

end Chain

/-- How often `execute_swap` was called for an id in a run. -/
def executionsIn
    (swarm : Swarm) (riskRounds executorRounds : Nat) (moves : List Move)
    (id : String) : Nat :=
  (ledgerOf swarm.codec
    ((swarm.start riskRounds executorRounds).play swarm
      moves).executor.history).executions id

/-- How many copies of an id entered the executor's queue. -/
def copiesPlaced
    (swarm : Swarm) (riskRounds executorRounds : Nat) (moves : List Move)
    (id : String) : Nat :=
  copies swarm.codec id
    ((swarm.start riskRounds executorRounds).play swarm moves).placed

/-- How often the risk agent drew an id. -/
def timesDrawn
    (swarm : Swarm) (riskRounds executorRounds : Nat) (moves : List Move)
    (id : String) : Nat :=
  (postLedgerOf
    ((swarm.start riskRounds executorRounds).play swarm
      moves).risk.history).drawn.count id

/-- In every run an id is executed at most once for each copy of it that was
placed, and at most three copies are placed for each time it was drawn. -/
theorem executions_bounded
    (swarm : Swarm) (keepsId : KeepsId swarm.codec)
    (riskRounds executorRounds : Nat) (moves : List Move) (id : String) :
    executionsIn swarm riskRounds executorRounds moves id ≤
        copiesPlaced swarm riskRounds executorRounds moves id ∧
      copiesPlaced swarm riskRounds executorRounds moves id ≤
        3 * timesDrawn swarm riskRounds executorRounds moves id := by
  have sound :=
    (sound_start swarm riskRounds executorRounds).play moves
  constructor
  · have executed := executions_le_deliveries id sound.executor.past
    have delivered := sound.delivered_le id
    unfold executionsIn copiesPlaced
    omega
  · exact Nat.le_trans (sound.placed_le id)
      (posted_le_drawn keepsId id sound.risk.past)

/-! ## A retried decision -/

/-- Texts that are not empty and that stand for one id each. -/
theorem keepsId_ofTexts {texts : List (Bytes × SwarmMessage)}
    (filled : ∀ entry ∈ texts, entry.1 ≠ [])
    (distinct : ∀ entry ∈ texts, ∀ other ∈ texts,
      entry.1 = other.1 → entry.2.messageId = other.2.messageId) :
    KeepsId (.ofTexts texts) := by
  intro message decoded read
  unfold Codec.ofTexts at read
  simp only at read
  split at read
  · next entry found =>
      cases read
      have isText := List.find?_some found
      have member := List.mem_of_find?_eq_some found
      simp only [decide_eq_true_eq] at isText
      split at isText
      · next encoded foundEncoded =>
          have sameId := List.find?_some foundEncoded
          simp only [decide_eq_true_eq] at sameId
          rw [← sameId]
          exact distinct entry member encoded
            (List.mem_of_find?_eq_some foundEncoded) isText
      · exact absurd isText (filled entry member)
  · cases read

def signalMessage : SwarmMessage where
  messageId := "1b4f6a0e-0c3d-4e8a-8f5e-2d7c9a1b3c5d"
  messageType := .marketSignal
  senderRole := .researcher
  senderPubkey := researcherKey
  timestamp := "2026-01-01T00:00:00Z"
  payload := []

/-- The JSON of `signalMessage`. -/
def signalText : Bytes :=
  utf8 ["\x7b\"message_id\":\"1b4f6a0e-0c3d-4e8a-8f5e-2d7c9a1b3c5d\",",
    "\"message_type\":\"market_signal\",\"sender_role\":\"researcher\",",
    "\"sender_pubkey\":\"", researcherKey, "\",",
    "\"timestamp\":\"2026-01-01T00:00:00Z\",\"payload\":\x7b\x7d\x7d"]

def pairSwarm : Swarm where
  codec := .ofTexts
    [(signalText, signalMessage), (purchaseText, purchaseMessage)]
  registry := swarmRegistry
  riskPubkey := riskKey
  riskMemory := false
  executorPubkey := executorKey
  executorMemory := false
  wallet := "0xaaaa"
  readDecision := TradeDecisionPayload.readDump

theorem keepsId_pairSwarm : KeepsId pairSwarm.codec := by
  have signalFilled : signalText ≠ [] := by decide +kernel
  have purchaseFilled : purchaseText ≠ [] := by decide +kernel
  have different : signalText ≠ purchaseText := by decide +kernel
  apply keepsId_ofTexts
  · intro entry member
    simp only [List.mem_cons, List.not_mem_nil, or_false] at member
    rcases member with rfl | rfl
    · exact signalFilled
    · exact purchaseFilled
  · intro entry member other otherMember same
    simp only [List.mem_cons, List.not_mem_nil, or_false]
      at member otherMember
    rcases member with rfl | rfl <;> rcases otherMember with rfl | rfl
    · rfl
    · exact absurd same different
    · exact absurd same.symm different
    · rfl

/-- Everything works; the posts end as given. -/
def workingAnswers (posting : Except Exception (Response Unit)) : Answers
  | .getRecv => .ok (httpOk ⟨signalText, researcherKey⟩)
  | .postSend _ _ => posting
  | .newStamp =>
      { messageId := purchaseMessage.messageId
        timestamp := purchaseMessage.timestamp }
  | .latency => .fin 0
  | .isRunning => true
  | .write _ => .ok ()
  | .executeSwap _ => .ok confirmedSwap
  | .chat _ =>
      .ok ("\x7b\"risk_score\": 3.0, \"action\": \"buy\", " ++
        "\"confidence\": 1.0\x7d")

def answered : Answers :=
  workingAnswers (.ok (httpOk ()))

def timedOut : Answers :=
  workingAnswers (.error ⟨.timeoutException, "timed out"⟩)

/-- The first attempt places the decision and times out, the second places it
again; the executor takes both. -/
def retriedDecision : List Move :=
  [.risk answered false, .risk answered false, .risk answered false,
    .risk answered false, .risk timedOut true, .risk answered true,
    .executor answered (some 0), .executor answered none,
    .executor answered none, .executor answered none,
    .executor answered none, .executor answered (some 0),
    .executor answered none, .executor answered none]

theorem executions_bounded_retried :
    executionsIn pairSwarm 1 2 retriedDecision
          purchaseMessage.messageId ≤
        copiesPlaced pairSwarm 1 2 retriedDecision
          purchaseMessage.messageId ∧
      copiesPlaced pairSwarm 1 2 retriedDecision
          purchaseMessage.messageId ≤
        3 * timesDrawn pairSwarm 1 2 retriedDecision
          purchaseMessage.messageId :=
  executions_bounded pairSwarm keepsId_pairSwarm 1 2 retriedDecision
    purchaseMessage.messageId

/-- One decision, drawn once, is executed twice. -/
theorem retried_decision_executes_twice :
    ¬ ∀ (swarm : Swarm) (riskRounds executorRounds : Nat)
        (moves : List Move) (id : String),
      KeepsId swarm.codec →
        timesDrawn swarm riskRounds executorRounds moves id ≤ 1 →
          executionsIn swarm riskRounds executorRounds moves id ≤ 1 := by
  intro always
  obtain ⟨drawnOnce, executedTwice⟩ :
      timesDrawn pairSwarm 1 2 retriedDecision
          purchaseMessage.messageId = 1 ∧
        executionsIn pairSwarm 1 2 retriedDecision
          purchaseMessage.messageId = 2 := by
    decide +kernel
  have bounded :=
    always pairSwarm 1 2 retriedDecision purchaseMessage.messageId
      keepsId_pairSwarm (Nat.le_of_eq drawnOnce)
  omega

end SwarmFi.Agents

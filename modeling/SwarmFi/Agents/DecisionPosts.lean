import SwarmFi.Agents.Calls

/-!
# What the risk agent posts

`postLedgerOf` reads the history of an agent: the stamp it drew last, the
posts made since, and all stamps drawn and contents posted so far.  A risk
agent posts only the encoding of the message that carries the last stamp, at
most as often as the retry policy allows, so every message id is posted at
most three times for each time it was drawn.
-/

namespace SwarmFi.Agents

open Foundation Python SwarmFi.Core Compute

/-! ## The ledger of the posts -/

/-- `drawn` holds the message ids of the stamps, `posted` the contents. -/
structure PostLedger where
  stamp : Option Stamp
  postsSince : Nat
  drawn : List String
  posted : List Bytes

namespace PostLedger

def empty : PostLedger where
  stamp := none
  postsSince := 0
  drawn := []
  posted := []

def stamped (ledger : PostLedger) (stamp : Stamp) : PostLedger :=
  { ledger with
    stamp := some stamp
    postsSince := 0
    drawn := ledger.drawn ++ [stamp.messageId] }

def post (ledger : PostLedger) (content : Bytes) : PostLedger :=
  { ledger with
    postsSince := ledger.postsSince + 1
    posted := ledger.posted ++ [content] }

def record (ledger : PostLedger) : Event Agent → PostLedger
  | ⟨.newStamp, stamp⟩ => ledger.stamped stamp
  | ⟨.postSend _ content, _⟩ => ledger.post content
  | _ => ledger

end PostLedger

def postLedgerOf (history : List (Event Agent)) : PostLedger :=
  summary PostLedger.record .empty history

section PostLedgerOf

variable (history : List (Event Agent))

theorem postLedgerOf_snoc (event : Event Agent) :
    postLedgerOf (history ++ [event]) =
      (postLedgerOf history).record event :=
  summary_snoc _ _ history event

@[simp]
theorem postLedgerOf_stamped (stamp : Stamp) :
    postLedgerOf (history ++ [⟨.newStamp, stamp⟩]) =
      (postLedgerOf history).stamped stamp :=
  postLedgerOf_snoc history _

@[simp]
theorem postLedgerOf_posted
    (dest : String) (content : Bytes)
    (answer : Except Exception (Response Unit)) :
    postLedgerOf (history ++ [⟨.postSend dest content, answer⟩]) =
      (postLedgerOf history).post content :=
  postLedgerOf_snoc history _

/-- A call that neither draws a stamp nor posts. -/
def Quiet : AgentCall → Prop
  | .newStamp => False
  | .postSend _ _ => False
  | _ => True

theorem record_quiet (ledger : PostLedger) (event : Event Agent)
    (quiet : Quiet event.call) : ledger.record event = ledger := by
  obtain ⟨request, answer⟩ := event
  cases request with
  | newStamp => exact quiet.elim
  | postSend dest content => exact quiet.elim
  | _ => rfl

end PostLedgerOf

/-! ## The discipline of the posts -/

/-- The ledger has room for more attempts of this message. -/
def RoomFor (ledger : PostLedger) (message : SwarmMessage)
    (attempts : Nat) : Prop :=
  (∃ stamp, ledger.stamp = some stamp ∧
    message.messageId = stamp.messageId) ∧
    ledger.postsSince + attempts ≤ extraAttempts + 1

theorem RoomFor.stamped
    {ledger : PostLedger} {message : SwarmMessage} {stamp : Stamp}
    (carries : message.messageId = stamp.messageId) :
    RoomFor (ledger.stamped stamp) message (extraAttempts + 1) :=
  ⟨⟨stamp, rfl, carries⟩, Nat.le_of_eq (Nat.zero_add _)⟩

theorem RoomFor.post
    {ledger : PostLedger} {message : SwarmMessage} {attempts : Nat}
    (room : RoomFor ledger message (attempts + 1)) (content : Bytes) :
    RoomFor (ledger.post content) message attempts := by
  obtain ⟨stamped, within⟩ := room
  refine ⟨stamped, ?_⟩
  simp only [PostLedger.post]
  omega

def PostGuard (codec : Codec) (history : List (Event Agent)) :
    AgentCall → Prop
  | .postSend _ content =>
      ∃ message, content = codec.encode message ∧
        RoomFor (postLedgerOf history) message 1
  | _ => True

section Risk

variable (config : AgentConfig)

theorem postGuard_of_quiet
    (codec : Codec) (history : List (Event Agent)) (request : AgentCall)
    (quiet : Quiet request) : PostGuard codec history request := by
  cases request with
  | postSend dest content => exact quiet.elim
  | _ => trivial

/-- A quiet program in front of another one leaves the ledger as it is. -/
theorem satisfies_quiet_bind
    {α β : Type} {program : Program Agent Exception α} {codec : Codec}
    {next : α → Program Agent Exception β}
    {after : Except Exception β → List (Event Agent) → Prop}
    (quiet : program.Uses Quiet) {history : List (Event Agent)}
    (failed : ∀ exc reached, after (.error exc) reached)
    (rest : ∀ value reached,
      postLedgerOf reached = postLedgerOf history →
        (next value).Satisfies (PostGuard codec) after reached) :
    (program.bind next).Satisfies (PostGuard codec) after history :=
  quiet.satisfies_summary_bind (postGuard_of_quiet codec) record_quiet
    failed rest

theorem quiet_remember (writes : List MemoryWrite) :
    ((config.base .risk).remember writes).Uses Quiet :=
  uses_remember config .risk (fun _ => trivial) writes

/-- One attempt makes one post, whatever comes of it. -/
theorem satisfies_attemptSend
    {guard : List (Event Agent) → AgentCall → Prop}
    {post : Except Exception Unit → List (Event Agent) → Prop}
    {dest : String} {content : Bytes} {history : List (Event Agent)}
    (admissible : guard history (.postSend dest content))
    (finish : ∀ outcome answer,
      post outcome (history ++ [⟨.postSend dest content, answer⟩])) :
    (config.client.attemptSend dest content).Satisfies guard post
      history := by
  refine ⟨admissible, fun answer => ?_⟩
  cases answer with
  | error exc => exact finish (.error exc) (.error exc)
  | ok resp =>
      exact (Program.satisfies_ofExcept _ _).mpr
        (finish resp.raiseForStatus (.ok resp))

/-- By induction on the attempts left. -/
theorem satisfies_retries
    {dest : String} {message : SwarmMessage} (extra : Nat)
    {history : List (Event Agent)}
    (room : RoomFor (postLedgerOf history) message (extra + 1)) :
    (Program.retrying retryable
        (config.client.attemptSend dest (config.codec.encode message))
        extra).Satisfies (PostGuard config.codec) (fun _ _ => True)
      history := by
  have admissible : PostGuard config.codec history
      (.postSend dest (config.codec.encode message)) := by
    obtain ⟨stamped, within⟩ := room
    exact ⟨message, rfl, stamped, by omega⟩
  induction extra generalizing history with
  | zero =>
      exact satisfies_attemptSend config admissible fun _ _ => trivial
  | succ extra inductionHypothesis =>
      apply (Program.satisfies_recover _ _ _).mpr
      refine satisfies_attemptSend config admissible ?_
      intro outcome answer
      cases outcome with
      | ok _ => trivial
      | error exc =>
          simp only [Program.recovered]
          split
          · have less : RoomFor
                (postLedgerOf (history ++
                  [⟨.postSend dest (config.codec.encode message),
                    answer⟩])) message (extra + 1) := by
              rw [postLedgerOf_posted]
              exact room.post _
            refine inductionHypothesis less ?_
            obtain ⟨stamped, within⟩ := less
            exact ⟨message, rfl, stamped, by omega⟩
          · trivial

theorem satisfies_clientSend
    {dest : String} {message : SwarmMessage}
    {history : List (Event Agent)}
    (room :
      RoomFor (postLedgerOf history) message (extraAttempts + 1)) :
    (config.client.send dest message).Satisfies (PostGuard config.codec)
      (fun _ _ => True) history :=
  satisfies_retries config extraAttempts room

theorem satisfies_handlePing
    (received : ReceivedMessage) (history : List (Event Agent)) :
    ((config.base .risk).handlePing received).Satisfies
      (PostGuard config.codec) (fun _ _ => True) history := by
  apply (Program.satisfies_call_bind _ _ _).mpr
  refine ⟨trivial, fun latencyMs => ?_⟩
  apply (Program.satisfies_ofExcept_bind _ _ _).mpr
  cases (config.base .risk).pubkey with
  | error exc => trivial
  | ok pubkey =>
      refine ⟨trivial, fun stamp => ?_⟩
      apply (Program.satisfies_ofExcept_bind _ _ _).mpr
      cases made :
          makePong stamp received.message (config.base .risk).role pubkey
            latencyMs with
      | error exc => exact trivial
      | ok pong =>
          apply satisfies_clientSend
          rw [postLedgerOf_stamped]
          exact .stamped (makePong_messageId made)

/-- A decision carries the stamp drawn last, and nothing has been posted
since. -/
theorem satisfies_score
    (signal : Dict) (ourPubkey : String) (history : List (Event Agent)) :
    (score config.risk.chat (config.base .risk).newStamp signal
        ourPubkey).Satisfies (PostGuard config.codec)
      (fun outcome reached => ∀ decision, outcome = .ok decision →
        RoomFor (postLedgerOf reached) decision (extraAttempts + 1))
      history := by
  apply (Program.satisfies_ofExcept_bind _ _ _).mpr
  cases buildUserPrompt signal with
  | error exc =>
      intro decision isOk
      cases isOk
  | ok prompt =>
      refine ⟨trivial, fun reply => ?_⟩
      apply (Program.satisfies_ofExcept_bind _ _ _).mpr
      cases decisionFor signal reply with
      | error exc =>
          intro decision isOk
          cases isOk
      | ok payload =>
          refine ⟨trivial, fun stamp => ?_⟩
          apply (Program.satisfies_ofExcept _ _).mpr
          intro decision made
          rw [postLedgerOf_stamped]
          exact .stamped (SwarmMessage.make_eq_ok made).1

theorem satisfies_handleSignal
    (signal : Dict) (history : List (Event Agent)) :
    (config.risk.handleSignal signal).Satisfies
      (PostGuard config.codec) (fun _ _ => True) history := by
  refine satisfies_quiet_bind (quiet_remember config _)
    (fun _ _ => trivial) ?_
  intro _ reached _
  apply (Program.satisfies_ofExcept_bind _ _ _).mpr
  cases config.risk.base.pubkey with
  | error exc => trivial
  | ok pubkey =>
      apply (Program.satisfies_bind _ _ _).mpr
      apply (satisfies_score config signal pubkey reached).mono
      intro outcome scored room
      cases outcome with
      | error exc => trivial
      | ok decision =>
          refine satisfies_quiet_bind (quiet_remember config _)
            (fun _ _ => trivial) ?_
          intro _ later unchanged
          apply (Program.satisfies_ofExcept_bind _ _ _).mpr
          cases config.registry.pubkeyFor .executor with
          | error exc => trivial
          | ok dest =>
              apply satisfies_clientSend
              rw [unchanged]
              exact room decision rfl

theorem satisfies_riskRoute
    (received : ReceivedMessage) (history : List (Event Agent)) :
    ((config.base .risk).route config.risk.onMessage received).Satisfies
      (PostGuard config.codec) (fun _ _ => True) history := by
  unfold BaseAgent.route
  split
  · exact satisfies_handlePing config received history
  · apply (Program.satisfies_recover _ _ _).mpr
    have handled :
        (config.risk.onMessage received).Satisfies
          (PostGuard config.codec) (fun _ _ => True) history := by
      unfold RiskAgent.onMessage
      split
      · exact satisfies_handleSignal config _ history
      · trivial
    apply handled.mono
    intro outcome reached _
    cases outcome <;> trivial

theorem satisfies_riskLoop (rounds : Nat) :
    (riskLoop config.risk rounds).Satisfies (PostGuard config.codec)
      (fun _ _ => True) [] := by
  apply satisfies_dispatchLoop config .risk
  · intro history
    trivial
  · intro history
    trivial
  · intro history answer received _
    exact satisfies_riskRoute config received _

end Risk

/-! ## Counting the copies of an id -/

/-- Does this content decode to a message with this id? -/
def carries (codec : Codec) (id : String) (content : Bytes) : Bool :=
  match codec.decode content with
  | .ok message => message.messageId == id
  | .error _ => false

/-- A message that is sent and read back keeps its id. -/
def KeepsId (codec : Codec) : Prop :=
  ∀ message decoded, codec.decode (codec.encode message) = .ok decoded →
    decoded.messageId = message.messageId

/-- How many more copies of this id the retry policy allows now. -/
def PostLedger.roomLeft (ledger : PostLedger) (id : String) : Nat :=
  match ledger.stamp with
  | some stamp =>
      if stamp.messageId = id then
        extraAttempts + 1 - ledger.postsSince
      else
        0
  | none => 0

/-- The account of an id: what was posted and what may still be. -/
def PostLedger.Covered (codec : Codec) (id : String)
    (ledger : PostLedger) : Prop :=
  ledger.posted.countP (carries codec id) + ledger.roomLeft id ≤
    (extraAttempts + 1) * ledger.drawn.count id

theorem covered_stamped
    {codec : Codec} {id : String} {ledger : PostLedger}
    (covered : ledger.Covered codec id) (stamp : Stamp) :
    (ledger.stamped stamp).Covered codec id := by
  have before :
      ledger.posted.countP (carries codec id) ≤
        (extraAttempts + 1) * ledger.drawn.count id := by
    unfold PostLedger.Covered at covered
    omega
  unfold PostLedger.Covered PostLedger.roomLeft PostLedger.stamped
  simp only [List.count_append, List.count_singleton, Nat.mul_add]
  by_cases same : stamp.messageId = id
  · simp only [same, if_true, beq_self_eq_true]
    omega
  · have different : (stamp.messageId == id) = false :=
      beq_eq_false_iff_ne.mpr same
    simp only [same, if_false, different]
    omega

theorem covered_post
    {codec : Codec} (keepsId : KeepsId codec) {id : String}
    {ledger : PostLedger} (covered : ledger.Covered codec id)
    {message : SwarmMessage} (room : RoomFor ledger message 1) :
    (ledger.post (codec.encode message)).Covered codec id := by
  obtain ⟨⟨stamp, isStamp, sameId⟩, within⟩ := room
  unfold PostLedger.Covered PostLedger.roomLeft at covered ⊢
  unfold PostLedger.post
  rw [isStamp] at covered
  simp only [isStamp, List.countP_append, List.countP_singleton]
    at covered ⊢
  by_cases counted : carries codec id (codec.encode message) = true
  · have isId : stamp.messageId = id := by
      unfold carries at counted
      split at counted
      · rename_i decoded read
        rw [← sameId, ← keepsId message decoded read]
        exact beq_iff_eq.mp counted
      · cases counted
    simp only [counted, isId, if_true] at covered ⊢
    omega
  · by_cases isId : stamp.messageId = id
    · simp only [counted, isId, if_true, Bool.false_eq_true, if_false]
        at covered ⊢
      omega
    · simp only [counted, isId, Bool.false_eq_true, if_false] at covered ⊢
      omega

/-- Each id is posted at most three times for each time it was drawn. -/
theorem posted_le_drawn
    {codec : Codec} (keepsId : KeepsId codec) (id : String)
    {history : List (Event Agent)}
    (guarded : Guarded (PostGuard codec) history) :
    (postLedgerOf history).posted.countP (carries codec id) ≤
      (extraAttempts + 1) * (postLedgerOf history).drawn.count id := by
  have covered : (postLedgerOf history).Covered codec id := by
    refine guarded.invariant
      (motive := fun history =>
        (postLedgerOf history).Covered codec id) (Nat.le_refl 0) ?_
    rintro history ⟨request, answer⟩ admissible covered
    cases request with
    | newStamp =>
        rw [postLedgerOf_stamped]
        exact covered_stamped covered answer
    | postSend dest content =>
        obtain ⟨message, rfl, room⟩ := admissible
        rw [postLedgerOf_posted]
        exact covered_post keepsId covered room
    | _ =>
        rw [postLedgerOf_snoc]
        exact covered
  unfold PostLedger.Covered at covered
  omega

end SwarmFi.Agents

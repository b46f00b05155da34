import SwarmFi.Foundation.Retry
import SwarmFi.Python.Bytes
import SwarmFi.Python.Display
import SwarmFi.Python.Http
import SwarmFi.Core.Schema

/-!
# The AXL client

`send` and `recv` over the HTTP bridge of one node, inside any vocabulary that
offers the bridge.  The JSON form of a message is pydantic's and stays a
parameter.  The registry that resolves roles to keys is here as well.
-/

namespace SwarmFi.Core

open Foundation Python

/-- `SwarmMessage.encode` and `SwarmMessage.decode`, and the tables of the
characters that `repr` prints. -/
structure Codec where
  encode : SwarmMessage → Bytes
  decode : Bytes → Except Exception SwarmMessage
  tables : CharacterTables

/-- A text in UTF-8, given in pieces. -/
def utf8 (pieces : List String) : Bytes :=
  pieces.flatMap fun piece => piece.toUTF8.toList

/-- A codec that knows the texts of a few messages. -/
def Codec.ofTexts (texts : List (Bytes × SwarmMessage)) : Codec where
  encode := fun message =>
    match texts.find? fun entry =>
        entry.2.messageId = message.messageId with
    | some entry => entry.1
    | none => []
  decode := fun raw =>
    match texts.find? fun entry => entry.1 = raw with
    | some entry => .ok entry.2
    | none =>
        .error ⟨.validationError, "1 validation error for SwarmMessage"⟩
  tables := asciiTables

/-- What `/recv` answers with: the body and `X-From-Peer-Id`. -/
structure Delivery where
  content : Bytes
  fromPeer : String
  deriving DecidableEq

structure ReceivedMessage where
  message : SwarmMessage
  fromPubkey : String

variable {vocabulary : Vocabulary}

/-- The two requests to a node; each can raise what `httpx` raises. -/
structure AxlNode (vocabulary : Vocabulary) where
  getRecv : Program vocabulary Exception (Response Delivery)
  postSend :
    String → Bytes → Program vocabulary Exception (Response Unit)

structure AxlClient (vocabulary : Vocabulary) where
  codec : Codec
  node : AxlNode vocabulary

/-- What `recv` makes of the answer to its request. -/
def readDelivery (codec : Codec) :
    Except Exception (Response Delivery) →
      Except Exception (Option ReceivedMessage)
  | .error exc =>
      if exc.kind = .timeoutException then .ok none else .error exc
  | .ok resp =>
      if resp.statusCode = 204 ∨ resp.body.content = [] then
        .ok none
      else do
        resp.raiseForStatus
        match codec.decode resp.body.content with
        | .error exc =>
            .error ⟨.valueError,
              "Invalid SwarmMessage from " ++
                String.ofList (Display.reprString codec.tables
                  resp.body.fromPeer) ++ ": " ++ exc.text⟩
        | .ok message =>
            .ok (some {
              message := message
              fromPubkey := resp.body.fromPeer })

section ReadDelivery

variable
  {codec : Codec} {answer : Except Exception (Response Delivery)}
  {received : ReceivedMessage}

/-- Nothing comes from a timeout and from an empty answer. -/
theorem readDelivery_eq_none_iff :
    readDelivery codec answer = .ok none ↔
      (∃ exc, answer = .error exc ∧ exc.kind = .timeoutException) ∨
        ∃ resp, answer = .ok resp ∧
          (resp.statusCode = 204 ∨ resp.body.content = []) := by
  cases answer with
  | error exc => simp [readDelivery]
  | ok resp =>
      by_cases nothing : resp.statusCode = 204 ∨ resp.body.content = []
      · simp [readDelivery, nothing]
      · have notNone :
            ¬ readDelivery codec (.ok resp) = .ok none := by
          rw [readDelivery, if_neg nothing, bind_eq_ok_iff]
          rintro ⟨_, _, decoded⟩
          split at decoded <;> cases decoded
        simp [notNone, nothing]

/-- A message comes from the body of a successful answer that decodes to
it. -/
theorem readDelivery_eq_some_iff :
    readDelivery codec answer = .ok (some received) ↔
      ∃ resp, answer = .ok resp ∧
        ¬ (resp.statusCode = 204 ∨ resp.body.content = []) ∧
          resp.isSuccess = true ∧
            codec.decode resp.body.content = .ok received.message ∧
              received.fromPubkey = resp.body.fromPeer := by
  constructor
  · intro read
    cases answer with
    | error exc =>
        rw [readDelivery] at read
        split at read <;> cases read
    | ok resp =>
        rw [readDelivery] at read
        split at read
        · cases read
        · next something =>
            obtain ⟨_, raised, decoded⟩ := (bind_eq_ok_iff _ _ _).mp read
            split at decoded
            · cases decoded
            · next message isMessage =>
                cases decoded
                exact ⟨resp, rfl, something,
                  (Response.raiseForStatus_eq_ok_iff resp).mp raised,
                  isMessage, rfl⟩
  · rintro ⟨resp, rfl, something, success, decoded, sender⟩
    rw [readDelivery, if_neg something, bind_eq_ok_iff]
    refine ⟨(), (Response.raiseForStatus_eq_ok_iff resp).mpr success, ?_⟩
    rw [decoded, ← sender]

end ReadDelivery

namespace AxlClient

variable (self : AxlClient vocabulary)

/-- One poll of `/recv`; it is not retried. -/
def recv : Program vocabulary Exception (Option ReceivedMessage) := do
  let answer ← self.node.getRecv.attempt
  .ofExcept (readDelivery self.codec answer)

/-- One attempt of `/send`. -/
def attemptSend (dest : String) (content : Bytes) :
    Program vocabulary Exception Unit := do
  let resp ← self.node.postSend dest content
  .ofExcept resp.raiseForStatus

def send (dest : String) (message : SwarmMessage) :
    Program vocabulary Exception Unit :=
  .retrying retryable (self.attemptSend dest (self.codec.encode message))
    extraAttempts

end AxlClient

/-! ## The registry -/

/-- `AgentRegistry`: the key known for each configured role, empty until the
node has told it. -/
structure AgentRegistry where
  bootstrapped : Bool
  publicKey : AgentRole → Option String

def AgentRegistry.pubkeyFor (registry : AgentRegistry) (role : AgentRole) :
    Except Exception String :=
  if registry.bootstrapped then
    match registry.publicKey role with
    | none => .error ⟨.keyError, "Unknown agent role: " ++ role.value⟩
    | some key =>
        if key = "" then
          .error ⟨.runtimeError, "Agent '" ++ role.value ++
            "' has no public key — bootstrap may have failed"⟩
        else
          .ok key
  else
    .error ⟨.runtimeError, "AgentRegistry has not been bootstrapped. " ++
      "Call await registry.bootstrap() first."⟩

end SwarmFi.Core

import SwarmFi.Agents.Risk
import SwarmFi.Core.Compute.FailSafe

/-!
# One decision for a signal

What a risk agent without a storage client sends for a MARKET_SIGNAL, under
any recursion limit.  The scorer is the only part of the handler that can
raise before the send, so one decision goes out exactly where scoring fails
safe.
-/

namespace SwarmFi.Agents

open Foundation Python SwarmFi.Core Compute

/-! ## The handler and what it meets -/

inductive SignalCall where
  | chat (prompt : Prompt)
  | newStamp
  | send (destRole : AgentRole) (message : SwarmMessage)

abbrev SignalCall.Answer : SignalCall → Type
  | .chat _ => Except Exception String
  | .newStamp => Stamp
  | .send _ _ => Except Exception Unit

abbrev SignalHandler : Vocabulary where
  Call := SignalCall
  Answer := SignalCall.Answer

/-- A risk agent over these calls, built without a storage client; its
handler neither polls nor answers PINGs. -/
def forgetfulRisk (ownPubkey : String) (limits : RecursionLimits) :
    RiskAgent SignalHandler where
  chat := fun prompt => .call (SignalCall.chat prompt) .done
  limits := limits
  base := {
    role := .risk
    ownPubkey := ownPubkey
    hasMemory := false
    recv := .done none
    clientSend := fun _ _ => .done ()
    send := fun destRole message =>
      Program.bind (.call (SignalCall.send destRole message) .done)
        .ofExcept
    write := fun _ => .done ()
    newStamp := .call SignalCall.newStamp .done
    latency := .done (.fin 0)
    isRunning := .done true }

/-- The reply of the model, the stamp of the message and the outcome of the
send. -/
structure SignalScript where
  reply : Except Exception String
  stamp : Stamp
  send : Except Exception Unit

/-- The state is what has been sent. -/
def SignalScript.environment (script : SignalScript) :
    Environment SignalHandler (List (AgentRole × SwarmMessage))
  | sends, .chat _ => (script.reply, sends)
  | sends, .newStamp => (script.stamp, sends)
  | sends, .send destRole message =>
      (script.send, sends ++ [(destRole, message)])

/-- How the handling of one message ends, and what it has sent. -/
def handled
    (ownPubkey : String) (limits : RecursionLimits) (script : SignalScript)
    (received : ReceivedMessage) :
    Except Exception Unit × List (AgentRole × SwarmMessage) :=
  ((forgetfulRisk ownPubkey limits).onMessage received).run
    script.environment []

/-- The handler ends without an error after one decision to the executor. -/
def SendsOneDecision
    (ownPubkey : String) (limits : RecursionLimits) (script : SignalScript)
    (received : ReceivedMessage) : Prop :=
  ∃ decision, handled ownPubkey limits script received =
      (.ok (), [(.executor, decision)]) ∧
    decision.messageType = .tradeDecision

/-- Scoring fails safe, and the agent sends one decision whenever the send
succeeds. -/
structure HandlesSafely
    (nullReason : Bool) (ownPubkey : String) (limits : RecursionLimits)
    (script : SignalScript) (received : ReceivedMessage) : Prop where
  scoring : FailsSafe nullReason received.message.payload script.reply
    script.stamp ownPubkey limits
  sending : script.send = .ok () →
    SendsOneDecision ownPubkey limits script received

/-! ## One decision -/

section Handling

variable
  (ownPubkey : String) (limits : RecursionLimits) (script : SignalScript)
  (sends : List (AgentRole × SwarmMessage))

/-- Scoring is the scorer's own; nothing is sent meanwhile. -/
theorem run_score (signal : Dict) :
    (score (forgetfulRisk ownPubkey limits).chat
        (forgetfulRisk ownPubkey limits).base.newStamp signal ownPubkey
          (forgetfulRisk ownPubkey limits).limits).run
            script.environment sends =
      (scored signal script.reply script.stamp ownPubkey limits,
        sends) := by
  simp only [scored, score, forgetfulRisk, chat, newStamp,
    Program.bind_eq_bind, Program.run_bind, Program.run_ofExcept,
    Program.run_call, Program.run_done, replying,
    SignalScript.environment]
  cases buildUserPrompt signal limits with
  | error exc => rfl
  | ok prompt =>
      cases decisionFor signal script.reply limits with
      | error exc => rfl
      | ok decision => rfl

/-- Without a storage client nothing is remembered. -/
theorem remember_forgetful (writes : List MemoryWrite) :
    (forgetfulRisk ownPubkey limits).base.remember writes = .done () := rfl

theorem send_forgetful (destRole : AgentRole) (message : SwarmMessage) :
    (forgetfulRisk ownPubkey limits).base.send destRole message =
      Program.bind (.call (SignalCall.send destRole message) .done)
        .ofExcept := rfl

theorem sendsOneDecision_of_scored
    {received : ReceivedMessage}
    (isSignal : received.message.messageType = .marketSignal)
    {decision : SwarmMessage}
    (returned : scored received.message.payload script.reply script.stamp
      ownPubkey limits = .ok decision)
    (isDecision : decision.messageType = .tradeDecision)
    (succeeds : script.send = .ok ()) :
    SendsOneDecision ownPubkey limits script received := by
  obtain ⟨_, _, _, _, made⟩ := (scored_eq_ok_iff _ _ _ _ _ _).mp returned
  obtain ⟨key, validKey⟩ := SwarmMessage.valid_of_make made
  have known :
      (forgetfulRisk ownPubkey limits).base.pubkey = .ok ownPubkey :=
    BaseAgent.pubkey_of_valid (forgetfulRisk ownPubkey limits).base validKey
  have ran := run_score ownPubkey limits script [] received.message.payload
  rw [returned] at ran
  refine ⟨decision, ?_, isDecision⟩
  unfold handled RiskAgent.onMessage
  rw [if_pos isSignal]
  simp only [RiskAgent.handleSignal, known, remember_forgetful,
    send_forgetful, Program.bind_eq_bind, Program.ofExcept_ok,
    Program.done_bind]
  rw [Program.run_bind_of_ok _ ran]
  simp only [Program.run_bind, Program.run_call, Program.run_done,
    SignalScript.environment, succeeds, Program.ofExcept_ok,
    List.nil_append]

/-- A plain signal is handled safely exactly where scoring it fails safe. -/
theorem handlesSafely_iff
    (nullReason : Bool) (received : ReceivedMessage)
    (isSignal : received.message.messageType = .marketSignal)
    (plain : PlainSignal received.message.payload) :
    HandlesSafely nullReason ownPubkey limits script received ↔
      ScoresSafely nullReason received.message.payload script.reply
        ownPubkey limits := by
  have safe_iff :=
    failsSafe_iff_safely plain nullReason script.reply script.stamp
      ownPubkey limits
  constructor
  · intro handles
    exact safe_iff.mp handles.scoring
  · intro safely
    have safe := safe_iff.mpr safely
    obtain ⟨decision, returned, isDecision, _⟩ := safe
    exact {
      scoring := safe_iff.mpr safely
      sending :=
        sendsOneDecision_of_scored ownPubkey limits script isSignal
          returned isDecision }

end Handling

/-- Ether for USDC on Base. -/
def etherSignal : Dict :=
  [("token_in", .str nativeEth), ("token_out", .str usdc),
    ("chain_id", .int 8453), ("amount_in_wei", .int 50000000000000000),
    ("price_usd", .float (.fin 1950)), ("signal", .str "strong"),
    ("reason", .str "breakout")]

theorem etherSignal_plain : PlainSignal etherSignal where
  tokenIn := ⟨_, rfl⟩
  tokenOut := ⟨_, rfl⟩
  chainId := ⟨_, rfl⟩
  amountInWei := ⟨_, rfl, by decide⟩
  price := ⟨_, _, rfl, rfl⟩

/-- The message that brings a signal. -/
def etherMessage (signal : Dict) : ReceivedMessage where
  fromPubkey := somePubkey
  message := {
    messageId := "id-0"
    messageType := .marketSignal
    senderRole := .researcher
    senderPubkey := somePubkey
    timestamp := "2026-01-01T00:00:00Z"
    payload := signal }

/-- A model that cannot be reached. -/
def unreachableModel : SignalScript where
  reply := .error ⟨.connectError, "All connection attempts failed"⟩
  stamp := someStamp
  send := .ok ()

/-- The recursion limit of an interpreter that is about to start. -/
def usualLimits : RecursionLimits where
  printing := some 1000
  reading := some 1000

theorem etherSignal_prints :
    SlotsPrint usualLimits.printing etherSignal where
  chainId := (Display.formatWithin_eq_ok_iff _ _ ()).mp rfl
  strength := (Display.formatWithin_eq_ok_iff _ _ ()).mp rfl
  rationale := (Display.formatWithin_eq_ok_iff _ _ ()).mp rfl
  size := (Display.formatWithin_eq_ok_iff _ _ ()).mp rfl

theorem handlesSafely_iff_unreachable :
    HandlesSafely true somePubkey usualLimits unreachableModel
      (etherMessage etherSignal) := by
  have validKey :
      (validPubkey somePubkey).toOption = some somePubkey := by
    decide +kernel
  exact (handlesSafely_iff somePubkey usualLimits unreachableModel true
    (etherMessage etherSignal) rfl etherSignal_plain).mpr {
      price := ⟨.fin 1950, rfl⟩
      slots := etherSignal_prints
      pubkey := ⟨somePubkey, eq_ok_of_toOption validKey⟩
      reply := trivial }

/-- An approval whose risk is above its range. -/
def riskElevenReply : Except Exception String :=
  .ok "\x7b\"risk_score\": 11, \"action\": \"buy\", \"confidence\": 1\x7d"

/-- A risk above its range ends in a validation error, not in a HOLD. -/
theorem risk_eleven_raises :
    ¬ ∃ nullReason, ∀ (ownPubkey : String) (limits : RecursionLimits)
        (script : SignalScript) (received : ReceivedMessage),
      received.message.messageType = .marketSignal →
        PlainSignal received.message.payload →
          HandlesSafely nullReason ownPubkey limits script received := by
  intro both
  obtain ⟨nullReason, always⟩ := both
  have raises :
      (scored etherSignal riskElevenReply someStamp somePubkey
        usualLimits).toBool = false := by
    decide +kernel
  have safe := (always somePubkey usualLimits
    ⟨riskElevenReply, someStamp, .ok ()⟩ (etherMessage etherSignal) rfl
    etherSignal_plain).scoring
  obtain ⟨message, returned, _⟩ := safe
  have returnedHere :
      scored etherSignal riskElevenReply someStamp somePubkey usualLimits =
        .ok message := returned
  rw [returnedHere] at raises
  cases raises

end SwarmFi.Agents

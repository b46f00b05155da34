import SwarmFi.Core.AxlClient
import SwarmFi.Core.PublicKeys
import SwarmFi.Python.Display

/-!
# The AXL bus

`_send` fires one message of a cycle from the node of one agent to another
and returns the event for the dashboard.  The lookups and the exchange with
the node are guarded; the construction of the message and the summary of its
payload are not.
-/

namespace SwarmFi.Core

open Python

/-! ## The registry -/

def MessageType.value : MessageType → String
  | .ping => "ping"
  | .pong => "pong"
  | .marketSignal => "market_signal"
  | .tradeDecision => "trade_decision"
  | .executionResult => "execution_result"
  | .error => "error"

/-- `_DEFAULT_ENDPOINTS` -/
def AgentRole.defaultEndpoint : AgentRole → String
  | .researcher => "http://127.0.0.1:9002"
  | .risk => "http://127.0.0.1:9012"
  | .executor => "http://127.0.0.1:9022"

namespace AgentRegistry

/-- The URL of a configured role. -/
def apiUrlFor (registry : AgentRegistry) (role : AgentRole) :
    Except Exception String :=
  match registry.publicKey role with
  | none => .error ⟨.keyError, "Unknown agent role: " ++ role.value⟩
  | some _ => .ok role.defaultEndpoint

/-- The addresses that a message needs. -/
structure Addresses where
  senderUrl : String
  senderPubkey : String
  destPubkey : String

def addresses (registry : AgentRegistry) (sender receiver : AgentRole) :
    Except Exception Addresses := do
  let senderUrl ← registry.apiUrlFor sender
  let senderPubkey ← registry.pubkeyFor sender
  let destPubkey ← registry.pubkeyFor receiver
  return ⟨senderUrl, senderPubkey, destPubkey⟩

/-- The registry after `bootstrap`: what each node's `/topology` told. -/
def ofKeys (keys : AgentRole → String) : AgentRegistry where
  bootstrapped := true
  publicKey := fun role => some (keys role)

end AgentRegistry

/-! ## The summary -/

section Summary

variable (tables : CharacterTables) (payload : Dict)

/-- `payload.get(key) or "?"` -/
def named (key : String) : Json :=
  (payload.getD key .null).orElse (.str "?")

/-- `_summarise(payload, mt)` -/
def summarise : MessageType → Except Exception String
  | .marketSignal => do
      let symIn ← Display.str tables (named payload "token_in_sym")
      let symOut ← Display.str tables (named payload "token_out_sym")
      let price ← (payload.getD "price_usd" (.int 0)).toFloat
      let signal ← Display.str tables (payload.getD "signal" (.str "?"))
      return symIn ++ " → " ++ symOut ++ " @ $" ++
        Display.formatGrouped price ++ " · " ++ signal
  | .tradeDecision => do
      let action ← Display.str tables (payload.getD "action" (.str "?"))
      let risk ← Display.str tables (payload.getD "risk_score" .null)
      return Display.upper tables action ++ " · risk " ++ risk
  | .executionResult =>
      if (payload.getD "tx_hash" .null).truthy then do
        let tx ← Display.str tables (payload.getD "tx_hash" .null)
        return "settled · tx " ++ String.ofList (tx.toList.take 10) ++ "…"
      else do
        let status ← Display.str tables (payload.getD "status" (.str "?"))
        return "submitted · " ++ status
  | messageType => .ok messageType.value

/-- What the summary reads of a payload has a text, and its price can be
converted. -/
def Summarised : MessageType → Prop
  | .marketSignal =>
      Display.Short (named payload "token_in_sym") ∧
        Display.Short (named payload "token_out_sym") ∧
          (payload.getD "price_usd" (.int 0)).Converts ∧
            Display.Short (payload.getD "signal" (.str "?"))
  | .tradeDecision =>
      Display.Short (payload.getD "action" (.str "?")) ∧
        Display.Short (payload.getD "risk_score" .null)
  | .executionResult =>
      if (payload.getD "tx_hash" .null).truthy then
        Display.Short (payload.getD "tx_hash" .null)
      else
        Display.Short (payload.getD "status" (.str "?"))
  | _ => True

theorem summarise_returns_iff (messageType : MessageType) :
    (∃ summary, summarise tables payload messageType = .ok summary) ↔
      Summarised payload messageType := by
  have texts := Display.str_returns_iff tables
  cases messageType with
  | marketSignal =>
      simp only [Summarised, Json.Converts, ← texts]
      constructor
      · rintro ⟨summary, summarised⟩
        simp only [summarise, bind_eq_ok_iff] at summarised
        obtain ⟨symIn, isIn, symOut, isOut, price, isPrice, signal, isSignal,
          _⟩ := summarised
        exact ⟨⟨symIn, isIn⟩, ⟨symOut, isOut⟩, ⟨price, isPrice⟩,
          ⟨signal, isSignal⟩⟩
      · rintro ⟨⟨symIn, isIn⟩, ⟨symOut, isOut⟩, ⟨price, isPrice⟩,
          ⟨signal, isSignal⟩⟩
        simp only [summarise, bind, Except.bind, isIn, isOut, isPrice,
          isSignal]
        exact ⟨_, rfl⟩
  | tradeDecision =>
      simp only [Summarised, ← texts]
      constructor
      · rintro ⟨summary, summarised⟩
        simp only [summarise, bind_eq_ok_iff] at summarised
        obtain ⟨action, isAction, risk, isRisk, _⟩ := summarised
        exact ⟨⟨action, isAction⟩, ⟨risk, isRisk⟩⟩
      · rintro ⟨⟨action, isAction⟩, ⟨risk, isRisk⟩⟩
        simp only [summarise, bind, Except.bind, isAction, isRisk]
        exact ⟨_, rfl⟩
  | executionResult =>
      simp only [Summarised, summarise]
      by_cases settled : (payload.getD "tx_hash" .null).truthy = true
      · rw [if_pos settled, if_pos settled, ← texts]
        cases Display.str tables (payload.getD "tx_hash" .null) <;>
          simp [bind, Except.bind, pure, Except.pure]
      · rw [if_neg settled, if_neg settled, ← texts]
        cases Display.str tables (payload.getD "status" (.str "?")) <;>
          simp [bind, Except.bind, pure, Except.pure]
  | ping => simp [summarise, Summarised]
  | pong => simp [summarise, Summarised]
  | error => simp [summarise, Summarised]

end Summary

/-! ## The bus -/

/-- What the dashboard shows of a message that was sent. -/
structure AxlEvent where
  ts : String
  sender : String
  receiver : String
  messageType : String
  messageId : String
  summary : String

/-- The state of the module. -/
structure AxlBus where
  registry : Option AgentRegistry
  axlEvents : List AxlEvent
  axlUnavailableLogged : Bool

/-- What a call meets: what the bootstrap comes to if there is one, the
default factories of the message, the time of the event, and what encoding
and sending the message comes to, by the URL and name of the sender and the
key of the receiver. -/
structure Network where
  bootstrap : Except Exception (AgentRole → String)
  stamp : Stamp
  ts : String
  exchange : String → String → String → SwarmMessage →
    Except Exception Unit

def axlEventsMax : Nat := 50

namespace AxlBus

variable (tables : CharacterTables) (bus : AxlBus) (network : Network)

/-- `_get_registry()` from the bootstrap on: the key of the researcher is
logged inside of the `try`, after the registry is kept. -/
def bootstrapped (told : Except Exception (AgentRole → String)) :
    Option AgentRegistry × AxlBus :=
  match told with
  | .error _ => (none, bus)
  | .ok keys =>
      let registry := AgentRegistry.ofKeys keys
      match registry.pubkeyFor .researcher with
      | .error _ => (none, { bus with registry := some registry })
      | .ok _ => (some registry, { bus with registry := some registry })

/-- `_get_registry()` -/
def getRegistry : Option AgentRegistry × AxlBus :=
  match bus.registry with
  | some registry => (some registry, bus)
  | none => bus.bootstrapped network.bootstrap

/-- The newest fifty events are kept. -/
def record (event : AxlEvent) : AxlBus :=
  let events := bus.axlEvents ++ [event]
  { bus with axlEvents := events.drop (events.length - axlEventsMax) }

/-- `_send` from the answer of the node on. -/
def exchanged (sender receiver : AgentRole) (messageType : MessageType)
    (payload : Dict) (message : SwarmMessage)
    (outcome : Except Exception Unit) (ts : String) :
    Except Exception (Option AxlEvent) × AxlBus :=
  match outcome with
  | .error _ => (.ok none, { bus with axlUnavailableLogged := true })
  | .ok () =>
      match summarise tables payload messageType with
      | .error exc => (.error exc, bus)
      | .ok summary =>
          let event : AxlEvent := {
            ts := ts
            sender := sender.value
            receiver := receiver.value
            messageType := messageType.value
            messageId := message.messageId
            summary := summary }
          (.ok (some event), bus.record event)

/-- What `_send` does once it has a registry. -/
def sendFrom (registry : AgentRegistry) (sender receiver : AgentRole)
    (messageType : MessageType) (payload : Dict) :
    Except Exception (Option AxlEvent) × AxlBus :=
  match registry.addresses sender receiver with
  | .error _ => (.ok none, bus)
  | .ok addresses =>
      match SwarmMessage.make network.stamp messageType sender
          addresses.senderPubkey payload with
      | .error exc => (.error exc, bus)
      | .ok message =>
          bus.exchanged tables sender receiver messageType payload message
            (network.exchange addresses.senderUrl sender.value
              addresses.destPubkey message) network.ts

/-- `_send(sender, receiver, message_type, payload)` -/
def send (sender receiver : AgentRole) (messageType : MessageType)
    (payload : Dict) : Except Exception (Option AxlEvent) × AxlBus :=
  match bus.getRegistry network with
  | (none, bus) => (.ok none, bus)
  | (some registry, bus) =>
      bus.sendFrom tables network registry sender receiver messageType
        payload

/-! ## When it returns -/

/-- A key that a message takes: a literal of `int(v, 16)` with 64
characters. -/
def MessageKey (v : String) : Prop :=
  v.length = 64 ∧ HexLiteral (v.toList.map toNumeral)

/-- The message of a call, as it is made with a key that is taken. -/
def messageOf (sender : AgentRole) (messageType : MessageType)
    (payload : Dict) (senderPubkey : String) : SwarmMessage where
  messageId := network.stamp.messageId
  messageType := messageType
  senderRole := sender
  senderPubkey := lower senderPubkey
  timestamp := network.stamp.timestamp
  payload := payload

/-- The key of the sender is taken, and what was sent can be summarised. -/
structure Unblocked (sender : AgentRole) (messageType : MessageType)
    (payload : Dict) (addresses : AgentRegistry.Addresses) : Prop where
  key : MessageKey addresses.senderPubkey
  summary :
    network.exchange addresses.senderUrl sender.value addresses.destPubkey
        (messageOf network sender messageType payload
          addresses.senderPubkey) = .ok () →
      Summarised payload messageType

theorem sendFrom_returns_iff (registry : AgentRegistry)
    (sender receiver : AgentRole) (messageType : MessageType)
    (payload : Dict) :
    (∃ event, (bus.sendFrom tables network registry sender receiver
      messageType payload).1 = .ok event) ↔
        ∀ addresses, registry.addresses sender receiver = .ok addresses →
          Unblocked network sender messageType payload addresses := by
  unfold sendFrom exchanged
  cases found : registry.addresses sender receiver with
  | error exc => simp
  | ok addresses =>
      have made := make_eq_ok_iff network.stamp messageType sender payload
        addresses.senderPubkey
      have summarised := summarise_returns_iff tables payload messageType
      simp only [Except.ok.injEq, forall_eq']
      cases making : SwarmMessage.make network.stamp messageType sender
          addresses.senderPubkey payload with
      | error exc =>
          constructor
          · rintro ⟨event, returned⟩
            cases returned
          · intro unblocked
            rw [(made _).mpr ⟨unblocked.key, rfl⟩] at making
            cases making
      | ok message =>
          obtain ⟨key, isMessage⟩ := (made message).mp making
          have isMessage : message = messageOf network sender messageType
            payload addresses.senderPubkey := isMessage
          dsimp only
          cases exchanged : network.exchange addresses.senderUrl
              sender.value addresses.destPubkey message with
          | error exc =>
              constructor
              · intro _
                refine ⟨key, ?_⟩
                intro delivered
                rw [← isMessage, exchanged] at delivered
                cases delivered
              · intro _
                exact ⟨none, rfl⟩
          | ok _ =>
              have delivered := exchanged
              rw [isMessage] at delivered
              dsimp only
              cases summary : summarise tables payload messageType with
              | error exc =>
                  constructor
                  · rintro ⟨event, returned⟩
                    cases returned
                  · intro unblocked
                    have possible := summarised.mpr
                      (unblocked.summary delivered)
                    rw [summary] at possible
                    obtain ⟨_, impossible⟩ := possible
                    cases impossible
              | ok text =>
                  constructor
                  · intro _
                    refine ⟨key, ?_⟩
                    intro _
                    exact summarised.mp ⟨text, summary⟩
                  · intro _
                    exact ⟨_, rfl⟩

/-- `_send` returns exactly when there is no registry, a lookup fails, or the
message is neither refused nor in the way of its summary. -/
theorem send_returns_iff (sender receiver : AgentRole)
    (messageType : MessageType) (payload : Dict) :
    (∃ event, (bus.send tables network sender receiver messageType
      payload).1 = .ok event) ↔
        ∀ registry addresses, (bus.getRegistry network).1 = some registry →
          registry.addresses sender receiver = .ok addresses →
            Unblocked network sender messageType payload addresses := by
  unfold send
  cases found : bus.getRegistry network with
  | mk registry kept =>
      cases registry with
      | none => simp
      | some registry =>
          dsimp only
          rw [sendFrom_returns_iff]
          constructor
          · intro unblocked other addresses same looked
            cases same
            exact unblocked addresses looked
          · intro unblocked addresses looked
            exact unblocked registry addresses rfl looked

/-! ## A key that is refused -/

/-- Every node names itself `node`, and every message is delivered. -/
def namedNodes : Network where
  bootstrap := .ok fun _ => "node"
  stamp := ⟨"b7c1", "2025-01-01T00:00:00Z"⟩
  ts := "2025-01-01T00:00:00Z"
  exchange := fun _ _ _ _ => .ok ()

def quiet : AxlBus where
  registry := none
  axlEvents := []
  axlUnavailableLogged := false

theorem short_key_escapes :
    ¬ ∀ (tables : CharacterTables) (bus : AxlBus) (network : Network)
      (sender receiver : AgentRole) (messageType : MessageType)
      (payload : Dict),
      ∃ event, (bus.send tables network sender receiver messageType
        payload).1 = .ok event := by
  intro always
  obtain ⟨event, returned⟩ := always asciiTables quiet namedNodes .researcher .risk
    .marketSignal []
  have refused : (quiet.send asciiTables namedNodes .researcher .risk
      .marketSignal []).1 =
        .error (validationError "SwarmMessage" "sender_pubkey"
          "String should have at least 64 characters") := rfl
  rw [refused] at returned
  cases returned

/-! ## What is kept -/

theorem length_record (event : AxlEvent) :
    (bus.record event).axlEvents.length ≤ axlEventsMax := by
  unfold record
  rw [List.length_drop]
  omega

theorem axlEvents_getRegistry :
    (bus.getRegistry network).2.axlEvents = bus.axlEvents := by
  unfold getRegistry bootstrapped
  cases bus.registry with
  | some registry => rfl
  | none =>
      cases network.bootstrap with
      | error exc => rfl
      | ok keys =>
          dsimp only
          cases (AgentRegistry.ofKeys keys).pubkeyFor .researcher <;> rfl

/-- A call that raises or finds nothing leaves the events alone; any other
adds its own. -/
theorem axlEvents_send (sender receiver : AgentRole)
    (messageType : MessageType) (payload : Dict) :
    (bus.send tables network sender receiver messageType
      payload).2.axlEvents = bus.axlEvents ∨
        ∃ event, (bus.send tables network sender receiver messageType
          payload).1 = .ok (some event) ∧
            (bus.send tables network sender receiver messageType
              payload).2.axlEvents = (bus.record event).axlEvents := by
  have same := axlEvents_getRegistry bus network
  unfold send
  cases found : bus.getRegistry network with
  | mk registry kept =>
      rw [found] at same
      have same : kept.axlEvents = bus.axlEvents := same
      cases registry with
      | none => exact Or.inl same
      | some registry =>
          dsimp only
          unfold sendFrom exchanged
          split
          · exact Or.inl same
          · split
            · exact Or.inl same
            · split
              · exact Or.inl same
              · split
                · exact Or.inl same
                · right
                  refine ⟨_, rfl, ?_⟩
                  unfold record
                  rw [same]

/-- Never more than fifty events are kept. -/
theorem length_axlEvents_send
    (bounded : bus.axlEvents.length ≤ axlEventsMax)
    (sender receiver : AgentRole) (messageType : MessageType)
    (payload : Dict) :
    (bus.send tables network sender receiver messageType
      payload).2.axlEvents.length ≤ axlEventsMax := by
  rcases axlEvents_send tables bus network sender receiver messageType
    payload with same | ⟨event, _, recorded⟩
  · rw [same]
    exact bounded
  · rw [recorded]
    exact bus.length_record event

end AxlBus

end SwarmFi.Core

import SwarmFi.Core.AxlClient
import SwarmFi.Core.Storage

/-!
# The base agent

What the code of an agent calls (its node, its peers, its memory, the clock,
the stamps of new messages, the flag that `stop` clears) and the dispatch loop
over the subclass's `on_message`.  The loop counts its rounds, one for each
poll of `/recv`, and keeps what it has routed.
-/

namespace SwarmFi.Agents

open Foundation Python SwarmFi.Core

/-- `BaseAgent`: `recv` and `clientSend` are `self._client`'s, and `send`
resolves a role first. -/
structure BaseAgent (vocabulary : Vocabulary) where
  role : AgentRole
  ownPubkey : String
  hasMemory : Bool
  recv : Program vocabulary Exception (Option ReceivedMessage)
  clientSend : String → SwarmMessage → Program vocabulary Exception Unit
  send : AgentRole → SwarmMessage → Program vocabulary Exception Unit
  write : MemoryWrite → Program vocabulary Exception Unit
  newStamp : Program vocabulary Exception Stamp
  latency : Program vocabulary Exception PyFloat
  isRunning : Program vocabulary Exception Bool

/-- How far a dispatch loop has come: still running or stopped, and the
messages it has routed. -/
structure Progress where
  running : Bool
  routed : List ReceivedMessage

/-- The loop has routed one message before the rest. -/
def Progress.after (received : ReceivedMessage) (progress : Progress) :
    Progress :=
  { progress with routed := received :: progress.routed }

/-- `BaseAgent.send` over a registry and a client. -/
def sendToRole {vocabulary : Vocabulary}
    (registry : AgentRegistry) (client : AxlClient vocabulary)
    (destRole : AgentRole) (message : SwarmMessage) :
    Program vocabulary Exception Unit := do
  let destPubkey ← .ofExcept (registry.pubkeyFor destRole)
  client.send destPubkey message

namespace BaseAgent

variable {vocabulary : Vocabulary} (self : BaseAgent vocabulary)

/-- The property `pubkey`. -/
def pubkey : Except Exception String :=
  if self.ownPubkey = "" then
    .error ⟨.runtimeError, "Agent not started — pubkey not yet known"⟩
  else
    .ok self.ownPubkey

/-- A key that messages accept is known. -/
theorem pubkey_of_valid {key : String}
    (valid : validPubkey self.ownPubkey = .ok key) :
    self.pubkey = .ok self.ownPubkey := by
  unfold pubkey
  split
  · next missing =>
      rw [missing] at valid
      cases valid
  · rfl

theorem eq_of_pubkey {known : String} (isKnown : self.pubkey = .ok known) :
    known = self.ownPubkey := by
  unfold pubkey at isKnown
  split at isKnown <;> cases isKnown
  rfl

/-- `self.memory.…` under `if self.memory`. -/
def remember (writes : List MemoryWrite) :
    Program vocabulary Exception Unit :=
  if self.hasMemory then
    writes.forM self.write
  else
    return ()

def handlePing (received : ReceivedMessage) :
    Program vocabulary Exception Unit := do
  let latencyMs ← self.latency
  let pubkey ← .ofExcept self.pubkey
  let stamp ← self.newStamp
  let pong ← .ofExcept
    (makePong stamp received.message self.role pubkey latencyMs)
  self.clientSend received.fromPubkey pong

/-- `_route`: only `on_message` is guarded. -/
def route
    (onMessage : ReceivedMessage → Program vocabulary Exception Unit)
    (received : ReceivedMessage) : Program vocabulary Exception Unit :=
  if received.message.messageType = .ping then
    self.handlePing received
  else
    (onMessage received).recover fun _ => .done ()

/-- `_dispatch_loop` over `recv_stream`, for a number of polls. -/
def dispatchLoop
    (onMessage : ReceivedMessage → Program vocabulary Exception Unit) :
    Nat → Program vocabulary Exception Progress
  | 0 => return { running := true, routed := [] }
  | rounds + 1 => do
      match ← self.recv with
      | none => dispatchLoop onMessage rounds
      | some received =>
          if ← self.isRunning then
            self.route onMessage received
            let progress ← dispatchLoop onMessage rounds
            return progress.after received
          else
            return { running := false, routed := [] }

end BaseAgent

end SwarmFi.Agents

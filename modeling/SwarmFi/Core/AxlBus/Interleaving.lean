import SwarmFi.Core.AxlBus
import SwarmFi.Foundation.Moves
import SwarmFi.Foundation.Newest

/-!
# Calls of the bus that overlap

`_send` waits three times: for the lock around the registry, for the bootstrap
inside of it, and for the node that takes the message.  Other calls go on
meanwhile.  A run is a list of moves: a call begins, one enters the lock, a
bootstrap ends, a node answers.
-/

namespace SwarmFi.Core

open Foundation Python

/-! ## A call under way -/

/-- Where a call stands. -/
inductive Sending where
  | waiting
  | bootstrapping
  | exchanging (addresses : AgentRegistry.Addresses) (message : SwarmMessage)
  | ended (outcome : Except Exception (Option AxlEvent))

namespace Sending

def isWaiting : Sending → Bool
  | .waiting => true
  | _ => false

def isBootstrapping : Sending → Bool
  | .bootstrapping => true
  | _ => false

end Sending

structure SendCall where
  sender : AgentRole
  receiver : AgentRole
  messageType : MessageType
  payload : Dict
  sending : Sending

namespace SendCall

variable (self : SendCall)

/-- With a registry at hand: the lookups and the message. -/
def prepared (registry : AgentRegistry) (stamp : Stamp) : Sending :=
  match registry.addresses self.sender self.receiver with
  | .error _ => .ended (.ok none)
  | .ok addresses =>
      match SwarmMessage.make stamp self.messageType self.sender
          addresses.senderPubkey self.payload with
      | .error exc => .ended (.error exc)
      | .ok message => .exchanging addresses message

def isBootstrapping : Bool := self.sending.isBootstrapping

/-- The message that waits for the answer of the node. -/
def sent? : Option SwarmMessage :=
  match self.sending with
  | .exchanging _ message => some message
  | _ => none

/-- The event that the call has returned. -/
def returned? : Option AxlEvent :=
  match self.sending with
  | .ended (.ok event) => event
  | _ => none

end SendCall

namespace AxlBus

variable (tables : CharacterTables) (bus : AxlBus)

/-- The rest of the call after the exchange with the node. -/
def concluded (call : SendCall) (message : SwarmMessage)
    (outcome : Except Exception Unit) (ts : String) :
    Except Exception (Option AxlEvent) × AxlBus :=
  bus.exchanged tables call.sender call.receiver call.messageType
    call.payload message outcome ts

/-- `recent_events(limit)`; the slice is whole for 0. -/
def recentEvents (limit : Int) : List AxlEvent :=
  if 0 < limit then
    bus.axlEvents.rtake limit.toNat
  else
    bus.axlEvents.drop (-limit).toNat

end AxlBus

/-! ## The moves -/

inductive BusMove where
  | call (sender receiver : AgentRole) (messageType : MessageType)
      (payload : Dict)
  | enter (index : Nat) (stamp : Stamp)
  | bootstrapped (index : Nat)
      (told : Except Exception (AgentRole → String)) (stamp : Stamp)
  | exchanged (index : Nat) (outcome : Except Exception Unit) (ts : String)

/-- A bootstrap that succeeds. -/
def BusMove.bootstraps : BusMove → Bool
  | .bootstrapped _ told _ => told.isOk
  | _ => false

/-- The module and the calls under way. -/
structure BusyBus where
  bus : AxlBus
  calls : List SendCall

namespace BusyBus

variable (tables : CharacterTables) (self : BusyBus)

/-- A process that has just begun. -/
def idle : BusyBus where
  bus := {
    registry := none
    axlEvents := []
    axlUnavailableLogged := false }
  calls := []

/-- The call goes on until it waits again. -/
def place (index : Nat) (call : SendCall) (bus : AxlBus)
    (sending : Sending) : BusyBus where
  bus := bus
  calls := self.calls.set index { call with sending := sending }

/-- With the lock held. -/
def entered (call : SendCall) (stamp : Stamp) : Sending :=
  match self.bus.registry with
  | some registry => call.prepared registry stamp
  | none => .bootstrapping

/-- With the bootstrap over and the lock given back. -/
def told (call : SendCall) (registry : Option AgentRegistry)
    (stamp : Stamp) : Sending :=
  match registry with
  | some registry => call.prepared registry stamp
  | none => .ended (.ok none)

/-- What the answer of the node makes of a call. -/
def answered (index : Nat) (outcome : Except Exception Unit) (ts : String) :
    Option (SendCall × Except Exception (Option AxlEvent) × AxlBus) := do
  let call ← self.calls[index]?
  let message ← call.sent?
  return (call, self.bus.concluded tables call message outcome ts)

def next : BusMove → BusyBus
  | .call sender receiver messageType payload =>
      { self with
        calls := self.calls ++
          [⟨sender, receiver, messageType, payload, .waiting⟩] }
  | .enter index stamp =>
      match self.calls[index]? with
      | none => self
      | some call => self.place index call self.bus (self.entered call stamp)
  | .bootstrapped index told stamp =>
      match self.calls[index]? with
      | none => self
      | some call =>
          self.place index call (self.bus.bootstrapped told).2
            (BusyBus.told call (self.bus.bootstrapped told).1 stamp)
  | .exchanged index outcome ts =>
      match self.answered tables index outcome ts with
      | none => self
      | some (call, ended) =>
          self.place index call ended.2 (.ended ended.1)

/-- The lock is free for a call that waits for it, the bootstrap of a call
ends, or its node answers. -/
def Possible : BusMove → Prop
  | .call _ _ _ _ => True
  | .enter index _ =>
      (self.calls[index]?.any fun call => call.sending.isWaiting) = true ∧
        self.calls.countP SendCall.isBootstrapping = 0
  | .bootstrapped index _ _ =>
      self.calls[index]?.any SendCall.isBootstrapping = true
  | .exchanged index _ _ =>
      (self.calls[index]?.any fun call => call.sent?.isSome) = true

instance (move : BusMove) : Decidable (self.Possible move) :=
  match move with
  | .call _ _ _ _ => isTrue trivial
  | .enter _ _ => inferInstanceAs (Decidable (_ = true ∧ _ = 0))
  | .bootstrapped _ _ _ => inferInstanceAs (Decidable (_ = true))
  | .exchanged _ _ _ => inferInstanceAs (Decidable (_ = true))

/-- The event that a move records. -/
def recorded : BusMove → Option AxlEvent
  | .exchanged index outcome ts => do
      let ended ← self.answered tables index outcome ts
      ended.2.1.toOption.join
  | _ => none

end BusyBus

/-- The messages that were delivered in a run, in order. -/
def deliveredIn (tables : CharacterTables) (moves : List BusMove) :
    List AxlEvent :=
  recordsOf (BusyBus.next tables) (BusyBus.recorded tables) .idle moves

/-! ## What a call makes of what it gets -/

section Parts

variable {tables : CharacterTables} {bus : AxlBus}

/-- A prepared message goes from the key of the sender to the key of the
receiver. -/
structure AddressedBy (registry : AgentRegistry) (call : SendCall)
    (addresses : AgentRegistry.Addresses) (message : SwarmMessage) :
    Prop where
  sender : registry.pubkeyFor call.sender = .ok addresses.senderPubkey
  receiver : registry.pubkeyFor call.receiver = .ok addresses.destPubkey
  signed : message.senderPubkey = lower addresses.senderPubkey
  messageType : message.messageType = call.messageType
  payload : message.payload = call.payload

theorem SendCall.addressed_of_prepared {call : SendCall}
    {registry : AgentRegistry} {stamp : Stamp}
    {addresses : AgentRegistry.Addresses} {message : SwarmMessage}
    (isPrepared : call.prepared registry stamp =
      .exchanging addresses message) :
    AddressedBy registry call addresses message := by
  rw [SendCall.prepared] at isPrepared
  cases found : registry.addresses call.sender call.receiver with
  | error exc =>
      rw [found] at isPrepared
      cases isPrepared
  | ok looked =>
      rw [found] at isPrepared
      dsimp only at isPrepared
      cases made : SwarmMessage.make stamp call.messageType call.sender
          looked.senderPubkey call.payload with
      | error exc =>
          rw [made] at isPrepared
          cases isPrepared
      | ok other =>
          rw [made] at isPrepared
          cases isPrepared
          have isMessage := ((make_eq_ok_iff _ _ _ _ _ _).mp made).2
          simp only [AgentRegistry.addresses, bind_eq_ok_iff] at found
          rcases found with
            ⟨url, _, own, isOwn, peer, isPeer, same⟩
          cases same
          refine ⟨isOwn, isPeer, ?_, ?_, ?_⟩
          · rw [isMessage]
          · rw [isMessage]
          · rw [isMessage]

/-- The event of a message that was delivered. -/
structure EventOf (tables : CharacterTables) (call : SendCall)
    (event : AxlEvent) : Prop where
  sender : event.sender = call.sender.value
  receiver : event.receiver = call.receiver.value
  messageType : event.messageType = call.messageType.value
  summary : summarise tables call.payload call.messageType =
    .ok event.summary

/-- What comes out of the exchange, and what is recorded of it. -/
theorem AxlBus.concluded_cases (bus : AxlBus) (tables : CharacterTables)
    (call : SendCall) (message : SwarmMessage)
    (exchanged : Except Exception Unit) (ts : String) :
    (∃ event, (bus.concluded tables call message exchanged ts).1 =
        .ok (some event) ∧
      (bus.concluded tables call message exchanged ts).2 =
        bus.record event ∧ EventOf tables call event) ∨
      ((bus.concluded tables call message exchanged ts).1.toOption.join =
          none ∧
        (bus.concluded tables call message exchanged ts).2.axlEvents =
            bus.axlEvents ∧
          (bus.concluded tables call message exchanged ts).2.registry =
            bus.registry) := by
  cases exchanged with
  | error exc => exact Or.inr ⟨rfl, rfl, rfl⟩
  | ok _ =>
      simp only [AxlBus.concluded, AxlBus.exchanged]
      cases summary : summarise tables call.payload call.messageType with
      | error exc => exact Or.inr ⟨rfl, rfl, rfl⟩
      | ok text => exact Or.inl ⟨_, rfl, rfl, rfl, rfl, rfl, summary⟩

theorem AxlBus.bootstrapped_cases (bus : AxlBus)
    (told : Except Exception (AgentRole → String)) :
    (told.isOk = false ∧ bus.bootstrapped told = (none, bus)) ∨
      ∃ keys, told = .ok keys ∧
        (bus.bootstrapped told).2 =
          { bus with registry := some (AgentRegistry.ofKeys keys) } ∧
        ((bus.bootstrapped told).1 = none ∨
          (bus.bootstrapped told).1 = some (AgentRegistry.ofKeys keys)) := by
  cases told with
  | error exc => exact Or.inl ⟨rfl, rfl⟩
  | ok keys =>
      refine Or.inr ⟨keys, rfl, ?_⟩
      simp only [AxlBus.bootstrapped]
      cases (AgentRegistry.ofKeys keys).pubkeyFor .researcher with
      | error exc => exact ⟨rfl, Or.inl rfl⟩
      | ok key => exact ⟨rfl, Or.inr rfl⟩

theorem AxlBus.registry_concluded (bus : AxlBus) (tables : CharacterTables)
    (call : SendCall) (message : SwarmMessage)
    (exchanged : Except Exception Unit) (ts : String) :
    (bus.concluded tables call message exchanged ts).2.registry =
      bus.registry := by
  rcases bus.concluded_cases tables call message exchanged ts with
    ⟨event, _, isRecord, _⟩ | ⟨_, _, same⟩
  · rw [isRecord]
    rfl
  · exact same

theorem AxlBus.axlEvents_bootstrapped (bus : AxlBus)
    (told : Except Exception (AgentRole → String)) :
    (bus.bootstrapped told).2.axlEvents = bus.axlEvents := by
  rcases bus.bootstrapped_cases told with ⟨_, same⟩ | ⟨keys, _, kept, _⟩
  · rw [same]
  · rw [kept]

/-- A prepared call neither holds the lock nor has returned an event. -/
theorem SendCall.prepared_cases (call : SendCall) (registry : AgentRegistry)
    (stamp : Stamp) :
    (∃ outcome, call.prepared registry stamp = .ended outcome ∧
        outcome.toOption.join = none) ∨
      ∃ addresses message,
        call.prepared registry stamp = .exchanging addresses message := by
  rw [SendCall.prepared]
  cases registry.addresses call.sender call.receiver with
  | error exc => exact Or.inl ⟨_, rfl, rfl⟩
  | ok addresses =>
      dsimp only
      cases SwarmMessage.make stamp call.messageType call.sender
          addresses.senderPubkey call.payload with
      | error exc => exact Or.inl ⟨_, rfl, rfl⟩
      | ok message => exact Or.inr ⟨addresses, message, rfl⟩

end Parts

/-! ## One item of a list is replaced -/

section Replaced

variable {α β : Type} {items : List α} {index : Nat} {before : α}

theorem filterMap_set_perm {f : α → Option β} (after : α)
    (found : items[index]? = some before) (nothing : f before = none) :
    ((items.set index after).filterMap f).Perm
      (items.filterMap f ++ (f after).toList) := by
  rcases List.getElem?_eq_some_iff.mp found with ⟨within, isBefore⟩
  have whole : items.take index ++ before :: items.drop (index + 1) =
      items := by
    rw [← isBefore, List.cons_getElem_drop_succ, List.take_append_drop]
  rw [List.set_eq_take_append_cons_drop, if_pos within]
  conv_rhs => rw [← whole]
  rw [List.filterMap_append, List.filterMap_append,
    List.filterMap_cons_none nothing, List.append_assoc]
  refine List.Perm.append_left _ ?_
  cases got : f after with
  | none =>
      rw [List.filterMap_cons_none got]
      exact List.Perm.of_eq (List.append_nil _).symm
  | some value =>
      rw [List.filterMap_cons_some got]
      exact (List.perm_append_singleton value _).symm

theorem countP_set_add {p : α → Bool} (after : α)
    (found : items[index]? = some before) :
    (items.set index after).countP p + (if p before then 1 else 0) =
      items.countP p + if p after then 1 else 0 := by
  rcases List.getElem?_eq_some_iff.mp found with ⟨within, isBefore⟩
  rw [List.countP_set within, isBefore]
  by_cases counted : p before = true
  · have positive : 0 < items.countP p :=
      List.countP_pos_iff.mpr ⟨before, List.mem_of_getElem? found, counted⟩
    rw [if_pos counted]
    omega
  · rw [if_neg counted]
    omega

end Replaced

/-! ## What every move preserves -/

/-- The state of the bus after the moves `made`. -/
structure BusyBus.Keeps (tables : CharacterTables) (made : List BusMove)
    (busy : BusyBus) : Prop where
  reached : busy = runMoves (BusyBus.next tables) .idle made
  events : busy.bus.axlEvents = (deliveredIn tables made).rtake axlEventsMax
  returned : (busy.calls.filterMap SendCall.returned?).Perm
    (deliveredIn tables made)
  lock : busy.calls.countP SendCall.isBootstrapping ≤ 1
  registry : (busy.bus.registry = none ∧
      made.countP BusMove.bootstraps = 0) ∨
    ∃ keys, busy.bus.registry = some (AgentRegistry.ofKeys keys) ∧
      made.countP BusMove.bootstraps = 1 ∧
        busy.calls.countP SendCall.isBootstrapping = 0 ∧
          ∃ index stamp, .bootstrapped index (.ok keys) stamp ∈ made
  addressed : ∀ call ∈ busy.calls, ∀ addresses message,
    call.sending = .exchanging addresses message →
      ∃ registry, busy.bus.registry = some registry ∧
        AddressedBy registry call addresses message
  shown : ∀ call ∈ busy.calls, ∀ event, call.returned? = some event →
    EventOf tables call event

section Preservation

variable {tables : CharacterTables} {made : List BusMove} {busy : BusyBus}

theorem BusyBus.Keeps.delivered_snoc (keeps : busy.Keeps tables made)
    (move : BusMove) :
    deliveredIn tables (made ++ [move]) =
      deliveredIn tables made ++ (busy.recorded tables move).toList := by
  rw [deliveredIn, recordsOf_snoc, ← keeps.reached]
  rfl

theorem BusyBus.Keeps.reached_snoc (keeps : busy.Keeps tables made)
    (move : BusMove) :
    busy.next tables move =
      runMoves (BusyBus.next tables) .idle (made ++ [move]) := by
  rw [runMoves_snoc, ← keeps.reached]

theorem BusyBus.Keeps.call (keeps : busy.Keeps tables made)
    (sender receiver : AgentRole) (messageType : MessageType)
    (payload : Dict) :
    (busy.next tables (.call sender receiver messageType payload)).Keeps
      tables (made ++ [.call sender receiver messageType payload]) := by
  have none : deliveredIn tables
      (made ++ [.call sender receiver messageType payload]) =
        deliveredIn tables made := by
    rw [keeps.delivered_snoc]
    exact List.append_nil _
  have sameCount : (made ++ [BusMove.call sender receiver messageType
      payload]).countP BusMove.bootstraps =
        made.countP BusMove.bootstraps := by
    rw [List.countP_append]
    rfl
  have notHeld : (busy.calls ++
      [SendCall.mk sender receiver messageType payload .waiting]).countP
        SendCall.isBootstrapping =
      busy.calls.countP SendCall.isBootstrapping := by
    rw [List.countP_append]
    rfl
  refine ⟨keeps.reached_snoc _, ?_, ?_, ?_, ?_, ?_, ?_⟩
  · rw [none]
    exact keeps.events
  · rw [none, BusyBus.next, List.filterMap_append]
    refine List.Perm.trans (List.Perm.of_eq ?_) keeps.returned
    exact List.append_nil _
  · exact notHeld.trans_le keeps.lock
  · rcases keeps.registry with unknown | ⟨keys, known, once, free, told⟩
    · exact Or.inl ⟨unknown.1, sameCount.trans unknown.2⟩
    · rcases told with ⟨index, stamp, member⟩
      exact Or.inr ⟨keys, known, sameCount.trans once, notHeld.trans free,
        index, stamp, List.mem_append_left _ member⟩
  · intro call member addresses message exchanging
    rcases List.mem_append.mp member with before | new
    · exact keeps.addressed call before addresses message exchanging
    · rw [List.mem_singleton.mp new] at exchanging
      cases exchanging
  · intro call member event isReturned
    rcases List.mem_append.mp member with before | new
    · exact keeps.shown call before event isReturned
    · rw [List.mem_singleton.mp new] at isReturned
      cases isReturned

/-- The events after a move that records what it returns. -/
theorem BusyBus.Keeps.events_snoc (keeps : busy.Keeps tables made)
    {move : BusMove} {bus : AxlBus}
    (kept : (busy.recorded tables move = none ∧
        bus.axlEvents = busy.bus.axlEvents) ∨
      ∃ event, busy.recorded tables move = some event ∧
        bus = busy.bus.record event) :
    bus.axlEvents =
      (deliveredIn tables (made ++ [move])).rtake axlEventsMax := by
  rw [keeps.delivered_snoc]
  rcases kept with ⟨nothing, same⟩ | ⟨event, recorded, isRecord⟩
  · rw [nothing, same, keeps.events, Option.toList_none, List.append_nil]
  · rw [recorded, isRecord, ← List.rtake_rtake_append, ← keeps.events]
    rfl

section Placed

variable {index : Nat} {call : SendCall} {sending : Sending}
  {move : BusMove}

theorem BusyBus.Keeps.returned_placed (keeps : busy.Keeps tables made)
    (found : busy.calls[index]? = some call)
    (pending : call.returned? = none)
    (recorded : busy.recorded tables move =
      SendCall.returned? { call with sending := sending }) :
    ((busy.calls.set index { call with sending := sending }).filterMap
      SendCall.returned?).Perm (deliveredIn tables (made ++ [move])) := by
  rw [keeps.delivered_snoc, recorded]
  exact (filterMap_set_perm _ found pending).trans
    (keeps.returned.append_right _)

theorem BusyBus.Keeps.shown_placed (keeps : busy.Keeps tables made)
    (shows : ∀ event,
      SendCall.returned? { call with sending := sending } = some event →
        EventOf tables call event) :
    ∀ other ∈ busy.calls.set index { call with sending := sending },
      ∀ event, other.returned? = some event →
        EventOf tables other event := by
  intro other member event isReturned
  rcases List.mem_or_eq_of_mem_set member with before | new
  · exact keeps.shown other before event isReturned
  · subst new
    have shown := shows event isReturned
    exact ⟨shown.sender, shown.receiver, shown.messageType, shown.summary⟩

theorem BusyBus.Keeps.addressed_placed {bus : AxlBus}
    (keeps : busy.Keeps tables made)
    (same : bus.registry = busy.bus.registry)
    (addressed : ∀ addresses message,
      sending = .exchanging addresses message →
        ∃ registry, bus.registry = some registry ∧
          AddressedBy registry call addresses message) :
    ∀ other ∈ busy.calls.set index { call with sending := sending },
      ∀ addresses message, other.sending = .exchanging addresses message →
        ∃ registry, bus.registry = some registry ∧
          AddressedBy registry other addresses message := by
  intro other member addresses message exchanging
  rcases List.mem_or_eq_of_mem_set member with before | new
  · rw [same]
    exact keeps.addressed other before addresses message exchanging
  · subst new
    rcases addressed addresses message exchanging with
      ⟨registry, known, by_⟩
    exact ⟨registry, known, by_.sender, by_.receiver, by_.signed,
      by_.messageType, by_.payload⟩

end Placed

/-- What a prepared call is recorded as and how it is addressed. -/
theorem SendCall.returned_prepared (call : SendCall)
    (registry : AgentRegistry) (stamp : Stamp) :
    SendCall.returned?
        { call with sending := call.prepared registry stamp } = none ∧
      SendCall.isBootstrapping
        { call with sending := call.prepared registry stamp } = false := by
  rcases call.prepared_cases registry stamp with
    ⟨outcome, isEnded, nothing⟩ | ⟨addresses, message, isSent⟩
  · rw [isEnded]
    refine ⟨?_, rfl⟩
    cases outcome with
    | error exc => rfl
    | ok event => exact nothing
  · rw [isSent]
    exact ⟨rfl, rfl⟩

theorem BusyBus.Keeps.enter {index : Nat} {stamp : Stamp}
    (keeps : busy.Keeps tables made)
    (possible : busy.Possible (.enter index stamp)) :
    (busy.next tables (.enter index stamp)).Keeps tables
      (made ++ [.enter index stamp]) := by
  rcases possible with ⟨waits, free⟩
  rcases (Option.any_eq_true _ _).mp waits with ⟨call, found, waiting⟩
  have isWaiting : call.sending = .waiting := by
    cases standing : call.sending with
    | waiting => rfl
    | _ =>
        rw [standing] at waiting
        cases waiting
  have pending : call.returned? = none := by
    rw [SendCall.returned?, isWaiting]
  have notHolding : call.isBootstrapping = false := by
    rw [SendCall.isBootstrapping, isWaiting]
    rfl
  have moved : busy.next tables (.enter index stamp) =
      busy.place index call busy.bus (busy.entered call stamp) := by
    rw [BusyBus.next, found]
  have sameCount : (made ++ [BusMove.enter index stamp]).countP
      BusMove.bootstraps = made.countP BusMove.bootstraps := by
    rw [List.countP_append]
    rfl
  have counted := countP_set_add (p := SendCall.isBootstrapping)
    { call with sending := busy.entered call stamp } found
  rw [notHolding, free, if_neg Bool.false_ne_true] at counted
  have silent : SendCall.returned?
      { call with sending := busy.entered call stamp } = none := by
    rw [BusyBus.entered]
    cases busy.bus.registry with
    | none => rfl
    | some registry => exact (call.returned_prepared registry stamp).1
  rw [moved]
  refine ⟨moved ▸ keeps.reached_snoc _, ?_, ?_, ?_, ?_, ?_, ?_⟩
  · exact keeps.events_snoc (Or.inl ⟨rfl, rfl⟩)
  · exact keeps.returned_placed found pending silent.symm
  · have one : (if SendCall.isBootstrapping
        { call with sending := busy.entered call stamp } = true then 1
          else 0) ≤ 1 := by
      split <;> decide
    exact counted.trans_le ((Nat.zero_add _).trans_le one)
  · rcases keeps.registry with unknown | ⟨keys, known, once, _, told⟩
    · exact Or.inl ⟨unknown.1, sameCount.trans unknown.2⟩
    · rcases told with ⟨before, heard, member⟩
      have released : SendCall.isBootstrapping
          { call with sending := busy.entered call stamp } = false := by
        rw [BusyBus.entered, known]
        exact (call.returned_prepared _ stamp).2
      rw [released, if_neg Bool.false_ne_true] at counted
      exact Or.inr ⟨keys, known, sameCount.trans once, counted, before,
        heard, List.mem_append_left _ member⟩
  · refine keeps.addressed_placed rfl ?_
    intro addresses message exchanging
    cases known : busy.bus.registry with
    | none =>
        rw [BusyBus.entered, known] at exchanging
        cases exchanging
    | some registry =>
        rw [BusyBus.entered, known] at exchanging
        exact ⟨registry, known, SendCall.addressed_of_prepared exchanging⟩
  · refine keeps.shown_placed ?_
    intro event isReturned
    rw [silent] at isReturned
    cases isReturned

/-- A bootstrap that is under way is the only one, and there has been none
before. -/
theorem BusyBus.Keeps.unknown_of_bootstrapping {index : Nat}
    {call : SendCall} (keeps : busy.Keeps tables made)
    (found : busy.calls[index]? = some call)
    (holding : call.isBootstrapping = true) :
    busy.bus.registry = none ∧ made.countP BusMove.bootstraps = 0 := by
  rcases keeps.registry with unknown | ⟨_, _, _, free, _⟩
  · exact unknown
  · have positive : 0 < busy.calls.countP SendCall.isBootstrapping :=
      List.countP_pos_iff.mpr ⟨call, List.mem_of_getElem? found, holding⟩
    omega

theorem BusyBus.Keeps.bootstrapped {index : Nat} {stamp : Stamp}
    {told : Except Exception (AgentRole → String)}
    (keeps : busy.Keeps tables made)
    (possible : busy.Possible (.bootstrapped index told stamp)) :
    (busy.next tables (.bootstrapped index told stamp)).Keeps tables
      (made ++ [.bootstrapped index told stamp]) := by
  rcases (Option.any_eq_true _ _).mp possible with ⟨call, found, holding⟩
  rcases keeps.unknown_of_bootstrapping found holding with
    ⟨unknown, noneYet⟩
  have isHolding : call.sending = .bootstrapping := by
    rw [SendCall.isBootstrapping] at holding
    cases standing : call.sending with
    | bootstrapping => rfl
    | _ =>
        rw [standing] at holding
        cases holding
  have pending : call.returned? = none := by
    rw [SendCall.returned?, isHolding]
  have moved : busy.next tables (.bootstrapped index told stamp) =
      busy.place index call (busy.bus.bootstrapped told).2
        (BusyBus.told call (busy.bus.bootstrapped told).1 stamp) := by
    rw [BusyBus.next, found]
  have released : SendCall.returned? { call with
        sending := BusyBus.told call (busy.bus.bootstrapped told).1 stamp } =
          none ∧
      SendCall.isBootstrapping { call with
        sending := BusyBus.told call (busy.bus.bootstrapped told).1 stamp } =
          false := by
    cases (busy.bus.bootstrapped told).1 with
    | none => exact ⟨rfl, rfl⟩
    | some registry => exact call.returned_prepared registry stamp
  have sameEvents := busy.bus.axlEvents_bootstrapped told
  have noOther : ∀ other ∈ busy.calls, ∀ addresses message,
      other.sending ≠ .exchanging addresses message := by
    intro other member addresses message exchanging
    rcases keeps.addressed other member addresses message exchanging with
      ⟨registry, known, _⟩
    rw [unknown] at known
    cases known
  have counted := countP_set_add (p := SendCall.isBootstrapping)
    { call with
      sending := BusyBus.told call (busy.bus.bootstrapped told).1 stamp }
    found
  rw [holding, released.2, if_pos rfl, if_neg Bool.false_ne_true] at counted
  have free : (busy.calls.set index { call with
      sending := BusyBus.told call (busy.bus.bootstrapped told).1
        stamp }).countP SendCall.isBootstrapping = 0 := by
    have held := keeps.lock
    omega
  rw [moved]
  refine ⟨moved ▸ keeps.reached_snoc _, ?_, ?_, ?_, ?_, ?_, ?_⟩
  · exact keeps.events_snoc (Or.inl ⟨rfl, sameEvents⟩)
  · exact keeps.returned_placed found pending released.1.symm
  · exact free.trans_le (Nat.zero_le 1)
  · rw [List.countP_append, noneYet, Nat.zero_add]
    rcases busy.bus.bootstrapped_cases told with
      ⟨failed, same⟩ | ⟨keys, isTold, kept, _⟩
    · refine Or.inl ⟨?_, ?_⟩
      · rw [BusyBus.place, same]
        exact unknown
      · rw [List.countP_singleton, BusMove.bootstraps, failed]
        rfl
    · subst isTold
      refine Or.inr ⟨keys, ?_, rfl, free, index, stamp, ?_⟩
      · rw [BusyBus.place, kept]
      · exact List.mem_append_right _ List.mem_cons_self
  · intro other member addresses message exchanging
    rcases List.mem_or_eq_of_mem_set member with before | new
    · exact absurd exchanging (noOther other before addresses message)
    · subst new
      rcases busy.bus.bootstrapped_cases told with
        ⟨_, same⟩ | ⟨keys, _, kept, known⟩
      · rw [same] at exchanging
        cases exchanging
      · rcases known with nothing | known
        · rw [nothing] at exchanging
          cases exchanging
        · rw [known] at exchanging
          have by_ := SendCall.addressed_of_prepared exchanging
          refine ⟨AgentRegistry.ofKeys keys, ?_, by_.sender, by_.receiver,
            by_.signed, by_.messageType, by_.payload⟩
          rw [BusyBus.place, kept]
  · refine keeps.shown_placed ?_
    intro event isReturned
    rw [released.1] at isReturned
    cases isReturned

theorem BusyBus.Keeps.exchanged {index : Nat} {ts : String}
    {outcome : Except Exception Unit}
    (keeps : busy.Keeps tables made)
    (possible : busy.Possible (.exchanged index outcome ts)) :
    (busy.next tables (.exchanged index outcome ts)).Keeps tables
      (made ++ [.exchanged index outcome ts]) := by
  rcases (Option.any_eq_true _ _).mp possible with ⟨call, found, sends⟩
  rcases Option.isSome_iff_exists.mp sends with ⟨message, isSent⟩
  have standing : ∃ addresses,
      call.sending = .exchanging addresses message := by
    rw [SendCall.sent?] at isSent
    cases standing : call.sending with
    | exchanging addresses other =>
        rw [standing] at isSent
        cases isSent
        exact ⟨addresses, rfl⟩
    | _ =>
        rw [standing] at isSent
        cases isSent
  rcases standing with ⟨addresses, isExchanging⟩
  have pending : call.returned? = none := by
    rw [SendCall.returned?, isExchanging]
  have notHolding : call.isBootstrapping = false := by
    rw [SendCall.isBootstrapping, isExchanging]
    rfl
  rcases keeps.addressed call (List.mem_of_getElem? found) addresses message
    isExchanging with ⟨registry, isKnown, _⟩
  have answer : busy.answered tables index outcome ts =
      some (call, busy.bus.concluded tables call message outcome ts) := by
    rw [BusyBus.answered, found]
    show (call.sent?).bind _ = _
    rw [isSent]
    rfl
  have moved : busy.next tables (.exchanged index outcome ts) =
      busy.place index call
        (busy.bus.concluded tables call message outcome ts).2
        (.ended (busy.bus.concluded tables call message outcome ts).1) := by
    rw [BusyBus.next, answer]
  have recorded : busy.recorded tables (.exchanged index outcome ts) =
      SendCall.returned? { call with
        sending := .ended
          (busy.bus.concluded tables call message outcome ts).1 } := by
    rw [BusyBus.recorded, answer]
    show (busy.bus.concluded tables call message outcome
      ts).1.toOption.join = _
    cases (busy.bus.concluded tables call message outcome ts).1 <;> rfl
  have counted := countP_set_add (p := SendCall.isBootstrapping)
    { call with
      sending := .ended
        (busy.bus.concluded tables call message outcome ts).1 } found
  rw [notHolding, if_neg Bool.false_ne_true] at counted
  have sameCount : (made ++ [BusMove.exchanged index outcome ts]).countP
      BusMove.bootstraps = made.countP BusMove.bootstraps := by
    rw [List.countP_append]
    rfl
  have ends := busy.bus.concluded_cases tables call message outcome ts
  have sameRegistry :=
    busy.bus.registry_concluded tables call message outcome ts
  rw [moved]
  refine ⟨moved ▸ keeps.reached_snoc _, ?_, ?_, ?_, ?_, ?_, ?_⟩
  · refine keeps.events_snoc ?_
    rw [recorded]
    rcases ends with ⟨event, isEvent, isRecord, _⟩ | ⟨nothing, same, _⟩
    · refine Or.inr ⟨event, ?_, isRecord⟩
      rw [isEvent]
      rfl
    · refine Or.inl ⟨?_, same⟩
      revert nothing
      cases (busy.bus.concluded tables call message outcome ts).1 with
      | error exc => exact fun _ => rfl
      | ok event => exact fun isNone => isNone
  · exact keeps.returned_placed found pending recorded
  · exact counted.trans_le keeps.lock
  · rcases keeps.registry with unknown | ⟨keys, known, once, free, told⟩
    · rw [unknown.1] at isKnown
      cases isKnown
    · rcases told with ⟨before, heard, member⟩
      exact Or.inr ⟨keys, sameRegistry.trans known, sameCount.trans once,
        counted.trans free, before, heard, List.mem_append_left _ member⟩
  · refine keeps.addressed_placed sameRegistry ?_
    intro other letter exchanging
    cases exchanging
  · refine keeps.shown_placed ?_
    intro event isReturned
    rcases ends with ⟨shown, isEvent, _, isOf⟩ | ⟨nothing, _, _⟩
    · rw [isEvent] at isReturned
      cases isReturned
      exact isOf
    · have none : busy.recorded tables (.exchanged index outcome ts) =
          none := by
        rw [BusyBus.recorded, answer]
        exact nothing
      rw [← recorded, none] at isReturned
      cases isReturned

theorem BusyBus.Keeps.next {move : BusMove} (keeps : busy.Keeps tables made)
    (possible : busy.Possible move) :
    (busy.next tables move).Keeps tables (made ++ [move]) := by
  cases move with
  | call sender receiver messageType payload =>
      exact keeps.call sender receiver messageType payload
  | enter index stamp => exact keeps.enter possible
  | bootstrapped index told stamp => exact keeps.bootstrapped possible
  | exchanged index outcome ts => exact keeps.exchanged possible

theorem BusyBus.Keeps.idle : BusyBus.idle.Keeps tables [] where
  reached := rfl
  events := rfl
  returned := List.Perm.refl _
  lock := Nat.zero_le 1
  registry := Or.inl ⟨rfl, rfl⟩
  addressed := by
    intro call member
    cases member
  shown := by
    intro call member
    cases member

end Preservation

/-! ## A call that nothing interrupts -/

section Alone

variable (tables : CharacterTables) (network : Network)
  (calls : List SendCall) (bus : AxlBus)

/-- The newest call and all others. -/
def BusyBus.withCall (call : SendCall) : BusyBus where
  bus := bus
  calls := calls ++ [call]

theorem BusyBus.getElem?_withCall (call : SendCall) :
    (BusyBus.withCall calls bus call).calls[calls.length]? = some call :=
  List.getElem?_concat_length

theorem BusyBus.place_withCall (call : SendCall) (after : AxlBus)
    (sending : Sending) :
    (BusyBus.withCall calls bus call).place calls.length call after sending =
      BusyBus.withCall calls after { call with sending := sending } := by
  rw [BusyBus.place, BusyBus.withCall, BusyBus.withCall]
  congr 1
  rw [List.set_append_right _ _ (Nat.le_refl _), Nat.sub_self]
  rfl

/-- With a registry at hand the call ends like `sendFrom`. -/
theorem sendFrom_reached (registry : AgentRegistry) (call : SendCall) :
    ∃ moves,
      Meets (BusyBus.next tables) BusyBus.Possible
          (.withCall calls bus { call with
            sending := call.prepared registry network.stamp }) moves ∧
        runMoves (BusyBus.next tables)
            (.withCall calls bus { call with
              sending := call.prepared registry network.stamp }) moves =
          .withCall calls
            (bus.sendFrom tables network registry call.sender call.receiver
              call.messageType call.payload).2
            { call with
              sending := .ended (bus.sendFrom tables network registry
                call.sender call.receiver call.messageType
                call.payload).1 } := by
  rw [SendCall.prepared, AxlBus.sendFrom]
  cases registry.addresses call.sender call.receiver with
  | error exc => exact ⟨[], trivial, rfl⟩
  | ok addresses =>
      dsimp only
      cases SwarmMessage.make network.stamp call.messageType call.sender
          addresses.senderPubkey call.payload with
      | error exc => exact ⟨[], trivial, rfl⟩
      | ok message =>
          dsimp only
          generalize network.exchange addresses.senderUrl call.sender.value
            addresses.destPubkey message = outcome
          refine ⟨[.exchanged calls.length outcome network.ts], ?_, ?_⟩
          · refine ⟨?_, trivial⟩
            rw [BusyBus.Possible, BusyBus.getElem?_withCall]
            rfl
          · have answer : (BusyBus.withCall calls bus { call with
                sending := .exchanging addresses message }).answered tables
                  calls.length outcome network.ts =
                some ({ call with sending := .exchanging addresses message },
                  bus.concluded tables call message outcome
                    network.ts) := by
              rw [BusyBus.answered, BusyBus.getElem?_withCall]
              cases outcome <;> rfl
            rw [runMoves_cons, BusyBus.next, answer]
            dsimp only
            rw [BusyBus.place_withCall]
            rfl

theorem AxlBus.getRegistry_of_none (unknown : bus.registry = none) :
    bus.getRegistry network = bus.bootstrapped network.bootstrap := by
  rw [AxlBus.getRegistry, unknown]

/-- A call that enters the lock alone goes on to its end. -/
theorem entered_reached (call : SendCall) :
    ∃ moves,
      Meets (BusyBus.next tables) BusyBus.Possible
          (.withCall calls bus { call with
            sending := BusyBus.entered ⟨bus, calls⟩ call network.stamp })
          moves ∧
        runMoves (BusyBus.next tables)
            (.withCall calls bus { call with
              sending := BusyBus.entered ⟨bus, calls⟩ call network.stamp })
            moves =
          .withCall calls
            (bus.send tables network call.sender call.receiver
              call.messageType call.payload).2
            { call with
              sending := .ended (bus.send tables network call.sender
                call.receiver call.messageType call.payload).1 } := by
  cases known : bus.registry with
  | some registry =>
      have here : bus.getRegistry network = (some registry, bus) := by
        rw [AxlBus.getRegistry, known]
      rw [BusyBus.entered, known, AxlBus.send, here]
      exact sendFrom_reached tables network calls bus registry call
  | none =>
      rw [BusyBus.entered, known, AxlBus.send,
        AxlBus.getRegistry_of_none network bus known]
      have moved : (BusyBus.withCall calls bus { call with
          sending := .bootstrapping }).next tables
            (.bootstrapped calls.length network.bootstrap network.stamp) =
          .withCall calls (bus.bootstrapped network.bootstrap).2 { call with
            sending := BusyBus.told call
              (bus.bootstrapped network.bootstrap).1 network.stamp } := by
        have same : ∀ registry, BusyBus.told { call with
            sending := .bootstrapping } registry network.stamp =
              BusyBus.told call registry network.stamp := by
          intro registry
          cases registry <;> rfl
        rw [BusyBus.next, BusyBus.getElem?_withCall]
        dsimp only
        rw [BusyBus.place_withCall, same]
        rfl
      have possible : (BusyBus.withCall calls bus { call with
          sending := .bootstrapping }).Possible
            (.bootstrapped calls.length network.bootstrap
              network.stamp) := by
        rw [BusyBus.Possible, BusyBus.getElem?_withCall]
        rfl
      rcases isKept : bus.bootstrapped network.bootstrap with
        ⟨registry, kept⟩
      rw [isKept] at moved
      cases registry with
      | none =>
          refine ⟨[_], ⟨possible, trivial⟩, ?_⟩
          rw [runMoves_cons, moved]
          rfl
      | some registry =>
          rcases sendFrom_reached tables network calls kept registry call with
            ⟨moves, met, reached⟩
          refine ⟨_ :: moves, ⟨possible, ?_⟩, ?_⟩
          · rw [moved]
            exact met
          · rw [runMoves_cons, moved]
            exact reached

/-- `send` is what a call comes to that nothing interrupts. -/
theorem send_reached (sender receiver : AgentRole)
    (messageType : MessageType) (payload : Dict)
    (free : calls.countP SendCall.isBootstrapping = 0) :
    ∃ moves,
      Meets (BusyBus.next tables) BusyBus.Possible ⟨bus, calls⟩ moves ∧
        runMoves (BusyBus.next tables) ⟨bus, calls⟩ moves =
          .withCall calls
            (bus.send tables network sender receiver messageType payload).2
            ⟨sender, receiver, messageType, payload,
              .ended (bus.send tables network sender receiver messageType
                payload).1⟩ := by
  let call : SendCall := ⟨sender, receiver, messageType, payload, .waiting⟩
  rcases entered_reached tables network calls bus call with
    ⟨moves, met, reached⟩
  have entered : (BusyBus.withCall calls bus call).next tables
      (.enter calls.length network.stamp) =
        .withCall calls bus { call with
          sending := BusyBus.entered ⟨bus, calls⟩ call network.stamp } := by
    rw [BusyBus.next, BusyBus.getElem?_withCall]
    dsimp only
    rw [BusyBus.place_withCall]
    rfl
  have possible : (BusyBus.withCall calls bus call).Possible
      (.enter calls.length network.stamp) := by
    rw [BusyBus.Possible, BusyBus.getElem?_withCall, BusyBus.withCall,
      List.countP_append, free]
    exact ⟨rfl, rfl⟩
  refine ⟨.call sender receiver messageType payload ::
    .enter calls.length network.stamp :: moves,
    ⟨trivial, possible, ?_⟩, ?_⟩
  · rw [← entered] at met
    exact met
  · rw [← entered] at reached
    exact reached

end Alone

/-! ## Whole runs -/

theorem pubkeyFor_ofKeys {keys : AgentRole → String} {role : AgentRole}
    {key : String}
    (found : (AgentRegistry.ofKeys keys).pubkeyFor role = .ok key) :
    key = keys role := by
  simp only [AgentRegistry.pubkeyFor, AgentRegistry.ofKeys, if_true] at found
  by_cases isEmpty : keys role = ""
  · rw [if_pos isEmpty] at found
    cases found
  · rw [if_neg isEmpty] at found
    cases found
    rfl

/-- The bus after the moves of a run. -/
def BusyBus.after (tables : CharacterTables) (moves : List BusMove) :
    BusyBus :=
  runMoves (BusyBus.next tables) .idle moves

/-- However the calls overlap: the registry is bootstrapped once, by one call
at a time; every message goes from the key of its sender to that of its
receiver, as that bootstrap has told them; each message that is delivered is
shown once and returned by one call; and the dashboard sees the newest. -/
theorem bus_in_every_interleaving
    {tables : CharacterTables} {moves : List BusMove}
    (met : Meets (BusyBus.next tables) BusyBus.Possible .idle moves) :
    moves.countP BusMove.bootstraps ≤ 1 ∧
      (BusyBus.after tables moves).calls.countP
          SendCall.isBootstrapping ≤ 1 ∧
      (∀ call ∈ (BusyBus.after tables moves).calls, ∀ addresses message,
        call.sending = .exchanging addresses message →
          ∃ keys index stamp, .bootstrapped index (.ok keys) stamp ∈ moves ∧
            addresses.senderPubkey = keys call.sender ∧
            addresses.destPubkey = keys call.receiver ∧
            message.senderPubkey = lower (keys call.sender) ∧
            message.messageType = call.messageType ∧
            message.payload = call.payload) ∧
      ((BusyBus.after tables moves).calls.filterMap
          SendCall.returned?).Perm (deliveredIn tables moves) ∧
      (∀ call ∈ (BusyBus.after tables moves).calls, ∀ event,
        call.returned? = some event → EventOf tables call event) ∧
      ∀ limit : Nat, 0 < limit → limit ≤ axlEventsMax →
        (BusyBus.after tables moves).bus.recentEvents limit =
          (deliveredIn tables moves).rtake limit := by
  have keeps : (BusyBus.after tables moves).Keeps tables moves :=
    met.history (fun _ _ _ possible keeps => keeps.next possible)
      BusyBus.Keeps.idle
  refine ⟨?_, keeps.lock, ?_, keeps.returned, keeps.shown, ?_⟩
  · rcases keeps.registry with ⟨_, never⟩ | ⟨_, _, once, _⟩
    · omega
    · omega
  · intro call member addresses message exchanging
    rcases keeps.addressed call member addresses message exchanging with
      ⟨registry, isKnown, by_⟩
    rcases keeps.registry with ⟨unknown, _⟩ | ⟨keys, known, _, _, told⟩
    · rw [unknown] at isKnown
      cases isKnown
    · rw [known] at isKnown
      cases isKnown
      rcases told with ⟨index, stamp, isTold⟩
      have own := pubkeyFor_ofKeys by_.sender
      exact ⟨keys, index, stamp, isTold, own,
        pubkeyFor_ofKeys by_.receiver, own ▸ by_.signed, by_.messageType,
        by_.payload⟩
  · intro limit positive within
    rw [AxlBus.recentEvents, if_pos (Int.natCast_pos.mpr positive),
      keeps.events, Int.toNat_natCast, List.rtake_rtake _ within]

/-- A key of 64 digits for each role. -/
def nodeKey (role : AgentRole) : String :=
  String.ofList (List.replicate 64
    (match role with
    | .researcher => 'a'
    | .risk => 'b'
    | .executor => 'c'))

/-- A cycle whose second message overtakes the first one, which has
bootstrapped the registry for both. -/
def overtaking : List BusMove :=
  [.call .risk .executor .tradeDecision [("action", .str "hold")],
    .enter 0 ⟨"m0", "2025-01-01T00:00:00Z"⟩,
    .call .executor .researcher .executionResult [("status", .str "failed")],
    .bootstrapped 0 (.ok nodeKey) ⟨"m0", "2025-01-01T00:00:00Z"⟩,
    .enter 1 ⟨"m1", "2025-01-01T00:00:01Z"⟩,
    .exchanged 1 (.ok ()) "2025-01-01T00:00:02Z",
    .exchanged 0 (.ok ()) "2025-01-01T00:00:03Z"]

theorem bus_in_every_interleaving_overtaking :
    ((BusyBus.after asciiTables overtaking).bus.recentEvents 20).map
        AxlEvent.messageId = ["m1", "m0"] := by
  have met : Meets (BusyBus.next asciiTables) BusyBus.Possible .idle
      overtaking := by
    decide +kernel
  have delivered : ((deliveredIn asciiTables overtaking).rtake 20).map
      AxlEvent.messageId = ["m1", "m0"] := by
    decide +kernel
  rcases @bus_in_every_interleaving asciiTables overtaking met with
    ⟨_, _, _, _, _, shown⟩
  have newest := shown 20 (by decide) (by decide)
  exact (congrArg (List.map AxlEvent.messageId) newest).trans delivered

end SwarmFi.Core

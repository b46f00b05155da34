import SwarmFi.Agents.Base

/-!
# When the dispatch loop survives

A round is what one poll of `/recv` meets, together with what handling its
message meets.  The loop keeps running, and routes every message that arrives,
exactly over the benign rounds.
-/

namespace SwarmFi.Agents

open Foundation Python SwarmFi.Core

/-! ## A started agent with an abstract `on_message` -/

inductive DispatchCall where
  | getRecv
  | postSend (dest : String) (content : Bytes)
  | newStamp
  | latency
  | isRunning
  | onMessage (received : ReceivedMessage)

abbrev DispatchCall.Answer : DispatchCall → Type
  | .getRecv => Except Exception (Response Delivery)
  | .postSend _ _ => Except Exception (Response Unit)
  | .newStamp => Stamp
  | .latency => PyFloat
  | .isRunning => Bool
  | .onMessage _ => Except Exception Unit

abbrev Dispatch : Vocabulary where
  Call := DispatchCall
  Answer := DispatchCall.Answer

/-- What stays fixed while an agent runs. -/
structure AgentSettings where
  role : AgentRole
  ownPubkey : String
  codec : Codec

namespace AgentSettings

variable (settings : AgentSettings)

def node : AxlNode Dispatch where
  getRecv := Program.bind (.call DispatchCall.getRecv .done) .ofExcept
  postSend := fun dest content =>
    Program.bind (.call (DispatchCall.postSend dest content) .done) .ofExcept

def client : AxlClient Dispatch where
  codec := settings.codec
  node := node

/-- The loop itself needs no memory and sends only PONGs. -/
def agent : BaseAgent Dispatch where
  role := settings.role
  ownPubkey := settings.ownPubkey
  hasMemory := false
  recv := settings.client.recv
  clientSend := settings.client.send
  send := fun _ _ => .done ()
  write := fun _ => .done ()
  newStamp := .call DispatchCall.newStamp .done
  latency := .call DispatchCall.latency .done
  isRunning := .call DispatchCall.isRunning .done

theorem agent_role : settings.agent.role = settings.role := rfl

theorem agent_latency :
    settings.agent.latency = .call DispatchCall.latency .done := rfl

theorem agent_newStamp :
    settings.agent.newStamp = .call DispatchCall.newStamp .done := rfl

theorem agent_clientSend :
    settings.agent.clientSend = settings.client.send := rfl

theorem agent_recv : settings.agent.recv = settings.client.recv := rfl

def onMessage (received : ReceivedMessage) :
    Program Dispatch Exception Unit :=
  Program.bind (.call (DispatchCall.onMessage received) .done) .ofExcept

def loop (rounds : Nat) : Program Dispatch Exception Progress :=
  settings.agent.dispatchLoop onMessage rounds

end AgentSettings

/-! ## Rounds -/

/-- The answer to one poll, and what the handling of its message meets: the
outcome of `on_message`, and for a PING the attempts to send the PONG. -/
structure Round where
  answer : Except Exception (Response Delivery)
  onMessage : Except Exception Unit
  posts : Nat → Except Exception (Response Unit)
  stamp : Stamp
  latency : PyFloat

/-- The polls made, the send attempts since the last one, and the messages
handed to `on_message`. -/
structure LoopState where
  polls : Nat
  attempt : Nat
  handled : List ReceivedMessage

/-- The round of the last poll. -/
def LoopState.current (script : Nat → Round) (state : LoopState) : Round :=
  script (state.polls - 1)

/-- The agent is not stopped; everything else follows the rounds. -/
def following (script : Nat → Round) : Environment Dispatch LoopState
  | state, .getRecv =>
      ((script state.polls).answer,
        { state with polls := state.polls + 1, attempt := 0 })
  | state, .postSend _ _ =>
      ((state.current script).posts state.attempt,
        { state with attempt := state.attempt + 1 })
  | state, .newStamp => ((state.current script).stamp, state)
  | state, .latency => ((state.current script).latency, state)
  | state, .isRunning => (true, state)
  | state, .onMessage received =>
      ((state.current script).onMessage,
        { state with handled := state.handled ++ [received] })

/-- The message that arrives in a round. -/
def arrival (codec : Codec) (round : Round) : Option ReceivedMessage :=
  match readDelivery codec round.answer with
  | .ok received => received
  | .error _ => none

/-- The messages that arrive in `count` rounds from `first` on. -/
def arrivals (codec : Codec) (script : Nat → Round) :
    Nat → Nat → List ReceivedMessage
  | _, 0 => []
  | first, count + 1 =>
      (arrival codec (script first)).toList ++
        arrivals codec script (first + 1) count

def isPing (received : ReceivedMessage) : Bool :=
  received.message.messageType = .ping

/-- The PONG can be built and sent: the nonce is missing or a string, the own
key is valid, and one of the three attempts succeeds after retryable errors
only. -/
structure PongSent (settings : AgentSettings) (round : Round)
    (ping : SwarmMessage) : Prop where
  nonce : ∃ text, ping.payload.getD "nonce" (.str "") = .str text
  key : ∃ key, validPubkey settings.ownPubkey = .ok key
  sent : ∃ attempt ≤ extraAttempts,
    (∃ response, round.posts attempt = .ok response ∧
      response.isSuccess = true) ∧
    ∀ earlier < attempt, ∃ exc, round.posts earlier = .error exc ∧
      retryable exc = true

/-- A round that does not end the loop: a timeout, an empty answer, or a
message, whose PONG is sent if it is a PING. -/
inductive Benign (settings : AgentSettings) (round : Round) : Prop where
  | timeout
      (exc : Exception) (raised : round.answer = .error exc)
      (isTimeout : exc.kind = .timeoutException)
  | empty
      (response : Response Delivery) (answered : round.answer = .ok response)
      (nothing : response.statusCode = 204 ∨ response.body.content = [])
  | message
      (response : Response Delivery) (answered : round.answer = .ok response)
      (something :
        ¬ (response.statusCode = 204 ∨ response.body.content = []))
      (success : response.isSuccess = true)
      (message : SwarmMessage)
      (decoded :
        settings.codec.decode response.body.content = .ok message)
      (ponged : message.messageType = .ping →
        PongSent settings round message)

/-! ## What one round does -/

section Rounds

variable (settings : AgentSettings) (script : Nat → Round)

/-- The outcome of routing one message. -/
def pongOutcome (round : Round) (ping : SwarmMessage) :
    Except Exception Unit :=
  match settings.agent.pubkey with
  | .error exc => .error exc
  | .ok pubkey =>
      match makePong round.stamp ping settings.role pubkey
        round.latency with
      | .error exc => .error exc
      | .ok _ =>
          firstSettled retryable
            (fun attempt =>
              (attemptOutcome (round.posts attempt)).map fun _ => ())
            extraAttempts

/-- The outcome of `_route`. -/
def routeOutcome (round : Round) (received : ReceivedMessage) :
    Except Exception Unit :=
  if isPing received then
    pongOutcome settings round received.message
  else
    .ok ()

/-- The outcome of a whole round: the error that ends the loop, or what has
been routed. -/
def roundOutcome (round : Round) :
    Except Exception (Option ReceivedMessage) :=
  match readDelivery settings.codec round.answer with
  | .error exc => .error exc
  | .ok none => .ok none
  | .ok (some received) =>
      (routeOutcome settings round received).map fun _ => some received

theorem run_recv (state : LoopState) :
    settings.client.recv.run (following script) state =
      (readDelivery settings.codec (script state.polls).answer,
        { state with polls := state.polls + 1, attempt := 0 }) := by
  simp only [AxlClient.recv, AgentSettings.client, AgentSettings.node,
    Program.bind_eq_bind, Program.run_bind, Program.run_attempt,
    Program.run_call, Program.run_done, Program.run_ofExcept, following]

theorem run_attemptSend
    (dest : String) (content : Bytes) (state : LoopState) :
    (settings.client.attemptSend dest content).run (following script)
        state =
      ((attemptOutcome ((state.current script).posts state.attempt)).map
          fun _ => (),
        { state with attempt := state.attempt + 1 }) := by
  simp only [AxlClient.attemptSend, AgentSettings.client,
    AgentSettings.node, Program.bind_eq_bind, Program.run_bind,
    Program.run_call, Program.run_done, Program.run_ofExcept, following,
    attemptOutcome]
  cases (state.current script).posts state.attempt with
  | error exc => rfl
  | ok response =>
      simp only
      cases response.raiseForStatus <;> rfl

/-- Sending changes nothing but the attempts. -/
theorem run_clientSend
    (dest : String) (message : SwarmMessage)
    (polls : Nat) (handled : List ReceivedMessage) :
    ∃ attempt,
      (settings.client.send dest message).run (following script)
          ⟨polls, 0, handled⟩ =
        (firstSettled retryable
            (fun index =>
              (attemptOutcome ((script (polls - 1)).posts index)).map
                fun _ => ())
            extraAttempts,
          ⟨polls, attempt, handled⟩) := by
  have each :=
    Program.run_retrying (following script) retryable
      (settings.client.attemptSend dest (settings.codec.encode message))
      extraAttempts
      (fun index =>
        (attemptOutcome ((script (polls - 1)).posts index)).map
          fun _ => ())
      (fun index => ⟨polls, index, handled⟩)
      (fun index => run_attemptSend settings script dest _ _)
  exact ⟨_, each⟩

theorem run_handlePing
    (received : ReceivedMessage) (polls : Nat)
    (handled : List ReceivedMessage) :
    ∃ attempt,
      (settings.agent.handlePing received).run (following script)
          ⟨polls, 0, handled⟩ =
        (pongOutcome settings (script (polls - 1)) received.message,
          ⟨polls, attempt, handled⟩) := by
  simp only [BaseAgent.handlePing, settings.agent_role,
    settings.agent_latency, settings.agent_newStamp,
    settings.agent_clientSend, pongOutcome, Program.bind_eq_bind, Program.run_bind, Program.run_call,
    Program.run_done, Program.run_ofExcept, following, LoopState.current]
  cases settings.agent.pubkey with
  | error exc => exact ⟨0, rfl⟩
  | ok pubkey =>
      simp only
      cases makePong (script (polls - 1)).stamp received.message
          settings.role pubkey (script (polls - 1)).latency with
      | error exc => exact ⟨0, rfl⟩
      | ok pong =>
          exact run_clientSend settings script received.fromPubkey pong polls
            handled

/-- What is handed to `on_message` among the messages routed. -/
def notPings (received : List ReceivedMessage) : List ReceivedMessage :=
  received.filter fun message => !isPing message

/-- The state after a poll. -/
def LoopState.polled (state : LoopState) : LoopState :=
  { state with polls := state.polls + 1, attempt := 0 }

/-- Routing changes nothing but the send attempts and the hand-over, and only
a PING can end the loop. -/
theorem run_route (received : ReceivedMessage) (state : LoopState) :
    ∃ attempt,
      (settings.agent.route AgentSettings.onMessage received).run
          (following script) state.polled =
        (routeOutcome settings (script state.polls) received,
          ⟨state.polls + 1, attempt,
            state.handled ++ notPings [received]⟩) := by
  by_cases isPingType : received.message.messageType = .ping
  · have kind : isPing received = true := by simpa [isPing] using isPingType
    obtain ⟨attempt, ran⟩ :=
      run_handlePing settings script received (state.polls + 1)
        state.handled
    refine ⟨attempt, ?_⟩
    rw [Nat.add_sub_cancel] at ran
    rw [BaseAgent.route, if_pos isPingType, routeOutcome, if_pos kind]
    simpa [notPings, kind, LoopState.polled] using ran
  · have kind : isPing received = false := by
      simpa [isPing] using isPingType
    refine ⟨0, ?_⟩
    rw [BaseAgent.route, if_neg isPingType, Program.run_recover,
      routeOutcome, kind]
    simp only [AgentSettings.onMessage, Program.run_bind,
      Program.run_call, Program.run_done, Program.run_ofExcept, following,
      LoopState.polled]
    cases (LoopState.current script _).onMessage <;>
      simp [notPings, kind]

end Rounds

/-! ## Benign rounds and their outcomes -/

theorem makePong_eq_ok_iff
    (stamp : Stamp) (ping : SwarmMessage) (role : AgentRole)
    (pubkey : String) (latencyMs : PyFloat) :
    (∃ pong, makePong stamp ping role pubkey latencyMs = .ok pong) ↔
      (∃ text, ping.payload.getD "nonce" (.str "") = .str text) ∧
        ∃ key, validPubkey pubkey = .ok key := by
  simp only [makePong, PongPayload.make, SwarmMessage.make,
    bind_eq_ok_iff, validStr_eq_ok_iff]
  constructor
  · rintro ⟨pong, payload, ⟨text, isText, _⟩, key, valid, _⟩
    exact ⟨⟨text, isText⟩, key, valid⟩
  · rintro ⟨⟨text, isText⟩, key, valid⟩
    exact ⟨_, _, ⟨text, isText, rfl⟩, key, valid, rfl⟩

theorem attempt_ok_iff (answer : Except Exception (Response Unit)) :
    (∃ value, ((attemptOutcome answer).map fun _ => ()) = .ok value) ↔
      ∃ response, answer = .ok response ∧ response.isSuccess = true := by
  cases answer with
  | error exc => simp [attemptOutcome, Except.map]
  | ok response =>
      by_cases success : response.isSuccess = true
      · simp [attemptOutcome_ok_of_success success, success, Except.map]
      · simp [attemptOutcome, Response.raiseForStatus, success, Except.map]

/-- An error status is not retried. -/
theorem attempt_unsettled_iff (answer : Except Exception (Response Unit)) :
    Unsettled retryable ((attemptOutcome answer).map fun _ => ()) = true ↔
      ∃ exc, answer = .error exc ∧ retryable exc = true := by
  cases answer with
  | error exc => simp [attemptOutcome, Except.map, Unsettled]
  | ok response =>
      by_cases success : response.isSuccess = true
      · simp [attemptOutcome_ok_of_success success, Except.map, Unsettled]
      · simp [attemptOutcome, Response.raiseForStatus, success, Except.map,
          Unsettled, retryable]

theorem pongOutcome_ok_iff
    (settings : AgentSettings) (round : Round) (ping : SwarmMessage) :
    pongOutcome settings round ping = .ok () ↔
      PongSent settings round ping := by
  have retried :=
    firstSettled_ok_iff retryable
      (fun attempt =>
        (attemptOutcome (round.posts attempt)).map fun _ => ())
      extraAttempts
  simp only [attempt_ok_iff, attempt_unsettled_iff] at retried
  have built := fun pubkey =>
    makePong_eq_ok_iff round.stamp ping settings.role pubkey round.latency
  constructor
  · intro succeeded
    unfold pongOutcome at succeeded
    cases known : settings.agent.pubkey with
    | error exc =>
        rw [known] at succeeded
        cases succeeded
    | ok pubkey =>
        simp only [known] at succeeded
        have own : pubkey = settings.ownPubkey :=
          settings.agent.eq_of_pubkey known
        cases made : makePong round.stamp ping settings.role pubkey
            round.latency with
        | error exc =>
            simp only [made] at succeeded
            cases succeeded
        | ok pong =>
            simp only [made] at succeeded
            obtain ⟨nonce, key⟩ := (built pubkey).mp ⟨pong, made⟩
            rw [own] at key
            exact ⟨nonce, key, retried.mp ⟨(), succeeded⟩⟩
  · rintro ⟨nonce, key, sent⟩
    obtain ⟨text, valid⟩ := key
    obtain ⟨pong, made⟩ := (built settings.ownPubkey).mpr
      ⟨nonce, text, valid⟩
    obtain ⟨value, succeeded⟩ := retried.mpr sent
    have known : settings.agent.pubkey = .ok settings.ownPubkey :=
      settings.agent.pubkey_of_valid valid
    unfold pongOutcome
    rw [known]
    simp only [made]
    exact succeeded

theorem routeOutcome_ok_iff
    (settings : AgentSettings) (round : Round)
    (received : ReceivedMessage) :
    routeOutcome settings round received = .ok () ↔
      (received.message.messageType = .ping →
        PongSent settings round received.message) := by
  rw [← pongOutcome_ok_iff, routeOutcome]
  by_cases kind : received.message.messageType = .ping
  · simp [isPing, kind]
  · simp [isPing, kind]

/-- A round goes by without a message, or with one that is routed. -/
theorem roundOutcome_ok_iff
    (settings : AgentSettings) (round : Round)
    (received : Option ReceivedMessage) :
    roundOutcome settings round = .ok received ↔
      readDelivery settings.codec round.answer = .ok none ∧
          received = none ∨
        ∃ message,
          readDelivery settings.codec round.answer = .ok (some message) ∧
            routeOutcome settings round message = .ok () ∧
              received = some message := by
  unfold roundOutcome
  cases readDelivery settings.codec round.answer with
  | error exc => simp
  | ok arrived =>
      cases arrived with
      | none => simp [eq_comm]
      | some message =>
          cases routed : routeOutcome settings round message with
          | error exc => simp [routed, Except.map]
          | ok value => simp [routed, Except.map, eq_comm]

/-- A round is benign exactly when it does not end the loop. -/
theorem benign_iff (settings : AgentSettings) (round : Round) :
    Benign settings round ↔
      ∃ received, roundOutcome settings round = .ok received := by
  simp only [roundOutcome_ok_iff]
  constructor
  · intro benign
    cases benign with
    | timeout exc raised isTimeout =>
        exact ⟨none, Or.inl ⟨readDelivery_eq_none_iff.mpr
          (Or.inl ⟨exc, raised, isTimeout⟩), rfl⟩⟩
    | empty response answered nothing =>
        exact ⟨none, Or.inl ⟨readDelivery_eq_none_iff.mpr
          (Or.inr ⟨response, answered, nothing⟩), rfl⟩⟩
    | message response answered something success message decoded ponged =>
        let received : ReceivedMessage := ⟨message, response.body.fromPeer⟩
        have read :
            readDelivery settings.codec round.answer =
              .ok (some received) :=
          readDelivery_eq_some_iff.mpr
            ⟨response, answered, something, success, decoded, rfl⟩
        have routed : routeOutcome settings round received = .ok () :=
          (routeOutcome_ok_iff settings round received).mpr ponged
        exact ⟨some received, Or.inr ⟨received, read, routed, rfl⟩⟩
  · rintro ⟨_, ⟨read, -⟩ | ⟨received, read, routed, -⟩⟩
    · rcases readDelivery_eq_none_iff.mp read with
        ⟨exc, raised, isTimeout⟩ | ⟨response, answered, nothing⟩
      · exact .timeout exc raised isTimeout
      · exact .empty response answered nothing
    · obtain ⟨response, answered, something, success, decoded, _⟩ :=
        readDelivery_eq_some_iff.mp read
      exact .message response answered something success received.message
        decoded ((routeOutcome_ok_iff settings round received).mp routed)

theorem arrival_of_roundOutcome
    {settings : AgentSettings} {round : Round}
    {received : Option ReceivedMessage}
    (survived : roundOutcome settings round = .ok received) :
    arrival settings.codec round = received := by
  unfold arrival
  rcases (roundOutcome_ok_iff _ _ _).mp survived with
    ⟨read, rfl⟩ | ⟨message, read, _, rfl⟩
  · rw [read]
  · rw [read]

/-! ## The loop -/

section Loop

variable (settings : AgentSettings) (script : Nat → Round)

/-- The progress of the loop after a round that routed `received`. -/
def Progress.afterRound
    (received : Option ReceivedMessage) (progress : Progress) : Progress :=
  { progress with routed := received.toList ++ progress.routed }

/-- One round: its error ends the loop, and otherwise the loop goes on with
what it routed handed over. -/
theorem run_loop_succ (rounds : Nat) (state : LoopState) :
    ∃ reached : LoopState, reached.polls = state.polls + 1 ∧
      match roundOutcome settings (script state.polls) with
      | .error exc =>
          ((settings.loop (rounds + 1)).run (following script) state).1 =
            .error exc
      | .ok received =>
          reached.handled = state.handled ++ notPings received.toList ∧
            (settings.loop (rounds + 1)).run (following script) state =
              (((settings.loop rounds).run (following script)
                  reached).1.map (Progress.afterRound received),
                ((settings.loop rounds).run (following script)
                  reached).2) := by
  have polled :
      (settings.loop (rounds + 1)).run (following script) state =
        match readDelivery settings.codec (script state.polls).answer with
        | .error exc => (.error exc, state.polled)
        | .ok none =>
            (settings.loop rounds).run (following script) state.polled
        | .ok (some received) =>
            ((settings.agent.route AgentSettings.onMessage received).bind
                fun _ =>
              (settings.loop rounds).bind fun progress =>
                .done (progress.after received)).run
                  (following script) state.polled := by
    rw [AgentSettings.loop, BaseAgent.dispatchLoop]
    simp only [Program.bind_eq_bind, settings.agent_recv]
    rw [Program.run_bind, run_recv]
    cases readDelivery settings.codec (script state.polls).answer with
    | error exc => rfl
    | ok arrived => cases arrived <;> rfl
  rw [polled, roundOutcome]
  cases readDelivery settings.codec (script state.polls).answer with
  | error exc => exact ⟨state.polled, rfl, rfl⟩
  | ok arrived =>
      cases arrived with
      | none =>
          refine ⟨state.polled, rfl, by simp [notPings, LoopState.polled],
            ?_⟩
          rcases (settings.loop rounds).run (following script)
            state.polled with ⟨outcome, last⟩
          cases outcome <;> rfl
      | some received =>
          obtain ⟨attempt, routed⟩ :=
            run_route settings script received state
          refine ⟨⟨state.polls + 1, attempt,
            state.handled ++ notPings [received]⟩, rfl, ?_⟩
          simp only [Program.run_bind, routed]
          cases routeOutcome settings (script state.polls) received with
          | error exc => rfl
          | ok value =>
              refine ⟨rfl, ?_⟩
              simp only
              rcases (settings.loop rounds).run (following script) _ with
                ⟨outcome, last⟩
              cases outcome <;> rfl

/-- Over benign rounds the loop keeps running, routes every arrival in order
and hands over those that are no PINGs. -/
theorem run_loop_of_benign (rounds : Nat) (state : LoopState)
    (benign : ∀ round, state.polls ≤ round →
      round < state.polls + rounds → Benign settings (script round)) :
    ((settings.loop rounds).run (following script) state).1 =
        .ok {
          running := true
          routed := arrivals settings.codec script state.polls rounds } ∧
      ((settings.loop rounds).run (following script) state).2.handled =
        state.handled ++ notPings
          (arrivals settings.codec script state.polls rounds) := by
  induction rounds generalizing state with
  | zero =>
      simp [AgentSettings.loop, BaseAgent.dispatchLoop, arrivals, notPings]
  | succ rounds inductionHypothesis =>
      obtain ⟨received, survived⟩ :=
        (benign_iff _ _).mp (benign state.polls (Nat.le_refl _) (by omega))
      obtain ⟨reached, nextPoll, step⟩ :=
        run_loop_succ settings script rounds state
      rw [survived] at step
      obtain ⟨handedOver, ran⟩ := step
      obtain ⟨outcome, handled⟩ :=
        inductionHypothesis reached (by
          intro round afterStart beforeEnd
          exact benign round (by omega) (by omega))
      rw [nextPoll] at outcome handled
      rw [ran, outcome, handled, handedOver, arrivals,
        arrival_of_roundOutcome survived]
      constructor
      · rfl
      · simp [notPings, List.filter_append]

/-- A loop that ends without an error has met benign rounds only. -/
theorem benign_of_run_ok (rounds : Nat) (state : LoopState)
    {progress : Progress}
    (finished :
      ((settings.loop rounds).run (following script) state).1 =
        .ok progress) :
    ∀ round, state.polls ≤ round → round < state.polls + rounds →
      Benign settings (script round) := by
  induction rounds generalizing state progress with
  | zero =>
      intro round afterStart beforeEnd
      omega
  | succ rounds inductionHypothesis =>
      obtain ⟨reached, nextPoll, step⟩ :=
        run_loop_succ settings script rounds state
      cases survived : roundOutcome settings (script state.polls) with
      | error exc =>
          rw [survived] at step
          rw [step] at finished
          cases finished
      | ok received =>
          rw [survived] at step
          rw [step.2] at finished
          cases rest : ((settings.loop rounds).run (following script)
              reached).1 with
          | error exc =>
              rw [rest] at finished
              cases finished
          | ok further =>
              have later := inductionHypothesis reached rest
              intro round afterStart beforeEnd
              by_cases here : round = state.polls
              · rw [here]
                exact (benign_iff _ _).mpr ⟨received, survived⟩
              · exact later round (by omega) (by omega)

end Loop

/-! ## The loop over any rounds -/

/-- Over these rounds the loop keeps running, every message that arrives is
routed once and in order, and `on_message` gets those that are no PINGs. -/
def Survives
    (settings : AgentSettings) (script : Nat → Round) (rounds : Nat) :
    Prop :=
  ((settings.loop rounds).run (following script) ⟨0, 0, []⟩).1 =
      .ok {
        running := true
        routed := arrivals settings.codec script 0 rounds } ∧
    ((settings.loop rounds).run (following script) ⟨0, 0, []⟩).2.handled =
      notPings (arrivals settings.codec script 0 rounds)

/-- The dispatch loop survives its input exactly when every round of it is
benign. -/
theorem survives_iff
    (settings : AgentSettings) (script : Nat → Round) (rounds : Nat) :
    Survives settings script rounds ↔
      ∀ round < rounds, Benign settings (script round) := by
  constructor
  · rintro ⟨finished, _⟩ round below
    exact benign_of_run_ok settings script rounds ⟨0, 0, []⟩ finished round
      (Nat.zero_le round) (by simpa using below)
  · intro benign
    have ran :=
      run_loop_of_benign settings script rounds ⟨0, 0, []⟩ (by
        intro round _ below
        exact benign round (by simpa using below))
    simpa [Survives] using ran

/-- A codec that refuses every body. -/
def refusing : Codec where
  encode := fun _ => [0]
  decode := fun _ => .error ⟨.validationError, "Invalid JSON"⟩
  tables := asciiTables

/-- The node refuses one connection, as it does while it restarts. -/
def refusedOnce : Round where
  answer := .error ⟨.connectError, "All connection attempts failed"⟩
  onMessage := .ok ()
  posts := fun _ => .ok {
    statusCode := 200
    reasonPhrase := "OK"
    url := "http://127.0.0.1:9002/send"
    body := () }
  stamp := { messageId := "id-1", timestamp := "2026-01-01T00:00:00Z" }
  latency := .fin 0

/-- One refused connection ends the loop. -/
theorem refused_connection_ends_loop :
    ¬ ∀ settings script rounds, Survives settings script rounds := by
  intro always
  have survived :=
    (always ⟨.executor, "", refusing⟩ (fun _ => refusedOnce) 1).1
  cases survived

end SwarmFi.Agents

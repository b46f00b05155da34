import SwarmFi.Core.KeeperHub.Runs

/-!
# Runs over the live client

Here the executor's KeeperHub calls are answered by the live client's methods,
and a script fixes what every HTTP attempt meets.  KeeperHub creates one
transfer for each POST it processes, also when the client never sees the
answer.  Such a run gives the result of a scripted run whose answers are read
off the attempts.
-/

namespace SwarmFi.Core.KeeperHub

open Foundation Python Uniswap
open KeeperHubSwapExecutor

/-- What happens to one POST attempt. -/
inductive PostOutcome where
  | refused (text : String)
  | answered (response : Response Body)
  | lost (text : String)

namespace PostOutcome

/-- What the client sees of it. -/
def seen : PostOutcome → Except Exception (Response Body)
  | .refused text => .error ⟨.connectError, text⟩
  | .answered response => .ok response
  | .lost text => .error ⟨.timeoutException, text⟩

/-- Did the attempt reach the server? -/
def processed : PostOutcome → Bool
  | .refused _ => false
  | .answered _ => true
  | .lost _ => true

def isAnswered : PostOutcome → Bool
  | .answered _ => true
  | _ => false

def isLost : PostOutcome → Bool
  | .lost _ => true
  | _ => false

end PostOutcome

/-- What the HTTP attempts of one `execute_swap` call meet.  The attempts of
a status poll are told by the poll and the attempt. -/
structure LiveScript where
  quote : Except Exception QuoteResponse
  posts : Nat → PostOutcome
  statusGets : Nat → Nat → Except Exception (Response Body)
  logGets : Nat → Except Exception (Response Body)
  audit : Except Exception Unit

/-- The attempts one method has made and the bodies of the transfers created
so far. -/
structure HttpState where
  attempt : Nat
  created : List Dict

structure LiveState where
  polls : Nat
  created : List Dict

def LiveState.initial : LiveState where
  polls := 0
  created := []

namespace LiveScript

variable (script : LiveScript)

/-- KeeperHub and the connection to it, while one method runs. -/
def http (gets : Nat → Except Exception (Response Body)) :
    Environment Http HttpState
  | state, .post _ json =>
      ((script.posts state.attempt).seen,
        { attempt := state.attempt + 1
          created :=
            if (script.posts state.attempt).processed then
              state.created ++ [json]
            else
              state.created })
  | state, .get _ =>
      (gets state.attempt, { state with attempt := state.attempt + 1 })

/-- Run one method of the client. -/
def serve {α : Type}
    (gets : Nat → Except Exception (Response Body))
    (method : Program Http Exception α) (state : LiveState) :
    Except Exception α × List Dict :=
  let ran := method.run (script.http gets) ⟨0, state.created⟩
  (ran.1, ran.2.created)

/-- The executor over the live client. -/
def environment : Environment Swap LiveState
  | state, .quote _ => (script.quote, state)
  | state, .executeTransfer req =>
      let served :=
        script.serve (script.statusGets state.polls)
          (LiveClient.executeTransfer req) state
      (served.1, { state with created := served.2 })
  | state, .getExecutionStatus executionId =>
      let served :=
        script.serve (script.statusGets state.polls)
          (LiveClient.getExecutionStatus executionId) state
      (served.1, { polls := state.polls + 1, created := served.2 })
  | state, .getExecutionLogs executionId =>
      let served :=
        script.serve script.logGets
          (LiveClient.getExecutionLogs executionId) state
      (served.1, { state with created := served.2 })
  | state, .appendAudit _ _ _ => (script.audit, state)

end LiveScript

/-! ## One retried request -/

/-- The outcome of a retried request whose attempts are answered so. -/
def retriedOutcome (answers : Nat → Except Exception (Response Body)) :
    Except Exception (Response Body) :=
  firstSettled retryable (fun attempt => attemptOutcome (answers attempt))
    extraAttempts

/-- The JSON of a retried request. -/
def retriedBody (answers : Nat → Except Exception (Response Body)) :
    Except Exception Json :=
  match retriedOutcome answers with
  | .error exc => .error exc
  | .ok response => response.body

theorem run_request
    {σ : Type} (environment : Environment Http σ) (call : HttpCall)
    (state : σ) :
    (request call).run environment state =
      (attemptOutcome (environment state call).1,
        (environment state call).2) := by
  simp only [request, Http.send, attemptOutcome, Program.bind_eq_bind,
    Program.run_bind, Program.run_call, Program.run_done,
    Program.run_ofExcept]
  cases (environment state call).1 with
  | error exc => rfl
  | ok response =>
      simp only
      cases response.raiseForStatus <;> rfl

/-- Is another attempt made after this answer? -/
theorem unsettled_attemptOutcome_seen (outcome : PostOutcome) :
    Unsettled retryable (attemptOutcome outcome.seen) =
      !outcome.isAnswered := by
  cases outcome with
  | refused text => rfl
  | lost text => rfl
  | answered response =>
      unfold attemptOutcome Response.raiseForStatus PostOutcome.seen
      by_cases success : response.isSuccess = true
      · simp [success, Unsettled, PostOutcome.isAnswered]
      · simp [success, Unsettled, retryable, PostOutcome.isAnswered]

section Requests

variable
  (script : LiveScript) (gets : Nat → Except Exception (Response Body))

/-- The transfers created by the first `count` POST attempts with this
body. -/
def createdBy (json : Dict) : Nat → List Dict
  | 0 => []
  | count + 1 =>
      createdBy json count ++
        if (script.posts count).processed then [json] else []

theorem length_createdBy (json : Dict) (count : Nat) :
    (createdBy script json count).length =
      Nat.count (fun attempt => (script.posts attempt).processed = true)
        count := by
  induction count with
  | zero => rfl
  | succ count inductionHypothesis =>
      rw [createdBy, Nat.count_succ, List.length_append,
        inductionHypothesis]
      split <;> rfl

/-- How many POST attempts one retried request makes. -/
def postsMade : Nat :=
  attemptsMade retryable
    (fun attempt => attemptOutcome (script.posts attempt).seen)
    extraAttempts

theorem run_retried_post
    (path : String) (json : Dict) (created : List Dict) :
    (retried (.post path json)).run (script.http gets) ⟨0, created⟩ =
      (retriedOutcome fun attempt => (script.posts attempt).seen,
        ⟨postsMade script,
          created ++ createdBy script json (postsMade script)⟩) := by
  have each := Program.run_retrying (script.http gets) retryable
    (request (.post path json)) extraAttempts
    (fun attempt => attemptOutcome (script.posts attempt).seen)
    (fun attempt =>
      ⟨attempt, created ++ createdBy script json attempt⟩)
    (by
      intro attempt
      rw [run_request]
      simp only [LiveScript.http, createdBy]
      split <;> simp)
  simpa [createdBy, retried, retriedOutcome, postsMade] using each

theorem run_retried_get (path : String) (created : List Dict) :
    ∃ attempts,
      (retried (.get path)).run (script.http gets) ⟨0, created⟩ =
        (retriedOutcome gets, ⟨attempts, created⟩) := by
  have each := Program.run_retrying (script.http gets) retryable
    (request (.get path)) extraAttempts
    (fun attempt => attemptOutcome (gets attempt))
    (fun attempt => ⟨attempt, created⟩)
    (fun attempt => run_request (script.http gets) (.get path) _)
  exact ⟨_, each⟩

end Requests

/-! ## The methods of the client -/

section Methods

variable (script : LiveScript)

def transferOutcome : Except Exception KHExecutionResult :=
  match retriedBody fun attempt => (script.posts attempt).seen with
  | .error exc => .error exc
  | .ok body => readExecutionResult body

/-- The JSON that a poll receives. -/
def statusBody (poll : Nat) : Except Exception Json :=
  retriedBody (script.statusGets poll)

def statusOutcome (poll : Nat) : Except Exception KHExecutionStatus_ :=
  match statusBody script poll with
  | .error exc => .error exc
  | .ok body => readExecutionStatus body

def logsOutcome : Except Exception Json :=
  match retriedBody script.logGets with
  | .error exc => .error exc
  | .ok body => .ok (readExecutionLogs body)

theorem serve_executeTransfer
    (gets : Nat → Except Exception (Response Body))
    (req : KHTransferRequest) (state : LiveState) :
    script.serve gets (LiveClient.executeTransfer req) state =
      (transferOutcome script,
        state.created ++
          createdBy script req.toApiDict (postsMade script)) := by
  simp only [LiveScript.serve, LiveClient.executeTransfer,
    Program.bind_eq_bind, Program.run_bind, run_retried_post,
    transferOutcome, retriedBody]
  cases retriedOutcome fun attempt => (script.posts attempt).seen with
  | error exc => rfl
  | ok response =>
      simp only [Program.run_ofExcept]
      cases response.body with
      | error exc => rfl
      | ok body => simp

theorem serve_getExecutionStatus
    (executionId : String) (state : LiveState) :
    script.serve (script.statusGets state.polls)
        (LiveClient.getExecutionStatus executionId) state =
      (statusOutcome script state.polls, state.created) := by
  obtain ⟨attempts, ran⟩ :=
    run_retried_get script (script.statusGets state.polls)
      ("/execute/" ++ executionId ++ "/status") state.created
  simp only [LiveScript.serve, LiveClient.getExecutionStatus,
    Program.bind_eq_bind, Program.run_bind, ran, statusOutcome,
    statusBody, retriedBody]
  cases retriedOutcome (script.statusGets state.polls) with
  | error exc => rfl
  | ok response =>
      simp only [Program.run_ofExcept]
      cases response.body with
      | error exc => rfl
      | ok body => simp

theorem serve_getExecutionLogs
    (executionId : String) (state : LiveState) :
    script.serve script.logGets
        (LiveClient.getExecutionLogs executionId) state =
      (logsOutcome script, state.created) := by
  obtain ⟨attempts, ran⟩ :=
    run_retried_get script script.logGets
      ("/workflows/executions/" ++ executionId ++ "/logs") state.created
  simp only [LiveScript.serve, LiveClient.getExecutionLogs,
    Program.bind_eq_bind, Program.run_bind, ran, logsOutcome,
    retriedBody]
  cases retriedOutcome script.logGets with
  | error exc => rfl
  | ok response =>
      simp only [Program.run_ofExcept]
      cases response.body with
      | error exc => rfl
      | ok body => simp

end Methods

/-! ## The scripted run behind a live one -/

namespace LiveScript

variable
  (script : LiveScript) (self : KeeperHubSwapExecutor)
  (args : SwapArguments)

/-- What the executor sees of the live client. -/
def facade : SwapScript where
  quote := script.quote
  transfer := transferOutcome script
  polls := statusOutcome script
  logs := logsOutcome script
  audit := script.audit

/-- The live environment answers as the facade does; the polls are counted
alike. -/
theorem environment_agrees
    (left : LiveState) (right : SwapState)
    (same : left.polls = right.polls) (call : SwapCall) :
    (script.environment left call).1 =
        (script.facade.environment right call).1 ∧
      (script.environment left call).2.polls =
        (script.facade.environment right call).2.polls := by
  cases call with
  | quote req => exact ⟨rfl, same⟩
  | executeTransfer req =>
      simp only [environment, serve_executeTransfer]
      exact ⟨rfl, same⟩
  | getExecutionStatus executionId =>
      simp only [environment, serve_getExecutionStatus]
      rw [same]
      exact ⟨rfl, rfl⟩
  | getExecutionLogs executionId =>
      simp only [environment, serve_getExecutionLogs]
      exact ⟨rfl, same⟩
  | appendAudit eventType agentRole data => exact ⟨rfl, same⟩

def result : SwapResult :=
  Program.valueOf
    ((self.executeSwap args).run script.environment .initial).1

def finish : LiveState :=
  ((self.executeSwap args).run script.environment .initial).2

/-- A live run ends as the facade's run does. -/
theorem ends :
    ∃ state : SwapState, state.polls = (script.finish self args).polls ∧
      Ends script.facade self args (script.result self args) state := by
  obtain ⟨result, state, ended, ran⟩ :=
    run_executeSwap script.facade self args
  obtain ⟨sameResult, samePolls⟩ :=
    Program.run_simulation script.environment script.facade.environment
      (fun left right => left.polls = right.polls)
      script.environment_agrees (self.executeSwap args)
      (show LiveState.initial.polls = SwapState.initial.polls from rfl)
  rw [ran] at sameResult samePolls
  refine ⟨state, samePolls.symm, ?_⟩
  rw [LiveScript.result, sameResult]
  exact ended

end LiveScript

end SwarmFi.Core.KeeperHub

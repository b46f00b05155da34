import SwarmFi.Python.Json

/-!
# HTTP answers and the retry policy

An answer to an `httpx` request, with the body in whatever form the caller
reads it.  All clients share one tenacity policy: connect errors and timeouts
are retried, up to three attempts, and the last error is raised.
-/

namespace Python

structure Response (β : Type) where
  statusCode : Nat
  reasonPhrase : String
  url : String
  body : β

namespace Response

variable {β : Type}

/-- `response.is_success` -/
def isSuccess (response : Response β) : Bool :=
  200 ≤ response.statusCode && response.statusCode ≤ 299

def errorType (statusCode : Nat) : String :=
  match statusCode / 100 with
  | 1 => "Informational response"
  | 3 => "Redirect response"
  | 4 => "Client error"
  | 5 => "Server error"
  | _ => "Invalid status code"

/-- `response.raise_for_status()`; the link that ends the text of the error is
left out. -/
def raiseForStatus (response : Response β) : Except Exception Unit :=
  if response.isSuccess then
    .ok ()
  else
    .error ⟨.httpStatusError,
      errorType response.statusCode ++ " '" ++
        toString response.statusCode ++ " " ++ response.reasonPhrase ++
        "' for url '" ++ response.url ++ "'"⟩

theorem raiseForStatus_eq_ok_iff (response : Response β) :
    response.raiseForStatus = .ok () ↔ response.isSuccess = true := by
  cases success : response.isSuccess <;> simp [raiseForStatus, success]

end Response

/-- The outcome of a request whose attempt also runs `raise_for_status`. -/
def attemptOutcome {β : Type} (answer : Except Exception (Response β)) :
    Except Exception (Response β) :=
  match answer with
  | .error exc => .error exc
  | .ok response =>
      match response.raiseForStatus with
      | .error exc => .error exc
      | .ok () => .ok response

theorem attemptOutcome_ok_of_success {β : Type} {response : Response β}
    (success : response.isSuccess = true) :
    attemptOutcome (.ok response) = .ok response := by
  simp [attemptOutcome, Response.raiseForStatus, success]

/-- `retry_if_exception_type((httpx.ConnectError, httpx.TimeoutException))` -/
def retryable (exc : Exception) : Bool :=
  exc.kind == .connectError || exc.kind == .timeoutException

/-- `stop_after_attempt(3)`: the attempts after the first. -/
def extraAttempts : Nat := 2

end Python

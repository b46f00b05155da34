import Mathlib

/-!
# Programs that call an environment

A program is a tree: it ends with a value, ends by raising an error, or makes
one call and goes on with whatever the environment answers.  The tree says
nothing about the answers, so one program can be run against a scripted
environment, against every environment at once, or inside a system of several
programs that take turns.

* `run` drives a program by an environment that keeps a state.
* `Satisfies` is the weakest precondition over all answers: a guard holds at
  every call, with the history so far in view, and a postcondition at the end.
-/

namespace Foundation

/-- The calls a program may make, each with the type of its answers. -/
structure Vocabulary where
  Call : Type
  Answer : Call → Type

/-- One call together with the answer it received. -/
structure Event (vocabulary : Vocabulary) where
  call : vocabulary.Call
  answer : vocabulary.Answer call

inductive Program (vocabulary : Vocabulary) (ε α : Type) where
  | done (value : α)
  | raise (error : ε)
  | call (request : vocabulary.Call)
      (next : vocabulary.Answer request → Program vocabulary ε α)

/-- Answers every call from a state and moves to the next state. -/
abbrev Environment (vocabulary : Vocabulary) (σ : Type) :=
  σ → (request : vocabulary.Call) → vocabulary.Answer request × σ

namespace Program

variable {vocabulary : Vocabulary} {ε δ α β γ σ τ : Type}

/-! ## Sequencing, raising and recovering -/

def bind :
    Program vocabulary ε α → (α → Program vocabulary ε β) →
      Program vocabulary ε β
  | .done value, next => next value
  | .raise error, _ => .raise error
  | .call request rest, next =>
      .call request fun answer => (rest answer).bind next

/-- Continue with `handler` when the program raises. -/
def recover :
    Program vocabulary ε α → (ε → Program vocabulary δ α) →
      Program vocabulary δ α
  | .done value, _ => .done value
  | .raise error, handler => handler error
  | .call request rest, handler =>
      .call request fun answer => (rest answer).recover handler

instance : Monad (Program vocabulary ε) where
  pure := .done
  bind := bind

/-- A fallible answer used as a statement: its error is raised. -/
def ofExcept : Except ε α → Program vocabulary ε α
  | .ok value => .done value
  | .error error => .raise error

/-- Run to the end and hand back the outcome, raising nothing. -/
def attempt (program : Program vocabulary ε α) :
    Program vocabulary δ (Except ε α) :=
  (program.bind fun value => .done (.ok value)).recover
    fun error => .done (.error error)

@[simp]
theorem pure_eq_done (value : α) :
    (pure value : Program vocabulary ε α) = .done value := rfl

@[simp]
theorem bind_eq_bind
    (program : Program vocabulary ε α)
    (next : α → Program vocabulary ε β) :
    program >>= next = program.bind next := rfl

@[simp]
theorem done_bind
    (value : α) (next : α → Program vocabulary ε β) :
    (Program.done value).bind next = next value := rfl

@[simp]
theorem raise_bind
    (error : ε) (next : α → Program vocabulary ε β) :
    (Program.raise error).bind next = .raise error := rfl

theorem bind_assoc
    (program : Program vocabulary ε α)
    (next : α → Program vocabulary ε β)
    (last : β → Program vocabulary ε γ) :
    (program.bind next).bind last =
      program.bind fun value => (next value).bind last := by
  induction program with
  | done value => rfl
  | raise error => rfl
  | call request rest inductionHypothesis =>
      simp only [bind]
      congr
      funext answer
      exact inductionHypothesis answer

@[simp]
theorem done_recover
    (value : α) (handler : ε → Program vocabulary δ α) :
    (Program.done value : Program vocabulary ε α).recover handler =
      .done value := rfl

@[simp]
theorem raise_recover
    (error : ε) (handler : ε → Program vocabulary δ α) :
    (Program.raise error : Program vocabulary ε α).recover handler =
      handler error := rfl

@[simp]
theorem ofExcept_ok (value : α) :
    (ofExcept (.ok value) : Program vocabulary ε α) = .done value := rfl

@[simp]
theorem ofExcept_error (error : ε) :
    (ofExcept (.error error) : Program vocabulary ε α) =
      .raise error := rfl

/-! ## Running against an environment -/

/-- Drive a program by an environment: the outcome and the last state. -/
def run (environment : Environment vocabulary σ) :
    Program vocabulary ε α → σ → Except ε α × σ
  | .done value, state => (.ok value, state)
  | .raise error, state => (.error error, state)
  | .call request next, state =>
      run environment (next (environment state request).1)
        (environment state request).2

section Run

variable (environment : Environment vocabulary σ)

@[simp]
theorem run_done (value : α) (state : σ) :
    (Program.done value : Program vocabulary ε α).run environment state =
      (.ok value, state) := rfl

@[simp]
theorem run_raise (error : ε) (state : σ) :
    (Program.raise error : Program vocabulary ε α).run environment state =
      (.error error, state) := rfl

@[simp]
theorem run_call
    (request : vocabulary.Call)
    (next : vocabulary.Answer request → Program vocabulary ε α)
    (state : σ) :
    (Program.call request next).run environment state =
      (next (environment state request).1).run environment
        (environment state request).2 := rfl

@[simp]
theorem run_ofExcept (outcome : Except ε α) (state : σ) :
    (ofExcept outcome : Program vocabulary ε α).run environment state =
      (outcome, state) := by
  cases outcome <;> rfl

theorem run_bind
    (program : Program vocabulary ε α)
    (next : α → Program vocabulary ε β) (state : σ) :
    (program.bind next).run environment state =
      match program.run environment state with
      | (.ok value, reached) => (next value).run environment reached
      | (.error error, reached) => (.error error, reached) := by
  induction program generalizing state with
  | done value => rfl
  | raise error => rfl
  | call request rest inductionHypothesis =>
      simp only [bind, run_call]
      exact inductionHypothesis _ _

theorem run_recover
    (program : Program vocabulary ε α)
    (handler : ε → Program vocabulary δ α) (state : σ) :
    (program.recover handler).run environment state =
      match program.run environment state with
      | (.ok value, reached) => (.ok value, reached)
      | (.error error, reached) =>
          (handler error).run environment reached := by
  induction program generalizing state with
  | done value => rfl
  | raise error => rfl
  | call request rest inductionHypothesis =>
      simp only [recover, run_call]
      exact inductionHypothesis _ _

theorem run_bind_of_ok
    {program : Program vocabulary ε α} {state reached : σ} {value : α}
    (finished : program.run environment state = (.ok value, reached))
    (next : α → Program vocabulary ε β) :
    (program.bind next).run environment state =
      (next value).run environment reached := by
  rw [run_bind, finished]

theorem run_bind_of_error
    {program : Program vocabulary ε α} {state reached : σ} {error : ε}
    (failed : program.run environment state = (.error error, reached))
    (next : α → Program vocabulary ε β) :
    (program.bind next).run environment state =
      (.error error, reached) := by
  rw [run_bind, failed]

/-- A run that ends well has ended well in both of its parts. -/
theorem run_bind_eq_ok_iff
    (program : Program vocabulary ε α)
    (next : α → Program vocabulary ε β)
    (state last : σ) (result : β) :
    (program.bind next).run environment state = (.ok result, last) ↔
      ∃ value reached, program.run environment state = (.ok value, reached) ∧
        (next value).run environment reached = (.ok result, last) := by
  rw [run_bind]
  rcases program.run environment state with ⟨outcome, reached⟩
  cases outcome with
  | ok value =>
      constructor
      · intro finished
        exact ⟨value, reached, rfl, finished⟩
      · rintro ⟨_, _, same, finished⟩
        cases same
        exact finished
  | error error =>
      constructor
      · intro finished
        cases finished
      · rintro ⟨_, _, same, _⟩
        cases same

@[simp]
theorem run_attempt
    (program : Program vocabulary ε α) (state : σ) :
    (program.attempt : Program vocabulary δ (Except ε α)).run
        environment state =
      (.ok (program.run environment state).1,
        (program.run environment state).2) := by
  rw [attempt, run_recover, run_bind]
  rcases program.run environment state with ⟨outcome, reached⟩
  cases outcome <;> rfl

end Run

/-- Two environments that agree along a relation drive a program to the same
outcome. -/
theorem run_simulation
    (first : Environment vocabulary σ) (second : Environment vocabulary τ)
    (related : σ → τ → Prop)
    (agree : ∀ left right, related left right → ∀ request,
      (first left request).1 = (second right request).1 ∧
        related (first left request).2 (second right request).2)
    (program : Program vocabulary ε α) {left : σ} {right : τ}
    (start : related left right) :
    (program.run first left).1 = (program.run second right).1 ∧
      related (program.run first left).2
        (program.run second right).2 := by
  induction program generalizing left right with
  | done value => exact ⟨rfl, start⟩
  | raise error => exact ⟨rfl, start⟩
  | call request next inductionHypothesis =>
      obtain ⟨sameAnswer, stillRelated⟩ := agree left right start request
      simp only [run_call]
      rw [sameAnswer]
      exact inductionHypothesis _ stillRelated

/-! ## Which calls a program makes -/

/-- Whatever the answers are, every call made is an allowed one. -/
def Uses (allowed : vocabulary.Call → Prop) :
    Program vocabulary ε α → Prop
  | .done _ => True
  | .raise _ => True
  | .call request next =>
      allowed request ∧ ∀ answer, (next answer).Uses allowed

section Uses

variable {allowed : vocabulary.Call → Prop}

@[simp]
theorem uses_done (value : α) :
    (Program.done value : Program vocabulary ε α).Uses allowed := trivial

@[simp]
theorem uses_raise (error : ε) :
    (Program.raise error : Program vocabulary ε α).Uses allowed := trivial

@[simp]
theorem uses_ofExcept (outcome : Except ε α) :
    (ofExcept outcome : Program vocabulary ε α).Uses allowed := by
  cases outcome <;> trivial

theorem uses_any (program : Program vocabulary ε α) :
    program.Uses fun _ => True := by
  induction program with
  | done value => trivial
  | raise error => trivial
  | call request next inductionHypothesis =>
      exact ⟨trivial, inductionHypothesis⟩

theorem Uses.mono
    {program : Program vocabulary ε α} (uses : program.Uses allowed)
    {wider : vocabulary.Call → Prop}
    (implied : ∀ request, allowed request → wider request) :
    program.Uses wider := by
  induction program with
  | done value => trivial
  | raise error => trivial
  | call request next inductionHypothesis =>
      exact ⟨implied request uses.1, fun answer =>
        inductionHypothesis answer (uses.2 answer)⟩

theorem Uses.bind
    {program : Program vocabulary ε α}
    {next : α → Program vocabulary ε β}
    (first : program.Uses allowed)
    (rest : ∀ value, (next value).Uses allowed) :
    (program.bind next).Uses allowed := by
  induction program with
  | done value => exact rest value
  | raise error => trivial
  | call request continuation inductionHypothesis =>
      exact ⟨first.1, fun answer =>
        inductionHypothesis answer (first.2 answer)⟩

theorem Uses.recover
    {program : Program vocabulary ε α}
    {handler : ε → Program vocabulary δ α}
    (first : program.Uses allowed)
    (rest : ∀ error, (handler error).Uses allowed) :
    (program.recover handler).Uses allowed := by
  induction program with
  | done value => trivial
  | raise error => exact rest error
  | call request continuation inductionHypothesis =>
      exact ⟨first.1, fun answer =>
        inductionHypothesis answer (first.2 answer)⟩

theorem Uses.attempt
    {program : Program vocabulary ε α} (uses : program.Uses allowed) :
    (program.attempt :
      Program vocabulary δ (Except ε α)).Uses allowed :=
  (uses.bind fun _ => uses_done _).recover fun _ => uses_done _

/-- What relates a state to the next one along every allowed call relates the
two ends of a run. -/
theorem Uses.run_related
    {environment : Environment vocabulary σ} (related : σ → σ → Prop)
    (refl : ∀ state, related state state)
    (trans : ∀ first second third,
      related first second → related second third → related first third)
    (call : ∀ state request, allowed request →
      related state (environment state request).2)
    {program : Program vocabulary ε α} (uses : program.Uses allowed)
    (state : σ) :
    related state (program.run environment state).2 := by
  induction program generalizing state with
  | done value => exact refl state
  | raise error => exact refl state
  | call request next inductionHypothesis =>
      apply trans _ _ _ (call state request uses.1)
      exact inductionHypothesis _ (uses.2 _) _

theorem run_related
    {environment : Environment vocabulary σ} (related : σ → σ → Prop)
    (refl : ∀ state, related state state)
    (trans : ∀ first second third,
      related first second → related second third → related first third)
    (call : ∀ state request, related state (environment state request).2)
    (program : Program vocabulary ε α) (state : σ) :
    related state (program.run environment state).2 :=
  (uses_any program).run_related related refl trans
    (fun state request _ => call state request) state

/-- A part of the state that no allowed call changes is unchanged by a run. -/
theorem Uses.run_preserves
    {environment : Environment vocabulary σ} (part : σ → τ)
    (frame : ∀ state request, allowed request →
      part (environment state request).2 = part state)
    {program : Program vocabulary ε α} (uses : program.Uses allowed)
    (state : σ) :
    part (program.run environment state).2 = part state := by
  apply uses.run_related (fun first second => part second = part first)
  · exact fun _ => rfl
  · exact fun _ _ _ earlier later => later.trans earlier
  · exact frame

/-- What comes after the first program leaves the part as that program did. -/
theorem run_bind_preserves
    {environment : Environment vocabulary σ} (part : σ → τ)
    (frame : ∀ state request, allowed request →
      part (environment state request).2 = part state)
    (program : Program vocabulary ε α)
    {next : α → Program vocabulary ε β}
    (quiet : ∀ value, (next value).Uses allowed) (state : σ) :
    part ((program.bind next).run environment state).2 =
      part (program.run environment state).2 := by
  rw [run_bind]
  rcases program.run environment state with ⟨outcome, reached⟩
  cases outcome with
  | ok value => exact (quiet value).run_preserves part frame reached
  | error error => rfl

theorem run_recover_preserves
    {environment : Environment vocabulary σ} (part : σ → τ)
    (frame : ∀ state request, allowed request →
      part (environment state request).2 = part state)
    (program : Program vocabulary ε α)
    {handler : ε → Program vocabulary δ α}
    (quiet : ∀ error, (handler error).Uses allowed) (state : σ) :
    part ((program.recover handler).run environment state).2 =
      part (program.run environment state).2 := by
  rw [run_recover]
  rcases program.run environment state with ⟨outcome, reached⟩
  cases outcome with
  | ok value => rfl
  | error error => exact (quiet error).run_preserves part frame reached

end Uses

/-- The outcome of a program that cannot raise. -/
def valueOf : Except Empty α → α
  | .ok value => value
  | .error impossible => impossible.elim

end Program

end Foundation

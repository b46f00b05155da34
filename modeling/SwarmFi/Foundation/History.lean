import SwarmFi.Foundation.Program

/-!
# Histories of calls

The history of a run is the list of its calls with their answers.  `Satisfies`
is the weakest precondition of a program over every possible answer: before
each call the guard holds of the history so far, and at the end the
postcondition holds of the outcome and the whole history.

The same predicate is an invariant of a program that is still running.  `Task`
is such a program with its history; one answer takes it one step further, and
nothing else in a system can touch it.
-/

namespace Foundation

variable {vocabulary : Vocabulary} {ε δ α β σ : Type}

/-- Every event was admissible when its call was made. -/
def Guarded
    (guard : List (Event vocabulary) → vocabulary.Call → Prop)
    (history : List (Event vocabulary)) : Prop :=
  ∀ before event after,
    history = before ++ event :: after → guard before event.call

theorem guarded_nil
    (guard : List (Event vocabulary) → vocabulary.Call → Prop) :
    Guarded guard [] := by
  intro before event after equality
  simp at equality

theorem Guarded.snoc
    {guard : List (Event vocabulary) → vocabulary.Call → Prop}
    {history : List (Event vocabulary)} {event : Event vocabulary}
    (earlier : Guarded guard history)
    (admissible : guard history event.call) :
    Guarded guard (history ++ [event]) := by
  intro before tested after equality
  rcases List.eq_nil_or_concat after with rfl | ⟨middle, last, rfl⟩
  · have split := List.append_inj' equality rfl
    obtain ⟨sameBefore, sameEvent⟩ := split
    cases sameBefore
    cases sameEvent
    exact admissible
  · have regrouped :
        history ++ [event] = (before ++ tested :: middle) ++ [last] := by
      simpa using equality
    exact earlier before tested middle
      (List.append_inj' regrouped rfl).1

theorem guarded_snoc_iff
    (guard : List (Event vocabulary) → vocabulary.Call → Prop)
    (history : List (Event vocabulary)) (event : Event vocabulary) :
    Guarded guard (history ++ [event]) ↔
      Guarded guard history ∧ guard history event.call := by
  constructor
  · intro guarded
    constructor
    · intro before tested after equality
      refine guarded before tested (after ++ [event]) ?_
      rw [equality]
      simp
    · exact guarded history event [] rfl
  · rintro ⟨earlier, admissible⟩
    exact earlier.snoc admissible

/-- What every admissible call preserves holds of a guarded history. -/
theorem Guarded.invariant
    {guard : List (Event vocabulary) → vocabulary.Call → Prop}
    {motive : List (Event vocabulary) → Prop}
    (start : motive [])
    (preserved : ∀ history event,
      guard history event.call → motive history →
        motive (history ++ [event]))
    {history : List (Event vocabulary)} (guarded : Guarded guard history) :
    motive history := by
  induction history using List.reverseRecOn with
  | nil => exact start
  | append_singleton earlier event inductionHypothesis =>
      obtain ⟨before, admissible⟩ :=
        (guarded_snoc_iff guard earlier event).mp guarded
      exact preserved earlier event admissible (inductionHypothesis before)

/-! ## What a history adds up to -/

section Summary

variable (record : σ → Event vocabulary → σ) (start : σ)

/-- The state reached by recording every event. -/
def summary (history : List (Event vocabulary)) : σ :=
  history.foldl record start

theorem summary_snoc
    (history : List (Event vocabulary)) (event : Event vocabulary) :
    summary record start (history ++ [event]) =
      record (summary record start history) event := by
  simp [summary]

theorem summary_concat (history later : List (Event vocabulary)) :
    summary record start (history ++ later) =
      summary record (summary record start history) later :=
  List.foldl_append

/-- Events that are recorded without a change can be left out. -/
theorem summary_append
    {allowed : vocabulary.Call → Prop}
    (unchanged : ∀ state event, allowed event.call →
      record state event = state)
    (history later : List (Event vocabulary))
    (quiet : ∀ event ∈ later, allowed event.call) :
    summary record start (history ++ later) =
      summary record start history := by
  induction later generalizing history with
  | nil => rw [List.append_nil]
  | cons event later inductionHypothesis =>
      have first : allowed event.call := quiet event List.mem_cons_self
      have rest : ∀ tested ∈ later, allowed tested.call :=
        fun tested member => quiet tested (List.mem_cons_of_mem _ member)
      rw [List.append_cons, inductionHypothesis _ rest, summary_snoc,
        unchanged _ event first]

end Summary

namespace Program

/-! ## The weakest precondition -/

def Satisfies
    (guard : List (Event vocabulary) → vocabulary.Call → Prop)
    (post : Except ε α → List (Event vocabulary) → Prop) :
    Program vocabulary ε α → List (Event vocabulary) → Prop
  | .done value, history => post (.ok value) history
  | .raise error, history => post (.error error) history
  | .call request next, history =>
      guard history request ∧
        ∀ answer,
          (next answer).Satisfies guard post
            (history ++ [⟨request, answer⟩])

section Rules

variable
  {guard : List (Event vocabulary) → vocabulary.Call → Prop}
  {post : Except ε α → List (Event vocabulary) → Prop}

@[simp]
theorem satisfies_done
    (value : α) (history : List (Event vocabulary)) :
    (Program.done value : Program vocabulary ε α).Satisfies
        guard post history ↔
      post (.ok value) history := Iff.rfl

@[simp]
theorem satisfies_raise
    (error : ε) (history : List (Event vocabulary)) :
    (Program.raise error : Program vocabulary ε α).Satisfies
        guard post history ↔
      post (.error error) history := Iff.rfl

@[simp]
theorem satisfies_ofExcept
    (outcome : Except ε α) (history : List (Event vocabulary)) :
    (ofExcept outcome : Program vocabulary ε α).Satisfies
        guard post history ↔
      post outcome history := by
  cases outcome <;> rfl

/-- After the first part, the rest must do what is asked of the whole; an
error of the first part is the error of the whole. -/
def continued
    (guard : List (Event vocabulary) → vocabulary.Call → Prop)
    (after : Except ε β → List (Event vocabulary) → Prop)
    (next : α → Program vocabulary ε β) :
    Except ε α → List (Event vocabulary) → Prop
  | .ok value, history => (next value).Satisfies guard after history
  | .error error, history => after (.error error) history

@[simp]
theorem continued_ok
    {after : Except ε β → List (Event vocabulary) → Prop}
    (next : α → Program vocabulary ε β) (value : α)
    (history : List (Event vocabulary)) :
    continued guard after next (.ok value) history ↔
      (next value).Satisfies guard after history := Iff.rfl

@[simp]
theorem continued_error
    {after : Except ε β → List (Event vocabulary) → Prop}
    (next : α → Program vocabulary ε β) (error : ε)
    (history : List (Event vocabulary)) :
    continued guard after next (.error error) history ↔
      after (.error error) history := Iff.rfl

theorem satisfies_bind
    {after : Except ε β → List (Event vocabulary) → Prop}
    (program : Program vocabulary ε α)
    (next : α → Program vocabulary ε β)
    (history : List (Event vocabulary)) :
    (program.bind next).Satisfies guard after history ↔
      program.Satisfies guard (continued guard after next) history := by
  induction program generalizing history with
  | done value => rfl
  | raise error => rfl
  | call request rest inductionHypothesis =>
      simp only [bind, Satisfies]
      exact and_congr_right fun _ =>
        forall_congr' fun answer => inductionHypothesis answer _

theorem satisfies_call_bind
    {after : Except ε β → List (Event vocabulary) → Prop}
    (request : vocabulary.Call)
    (next : vocabulary.Answer request → Program vocabulary ε β)
    (history : List (Event vocabulary)) :
    ((Program.call request .done).bind next).Satisfies guard after
        history ↔
      guard history request ∧
        ∀ answer, (next answer).Satisfies guard after
          (history ++ [⟨request, answer⟩]) := Iff.rfl

theorem satisfies_ofExcept_bind
    {after : Except ε β → List (Event vocabulary) → Prop}
    (outcome : Except ε α) (next : α → Program vocabulary ε β)
    (history : List (Event vocabulary)) :
    ((ofExcept outcome).bind next).Satisfies guard after history ↔
      continued guard after next outcome history := by
  rw [satisfies_bind, satisfies_ofExcept]

/-- The error of the first part is the handler's to answer for. -/
def recovered
    (guard : List (Event vocabulary) → vocabulary.Call → Prop)
    (after : Except δ α → List (Event vocabulary) → Prop)
    (handler : ε → Program vocabulary δ α) :
    Except ε α → List (Event vocabulary) → Prop
  | .ok value, history => after (.ok value) history
  | .error error, history => (handler error).Satisfies guard after history

theorem satisfies_recover
    {after : Except δ α → List (Event vocabulary) → Prop}
    (program : Program vocabulary ε α)
    (handler : ε → Program vocabulary δ α)
    (history : List (Event vocabulary)) :
    (program.recover handler).Satisfies guard after history ↔
      program.Satisfies guard (recovered guard after handler) history := by
  induction program generalizing history with
  | done value => rfl
  | raise error => rfl
  | call request rest inductionHypothesis =>
      simp only [recover, Satisfies]
      exact and_congr_right fun _ =>
        forall_congr' fun answer => inductionHypothesis answer _

theorem Satisfies.mono
    {after : Except ε α → List (Event vocabulary) → Prop}
    {program : Program vocabulary ε α}
    {history : List (Event vocabulary)}
    (satisfied : program.Satisfies guard post history)
    (weaker : ∀ outcome reached,
      post outcome reached → after outcome reached) :
    program.Satisfies guard after history := by
  induction program generalizing history with
  | done value => exact weaker _ _ satisfied
  | raise error => exact weaker _ _ satisfied
  | call request next inductionHypothesis =>
      exact ⟨satisfied.1, fun answer =>
        inductionHypothesis answer (satisfied.2 answer)⟩

/-- A program all of whose calls pass every guard only adds such calls to
the history. -/
theorem Uses.satisfies
    {allowed : vocabulary.Call → Prop}
    (free : ∀ history request, allowed request → guard history request)
    {program : Program vocabulary ε α} (uses : program.Uses allowed)
    {history : List (Event vocabulary)}
    (finish : ∀ outcome later,
      (∀ event ∈ later, allowed event.call) →
        post outcome (history ++ later)) :
    program.Satisfies guard post history := by
  induction program generalizing history with
  | done value => simpa using finish (.ok value) [] (by simp)
  | raise error => simpa using finish (.error error) [] (by simp)
  | call request next inductionHypothesis =>
      refine ⟨free history request uses.1, fun answer => ?_⟩
      refine inductionHypothesis answer (uses.2 answer) ?_
      intro outcome later quiet
      have extended :=
        finish outcome (⟨request, answer⟩ :: later) (by
          intro event member
          rcases List.mem_cons.mp member with rfl | inLater
          · exact uses.1
          · exact quiet event inLater)
      simpa using extended

/-- Such a program in front of another one. -/
theorem Uses.satisfies_bind
    {allowed : vocabulary.Call → Prop}
    (free : ∀ history request, allowed request → guard history request)
    {program : Program vocabulary ε α} (uses : program.Uses allowed)
    {next : α → Program vocabulary ε β}
    {after : Except ε β → List (Event vocabulary) → Prop}
    {history : List (Event vocabulary)}
    (failed : ∀ error later, after (.error error) (history ++ later))
    (rest : ∀ value later, (∀ event ∈ later, allowed event.call) →
      (next value).Satisfies guard after (history ++ later)) :
    (program.bind next).Satisfies guard after history := by
  apply (Program.satisfies_bind program next history).mpr
  refine uses.satisfies free ?_
  intro outcome later quiet
  cases outcome with
  | ok value => exact rest value later quiet
  | error error => exact failed error later

/-- The same where the calls leave a summary of the history alone. -/
theorem Uses.satisfies_summary_bind
    {record : σ → Event vocabulary → σ} {start : σ}
    {allowed : vocabulary.Call → Prop}
    (free : ∀ history request, allowed request → guard history request)
    (unchanged : ∀ state event, allowed event.call →
      record state event = state)
    {program : Program vocabulary ε α} (uses : program.Uses allowed)
    {next : α → Program vocabulary ε β}
    {after : Except ε β → List (Event vocabulary) → Prop}
    {history : List (Event vocabulary)}
    (failed : ∀ error reached, after (.error error) reached)
    (rest : ∀ value reached,
      summary record start reached = summary record start history →
        (next value).Satisfies guard after reached) :
    (program.bind next).Satisfies guard after history :=
  uses.satisfies_bind free (fun error _ => failed error _)
    fun value later quiet => rest value _
      (summary_append record start unchanged history later quiet)

end Rules

end Program

/-! ## Recorded runs -/

/-- The same environment, writing down every call and answer. -/
def recording (environment : Environment vocabulary σ) :
    Environment vocabulary (σ × List (Event vocabulary)) :=
  fun state request =>
    ((environment state.1 request).1,
      (environment state.1 request).2,
      state.2 ++ [⟨request, (environment state.1 request).1⟩])

namespace Program

/-- The history of a run. -/
def trace
    (environment : Environment vocabulary σ)
    (program : Program vocabulary ε α) (state : σ) :
    List (Event vocabulary) :=
  (program.run (recording environment) (state, [])).2.2

/-- Recording changes neither the outcome nor the state. -/
theorem run_recording
    (environment : Environment vocabulary σ)
    (program : Program vocabulary ε α) (state : σ)
    (history : List (Event vocabulary)) :
    (program.run (recording environment) (state, history)).1 =
        (program.run environment state).1 ∧
      (program.run (recording environment) (state, history)).2.1 =
        (program.run environment state).2 := by
  refine run_simulation (recording environment) environment
    (fun left right => left.1 = right) ?_ program rfl
  rintro ⟨reached, recorded⟩ right rfl request
  exact ⟨rfl, rfl⟩

/-- What was recorded before stands in front of the history of a run. -/
theorem recorded_eq_append
    (environment : Environment vocabulary σ)
    (program : Program vocabulary ε α) (state : σ)
    (history : List (Event vocabulary)) :
    (program.run (recording environment) (state, history)).2.2 =
      history ++ program.trace environment state := by
  induction program generalizing state history with
  | done value => exact (List.append_nil history).symm
  | raise error => exact (List.append_nil history).symm
  | call request next inductionHypothesis =>
      unfold trace
      simp only [run_call, recording]
      rw [inductionHypothesis, inductionHypothesis, List.append_assoc]
      rfl

theorem trace_call
    (environment : Environment vocabulary σ)
    (request : vocabulary.Call)
    (next : vocabulary.Answer request → Program vocabulary ε α)
    (state : σ) :
    (Program.call request next).trace environment state =
      ⟨request, (environment state request).1⟩ ::
        (next (environment state request).1).trace environment
          (environment state request).2 :=
  recorded_eq_append environment _ _ [_]

/-- A run makes only the calls that its program uses. -/
theorem Uses.trace
    {allowed : vocabulary.Call → Prop}
    {program : Program vocabulary ε α} (uses : program.Uses allowed)
    (environment : Environment vocabulary σ) (state : σ) :
    ∀ event ∈ program.trace environment state, allowed event.call := by
  induction program generalizing state with
  | done value =>
      intro event member
      cases member
  | raise error =>
      intro event member
      cases member
  | call request next inductionHypothesis =>
      rw [trace_call, List.forall_mem_cons]
      exact ⟨uses.1, inductionHypothesis _ (uses.2 _) _⟩

/-- After a program that returns, the rest goes on from where it ended. -/
theorem trace_bind_of_ok
    {environment : Environment vocabulary σ}
    {program : Program vocabulary ε α} {state reached : σ} {value : α}
    (next : α → Program vocabulary ε β)
    (ran : program.run environment state = (.ok value, reached)) :
    (program.bind next).trace environment state =
      program.trace environment state ++
        (next value).trace environment reached := by
  have recorded := run_recording environment program state []
  rw [ran] at recorded
  have last : program.run (recording environment) (state, []) =
      (.ok value, reached, program.trace environment state) :=
    Prod.ext recorded.1 (Prod.ext recorded.2 rfl)
  have whole := run_bind_of_ok _ last next
  rw [trace, whole]
  exact recorded_eq_append environment (next value) reached _

/-- What is recovered from goes on from the history so far. -/
theorem trace_recover_done
    (environment : Environment vocabulary σ)
    (program : Program vocabulary ε α) (handler : ε → α) (state : σ) :
    (program.recover fun error =>
        (.done (handler error) : Program vocabulary δ α)).trace
          environment state =
      program.trace environment state := by
  unfold trace
  rw [run_recover]
  rcases program.run (recording environment) (state, []) with
    ⟨outcome, reached⟩
  cases outcome <;> rfl

theorem Satisfies.run
    {guard : List (Event vocabulary) → vocabulary.Call → Prop}
    {post : Except ε α → List (Event vocabulary) → Prop}
    {program : Program vocabulary ε α}
    {history : List (Event vocabulary)}
    (satisfied : program.Satisfies guard post history)
    (guarded : Guarded guard history)
    (environment : Environment vocabulary σ) (state : σ) :
    post (program.run (recording environment) (state, history)).1
        (program.run (recording environment) (state, history)).2.2 ∧
      Guarded guard
        (program.run (recording environment) (state, history)).2.2 := by
  induction program generalizing state history with
  | done value => exact ⟨satisfied, guarded⟩
  | raise error => exact ⟨satisfied, guarded⟩
  | call request next inductionHypothesis =>
      exact inductionHypothesis _
        (satisfied.2 (environment state request).1)
        (guarded.snoc satisfied.1) _

/-- What `Satisfies` promises of a run from its beginning. -/
theorem Satisfies.trace
    {guard : List (Event vocabulary) → vocabulary.Call → Prop}
    {post : Except ε α → List (Event vocabulary) → Prop}
    {program : Program vocabulary ε α}
    (satisfied : program.Satisfies guard post [])
    (environment : Environment vocabulary σ) (state : σ) :
    post (program.run environment state).1
        (program.trace environment state) ∧
      Guarded guard (program.trace environment state) := by
  obtain ⟨finished, guarded⟩ :=
    satisfied.run (guarded_nil guard) environment state
  rw [(run_recording environment program state []).1] at finished
  exact ⟨finished, guarded⟩

end Program

/-! ## Programs that take turns -/

/-- A program on its way: what it has called and what is left of it. -/
structure Task (vocabulary : Vocabulary) (ε α : Type) where
  history : List (Event vocabulary)
  rest : Program vocabulary ε α

namespace Task

/-- The call a task is waiting on is answered; a task at its end stays. -/
def answer
    (answers : (request : vocabulary.Call) → vocabulary.Answer request)
    (task : Task vocabulary ε α) : Task vocabulary ε α :=
  match task.rest with
  | .call request next =>
      { history := task.history ++ [⟨request, answers request⟩]
        rest := next (answers request) }
  | _ => task

/-- The call a task is waiting on. -/
def waitingOn (task : Task vocabulary ε α) : Option vocabulary.Call :=
  match task.rest with
  | .call request _ => some request
  | _ => none

/-- The invariant of a task: its past was guarded and its future is. -/
structure Sound
    (guard : List (Event vocabulary) → vocabulary.Call → Prop)
    (post : Except ε α → List (Event vocabulary) → Prop)
    (task : Task vocabulary ε α) : Prop where
  past : Guarded guard task.history
  future : task.rest.Satisfies guard post task.history

variable
  {guard : List (Event vocabulary) → vocabulary.Call → Prop}
  {post : Except ε α → List (Event vocabulary) → Prop}

theorem Sound.begin
    {program : Program vocabulary ε α}
    (satisfied : program.Satisfies guard post []) :
    Sound guard post ⟨[], program⟩ :=
  ⟨guarded_nil guard, satisfied⟩

theorem Sound.answer
    {task : Task vocabulary ε α} (sound : Sound guard post task)
    (answers : (request : vocabulary.Call) → vocabulary.Answer request) :
    Sound guard post (task.answer answers) := by
  obtain ⟨history, rest⟩ := task
  cases rest with
  | done value => exact sound
  | raise error => exact sound
  | call request next =>
      exact ⟨sound.past.snoc sound.future.1,
        sound.future.2 (answers request)⟩

/-- An answer adds at most the event of the call waited on. -/
theorem history_answer
    (answers : (request : vocabulary.Call) → vocabulary.Answer request)
    (task : Task vocabulary ε α) :
    (task.answer answers).history =
      task.history ++
        (task.waitingOn.map fun request =>
          (⟨request, answers request⟩ : Event vocabulary)).toList := by
  obtain ⟨history, rest⟩ := task
  cases rest with
  | done value => exact (List.append_nil history).symm
  | raise error => exact (List.append_nil history).symm
  | call request next => rfl

end Task

end Foundation

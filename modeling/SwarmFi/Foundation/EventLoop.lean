import SwarmFi.Foundation.History

/-!
# Tasks of one event loop

Tasks share a state and take turns.  A task that has the turn keeps it until
it ends or makes a call that suspends it; then any task may go on.  The calls
that do not suspend act on the shared state at once, so that what a task does
between two suspensions is not interrupted.

A run may be restricted by a condition on its events.  What every event that
meets the condition preserves holds in every state that such a run reaches.
-/

namespace Foundation

variable {vocabulary : Vocabulary} {ε α σ : Type}

/-- `running` is the task that has the turn, `trace` what all tasks have
called so far. -/
structure EventLoop (vocabulary : Vocabulary) (ε α σ : Type) where
  tasks : List (Task vocabulary ε α)
  shared : σ
  running : Option Nat
  trace : List (Nat × Event vocabulary)

namespace EventLoop

/-- Tasks that have not begun. -/
def start (programs : List (Program vocabulary ε α)) (shared : σ) :
    EventLoop vocabulary ε α σ where
  tasks := programs.map fun program => ⟨[], program⟩
  shared := shared
  running := none
  trace := []

/-- What a task has ended with. -/
def result (task : Task vocabulary ε α) : Option α :=
  match task.rest with
  | .done value => some value
  | _ => none

/-- Every task has ended well, with these values. -/
def Returned
    (loop : EventLoop vocabulary ε α σ) (values : List α) : Prop :=
  loop.tasks.map result = values.map some

/-- The events of one task in a trace. -/
def historyOf
    (trace : List (Nat × Event vocabulary)) (index : Nat) :
    List (Event vocabulary) :=
  (trace.filter fun item => item.1 = index).map Prod.snd

/-- Whether a program gives up the turn. -/
def yields (suspends : vocabulary.Call → Bool) :
    Program vocabulary ε α → Bool
  | .call request _ => suspends request
  | _ => true

/-- Whether a task may go on. -/
def mayGoOn (loop : EventLoop vocabulary ε α σ) (index : Nat) : Bool :=
  match loop.running with
  | none => true
  | some task => task == index

section Steps

variable
  (environment : Environment vocabulary σ)
  (suspends : vocabulary.Call → Bool)

/-- The call that a task is at is answered. -/
def event (index : Nat) (loop : EventLoop vocabulary ε α σ) :
    EventLoop vocabulary ε α σ :=
  match loop.tasks[index]? with
  | some ⟨history, .call request next⟩ =>
      let answered := environment loop.shared request
      { tasks := loop.tasks.set index
          ⟨history ++ [⟨request, answered.1⟩], next answered.1⟩
        shared := answered.2
        running :=
          if yields suspends (next answered.1) then none else some index
        trace := loop.trace ++ [(index, ⟨request, answered.1⟩)] }
  | _ => loop

/-- The states reached by events that meet the condition. -/
inductive Runs
    (condition : EventLoop vocabulary ε α σ → Nat → Prop)
    (first : EventLoop vocabulary ε α σ) :
    EventLoop vocabulary ε α σ → Prop where
  | refl : Runs condition first first
  | step {last : EventLoop vocabulary ε α σ} (index : Nat)
      (before : Runs condition first last)
      (turn : last.mayGoOn index = true)
      (met : condition last index) :
      Runs condition first (event environment suspends index last)

/-- The events of a schedule, without those that are not due. -/
def play (loop : EventLoop vocabulary ε α σ) (schedule : List Nat) :
    EventLoop vocabulary ε α σ :=
  schedule.foldl
    (fun reached index =>
      if reached.mayGoOn index then
        event environment suspends index reached
      else
        reached) loop

/-- Where the events of a schedule lead, as long as they meet the
condition. -/
def playing
    (condition : EventLoop vocabulary ε α σ → Nat → Prop)
    [∀ loop index, Decidable (condition loop index)] :
    EventLoop vocabulary ε α σ → List Nat →
      Option (EventLoop vocabulary ε α σ)
  | loop, [] => some loop
  | loop, index :: schedule =>
      if loop.mayGoOn index then
        if condition loop index then
          playing condition (event environment suspends index loop) schedule
        else
          none
      else
        playing condition loop schedule

/-- Any run at all. -/
def Reaches (first last : EventLoop vocabulary ε α σ) : Prop :=
  Runs environment suspends (fun _ _ => True) first last

end Steps

section Rules

variable
  {environment : Environment vocabulary σ}
  {suspends : vocabulary.Call → Bool}
  {condition : EventLoop vocabulary ε α σ → Nat → Prop}

theorem Runs.mono
    {weaker : EventLoop vocabulary ε α σ → Nat → Prop}
    {first last : EventLoop vocabulary ε α σ}
    (run : Runs environment suspends condition first last)
    (implied : ∀ loop index, condition loop index → weaker loop index) :
    Runs environment suspends weaker first last := by
  induction run with
  | refl => exact .refl
  | step index _ turn met inductionHypothesis =>
      exact .step index inductionHypothesis turn (implied _ _ met)

theorem Runs.trans
    {first middle last : EventLoop vocabulary ε α σ}
    (before : Runs environment suspends condition first middle)
    (after : Runs environment suspends condition middle last) :
    Runs environment suspends condition first last := by
  induction after with
  | refl => exact before
  | step index _ turn met inductionHypothesis =>
      exact .step index inductionHypothesis turn met

theorem reaches_play
    (loop : EventLoop vocabulary ε α σ) (schedule : List Nat) :
    Reaches environment suspends loop
      (play environment suspends loop schedule) := by
  induction schedule using List.reverseRecOn with
  | nil => exact .refl
  | append_singleton schedule index inductionHypothesis =>
      rw [play, List.foldl_append]
      show Reaches environment suspends loop
        (if (play environment suspends loop schedule).mayGoOn index then
          event environment suspends index
            (play environment suspends loop schedule)
        else
          play environment suspends loop schedule)
      split
      · next turn => exact .step index inductionHypothesis turn trivial
      · exact inductionHypothesis

theorem runs_of_playing
    [∀ loop index, Decidable (condition loop index)]
    {loop last : EventLoop vocabulary ε α σ} {schedule : List Nat}
    (isLast : playing environment suspends condition loop schedule =
      some last) :
    Runs environment suspends condition loop last := by
  induction schedule generalizing loop with
  | nil =>
      cases isLast
      exact .refl
  | cons index schedule inductionHypothesis =>
      rw [playing] at isLast
      split at isLast
      · next turn =>
          split at isLast
          · next met =>
              exact (Runs.step index .refl turn met).trans
                (inductionHypothesis isLast)
          · cases isLast
      · exact inductionHypothesis isLast

/-- A run that is played, with what is seen at its end. -/
theorem exists_run_of_playing
    [∀ loop index, Decidable (condition loop index)]
    {loop : EventLoop vocabulary ε α σ} (schedule : List Nat)
    {seen : EventLoop vocabulary ε α σ → Prop} [DecidablePred seen]
    (isSeen : (playing environment suspends condition loop schedule).any
      (fun last => seen last) = true) :
    ∃ last, Runs environment suspends condition loop last ∧ seen last := by
  cases isLast :
      playing environment suspends condition loop schedule with
  | none =>
      rw [isLast] at isSeen
      cases isSeen
  | some last =>
      rw [isLast] at isSeen
      exact ⟨last, runs_of_playing isLast, of_decide_eq_true isSeen⟩

/-- An event is the answer to the call that the task is at. -/
theorem event_of_call
    {loop : EventLoop vocabulary ε α σ} {index : Nat}
    {history : List (Event vocabulary)} {request : vocabulary.Call}
    {next : vocabulary.Answer request → Program vocabulary ε α}
    (at_ : loop.tasks[index]? = some ⟨history, .call request next⟩) :
    event environment suspends index loop =
      { tasks := loop.tasks.set index
          ⟨history ++ [⟨request, (environment loop.shared request).1⟩],
            next (environment loop.shared request).1⟩
        shared := (environment loop.shared request).2
        running :=
          if yields suspends (next (environment loop.shared request).1) then
            none
          else
            some index
        trace := loop.trace ++
          [(index, ⟨request, (environment loop.shared request).1⟩)] } := by
  simp only [event, at_]

/-- Either nothing happens, or a call is answered. -/
theorem event_cases
    (environment : Environment vocabulary σ)
    (suspends : vocabulary.Call → Bool)
    (loop : EventLoop vocabulary ε α σ) (index : Nat) :
    event environment suspends index loop = loop ∨
      ∃ history request next,
        loop.tasks[index]? = some ⟨history, .call request next⟩ := by
  cases found : loop.tasks[index]? with
  | none =>
      left
      simp only [event, found]
  | some task =>
      obtain ⟨history, rest⟩ := task
      cases rest with
      | done value =>
          left
          simp only [event, found]
      | raise error =>
          left
          simp only [event, found]
      | call request next => exact Or.inr ⟨history, request, next, rfl⟩

/-- What holds at the start and is preserved by every answered call that
meets the condition holds in every state reached. -/
theorem Runs.invariant
    {motive : EventLoop vocabulary ε α σ → Prop}
    (preserved : ∀ loop index history request next,
      loop.tasks[index]? = some ⟨history, .call request next⟩ →
        condition loop index → motive loop →
          motive (event environment suspends index loop))
    {first last : EventLoop vocabulary ε α σ}
    (run : Runs environment suspends condition first last)
    (holds : motive first) : motive last := by
  induction run with
  | refl => exact holds
  | @step last index _ _ met inductionHypothesis =>
      rcases event_cases environment suspends last index with
        unchanged | ⟨history, request, next, at_⟩
      · rw [unchanged]
        exact inductionHypothesis
      · exact preserved last index history request next at_ met
          inductionHypothesis

/-- What relates shared states along every call relates those of a run. -/
theorem Runs.shared_related
    (related : σ → σ → Prop) (refl : ∀ state, related state state)
    (trans : ∀ first second third,
      related first second → related second third → related first third)
    (call : ∀ state request, related state (environment state request).2)
    {first last : EventLoop vocabulary ε α σ}
    (run : Runs environment suspends condition first last) :
    related first.shared last.shared := by
  refine run.invariant
    (motive := fun loop => related first.shared loop.shared) ?_
    (refl first.shared)
  intro loop index history request next at_ _ soFar
  rw [event_of_call at_]
  exact trans _ _ _ soFar (call loop.shared request)

/-- Tasks keep the invariant of the programs they run. -/
theorem Runs.sound
    {guard : Nat → List (Event vocabulary) → vocabulary.Call → Prop}
    {post : Nat → Except ε α → List (Event vocabulary) → Prop}
    {first last : EventLoop vocabulary ε α σ}
    (run : Runs environment suspends condition first last)
    (sound : ∀ index (task : Task vocabulary ε α),
      first.tasks[index]? = some task →
        task.Sound (guard index) (post index)) :
    ∀ index (task : Task vocabulary ε α), last.tasks[index]? = some task →
      task.Sound (guard index) (post index) := by
  refine run.invariant
    (motive := fun loop => ∀ index (task : Task vocabulary ε α),
      loop.tasks[index]? = some task →
        task.Sound (guard index) (post index)) ?_ sound
  intro loop index history request next at_ _ soFar tested task found
  rw [event_of_call at_] at found
  simp only [List.getElem?_set] at found
  split at found
  · next same =>
      subst same
      split at found
      · cases found
        have current := soFar index _ at_
        exact ⟨current.past.snoc current.future.1, current.future.2 _⟩
      · cases found
  · exact soFar tested task found

end Rules

theorem getElem?_start
    (programs : List (Program vocabulary ε α)) (shared : σ) (index : Nat) :
    (start programs shared).tasks[index]? =
      programs[index]?.map fun program => ⟨[], program⟩ :=
  List.getElem?_map ..

/-! ## Ends of runs -/

theorem Runs.length_tasks
    {environment : Environment vocabulary σ}
    {suspends : vocabulary.Call → Bool}
    {condition : EventLoop vocabulary ε α σ → Nat → Prop}
    {first last : EventLoop vocabulary ε α σ}
    (run : Runs environment suspends condition first last) :
    last.tasks.length = first.tasks.length := by
  refine run.invariant
    (motive := fun loop => loop.tasks.length = first.tasks.length) ?_ rfl
  intro loop index history request next at_ _ soFar
  rw [event_of_call at_, ← soFar]
  exact List.length_set

theorem result_eq_some
    {task : Task vocabulary ε α} {value : α}
    (ended : result task = some value) :
    task = ⟨task.history, .done value⟩ := by
  obtain ⟨history, rest⟩ := task
  cases rest with
  | done other =>
      cases ended
      rfl
  | raise error => cases ended
  | call request next => cases ended

theorem Returned.length_eq
    {loop : EventLoop vocabulary ε α σ} {values : List α}
    (returned : loop.Returned values) :
    loop.tasks.length = values.length := by
  simpa using congrArg List.length returned

theorem Returned.ended
    {loop : EventLoop vocabulary ε α σ} {values : List α}
    (returned : loop.Returned values) {index : Nat} {value : α}
    (isValue : values[index]? = some value) :
    ∃ history, loop.tasks[index]? = some ⟨history, .done value⟩ := by
  have there := congrArg (fun results => results[index]?) returned
  simp only [List.getElem?_map, isValue, Option.map_some,
    Option.map_eq_some_iff] at there
  obtain ⟨task, found, ended⟩ := there
  exact ⟨task.history, by rw [found, ← result_eq_some ended]⟩

theorem exists_returned
    {loop : EventLoop vocabulary ε α σ}
    (ended : ∀ task ∈ loop.tasks, (result task).isSome) :
    ∃ values, loop.Returned values := by
  refine ⟨loop.tasks.filterMap result, ?_⟩
  rw [Returned, List.map_filterMap_some_eq_filter_map_isSome]
  refine (List.filter_eq_self.mpr ?_).symm
  intro found member
  obtain ⟨task, isTask, rfl⟩ := List.mem_map.mp member
  exact ended task isTask

/-! ## Histories -/

@[simp]
theorem historyOf_nil (index : Nat) :
    historyOf ([] : List (Nat × Event vocabulary)) index = [] := rfl

theorem historyOf_snoc
    (trace : List (Nat × Event vocabulary)) (mover : Nat)
    (event : Event vocabulary) (index : Nat) :
    historyOf (trace ++ [(mover, event)]) index =
      if mover = index then
        historyOf trace index ++ [event]
      else
        historyOf trace index := by
  rw [historyOf, List.filter_append, List.map_append]
  split
  · next same => simp [historyOf, same]
  · next different => simp [historyOf, different]

/-- A task remembers its own events of the trace. -/
theorem Runs.history
    {environment : Environment vocabulary σ}
    {suspends : vocabulary.Call → Bool}
    {condition : EventLoop vocabulary ε α σ → Nat → Prop}
    {programs : List (Program vocabulary ε α)} {shared : σ}
    {last : EventLoop vocabulary ε α σ}
    (run : Runs environment suspends condition (start programs shared)
      last) {index : Nat} {task : Task vocabulary ε α}
    (found : last.tasks[index]? = some task) :
    task.history = historyOf last.trace index := by
  refine run.invariant
    (motive := fun loop => ∀ index (task : Task vocabulary ε α),
      loop.tasks[index]? = some task →
        task.history = historyOf loop.trace index) ?_ ?_ index task found
  · intro loop mover history request next at_ _ soFar tested task found
    rw [event_of_call at_] at found ⊢
    simp only [historyOf_snoc]
    simp only [List.getElem?_set] at found
    split at found
    · next same =>
        subst same
        split at found
        · cases found
          rw [if_pos rfl, ← soFar mover _ at_]
        · cases found
    · next different =>
        rw [if_neg different]
        exact soFar tested task found
  · intro tested task begun
    rw [getElem?_start, Option.map_eq_some_iff] at begun
    obtain ⟨program, _, rfl⟩ := begun
    rfl

end EventLoop

end Foundation

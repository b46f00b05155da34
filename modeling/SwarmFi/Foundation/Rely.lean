import SwarmFi.Foundation.EventLoop
import SwarmFi.Foundation.Triple

/-!
# Tasks that rely on each other

Each task of an event loop is reasoned about alone, while the others keep to
what they guarantee.  What a task knows between two of its calls has to be
kept by every step that the others may make.

An assertion is about a view: the shared state, the trace of all calls and a
ghost state that the proof carries along.
-/

namespace Foundation

variable {vocabulary : Vocabulary} {ε α β σ γ : Type}

structure View (vocabulary : Vocabulary) (σ γ : Type) where
  shared : σ
  trace : List (Nat × Event vocabulary)
  ghost : γ

/-- `permitted` is what is assumed of the schedule, `invariant` what holds
between all calls, and `guarantee` what a call of a task may do. -/
structure Discipline (vocabulary : Vocabulary) (σ γ : Type) where
  setting : Setting vocabulary σ
  permitted : List (Nat × Event vocabulary) → Nat → vocabulary.Call → Prop
  invariant : View vocabulary σ γ → Prop
  guarantee : Nat → View vocabulary σ γ → View vocabulary σ γ → Prop

namespace Discipline

variable (discipline : Discipline vocabulary σ γ)

/-- The view after a call of the task. -/
def after
    (view : View vocabulary σ γ) (task : Nat) (request : vocabulary.Call)
    (ghost : γ) : View vocabulary σ γ where
  shared := (discipline.setting.environment view.shared request).2
  trace := view.trace ++
    [(task,
      ⟨request, (discipline.setting.environment view.shared request).1⟩)]
  ghost := ghost

/-- The calls of other tasks leave the assertion true. -/
def Kept
    (task : Nat) (assertion : View vocabulary σ γ → Prop) : Prop :=
  ∀ other before request ghost, other ≠ task →
    discipline.guarantee other before
        (discipline.after before other request ghost) →
      discipline.setting.sound
          (discipline.setting.environment before.shared request).2 →
        assertion before →
          assertion (discipline.after before other request ghost)

/-- What a call of the task makes of the precondition. -/
def Steps
    (task : Nat) (pre : View vocabulary σ γ → Prop)
    (request : vocabulary.Call)
    (middle : vocabulary.Answer request → View vocabulary σ γ → Prop) :
    Prop :=
  ∀ view, discipline.invariant view → pre view →
    discipline.permitted view.trace task request →
      discipline.setting.sound
          (discipline.setting.environment view.shared request).2 →
        ∃ ghost,
          discipline.guarantee task view
              (discipline.after view task request ghost) ∧
            discipline.invariant
                (discipline.after view task request ghost) ∧
              middle
                (discipline.setting.environment view.shared request).1
                (discipline.after view task request ghost)

/-- From the precondition the task reaches the postcondition, whatever the
others do within their guarantee. -/
def Local
    (task : Nat) : Program vocabulary ε α →
      (View vocabulary σ γ → Prop) → (α → View vocabulary σ γ → Prop) → Prop
  | .done value, pre, post =>
      ∀ view, discipline.invariant view →
        discipline.setting.sound view.shared → pre view → post value view
  | .raise _, _, _ => True
  | .call request next, pre, post =>
      ∃ middle, discipline.Steps task pre request middle ∧
        ∀ answer, discipline.Kept task (middle answer) ∧
          Local task (next answer) (middle answer) post

variable {discipline} {task : Nat}

/-! ## Kept assertions -/

theorem Kept.and
    {first second : View vocabulary σ γ → Prop}
    (firstKept : discipline.Kept task first)
    (secondKept : discipline.Kept task second) :
    discipline.Kept task fun view => first view ∧ second view :=
  fun other before request ghost different guaranteed sound holds =>
    ⟨firstKept other before request ghost different guaranteed sound holds.1,
      secondKept other before request ghost different guaranteed sound
        holds.2⟩

theorem Kept.exists
    {ι : Sort*} {assertion : ι → View vocabulary σ γ → Prop}
    (kept : ∀ index, discipline.Kept task (assertion index)) :
    discipline.Kept task fun view => ∃ index, assertion index view :=
  fun other before request ghost different guaranteed sound ⟨index, holds⟩ =>
    ⟨index,
      kept index other before request ghost different guaranteed sound holds⟩

theorem kept_fact (fact : Prop) :
    discipline.Kept task fun _ : View vocabulary σ γ => fact :=
  fun _ _ _ _ _ _ _ holds => holds

/-- Every call of every task leaves the assertion true. -/
def Persistent
    (discipline : Discipline vocabulary σ γ)
    (assertion : View vocabulary σ γ → Prop) : Prop :=
  ∀ mover before request ghost, assertion before →
    assertion (discipline.after before mover request ghost)

theorem Persistent.kept
    {assertion : View vocabulary σ γ → Prop}
    (persistent : discipline.Persistent assertion) :
    discipline.Kept task assertion :=
  fun other before request ghost _ _ _ =>
    persistent other before request ghost

/-! ## Rules -/

namespace Local

variable {pre : View vocabulary σ γ → Prop}

theorem strengthen
    {stronger : View vocabulary σ γ → Prop}
    {program : Program vocabulary ε α}
    {post : α → View vocabulary σ γ → Prop}
    (triple : discipline.Local task program pre post)
    (before : ∀ view, discipline.invariant view →
      discipline.setting.sound view.shared → stronger view → pre view) :
    discipline.Local task program stronger post := by
  cases program with
  | done value =>
      exact fun view holds sound start =>
        triple view holds sound (before view holds sound start)
  | raise error => trivial
  | call request next =>
      obtain ⟨middle, steps, rest⟩ := triple
      refine ⟨middle, ?_, rest⟩
      intro view holds start permitted sound
      exact steps view holds
        (before view holds
          (discipline.setting.before _ request sound) start) permitted sound

theorem weaken
    {program : Program vocabulary ε α}
    {post weaker : α → View vocabulary σ γ → Prop}
    (triple : discipline.Local task program pre post)
    (implied : ∀ value view, discipline.invariant view →
      discipline.setting.sound view.shared →
        post value view → weaker value view) :
    discipline.Local task program pre weaker := by
  induction program generalizing pre with
  | done value =>
      exact fun view holds sound start =>
        implied value view holds sound (triple view holds sound start)
  | raise error => trivial
  | call request next inductionHypothesis =>
      obtain ⟨middle, steps, rest⟩ := triple
      exact ⟨middle, steps, fun answer =>
        ⟨(rest answer).1, inductionHypothesis answer (rest answer).2⟩⟩

theorem call_bind
    {request : vocabulary.Call}
    {next : vocabulary.Answer request → Program vocabulary ε α}
    {post : α → View vocabulary σ γ → Prop}
    (middle : vocabulary.Answer request → View vocabulary σ γ → Prop)
    (steps : discipline.Steps task pre request middle)
    (kept : ∀ answer, discipline.Kept task (middle answer))
    (rest : ∀ answer,
      discipline.Local task (next answer) (middle answer) post) :
    discipline.Local task ((Program.call request .done).bind next) pre
      post :=
  ⟨middle, steps, fun answer => ⟨kept answer, rest answer⟩⟩

theorem bind
    {program : Program vocabulary ε α}
    {next : α → Program vocabulary ε β}
    {middle : α → View vocabulary σ γ → Prop}
    {post : β → View vocabulary σ γ → Prop}
    (first : discipline.Local task program pre middle)
    (rest : ∀ value,
      discipline.Local task (next value) (middle value) post) :
    discipline.Local task (program.bind next) pre post := by
  induction program generalizing pre with
  | done value => exact (rest value).strengthen first
  | raise error => trivial
  | call request continuation inductionHypothesis =>
      obtain ⟨between, steps, later⟩ := first
      exact ⟨between, steps, fun answer =>
        ⟨(later answer).1, inductionHypothesis answer (later answer).2⟩⟩

/-- What is known only to exist may be named. -/
theorem exists_pre
    {ι : Sort*} {before : ι → View vocabulary σ γ → Prop}
    {program : Program vocabulary ε α}
    {post : α → View vocabulary σ γ → Prop}
    (triple : ∀ index, discipline.Local task program (before index) post) :
    discipline.Local task program (fun view => ∃ index, before index view)
      post := by
  induction program generalizing ι with
  | done value =>
      rintro view holds sound ⟨index, start⟩
      exact triple index view holds sound start
  | raise error => trivial
  | call request next inductionHypothesis =>
      choose middle steps rest using triple
      refine ⟨fun answer view => ∃ index, middle index answer view, ?_,
        fun answer => ⟨Kept.exists fun index => (rest index answer).1,
          inductionHypothesis answer fun index => (rest index answer).2⟩⟩
      rintro view holds ⟨index, start⟩ permitted sound
      obtain ⟨ghost, guaranteed, stillHolds, reached⟩ :=
        steps index view holds start permitted sound
      exact ⟨ghost, guaranteed, stillHolds, index, reached⟩

/-- The frame rule. -/
theorem frame
    {program : Program vocabulary ε α}
    {post : α → View vocabulary σ γ → Prop}
    (triple : discipline.Local task program pre post)
    {assertion : View vocabulary σ γ → Prop}
    (persistent : discipline.Persistent assertion) :
    discipline.Local task program (fun view => pre view ∧ assertion view)
      fun value view => post value view ∧ assertion view := by
  induction program generalizing pre with
  | done value =>
      exact fun view holds sound start =>
        ⟨triple view holds sound start.1, start.2⟩
  | raise error => trivial
  | call request next inductionHypothesis =>
      obtain ⟨middle, steps, rest⟩ := triple
      refine ⟨fun answer view => middle answer view ∧ assertion view, ?_,
        fun answer => ⟨(rest answer).1.and persistent.kept,
          inductionHypothesis answer (rest answer).2⟩⟩
      intro view holds start permitted sound
      obtain ⟨ghost, guaranteed, stillHolds, reached⟩ :=
        steps view holds start.1 permitted sound
      exact ⟨ghost, guaranteed, stillHolds, reached,
        persistent task view request ghost start.2⟩

/-- A condition that does not speak of the view. -/
theorem of_fact
    {fact : Prop} {program : Program vocabulary ε α}
    {post : α → View vocabulary σ γ → Prop}
    (triple : fact → discipline.Local task program pre post) :
    discipline.Local task program (fun view => fact ∧ pre view) post :=
  (exists_pre triple).strengthen fun _ _ _ ⟨holds, start⟩ => ⟨holds, start⟩

theorem ofExcept
    {outcome : Except ε α} {post : α → View vocabulary σ γ → Prop}
    (implied : ∀ value, outcome = .ok value → ∀ view, pre view →
      post value view) :
    discipline.Local task
      (Program.ofExcept outcome : Program vocabulary ε α) pre post := by
  cases outcome with
  | ok value => exact fun view _ _ start => implied value rfl view start
  | error error => trivial

/-- A program whose calls leave an assertion true, whatever they answer. -/
theorem of_uses
    {allowed : vocabulary.Call → Prop} {program : Program vocabulary ε α}
    (uses : program.Uses allowed)
    (kept : discipline.Kept task pre)
    (quiet : ∀ request, allowed request →
      discipline.Steps task pre request fun _ => pre) :
    discipline.Local task program pre fun _ => pre := by
  induction program with
  | done value => exact fun _ _ _ start => start
  | raise error => trivial
  | call request next inductionHypothesis =>
      exact ⟨fun _ => pre, quiet request uses.1, fun answer =>
        ⟨kept, inductionHypothesis answer (uses.2 answer)⟩⟩

end Local

/-! ## Runs -/

/-- Every call is one that is permitted. -/
def Permits
    (permitted : List (Nat × Event vocabulary) → Nat → vocabulary.Call →
      Prop)
    (loop : EventLoop vocabulary ε α σ) (index : Nat) : Prop :=
  ∀ history request next,
    loop.tasks[index]? = some ⟨history, .call request next⟩ →
      permitted loop.trace index request

instance
    (permitted : List (Nat × Event vocabulary) → Nat → vocabulary.Call →
      Prop)
    [∀ trace task request, Decidable (permitted trace task request)]
    (loop : EventLoop vocabulary ε α σ) (index : Nat) :
    Decidable (Permits permitted loop index) :=
  match found : loop.tasks[index]? with
  | some ⟨_, .call request _⟩ =>
      decidable_of_iff (permitted loop.trace index request) (by
        rw [Permits]
        constructor
        · intro isPermitted _ _ _ same
          rw [found] at same
          cases same
          exact isPermitted
        · exact fun permits => permits _ _ _ found)
  | some ⟨_, .done _⟩ => isTrue fun _ _ _ same => by
      rw [found] at same
      cases same
  | some ⟨_, .raise _⟩ => isTrue fun _ _ _ same => by
      rw [found] at same
      cases same
  | none => isTrue fun _ _ _ same => by
      rw [found] at same
      cases same

/-- All that the tasks know holds of the view. -/
structure Knows
    (discipline : Discipline vocabulary σ γ)
    (posts : Nat → α → View vocabulary σ γ → Prop)
    (tasks : List (Task vocabulary ε α)) (view : View vocabulary σ γ) :
    Prop where
  invariant : discipline.invariant view
  tasks : ∀ (index : Nat) (running : Task vocabulary ε α),
    tasks[index]? = some running →
      ∃ pre, discipline.Kept index pre ∧ pre view ∧
        discipline.Local index running.rest pre (posts index)

/-- Tasks that have not begun know their preconditions. -/
theorem Knows.start
    {posts : Nat → α → View vocabulary σ γ → Prop}
    {programs : List (Program vocabulary ε α)} {shared : σ} {ghost : γ}
    {pre : Nat → View vocabulary σ γ → Prop}
    (holds : discipline.invariant ⟨shared, [], ghost⟩)
    (kept : ∀ index, discipline.Kept index (pre index))
    (met : ∀ index, pre index ⟨shared, [], ghost⟩)
    (triples : ∀ (index : Nat) (program : Program vocabulary ε α),
      programs[index]? = some program →
        discipline.Local index program (pre index) (posts index)) :
    Knows discipline posts (EventLoop.start programs shared).tasks
      ⟨shared, [], ghost⟩ := by
  refine ⟨holds, fun index running found => ?_⟩
  rw [EventLoop.getElem?_start, Option.map_eq_some_iff] at found
  obtain ⟨program, isProgram, rfl⟩ := found
  exact ⟨pre index, kept index, met index,
    triples index program isProgram⟩

theorem Knows.event
    {posts : Nat → α → View vocabulary σ γ → Prop}
    {tasks : List (Task vocabulary ε α)} {view : View vocabulary σ γ}
    (knows : Knows discipline posts tasks view) {index : Nat}
    {history : List (Event vocabulary)} {request : vocabulary.Call}
    {next : vocabulary.Answer request → Program vocabulary ε α}
    (at_ : tasks[index]? = some ⟨history, .call request next⟩)
    (permitted : discipline.permitted view.trace index request)
    (sound : discipline.setting.sound
      (discipline.setting.environment view.shared request).2)
    (extended : List (Event vocabulary)) :
    ∃ ghost, Knows discipline posts
      (tasks.set index ⟨extended,
        next (discipline.setting.environment view.shared request).1⟩)
      (discipline.after view index request ghost) := by
  obtain ⟨_, _, start, middle, steps, rest⟩ := knows.tasks index _ at_
  obtain ⟨ghost, guaranteed, stillHolds, reached⟩ :=
    steps view knows.invariant start permitted sound
  refine ⟨ghost, stillHolds, fun tested running found => ?_⟩
  simp only [List.getElem?_set] at found
  split at found
  · next same =>
      subst same
      split at found
      · cases found
        exact ⟨_, (rest _).1, reached, (rest _).2⟩
      · cases found
  · next different =>
      obtain ⟨pre, kept, holds, later⟩ := knows.tasks tested running found
      exact ⟨pre, kept,
        kept index view request ghost different guaranteed sound holds,
        later⟩

/-- In every state that a run of permitted calls reaches, what the tasks know
holds. -/
theorem Knows.run
    {suspends : vocabulary.Call → Bool}
    {posts : Nat → α → View vocabulary σ γ → Prop}
    {programs : List (Program vocabulary ε α)} {shared : σ} {ghost : γ}
    {last : EventLoop vocabulary ε α σ}
    (start : Knows discipline posts
      (EventLoop.start programs shared).tasks ⟨shared, [], ghost⟩)
    (run : EventLoop.Runs discipline.setting.environment suspends
      (Permits discipline.permitted) (.start programs shared) last)
    (sound : discipline.setting.sound last.shared) :
    ∃ reached, Knows discipline posts last.tasks
      ⟨last.shared, last.trace, reached⟩ := by
  refine run.invariant
    (motive := fun loop => discipline.setting.sound loop.shared →
      ∃ reached, Knows discipline posts loop.tasks
        ⟨loop.shared, loop.trace, reached⟩) ?_ (fun _ => ⟨ghost, start⟩)
    sound
  intro loop index history request next at_ permitted soFar soundNow
  rw [EventLoop.event_of_call at_] at soundNow ⊢
  obtain ⟨reached, knows⟩ :=
    soFar (discipline.setting.before _ request soundNow)
  exact knows.event at_ (permitted history request next at_) soundNow _

/-- A task that has ended has reached its postcondition. -/
theorem Knows.post
    {posts : Nat → α → View vocabulary σ γ → Prop}
    {tasks : List (Task vocabulary ε α)} {view : View vocabulary σ γ}
    (knows : Knows discipline posts tasks view)
    (sound : discipline.setting.sound view.shared) {index : Nat}
    {history : List (Event vocabulary)} {value : α}
    (ended : tasks[index]? = some ⟨history, .done value⟩) :
    posts index value view := by
  obtain ⟨_, _, holds, finished⟩ := knows.tasks index _ ended
  exact finished view knows.invariant sound holds

end Discipline

end Foundation

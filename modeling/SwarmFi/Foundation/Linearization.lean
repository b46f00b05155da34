import SwarmFi.Foundation.Rely

/-!
# Calls that take effect at one event

Tasks call an object that they share, each of them once.  A plain object
answers calls one after another.  Where every task lets its call take effect
at one of its own events, the answers of all tasks are those of the plain
object, called in the order of these events; so a call that has returned
before another one began stands before it.

The ghost state lists the calls that have taken effect, with the answers that
the plain object gives to them.
-/

namespace Foundation

variable {vocabulary : Vocabulary} {ε α σ τ ω : Type}

/-- The answers of a plain object to calls one after another, and what becomes
of it. -/
def replay (object : τ → ω → α × τ) (start : τ) (calls : List ω) :
    List α × τ :=
  calls.foldl
    (fun reached call =>
      (reached.1 ++ [(object reached.2 call).1], (object reached.2 call).2))
    ([], start)

/-- The call of a task has taken effect and will be answered so. -/
structure Effect (ω α : Type) where
  task : Nat
  call : ω
  answer : α

/-- In this order the plain object gives the answers, and every call has an
event of its own that stands for it. -/
structure Linearizes
    (object : τ → ω → α × τ) (start : τ) (calls : List ω)
    (answers : List α) (trace : List (Nat × Event vocabulary))
    (order : List Nat) : Prop where
  all : order.Perm (List.range calls.length)
  own : order.Sublist (trace.map Prod.fst)
  plain : order.map (answers[·]?) =
    (replay object start (order.filterMap (calls[·]?))).1.map some

section Replay

variable (object : τ → ω → α × τ) (start : τ)

theorem replay_snoc (calls : List ω) (call : ω) :
    replay object start (calls ++ [call]) =
      ((replay object start calls).1 ++
          [(object (replay object start calls).2 call).1],
        (object (replay object start calls).2 call).2) := by
  rw [replay, List.foldl_append]
  rfl

/-- The plain object after the calls that have taken effect. -/
def stateAfter (effects : List (Effect ω α)) : τ :=
  (replay object start (effects.map Effect.call)).2

/-- What is noted when a call takes effect. -/
def nextEffect (effects : List (Effect ω α)) (task : Nat) (call : ω) :
    Effect ω α where
  task := task
  call := call
  answer := (object (stateAfter object start effects) call).1

@[simp]
theorem stateAfter_nil :
    stateAfter object start ([] : List (Effect ω α)) = start := rfl

theorem stateAfter_next (effects : List (Effect ω α)) (task : Nat)
    (call : ω) :
    stateAfter object start
        (effects ++ [nextEffect object start effects task call]) =
      (object (stateAfter object start effects) call).2 := by
  rw [stateAfter, List.map_append, List.map_singleton, replay_snoc]
  rfl

end Replay

/-! ## Effects in a run -/

abbrev EffectView (vocabulary : Vocabulary) (σ ω α : Type) :=
  View vocabulary σ (List (Effect ω α))

/-- The answers noted are those of the plain object, one for each task that
has let its call take effect. -/
structure Effective
    (object : τ → ω → α × τ) (start : τ) (calls : List ω)
    (shows : EffectView vocabulary σ ω α → Prop)
    (view : EffectView vocabulary σ ω α) : Prop where
  answers : (replay object start (view.ghost.map Effect.call)).1 =
    view.ghost.map Effect.answer
  once : (view.ghost.map Effect.task).Nodup
  calls : ∀ effect ∈ view.ghost, calls[effect.task]? = some effect.call
  own : (view.ghost.map Effect.task).Sublist (view.trace.map Prod.fst)
  shown : shows view

/-- At an event of its own a task may let its call take effect. -/
def OwnEffect (task : Nat) (before after : EffectView vocabulary σ ω α) :
    Prop :=
  after.ghost = before.ghost ∨
    ∃ effect : Effect ω α, effect.task = task ∧
      after.ghost = before.ghost ++ [effect]

def linearization
    (setting : Setting vocabulary σ) (object : τ → ω → α × τ) (start : τ)
    (calls : List ω) (shows : EffectView vocabulary σ ω α → Prop) :
    Discipline vocabulary σ (List (Effect ω α)) where
  setting := setting
  permitted := fun _ _ _ => True
  invariant := Effective object start calls shows
  guarantee := OwnEffect

/-- The call of the task has not taken effect. -/
def Waits (task : Nat) (view : EffectView vocabulary σ ω α) : Prop :=
  task ∉ view.ghost.map Effect.task

/-- The call of the task has taken effect and is answered so. -/
def Settled (task : Nat) (answer : α) (view : EffectView vocabulary σ ω α) :
    Prop :=
  ∃ effect ∈ view.ghost, effect.task = task ∧ effect.answer = answer

section Rules

variable
  {setting : Setting vocabulary σ} {object : τ → ω → α × τ} {start : τ}
  {calls : List ω} {shows : EffectView vocabulary σ ω α → Prop}
  {task : Nat}

theorem kept_waits :
    (linearization setting object start calls shows).Kept task
      (Waits task) := by
  intro other before request ghost different own _ waits
  rcases own with same | ⟨effect, isOther, extended⟩
  · rw [Waits, same]
    exact waits
  · rw [Waits, extended, List.map_append, List.map_singleton,
      List.mem_append, List.mem_singleton, isOther]
    intro member
    rcases member with earlier | last
    · exact waits earlier
    · exact different last.symm

theorem kept_settled (answer : α) :
    (linearization setting object start calls shows).Kept task
      (Settled task answer) := by
  intro other before request ghost _ own _ settled
  obtain ⟨effect, member, parts⟩ := settled
  rcases own with same | ⟨_, _, extended⟩
  · refine ⟨effect, ?_, parts⟩
    rw [same]
    exact member
  · refine ⟨effect, ?_, parts⟩
    rw [extended]
    exact List.mem_append_left _ member

/-- What a call does may depend on the view. -/
theorem Discipline.Steps.split
    {γ : Type} {discipline : Discipline vocabulary σ γ}
    {pre : View vocabulary σ γ → Prop} {request : vocabulary.Call}
    {middle : vocabulary.Answer request → View vocabulary σ γ → Prop}
    (condition : View vocabulary σ γ → Prop)
    (met : discipline.Steps task
      (fun view => pre view ∧ condition view) request middle)
    (unmet : discipline.Steps task
      (fun view => pre view ∧ ¬ condition view) request middle) :
    discipline.Steps task pre request middle := by
  intro view holds start permitted sound
  by_cases isMet : condition view
  · exact met view holds ⟨start, isMet⟩ permitted sound
  · exact unmet view holds ⟨start, isMet⟩ permitted sound

/-- An event that lets nothing take effect. -/
theorem steps_silent
    {pre : EffectView vocabulary σ ω α → Prop} {request : vocabulary.Call}
    {middle : vocabulary.Answer request → EffectView vocabulary σ ω α → Prop}
    (reached : ∀ view, Effective object start calls shows view → pre view →
      setting.sound (setting.environment view.shared request).2 →
      shows ((linearization setting object start calls shows).after view task
          request view.ghost) ∧
        middle (setting.environment view.shared request).1
          ((linearization setting object start calls shows).after view task
            request view.ghost)) :
    (linearization setting object start calls shows).Steps task pre request
      middle := by
  intro view effective isPre _ sound
  obtain ⟨stillShows, isMiddle⟩ := reached view effective isPre sound
  refine ⟨view.ghost, Or.inl rfl, ⟨effective.answers, effective.once,
    effective.calls, ?_, stillShows⟩, isMiddle⟩
  rw [Discipline.after, List.map_append]
  exact effective.own.trans (List.sublist_append_left _ _)

/-- The event at which the call of the task takes effect. -/
theorem steps_effect
    {call : ω} (isCall : calls[task]? = some call)
    {pre : EffectView vocabulary σ ω α → Prop} {request : vocabulary.Call}
    {middle : vocabulary.Answer request → EffectView vocabulary σ ω α → Prop}
    (waiting : ∀ view, pre view → Waits task view)
    (reached : ∀ view, Effective object start calls shows view → pre view →
      setting.sound (setting.environment view.shared request).2 →
      let after := (linearization setting object start calls shows).after view
        task request
        (view.ghost ++ [nextEffect object start view.ghost task call])
      shows after ∧
        (Settled task (object (stateAfter object start view.ghost) call).1
          after → middle (setting.environment view.shared request).1 after)) :
    (linearization setting object start calls shows).Steps task pre request
      middle := by
  intro view effective isPre _ sound
  obtain ⟨nowShows, isMiddle⟩ := reached view effective isPre sound
  have waits := waiting view isPre
  have settled : Settled task
      (object (stateAfter object start view.ghost) call).1
      ((linearization setting object start calls shows).after view task
        request
        (view.ghost ++ [nextEffect object start view.ghost task call])) :=
    ⟨_, List.mem_append_right _ (List.mem_singleton_self _), rfl, rfl⟩
  refine ⟨_, Or.inr ⟨_, rfl, rfl⟩, ⟨?_, ?_, ?_, ?_, nowShows⟩,
    isMiddle settled⟩
  · rw [Discipline.after, List.map_append, List.map_append,
      List.map_singleton, List.map_singleton, replay_snoc, effective.answers]
    rfl
  · rw [Discipline.after, List.map_append, List.map_singleton]
    refine effective.once.append (List.nodup_singleton _) ?_
    rw [List.disjoint_singleton]
    exact waits
  · intro effect member
    rcases List.mem_append.mp member with earlier | last
    · exact effective.calls effect earlier
    · rw [List.mem_singleton.mp last]
      exact isCall
  · rw [Discipline.after, List.map_append, List.map_append,
      List.map_singleton, List.map_singleton]
    exact effective.own.append (List.Sublist.refl _)

/-! ## The end of a run -/

/-- The calls are those that stand at the places of the tasks. -/
theorem filterMap_tasks
    {effects : List (Effect ω α)}
    (isCall : ∀ effect ∈ effects, calls[effect.task]? = some effect.call) :
    (effects.map Effect.task).filterMap (calls[·]?) =
      effects.map Effect.call := by
  rw [List.filterMap_map, ← List.filterMap_eq_map]
  exact List.filterMap_congr isCall

/-- Once every task has ended with the answer that was noted, the order of the
effects is one in which the plain object gives all answers. -/
theorem Effective.linearizes
    {view : EffectView vocabulary σ ω α}
    (effective : Effective object start calls shows view) {answers : List α}
    (counted : answers.length = calls.length)
    (settled : ∀ (task : Nat) (answer : α), answers[task]? = some answer →
      Settled task answer view) :
    Linearizes object start calls answers view.trace
      (view.ghost.map Effect.task) := by
  have answered : ∀ effect ∈ view.ghost,
      answers[effect.task]? = some effect.answer := by
    intro effect member
    have inRange : effect.task < answers.length := by
      rw [counted]
      exact (List.getElem?_eq_some_iff.mp (effective.calls effect member)).1
    have isAnswer := List.getElem?_eq_getElem inRange
    obtain ⟨noted, isNoted, sameTask, sameAnswer⟩ :=
      settled effect.task _ isAnswer
    have same : noted = effect :=
      List.inj_on_of_nodup_map effective.once isNoted member sameTask
    rw [isAnswer, ← sameAnswer, same]
  constructor
  · refine (List.perm_ext_iff_of_nodup effective.once List.nodup_range).mpr
      fun task => ?_
    rw [List.mem_range]
    constructor
    · intro member
      obtain ⟨effect, isEffect, rfl⟩ := List.mem_map.mp member
      exact (List.getElem?_eq_some_iff.mp
        (effective.calls effect isEffect)).1
    · intro inRange
      rw [← counted] at inRange
      obtain ⟨effect, isEffect, rfl, _⟩ :=
        settled task _ (List.getElem?_eq_getElem inRange)
      exact List.mem_map_of_mem isEffect
  · exact effective.own
  · rw [filterMap_tasks effective.calls, effective.answers, List.map_map,
      List.map_map]
    exact List.map_congr_left answered

end Rules

end Foundation

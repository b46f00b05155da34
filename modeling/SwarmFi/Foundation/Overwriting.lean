import Mathlib.Data.List.Induction
import Mathlib.Logic.Function.Basic

/-!
# Reads and writes that overlap

Tasks read a value, extend what they have read and write it back.  A write
replaces the value by what its task had read, with the task's own part at the
end: all that was written in between is gone.
-/

namespace Foundation

inductive Access where
  | read
  | write
  | neither
deriving DecidableEq

/-- The tasks whose parts are in the value, and those whose parts a task has
found there. -/
structure Overlap where
  current : List Nat
  seen : Nat → List Nat

def Overlap.next (overlap : Overlap) (item : Nat × Access) : Overlap :=
  match item.2 with
  | .read =>
      { overlap with
        seen := Function.update overlap.seen item.1 overlap.current }
  | .write => { overlap with current := overlap.seen item.1 ++ [item.1] }
  | .neither => overlap

def overlapOf (accesses : List (Nat × Access)) : Overlap :=
  accesses.foldl Overlap.next ⟨[], fun _ => []⟩

/-- The tasks whose parts are left, in their order in the value. -/
def survivors (accesses : List (Nat × Access)) : List Nat :=
  (overlapOf accesses).current

/-- The tasks that have written, in the order of their writes. -/
def writers (accesses : List (Nat × Access)) : List Nat :=
  accesses.filterMap fun item =>
    if item.2 = .write then some item.1 else none

theorem overlapOf_snoc
    (accesses : List (Nat × Access)) (item : Nat × Access) :
    overlapOf (accesses ++ [item]) = (overlapOf accesses).next item := by
  rw [overlapOf, List.foldl_append]
  rfl

/-- A read leaves the value as it is, and its task finds all of it. -/
theorem overlapOf_read (accesses : List (Nat × Access)) (task : Nat) :
    survivors (accesses ++ [(task, .read)]) = survivors accesses ∧
      (overlapOf (accesses ++ [(task, .read)])).seen =
        Function.update (overlapOf accesses).seen task
          (survivors accesses) := by
  rw [survivors, overlapOf_snoc]
  exact ⟨rfl, rfl⟩

/-- A write leaves what its task had found, and its own part. -/
theorem overlapOf_write (accesses : List (Nat × Access)) (task : Nat) :
    survivors (accesses ++ [(task, .write)]) =
        (overlapOf accesses).seen task ++ [task] ∧
      (overlapOf (accesses ++ [(task, .write)])).seen =
        (overlapOf accesses).seen := by
  rw [survivors, overlapOf_snoc]
  exact ⟨rfl, rfl⟩

theorem overlapOf_neither (accesses : List (Nat × Access)) (task : Nat) :
    survivors (accesses ++ [(task, .neither)]) = survivors accesses ∧
      (overlapOf (accesses ++ [(task, .neither)])).seen =
        (overlapOf accesses).seen := by
  rw [survivors, overlapOf_snoc]
  exact ⟨rfl, rfl⟩

@[simp]
theorem writers_snoc
    (accesses : List (Nat × Access)) (item : Nat × Access) :
    writers (accesses ++ [item]) =
      writers accesses ++ if item.2 = .write then [item.1] else [] := by
  rw [writers, List.filterMap_append]
  by_cases isWrite : item.2 = .write
  · simp [writers, isWrite]
  · simp [writers, isWrite]

/-- What a task has found, and what is there, has been written in that
order. -/
theorem overlapOf_sublist (accesses : List (Nat × Access)) :
    (survivors accesses).Sublist (writers accesses) ∧
      ∀ task,
        ((overlapOf accesses).seen task).Sublist (writers accesses) := by
  induction accesses using List.reverseRecOn with
  | nil => exact ⟨List.Sublist.refl _, fun _ => List.Sublist.refl _⟩
  | append_singleton accesses item inductionHypothesis =>
      have current := inductionHypothesis.1
      have seen := inductionHypothesis.2
      have grows :
          (writers accesses).Sublist (writers (accesses ++ [item])) := by
        rw [writers_snoc]
        exact List.sublist_append_left _ _
      obtain ⟨mover, access⟩ := item
      cases access with
      | read =>
          rw [(overlapOf_read _ _).1, (overlapOf_read _ _).2]
          refine ⟨current.trans grows, fun task => ?_⟩
          by_cases same : task = mover
          · subst same
            rw [Function.update_self]
            exact current.trans grows
          · rw [Function.update_of_ne same]
            exact (seen task).trans grows
      | write =>
          rw [(overlapOf_write _ _).1, (overlapOf_write _ _).2]
          refine ⟨?_, fun task => (seen task).trans grows⟩
          rw [writers_snoc]
          exact (seen mover).append_right [mover]
      | neither =>
          rw [(overlapOf_neither _ _).1, (overlapOf_neither _ _).2]
          exact ⟨current.trans grows, fun task => (seen task).trans grows⟩

/-- Each write is lost or not, and those that are left keep their order. -/
theorem survivors_sublist (accesses : List (Nat × Access)) :
    (survivors accesses).Sublist (writers accesses) :=
  (overlapOf_sublist accesses).1

/-- The last write is not lost. -/
theorem survivors_getLast? (accesses : List (Nat × Access)) :
    (survivors accesses).getLast? = (writers accesses).getLast? := by
  induction accesses using List.reverseRecOn with
  | nil => rfl
  | append_singleton accesses item inductionHypothesis =>
      obtain ⟨mover, access⟩ := item
      rw [writers_snoc]
      cases access with
      | read =>
          rw [(overlapOf_read _ _).1]
          simpa using inductionHypothesis
      | write =>
          rw [(overlapOf_write _ _).1]
          simp
      | neither =>
          rw [(overlapOf_neither _ _).1]
          simpa using inductionHypothesis

end Foundation

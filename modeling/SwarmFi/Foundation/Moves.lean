import Mathlib

/-!
# Runs of moves

A system whose moves are data: `next` says what a move does, and does nothing
where the move is not possible.  A run may be restricted by a condition on
each move and the state that it is made in.  What every such move preserves
holds where the run ends.
-/

namespace Foundation

variable {σ μ : Type}

/-- Where the moves lead. -/
def runMoves (next : σ → μ → σ) (state : σ) (moves : List μ) : σ :=
  moves.foldl next state

/-- Every move meets the condition in the state that it is made in. -/
def Meets (next : σ → μ → σ) (condition : σ → μ → Prop) :
    σ → List μ → Prop
  | _, [] => True
  | state, move :: rest =>
      condition state move ∧ Meets next condition (next state move) rest

instance Meets.decidable (next : σ → μ → σ) (condition : σ → μ → Prop)
    [∀ state move, Decidable (condition state move)] :
    ∀ (state : σ) (moves : List μ),
      Decidable (Meets next condition state moves)
  | _, [] => isTrue trivial
  | state, move :: rest =>
      haveI := Meets.decidable next condition (next state move) rest
      inferInstanceAs (Decidable (_ ∧ _))

/-- What the moves of a run record, one after the other. -/
def recordsOf {ρ : Type} (next : σ → μ → σ) (record : σ → μ → Option ρ) :
    σ → List μ → List ρ
  | _, [] => []
  | state, move :: rest =>
      (record state move).toList ++ recordsOf next record (next state move) rest

section Rules

variable {next : σ → μ → σ} {condition : σ → μ → Prop}

theorem runMoves_cons (state : σ) (move : μ) (rest : List μ) :
    runMoves next state (move :: rest) =
      runMoves next (next state move) rest := rfl

/-- What every move that meets the condition preserves holds at the end. -/
theorem Meets.invariant {invariant : σ → Prop}
    (preserved : ∀ state move, condition state move →
      invariant state → invariant (next state move))
    {state : σ} {moves : List μ}
    (met : Meets next condition state moves) (holds : invariant state) :
    invariant (runMoves next state moves) := by
  induction moves generalizing state with
  | nil => exact holds
  | cons move rest inductionHypothesis =>
      rw [runMoves_cons]
      exact inductionHypothesis met.2 (preserved state move met.1 holds)

/-- The same for what also speaks of the moves that were made. -/
theorem Meets.history {invariant : List μ → σ → Prop}
    (preserved : ∀ made state move, condition state move →
      invariant made state → invariant (made ++ [move]) (next state move))
    {state : σ} {moves : List μ}
    (met : Meets next condition state moves) (holds : invariant [] state) :
    invariant moves (runMoves next state moves) := by
  have continued : ∀ made, invariant made state →
      invariant (made ++ moves) (runMoves next state moves) := by
    clear holds
    induction moves generalizing state with
    | nil =>
        intro made soFar
        rw [List.append_nil]
        exact soFar
    | cons move rest inductionHypothesis =>
        intro made soFar
        have one := preserved made state move met.1 soFar
        have whole := inductionHypothesis met.2 (made ++ [move]) one
        rw [List.append_assoc] at whole
        exact whole
  exact continued [] holds

theorem runMoves_snoc (state : σ) (made : List μ) (move : μ) :
    runMoves next state (made ++ [move]) =
      next (runMoves next state made) move := by
  rw [runMoves, List.foldl_append]
  rfl

theorem recordsOf_snoc {ρ : Type} (record : σ → μ → Option ρ)
    (state : σ) (made : List μ) (move : μ) :
    recordsOf next record state (made ++ [move]) =
      recordsOf next record state made ++
        (record (runMoves next state made) move).toList := by
  induction made generalizing state with
  | nil => exact List.append_nil _
  | cons first made inductionHypothesis =>
      rw [List.cons_append, recordsOf, recordsOf, inductionHypothesis,
        runMoves_cons, List.append_assoc]

/-- A condition on moves alone holds wherever they are made. -/
theorem Meets.and_of_forall {admitted : μ → Prop}
    {state : σ} {moves : List μ} (all : ∀ move ∈ moves, admitted move)
    (met : Meets next condition state moves) :
    Meets next (fun state move => admitted move ∧ condition state move)
      state moves := by
  induction moves generalizing state with
  | nil => trivial
  | cons move rest inductionHypothesis =>
      have admittedRest : ∀ later ∈ rest, admitted later := by
        intro later member
        exact all later (List.mem_cons_of_mem move member)
      exact ⟨⟨all move List.mem_cons_self, met.1⟩,
        inductionHypothesis admittedRest met.2⟩

end Rules

end Foundation

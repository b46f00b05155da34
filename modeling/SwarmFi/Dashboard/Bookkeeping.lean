import SwarmFi.Dashboard.CycleRuns

/-!
# Counting cycles

The number of a cycle and the total in the state file are recomputed from the
list of results, which every publication cuts to twenty.  They are exact up to
the twenty-first publication and stand still from then on.
-/

namespace SwarmFi.Dashboard

open Foundation Python

/-! ## What the file should say -/

/-- `view.get("cycles") or 0` -/
def cyclesOf (file : Option Json) : Json :=
  (Dict.getD (fieldsOf file) "cycles" .null).orElse (.int 0)

/-- The file counts the publications, each result carries the number of its
publication, and the file lists the last twenty results in their order. -/
structure Exact (desk : Desk) : Prop where
  cycles : cyclesOf desk.file = .int desk.published.length
  numbers : ∀ (index : Nat) (result : Dict),
    desk.published[index]? = some result →
      result.get? "cycle" = some (.int (index + 1))
  results : resultsOf desk.file =
    (lastTwenty desk.published).map Json.obj

/-- What the file really says. -/
structure Counted (desk : Desk) : Prop where
  readable : Readable desk.file
  cycles : cyclesOf desk.file = .int (min desk.published.length 21 : Nat)
  numbers : ∀ (index : Nat) (result : Dict),
    desk.published[index]? = some result →
      result.get? "cycle" = some (.int (min index 21 + 1 : Nat))
  results : resultsOf desk.file =
    (lastTwenty desk.published).map Json.obj

/-! ## The last twenty -/

theorem length_lastTwenty {α : Type} (results : List α) :
    (lastTwenty results).length = min results.length 20 := by
  unfold lastTwenty
  rw [List.length_drop]
  omega

theorem lastTwenty_map {α β : Type} (toItem : α → β) (results : List α) :
    lastTwenty (results.map toItem) = (lastTwenty results).map toItem := by
  unfold lastTwenty
  rw [List.length_map, List.map_drop]

/-- Cutting a list before one more is added loses nothing that the cut after
it would keep. -/
theorem lastTwenty_snoc {α : Type} (results : List α) (result : α) :
    lastTwenty (lastTwenty results ++ [result]) =
      lastTwenty (results ++ [result]) := by
  have cut : (lastTwenty results).length = min results.length 20 :=
    length_lastTwenty results
  have before : (lastTwenty results ++ [result]).length - 20 ≤
      (lastTwenty results).length := by
    rw [List.length_append, List.length_singleton]
    omega
  have whole : (results ++ [result]).length - 20 ≤ results.length := by
    rw [List.length_append, List.length_singleton]
    omega
  show List.drop _ (lastTwenty results ++ [result]) =
    List.drop _ (results ++ [result])
  rw [List.drop_append_of_le_length before,
    List.drop_append_of_le_length whole]
  congr 1
  rw [lastTwenty, List.drop_drop]
  congr 1
  rw [List.length_append, List.length_append, List.length_singleton,
    List.length_drop]
  omega

/-! ## One step -/

theorem int_orElse_zero (value : Int) :
    (Json.int value).orElse (.int 0) = .int value := by
  unfold Json.orElse
  by_cases isZero : value = 0
  · rw [isZero]
    rfl
  · rw [if_pos (by simpa [Json.truthy] using isZero)]

theorem nextCycle_of_cyclesOf {file : Option Json} {cycles : Int}
    (isCycles : cyclesOf file = .int cycles) :
    Cycle.nextCycle (.obj (fieldsOf file)) = .ok (.int (cycles + 1)) := by
  apply (bind_eq_ok_iff _ _ _).mpr
  refine ⟨fieldsOf file, rfl, ?_⟩
  unfold cyclesOf at isCycles
  rw [isCycles]
  rfl

theorem counted_fresh : Counted .fresh where
  readable := readable_none
  cycles := rfl
  numbers := fun index result isResult => by cases isResult
  results := rfl

theorem Counted.of_kept {desk last : Desk} (counted : Counted desk)
    (kept : Kept desk last) (readable : Readable last.file) :
    Counted last where
  readable := readable
  cycles := by
    have same : (fieldsOf last.file).get? "cycles" =
        (fieldsOf desk.file).get? "cycles" := kept.field (by decide)
    unfold cyclesOf Dict.getD
    rw [same, kept.published]
    exact counted.cycles
  numbers := by
    rw [kept.published]
    exact counted.numbers
  results := by
    rw [kept.resultsOf, kept.published]
    exact counted.results

/-- A publication counts the cut list and numbers its result by the count
before it. -/
theorem Counted.publish {before : Desk} (counted : Counted before)
    {result : Dict}
    (numbered : result.get? "cycle" =
      some (.int (min before.published.length 21 + 1 : Nat)))
    (now : String) (root tx : Option String) :
    Counted (before.publish now root result tx) := by
  have isFile : (before.publish now root result tx).file =
      some (.obj (stateView now root result tx before.file)) :=
    publishStateView_of_readable counted.readable now root result tx
  have listed : resultsOf before.file ++ [Json.obj result] =
      (lastTwenty before.published ++ [result]).map Json.obj := by
    rw [counted.results, List.map_append]
    rfl
  constructor
  · exact counted.readable.published now root result tx
  · unfold cyclesOf Dict.getD
    rw [isFile]
    simp only [fieldsOf, stateView_cycles, Option.getD_some]
    rw [int_orElse_zero, listed, List.length_map, List.length_append,
      length_lastTwenty, List.length_singleton]
    show Json.int _ = Json.int ((min (before.published ++ [result]).length
      21 : Nat))
    rw [List.length_append, List.length_singleton]
    congr 2
    omega
  · intro index found isFound
    have isFound : (before.published ++ [result])[index]? = some found :=
      isFound
    by_cases earlier : index < before.published.length
    · rw [List.getElem?_append_left earlier] at isFound
      exact counted.numbers index found isFound
    · have atEnd : index = before.published.length := by
        have bound := (List.getElem?_eq_some_iff.mp isFound).1
        rw [List.length_append, List.length_singleton] at bound
        omega
      rw [atEnd, List.getElem?_concat_length] at isFound
      cases isFound
      rw [numbered, atEnd]
  · have results : resultsOf (before.publish now root result tx).file =
        lastTwenty (resultsOf before.file ++ [.obj result]) :=
      resultsOf_publishStateView counted.readable now root result tx
    rw [results, listed, lastTwenty_map, lastTwenty_snoc]
    rfl

theorem Counted.ended {desk last : Desk} (counted : Counted desk)
    (ends : CycleEnds desk last) (readable : Readable last.file) :
    Counted last := by
  cases ends with
  | stopped kept flushed => exact counted.of_kept kept readable
  | published now kept stillReadable isNumber numbered flushed =>
      have before := counted.of_kept kept stillReadable
      rw [nextCycle_of_cyclesOf counted.cycles] at isNumber
      cases isNumber
      apply before.publish
      rw [numbered, kept.published]
      rfl

/-! ## Every run -/

theorem Counted.apply {desk : Desk} (counted : Counted desk)
    (script : DeskScript) (move : DeskMove) :
    Counted (script.apply desk move) := by
  cases move with
  | cycle wallet signal =>
      apply counted.ended (cycleEnds counted.readable)
      exact run_readable counted.readable
  | partially now stage fields =>
      apply counted.of_kept (kept_partially now desk (stage, fields))
      exact counted.readable.partially now stage fields

theorem counted_play (script : DeskScript) (moves : List DeskMove)
    {desk : Desk} (counted : Counted desk) :
    Counted (script.play desk moves) := by
  induction moves generalizing desk with
  | nil => exact counted
  | cons move moves inductionHypothesis =>
      exact inductionHypothesis (counted.apply script move)

/-- From no state file on, the bookkeeping is exact as long as no more than
twenty-one results were published. -/
theorem exact_iff (script : DeskScript) (moves : List DeskMove) :
    Exact (script.play .fresh moves) ↔
      (script.play .fresh moves).published.length ≤ 21 := by
  have counted := counted_play script moves counted_fresh
  constructor
  · intro exact
    have same := exact.cycles
    rw [counted.cycles] at same
    have total := Json.int.inj same
    omega
  · intro few
    exact {
      cycles := by
        rw [counted.cycles]
        congr 2
        omega
      numbers := by
        intro index result isResult
        rw [counted.numbers index result isResult]
        have bound := (List.getElem?_eq_some_iff.mp isResult).1
        congr 2
        omega
      results := counted.results }

/-- Every cycle publishes. -/
def calmScript : DeskScript where
  now := fun _ => "2026-01-01T00:00:00Z"
  answers := fun _ => calmAnswers (.ok (none, none))
  others := fun _ => []

/-- Twenty-two cycles, one after the other. -/
def twentyTwoCycles : List DeskMove :=
  List.replicate 22 (.cycle "0xaaaa" calmSignal)

/-- After twenty-two results the file counts twenty-one. -/
theorem twenty_second_not_counted :
    ¬ ∀ (script : DeskScript) (moves : List DeskMove),
      Exact (script.play .fresh moves) := by
  intro always
  have published :
      (calmScript.play .fresh twentyTwoCycles).published.length = 22 := by
    decide +kernel
  have counted := (counted_play calmScript twentyTwoCycles
    counted_fresh).cycles
  have exact := (always calmScript twentyTwoCycles).cycles
  rw [counted, published] at exact
  cases exact

end SwarmFi.Dashboard

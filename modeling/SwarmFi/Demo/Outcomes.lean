import SwarmFi.Core.Pnl.Commitments
import SwarmFi.Dashboard.Stages
import SwarmFi.Demo

/-!
# How a recorded cycle ended

Both producers of results record a HOLD, a commitment or a failure: the demo
appends one of them to its results, and the dashboard publishes one in its
state file.  A failure has the action of the decision, an error and no
transaction.
-/

namespace SwarmFi.Demo

open Foundation Python SwarmFi.Core Pnl Uniswap Compute Dashboard

inductive Outcome (result : Dict) : Prop
  | held (isHold : isHeld result = true) (noError : isFailed result = false)
      (noTx : result.has "tx" = false)
  | committed (noHold : isHeld result = false)
      (noError : isFailed result = false) (hasTx : result.has "tx" = true)
  | failed (noHold : isHeld result = false)
      (hasError : isFailed result = true) (noTx : result.has "tx" = false)

theorem isHeld_of_action {result : Dict} {action : Json}
    (isAction : result.get? "action" = some action) :
    isHeld result = decide (action.str? = some "hold") := by
  rw [Bool.eq_iff_iff, isHeld_iff, isAction, decide_eq_true_iff]
  cases action <;> simp [Json.str?]

/-! ## The demo -/

/-- An appended result is one of an outcome. -/
def Appends : DemoCall → Prop
  | .appendResult result => Outcome result
  | _ => True

theorem uses_forall {vocabulary : Vocabulary} {ε α ι : Type}
    {allowed : ι → vocabulary.Call → Prop}
    {program : Program vocabulary ε α}
    (uses : ∀ index, program.Uses (allowed index)) :
    program.Uses fun request => ∀ index, allowed index request := by
  induction program with
  | done value => trivial
  | raise error => trivial
  | call request next inductionHypothesis =>
      exact ⟨fun index => (uses index).1, fun answer =>
        inductionHypothesis answer fun index => (uses index).2 answer⟩

/-- What would append a result with any signal record appends none. -/
theorem appends_of_records {α : Type} {program : Steps α}
    (uses : ∀ view, program.Uses (Records view)) : program.Uses Appends := by
  apply (uses_forall uses).mono
  intro request records
  cases request with
  | appendResult result =>
      have first : result.get? "signal" = some (.obj []) := records []
      have second : result.get? "signal" = some (.obj [("", .null)]) :=
        records [("", .null)]
      rw [first] at second
      cases second
  | _ => trivial

theorem appends_safely (role : AgentRole) (write : MemoryWrite) :
    (safely role write).Uses Appends :=
  appends_of_records fun view => uses_safely view role write

theorem appends_holding (view : Dict) (number : Int) (decided : Decided) :
    (holding view number decided).Uses Appends := by
  apply (appends_safely _ _).bind
  intro _
  exact ⟨Outcome.held rfl rfl rfl, fun _ => trivial⟩

theorem appends_committed (view : Dict) (number : Int) {decided : Decided}
    (noHold : ¬ decided.action.str? = some "hold") (result : SwapResult) :
    (committed view number decided result).Uses Appends := by
  have announced : ∀ messageType payload,
      (announce messageType payload).Uses Appends :=
    fun messageType payload =>
      appends_of_records fun view => uses_announce view messageType payload
  apply (appends_safely _ _).bind
  intro _
  apply (appends_safely _ _).bind
  intro _
  apply (appends_of_records fun view =>
    uses_recordCommitment view result).bind
  intro _
  apply (announced _ _).bind
  intro _
  refine ⟨Outcome.committed ?_ rfl rfl, fun _ => trivial⟩
  have isAction : Dict.get?
      [("cycle", .int number), ("action", decided.action),
        ("risk", .float decided.risk), ("tx", .str (txOf result)),
        ("confidence", .float decided.confidence),
        ("reasoning", decided.reasoning),
        ("routing", .str (Cycle.routingText result)),
        ("signal", .obj view)] "action" = some decided.action := rfl
  rw [isHeld_of_action isAction]
  exact decide_eq_false noHold

theorem appends_failed (view : Dict) (number : Int) {decided : Decided}
    (noHold : ¬ decided.action.str? = some "hold") (result : SwapResult) :
    (failed view number decided result).Uses Appends := by
  apply (appends_safely _ _).bind
  intro _
  apply (appends_safely _ _).bind
  intro _
  refine ⟨Outcome.failed ?_ rfl rfl, fun _ => trivial⟩
  have isAction : Dict.get?
      [("cycle", .int number), ("action", decided.action),
        ("risk", .float decided.risk), ("error", optionalStr result.error),
        ("confidence", .float decided.confidence),
        ("reasoning", decided.reasoning), ("signal", .obj view)] "action" =
      some decided.action := rfl
  rw [isHeld_of_action isAction]
  exact decide_eq_false noHold

theorem appends_executing (pair : DemoPair) (wallet : String) (view : Dict)
    (number : Int) {decided : Decided}
    (noHold : ¬ decided.action.str? = some "hold") :
    (executing pair wallet view number decided).Uses Appends := by
  have readBacks : readBack.Uses Appends := ⟨trivial, fun _ => trivial⟩
  have swapped : ∀ request, (executeSwap request).Uses Appends :=
    fun request => ⟨trivial, fun answer => Program.uses_ofExcept answer⟩
  apply (appends_safely _ _).bind
  intro _
  apply (swapped _).bind
  intro result
  split
  · exact (appends_committed view number noHold result).bind
      fun _ => readBacks
  · exact (appends_failed view number noHold result).bind
      fun _ => readBacks

/-- A cycle of the demo appends nothing but outcomes. -/
theorem appends_cycle (pair : DemoPair) (wallet : String) (price : PyFloat)
    (number : Int) : (cycle pair wallet price number).Uses Appends := by
  have scanned : (scanPairs pair.amountWei).Uses Appends :=
    ⟨trivial, fun answer => Program.uses_ofExcept answer⟩
  apply scanned.bind
  intro scan
  apply (appends_of_records fun view => uses_researching view _).bind
  intro _
  apply (appends_of_records fun view => uses_scoring view _).bind
  intro decided
  apply (appends_of_records fun view => uses_recordDecision view decided).bind
  intro _
  unfold acting
  by_cases isHold : decided.action.str? = some "hold"
  · rw [if_pos isHold]
    exact appends_holding _ number decided
  · rw [if_neg isHold]
    exact appends_executing pair wallet _ number isHold

/-! ## The dashboard -/

/-- A published result is one of an outcome. -/
def Publishes : CycleCall → Prop
  | .publishStateView _ result _ => Outcome result
  | _ => True

theorem publishes_of_inside (request : CycleCall)
    (inside : Cycle.Inside request) : Publishes request := by
  cases request with
  | publishStateView root result tx => exact inside.elim
  | _ => trivial

/-- Every value that is returned meets `post`. -/
def Returned {α : Type} (post : α → Prop)
    (outcome : Except Exception α) (_ : List (Event CycleVocabulary)) :
    Prop :=
  ∀ value, outcome = .ok value → post value

theorem quiet_bind {α β : Type} {post : β → Prop}
    {program : Cycle.Steps α} {next : α → Cycle.Steps β}
    (quiet : program.Uses Publishes) {history : List (Event CycleVocabulary)}
    (rest : ∀ value later,
      (next value).Satisfies (fun _ => Publishes) (Returned post) later) :
    (program.bind next).Satisfies (fun _ => Publishes) (Returned post)
      history := by
  apply quiet.satisfies_bind fun _ _ => id
  · intro exc later value isOk
    cases isOk
  · intro value later _
    exact rest value _

theorem quiet_done {α : Type} {post : α → Prop} {value : α}
    (holds : post value) (history : List (Event CycleVocabulary)) :
    (Program.done value : Cycle.Steps α).Satisfies (fun _ => Publishes)
      (Returned post) history := by
  intro returned isValue
  cases isValue
  exact holds

section Views

variable {view payload : Dict}

theorem isHeld_decidedView :
    isHeld (Cycle.decidedView view payload) = Cycle.isHold payload := by
  have isAction : (Cycle.decidedView view payload).get? "action" =
      some (payload.getD "action" .null) := by
    simp [Cycle.decidedView, Dict.get?_set]
  rw [isHeld_of_action isAction, Cycle.isHold, Dict.getD]
  cases payload.get? "action" with
  | none => rfl
  | some action =>
      rw [Bool.eq_iff_iff]
      cases action <;> simp [Json.str?]

/-- A decision leaves a field of the view that it does not set. -/
theorem has_decidedView {key : String}
    (others : key ∉ ["risk", "action", "confidence", "reasoning"]) :
    (Cycle.decidedView view payload).has key = view.has key := by
  simp only [List.mem_cons, List.not_mem_nil, or_false, not_or] at others
  simp [Cycle.decidedView, Dict.has, Dict.get?_set, others]

theorem isHeld_set {key : String} {value : Json} (other : key ≠ "action") :
    isHeld (view.set key value) = isHeld view := by
  rw [isHeld, isHeld, Dict.get?_set, if_neg (Ne.symm other)]

end Views

theorem satisfies_recordResult {view : Dict}
    (noHold : isHeld view = false) (noError : view.has "error" = false)
    (noTx : view.has "tx" = false) (result : SwapResult)
    (history : List (Event CycleVocabulary)) :
    (Cycle.recordResult view result).Satisfies (fun _ => Publishes)
      (Returned Outcome) history := by
  have written : ∀ role write, (Cycle.write role write).Uses Publishes :=
    fun role write => Cycle.uses_write trivial
  unfold Cycle.recordResult
  split
  · refine quiet_bind (written _ _) fun _ first => ?_
    refine quiet_bind (written _ _) fun _ second => ?_
    apply quiet_done
    apply Outcome.committed
    · rw [isHeld_set (by decide), isHeld_set (by decide), noHold]
    · rw [isFailed, Dict.has_set, Dict.has_set, noError]
      rfl
    · rw [Dict.has_set, Dict.has_set]
      rfl
  · refine quiet_bind (written _ _) fun _ first => ?_
    refine quiet_bind (written _ _) fun _ second => ?_
    apply quiet_done
    apply Outcome.failed
    · rw [isHeld_set (by decide), noHold]
    · rw [isFailed, Dict.has_set]
      rfl
    · rw [Dict.has_set, noTx]
      rfl

theorem satisfies_settling {view : Dict}
    (noHold : isHeld view = false) (noError : view.has "error" = false)
    (noTx : view.has "tx" = false) (result : SwapResult)
    (history : List (Event CycleVocabulary)) :
    (Cycle.settling view result).Satisfies (fun _ => Publishes)
      (Returned Outcome) history := by
  have silent : ∀ request, Cycle.Reports (fun _ => False) request →
      Publishes request := fun request reports =>
    publishes_of_inside request (Cycle.inside_of_reports request reports)
  apply (Program.satisfies_bind _ _ _).mpr
  apply (satisfies_recordResult noHold noError noTx result history).mono
  intro outcome reached recorded
  cases outcome with
  | error exc =>
      intro value isOk
      cases isOk
  | ok acted =>
      have isOutcome : Outcome acted := recorded acted rfl
      refine quiet_bind (Cycle.uses_recordSettlement silent result)
        fun _ settled => ?_
      refine quiet_bind (Cycle.uses_announce silent _ _)
        fun _ announced => ?_
      exact quiet_done isOutcome announced

section Cycles

variable (wallet : String) (signal : Dict)

/-- The view with which a cycle ends is one of an outcome. -/
theorem satisfies_acting {view : Dict}
    (noError : view.has "error" = false) (noTx : view.has "tx" = false)
    (payload : Dict) (history : List (Event CycleVocabulary)) :
    (Cycle.acting wallet signal (Cycle.decidedView view payload)
        payload).Satisfies (fun _ => Publishes) (Returned Outcome)
      history := by
  have decidedError : (Cycle.decidedView view payload).has "error" =
      false := (has_decidedView (by decide)).trans noError
  have decidedTx : (Cycle.decidedView view payload).has "tx" = false :=
    (has_decidedView (by decide)).trans noTx
  have silent : ∀ request, Cycle.Reports (fun _ => False) request →
      Publishes request := fun request reports =>
    publishes_of_inside request (Cycle.inside_of_reports request reports)
  unfold Cycle.acting
  by_cases isHold : Cycle.isHold payload = true
  · rw [if_pos isHold]
    refine quiet_bind (Cycle.uses_write trivial) fun _ later => ?_
    apply quiet_done
    exact Outcome.held (isHeld_decidedView.trans isHold) decidedError
      decidedTx
  · rw [if_neg isHold]
    have noHold : isHeld (Cycle.decidedView view payload) = false :=
      isHeld_decidedView.trans (Bool.eq_false_iff.mpr isHold)
    have swapped : ∀ request, (Cycle.executeSwap request).Uses Publishes :=
      fun request =>
        ⟨trivial, fun answer => Program.uses_ofExcept answer⟩
    refine quiet_bind (Cycle.uses_publishPartial silent _ _)
      fun _ published => ?_
    refine quiet_bind (Cycle.uses_write trivial) fun _ written => ?_
    refine quiet_bind (swapped _) fun result later => ?_
    exact satisfies_settling noHold decidedError decidedTx result later

theorem satisfies_insideClients {view : Dict}
    (noError : view.has "error" = false) (noTx : view.has "tx" = false)
    (history : List (Event CycleVocabulary)) :
    (Cycle.insideClients wallet signal view).Satisfies (fun _ => Publishes)
      (Returned fun finished => Outcome finished.1) history := by
  have reports : ∀ {roles : AgentRole → Prop} (request : CycleCall),
      Cycle.Reports roles request → Publishes request :=
    fun request reported => publishes_of_inside request
      (Cycle.inside_of_reports request reported)
  refine quiet_bind (Cycle.uses_scanning reports signal)
    fun _ scanned => ?_
  refine quiet_bind
    (Cycle.uses_deciding reports (fun _ => trivial) trivial signal)
    fun payload decided => ?_
  apply (Program.satisfies_bind _ _ _).mpr
  apply (satisfies_acting wallet signal noError noTx payload decided).mono
  intro outcome reached acts
  cases outcome with
  | error exc =>
      intro value isOk
      cases isOk
  | ok acted =>
      have isOutcome : Outcome acted := acts acted rfl
      refine quiet_bind
        (Cycle.uses_committing reports trivial signal acted)
        fun snapshot committed => ?_
      apply quiet_done
      exact isOutcome

/-- A cycle of the dashboard publishes nothing but an outcome. -/
theorem publishes_cycle (history : List (Event CycleVocabulary)) :
    (Cycle.runTradeCycle wallet signal).Satisfies (fun _ => Publishes)
      (fun _ _ => True) history := by
  have numbered :
      (Cycle.readStateFile.bind fun view =>
        (.ofExcept (Cycle.nextCycle view) :
          Cycle.Steps Json)).Uses Publishes :=
    Program.Uses.bind ⟨trivial, fun _ => trivial⟩
      fun view => Program.uses_ofExcept (Cycle.nextCycle view)
  have opened : Cycle.openClients.Uses Publishes :=
    ⟨trivial, fun answer => Program.uses_ofExcept answer⟩
  have closed : Cycle.closeClients.Uses Publishes :=
    ⟨trivial, fun answer => Program.uses_ofExcept answer⟩
  apply (Program.satisfies_recover _ _ _).mpr
  have cycled : (Cycle.cycle wallet signal).Satisfies (fun _ => Publishes)
      (Returned fun _ => True) history := by
    refine quiet_bind numbered fun number read => ?_
    refine quiet_bind opened fun _ begun => ?_
    apply (Program.satisfies_bind _ _ _).mpr
    apply (Program.satisfies_recover _ _ _).mpr
    apply (Program.satisfies_bind _ _ _).mpr
    apply (satisfies_insideClients wallet signal rfl rfl begun).mono
    intro outcome reached finishes
    cases outcome with
    | error exc =>
        refine quiet_bind closed fun _ later => ?_
        intro value isOk
        cases isOk
    | ok finished =>
        have isOutcome : Outcome finished.1 := finishes finished rfl
        refine quiet_bind closed fun _ later => ?_
        refine ⟨isOutcome, fun _ => ?_⟩
        intro value _
        trivial
  apply cycled.mono
  intro outcome reached _
  cases outcome <;> trivial

end Cycles

end SwarmFi.Demo

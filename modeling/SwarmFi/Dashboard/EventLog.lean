import SwarmFi.Dashboard.Bookkeeping

/-!
# The event log

`/api/log` makes up a log from the results in the state file.  Whatever cycles
and partial updates have written the file, it returns, and shows of each of
the last twenty cycles the signal, the decision and at most one trade.
-/

namespace SwarmFi.Dashboard

open Foundation Python SwarmFi.Core Uniswap Compute

/-! ## Making up the log -/

/-- `out[-limit:]`, which is all of it for 0. -/
def lastOf {α : Type} (limit : Int) (items : List α) : List α :=
  if 0 < limit then
    items.drop (items.length - limit.toNat)
  else
    items.drop (-limit).toNat

def madeEvent (eventType agentRole : String) (timestamp : Json)
    (data : Dict) : Json :=
  .obj [("event_type", .str eventType), ("agent_role", .str agentRole),
    ("timestamp", timestamp), ("data", .obj data)]

/-- What one result is shown as. -/
def eventsOf (updatedAt result : Json) : Except Exception (List Json) := do
  let r ← result.asDict
  let cyc := r.getD "cycle" (.int 0)
  let trade : List Json :=
    if (r.getD "tx" .null).truthy then
      [madeEvent "TRADE_EXECUTED" "executor" updatedAt
        [("cycle", cyc), ("tx_hash", r.getD "tx" .null)]]
    else if Cycle.isHold r then
      []
    else if (r.getD "error" .null).truthy then
      [madeEvent "TRADE_FAILED" "executor" updatedAt
        [("cycle", cyc), ("error", r.getD "error" .null)]]
    else
      []
  return [
    madeEvent "MARKET_SIGNAL" "researcher" updatedAt [("cycle", cyc)],
    madeEvent "RISK_DECISION" "risk" updatedAt
      [("cycle", cyc), ("risk_score", r.getD "risk" .null),
        ("action", r.getD "action" .null)]] ++ trade

/-- `_get_zg_log` -/
def getZgLog (limit : Int) (file : Option Json) :
    Except Exception (List Json) := do
  let view ← (readStateFile file).asDict
  let results ← listOf ((view.getD "results" .null).orElse (.arr []))
  let shown ← results.mapM (eventsOf (view.getD "updated_at" .null))
  return lastOf limit shown.flatten

/-! ## What a cycle reports -/

/-- The view with the result of a swap. -/
def withSwap (view : Dict) (result : SwapResult) : Dict :=
  if result.succeeded || result.status.value == "submitted" then
    (view.set "tx" (optionalStr result.txHash)).set "routing"
      (.str (Cycle.routingText result))
  else
    view.set "error" (optionalStr result.error)

/-- A cycle from its number to its swap; a HOLD has none. -/
structure Report where
  number : Json
  signal : Dict
  payload : Dict
  swap : Option SwapResult

namespace Report

variable (report : Report)

/-- What is published of it. -/
def view : Dict :=
  let decided := Cycle.decidedView
    [("cycle", report.number), ("signal", .obj report.signal)]
    report.payload
  match report.swap with
  | none => decided
  | some result => withSwap decided result

/-- The trade that is shown. -/
def trade (updatedAt : Json) : List Json :=
  match report.swap with
  | none => []
  | some result =>
      if result.succeeded || result.status.value == "submitted" then
        if truthy result.txHash then
          [madeEvent "TRADE_EXECUTED" "executor" updatedAt
            [("cycle", report.number),
              ("tx_hash", optionalStr result.txHash)]]
        else
          []
      else if truthy result.error then
        [madeEvent "TRADE_FAILED" "executor" updatedAt
          [("cycle", report.number), ("error", optionalStr result.error)]]
      else
        []

def events (updatedAt : Json) : List Json :=
  [madeEvent "MARKET_SIGNAL" "researcher" updatedAt
      [("cycle", report.number)],
    madeEvent "RISK_DECISION" "risk" updatedAt
      [("cycle", report.number),
        ("risk_score", report.payload.getD "risk_score" .null),
        ("action", report.payload.getD "action" .null)]] ++
    report.trade updatedAt

/-- There is a swap exactly where the decision is no HOLD. -/
def Consistent : Prop :=
  report.swap = none ↔ Cycle.isHold report.payload = true

end Report

/-! ## A report is shown as it is -/

variable {script : DeskScript} {desk reached : Desk}
  {wallet : String} {signal view payload : Dict}

theorem truthy_optionalStr (text : Option String) :
    (optionalStr text).truthy = truthy text := by
  cases text with
  | none => rfl
  | some text => rfl

/-- The fields of a decided view. -/
theorem get?_decidedView (number : Json) (signal payload : Dict) :
    let decided := Cycle.decidedView
      [("cycle", number), ("signal", .obj signal)] payload
    decided.get? "cycle" = some number ∧
      decided.get? "risk" = some (payload.getD "risk_score" .null) ∧
        decided.get? "action" = some (payload.getD "action" .null) ∧
          decided.get? "tx" = none ∧ decided.get? "error" = none :=
  ⟨rfl, rfl, rfl, rfl, rfl⟩

theorem isHold_of_action {fields payload : Dict}
    (action : fields.get? "action" = some (payload.getD "action" .null)) :
    Cycle.isHold fields = Cycle.isHold payload := by
  unfold Cycle.isHold
  rw [action, Dict.getD]
  cases payload.get? "action" with
  | none => rfl
  | some value => rfl

/-- What is shown depends on these five fields. -/
theorem eventsOf_of_fields
    (updatedAt : Json) {fields : Dict} {number risk action tx error : Json}
    (isNumber : fields.get? "cycle" = some number)
    (isRisk : fields.getD "risk" .null = risk)
    (isAction : fields.getD "action" .null = action)
    (isTx : fields.getD "tx" .null = tx)
    (isError : fields.getD "error" .null = error) :
    eventsOf updatedAt (.obj fields) =
      .ok ([madeEvent "MARKET_SIGNAL" "researcher" updatedAt
          [("cycle", number)],
        madeEvent "RISK_DECISION" "risk" updatedAt
          [("cycle", number), ("risk_score", risk), ("action", action)]] ++
        if tx.truthy then
          [madeEvent "TRADE_EXECUTED" "executor" updatedAt
            [("cycle", number), ("tx_hash", tx)]]
        else if Cycle.isHold fields then
          []
        else if error.truthy then
          [madeEvent "TRADE_FAILED" "executor" updatedAt
            [("cycle", number), ("error", error)]]
        else
          []) := by
  have isCycle : fields.getD "cycle" (.int 0) = number := by
    rw [Dict.getD, isNumber]
    rfl
  rw [← isCycle, ← isRisk, ← isAction, ← isTx, ← isError]
  rfl

/-- A swap adds its hash or its error, and nothing else that is shown. -/
theorem get?_withSwap (view : Dict) (result : SwapResult) :
    let settled := result.succeeded || result.status.value == "submitted"
    (∀ key ∈ ["cycle", "risk", "action"],
      (withSwap view result).get? key = view.get? key) ∧
      (withSwap view result).get? "tx" =
          (if settled then some (optionalStr result.txHash)
            else view.get? "tx") ∧
        (withSwap view result).get? "error" =
          if settled then view.get? "error"
            else some (optionalStr result.error) := by
  intro settled
  rw [withSwap]
  by_cases isSettled : settled = true
  · rw [if_pos isSettled, if_pos isSettled, if_pos isSettled]
    refine ⟨?_, ?_, ?_⟩
    · intro key member
      have notRouting : key ≠ "routing" := by
        rintro rfl
        revert member
        decide
      have notTx : key ≠ "tx" := by
        rintro rfl
        revert member
        decide
      rw [Dict.get?_set, if_neg notRouting, Dict.get?_set, if_neg notTx]
    · rw [Dict.get?_set, if_neg (by decide), Dict.get?_set, if_pos rfl]
    · rw [Dict.get?_set, if_neg (by decide), Dict.get?_set,
        if_neg (by decide)]
  · rw [if_neg isSettled, if_neg isSettled, if_neg isSettled]
    refine ⟨?_, ?_, ?_⟩
    · intro key member
      have notError : key ≠ "error" := by
        rintro rfl
        revert member
        decide
      rw [Dict.get?_set, if_neg notError]
    · rw [Dict.get?_set, if_neg (by decide)]
    · rw [Dict.get?_set, if_pos rfl]

theorem getD_of_get? {fields : Dict} {key : String} {found : Option Json}
    (isFound : fields.get? key = found) :
    fields.getD key .null = found.getD .null := by
  rw [Dict.getD, isFound]

theorem eventsOf_view (updatedAt : Json) {report : Report}
    (consistent : report.Consistent) :
    eventsOf updatedAt (.obj report.view) =
      .ok (report.events updatedAt) := by
  obtain ⟨number, signal, payload, swap⟩ := report
  obtain ⟨isNumber, isRisk, isAction, isTx, isError⟩ :=
    get?_decidedView number signal payload
  cases swap with
  | none =>
      have hold : Cycle.isHold payload = true := consistent.mp rfl
      refine (eventsOf_of_fields updatedAt isNumber (getD_of_get? isRisk)
        (getD_of_get? isAction) (getD_of_get? isTx)
        (getD_of_get? isError)).trans ?_
      rw [isHold_of_action isAction, hold]
      rfl
  | some result =>
      have trade : Cycle.isHold payload = false := by
        refine Bool.eq_false_of_not_eq_true fun hold => ?_
        cases consistent.mpr hold
      obtain ⟨same, withTx, withError⟩ := get?_withSwap
        (Cycle.decidedView [("cycle", number), ("signal", .obj signal)]
          payload) result
      rw [isTx] at withTx
      rw [isError] at withError
      have sameCycle := (same "cycle" (by decide)).trans isNumber
      have sameRisk := (same "risk" (by decide)).trans isRisk
      have sameAction := (same "action" (by decide)).trans isAction
      refine (eventsOf_of_fields updatedAt sameCycle
        (getD_of_get? sameRisk) (getD_of_get? sameAction)
        (getD_of_get? withTx) (getD_of_get? withError)).trans ?_
      rw [isHold_of_action sameAction, trade]
      simp only [Report.events, Report.trade]
      cases settled : (result.succeeded ||
          result.status.value == "submitted") with
      | true =>
          simp only [if_true, Option.getD_some, truthy_optionalStr]
          rfl
      | false =>
          simp only [Bool.false_eq_true, if_false, Option.getD_some,
            Option.getD_none, truthy_optionalStr]
          rfl

/-! ## What a cycle publishes -/

theorem withSwap_of_recordResult
    {result : SwapResult} {recorded : Dict}
    (ran : (Cycle.recordResult view result).run script.environment desk =
      (.ok recorded, reached)) :
    recorded = withSwap view result := by
  rw [Cycle.recordResult] at ran
  rw [withSwap]
  by_cases settled : (result.succeeded ||
      result.status.value == "submitted") = true
  · rw [if_pos settled] at ran ⊢
    obtain ⟨_, _, _, ran⟩ :=
      (Program.run_bind_eq_ok_iff _ _ _ _ _ _).mp ran
    obtain ⟨_, _, _, ran⟩ :=
      (Program.run_bind_eq_ok_iff _ _ _ _ _ _).mp ran
    cases ran
    rfl
  · rw [if_neg settled] at ran ⊢
    obtain ⟨_, _, _, ran⟩ :=
      (Program.run_bind_eq_ok_iff _ _ _ _ _ _).mp ran
    obtain ⟨_, _, _, ran⟩ :=
      (Program.run_bind_eq_ok_iff _ _ _ _ _ _).mp ran
    cases ran
    rfl

/-- A HOLD leaves the view as it is, anything else adds a swap to it. -/
theorem view_of_acting
    {acted : Dict}
    (ran : (Cycle.acting wallet signal view payload).run script.environment
      desk = (.ok acted, reached)) :
    (Cycle.isHold payload = true ∧ acted = view) ∨
      (Cycle.isHold payload = false ∧
        ∃ result, acted = withSwap view result) := by
  rw [Cycle.acting] at ran
  by_cases hold : Cycle.isHold payload = true
  · rw [if_pos hold] at ran
    obtain ⟨_, _, _, ran⟩ :=
      (Program.run_bind_eq_ok_iff _ _ _ _ _ _).mp ran
    cases ran
    exact Or.inl ⟨hold, rfl⟩
  · rw [if_neg hold] at ran
    obtain ⟨_, _, _, ran⟩ :=
      (Program.run_bind_eq_ok_iff _ _ _ _ _ _).mp ran
    obtain ⟨_, _, _, ran⟩ :=
      (Program.run_bind_eq_ok_iff _ _ _ _ _ _).mp ran
    obtain ⟨result, _, _, ran⟩ :=
      (Program.run_bind_eq_ok_iff _ _ _ _ _ _).mp ran
    obtain ⟨recorded, _, record, ran⟩ :=
      (Program.run_bind_eq_ok_iff _ _ _ _ _ _).mp ran
    obtain ⟨_, _, _, ran⟩ :=
      (Program.run_bind_eq_ok_iff _ _ _ _ _ _).mp ran
    obtain ⟨_, _, _, ran⟩ :=
      (Program.run_bind_eq_ok_iff _ _ _ _ _ _).mp ran
    cases ran
    exact Or.inr ⟨Bool.eq_false_of_not_eq_true hold, result,
      withSwap_of_recordResult record⟩

/-- What the body of a cycle returns is a report. -/
theorem report_of_insideClients
    {number : Json} {acted : Dict}
    {snapshot : Option String × Option String}
    (ran : (Cycle.insideClients wallet signal
      [("cycle", number), ("signal", .obj signal)]).run script.environment
        desk = (.ok (acted, snapshot), reached)) :
    ∃ report : Report, report.number = number ∧ report.Consistent ∧
      acted = report.view := by
  obtain ⟨_, _, _, ran⟩ :=
    (Program.run_bind_eq_ok_iff _ _ _ _ _ _).mp ran
  obtain ⟨payload, _, _, ran⟩ :=
    (Program.run_bind_eq_ok_iff _ _ _ _ _ _).mp ran
  obtain ⟨last, _, act, ran⟩ :=
    (Program.run_bind_eq_ok_iff _ _ _ _ _ _).mp ran
  obtain ⟨_, _, _, ran⟩ :=
    (Program.run_bind_eq_ok_iff _ _ _ _ _ _).mp ran
  cases ran
  rcases view_of_acting act with ⟨hold, isView⟩ | ⟨trade, result, isView⟩
  · refine ⟨⟨number, signal, payload, none⟩, rfl, ?_, isView⟩
    exact iff_of_true rfl hold
  · refine ⟨⟨number, signal, payload, some result⟩, rfl, ?_, isView⟩
    refine iff_of_false ?_ ?_
    · intro isNone
      cases isNone
    · rw [trade]
      exact Bool.false_ne_true

theorem report_of_untilPublication
    {result : Dict} {snapshot : Option String × Option String}
    (ran : (untilPublication wallet signal).run script.environment desk =
      (.ok (result, snapshot), reached)) :
    ∃ report : Report, report.Consistent ∧ result = report.view := by
  obtain ⟨number, _, _, ran⟩ :=
    (Program.run_bind_eq_ok_iff _ _ _ _ _ _).mp ran
  obtain ⟨_, opened, _, ran⟩ :=
    (Program.run_bind_eq_ok_iff _ _ _ _ _ _).mp ran
  obtain ⟨outcome, acted, isActed, ran⟩ :=
    (Program.run_bind_eq_ok_iff _ _ _ _ _ _).mp ran
  obtain ⟨_, _, _, ran⟩ :=
    (Program.run_bind_eq_ok_iff _ _ _ _ _ _).mp ran
  rw [Program.run_attempt] at isActed
  rw [Program.run_ofExcept] at ran
  cases ran
  obtain ⟨isOutcome, isState⟩ := Prod.mk.inj isActed
  have inside :
      (Cycle.insideClients wallet signal
        [("cycle", number), ("signal", .obj signal)]).run
          script.environment opened = (.ok (result, snapshot), acted) :=
    Prod.ext (Except.ok.inj isOutcome) isState
  obtain ⟨report, _, consistent, isView⟩ := report_of_insideClients inside
  exact ⟨report, consistent, isView⟩

/-- A cycle publishes nothing, or a report. -/
theorem published_afterCycle (script : DeskScript) (desk : Desk)
    (wallet : String) (signal : Dict) :
    (script.afterCycle wallet signal desk).published = desk.published ∨
      ∃ report : Report, report.Consistent ∧
        (script.afterCycle wallet signal desk).published =
          desk.published ++ [report.view] := by
  have keeps : Kept desk ((untilPublication wallet signal).run
      script.environment desk).2 :=
    run_keeps (uses_untilPublication wallet signal)
  rw [DeskScript.afterCycle, Cycle.runTradeCycle, Program.run_recover,
    cycle_eq, Program.run_bind]
  cases ran : (untilPublication wallet signal).run script.environment
      desk with
  | mk outcome before =>
    rw [ran] at keeps
    cases outcome with
    | error exc => exact Or.inl keeps.published
    | ok finished =>
        obtain ⟨result, snapshot⟩ := finished
        obtain ⟨report, consistent, isView⟩ :=
          report_of_untilPublication ran
        have arrived := (arrive_keeps script before).1
        refine Or.inr ⟨report, consistent, ?_⟩
        show (script.arrive before).published ++ [result] = _
        rw [arrived.published, keeps.published, isView]

/-! ## Every run -/

/-- What was published are reports. -/
structure Reported (desk : Desk) (reports : List Report) : Prop where
  published : desk.published = reports.map Report.view
  consistent : ∀ report ∈ reports, report.Consistent

theorem Reported.apply {reports : List Report}
    (reported : Reported desk reports) (move : DeskMove) :
    ∃ more, Reported (script.apply desk move) more := by
  cases move with
  | partially now stage fields =>
      refine ⟨reports, ?_, reported.consistent⟩
      exact (kept_partially now desk (stage, fields)).published.trans
        reported.published
  | cycle wallet signal =>
      rcases published_afterCycle script desk wallet signal with
        same | ⟨report, consistent, extended⟩
      · exact ⟨reports, same.trans reported.published,
          reported.consistent⟩
      · refine ⟨reports ++ [report], ?_, ?_⟩
        · refine extended.trans ?_
          rw [reported.published, List.map_append]
          rfl
        · intro shown member
          rcases List.mem_append.mp member with earlier | last
          · exact reported.consistent shown earlier
          · rw [List.mem_singleton.mp last]
            exact consistent

theorem reported_play (script : DeskScript) (moves : List DeskMove)
    {desk : Desk} {reports : List Report}
    (reported : Reported desk reports) :
    ∃ more, Reported (script.play desk moves) more := by
  induction moves generalizing desk reports with
  | nil => exact ⟨reports, reported⟩
  | cons move moves inductionHypothesis =>
      obtain ⟨more, reportedNext⟩ := reported.apply move
      exact inductionHypothesis reportedNext

theorem cycle_of_view (report : Report) :
    report.view.get? "cycle" = some report.number := by
  obtain ⟨number, signal, payload, swap⟩ := report
  cases swap with
  | none => rfl
  | some result => exact (get?_withSwap _ result).1 "cycle" (by decide)

theorem mapM_eventsOf (updatedAt : Json) {reports : List Report}
    (consistent : ∀ report ∈ reports, report.Consistent) :
    (reports.map fun report => Json.obj report.view).mapM
        (eventsOf updatedAt) =
      .ok (reports.map fun report => report.events updatedAt) := by
  induction reports with
  | nil => rfl
  | cons report reports inductionHypothesis =>
      have first := eventsOf_view updatedAt
        (consistent report List.mem_cons_self)
      have others := inductionHypothesis fun other member =>
        consistent other (List.mem_cons_of_mem _ member)
      rw [List.map_cons, List.mapM_cons, first]
      show ((reports.map fun report => Json.obj report.view).mapM
        (eventsOf updatedAt)).bind _ = _
      rw [others]
      rfl

/-- `view.get("updated_at")` -/
def updatedAtOf (file : Option Json) : Json :=
  Dict.getD (fieldsOf file) "updated_at" .null

/-- Whatever has been published, the log returns: it shows the last twenty
reports, each with its number and in their order, as far as the limit
reaches. -/
theorem log_shows_reports
    (script : DeskScript) (moves : List DeskMove) (limit : Int) :
    ∃ reports : List Report,
      Reported (script.play .fresh moves) reports ∧
        (∀ (index : Nat) (report : Report),
          reports[index]? = some report →
            report.number = .int (min index 21 + 1 : Nat)) ∧
          getZgLog limit (script.play .fresh moves).file =
            .ok (lastOf limit ((lastTwenty reports).flatMap fun report =>
              report.events
                (updatedAtOf (script.play .fresh moves).file))) := by
  have fresh : Reported .fresh [] := by
    refine ⟨rfl, ?_⟩
    intro report member
    cases member
  obtain ⟨reports, reported⟩ := reported_play script moves fresh
  have counted := counted_play script moves counted_fresh
  refine ⟨reports, reported, ?_, ?_⟩
  · intro index report isReport
    have isView : (script.play .fresh moves).published[index]? =
        some report.view := by
      rw [reported.published, List.getElem?_map, isReport]
      rfl
    have numbered := counted.numbers index report.view isView
    rw [cycle_of_view] at numbered
    exact Option.some.inj numbered
  · have isObject : (readStateFile (script.play .fresh moves).file).asDict =
        .ok (fieldsOf (script.play .fresh moves).file) := by
      rw [readStateFile_of_readable counted.readable]
      rfl
    have isList := listOf_results counted.readable
    have results : resultsOf (script.play .fresh moves).file =
        (lastTwenty reports).map fun report => Json.obj report.view := by
      rw [counted.results, reported.published, lastTwenty_map,
        List.map_map]
      rfl
    have consistent : ∀ report ∈ lastTwenty reports, report.Consistent :=
      fun report member =>
        reported.consistent report (List.mem_of_mem_drop member)
    have shown := mapM_eventsOf
      (updatedAtOf (script.play .fresh moves).file) consistent
    rw [← results] at shown
    rw [getZgLog, isObject]
    show (listOf _).bind _ = _
    rw [isList]
    show ((resultsOf (script.play .fresh moves).file).mapM (eventsOf
      (updatedAtOf (script.play .fresh moves).file))).bind _ = _
    rw [shown]
    rfl

end SwarmFi.Dashboard

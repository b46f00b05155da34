import SwarmFi.Foundation.History
import SwarmFi.Dashboard.StateFile

/-!
# What a cycle does to the desk

A trade cycle stops early and leaves the state file with its partial updates,
or publishes once, at its end, a result that carries the number it read and
the snapshot of its own flush.
-/

namespace SwarmFi.Dashboard

open Foundation Python SwarmFi.Core Uniswap Compute

/-! ## What single calls change -/

/-- Nothing was published, and only partial updates were written. -/
structure Kept (first second : Desk) : Prop where
  published : second.published = first.published
  fields : keptFields second.file = keptFields first.file

theorem Kept.refl (desk : Desk) : Kept desk desk := ⟨rfl, rfl⟩

theorem Kept.trans {first second third : Desk}
    (earlier : Kept first second) (later : Kept second third) :
    Kept first third :=
  ⟨later.published.trans earlier.published,
    later.fields.trans earlier.fields⟩

theorem Kept.field {first second : Desk} (kept : Kept first second)
    {key : String}
    (other : ¬ (key = "updated_at" ∨ key = "in_progress")) :
    (fieldsOf second.file).get? key = (fieldsOf first.file).get? key :=
  get?_of_keptFields kept.fields other

theorem Kept.resultsOf {first second : Desk} (kept : Kept first second) :
    resultsOf second.file = resultsOf first.file := by
  unfold Dashboard.resultsOf
  rw [kept.field (by decide)]

theorem kept_partially
    (now : String) (desk : Desk) (update : String × Dict) :
    Kept desk (desk.partially now update) :=
  ⟨rfl, keptFields_publishPartial _ _ _ _⟩

/-- A call that does not publish a result. -/
def Unpublished : CycleCall → Prop
  | .publishStateView _ _ _ => False
  | _ => True

/-- A call that neither publishes a result nor flushes. -/
def Unflushed : CycleCall → Prop
  | .publishStateView _ _ _ => False
  | .flush => False
  | _ => True

section Calls

variable (script : DeskScript) (desk : Desk)

/-- The updates of others keep everything but the progress. -/
theorem arrive_keeps :
    Kept desk (script.arrive desk) ∧
      (script.arrive desk).flushes = desk.flushes ∧
        (Readable desk.file → Readable (script.arrive desk).file) := by
  have folded : ∀ (updates : List (String × Dict)) (desk' : Desk),
      Kept desk'
          (updates.foldl (Desk.partially (script.now desk.asked)) desk') ∧
        (updates.foldl (Desk.partially (script.now desk.asked))
          desk').flushes = desk'.flushes ∧
        (Readable desk'.file → Readable (updates.foldl
          (Desk.partially (script.now desk.asked)) desk').file) := by
    intro updates
    induction updates with
    | nil => exact fun desk' => ⟨Kept.refl desk', rfl, id⟩
    | cons update updates inductionHypothesis =>
        intro desk'
        have first := kept_partially (script.now desk.asked) desk' update
        obtain ⟨kept, flushes, readable⟩ := inductionHypothesis
          (desk'.partially (script.now desk.asked) update)
        refine ⟨first.trans kept, flushes, fun before => ?_⟩
        exact readable (before.partially _ _ _)
  obtain ⟨kept, flushes, readable⟩ :=
    folded (script.others desk.asked) desk
  exact ⟨⟨kept.published, kept.fields⟩, flushes, readable⟩

theorem environment_keeps
    (request : CycleCall) (unpublished : Unpublished request) :
    Kept desk (script.environment desk request).2 := by
  have arrived := (arrive_keeps script desk).1
  cases request with
  | publishStateView root result tx => exact unpublished.elim
  | publishPartial stage fields =>
      exact arrived.trans (kept_partially _ _ _)
  | flush => exact ⟨arrived.published, arrived.fields⟩
  | _ => exact arrived

theorem environment_flushes
    (request : CycleCall) (unflushed : Unflushed request) :
    (script.environment desk request).2.flushes = desk.flushes := by
  have arrived := (arrive_keeps script desk).2.1
  cases request with
  | flush => exact unflushed.elim
  | _ => exact arrived

theorem environment_readable
    (request : CycleCall) (readable : Readable desk.file) :
    Readable (script.environment desk request).2.file := by
  have arrived := (arrive_keeps script desk).2.2 readable
  cases request with
  | publishStateView root result tx => exact arrived.published _ _ _ _
  | publishPartial stage fields => exact arrived.partially _ _ _
  | _ => exact arrived

end Calls

section Runs

variable {ε α : Type} {script : DeskScript} {desk : Desk}
  {program : Program CycleVocabulary ε α}

theorem run_keeps (uses : program.Uses Unpublished) :
    Kept desk (program.run script.environment desk).2 := by
  apply uses.run_related Kept
  · exact Kept.refl
  · exact fun _ _ _ => Kept.trans
  · exact environment_keeps script

theorem run_flushes (uses : program.Uses Unflushed) :
    (program.run script.environment desk).2.flushes = desk.flushes :=
  uses.run_preserves Desk.flushes (environment_flushes script) desk

theorem run_readable (readable : Readable desk.file) :
    Readable (program.run script.environment desk).2.file := by
  have related := program.run_related
    (fun first second : Desk =>
      Readable first.file → Readable second.file)
    (fun _ => id) (fun _ _ _ earlier later => later ∘ earlier)
    (environment_readable script) desk
  exact related readable

/-- Flushes are only added. -/
theorem run_flushed :
    ∃ more, (program.run script.environment desk).2.flushes =
      desk.flushes ++ more := by
  apply program.run_related
    (fun first second : Desk =>
      ∃ more, second.flushes = first.flushes ++ more)
  · exact fun desk => ⟨[], (List.append_nil _).symm⟩
  · intro first second third earlier later
    obtain ⟨added, isSecond⟩ := earlier
    obtain ⟨more, isThird⟩ := later
    exact ⟨added ++ more, by
      rw [isThird, isSecond, List.append_assoc]⟩
  · intro state request
    by_cases unflushed : Unflushed request
    · rw [environment_flushes script state request unflushed]
      exact ⟨[], (List.append_nil _).symm⟩
    · have arrived := (arrive_keeps script state).2.1
      cases request with
      | flush =>
          exact ⟨_, congrArg (· ++ _) arrived⟩
      | publishStateView root result tx =>
          exact ⟨[], arrived.trans (List.append_nil _).symm⟩
      | _ => exact absurd trivial unflushed

theorem flushes_of_run (uses : program.Uses Unflushed)
    {outcome : Except ε α} {reached : Desk}
    (ran : program.run script.environment desk = (outcome, reached)) :
    reached.flushes = desk.flushes := by
  have same : (program.run script.environment desk).2.flushes =
      desk.flushes := run_flushes uses
  rw [ran] at same
  exact same

end Runs

/-! ## The snapshot of a cycle -/

/-- What a cycle publishes of its flush: nothing when it failed. -/
def snapshotOf : FlushOutcome → Option String × Option String
  | .ok snapshot => snapshot
  | .error _ => (none, none)

section Stages

open SwarmFi.Dashboard.Cycle

variable {script : DeskScript} {desk reached : Desk}
  {wallet : String} {signal view payload : Dict}

theorem unflushed_of_reports {roles : AgentRole → Prop} (request : CycleCall)
    (reports : Reports roles request) : Unflushed request := by
  cases request with
  | publishStateView root result tx => exact reports.elim
  | flush => exact reports.elim
  | _ => trivial

theorem unpublished_of_inside (request : CycleCall)
    (inside : Inside request) : Unpublished request := by
  cases request with
  | publishStateView root result tx => exact inside.elim
  | _ => trivial

/-- A failed flush is only logged. -/
theorem run_flush (script : DeskScript) (desk : Desk) :
    (flush.recover fun _ =>
        (.done (none, none) :
          Steps (Option String × Option String))).run
        script.environment desk =
      (.ok (snapshotOf (script.answers desk.asked .flush)),
        (script.arrive desk).flushed (script.answers desk.asked .flush)) := by
  rw [Program.run_recover]
  simp only [flush, Program.run_bind, Program.run_call, Program.run_done,
    Program.run_ofExcept, DeskScript.environment]
  cases script.answers desk.asked .flush <;> rfl

/-- What is committed is the snapshot of the one flush made. -/
theorem snapshot_of_committing
    {snapshot : Option String × Option String}
    (ran : (committing signal view).run script.environment desk =
      (.ok snapshot, reached)) :
    ∃ outcome, snapshot = snapshotOf outcome ∧
      reached.flushes = desk.flushes ++ [outcome] := by
  obtain ⟨_, streamed, progress, ran⟩ :=
    (Program.run_bind_eq_ok_iff _ _ _ _ _ _).mp ran
  obtain ⟨flushed, after, flush, ran⟩ :=
    (Program.run_bind_eq_ok_iff _ _ _ _ _ _).mp ran
  obtain ⟨_, recorded, record, ran⟩ :=
    (Program.run_bind_eq_ok_iff _ _ _ _ _ _).mp ran
  cases ran
  have streams :=
    flushes_of_run (uses_publishPartial unflushed_of_reports _ _) progress
  have records :=
    flushes_of_run (uses_recordSnapshot unflushed_of_reports _) record
  rw [run_flush] at flush
  cases flush
  refine ⟨_, rfl, ?_⟩
  rw [records]
  show (script.arrive streamed).flushes ++ _ = _
  rw [(arrive_keeps script streamed).2.1, streams]

/-! ## The number of a cycle -/

theorem cycle_of_recordResult
    {result : SwapResult} {recorded : Dict}
    (ran : (recordResult view result).run script.environment desk =
      (.ok recorded, reached)) :
    recorded.get? "cycle" = view.get? "cycle" := by
  unfold recordResult at ran
  split at ran
  · obtain ⟨_, _, _, ran⟩ :=
      (Program.run_bind_eq_ok_iff _ _ _ _ _ _).mp ran
    obtain ⟨_, _, _, ran⟩ :=
      (Program.run_bind_eq_ok_iff _ _ _ _ _ _).mp ran
    cases ran
    rw [Dict.get?_set, if_neg (by decide), Dict.get?_set,
      if_neg (by decide)]
  · obtain ⟨_, _, _, ran⟩ :=
      (Program.run_bind_eq_ok_iff _ _ _ _ _ _).mp ran
    obtain ⟨_, _, _, ran⟩ :=
      (Program.run_bind_eq_ok_iff _ _ _ _ _ _).mp ran
    cases ran
    rw [Dict.get?_set, if_neg (by decide)]

/-- The number stays under its key in whatever view the actions return. -/
theorem cycle_of_acting
    {acted : Dict}
    (ran : (acting wallet signal view payload).run script.environment
      desk = (.ok acted, reached)) :
    acted.get? "cycle" = view.get? "cycle" := by
  unfold acting at ran
  split at ran
  · obtain ⟨_, _, _, ran⟩ :=
      (Program.run_bind_eq_ok_iff _ _ _ _ _ _).mp ran
    cases ran
    rfl
  · obtain ⟨_, _, _, ran⟩ :=
      (Program.run_bind_eq_ok_iff _ _ _ _ _ _).mp ran
    obtain ⟨_, _, _, ran⟩ :=
      (Program.run_bind_eq_ok_iff _ _ _ _ _ _).mp ran
    obtain ⟨result, _, _, ran⟩ :=
      (Program.run_bind_eq_ok_iff _ _ _ _ _ _).mp ran
    obtain ⟨recorded, _, record, ran⟩ :=
      (Program.run_bind_eq_ok_iff _ _ _ _ _ _).mp ran
    obtain ⟨_, _, _, ran⟩ :=
      (Program.run_bind_eq_ok_iff _ _ _ _ _ _).mp ran
    obtain ⟨_, _, _, ran⟩ :=
      (Program.run_bind_eq_ok_iff _ _ _ _ _ _).mp ran
    cases ran
    exact cycle_of_recordResult record

theorem cycle_decidedView :
    (decidedView view payload).get? "cycle" = view.get? "cycle" := by
  unfold decidedView
  rw [Dict.get?_set, if_neg (by decide), Dict.get?_set,
    if_neg (by decide), Dict.get?_set, if_neg (by decide),
    Dict.get?_set, if_neg (by decide)]

/-- What the body of a cycle returns carries the number of the cycle and the
snapshot of its one flush. -/
theorem run_insideClients_ok
    {acted : Dict} {snapshot : Option String × Option String}
    (ran : (insideClients wallet signal view).run script.environment desk =
      (.ok (acted, snapshot), reached)) :
    acted.get? "cycle" = view.get? "cycle" ∧
      ∃ outcome, snapshot = snapshotOf outcome ∧
        reached.flushes = desk.flushes ++ [outcome] := by
  obtain ⟨_, scanned, scan, ran⟩ :=
    (Program.run_bind_eq_ok_iff _ _ _ _ _ _).mp ran
  obtain ⟨payload, decided, decide, ran⟩ :=
    (Program.run_bind_eq_ok_iff _ _ _ _ _ _).mp ran
  obtain ⟨last, acts, act, ran⟩ :=
    (Program.run_bind_eq_ok_iff _ _ _ _ _ _).mp ran
  obtain ⟨committed, commits, commit, ran⟩ :=
    (Program.run_bind_eq_ok_iff _ _ _ _ _ _).mp ran
  cases ran
  have scans :=
    flushes_of_run (uses_scanning unflushed_of_reports signal) scan
  have decides := flushes_of_run
    (uses_deciding unflushed_of_reports (fun _ => trivial) trivial signal)
    decide
  have acted := flushes_of_run
    (uses_acting unflushed_of_reports (fun _ => trivial) wallet signal _ _)
    act
  obtain ⟨outcome, isSnapshot, flushes⟩ := snapshot_of_committing commit
  rw [acted, decides, scans] at flushes
  have numbered := cycle_of_acting act
  rw [cycle_decidedView] at numbered
  exact ⟨numbered, outcome, isSnapshot, flushes⟩

/-! ## A whole cycle -/

/-- What a cycle does with its clients open, and their closing. -/
def untilClosed (wallet : String) (signal : Dict) (number : Json) :
    Steps (Dict × Option String × Option String) := do
  let outcome ← (insideClients wallet signal
    [("cycle", number), ("signal", .obj signal)]).attempt
  closeClients
  .ofExcept outcome

/-- All of a cycle but the publication. -/
def untilPublication (wallet : String) (signal : Dict) :
    Steps (Dict × Option String × Option String) := do
  let number ← Cycle.readStateFile.bind fun view => .ofExcept (nextCycle view)
  openClients
  untilClosed wallet signal number

theorem cycle_eq (wallet : String) (signal : Dict) :
    cycle wallet signal =
      (untilPublication wallet signal).bind fun finished =>
        Cycle.publishStateView finished.2.1 finished.1 finished.2.2 := by
  unfold cycle untilPublication untilClosed
  simp only [Program.bind_eq_bind, Program.bind_assoc]

theorem uses_untilClosed
    {allowed : CycleCall → Prop}
    (inside : ∀ request, Inside request → allowed request)
    (closing : allowed .closeClients)
    (wallet : String) (signal : Dict) (number : Json) :
    (untilClosed wallet signal number).Uses allowed := by
  have closes : closeClients.Uses allowed :=
    ⟨closing, fun answer => Program.uses_ofExcept answer⟩
  apply ((uses_insideClients wallet signal _).mono inside).attempt.bind
  intro outcome
  apply closes.bind
  intro _
  exact Program.uses_ofExcept outcome

theorem uses_untilPublication (wallet : String) (signal : Dict) :
    (untilPublication wallet signal).Uses Unpublished := by
  have reads : Cycle.readStateFile.Uses Unpublished :=
    ⟨trivial, fun _ => trivial⟩
  have opens : openClients.Uses Unpublished :=
    ⟨trivial, fun answer => Program.uses_ofExcept answer⟩
  apply (reads.bind fun view => Program.uses_ofExcept _).bind
  intro number
  apply opens.bind
  intro _
  exact uses_untilClosed unpublished_of_inside trivial wallet signal number

/-- The number that a cycle reads is the one that the file has at its
start. -/
theorem nextCycle_of_kept
    {first second : Desk} (kept : Kept first second)
    (readable : Readable second.file) {number : Json}
    (isNumber : nextCycle (Dashboard.readStateFile second.file) =
      .ok number) :
    nextCycle (.obj (fieldsOf first.file)) = .ok number := by
  have same : (fieldsOf second.file).get? "cycles" =
      (fieldsOf first.file).get? "cycles" := kept.field (by decide)
  rw [readStateFile_of_readable readable] at isNumber
  obtain ⟨fields, isFields, counted⟩ := (bind_eq_ok_iff _ _ _).mp isNumber
  cases isFields
  apply (bind_eq_ok_iff _ _ _).mpr
  refine ⟨fieldsOf first.file, rfl, ?_⟩
  unfold Dict.getD at counted ⊢
  rw [same] at counted
  exact counted

/-- What one cycle does: it stops early, or it publishes at its end. -/
inductive CycleEnds (desk : Desk) : Desk → Prop where
  | stopped {last : Desk} (kept : Kept desk last)
      (flushed : ∃ more, last.flushes = desk.flushes ++ more) :
      CycleEnds desk last
  | published {before : Desk} {number : Json} {result : Dict}
      {outcome : FlushOutcome} (now : String)
      (kept : Kept desk before) (readable : Readable before.file)
      (isNumber : nextCycle (.obj (fieldsOf desk.file)) = .ok number)
      (numbered : result.get? "cycle" = some number)
      (flushed : before.flushes = desk.flushes ++ [outcome]) :
      CycleEnds desk
        (before.publish now (snapshotOf outcome).1 result
          (snapshotOf outcome).2)

/-- What a cycle has ready for its publication. -/
theorem run_untilPublication_ok
    (readable : Readable desk.file)
    {result : Dict} {snapshot : Option String × Option String}
    (ran : (untilPublication wallet signal).run script.environment desk =
      (.ok (result, snapshot), reached)) :
    (∃ number, nextCycle (.obj (fieldsOf desk.file)) = .ok number ∧
      result.get? "cycle" = some number) ∧
        ∃ outcome, snapshot = snapshotOf outcome ∧
          reached.flushes = desk.flushes ++ [outcome] := by
  obtain ⟨number, read, isRead, ran⟩ :=
    (Program.run_bind_eq_ok_iff _ _ _ _ _ _).mp ran
  obtain ⟨_, opened, isOpened, ran⟩ :=
    (Program.run_bind_eq_ok_iff _ _ _ _ _ _).mp ran
  obtain ⟨outcome, acted, isActed, ran⟩ :=
    (Program.run_bind_eq_ok_iff _ _ _ _ _ _).mp ran
  obtain ⟨_, closed, isClosed, ran⟩ :=
    (Program.run_bind_eq_ok_iff _ _ _ _ _ _).mp ran
  simp only [Cycle.readStateFile, Program.run_bind, Program.run_call,
    Program.run_done, Program.run_ofExcept, DeskScript.environment,
    Prod.mk.injEq] at isRead
  obtain ⟨isNumber, isArrived⟩ := isRead
  obtain ⟨arrived, sameFlushes, stillReadable⟩ := arrive_keeps script desk
  rw [isArrived] at isNumber arrived sameFlushes stillReadable
  have opens : opened.flushes = read.flushes :=
    flushes_of_run
      (show openClients.Uses Unflushed from
        ⟨trivial, fun answer => Program.uses_ofExcept answer⟩) isOpened
  have closes : closed.flushes = acted.flushes :=
    flushes_of_run
      (show closeClients.Uses Unflushed from
        ⟨trivial, fun answer => Program.uses_ofExcept answer⟩) isClosed
  rw [Program.run_attempt] at isActed
  rw [Program.run_ofExcept] at ran
  cases ran
  obtain ⟨isOutcome, isState⟩ := Prod.mk.inj isActed
  have inside :
      (insideClients wallet signal
        [("cycle", number), ("signal", .obj signal)]).run
          script.environment opened = (.ok (result, snapshot), acted) :=
    Prod.ext (Except.ok.inj isOutcome) isState
  obtain ⟨numbered, flush, isSnapshot, flushes⟩ :=
    run_insideClients_ok inside
  refine ⟨⟨number, ?_, numbered⟩, flush, isSnapshot, ?_⟩
  · exact nextCycle_of_kept arrived (stillReadable readable) isNumber
  · rw [closes, flushes, opens, sameFlushes]

/-- One case for each way to end. -/
theorem cycleEnds
    (readable : Readable desk.file) :
    CycleEnds desk (script.afterCycle wallet signal desk) := by
  unfold DeskScript.afterCycle runTradeCycle
  rw [Program.run_recover, cycle_eq, Program.run_bind]
  cases ran : (untilPublication wallet signal).run script.environment
      desk with
  | mk outcome before =>
    have kept : Kept desk before := by
      have keeps : Kept desk ((untilPublication wallet signal).run
          script.environment desk).2 :=
        run_keeps (uses_untilPublication wallet signal)
      rw [ran] at keeps
      exact keeps
    cases outcome with
    | error exc =>
        have flushed : ∃ more,
            ((untilPublication wallet signal).run script.environment
              desk).2.flushes = desk.flushes ++ more := run_flushed
        rw [ran] at flushed
        exact .stopped kept flushed
    | ok finished =>
        obtain ⟨⟨number, isNumber, numbered⟩, flush, isSnapshot,
          flushes⟩ := run_untilPublication_ok readable ran
        have stillReadable : Readable ((untilPublication wallet
            signal).run script.environment desk).2.file :=
          run_readable readable
        rw [ran] at stillReadable
        obtain ⟨arrived, sameFlushes, keepsReadable⟩ :=
          arrive_keeps script before
        simp only [Cycle.publishStateView, Program.run_call,
          Program.run_done, DeskScript.environment, isSnapshot]
        apply CycleEnds.published (script.now before.asked)
          (kept.trans arrived) (keepsReadable stillReadable) isNumber
          numbered
        rw [sameFlushes, flushes]

end Stages

end SwarmFi.Dashboard

import SwarmFi.Foundation.Verdict
import SwarmFi.Dashboard.CycleRuns

/-!
# Progress that is cleared

The stages of a cycle stream their progress into the state file and only the
publication at the end clears it, so a cycle that raises after its first
partial update leaves itself shown as running.
-/

namespace SwarmFi.Dashboard

open Foundation Python SwarmFi.Core Uniswap Compute

/-! ## What the file should say at the end -/

/-- `view.get("in_progress")` -/
def progressOf (file : Option Json) : Json :=
  Dict.getD (fieldsOf file) "in_progress" .null

/-- Nothing is shown as running, and the results listed before are listed
still, but for those beyond the cap. -/
structure EndsCleared (before after : Desk) : Prop where
  progress : progressOf after.file = .null
  results : resultsOf after.file = resultsOf before.file ∨
    ∃ result, resultsOf after.file =
      lastTwenty (resultsOf before.file ++ [result])

/-- One cycle and nothing else at the desk. -/
def alone (now : Nat → String) (answers : Nat → CycleAnswers) :
    DeskScript where
  now := now
  answers := answers
  others := fun _ => []

/-- The answer raises nothing; the number in the file can be read, and the
reply leads to a decision whose confidence prints. -/
def Fine (signal : Dict) : Event CycleVocabulary → Prop
  | ⟨.openClients, answer⟩ => ∃ value, answer = .ok value
  | ⟨.closeClients, answer⟩ => ∃ value, answer = .ok value
  | ⟨.readStateFile, view⟩ =>
      ∃ number, Cycle.nextCycle view = .ok number
  | ⟨.write _ _, answer⟩ => ∃ value, answer = .ok value
  | ⟨.updateText _ _ _, answer⟩ => ∃ value, answer = .ok value
  | ⟨.announce _ _, answer⟩ => ∃ value, answer = .ok value
  | ⟨.chat _, reply⟩ => ∃ decision percent,
      decisionFor signal reply = .ok decision ∧
        Cycle.confidencePercent decision.confidence = .ok percent
  | ⟨.executeSwap _, answer⟩ => ∃ result, answer = .ok result
  | _ => True

/-- The prompt can be built, and no step but the flush raises. -/
def NothingRaises (script : DeskScript) (desk : Desk) (wallet : String)
    (signal : Dict) : Prop :=
  (∃ prompt, buildUserPrompt signal = .ok prompt) ∧
    ∀ event ∈ (Cycle.runTradeCycle wallet signal).trace script.environment
      desk, Fine signal event

/-- The cycle raises at this answer, before its first partial update. -/
def StopsCycle : Event CycleVocabulary → Prop
  | ⟨.readStateFile, view⟩ =>
      ¬ ∃ number, Cycle.nextCycle view = .ok number
  | ⟨.openClients, answer⟩ => ¬ ∃ value, answer = .ok value
  | _ => False

/-- Nothing was shown as running, and the cycle raises before it shows
itself. -/
def StopsEarly (script : DeskScript) (desk : Desk) (wallet : String)
    (signal : Dict) : Prop :=
  progressOf desk.file = .null ∧
    ∃ event ∈ (Cycle.runTradeCycle wallet signal).trace script.environment
      desk, StopsCycle event

/-! ## Which cycles return -/

section Needs

open SwarmFi.Dashboard.Cycle

variable (signal : Dict)

theorem needs_write (role : AgentRole) (memoryWrite : MemoryWrite) :
    (Cycle.write role memoryWrite).Needs (Fine signal) fun _ => True :=
  Program.needs_read fun _ => Iff.rfl

theorem needs_updateText
    (role : AgentRole) (key : String) (value : TextValue) :
    (updateText role key value).Needs (Fine signal) fun _ => True :=
  Program.needs_read fun _ => Iff.rfl

theorem needs_announce (messageType : MessageType) (payload : Dict) :
    (announce messageType payload).Needs (Fine signal) fun _ => True :=
  Program.needs_read fun _ => Iff.rfl

theorem needs_publishPartial (stage : String) (fields : Dict) :
    (Cycle.publishPartial stage fields).Needs (Fine signal)
      fun _ => True :=
  Program.needs_call fun _ => trivial

theorem price_of_prompt {prompt : Prompt}
    (built : buildUserPrompt signal = .ok prompt) :
    ∃ price, (signal.getD "price_usd" (.int 0)).toFloat = .ok price := by
  simp only [buildUserPrompt, bind_eq_ok_iff] at built
  obtain ⟨_, _, _, _, _, _, _, _, price, isPrice, _⟩ := built
  exact ⟨price, isPrice⟩

theorem needs_scanning {prompt : Prompt}
    (built : buildUserPrompt signal = .ok prompt) :
    (scanning signal).Needs (Fine signal) fun _ => True := by
  obtain ⟨price, isPrice⟩ := price_of_prompt signal built
  apply (needs_publishPartial signal _ _).bind
  intro _ _
  apply (needs_write signal _ _).bind
  intro _ _
  apply (needs_write signal _ _).bind
  intro _ _
  apply (needs_updateText signal _ _ _).bind
  intro _ _
  apply (needs_updateText signal _ _ _).bind
  intro _ _
  rw [isPrice]
  apply (needs_updateText signal _ _ _).bind
  intro _ _
  exact needs_announce signal _ _

theorem risk_of_modelDump (decision : TradeDecisionPayload) :
    (Dict.getD decision.modelDump "risk_score" (.int 0)).toFloat =
      .ok decision.riskScore := rfl

theorem confidence_of_modelDump (decision : TradeDecisionPayload) :
    (Dict.getD decision.modelDump "confidence" (.int 0)).toFloat =
      .ok decision.confidence := rfl

/-- A decision whose confidence does not print raises when it is recorded. -/
theorem fails_recordDecision {decision : TradeDecisionPayload}
    (unprinted : ¬ ∃ percent,
      confidencePercent decision.confidence = .ok percent) :
    (recordDecision decision.modelDump).Fails := by
  have raises : ∃ exc,
      confidencePercent decision.confidence = .error exc := by
    cases printed : confidencePercent decision.confidence with
    | ok percent => exact absurd ⟨percent, printed⟩ unprinted
    | error exc => exact ⟨exc, rfl⟩
  obtain ⟨exc, raised⟩ := raises
  unfold recordDecision
  rw [risk_of_modelDump, confidence_of_modelDump]
  simp only [Program.bind_eq_bind, Program.ofExcept_ok, Program.done_bind,
    raised, Program.ofExcept_error, Program.raise_bind]
  apply Program.Fails.after
  intro _
  apply Program.Fails.after
  intro _
  trivial

theorem needs_recordDecision {decision : TradeDecisionPayload}
    {percent : Int}
    (printed : confidencePercent decision.confidence = .ok percent) :
    (recordDecision decision.modelDump).Needs (Fine signal)
      fun _ => True := by
  unfold recordDecision
  rw [risk_of_modelDump, confidence_of_modelDump]
  simp only [Program.bind_eq_bind, Program.ofExcept_ok, Program.done_bind,
    printed]
  apply (needs_updateText signal _ _ _).bind
  intro _ _
  apply (needs_updateText signal _ _ _).bind
  intro _ _
  exact needs_updateText signal _ _ _

theorem needs_rememberDecision (payload : Dict) :
    (rememberDecision signal payload).Needs (Fine signal)
      fun _ => True := by
  apply (needs_write signal _ _).bind
  intro _ _
  apply (needs_write signal _ _).bind
  intro _ _
  exact needs_publishPartial signal _ _

/-- What follows the decision in its stage. -/
def announcing (signal : Dict) (decision : SwarmMessage) : Steps Dict := do
  rememberDecision signal decision.payload
  recordDecision decision.payload
  announce .tradeDecision decision.payload
  return decision.payload

/-- The reply is fine when the decision made of it is recorded. -/
theorem needs_score_announcing {prompt : Prompt}
    (built : buildUserPrompt signal = .ok prompt) :
    ((score Cycle.chat Cycle.newStamp signal zeroPubkey).bind
      (announcing signal)).Needs (Fine signal) fun _ => True := by
  have validKey : (validPubkey zeroPubkey).toOption = some zeroPubkey := by
    decide +kernel
  have makes := SwarmMessage.make_of_valid (eq_ok_of_toOption validKey)
  simp only [score, Cycle.chat, Cycle.newStamp, built, makes, Program.bind_eq_bind,
    Program.bind_assoc, Program.ofExcept_ok, Program.done_bind]
  intro reply
  simp only [Program.done_bind]
  cases decided : decisionFor signal reply with
  | error exc =>
      simp only [Program.ofExcept_error, Program.raise_bind]
      constructor
      · intro isFine
        obtain ⟨decision, _, same, _⟩ := isFine
        rw [decided] at same
        cases same
      · intro _
        trivial
  | ok decision =>
      simp only [Program.ofExcept_ok, Program.done_bind]
      constructor
      · intro isFine
        obtain ⟨found, percent, same, printed⟩ := isFine
        rw [decided] at same
        cases same
        intro stamp
        constructor
        · intro _
          apply (needs_rememberDecision signal _).bind
          intro _ _
          apply (needs_recordDecision signal printed).bind
          intro _ _
          apply (needs_announce signal _ _).bind
          intro _ _
          trivial
        · intro notFine
          exact absurd trivial notFine
      · intro notFine
        have unprinted : ¬ ∃ percent,
            confidencePercent decision.confidence = .ok percent := by
          intro prints
          obtain ⟨percent, printed⟩ := prints
          exact notFine ⟨decision, percent, decided, printed⟩
        apply Program.Fails.after
        intro stamp
        apply Program.Fails.after
        intro _
        exact (fails_recordDecision unprinted).bind _

theorem needs_deciding {prompt : Prompt}
    (built : buildUserPrompt signal = .ok prompt) :
    (deciding signal).Needs (Fine signal) fun _ => True := by
  apply (needs_publishPartial signal _ _).bind
  intro _ _
  apply (needs_write signal _ _).bind
  intro _ _
  exact needs_score_announcing signal built

theorem needs_recordResult (view : Dict) (result : SwapResult) :
    (recordResult view result).Needs (Fine signal) fun _ => True := by
  unfold recordResult
  split
  · apply (needs_write signal _ _).bind
    intro _ _
    apply (needs_write signal _ _).bind
    intro _ _
    trivial
  · apply (needs_write signal _ _).bind
    intro _ _
    apply (needs_write signal _ _).bind
    intro _ _
    trivial

theorem needs_recordSettlement (result : SwapResult) :
    (recordSettlement result).Needs (Fine signal) fun _ => True := by
  apply (needs_updateText signal _ _ _).bind
  intro _ _
  apply (needs_updateText signal _ _ _).bind
  intro _ _
  split
  · trivial
  · split
    · trivial
    · apply (needs_updateText signal _ _ _).bind
      intro _ _
      exact needs_updateText signal _ _ _

theorem needs_acting (wallet : String) (view payload : Dict) :
    (acting wallet signal view payload).Needs (Fine signal)
      fun _ => True := by
  unfold acting
  split
  · apply (needs_write signal _ _).bind
    intro _ _
    trivial
  · have swaps : (executeSwap (swapRequest wallet payload)).Needs
        (Fine signal) fun _ => True := Program.needs_read fun _ => Iff.rfl
    apply (needs_publishPartial signal _ _).bind
    intro _ _
    apply (needs_write signal _ _).bind
    intro _ _
    apply swaps.bind
    intro result _
    apply (needs_recordResult signal view result).bind
    intro recorded _
    apply (needs_recordSettlement signal result).bind
    intro _ _
    apply (needs_announce signal _ _).bind
    intro _ _
    trivial

theorem needs_recordSnapshot (root : Option String) :
    (recordSnapshot root).Needs (Fine signal) fun _ => True := by
  cases root with
  | none => trivial
  | some root =>
      by_cases isEmpty : root = ""
      · rw [recordSnapshot, if_pos isEmpty]
        trivial
      · rw [recordSnapshot, if_neg isEmpty]
        apply (needs_updateText signal _ _ _).bind
        intro _ _
        apply (needs_updateText signal _ _ _).bind
        intro _ _
        apply (needs_updateText signal _ _ _).bind
        intro _ _
        trivial

/-- A flush may fail. -/
theorem needs_committing (view : Dict) :
    (committing signal view).Needs (Fine signal) fun _ => True := by
  have flushes : (flush.recover fun _ =>
      (.done (none, none) :
        Steps (Option String × Option String))).Needs (Fine signal)
          fun _ => True := by
    intro answer
    constructor
    · intro _
      cases answer <;> trivial
    · intro notFine
      exact absurd trivial notFine
  apply (needs_publishPartial signal _ _).bind
  intro _ _
  apply flushes.bind
  intro snapshot _
  apply (needs_recordSnapshot signal _).bind
  intro _ _
  trivial

theorem needs_insideClients {prompt : Prompt}
    (built : buildUserPrompt signal = .ok prompt) (wallet : String)
    (view : Dict) :
    (insideClients wallet signal view).Needs (Fine signal)
      fun _ => True := by
  apply (needs_scanning signal built).bind
  intro _ _
  apply (needs_deciding signal built).bind
  intro payload _
  apply (needs_acting signal wallet _ payload).bind
  intro acted _
  apply (needs_committing signal acted).bind
  intro snapshot _
  trivial

/-- With a prompt that can be built, a cycle returns on fine answers. -/
theorem needs_cycle {prompt : Prompt}
    (built : buildUserPrompt signal = .ok prompt) (wallet : String) :
    (cycle wallet signal).Needs (Fine signal) fun _ => True := by
  have reads : (Cycle.readStateFile.bind fun view =>
      (.ofExcept (nextCycle view) : Steps Json)).Needs (Fine signal)
        fun _ => True := Program.needs_read fun _ => Iff.rfl
  have opens : openClients.Needs (Fine signal) fun _ => True :=
    Program.needs_read fun _ => Iff.rfl
  have closes : closeClients.Needs (Fine signal) fun _ => True :=
    Program.needs_read fun _ => Iff.rfl
  apply reads.bind
  intro number _
  apply opens.bind
  intro _ _
  apply (needs_insideClients signal built wallet _).attempt_bind
  · intro finished _
    apply closes.bind
    intro _ _
    exact Program.needs_call fun _ => trivial
  · intro exc
    apply Program.Fails.after
    intro _
    trivial

/-- Without one it raises. -/
theorem fails_cycle
    (unbuilt : ¬ ∃ prompt, buildUserPrompt signal = .ok prompt)
    (wallet : String) : (cycle wallet signal).Fails := by
  have raises : ∃ exc, buildUserPrompt signal = .error exc := by
    cases built : buildUserPrompt signal with
    | ok prompt => exact absurd ⟨prompt, built⟩ unbuilt
    | error exc => exact ⟨exc, rfl⟩
  obtain ⟨exc, raised⟩ := raises
  have scoring : (score Cycle.chat Cycle.newStamp signal zeroPubkey).Fails := by
    simp only [score, raised, Program.bind_eq_bind,
      Program.ofExcept_error, Program.raise_bind]
    trivial
  have deciding : (deciding signal).Fails := by
    apply Program.Fails.after
    intro _
    apply Program.Fails.after
    intro _
    exact scoring.bind _
  have inside : ∀ view, (insideClients wallet signal view).Fails := by
    intro view
    apply Program.Fails.after
    intro _
    exact deciding.bind _
  apply Program.Fails.after
  intro number
  apply Program.Fails.after
  intro _
  apply (inside _).attempt_bind
  intro exc
  apply Program.Fails.after
  intro _
  trivial

/-- A cycle returns exactly when nothing raises. -/
theorem nothingRaises_iff
    (script : DeskScript) (desk : Desk) (wallet : String) :
    NothingRaises script desk wallet signal ↔
      ∃ value,
        ((cycle wallet signal).run script.environment desk).1 =
          .ok value := by
  have sameTrace :
      (runTradeCycle wallet signal).trace script.environment desk =
        (cycle wallet signal).trace script.environment desk :=
    Program.trace_recover_done script.environment _ (fun _ => ()) desk
  unfold NothingRaises
  rw [sameTrace]
  by_cases built : ∃ prompt, buildUserPrompt signal = .ok prompt
  · rw [and_iff_right built]
    obtain ⟨prompt, isPrompt⟩ := built
    have needs := needs_cycle signal isPrompt wallet
    exact (needs.run script.environment desk).symm
  · apply iff_of_false
    · intro both
      exact built both.1
    · intro returned
      obtain ⟨value, isValue⟩ := returned
      have fails := fails_cycle signal built wallet
      exact fails.run script.environment desk value isValue

end Needs

/-! ## What a cycle leaves behind -/

theorem afterCycle_eq (script : DeskScript) (desk : Desk)
    (wallet : String) (signal : Dict) :
    script.afterCycle wallet signal desk =
      ((Cycle.cycle wallet signal).run script.environment desk).2 := by
  unfold DeskScript.afterCycle Cycle.runTradeCycle
  rw [Program.run_recover]
  rcases (Cycle.cycle wallet signal).run script.environment desk with
    ⟨outcome, reached⟩
  cases outcome <;> rfl

theorem progressOf_publish {desk : Desk} (readable : Readable desk.file)
    (now : String) (root : Option String) (result : Dict)
    (tx : Option String) :
    progressOf (desk.publish now root result tx).file = .null := by
  have isFile : (desk.publish now root result tx).file =
      some (.obj (stateView now root result tx desk.file)) :=
    publishStateView_of_readable readable now root result tx
  rw [isFile]
  unfold progressOf Dict.getD
  simp only [fieldsOf, stateView_inProgress, Option.getD_some]

theorem shown_of_written (fields progress : Dict) (now : String) :
    progressOf (some (.obj ((fields.set "updated_at" (.str now)).set
      "in_progress" (.obj progress)))) ≠ .null := by
  unfold progressOf Dict.getD
  simp only [fieldsOf, Dict.get?_set, if_true, Option.getD_some]
  intro isNull
  cases isNull

/-- A partial update of a readable file shows the cycle as running. -/
theorem shown_partially {file : Option Json} (readable : Readable file)
    (now stage : String) (fields : Dict) :
    progressOf (publishPartial now stage fields file) ≠ .null := by
  obtain ⟨progress, isFile⟩ :=
    publishPartial_of_readable readable now stage fields
  rw [isFile]
  exact shown_of_written (fieldsOf file) progress now

theorem still_shown_partially {file : Option Json}
    (shown : progressOf file ≠ .null) (now stage : String)
    (fields : Dict) :
    progressOf (publishPartial now stage fields file) ≠ .null := by
  rcases publishPartial_cases now stage fields file with
    same | ⟨progress, isFile⟩
  · rw [same]
    exact shown
  · rw [isFile]
    exact shown_of_written (fieldsOf file) progress now

section Ends

variable {script : DeskScript} {desk : Desk} {wallet : String}
  {signal : Dict}

/-- A cycle that returns has published. -/
theorem endsCleared_of_ok (readable : Readable desk.file)
    {value : Unit}
    (returned : ((Cycle.cycle wallet signal).run script.environment
      desk).1 = .ok value) :
    EndsCleared desk (script.afterCycle wallet signal desk) := by
  rw [afterCycle_eq]
  cases ran : (Cycle.cycle wallet signal).run script.environment desk with
  | mk outcome last =>
    rw [ran] at returned
    cases returned
    rw [cycle_eq] at ran
    obtain ⟨finished, before, isFinished, published⟩ :=
      (Program.run_bind_eq_ok_iff _ _ _ _ _ _).mp ran
    have kept : Kept desk ((untilPublication wallet signal).run
        script.environment desk).2 :=
      run_keeps (uses_untilPublication wallet signal)
    have stillReadable : Readable ((untilPublication wallet signal).run
        script.environment desk).2.file := run_readable readable
    rw [isFinished] at kept stillReadable
    obtain ⟨arrived, _, keepsReadable⟩ := arrive_keeps script before
    have readableThere := keepsReadable stillReadable
    have listed := (kept.trans arrived).resultsOf
    simp only [Cycle.publishStateView, Program.run_call,
      Program.run_done, DeskScript.environment] at published
    cases published
    constructor
    · exact progressOf_publish readableThere _ _ _ _
    · right
      refine ⟨.obj finished.1, ?_⟩
      rw [← listed]
      exact resultsOf_publishStateView readableThere _ _ _ _

end Ends

section Alone

variable (now : Nat → String) (answers : Nat → CycleAnswers)
  (desk : Desk) (wallet : String) (signal : Dict)

/-- What shows a cycle as running stays until a publication. -/
theorem still_shown {α : Type} {program : Cycle.Steps α}
    (uses : program.Uses Unpublished)
    (shown : progressOf desk.file ≠ .null) :
    progressOf (program.run (alone now answers).environment
      desk).2.file ≠ .null := by
  revert shown
  apply uses.run_related
    (fun first second : Desk => progressOf first.file ≠ .null →
      progressOf second.file ≠ .null)
  · exact fun _ => id
  · exact fun _ _ _ earlier later => later ∘ earlier
  · intro state request unpublished isShown
    cases request with
    | publishStateView root result tx => exact unpublished.elim
    | publishPartial stage fields =>
        exact still_shown_partially isShown _ stage fields
    | _ => exact isShown

/-- Once the clients are open, a cycle that raises is shown as running. -/
theorem shown_untilClosed (readable : Readable desk.file)
    (number : Json) :
    progressOf ((untilClosed wallet signal number).run
      (alone now answers).environment desk).2.file ≠ .null := by
  have isCall : ∃ next, untilClosed wallet signal number =
      .call (CycleCall.publishPartial "scanning"
        [("signal", .obj signal)]) next := ⟨_, rfl⟩
  obtain ⟨next, isNext⟩ := isCall
  have uses : (untilClosed wallet signal number).Uses Unpublished :=
    uses_untilClosed unpublished_of_inside trivial wallet signal number
  rw [isNext] at uses ⊢
  rw [Program.run_call]
  apply still_shown now answers _ (uses.2 _)
  exact shown_partially readable _ _ _

/-- A cycle after its clients are open. -/
def afterOpening (wallet : String) (signal : Dict) (number : Json) :
    Cycle.Steps Unit :=
  (untilClosed wallet signal number).bind fun finished =>
    Cycle.publishStateView finished.2.1 finished.1 finished.2.2

theorem cycle_eq_reads :
    Cycle.cycle wallet signal =
      Cycle.readStateFile.bind fun view =>
        (Program.ofExcept (Cycle.nextCycle view)).bind fun number =>
          Cycle.openClients.bind fun _ =>
            afterOpening wallet signal number := by
  rw [cycle_eq, untilPublication]
  simp only [Program.bind_eq_bind, Program.bind_assoc]
  rfl

/-- No answer after the opening stops a cycle early. -/
theorem not_stopsCycle_afterOpening (number : Json) :
    ∀ event ∈ (afterOpening wallet signal number).trace
      (alone now answers).environment desk, ¬ StopsCycle event := by
  have uses : (afterOpening wallet signal number).Uses fun request =>
      request ≠ CycleCall.readStateFile ∧
        request ≠ CycleCall.openClients := by
    apply Program.Uses.bind
    · apply uses_untilClosed
      · intro request inside
        constructor
        · intro same
          rw [same] at inside
          exact inside
        · intro same
          rw [same] at inside
          exact inside
      · exact ⟨fun same => (by cases same), fun same => (by cases same)⟩
    · intro finished
      exact ⟨⟨fun same => (by cases same), fun same => (by cases same)⟩,
        fun _ => trivial⟩
  intro event member stops
  obtain ⟨notRead, notOpen⟩ := uses.trace _ desk event member
  obtain ⟨request, answer⟩ := event
  cases request with
  | readStateFile => exact notRead rfl
  | openClients => exact notOpen rfl
  | _ => exact stops

/-- The desk when its next call is answered. -/
def Desk.next (desk : Desk) : Desk :=
  { desk with asked := desk.asked + 1 }

/-- One call of a cycle at a time: the number. -/
theorem run_cycle_reads :
    (Cycle.cycle wallet signal).run (alone now answers).environment desk =
        ((Program.ofExcept (Cycle.nextCycle (readStateFile
          desk.file))).bind fun number =>
            Cycle.openClients.bind fun _ =>
              afterOpening wallet signal number).run
                (alone now answers).environment desk.next ∧
      (Cycle.cycle wallet signal).trace (alone now answers).environment
          desk =
        ⟨.readStateFile, readStateFile desk.file⟩ ::
          ((Program.ofExcept (Cycle.nextCycle (readStateFile
            desk.file))).bind fun number =>
              Cycle.openClients.bind fun _ =>
                afterOpening wallet signal number).trace
                  (alone now answers).environment desk.next := by
  rw [cycle_eq_reads]
  exact ⟨rfl, Program.trace_call _ _ _ _⟩

/-- And the opening of the clients. -/
theorem run_opening (number : Json) :
    (Cycle.openClients.bind fun _ => afterOpening wallet signal number).run
        (alone now answers).environment desk =
        ((Program.ofExcept (answers desk.asked .openClients)).bind fun _ =>
          afterOpening wallet signal number).run
            (alone now answers).environment desk.next ∧
      (Cycle.openClients.bind fun _ =>
          afterOpening wallet signal number).trace
            (alone now answers).environment desk =
        ⟨.openClients, answers desk.asked .openClients⟩ ::
          ((Program.ofExcept (answers desk.asked .openClients)).bind
            fun _ => afterOpening wallet signal number).trace
              (alone now answers).environment desk.next :=
  ⟨rfl, Program.trace_call _ _ _ _⟩

/-- A cycle that raises has left the file alone, or is shown as running. -/
theorem raised_cases (readable : Readable desk.file) {exc : Exception}
    (raised : ((Cycle.cycle wallet signal).run
      (alone now answers).environment desk).1 = .error exc) :
    (((Cycle.cycle wallet signal).run (alone now answers).environment
        desk).2.file = desk.file ∧
      ∃ event ∈ (Cycle.cycle wallet signal).trace
        (alone now answers).environment desk, StopsCycle event) ∨
    (progressOf ((Cycle.cycle wallet signal).run
        (alone now answers).environment desk).2.file ≠ .null ∧
      ∀ event ∈ (Cycle.cycle wallet signal).trace
        (alone now answers).environment desk, ¬ StopsCycle event) := by
  obtain ⟨ran, traced⟩ := run_cycle_reads now answers desk wallet signal
  rw [ran] at raised ⊢
  rw [traced]
  cases isNumber : Cycle.nextCycle (readStateFile desk.file) with
  | error failed =>
      left
      refine ⟨rfl, _, List.mem_cons_self, ?_⟩
      intro reads
      obtain ⟨number, isRead⟩ := reads
      rw [isNumber] at isRead
      cases isRead
  | ok number =>
      have goesOn : ¬ StopsCycle
          ⟨.readStateFile, readStateFile desk.file⟩ :=
        fun stops => stops ⟨number, isNumber⟩
      rw [isNumber] at raised
      simp only [Program.ofExcept_ok, Program.done_bind] at raised ⊢
      obtain ⟨opens, openTraced⟩ :=
        run_opening now answers desk.next wallet signal number
      rw [opens] at raised ⊢
      rw [openTraced]
      cases isOpen : answers desk.next.asked .openClients with
      | error failed =>
          left
          refine ⟨rfl, _, List.mem_cons_of_mem _ List.mem_cons_self, ?_⟩
          intro isOk
          obtain ⟨value, same⟩ := isOk
          cases same
      | ok opened =>
          right
          rw [isOpen] at raised
          simp only [Program.ofExcept_ok, Program.done_bind] at raised ⊢
          constructor
          · have shown := shown_untilClosed now answers desk.next.next
              wallet signal readable number
            unfold afterOpening at raised ⊢
            rw [Program.run_bind] at raised ⊢
            cases closed : (untilClosed wallet signal number).run
                (alone now answers).environment desk.next.next with
            | mk outcome before =>
              rw [closed] at raised shown
              cases outcome with
              | error failed => exact shown
              | ok finished => cases raised
          · rw [List.forall_mem_cons, List.forall_mem_cons]
            refine ⟨goesOn, fun stops => stops ⟨opened, rfl⟩, ?_⟩
            exact not_stopsCycle_afterOpening now answers desk.next.next
              wallet signal number

/-- When the task ends, nothing is shown as running exactly when no step but
the flush has raised, or the cycle stopped before it showed itself and nothing
was shown before. -/
theorem endsCleared_iff (readable : Readable desk.file) :
    EndsCleared desk
        ((alone now answers).afterCycle wallet signal desk) ↔
      NothingRaises (alone now answers) desk wallet signal ∨
        StopsEarly (alone now answers) desk wallet signal := by
  rw [nothingRaises_iff]
  cases returned : ((Cycle.cycle wallet signal).run
      (alone now answers).environment desk).1 with
  | ok value =>
      exact iff_of_true (endsCleared_of_ok readable returned)
        (Or.inl ⟨value, rfl⟩)
  | error exc =>
      have sameTrace :
          (Cycle.runTradeCycle wallet signal).trace
              (alone now answers).environment desk =
            (Cycle.cycle wallet signal).trace
              (alone now answers).environment desk :=
        Program.trace_recover_done _ _ (fun _ => ()) desk
      have notReturned : ¬ ∃ value : Unit,
          (Except.error exc : Except Exception Unit) = .ok value :=
        fun ⟨_, same⟩ => by cases same
      rw [or_iff_right notReturned, afterCycle_eq]
      unfold StopsEarly
      rw [sameTrace]
      rcases raised_cases now answers desk wallet signal readable
        returned with
        ⟨sameFile, stops⟩ | ⟨shown, goesOn⟩
      · constructor
        · intro cleared
          have isNull := cleared.progress
          rw [sameFile] at isNull
          exact ⟨isNull, stops⟩
        · intro early
          constructor
          · rw [sameFile]
            exact early.1
          · rw [sameFile]
            exact Or.inl rfl
      · apply iff_of_false
        · intro cleared
          exact shown cleared.progress
        · intro early
          obtain ⟨event, member, stops⟩ := early.2
          exact goesOn event member stops

end Alone

def noon : Nat → String := fun _ => "2026-01-01T12:00:00Z"

/-- The model replies with a risk above its range. -/
def elevenAnswers : CycleAnswers
  | .chat _ =>
      .ok "\x7b\"risk_score\": 11, \"action\": \"buy\", \"confidence\": 1\x7d"
  | request => calmAnswers (.ok (none, none)) request

theorem endsCleared_iff_calm :
    EndsCleared .fresh
        ((alone noon fun _ => calmAnswers (.ok (none, none))).afterCycle
          "0xaaaa" calmSignal .fresh) ↔
      NothingRaises (alone noon fun _ => calmAnswers (.ok (none, none)))
          .fresh "0xaaaa" calmSignal ∨
        StopsEarly (alone noon fun _ => calmAnswers (.ok (none, none)))
          .fresh "0xaaaa" calmSignal :=
  endsCleared_iff noon _ .fresh "0xaaaa" calmSignal readable_none

/-- A cycle whose decision is invalid is shown as deciding for ever. -/
theorem shown_deciding :
    ¬ ∀ (now : Nat → String) (answers : Nat → CycleAnswers) (desk : Desk)
        (wallet : String) (signal : Dict), Readable desk.file →
      EndsCleared desk
        ((alone now answers).afterCycle wallet signal desk) := by
  intro always
  have cleared := (always noon (fun _ => elevenAnswers) .fresh "0xaaaa"
    calmSignal readable_none).progress
  have shown : (progressOf ((alone noon fun _ => elevenAnswers).afterCycle
      "0xaaaa" calmSignal .fresh).file).truthy = true := by
    decide +kernel
  rw [cleared] at shown
  cases shown

end SwarmFi.Dashboard

import SwarmFi.Core.KeeperHub.Verdict
import SwarmFi.Core.KeeperHub.TransferCount

/-!
# FAILED against what KeeperHub said

The client maps the status word of a body to a status: `completed`, `error`
and `running` are told apart, and every other word is read as pending.  Over
whole poll histories this fixes when an accepted transfer is reported FAILED,
and what the bodies said then.
-/

namespace SwarmFi.Core.KeeperHub

open Foundation Python Uniswap
open KeeperHubSwapExecutor

/-! ## The status word of a body -/

/-- The status string of a body, where it has one. -/
def rawStatus (body : Json) : Option String :=
  match unwrapResponse body with
  | .obj data => (Dict.getD data "status" (.str "pending")).str?
  | _ => none

/-- How the client reads a status word. -/
def statusOfWord (word : Option String) : KHExecutionStatus :=
  if word = some "completed" then .success
  else if word = some "error" then .failed
  else if word = some "running" then .running
  else .pending

theorem mapStatus_eq_ok
    {raw : Json} {status : KHExecutionStatus}
    (mapped : mapStatus raw = .ok status) :
    status = statusOfWord raw.str? := by
  cases raw with
  | str word =>
      unfold mapStatus at mapped
      unfold statusOfWord Json.str?
      split at mapped <;> simp_all
  | arr items => cases mapped
  | obj fields => cases mapped
  | _ =>
      cases mapped
      rfl

/-- The status that is read depends on the word alone. -/
theorem status_of_readExecutionStatus
    {body : Json} {status : KHExecutionStatus_}
    (read : readExecutionStatus body = .ok status) :
    status.status = statusOfWord (rawStatus body) := by
  simp only [readExecutionStatus, bind_eq_ok_iff] at read
  obtain ⟨data, isDict, mapped, mappedOk, txHash, _, error, _,
    explorerUrl, _, built⟩ := read
  cases built
  unfold rawStatus
  cases unwrapped : unwrapResponse body with
  | obj fields =>
      rw [unwrapped] at isDict
      cases isDict
      exact mapStatus_eq_ok mappedOk
  | _ =>
      rw [unwrapped] at isDict
      cases isDict

theorem statusOfWord_eq_success_iff (word : Option String) :
    statusOfWord word = .success ↔ word = some "completed" := by
  unfold statusOfWord
  grind

theorem statusOfWord_eq_failed_iff (word : Option String) :
    statusOfWord word = .failed ↔ word = some "error" := by
  unfold statusOfWord
  grind

theorem statusOfWord_eq_running_iff (word : Option String) :
    statusOfWord word = .running ↔ word = some "running" := by
  unfold statusOfWord
  grind

/-- The four statuses a word can be read as. -/
theorem statusOfWord_cases (word : Option String) :
    statusOfWord word = .success ∨ statusOfWord word = .failed ∨
      statusOfWord word = .running ∨ statusOfWord word = .pending := by
  unfold statusOfWord
  split
  · exact Or.inl rfl
  · split
    · exact Or.inr (Or.inl rfl)
    · split
      · exact Or.inr (Or.inr (Or.inl rfl))
      · exact Or.inr (Or.inr (Or.inr rfl))

/-! ## What the polls of a live run said -/

/-- The word in the body of one poll. -/
def said (script : LiveScript) (poll : Nat) : Option String :=
  match statusBody script poll with
  | .ok body => rawStatus body
  | .error _ => none

theorem status_of_statusOutcome
    {script : LiveScript} {poll : Nat} {status : KHExecutionStatus_}
    (answer : statusOutcome script poll = .ok status) :
    status.status = statusOfWord (said script poll) := by
  unfold statusOutcome at answer
  unfold said
  cases received : statusBody script poll with
  | error exc =>
      rw [received] at answer
      cases answer
  | ok body =>
      rw [received] at answer
      exact status_of_readExecutionStatus answer

/-- No body is received after this poll's. -/
def LastBody (script : LiveScript) (count poll : Nat) : Prop :=
  poll < count ∧ (statusBody script poll).isOk = true ∧
    ∀ later < count, poll < later →
      (statusBody script later).isOk = false

/-- What KeeperHub said when a failure is to be reported: some body told of a
failure, the last one was not pending or running, and none told of a
success. -/
structure FailureTold (script : LiveScript) (count : Nat) : Prop where
  told : ∃ poll < count, ∃ word ∈ ["failed", "error", "cancelled"],
    said script poll = some word
  settled : ∀ poll, LastBody script count poll →
    said script poll ≠ some "pending" ∧ said script poll ≠ some "running"
  neverSucceeded : ∀ poll < count,
    said script poll ≠ some "success" ∧ said script poll ≠ some "completed"

/-- An accepted transfer is FAILED only if KeeperHub has told so. -/
def NoFalseFailure
    (script : LiveScript) (self : KeeperHubSwapExecutor)
    (args : SwapArguments) : Prop :=
  script.facade.Accepted self args →
    (script.result self args).status = .failed →
      FailureTold script (script.finish self args).polls

/-! ## What the code reads as a failure -/

def HasHash (answer : Except Exception KHExecutionStatus_) : Prop :=
  ∃ status, answer = .ok status ∧ truthy status.txHash = true

/-- The last poll whose body could be read. -/
def LastRead (script : LiveScript) (poll : Nat) : Prop :=
  poll < maxPolls ∧
    (∃ status, statusOutcome script poll = .ok status) ∧
      ∀ later < maxPolls, poll < later →
        ∀ status, statusOutcome script later ≠ .ok status

/-- Answers that the code reads as a failure, with the number of polls it
makes: a hash with a word other than `completed` and `running`, or, with no
hash in the logs, `error` without a hash or sixty indecisive polls that do not
end with `running`. -/
inductive ReadAsFailure (script : LiveScript) : Nat → Prop where
  | withHash
      (index : Nat) (below : index < maxPolls)
      (first :
        FirstAt (fun poll => Decisive (statusOutcome script poll)) index)
      (hash : HasHash (statusOutcome script index))
      (notCompleted : said script index ≠ some "completed")
      (notRunning : said script index ≠ some "running") :
      ReadAsFailure script (index + 1)
  | withoutHash
      (index : Nat) (below : index < maxPolls)
      (first :
        FirstAt (fun poll => Decisive (statusOutcome script poll)) index)
      (noHash : ¬ HasHash (statusOutcome script index))
      (isError : said script index = some "error")
      (noLog : script.facade.logTx = none) :
      ReadAsFailure script (index + 1)
  | undecided
      (never : ∀ poll < maxPolls, ¬ Decisive (statusOutcome script poll))
      (noLog : script.facade.logTx = none)
      (index : Nat) (last : LastRead script index)
      (notRunning : said script index ≠ some "running") :
      ReadAsFailure script maxPolls

theorem hasHash_ok_iff (status : KHExecutionStatus_) :
    HasHash (.ok status) ↔ truthy status.txHash = true := by
  simp [HasHash]

/-- The last status seen is that of the last poll with one. -/
theorem lastSeen_eq_some_iff
    (polls : Nat → Except Exception KHExecutionStatus_) (count : Nat)
    (status : KHExecutionStatus_) :
    lastSeen polls count = some status ↔
      ∃ index < count, polls index = .ok status ∧
        ∀ later < count, index < later →
          ∀ other, polls later ≠ .ok other := by
  induction count with
  | zero => simp [lastSeen]
  | succ count inductionHypothesis =>
      rw [lastSeen]
      cases answer : polls count with
      | ok seen =>
          constructor
          · intro same
            cases same
            exact ⟨count, Nat.lt_succ_self count, answer,
              fun later below after => absurd below (by omega)⟩
          · rintro ⟨index, below, found, noneLater⟩
            by_cases here : index = count
            · subst here
              rw [answer] at found
              cases found
              rfl
            · exact absurd answer
                (noneLater count (Nat.lt_succ_self count) (by omega) seen)
      | error exc =>
          simp only
          rw [inductionHypothesis]
          constructor
          · rintro ⟨index, below, found, noneLater⟩
            refine ⟨index, Nat.lt_succ_of_lt below, found, ?_⟩
            intro later atMost after other found
            by_cases here : later = count
            · subst here
              rw [answer] at found
              cases found
            · exact noneLater later (by omega) after other found
          · rintro ⟨index, below, found, noneLater⟩
            have earlier : index ≠ count := by
              rintro rfl
              rw [answer] at found
              cases found
            exact ⟨index, by omega, found, fun later before after =>
              noneLater later (by omega) after⟩

theorem finalStatus_awaited_of_log
    {script : SwapScript} {tx : String} (found : script.logTx = some tx)
    (executionId : String) (lastStatus : Option KHExecutionStatus_) :
    finalStatus (awaited script executionId (.stopped lastStatus)) =
      .confirmed := by
  unfold awaited
  rw [found]
  rfl

theorem finalStatus_awaited_of_noLog
    {script : SwapScript} (none : script.logTx = none)
    (executionId : String) (status : KHExecutionStatus_) :
    finalStatus (awaited script executionId (.stopped (some status))) =
        .failed ↔
      status.status.isSuccess = false ∧ status.status ≠ .running := by
  unfold awaited
  rw [none, finalStatus_eq_failed_iff]
  rfl

section Decided

variable
  {script : LiveScript} {index : Nat} {status : KHExecutionStatus_}

/-- A status that is neither success nor running has a word that says
so. -/
theorem failed_iff_word
    (answer : statusOutcome script index = .ok status) :
    (status.status.isSuccess = false ∧ status.status ≠ .running) ↔
      said script index ≠ some "completed" ∧
        said script index ≠ some "running" := by
  have word := status_of_statusOutcome answer
  simp only [ne_eq, ← statusOfWord_eq_success_iff,
    ← statusOfWord_eq_running_iff, ← word]
  rcases statusOfWord_cases (said script index) with
      success | failed | running | pending
  · rw [word, success]
    decide
  · rw [word, failed]
    decide
  · rw [word, running]
    decide
  · rw [word, pending]
    decide

/-- A terminal status of the live client is `completed` or `error`. -/
theorem word_of_terminal
    (answer : statusOutcome script index = .ok status)
    (terminal : status.isTerminal = true) :
    said script index = some "completed" ∨
      said script index = some "error" := by
  have word := status_of_statusOutcome answer
  rw [← statusOfWord_eq_success_iff, ← statusOfWord_eq_failed_iff, ← word]
  unfold KHExecutionStatus_.isTerminal at terminal
  rcases statusOfWord_cases (said script index) with
      success | failed | running | pending
  · exact Or.inl (word.trans success)
  · exact Or.inr (word.trans failed)
  · rw [word, running] at terminal
    exact absurd terminal (by decide)
  · rw [word, pending] at terminal
    exact absurd terminal (by decide)

theorem not_terminal_word_ne_completed
    (answer : statusOutcome script index = .ok status)
    (undecided : ¬ Decisive (statusOutcome script index)) :
    said script index ≠ some "completed" := by
  intro completed
  have word := status_of_statusOutcome answer
  rw [(statusOfWord_eq_success_iff _).mpr completed] at word
  rw [answer, decisive_ok_iff] at undecided
  refine undecided (Or.inr ?_)
  rw [KHExecutionStatus_.isTerminal, word]
  decide

theorem hasHash_of_statusOutcome
    (answer : statusOutcome script index = .ok status) :
    HasHash (statusOutcome script index) ↔ truthy status.txHash = true := by
  rw [answer]
  exact hasHash_ok_iff status

/-- A status with a hash is FAILED unless its word is `completed` or
`running`. -/
theorem finalStatus_failed_withHash
    (answer : statusOutcome script index = .ok status)
    (hash : truthy status.txHash = true) (executionId : String) :
    finalStatus (awaited script.facade executionId (endOf status)) =
        .failed ↔
      said script index ≠ some "completed" ∧
        said script index ≠ some "running" := by
  rw [endOf, if_pos hash, ← failed_iff_word answer]
  exact finalStatus_eq_failed_iff _

/-- A terminal status without a hash is FAILED when its word is `error` and
the logs have no hash either. -/
theorem finalStatus_failed_withoutHash
    (answer : statusOutcome script index = .ok status)
    (noHash : ¬ truthy status.txHash = true)
    (terminal : status.isTerminal = true) (executionId : String) :
    finalStatus (awaited script.facade executionId (endOf status)) =
        .failed ↔
      said script index = some "error" ∧ script.facade.logTx = none := by
  rw [endOf, if_neg noHash]
  cases log : script.facade.logTx with
  | some tx => simp [finalStatus_awaited_of_log log]
  | none =>
      rw [finalStatus_awaited_of_noLog log, failed_iff_word answer]
      rcases word_of_terminal answer terminal with completed | isError
      · simp [completed]
      · simp [isError]

end Decided

/-- Sixty indecisive polls are FAILED when the logs have no hash and the last
body that could be read does not say `running`. -/
theorem finalStatus_failed_undecided
    {script : LiveScript}
    (never : ∀ poll < maxPolls, ¬ Decisive (statusOutcome script poll))
    (executionId : String) :
    finalStatus
        (awaited script.facade executionId
          (.stopped (lastSeen script.facade.polls maxPolls))) = .failed ↔
      script.facade.logTx = none ∧
        ∃ index, LastRead script index ∧
          said script index ≠ some "running" := by
  cases log : script.facade.logTx with
  | some tx => simp [finalStatus_awaited_of_log log]
  | none =>
      constructor
      · intro failed
        cases seen : lastSeen script.facade.polls maxPolls with
        | none =>
            rw [seen] at failed
            simp only [awaited, log] at failed
            cases failed
        | some status =>
            obtain ⟨index, below, answer, noneLater⟩ :=
              (lastSeen_eq_some_iff _ _ _).mp seen
            rw [seen, finalStatus_awaited_of_noLog log,
              failed_iff_word answer] at failed
            exact ⟨rfl, index, ⟨below, ⟨status, answer⟩, noneLater⟩,
              failed.2⟩
      · rintro ⟨-, index, ⟨below, ⟨status, answer⟩, noneLater⟩, notRunning⟩
        have seen :
            lastSeen script.facade.polls maxPolls = some status :=
          (lastSeen_eq_some_iff _ _ _).mpr ⟨index, below, answer, noneLater⟩
        rw [seen, finalStatus_awaited_of_noLog log, failed_iff_word answer]
        exact ⟨not_terminal_word_ne_completed answer (never index below),
          notRunning⟩

/-- What a failure reads, once the deciding poll is known. -/
theorem readAsFailure_of_first
    {script : LiveScript} {index : Nat} (below : index < maxPolls)
    (first :
      FirstAt (fun poll => Decisive (statusOutcome script poll)) index)
    (tested : Nat) :
    ReadAsFailure script tested ↔
      tested = index + 1 ∧
        (HasHash (statusOutcome script index) ∧
            said script index ≠ some "completed" ∧
              said script index ≠ some "running" ∨
          ¬ HasHash (statusOutcome script index) ∧
            said script index = some "error" ∧
              script.facade.logTx = none) := by
  constructor
  · intro read
    cases read with
    | withHash other otherBelow otherFirst hash notCompleted notRunning =>
        cases otherFirst.unique first
        exact ⟨rfl, Or.inl ⟨hash, notCompleted, notRunning⟩⟩
    | withoutHash other otherBelow otherFirst noHash isError noLog =>
        cases otherFirst.unique first
        exact ⟨rfl, Or.inr ⟨noHash, isError, noLog⟩⟩
    | undecided never noLog other last notRunning =>
        exact absurd first.1 (never index below)
  · rintro ⟨rfl, ⟨hash, notCompleted, notRunning⟩ | ⟨noHash, isError, noLog⟩⟩
    · exact .withHash index below first hash notCompleted notRunning
    · exact .withoutHash index below first noHash isError noLog

/-- What a failure reads, when no poll decides. -/
theorem readAsFailure_of_never
    {script : LiveScript}
    (never : ∀ poll < maxPolls, ¬ Decisive (statusOutcome script poll))
    (tested : Nat) :
    ReadAsFailure script tested ↔
      tested = maxPolls ∧ script.facade.logTx = none ∧
        ∃ index, LastRead script index ∧
          said script index ≠ some "running" := by
  constructor
  · intro read
    cases read with
    | withHash index below first hash notCompleted notRunning =>
        exact absurd first.1 (never index below)
    | withoutHash index below first noHash isError noLog =>
        exact absurd first.1 (never index below)
    | undecided _ noLog index last notRunning =>
        exact ⟨rfl, noLog, index, last, notRunning⟩
  · rintro ⟨rfl, noLog, index, last, notRunning⟩
    exact .undecided never noLog index last notRunning

/-- The code reads the answers as a failure exactly when it reports one, and
after as many polls. -/
theorem readAsFailure_iff
    {script : LiveScript} {pollEnd : PollEnd} {count : Nat}
    (polled : PollsTo script.facade.polls pollEnd count)
    (executionId : String) (tested : Nat) :
    ReadAsFailure script tested ↔
      tested = count ∧
        finalStatus (awaited script.facade executionId pollEnd) =
          .failed := by
  cases polled with
  | decided index status below answer first =>
      rw [readAsFailure_of_first below first,
        hasHash_of_statusOutcome answer]
      by_cases hash : truthy status.txHash = true
      · rw [finalStatus_failed_withHash answer hash]
        simp [hash]
      · have terminal : status.isTerminal = true := by
          have decisive := first.1
          simp only [answer, decisive_ok_iff] at decisive
          exact decisive.resolve_left hash
        rw [finalStatus_failed_withoutHash answer hash terminal]
        simp [hash]
  | undecided never =>
      rw [readAsFailure_of_never never,
        finalStatus_failed_undecided never]

/-! ## The verdict of a run -/

theorem finalStatus_failed_of_ends
    {script : SwapScript} {self : KeeperHubSwapExecutor}
    {args : SwapArguments} {result : SwapResult} {state : SwapState}
    (accepted : script.Accepted self args)
    (ended : Ends script self args result state) :
    ∃ executionId pollEnd, PollsTo script.polls pollEnd state.polls ∧
      result.status = finalStatus (awaited script executionId pollEnd) := by
  obtain ⟨⟨quote, quotedOk⟩, present, transfer, transferredOk⟩ := accepted
  cases ended with
  | quoteRaised exc quoted =>
      rw [quoted] at quotedOk
      cases quotedOk
  | noRecipient quote quoted missing => exact absurd missing present
  | transferRaised quote exc quoted _ transferred =>
      rw [transferred] at transferredOk
      cases transferredOk
  | accepted quote transfer pollEnd count quoted _ transferred polled =>
      exact ⟨transfer.executionId, pollEnd, polled, rfl⟩

/-- FAILED is backed by what KeeperHub said exactly when the answers of an
accepted transfer are read as a failure only if they tell of one. -/
theorem noFalseFailure_iff
    (script : LiveScript) (self : KeeperHubSwapExecutor)
    (args : SwapArguments) :
    NoFalseFailure script self args ↔
      ∀ count, script.facade.Accepted self args →
        ReadAsFailure script count → FailureTold script count := by
  unfold NoFalseFailure
  by_cases accepted : script.facade.Accepted self args
  · obtain ⟨state, samePolls, ended⟩ := script.ends self args
    obtain ⟨executionId, pollEnd, polled, verdict⟩ :=
      finalStatus_failed_of_ends accepted ended
    rw [samePolls] at polled
    have read := readAsFailure_iff polled executionId
    rw [verdict]
    constructor
    · intro sound count _ readFailure
      obtain ⟨rfl, failed⟩ := (read count).mp readFailure
      exact sound accepted failed
    · intro told _ failed
      exact told _ accepted ((read _).mpr ⟨rfl, failed⟩)
  · simp [accepted]

/-- KeeperHub reports success, with the hash, in the word of its own
enumeration. -/
def successWord : LiveScript where
  quote := .ok { routing := .classic, amountOut := some "1950000000" }
  posts := fun _ => .answered (okResponse
    (.obj [("executionId", .str "direct_1"), ("status", .str "completed")]))
  statusGets := fun _ _ =>
    .ok (okResponse
      (.obj [("status", .str "success"),
        ("transactionHash", .str "0xab")]))
  logGets := fun _ => .ok (okResponse (.arr []))
  audit := .ok ()

/-- A transfer that succeeded is reported as FAILED. -/
theorem success_reported_failed :
    ¬ ∀ script self args, NoFalseFailure script self args := by
  intro always
  have accepted :
      successWord.facade.Accepted walletOnly ethForUsdc :=
    ⟨⟨{ routing := .classic, amountOut := some "1950000000" },
        by decide +kernel⟩,
      by decide +kernel,
      ⟨{ executionId := "direct_1", status := .completed },
        by decide +kernel⟩⟩
  have failed :
      (successWord.result walletOnly ethForUsdc).status = .failed := by
    decide +kernel
  have polledOnce :
      (successWord.finish walletOnly ethForUsdc).polls = 1 := by
    decide +kernel
  have told := always successWord walletOnly ethForUsdc accepted failed
  rw [polledOnce] at told
  exact (told.neverSucceeded 0 Nat.zero_lt_one).1 rfl

end SwarmFi.Core.KeeperHub

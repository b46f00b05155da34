import SwarmFi.Dashboard.CycleRuns

/-!
# Published snapshots

A publication carries the root and the transaction of a snapshot over from
the file, each by itself, where its own flush has none.  The two belong to one
flush as long as no flush with only one of them is published over the other
one of an earlier flush.
-/

namespace SwarmFi.Dashboard

open Foundation Python SwarmFi.Core

/-! ## Pairs -/

/-- `snapshot_root` and `snapshot_tx` of the file. -/
def pairOf (file : Option Json) : Json × Json :=
  (Dict.getD (fieldsOf file) "snapshot_root" .null,
    Dict.getD (fieldsOf file) "snapshot_tx" .null)

/-- A text that is not empty. -/
def given (text : Option String) : Option String :=
  if truthy text then text else none

/-- The pair that a flush returned, null for what it had none of. -/
def returnedPair (snapshot : Option String × Option String) :
    Json × Json :=
  (optionalStr (given snapshot.1), optionalStr (given snapshot.2))

/-- The pairs that flushes returned; one that failed returned none. -/
def returnedPairs (flushes : List FlushOutcome) : List (Json × Json) :=
  flushes.filterMap fun
    | .ok snapshot => some (returnedPair snapshot)
    | .error _ => none

/-- The pair in the file at the start and those that were returned since. -/
def knownPairs (start last : Desk) : List (Json × Json) :=
  pairOf start.file :: returnedPairs last.flushes

/-- After every part of the run the file holds the pair of one flush. -/
def SnapshotsMatch
    (script : DeskScript) (start : Desk) (moves : List DeskMove) : Prop :=
  ∀ before after, moves = before ++ after →
    pairOf (script.play start before).file ∈
      knownPairs start (script.play start before)

/-! ## When pairs are mixed -/

/-- The cycle publishes, with this outcome of its flush. -/
def PublishesFlush
    (script : DeskScript) (desk : Desk) (wallet : String) (signal : Dict)
    (outcome : FlushOutcome) : Prop :=
  (∃ result, (script.afterCycle wallet signal desk).published =
    desk.published ++ [result]) ∧
    (script.afterCycle wallet signal desk).flushes =
      desk.flushes ++ [outcome]

/-- What a publication makes of the pair in the file. -/
def mergedPair
    (pair : Json × Json) (snapshot : Option String × Option String) :
    Json × Json :=
  ((optionalStr snapshot.1).orElse pair.1,
    (optionalStr snapshot.2).orElse pair.2)

/-- The flush has only one of the two, and the file has the other one. -/
def Mixes
    (pair : Json × Json) (snapshot : Option String × Option String) :
    Prop :=
  (truthy snapshot.1 = true ∧ ¬ truthy snapshot.2 = true ∧
      pair.2.truthy = true) ∨
    (¬ truthy snapshot.1 = true ∧ truthy snapshot.2 = true ∧
      pair.1.truthy = true)

/-- Every publication of the run that mixes makes a pair that some flush has
returned. -/
def NeverMixes
    (script : DeskScript) (start : Desk) (moves : List DeskMove) : Prop :=
  ∀ before wallet signal after outcome,
    moves = before ++ .cycle wallet signal :: after →
      PublishesFlush script (script.play start before) wallet signal
        outcome →
      Mixes (pairOf (script.play start before).file) (snapshotOf outcome) →
        mergedPair (pairOf (script.play start before).file)
            (snapshotOf outcome) ∈
          knownPairs start
            (script.afterCycle wallet signal (script.play start before))

/-- A state file whose snapshot fields are null or texts, as a publication
leaves them. -/
structure Settled (file : Option Json) : Prop where
  readable : Readable file
  root : (pairOf file).1 = .null ∨ (pairOf file).1.truthy = true
  tx : (pairOf file).2 = .null ∨ (pairOf file).2.truthy = true

/-! ## One publication -/

theorem orElse_of_given {text : Option String}
    (isGiven : truthy text = true) (other : Json) :
    (optionalStr text).orElse other = optionalStr (given text) := by
  obtain ⟨found, isText, nonempty⟩ := (truthy_eq_true_iff text).mp isGiven
  rw [isText]
  simp [optionalStr, Json.orElse, Json.truthy, given, nonempty]

theorem orElse_of_missing {text : Option String}
    (missing : ¬ truthy text = true) (other : Json) :
    (optionalStr text).orElse other = other := by
  cases text with
  | none => rfl
  | some text =>
      have isEmpty : text = "" := by simpa using missing
      rw [isEmpty]
      rfl

theorem given_of_missing {text : Option String}
    (missing : ¬ truthy text = true) : given text = none := by
  unfold given
  rw [if_neg missing]

/-- Without mixing, the pair is the one returned or the one before. -/
theorem mergedPair_of_not_mixes
    {pair : Json × Json} {snapshot : Option String × Option String}
    (root : pair.1 = .null ∨ pair.1.truthy = true)
    (tx : pair.2 = .null ∨ pair.2.truthy = true)
    (notMixed : ¬ Mixes pair snapshot) :
    (truthy snapshot.1 = true ∨ truthy snapshot.2 = true) ∧
        mergedPair pair snapshot = returnedPair snapshot ∨
      mergedPair pair snapshot = pair := by
  unfold mergedPair returnedPair
  by_cases hasRoot : truthy snapshot.1 = true
  · by_cases hasTx : truthy snapshot.2 = true
    · rw [orElse_of_given hasRoot, orElse_of_given hasTx]
      exact Or.inl ⟨Or.inl hasRoot, rfl⟩
    · have noTx : pair.2 = .null := by
        rcases tx with isNull | present
        · exact isNull
        · exact absurd (Or.inl ⟨hasRoot, hasTx, present⟩) notMixed
      rw [orElse_of_given hasRoot, orElse_of_missing hasTx, noTx,
        given_of_missing hasTx]
      exact Or.inl ⟨Or.inl hasRoot, rfl⟩
  · by_cases hasTx : truthy snapshot.2 = true
    · have noRoot : pair.1 = .null := by
        rcases root with isNull | present
        · exact isNull
        · exact absurd (Or.inr ⟨hasRoot, hasTx, present⟩) notMixed
      rw [orElse_of_given hasTx, orElse_of_missing hasRoot, noRoot,
        given_of_missing hasRoot]
      exact Or.inl ⟨Or.inr hasTx, rfl⟩
    · rw [orElse_of_missing hasRoot, orElse_of_missing hasTx]
      exact Or.inr rfl

theorem pairOf_of_kept {first second : Desk} (kept : Kept first second) :
    pairOf second.file = pairOf first.file := by
  unfold pairOf Dict.getD
  rw [kept.field (by decide), kept.field (by decide)]

theorem pairOf_publish {desk : Desk} (readable : Readable desk.file)
    (now : String) (result : Dict)
    (snapshot : Option String × Option String) :
    pairOf (desk.publish now snapshot.1 result snapshot.2).file =
      mergedPair (pairOf desk.file) snapshot := by
  have isFile : (desk.publish now snapshot.1 result snapshot.2).file =
      some (.obj (stateView now snapshot.1 result snapshot.2 desk.file)) :=
    publishStateView_of_readable readable now snapshot.1 result snapshot.2
  rw [isFile]
  unfold pairOf Dict.getD
  simp only [fieldsOf, stateView_snapshotRoot, stateView_snapshotTx,
    Option.getD_some]
  rfl

theorem Settled.of_kept {first second : Desk}
    (settled : Settled first.file) (kept : Kept first second)
    (readable : Readable second.file) : Settled second.file where
  readable := readable
  root := by
    rw [pairOf_of_kept kept]
    exact settled.root
  tx := by
    rw [pairOf_of_kept kept]
    exact settled.tx

theorem orElse_settled (text : Option String) {other : Json}
    (settled : other = .null ∨ other.truthy = true) :
    (optionalStr text).orElse other = .null ∨
      ((optionalStr text).orElse other).truthy = true := by
  unfold Json.orElse
  by_cases present : (optionalStr text).truthy = true
  · rw [if_pos present]
    exact Or.inr present
  · rw [if_neg present]
    exact settled

theorem Settled.publish {desk : Desk} (settled : Settled desk.file)
    (now : String) (result : Dict)
    (snapshot : Option String × Option String) :
    Settled (desk.publish now snapshot.1 result snapshot.2).file where
  readable := settled.readable.published now snapshot.1 result snapshot.2
  root := by
    rw [pairOf_publish settled.readable]
    exact orElse_settled snapshot.1 settled.root
  tx := by
    rw [pairOf_publish settled.readable]
    exact orElse_settled snapshot.2 settled.tx

theorem Settled.partially {file : Option Json} (settled : Settled file)
    (now stage : String) (fields : Dict) :
    Settled (publishPartial now stage fields file) := by
  have kept := kept_partially now { Desk.fresh with file := file }
    (stage, fields)
  have readable := settled.readable.partially now stage fields
  exact Settled.of_kept settled kept readable

/-- How the file stands after a cycle: as before, or with the merged pair of a
flush that was added. -/
theorem pairOf_afterCycle
    (script : DeskScript) {desk : Desk} (settled : Settled desk.file)
    (wallet : String) (signal : Dict) :
    Settled (script.afterCycle wallet signal desk).file ∧
      (∃ more, (script.afterCycle wallet signal desk).flushes =
        desk.flushes ++ more) ∧
      ((script.afterCycle wallet signal desk).published =
          desk.published ∧
        pairOf (script.afterCycle wallet signal desk).file =
          pairOf desk.file ∨
        ∃ outcome, PublishesFlush script desk wallet signal outcome ∧
          pairOf (script.afterCycle wallet signal desk).file =
            mergedPair (pairOf desk.file) (snapshotOf outcome)) := by
  have readable :
      Readable (script.afterCycle wallet signal desk).file :=
    run_readable settled.readable
  have ends : CycleEnds desk (script.afterCycle wallet signal desk) :=
    cycleEnds settled.readable
  unfold PublishesFlush
  generalize script.afterCycle wallet signal desk = last at readable ends
  cases ends with
  | stopped kept flushed =>
      exact ⟨settled.of_kept kept readable, flushed,
        Or.inl ⟨kept.published, pairOf_of_kept kept⟩⟩
  | @published before number result outcome now kept stillReadable _ _
      flushed =>
      have settledBefore := settled.of_kept kept stillReadable
      have isPublished :
          (before.publish now (snapshotOf outcome).1 result
            (snapshotOf outcome).2).published =
              desk.published ++ [result] :=
        congrArg (· ++ [result]) kept.published
      refine ⟨settledBefore.publish now _ _, ⟨_, flushed⟩,
        Or.inr ⟨outcome, ⟨⟨result, isPublished⟩, flushed⟩, ?_⟩⟩
      rw [pairOf_publish stillReadable, pairOf_of_kept kept]

/-! ## A run -/

section Run

variable (script : DeskScript) (start : Desk)

theorem play_snoc (moves : List DeskMove) (move : DeskMove) :
    script.play start (moves ++ [move]) =
      script.apply (script.play start moves) move := by
  unfold DeskScript.play
  rw [List.foldl_append]
  rfl

theorem knownPairs_mono {first second : Desk}
    (flushed : ∃ more, second.flushes = first.flushes ++ more)
    {pair : Json × Json} (known : pair ∈ knownPairs start first) :
    pair ∈ knownPairs start second := by
  obtain ⟨more, isSecond⟩ := flushed
  unfold knownPairs returnedPairs at known ⊢
  rw [isSecond, List.filterMap_append, ← List.cons_append]
  exact List.mem_append_left _ known

/-- The pair that a published flush returned is known from then on. -/
theorem known_of_published
    {desk : Desk} {wallet : String} {signal : Dict}
    {outcome : FlushOutcome}
    (published : PublishesFlush script desk wallet signal outcome)
    (isGiven : truthy (snapshotOf outcome).1 = true ∨
      truthy (snapshotOf outcome).2 = true) :
    returnedPair (snapshotOf outcome) ∈
      knownPairs start (script.afterCycle wallet signal desk) := by
  have isFlushed := published.2
  cases outcome with
  | error exc =>
      rcases isGiven with hasRoot | hasTx
      · cases hasRoot
      · cases hasTx
  | ok snapshot =>
      unfold knownPairs returnedPairs
      rw [isFlushed, List.filterMap_append]
      apply List.mem_cons_of_mem
      apply List.mem_append_right
      exact List.mem_singleton.mpr rfl

variable {start}

theorem settled_apply
    {desk : Desk} (settled : Settled desk.file) (move : DeskMove) :
    Settled (script.apply desk move).file := by
  cases move with
  | partially now stage fields =>
      exact settled.partially now stage fields
  | cycle wallet signal =>
      exact (pairOf_afterCycle script settled wallet signal).1

theorem settled_play
    (settled : Settled start.file) (moves : List DeskMove) :
    Settled (script.play start moves).file := by
  induction moves generalizing start with
  | nil => exact settled
  | cons move moves inductionHypothesis =>
      exact inductionHypothesis (settled_apply script settled move)

/-- A move leaves the file with a known pair, unless it mixes one that is
not. -/
theorem known_apply
    {desk : Desk} (settled : Settled desk.file)
    (known : pairOf desk.file ∈ knownPairs start desk) (move : DeskMove)
    (careful : ∀ wallet signal outcome, move = .cycle wallet signal →
      PublishesFlush script desk wallet signal outcome →
      Mixes (pairOf desk.file) (snapshotOf outcome) →
        mergedPair (pairOf desk.file) (snapshotOf outcome) ∈
          knownPairs start (script.afterCycle wallet signal desk)) :
    pairOf (script.apply desk move).file ∈
      knownPairs start (script.apply desk move) := by
  cases move with
  | partially now stage fields =>
      have kept := kept_partially now desk (stage, fields)
      show pairOf (desk.partially now (stage, fields)).file ∈ _
      rw [pairOf_of_kept kept]
      exact known
  | cycle wallet signal =>
      obtain ⟨_, flushed, ended⟩ :=
        pairOf_afterCycle script settled wallet signal
      have before := knownPairs_mono start flushed known
      show pairOf (script.afterCycle wallet signal desk).file ∈
        knownPairs start (script.afterCycle wallet signal desk)
      rcases ended with ⟨_, same⟩ | ⟨outcome, published, isPair⟩
      · rw [same]
        exact before
      · rw [isPair]
        by_cases mixed : Mixes (pairOf desk.file) (snapshotOf outcome)
        · exact careful wallet signal outcome rfl published mixed
        · rcases mergedPair_of_not_mixes settled.root settled.tx mixed with
            ⟨isGiven, isReturned⟩ | same
          · rw [isReturned]
            exact known_of_published script start published isGiven
          · rw [same]
            exact before

/-- By induction on the part of the run that has been played. -/
theorem known_play
    (settled : Settled start.file) {moves : List DeskMove}
    (careful : NeverMixes script start moves)
    (before after : List DeskMove) (isRun : moves = before ++ after) :
    pairOf (script.play start before).file ∈
      knownPairs start (script.play start before) := by
  induction before using List.reverseRecOn generalizing after with
  | nil => exact List.mem_cons_self
  | append_singleton before move inductionHypothesis =>
      have isRunHere : moves = before ++ move :: after := by
        rw [isRun, List.append_assoc]
        rfl
      have known := inductionHypothesis (move :: after) isRunHere
      rw [play_snoc]
      apply known_apply script (settled_play script settled before) known
        move
      intro wallet signal outcome isCycle published mixed
      rw [isCycle] at isRunHere
      exact careful before wallet signal after outcome isRunHere published
        mixed

/-- What a cycle with this flush outcome publishes is the merged pair. -/
theorem pairOf_of_publishesFlush
    {desk : Desk} (settled : Settled desk.file)
    {wallet : String} {signal : Dict} {outcome : FlushOutcome}
    (published : PublishesFlush script desk wallet signal outcome) :
    pairOf (script.afterCycle wallet signal desk).file =
      mergedPair (pairOf desk.file) (snapshotOf outcome) := by
  obtain ⟨_, _, ended⟩ := pairOf_afterCycle script settled wallet signal
  obtain ⟨⟨result, isPublished⟩, isFlushed⟩ := published
  rcases ended with ⟨same, _⟩ | ⟨found, ⟨_, alsoFlushed⟩, isPair⟩
  · rw [same] at isPublished
    simp at isPublished
  · rw [alsoFlushed] at isFlushed
    have sameOutcome := List.append_cancel_left isFlushed
    cases sameOutcome
    exact isPair

/-- The file holds the pair of one flush after every part of a run exactly
when no publication mixes a pair that no flush has returned. -/
theorem snapshotsMatch_iff
    (settled : Settled start.file) (moves : List DeskMove) :
    SnapshotsMatch script start moves ↔
      NeverMixes script start moves := by
  constructor
  · intro matched before wallet signal after outcome isRun published _
    have holds := matched (before ++ [.cycle wallet signal]) after (by
      rw [isRun, List.append_assoc]
      rfl)
    rw [play_snoc] at holds
    have isPair := pairOf_of_publishesFlush script
      (settled_play script settled before) published
    rw [← isPair]
    exact holds
  · intro careful before after isRun
    exact known_play script settled careful before after isRun

end Run

theorem settled_none : Settled none where
  readable := readable_none
  root := Or.inl rfl
  tx := Or.inl rfl

/-- The first flush has a transaction, the second one times out and returns
its root alone. -/
def timeoutScript : DeskScript where
  now := fun _ => "2026-01-01T00:00:00Z"
  answers := fun number =>
    calmAnswers (.ok
      (if number < 25 then (some "0xaa", some "0x01")
        else (some "0xbb", none)))
  others := fun _ => []

def twoCycles : List DeskMove :=
  [.cycle "0xaaaa" calmSignal, .cycle "0xaaaa" calmSignal]

theorem snapshotsMatch_iff_twoCycles :
    SnapshotsMatch timeoutScript .fresh twoCycles ↔
      NeverMixes timeoutScript .fresh twoCycles :=
  snapshotsMatch_iff timeoutScript settled_none twoCycles

def pairTexts (pair : Json × Json) : Option String × Option String :=
  (pair.1.str?, pair.2.str?)

/-- The root of the second flush is published with the transaction of the
first. -/
theorem older_tx_published :
    ¬ ∀ (script : DeskScript) (start : Desk) (moves : List DeskMove),
      Settled start.file → SnapshotsMatch script start moves := by
  intro always
  have matched := always timeoutScript .fresh twoCycles settled_none
    twoCycles [] (List.append_nil _).symm
  have unknown : ((knownPairs .fresh
      (timeoutScript.play .fresh twoCycles)).map pairTexts).contains
        (pairTexts
          (pairOf (timeoutScript.play .fresh twoCycles).file)) = false := by
    decide +kernel
  have known := List.mem_map_of_mem (f := pairTexts) matched
  rw [← List.contains_iff_mem, unknown] at known
  cases known

end SwarmFi.Dashboard

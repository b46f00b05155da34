import SwarmFi.Dashboard.Stages

/-!
# The state file

The file that trade cycles publish to and the dashboard reads, as the JSON
value it holds: reading and writing its text is left out, and so is an error
of the file system.  `Desk` is the file together with what cycles have
flushed and published, `DeskScript` answers every other call of a cycle and
lets other partial updates in before each call.
-/

namespace SwarmFi.Dashboard

open Foundation Python SwarmFi.Core Uniswap Compute

/-! ## Reading and writing -/

/-- `list(value)` -/
def listOf : Json → Except Exception (List Json)
  | .arr items => .ok items
  | .obj fields => .ok (fields.map fun field => .str field.1)
  | .str text =>
      .ok (text.toList.map fun character =>
        .str (String.ofList [character]))
  | other =>
      .error ⟨.typeError,
        "'" ++ other.typeName ++ "' object is not iterable"⟩

/-- `_read_state_file` -/
def readStateFile (file : Option Json) : Json :=
  file.getD (.obj [])

/-- `results[-20:]` -/
def lastTwenty {α : Type} (results : List α) : List α :=
  results.drop (results.length - 20)

/-- What `_publish_state_view` writes. -/
def nextStateView
    (now : String) (snapshotRoot : Option String) (result : Dict)
    (snapshotTx : Option String) (read : Json) :
    Except Exception Dict := do
  let view ← (read.orElse (.obj [("results", .arr [])])).asDict
  let earlier ← listOf ((view.getD "results" .null).orElse (.arr []))
  let results := earlier ++ [.obj result]
  return [
    ("updated_at", .str now),
    ("snapshot_root", (optionalStr snapshotRoot).orElse
      (view.getD "snapshot_root" .null)),
    ("snapshot_tx", (optionalStr snapshotTx).orElse
      (view.getD "snapshot_tx" .null)),
    ("cycles", .int results.length),
    ("results", .arr (lastTwenty results)),
    ("pair", ((result.getD "signal" .null).orElse
      (view.getD "pair" .null)).orElse (.obj [])),
    ("in_progress", .null)]

/-- `view[key] = value`: a dict has it. -/
def assignable : Json → Except Exception Dict
  | .obj fields => .ok fields
  | other =>
      .error ⟨.typeError,
        "'" ++ other.typeName ++
          "' object does not support item assignment"⟩

/-- What `_publish_partial` writes. -/
def nextPartial
    (now stage : String) (fields : Dict) (read : Json) :
    Except Exception Dict := do
  let view ← assignable (read.orElse (.obj []))
  let progress := fields.foldl
    (fun progress field => Dict.set progress field.1 field.2)
    [("stage", .str stage)]
  return (view.set "updated_at" (.str now)).set "in_progress"
    (.obj progress)

/-- An error on the way leaves the file as it is. -/
def written (file : Option Json) : Except Exception Dict → Option Json
  | .ok view => some (.obj view)
  | .error _ => file

def publishStateView
    (now : String) (snapshotRoot : Option String) (result : Dict)
    (snapshotTx : Option String) (file : Option Json) : Option Json :=
  written file
    (nextStateView now snapshotRoot result snapshotTx (readStateFile file))

def publishPartial
    (now stage : String) (fields : Dict) (file : Option Json) :
    Option Json :=
  written file (nextPartial now stage fields (readStateFile file))

/-! ## What a write leaves -/

/-- The fields of the file; anything but an object has none. -/
def fieldsOf : Option Json → Dict
  | some (.obj fields) => fields
  | _ => []

/-- The results that the file lists. -/
def resultsOf (file : Option Json) : List Json :=
  match (fieldsOf file).get? "results" with
  | some (.arr items) => items
  | _ => []

/-- The file as its writers leave it: an object, if there is a file, with a
list under `results`, if there are any. -/
structure Readable (file : Option Json) : Prop where
  object : ∀ value, file = some value → ∃ fields, value = .obj fields
  results : ∀ value, (fieldsOf file).get? "results" = some value →
    ∃ items, value = .arr items

theorem readable_none : Readable none where
  object := fun value isFile => by cases isFile
  results := fun value isFound => by cases isFound

/-- All fields but the two that a partial update writes. -/
def keptFields (file : Option Json) (key : String) : Option Json :=
  if key = "updated_at" ∨ key = "in_progress" then
    none
  else
    (fieldsOf file).get? key

theorem get?_of_keptFields
    {first second : Option Json}
    (same : keptFields second = keptFields first) {key : String}
    (kept : ¬ (key = "updated_at" ∨ key = "in_progress")) :
    (fieldsOf second).get? key = (fieldsOf first).get? key := by
  have sameHere := congrFun same key
  unfold keptFields at sameHere
  rw [if_neg kept, if_neg kept] at sameHere
  exact sameHere

theorem truthy_obj_iff (fields : Dict) :
    (Json.obj fields).truthy = true ↔ fields ≠ [] := by
  cases fields <;> simp [Json.truthy]

/-- A view that keys can be assigned in holds the fields of the file. -/
theorem eq_fieldsOf_of_assignable
    {file : Option Json} {view : Dict}
    (isView : assignable ((readStateFile file).orElse (.obj [])) =
      .ok view) : view = fieldsOf file := by
  unfold Json.orElse at isView
  by_cases present : (readStateFile file).truthy = true
  · rw [if_pos present] at isView
    cases file with
    | none => cases present
    | some value =>
        cases value with
        | obj fields =>
            cases isView
            rfl
        | _ => cases isView
  · rw [if_neg present] at isView
    cases isView
    cases file with
    | none => rfl
    | some value =>
        cases value with
        | obj fields =>
            have isEmpty : fields = [] := by
              apply Decidable.byContradiction
              intro nonempty
              exact present ((truthy_obj_iff fields).mpr nonempty)
            exact isEmpty.symm
        | _ => rfl

theorem assignable_of_readable
    {file : Option Json} (readable : Readable file) :
    assignable ((readStateFile file).orElse (.obj [])) =
      .ok (fieldsOf file) := by
  cases file with
  | none => rfl
  | some value =>
      obtain ⟨fields, isObject⟩ := readable.object value rfl
      rw [isObject]
      cases fields with
      | nil => rfl
      | cons field fields => rfl

theorem readStateFile_of_readable
    {file : Option Json} (readable : Readable file) :
    readStateFile file = .obj (fieldsOf file) := by
  cases file with
  | none => rfl
  | some value =>
      obtain ⟨fields, isObject⟩ := readable.object value rfl
      rw [isObject]
      rfl

/-- A partial update leaves the file alone or sets its two fields. -/
theorem publishPartial_cases
    (now stage : String) (fields : Dict) (file : Option Json) :
    publishPartial now stage fields file = file ∨
      ∃ progress, publishPartial now stage fields file =
        some (.obj (((fieldsOf file).set "updated_at" (.str now)).set
          "in_progress" (.obj progress))) := by
  unfold publishPartial nextPartial
  cases isView : assignable ((readStateFile file).orElse (.obj [])) with
  | error exc => exact Or.inl rfl
  | ok view =>
      rw [eq_fieldsOf_of_assignable isView]
      exact Or.inr ⟨_, rfl⟩

theorem publishPartial_of_readable
    {file : Option Json} (readable : Readable file)
    (now stage : String) (fields : Dict) :
    ∃ progress, publishPartial now stage fields file =
      some (.obj (((fieldsOf file).set "updated_at" (.str now)).set
        "in_progress" (.obj progress))) := by
  unfold publishPartial nextPartial
  rw [assignable_of_readable readable]
  exact ⟨_, rfl⟩

/-- A partial update keeps all other fields. -/
theorem keptFields_publishPartial
    (now stage : String) (fields : Dict) (file : Option Json) :
    keptFields (publishPartial now stage fields file) =
      keptFields file := by
  rcases publishPartial_cases now stage fields file with
    same | ⟨progress, isFile⟩
  · rw [same]
  · rw [isFile]
    funext key
    unfold keptFields
    by_cases own : key = "updated_at" ∨ key = "in_progress"
    · rw [if_pos own, if_pos own]
    · rw [if_neg own, if_neg own]
      have apart := not_or.mp own
      simp only [fieldsOf]
      rw [Dict.get?_set, if_neg apart.2, Dict.get?_set, if_neg apart.1]

theorem Readable.of_kept
    {first second : Option Json} (readable : Readable first)
    (isObject : ∃ fields, second = some (Json.obj fields))
    (same : keptFields second = keptFields first) : Readable second where
  object := by
    intro value isFile
    obtain ⟨fields, isSecond⟩ := isObject
    rw [isSecond] at isFile
    cases isFile
    exact ⟨fields, rfl⟩
  results := by
    intro value isFound
    rw [get?_of_keptFields same (by decide)] at isFound
    exact readable.results value isFound

theorem Readable.partially
    {file : Option Json} (readable : Readable file)
    (now stage : String) (fields : Dict) :
    Readable (publishPartial now stage fields file) := by
  obtain ⟨progress, isFile⟩ :=
    publishPartial_of_readable readable now stage fields
  exact readable.of_kept ⟨_, isFile⟩ (keptFields_publishPartial _ _ _ _)

/-- The view that a publication writes over a readable file. -/
def stateView
    (now : String) (snapshotRoot : Option String) (result : Dict)
    (snapshotTx : Option String) (file : Option Json) : Dict :=
  [("updated_at", .str now),
    ("snapshot_root", (optionalStr snapshotRoot).orElse
      (Dict.getD (fieldsOf file) "snapshot_root" .null)),
    ("snapshot_tx", (optionalStr snapshotTx).orElse
      (Dict.getD (fieldsOf file) "snapshot_tx" .null)),
    ("cycles", .int (resultsOf file ++ [Json.obj result]).length),
    ("results", .arr (lastTwenty (resultsOf file ++ [.obj result]))),
    ("pair", ((result.getD "signal" .null).orElse
      (Dict.getD (fieldsOf file) "pair" .null)).orElse (.obj [])),
    ("in_progress", .null)]

section StateView

variable
  (now : String) (snapshotRoot : Option String) (result : Dict)
  (snapshotTx : Option String) (file : Option Json)

theorem stateView_snapshotRoot :
    (stateView now snapshotRoot result snapshotTx file).get?
        "snapshot_root" =
      some ((optionalStr snapshotRoot).orElse
        (Dict.getD (fieldsOf file) "snapshot_root" .null)) := rfl

theorem stateView_snapshotTx :
    (stateView now snapshotRoot result snapshotTx file).get?
        "snapshot_tx" =
      some ((optionalStr snapshotTx).orElse
        (Dict.getD (fieldsOf file) "snapshot_tx" .null)) := rfl

theorem stateView_cycles :
    (stateView now snapshotRoot result snapshotTx file).get? "cycles" =
      some (.int (resultsOf file ++ [Json.obj result]).length) := rfl

theorem stateView_results :
    (stateView now snapshotRoot result snapshotTx file).get? "results" =
      some (.arr (lastTwenty (resultsOf file ++ [.obj result]))) := rfl

theorem stateView_inProgress :
    (stateView now snapshotRoot result snapshotTx file).get?
        "in_progress" = some .null := rfl

end StateView

/-- The list under `results`, where `or` replaces what is missing. -/
theorem listOf_results
    {file : Option Json} (readable : Readable file) :
    listOf ((Dict.getD (fieldsOf file) "results" .null).orElse
      (.arr [])) = .ok (resultsOf file) := by
  unfold Dict.getD resultsOf
  cases found : (fieldsOf file).get? "results" with
  | none => rfl
  | some value =>
      obtain ⟨items, isList⟩ := readable.results value found
      rw [isList]
      cases items with
      | nil => rfl
      | cons item items => rfl

theorem publishStateView_of_readable
    {file : Option Json} (readable : Readable file)
    (now : String) (snapshotRoot : Option String) (result : Dict)
    (snapshotTx : Option String) :
    publishStateView now snapshotRoot result snapshotTx file =
      some (.obj (stateView now snapshotRoot result snapshotTx file)) := by
  have listed := listOf_results readable
  unfold publishStateView nextStateView
  cases file with
  | none => rfl
  | some value =>
      obtain ⟨fields, isObject⟩ := readable.object value rfl
      rw [isObject] at listed ⊢
      cases fields with
      | nil => rfl
      | cons field fields =>
          have isView :
              ((readStateFile (some (.obj (field :: fields)))).orElse
                (.obj [("results", .arr [])])).asDict =
                  .ok (field :: fields) := rfl
          have isList :
              listOf ((Dict.getD (field :: fields) "results" .null).orElse
                (.arr [])) =
                  .ok (resultsOf (some (.obj (field :: fields)))) := listed
          rw [isView]
          show written _ ((listOf ((Dict.getD (field :: fields) "results"
            .null).orElse (.arr []))).bind _) = _
          rw [isList]
          rfl

theorem Readable.published
    {file : Option Json} (readable : Readable file)
    (now : String) (snapshotRoot : Option String) (result : Dict)
    (snapshotTx : Option String) :
    Readable
      (publishStateView now snapshotRoot result snapshotTx file) := by
  rw [publishStateView_of_readable readable]
  constructor
  · intro value isFile
    cases isFile
    exact ⟨_, rfl⟩
  · intro value isFound
    cases isFound
    exact ⟨_, rfl⟩

theorem resultsOf_publishStateView
    {file : Option Json} (readable : Readable file)
    (now : String) (snapshotRoot : Option String) (result : Dict)
    (snapshotTx : Option String) :
    resultsOf
        (publishStateView now snapshotRoot result snapshotTx file) =
      lastTwenty (resultsOf file ++ [.obj result]) := by
  rw [publishStateView_of_readable readable]
  unfold resultsOf
  simp only [fieldsOf, stateView_results]
  rfl

/-! ## A desk -/

abbrev FlushOutcome := Except Exception (Option String × Option String)

/-- The file, how many calls have been made, and what was flushed and
published so far. -/
structure Desk where
  file : Option Json
  asked : Nat
  flushes : List FlushOutcome
  published : List Dict

/-- There is no state file yet. -/
def Desk.fresh : Desk where
  file := none
  asked := 0
  flushes := []
  published := []

/-- The clock and the answers by the number of the call, and the partial
updates that others write before it. -/
structure DeskScript where
  now : Nat → String
  answers : Nat → CycleAnswers
  others : Nat → List (String × Dict)

namespace Desk

/-- A partial update of the file. -/
def partially (now : String) (desk : Desk) (update : String × Dict) :
    Desk :=
  { desk with file := publishPartial now update.1 update.2 desk.file }

def flushed (desk : Desk) (outcome : FlushOutcome) : Desk :=
  { desk with flushes := desk.flushes ++ [outcome] }

def publish
    (now : String) (snapshotRoot : Option String) (result : Dict)
    (snapshotTx : Option String) (desk : Desk) : Desk :=
  { desk with
    file := publishStateView now snapshotRoot result snapshotTx desk.file
    published := desk.published ++ [result] }

end Desk

namespace DeskScript

variable (script : DeskScript)

/-- The desk when its next call is answered. -/
def arrive (desk : Desk) : Desk :=
  { (script.others desk.asked).foldl
      (Desk.partially (script.now desk.asked)) desk with
    asked := desk.asked + 1 }

def environment : Environment CycleVocabulary Desk
  | desk, .readStateFile =>
      (readStateFile (script.arrive desk).file, script.arrive desk)
  | desk, .publishPartial stage fields =>
      ((), (script.arrive desk).partially (script.now desk.asked)
        (stage, fields))
  | desk, .publishStateView snapshotRoot result snapshotTx =>
      ((), (script.arrive desk).publish (script.now desk.asked)
        snapshotRoot result snapshotTx)
  | desk, .flush =>
      (script.answers desk.asked .flush,
        (script.arrive desk).flushed (script.answers desk.asked .flush))
  | desk, request =>
      (script.answers desk.asked request, script.arrive desk)

/-- The desk after one trade cycle. -/
def afterCycle (wallet : String) (signal : Dict) (desk : Desk) : Desk :=
  ((Cycle.runTradeCycle wallet signal).run script.environment desk).2

end DeskScript

/-- What happens at a desk, one thing after the other. -/
inductive DeskMove where
  | cycle (wallet : String) (signal : Dict)
  | partially (now stage : String) (fields : Dict)

def DeskScript.apply (script : DeskScript) (desk : Desk) :
    DeskMove → Desk
  | .cycle wallet signal => script.afterCycle wallet signal desk
  | .partially now stage fields => desk.partially now (stage, fields)

def DeskScript.play (script : DeskScript) (desk : Desk)
    (moves : List DeskMove) : Desk :=
  moves.foldl script.apply desk

/-! ## A calm day -/

/-- The model cannot be reached, so that every decision is HOLD; nothing
else raises. -/
def calmAnswers (flush : FlushOutcome) : CycleAnswers
  | .openClients => .ok ()
  | .closeClients => .ok ()
  | .readStateFile => .null
  | .publishPartial _ _ => ()
  | .publishStateView _ _ _ => ()
  | .write _ _ => .ok ()
  | .updateText _ _ _ => .ok ()
  | .announce _ _ => .ok ()
  | .chat _ =>
      .error ⟨.connectError, "All connection attempts failed"⟩
  | .newStamp => ⟨"id-1", "2026-01-01T00:00:00Z"⟩
  | .executeSwap _ => .error ⟨.runtimeError, "no swap"⟩
  | .flush => flush

/-- Ether for USDC on Base. -/
def calmSignal : Dict :=
  [("token_in", .str nativeEth), ("token_out", .str usdc),
    ("chain_id", .int 8453), ("amount_in_wei", .int 50000000000000000),
    ("price_usd", .float (.fin 1950))]

end SwarmFi.Dashboard

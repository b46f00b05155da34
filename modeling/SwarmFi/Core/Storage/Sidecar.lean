import SwarmFi.Core.Storage.Durable
import SwarmFi.ZgSidecar

/-!
# The live client and its sidecar

`_ZeroGStorageClient` starts the sidecar for every request.  The arguments,
the data on the standard input, the line that is printed and the code are all
that the two processes share, and what the SDK was asked and what it gave
passes through them unchanged.
-/

namespace SwarmFi.Core.Storage

open Foundation Python

/-- Where the sidecar runs.  Instead of a run `subprocess.run` may raise: no
`node` is there, or the half hour is over. -/
structure Host where
  sdk : ZgSidecar.Sdk
  raises : sdk.State → List String → Option Bytes →
    Option (Exception × sdk.State)

/-- The attributes of `_ZeroGStorageClient`, of which `Account.from_key`
refuses an empty key. -/
structure SidecarClient where
  privateKey : String
  evmRpc : String
  indexerRpc : String
  sidecar : String
  hasKey : privateKey ≠ ""

namespace SidecarClient

variable (self : SidecarClient)

def failure (args : List String) (result : ZgSidecar.Completed) :
    Exception :=
  ⟨.runtimeError,
    "zg-sidecar failed (code " ++ toString result.returncode ++ "):\n" ++
      "CMD: " ++ " ".intercalate ("node" :: self.sidecar :: args) ++ "\n" ++
      "STDOUT:\n" ++ strip (decodeReplace result.stdout) ++ "\n" ++
      "STDERR:\n" ++ strip (decodeReplace result.stderr)⟩

/-- `self._run(args, stdin)` -/
def run (host : Host) (args : List String) (stdin : Option Bytes)
    (state : host.sdk.State) : Except Exception Bytes × host.sdk.State :=
  match host.raises state args stdin with
  | some (exc, reached) => (.error exc, reached)
  | none =>
      let result := ZgSidecar.main host.sdk args (stdin.getD []) state
      if result.1.returncode ≠ 0 then
        (.error (self.failure args result.1), result.2)
      else
        (.ok result.1.stdout, result.2)

def uploadArgs : List String :=
  ["upload", "--key", self.privateKey, "--evm", self.evmRpc,
    "--indexer", self.indexerRpc]

def downloadArgs (root : String) : List String :=
  ["download", "--root", root, "--indexer", self.indexerRpc]

/-- A hash in the answer; a falsy one is none.  What is neither is an error:
the sidecar prints no such hash. -/
def readHash (value : Json) : Except Exception (Option String) :=
  match value with
  | .str text => .ok (some text)
  | other =>
      if other.truthy then
        .error ⟨.typeError,
          "'" ++ other.typeName ++ "' object is not subscriptable"⟩
      else
        .ok none

/-- The last line of the output that is not blank, read as JSON. -/
def readUpload (raw : Bytes) : Except Exception SidecarUpload :=
  match lastLine (decodeReplace raw) with
  | none => .error ⟨.other "IndexError", "list index out of range"⟩
  | some line => do
      let result ← JsonReader.loads line
      match result with
      | .obj fields => do
          let root ← readHash ((Dict.get? fields "rootHash").getD (.str ""))
          let tx ← readHash ((Dict.get? fields "txHash").getD .null)
          return { rootHash := root, txHash := tx }
      | other =>
          .error ⟨.attributeError,
            "'" ++ other.typeName ++ "' object has no attribute 'get'"⟩

/-- What the storage code finds behind its requests. -/
def backend (host : Host) : LiveBackend where
  State := host.sdk.State
  upload := fun state data =>
    let ran := self.run host self.uploadArgs (some data) state
    (ran.1 >>= readUpload, ran.2)
  download := fun state root =>
    self.run host (self.downloadArgs root) none state

end SidecarClient

/-! ## An upload -/

section Uploads

open ZgSidecar

/-- The hashes that an SDK gives: of an upload that ended in time, perhaps
since the data was there already, or the root of the data after the
deadline. -/
inductive Gives : UploadRace → String → Option String → Prop
  | inTime (result : SdkResult) (err : Option SdkError) (root : String)
      (fine : ∀ problem ∈ err, problem.already = true)
      (isRoot : result.root? = some root) :
      Gives (.settled (some result) err) root result.tx?
  | late (root : String) : Gives (.timedOut (some (some root))) root none

theorem gives_iff_resolved (race : UploadRace) (root : String)
    (tx : Option String) :
    Gives race root tx ↔ race.resolved = .ok (some root, tx) := by
  constructor
  · intro gives
    cases gives with
    | inTime result err root fine isRoot =>
        cases err with
        | none =>
            rw [← isRoot]
            rfl
        | some problem =>
            have already := fine problem rfl
            simp only [UploadRace.resolved, already]
            rw [← isRoot]
            rfl
    | late root => rfl
  · intro resolved
    cases race with
    | settled result err =>
        have fine : ∀ problem ∈ err, problem.already = true := by
          intro problem isProblem
          cases isProblem
          by_cases already : problem.already = true
          · exact already
          · simp only [UploadRace.resolved, if_neg already] at resolved
            cases resolved
        have isPair : (result >>= SdkResult.root?,
            result >>= SdkResult.tx?) = (some root, tx) := by
          cases err with
          | none => exact Except.ok.inj resolved
          | some problem =>
              have already := fine problem rfl
              simp only [UploadRace.resolved, already] at resolved
              exact Except.ok.inj resolved
        cases result with
        | none => cases congrArg Prod.fst isPair
        | some result =>
            have isTx : result.tx? = tx := congrArg Prod.snd isPair
            subst isTx
            exact .inTime result err root fine (congrArg Prod.fst isPair)
    | threw err => cases resolved
    | timedOut info =>
        cases info with
        | none => cases resolved
        | some found =>
            cases resolved
            exact .late root

/-- A race that gives a root ends with the line that has it. -/
theorem completed_of_gives {race : UploadRace} {root : String}
    {tx : Option String} (gives : Gives race root tx) (named : root ≠ "")
    (printed : Bytes) :
    (race.completed printed).returncode = 0 ∧
      (race.completed printed).stdout =
        printed ++ encode (stringify root tx ++ "\n") := by
  have resolved := (gives_iff_resolved race root tx).mp gives
  rw [UploadRace.completed, resolved]
  simp only [Option.getD_some, if_neg named, and_self]

/-- Any other race ends with an error. -/
theorem gives_of_completed {race : UploadRace} {printed : Bytes}
    (succeeds : (race.completed printed).returncode = 0) :
    ∃ root tx, Gives race root tx ∧ root ≠ "" := by
  cases resolved : race.resolved with
  | error msg =>
      rw [UploadRace.completed, resolved] at succeeds
      cases succeeds
  | ok hashes =>
      rcases hashes with ⟨found, tx⟩
      rw [UploadRace.completed, resolved] at succeeds
      by_cases isEmpty : found.getD "" = ""
      · simp only [if_pos isEmpty] at succeeds
        cases succeeds
      · cases found with
        | none => exact absurd rfl isEmpty
        | some root =>
            exact ⟨root, tx, (gives_iff_resolved race root tx).mpr resolved,
              isEmpty⟩

/-- What is printed before the line of the answer ends with a line. -/
def EndsLine (printed : Bytes) : Prop :=
  printed = [] ∨ ∃ earlier, printed = earlier ++ [0x0a]

theorem readUpload_printed {printed : Bytes} {root : String}
    {tx : Option String} (ends : EndsLine printed) (rootLine : OneLine root)
    (txLine : ∀ hash ∈ tx, OneLine hash) :
    SidecarClient.readUpload
        (printed ++ encode (stringify root tx ++ "\n")) =
      .ok { rootHash := some root, txHash := tx } := by
  rw [SidecarClient.readUpload, lastLine_printed ends
    (isLineBreak_stringify rootLine txLine) (strip_stringify root tx)]
  simp only [loads_stringify]
  cases tx <;> rfl

end Uploads

/-! ## The arguments -/

section Arguments

open ZgSidecar

variable (self : SidecarClient) (sdk : Sdk) (state : sdk.State)

theorem option_last (before : List (String × String)) (name value : String)
    (after : List (String × String))
    (last : ∀ arg ∈ after, arg.1 ≠ name) :
    option? (before ++ (name, value) :: after) name =
      if value = "" then none else some value := by
  have noneAfter : (after.filter fun arg => arg.1 = name) = [] := by
    apply List.filter_eq_nil_iff.mpr
    intro arg member
    simp [last arg member]
  rw [option?, List.filter_append, List.filter_cons_of_pos (by simp),
    noneAfter, List.getLast?_concat]

theorem getD_option (value other : String) :
    (if value = "" then none else some value).getD other =
      Python.orElse value other := by
  rw [Python.orElse]
  split <;> rfl

/-- The indexer that the sidecar asks. -/
def SidecarClient.indexer : String :=
  Python.orElse self.indexerRpc ZgSidecar.indexerRpc

/-- What the SDK is asked to upload. -/
def SidecarClient.asksUpload (data : Bytes) :
    (UploadRace × Bytes) × sdk.State :=
  sdk.upload state (marked self.privateKey)
    (Python.orElse self.evmRpc ZgSidecar.evmRpc) self.indexer data

theorem main_upload {data : Bytes} (hasData : data ≠ []) :
    main sdk self.uploadArgs data state =
      (((self.asksUpload sdk state data).1.1).completed
          (self.asksUpload sdk state data).1.2,
        (self.asksUpload sdk state data).2) := by
  have isRead : parseArgs self.uploadArgs.tail =
      [("key", self.privateKey), ("evm", self.evmRpc),
        ("indexer", self.indexerRpc)] := rfl
  have key := option_last [] "key" self.privateKey
    [("evm", self.evmRpc), ("indexer", self.indexerRpc)] (by simp)
  have evm := option_last [("key", self.privateKey)] "evm" self.evmRpc
    [("indexer", self.indexerRpc)] (by simp)
  have indexer := option_last
    [("key", self.privateKey), ("evm", self.evmRpc)] "indexer"
    self.indexerRpc [] (by simp)
  rw [if_neg self.hasKey] at key
  show cmdUpload sdk (parseArgs self.uploadArgs.tail) data state = _
  rw [isRead, cmdUpload]
  simp only [List.nil_append, List.cons_append] at key evm indexer
  rw [key, evm, indexer]
  simp only [if_neg hasData, getD_option]
  rfl

/-- What the SDK is asked to download, attempt after attempt. -/
theorem main_download (root : String) (isRoot : root ≠ "") :
    main sdk (self.downloadArgs root) [] state =
      downloadFrom sdk self.indexer (marked root) (maxAttempts - 1) 1 [] ""
        state := by
  have isRead : parseArgs (self.downloadArgs root).tail =
      [("root", root), ("indexer", self.indexerRpc)] := rfl
  have given := option_last [] "root" root [("indexer", self.indexerRpc)]
    (by simp)
  have indexer := option_last [("root", root)] "indexer" self.indexerRpc []
    (by simp)
  rw [if_neg isRoot] at given
  show cmdDownload sdk (parseArgs (self.downloadArgs root).tail) state = _
  rw [isRead, cmdDownload]
  simp only [List.nil_append, List.cons_append] at given indexer
  rw [given, indexer]
  simp only [getD_option]
  rfl

end Arguments

/-! ## A run of the sidecar -/

theorem run_of_starts (self : SidecarClient) (host : Host)
    {state : host.sdk.State} {args : List String} {stdin : Option Bytes}
    (starts : host.raises state args stdin = none) :
    self.run host args stdin state =
      let result := ZgSidecar.main host.sdk args (stdin.getD []) state
      if result.1.returncode ≠ 0 then
        (.error (self.failure args result.1), result.2)
      else
        (.ok result.1.stdout, result.2) := by
  rw [SidecarClient.run, starts]

/-! ## Uploads through the sidecar -/

section UploadsThrough

open ZgSidecar

variable (self : SidecarClient) (host : Host) (state : host.sdk.State)

variable {data : Bytes} (hasData : data ≠ [])
  (starts : host.raises state self.uploadArgs (some data) = none)

include hasData starts

theorem backend_upload :
    (self.backend host).upload state data =
      let asked := self.asksUpload host.sdk state data
      let result := asked.1.1.completed asked.1.2
      if result.returncode ≠ 0 then
        (.error (self.failure self.uploadArgs result), asked.2)
      else
        (SidecarClient.readUpload result.stdout, asked.2) := by
  have isMain := main_upload self host.sdk state hasData
  show ((self.run host self.uploadArgs (some data) state).1 >>=
      SidecarClient.readUpload,
    (self.run host self.uploadArgs (some data) state).2) = _
  rw [run_of_starts self host starts, Option.getD_some, isMain]
  dsimp only
  by_cases failed :
    ((self.asksUpload host.sdk state data).1.1.completed
      (self.asksUpload host.sdk state data).1.2).returncode ≠ 0
  · rw [if_pos failed, if_pos failed]
    rfl
  · rw [if_neg failed, if_neg failed]
    rfl

/-- What the client has of an upload is what the SDK gives: as long as the
sidecar is run, and what else is printed ends with a line, the client returns
these hashes or raises a `RuntimeError`. -/
theorem upload_through_sidecar
    (ends : EndsLine (self.asksUpload host.sdk state data).1.2)
    (lines : ∀ root tx,
      Gives (self.asksUpload host.sdk state data).1.1 root tx →
        OneLine root ∧ ∀ hash ∈ tx, OneLine hash) :
    (∀ result, ((self.backend host).upload state data).1 = .ok result ↔
      ∃ root tx, Gives (self.asksUpload host.sdk state data).1.1 root tx ∧
        root ≠ "" ∧ result = { rootHash := some root, txHash := tx }) ∧
    (∀ exc, ((self.backend host).upload state data).1 = .error exc →
      exc.kind = .runtimeError) ∧
    ((self.backend host).upload state data).2 =
      (self.asksUpload host.sdk state data).2 := by
  have isUpload := backend_upload self host state hasData starts
  dsimp only at isUpload
  -- The line that is read when the SDK gives a root.
  have gets : ∀ root tx,
      Gives (self.asksUpload host.sdk state data).1.1 root tx → root ≠ "" →
        (self.backend host).upload state data =
          (.ok { rootHash := some root, txHash := tx },
            (self.asksUpload host.sdk state data).2) := by
    intro root tx gives named
    rcases completed_of_gives gives named
      (self.asksUpload host.sdk state data).1.2 with ⟨succeeds, isLine⟩
    rcases lines root tx gives with ⟨rootLine, txLine⟩
    rw [isUpload, if_neg (not_not_intro succeeds), isLine,
      readUpload_printed ends rootLine txLine]
  by_cases succeeds :
    ((self.asksUpload host.sdk state data).1.1.completed
      (self.asksUpload host.sdk state data).1.2).returncode = 0
  · rcases gives_of_completed succeeds with ⟨root, tx, gives, named⟩
    rw [gets root tx gives named]
    refine ⟨?_, ?_, rfl⟩
    · intro result
      constructor
      · intro same
        cases same
        exact ⟨root, tx, gives, named, rfl⟩
      · rintro ⟨other, otherTx, otherGives, otherNamed, isResult⟩
        have first := (gives_iff_resolved _ _ _).mp gives
        rw [(gives_iff_resolved _ _ _).mp otherGives] at first
        cases first
        rw [isResult]
    · intro exc same
      cases same
  · rw [isUpload, if_pos succeeds]
    refine ⟨?_, ?_, rfl⟩
    · intro result
      constructor
      · intro same
        cases same
      · rintro ⟨root, tx, gives, named, _⟩
        exact absurd (completed_of_gives gives named _).1 succeeds
    · intro exc same
      cases same
      rfl

end UploadsThrough

/-! ## Downloads through the sidecar -/

section Attempts

open ZgSidecar

variable (sdk : Sdk) (indexerRpc rootHash : String)

/-- The SDK after a number of attempts. -/
def afterAttempts (state : sdk.State) (attempts : Nat) : sdk.State :=
  (fun reached => (sdk.download reached indexerRpc rootHash).2)^[attempts]
    state

/-- What comes of the attempt that so many others have preceded. -/
def attemptAt (state : sdk.State) (attempts : Nat) :
    DownloadAnswer × Bytes :=
  (sdk.download (afterAttempts sdk indexerRpc rootHash state attempts)
    indexerRpc rootHash).1

/-- The blob may not be there yet. -/
def Missing (answer : DownloadAnswer) : Prop :=
  ∃ err, answer = .failed err ∧ retries err.msg = true

/-- The attempt that finds the blob, and the blob. -/
def FoundAt (state : sdk.State) (attempts : Nat) (bytes : Bytes) : Prop :=
  (attemptAt sdk indexerRpc rootHash state attempts).1 = .saved bytes ∧
    ∀ earlier < attempts,
      Missing (attemptAt sdk indexerRpc rootHash state earlier).1

/-- What the attempts up to one have printed. -/
def printedUpTo (state : sdk.State) (attempts : Nat) : Bytes :=
  (List.range (attempts + 1)).flatMap fun attempt =>
    (attemptAt sdk indexerRpc rootHash state attempt).2

theorem not_missing_saved (bytes : Bytes) : ¬ Missing (.saved bytes) := by
  rintro ⟨_, same, _⟩
  cases same

theorem not_missing_threw (err : SdkError) : ¬ Missing (.threw err) := by
  rintro ⟨_, same, _⟩
  cases same

theorem missing_failed_iff (err : SdkError) :
    Missing (.failed err) ↔ retries err.msg = true := by
  constructor
  · rintro ⟨_, same, retried⟩
    cases same
    exact retried
  · intro retried
    exact ⟨err, rfl, retried⟩

variable {sdk indexerRpc rootHash} {state : sdk.State}

theorem attemptAt_succ (attempts : Nat) :
    attemptAt sdk indexerRpc rootHash state (attempts + 1) =
      attemptAt sdk indexerRpc rootHash
        (sdk.download state indexerRpc rootHash).2 attempts := by
  rw [attemptAt, afterAttempts, Function.iterate_succ_apply]
  rfl

theorem printedUpTo_succ (attempts : Nat) :
    printedUpTo sdk indexerRpc rootHash state (attempts + 1) =
      (sdk.download state indexerRpc rootHash).1.2 ++
        printedUpTo sdk indexerRpc rootHash
          (sdk.download state indexerRpc rootHash).2 attempts := by
  have first : attemptAt sdk indexerRpc rootHash state 0 =
      (sdk.download state indexerRpc rootHash).1 := rfl
  rw [printedUpTo, List.range_succ_eq_map, List.flatMap_cons, first,
    List.flatMap_map]
  simp only [Nat.succ_eq_add_one, attemptAt_succ]
  rfl

theorem foundAt_succ
    (missing : Missing (sdk.download state indexerRpc rootHash).1.1)
    (attempts : Nat) (bytes : Bytes) :
    FoundAt sdk indexerRpc rootHash state (attempts + 1) bytes ↔
      FoundAt sdk indexerRpc rootHash
        (sdk.download state indexerRpc rootHash).2 attempts bytes := by
  rw [FoundAt, FoundAt, attemptAt_succ]
  constructor
  · rintro ⟨saved, before⟩
    refine ⟨saved, ?_⟩
    intro earlier isEarlier
    rw [← attemptAt_succ]
    exact before (earlier + 1) (Nat.succ_lt_succ isEarlier)
  · rintro ⟨saved, before⟩
    refine ⟨saved, ?_⟩
    intro earlier isEarlier
    cases earlier with
    | zero => exact missing
    | succ earlier =>
        rw [attemptAt_succ]
        exact before earlier (Nat.lt_of_succ_lt_succ isEarlier)

/-- When the first attempt ends the run, the blob is found there or never. -/
theorem foundAt_of_settled
    (settled : ¬ Missing (sdk.download state indexerRpc rootHash).1.1)
    (attempts : Nat) (bytes : Bytes) :
    FoundAt sdk indexerRpc rootHash state attempts bytes ↔
      attempts = 0 ∧
        (sdk.download state indexerRpc rootHash).1.1 = .saved bytes := by
  constructor
  · rintro ⟨saved, before⟩
    cases attempts with
    | zero => exact ⟨rfl, saved⟩
    | succ attempts =>
        exact absurd (before 0 (Nat.succ_pos attempts)) settled
  · rintro ⟨isFirst, saved⟩
    subst isFirst
    exact ⟨saved, fun earlier isEarlier => absurd isEarlier (by omega)⟩

/-- How the attempts that are left end. -/
structure Ends (sdk : Sdk) (indexerRpc rootHash : String) (left : Nat)
    (printed : Bytes) (state : sdk.State)
    (ended : Completed × sdk.State) : Prop where
  found : ∀ attempts ≤ left, ∀ bytes,
    FoundAt sdk indexerRpc rootHash state attempts bytes →
      ended.1.returncode = 0 ∧ ended.1.stdout =
        printed ++ printedUpTo sdk indexerRpc rootHash state attempts ++
          bytes
  finds : ended.1.returncode = 0 → ∃ attempts ≤ left, ∃ bytes,
    FoundAt sdk indexerRpc rootHash state attempts bytes
  asked : ∃ attempts ≤ left, ended.2 =
    afterAttempts sdk indexerRpc rootHash state (attempts + 1)

section Ending

variable {left : Nat} {printed : Bytes} {ended : Completed × sdk.State}
  (lastState : ended.2 = (sdk.download state indexerRpc rootHash).2)

include lastState

theorem ends_saved {bytes : Bytes}
    (saved : (sdk.download state indexerRpc rootHash).1.1 = .saved bytes)
    (succeeds : ended.1.returncode = 0)
    (isOutput : ended.1.stdout =
      printed ++ (sdk.download state indexerRpc rootHash).1.2 ++ bytes) :
    Ends sdk indexerRpc rootHash left printed state ended := by
  have settled : ¬ Missing (sdk.download state indexerRpc rootHash).1.1 := by
    rw [saved]
    exact not_missing_saved bytes
  have first : printedUpTo sdk indexerRpc rootHash state 0 =
      (sdk.download state indexerRpc rootHash).1.2 := List.append_nil _
  refine ⟨?_, ?_, ⟨0, Nat.zero_le _, lastState⟩⟩
  · intro attempts _ other finds
    rcases (foundAt_of_settled settled attempts other).mp finds with
      ⟨isFirst, same⟩
    rw [saved] at same
    cases same
    subst isFirst
    exact ⟨succeeds, by rw [isOutput, first]⟩
  · intro _
    exact ⟨0, Nat.zero_le _, bytes, (foundAt_of_settled settled 0 bytes).mpr
      ⟨rfl, saved⟩⟩

theorem ends_failed (fails : ended.1.returncode ≠ 0)
    (never : ∀ attempts ≤ left, ∀ bytes,
      ¬ FoundAt sdk indexerRpc rootHash state attempts bytes) :
    Ends sdk indexerRpc rootHash left printed state ended := by
  refine ⟨?_, fun succeeds => absurd succeeds fails,
    ⟨0, Nat.zero_le _, lastState⟩⟩
  intro attempts within bytes finds
  exact absurd finds (never attempts within bytes)

end Ending

theorem ends_later {left : Nat} {printed : Bytes}
    {ended : Completed × sdk.State}
    (missing : Missing (sdk.download state indexerRpc rootHash).1.1)
    (later : Ends sdk indexerRpc rootHash left
      (printed ++ (sdk.download state indexerRpc rootHash).1.2)
      (sdk.download state indexerRpc rootHash).2 ended) :
    Ends sdk indexerRpc rootHash (left + 1) printed state ended := by
  refine ⟨?_, ?_, ?_⟩
  · intro attempts within bytes finds
    cases attempts with
    | zero =>
        rcases missing with ⟨err, failed, _⟩
        have saved := finds.1
        rw [show attemptAt sdk indexerRpc rootHash state 0 =
          (sdk.download state indexerRpc rootHash).1 from rfl, failed]
          at saved
        cases saved
    | succ attempts =>
        have isFound := later.found attempts (Nat.le_of_succ_le_succ within)
          bytes ((foundAt_succ missing attempts bytes).mp finds)
        rw [printedUpTo_succ, ← List.append_assoc]
        exact isFound
  · intro succeeds
    rcases later.finds succeeds with ⟨attempts, within, bytes, finds⟩
    exact ⟨attempts + 1, Nat.succ_le_succ within, bytes,
      (foundAt_succ missing attempts bytes).mpr finds⟩
  · rcases later.asked with ⟨attempts, within, isLast⟩
    exact ⟨attempts + 1, Nat.succ_le_succ within, isLast⟩

/-- Without a blob at the first attempt there is none when no other one
follows. -/
theorem never_foundAt (left : Nat)
    (notSaved : ∀ bytes,
      (sdk.download state indexerRpc rootHash).1.1 ≠ .saved bytes)
    (last : left = 0 ∨
      ¬ Missing (sdk.download state indexerRpc rootHash).1.1) :
    ∀ attempts ≤ left, ∀ bytes,
      ¬ FoundAt sdk indexerRpc rootHash state attempts bytes := by
  intro attempts within bytes finds
  rcases last with isLast | settled
  · subst isLast
    rw [Nat.le_zero.mp within] at finds
    exact notSaved bytes finds.1
  · exact notSaved bytes ((foundAt_of_settled settled attempts bytes).mp finds).2

theorem downloadFrom_ends (left attempt : Nat) (printed : Bytes)
    (stderr : String) (state : sdk.State) :
    Ends sdk indexerRpc rootHash left printed state
      (downloadFrom sdk indexerRpc rootHash left attempt printed stderr
        state) := by
  induction left generalizing attempt printed stderr state with
  | zero =>
      cases answer : (sdk.download state indexerRpc rootHash).1.1 with
      | saved bytes =>
          rw [downloadFrom, answer]
          exact ends_saved rfl answer rfl rfl
      | threw err =>
          have never := never_foundAt 0 (by rw [answer]; simp) (Or.inl rfl)
          rw [downloadFrom, answer]
          exact ends_failed rfl Nat.one_ne_zero never
      | failed err =>
          have never := never_foundAt 0 (by rw [answer]; simp) (Or.inl rfl)
          rw [downloadFrom, answer]
          dsimp only
          split
          · exact ends_failed rfl Nat.one_ne_zero never
          · exact ends_failed rfl Nat.one_ne_zero never
  | succ left inductionHypothesis =>
      cases answer : (sdk.download state indexerRpc rootHash).1.1 with
      | saved bytes =>
          rw [downloadFrom, answer]
          exact ends_saved rfl answer rfl rfl
      | threw err =>
          have settled :
              ¬ Missing (sdk.download state indexerRpc rootHash).1.1 := by
            rw [answer]
            exact not_missing_threw err
          have never :=
            never_foundAt (left + 1) (by rw [answer]; simp) (Or.inr settled)
          rw [downloadFrom, answer]
          exact ends_failed rfl Nat.one_ne_zero never
      | failed err =>
          by_cases again : retries err.msg = true
          · rw [downloadFrom, answer]
            simp only [again, if_true]
            have missing :
                Missing (sdk.download state indexerRpc rootHash).1.1 := by
              rw [answer, missing_failed_iff]
              exact again
            exact ends_later missing (inductionHypothesis _ _ _ _)
          · have settled :
                ¬ Missing (sdk.download state indexerRpc rootHash).1.1 := by
              rw [answer, missing_failed_iff]
              exact again
            have never :=
              never_foundAt (left + 1) (by rw [answer]; simp) (Or.inr settled)
            rw [downloadFrom, answer]
            simp only [if_neg again]
            exact ends_failed rfl Nat.one_ne_zero never

end Attempts

section DownloadsThrough

open ZgSidecar

variable (self : SidecarClient) (host : Host) (state : host.sdk.State)

/-- The client has a blob exactly when one of the eight attempts finds it
after others that may have come too early, with whatever the SDK has printed
before it; otherwise it raises a `RuntimeError`. -/
theorem download_through_sidecar {root : String} (isRoot : root ≠ "")
    (starts : host.raises state (self.downloadArgs root) none = none) :
    (∀ raw, ((self.backend host).download state root).1 = .ok raw ↔
      ∃ attempts < maxAttempts, ∃ bytes,
        FoundAt host.sdk self.indexer (marked root) state attempts bytes ∧
        raw = printedUpTo host.sdk self.indexer (marked root) state
          attempts ++ bytes) ∧
    (∀ exc, ((self.backend host).download state root).1 = .error exc →
      exc.kind = .runtimeError) ∧
    ∃ attempts, 0 < attempts ∧ attempts ≤ maxAttempts ∧
      ((self.backend host).download state root).2 =
        afterAttempts host.sdk self.indexer (marked root) state
          attempts := by
  have isRun := run_of_starts self host starts
  rw [Option.getD_none, main_download self host.sdk state root isRoot]
    at isRun
  have ends := @downloadFrom_ends host.sdk self.indexer (marked root)
    (maxAttempts - 1) 1 [] "" state
  have isDownload : (self.backend host).download state root =
      self.run host (self.downloadArgs root) none state := rfl
  rw [isDownload, isRun]
  dsimp only
  rcases ends.asked with ⟨attempts, within, isLast⟩
  by_cases failed :
    (downloadFrom host.sdk self.indexer (marked root) (maxAttempts - 1) 1 []
      "" state).1.returncode ≠ 0
  · rw [if_pos failed]
    refine ⟨?_, ?_, attempts + 1, Nat.succ_pos attempts,
      Nat.succ_le_succ within, isLast⟩
    · intro raw
      constructor
      · intro same
        cases same
      · rintro ⟨found, inTime, bytes, finds, _⟩
        exact absurd (ends.found found (Nat.le_of_lt_succ inTime) bytes
          finds).1 failed
    · intro exc same
      cases same
      rfl
  · rw [if_neg failed]
    refine ⟨?_, ?_, attempts + 1, Nat.succ_pos attempts,
      Nat.succ_le_succ within, isLast⟩
    · intro raw
      constructor
      · intro same
        cases same
        rcases ends.finds (not_not.mp failed) with
          ⟨found, inTime, bytes, finds⟩
        exact ⟨found, Nat.lt_succ_of_le inTime, bytes, finds,
          (ends.found found inTime bytes finds).2⟩
      · rintro ⟨found, inTime, bytes, finds, isRaw⟩
        have isOutput := (ends.found found (Nat.le_of_lt_succ inTime) bytes
          finds).2
        rw [isRaw, isOutput, List.nil_append]
    · intro exc same
      cases same

end DownloadsThrough

/-! ## A store behind the sidecar -/

section Stores

open ZgSidecar

/-- What an SDK has to do for the storage code: a root stands for the data it
was given for, a download that saves anything saves that data, and what is
printed besides does not touch the answers. -/
structure SdkStore (client : SidecarClient) (host : Host) where
  contents : host.sdk.State → String → Option Bytes
  kept : ∀ state data root blob, contents state root = some blob →
    contents (client.asksUpload host.sdk state data).2 root = some blob
  stored : ∀ state data root tx,
    Gives (client.asksUpload host.sdk state data).1.1 root tx →
      contents (client.asksUpload host.sdk state data).2 (marked root) =
        some data
  fetched : ∀ state root blob bytes, contents state root = some blob →
    (host.sdk.download state client.indexer root).1.1 = .saved bytes →
      bytes = blob
  reading : ∀ state root,
    contents (host.sdk.download state client.indexer root).2 = contents state
  raising : ∀ state args stdin exc reached,
    host.raises state args stdin = some (exc, reached) →
      (∀ root blob, contents state root = some blob →
        contents reached root = some blob) ∧
      (stdin = none → contents reached = contents state)
  ends : ∀ state data, EndsLine (client.asksUpload host.sdk state data).1.2
  lines : ∀ state data root tx,
    Gives (client.asksUpload host.sdk state data).1.1 root tx →
      OneLine root ∧ ∀ hash ∈ tx, OneLine hash
  silent : ∀ state root, (host.sdk.download state client.indexer root).1.2 = []

namespace SdkStore

variable {client : SidecarClient} {host : Host} (store : SdkStore client host)
  {state : host.sdk.State}

theorem contents_attempts (rootHash : String) (attempts : Nat) :
    store.contents (afterAttempts host.sdk client.indexer rootHash state
      attempts) = store.contents state := by
  induction attempts with
  | zero => rfl
  | succ attempts inductionHypothesis =>
      rw [afterAttempts, Function.iterate_succ_apply', store.reading]
      exact inductionHypothesis

include store in
theorem printed_nil (state : host.sdk.State) (rootHash : String)
    (attempts : Nat) :
    printedUpTo host.sdk client.indexer rootHash state attempts = [] := by
  rw [printedUpTo, List.flatMap_eq_nil_iff]
  intro attempt _
  exact store.silent _ _

/-- A request to upload raises, or has no data, or asks the SDK. -/
theorem upload_cases (state : host.sdk.State) (data : Bytes) :
    (∃ exc, ((client.backend host).upload state data).1 = .error exc) ∧
        (∀ root blob, store.contents state root = some blob →
          store.contents ((client.backend host).upload state data).2 root =
            some blob) ∨
      data ≠ [] ∧
        host.raises state client.uploadArgs (some data) = none := by
  cases raised : host.raises state client.uploadArgs (some data) with
  | some ended =>
      rcases ended with ⟨exc, reached⟩
      have isUpload : (client.backend host).upload state data =
          (.error exc, reached) := by
        show ((client.run host client.uploadArgs (some data) state).1 >>=
            SidecarClient.readUpload,
          (client.run host client.uploadArgs (some data) state).2) = _
        rw [SidecarClient.run, raised]
        rfl
      left
      rw [isUpload]
      exact ⟨⟨exc, rfl⟩, (store.raising _ _ _ _ _ raised).1⟩
  | none =>
      by_cases noData : data = []
      · subst noData
        have key := option_last [] "key" client.privateKey
          [("evm", client.evmRpc), ("indexer", client.indexerRpc)] (by simp)
        rw [if_neg client.hasKey] at key
        have isMain : main host.sdk client.uploadArgs [] state =
            (fatal [] "" "no stdin data", state) := by
          show cmdUpload host.sdk (parseArgs client.uploadArgs.tail) [] state =
            _
          rw [cmdUpload, show parseArgs client.uploadArgs.tail =
            [] ++ ("key", client.privateKey) :: [("evm", client.evmRpc),
              ("indexer", client.indexerRpc)] from rfl, key]
          rfl
        have isUpload : (client.backend host).upload state [] =
            (.error (client.failure client.uploadArgs
              (fatal [] "" "no stdin data")), state) := by
          show ((client.run host client.uploadArgs (some []) state).1 >>=
              SidecarClient.readUpload,
            (client.run host client.uploadArgs (some []) state).2) = _
          rw [run_of_starts client host raised, Option.getD_some, isMain]
          rfl
        left
        rw [isUpload]
        exact ⟨⟨_, rfl⟩, fun _ _ found => found⟩
      · exact Or.inr ⟨noData, rfl⟩

/-- A request to download raises, or asks for nothing, or asks the SDK. -/
theorem download_cases (state : host.sdk.State) (root : String) :
    (∃ exc, ((client.backend host).download state root).1 = .error exc) ∧
        store.contents ((client.backend host).download state root).2 =
          store.contents state ∨
      root ≠ "" ∧ host.raises state (client.downloadArgs root) none = none := by
  have isDownload : (client.backend host).download state root =
      client.run host (client.downloadArgs root) none state := rfl
  cases raised : host.raises state (client.downloadArgs root) none with
  | some ended =>
      rcases ended with ⟨exc, reached⟩
      have isRun : client.run host (client.downloadArgs root) none state =
          (.error exc, reached) := by
        rw [SidecarClient.run, raised]
      left
      rw [isDownload, isRun]
      exact ⟨⟨exc, rfl⟩, (store.raising _ _ _ _ _ raised).2 rfl⟩
  | none =>
      by_cases noRoot : root = ""
      · subst noRoot
        have given := option_last [] "root" ""
          [("indexer", client.indexerRpc)] (by simp)
        rw [if_pos rfl] at given
        have isMain : main host.sdk (client.downloadArgs "") [] state =
            (fatal [] "" "--root required", state) := by
          show cmdDownload host.sdk (parseArgs (client.downloadArgs "").tail)
            state = _
          rw [cmdDownload, show parseArgs (client.downloadArgs "").tail =
            [] ++ ("root", "") :: [("indexer", client.indexerRpc)] from rfl,
            given]
        have isRun : client.run host (client.downloadArgs "") none state =
            (.error (client.failure (client.downloadArgs "")
              (fatal [] "" "--root required")), state) := by
          rw [run_of_starts client host raised, Option.getD_none, isMain]
          rfl
        left
        rw [isDownload, isRun]
        exact ⟨⟨_, rfl⟩, rfl⟩
      · exact Or.inr ⟨noRoot, rfl⟩

theorem marked_withMark (root : String) :
    marked (ZeroGStorageClient.withMark root) = marked root := by
  by_cases isMarked : startsWith root "0x" = true
  · rw [ZeroGStorageClient.withMark, if_pos isMarked]
  · have isSame : marked root = "0x" ++ root := by
      rw [marked, if_neg isMarked]
    rw [ZeroGStorageClient.withMark, if_neg isMarked, isSame]
    exact withMark_marked root

/-- What the storage code may rely on. -/
def flakyStore : FlakyStore (client.backend host) where
  contents := fun state root => store.contents state (marked root)
  kept := by
    intro state data root blob found
    rcases store.upload_cases state data with ⟨_, kept⟩ | ⟨hasData, starts⟩
    · exact kept _ _ found
    · rw [(upload_through_sidecar client host state hasData starts
        (store.ends _ _) (store.lines _ _)).2.2]
      exact store.kept _ _ _ _ found
  stored := by
    intro state data result root uploaded isRoot
    rcases store.upload_cases state data with
      ⟨⟨exc, failed⟩, _⟩ | ⟨hasData, starts⟩
    · rw [failed] at uploaded
      cases uploaded
    · have through := upload_through_sidecar client host state hasData starts
        (store.ends _ _) (store.lines _ _)
      rcases (through.1 result).mp uploaded with
        ⟨given, tx, gives, _, isResult⟩
      rw [isResult] at isRoot
      cases isRoot
      rw [through.2.2, marked_withMark]
      exact store.stored _ _ _ _ gives
  reading := by
    intro state root
    have unchanged : store.contents
        ((client.backend host).download state root).2 =
          store.contents state := by
      rcases store.download_cases state root with ⟨_, same⟩ | ⟨isRoot, starts⟩
      · exact same
      · rcases (download_through_sidecar client host state isRoot
          starts).2.2 with ⟨attempts, _, _, isLast⟩
        rw [isLast]
        exact store.contents_attempts (marked root) attempts
    rw [unchanged]
  fetched := by
    intro state root blob raw found downloaded
    rcases store.download_cases state root with
      ⟨⟨exc, failed⟩, _⟩ | ⟨isRoot, starts⟩
    · rw [failed] at downloaded
      cases downloaded
    · rcases ((download_through_sidecar client host state isRoot
        starts).1 raw).mp downloaded with ⟨attempts, _, bytes, finds, isRaw⟩
      have nothing := store.printed_nil state (marked root) attempts
      rw [isRaw]
      show printedUpTo host.sdk client.indexer (marked root) state attempts ++
        bytes = blob
      rw [nothing, List.nil_append]
      refine store.fetched _ (marked root) blob bytes ?_ finds.1
      exact (congrFun (store.contents_attempts (marked root) attempts)
        (marked root)).trans found

end SdkStore

end Stores

end SwarmFi.Core.Storage

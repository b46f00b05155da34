import SwarmFi.Core.Storage.Durable
import SwarmFi.Foundation.EventLoop

/-!
# What is uploaded is downloaded

Uploads, downloads and flushes of one client in any interleaving, over the
in-memory or the buffered backend.  Both keep what they are given at once:
an upload is one step, and a download of a root it returned is another.
-/

namespace SwarmFi.Core.Storage

open Foundation Python

inductive ClientCall where
  | upload (data : Bytes)
  | download (rootHash : String)
  | flush

inductive ClientAnswer where
  | uploaded (result : UploadResult)
  | downloaded (data : Bytes)
  | flushed (root : Option String)

def ClientCall.program (client : ZeroGClient) :
    ClientCall → Steps ClientAnswer
  | .upload data => do return .uploaded (← client.upload data)
  | .download rootHash => do return .downloaded (← client.download rootHash)
  | .flush => do return .flushed (← client.flush)

abbrev StorageLoop (α : Type) (live : LiveBackend) :=
  EventLoop StorageVocabulary Exception α (World live)

variable {live : LiveBackend} {sources : Sources} {client : ZeroGClient}

/-- Over a local backend an upload is a single step. -/
theorem program_upload
    (offline : client.backend ≠ .live) {data framed : Bytes}
    (ok : frame data = .ok framed) :
    (ClientCall.upload data).program client =
      .call (.keepBlob framed) fun _ =>
        .done (.uploaded {
          rootHash := Sha256.hexdigest framed
          txHash := none
          sizeBytes := framed.length }) := by
  simp only [ClientCall.program, ZeroGClient.upload, ok,
    Program.bind_eq_bind, Program.ofExcept_ok, Program.done_bind]
  cases kind : client.backend with
  | inMemory => rfl
  | buffered => rfl
  | live => exact absurd kind offline

theorem program_upload_error
    {data : Bytes} {exc : Exception} (failed : frame data = .error exc) :
    (ClientCall.upload data).program client = .raise exc := by
  simp only [ClientCall.program, ZeroGClient.upload, failed,
    Program.bind_eq_bind, Program.ofExcept_error, Program.raise_bind]

/-- Over a local backend a download of what is there is a single step. -/
theorem program_download
    (live : LiveBackend) (offline : client.backend ≠ .live) (asked : String) :
    ∃ next, (ClientCall.download asked).program client =
        .call .blobs next ∧
      ∀ (world : World live) root data, world.Keeps root data →
        (asked = root ∨ asked = "0x" ++ root) →
          next world.blobs = .done (.downloaded data) := by
  have found :
      ∀ (world : World live) root data, world.Keeps root data →
        (asked = root ∨ asked = "0x" ++ root) →
          ∃ framed, framed ≠ [] ∧ unframe framed = data ∧
            world.blobs.get? (removePrefix asked "0x") = some framed := by
    rintro world root data ⟨framed, _, ok, rfl, kept⟩ isAsked
    have key : removePrefix asked "0x" = Sha256.hexdigest framed := by
      rcases isAsked with rfl | rfl
      · exact removePrefix_hexdigest framed
      · exact removePrefix_marked _
    exact ⟨framed, frame_ne_nil ok, unframe_frame ok, key ▸ kept⟩
  simp only [ClientCall.program, ZeroGClient.download,
    Program.bind_eq_bind]
  cases kind : client.backend with
  | inMemory =>
      refine ⟨_, rfl, ?_⟩
      intro world root data keeps isAsked
      obtain ⟨framed, notEmpty, unframed, kept⟩ :=
        found world root data keeps isAsked
      simp only [InMemoryStore.firstTruthy, kept, if_neg notEmpty,
        Program.done_bind, ← unframed]
      rfl
  | buffered =>
      refine ⟨_, rfl, ?_⟩
      intro world root data keeps isAsked
      obtain ⟨framed, _, unframed, kept⟩ :=
        found world root data keeps isAsked
      simp only [kept, Program.done_bind, ← unframed]
      rfl
  | live => exact absurd kind offline

/-! ## The invariants of a run -/

/-- What an ended upload returned is kept under its root. -/
def UploadsKept
    (client : ZeroGClient) (calls : List ClientCall)
    (loop : StorageLoop ClientAnswer live) : Prop :=
  ∀ (index : Nat) (data : Bytes)
    (task : Task StorageVocabulary Exception ClientAnswer),
    calls[index]? = some (ClientCall.upload data) →
    loop.tasks[index]? = some task →
      task.rest = (ClientCall.upload data).program client ∨
        ∃ result, task.rest = .done (.uploaded result) ∧
          loop.shared.Keeps result.rootHash data

/-- A download begun now returns the bytes, and has not failed to. -/
def DownloadsReturn
    (client : ZeroGClient) (asked : String) (data : Bytes)
    (downloader : Nat) (loop : StorageLoop ClientAnswer live) : Prop :=
  ∀ task : Task StorageVocabulary Exception ClientAnswer,
    loop.tasks[downloader]? = some task →
    task.history = [] ∧
        task.rest = (ClientCall.download asked).program client ∨
      task.rest = .done (.downloaded data)

abbrev StorageRun (sources : Sources) {α : Type}
    (first last : StorageLoop α live) : Prop :=
  EventLoop.Reaches (environment live sources) StorageCall.suspends
    first last

/-- Every step keeps what was kept, where no two blobs collide. -/
theorem keeps_of_run
    (offline : client.backend ≠ .live) {α : Type}
    {first last : StorageLoop α live}
    (run : StorageRun sources first last)
    (collisionFree : CollisionFree last.shared.kept) :
    CollisionFree first.shared.kept ∧
      ∀ root data, first.shared.Keeps root data →
        last.shared.Keeps root data := by
  have durable := durable_local live sources offline
  refine run.shared_related
    (fun before after : World live =>
      CollisionFree after.kept →
        CollisionFree before.kept ∧ ∀ root data,
          before.Keeps root data → after.Keeps root data)
    ?_ ?_ ?_ collisionFree
  · exact fun _ free => ⟨free, fun _ _ keeps => keeps⟩
  · intro before middle after earlier later free
    obtain ⟨middleFree, laterKeeps⟩ := later free
    obtain ⟨beforeFree, earlierKeeps⟩ := earlier middleFree
    exact ⟨beforeFree, fun root data keeps =>
      laterKeeps root data (earlierKeeps root data keeps)⟩
  · intro world request free
    exact ⟨durable.before world request free, fun root data keeps =>
      durable.stays world request root data free keeps⟩

theorem uploadsKept_of_run
    (offline : client.backend ≠ .live) (calls : List ClientCall)
    (state : live.State) {last : StorageLoop ClientAnswer live}
    (run : StorageRun sources
      (.start (calls.map (ClientCall.program client)) (.boot state)) last)
    (collisionFree : CollisionFree last.shared.kept) :
    UploadsKept client calls last := by
  have durable := durable_local live sources offline
  refine run.invariant
    (motive := fun loop => CollisionFree loop.shared.kept →
      UploadsKept client calls loop) ?_ ?_ collisionFree
  · intro loop index history request next at_ _ soFar free
    rw [EventLoop.event_of_call at_] at free ⊢
    have earlierFree := durable.before _ _ free
    intro tested data task isUpload found
    simp only [List.getElem?_set] at found
    split at found
    · next same =>
        subst same
        split at found
        · cases found
          rcases soFar earlierFree index data _ isUpload at_ with
            notBegun | ⟨result, ended, _⟩
          · cases framed : frame data with
            | error exc =>
                rw [program_upload_error framed] at notBegun
                cases notBegun
            | ok blob =>
                rw [program_upload offline framed] at notBegun
                cases notBegun
                exact Or.inr ⟨_, rfl, loop.shared.keeps_keep framed⟩
          · cases ended
        · cases found
    · rcases soFar earlierFree tested data task isUpload found with
        notBegun | ⟨result, ended, keeps⟩
      · exact Or.inl notBegun
      · exact Or.inr ⟨result, ended, durable.stays _ _ _ _ free keeps⟩
  · intro _ index data task isUpload found
    rw [EventLoop.getElem?_start, List.getElem?_map, isUpload] at found
    cases found
    exact Or.inl rfl

theorem downloadsReturn_of_run
    (offline : client.backend ≠ .live)
    {first last : StorageLoop ClientAnswer live}
    (run : StorageRun sources first last)
    (collisionFree : CollisionFree last.shared.kept)
    {root : String} {data : Bytes} (keeps : first.shared.Keeps root data)
    {asked : String} (isAsked : asked = root ∨ asked = "0x" ++ root)
    {downloader : Nat}
    (begun : DownloadsReturn client asked data downloader first) :
    DownloadsReturn client asked data downloader last := by
  have durable := durable_local live sources offline
  obtain ⟨next, isCall, returns⟩ :=
    program_download live offline asked
  refine (run.invariant
    (motive := fun loop => CollisionFree loop.shared.kept →
      loop.shared.Keeps root data ∧
        DownloadsReturn client asked data downloader loop) ?_
    (fun _ => ⟨keeps, begun⟩) collisionFree).2
  intro loop index history request rest at_ _ soFar free
  rw [EventLoop.event_of_call at_] at free ⊢
  obtain ⟨kept, returned⟩ := soFar (durable.before _ _ free)
  refine ⟨durable.stays _ _ _ _ free kept, ?_⟩
  intro task found
  simp only [List.getElem?_set] at found
  split at found
  · next same =>
      subst same
      split at found
      · cases found
        rcases returned _ at_ with ⟨_, notBegun⟩ | ended
        · rw [isCall] at notBegun
          cases notBegun
          exact Or.inr (returns loop.shared root data kept isAsked)
        · cases ended
      · cases found
  · exact returned task found

/-- In every interleaving of uploads, downloads and flushes, a download that
begins after an upload has returned a root returns exactly the bytes of that
upload, at once. -/
theorem download_returns_upload
    (offline : client.backend ≠ .live) (calls : List ClientCall)
    (state : live.State) {before after : StorageLoop ClientAnswer live}
    (reached : StorageRun sources
      (.start (calls.map (ClientCall.program client)) (.boot state)) before)
    (later : StorageRun sources before after)
    (collisionFree : CollisionFree after.shared.kept)
    {uploader : Nat} {data : Bytes}
    (isUpload : calls[uploader]? = some (.upload data))
    {uploaded : Task StorageVocabulary Exception ClientAnswer}
    (uploadAt : before.tasks[uploader]? = some uploaded)
    {result : UploadResult}
    (completed : uploaded.rest = .done (.uploaded result))
    {downloader : Nat} {asked : String}
    (asksFor : asked = result.rootHash ∨ asked = "0x" ++ result.rootHash)
    (notBegun : before.tasks[downloader]? =
      some ⟨[], (ClientCall.download asked).program client⟩)
    {task : Task StorageVocabulary Exception ClientAnswer}
    (found : after.tasks[downloader]? = some task) :
    task.history = [] ∧
        task.rest = (ClientCall.download asked).program client ∨
      task.rest = .done (.downloaded data) := by
  have earlierFree := (keeps_of_run offline later collisionFree).1
  have keeps : before.shared.Keeps result.rootHash data := by
    rcases uploadsKept_of_run offline calls state reached earlierFree
        uploader data uploaded isUpload uploadAt with
      same | ⟨other, ended, kept⟩
    · rw [completed] at same
      cases framed : frame data with
      | error exc =>
          rw [program_upload_error framed] at same
          cases same
      | ok blob =>
          rw [program_upload offline framed] at same
          cases same
    · rw [completed] at ended
      cases ended
      exact kept
  refine downloadsReturn_of_run offline later collisionFree keeps asksFor
    ?_ task found
  intro begun at_
  rw [notBegun] at at_
  cases at_
  exact Or.inl ⟨rfl, rfl⟩

/-- A sidecar that cannot be run. -/
def downBackend : LiveBackend where
  State := Unit
  upload := fun state _ =>
    (.error ⟨.runtimeError, "zg-sidecar failed (code 1)"⟩, state)
  download := fun state _ =>
    (.error ⟨.runtimeError, "zg-sidecar failed (code 1)"⟩, state)

/-- A clock that stands still, and UUIDs with a number each. -/
def plainSources : Sources where
  clock := fun _ => "2026-05-01T12:00:00+00:00"
  uuids := fun drawn =>
    "00000000-0000-4000-8000-" ++ toString (100000000000 + drawn)

/-- The frame of two bytes, the second of them NUL. -/
def framedPair : Bytes :=
  [0, 0, 0, 2, 7, 0] ++ List.replicate 250 0

/-- The two bytes are uploaded, a flush fails, the root is downloaded. -/
def failedFlushCalls : List ClientCall :=
  [.upload [7, 0], .flush, .download ("0x" ++ Sha256.hexdigest framedPair)]

def failedFlushStart : StorageLoop ClientAnswer downBackend :=
  .start (failedFlushCalls.map (ClientCall.program ⟨.buffered⟩)) (.boot ())

def failedFlushUploaded : StorageLoop ClientAnswer downBackend :=
  failedFlushStart.play (environment downBackend plainSources)
    StorageCall.suspends [0]

def failedFlushEnd : StorageLoop ClientAnswer downBackend :=
  failedFlushUploaded.play (environment downBackend plainSources)
    StorageCall.suspends [1, 1, 1, 2]

theorem download_returns_upload_after_failed_flush :
    ∃ task, failedFlushEnd.tasks[2]? = some task ∧
      task.rest = .done (.downloaded [7, 0]) := by
  have alone : failedFlushEnd.shared.kept = [framedPair] := rfl
  have collisionFree : CollisionFree failedFlushEnd.shared.kept := by
    rw [alone]
    intro first firstKept second secondKept _
    rw [List.mem_singleton.mp firstKept, List.mem_singleton.mp secondKept]
  refine ⟨_, rfl, ?_⟩
  have reached : StorageRun plainSources failedFlushStart
      failedFlushUploaded := EventLoop.reaches_play _ _
  have later : StorageRun plainSources failedFlushUploaded
      failedFlushEnd := EventLoop.reaches_play _ _
  have isUpload : failedFlushCalls[0]? = some (.upload [7, 0]) := rfl
  have notBegun : failedFlushUploaded.tasks[2]? =
      some ⟨[], (ClientCall.download
        ("0x" ++ Sha256.hexdigest framedPair)).program ⟨.buffered⟩⟩ := rfl
  rcases download_returns_upload (by decide) failedFlushCalls () reached
      later collisionFree isUpload rfl rfl (Or.inr rfl) notBegun rfl with
    ⟨nothing, _⟩ | ended
  · cases nothing
  · exact ended

end SwarmFi.Core.Storage

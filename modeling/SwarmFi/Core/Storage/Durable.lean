import SwarmFi.Core.Storage.Client

/-!
# Clients that keep what they are given

What the layers above rely on: bytes that were uploaded under a root are
downloaded from it ever after.  `Durable` says so of a client with any
backend.  The in-memory and the buffered backend are durable as long as no
two blobs that were stored share a SHA-256; the live one is when what is
behind the sidecar is addressed by content.
-/

namespace SwarmFi.Core.Storage

open Foundation Python

/-! ## Frames -/

theorem frame_eq_ok
    {data framed : Bytes} (ok : frame data = .ok framed) :
    ∃ size padding, size.length = 4 ∧ fromBytes size = data.length ∧
      framed = size ++ data ++ padding ∧
        zgMinUploadBytes ≤ framed.length := by
  obtain ⟨size, sized, rest⟩ := (bind_eq_ok_iff _ _ _).mp ok
  obtain ⟨four, value⟩ := toBytes4_eq_ok sized
  simp only [pure, Except.pure] at rest
  split at rest
  · next short =>
      cases rest
      exact ⟨size, _, four, value, rfl, by
        rw [List.length_append, List.length_replicate]
        omega⟩
  · next long =>
      cases rest
      exact ⟨size, [], four, value, (List.append_nil _).symm, by omega⟩

/-- The length in front of a frame finds the data again, whatever it is. -/
theorem unframe_frame
    {data framed : Bytes} (ok : frame data = .ok framed) :
    unframe framed = data := by
  obtain ⟨size, padding, four, value, rfl, _⟩ := frame_eq_ok ok
  have front : (size ++ data ++ padding).take 4 = size := by
    rw [List.append_assoc, List.take_left' four]
  have back : (size ++ data ++ padding).drop 4 = data ++ padding := by
    rw [List.append_assoc, List.drop_left' four]
  have enough : ¬ (size ++ data ++ padding).length < 4 := by
    rw [List.length_append, List.length_append]
    omega
  simp only [unframe, if_neg enough, front, back, value,
    List.take_left' rfl, ne_eq, not_true_eq_false, if_false]

theorem frame_ne_nil
    {data framed : Bytes} (ok : frame data = .ok framed) :
    framed ≠ [] := by
  obtain ⟨_, _, _, _, _, long⟩ := frame_eq_ok ok
  rintro rfl
  exact absurd long (by decide)

theorem eq_of_frame
    {first second framed : Bytes}
    (firstOk : frame first = .ok framed)
    (secondOk : frame second = .ok framed) : first = second :=
  (unframe_frame firstOk).symm.trans (unframe_frame secondOk)

/-! ## Roots -/

/-- A SHA-256 does not begin with the mark of the sidecar's roots. -/
theorem hexdigest_unmarked (data : Bytes) :
    afterStart "0x".toList (Sha256.hexdigest data).toList = none := by
  rw [Option.eq_none_iff_forall_ne_some]
  intro rest marked
  exact hex_not_prefixed _ rest ((afterStart_mark _ _).mp marked)

theorem afterStart_marked (root : String) :
    afterStart "0x".toList ("0x" ++ root).toList = some root.toList :=
  (afterStart_mark _ _).mpr (by rw [String.toList_append]; rfl)

@[simp]
theorem removePrefix_hexdigest (data : Bytes) :
    removePrefix (Sha256.hexdigest data) "0x" = Sha256.hexdigest data := by
  rw [removePrefix, hexdigest_unmarked]

@[simp]
theorem removePrefix_marked (root : String) :
    removePrefix ("0x" ++ root) "0x" = root := by
  rw [removePrefix, afterStart_marked]
  exact String.ofList_toList

@[simp]
theorem withMark_hexdigest (data : Bytes) :
    ZeroGStorageClient.withMark (Sha256.hexdigest data) =
      "0x" ++ Sha256.hexdigest data := by
  rw [ZeroGStorageClient.withMark, startsWith, hexdigest_unmarked]
  rfl

@[simp]
theorem withMark_marked (root : String) :
    ZeroGStorageClient.withMark ("0x" ++ root) = "0x" ++ root := by
  rw [ZeroGStorageClient.withMark, startsWith, afterStart_marked]
  rfl

/-! ## Local blobs -/

/-- No two of the blobs share a SHA-256. -/
def CollisionFree (blobs : List Bytes) : Prop :=
  ∀ first ∈ blobs, ∀ second ∈ blobs,
    Sha256.hexdigest first = Sha256.hexdigest second → first = second

instance (blobs : List Bytes) : Decidable (CollisionFree blobs) :=
  inferInstanceAs (Decidable (∀ first ∈ blobs, ∀ second ∈ blobs,
    Sha256.hexdigest first = Sha256.hexdigest second → first = second))

section World

variable {live : LiveBackend} {sources : Sources}

/-- The bytes have been uploaded at some time. -/
def World.Uploaded (world : World live) (data : Bytes) : Prop :=
  ∃ framed ∈ world.kept, frame data = .ok framed

/-- The bytes are there under the root. -/
def World.Keeps (world : World live) (root : String) (data : Bytes) : Prop :=
  ∃ framed ∈ world.kept, frame data = .ok framed ∧
    root = Sha256.hexdigest framed ∧ world.blobs.get? root = some framed

theorem World.Keeps.uploaded
    {world : World live} {root : String} {data : Bytes}
    (keeps : world.Keeps root data) : world.Uploaded data := by
  obtain ⟨framed, kept, ok, _⟩ := keeps
  exact ⟨framed, kept, ok⟩

theorem World.not_uploaded_nil
    {world : World live}
    (notEmpty : ∀ framed ∈ world.kept, unframe framed ≠ []) :
    ¬ world.Uploaded [] := by
  rintro ⟨framed, kept, ok⟩
  exact notEmpty framed kept (unframe_frame ok)

theorem World.keeps_keep
    (world : World live) {data framed : Bytes}
    (ok : frame data = .ok framed) :
    (world.keep framed).Keeps (Sha256.hexdigest framed) data :=
  ⟨framed, List.mem_append_right _ List.mem_cons_self, ok, rfl,
    Mapping.get?_set_self _ _ _⟩

/-- Another blob does not displace it, where no two collide. -/
theorem World.Keeps.keep
    {world : World live} {root : String} {data : Bytes}
    (keeps : world.Keeps root data) (blob : Bytes)
    (collisionFree : CollisionFree (world.keep blob).kept) :
    (world.keep blob).Keeps root data := by
  obtain ⟨framed, kept, ok, isRoot, found⟩ := keeps
  have stillKept : framed ∈ (world.keep blob).kept :=
    List.mem_append_left _ kept
  have blobKept : blob ∈ (world.keep blob).kept :=
    List.mem_append_right _ List.mem_cons_self
  refine ⟨framed, stillKept, ok, isRoot, ?_⟩
  show (world.blobs.set (Sha256.hexdigest blob) blob).get? root = _
  by_cases same : root = Sha256.hexdigest blob
  · have sameBlob : framed = blob :=
      collisionFree framed stillKept blob blobKept (isRoot ▸ same)
    rw [same, Mapping.get?_set_self, sameBlob]
  · rw [Mapping.get?_set_of_ne _ same, found]

/-! ## Running a client -/

/-- An upload through a local backend. -/
theorem run_upload_local
    {client : ZeroGClient} (offline : client.backend ≠ .live)
    (data : Bytes) (world : World live) :
    (client.upload data).run (environment live sources) world =
      match frame data with
      | .ok framed =>
          (.ok {
            rootHash := Sha256.hexdigest framed
            txHash := none
            sizeBytes := framed.length }, world.keep framed)
      | .error exc => (.error exc, world) := by
  rw [ZeroGClient.upload, Program.bind_eq_bind, Program.run_bind,
    Program.run_ofExcept]
  cases frame data with
  | error exc => rfl
  | ok framed =>
      obtain ⟨backend⟩ := client
      cases backend with
      | inMemory => rfl
      | buffered => rfl
      | live => exact absurd rfl offline

/-- A download of what a local backend has under the root, with the mark of
the sidecar's roots or without. -/
theorem run_download_local
    {client : ZeroGClient} (offline : client.backend ≠ .live)
    {world : World live} {root : String} {data : Bytes}
    (keeps : world.Keeps root data) {asked : String}
    (isAsked : asked = root ∨ asked = "0x" ++ root) :
    (client.download asked).run (environment live sources) world =
      (.ok data, world) := by
  obtain ⟨framed, _, ok, rfl, found⟩ := keeps
  have key : removePrefix asked "0x" = Sha256.hexdigest framed := by
    rcases isAsked with rfl | rfl
    · exact removePrefix_hexdigest framed
    · exact removePrefix_marked _
  have fetched :
      (client.backend.download asked).run (environment live sources)
          world = (.ok framed, world) := by
    cases kind : client.backend with
    | inMemory =>
        simp only [Backend.download, InMemoryStore.download, ask,
          Program.bind_eq_bind, Program.run_bind, Program.run_call,
          Program.run_done, environment, key, found,
          InMemoryStore.firstTruthy, if_neg (frame_ne_nil ok)]
        rfl
    | buffered =>
        simp only [Backend.download, BufferedStore.download, ask,
          Program.bind_eq_bind, Program.run_bind, Program.run_call,
          Program.run_done, environment, key, found]
        rfl
    | live => exact absurd kind offline
  rw [ZeroGClient.download, Program.bind_eq_bind,
    Program.run_bind_of_ok _ fetched, ← unframe_frame ok]
  rfl

/-! ## Durable clients -/

/-- What a call may change: the `SwarmKV` objects that it may write to, and
whether it may store bytes. -/
def StorageCall.Within (kvs : KvId → Prop) (stores : Prop) :
    StorageCall → Prop
  | .keepBlob _ => stores
  | .keepSnapshot _ _ => stores
  | .sidecarUpload _ => stores
  | .assign kv _ _ => kvs kv
  | .remove kv _ => kvs kv
  | .setManifest kv _ => kvs kv
  | .setManifestRoot kv _ => kvs kv
  | _ => True

/-- What is uploaded stays where it is.  `sound` is what has to hold of a
world for that, and `holds` tells what is under a root. -/
structure Durable
    (sources : Sources) (client : ZeroGClient)
    (sound : World live → Prop)
    (holds : World live → String → Bytes → Prop) : Prop where
  before : ∀ world request,
    sound (environment live sources world request).2 → sound world
  calm : ∀ kvs world request, request.Within kvs False →
    sound world → sound (environment live sources world request).2
  nothingNew : ∀ kvs world request root data,
    request.Within kvs False →
      holds (environment live sources world request).2 root data →
        holds world root data
  stays : ∀ world request root data,
    sound (environment live sources world request).2 →
      holds world root data →
        holds (environment live sources world request).2 root data
  upload : ∀ world reached data result,
    (client.upload data).run (environment live sources) world =
        (.ok result, reached) →
      holds reached result.rootHash data
  download : ∀ world root data, holds world root data →
    ((client.download root).run (environment live sources) world).1 =
      .ok data

theorem durable_local
    (live : LiveBackend) (sources : Sources) {client : ZeroGClient}
    (offline : client.backend ≠ .live) :
    Durable sources client
      (fun world : World live => CollisionFree world.kept)
      World.Keeps where
  before := by
    intro world request sound
    cases request with
    | keepBlob data =>
        intro first firstKept second secondKept
        exact sound first (List.mem_append_left _ firstKept) second
          (List.mem_append_left _ secondKept)
    | assign kv key root =>
        simp only [environment, World.changeManifest] at sound
        split at sound <;> exact sound
    | remove kv key =>
        simp only [environment, World.changeManifest] at sound
        split at sound <;> exact sound
    | _ => exact sound
  calm := by
    intro kvs world request within sound
    cases request with
    | keepBlob data => exact within.elim
    | assign kv key root =>
        simp only [environment, World.changeManifest]
        split <;> exact sound
    | remove kv key =>
        simp only [environment, World.changeManifest]
        split <;> exact sound
    | _ => exact sound
  nothingNew := by
    intro kvs world request root data within keeps
    cases request with
    | keepBlob data => exact within.elim
    | assign kv key root =>
        simp only [environment, World.changeManifest] at keeps
        split at keeps <;> exact keeps
    | remove kv key =>
        simp only [environment, World.changeManifest] at keeps
        split at keeps <;> exact keeps
    | _ => exact keeps
  stays := by
    intro world request root data sound keeps
    cases request with
    | keepBlob blob => exact keeps.keep blob sound
    | assign kv key root =>
        simp only [environment, World.changeManifest]
        split <;> exact keeps
    | remove kv key =>
        simp only [environment, World.changeManifest]
        split <;> exact keeps
    | _ => exact keeps
  upload := by
    intro world reached data result finished
    rw [run_upload_local offline] at finished
    cases framed : frame data with
    | error exc =>
        rw [framed] at finished
        cases finished
    | ok blob =>
        rw [framed] at finished
        cases finished
        exact world.keeps_keep framed
  download := by
    intro world root data keeps
    rw [run_download_local offline keeps (Or.inl rfl)]

/-! ## The live backend -/

/-- What is behind the sidecar keeps the bytes that were uploaded under a
root.  What it answers to a download is left open. -/
structure BlobStore (live : LiveBackend) where
  contents : live.State → String → Option Bytes
  kept : ∀ state data root blob, contents state root = some blob →
    contents (live.upload state data).2 root = some blob
  stored : ∀ state data result root,
    (live.upload state data).1 = .ok result →
      result.rootHash = some root →
        contents (live.upload state data).2
          (ZeroGStorageClient.withMark root) = some data
  reading : ∀ state root,
    contents (live.download state root).2 = contents state

/-- The bytes are there under a root of the sidecar's. -/
def BlobStore.Holds
    (store : BlobStore live) (world : World live) (root : String)
    (data : Bytes) : Prop :=
  ∃ framed, frame data = .ok framed ∧
    store.contents world.live (ZeroGStorageClient.withMark root) =
      some framed

/-- What it has stored it keeps. -/
theorem BlobStore.contents_stays
    (store : BlobStore live) {world : World live} {root : String}
    {blob : Bytes} (found : store.contents world.live root = some blob)
    (request : StorageCall) :
    store.contents (environment live sources world request).2.live root =
      some blob := by
  cases request with
  | sidecarUpload data => exact store.kept _ _ _ _ found
  | sidecarDownload asked =>
      show store.contents (live.download world.live asked).2 _ = _
      rw [store.reading]
      exact found
  | assign kv key root =>
      simp only [environment, World.changeManifest]
      split <;> exact found
  | remove kv key =>
      simp only [environment, World.changeManifest]
      split <;> exact found
  | _ => exact found

theorem BlobStore.Holds.stays
    {store : BlobStore live} {world : World live} {root : String}
    {data : Bytes} (held : store.Holds world root data)
    (request : StorageCall) :
    store.Holds (environment live sources world request).2 root data := by
  obtain ⟨framed, ok, found⟩ := held
  exact ⟨framed, ok, store.contents_stays found request⟩

/-- The root gives these bytes. -/
def BlobStore.Yields
    (store : BlobStore live) (world : World live) (root : String)
    (raw : Bytes) : Prop :=
  ∃ blob,
    store.contents world.live (ZeroGStorageClient.withMark root) =
        some blob ∧
      unframe blob = raw

theorem BlobStore.Yields.stays
    {store : BlobStore live} {world : World live} {root : String}
    {raw : Bytes} (yields : store.Yields world root raw)
    (request : StorageCall) :
    store.Yields (environment live sources world request).2 root raw := by
  obtain ⟨blob, found, isRaw⟩ := yields
  exact ⟨blob, store.contents_stays found request, isRaw⟩

/-- What is behind the sidecar returns exactly the bytes that were uploaded
under a root. -/
structure ContentStore (live : LiveBackend) extends BlobStore live where
  fetched : ∀ state root blob, contents state root = some blob →
    (live.download state root).1 = .ok blob
  missing : ∀ state root, contents state root = none →
    ∃ exc, (live.download state root).1 = .error exc

theorem BlobStore.Yields.run_download
    {store : ContentStore live} {world : World live} {root : String}
    {raw : Bytes} (yields : store.Yields world root raw)
    (sources : Sources) :
    ∃ reached,
      ((⟨.live⟩ : ZeroGClient).download root).run
          (environment live sources) world = (.ok raw, reached) := by
  obtain ⟨blob, found, isRaw⟩ := yields
  refine ⟨_, Prod.ext ?_ rfl⟩
  simp only [ZeroGClient.download, Backend.download,
    ZeroGStorageClient.download, ask, Program.bind_eq_bind,
    Program.run_bind, Program.run_call, Program.run_done,
    Program.run_ofExcept, environment, store.fetched _ _ _ found, ← isRaw]
  rfl

theorem ContentStore.yields_of_run
    (store : ContentStore live) {world reached : World live}
    {root : String} {raw : Bytes}
    (downloaded :
      ((⟨.live⟩ : ZeroGClient).download root).run
          (environment live sources) world = (.ok raw, reached)) :
    store.Yields world root raw := by
  simp only [ZeroGClient.download, Backend.download,
    ZeroGStorageClient.download, ask, Program.bind_eq_bind,
    Program.run_bind, Program.run_call, Program.run_done,
    Program.run_ofExcept, environment] at downloaded
  cases found : store.contents world.live
      (ZeroGStorageClient.withMark root) with
  | none =>
      obtain ⟨exc, failed⟩ := store.missing _ _ found
      rw [failed] at downloaded
      cases downloaded
  | some blob =>
      rw [store.fetched _ _ _ found] at downloaded
      cases downloaded
      exact ⟨blob, found, rfl⟩

theorem BlobStore.Holds.yields
    {store : BlobStore live} {world : World live} {root : String}
    {data : Bytes} (held : store.Holds world root data) :
    store.Yields world root data := by
  obtain ⟨framed, ok, found⟩ := held
  exact ⟨framed, found, unframe_frame ok⟩

theorem uploadResult_eq_ok
    {data : Bytes} {answer : SidecarUpload} {result : UploadResult}
    (ok : ZeroGStorageClient.uploadResult data answer = .ok result) :
    answer.rootHash = some result.rootHash := by
  simp only [ZeroGStorageClient.uploadResult] at ok
  split at ok
  · cases ok
  · next named =>
      cases ok
      cases given : answer.rootHash with
      | none =>
          rw [given] at named
          exact absurd rfl named
      | some root => rfl

/-- A successful upload of the live client. -/
theorem run_liveUpload_eq_ok
    (store : BlobStore live) {data : Bytes} {world reached : World live}
    {result : UploadResult}
    (finished :
      (ZeroGStorageClient.upload data).run (environment live sources)
          world = (.ok result, reached)) :
    store.contents reached.live
      (ZeroGStorageClient.withMark result.rootHash) = some data := by
  simp only [ZeroGStorageClient.upload, ask, Program.bind_eq_bind,
    Program.run_bind, Program.run_call, Program.run_done,
    Program.run_ofExcept, environment] at finished
  cases answered : (live.upload world.live data).1 with
  | error exc =>
      rw [answered] at finished
      cases finished
  | ok answer =>
      rw [answered] at finished
      simp only at finished
      obtain ⟨ok, rfl⟩ := Prod.mk.inj finished
      exact store.stored _ _ _ _ answered (uploadResult_eq_ok ok)

/-- What an upload stores is there. -/
theorem BlobStore.holds_of_upload
    (store : BlobStore live) {data : Bytes} {world reached : World live}
    {result : UploadResult}
    (finished :
      ((⟨.live⟩ : ZeroGClient).upload data).run (environment live sources)
          world = (.ok result, reached)) :
    store.Holds reached result.rootHash data := by
  rw [ZeroGClient.upload, Program.bind_eq_bind, Program.run_bind,
    Program.run_ofExcept] at finished
  cases framed : frame data with
  | error exc =>
      rw [framed] at finished
      cases finished
  | ok blob =>
      rw [framed] at finished
      exact ⟨blob, framed, run_liveUpload_eq_ok store finished⟩

theorem durable_live
    (sources : Sources) (store : ContentStore live) :
    Durable sources ⟨.live⟩ (fun _ : World live => True)
      store.Holds where
  before := fun _ _ _ => trivial
  calm := fun _ _ _ _ _ => trivial
  nothingNew := by
    rintro kvs world request root data within ⟨framed, ok, found⟩
    refine ⟨framed, ok, ?_⟩
    cases request with
    | sidecarUpload data => exact within.elim
    | sidecarDownload asked =>
        rw [← store.reading world.live asked]
        exact found
    | assign kv key root =>
        simp only [environment, World.changeManifest] at found
        split at found <;> exact found
    | remove kv key =>
        simp only [environment, World.changeManifest] at found
        split at found <;> exact found
    | _ => exact found
  stays := fun _ request _ _ _ held => held.stays request
  upload := fun _ _ _ _ finished => store.holds_of_upload finished
  download := by
    intro world root data held
    obtain ⟨reached, downloaded⟩ := held.yields.run_download sources
    rw [downloaded]

/-! ## Any backend -/

/-- What a client has under a root. -/
def ZeroGClient.Holds
    (client : ZeroGClient)
    (store : client.backend = .live → BlobStore live)
    (world : World live) (root : String) (data : Bytes) : Prop :=
  if isLive : client.backend = .live then
    (store isLive).Holds world root data
  else
    world.Keeps root data

theorem holds_live (store : BlobStore live) :
    (⟨.live⟩ : ZeroGClient).Holds (fun _ => store) = store.Holds := by
  funext world root data
  rw [ZeroGClient.Holds, dif_pos rfl]

theorem holds_local {client : ZeroGClient}
    (offline : client.backend ≠ .live)
    (store : client.backend = .live → BlobStore live) :
    client.Holds store = World.Keeps := by
  funext world root data
  rw [ZeroGClient.Holds, dif_neg offline]

theorem durable_client
    (sources : Sources) (client : ZeroGClient)
    (store : client.backend = .live → ContentStore live) :
    Durable sources client
      (fun world : World live => CollisionFree world.kept)
      (client.Holds fun isLive => (store isLive).toBlobStore) := by
  by_cases isLive : client.backend = .live
  · obtain ⟨backend⟩ := client
    cases isLive
    have isHolds :
        (⟨.live⟩ : ZeroGClient).Holds
            (fun isLive => (store isLive).toBlobStore) =
          (store rfl).Holds :=
      holds_live (store rfl).toBlobStore
    have offline : (⟨.inMemory⟩ : ZeroGClient).backend ≠ .live := by
      decide
    have blobs := durable_local live sources offline
    have remote := durable_live sources (store rfl)
    rw [isHolds]
    exact {
      before := blobs.before
      calm := blobs.calm
      nothingNew := remote.nothingNew
      stays := fun world request root data _ =>
        remote.stays world request root data trivial
      upload := remote.upload
      download := remote.download }
  · rw [holds_local isLive]
    exact durable_local live sources isLive

/-! ## Clients whose downloads may fail -/

/-- What is uploaded stays where it is, whatever a download answers. -/
structure Storing
    (sources : Sources) (client : ZeroGClient)
    (sound : World live → Prop)
    (holds : World live → String → Bytes → Prop) : Prop where
  before : ∀ world request,
    sound (environment live sources world request).2 → sound world
  stays : ∀ world request root data,
    sound (environment live sources world request).2 →
      holds world root data →
        holds (environment live sources world request).2 root data
  upload : ∀ world reached data result,
    (client.upload data).run (environment live sources) world =
        (.ok result, reached) →
      holds reached result.rootHash data
  unique : ∀ world root data other,
    holds world root data → holds world root other → data = other

/-- A download that returns gives what is under the root. -/
def DownloadsRight
    (sources : Sources) (client : ZeroGClient)
    (holds : World live → String → Bytes → Prop) : Prop :=
  ∀ world root data raw, holds world root data →
    ((client.download root).run (environment live sources) world).1 =
        .ok raw →
      raw = data

theorem storing_local
    (live : LiveBackend) (sources : Sources) {client : ZeroGClient}
    (offline : client.backend ≠ .live) :
    Storing sources client
      (fun world : World live => CollisionFree world.kept)
      World.Keeps where
  before := (durable_local live sources offline).before
  stays := (durable_local live sources offline).stays
  upload := (durable_local live sources offline).upload
  unique := by
    intro world root data other first second
    obtain ⟨framed, _, firstOk, _, found⟩ := first
    obtain ⟨blob, _, secondOk, _, foundToo⟩ := second
    rw [found] at foundToo
    cases foundToo
    exact eq_of_frame firstOk secondOk

theorem downloadsRight_local
    (live : LiveBackend) (sources : Sources) {client : ZeroGClient}
    (offline : client.backend ≠ .live) :
    DownloadsRight sources client
      (World.Keeps : World live → String → Bytes → Prop) := by
  intro world root data raw keeps downloaded
  rw [run_download_local offline keeps (Or.inl rfl)] at downloaded
  cases downloaded
  rfl

theorem storing_live (sources : Sources) (store : BlobStore live) :
    Storing sources ⟨.live⟩ (fun _ : World live => True)
      store.Holds where
  before := fun _ _ _ => trivial
  stays := by
    intro world request root data _ held
    obtain ⟨framed, ok, found⟩ := held
    exact ⟨framed, ok, store.contents_stays found request⟩
  upload := fun _ _ _ _ finished => store.holds_of_upload finished
  unique := by
    intro world root data other first second
    obtain ⟨framed, firstOk, found⟩ := first
    obtain ⟨blob, secondOk, foundToo⟩ := second
    rw [found] at foundToo
    cases foundToo
    exact eq_of_frame firstOk secondOk

/-- What is behind the sidecar fails, or returns what was uploaded. -/
structure FlakyStore (live : LiveBackend) extends BlobStore live where
  fetched : ∀ state root blob raw, contents state root = some blob →
    (live.download state root).1 = .ok raw → raw = blob

theorem downloadsRight_live
    (sources : Sources) (store : FlakyStore live) :
    DownloadsRight sources ⟨.live⟩ store.Holds := by
  intro world root data raw held downloaded
  obtain ⟨framed, ok, found⟩ := held
  simp only [ZeroGClient.download, Backend.download,
    ZeroGStorageClient.download, ask, Program.bind_eq_bind,
    Program.run_bind, Program.run_call, Program.run_done,
    Program.run_ofExcept, environment] at downloaded
  cases answered : (live.download world.live
      (ZeroGStorageClient.withMark root)).1 with
  | error exc =>
      rw [answered] at downloaded
      cases downloaded
  | ok blob =>
      rw [answered] at downloaded
      cases downloaded
      rw [store.fetched _ _ _ _ found answered]
      exact unframe_frame ok

/-! ## Any backend that stores -/

theorem storing_client
    (sources : Sources) (client : ZeroGClient)
    (store : client.backend = .live → BlobStore live) :
    Storing sources client
      (fun world : World live => CollisionFree world.kept)
      (client.Holds store) := by
  by_cases isLive : client.backend = .live
  · obtain ⟨backend⟩ := client
    cases isLive
    have offline : (⟨.inMemory⟩ : ZeroGClient).backend ≠ .live := by
      decide
    have blobs := storing_local live sources offline
    have remote := storing_live sources (store rfl)
    have isStore :
        (⟨.live⟩ : ZeroGClient).Holds store = (store rfl).Holds :=
      holds_live (store rfl)
    rw [isStore]
    exact {
      before := blobs.before
      stays := fun world request root data _ =>
        remote.stays world request root data trivial
      upload := remote.upload
      unique := remote.unique }
  · rw [holds_local isLive store]
    exact storing_local live sources isLive

theorem downloadsRight_client
    (sources : Sources) (client : ZeroGClient)
    (store : client.backend = .live → FlakyStore live) :
    DownloadsRight sources client
      (client.Holds fun isLive => (store isLive).toBlobStore) := by
  by_cases isLive : client.backend = .live
  · obtain ⟨backend⟩ := client
    cases isLive
    have isStore :
        (⟨.live⟩ : ZeroGClient).Holds
            (fun isLive => (store isLive).toBlobStore) =
          (store rfl).Holds :=
      holds_live (store rfl).toBlobStore
    rw [isStore]
    exact downloadsRight_live sources (store rfl)
  · rw [holds_local isLive]
    exact downloadsRight_local live sources isLive

end World

end SwarmFi.Core.Storage

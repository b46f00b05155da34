import SwarmFi.Core.Storage.Atomicity
import SwarmFi.Core.Storage.PlainBackend

/-!
# Manifests that are loaded

`load_manifest` takes any JSON value for a manifest, and a load that fails
empties the manifest under the root it had.  When the root of a `SwarmKV` is
that of the manifest it has in memory, at every point of a run.
-/

namespace SwarmFi.Core.Storage

open Foundation Python

/-- What `load_manifest` makes of the bytes under a root. -/
def parseManifest (raw : Bytes) : Except Exception Json := do
  let text ← decode raw
  let decoded ← JsonReader.loads text
  return manifestOf decoded

theorem parseManifest_eq_ok_iff (raw : Bytes) (manifest : Json) :
    parseManifest raw = .ok manifest ↔
      ∃ text decoded, decode raw = .ok text ∧
        JsonReader.loads text = .ok decoded ∧
          manifestOf decoded = manifest := by
  unfold parseManifest
  cases decode raw with
  | error exc => simp [bind, Except.bind]
  | ok text =>
      cases loaded : JsonReader.loads text with
      | error exc => simp [bind, Except.bind, loaded]
      | ok decoded =>
          simp [bind, Except.bind, loaded, pure, Except.pure]

inductive ManifestOp where
  | edit (change : KvWrite)
  | load (root : Option String)

def ManifestOp.program (self : SwarmKV) : ManifestOp → Steps Unit
  | .edit change => change.program self
  | .load root => self.loadManifest root

section Loads

variable {live : LiveBackend}

/-- The bytes under the root hold this manifest. -/
def ReadsManifest (sources : Sources) (client : ZeroGClient) (world : World live)
    (root : String) (manifest : Json) : Prop :=
  ∃ raw, ((client.download root).run (environment live sources) world).1 =
    .ok raw ∧ parseManifest raw = .ok manifest

/-- Nothing was published and the manifest is empty, or the root is that of
the manifest in memory, whose keys and roots are strings; the order of the
keys is left open. -/
def Consistent (sources : Sources) (kv : SwarmKV) (world : World live) :
    Prop :=
  ((world.kvs kv.id).manifestRoot = none ∧
      (world.kvs kv.id).manifest = .obj []) ∨
    ∃ (root : String) (stored listed : Mapping String String),
      (world.kvs kv.id).manifestRoot = some root ∧
        (world.kvs kv.id).manifest = listed.toJson ∧
          ReadsManifest sources kv.client world root stored.toJson ∧
            stored.items.Perm listed.items

/-- A load finds a map of strings, or finds nothing it can read while no root
is known or the known one is that of an empty manifest. -/
def ManifestOp.Fits (sources : Sources) (kv : SwarmKV)
    (world : World live) : ManifestOp → Prop
  | .load (some root) =>
      (∀ manifest, ReadsManifest sources kv.client world root manifest →
        ∃ listed : Mapping String String, manifest = listed.toJson) ∧
      ((∀ manifest, ¬ ReadsManifest sources kv.client world root manifest) →
        (world.kvs kv.id).manifestRoot = none ∨
          ∃ known, (world.kvs kv.id).manifestRoot = some known ∧
            ReadsManifest sources kv.client world known (.obj []))
  | _ => True

/-- The `SwarmKV` is consistent now and after every call that returns. -/
def ConsistentThroughout (sources : Sources) (kv : SwarmKV)
    (world : World live) : List ManifestOp → Prop
  | [] => Consistent sources kv world
  | op :: ops =>
      Consistent sources kv world ∧
        ∀ next, (op.program kv).run (environment live sources) world =
            (.ok (), next) →
          ConsistentThroughout sources kv next ops

/-- Every load fits when it is made. -/
def LoadsFit (sources : Sources) (kv : SwarmKV)
    (world : World live) : List ManifestOp → Prop
  | [] => True
  | op :: ops =>
      op.Fits sources kv world ∧
        ∀ next, (op.program kv).run (environment live sources) world =
            (.ok (), next) →
          LoadsFit sources kv next ops

/-! ## Reading twice -/

variable {sources : Sources}

theorem sidecar_ok_iff (store : ContentStore live) (world : World live)
    (root : String) (blob : Bytes) :
    ((ZeroGStorageClient.download root).run (environment live sources)
        world).1 = .ok blob ↔
      store.contents world.live (ZeroGStorageClient.withMark root) =
        some blob := by
  simp only [ZeroGStorageClient.download, ask, Program.bind_eq_bind,
    Program.run_bind, Program.run_call, Program.run_done,
    Program.run_ofExcept, environment]
  cases found : store.contents world.live
      (ZeroGStorageClient.withMark root) with
  | none =>
      obtain ⟨exc, failed⟩ := store.missing _ _ found
      rw [failed]
      exact iff_of_false (fun same => by cases same)
        (fun same => by cases same)
  | some stored =>
      rw [store.fetched _ _ _ found]
      constructor
      · intro same
        cases same
        rfl
      · intro same
        cases same
        rfl

/-- Nothing that this client could read differs. -/
structure SameStore (client : ZeroGClient)
    (store : client.backend ≠ .inMemory → ContentStore live)
    (first second : World live) : Prop where
  blobs : first.blobs = second.blobs
  contents : ∀ remote,
    (store remote).contents first.live = (store remote).contents second.live

theorem download_ok_iff (client : ZeroGClient) (root : String)
    (world : World live) (data : Bytes) :
    ((client.download root).run (environment live sources) world).1 =
        .ok data ↔
      ∃ blob, ((client.backend.download root).run
        (environment live sources) world).1 = .ok blob ∧
          unframe blob = data := by
  simp only [ZeroGClient.download, Program.bind_eq_bind]
  rw [Program.run_bind]
  rcases (client.backend.download root).run _ world with ⟨outcome, reached⟩
  cases outcome with
  | error exc => simp
  | ok blob => simp

section Steady

variable {client : ZeroGClient}
  {store : client.backend ≠ .inMemory → ContentStore live}

theorem SameStore.sidecar {first second : World live}
    (same : SameStore client store first second)
    (remote : client.backend ≠ .inMemory) (root : String) (blob : Bytes) :
    ((ZeroGStorageClient.download root).run (environment live sources)
        first).1 = .ok blob ↔
      ((ZeroGStorageClient.download root).run (environment live sources)
        second).1 = .ok blob := by
  rw [sidecar_ok_iff (store remote), sidecar_ok_iff (store remote),
    same.contents remote]

theorem SameStore.raw {first second : World live}
    (same : SameStore client store first second)
    (root : String) (blob : Bytes) :
    ((client.backend.download root).run (environment live sources)
        first).1 = .ok blob ↔
      ((client.backend.download root).run (environment live sources)
        second).1 = .ok blob := by
  have sameBlobs := same.blobs
  cases kind : client.backend with
  | inMemory =>
      simp only [Backend.download, InMemoryStore.download, ask,
        Program.bind_eq_bind, Program.run_bind, Program.run_call,
        Program.run_done, environment, sameBlobs]
      cases InMemoryStore.firstTruthy _ _ <;> rfl
  | buffered =>
      have remote : client.backend ≠ .inMemory := by
        rw [kind]
        decide
      simp only [Backend.download, BufferedStore.download, ask,
        Program.bind_eq_bind, Program.run_bind, Program.run_call,
        Program.run_done, environment, sameBlobs]
      cases second.blobs.get? (removePrefix root "0x") with
      | some data => rfl
      | none =>
          cases second.blobs.get? root with
          | some data => rfl
          | none => exact same.sidecar remote root blob
  | live =>
      have remote : client.backend ≠ .inMemory := by
        rw [kind]
        decide
      exact same.sidecar remote root blob

theorem SameStore.download {first second : World live}
    (same : SameStore client store first second)
    (root : String) (data : Bytes) :
    ((client.download root).run (environment live sources) first).1 =
        .ok data ↔
      ((client.download root).run (environment live sources) second).1 =
        .ok data := by
  rw [download_ok_iff, download_ok_iff]
  apply exists_congr
  intro blob
  rw [same.raw root blob]

theorem SameStore.reads_iff {first second : World live}
    (same : SameStore client store first second)
    (root : String) (manifest : Json) :
    ReadsManifest sources client first root manifest ↔
      ReadsManifest sources client second root manifest := by
  apply exists_congr
  intro raw
  rw [same.download root raw]

/-- A download takes nothing away and adds nothing. -/
theorem sameStore_download (sources : Sources)
    (store : client.backend ≠ .inMemory → ContentStore live)
    (root : String) (world : World live) :
    SameStore client store
      ((client.download root).run (environment live sources) world).2
      world := by
  have uses : (client.download root).Uses
      (StorageCall.Within (fun _ => False) False) :=
    uses_download client root
  constructor
  · apply uses.run_preserves (fun state : World live => state.blobs)
    intro state request within
    cases request with
    | keepBlob data => exact within.elim
    | assign kv key root => exact within.elim
    | remove kv key => exact within.elim
    | _ => rfl
  · intro remote
    apply uses.run_preserves
      (fun state : World live => (store remote).contents state.live)
    intro state request within
    cases request with
    | sidecarUpload data => exact within.elim
    | sidecarDownload asked => exact (store remote).reading _ _
    | assign kv key root => exact within.elim
    | remove kv key => exact within.elim
    | _ => rfl

end Steady

/-! ## One load -/

section Load

variable (self : SwarmKV) (root : String) (world : World live)

/-- A load that reads nothing. -/
theorem run_loadManifest_unread
    (unread : ∀ manifest, ¬ ReadsManifest sources self.client world root manifest) :
    (self.loadManifest (some root)).run (environment live sources) world =
      (.ok (),
        ((self.client.download root).run (environment live sources)
          world).2.setManifest self.id (.obj [])) := by
  have failed : ∃ exc, (self.readManifest root).run
      (environment live sources) world =
        (.error exc, ((self.client.download root).run
          (environment live sources) world).2) := by
    cases downloaded : (self.client.download root).run
        (environment live sources) world with
    | mk outcome reached =>
        simp only [SwarmKV.readManifest, Program.bind_eq_bind]
        cases outcome with
        | error exc =>
            rw [Program.run_bind_of_error _ downloaded]
            exact ⟨exc, rfl⟩
        | ok raw =>
            rw [Program.run_bind_of_ok _ downloaded]
            cases isText : decode raw with
            | error exc => exact ⟨exc, rfl⟩
            | ok text =>
                simp only [Program.ofExcept_ok, Program.done_bind]
                cases isDecoded : JsonReader.loads text with
                | error exc => exact ⟨exc, rfl⟩
                | ok decoded =>
                    have isManifest :=
                      (parseManifest_eq_ok_iff raw (manifestOf decoded)).mpr
                        ⟨text, decoded, isText, isDecoded, rfl⟩
                    have isRaw : ((self.client.download root).run
                        (environment live sources) world).1 = .ok raw := by
                      rw [downloaded]
                    exact absurd ⟨raw, isRaw, isManifest⟩
                      (unread (manifestOf decoded))
  obtain ⟨exc, raised⟩ := failed
  rw [SwarmKV.loadManifest, Program.run_recover, raised]
  rfl

/-- A load that reads a manifest: only what has a length stays. -/
theorem run_loadManifest_read {manifest : Json}
    (reads : ReadsManifest sources self.client world root manifest) :
    ∃ reached,
      reached.kvs = world.kvs ∧
      (∀ store : self.client.backend ≠ .inMemory → ContentStore live,
        SameStore self.client store reached world) ∧
      (self.loadManifest (some root)).run (environment live sources)
          world =
        (.ok (),
          match manifest.length with
          | .ok _ => (reached.setManifest self.id manifest).setManifestRoot
              self.id root
          | .error _ => ((reached.setManifest self.id
              manifest).setManifestRoot self.id root).setManifest self.id
                (.obj [])) := by
  obtain ⟨raw, isRaw, isManifest⟩ := reads
  obtain ⟨text, decoded, isText, isDecoded, ofDecoded⟩ :=
    (parseManifest_eq_ok_iff raw manifest).mp isManifest
  subst ofDecoded
  have kept : ((self.client.download root).run (environment live sources)
      world).2.kvs = world.kvs := by
    have uses : (self.client.download root).Uses
        (StorageCall.Within (fun _ => False) False) :=
      uses_download self.client root
    funext kv
    exact kvs_of_uses sources uses world kv
  have sameStore (store : self.client.backend ≠ .inMemory →
      ContentStore live) :=
    sameStore_download sources store root world
  cases downloaded : (self.client.download root).run
      (environment live sources) world with
  | mk outcome reached =>
      rw [downloaded] at isRaw kept sameStore
      simp only at isRaw
      rw [isRaw] at downloaded
      refine ⟨reached, kept, sameStore, ?_⟩
      rw [SwarmKV.loadManifest, Program.run_recover]
      simp only [SwarmKV.readManifest, Program.bind_eq_bind]
      rw [Program.run_bind_of_ok _ downloaded]
      simp only [isText, isDecoded, Program.ofExcept_ok,
        Program.done_bind]
      cases sized : (manifestOf decoded).length <;>
        simp only [ask, Program.run_bind, Program.run_call,
          Program.run_done] <;> rfl

variable {self root world}

theorem reads_setKv_iff (kv : KvId) (state : KvState) (asked : String)
    (manifest : Json) :
    ReadsManifest sources self.client (world.setKv kv state) asked manifest ↔
      ReadsManifest sources self.client world asked manifest := by
  apply exists_congr
  intro raw
  rw [download_setKv]

theorem ReadsManifest.unique {first second : Json}
    (atFirst : ReadsManifest sources self.client world root first)
    (atSecond : ReadsManifest sources self.client world root second) :
    first = second := by
  obtain ⟨raw, isRaw, isFirst⟩ := atFirst
  obtain ⟨other, isOther, isSecond⟩ := atSecond
  rw [isRaw] at isOther
  cases isOther
  rw [isFirst] at isSecond
  exact Except.ok.inj isSecond

theorem consistent_setKv_iff (state : KvState) :
    Consistent sources self (world.setKv self.id state) ↔
      (state.manifestRoot = none ∧ state.manifest = .obj []) ∨
        ∃ (root : String) (stored listed : Mapping String String),
          state.manifestRoot = some root ∧
            state.manifest = listed.toJson ∧
              ReadsManifest sources self.client world root stored.toJson ∧
                stored.items.Perm listed.items := by
  have cell : (world.setKv self.id state).kvs self.id = state :=
    Function.update_self _ _ _
  simp only [Consistent, cell, reads_setKv_iff]

/-- An empty manifest is that of the empty map. -/
theorem toJson_eq_empty_iff (listed : Mapping String String) :
    Json.obj [] = listed.toJson ↔ listed.items = [] := by
  rw [Mapping.toJson, Mapping.toFields]
  constructor
  · intro same
    have noFields := Json.obj.inj same
    exact List.map_eq_nil_iff.mp noFields.symm
  · intro noItems
    rw [noItems]
    rfl

/-- After a load that reads nothing only an empty manifest can be right. -/
theorem consistent_unread_iff
    (store : self.client.backend ≠ .inMemory → ContentStore live)
    (unread : ∀ manifest, ¬ ReadsManifest sources self.client world root manifest) :
    Consistent sources self
        ((self.loadManifest (some root)).run (environment live sources)
          world).2 ↔
      (ManifestOp.load (some root)).Fits sources self world := by
  have uses : (self.client.download root).Uses
      (StorageCall.Within (fun _ => False) False) :=
    uses_download self.client root
  have kept := kvs_of_uses sources uses world self.id
  have sameStore := sameStore_download sources store root world
  have fits : (ManifestOp.load (some root)).Fits sources self world ↔
      ((world.kvs self.id).manifestRoot = none ∨
        ∃ known, (world.kvs self.id).manifestRoot = some known ∧
          ReadsManifest sources self.client world known (.obj [])) := by
    constructor
    · intro both
      exact both.2 unread
    · intro isEmpty
      exact ⟨fun manifest reads => absurd reads (unread manifest),
        fun _ => isEmpty⟩
  rw [run_loadManifest_unread self root world unread, fits]
  simp only [World.setManifest, consistent_setKv_iff, kept,
    sameStore.reads_iff]
  apply or_congr
  · simp
  · apply exists_congr
    intro known
    constructor
    · intro found
      obtain ⟨stored, listed, isKnown, isEmpty, reads, reordered⟩ := found
      have noItems := (toJson_eq_empty_iff listed).mp isEmpty
      rw [noItems] at reordered
      have isStored := (toJson_eq_empty_iff stored).mpr
        reordered.eq_nil
      rw [← isStored] at reads
      exact ⟨isKnown, reads⟩
    · intro found
      obtain ⟨isKnown, reads⟩ := found
      exact ⟨.empty, .empty, isKnown, rfl, reads, List.Perm.refl _⟩

theorem length_toJson (listed : Mapping String String) :
    listed.toJson.length = .ok listed.toFields.length := rfl

/-- After a load that reads a manifest, that must be a map of strings. -/
theorem consistent_read_iff
    (store : self.client.backend ≠ .inMemory → ContentStore live)
    {manifest : Json}
    (reads : ReadsManifest sources self.client world root manifest) :
    Consistent sources self
        ((self.loadManifest (some root)).run (environment live sources)
          world).2 ↔
      (ManifestOp.load (some root)).Fits sources self world := by
  obtain ⟨reached, kept, sameStore, ran⟩ :=
    run_loadManifest_read self root world reads
  have fits : (ManifestOp.load (some root)).Fits sources self world ↔
      ∃ listed : Mapping String String, manifest = listed.toJson := by
    constructor
    · intro both
      exact both.1 manifest reads
    · intro isMap
      constructor
      · intro other readsOther
        rw [readsOther.unique reads]
        exact isMap
      · intro unread
        exact absurd reads (unread manifest)
  rw [ran, fits]
  cases sized : manifest.length with
  | ok size =>
      simp only [World.setManifestRoot, consistent_setKv_iff,
        kvs_setManifest, Option.some.injEq, reduceCtorEq, false_and,
        false_or]
      constructor
      · intro found
        obtain ⟨_, _, listed, _, isMap, _⟩ := found
        exact ⟨listed, isMap⟩
      · intro isMap
        obtain ⟨listed, isListed⟩ := isMap
        refine ⟨root, listed, listed, rfl, isListed, ?_,
          List.Perm.refl _⟩
        rw [World.setManifest, reads_setKv_iff,
          (sameStore store).reads_iff, ← isListed]
        exact reads
  | error exc =>
      have notMap (listed : Mapping String String) :
          manifest ≠ listed.toJson := by
        intro isMap
        rw [isMap, length_toJson] at sized
        cases sized
      apply iff_of_false
      · intro consistent
        have emptied : Consistent sources self
            (((reached.setManifest self.id manifest).setManifestRoot
              self.id root).setManifest self.id (.obj [])) := consistent
        rw [World.setManifest, consistent_setKv_iff,
          kvs_setManifestRoot] at emptied
        rcases emptied with ⟨noRoot, _⟩ |
          ⟨known, stored, listed, isKnown, _, found, _⟩
        · cases noRoot
        · cases isKnown
          rw [World.setManifestRoot, reads_setKv_iff, World.setManifest,
            reads_setKv_iff, (sameStore store).reads_iff] at found
          exact notMap stored (reads.unique found)
      · intro isMap
        obtain ⟨listed, isListed⟩ := isMap
        exact notMap listed isListed

/-- A load leaves the `SwarmKV` consistent exactly when it fits. -/
theorem consistent_load_iff
    (store : self.client.backend ≠ .inMemory → ContentStore live) :
    Consistent sources self
        ((self.loadManifest (some root)).run (environment live sources)
          world).2 ↔
      (ManifestOp.load (some root)).Fits sources self world := by
  by_cases found : ∃ manifest,
      ReadsManifest sources self.client world root manifest
  · obtain ⟨manifest, reads⟩ := found
    exact consistent_read_iff store reads
  · exact consistent_unread_iff store (not_exists.mp found)

theorem loadManifest_returns :
    ((self.loadManifest (some root)).run (environment live sources)
      world).1 = .ok () := by
  rw [SwarmKV.loadManifest, Program.run_recover]
  rcases (self.readManifest root).run _ world with ⟨outcome, reached⟩
  cases outcome <;> rfl

end Load

/-! ## One write -/

section Edit

variable {self : SwarmKV}
  (store : self.client.backend ≠ .inMemory → ContentStore live)

include store in
/-- Publishing a map of strings makes it the published one. -/
theorem consistent_persistManifest {world last : World live}
    {listed : Mapping String String} {root : String}
    (isManifest : (world.kvs self.id).manifest = listed.toJson)
    (persisted : self.persistManifest.run (environment live sources)
      world = (.ok root, last)) : Consistent sources self last := by
  have durable := durable_client sources self.client
    fun isLive => store (by rw [isLive]; decide)
  obtain ⟨text, decoded, sorted, isText, isDecoded, isSorted, reordered⟩ :=
    loads_manifestPayload (sources.clock world.ticks) listed
  have kept := kvs_upload sources self.client
    (manifestPayload (sources.clock world.ticks) listed.toJson)
    { world with ticks := world.ticks + 1 } self.id
  rw [run_persistManifest, isManifest] at persisted
  split at persisted
  · cases persisted
  · next result reached uploaded =>
      cases persisted
      rw [uploaded] at kept
      simp only at kept
      have held := durable.upload _ _ _ _ uploaded
      have downloaded := durable.download reached result.rootHash _ held
      have reads : ReadsManifest sources self.client reached result.rootHash
          sorted.toJson :=
        ⟨_, downloaded, (parseManifest_eq_ok_iff _ _).mpr
          ⟨text, decoded, isText, isDecoded, isSorted⟩⟩
      rw [World.setManifestRoot, consistent_setKv_iff]
      right
      refine ⟨result.rootHash, sorted, listed, rfl, ?_, reads, reordered⟩
      rw [kept]
      exact isManifest

theorem Consistent.listed {world : World live}
    (consistent : Consistent sources self world) :
    ∃ listed : Mapping String String,
      (world.kvs self.id).manifest = listed.toJson := by
  rcases consistent with ⟨_, isEmpty⟩ |
    ⟨_, _, listed, _, isListed, _⟩
  · exact ⟨.empty, isEmpty⟩
  · exact ⟨listed, isListed⟩

include store in
/-- A write that returns publishes the manifest, or has nothing to do. -/
theorem consistent_edit {world next : World live} {write : KvWrite}
    (consistent : Consistent sources self world)
    (returned : (write.program self).run (environment live sources) world =
      (.ok (), next)) : Consistent sources self next := by
  obtain ⟨listed, isListed⟩ := consistent.listed
  cases write with
  | set key value =>
      have kept := kvs_upload sources self.client value world self.id
      rw [run_setEdit, run_set] at returned
      cases stored : (self.client.upload value).run
          (environment live sources) world with
      | mk outcome reached =>
          rw [stored] at returned kept
          cases outcome with
          | error exc => cases returned
          | ok result =>
              simp only at returned kept
              rw [kept, isListed, Mapping.setItem_toJson] at returned
              simp only at returned
              have cell : ((reached.setManifest self.id
                  (listed.set key result.rootHash).toJson).kvs
                    self.id).manifest =
                  (listed.set key result.rootHash).toJson := by
                rw [kvs_setManifest]
              cases persisted : self.persistManifest.run
                  (environment live sources) (reached.setManifest self.id
                    (listed.set key result.rootHash).toJson) with
              | mk outcome last =>
                  rw [persisted] at returned
                  cases outcome with
                  | error exc => cases returned
                  | ok root =>
                      cases returned
                      exact consistent_persistManifest store cell persisted
  | delete key =>
      rw [KvWrite.program, run_delete, isListed,
        Mapping.contains_toJson] at returned
      cases present : listed.contains key with
      | false =>
          rw [present] at returned
          cases returned
          exact consistent
      | true =>
          rw [present] at returned
          simp only [Mapping.delItem_toJson listed present] at returned
          have cell : ((world.setManifest self.id
              (listed.erase key).toJson).kvs self.id).manifest =
              (listed.erase key).toJson := by
            rw [kvs_setManifest]
          cases persisted : self.persistManifest.run
              (environment live sources)
              (world.setManifest self.id (listed.erase key).toJson) with
          | mk outcome last =>
              rw [persisted] at returned
              cases outcome with
              | error exc => cases returned
              | ok root =>
                  cases returned
                  exact consistent_persistManifest store cell persisted

end Edit

/-! ## A whole run -/

section Run

variable {self : SwarmKV}
  (store : self.client.backend ≠ .inMemory → ContentStore live)

theorem ConsistentThroughout.start {world : World live}
    {ops : List ManifestOp}
    (throughout : ConsistentThroughout sources self world ops) :
    Consistent sources self world := by
  cases ops with
  | nil => exact throughout
  | cons op ops => exact throughout.1

include store in
/-- What one call that returns does to a consistent `SwarmKV`. -/
theorem consistent_step_iff {world next : World live} {op : ManifestOp}
    (consistent : Consistent sources self world)
    (returned : (op.program self).run (environment live sources) world =
      (.ok (), next)) :
    Consistent sources self next ↔ op.Fits sources self world := by
  cases op with
  | edit write =>
      exact iff_of_true (consistent_edit store consistent returned) trivial
  | load root =>
      cases root with
      | none =>
          cases returned
          exact iff_of_true consistent trivial
      | some root =>
          have loaded : Consistent sources self
              ((self.loadManifest (some root)).run
                (environment live sources) world).2 ↔
              (ManifestOp.load (some root)).Fits sources self world :=
            consistent_load_iff store
          have isNext : (self.loadManifest (some root)).run
              (environment live sources) world = (.ok (), next) := returned
          rw [isNext] at loaded
          exact loaded

/-- Only a write can raise. -/
theorem fits_of_raises {world : World live} {op : ManifestOp}
    (raises : ∀ next, (op.program self).run (environment live sources)
      world ≠ (.ok (), next)) : op.Fits sources self world := by
  cases op with
  | edit write => trivial
  | load root =>
      cases root with
      | none => trivial
      | some root =>
          let ran := (self.loadManifest (some root)).run
            (environment live sources) world
          have returned : ran = (.ok (), ran.2) :=
            Prod.ext loadManifest_returns rfl
          exact absurd returned (raises ran.2)

include store in
theorem consistentThroughout_of (ops : List ManifestOp)
    {world : World live} (consistent : Consistent sources self world) :
    ConsistentThroughout sources self world ops ↔
      LoadsFit sources self world ops := by
  induction ops generalizing world with
  | nil => exact iff_of_true consistent trivial
  | cons op ops inductionHypothesis =>
      constructor
      · intro throughout
        have later := throughout.2
        constructor
        · by_cases returns : ∃ next, (op.program self).run
              (environment live sources) world = (.ok (), next)
          · obtain ⟨next, returned⟩ := returns
            exact (consistent_step_iff store consistent returned).mp
              (later next returned).start
          · exact fits_of_raises (not_exists.mp returns)
        · intro next returned
          have afterOp := later next returned
          exact (inductionHypothesis afterOp.start).mp afterOp
      · intro fit
        have later := fit.2
        refine ⟨consistent, ?_⟩
        intro next returned
        have afterOp :=
          (consistent_step_iff store consistent returned).mpr fit.1
        exact (inductionHypothesis afterOp).mpr (later next returned)

end Run

end Loads

/-- From a process that has just started, the `SwarmKV` stays consistent
exactly when every load fits. -/
theorem consistentThroughout_iff {live : LiveBackend} (sources : Sources)
    (kv : SwarmKV)
    (store : kv.client.backend ≠ .inMemory → ContentStore live)
    (state : live.State) (ops : List ManifestOp) :
    ConsistentThroughout sources kv (.boot state : World live) ops ↔
      LoadsFit sources kv (.boot state : World live) ops := by
  apply consistentThroughout_of store
  exact Or.inl ⟨rfl, rfl⟩

theorem consistentThroughout_iff_plain :
    ConsistentThroughout plainSources ⟨0, ⟨.live⟩⟩
        (.boot (.empty : Mapping String Bytes) : World plainBackend)
        [.edit (.set "a" [1]), .load (some "missing")] ↔
      LoadsFit plainSources ⟨0, ⟨.live⟩⟩
        (.boot (.empty : Mapping String Bytes) : World plainBackend)
        [.edit (.set "a" [1]), .load (some "missing")] :=
  consistentThroughout_iff plainSources ⟨0, ⟨.live⟩⟩ (fun _ => plainStore)
    .empty [.edit (.set "a" [1]), .load (some "missing")]

/-! ## A root that is not there -/

def staleKv : SwarmKV := ⟨0, ⟨.inMemory⟩⟩

/-- A key is set. -/
def staleSet : Except Exception Unit × World downBackend :=
  ((ManifestOp.edit (.set "a" [1])).program staleKv).run
    (environment downBackend plainSources) (.boot ())

/-- A root is loaded that nobody has stored. -/
def staleLoad : Except Exception Unit × World downBackend :=
  ((ManifestOp.load (some "missing")).program staleKv).run
    (environment downBackend plainSources) staleSet.2

/-- The keys of the manifest that the `SwarmKV` has published. -/
def publishedKeys (world : World downBackend) : Option (List String) := do
  let root ← (world.kvs 0).manifestRoot
  let raw ← ((staleKv.client.download root).run
    (environment downBackend plainSources) world).1.toOption
  let manifest ← (parseManifest raw).toOption
  manifest.keys.toOption

/-- The manifest is emptied under the root of the full one. -/
theorem failed_load_keeps_root :
    ¬ ∀ (live : LiveBackend) (sources : Sources) (kv : SwarmKV),
      (kv.client.backend ≠ .inMemory → ContentStore live) →
        ∀ (state : live.State) (ops : List ManifestOp),
          ConsistentThroughout sources kv (.boot state : World live)
            ops := by
  intro always
  have throughout := always downBackend plainSources staleKv
    (fun remote => absurd rfl remote) ()
    [.edit (.set "a" [1]), .load (some "missing")]
  have observed : staleSet.1 = .ok () ∧ staleLoad.1 = .ok () ∧
      (staleLoad.2.kvs 0).manifest.keys.toOption = some [] ∧
        publishedKeys staleLoad.2 = some ["a"] := by
    decide +kernel
  obtain ⟨set, loaded, noKeys, oneKey⟩ := observed
  have consistent : Consistent plainSources staleKv staleLoad.2 :=
    (throughout.2 staleSet.2 (Prod.ext set rfl)).2 staleLoad.2
      (Prod.ext loaded rfl)
  rcases consistent with ⟨noRoot, _⟩ |
    ⟨root, stored, listed, isRoot, isListed, reads, reordered⟩
  · have noneThere : (staleLoad.2.kvs 0).manifestRoot = none := noRoot
    rw [publishedKeys, noneThere] at oneKey
    cases oneKey
  · have rootThere : (staleLoad.2.kvs 0).manifestRoot = some root := isRoot
    have manifestThere : (staleLoad.2.kvs 0).manifest = listed.toJson :=
      isListed
    obtain ⟨raw, isRaw, isManifest⟩ := reads
    rw [manifestThere, Mapping.keys_toJson] at noKeys
    have readBack : publishedKeys staleLoad.2 =
        stored.toJson.keys.toOption := by
      rw [publishedKeys, rootThere, Option.bind_eq_bind, Option.bind_some,
        isRaw]
      simp only [Except.toOption, Option.bind_eq_bind, Option.bind_some,
        isManifest]
    rw [readBack, Mapping.keys_toJson] at oneKey
    have listedKeys : listed.keys = [] := Option.some.inj noKeys
    have storedKeys : stored.keys = ["a"] := Option.some.inj oneKey
    have sameKeys : stored.keys.Perm listed.keys :=
      reordered.map Prod.fst
    rw [listedKeys, storedKeys] at sameKeys
    exact absurd sameKeys.eq_nil (by decide)

end SwarmFi.Core.Storage

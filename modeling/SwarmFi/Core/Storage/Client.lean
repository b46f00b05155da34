import SwarmFi.Foundation.Program
import SwarmFi.Python.JsonObject
import SwarmFi.Python.JsonWriter
import SwarmFi.Python.Sha256

/-!
# The 0G storage client

The bytes that go to a backend are framed with their length and padded.  The
in-memory and the buffered backend keep blobs under their SHA-256; the live
one hands them to the sidecar, which names them by roots of its own.

Every step that storage code makes is a call: what it does to the attributes
of the objects it shares, the clock and the UUIDs it draws from, and the two
requests to the sidecar, which are the only calls that suspend a task.
-/

namespace SwarmFi.Core.Storage

open Foundation Python

/-! ## Frames -/

/-- `_ZG_MIN_UPLOAD_BYTES` -/
def zgMinUploadBytes : Nat := 256

/-- `_frame(data)` -/
def frame (data : Bytes) : Except Exception Bytes := do
  let size ← toBytes4 data.length
  let framed := size ++ data
  if framed.length < zgMinUploadBytes then
    return framed ++ List.replicate (zgMinUploadBytes - framed.length) 0
  else
    return framed

/-- `_unframe(data)` -/
def unframe (data : Bytes) : Bytes :=
  if data.length < 4 then
    data
  else
    let length := fromBytes (data.take 4)
    let payload := (data.drop 4).take length
    if payload.length ≠ length then data else payload

/-! ## The calls of storage code -/

structure UploadResult where
  rootHash : String
  txHash : Option String
  sizeBytes : Nat

/-- The last line of the sidecar's output, read as JSON. -/
structure SidecarUpload where
  rootHash : Option String
  txHash : Option String

/-- Which `SwarmKV` object an attribute belongs to. -/
abbrev KvId := Nat

/-- `keepBlob` is `self._store[root] = data` (or `self._mem[root] = data`)
under the SHA-256 of the data; the calls with a `KvId` read and change
`_manifest` and `_manifest_root` of that object. -/
inductive StorageCall where
  | now
  | uuid4
  | blobs
  | keepBlob (data : Bytes)
  | keepSnapshot (root : String) (tx : Option String)
  | lookup (kv : KvId) (key : String)
  | contains (kv : KvId) (key : String)
  | assign (kv : KvId) (key : String) (root : String)
  | remove (kv : KvId) (key : String)
  | manifest (kv : KvId)
  | setManifest (kv : KvId) (manifest : Json)
  | manifestRoot (kv : KvId)
  | setManifestRoot (kv : KvId) (root : String)
  | sidecarUpload (data : Bytes)
  | sidecarDownload (root : String)

abbrev StorageCall.Answer : StorageCall → Type
  | .now => String
  | .uuid4 => String
  | .blobs => Mapping String Bytes
  | .keepBlob _ => Unit
  | .keepSnapshot _ _ => Unit
  | .lookup _ _ => Except Exception Json
  | .contains _ _ => Except Exception Bool
  | .assign _ _ _ => Except Exception Unit
  | .remove _ _ => Except Exception Unit
  | .manifest _ => Json
  | .setManifest _ _ => Unit
  | .manifestRoot _ => Option String
  | .setManifestRoot _ _ => Unit
  | .sidecarUpload _ => Except Exception SidecarUpload
  | .sidecarDownload _ => Except Exception Bytes

abbrev StorageVocabulary : Vocabulary where
  Call := StorageCall
  Answer := StorageCall.Answer

abbrev Steps := Program StorageVocabulary Exception

def ask (request : StorageCall) : Steps request.Answer :=
  .call request .done

/-- Whether a call gives the event loop the turn. -/
def StorageCall.suspends : StorageCall → Bool
  | .sidecarUpload _ => true
  | .sidecarDownload _ => true
  | _ => false

/-! ## The in-memory store -/

namespace InMemoryStore

def upload (data : Bytes) : Steps UploadResult := do
  let root := Sha256.hexdigest data
  ask (.keepBlob data)
  return { rootHash := root, txHash := none, sizeBytes := data.length }

/-- `self._store.get(key) or self._store.get(root_hash)`: an empty blob is
falsy. -/
def firstTruthy (first second : Option Bytes) : Option Bytes :=
  match first with
  | some data => if data = [] then second else some data
  | none => second

def download (rootHash : String) : Steps Bytes := do
  let key := removePrefix rootHash "0x"
  let store : Mapping String Bytes ← ask .blobs
  match firstTruthy (store.get? key) (store.get? rootHash) with
  | some data => return data
  | none =>
      .raise ⟨.keyError,
        "Root hash not found in memory store: '" ++ rootHash ++ "'"⟩

end InMemoryStore

/-! ## The live client -/

namespace ZeroGStorageClient

/-- What `upload` makes of the sidecar's answer. -/
def uploadResult (data : Bytes) (result : SidecarUpload) :
    Except Exception UploadResult :=
  let root := result.rootHash.getD ""
  if root = "" then
    .error ⟨.runtimeError, "Upload returned no rootHash"⟩
  else
    .ok {
      rootHash := root
      txHash := if truthy result.txHash then result.txHash else none
      sizeBytes := data.length }

def upload (data : Bytes) : Steps UploadResult := do
  let answer : Except Exception SidecarUpload ← ask (.sidecarUpload data)
  let result ← .ofExcept answer
  .ofExcept (uploadResult data result)

/-- The root as the sidecar takes it. -/
def withMark (rootHash : String) : String :=
  if startsWith rootHash "0x" then rootHash else "0x" ++ rootHash

def download (rootHash : String) : Steps Bytes := do
  let answer : Except Exception Bytes ←
    ask (.sidecarDownload (withMark rootHash))
  .ofExcept answer

end ZeroGStorageClient

/-! ## The buffered store -/

namespace BufferedStore

def upload (data : Bytes) : Steps UploadResult := do
  let root := Sha256.hexdigest data
  ask (.keepBlob data)
  return { rootHash := root, txHash := none, sizeBytes := data.length }

def download (rootHash : String) : Steps Bytes := do
  let key := removePrefix rootHash "0x"
  let mem : Mapping String Bytes ← ask .blobs
  match mem.get? key with
  | some data => return data
  | none =>
      match mem.get? rootHash with
      | some data => return data
      | none => ZeroGStorageClient.download rootHash

/-- The snapshot that `flush` uploads. -/
def snapshot (ts : String) (mem : Mapping String Bytes) : Json :=
  .obj [("version", .int 1), ("ts", .str ts),
    ("entry_count", .int mem.size), ("data", (mem.mapValues hex).toJson)]

@[irreducible]
def snapshotText (ts : String) (mem : Mapping String Bytes) : Bytes :=
  encode (JsonWriter.dumpsSorted (snapshot ts mem))

def flush : Steps (Option String) := do
  let mem : Mapping String Bytes ← ask .blobs
  if mem.items = [] then
    return none
  else
    let ts : String ← ask .now
    let result ← ZeroGStorageClient.upload (snapshotText ts mem)
    ask (.keepSnapshot result.rootHash result.txHash)
    return some result.rootHash

end BufferedStore

/-! ## The public interface -/

inductive Backend where
  | inMemory
  | buffered
  | live
  deriving DecidableEq, Repr

def Backend.upload : Backend → Bytes → Steps UploadResult
  | .inMemory => InMemoryStore.upload
  | .buffered => BufferedStore.upload
  | .live => ZeroGStorageClient.upload

def Backend.download : Backend → String → Steps Bytes
  | .inMemory => InMemoryStore.download
  | .buffered => BufferedStore.download
  | .live => ZeroGStorageClient.download

structure ZeroGClient where
  backend : Backend
  deriving DecidableEq

namespace ZeroGClient

variable (self : ZeroGClient)

def upload (data : Bytes) : Steps UploadResult := do
  let framed ← .ofExcept (frame data)
  self.backend.upload framed

def download (rootHash : String) : Steps Bytes := do
  let raw ← self.backend.download rootHash
  return unframe raw

/-- The error of `download` on a root that is no text. -/
def notText (rootHash : Json) : Exception :=
  ⟨.attributeError,
    "'" ++ rootHash.typeName ++ "' object has no attribute '" ++
      (if self.backend = .live then "startswith" else "removeprefix") ++
        "'"⟩

def flush : Steps (Option String) :=
  match self.backend with
  | .buffered => BufferedStore.flush
  | _ => return none

end ZeroGClient

/-! ## The world of a process -/

/-- The two attributes of a `SwarmKV` that change. -/
structure KvState where
  manifest : Json
  manifestRoot : Option String

def KvState.fresh : KvState where
  manifest := .obj []
  manifestRoot := none

/-- The sidecar and what is behind it. -/
structure LiveBackend where
  State : Type
  upload : State → Bytes → Except Exception SidecarUpload × State
  download : State → String → Except Exception Bytes × State

/-- What `datetime.now` and `uuid.uuid4` return, one value after another. -/
structure Sources where
  clock : Nat → String
  uuids : Nat → String

/-- The attributes of the storage objects of one process, the backend behind
them, and how often the clock and the UUIDs have been drawn from.  `kept`
lists every blob that was ever stored, which a dict forgets when a key is set
again. -/
structure World (live : LiveBackend) where
  blobs : Mapping String Bytes
  kept : List Bytes
  snapshotRoot : Option String
  snapshotTx : Option String
  kvs : KvId → KvState
  live : live.State
  ticks : Nat
  drawn : Nat

namespace World

variable {live : LiveBackend}

/-- A process that has just started. -/
def boot (state : live.State) : World live where
  blobs := .empty
  kept := []
  snapshotRoot := none
  snapshotTx := none
  kvs := fun _ => .fresh
  live := state
  ticks := 0
  drawn := 0

def keep (world : World live) (data : Bytes) : World live :=
  { world with
    blobs := world.blobs.set (Sha256.hexdigest data) data
    kept := world.kept ++ [data] }

def setKv (world : World live) (kv : KvId) (state : KvState) : World live :=
  { world with kvs := Function.update world.kvs kv state }

def setManifest (world : World live) (kv : KvId) (manifest : Json) :
    World live :=
  world.setKv kv { world.kvs kv with manifest := manifest }

def setManifestRoot (world : World live) (kv : KvId) (root : String) :
    World live :=
  world.setKv kv { world.kvs kv with manifestRoot := some root }

/-- An item operation on a manifest: it raises, or the manifest changes. -/
def changeManifest (world : World live) (kv : KvId)
    (changed : Except Exception Json) : Except Exception Unit × World live :=
  match changed with
  | .ok manifest => (.ok (), world.setManifest kv manifest)
  | .error exc => (.error exc, world)

end World

/-- What every call does and answers. -/
def environment (live : LiveBackend) (sources : Sources) :
    Environment StorageVocabulary (World live) :=
  fun world request =>
    match request with
    | .now =>
        (sources.clock world.ticks, { world with ticks := world.ticks + 1 })
    | .uuid4 =>
        (sources.uuids world.drawn, { world with drawn := world.drawn + 1 })
    | .blobs => (world.blobs, world)
    | .keepBlob data => ((), world.keep data)
    | .keepSnapshot root tx =>
        ((), { world with snapshotRoot := some root, snapshotTx := tx })
    | .lookup kv key => ((world.kvs kv).manifest.get key, world)
    | .contains kv key => ((world.kvs kv).manifest.contains key, world)
    | .assign kv key root =>
        world.changeManifest kv
          ((world.kvs kv).manifest.setItem key (.str root))
    | .remove kv key =>
        world.changeManifest kv ((world.kvs kv).manifest.delItem key)
    | .manifest kv => ((world.kvs kv).manifest, world)
    | .setManifest kv manifest => ((), world.setManifest kv manifest)
    | .manifestRoot kv => ((world.kvs kv).manifestRoot, world)
    | .setManifestRoot kv root => ((), world.setManifestRoot kv root)
    | .sidecarUpload data =>
        ((live.upload world.live data).1,
          { world with live := (live.upload world.live data).2 })
    | .sidecarDownload root =>
        ((live.download world.live root).1,
          { world with live := (live.download world.live root).2 })

end SwarmFi.Core.Storage

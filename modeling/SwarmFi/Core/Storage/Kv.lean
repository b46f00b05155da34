import SwarmFi.Core.Storage.Client

/-!
# The key-value store

`SwarmKV` keeps a manifest from keys to root hashes in memory and uploads it
after every write.  A manifest that is loaded is not checked: it is whatever
JSON value the blob holds.
-/

namespace SwarmFi.Core.Storage

open Foundation Python

structure SwarmKV where
  id : KvId
  client : ZeroGClient
  deriving DecidableEq

/-- What `load_manifest` takes for the manifest. -/
def manifestOf (decoded : Json) : Json :=
  match decoded with
  | .obj fields =>
      if Dict.has fields "_keys" then
        Dict.getD fields "_keys" decoded
      else
        decoded
  | other => other

/-- What `_persist_manifest` uploads. -/
@[irreducible]
def manifestPayload (ts : String) (manifest : Json) : Bytes :=
  encode (JsonWriter.dumpsSorted
    (.obj [("_ts", .str ts), ("_keys", manifest)]))

namespace SwarmKV

variable (self : SwarmKV)

/-! ## Manifest management -/

/-- The body of the `try` of `load_manifest`. -/
def readManifest (manifestRoot : String) : Steps Unit := do
  let raw ← self.client.download manifestRoot
  let text ← .ofExcept (decode raw)
  let decoded ← .ofExcept (JsonReader.loads text)
  ask (.setManifest self.id (manifestOf decoded))
  ask (.setManifestRoot self.id manifestRoot)
  let _ ← .ofExcept (manifestOf decoded).length
  return ()

def loadManifest : Option String → Steps Unit
  | none => return ()
  | some manifestRoot =>
      (self.readManifest manifestRoot).recover fun _ =>
        ask (.setManifest self.id (.obj []))

/-- `_persist_manifest` -/
def persistManifest : Steps String := do
  let ts : String ← ask .now
  let manifest : Json ← ask (.manifest self.id)
  let result ← self.client.upload (manifestPayload ts manifest)
  ask (.setManifestRoot self.id result.rootHash)
  return result.rootHash

/-- The property `manifest_root`. -/
def manifestRoot : Steps (Option String) :=
  ask (.manifestRoot self.id)

/-! ## Core KV operations -/

def set (key : String) (value : Bytes) : Steps UploadResult := do
  let result ← self.client.upload value
  let assigned : Except Exception Unit ←
    ask (.assign self.id key result.rootHash)
  .ofExcept assigned
  let _ ← self.persistManifest
  return result

def get (key : String) : Steps (Option Bytes) := do
  let found : Except Exception Json ← ask (.lookup self.id key)
  let rootHash ← .ofExcept found
  match rootHash with
  | .null => return none
  | .str root => return some (← self.client.download root)
  | other => .raise (self.client.notText other)

def getOrDefault (key : String) (default : Bytes) : Steps Bytes := do
  let value ← self.get key
  return value.getD default

def delete (key : String) : Steps Unit := do
  let found : Except Exception Bool ← ask (.contains self.id key)
  let present ← .ofExcept found
  if present then
    let removed : Except Exception Unit ← ask (.remove self.id key)
    .ofExcept removed
    let _ ← self.persistManifest
    return ()
  else
    return ()

def «exists» (key : String) : Steps Bool := do
  let found : Except Exception Bool ← ask (.contains self.id key)
  .ofExcept found

def keys : Steps (List String) := do
  let manifest : Json ← ask (.manifest self.id)
  .ofExcept manifest.keys

end SwarmKV

/-! ## Writes -/

/-- The two calls that change a `SwarmKV`. -/
inductive KvWrite where
  | set (key : String) (value : Bytes)
  | delete (key : String)

def KvWrite.program (self : SwarmKV) : KvWrite → Steps Unit
  | .set key value => do
      let _ ← self.set key value
      return ()
  | .delete key => self.delete key

end SwarmFi.Core.Storage

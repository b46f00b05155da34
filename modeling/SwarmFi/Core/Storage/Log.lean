import SwarmFi.Core.Storage.Kv
import SwarmFi.Core.Storage.Models

/-!
# The history log

Every entry is a blob of its own; the index under `KVKey.LOG_INDEX` lists
their roots.  An append reads the index, extends it and writes it back.
-/

namespace SwarmFi.Core.Storage

open Foundation Python

structure SwarmLog where
  client : ZeroGClient
  kv : SwarmKV
  deriving DecidableEq

/-- `items[start:]` -/
def sliceFrom {α : Type} (items : List α) (start : Int) : List α :=
  if start < 0 then
    items.drop (items.length + start).toNat
  else
    items.drop start.toNat

/-- `items[:stop]` -/
def sliceTo {α : Type} (items : List α) (stop : Int) : List α :=
  if stop < 0 then
    items.take (items.length + stop).toNat
  else
    items.take stop.toNat

namespace SwarmLog

variable (self : SwarmLog) (models : Models)

/-- `_load_index`: an index that does not decode counts as empty. -/
def loadIndex : Steps LogIndex := do
  let raw ← self.kv.get KVKey.logIndex
  match raw.map models.logIndex.decode with
  | some (.ok index) => return index
  | _ => return .default (← ask .now)

/-- `LogEntry(...)` as `append` makes it. -/
def newEntry (eventType : LogEventType) (agentRole : String)
    (data : Option Dict) : Steps LogEntry := do
  let entryId : String ← ask .uuid4
  let timestamp : String ← ask .now
  return {
    entryId := entryId
    eventType := eventType
    agentRole := agentRole
    timestamp := timestamp
    data := data.getD []
    rootHash := none }

/-- What `append` does with the index once the entry is uploaded. -/
def extendIndex (rootHash : String) : Steps Unit := do
  let index ← self.loadIndex models
  let now : String ← ask .now
  let _ ← self.kv.set KVKey.logIndex
    (models.logIndex.encode (index.append rootHash now))
  return ()

def append (eventType : LogEventType) (agentRole : String)
    (data : Option Dict) : Steps LogEntry := do
  let entry ← newEntry eventType agentRole data
  let result ← self.client.upload (models.logEntry.encode entry)
  self.extendIndex models result.rootHash
  return { entry with rootHash := some result.rootHash }

/-- The entries of the roots, without those that cannot be fetched. -/
def fetch : List String → Steps (List LogEntry)
  | [] => return []
  | rootHash :: rest => do
      let entry ← ((do
        let raw ← self.client.download rootHash
        .ofExcept (models.logEntry.decode raw) :
          Steps LogEntry)).attempt
      let entries ← fetch rest
      return entry.toOption.toList ++ entries

def recent (limit : Int) : Steps (List LogEntry) := do
  let index ← self.loadIndex models
  self.fetch models (sliceFrom index.entries (-limit))

def getEntry (rootHash : String) : Steps LogEntry := do
  let raw ← self.client.download rootHash
  .ofExcept (models.logEntry.decode raw)

def getIndex : Steps LogIndex :=
  self.loadIndex models

/-! ## Filtering helpers -/

/-- What `by_agent` and `by_event_type` do with the entries they look for. -/
def filtered (wanted : LogEntry → Bool) (limit : Int) :
    Steps (List LogEntry) := do
  let allRecent ← self.recent models (limit * 3)
  return sliceTo (allRecent.filter wanted) limit

def byAgent (role : String) (limit : Int) : Steps (List LogEntry) :=
  self.filtered models (fun entry => entry.agentRole = role) limit

def byEventType (eventType : LogEventType) (limit : Int) :
    Steps (List LogEntry) :=
  self.filtered models (fun entry => entry.eventType = eventType) limit

end SwarmLog

end SwarmFi.Core.Storage

import SwarmFi.Core.Storage.DurableMap
import SwarmFi.Core.Storage.Log

/-!
# The log over a durable client

The index in the dict lists the roots of the entries that `append` has
returned, in that order, and each root holds its entry.  Other keys of the
dict may be set and deleted as one likes.
-/

namespace SwarmFi.Core.Storage

open Foundation Python

variable
  {live : LiveBackend} {sources : Sources} {client : ZeroGClient}
  {sound : World live → Prop}
  {holds : World live → String → Bytes → Prop}

/-! ## Models that are read back -/

theorem Models.InverseOn.mono
    {models : Models} {texts fewer : Bytes → Prop}
    (inverse : models.InverseOn texts)
    (among : ∀ text, fewer text → texts text) :
    models.InverseOn fewer where
  agentState := fun model there => inverse.agentState model (among _ there)
  swarmState := fun model there => inverse.swarmState model (among _ there)
  logEntry := fun model there => inverse.logEntry model (among _ there)
  logIndex := fun model there => inverse.logIndex model (among _ there)

/-- Some root holds the bytes. -/
def Held
    (holds : World live → String → Bytes → Prop) (world : World live)
    (data : Bytes) : Prop :=
  ∃ root, holds world root data

/-- With the assumption that the models that are held are read back. -/
theorem Durable.withModels
    (durable : Durable sources client sound holds) (models : Models) :
    Durable sources client
      (fun world => sound world ∧ models.InverseOn (Held holds world))
      holds where
  before := by
    rintro world request ⟨isSound, inverse⟩
    refine ⟨durable.before world request isSound, inverse.mono ?_⟩
    rintro text ⟨root, held⟩
    exact ⟨root, durable.stays world request root text isSound held⟩
  calm := by
    rintro kvs world request within ⟨isSound, inverse⟩
    refine ⟨durable.calm kvs world request within isSound, inverse.mono ?_⟩
    rintro text ⟨root, held⟩
    exact ⟨root, durable.nothingNew kvs world request root text within held⟩
  nothingNew := durable.nothingNew
  stays := fun world request root data isSound =>
    durable.stays world request root data isSound.1
  upload := durable.upload
  download := durable.download

/-! ## What the log keeps -/

/-- An entry as it is stored. -/
def LogEntry.stored (entry : LogEntry) : LogEntry :=
  { entry with rootHash := none }

/-- What the caller gave is in the entry. -/
structure LogEntry.Records
    (entry : LogEntry) (eventType : LogEventType) (agentRole : String)
    (data : Option Dict) : Prop where
  eventType : entry.eventType = eventType
  agentRole : entry.agentRole = agentRole
  data : entry.data = data.getD []

/-- The root of the entry holds it. -/
def EntryHeld
    (models : Models) (holds : World live → String → Bytes → Prop)
    (world : World live) (entry : LogEntry) : Prop :=
  ∃ root, entry.rootHash = some root ∧
    holds world root (models.logEntry.encode entry.stored)

/-- The index lists the entries. -/
structure IndexOf (logged : List LogEntry) (index : LogIndex) : Prop where
  roots : index.entries.map some = logged.map LogEntry.rootHash
  count : index.entryCount = logged.length

/-- The stored index lists the entries; none is stored before the first. -/
def IndexStored
    (models : Models) (logged : List LogEntry)
    (dict : Mapping String Bytes) : Prop :=
  match dict.get? KVKey.logIndex with
  | none => logged = []
  | some raw =>
      ∃ index, raw = models.logIndex.encode index ∧
        models.logIndex.decode raw = .ok index ∧ IndexOf logged index

structure Logged
    (models : Models) (holds : World live → String → Bytes → Prop)
    (kv : KvId) (logged : List LogEntry) (dict : Mapping String Bytes)
    (world : World live) : Prop where
  shows : Shows holds kv dict world
  index : IndexStored models logged dict
  held : ∀ entry ∈ logged, EntryHeld models holds world entry

theorem indexOf_empty (now : String) : IndexOf [] (.default now) :=
  ⟨rfl, rfl⟩

theorem IndexOf.append
    {logged : List LogEntry} {index : LogIndex}
    (lists : IndexOf logged index) {entry : LogEntry} {root : String}
    (isRoot : entry.rootHash = some root) (now : String) :
    IndexOf (logged ++ [entry]) (index.append root now) where
  roots := by
    simp only [LogIndex.append, List.map_append, lists.roots,
      List.map_cons, List.map_nil, isRoot]
  count := by
    simp only [LogIndex.append, lists.count, List.length_append,
      List.length_singleton]
    rfl

/-! ## What the operations may change -/

section Uses

variable
  {kvs : KvId → Prop} {stores : Prop} (self : SwarmLog) (models : Models)

theorem uses_loadIndex :
    (self.loadIndex models).Uses (StorageCall.Within kvs stores) := by
  refine (uses_get self.kv KVKey.logIndex).bind fun raw => ?_
  split
  · exact Program.uses_done _
  · exact uses_ask_bind trivial fun _ => Program.uses_done _

theorem uses_newEntry
    (eventType : LogEventType) (agentRole : String) (data : Option Dict) :
    (SwarmLog.newEntry eventType agentRole data).Uses
      (StorageCall.Within kvs stores) := by
  refine uses_ask_bind trivial fun _ => ?_
  exact uses_ask_bind trivial fun _ => Program.uses_done _

theorem uses_extendIndex
    (may : stores) (own : kvs self.kv.id) (rootHash : String) :
    (self.extendIndex models rootHash).Uses
      (StorageCall.Within kvs stores) := by
  refine (uses_loadIndex self models).bind fun _ => ?_
  refine uses_ask_bind trivial fun _ => ?_
  exact (uses_set self.kv may own _ _).bind fun _ => Program.uses_done _

theorem uses_append
    (may : stores) (own : kvs self.kv.id) (eventType : LogEventType)
    (agentRole : String) (data : Option Dict) :
    (self.append models eventType agentRole data).Uses
      (StorageCall.Within kvs stores) := by
  refine (uses_newEntry eventType agentRole data).bind fun entry => ?_
  refine (uses_upload may self.client _).bind fun result => ?_
  exact (uses_extendIndex self models may own _).bind fun _ =>
    Program.uses_done _

theorem uses_fetch (roots : List String) :
    (self.fetch models roots).Uses (StorageCall.Within kvs stores) := by
  induction roots with
  | nil => exact Program.uses_done _
  | cons root roots inductionHypothesis =>
      refine Program.Uses.bind ?_ fun _ =>
        inductionHypothesis.bind fun _ => Program.uses_done _
      refine Program.Uses.attempt ?_
      exact (uses_download self.client root).bind fun _ =>
        Program.uses_ofExcept _

theorem uses_recent (limit : Int) :
    (self.recent models limit).Uses (StorageCall.Within kvs stores) :=
  (uses_loadIndex self models).bind fun _ => uses_fetch self models _

end Uses

/-! ## The operations over a durable client -/

section Operations

variable
  (durable : Durable sources client sound holds) {models : Models}
  (inverse : ∀ world, sound world → models.InverseOn (Held holds world))

variable (models) in
theorem Durable.stable_entriesHeld
    (allowed : StorageCall → Prop) (logged : List LogEntry) :
    durable.setting.Stable allowed fun world =>
      ∀ entry ∈ logged, EntryHeld models holds world entry := by
  intro world request _ isSound held entry member
  obtain ⟨root, isRoot, there⟩ := held entry member
  exact ⟨root, isRoot, durable.stays world request root _ isSound there⟩

variable (models) in
theorem Durable.stable_logged
    (kvs : KvId → Prop) (stores : Prop) (kv : KvId) (other : ¬ kvs kv)
    (logged : List LogEntry) (dict : Mapping String Bytes) :
    durable.setting.Stable (StorageCall.Within kvs stores)
      (Logged models holds kv logged dict) := by
  rintro world request within isSound ⟨shows, index, held⟩
  exact ⟨
    durable.stable_shows kvs stores kv other dict world request within
      isSound shows,
    index,
    durable.stable_entriesHeld models (StorageCall.Within kvs stores) logged world
      request within isSound held⟩

/-- The index that is loaded lists the entries. -/
theorem Durable.loadIndex_returns
    (kv : KvId) {logged : List LogEntry} {dict : Mapping String Bytes}
    (stored : IndexStored models logged dict) :
    Returns durable.setting (Shows holds kv dict)
      (SwarmLog.loadIndex ⟨client, ⟨kv, client⟩⟩ models)
      fun index _ => IndexOf logged index := by
  refine (durable.get_returns kv KVKey.logIndex dict).bind fun raw => ?_
  rintro world rfl _
  rw [IndexStored] at stored
  cases found : dict.get? KVKey.logIndex with
  | none =>
      rw [found] at stored
      rw [stored]
      exact ⟨_, rfl, indexOf_empty _⟩
  | some raw =>
      rw [found] at stored
      obtain ⟨index, _, decoded, lists⟩ := stored
      simp only [Option.map_some, decoded]
      exact ⟨index, rfl, lists⟩

include inverse in
/-- The index is extended by the root of the entry. -/
theorem Durable.storeIndex_triple
    (kv : KvId) {logged : List LogEntry} {dict : Mapping String Bytes}
    (stored : IndexStored models logged dict)
    {entry : LogEntry} {root : String}
    (isRoot : entry.rootHash = some root) :
    Triple durable.setting (Shows holds kv dict)
      (SwarmLog.extendIndex ⟨client, ⟨kv, client⟩⟩ models root)
      fun _ world => ∃ raw,
        Shows holds kv (dict.set KVKey.logIndex raw) world ∧
          IndexStored models (logged ++ [entry])
            (dict.set KVKey.logIndex raw) := by
  refine (durable.reading_triple (durable.loadIndex_returns kv stored)
    (uses_loadIndex _ models)).bind fun index => ?_
  refine Triple.of_fact fun lists => ?_
  refine Triple.stable_bind
    (durable.stable_shows (fun _ => False) False kv id dict) trivial
    fun now => ?_
  refine (durable.set_triple kv KVKey.logIndex
    (models.logIndex.encode (index.append root now)) dict).with_sound.bind
      fun result => ?_
  refine Triple.done ?_
  rintro world ⟨⟨shows, held⟩, isSound⟩
  refine ⟨_, shows, ?_⟩
  rw [IndexStored, Mapping.get?_set_self]
  exact ⟨_, rfl, (inverse world isSound).logIndex _ ⟨_, held⟩,
    lists.append isRoot now⟩

include inverse in
/-- Once its entry is held, the log has one entry more. -/
theorem Durable.extendIndex_triple
    (kv : KvId) (logged : List LogEntry) (dict : Mapping String Bytes)
    {entry : LogEntry} {root : String}
    (isRoot : entry.rootHash = some root) :
    Triple durable.setting
      (fun world =>
        Logged models holds kv logged dict world ∧
          EntryHeld models holds world entry)
      (SwarmLog.extendIndex ⟨client, ⟨kv, client⟩⟩ models root)
      fun _ world => ∃ raw,
        Logged models holds kv (logged ++ [entry])
          (dict.set KVKey.logIndex raw) world := by
  rintro world done last ⟨⟨shows, stored, held⟩, entryHeld⟩ finished isSound
  have allHeld : ∀ tested ∈ logged ++ [entry],
      EntryHeld models holds world tested := by
    intro tested member
    rcases List.mem_append.mp member with earlier | isLast
    · exact held tested earlier
    · exact List.mem_singleton.mp isLast ▸ entryHeld
  have uses :
      (SwarmLog.extendIndex ⟨client, ⟨kv, client⟩⟩ models root).Uses
        (StorageCall.Within (· = kv) True) := by
    refine uses_extendIndex _ models trivial ?_ root
    rfl
  obtain ⟨⟨raw, showsNow, storedNow⟩, heldNow⟩ :=
    (durable.storeIndex_triple inverse kv stored isRoot).frame uses
      (durable.stable_entriesHeld models _ (logged ++ [entry]))
      world done last ⟨shows, allHeld⟩ finished isSound
  exact ⟨raw, showsNow, storedNow, heldNow⟩

theorem newEntry_triple
    {setting : Setting StorageVocabulary (World live)}
    {assertion : World live → Prop}
    (stable : setting.Stable (StorageCall.Within (fun _ => False) True)
      assertion)
    (eventType : LogEventType) (agentRole : String) (data : Option Dict) :
    Triple setting assertion
      (SwarmLog.newEntry eventType agentRole data)
      fun entry world =>
        (entry.rootHash = none ∧ entry.Records eventType agentRole data) ∧
          assertion world := by
  refine Triple.stable_bind stable trivial fun entryId => ?_
  refine Triple.stable_bind stable trivial fun timestamp => ?_
  exact Triple.done fun world holds => ⟨⟨rfl, rfl, rfl, rfl⟩, holds⟩

include inverse in
/-- An append adds its entry at the end and leaves every other key alone. -/
theorem Durable.append_triple
    (kv : KvId) (logged : List LogEntry) (dict : Mapping String Bytes)
    (eventType : LogEventType) (agentRole : String) (data : Option Dict) :
    Triple durable.setting (Logged models holds kv logged dict)
      (SwarmLog.append ⟨client, ⟨kv, client⟩⟩ models eventType agentRole
        data)
      fun entry world =>
        entry.Records eventType agentRole data ∧
          ∃ raw, Logged models holds kv (logged ++ [entry])
            (dict.set KVKey.logIndex raw) world := by
  have stable :=
    durable.stable_logged models (fun _ => False) True kv id logged dict
  refine (newEntry_triple stable eventType agentRole data).bind
    fun entry => Triple.of_fact fun isNew => ?_
  obtain ⟨noRoot, records⟩ := isNew
  have uploaded :=
    (durable.upload_triple (models.logEntry.encode entry)).frame
      (uses_upload trivial client _) stable
  refine (uploaded.strengthen fun world logs => ⟨trivial, logs⟩).bind
    fun result => ?_
  have isStored : ({ entry with rootHash := some result.rootHash } :
      LogEntry).stored = entry := by
    obtain ⟨entryId, kind, role, timestamp, content, rootHash⟩ := entry
    cases noRoot
    rfl
  have isRoot : ({ entry with rootHash := some result.rootHash } :
      LogEntry).rootHash = some result.rootHash := rfl
  have extended :=
    durable.extendIndex_triple inverse kv logged dict isRoot
  refine (extended.strengthen ?_).bind fun _ => ?_
  · rintro world ⟨held, logs⟩
    exact ⟨logs, result.rootHash, rfl, isStored ▸ held⟩
  · refine Triple.done fun world extendedLog => ⟨?_, extendedLog⟩
    exact ⟨records.eventType, records.agentRole, records.data⟩

/-! ## Other keys -/

theorem IndexStored.congr
    {logged : List LogEntry} {dict other : Mapping String Bytes}
    (stored : IndexStored models logged dict)
    (same : other.get? KVKey.logIndex = dict.get? KVKey.logIndex) :
    IndexStored models logged other := by
  rw [IndexStored, same]
  exact stored

/-- Setting another key leaves the log as it is. -/
theorem Durable.set_logged_triple
    (kv : KvId) (logged : List LogEntry) (dict : Mapping String Bytes)
    {key : String} (other : key ≠ KVKey.logIndex) (value : Bytes) :
    Triple durable.setting (Logged models holds kv logged dict)
      ((⟨kv, client⟩ : SwarmKV).set key value)
      fun result world =>
        Logged models holds kv logged (dict.set key value) world ∧
          holds world result.rootHash value := by
  rintro world result last ⟨shows, stored, held⟩ finished isSound
  have uses :
      ((⟨kv, client⟩ : SwarmKV).set key value).Uses
        (StorageCall.Within (· = kv) True) := by
    refine uses_set _ trivial ?_ key value
    rfl
  obtain ⟨⟨showsNow, there⟩, heldNow⟩ :=
    (durable.set_triple kv key value dict).frame uses
      (durable.stable_entriesHeld models _ logged) world result last ⟨shows, held⟩
      finished isSound
  have same := dict.get?_set_of_ne (Ne.symm other) value
  exact ⟨⟨showsNow, stored.congr same, heldNow⟩, there⟩

theorem Durable.delete_logged_triple
    (kv : KvId) (logged : List LogEntry) (dict : Mapping String Bytes)
    {key : String} (other : key ≠ KVKey.logIndex) :
    Triple durable.setting (Logged models holds kv logged dict)
      ((⟨kv, client⟩ : SwarmKV).delete key)
      fun _ world =>
        Logged models holds kv logged (dict.erase key) world := by
  rintro world result last ⟨shows, stored, held⟩ finished isSound
  have uses :
      ((⟨kv, client⟩ : SwarmKV).delete key).Uses
        (StorageCall.Within (· = kv) True) := by
    refine uses_delete _ trivial ?_ key
    rfl
  obtain ⟨showsNow, heldNow⟩ :=
    (durable.delete_triple kv key dict).frame uses
      (durable.stable_entriesHeld models _ logged) world result last ⟨shows, held⟩
      finished isSound
  have same :
      (dict.erase key).get? KVKey.logIndex = dict.get? KVKey.logIndex := by
    rw [Mapping.get?_erase, if_neg (Ne.symm other)]
  exact ⟨showsNow, stored.congr same, heldNow⟩

/-! ## Reading the log -/

include inverse in
theorem Durable.readEntry_returns (root : String) (entry : LogEntry) :
    Returns durable.setting
      (fun world => holds world root (models.logEntry.encode entry))
      ((do
        let raw ← client.download root
        .ofExcept (models.logEntry.decode raw) : Steps LogEntry))
      fun read _ => read = entry := by
  intro world held isSound
  have decodes :=
    (inverse world (durable.setting.sound_of_run _ world isSound)).logEntry
      entry ⟨root, held⟩
  have returns : Returns durable.setting
      (fun world => holds world root (models.logEntry.encode entry))
      ((do
        let raw ← client.download root
        .ofExcept (models.logEntry.decode raw) : Steps LogEntry))
      fun read _ => read = entry := by
    refine (durable.download_returns root _).bind fun raw => ?_
    rintro reached rfl _
    rw [decodes]
    exact ⟨entry, rfl, rfl⟩
  exact returns world held isSound

include inverse in
/-- Entries that are held are all fetched, in their order. -/
theorem Durable.fetch_returns
    (kv : SwarmKV) {logged : List LogEntry} {roots : List String}
    (areRoots : roots.map some = logged.map LogEntry.rootHash) :
    Returns durable.setting
      (fun world => ∀ entry ∈ logged, EntryHeld models holds world entry)
      (SwarmLog.fetch ⟨client, kv⟩ models roots)
      fun fetched _ => fetched = logged.map LogEntry.stored := by
  induction logged generalizing roots with
  | nil =>
      have noRoots : roots = [] := List.map_eq_nil_iff.mp areRoots
      rw [noRoots]
      exact Returns.done fun _ _ => rfl
  | cons entry logged inductionHypothesis =>
      cases roots with
      | nil => cases areRoots
      | cons root roots =>
          obtain ⟨isRoot, restRoots⟩ := List.cons.inj areRoots
          have stable := durable.stable_entriesHeld models
            (fun _ => True) logged
          refine Returns.strengthen (Returns.bind
            ((durable.readEntry_returns inverse root
                entry.stored).attempt.frame (Program.uses_any _) stable)
            fun outcome => Returns.of_fact fun isOutcome => ?_) ?_
          · obtain ⟨_, rfl, rfl⟩ := isOutcome
            refine (inductionHypothesis restRoots).bind fun fetched => ?_
            exact Returns.done fun _ isFetched => by rw [isFetched]; rfl
          · intro world held
            obtain ⟨found, same, there⟩ := held entry List.mem_cons_self
            rw [← isRoot] at same
            cases same
            exact ⟨there, fun tested member =>
              held tested (List.mem_cons_of_mem _ member)⟩

theorem map_sliceFrom {α β : Type}
    (change : α → β) (items : List α) (start : Int) :
    (sliceFrom items start).map change =
      sliceFrom (items.map change) start := by
  simp only [sliceFrom, List.length_map]
  split <;> rw [List.map_drop]

include inverse in
/-- `recent` returns a slice of the entries, as they were stored. -/
theorem Durable.recent_returns
    (kv : KvId) (logged : List LogEntry) (dict : Mapping String Bytes)
    (limit : Int) :
    Returns durable.setting (Logged models holds kv logged dict)
      (SwarmLog.recent ⟨client, ⟨kv, client⟩⟩ models limit)
      fun recent _ =>
        recent = (sliceFrom logged (-limit)).map LogEntry.stored := by
  rintro world ⟨shows, stored, held⟩ isSound
  have loaded :=
    (durable.loadIndex_returns kv stored).frame
      (Program.uses_any _)
      (durable.stable_entriesHeld models _ logged)
  have returns : Returns durable.setting
      (fun reached => Shows holds kv dict reached ∧
        ∀ entry ∈ logged, EntryHeld models holds reached entry)
      (SwarmLog.recent ⟨client, ⟨kv, client⟩⟩ models limit)
      fun recent _ =>
        recent = (sliceFrom logged (-limit)).map LogEntry.stored := by
    refine loaded.bind fun index => Returns.of_fact fun lists => ?_
    have areRoots :
        (sliceFrom index.entries (-limit)).map some =
          (sliceFrom logged (-limit)).map LogEntry.rootHash := by
      rw [map_sliceFrom, map_sliceFrom, lists.roots]
    refine (durable.fetch_returns inverse _ areRoots).strengthen ?_
    intro reached there entry member
    refine there entry ?_
    rw [sliceFrom] at member
    split at member
    · exact List.mem_of_mem_drop member
    · exact List.mem_of_mem_drop member
  exact returns world ⟨shows, held⟩ isSound

end Operations

end SwarmFi.Core.Storage

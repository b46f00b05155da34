import SwarmFi.Core.Storage.Durable
import SwarmFi.Core.Storage.Kv
import SwarmFi.Foundation.Triple
import SwarmFi.Python.JsonRoundTrip

/-!
# The key-value store as a durable map

Over a durable client a `SwarmKV` shows a plain dict: its manifest lists the
roots of the values, and the root it has published is that of a manifest with
the same items.  Every operation does to the dict what it says, and loading
the published root into another `SwarmKV` shows the dict again.
-/

namespace SwarmFi.Core.Storage

open Foundation Python

/-! ## What the operations may change -/

theorem StorageCall.Within.mono
    {kvs wider : KvId → Prop} {stores more : Prop} {request : StorageCall}
    (within : request.Within kvs stores)
    (kvsWider : ∀ kv, kvs kv → wider kv) (storesMore : stores → more) :
    request.Within wider more := by
  cases request with
  | keepBlob data => exact storesMore within
  | keepSnapshot root tx => exact storesMore within
  | sidecarUpload data => exact storesMore within
  | assign kv key root => exact kvsWider kv within
  | remove kv key => exact kvsWider kv within
  | setManifest kv manifest => exact kvsWider kv within
  | setManifestRoot kv root => exact kvsWider kv within
  | _ => trivial

section Uses

variable {kvs : KvId → Prop} {stores : Prop}

theorem uses_ask_bind
    {α : Type} {request : StorageCall} {next : request.Answer → Steps α}
    (within : request.Within kvs stores)
    (rest : ∀ answer, (next answer).Uses (StorageCall.Within kvs stores)) :
    ((ask request).bind next).Uses (StorageCall.Within kvs stores) :=
  ⟨within, rest⟩

theorem uses_liveUpload (may : stores) (data : Bytes) :
    (ZeroGStorageClient.upload data).Uses
      (StorageCall.Within kvs stores) := by
  refine uses_ask_bind may fun _ => ?_
  refine (Program.uses_ofExcept _).bind fun _ => ?_
  exact Program.uses_ofExcept _

theorem uses_upload (may : stores) (client : ZeroGClient) (data : Bytes) :
    (client.upload data).Uses (StorageCall.Within kvs stores) := by
  refine (Program.uses_ofExcept _).bind fun framed => ?_
  cases client.backend with
  | inMemory => exact uses_ask_bind may fun _ => Program.uses_done _
  | buffered => exact uses_ask_bind may fun _ => Program.uses_done _
  | live => exact uses_liveUpload may framed

theorem uses_liveDownload (rootHash : String) :
    (ZeroGStorageClient.download rootHash).Uses
      (StorageCall.Within kvs stores) :=
  uses_ask_bind trivial fun _ => Program.uses_ofExcept _

theorem uses_download (client : ZeroGClient) (rootHash : String) :
    (client.download rootHash).Uses (StorageCall.Within kvs stores) := by
  refine Program.Uses.bind ?_ fun _ => Program.uses_done _
  cases client.backend with
  | inMemory =>
      refine uses_ask_bind trivial fun store => ?_
      split
      · exact Program.uses_done _
      · exact Program.uses_raise _
  | buffered =>
      refine uses_ask_bind trivial fun mem => ?_
      split
      · exact Program.uses_done _
      · split
        · exact Program.uses_done _
        · exact uses_liveDownload rootHash
  | live => exact uses_liveDownload rootHash

variable (self : SwarmKV)

theorem uses_persistManifest (may : stores) (own : kvs self.id) :
    self.persistManifest.Uses (StorageCall.Within kvs stores) := by
  refine uses_ask_bind trivial fun _ => ?_
  refine uses_ask_bind trivial fun _ => ?_
  refine (uses_upload may self.client _).bind fun _ => ?_
  exact uses_ask_bind own fun _ => Program.uses_done _

theorem uses_set
    (may : stores) (own : kvs self.id) (key : String) (value : Bytes) :
    (self.set key value).Uses (StorageCall.Within kvs stores) := by
  refine (uses_upload may self.client _).bind fun _ => ?_
  refine uses_ask_bind own fun _ => ?_
  refine (Program.uses_ofExcept _).bind fun _ => ?_
  exact (uses_persistManifest self may own).bind fun _ =>
    Program.uses_done _

theorem uses_get (key : String) :
    (self.get key).Uses (StorageCall.Within kvs stores) := by
  refine uses_ask_bind trivial fun _ => ?_
  refine (Program.uses_ofExcept _).bind fun rootHash => ?_
  cases rootHash with
  | null => exact Program.uses_done _
  | str root =>
      exact (uses_download self.client root).bind fun _ =>
        Program.uses_done _
  | _ => exact Program.uses_raise _

theorem uses_getOrDefault (key : String) (default : Bytes) :
    (self.getOrDefault key default).Uses (StorageCall.Within kvs stores) :=
  (uses_get self key).bind fun _ => Program.uses_done _

theorem uses_delete (may : stores) (own : kvs self.id) (key : String) :
    (self.delete key).Uses (StorageCall.Within kvs stores) := by
  refine uses_ask_bind trivial fun _ => ?_
  refine (Program.uses_ofExcept _).bind fun present => ?_
  cases present with
  | true =>
      refine uses_ask_bind own fun _ => ?_
      refine (Program.uses_ofExcept _).bind fun _ => ?_
      exact (uses_persistManifest self may own).bind fun _ =>
        Program.uses_done _
  | false => exact Program.uses_done _

theorem uses_exists (key : String) :
    (self.exists key).Uses (StorageCall.Within kvs stores) :=
  uses_ask_bind trivial fun _ => Program.uses_ofExcept _

theorem uses_keys : self.keys.Uses (StorageCall.Within kvs stores) :=
  uses_ask_bind trivial fun _ => Program.uses_ofExcept _

theorem uses_readManifest (own : kvs self.id) (root : String) :
    (self.readManifest root).Uses (StorageCall.Within kvs stores) := by
  refine (uses_download self.client root).bind fun _ => ?_
  refine (Program.uses_ofExcept _).bind fun _ => ?_
  refine (Program.uses_ofExcept _).bind fun _ => ?_
  refine uses_ask_bind own fun _ => ?_
  refine uses_ask_bind own fun _ => ?_
  exact (Program.uses_ofExcept _).bind fun _ => Program.uses_done _

theorem uses_loadManifest (own : kvs self.id) (root : Option String) :
    (self.loadManifest root).Uses (StorageCall.Within kvs stores) := by
  cases root with
  | none => exact Program.uses_done _
  | some root =>
      exact (uses_readManifest self own root).recover fun _ =>
        ⟨own, fun _ => Program.uses_done _⟩

end Uses

/-! ## A manifest and the dict it stands for -/

section Shows

variable {live : LiveBackend}

/-- The manifest lists the roots, and the values are under them. -/
def Lists
    (holds : World live → String → Bytes → Prop) (kv : KvId)
    (roots : Mapping String String) (map : Mapping String Bytes)
    (world : World live) : Prop :=
  (world.kvs kv).manifest = roots.toJson ∧
    Mapping.Related (holds world) roots map

/-- The published root is that of a manifest with the same items; nothing has
been published of an empty one. -/
def Published
    (holds : World live → String → Bytes → Prop) (kv : KvId)
    (roots : Mapping String String) (world : World live) : Prop :=
  match (world.kvs kv).manifestRoot with
  | none => roots.items = []
  | some root =>
      ∃ (ts : String) (listed : Mapping String String),
        listed.items.Perm roots.items ∧
          holds world root (manifestPayload ts listed.toJson)

def Shows
    (holds : World live → String → Bytes → Prop) (kv : KvId)
    (map : Mapping String Bytes) (world : World live) : Prop :=
  ∃ roots, Lists holds kv roots map world ∧ Published holds kv roots world

/-- A `SwarmKV` that has not been used. -/
theorem shows_fresh
    (holds : World live → String → Bytes → Prop) {kv : KvId}
    {world : World live} (fresh : world.kvs kv = .fresh) :
    Shows holds kv .empty world := by
  refine ⟨.empty, ⟨?_, Mapping.related_empty⟩, ?_⟩
  · rw [fresh]
    rfl
  · rw [Published, fresh]
    rfl

/-! ## The operations over a durable client -/

variable
  {sources : Sources} {client : ZeroGClient}
  {sound : World live → Prop}
  {holds : World live → String → Bytes → Prop}

abbrev Durable.setting (durable : Durable sources client sound holds) :
    Setting StorageVocabulary (World live) where
  environment := environment live sources
  sound := sound
  before := durable.before

theorem kvs_of_within
    {kvs : KvId → Prop} {stores : Prop} {request : StorageCall}
    (within : request.Within kvs stores) {kv : KvId} (other : ¬ kvs kv)
    (world : World live) :
    (environment live sources world request).2.kvs kv = world.kvs kv := by
  have away :
      ∀ changed state, kvs changed →
        (world.setKv changed state).kvs kv = world.kvs kv := by
    rintro changed state isChanged
    refine Function.update_of_ne ?_ _ _
    rintro rfl
    exact other isChanged
  cases request with
  | assign changed key root =>
      simp only [environment, World.changeManifest]
      split
      · exact away changed _ within
      · rfl
  | remove changed key =>
      simp only [environment, World.changeManifest]
      split
      · exact away changed _ within
      · rfl
  | setManifest changed manifest => exact away changed _ within
  | setManifestRoot changed root => exact away changed _ within
  | _ => rfl

variable (durable : Durable sources client sound holds)

include durable in
/-- Values that are there stay there. -/
theorem Durable.related_stays
    {world : World live} {request : StorageCall}
    (isSound : sound (environment live sources world request).2)
    {roots : Mapping String String} {map : Mapping String Bytes}
    (values : Mapping.Related (holds world) roots map) :
    Mapping.Related (holds (environment live sources world request).2)
      roots map :=
  values.mono fun root data =>
    durable.stays world request root data isSound

theorem Durable.stable_related
    (allowed : StorageCall → Prop)
    (roots : Mapping String String) (map : Mapping String Bytes) :
    durable.setting.Stable allowed fun world =>
      Mapping.Related (holds world) roots map :=
  fun _ _ _ isSound values => durable.related_stays isSound values

theorem Durable.stable_holds
    (allowed : StorageCall → Prop) (root : String) (data : Bytes) :
    durable.setting.Stable allowed fun world => holds world root data :=
  fun world request _ isSound held =>
    durable.stays world request root data isSound held

section Stable

variable
  (kvs : KvId → Prop) (stores : Prop) (kv : KvId) (other : ¬ kvs kv)

include other

theorem Durable.stable_cell
    (property : KvState → Prop) :
    durable.setting.Stable (StorageCall.Within kvs stores)
      fun world => property (world.kvs kv) := by
  intro world request within _ holds
  show property ((environment live sources world request).2.kvs kv)
  rw [kvs_of_within within other]
  exact holds

theorem Durable.stable_lists
    (roots : Mapping String String)
    (map : Mapping String Bytes) :
    durable.setting.Stable (StorageCall.Within kvs stores)
      (Lists holds kv roots map) := by
  rintro world request within isSound ⟨manifest, values⟩
  refine ⟨?_, durable.related_stays isSound values⟩
  show ((environment live sources world request).2.kvs kv).manifest = _
  rw [kvs_of_within within other]
  exact manifest

theorem Durable.stable_published
    (roots : Mapping String String) :
    durable.setting.Stable (StorageCall.Within kvs stores)
      (Published holds kv roots) := by
  intro world request within isSound published
  show Published holds kv roots (environment live sources world request).2
  rw [Published, kvs_of_within within other]
  rw [Published] at published
  cases isRoot : (world.kvs kv).manifestRoot with
  | none =>
      rw [isRoot] at published
      exact published
  | some root =>
      rw [isRoot] at published
      obtain ⟨ts, listed, reordered, held⟩ := published
      exact ⟨ts, listed, reordered,
        durable.stays world request root _ isSound held⟩

theorem Durable.stable_shows
    (map : Mapping String Bytes) :
    durable.setting.Stable (StorageCall.Within kvs stores)
      (Shows holds kv map) := by
  rintro world request within isSound ⟨roots, lists, published⟩
  exact ⟨roots,
    durable.stable_lists kvs stores kv other roots map world request within
      isSound lists,
    durable.stable_published kvs stores kv other roots world request within
      isSound published⟩

end Stable

/-! ## Writing -/

theorem Durable.upload_triple (data : Bytes) :
    Triple durable.setting (fun _ => True) (client.upload data)
      fun result world => holds world result.rootHash data :=
  fun world result last _ finished _ =>
    durable.upload world last data result finished

include durable in
/-- Assigning the root of an uploaded manifest publishes it. -/
theorem Durable.publish_step
    {kv : KvId} {root ts : String} {listed roots : Mapping String String}
    {map : Mapping String Bytes} {world : World live}
    (isSound : sound
      (environment live sources world (.setManifestRoot kv root)).2)
    (held : holds world root (manifestPayload ts listed.toJson))
    (reordered : listed.items.Perm roots.items)
    (lists : Lists holds kv roots map world) :
    Lists holds kv roots map
        (environment live sources world (.setManifestRoot kv root)).2 ∧
      Published holds kv roots
        (environment live sources world (.setManifestRoot kv root)).2 := by
  have cell :
      (environment live sources world (.setManifestRoot kv root)).2.kvs kv =
        ⟨(world.kvs kv).manifest, some root⟩ :=
    Function.update_self _ _ _
  refine ⟨⟨?_, durable.related_stays isSound lists.2⟩, ?_⟩
  · rw [cell]
    exact lists.1
  · rw [Published, cell]
    exact ⟨ts, listed, reordered,
      durable.stays world _ _ _ isSound held⟩

theorem Durable.persistManifest_triple
    (kv : KvId) (roots : Mapping String String)
    (map : Mapping String Bytes) :
    Triple durable.setting (Lists holds kv roots map)
      (⟨kv, client⟩ : SwarmKV).persistManifest
      fun _ world =>
        Lists holds kv roots map world ∧ Published holds kv roots world := by
  have stable :=
    durable.stable_lists (fun _ => False) True kv id roots map
  refine Triple.stable_bind stable trivial fun ts => ?_
  refine Triple.call_bind
    (fun manifest world =>
      manifest = roots.toJson ∧ Lists holds kv roots map world)
    (fun world lists _ => ⟨lists.1, lists⟩) fun manifest => ?_
  refine Triple.of_fact fun isManifest => ?_
  subst isManifest
  have uploaded :=
    (durable.upload_triple (manifestPayload ts roots.toJson)).frame
      (uses_upload trivial client _) stable
  refine (uploaded.strengthen fun world lists => ⟨trivial, lists⟩).bind
    fun result => ?_
  refine Triple.call_bind
    (fun _ world =>
      Lists holds kv roots map world ∧ Published holds kv roots world)
    ?_ fun _ => Triple.done fun _ holds => holds
  intro world parts isSound
  exact durable.publish_step isSound parts.1 (List.Perm.refl _) parts.2

/-- `set` sets the key of the dict. -/
theorem Durable.set_triple
    (kv : KvId) (key : String) (value : Bytes)
    (map : Mapping String Bytes) :
    Triple durable.setting (Shows holds kv map)
      ((⟨kv, client⟩ : SwarmKV).set key value)
      fun result world =>
        Shows holds kv (map.set key value) world ∧
          holds world result.rootHash value := by
  refine Triple.exists_pre fun roots => ?_
  have uploaded :=
    (durable.upload_triple value).frame (uses_upload trivial client _)
      (durable.stable_lists (fun _ => False) True kv id roots map)
  refine (uploaded.strengthen fun world shows => ⟨trivial, shows.1⟩).bind
    fun result => ?_
  refine Triple.call_bind
    (fun _ world =>
      holds world result.rootHash value ∧
        Lists holds kv (roots.set key result.rootHash)
          (map.set key value) world) ?_ fun assigned => ?_
  · rintro world ⟨held, manifest, values⟩ isSound
    have later := durable.stays world _ _ _ isSound held
    refine ⟨later, ?_,
      (durable.related_stays isSound values).set key later⟩
    have item := roots.setItem_toJson key result.rootHash
    simp only [environment, manifest, item, World.changeManifest,
      World.setManifest, World.setKv, Function.update_self]
  · refine (Triple.ofExcept fun _ _ _ holds => holds).bind fun _ => ?_
    have uses :
        (⟨kv, client⟩ : SwarmKV).persistManifest.Uses
          (StorageCall.Within (· = kv) True) :=
      uses_persistManifest _ trivial rfl
    have persisted :=
      (durable.persistManifest_triple kv (roots.set key result.rootHash)
          (map.set key value)).frame uses
        (durable.stable_holds _ result.rootHash value)
    refine (persisted.strengthen fun world parts => parts.symm).bind
      fun _ => ?_
    exact Triple.done fun world parts => ⟨⟨_, parts.1⟩, parts.2⟩

/-- `delete` takes the key out of the dict. -/
theorem Durable.delete_triple
    (kv : KvId) (key : String) (map : Mapping String Bytes) :
    Triple durable.setting (Shows holds kv map)
      ((⟨kv, client⟩ : SwarmKV).delete key)
      fun _ => Shows holds kv (map.erase key) := by
  refine Triple.exists_pre fun roots => ?_
  refine Triple.call_bind
    (fun answer world =>
      answer = .ok (roots.contains key) ∧
        Lists holds kv roots map world ∧ Published holds kv roots world)
    ?_ fun answer => ?_
  · rintro world shows _
    refine ⟨?_, shows⟩
    simp only [environment, shows.1.1, roots.contains_toJson]
  refine Triple.of_fact fun isAnswer => ?_
  subst isAnswer
  refine (Triple.ofExcept fun present same world shows =>
    (⟨(Except.ok.inj same).symm, shows⟩ :
      present = roots.contains key ∧ _)).bind fun present => ?_
  refine Triple.of_fact fun isPresent => ?_
  subst isPresent
  cases present : roots.contains key with
  | false =>
      refine Triple.done fun world shows => ⟨roots, ?_⟩
      have absent : map.get? key = none := by
        rcases shows.1.2.get? key with ⟨_, none_⟩ | ⟨_, _, found, _⟩
        · exact none_
        · rw [Mapping.contains, found] at present
          cases present
      rw [Mapping.erase_of_absent absent]
      exact shows
  | true =>
      refine Triple.call_bind
        (fun _ => Lists holds kv (roots.erase key) (map.erase key))
        ?_ fun removed => ?_
      · rintro world ⟨⟨manifest, values⟩, _⟩ isSound
        refine ⟨?_, (durable.related_stays isSound values).erase key⟩
        have item := roots.delItem_toJson present
        simp only [environment, manifest, item, World.changeManifest,
          World.setManifest, World.setKv, Function.update_self]
      · refine (Triple.ofExcept fun _ _ _ holds => holds).bind fun _ => ?_
        refine (durable.persistManifest_triple kv _ _).bind fun _ => ?_
        exact Triple.done fun world parts => ⟨_, parts⟩

/-! ## Reading -/

theorem Durable.download_returns (root : String) (data : Bytes) :
    Returns durable.setting (fun world => holds world root data)
      (client.download root) fun raw _ => raw = data :=
  fun world held _ => ⟨data, durable.download world root data held, rfl⟩

/-- A program that only reads leaves the dict as it is. -/
theorem Durable.reading_triple
    {α : Type} {kv : KvId} {map : Mapping String Bytes}
    {program : Steps α} {fact : α → Prop}
    (returns : Returns durable.setting (Shows holds kv map) program
      fun answer _ => fact answer)
    (uses : program.Uses (StorageCall.Within (fun _ => False) False)) :
    Triple durable.setting (Shows holds kv map) program
      fun answer world => fact answer ∧ Shows holds kv map world :=
  (returns.frame uses
    (durable.stable_shows (fun _ => False) False kv id map)).triple.strengthen
      fun _ shows => ⟨shows, shows⟩

/-- The answer of a program that only reads. -/
theorem Durable.answer_of_returns
    {α : Type} {program : Steps α} {pre : World live → Prop} {expected : α}
    (returns : Returns durable.setting pre program
      fun answer _ => answer = expected)
    (uses : program.Uses (StorageCall.Within (fun _ => False) False))
    {world : World live} (isSound : sound world) (before : pre world) :
    (program.run (environment live sources) world).1 = .ok expected := by
  have calm : durable.setting.Calm
      (StorageCall.Within (fun _ => False) False) :=
    fun state request => durable.calm _ state request
  obtain ⟨answer, isOk, same⟩ := returns world before (calm.run uses isSound)
  rw [← same]
  exact isOk

/-- `get` finds what the dict has. -/
theorem Durable.get_returns
    (kv : KvId) (key : String) (map : Mapping String Bytes) :
    Returns durable.setting (Shows holds kv map)
      ((⟨kv, client⟩ : SwarmKV).get key)
      fun answer _ => answer = map.get? key := by
  refine Returns.exists_pre fun roots => ?_
  refine Returns.call_bind
    (fun answer world =>
      answer = .ok (((roots.get? key).map Json.str).getD .null) ∧
        Lists holds kv roots map world) ?_ fun answer => ?_
  · rintro world shows _
    refine ⟨?_, shows.1⟩
    simp only [environment, shows.1.1, roots.get_toJson]
  refine Returns.of_fact fun isAnswer => ?_
  subst isAnswer
  cases found : roots.get? key with
  | none =>
      refine Returns.done fun world lists => ?_
      rcases lists.2.get? key with ⟨_, absent⟩ | ⟨_, _, present, _⟩
      · exact absent.symm
      · rw [found] at present
        cases present
  | some root =>
      intro world lists isSound
      rcases lists.2.get? key with ⟨absent, _⟩ | ⟨_, data, same, isData, held⟩
      · rw [found] at absent
        cases absent
      · rw [found] at same
        cases same
        have returns : Returns durable.setting (fun world => holds world root data)
            (do return some (← client.download root))
            fun answer _ => answer = map.get? key :=
          (durable.download_returns root data).bind fun raw =>
            Returns.done fun _ isRaw => by rw [isRaw, isData]
        exact returns world held isSound

theorem Durable.getOrDefault_returns
    (kv : KvId) (key : String) (default : Bytes)
    (map : Mapping String Bytes) :
    Returns durable.setting (Shows holds kv map)
      ((⟨kv, client⟩ : SwarmKV).getOrDefault key default)
      fun answer _ => answer = (map.get? key).getD default :=
  (durable.get_returns kv key map).bind fun value =>
    Returns.done fun _ isValue => by rw [isValue]

theorem Durable.exists_returns
    (kv : KvId) (key : String) (map : Mapping String Bytes) :
    Returns durable.setting (Shows holds kv map)
      ((⟨kv, client⟩ : SwarmKV).exists key)
      fun answer _ => answer = map.contains key := by
  rintro world ⟨roots, ⟨manifest, values⟩, _⟩ _
  refine ⟨roots.contains key, ?_, ?_⟩
  · refine (congrArg Prod.fst (Program.run_ofExcept _ _ _)).trans ?_
    show (world.kvs kv).manifest.contains key = _
    rw [manifest, roots.contains_toJson]
  · rw [Mapping.contains, Mapping.contains]
    rcases values.get? key with ⟨none_, absent⟩ | ⟨_, _, some_, present, _⟩
    · rw [none_, absent]
      rfl
    · rw [some_, present]
      rfl

theorem Durable.keys_returns
    (kv : KvId) (map : Mapping String Bytes) :
    Returns durable.setting (Shows holds kv map)
      (⟨kv, client⟩ : SwarmKV).keys
      fun answer _ => answer = map.keys := by
  rintro world ⟨roots, ⟨manifest, values⟩, _⟩ _
  refine ⟨roots.keys, ?_, values.keys_eq⟩
  refine (congrArg Prod.fst (Program.run_ofExcept _ _ _)).trans ?_
  show (world.kvs kv).manifest.keys = _
  rw [manifest, roots.keys_toJson]

/-! ## Loading -/

/-- Sorting the keys of a dict of strings reorders it. -/
theorem sortKeys_toJson (mapping : Mapping String String) :
    ∃ sorted : Mapping String String,
      JsonWriter.sortKeys mapping.toJson = sorted.toJson ∧
        sorted.items.Perm mapping.items := by
  let byKey : String × String → String × String → Prop :=
    fun first second => first.1 ≤ second.1
  have reordered := List.perm_insertionSort byKey mapping.items
  have distinct :
      ((mapping.items.insertionSort byKey).map Prod.fst).Nodup :=
    (reordered.map Prod.fst).nodup_iff.mpr mapping.distinct
  refine ⟨⟨_, distinct⟩, ?_, reordered⟩
  have unchanged :
      mapping.toFields.map (Prod.map id JsonWriter.sortKeys) =
        mapping.toFields := by
    rw [Mapping.toFields, List.map_map]
    rfl
  rw [Mapping.toJson, JsonWriter.sortKeys, sortFields_eq, unchanged,
    Mapping.toFields, Mapping.toJson, Mapping.toFields,
    List.map_insertionSort byKey JsonWriter.ByKey]
  exact fun _ _ _ _ => Iff.rfl

theorem plain_toJson (mapping : Mapping String String) :
    mapping.toJson.Plain := by
  refine .obj _ ?_ ?_
  · rw [mapping.keys_toFields]
    exact mapping.distinct
  · intro field member
    obtain ⟨item, _, rfl⟩ := List.mem_map.mp member
    exact .str item.2

/-- A published manifest is read back with its keys sorted. -/
theorem loads_manifestPayload
    (ts : String) (listed : Mapping String String) :
    ∃ (text : String) (decoded : Json) (sorted : Mapping String String),
      decode (manifestPayload ts listed.toJson) = .ok text ∧
        JsonReader.loads text = .ok decoded ∧
          manifestOf decoded = sorted.toJson ∧
            sorted.items.Perm listed.items := by
  obtain ⟨sorted, isSorted, reordered⟩ := sortKeys_toJson listed
  have plain :
      (Json.obj [("_ts", .str ts), ("_keys", listed.toJson)]).Plain := by
    have distinct : ["_ts", "_keys"].Nodup := by decide
    refine .obj _ distinct ?_
    intro field member
    simp only [List.mem_cons, List.not_mem_nil, or_false] at member
    rcases member with rfl | rfl
    · exact .str ts
    · exact plain_toJson listed
  have sortedPair :
      JsonWriter.sortKeys
          (.obj [("_ts", .str ts), ("_keys", listed.toJson)]) =
        .obj [("_keys", sorted.toJson), ("_ts", .str ts)] := by
    have order : ¬ JsonWriter.ByKey ("_ts", Json.str ts)
        ("_keys", sorted.toJson) := by
      show ¬ ("_ts" ≤ "_keys")
      decide
    rw [JsonWriter.sortKeys, sortFields_eq, List.map_cons, List.map_cons,
      List.map_nil, Prod.map_apply, Prod.map_apply, isSorted]
    simp only [List.insertionSort_cons, List.insertionSort_nil,
      List.orderedInsert_nil, List.orderedInsert, id, JsonWriter.sortKeys,
      if_neg order]
  refine ⟨_, _, sorted, ?_, loads_dumpsSorted plain, ?_, reordered⟩
  · rw [manifestPayload]
    exact decode_encode _
  · rw [sortedPair]
    rfl

theorem Durable.readManifest_returns
    {fresh : KvId} {root ts text : String} {decoded : Json}
    {listed sorted : Mapping String String}
    {reloaded : Mapping String Bytes}
    (isText : decode (manifestPayload ts listed.toJson) = .ok text)
    (isDecoded : JsonReader.loads text = .ok decoded)
    (isManifest : manifestOf decoded = sorted.toJson)
    (reordered : sorted.items.Perm listed.items) :
    Returns durable.setting
      (fun world =>
        holds world root (manifestPayload ts listed.toJson) ∧
          Mapping.Related (holds world) sorted reloaded)
      ((⟨fresh, client⟩ : SwarmKV).readManifest root)
      fun _ => Shows holds fresh reloaded := by
  have stable :=
    (durable.stable_holds (StorageCall.Within (· = fresh) False) root
        (manifestPayload ts listed.toJson)).and
      (durable.stable_related _ sorted reloaded)
  have downloaded :=
    (durable.download_returns root (manifestPayload ts listed.toJson)).frame
      (uses_download client root) stable
  refine (downloaded.strengthen fun world parts => ⟨parts.1, parts⟩).bind
    fun raw => Returns.of_fact fun isRaw => ?_
  subst isRaw
  simp only [isText, isDecoded, isManifest, Program.bind_eq_bind,
    Program.ofExcept_ok, Program.done_bind]
  refine Returns.call_bind
    (fun _ world =>
      holds world root (manifestPayload ts listed.toJson) ∧
        Lists holds fresh sorted reloaded world) ?_ fun _ => ?_
  · rintro world ⟨held, values⟩ isSound
    refine ⟨durable.stays world _ _ _ isSound held, ?_,
      durable.related_stays isSound values⟩
    simp only [environment, World.setManifest, World.setKv,
      Function.update_self, isManifest]
  refine Returns.call_bind (fun _ => Shows holds fresh reloaded) ?_
    fun _ => Returns.done fun _ shows => shows
  intro world parts isSound
  exact ⟨sorted,
    durable.publish_step isSound parts.1 reordered.symm parts.2⟩

/-- Loading what one `SwarmKV` has published shows its dict in another. -/
theorem Durable.loadManifest_returns
    {kv fresh : KvId} (map : Mapping String Bytes) (root : Option String) :
    Returns durable.setting
      (fun world =>
        Shows holds kv map world ∧
          (world.kvs kv).manifestRoot = root ∧ world.kvs fresh = .fresh)
      ((⟨fresh, client⟩ : SwarmKV).loadManifest root)
      fun _ world => ∃ reloaded : Mapping String Bytes,
        reloaded.items.Perm map.items ∧
          Shows holds fresh reloaded world := by
  cases root with
  | none =>
      refine Returns.done ?_
      rintro world ⟨⟨roots, lists, published⟩, isRoot, isFresh⟩
      rw [Published, isRoot] at published
      have values := lists.2
      rw [Mapping.Related, published] at values
      have noItems : map.items = [] := List.forall₂_nil_left_iff.mp values
      refine ⟨.empty, ?_, shows_fresh holds isFresh⟩
      rw [noItems]
      exact List.Perm.refl _
  | some root =>
      refine Returns.recover ?_ _
      rintro world ⟨⟨roots, lists, published⟩, isRoot, isFresh⟩
      rw [Published, isRoot] at published
      obtain ⟨ts, listed, reordered, held⟩ := published
      obtain ⟨text, decoded, sorted, isText, isDecoded, isManifest,
        alsoReordered⟩ := loads_manifestPayload ts listed
      obtain ⟨reloaded, sameItems, values⟩ :=
        lists.2.reorder (alsoReordered.trans reordered)
      intro isSound
      obtain ⟨done, isOk, shows⟩ :=
        durable.readManifest_returns isText isDecoded isManifest
          alsoReordered world ⟨held, values⟩ isSound
      exact ⟨done, isOk, reloaded, sameItems, shows⟩

end Shows

end SwarmFi.Core.Storage

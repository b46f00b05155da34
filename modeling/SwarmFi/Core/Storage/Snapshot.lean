import SwarmFi.Core.Storage.DurableMap

/-!
# Snapshots

A flush of the buffered store uploads one JSON text with every blob in
hexadecimal.  The text is not framed, but it is read back through `unframe`,
which leaves it alone: its first four bytes are a length that it does not
have.  From the decoded snapshot and the root of the manifest every value can
be found again.
-/

namespace SwarmFi.Core.Storage

open Foundation Python

/-! ## Decoding a snapshot -/

/-- The bytes that a dict of hexadecimal texts stands for. -/
def unhex : Dict → Option (List (String × Bytes))
  | [] => some []
  | (root, .str text) :: rest => do
      let data ← fromHex text
      let items ← unhex rest
      return (root, data) :: items
  | _ => none

/-- The data map of a snapshot, decoded. -/
def snapshotData (decoded : Json) : Option (Mapping String Bytes) :=
  match decoded.get "data" with
  | .ok (.obj fields) =>
      match unhex fields with
      | some items =>
          if distinct : (items.map Prod.fst).Nodup then
            some ⟨items, distinct⟩
          else
            none
      | none => none
  | _ => none

theorem unhex_toFields
    {texts : Mapping String String} {data : Mapping String Bytes}
    (agree : Mapping.Related (fun text raw => text = hex raw) texts data) :
    unhex texts.toFields = some data.items := by
  obtain ⟨items, _⟩ := texts
  obtain ⟨others, _⟩ := data
  simp only [Mapping.Related, Mapping.toFields] at agree ⊢
  induction agree with
  | nil => rfl
  | @cons item other rest others here later inductionHypothesis =>
      obtain ⟨root, text⟩ := item
      obtain ⟨otherRoot, raw⟩ := other
      obtain ⟨sameRoot, isHex⟩ := here
      have isHexText : text = hex raw := isHex
      have readBack : fromHex text = some raw := by
        rw [isHexText, fromHex_hex]
      cases sameRoot
      have restItems := inductionHypothesis (List.nodup_cons.mp ‹_›).2
        (List.nodup_cons.mp ‹_›).2
      rw [List.map_cons, Prod.map_apply, unhex, readBack, restItems]
      rfl

theorem snapshotData_eq
    {texts : Mapping String String} {data : Mapping String Bytes}
    (agree : Mapping.Related (fun text raw => text = hex raw) texts data)
    {decoded : Json} (isData : decoded.get "data" = .ok texts.toJson) :
    snapshotData decoded = some data := by
  have distinct : (data.items.map Prod.fst).Nodup := data.distinct
  rw [snapshotData, isData]
  simp only [Mapping.toJson, unhex_toFields agree, dif_pos distinct]

theorem related_mapValues_hex (mem : Mapping String Bytes) :
    Mapping.Related (fun text raw => text = hex raw) (mem.mapValues hex)
      mem := by
  rw [Mapping.Related, Mapping.mapValues, List.forall₂_map_left_iff,
    List.forall₂_same]
  exact fun _ _ => ⟨rfl, rfl⟩

/-! ## The text of a snapshot -/

/-- The snapshot as it is read back, with its keys in order. -/
theorem sortKeys_snapshot (ts : String) (mem : Mapping String Bytes) :
    ∃ texts : Mapping String String,
      JsonWriter.sortKeys (BufferedStore.snapshot ts mem) =
          .obj [("data", texts.toJson), ("entry_count", .int mem.size),
            ("ts", .str ts), ("version", .int 1)] ∧
        texts.items.Perm (mem.mapValues hex).items := by
  obtain ⟨texts, isSorted, reordered⟩ := sortKeys_toJson (mem.mapValues hex)
  refine ⟨texts, ?_, reordered⟩
  have apart (first second : String) (value other : Json) (rest : Dict)
      (larger : ¬ first ≤ second) :
      List.orderedInsert JsonWriter.ByKey (first, value)
          ((second, other) :: rest) =
        (second, other) ::
          List.orderedInsert JsonWriter.ByKey (first, value) rest :=
    List.orderedInsert_of_not_le JsonWriter.ByKey rest larger
  rw [BufferedStore.snapshot, JsonWriter.sortKeys, sortFields_eq,
    List.map_cons, List.map_cons, List.map_cons, List.map_cons,
    List.map_nil]
  simp only [Prod.map_apply, isSorted, id, JsonWriter.sortKeys,
    List.insertionSort_cons, List.insertionSort_nil,
    List.orderedInsert_nil]
  rw [apart "entry_count" "data" _ _ _ (by decide),
    List.orderedInsert_nil, apart "ts" "data" _ _ _ (by decide),
    apart "ts" "entry_count" _ _ _ (by decide), List.orderedInsert_nil,
    apart "version" "data" _ _ _ (by decide),
    apart "version" "entry_count" _ _ _ (by decide),
    apart "version" "ts" _ _ _ (by decide), List.orderedInsert_nil]

/-- Text has at least as many bytes as characters. -/
theorem length_le_encode (characters : List Char) :
    characters.length ≤ (encode (String.ofList characters)).length := by
  induction characters with
  | nil => exact Nat.zero_le _
  | cons character rest inductionHypothesis =>
      have one : 1 ≤ (encode (String.singleton character)).length := by
        rw [encode, String.toByteArray_singleton,
          List.utf8Encode_singleton]
        simpa using Nat.succ_le_of_lt character.utf8Size_pos
      rw [String.ofList_cons, encode_append, List.length_append,
        List.length_cons]
      omega

theorem length_le_writeFields (fields : Dict) :
    fields.length ≤ (JsonWriter.writeFields fields).length := by
  induction fields with
  | nil => exact Nat.le_refl _
  | cons field rest inductionHypothesis =>
      obtain ⟨key, value⟩ := field
      rw [JsonWriter.writeFields, List.length_append, List.length_append,
        List.length_cons, List.length_cons]
      cases rest with
      | nil =>
          rw [List.length_nil]
          omega
      | cons next rest =>
          simp only [List.isEmpty_cons, Bool.false_eq_true, if_false,
            List.length_cons] at inductionHypothesis ⊢
          omega

/-- A dict whose first key is `data`, written. -/
theorem write_data (texts : Mapping String String) (fields : Dict) :
    ∃ more, JsonWriter.write (.obj (("data", texts.toJson) :: fields)) =
        '\x7b' :: '"' :: 'd' :: 'a' :: more ∧
      texts.items.length ≤ more.length := by
  have key : JsonWriter.writeString "data" =
      ['"', 'd', 'a', 't', 'a', '"'] := by
    decide
  have long := length_le_writeFields texts.toFields
  rw [Mapping.toFields, List.length_map] at long
  rw [JsonWriter.write, JsonWriter.writeFields, key]
  let later : List Char :=
    if fields.isEmpty then [] else ',' :: ' ' :: JsonWriter.writeFields fields
  refine ⟨['t', 'a', '"'] ++ ':' :: ' ' :: JsonWriter.write texts.toJson ++
    later ++ ['\x7d'], rfl, ?_⟩
  simp only [Mapping.toJson, JsonWriter.write, Mapping.toFields,
    List.length_append, List.length_cons]
  omega

/-- The text begins with the brace and its first key, and is longer than the
number of blobs. -/
theorem snapshotText_eq (ts : String) (mem : Mapping String Bytes) :
    ∃ rest, BufferedStore.snapshotText ts mem =
        0x7b :: 0x22 :: 0x64 :: 0x61 :: rest ∧
      mem.size ≤ rest.length := by
  obtain ⟨texts, isSorted, reordered⟩ := sortKeys_snapshot ts mem
  obtain ⟨more, isWritten, long⟩ := write_data texts
    [("entry_count", .int mem.size), ("ts", .str ts), ("version", .int 1)]
  have front : encode "\x7b\"da" = [0x7b, 0x22, 0x64, 0x61] := by decide
  have isText : String.ofList ('\x7b' :: '"' :: 'd' :: 'a' :: more) =
      "\x7b\"da" ++ String.ofList more :=
    @String.ofList_append ['\x7b', '"', 'd', 'a'] more
  have sameSize : texts.items.length = mem.size := by
    rw [reordered.length_eq, Mapping.mapValues, List.length_map,
      Mapping.size]
  refine ⟨encode (String.ofList more), ?_, ?_⟩
  · rw [BufferedStore.snapshotText, JsonWriter.dumpsSorted, isSorted,
      JsonWriter.dumps, isWritten, isText, encode_append, front]
    rfl
  · have bytes := length_le_encode more
    omega

/-- The first four bytes are a length that the rest does not have. -/
theorem unframe_snapshotText
    {ts : String} {mem : Mapping String Bytes}
    (small : (BufferedStore.snapshotText ts mem).length < 2 ^ 30) :
    unframe (BufferedStore.snapshotText ts mem) =
      BufferedStore.snapshotText ts mem := by
  obtain ⟨rest, isText, _⟩ := snapshotText_eq ts mem
  rw [isText] at small ⊢
  have size : fromBytes [0x7b, 0x22, 0x64, 0x61] = 2065851489 := by decide
  have short : rest.length < 2065851489 := by
    simp only [List.length_cons] at small
    omega
  have different : (rest.take 2065851489).length ≠ 2065851489 := by
    rw [List.length_take]
    omega
  have enough : ¬ (0x7b :: 0x22 :: 0x64 :: 0x61 :: rest : Bytes).length < 4 := by
    simp
  simp only [unframe, if_neg enough, List.take_succ_cons, List.take_zero,
    List.drop_succ_cons, List.drop_zero, size, if_pos different]

/-- The text is read back as the snapshot with its keys in order. -/
theorem loads_snapshotText
    {ts : String} {mem : Mapping String Bytes}
    (small : (BufferedStore.snapshotText ts mem).length < 2 ^ 30) :
    ∃ text, decode (BufferedStore.snapshotText ts mem) = .ok text ∧
      JsonReader.loads text =
        .ok (JsonWriter.sortKeys (BufferedStore.snapshot ts mem)) := by
  obtain ⟨rest, isText, long⟩ := snapshotText_eq ts mem
  have few : mem.size < 10 ^ 30 := by
    rw [isText] at small
    simp only [List.length_cons] at small
    omega
  have digits : (Nat.toDigits 10 mem.size).length ≤ 4300 :=
    ((Nat.length_toDigits_le_iff (by decide) (by decide)).mpr few).trans
      (by decide)
  have plain : (BufferedStore.snapshot ts mem).Plain := by
    have distinct :
        ["version", "ts", "entry_count", "data"].Nodup := by decide
    refine .obj _ distinct ?_
    intro field member
    simp only [List.mem_cons, List.not_mem_nil, or_false] at member
    rcases member with rfl | rfl | rfl | rfl
    · exact .int 1 (by decide)
    · exact .str ts
    · exact .int mem.size digits
    · exact plain_toJson _
  refine ⟨_, ?_, loads_dumpsSorted plain⟩
  rw [BufferedStore.snapshotText]
  exact decode_encode _

/-- What is read back from the text of a snapshot. -/
theorem snapshot_readBack (ts : String) (mem : Mapping String Bytes) :
    ∃ data : Mapping String Bytes,
      snapshotData (JsonWriter.sortKeys (BufferedStore.snapshot ts mem)) =
          some data ∧ data.items.Perm mem.items ∧
        (JsonWriter.sortKeys (BufferedStore.snapshot ts mem)).get
            "entry_count" = .ok (.int data.size) := by
  obtain ⟨texts, isSorted, reordered⟩ := sortKeys_snapshot ts mem
  obtain ⟨data, sameItems, agree⟩ :=
    (related_mapValues_hex mem).reorder reordered
  have sameSize : data.size = mem.size := sameItems.length_eq
  rw [isSorted]
  refine ⟨data, snapshotData_eq agree rfl, sameItems, ?_⟩
  rw [sameSize]
  rfl

/-! ## How long a snapshot is -/

theorem length_encode_le (characters : List Char) :
    (encode (String.ofList characters)).length ≤ 4 * characters.length := by
  induction characters with
  | nil => exact Nat.zero_le _
  | cons character rest inductionHypothesis =>
      have one : (encode (String.singleton character)).length ≤ 4 := by
        rw [encode, String.toByteArray_singleton,
          List.utf8Encode_singleton]
        simpa using character.utf8Size_le_four
      rw [String.ofList_cons, encode_append, List.length_append,
        List.length_cons]
      omega

theorem length_escape_le (character : Char) :
    (JsonWriter.escape character).length ≤ 12 := by
  rw [JsonWriter.escape]
  split
  · simp
  · split
    · simp
    · rw [JsonWriter.escapeCode]
      split
      · simp [JsonWriter.escapeUnit]
      · simp [JsonWriter.escapeUnit]

theorem length_writeString_le (text : String) :
    (JsonWriter.writeString text).length ≤ 12 * text.length + 2 := by
  have escaped (characters : List Char) :
      (characters.flatMap JsonWriter.escape).length ≤
        12 * characters.length := by
    induction characters with
    | nil => exact Nat.le_refl _
    | cons character rest inductionHypothesis =>
        have one := length_escape_le character
        rw [List.flatMap_cons, List.length_append, List.length_cons]
        omega
  have all := escaped text.toList
  rw [String.length_toList] at all
  rw [JsonWriter.writeString, List.length_append, List.length_cons,
    List.length_singleton]
  omega

/-- A dict of short strings. -/
theorem length_writeFields_le
    {items : List (String × String)} {bound : Nat}
    (short : ∀ item ∈ items, item.1.length + item.2.length ≤ bound) :
    (JsonWriter.writeFields
        (items.map (Prod.map id Json.str))).length ≤
      items.length * (12 * bound + 8) := by
  induction items with
  | nil => exact Nat.zero_le _
  | cons item rest inductionHypothesis =>
      obtain ⟨key, value⟩ := item
      have here := short (key, value) List.mem_cons_self
      have later := inductionHypothesis fun tested member =>
        short tested (List.mem_cons_of_mem _ member)
      have keyLength := length_writeString_le key
      have valueLength := length_writeString_le value
      have separated :
          (if (rest.map (Prod.map id Json.str)).isEmpty then []
            else ',' :: ' ' :: JsonWriter.writeFields
              (rest.map (Prod.map id Json.str))).length ≤
            2 + rest.length * (12 * bound + 8) := by
        split
        · exact Nat.zero_le _
        · rw [List.length_cons, List.length_cons]
          omega
      have grown : (rest.length + 1) * (12 * bound + 8) =
          rest.length * (12 * bound + 8) + (12 * bound + 8) :=
        Nat.succ_mul _ _
      simp only [List.map_cons, Prod.map_apply, id, JsonWriter.writeFields,
        JsonWriter.write, List.length_append, List.length_cons, grown]
      simp only at here
      omega

theorem length_hex (raw : Bytes) : (hex raw).length = 2 * raw.length := by
  rw [hex, String.length_ofList]
  induction raw with
  | nil => rfl
  | cons byte rest inductionHypothesis =>
      rw [List.flatMap_cons, List.length_append, List.length_cons,
        inductionHypothesis]
      simp only [hexOfByte, List.length_cons, List.length_nil]
      omega

/-- Small blobs make a small snapshot. -/
theorem length_snapshotText_le
    {ts : String} {mem : Mapping String Bytes} {bound : Nat}
    (short : ∀ item ∈ mem.items,
      item.1.length + 2 * item.2.length ≤ bound) :
    (BufferedStore.snapshotText ts mem).length ≤
      4 * (mem.size * (12 * bound + 8) + 60 +
        (JsonWriter.writeFields [("entry_count", .int mem.size),
          ("ts", .str ts), ("version", .int 1)]).length) := by
  obtain ⟨texts, isSorted, reordered⟩ := sortKeys_snapshot ts mem
  have sameSize : texts.items.length = mem.size := by
    rw [reordered.length_eq, Mapping.mapValues, List.length_map,
      Mapping.size]
  have shortTexts : ∀ item ∈ texts.items,
      item.1.length + item.2.length ≤ bound := by
    intro item member
    obtain ⟨original, present, rfl⟩ :=
      List.mem_map.mp (reordered.mem_iff.mp member)
    rw [Prod.map_apply, length_hex]
    exact short original present
  have fields := length_writeFields_le shortTexts
  have data := length_writeString_le "data"
  rw [BufferedStore.snapshotText, JsonWriter.dumpsSorted, isSorted,
    JsonWriter.dumps]
  refine (length_encode_le _).trans (Nat.mul_le_mul_left 4 ?_)
  rw [JsonWriter.write, JsonWriter.writeFields]
  rw [sameSize] at fields
  have name : "data".length = 4 := by decide
  rw [name] at data
  simp only [Mapping.toJson, Mapping.toFields, JsonWriter.write,
    List.length_append, List.length_cons, List.length_nil,
    List.isEmpty_cons, Bool.false_eq_true, if_false]
  omega

/-! ## Finding the values again -/

/-- The bytes that a client would download under the root. -/
def blobAt (data : Mapping String Bytes) (root : String) : Option Bytes :=
  (data.get? root).map unframe

/-- The manifest under the root. -/
def manifestAt (data : Mapping String Bytes) (root : String) :
    Option Json := do
  let raw ← blobAt data root
  let text ← (decode raw).toOption
  let decoded ← (JsonReader.loads text).toOption
  return manifestOf decoded

/-- The value of a key, from the data map and the manifest root alone. -/
def recoverValue
    (data : Mapping String Bytes) (manifestRoot : Option String)
    (key : String) : Option Bytes := do
  let root ← manifestRoot
  let manifest ← manifestAt data root
  match manifest.get key with
  | .ok (.str valueRoot) => blobAt data valueRoot
  | _ => none

section Recovery

variable
  {live : LiveBackend} {world : World live} {data : Mapping String Bytes}

theorem blobAt_of_keeps
    (sameItems : data.items.Perm world.blobs.items) {root : String}
    {raw : Bytes} (keeps : world.Keeps root raw) :
    blobAt data root = some raw := by
  obtain ⟨framed, _, ok, _, found⟩ := keeps
  rw [blobAt, Mapping.get?_eq_of_perm sameItems, found, Option.map_some,
    unframe_frame ok]

/-- The published manifest finds the value of every key. -/
theorem recoverValue_of_shows
    (sameItems : data.items.Perm world.blobs.items) {kv : KvId}
    {dict : Mapping String Bytes} (shows : Shows World.Keeps kv dict world)
    (key : String) :
    recoverValue data (world.kvs kv).manifestRoot key = dict.get? key := by
  obtain ⟨roots, ⟨_, values⟩, published⟩ := shows
  rw [Published] at published
  cases isRoot : (world.kvs kv).manifestRoot with
  | none =>
      rw [isRoot] at published
      rw [Mapping.Related, published] at values
      have noItems : dict.items = [] := List.forall₂_nil_left_iff.mp values
      rw [Mapping.get?, noItems]
      rfl
  | some root =>
      rw [isRoot] at published
      obtain ⟨ts, listed, reordered, keeps⟩ := published
      obtain ⟨text, decoded, sorted, isText, isDecoded, isManifest,
        alsoReordered⟩ := loads_manifestPayload ts listed
      have manifest : manifestAt data root = some sorted.toJson := by
        rw [manifestAt, blobAt_of_keeps sameItems keeps]
        simp only [Option.bind_eq_bind, Option.bind_some, isText,
          Except.toOption, isDecoded, isManifest]
        rfl
      have sameRoot : sorted.get? key = roots.get? key :=
        Mapping.get?_eq_of_perm (alsoReordered.trans reordered) key
      rw [recoverValue]
      simp only [Option.bind_eq_bind, Option.bind_some, manifest,
        sorted.get_toJson, sameRoot]
      rcases values.get? key with ⟨noRoot, absent⟩ | ⟨valueRoot, value,
        found, present, valueKept⟩
      · rw [noRoot, absent]
        rfl
      · rw [found, present]
        exact blobAt_of_keeps sameItems valueKept

end Recovery

end SwarmFi.Core.Storage

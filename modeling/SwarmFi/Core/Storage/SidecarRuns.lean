import SwarmFi.Core.Storage.RootHashes
import SwarmFi.Core.Storage.Sidecar

/-!
# The log through the sidecar

The results about a store that may raise hold of the live client with its
sidecar and any SDK that stores what it is given.  One that does keeps blobs
in a dict under their SHA-256 digests.
-/

namespace SwarmFi.Core.Storage

open Foundation Python ZgSidecar

/-! ## What the log reads back -/

namespace SdkStore

variable {client : SidecarClient} {host : Host} (store : SdkStore client host)

/-- An entry that an append has returned is read back as it was stored, or
the request raises: the arguments, the standard input, the printed line and
the attempts of a download in between change nothing. -/
theorem getEntry_of_returned (sources : Sources) (models : Models)
    (kv : KvId) {ops : List LogOp} (fits : ∀ op ∈ ops, op.Fits ⟨kv, ⟨.live⟩⟩)
    (first : World (client.backend host))
    (inverse : models.InverseOn (Held store.flakyStore.Holds
      (attemptedAll sources models ⟨kv, ⟨.live⟩⟩ first ops).1)) :
    ∀ entry ∈ (attemptedAll sources models ⟨kv, ⟨.live⟩⟩ first ops).2,
      ∃ root, entry.rootHash = some root ∧
        ∀ read,
          ((SwarmLog.getEntry ⟨⟨.live⟩, ⟨kv, ⟨.live⟩⟩⟩ models root).run
              (environment (client.backend host) sources)
              (attemptedAll sources models ⟨kv, ⟨.live⟩⟩ first
                ops).1).1 = .ok read →
            read = entry.stored := by
  have storing := storing_live sources store.flakyStore.toBlobStore
  have right := downloadsRight_live sources store.flakyStore
  have nothing : ∀ entry ∈ (first, ([] : List LogEntry)).2,
      EntryHeld models store.flakyStore.Holds first entry :=
    fun _ member => absurd member List.not_mem_nil
  intro entry member
  obtain ⟨root, isRoot, there⟩ :=
    storing.entriesHeld_all fits trivial nothing entry member
  exact ⟨root, isRoot, fun read isRead =>
    right.getEntry inverse there isRead⟩

end SdkStore

/-! ## An SDK that stores -/

/-- What the SDK answers to data that it has. -/
def accepted (root : String) : UploadRace :=
  .settled (some {
    rootHash := some ("0x" ++ root)
    rootHashes := []
    txHash := none
    txHashes := [] }) none

/-- Blobs under their digests, which stand for the roots of the network; other
data with a digest that is taken is refused. -/
def digestSdk : Sdk where
  State := Mapping String Bytes
  upload := fun blobs _ _ _ data =>
    let root := Sha256.hexdigest data
    match blobs.get? root with
    | none => ((accepted root, []), blobs.set root data)
    | some kept =>
        if kept = data then
          ((accepted root, []), blobs)
        else
          ((.threw ⟨none, "root is taken"⟩, []), blobs)
  download := fun blobs _ root =>
    match blobs.get? (removePrefix root "0x") with
    | some data => ((.saved data, []), blobs)
    | none => ((.failed ⟨none, "file not found"⟩, []), blobs)

/-- A process that always starts, with that SDK. -/
def digestHost : Host := ⟨digestSdk, fun _ _ _ => none⟩

theorem oneLine_append {first second : String} (isFirst : OneLine first)
    (isSecond : OneLine second) : OneLine (first ++ second) := by
  intro character member
  rw [String.toList_append, List.mem_append] at member
  exact member.elim (isFirst character) (isSecond character)

theorem oneLine_hex (raw : Bytes) : OneLine (hex raw) := by
  have ascii : ∀ digit < 16,
      (Nat.digitChar digit).toNat ∉ [0x85, 0x2028, 0x2029] := by
    decide
  intro character member
  rw [hex, String.toList_ofList] at member
  obtain ⟨byte, _, isDigit⟩ := List.mem_flatMap.mp member
  have bound := byte.toNat_lt
  rw [hexOfByte, List.mem_cons, List.mem_singleton] at isDigit
  rcases isDigit with rfl | rfl
  · exact ascii _ (by omega)
  · exact ascii _ (by omega)

theorem oneLine_mark : OneLine "0x" := by
  intro character member
  have isPart : character ∈ ['0', 'x'] := member
  rw [List.mem_cons, List.mem_singleton] at isPart
  rcases isPart with rfl | rfl <;> decide

/-- What an upload does: it puts the data under its digest, or the data is
there, or it throws. -/
theorem upload_digestSdk (client : SidecarClient)
    (blobs : Mapping String Bytes) (data : Bytes) :
    (client.asksUpload digestSdk blobs data =
        ((accepted (Sha256.hexdigest data), []),
          blobs.set (Sha256.hexdigest data) data) ∧
      blobs.get? (Sha256.hexdigest data) = none) ∨
    (client.asksUpload digestSdk blobs data =
        ((accepted (Sha256.hexdigest data), []), blobs) ∧
      blobs.get? (Sha256.hexdigest data) = some data) ∨
    client.asksUpload digestSdk blobs data =
      ((.threw ⟨none, "root is taken"⟩, []), blobs) := by
  cases found : blobs.get? (Sha256.hexdigest data) with
  | none =>
      refine Or.inl ⟨?_, rfl⟩
      simp only [SidecarClient.asksUpload, digestSdk, found]
  | some kept =>
      by_cases same : kept = data
      · subst same
        refine Or.inr (Or.inl ⟨?_, rfl⟩)
        simp only [SidecarClient.asksUpload, digestSdk, found, if_true]
      · refine Or.inr (Or.inr ?_)
        simp only [SidecarClient.asksUpload, digestSdk, found, if_neg same]

theorem root_of_gives_accepted {found root : String} {tx : Option String}
    (gives : Gives (accepted found) root tx) :
    root = "0x" ++ found ∧ tx = none := by
  cases gives with
  | inTime result err root fine isRoot =>
      exact ⟨(Option.some.inj isRoot).symm, rfl⟩

theorem not_gives_threw {err : SdkError} {root : String}
    {tx : Option String} : ¬ Gives (.threw err) root tx := by
  intro gives
  cases gives

theorem download_digestSdk (blobs : Mapping String Bytes)
    (indexerRpc root : String) :
    (digestSdk.download blobs indexerRpc root).2 = blobs ∧
      (digestSdk.download blobs indexerRpc root).1.2 = [] ∧
      ∀ bytes,
        (digestSdk.download blobs indexerRpc root).1.1 = .saved bytes →
          blobs.get? (removePrefix root "0x") = some bytes := by
  cases found : blobs.get? (removePrefix root "0x") with
  | none =>
      simp only [digestSdk, found, true_and]
      intro bytes saved
      cases saved
  | some kept =>
      simp only [digestSdk, found, true_and]
      intro bytes saved
      cases saved
      rfl

theorem marked_mark (root : String) :
    marked ("0x" ++ root) = "0x" ++ root := by
  rw [marked, startsWith, afterStart_marked]
  rfl

/-- It is such a store, whoever the client is. -/
def digestStore (client : SidecarClient) : SdkStore client digestHost where
  contents := fun blobs root =>
    Mapping.get? blobs (removePrefix root "0x")
  kept := by
    intro blobs data root blob found
    show Mapping.get? (client.asksUpload digestSdk blobs data).2 _ = _
    rcases upload_digestSdk client blobs data with
      ⟨isUpload, isNew⟩ | ⟨isUpload, _⟩ | isUpload
    · have other : removePrefix root "0x" ≠ Sha256.hexdigest data := by
        intro same
        rw [same, isNew] at found
        cases found
      rw [isUpload, Mapping.get?_set_of_ne blobs other]
      exact found
    · rw [isUpload]
      exact found
    · rw [isUpload]
      exact found
  stored := by
    intro blobs data root tx gives
    show Mapping.get? (client.asksUpload digestSdk blobs data).2 _ = _
    change Gives (client.asksUpload digestSdk blobs data).1.1 root tx at gives
    rcases upload_digestSdk client blobs data with
      ⟨isUpload, _⟩ | ⟨isUpload, isThere⟩ | isUpload
    · rw [isUpload] at gives ⊢
      rw [(root_of_gives_accepted gives).1, marked_mark,
        removePrefix_marked]
      exact Mapping.get?_set_self _ _ _
    · rw [isUpload] at gives ⊢
      rw [(root_of_gives_accepted gives).1, marked_mark,
        removePrefix_marked]
      exact isThere
    · rw [isUpload] at gives
      exact absurd gives not_gives_threw
  fetched := by
    intro blobs root blob bytes found saved
    have there := (download_digestSdk blobs client.indexer root).2.2 bytes saved
    exact Option.some.inj (there.symm.trans found)
  reading := by
    intro blobs root
    have same := (download_digestSdk blobs client.indexer root).1
    show (fun asked => Mapping.get?
      (digestSdk.download blobs client.indexer root).2 _) = _
    rw [same]
  raising := by
    intro blobs args stdin exc reached raised
    cases raised
  ends := by
    intro blobs data
    left
    show (client.asksUpload digestSdk blobs data).1.2 = []
    rcases upload_digestSdk client blobs data with
      ⟨isUpload, _⟩ | ⟨isUpload, _⟩ | isUpload <;> rw [isUpload]
  lines := by
    intro blobs data root tx gives
    change Gives (client.asksUpload digestSdk blobs data).1.1 root tx at gives
    have isAccepted : Gives (accepted (Sha256.hexdigest data)) root tx := by
      rcases upload_digestSdk client blobs data with
        ⟨isUpload, _⟩ | ⟨isUpload, _⟩ | isUpload
      · rwa [isUpload] at gives
      · rwa [isUpload] at gives
      · rw [isUpload] at gives
        exact absurd gives not_gives_threw
    obtain ⟨isRoot, isTx⟩ := root_of_gives_accepted isAccepted
    rw [isRoot, isTx]
    exact ⟨oneLine_append oneLine_mark (oneLine_hex _),
      fun _ none_ => by cases none_⟩
  silent := fun blobs root =>
    (download_digestSdk blobs client.indexer root).2.1

end SwarmFi.Core.Storage

import SwarmFi.Core.Storage.Attempts
import SwarmFi.Core.Storage.LogRuns
import SwarmFi.Core.Storage.PlainBackend

/-!
# Appends whose index cannot be read

An append reads the index, adds a root at its end and writes it back.  A read
that raises stops the append; one that gives bytes which are no index does
not, and the index that is written back starts from nothing.
-/

namespace SwarmFi.Core.Storage

open Foundation Python

variable {live : LiveBackend}

/-- The arguments of `append`. -/
structure LogAppend where
  eventType : LogEventType
  agentRole : String
  data : Option Dict

def LogAppend.program (call : LogAppend) (slog : SwarmLog)
    (models : Models) : Steps LogEntry :=
  slog.append models call.eventType call.agentRole call.data

/-- What is stored of the index; `none` where there is nothing yet. -/
def IndexRead (models : Models)
    (holds : World live → String → Bytes → Prop) (kv : KvId)
    (world : World live) (index : Option LogIndex) : Prop :=
  ∃ found, Finds holds kv world KVKey.logIndex found ∧
    found.map models.logIndex.decode = index.map .ok

/-- The old index with the root at its end. -/
def Extends (old : Option LogIndex) (root : String) (index : LogIndex) :
    Prop :=
  ∃ now, index = (old.getD (.default now)).append root now

section Append

variable
  (sources : Sources) (models : Models)
  (holds : World live → String → Bytes → Prop) (slog : SwarmLog)
  (call : LogAppend) (world : World live)

/-- The entry has been uploaded under the root. -/
def EntryStored (root : String) (stored : World live) : Prop :=
  ∃ entry begun result,
    (SwarmLog.newEntry call.eventType call.agentRole call.data).run
        (environment live sources) world = (.ok entry, begun) ∧
      (slog.client.upload (models.logEntry.encode entry)).run
          (environment live sources) begun = (.ok result, stored) ∧
        result.rootHash = root

/-- After the call the index is the old one, and the call has raised, or it is
the old one with the root of the new entry at its end. -/
def KeepsHistory : Prop :=
  ∀ outcome last,
    (call.program slog models).run (environment live sources) world =
        (outcome, last) →
      (∃ exc, outcome = .error exc) ∧
          (∀ index, IndexRead models holds slog.kv.id last index ↔
            IndexRead models holds slog.kv.id world index) ∨
        ∃ root stored index,
          EntryStored sources models slog call world root stored ∧
            IndexRead models holds slog.kv.id last (some index) ∧
              ∀ old, IndexRead models holds slog.kv.id world old →
                Extends old root index

theorem KeepsHistory.ran
    (keeps : KeepsHistory sources models holds slog call world) :
    let ran :=
      (call.program slog models).run (environment live sources) world
    (∃ exc, ran.1 = .error exc) ∧
        (∀ index, IndexRead models holds slog.kv.id ran.2 index ↔
          IndexRead models holds slog.kv.id world index) ∨
      ∃ root stored index,
        EntryStored sources models slog call world root stored ∧
          IndexRead models holds slog.kv.id ran.2 (some index) ∧
            ∀ old, IndexRead models holds slog.kv.id world old →
              Extends old root index :=
  keeps _ _ rfl

/-- What the read of the index returns is what is stored, or no index. -/
def ReadsIndexOrNone : Prop :=
  ∀ root stored bytes,
    EntryStored sources models slog call world root stored →
      ((slog.kv.get KVKey.logIndex).run (environment live sources)
          stored).1 = .ok (some bytes) →
        Finds holds slog.kv.id world KVKey.logIndex (some bytes) ∨
          ∃ exc, models.logIndex.decode bytes = .error exc

/-- The bytes that are read are no index, and the index that is made from
nothing is uploaded. -/
structure IndexLost (lost : LogIndex) (reached : World live) : Prop where
  made : ∃ root stored read bytes exc,
    EntryStored sources models slog call world root stored ∧
      (slog.kv.get KVKey.logIndex).run (environment live sources) stored =
          (.ok (some bytes), read) ∧
        models.logIndex.decode bytes = .error exc ∧
          lost = (LogIndex.default (sources.clock read.ticks)).append root
              (sources.clock read.ticked.ticks) ∧
            reached = read.ticked.ticked
  uploaded : ∃ result after,
    (slog.kv.client.upload (models.logIndex.encode lost)).run
      (environment live sources) reached = (.ok result, after)

/-- Where the index is lost there was none, or the lost one is the one that
was there and the call raises. -/
def LosesNothing (old : Option LogIndex) : Prop :=
  ∀ lost reached,
    IndexLost sources models slog call world lost reached →
      (∀ index, old = some index →
          index.entries = [] ∧ index.entryCount = 0) ∨
        old = some lost ∧ ∃ manifest last,
          Interrupted sources slog.kv reached
            (.set KVKey.logIndex (models.logIndex.encode lost)) manifest last

/-! ## The steps of an append -/

theorem run_append :
    (call.program slog models).run (environment live sources) world =
      match (SwarmLog.newEntry call.eventType call.agentRole call.data).run
        (environment live sources) world with
      | (.error exc, begun) => (.error exc, begun)
      | (.ok entry, begun) =>
          match (slog.client.upload (models.logEntry.encode entry)).run
            (environment live sources) begun with
          | (.error exc, stored) => (.error exc, stored)
          | (.ok result, stored) =>
              match (slog.extendIndex models result.rootHash).run
                (environment live sources) stored with
              | (.error exc, last) => (.error exc, last)
              | (.ok _, last) =>
                  (.ok { entry with rootHash := some result.rootHash },
                    last) := by
  simp only [LogAppend.program, SwarmLog.append, Program.bind_eq_bind]
  rw [Program.run_bind]
  rcases (SwarmLog.newEntry _ _ _).run _ world with ⟨outcome, begun⟩
  cases outcome with
  | error exc => rfl
  | ok entry =>
      simp only
      rw [Program.run_bind]
      rcases (slog.client.upload _).run _ begun with ⟨outcome, stored⟩
      cases outcome with
      | error exc => rfl
      | ok result =>
          simp only
          rw [Program.run_bind]
          rcases (slog.extendIndex models _).run _ stored with
            ⟨outcome, last⟩
          cases outcome <;> rfl

theorem run_loadIndex :
    (slog.loadIndex models).run (environment live sources) world =
      match (slog.kv.get KVKey.logIndex).run (environment live sources)
        world with
      | (.error exc, read) => (.error exc, read)
      | (.ok raw, read) =>
          match raw.map models.logIndex.decode with
          | some (.ok index) => (.ok index, read)
          | _ => (.ok (.default (sources.clock read.ticks)),
              read.ticked) := by
  simp only [SwarmLog.loadIndex, Program.bind_eq_bind]
  rw [Program.run_bind]
  rcases (slog.kv.get KVKey.logIndex).run _ world with ⟨outcome, read⟩
  cases outcome with
  | error exc => rfl
  | ok raw =>
      cases raw with
      | none => rfl
      | some bytes =>
          simp only [Option.map_some]
          cases models.logIndex.decode bytes <;> rfl

theorem run_extendIndex (root : String) :
    (slog.extendIndex models root).run (environment live sources) world =
      match (slog.loadIndex models).run (environment live sources)
        world with
      | (.error exc, read) => (.error exc, read)
      | (.ok index, read) =>
          match (slog.kv.set KVKey.logIndex
              (models.logIndex.encode
                (index.append root (sources.clock read.ticks)))).run
            (environment live sources) read.ticked with
          | (.error exc, last) => (.error exc, last)
          | (.ok _, last) => (.ok (), last) := by
  simp only [SwarmLog.extendIndex, Program.bind_eq_bind]
  rw [Program.run_bind]
  rcases (slog.loadIndex models).run _ world with ⟨outcome, read⟩
  cases outcome with
  | error exc => rfl
  | ok index =>
      simp only
      rw [run_now, Program.run_bind]
      rcases (slog.kv.set _ _).run _ read.ticked with ⟨outcome, last⟩
      cases outcome <;> rfl

end Append

/-! ## What an append does to the index -/

section Outcome

variable
  {sources : Sources} {client : ZeroGClient} {sound : World live → Prop}
  {holds : World live → String → Bytes → Prop} {models : Models}
  {kv : KvId} {call : LogAppend} {world : World live}
  {roots : Mapping String String} {map : Mapping String Bytes}

theorem EntryStored.unique {slog : SwarmLog} {root other : String}
    {stored otherStored : World live}
    (first : EntryStored sources models slog call world root stored)
    (second : EntryStored sources models slog call world other
      otherStored) : root = other ∧ stored = otherStored := by
  obtain ⟨entry, begun, result, made, uploaded, isRoot⟩ := first
  obtain ⟨_, _, _, madeToo, uploadedToo, isOther⟩ := second
  rw [made] at madeToo
  cases madeToo
  rw [uploaded] at uploadedToo
  cases uploadedToo
  exact ⟨isRoot.symm.trans isOther, rfl⟩

/-- Once its entry is stored the call goes on with the index. -/
theorem EntryStored.run {slog : SwarmLog} {root : String}
    {stored : World live}
    (entryStored : EntryStored sources models slog call world root stored) :
    ∃ entry,
      (call.program slog models).run (environment live sources) world =
        match (slog.extendIndex models root).run (environment live sources)
          stored with
        | (.error exc, last) => (.error exc, last)
        | (.ok _, last) => (.ok entry, last) := by
  obtain ⟨entry, begun, result, made, uploaded, rfl⟩ := entryStored
  refine ⟨{ entry with rootHash := some result.rootHash }, ?_⟩
  rw [run_append, made]
  simp only
  rw [uploaded]

/-- Where the index is lost the call ends with writing what was made. -/
theorem IndexLost.run {slog : SwarmLog} {lost : LogIndex}
    {reached : World live}
    (indexLost : IndexLost sources models slog call world lost reached) :
    ∃ entry,
      (call.program slog models).run (environment live sources) world =
        match (slog.kv.set KVKey.logIndex (models.logIndex.encode lost)).run
          (environment live sources) reached with
        | (.error exc, last) => (.error exc, last)
        | (.ok _, last) => (.ok entry, last) := by
  obtain ⟨root, stored, read, bytes, exc, entryStored, got, unreadable,
    isLost, isReached⟩ := indexLost.made
  obtain ⟨entry, ran⟩ := entryStored.run
  refine ⟨entry, ?_⟩
  rw [ran, run_extendIndex, run_loadIndex, got]
  simp only [Option.map_some, unreadable]
  rw [isLost, isReached]
  rcases (slog.kv.set _ _).run _ read.ticked.ticked with ⟨outcome, last⟩
  cases outcome <;> rfl

variable (storing : Storing sources client sound holds)

include storing

theorem Storing.indexRead_iff
    (lists : Lists holds kv roots map world) (index : Option LogIndex) :
    IndexRead models holds kv world index ↔
      (map.get? KVKey.logIndex).map models.logIndex.decode =
        index.map .ok := by
  constructor
  · intro read
    obtain ⟨found, finds, decoded⟩ := read
    rw [(storing.finds_iff lists _ _).mp finds] at decoded
    exact decoded
  · intro decoded
    exact ⟨_, lists.finds _, decoded⟩

omit storing in
theorem IndexRead.eq_of_map
    {found : Option (Except Exception LogIndex)}
    {first second : Option LogIndex} (isFirst : found = first.map .ok)
    (isSecond : found = second.map .ok) : first = second := by
  rw [isFirst] at isSecond
  cases first with
  | none =>
      cases second with
      | none => rfl
      | some index => cases isSecond
  | some index =>
      cases second with
      | none => cases isSecond
      | some other =>
          cases isSecond
          rfl

theorem Storing.indexRead_unique
    {first second : Option LogIndex}
    (isFirst : IndexRead models holds kv world first)
    (isSecond : IndexRead models holds kv world second) :
    first = second := by
  obtain ⟨found, finds, decoded⟩ := isFirst
  obtain ⟨foundToo, findsToo, decodedToo⟩ := isSecond
  rw [storing.finds_unique finds findsToo] at decoded
  exact IndexRead.eq_of_map decoded decodedToo

/-- What is left as it was is read as before. -/
theorem Storing.indexRead_same {last : World live}
    (lists : Lists holds kv roots map world)
    (listsNow : Lists holds kv roots map last) (index : Option LogIndex) :
    IndexRead models holds kv last index ↔
      IndexRead models holds kv world index := by
  rw [storing.indexRead_iff lists, storing.indexRead_iff listsNow]

/-- An index that is written is read back. -/
theorem Storing.indexRead_written {last : World live}
    {listed : Mapping String String} {written : LogIndex}
    (lists : Lists holds kv listed
      (map.set KVKey.logIndex (models.logIndex.encode written)) last)
    (decodes : models.logIndex.decode (models.logIndex.encode written) =
      .ok written) :
    IndexRead models holds kv last (some written) := by
  apply (storing.indexRead_iff lists _).mpr
  rw [Mapping.get?_set_self, Option.map_some, decodes]
  rfl

theorem Storing.lists_entryStored {root : String} {stored : World live}
    (entryStored : EntryStored sources models ⟨client, ⟨kv, client⟩⟩ call
      world root stored)
    (isSound : sound stored) (lists : Lists holds kv roots map world) :
    Lists holds kv roots map stored := by
  obtain ⟨entry, begun, result, made, uploaded, _⟩ := entryStored
  have madeUses : (SwarmLog.newEntry call.eventType call.agentRole
      call.data).Uses (StorageCall.Within (fun _ => False) False) :=
    uses_newEntry _ _ _
  have uploadUses : (client.upload (models.logEntry.encode entry)).Uses
      (StorageCall.Within (fun _ => False) True) :=
    uses_upload trivial client _
  have soundBegun := storing.sound_run uploaded isSound
  have listsBegun := storing.lists_uses madeUses made soundBegun id lists
  exact storing.lists_uses uploadUses uploaded isSound id listsBegun

/-- Writing an index ends with what was there, or with the index. -/
theorem Storing.set_index_cases {written : LogIndex}
    {last : World live} {outcome : Except Exception UploadResult}
    (ran : ((⟨kv, client⟩ : SwarmKV).set KVKey.logIndex
      (models.logIndex.encode written)).run (environment live sources)
        world = (outcome, last))
    (isSound : sound last) (inverse : models.InverseOn (Held holds last))
    (lists : Lists holds kv roots map world) :
    (∃ exc, outcome = .error exc ∧
        (client.upload (models.logIndex.encode written)).run
          (environment live sources) world = (.error exc, last)) ∧
      Lists holds kv roots map last ∨
    (∃ result after,
        (client.upload (models.logIndex.encode written)).run
          (environment live sources) world = (.ok result, after)) ∧
      IndexRead models holds kv last (some written) := by
  cases stored : (client.upload (models.logIndex.encode written)).run
      (environment live sources) world with
  | mk answer uploaded =>
      cases answer with
      | error exc =>
          left
          have uses : (client.upload (models.logIndex.encode written)).Uses
              (StorageCall.Within (fun _ => False) True) :=
            uses_upload trivial client _
          rw [run_set, stored] at ran
          cases ran
          exact ⟨⟨exc, rfl, rfl⟩,
            storing.lists_uses uses stored isSound id lists⟩
      | ok result =>
          right
          refine ⟨⟨result, uploaded, rfl⟩, ?_⟩
          cases outcome with
          | ok answer =>
              obtain ⟨listsNow, held⟩ :=
                storing.lists_set ran isSound lists
              have decodes := inverse.logIndex written ⟨_, held⟩
              exact storing.indexRead_written listsNow decodes
          | error exc =>
              rcases stopped_or_interrupted lists.1 ran with stopped |
                ⟨manifest, interrupted⟩
              · rw [stored] at stopped
                cases stopped
              · obtain ⟨root, listsNow, held⟩ :=
                  storing.lists_interrupted interrupted isSound lists
                have decodes := inverse.logIndex written ⟨_, held⟩
                exact storing.indexRead_written listsNow decodes

/-- The index that was loaded in `stored` is written with the root at its
end. -/
def IndexWritten (sources : Sources) (models : Models)
    (holds : World live → String → Bytes → Prop) (slog : SwarmLog)
    (root : String) (stored last : World live) : Prop :=
  ∃ loaded read,
    let written := loaded.append root (sources.clock read.ticks)
    (slog.loadIndex models).run (environment live sources) stored =
        (.ok loaded, read) ∧
      (∃ result after,
        (slog.kv.client.upload (models.logIndex.encode written)).run
          (environment live sources) read.ticked = (.ok result, after)) ∧
        IndexRead models holds slog.kv.id last (some written)

theorem Storing.extendIndex_cases {last : World live}
    {outcome : Except Exception Unit} {root : String}
    (ran : (SwarmLog.extendIndex ⟨client, ⟨kv, client⟩⟩ models root).run
      (environment live sources) world = (outcome, last))
    (isSound : sound last) (inverse : models.InverseOn (Held holds last))
    (lists : Lists holds kv roots map world) :
    (∃ exc, outcome = .error exc) ∧ Lists holds kv roots map last ∨
      IndexWritten sources models holds ⟨client, ⟨kv, client⟩⟩ root world
        last := by
  have uses : (SwarmLog.loadIndex ⟨client, ⟨kv, client⟩⟩ models).Uses
      (StorageCall.Within (fun _ => False) False) :=
    uses_loadIndex _ models
  rw [run_extendIndex] at ran
  split at ran
  · next exc read loadRun =>
      cases ran
      exact Or.inl ⟨⟨exc, rfl⟩,
        storing.lists_uses uses loadRun isSound id lists⟩
  · next loaded read loadRun =>
      cases setRun : (⟨kv, client⟩ : SwarmKV).set KVKey.logIndex
          (models.logIndex.encode
            (loaded.append root (sources.clock read.ticks))) |>.run
          (environment live sources) read.ticked with
      | mk ended reached =>
          have isLast : reached = last := by
            simp only [setRun] at ran
            cases ended <;> cases ran <;> rfl
          subst isLast
          have soundTicked := storing.sound_run setRun isSound
          have soundRead : sound read :=
            storing.before read .now soundTicked
          have listsRead :=
            storing.lists_uses uses loadRun soundRead id lists
          have listsTicked := storing.lists_ticked soundTicked listsRead
          rcases storing.set_index_cases setRun isSound inverse
              listsTicked with ⟨⟨exc, isError, _⟩, listsNow⟩ |
            ⟨stored, isRead⟩
          · left
            subst isError
            simp only [setRun] at ran
            cases ran
            exact ⟨⟨exc, rfl⟩, listsNow⟩
          · right
            exact ⟨loaded, read, loadRun, stored, isRead⟩

/-- An append leaves the dict alone and raises, or writes the index that it
has loaded with the root of its entry. -/
theorem Storing.append_cases {last : World live}
    {outcome : Except Exception LogEntry}
    (ran : (call.program ⟨client, ⟨kv, client⟩⟩ models).run
      (environment live sources) world = (outcome, last))
    (isSound : sound last) (inverse : models.InverseOn (Held holds last))
    (lists : Lists holds kv roots map world) :
    (∃ exc, outcome = .error exc) ∧ Lists holds kv roots map last ∨
      ∃ root stored,
        EntryStored sources models ⟨client, ⟨kv, client⟩⟩ call world root
            stored ∧
          Lists holds kv roots map stored ∧
            IndexWritten sources models holds ⟨client, ⟨kv, client⟩⟩ root
              stored last := by
  have madeUses : (SwarmLog.newEntry call.eventType call.agentRole
      call.data).Uses (StorageCall.Within (fun _ => False) False) :=
    uses_newEntry _ _ _
  rw [run_append] at ran
  split at ran
  · next exc begun made =>
      cases ran
      exact Or.inl ⟨⟨exc, rfl⟩,
        storing.lists_uses madeUses made isSound id lists⟩
  · next entry begun made =>
      split at ran
      · next exc stored uploaded =>
          cases ran
          have uploadUses :
              (client.upload (models.logEntry.encode entry)).Uses
                (StorageCall.Within (fun _ => False) True) :=
            uses_upload trivial client _
          have soundBegun := storing.sound_run uploaded isSound
          have listsBegun :=
            storing.lists_uses madeUses made soundBegun id lists
          exact Or.inl ⟨⟨exc, rfl⟩,
            storing.lists_uses uploadUses uploaded isSound id listsBegun⟩
      · next result stored uploaded =>
          have entryStored : EntryStored sources models
              ⟨client, ⟨kv, client⟩⟩ call world result.rootHash stored :=
            ⟨entry, begun, result, made, uploaded, rfl⟩
          cases extended : (SwarmLog.extendIndex ⟨client, ⟨kv, client⟩⟩
              models result.rootHash).run (environment live sources)
                stored with
          | mk ended reached =>
              have isLast : reached = last := by
                rw [extended] at ran
                cases ended <;> cases ran <;> rfl
              subst isLast
              have soundStored := storing.sound_run extended isSound
              have listsStored :=
                storing.lists_entryStored entryStored soundStored lists
              rcases storing.extendIndex_cases extended isSound inverse
                  listsStored with ⟨⟨exc, isError⟩, listsNow⟩ | written
              · left
                subst isError
                rw [extended] at ran
                cases ran
                exact ⟨⟨exc, rfl⟩, listsNow⟩
              · right
                exact ⟨_, stored, entryStored, listsStored, written⟩

/-! ## Which index is loaded -/

/-- The index that is loaded is the one that is stored, or it is new because
the bytes that were read are no index. -/
theorem Storing.loadIndex_cases {root : String} {stored read : World live}
    {loaded : LogIndex} {old : Option LogIndex}
    (reads : ReadsIndexOrNone sources models holds ⟨client, ⟨kv, client⟩⟩
      call world)
    (entryStored : EntryStored sources models ⟨client, ⟨kv, client⟩⟩ call
      world root stored)
    (lists : Lists holds kv roots map world)
    (listsStored : Lists holds kv roots map stored)
    (isOld : IndexRead models holds kv world old)
    (returned : (SwarmLog.loadIndex ⟨client, ⟨kv, client⟩⟩ models).run
      (environment live sources) stored = (.ok loaded, read)) :
    (∃ now, loaded = old.getD (.default now)) ∨
      ∃ bytes exc before,
        ((⟨kv, client⟩ : SwarmKV).get KVKey.logIndex).run
            (environment live sources) stored =
            (.ok (some bytes), before) ∧
          models.logIndex.decode bytes = .error exc ∧
            loaded = .default (sources.clock before.ticks) ∧
              read = before.ticked := by
  have decodedOld := (storing.indexRead_iff lists old).mp isOld
  rw [run_loadIndex] at returned
  split at returned
  · cases returned
  · next found before got =>
      cases found with
      | none =>
          left
          cases returned
          have absent := absent_of_get listsStored
            (congrArg Prod.fst got)
          rw [absent] at decodedOld
          cases old with
          | none => exact ⟨_, rfl⟩
          | some index => cases decodedOld
      | some bytes =>
          cases decoded : models.logIndex.decode bytes with
          | error exc =>
              right
              simp only [Option.map_some, decoded] at returned
              cases returned
              exact ⟨bytes, exc, before, got, decoded, rfl, rfl⟩
          | ok index =>
              left
              simp only [Option.map_some, decoded] at returned
              cases returned
              rcases reads root stored bytes entryStored
                  (congrArg Prod.fst got) with finds | ⟨exc, unreadable⟩
              · rw [← (storing.finds_iff lists _ _).mp finds,
                  Option.map_some, decoded] at decodedOld
                cases old with
                | none => cases decodedOld
                | some there =>
                    cases decodedOld
                    exact ⟨"", rfl⟩
              · rw [decoded] at unreadable
                cases unreadable

omit storing in
/-- What starts from nothing extends nothing. -/
theorem extends_new_iff {old : Option LogIndex} {root created now : String} :
    Extends old root ((LogIndex.default created).append root now) ↔
      ∀ index, old = some index →
        index.entries = [] ∧ index.entryCount = 0 := by
  constructor
  · intro extended index isOld
    obtain ⟨later, same⟩ := extended
    rw [isOld, Option.getD_some] at same
    have entries := congrArg LogIndex.entries same
    have count := congrArg LogIndex.entryCount same
    simp only [LogIndex.append, LogIndex.default] at entries count
    constructor
    · exact (List.append_left_inj [root]).mp entries.symm
    · omega
  · intro isEmpty
    refine ⟨now, ?_⟩
    cases old with
    | none => rfl
    | some index =>
        obtain ⟨noEntries, noCount⟩ := isEmpty index rfl
        rw [Option.getD_some]
        simp only [LogIndex.append, LogIndex.default, noEntries, noCount]

/-- Where the index is lost it is written, and the call raises only if that
write is interrupted. -/
theorem Storing.lost_written {lost : LogIndex} {reached last : World live}
    {outcome : Except Exception LogEntry}
    (indexLost : IndexLost sources models ⟨client, ⟨kv, client⟩⟩ call world
      lost reached)
    (ran : (call.program ⟨client, ⟨kv, client⟩⟩ models).run
      (environment live sources) world = (outcome, last))
    (isSound : sound last) (inverse : models.InverseOn (Held holds last))
    (lists : Lists holds kv roots map world) :
    IndexRead models holds kv last (some lost) ∧
      ((∃ exc, outcome = .error exc) ↔ ∃ manifest interruptedLast,
        Interrupted sources ⟨kv, client⟩ reached
          (.set KVKey.logIndex (models.logIndex.encode lost)) manifest
          interruptedLast) := by
  obtain ⟨entry, isRun⟩ := indexLost.run
  rw [isRun] at ran
  obtain ⟨root, stored, read, bytes, exc, entryStored, got, _, _,
    isReached⟩ := indexLost.made
  obtain ⟨result, after, uploaded⟩ := indexLost.uploaded
  cases setRun : ((⟨kv, client⟩ : SwarmKV).set KVKey.logIndex
      (models.logIndex.encode lost)).run (environment live sources)
        reached with
  | mk ended wrote =>
      rw [setRun] at ran
      have isLast : wrote = last := by
        cases ended <;> cases ran <;> rfl
      subst isLast
      have soundReached := storing.sound_run setRun isSound
      have listsReached : Lists holds kv roots map reached := by
        rw [isReached] at soundReached ⊢
        have soundTicked : sound read.ticked :=
          storing.before read.ticked .now soundReached
        have soundRead : sound read :=
          storing.before read .now soundTicked
        have soundStored := storing.sound_run got soundRead
        have listsStored :=
          storing.lists_entryStored entryStored soundStored lists
        have uses : ((⟨kv, client⟩ : SwarmKV).get KVKey.logIndex).Uses
            (StorageCall.Within (fun _ => False) False) :=
          uses_get _ _
        have listsRead :=
          storing.lists_uses uses got soundRead id listsStored
        exact storing.lists_ticked soundReached
          (storing.lists_ticked soundTicked listsRead)
      rcases storing.set_index_cases setRun isSound inverse
          listsReached with ⟨⟨error, _, stopped⟩, _⟩ | ⟨_, isRead⟩
      · rw [uploaded] at stopped
        cases stopped
      · refine ⟨isRead, ?_⟩
        constructor
        · intro isError
          obtain ⟨error, isError⟩ := isError
          subst isError
          cases ended with
          | ok answer => cases ran
          | error raised =>
              rcases stopped_or_interrupted listsReached.1 setRun with
                stopped | ⟨manifest, interrupted⟩
              · have stoppedThere : (client.upload
                    (models.logIndex.encode lost)).run
                      (environment live sources) reached =
                    (.error raised, wrote) := stopped
                rw [uploaded] at stoppedThere
                cases stoppedThere
              · exact ⟨manifest, wrote, interrupted⟩
        · intro isInterrupted
          obtain ⟨manifest, other, interrupted⟩ := isInterrupted
          obtain ⟨error, raised⟩ := interrupted.raises
          rw [run_setEdit, setRun] at raised
          cases ended with
          | ok answer => cases raised
          | error same =>
              cases ran
              exact ⟨_, rfl⟩

/-- An append keeps the history exactly where it loses nothing. -/
theorem Storing.keepsHistory_of {old : Option LogIndex}
    (reads : ReadsIndexOrNone sources models holds ⟨client, ⟨kv, client⟩⟩
      call world)
    (lists : Lists holds kv roots map world)
    (isOld : IndexRead models holds kv world old)
    (isSound : sound ((call.program ⟨client, ⟨kv, client⟩⟩ models).run
      (environment live sources) world).2)
    (inverse : models.InverseOn (Held holds
      ((call.program ⟨client, ⟨kv, client⟩⟩ models).run
        (environment live sources) world).2)) :
    KeepsHistory sources models holds ⟨client, ⟨kv, client⟩⟩ call world ↔
      LosesNothing sources models ⟨client, ⟨kv, client⟩⟩ call world
        old := by
  constructor
  · intro keeps lost reached indexLost
    cases ran : (call.program ⟨client, ⟨kv, client⟩⟩ models).run
        (environment live sources) world with
    | mk outcome last =>
        rw [ran] at isSound inverse
        obtain ⟨isRead, raises⟩ :=
          storing.lost_written indexLost ran isSound inverse lists
        obtain ⟨root, stored, _, _, _, entryStored, _, _, isLost, _⟩ :=
          indexLost.made
        rcases keeps outcome last ran with ⟨isError, same⟩ |
          ⟨other, otherStored, index, entryToo, isIndex, extended⟩
        · right
          have there := (same (some lost)).mp isRead
          exact ⟨storing.indexRead_unique isOld there,
            raises.mp isError⟩
        · left
          obtain ⟨sameRoot, _⟩ := entryStored.unique entryToo
          have sameIndex : index = lost :=
            Option.some.inj (storing.indexRead_unique isIndex isRead)
          have extendsOld := extended old isOld
          rw [sameIndex, isLost, ← sameRoot] at extendsOld
          exact extends_new_iff.mp extendsOld
  · intro losesNothing outcome last ran
    rw [ran] at isSound inverse
    rcases storing.append_cases ran isSound inverse lists with
      ⟨isError, listsNow⟩ |
      ⟨root, stored, entryStored, listsStored, written⟩
    · left
      exact ⟨isError, storing.indexRead_same lists listsNow⟩
    · obtain ⟨loaded, read, loadRun, uploaded, isRead⟩ := written
      rcases storing.loadIndex_cases reads entryStored lists listsStored
          isOld loadRun with ⟨now, isLoaded⟩ |
        ⟨bytes, exc, before, got, unreadable, isLoaded, isBefore⟩
      · right
        refine ⟨root, stored, _, entryStored, isRead, ?_⟩
        intro other isOther
        rw [← storing.indexRead_unique isOld isOther, isLoaded]
        refine ⟨sources.clock read.ticks, ?_⟩
        cases old <;> rfl
      · have indexLost : IndexLost sources models ⟨client, ⟨kv, client⟩⟩
            call world (loaded.append root (sources.clock read.ticks))
            read.ticked := by
          refine ⟨⟨root, stored, before, bytes, exc, entryStored, got,
            unreadable, ?_, ?_⟩, uploaded⟩
          · rw [isLoaded, isBefore]
          · rw [isBefore]
        rcases losesNothing _ _ indexLost with isEmpty |
          ⟨isLost, interrupted⟩
        · right
          refine ⟨root, stored, _, entryStored, isRead, ?_⟩
          intro other isOther
          rw [← storing.indexRead_unique isOld isOther, isLoaded]
          exact extends_new_iff.mpr isEmpty
        · left
          obtain ⟨_, raises⟩ :=
            storing.lost_written indexLost ran isSound inverse lists
          refine ⟨raises.mpr interrupted, ?_⟩
          intro index
          constructor
          · intro isIndex
            rw [storing.indexRead_unique isIndex isRead, ← isLost]
            exact isOld
          · intro isIndex
            rw [storing.indexRead_unique isIndex isOld, isLost]
            exact isRead

/-- Where downloads are right, so is the read of the index. -/
theorem Storing.readsIndex (always : ∀ world, sound world)
    (right : DownloadsRight sources client holds)
    (lists : Lists holds kv roots map world) :
    ReadsIndexOrNone sources models holds ⟨client, ⟨kv, client⟩⟩ call
      world := by
  intro root stored bytes entryStored returned
  left
  have listsStored :=
    storing.lists_entryStored entryStored (always stored) lists
  have isThere := right.get listsStored returned
  rw [isThere]
  exact lists.finds KVKey.logIndex

end Outcome

/-- For every state of the `SwarmKV` and whatever the read of the index gives:
an append keeps the history exactly where it loses nothing. -/
theorem keepsHistory_iff (sources : Sources) (models : Models)
    (client : ZeroGClient)
    (store : client.backend = .live → BlobStore live) (kv : KvId)
    (call : LogAppend) {world : World live}
    {roots : Mapping String String} {map : Mapping String Bytes}
    (lists : Lists (client.Holds store) kv roots map world)
    {old : Option LogIndex}
    (isOld : IndexRead models (client.Holds store) kv world old)
    (reads : ReadsIndexOrNone sources models (client.Holds store)
      ⟨client, ⟨kv, client⟩⟩ call world)
    (collisionFree : CollisionFree
      ((call.program ⟨client, ⟨kv, client⟩⟩ models).run
        (environment live sources) world).2.kept)
    (inverse : models.InverseOn (Held (client.Holds store)
      ((call.program ⟨client, ⟨kv, client⟩⟩ models).run
        (environment live sources) world).2)) :
    KeepsHistory sources models (client.Holds store)
        ⟨client, ⟨kv, client⟩⟩ call world ↔
      LosesNothing sources models ⟨client, ⟨kv, client⟩⟩ call world old :=
  (storing_client sources client store).keepsHistory_of reads lists isOld
    collisionFree inverse

/-! ## One entry in the log -/

def listedIndex : LogIndex where
  entries := ["0x00"]
  entryCount := 1
  lastUpdated := plainSources.clock 0

/-- The root of the next entry. -/
def nextRoot : String := "0x" ++ numberedRoot 1

def nextAppend : LogAppend where
  eventType := .agentStarted
  agentRole := "risk"
  data := none

def nextModels : Models :=
  plainModels [] [] [startEntry]
    [listedIndex, listedIndex.append nextRoot (plainSources.clock 0),
      (LogIndex.default (plainSources.clock 0)).append nextRoot
        (plainSources.clock 0)]

def listedBlob : Bytes :=
  (frame (encode listedIndex.plainText)).toOption.getD []

def listedBlobs : Mapping String Bytes :=
  Mapping.empty.set "0a" listedBlob

def listedRoots : Mapping String String :=
  Mapping.empty.set KVKey.logIndex "0x0a"

def listedMap : Mapping String Bytes :=
  Mapping.empty.set KVKey.logIndex (encode listedIndex.plainText)

/-- A process whose log lists one entry. -/
def listedWorld {live : LiveBackend} (state : live.State) : World live :=
  (World.boot state).setManifest 0 listedRoots.toJson

/-- The index is framed and read back, and the indexes differ. -/
theorem texts_nextModels :
    (frame (encode listedIndex.plainText)).toOption = some listedBlob ∧
      (nextModels.logIndex.decode
        (encode listedIndex.plainText)).toOption = some listedIndex ∧
      ([listedIndex, listedIndex.append nextRoot (plainSources.clock 0),
        (LogIndex.default (plainSources.clock 0)).append nextRoot
          (plainSources.clock 0)].map LogIndex.plainText).Nodup := by
  decide +kernel

theorem nextModels_distinct :
    DistinctTexts [] [] [startEntry]
      [listedIndex, listedIndex.append nextRoot (plainSources.clock 0),
        (LogIndex.default (plainSources.clock 0)).append nextRoot
          (plainSources.clock 0)] where
  agents := List.nodup_nil
  swarms := List.nodup_nil
  entries := List.nodup_singleton _
  indexes := texts_nextModels.2.2

theorem lists_listedWorld {live : LiveBackend} (state : live.State)
    (store : BlobStore live)
    (there : store.contents state "0x0a" = some listedBlob) :
    Lists store.Holds 0 listedRoots listedMap (listedWorld state) := by
  refine ⟨?_, ?_⟩
  · rw [listedWorld, kvs_setManifest]
  · have held : store.Holds (listedWorld state) "0x0a"
        (encode listedIndex.plainText) := by
      refine ⟨listedBlob, eq_ok_of_toOption texts_nextModels.1, ?_⟩
      have marked : ZeroGStorageClient.withMark "0x0a" = "0x0a" := by
        decide
      rw [marked]
      exact there
    exact Mapping.related_empty.set KVKey.logIndex held

theorem indexRead_listedWorld {live : LiveBackend} {state : live.State}
    {store : BlobStore live}
    (lists : Lists store.Holds 0 listedRoots listedMap
      (listedWorld state)) :
    IndexRead nextModels store.Holds 0 (listedWorld state)
      (some listedIndex) := by
  have storing := storing_live plainSources store
  apply (storing.indexRead_iff lists _).mpr
  rw [listedMap, Mapping.get?_set_self, Option.map_some,
    eq_ok_of_toOption texts_nextModels.2.1]
  rfl

def nextRun {live : LiveBackend} (state : live.State) :
    Except Exception LogEntry × World live :=
  (nextAppend.program ⟨⟨.live⟩, ⟨0, ⟨.live⟩⟩⟩ nextModels).run
    (environment live plainSources) (listedWorld state)

def limitedState : limitedBackend.State := (9, listedBlobs)

theorem keepsHistory_iff_limited :
    KeepsHistory plainSources nextModels
        ((⟨.live⟩ : ZeroGClient).Holds fun _ => limitedStore.toBlobStore)
        ⟨⟨.live⟩, ⟨0, ⟨.live⟩⟩⟩ nextAppend (listedWorld limitedState) ↔
      LosesNothing plainSources nextModels ⟨⟨.live⟩, ⟨0, ⟨.live⟩⟩⟩
        nextAppend (listedWorld limitedState) (some listedIndex) := by
  have left : CollisionFree (nextRun limitedState).2.kept ∧
      ∀ item ∈ Mapping.items (Prod.snd (nextRun limitedState).2.live),
        unframe item.2 ≠ [] := by
    decide +kernel
  have there : limitedStore.contents limitedState "0x0a" =
      some listedBlob := by
    rfl
  have lists := lists_listedWorld limitedState limitedStore.toBlobStore there
  have storing := storing_live plainSources limitedStore.toBlobStore
  have reads : ReadsIndexOrNone plainSources nextModels limitedStore.Holds
      ⟨⟨.live⟩, ⟨0, ⟨.live⟩⟩⟩ nextAppend (listedWorld limitedState) :=
    storing.readsIndex (fun _ => trivial)
      (downloadsRight_live plainSources limitedStore) lists
  have inverse : nextModels.InverseOn
      (Held limitedStore.Holds (nextRun limitedState).2) := by
    apply plainModels_inverseOn nextModels_distinct
    intro isHeld
    obtain ⟨root, held⟩ := isHeld
    exact limitedStore_not_holds_nil left.2 root held
  have collisionFree := left.1
  have isOld := indexRead_listedWorld lists
  rw [nextRun] at collisionFree inverse
  rw [← holds_live limitedStore.toBlobStore] at lists isOld inverse reads
  exact keepsHistory_iff plainSources nextModels ⟨.live⟩
    (fun _ => limitedStore.toBlobStore) 0 nextAppend lists isOld reads
    collisionFree inverse

/-! ## Bytes that are no index -/

/-- A sidecar that keeps what it is given and answers every download with one
zero byte. -/
def garbledBackend : LiveBackend where
  State := Mapping String Bytes
  upload := plainUpload
  download := fun state _ => (.ok [0], state)

def garbledStore : BlobStore garbledBackend where
  contents := plainStore.contents
  kept := plainStore.kept
  stored := plainStore.stored
  reading := fun _ _ => rfl

theorem garbledStore_not_holds_nil {world : World garbledBackend}
    (notEmpty : ∀ item ∈ Mapping.items world.live, unframe item.2 ≠ [])
    (root : String) : ¬ garbledStore.Holds world root [] := by
  intro held
  obtain ⟨framed, ok, found⟩ := held
  exact notEmpty _ ((Mapping.mem_items_iff world.live _ _).mpr found)
    (unframe_frame ok)

theorem get_garbled {kv : KvId} {world : World garbledBackend}
    {bytes : Bytes}
    (returned : (((⟨kv, ⟨.live⟩⟩ : SwarmKV).get KVKey.logIndex).run
      (environment garbledBackend plainSources) world).1 =
        .ok (some bytes)) : bytes = [0] := by
  have answer := @answer_get garbledBackend plainSources ⟨kv, ⟨.live⟩⟩
    KVKey.logIndex world (world.kvs kv)
  rw [world.setKv_self, returned] at answer
  split at answer
  · cases answer
  · cases answer
  · cases answer
    rfl
  · cases answer

/-- The index that is stored. -/
def storedIndex (world : World garbledBackend) : Option LogIndex := do
  let root ← match (world.kvs 0).manifest.get KVKey.logIndex with
    | .ok (.str root) => some root
    | _ => none
  let blob ← garbledStore.contents world.live
    (ZeroGStorageClient.withMark root)
  (nextModels.logIndex.decode (unframe blob)).toOption

theorem storedIndex_of_read {world : World garbledBackend}
    {index : LogIndex}
    (read : IndexRead nextModels garbledStore.Holds 0 world
      (some index)) : storedIndex world = some index := by
  obtain ⟨found, finds, decoded⟩ := read
  cases found with
  | none => cases decoded
  | some raw =>
      obtain ⟨root, isRoot, framed, ok, isBlob⟩ := finds
      have isIndex : nextModels.logIndex.decode raw = .ok index :=
        Option.some.inj decoded
      rw [storedIndex, isRoot]
      simp only [Option.bind_eq_bind, Option.bind_some, isBlob,
        unframe_frame ok, isIndex]
      rfl

/-- The one entry of the log is forgotten when the next is appended. -/
theorem garbled_read_erases :
    ¬ ∀ (live : LiveBackend) (sources : Sources) (models : Models)
        (client : ZeroGClient)
        (store : client.backend = .live → BlobStore live) (kv : KvId)
        (call : LogAppend) (world : World live)
        (roots : Mapping String String) (map : Mapping String Bytes)
        (old : Option LogIndex),
      Lists (client.Holds store) kv roots map world →
        IndexRead models (client.Holds store) kv world old →
          ReadsIndexOrNone sources models (client.Holds store)
              ⟨client, ⟨kv, client⟩⟩ call world →
            CollisionFree
                ((call.program ⟨client, ⟨kv, client⟩⟩ models).run
                  (environment live sources) world).2.kept →
              models.InverseOn (Held (client.Holds store)
                  ((call.program ⟨client, ⟨kv, client⟩⟩ models).run
                    (environment live sources) world).2) →
                KeepsHistory sources models (client.Holds store)
                  ⟨client, ⟨kv, client⟩⟩ call world := by
  intro always
  let state : garbledBackend.State := listedBlobs
  have observed : CollisionFree (nextRun state).2.kept ∧
      (∀ item ∈ Mapping.items (nextRun state).2.live,
        unframe item.2 ≠ []) ∧
      (nextRun state).1.isOk = true ∧
      (nextModels.logIndex.decode [0]).isOk = false ∧
      ((storedIndex (nextRun state).2).map fun index =>
        index.entries.length) = some 1 := by
    decide +kernel
  obtain ⟨collisionFree, notEmpty, returned, noIndex, oneEntry⟩ := observed
  have there : garbledStore.contents state "0x0a" = some listedBlob := by
    rfl
  have lists := lists_listedWorld state garbledStore there
  have isOld := indexRead_listedWorld lists
  have reads : ReadsIndexOrNone plainSources nextModels garbledStore.Holds
      ⟨⟨.live⟩, ⟨0, ⟨.live⟩⟩⟩ nextAppend (listedWorld state) := by
    intro root stored bytes _ got
    right
    rw [get_garbled got]
    cases decoded : nextModels.logIndex.decode [0] with
    | ok index =>
        rw [decoded] at noIndex
        cases noIndex
    | error exc => exact ⟨exc, rfl⟩
  have inverse : nextModels.InverseOn
      (Held garbledStore.Holds (nextRun state).2) := by
    apply plainModels_inverseOn nextModels_distinct
    intro isHeld
    obtain ⟨root, held⟩ := isHeld
    exact garbledStore_not_holds_nil notEmpty root held
  rw [nextRun] at collisionFree inverse returned oneEntry
  rw [← holds_live garbledStore] at lists isOld inverse reads
  have keeps := always garbledBackend plainSources nextModels ⟨.live⟩
    (fun _ => garbledStore) 0 nextAppend (listedWorld state) listedRoots
    listedMap (some listedIndex) lists isOld reads collisionFree inverse
  rcases keeps.ran with ⟨⟨exc, isError⟩, _⟩ |
    ⟨root, stored, index, _, isRead, extended⟩
  · rw [isError] at returned
    cases returned
  · obtain ⟨now, isExtended⟩ := extended (some listedIndex) isOld
    rw [holds_live garbledStore] at isRead
    rw [storedIndex_of_read isRead, isExtended] at oneEntry
    cases oneEntry

end SwarmFi.Core.Storage

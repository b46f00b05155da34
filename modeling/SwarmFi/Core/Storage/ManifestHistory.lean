import SwarmFi.Core.Storage.KvRuns

/-!
# Manifests of the past

Uploaded manifests and values are immutable.  Whoever has kept a root that
`manifest_root` once had can load the store as it was then, whatever has been
written and deleted since.
-/

namespace SwarmFi.Core.Storage

open Foundation Python

variable
  {live : LiveBackend} {sources : Sources} {client : ZeroGClient}
  {sound : World live → Prop}
  {holds : World live → String → Bytes → Prop}

/-- The root is that of a manifest whose roots lead to the items of the
dict. -/
def ManifestFor
    (holds : World live → String → Bytes → Prop) (root : String)
    (dict : Mapping String Bytes) (world : World live) : Prop :=
  ∃ (ts : String) (listed : Mapping String String)
      (follows : Mapping String Bytes),
    holds world root (manifestPayload ts listed.toJson) ∧
      Mapping.Related (holds world) listed follows ∧
        follows.items.Perm dict.items

theorem ManifestFor.mono
    {root : String} {dict : Mapping String Bytes} {before after : World live}
    (manifest : ManifestFor holds root dict before)
    (kept : ∀ name data, holds before name data → holds after name data) :
    ManifestFor holds root dict after := by
  obtain ⟨ts, listed, follows, held, values, reordered⟩ := manifest
  exact ⟨ts, listed, follows, kept root _ held, values.mono kept, reordered⟩

/-- What a `SwarmKV` has published is the manifest for its dict. -/
theorem Shows.manifestFor
    {kv : KvId} {dict : Mapping String Bytes} {world : World live}
    (shows : Shows holds kv dict world) {root : String}
    (isRoot : (world.kvs kv).manifestRoot = some root) :
    ManifestFor holds root dict world := by
  obtain ⟨roots, lists, published⟩ := shows
  rw [Published, isRoot] at published
  obtain ⟨ts, listed, reordered, held⟩ := published
  obtain ⟨follows, sameItems, values⟩ := lists.2.reorder reordered
  exact ⟨ts, listed, follows, held, values, sameItems⟩

/-- No call takes such a manifest away. -/
theorem Durable.stable_manifestFor
    (durable : Durable sources client sound holds)
    (allowed : StorageCall → Prop) (root : String)
    (dict : Mapping String Bytes) :
    durable.setting.Stable allowed (ManifestFor holds root dict) :=
  fun world request _ isSound manifest =>
    manifest.mono fun name data =>
      durable.stays world request name data isSound

/-- A fresh `SwarmKV` that loads the manifest answers from its dict. -/
theorem Durable.load_answers
    (durable : Durable sources client sound holds) {root : String}
    {dict : Mapping String Bytes} {world : World live}
    (isSound : sound world) (manifest : ManifestFor holds root dict world)
    (fresh : KvId) :
    ∃ loaded : World live,
      ((⟨fresh, client⟩ : SwarmKV).loadManifest (some root)).run
          (environment live sources) world = (.ok (), loaded) ∧
        AnswersAs sources ⟨fresh, client⟩ dict loaded := by
  obtain ⟨ts, listed, follows, held, values, sameItems⟩ := manifest
  obtain ⟨text, decoded, sorted, isText, isDecoded, isManifest,
    reordered⟩ := loads_manifestPayload ts listed
  obtain ⟨reloaded, sameReloaded, related⟩ := values.reorder reordered
  have calm : durable.setting.Calm
      (StorageCall.Within (· = fresh) False) :=
    fun state request => durable.calm _ state request
  have uses : ((⟨fresh, client⟩ : SwarmKV).loadManifest (some root)).Uses
      (StorageCall.Within (· = fresh) False) := by
    refine uses_loadManifest _ ?_ _
    rfl
  have soundThere := calm.run uses isSound
  have loads : Returns durable.setting
      (fun world =>
        holds world root (manifestPayload ts listed.toJson) ∧
          Mapping.Related (holds world) sorted reloaded)
      ((⟨fresh, client⟩ : SwarmKV).loadManifest (some root))
      fun _ => Shows holds fresh reloaded :=
    Returns.recover (durable.readManifest_returns isText isDecoded
      isManifest reordered) _
  obtain ⟨done, isOk, shows⟩ := loads world ⟨held, related⟩ soundThere
  refine ⟨_, Prod.ext isOk rfl, ?_⟩
  exact durable.answersAs_of_shows (sameReloaded.trans sameItems)
    soundThere shows

/-- Over an in-memory or a buffered client every root that `manifest_root` had
during a run still loads the dict of that time at the end of the run. -/
theorem past_manifest_loads
    (offline : client.backend ≠ .live) {kv : KvId}
    (earlier later : List KvOp) (state : live.State)
    {answers moreAnswers : List KvAnswer} {middle world : World live}
    (began : (Program.each (KvOp.program ⟨kv, client⟩) earlier).run
      (environment live sources) (.boot state) = (.ok answers, middle))
    (went : (Program.each (KvOp.program ⟨kv, client⟩) later).run
      (environment live sources) middle = (.ok moreAnswers, world))
    (collisionFree : CollisionFree world.kept) {root : String}
    (published : (middle.kvs kv).manifestRoot = some root) (fresh : KvId) :
    ∃ loaded : World live,
      ((⟨fresh, client⟩ : SwarmKV).loadManifest (some root)).run
          (environment live sources) world = (.ok (), loaded) ∧
        AnswersAs sources ⟨fresh, client⟩ (onDict earlier).2 loaded := by
  have durable := durable_local live sources offline
  have uses (op : KvOp) :
      (op.program ⟨kv, client⟩).Uses
        (StorageCall.Within (· = kv) True) := by
    refine uses_kvOp ?_ op
    rfl
  have soundThere : CollisionFree middle.kept := by
    refine durable.setting.sound_of_run
      (Program.each (KvOp.program ⟨kv, client⟩) later) middle ?_
    rw [went]
    exact collisionFree
  have shows :=
    (durable.ops_refine kv rfl began soundThere).2
  have still : ManifestFor World.Keeps root (onDict earlier).2 world :=
    (Program.uses_each uses later).triple
      (durable.stable_manifestFor _ root (onDict earlier).2)
      middle moreAnswers world (shows.manifestFor published) went
      collisionFree
  exact durable.load_answers collisionFree still fresh

/-- A value is set and, later, deleted. -/
def valueSet : Except Exception (List KvAnswer) × World downBackend :=
  (Program.each (KvOp.program ⟨0, ⟨.inMemory⟩⟩) [.set "a" [1]]).run
    (environment downBackend plainSources) (.boot ())

def valueDeleted (world : World downBackend) :
    Except Exception (List KvAnswer) × World downBackend :=
  (Program.each (KvOp.program ⟨0, ⟨.inMemory⟩⟩) [.delete "a"]).run
    (environment downBackend plainSources) world

theorem past_manifest_loads_deleted :
    ∃ (root : String) (loaded : World downBackend),
      ((⟨1, ⟨.inMemory⟩⟩ : SwarmKV).loadManifest (some root)).run
          (environment downBackend plainSources)
          (valueDeleted valueSet.2).2 = (.ok (), loaded) ∧
        AnswersAs plainSources ⟨1, ⟨.inMemory⟩⟩
          (onDict [.set "a" [1]]).2 loaded := by
  have runs : valueSet.1.isOk = true ∧
      (valueSet.2.kvs 0).manifestRoot.isSome = true ∧
        (valueDeleted valueSet.2).1.isOk = true ∧
          CollisionFree (valueDeleted valueSet.2).2.kept := by
    decide +kernel
  rcases isSet : valueSet with ⟨outcome, middle⟩
  rw [isSet] at runs
  rcases isDeleted : valueDeleted middle with ⟨ending, world⟩
  rw [isDeleted] at runs
  obtain ⟨setEnded, published, deleteEnded, collisionFree⟩ := runs
  obtain ⟨root, isRoot⟩ := Option.isSome_iff_exists.mp published
  cases outcome with
  | error exc => cases setEnded
  | ok answers =>
      cases ending with
      | error exc => cases deleteEnded
      | ok moreAnswers =>
          have offline : (⟨.inMemory⟩ : ZeroGClient).backend ≠ .live := by
            decide
          rw [valueSet] at isSet
          rw [valueDeleted] at isDeleted
          have loads :=
            @past_manifest_loads downBackend plainSources ⟨.inMemory⟩
              offline 0 [.set "a" [1]] [.delete "a"] () answers moreAnswers
              middle world isSet isDeleted collisionFree root isRoot 1
          exact ⟨root, loads⟩

end SwarmFi.Core.Storage

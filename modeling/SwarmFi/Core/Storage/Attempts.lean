import SwarmFi.Core.Storage.Atomicity
import SwarmFi.Core.Storage.DurableLog

/-!
# Calls that may raise

Over a client that stores, what a manifest lists stays under its roots however
a call ends.  So a write that raises either leaves the dict of its `SwarmKV`
as it was or has set its key, and a read that returns gives what is there.
-/

namespace SwarmFi.Core.Storage

open Foundation Python

variable
  {live : LiveBackend} {sources : Sources} {client : ZeroGClient}
  {sound : World live → Prop}
  {holds : World live → String → Bytes → Prop}

abbrev Storing.setting (storing : Storing sources client sound holds) :
    Setting StorageVocabulary (World live) where
  environment := environment live sources
  sound := sound
  before := storing.before

/-- With the assumption that the models that are held are read back. -/
theorem Storing.withModels
    (storing : Storing sources client sound holds) (models : Models) :
    Storing sources client
      (fun world => sound world ∧ models.InverseOn (Held holds world))
      holds where
  before := by
    intro world request after
    obtain ⟨isSound, inverse⟩ := after
    constructor
    · exact storing.before world request isSound
    · apply inverse.mono
      intro text isHeld
      obtain ⟨root, held⟩ := isHeld
      exact ⟨root, storing.stays world request root text isSound held⟩
  stays := fun world request root data after =>
    storing.stays world request root data after.1
  upload := storing.upload
  unique := storing.unique

/-! ## The clock -/

def World.ticked (world : World live) : World live :=
  { world with ticks := world.ticks + 1 }

theorem run_now (sources : Sources) {α : Type} (next : String → Steps α)
    (world : World live) :
    ((ask .now).bind next).run (environment live sources) world =
      (next (sources.clock world.ticks)).run (environment live sources)
        world.ticked := rfl

/-! ## What a dict has under a key -/

/-- The `SwarmKV` has this under the key. -/
def Finds
    (holds : World live → String → Bytes → Prop) (kv : KvId)
    (world : World live) (key : String) : Option Bytes → Prop
  | none => (world.kvs kv).manifest.get key = .ok .null
  | some data => ∃ root,
      (world.kvs kv).manifest.get key = .ok (.str root) ∧
        holds world root data

theorem Lists.finds
    {kv : KvId} {roots : Mapping String String}
    {map : Mapping String Bytes} {world : World live}
    (lists : Lists holds kv roots map world) (key : String) :
    Finds holds kv world key (map.get? key) := by
  obtain ⟨isManifest, values⟩ := lists
  rcases values.get? key with ⟨noRoot, noValue⟩ |
    ⟨root, data, isRoot, isValue, held⟩
  · rw [noValue, Finds, isManifest, Mapping.get_toJson, noRoot]
    rfl
  · rw [isValue, Finds]
    refine ⟨root, ?_, held⟩
    rw [isManifest, Mapping.get_toJson, isRoot]
    rfl

section Storing

variable (storing : Storing sources client sound holds)

include storing

theorem Storing.finds_unique
    {kv : KvId} {world : World live} {key : String}
    {first second : Option Bytes}
    (isFirst : Finds holds kv world key first)
    (isSecond : Finds holds kv world key second) : first = second := by
  cases first with
  | none =>
      cases second with
      | none => rfl
      | some data =>
          obtain ⟨root, isRoot, _⟩ := isSecond
          have isNone : (world.kvs kv).manifest.get key = .ok .null :=
            isFirst
          rw [isNone] at isRoot
          cases isRoot
  | some data =>
      obtain ⟨root, isRoot, held⟩ := isFirst
      cases second with
      | none =>
          have isNone : (world.kvs kv).manifest.get key = .ok .null :=
            isSecond
          rw [isNone] at isRoot
          cases isRoot
      | some other =>
          obtain ⟨otherRoot, isOther, otherHeld⟩ := isSecond
          rw [isRoot] at isOther
          cases isOther
          rw [storing.unique world root data other held otherHeld]

theorem Storing.finds_iff
    {kv : KvId} {roots : Mapping String String}
    {map : Mapping String Bytes} {world : World live}
    (lists : Lists holds kv roots map world) (key : String)
    (found : Option Bytes) :
    Finds holds kv world key found ↔ found = map.get? key := by
  constructor
  · intro finds
    exact storing.finds_unique finds (lists.finds key)
  · intro same
    rw [same]
    exact lists.finds key

/-! ## What stays -/

theorem Storing.holds_run
    {α : Type} {program : Steps α} {world last : World live}
    {outcome : Except Exception α}
    (ran : program.run (environment live sources) world = (outcome, last))
    (isSound : sound last) {root : String} {data : Bytes}
    (held : holds world root data) : holds last root data := by
  have stable : storing.setting.Stable (fun _ => True)
      fun state => holds state root data := by
    intro state request _ soundThere there
    exact storing.stays state request root data soundThere there
  have kept : sound (program.run (environment live sources) world).2 →
      holds world root data →
        holds (program.run (environment live sources) world).2 root data :=
    stable.run (Program.uses_any program)
  rw [ran] at kept
  exact kept isSound held

theorem Storing.sound_run
    {α : Type} {program : Steps α} {world last : World live}
    {outcome : Except Exception α}
    (ran : program.run (environment live sources) world = (outcome, last))
    (isSound : sound last) : sound world := by
  have earlier : sound (program.run (environment live sources) world).2 →
      sound world :=
    storing.setting.sound_of_run program world
  rw [ran] at earlier
  exact earlier isSound

/-- A run that leaves the manifest alone leaves the dict alone. -/
theorem Storing.lists_run
    {α : Type} {program : Steps α} {world last : World live}
    {outcome : Except Exception α}
    (ran : program.run (environment live sources) world = (outcome, last))
    (isSound : sound last) {kv : KvId} {roots : Mapping String String}
    {map : Mapping String Bytes}
    (lists : Lists holds kv roots map world)
    (same : (last.kvs kv).manifest = (world.kvs kv).manifest) :
    Lists holds kv roots map last := by
  constructor
  · rw [same]
    exact lists.1
  · apply lists.2.mono
    intro root data held
    exact storing.holds_run ran isSound held

/-- A run that does not write to the `SwarmKV` leaves its dict alone. -/
theorem Storing.lists_uses
    {α : Type} {program : Steps α} {world last : World live}
    {outcome : Except Exception α} {kvs : KvId → Prop} {stores : Prop}
    (uses : program.Uses (StorageCall.Within kvs stores))
    (ran : program.run (environment live sources) world = (outcome, last))
    (isSound : sound last) {kv : KvId} (other : ¬ kvs kv)
    {roots : Mapping String String} {map : Mapping String Bytes}
    (lists : Lists holds kv roots map world) :
    Lists holds kv roots map last := by
  have frame : ∀ (state : World live) (request : StorageCall),
      request.Within kvs stores →
        (environment live sources state request).2.kvs kv =
          state.kvs kv := by
    intro state request within
    exact kvs_of_within within other state
  have kept := uses.run_preserves (fun state : World live => state.kvs kv)
    frame world
  rw [ran] at kept
  apply storing.lists_run ran isSound lists
  exact congrArg KvState.manifest kept

theorem Storing.lists_ticked
    {kv : KvId} {world : World live} {roots : Mapping String String}
    {map : Mapping String Bytes} (isSound : sound world.ticked)
    (lists : Lists holds kv roots map world) :
    Lists holds kv roots map world.ticked := by
  have ran : (ask .now).run (environment live sources) world =
      (.ok (sources.clock world.ticks), world.ticked) := rfl
  exact storing.lists_run ran isSound lists rfl

/-! ## Writes -/

/-- The root of a value that is there, put under the key. -/
theorem Storing.lists_assigned
    {α : Type} {program : Steps α} {world last : World live}
    {outcome : Except Exception α}
    (ran : program.run (environment live sources) world = (outcome, last))
    (isSound : sound last) {kv : KvId} {roots : Mapping String String}
    {map : Mapping String Bytes}
    (lists : Lists holds kv roots map world)
    {key root : String} {value : Bytes} {manifest : Json}
    (changed : (world.kvs kv).manifest.setItem key (.str root) =
      .ok manifest)
    (isManifest : (last.kvs kv).manifest = manifest)
    (held : holds last root value) :
    Lists holds kv (roots.set key root) (map.set key value) last := by
  obtain ⟨isListed, values⟩ := lists
  rw [isListed, Mapping.setItem_toJson] at changed
  cases changed
  have later : Mapping.Related (holds last) roots map := by
    apply values.mono
    intro listed data there
    exact storing.holds_run ran isSound there
  exact ⟨isManifest, later.set key held⟩

omit storing in
theorem manifest_persistManifest {self : SwarmKV} {world last : World live}
    {outcome : Except Exception String}
    (ran : self.persistManifest.run (environment live sources) world =
      (outcome, last)) :
    (last.kvs self.id).manifest = (world.kvs self.id).manifest := by
  rw [run_persistManifest] at ran
  have kept := kvs_upload sources self.client
    (manifestPayload (sources.clock world.ticks)
      (world.kvs self.id).manifest) { world with ticks := world.ticks + 1 }
    self.id
  split at ran
  · next error reached uploaded =>
      cases ran
      rw [uploaded] at kept
      exact congrArg KvState.manifest kept
  · next result reached uploaded =>
      cases ran
      rw [uploaded] at kept
      rw [kvs_setManifestRoot]
      have same : (reached.kvs self.id).manifest =
          (world.kvs self.id).manifest :=
        congrArg KvState.manifest kept
      exact same

/-- A `set` that returns has set its key. -/
theorem Storing.lists_set
    {world last : World live} {result : UploadResult} {kv : KvId}
    {key : String} {value : Bytes}
    (ran : ((⟨kv, client⟩ : SwarmKV).set key value).run
      (environment live sources) world = (.ok result, last))
    (isSound : sound last) {roots : Mapping String String}
    {map : Mapping String Bytes}
    (lists : Lists holds kv roots map world) :
    Lists holds kv (roots.set key result.rootHash) (map.set key value)
        last ∧
      holds last result.rootHash value := by
  have finished := ran
  have kept := kvs_upload sources client value world kv
  rw [run_set] at finished
  cases stored : (client.upload value).run (environment live sources)
      world with
  | mk outcome uploaded =>
      rw [stored] at finished kept
      cases outcome with
      | error exc => cases finished
      | ok answer =>
          simp only at finished kept
          rw [kept] at finished
          cases changed : (world.kvs kv).manifest.setItem key
              (.str answer.rootHash) with
          | error exc =>
              rw [changed] at finished
              cases finished
          | ok manifest =>
              simp only [changed] at finished
              cases persisted : (⟨kv, client⟩ : SwarmKV).persistManifest.run
                  (environment live sources)
                  (uploaded.setManifest kv manifest) with
              | mk outcome reached =>
                  rw [persisted] at finished
                  cases outcome with
                  | error exc => cases finished
                  | ok root =>
                      cases finished
                      have isManifest := manifest_persistManifest persisted
                      simp only [kvs_setManifest] at isManifest
                      have assigned : holds
                          (uploaded.setManifest kv manifest)
                          result.rootHash value := by
                        apply storing.stays uploaded
                          (.setManifest kv manifest)
                        · exact storing.sound_run persisted isSound
                        · exact storing.upload world uploaded value result
                            stored
                      have held := storing.holds_run persisted isSound
                        assigned
                      exact ⟨storing.lists_assigned ran isSound lists
                        changed isManifest held, held⟩

/-- So has one that was interrupted. -/
theorem Storing.lists_interrupted
    {world last : World live} {kv : KvId} {key : String} {value : Bytes}
    {manifest : Json}
    (interrupted : Interrupted sources ⟨kv, client⟩ world
      (.set key value) manifest last)
    (isSound : sound last) {roots : Mapping String String}
    {map : Mapping String Bytes}
    (lists : Lists holds kv roots map world) :
    ∃ root, Lists holds kv (roots.set key root) (map.set key value) last ∧
      holds last root value := by
  have left := interrupted.kvs
  obtain ⟨exc, raised⟩ := interrupted.raises
  cases interrupted with
  | set stored changed failed =>
      rename_i result uploaded error
      have isManifest : (last.kvs kv).manifest = manifest := by
        rw [left]
      have assigned : holds (uploaded.setManifest kv manifest)
          result.rootHash value := by
        apply storing.stays uploaded (.setManifest kv manifest)
        · exact storing.sound_run failed isSound
        · exact storing.upload world uploaded value result stored
      have held := storing.holds_run failed isSound assigned
      exact ⟨result.rootHash, storing.lists_assigned raised isSound lists
        changed isManifest held, held⟩

omit storing in
/-- A `set` of a dict that raises has not stored its value, or was
interrupted. -/
theorem stopped_or_interrupted
    {self : SwarmKV} {key : String} {value : Bytes}
    {world last : World live} {exc : Exception}
    {roots : Mapping String String}
    (isListed : (world.kvs self.id).manifest = roots.toJson)
    (raised : (self.set key value).run (environment live sources) world =
      (.error exc, last)) :
    (self.client.upload value).run (environment live sources) world =
        (.error exc, last) ∨
      ∃ manifest, Interrupted sources self world (.set key value) manifest
        last := by
  have kept := kvs_upload sources self.client value world self.id
  rw [run_set] at raised
  cases stored : (self.client.upload value).run (environment live sources)
      world with
  | mk outcome uploaded =>
      rw [stored] at raised kept
      cases outcome with
      | error error =>
          cases raised
          exact Or.inl rfl
      | ok result =>
          simp only at raised kept
          have changed : (world.kvs self.id).manifest.setItem key
              (.str result.rootHash) =
                .ok (roots.set key result.rootHash).toJson := by
            rw [isListed, Mapping.setItem_toJson]
          rw [kept, changed] at raised
          cases failed : self.persistManifest.run
              (environment live sources)
              (uploaded.setManifest self.id
                (roots.set key result.rootHash).toJson) with
          | mk outcome reached =>
              simp only [failed] at raised
              cases outcome with
              | ok root => cases raised
              | error error =>
                  cases raised
                  exact Or.inr ⟨_, .set stored changed failed⟩

/-! ## Keys that a program leaves alone -/

/-- Under every key but one the dict is the given one. -/
def ListsExcept
    (holds : World live → String → Bytes → Prop) (kv : KvId)
    (key : String) (map : Mapping String Bytes) (world : World live) :
    Prop :=
  ∃ roots other, Lists holds kv roots other world ∧
    ∀ asked, asked ≠ key → other.get? asked = map.get? asked

theorem Storing.keeps_listsExcept
    {α : Type} {program : Steps α} {kvs : KvId → Prop} {stores : Prop}
    (uses : program.Uses (StorageCall.Within kvs stores)) {kv : KvId}
    (elsewhere : ¬ kvs kv) (key : String) (map : Mapping String Bytes) :
    Keeps storing.setting (ListsExcept holds kv key map) program := by
  intro world before isSound
  obtain ⟨roots, other, lists, same⟩ := before
  exact ⟨roots, other,
    storing.lists_uses uses rfl isSound elsewhere lists, same⟩

/-- A `set` leaves every other key alone, however it ends. -/
theorem Storing.set_keeps
    (kv : KvId) (key : String) (value : Bytes)
    (map : Mapping String Bytes) :
    Keeps storing.setting (ListsExcept holds kv key map)
      ((⟨kv, client⟩ : SwarmKV).set key value) := by
  intro world before isSound
  obtain ⟨roots, other, lists, same⟩ := before
  have sameNow : ∀ asked, asked ≠ key →
      (other.set key value).get? asked = map.get? asked := by
    intro asked different
    rw [Mapping.get?_set_of_ne _ different]
    exact same asked different
  cases ran : ((⟨kv, client⟩ : SwarmKV).set key value).run
      (environment live sources) world with
  | mk outcome last =>
      have soundThere : sound last := by
        have there := isSound
        rw [ran] at there
        exact there
      cases outcome with
      | ok result =>
          obtain ⟨listsNow, _⟩ := storing.lists_set ran soundThere lists
          exact ⟨_, _, listsNow, sameNow⟩
      | error exc =>
          rcases stopped_or_interrupted lists.1 ran with stopped |
            ⟨manifest, interrupted⟩
          · have uses : (client.upload value).Uses
                (StorageCall.Within (fun _ => False) True) :=
              uses_upload trivial client value
            have listsNow :=
              storing.lists_uses uses stopped soundThere id lists
            exact ⟨roots, other, listsNow, same⟩
          · obtain ⟨root, listsNow, _⟩ :=
              storing.lists_interrupted interrupted soundThere lists
            exact ⟨_, _, listsNow, sameNow⟩

/-! ## Reads -/

omit storing in
theorem World.setKv_self (world : World live) (kv : KvId) :
    world.setKv kv (world.kvs kv) = world := by
  rw [World.setKv, Function.update_eq_self]

omit storing in
/-- A `get` that returns gives what the dict has. -/
theorem DownloadsRight.get
    (right : DownloadsRight sources client holds) {kv : KvId}
    {roots : Mapping String String} {map : Mapping String Bytes}
    {world : World live} (lists : Lists holds kv roots map world)
    {key : String} {found : Option Bytes}
    (returned : (((⟨kv, client⟩ : SwarmKV).get key).run
      (environment live sources) world).1 = .ok found) :
    found = map.get? key := by
  have answer := @answer_get live sources ⟨kv, client⟩ key world
    (world.kvs kv)
  rw [world.setKv_self, returned, lists.1, Mapping.get_toJson] at answer
  rcases lists.2.get? key with ⟨noRoot, noValue⟩ |
    ⟨root, data, isRoot, isValue, held⟩
  · rw [noRoot] at answer
    rw [noValue]
    exact Except.ok.inj answer
  · rw [isRoot] at answer
    rw [isValue]
    simp only [Option.map_some, Option.getD_some] at answer
    cases downloaded : ((client.download root).run
        (environment live sources) world).1 with
    | error exc =>
        rw [downloaded] at answer
        cases answer
    | ok raw =>
        rw [downloaded] at answer
        rw [right world root data raw held downloaded] at answer
        exact Except.ok.inj answer

omit storing in
/-- A `get` that finds nothing has nothing to find. -/
theorem absent_of_get {kv : KvId}
    {roots : Mapping String String} {map : Mapping String Bytes}
    {world : World live} (lists : Lists holds kv roots map world)
    {key : String}
    (returned : (((⟨kv, client⟩ : SwarmKV).get key).run
      (environment live sources) world).1 = .ok none) :
    map.get? key = none := by
  have answer := @answer_get live sources ⟨kv, client⟩ key world
    (world.kvs kv)
  rw [world.setKv_self, returned, lists.1, Mapping.get_toJson] at answer
  rcases lists.2.get? key with ⟨noRoot, noValue⟩ |
    ⟨root, data, isRoot, isValue, held⟩
  · exact noValue
  · rw [isRoot] at answer
    simp only [Option.map_some, Option.getD_some] at answer
    cases downloaded : ((client.download root).run
        (environment live sources) world).1 with
    | error exc =>
        rw [downloaded] at answer
        cases answer
    | ok raw =>
        rw [downloaded] at answer
        cases answer

end Storing

end SwarmFi.Core.Storage

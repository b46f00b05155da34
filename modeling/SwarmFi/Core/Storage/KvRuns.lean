import SwarmFi.Core.Storage.DurableMap
import SwarmFi.Core.Storage.RoundTrip

/-!
# Runs of a key-value store

Whatever is done with a `SwarmKV`, one call after another, its answers are
those of a plain dict; and at every time the published manifest brings the
same dict back in a `SwarmKV` that has just been made.
-/

namespace SwarmFi.Core.Storage

open Foundation Python

inductive KvOp where
  | set (key : String) (value : Bytes)
  | delete (key : String)
  | get (key : String)
  | getOrDefault (key : String) (default : Bytes)
  | exists (key : String)
  | keys

inductive KvAnswer where
  | nothing
  | value (found : Option Bytes)
  | bytes (value : Bytes)
  | present (answer : Bool)
  | keys (listed : List String)

def KvOp.program (self : SwarmKV) : KvOp → Steps KvAnswer
  | .set key value => do
      let _ ← self.set key value
      return .nothing
  | .delete key => do
      self.delete key
      return .nothing
  | .get key => do return .value (← self.get key)
  | .getOrDefault key default => do
      return .bytes (← self.getOrDefault key default)
  | .exists key => do return .present (← self.exists key)
  | .keys => do return .keys (← self.keys)

/-! ## The plain dict -/

/-- What a dict of bytes answers, and what becomes of it. -/
def KvOp.onDict (dict : Mapping String Bytes) :
    KvOp → KvAnswer × Mapping String Bytes
  | .set key value => (.nothing, dict.set key value)
  | .delete key => (.nothing, dict.erase key)
  | .get key => (.value (dict.get? key), dict)
  | .getOrDefault key default =>
      (.bytes ((dict.get? key).getD default), dict)
  | .exists key => (.present (dict.contains key), dict)
  | .keys => (.keys dict.keys, dict)

/-- A history of the dict, from an empty one. -/
def onDict (ops : List KvOp) : List KvAnswer × Mapping String Bytes :=
  ops.foldl
    (fun reached op =>
      (reached.1 ++ [(op.onDict reached.2).1], (op.onDict reached.2).2))
    ([], .empty)

theorem onDict_snoc (ops : List KvOp) (op : KvOp) :
    onDict (ops ++ [op]) =
      ((onDict ops).1 ++ [(op.onDict (onDict ops).2).1],
        (op.onDict (onDict ops).2).2) := by
  rw [onDict, List.foldl_append]
  rfl

/-! ## One step and a whole run -/

variable
  {live : LiveBackend} {sources : Sources} {client : ZeroGClient}
  {sound : World live → Prop}
  {holds : World live → String → Bytes → Prop}

theorem uses_kvOp {kvs : KvId → Prop} {self : SwarmKV} (own : kvs self.id)
    (op : KvOp) :
    (op.program self).Uses (StorageCall.Within kvs True) := by
  cases op with
  | set key value =>
      exact (uses_set self trivial own key value).bind fun _ =>
        Program.uses_done _
  | delete key =>
      exact (uses_delete self trivial own key).bind fun _ =>
        Program.uses_done _
  | get key => exact (uses_get self key).bind fun _ => Program.uses_done _
  | getOrDefault key default =>
      exact (uses_getOrDefault self key default).bind fun _ =>
        Program.uses_done _
  | «exists» key =>
      exact (uses_exists self key).bind fun _ => Program.uses_done _
  | keys => exact (uses_keys self).bind fun _ => Program.uses_done _

/-- A question leaves the dict as it is. -/
theorem Durable.asked_triple
    (durable : Durable sources client sound holds) {α : Type} {kv : KvId}
    {dict : Mapping String Bytes} {program : Steps α} {expected : α}
    (returns : Returns durable.setting (Shows holds kv dict) program
      fun answer _ => answer = expected)
    (uses : program.Uses (StorageCall.Within (fun _ => False) False))
    (shown : α → KvAnswer) :
    Triple durable.setting (Shows holds kv dict)
      (do return shown (← program))
      fun answer world =>
        answer = shown expected ∧ Shows holds kv dict world := by
  refine (durable.reading_triple returns uses).bind fun answer => ?_
  refine Triple.done fun world parts => ⟨?_, parts.2⟩
  rw [parts.1]

/-- A step does to the dict what it does to a plain one. -/
theorem Durable.op_triple
    (durable : Durable sources client sound holds) (kv : KvId) (op : KvOp)
    (dict : Mapping String Bytes) :
    Triple durable.setting (Shows holds kv dict) (op.program ⟨kv, client⟩)
      fun answer world =>
        answer = (op.onDict dict).1 ∧
          Shows holds kv (op.onDict dict).2 world := by
  cases op with
  | set key value =>
      refine (durable.set_triple kv key value dict).bind fun _ => ?_
      exact Triple.done fun world parts => ⟨rfl, parts.1⟩
  | delete key =>
      refine (durable.delete_triple kv key dict).bind fun _ => ?_
      exact Triple.done fun world shows => ⟨rfl, shows⟩
  | get key =>
      exact durable.asked_triple (durable.get_returns kv key dict)
        (uses_get _ key) .value
  | getOrDefault key default =>
      exact durable.asked_triple
        (durable.getOrDefault_returns kv key default dict)
        (uses_getOrDefault _ key default) .bytes
  | «exists» key =>
      exact durable.asked_triple (durable.exists_returns kv key dict)
        (uses_exists _ key) .present
  | keys =>
      exact durable.asked_triple (durable.keys_returns kv dict)
        (uses_keys _) .keys

/-- So does a run of any length. -/
theorem Durable.ops_refine
    (durable : Durable sources client sound holds) (kv : KvId)
    {ops : List KvOp} {first last : World live} {answers : List KvAnswer}
    (fresh : first.kvs kv = .fresh)
    (finished : (Program.each (KvOp.program ⟨kv, client⟩) ops).run
      (environment live sources) first = (.ok answers, last))
    (isSound : sound last) :
    answers = (onDict ops).1 ∧ Shows holds kv (onDict ops).2 last := by
  have steps := run_each_induct durable.setting
    (motive := fun ops answers world =>
      answers = (onDict ops).1 ∧ Shows holds kv (onDict ops).2 world)
    ⟨rfl, shows_fresh holds fresh⟩ ?_ finished isSound
  · exact steps
  rintro ops answers op answer world reached ⟨rfl, shows⟩ opRun reachedSound
  have step := durable.op_triple kv op (onDict ops).2 world answer reached
    shows opRun reachedSound
  rw [onDict_snoc]
  exact ⟨by rw [step.1], step.2⟩

/-! ## Another `SwarmKV` -/

/-- Every question to the `SwarmKV` is answered from the dict. -/
structure AnswersAs
    (sources : Sources) (self : SwarmKV) (dict : Mapping String Bytes)
    (world : World live) : Prop where
  get : ∀ key,
    ((self.get key).run (environment live sources) world).1 =
      .ok (dict.get? key)
  getOrDefault : ∀ key default,
    ((self.getOrDefault key default).run
      (environment live sources) world).1 =
        .ok ((dict.get? key).getD default)
  «exists» : ∀ key,
    ((self.exists key).run (environment live sources) world).1 =
      .ok (dict.contains key)
  keys : ∃ listed,
    (self.keys.run (environment live sources) world).1 = .ok listed ∧
      listed.Nodup ∧ listed.Perm dict.keys

/-- `fresh.load_manifest(kv.manifest_root)` -/
def reload (kv fresh : SwarmKV) : Steps Unit := do
  let root ← kv.manifestRoot
  fresh.loadManifest root

/-- What shows a dict answers as any dict with the same items. -/
theorem Durable.answersAs_of_shows
    (durable : Durable sources client sound holds) {kv : KvId}
    {shown dict : Mapping String Bytes}
    (sameItems : shown.items.Perm dict.items) {world : World live}
    (isSound : sound world) (shows : Shows holds kv shown world) :
    AnswersAs sources ⟨kv, client⟩ dict world where
  get := by
    intro key
    rw [← Mapping.get?_eq_of_perm sameItems]
    exact durable.answer_of_returns (durable.get_returns kv key shown)
      (uses_get _ key) isSound shows
  getOrDefault := by
    intro key default
    rw [← Mapping.get?_eq_of_perm sameItems]
    exact durable.answer_of_returns
      (durable.getOrDefault_returns kv key default shown)
      (uses_getOrDefault _ key default) isSound shows
  «exists» := by
    intro key
    rw [Mapping.contains, ← Mapping.get?_eq_of_perm sameItems]
    exact durable.answer_of_returns (durable.exists_returns kv key shown)
      (uses_exists _ key) isSound shows
  keys :=
    ⟨shown.keys,
      durable.answer_of_returns (durable.keys_returns kv shown)
        (uses_keys _) isSound shows,
      shown.distinct, sameItems.map Prod.fst⟩

theorem Durable.reload_answers
    (durable : Durable sources client sound holds) {kv fresh : KvId}
    {dict : Mapping String Bytes} {world : World live}
    (isSound : sound world) (shows : Shows holds kv dict world)
    (isFresh : world.kvs fresh = .fresh) :
    ((reload ⟨kv, client⟩ ⟨fresh, client⟩).run
        (environment live sources) world).1 = .ok () ∧
      AnswersAs sources ⟨fresh, client⟩ dict
        ((reload ⟨kv, client⟩ ⟨fresh, client⟩).run
          (environment live sources) world).2 := by
  have calm : durable.setting.Calm
      (StorageCall.Within (· = fresh) False) :=
    fun state request => durable.calm _ state request
  let load := (⟨fresh, client⟩ : SwarmKV).loadManifest
    (world.kvs kv).manifestRoot
  have uses : load.Uses (StorageCall.Within (· = fresh) False) := by
    refine uses_loadManifest _ ?_ _
    rfl
  have soundThere :
      sound (load.run (environment live sources) world).2 :=
    calm.run uses isSound
  obtain ⟨done, isOk, reloaded, sameItems, showsThere⟩ :=
    durable.loadManifest_returns dict _ world ⟨shows, rfl, isFresh⟩
      soundThere
  exact ⟨isOk, durable.answersAs_of_shows sameItems soundThere showsThere⟩

/-- Over an in-memory or a buffered client a `SwarmKV` answers as a plain
dict, and after every call of the run a fresh one that loads its manifest
answers as that dict, too. -/
theorem kv_refines_dict
    (offline : client.backend ≠ .live) {kv fresh : KvId}
    (other : fresh ≠ kv) (ops : List KvOp) (state : live.State)
    {answers : List KvAnswer} {world : World live}
    (finished : (Program.each (KvOp.program ⟨kv, client⟩) ops).run
      (environment live sources) (.boot state) = (.ok answers, world))
    (collisionFree : CollisionFree world.kept) :
    answers = (onDict ops).1 ∧
      ((reload ⟨kv, client⟩ ⟨fresh, client⟩).run
          (environment live sources) world).1 = .ok () ∧
        AnswersAs sources ⟨fresh, client⟩ (onDict ops).2
          ((reload ⟨kv, client⟩ ⟨fresh, client⟩).run
            (environment live sources) world).2 := by
  have durable := durable_local live sources offline
  obtain ⟨isAnswers, shows⟩ :=
    durable.ops_refine kv rfl finished collisionFree
  have uses (op : KvOp) :
      (op.program ⟨kv, client⟩).Uses
        (StorageCall.Within (· = kv) True) := by
    refine uses_kvOp ?_ op
    rfl
  have untouched : world.kvs fresh = .fresh :=
    (Program.uses_each uses ops).triple
      (durable.stable_cell (· = kv) True fresh other (· = .fresh))
      (.boot state) answers world rfl finished collisionFree
  exact ⟨isAnswers, durable.reload_answers collisionFree shows untouched⟩

/-- An empty value is set and read. -/
def emptyValueOps : List KvOp := [.set "a" [], .get "a"]

def emptyValueRun : Except Exception (List KvAnswer) × World downBackend :=
  (Program.each (KvOp.program ⟨0, ⟨.inMemory⟩⟩) emptyValueOps).run
    (environment downBackend plainSources) (.boot ())

theorem kv_refines_dict_empty_value :
    emptyValueRun.1 = .ok [.nothing, .value (some [])] ∧
      AnswersAs plainSources ⟨1, ⟨.inMemory⟩⟩ (onDict emptyValueOps).2
        ((reload ⟨0, ⟨.inMemory⟩⟩ ⟨1, ⟨.inMemory⟩⟩).run
          (environment downBackend plainSources) emptyValueRun.2).2 := by
  have run :
      emptyValueRun.1.isOk = true ∧
        CollisionFree emptyValueRun.2.kept := by
    decide +kernel
  obtain ⟨ended, collisionFree⟩ := run
  rcases isRun : emptyValueRun with ⟨outcome, world⟩
  rw [isRun] at ended collisionFree
  cases outcome with
  | error exc => cases ended
  | ok answers =>
      have offline : (⟨.inMemory⟩ : ZeroGClient).backend ≠ .live := by
        decide
      rw [emptyValueRun] at isRun
      have refines :=
        @kv_refines_dict downBackend plainSources ⟨.inMemory⟩ offline 0 1
          (by decide) emptyValueOps () answers world isRun collisionFree
      rw [refines.1]
      exact ⟨rfl, refines.2.2⟩

end SwarmFi.Core.Storage

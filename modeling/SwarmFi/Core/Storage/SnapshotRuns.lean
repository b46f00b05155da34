import SwarmFi.Core.Storage.PlainBackend
import SwarmFi.Core.Storage.Snapshot
import SwarmFi.Core.Storage.Wirings

/-!
# Flushed snapshots

Agents share one `SwarmKV` over a buffered client: they set and delete keys,
append to the log and write their states.  The snapshot that a flush uploads
is all that is needed to find the value of every key and every entry again.
-/

namespace SwarmFi.Core.Storage

open Foundation Python

inductive SharedOp where
  | log (op : LogOp)
  | agent (op : RoleWrite)

def SharedOp.program (models : Models) (kv : SwarmKV) :
    SharedOp → Steps Unit
  | .log op => do
      let _ ← op.program models kv
      return ()
  | .agent op =>
      op.write.call.program models
        (makeAgentMemory kv.id op.role kv.client)

/-- Handles are of the `SwarmKV`; keys are not that of the index. -/
def SharedOp.Fits (kv : SwarmKV) : SharedOp → Prop
  | .log op => op.Fits kv
  | .agent _ => True

variable
  {live : LiveBackend} {sources : Sources} {client : ZeroGClient}
  {sound : World live → Prop}
  {holds : World live → String → Bytes → Prop} {models : Models}

/-! ## The operations and the log -/

theorem Durable.updateSwarm_logged
    (durable : Durable sources client sound holds)
    (kv : KvId) (role : String) (logged : List LogEntry)
    (dict : Mapping String Bytes) (state : AgentState) :
    Triple durable.setting (Logged models holds kv logged dict)
      ((makeAgentMemory kv role client).updateSwarm models state)
      fun _ world => ∃ after,
        Logged models holds kv logged after world := by
  have stable :=
    durable.stable_logged models (fun _ => False) False kv id logged dict
  refine ((uses_readSwarmState _ models).triple stable).bind
    fun swarm => ?_
  refine Triple.stable_bind stable trivial fun now => ?_
  refine (durable.set_logged_triple kv logged dict
    KVKey.swarmState_ne_logIndex _).bind fun _ => ?_
  exact Triple.done fun _ parts => ⟨_, parts.1⟩

/-- An update of a status writes two keys and leaves the log as it is. -/
theorem Durable.updateStatus_logged
    (durable : Durable sources client sound holds)
    (kv : KvId) (role : String) (logged : List LogEntry)
    (dict : Mapping String Bytes) (update : StatusUpdate) :
    Triple durable.setting (Logged models holds kv logged dict)
      ((makeAgentMemory kv role client).updateStatus models update)
      fun _ world => ∃ after,
        Logged models holds kv logged after world := by
  have stable :=
    durable.stable_logged models (fun _ => False) False kv id logged dict
  refine Triple.stable_bind stable trivial fun now => ?_
  refine (durable.set_logged_triple kv logged dict
    (KVKey.agentState_ne_logIndex role) _).bind fun _ => ?_
  exact (durable.updateSwarm_logged kv role logged _ _).strengthen
    fun _ parts => parts.1

theorem Durable.sharedOp_triple
    (durable : Durable sources client sound holds)
    (inverse : ∀ world, sound world → models.InverseOn (Held holds world))
    (kv : KvId) (logged : List LogEntry) (dict : Mapping String Bytes)
    {op : SharedOp} (fits : op.Fits ⟨kv, client⟩) :
    Triple durable.setting (Logged models holds kv logged dict)
      (op.program models ⟨kv, client⟩)
      fun _ world => ∃ loggedNow after,
        Logged models holds kv loggedNow after world := by
  cases op with
  | log op =>
      refine (durable.logOp_triple inverse kv logged dict fits).bind
        fun answer => Triple.done ?_
      rintro world ⟨after, logs⟩
      exact ⟨_, after, logs⟩
  | agent op =>
      obtain ⟨role, write⟩ := op
      cases write with
      | updateStatus update =>
          exact (durable.updateStatus_logged kv role logged dict
            update).weaken fun _ _ ⟨after, logs⟩ => ⟨logged, after, logs⟩
      | logEvent eventType data =>
          refine (durable.logEvent_triple inverse kv role logged dict
            eventType data).bind fun root => Triple.done ?_
          rintro world ⟨entry, raw, _, logs⟩
          exact ⟨_, _, logs⟩

theorem Durable.sharedOps_logged
    (durable : Durable sources client sound holds)
    (inverse : ∀ world, sound world → models.InverseOn (Held holds world))
    (kv : KvId) {ops : List SharedOp}
    (fits : ∀ op ∈ ops, op.Fits ⟨kv, client⟩) {first last : World live}
    {answers : List Unit} (fresh : first.kvs kv = .fresh)
    (finished : (Program.each (SharedOp.program models ⟨kv, client⟩)
      ops).run (environment live sources) first = (.ok answers, last))
    (isSound : sound last) :
    ∃ logged dict, Logged models holds kv logged dict last := by
  have logs := run_each_induct durable.setting
    (motive := fun ops _ world =>
      (∀ op ∈ ops, op.Fits ⟨kv, client⟩) →
        ∃ logged dict, Logged models holds kv logged dict world)
    ?_ ?_ finished isSound fits
  · exact logs
  · exact fun _ => ⟨[], .empty, shows_fresh holds fresh, rfl, nofun⟩
  · intro ops _ op done world reached soFar opRun reachedSound allFit
    obtain ⟨logged, dict, logs⟩ := soFar fun earlier member =>
      allFit earlier (List.mem_append_left _ member)
    exact durable.sharedOp_triple inverse kv logged dict
      (allFit op (List.mem_append_right _ List.mem_cons_self))
      world done reached logs opRun reachedSound

/-! ## Flushing -/

/-- Every blob is under its SHA-256. -/
def World.Hashed (world : World live) : Prop :=
  ∀ root data, world.blobs.get? root = some data →
    root = Sha256.hexdigest data

theorem Durable.stable_hashed
    (durable : Durable sources client sound holds)
    (allowed : StorageCall → Prop) :
    durable.setting.Stable allowed World.Hashed := by
  intro world request _ _ hashed
  show World.Hashed (environment live sources world request).2
  cases request with
  | keepBlob blob =>
      intro root data found
      rw [show (environment live sources world (.keepBlob blob)).2.blobs =
        world.blobs.set (Sha256.hexdigest blob) blob from rfl,
        Mapping.get?_set] at found
      split at found
      · next same =>
          cases found
          exact same
      · exact hashed root data found
  | assign kv key root =>
      simp only [environment, World.changeManifest]
      split <;> exact hashed
  | remove kv key =>
      simp only [environment, World.changeManifest]
      split <;> exact hashed
  | _ => exact hashed

theorem run_liveUpload
    (sources : Sources) (data : Bytes) (world : World live) :
    ∃ outcome,
      (ZeroGStorageClient.upload data).run (environment live sources)
          world =
        (outcome,
          { world with live := (live.upload world.live data).2 }) := by
  simp only [ZeroGStorageClient.upload, ask, Program.bind_eq_bind,
    Program.run_bind, Program.run_call, Program.run_done,
    Program.run_ofExcept, environment]
  cases (live.upload world.live data).1 with
  | error exc => exact ⟨_, rfl⟩
  | ok answer => exact ⟨_, rfl⟩

theorem uses_flush {kvs : KvId → Prop} :
    ((⟨.buffered⟩ : ZeroGClient).flush).Uses
      (StorageCall.Within kvs True) := by
  refine uses_ask_bind trivial fun mem => ?_
  split
  · exact Program.uses_done _
  · refine uses_ask_bind trivial fun ts => ?_
    refine (uses_liveUpload trivial _).bind fun result => ?_
    exact uses_ask_bind trivial fun _ => Program.uses_done _

/-- A flush leaves the buffer alone and uploads its snapshot. -/
theorem run_flush_eq_ok
    (store : ContentStore live) {world flushed : World live}
    {answer : Option String}
    (finished : ((⟨.buffered⟩ : ZeroGClient).flush).run
      (environment live sources) world = (.ok answer, flushed)) :
    flushed.blobs = world.blobs ∧
      ∀ root, answer = some root →
        store.contents flushed.live (ZeroGStorageClient.withMark root) =
          some (BufferedStore.snapshotText (sources.clock world.ticks)
            world.blobs) := by
  simp only [ZeroGClient.flush, BufferedStore.flush, ask,
    Program.bind_eq_bind, Program.run_bind, Program.run_call,
    Program.run_done, environment] at finished
  split at finished
  · cases finished
    refine ⟨rfl, ?_⟩
    intro root noRoot
    cases noRoot
  · obtain ⟨ts, started, clockRun, rest⟩ :=
      (Program.run_bind_eq_ok_iff _ _ _ _ _ _).mp finished
    cases clockRun
    obtain ⟨uploaded, after, liveRun, kept⟩ :=
      (Program.run_bind_eq_ok_iff _ _ _ _ _ _).mp rest
    have there := run_liveUpload_eq_ok store.toBlobStore liveRun
    obtain ⟨outcome, isRun⟩ := run_liveUpload sources
      (BufferedStore.snapshotText (sources.clock world.ticks) world.blobs)
      { world with ticks := world.ticks + 1 }
    have sameRun := liveRun.symm.trans isRun
    obtain ⟨-, rfl⟩ := Prod.mk.inj sameRun
    cases kept
    refine ⟨rfl, ?_⟩
    rintro root isRoot
    cases isRoot
    exact there

/-- A process that has just started has nothing in its buffer and asks the
live backend. -/
theorem run_download_boot
    (sources : Sources) (state : live.State) (root : String) :
    (((⟨.buffered⟩ : ZeroGClient).download root).run
        (environment live sources) (.boot state)).1 =
      (live.download state (ZeroGStorageClient.withMark root)).1.map
        unframe := by
  simp only [ZeroGClient.download, Backend.download,
    BufferedStore.download, ZeroGStorageClient.download, ask,
    Program.bind_eq_bind, Program.run_bind, Program.run_call,
    Program.run_done, Program.run_ofExcept, environment, World.boot,
    Mapping.get?_empty]
  cases (live.download state (ZeroGStorageClient.withMark root)).1 with
  | error exc => rfl
  | ok raw => rfl

/-! ## What a snapshot is good for -/

/-- The data map and the root of the manifest are enough to find the value of
every key and every entry of the log. -/
structure Recovers
    (models : Models) (sources : Sources) (kv : SwarmKV)
    (world : World live) (data : Mapping String Bytes) : Prop where
  values : ∀ key,
    ((kv.get key).run (environment live sources) world).1 =
      .ok (recoverValue data (world.kvs kv.id).manifestRoot key)
  entries : ∀ listed,
    recoverValue data (world.kvs kv.id).manifestRoot KVKey.logIndex =
        some listed →
      ∃ index, models.logIndex.decode listed = .ok index ∧
        ∀ root ∈ index.entries, ∃ raw entry,
          blobAt data root = some raw ∧
            ((kv.client.download root).run
                (environment live sources) world).1 = .ok raw ∧
              models.logEntry.decode raw = .ok entry

theorem recovers_of_logged
    (durable : Durable sources ⟨.buffered⟩ sound World.Keeps)
    (inverse : ∀ world, sound world →
      models.InverseOn (Held World.Keeps world))
    {kv : KvId} {logged : List LogEntry} {dict : Mapping String Bytes}
    {world : World live}
    (logs : Logged models World.Keeps kv logged dict world)
    (isSound : sound world) {data : Mapping String Bytes}
    (sameItems : data.items.Perm world.blobs.items) :
    Recovers models sources ⟨kv, ⟨.buffered⟩⟩ world data where
  values := by
    intro key
    rw [recoverValue_of_shows sameItems logs.shows]
    exact durable.answer_of_returns (durable.get_returns kv key dict)
      (uses_get _ key) isSound logs.shows
  entries := by
    intro listed isListed
    rw [recoverValue_of_shows sameItems logs.shows] at isListed
    have stored := logs.index
    rw [IndexStored, isListed] at stored
    obtain ⟨index, _, decodes, lists⟩ := stored
    refine ⟨index, decodes, fun root member => ?_⟩
    have isEntryRoot : some root ∈ logged.map LogEntry.rootHash := by
      rw [← lists.roots]
      exact List.mem_map_of_mem member
    obtain ⟨entry, isEntry, isRoot⟩ := List.mem_map.mp isEntryRoot
    obtain ⟨there, isThere, held⟩ := logs.held entry isEntry
    rw [isRoot] at isThere
    cases isThere
    exact ⟨_, entry.stored, blobAt_of_keeps sameItems held,
      durable.download world root _ held,
      (inverse world isSound).logEntry _ ⟨root, held⟩⟩

/-- A flushed snapshot is read back as it was uploaded, and is complete. -/
theorem snapshot_complete
    (store : ContentStore live) (kv : KvId) {ops : List SharedOp}
    (fits : ∀ op ∈ ops, op.Fits ⟨kv, ⟨.buffered⟩⟩) (state : live.State)
    {answers : List Unit} {world flushed : World live} {root : String}
    (finished : (Program.each (SharedOp.program models ⟨kv, ⟨.buffered⟩⟩)
      ops).run (environment live sources) (.boot state) =
        (.ok answers, world))
    (committed : ((⟨.buffered⟩ : ZeroGClient).flush).run
      (environment live sources) world = (.ok (some root), flushed))
    (collisionFree : CollisionFree flushed.kept)
    (inverse : models.InverseOn flushed.Uploaded)
    (small : (BufferedStore.snapshotText (sources.clock world.ticks)
      flushed.blobs).length < 2 ^ 30)
    (later : Sources) :
    ∃ raw text decoded data,
      (((⟨.buffered⟩ : ZeroGClient).download root).run
          (environment live later) (.boot flushed.live)).1 = .ok raw ∧
        raw = BufferedStore.snapshotText (sources.clock world.ticks)
          flushed.blobs ∧
        decode raw = .ok text ∧ JsonReader.loads text = .ok decoded ∧
        snapshotData decoded = some data ∧
        data.items.Perm flushed.blobs.items ∧
        (∀ name blob, data.get? name = some blob →
          name = Sha256.hexdigest blob) ∧
        decoded.get "entry_count" = .ok (.int data.size) ∧
        Recovers models sources ⟨kv, ⟨.buffered⟩⟩ flushed data := by
  have offline : (⟨.buffered⟩ : ZeroGClient).backend ≠ .live := by decide
  have durable :=
    (durable_local live sources offline).withModels models
  have isSound : CollisionFree flushed.kept ∧
      models.InverseOn (Held World.Keeps flushed) :=
    ⟨collisionFree, inverse.mono fun _ ⟨_, keeps⟩ => keeps.uploaded⟩
  have committing :=
    durable.setting.sound_of_run (⟨.buffered⟩ : ZeroGClient).flush world
  rw [committed] at committing
  have earlierSound := committing isSound
  obtain ⟨logged, dict, logs⟩ := durable.sharedOps_logged
    (fun _ isSound => isSound.2) kv fits rfl finished earlierSound
  have hashed : flushed.Hashed := by
    have fresh : (World.boot state).Hashed := nofun
    have before := (Program.uses_each (fun _ => Program.uses_any _) ops).triple
      (durable.stable_hashed _) _ _ _ fresh finished earlierSound
    exact (Program.uses_any _).triple (durable.stable_hashed _) _ _ _ before
      committed isSound
  have logsNow : Logged models World.Keeps kv logged dict flushed :=
    uses_flush.triple
      (durable.stable_logged models (fun _ => False) True kv id logged dict)
      _ _ _ logs committed isSound
  obtain ⟨sameBlobs, uploaded⟩ := run_flush_eq_ok store committed
  have found := store.fetched _ _ _ (uploaded root rfl)
  rw [← sameBlobs] at found
  obtain ⟨text, isText, isDecoded⟩ := loads_snapshotText small
  obtain ⟨data, isData, sameItems, count⟩ :=
    snapshot_readBack (sources.clock world.ticks) flushed.blobs
  refine ⟨_, text, _, data, ?_, rfl, isText, isDecoded, isData, sameItems,
    ?_, count, ?_⟩
  · rw [run_download_boot, found, Except.map, unframe_snapshotText small]
  · intro name blob isBlob
    rw [Mapping.get?_eq_of_perm sameItems] at isBlob
    exact hashed name blob isBlob
  · exact recovers_of_logged durable (fun _ isSound => isSound.2) logsNow
      isSound sameItems

/-! ## A flush after a start -/

/-- The risk agent logs that it has started, then the buffer is flushed. -/
def startedOps : List SharedOp :=
  [.agent ⟨"risk", .logEvent .agentStarted none⟩]

def startedRun : Except Exception (List Unit) × World plainBackend :=
  (Program.each (SharedOp.program startModels ⟨0, ⟨.buffered⟩⟩)
    startedOps).run (environment plainBackend plainSources)
      (.boot (.empty : Mapping String Bytes))

def startedFlush : Except Exception (Option String) × World plainBackend :=
  ((⟨.buffered⟩ : ZeroGClient).flush).run
    (environment plainBackend plainSources) startedRun.2

theorem snapshot_complete_started :
    ∃ data : Mapping String Bytes,
      data.items.Perm startedFlush.2.blobs.items ∧ data.size = 3 ∧
        Recovers startModels plainSources ⟨0, ⟨.buffered⟩⟩ startedFlush.2
          data := by
  have run :
      startedRun.1.isOk = true ∧
        (startedFlush.1.toOption.map Option.isSome) = some true ∧
        CollisionFree startedFlush.2.kept ∧
        (∀ framed ∈ startedFlush.2.kept, unframe framed ≠ []) ∧
        startedFlush.2.blobs.size = 3 ∧
        ∀ item ∈ startedFlush.2.blobs.items,
          item.1.length + 2 * item.2.length ≤ 600 := by
    decide +kernel
  obtain ⟨ended, rooted, collisionFree, notEmpty, three, short⟩ := run
  have small :
      (BufferedStore.snapshotText (plainSources.clock startedRun.2.ticks)
        startedFlush.2.blobs).length < 2 ^ 30 := by
    refine lt_of_le_of_lt (length_snapshotText_le short) ?_
    rw [three]
    decide +kernel
  have inverse : startModels.InverseOn startedFlush.2.Uploaded :=
    plainModels_inverseOn startModels_distinct
      (World.not_uploaded_nil notEmpty)
  rcases isRun : startedRun with ⟨outcome, world⟩
  rcases isFlush : startedFlush with ⟨flushOutcome, flushed⟩
  rw [isFlush] at rooted collisionFree inverse three small
  rw [isRun] at ended small
  rw [startedFlush, isRun] at isFlush
  cases outcome with
  | error exc => cases ended
  | ok answers =>
      cases flushOutcome with
      | error exc => cases rooted
      | ok answer =>
          cases answer with
          | none => cases rooted
          | some root =>
              rw [startedRun] at isRun
              have fits : ∀ op ∈ startedOps,
                  op.Fits ⟨0, ⟨.buffered⟩⟩ := by
                intro op member
                rw [List.mem_singleton.mp member]
                trivial
              obtain ⟨_, _, _, data, _, _, _, _, _, sameItems, _, _,
                recovers⟩ :=
                @snapshot_complete plainBackend plainSources startModels
                  plainStore 0 startedOps fits
                  (.empty : Mapping String Bytes) answers world flushed root
                  isRun isFlush collisionFree inverse small plainSources
              exact ⟨data, sameItems, sameItems.length_eq.trans three,
                recovers⟩

end SwarmFi.Core.Storage

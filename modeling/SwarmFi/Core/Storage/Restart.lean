import SwarmFi.Core.Storage.KvRuns
import SwarmFi.Core.Storage.SnapshotRuns

/-!
# Restarts in buffered mode

`manifest_root` names a blob of the buffer, which does not outlive the
process.  The live backend has the snapshot, under another root; it knows
nothing of the manifest's.  So the process that loads the manifest root starts
with an empty dict.
-/

namespace SwarmFi.Core.Storage

open Foundation Python

variable {live : LiveBackend} {sources : Sources}

/-- A manifest that the live backend does not have is not loaded: the process
goes on with an empty one. -/
theorem run_loadManifest_missing
    (later : Sources) {state : live.State} {root : String} {exc : Exception}
    (missing : (live.download state
      (ZeroGStorageClient.withMark root)).1 = .error exc) (fresh : KvId) :
    ((⟨fresh, ⟨.buffered⟩⟩ : SwarmKV).loadManifest (some root)).run
        (environment live later) (.boot state) =
      (.ok (), (World.boot (live.download state
        (ZeroGStorageClient.withMark root)).2).setManifest fresh
          (.obj [])) := by
  simp only [SwarmKV.loadManifest, SwarmKV.readManifest,
    ZeroGClient.download, Backend.download, BufferedStore.download,
    ZeroGStorageClient.download, ask, Program.bind_eq_bind,
    Program.run_recover, Program.run_bind, Program.run_call,
    Program.run_done, Program.run_ofExcept, environment, World.boot,
    Mapping.get?_empty, missing]

/-- A `SwarmKV` with an empty manifest answers as an empty dict and as no
other. -/
theorem answersAs_of_fresh_iff
    {client : ZeroGClient} {sound : World live → Prop}
    {holds : World live → String → Bytes → Prop}
    (durable : Durable sources client sound holds) {kv : KvId}
    {world : World live} (isSound : sound world)
    (fresh : world.kvs kv = .fresh) (dict : Mapping String Bytes) :
    AnswersAs sources ⟨kv, client⟩ dict world ↔ dict.items = [] := by
  have shows := shows_fresh holds fresh
  constructor
  · rintro ⟨_, _, _, listed, isListed, _, reordered⟩
    rw [durable.answer_of_returns (durable.keys_returns kv .empty)
      (uses_keys _) isSound shows] at isListed
    cases isListed
    exact List.map_eq_nil_iff.mp reordered.nil_eq.symm
  · intro noItems
    refine durable.answersAs_of_shows ?_ isSound shows
    rw [noItems]
    exact List.Perm.refl _

/-- After a flush the old process still answers from its dict; a new one that
loads the manifest root does exactly when the dict is empty. -/
theorem survives_restart_iff
    (store : ContentStore live) {kv : KvId} {ops : List KvOp}
    (state : live.State) {answers : List KvAnswer}
    {world flushed : World live} {snapshotRoot : Option String}
    (finished : (Program.each (KvOp.program ⟨kv, ⟨.buffered⟩⟩) ops).run
      (environment live sources) (.boot state) = (.ok answers, world))
    (committed : ((⟨.buffered⟩ : ZeroGClient).flush).run
      (environment live sources) world = (.ok snapshotRoot, flushed))
    (collisionFree : CollisionFree flushed.kept)
    (otherRoots : ∀ framed ∈ flushed.kept,
      store.contents flushed.live ("0x" ++ Sha256.hexdigest framed) = none)
    (later : Sources) (fresh : KvId) :
    AnswersAs sources ⟨kv, ⟨.buffered⟩⟩ (onDict ops).2 flushed ∧
      ∃ restarted : World live,
        ((⟨fresh, ⟨.buffered⟩⟩ : SwarmKV).loadManifest
            (flushed.kvs kv).manifestRoot).run
          (environment live later) (.boot flushed.live) =
            (.ok (), restarted) ∧
          (AnswersAs later ⟨fresh, ⟨.buffered⟩⟩ (onDict ops).2 restarted ↔
            (onDict ops).2.items = []) := by
  have offline : (⟨.buffered⟩ : ZeroGClient).backend ≠ .live := by decide
  have durable := durable_local live sources offline
  have durableLater := durable_local live later offline
  have committing :=
    durable.setting.sound_of_run (⟨.buffered⟩ : ZeroGClient).flush world
  rw [committed] at committing
  obtain ⟨_, showsBefore⟩ :=
    durable.ops_refine kv rfl finished (committing collisionFree)
  have shows : Shows World.Keeps kv (onDict ops).2 flushed :=
    uses_flush.triple
      (durable.stable_shows (fun _ => False) True kv id _)
      _ _ _ showsBefore committed collisionFree
  refine ⟨durable.answersAs_of_shows (List.Perm.refl _) collisionFree shows,
    ?_⟩
  have noBlobs : CollisionFree ([] : List Bytes) := nofun
  cases isRoot : (flushed.kvs kv).manifestRoot with
  | none =>
      exact ⟨.boot flushed.live, rfl,
        answersAs_of_fresh_iff durableLater noBlobs rfl _⟩
  | some root =>
      obtain ⟨roots, _, published⟩ := shows
      rw [Published, isRoot] at published
      obtain ⟨_, _, _, framed, kept, _, rfl, _⟩ := published
      have absent := otherRoots framed kept
      rw [← withMark_hexdigest] at absent
      obtain ⟨exc, missing⟩ := store.missing _ _ absent
      refine ⟨_, run_loadManifest_missing later missing fresh, ?_⟩
      refine answersAs_of_fresh_iff durableLater noBlobs ?_ _
      exact Function.update_self _ _ _

/-! ## A value that is lost -/

def noteOps : List KvOp := [.set "note" [1]]

def noteRun : Except Exception (List KvAnswer) × World plainBackend :=
  (Program.each (KvOp.program ⟨0, ⟨.buffered⟩⟩) noteOps).run
    (environment plainBackend plainSources)
      (.boot (.empty : Mapping String Bytes))

def noteFlush : Except Exception (Option String) × World plainBackend :=
  ((⟨.buffered⟩ : ZeroGClient).flush).run
    (environment plainBackend plainSources) noteRun.2

/-- The process after a restart. -/
def noteRestart : Except Exception Unit × World plainBackend :=
  ((⟨0, ⟨.buffered⟩⟩ : SwarmKV).loadManifest
      (noteFlush.2.kvs 0).manifestRoot).run
    (environment plainBackend plainSources) (.boot noteFlush.2.live)

/-- Every call returned, and no root of the live backend is a SHA-256 of the
buffer. -/
def NoteKept : Prop :=
  noteRun.1.isOk = true ∧
    (noteFlush.1.toOption.map Option.isSome) = some true ∧
      CollisionFree noteFlush.2.kept ∧
        ∀ framed ∈ noteFlush.2.kept,
          plainStore.contents noteFlush.2.live
            ("0x" ++ Sha256.hexdigest framed) = none

theorem noteKept : NoteKept := by
  rw [NoteKept]
  decide +kernel

/-- Before the restart the key is read, after it there is none. -/
theorem note_lost :
    NoteKept ∧ noteRestart.1.isOk = true ∧
      (((⟨0, ⟨.buffered⟩⟩ : SwarmKV).get "note").run
          (environment plainBackend plainSources)
          noteFlush.2).1.toOption = some (some [1]) ∧
        (((⟨0, ⟨.buffered⟩⟩ : SwarmKV).get "note").run
            (environment plainBackend plainSources)
            noteRestart.2).1.toOption = some none := by
  refine ⟨noteKept, ?_⟩
  decide +kernel

theorem survives_restart_iff_note :
    ¬ AnswersAs plainSources ⟨0, ⟨.buffered⟩⟩ (onDict noteOps).2
      noteRestart.2 := by
  obtain ⟨ended, rooted, collisionFree, otherRoots⟩ := noteKept
  rcases isRun : noteRun with ⟨outcome, world⟩
  rcases isFlush : noteFlush with ⟨flushOutcome, flushed⟩
  have restart : noteRestart =
      ((⟨0, ⟨.buffered⟩⟩ : SwarmKV).loadManifest
          (flushed.kvs 0).manifestRoot).run
        (environment plainBackend plainSources) (.boot flushed.live) := by
    rw [noteRestart, isFlush]
  rw [isFlush] at rooted collisionFree otherRoots
  rw [isRun] at ended
  rw [noteFlush, isRun] at isFlush
  cases outcome with
  | error exc => cases ended
  | ok answers =>
      cases flushOutcome with
      | error exc => cases rooted
      | ok snapshotRoot =>
          rw [noteRun] at isRun
          obtain ⟨_, restarted, isRestart, answersAs⟩ :=
            @survives_restart_iff plainBackend plainSources plainStore 0
              noteOps (.empty : Mapping String Bytes) answers world flushed
              snapshotRoot isRun isFlush collisionFree otherRoots
              plainSources 0
          rw [restart, isRestart]
          intro same
          cases answersAs.mp same

end SwarmFi.Core.Storage

import SwarmFi.Core.Storage.IndexReads
import SwarmFi.Core.Storage.MemoryRuns

/-!
# Root hashes of entries that are read back

The root of an entry is known once its text has been uploaded, so that no text
holds its own root.  An append returns the entry with its root filled in; what
is read back has none.
-/

namespace SwarmFi.Core.Storage

open Foundation Python

variable {live : LiveBackend}

section Attempted

variable (sources : Sources) (models : Models) (kv : SwarmKV)

/-- One call, however it ends, with the entries that have been returned. -/
def LogOp.attempted
    (reached : World live × List LogEntry) (op : LogOp) :
    World live × List LogEntry :=
  let ran := (op.program models kv).run (environment live sources) reached.1
  (ran.2, reached.2 ++ (ran.1.toOption.bind id).toList)

/-- What a sequence of calls leaves behind, and the entries that its appends
have returned. -/
def attemptedAll (first : World live) (ops : List LogOp) :
    World live × List LogEntry :=
  ops.foldl (LogOp.attempted sources models kv) (first, [])

end Attempted

/-- What the three ways of reading give for the entries that appends have
returned. -/
structure CarriesRoots (sources : Sources) (models : Models)
    (client : ZeroGClient) (kv : KvId) (world : World live)
    (returned : List LogEntry) : Prop where
  getEntry : ∀ entry ∈ returned, ∀ root, entry.rootHash = some root →
    ∃ read,
      ((SwarmLog.getEntry ⟨client, ⟨kv, client⟩⟩ models root).run
          (environment live sources) world).1 = .ok read ∧
        read.rootHash = some root
  recent : ∀ entry ∈ returned, ∀ root, entry.rootHash = some root →
    ∀ limit reads,
      ((SwarmLog.recent ⟨client, ⟨kv, client⟩⟩ models limit).run
          (environment live sources) world).1 = .ok reads →
        ∀ read ∈ reads, read.stored = entry.stored →
          read.rootHash = some root
  readRecentLog : ∀ entry ∈ returned, ∀ root, entry.rootHash = some root →
    ∀ role limit views,
      (((makeAgentMemory kv role client).readRecentLog models limit).run
          (environment live sources) world).1 = .ok views →
        ∀ view ∈ views,
          discard view "root_hash" =
              discard (AgentMemory.entryView entry) "root_hash" →
            Dict.get? view "root_hash" = some (.str root)

section Runs

variable
  {sources : Sources} {client : ZeroGClient} {sound : World live → Prop}
  {holds : World live → String → Bytes → Prop} {models : Models}
  {kv : KvId} {world last : World live}
  (storing : Storing sources client sound holds)

include storing

/-- The text of an entry that is returned is under its root, without it. -/
theorem Storing.entryHeld_append {call : LogAppend} {entry : LogEntry}
    (ran : (call.program ⟨client, ⟨kv, client⟩⟩ models).run
      (environment live sources) world = (.ok entry, last))
    (isSound : sound last) : EntryHeld models holds last entry := by
  rw [run_append] at ran
  split at ran
  · cases ran
  · next made begun newRun =>
      cases newRun
      split at ran
      · cases ran
      · next result stored uploaded =>
          split at ran
          · cases ran
          · next done reached extended =>
              cases ran
              have held := storing.upload _ _ _ _ uploaded
              exact ⟨result.rootHash, rfl,
                storing.holds_run extended isSound held⟩

/-- A call keeps the entries that were returned, and adds its own. -/
theorem Storing.entriesHeld_attempted {op : LogOp}
    (fits : op.Fits ⟨kv, client⟩) {returned : List LogEntry}
    (isSound : sound
      (op.attempted sources models ⟨kv, client⟩ (world, returned)).1)
    (held : ∀ entry ∈ returned, EntryHeld models holds world entry) :
    ∀ entry ∈
        (op.attempted sources models ⟨kv, client⟩ (world, returned)).2,
      EntryHeld models holds
        (op.attempted sources models ⟨kv, client⟩ (world, returned)).1
        entry := by
  intro entry member
  rcases List.mem_append.mp member with earlier | isNew
  · obtain ⟨root, isRoot, there⟩ := held entry earlier
    exact ⟨root, isRoot, storing.holds_run rfl isSound there⟩
  · have answered : ((op.program models ⟨kv, client⟩).run
        (environment live sources) world).1 = .ok (some entry) := by
      cases outcome : ((op.program models ⟨kv, client⟩).run
          (environment live sources) world).1 with
      | error exc =>
          simp only [outcome] at isNew
          cases isNew
      | ok answer =>
          simp only [outcome] at isNew
          have isAnswer : entry ∈ answer.toList := isNew
          rw [Option.mem_toList.mp isAnswer]
    have ran : (op.program models ⟨kv, client⟩).run
        (environment live sources) world =
          (.ok (some entry),
            (op.attempted sources models ⟨kv, client⟩
              (world, returned)).1) :=
      Prod.ext answered rfl
    cases op with
    | append slog eventType agentRole data =>
        cases fits
        obtain ⟨made, reached, appendRun, ended⟩ :=
          (Program.run_bind_eq_ok_iff _ _ _ _ _ _).mp ran
        cases ended
        have isCall : (LogAppend.program ⟨eventType, agentRole, data⟩
            ⟨client, ⟨kv, client⟩⟩ models).run (environment live sources)
              world = (.ok entry, _) := appendRun
        exact storing.entryHeld_append isCall isSound
    | set key value =>
        obtain ⟨_, reached, _, ended⟩ :=
          (Program.run_bind_eq_ok_iff _ _ _ _ _ _).mp ran
        cases ended
    | delete key =>
        obtain ⟨_, reached, _, ended⟩ :=
          (Program.run_bind_eq_ok_iff _ _ _ _ _ _).mp ran
        cases ended

theorem Storing.sound_attempted {ops : List LogOp}
    {reached : World live × List LogEntry}
    (isSound : sound
      (ops.foldl (LogOp.attempted sources models ⟨kv, client⟩)
        reached).1) : sound reached.1 := by
  induction ops generalizing reached with
  | nil => exact isSound
  | cons op ops inductionHypothesis =>
      have soundNext : sound
          (op.attempted sources models ⟨kv, client⟩ reached).1 :=
        inductionHypothesis isSound
      exact storing.sound_run rfl soundNext

/-- A sequence of calls keeps the text of every entry that it returns. -/
theorem Storing.entriesHeld_all {ops : List LogOp}
    (fits : ∀ op ∈ ops, op.Fits ⟨kv, client⟩)
    {reached : World live × List LogEntry}
    (isSound : sound
      (ops.foldl (LogOp.attempted sources models ⟨kv, client⟩) reached).1)
    (held : ∀ entry ∈ reached.2, EntryHeld models holds reached.1 entry) :
    ∀ entry ∈
        (ops.foldl (LogOp.attempted sources models ⟨kv, client⟩)
          reached).2,
      EntryHeld models holds
        (ops.foldl (LogOp.attempted sources models ⟨kv, client⟩)
          reached).1 entry := by
  induction ops generalizing reached with
  | nil => exact held
  | cons op ops inductionHypothesis =>
      have soundNext : sound
          (op.attempted sources models ⟨kv, client⟩ reached).1 :=
        storing.sound_attempted isSound
      have heldNext := storing.entriesHeld_attempted
        (fits op List.mem_cons_self) soundNext held
      have restFit : ∀ later ∈ ops, later.Fits ⟨kv, client⟩ :=
        fun later member => fits later (List.mem_cons_of_mem _ member)
      exact inductionHypothesis restFit isSound heldNext

omit storing in
/-- An entry that is read back is the one that was uploaded. -/
theorem DownloadsRight.getEntry
    (right : DownloadsRight sources client holds)
    (inverse : models.InverseOn (Held holds world)) {root : String}
    {entry read : LogEntry}
    (held : holds world root (models.logEntry.encode entry))
    (returned : ((SwarmLog.getEntry ⟨client, ⟨kv, client⟩⟩ models root).run
      (environment live sources) world).1 = .ok read) : read = entry := by
  have decodes := inverse.logEntry entry ⟨root, held⟩
  rw [SwarmLog.getEntry, Program.bind_eq_bind, Program.run_bind] at returned
  cases downloaded : (client.download root).run (environment live sources)
      world with
  | mk outcome reached =>
      rw [downloaded] at returned
      cases outcome with
      | error exc => cases returned
      | ok raw =>
          have isText := right world root _ raw held
            (congrArg Prod.fst downloaded)
          simp only [Program.run_ofExcept, isText, decodes] at returned
          exact (Except.ok.inj returned).symm

end Runs

/-- The other two ways of reading show no root either. -/
theorem Durable.readRecentLog_rootless
    {sources : Sources} {client : ZeroGClient} {sound : World live → Prop}
    {holds : World live → String → Bytes → Prop} {models : Models}
    (durable : Durable sources client sound holds)
    (inverse : ∀ world, sound world → models.InverseOn (Held holds world))
    (kv : KvId) (role : String) (logged : List LogEntry)
    (dict : Mapping String Bytes) (limit : Int) :
    Returns durable.setting (Logged models holds kv logged dict)
      ((makeAgentMemory kv role client).readRecentLog models limit)
      fun views _ => ∀ view ∈ views,
        Dict.get? view "root_hash" = some .null := by
  apply (durable.readRecentLog_returns inverse kv role logged dict
    limit).weaken
  intro views world areViews view member
  rw [areViews] at member
  obtain ⟨entry, _, isView⟩ := List.mem_map.mp member
  rw [← isView]
  rfl

/-- What is read back carries the roots of the entries that were returned
exactly if none was returned. -/
theorem carriesRoots_iff (sources : Sources) (models : Models)
    (client : ZeroGClient)
    (store : client.backend = .live → FlakyStore live) (kv : KvId)
    {ops : List LogOp} (fits : ∀ op ∈ ops, op.Fits ⟨kv, client⟩)
    (first : World live)
    (collisionFree : CollisionFree
      (attemptedAll sources models ⟨kv, client⟩ first ops).1.kept)
    (inverse : models.InverseOn
      (Held (client.Holds fun isLive => (store isLive).toBlobStore)
        (attemptedAll sources models ⟨kv, client⟩ first ops).1)) :
    CarriesRoots sources models client kv
        (attemptedAll sources models ⟨kv, client⟩ first ops).1
        (attemptedAll sources models ⟨kv, client⟩ first ops).2 ↔
      (attemptedAll sources models ⟨kv, client⟩ first ops).2 = [] := by
  have storing := storing_client sources client
    fun isLive => (store isLive).toBlobStore
  have right := downloadsRight_client sources client store
  have nothing : ∀ entry ∈ (first, ([] : List LogEntry)).2,
      EntryHeld models
        (client.Holds fun isLive => (store isLive).toBlobStore) first
        entry :=
    fun _ member => absurd member List.not_mem_nil
  have held := storing.entriesHeld_all fits collisionFree nothing
  constructor
  · intro carries
    cases returned : (attemptedAll sources models ⟨kv, client⟩ first
        ops).2 with
    | nil => rfl
    | cons entry entries =>
        have member : entry ∈
            (attemptedAll sources models ⟨kv, client⟩ first ops).2 := by
          rw [returned]
          exact List.mem_cons_self
        obtain ⟨root, isRoot, there⟩ := held entry member
        obtain ⟨read, isRead, hasRoot⟩ :=
          carries.getEntry entry member root isRoot
        rw [right.getEntry inverse there isRead] at hasRoot
        cases hasRoot
  · intro none_
    rw [none_]
    constructor
    · exact fun _ member => absurd member List.not_mem_nil
    · exact fun _ member => absurd member List.not_mem_nil
    · exact fun _ member => absurd member List.not_mem_nil

/-! ## One entry that is read back -/

def startOps : List LogOp :=
  [.append ⟨⟨.buffered⟩, ⟨0, ⟨.buffered⟩⟩⟩ .agentStarted "risk" none]

def startAttempt : World downBackend × List LogEntry :=
  attemptedAll plainSources startModels ⟨0, ⟨.buffered⟩⟩ (.boot ()) startOps

def noLiveStore {live : LiveBackend} {client : ZeroGClient}
    (offline : client.backend ≠ .live) (isLive : client.backend = .live) :
    FlakyStore live :=
  absurd isLive offline

theorem buffered_offline :
    (⟨.buffered⟩ : ZeroGClient).backend ≠ .live := by
  decide

theorem startOps_fit : ∀ op ∈ startOps, op.Fits ⟨0, ⟨.buffered⟩⟩ := by
  intro op member
  rw [List.mem_singleton.mp member]
  rfl

theorem startAttempt_collisionFree : CollisionFree startAttempt.1.kept := by
  decide +kernel

theorem startAttempt_inverse :
    startModels.InverseOn
      (Held ((⟨.buffered⟩ : ZeroGClient).Holds fun isLive =>
        (noLiveStore buffered_offline isLive).toBlobStore)
        startAttempt.1) := by
  have notEmpty : ∀ framed ∈ startAttempt.1.kept, unframe framed ≠ [] := by
    decide +kernel
  apply plainModels_inverseOn startModels_distinct
  intro isHeld
  obtain ⟨root, held⟩ := isHeld
  rw [holds_local buffered_offline] at held
  exact World.not_uploaded_nil notEmpty held.uploaded

theorem carriesRoots_iff_start :
    CarriesRoots plainSources startModels ⟨.buffered⟩ 0 startAttempt.1
      startAttempt.2 ↔ startAttempt.2 = [] := by
  have collisionFree := startAttempt_collisionFree
  have inverse := startAttempt_inverse
  rw [startAttempt] at collisionFree inverse ⊢
  exact carriesRoots_iff plainSources startModels ⟨.buffered⟩
    (noLiveStore buffered_offline) 0 startOps_fit
    (.boot () : World downBackend) collisionFree inverse

/-- The entry is read back without its root. -/
theorem entry_read_rootless :
    ¬ ∀ (live : LiveBackend) (sources : Sources) (models : Models)
        (client : ZeroGClient)
        (store : client.backend = .live → FlakyStore live) (kv : KvId)
        (ops : List LogOp) (first : World live),
      (∀ op ∈ ops, op.Fits ⟨kv, client⟩) →
        CollisionFree
            (attemptedAll sources models ⟨kv, client⟩ first ops).1.kept →
          models.InverseOn
              (Held (client.Holds fun isLive => (store isLive).toBlobStore)
                (attemptedAll sources models ⟨kv, client⟩ first ops).1) →
            CarriesRoots sources models client kv
              (attemptedAll sources models ⟨kv, client⟩ first ops).1
              (attemptedAll sources models ⟨kv, client⟩ first ops).2 := by
  intro always
  have carries : CarriesRoots plainSources startModels ⟨.buffered⟩ 0
      startAttempt.1 startAttempt.2 :=
    always downBackend plainSources startModels ⟨.buffered⟩
      (noLiveStore buffered_offline) 0 startOps (.boot ()) startOps_fit
      startAttempt_collisionFree startAttempt_inverse
  have observed : ∃ entry ∈ startAttempt.2,
      entry.rootHash = some startEntryRoot ∧
        ((SwarmLog.getEntry ⟨⟨.buffered⟩, ⟨0, ⟨.buffered⟩⟩⟩ startModels
            startEntryRoot).run (environment downBackend plainSources)
          startAttempt.1).1.toOption.map LogEntry.rootHash =
            some none := by
    decide +kernel
  obtain ⟨entry, member, isRoot, rootless⟩ := observed
  obtain ⟨read, isRead, hasRoot⟩ :=
    carries.getEntry entry member startEntryRoot isRoot
  rw [isRead] at rootless
  have noRoot : read.rootHash = none := Option.some.inj rootless
  rw [noRoot] at hasRoot
  cases hasRoot

end SwarmFi.Core.Storage

import SwarmFi.Core.Storage.ConcurrentMemory
import SwarmFi.Core.Storage.Survivors

/-!
# Appends and updates that overlap

Any number of appends, or of status updates, in any interleaving.  Which of
them the index lists, or the state of the swarm shows, is decided by the
lookups and assignments of their key alone: an entry whose root is lost is
there all the same, but the index does not lead to it.
-/

namespace SwarmFi.Core.Storage

open Foundation Python

variable
  {live : LiveBackend} {sources : Sources} {store : ContentStore live}
  {models : Models} {kv : KvId} {count task : Nat}

/-! ## What is left -/

/-- What is left of this many tasks that have each written the key once: some
of them, in the order of their writes, and the last. -/
structure Survivors
    (kv : KvId) (key : String)
    (trace : List (Nat × Event StorageVocabulary)) (count : Nat) : Prop where
  all : (writers (accesses kv key trace)).Perm (List.range count)
  ordered : (survivors (accesses kv key trace)).Sublist
    (writers (accesses kv key trace))
  last : (survivors (accesses kv key trace)).getLast? =
    (writers (accesses kv key trace)).getLast?

theorem Survivors.of_perm
    {key : String} {trace : List (Nat × Event StorageVocabulary)}
    (perm : (writers (accesses kv key trace)).Perm (List.range count)) :
    Survivors kv key trace count :=
  ⟨perm, survivors_sublist _, survivors_getLast? _⟩

/-- Each of them has what it wrote. -/
theorem Survivors.length_filterMap
    {key : String} {trace : List (Nat × Event StorageVocabulary)}
    (overwritten : Survivors kv key trace count) {χ : Type}
    {changes : List χ} (enough : count ≤ changes.length) :
    ((survivors (accesses kv key trace)).filterMap
        (changes[·]?)).length =
      (survivors (accesses kv key trace)).length := by
  rw [List.filterMap_length_eq_length]
  intro task isLeft
  have isTask : task ∈ List.range count :=
    overwritten.all.subset (overwritten.ordered.subset isLeft)
  rw [List.mem_range] at isTask
  rw [List.getElem?_eq_getElem (Nat.lt_of_lt_of_le isTask enough)]
  rfl

/-! ## Appends -/

variable (sources store models kv count) in
abbrev appendOverwrites :
    Discipline StorageVocabulary (World live) (List (Nat × String)) :=
  (indexAggregate models kv).overwrites sources store ListsRoots count

theorem local_appendAmid
    (bounded : task < count) {call : AppendCall}
    (isHandle : call.slog = liveLog kv) :
    (appendOverwrites sources store models kv count).Local task
      (call.program models) (Aggregate.Unwritten task)
      fun entry view => ∃ root,
        EntryUnder models store entry root view.shared ∧
          Aggregate.Written task root view := by
  obtain ⟨slog, eventType, agentRole, data⟩ := call
  cases isHandle
  have created : (appendOverwrites sources store models kv count).Local task
      (SwarmLog.newEntry eventType agentRole data)
      (Aggregate.Unwritten task)
      fun entry view => entry.rootHash = none ∧
        Aggregate.Unwritten task view := by
    have uuid4Away : StorageCall.uuid4.Away KVKey.logIndex := trivial
    have nowAway : StorageCall.now.Away KVKey.logIndex := trivial
    refine .call_bind (fun _ => Aggregate.Unwritten task)
      (Aggregate.steps_asideOf uuid4Away fun _ unwritten => unwritten)
      (fun _ => Aggregate.kept_unwritten) fun entryId => ?_
    refine .call_bind (fun _ => Aggregate.Unwritten task)
      (Aggregate.steps_asideOf nowAway fun _ unwritten => unwritten)
      (fun _ => Aggregate.kept_unwritten) fun timestamp => ?_
    exact fun view _ _ unwritten => ⟨rfl, unwritten⟩
  refine created.bind fun entry => .of_fact fun noRoot => ?_
  have uploaded : (appendOverwrites sources store models kv count).Local
      task ((⟨.live⟩ : ZeroGClient).upload (models.logEntry.encode entry))
      (Aggregate.Unwritten task)
      fun result view =>
        store.Holds view.shared result.rootHash
            (models.logEntry.encode entry) ∧
          Aggregate.Unwritten task view := by
    refine local_liveUpload store rfl Aggregate.kept_unwritten
      (fun framed => ?_) _
    have away : (StorageCall.sidecarUpload framed).Away KVKey.logIndex :=
      trivial
    exact Aggregate.steps_asideOf away fun _ unwritten => unwritten
  refine uploaded.bind fun result => ?_
  have isStored : ({ entry with rootHash := some result.rootHash } :
      LogEntry).stored = entry := by
    obtain ⟨entryId, kind, role, timestamp, content, rootHash⟩ := entry
    cases noRoot
    rfl
  have persistent :
      (appendOverwrites sources store models kv count).Persistent
        fun view => store.Holds view.shared result.rootHash
          (models.logEntry.encode entry) :=
    fun _ _ request _ held => held.stays request
  have extended : (appendOverwrites sources store models kv count).Local
      task ((liveLog kv).extendIndex models result.rootHash)
      (Aggregate.Unwritten task)
      fun _ => Aggregate.Written task result.rootHash := by
    rw [extendIndex_eq_revise]
    exact Aggregate.local_overwrite
      (fun _ _ root now lists => listsRoots_append lists root now) bounded _
  have framed := (extended.frame persistent).strengthen
    fun view _ _ (parts : store.Holds view.shared result.rootHash
      (models.logEntry.encode entry) ∧ Aggregate.Unwritten task view) =>
        parts.symm
  refine framed.bind fun _ view _ _ parts => ?_
  refine ⟨result.rootHash, ⟨rfl, ?_⟩, parts.1⟩
  rw [isStored]
  exact parts.2

/-- Whatever the interleaving, the index lists the roots of those appends that
are left: of every append that looked the index up and set it, what it had
found and itself. -/
theorem appends_survive
    (sources : Sources) (store : ContentStore live) (kv : KvId)
    {calls : List AppendCall}
    (handles : ∀ call ∈ calls, call.slog = liveLog kv)
    {first : World live} (fresh : first.kvs kv = .fresh)
    {last : EventLoop StorageVocabulary Exception LogEntry (World live)}
    (run : EventLoop.Reaches (environment live sources)
      StorageCall.suspends
      (.start (calls.map (AppendCall.program models)) first) last)
    {entries : List LogEntry} (returned : last.Returned entries)
    (inverse : models.InverseOn (Held store.Holds last.shared)) :
    ∃ index,
      (((liveLog kv).getIndex models).run (environment live sources)
          last.shared).1 = .ok index ∧
        index.entries =
            (survivors (accesses kv KVKey.logIndex last.trace)).filterMap
              (fun task => entries[task]?.bind LogEntry.rootHash) ∧
          index.entryCount =
              (survivors (accesses kv KVKey.logIndex last.trace)).length ∧
            Survivors kv KVKey.logIndex last.trace calls.length := by
  have manifest : (first.kvs kv).manifest =
      (Mapping.empty : Mapping String String).toJson := by
    rw [fresh]
    rfl
  have reads : (indexAggregate models kv).Reads store (ListsRoots []) first
      ((Mapping.empty : Mapping String String).get? KVKey.logIndex) :=
    fun _ => ⟨rfl, rfl⟩
  have triples : ∀ (task : Nat) (program : Steps LogEntry),
      (calls.map (AppendCall.program models))[task]? = some program →
        (appendOverwrites sources store models kv
            (calls.map (AppendCall.program models)).length).Local task
          program (Aggregate.Unwritten task)
          fun entry view => ∃ root,
            EntryUnder models store entry root view.shared ∧
              Aggregate.Written task root view := by
    intro task program isProgram
    rw [List.getElem?_map, Option.map_eq_some_iff] at isProgram
    obtain ⟨call, isCall, rfl⟩ := isProgram
    refine local_appendAmid ?_ (handles call (List.mem_of_getElem? isCall))
    rw [List.length_map]
    exact (List.getElem?_eq_some_iff.mp isCall).1
  obtain ⟨roots, index, counted, under, perm, loaded, lists⟩ :=
    Aggregate.runs_survive
      (fun _ entry root world _ => EntryUnder models store entry root world)
      manifest reads (fun _ => Aggregate.kept_unwritten)
      (fun _ => List.not_mem_nil) triples run returned inverse.logIndex
  have sameLength : entries.length = calls.length := by
    rw [← returned.length_eq, run.length_tasks]
    exact (List.length_map _).trans (List.length_map _)
  have areRoots (task : Nat) :
      entries[task]?.bind LogEntry.rootHash = roots[task]? := by
    by_cases inRange : task < entries.length
    · have isEntry := List.getElem?_eq_getElem inRange
      have isRoot := List.getElem?_eq_getElem (counted ▸ inRange)
      rw [isEntry, isRoot]
      exact (under task _ _ isEntry isRoot).1
    · have outside : roots.length ≤ task :=
        counted ▸ Nat.le_of_not_lt inRange
      rw [List.getElem?_eq_none (Nat.le_of_not_lt inRange),
        List.getElem?_eq_none outside]
      rfl
  have overwritten : Survivors kv KVKey.logIndex last.trace
      entries.length := .of_perm perm
  rw [← getIndex_eq_load] at loaded
  refine ⟨index, loaded, ?_, ?_, sameLength ▸ overwritten⟩
  · simp only [areRoots]
    exact lists.1
  · have sameCount := overwritten.length_filterMap (Nat.le_of_eq counted.symm)
    rw [lists.2]
    exact congrArg Nat.cast sameCount

/-- Both appends have read the index before either writes it: the second one
is left. -/
theorem appends_survive_overlap :
    ∃ last entries index,
      EventLoop.Reaches (environment plainBackend plainSources)
          StorageCall.suspends twoAppendsStart last ∧
        last.Returned entries ∧
          survivors (accesses 0 KVKey.logIndex last.trace) = [1] ∧
            (((liveLog 0).getIndex twoAppendsModels).run
                (environment plainBackend plainSources) last.shared).1 =
                .ok index ∧
              index.entryCount = 1 ∧
                index.entries =
                  (entries[1]?.bind LogEntry.rootHash).toList := by
  obtain ⟨last, run, ended, notEmpty, isLeft⟩ :
      ∃ last, EventLoop.Reaches (environment plainBackend plainSources)
          StorageCall.suspends twoAppendsStart last ∧
        (∀ task ∈ last.tasks, (EventLoop.result task).isSome) ∧
          (∀ item ∈ Mapping.items last.shared.live,
            unframe item.2 ≠ []) ∧
            survivors (accesses 0 KVKey.logIndex last.trace) = [1] := by
    refine EventLoop.exists_run_of_playing bothReadFirst ?_
    decide +kernel
  obtain ⟨entries, returned⟩ := EventLoop.exists_returned ended
  have handles : ∀ call ∈ twoAppends, call.slog = liveLog 0 := by
    intro call member
    simp only [twoAppends, List.mem_cons, List.not_mem_nil, or_false] at member
    rcases member with rfl | rfl <;> rfl
  obtain ⟨index, loaded, listed, counted, _⟩ :=
    @appends_survive plainBackend twoAppendsModels plainSources plainStore 0
      twoAppends handles (.boot (Mapping.empty : Mapping String Bytes)) rfl
      last run entries returned (twoAppendsModels_inverse notEmpty)
  rw [isLeft] at listed counted
  refine ⟨last, entries, index, run, returned, isLeft, loaded, counted, ?_⟩
  rw [listed, List.filterMap_cons]
  cases entries[1]?.bind LogEntry.rootHash <;> rfl

/-! ## Status updates -/

variable {before : SwarmState}

variable (sources store models kv count before) in
abbrev statusOverwrites :
    Discipline StorageVocabulary (World live)
      (List (Nat × (String × AgentState))) :=
  (swarmAggregate models kv).overwrites sources store (WrittenOver before)
    count

/-- What is known of an update that has not begun. -/
def YetToBegin
    (task : Nat)
    (view : Aggregate.RevisionView live (String × AgentState)) : Prop :=
  EventLoop.historyOf view.trace task = [] ∧ Aggregate.Unwritten task view

theorem kept_yetToBegin :
    (statusOverwrites sources store models kv count before).Kept task
      (YetToBegin task) := by
  intro other view request ghost different guaranteed sound start
  refine ⟨?_, Aggregate.kept_unwritten other view request ghost different
    guaranteed sound start.2⟩
  exact (EventLoop.historyOf_snoc _ _ _ _).trans
    ((if_neg different).trans start.1)

theorem local_updateAmid
    (bounded : task < count) (role : String) (update : StatusUpdate) :
    (statusOverwrites sources store models kv count before).Local task
      ((makeAgentMemory kv role ⟨.live⟩).updateStatus models update)
      (YetToBegin task)
      fun _ view => ∃ now,
        Aggregate.Written task (role, update.state role now) view ∧
          BeganAt task now view.trace := by
  have persistent (now : String) :
      (statusOverwrites sources store models kv count before).Persistent
        fun view => BeganAt task now view.trace :=
    fun mover _ _ _ began => began.snoc mover _
  have away : StorageCall.now.Away KVKey.swarmState := trivial
  refine .call_bind
    (fun now view => Aggregate.Unwritten task view ∧
      BeganAt task now view.trace) ?_
    (fun now => Aggregate.kept_unwritten.and (persistent now).kept)
    fun now => ?_
  · refine Aggregate.steps_asideOf away fun view start => ⟨start.2, ?_⟩
    rw [BeganAt]
    refine (congrArg List.head?
      (EventLoop.historyOf_snoc _ _ _ _)).trans ?_
    rw [if_pos rfl, start.1]
    rfl
  have own : (statusOverwrites sources store models kv count before).Local
      task
      ((⟨kv, ⟨.live⟩⟩ : SwarmKV).set (KVKey.agentState role)
        (models.agentState.encode (update.state role now)))
      (Aggregate.Unwritten task) fun _ => Aggregate.Unwritten task :=
    Aggregate.local_aside
      (away_set kv (KVKey.agentState_ne_swarmState role) _)
  have shared : (statusOverwrites sources store models kv count
      before).Local task
      ((makeAgentMemory kv role ⟨.live⟩).updateSwarm models
        (update.state role now))
      (Aggregate.Unwritten task)
      fun _ => Aggregate.Written task (role, update.state role now) := by
    rw [updateSwarm_eq_revise]
    exact Aggregate.local_overwrite
      (fun _ _ item now overwritten =>
        overwritten.updateAgent item.1 item.2 now) bounded _
  exact ((own.bind fun _ => shared).frame (persistent now)).weaken
    fun _ _ _ _ parts => ⟨now, parts⟩

/-- Whatever the interleaving, the state of the swarm has been built by the
updates that are left: its version counts them, and a role has the state that
the last of them wrote for it, or else the state it had before. -/
theorem updates_survive
    (sources : Sources) (store : ContentStore live) (kv : KvId)
    {roles : List String} {calls : List StatusCall}
    (inside : ∀ call ∈ calls, ∃ role, (role, call.memory) ∈
      makeSharedMemorySet kv roles ⟨.live⟩)
    {reader : AgentMemory}
    (isReader : ∃ role, (role, reader) ∈
      makeSharedMemorySet kv roles ⟨.live⟩)
    {first : World live} {roots : Mapping String String}
    (manifest : (first.kvs kv).manifest = roots.toJson)
    {before : SwarmState}
    (isBefore : ((reader.readSwarmState models).run
      (environment live sources) first).1 = .ok before)
    {last : EventLoop StorageVocabulary Exception Unit (World live)}
    (run : EventLoop.Reaches (environment live sources)
      StorageCall.suspends
      (.start (calls.map (StatusCall.program models)) first) last)
    {answers : List Unit} (returned : last.Returned answers)
    (inverse : models.InverseOn (Held store.Holds last.shared)) :
    ∃ (swarm : SwarmState) (items : List (String × AgentState)),
      ((reader.readSwarmState models).run (environment live sources)
          last.shared).1 = .ok swarm ∧
        swarm.version = before.version +
            (survivors (accesses kv KVKey.swarmState last.trace)).length ∧
          (∀ role, swarm.agents.get? role =
            (lastWritten
              ((survivors (accesses kv KVKey.swarmState
                last.trace)).filterMap (items[·]?)) role).or
                (before.agents.get? role)) ∧
            (∀ (index : Nat) call task, calls[index]? = some call →
              last.tasks[index]? = some task →
                ∃ state, call.wrote task.history = some state ∧
                  items[index]? = some (call.memory.role, state)) ∧
              Survivors kv KVKey.swarmState last.trace calls.length := by
  obtain ⟨readerRole, isMember⟩ := isReader
  obtain ⟨_, rfl⟩ := mem_makeSharedMemorySet.mp isMember
  rw [readSwarmState_eq_load] at isBefore ⊢
  have reads : (swarmAggregate models kv).Reads store (WrittenOver before [])
      first (roots.get? KVKey.swarmState) := by
    refine Aggregate.reads_of_loaded manifest isBefore
      (writtenOver_self before) ?_
    intro time isDefault now
    rw [isDefault]
    exact writtenOver_default time now
  have triples : ∀ (task : Nat) (program : Steps Unit),
      (calls.map (StatusCall.program models))[task]? = some program →
        (statusOverwrites sources store models kv
            (calls.map (StatusCall.program models)).length before).Local
          task program (YetToBegin task)
          fun _ view => ∃ item, UpdateBy calls task item view.trace ∧
            Aggregate.Written task item view := by
    intro task program isProgram
    rw [List.getElem?_map, Option.map_eq_some_iff] at isProgram
    obtain ⟨call, isCall, rfl⟩ := isProgram
    have isMemory :=
      StatusCall.isMemory (inside call (List.mem_of_getElem? isCall))
    have bounded :
        task < (calls.map (StatusCall.program models)).length := by
      rw [List.length_map]
      exact (List.getElem?_eq_some_iff.mp isCall).1
    rw [StatusCall.program, isMemory]
    refine (local_updateAmid bounded call.memory.role call.update).weaken ?_
    intro _ view _ _ written
    obtain ⟨now, isWritten, began⟩ := written
    exact ⟨_, ⟨call, now, isCall, began, rfl⟩, isWritten⟩
  obtain ⟨items, swarm, counted, fits, perm, loaded, overwritten⟩ :=
    Aggregate.runs_survive
      (fun index _ item _ trace => UpdateBy calls index item trace)
      manifest reads (fun _ => kept_yetToBegin)
      (fun _ => ⟨rfl, List.not_mem_nil⟩) triples run returned
      inverse.swarmState
  have sameLength : answers.length = calls.length := by
    rw [← returned.length_eq, run.length_tasks]
    exact (List.length_map _).trans (List.length_map _)
  have left : Survivors kv KVKey.swarmState last.trace answers.length :=
    .of_perm perm
  refine ⟨swarm, items, loaded, ?_, overwritten.2, ?_, sameLength ▸ left⟩
  · have sameCount := left.length_filterMap (Nat.le_of_eq counted.symm)
    refine overwritten.1.trans (congrArg (before.version + ·) ?_)
    exact congrArg Nat.cast sameCount
  · intro index call task isCall isTask
    have inItems : index < items.length := by
      rw [counted, sameLength]
      exact (List.getElem?_eq_some_iff.mp isCall).1
    have isItem := List.getElem?_eq_getElem inItems
    obtain ⟨_, now, same, began, isState⟩ :=
      fits index _ _ (List.getElem?_eq_getElem (counted ▸ inItems)) isItem
    rw [isCall] at same
    cases same
    refine ⟨_, run.history isTask ▸ call.wrote_of_beganAt began, ?_⟩
    rw [isItem, isState]

/-- Both updates have read the state before either writes it: the second one
is left. -/
theorem updates_survive_overlap :
    ∃ last answers swarm,
      EventLoop.Reaches (environment plainBackend plainSources)
          StorageCall.suspends twoRolesStart last ∧
        last.Returned answers ∧
          survivors (accesses 0 KVKey.swarmState last.trace) = [1] ∧
            riskReads last.shared = .ok swarm ∧ swarm.version = 1 := by
  obtain ⟨last, run, ended, notEmpty, isLeft⟩ :
      ∃ last, EventLoop.Reaches (environment plainBackend plainSources)
          StorageCall.suspends twoRolesStart last ∧
        (∀ task ∈ last.tasks, (EventLoop.result task).isSome) ∧
          (∀ item ∈ Mapping.items last.shared.live,
            unframe item.2 ≠ []) ∧
            survivors (accesses 0 KVKey.swarmState last.trace) = [1] := by
    refine EventLoop.exists_run_of_playing updatesReadFirst ?_
    decide +kernel
  obtain ⟨answers, returned⟩ := EventLoop.exists_returned ended
  have isReader : ∃ role, (role, riskCall.memory) ∈
      makeSharedMemorySet 0 ["researcher", "risk"] ⟨.live⟩ :=
    twoRoles_inside riskCall (List.mem_cons_of_mem _ List.mem_cons_self)
  have isBefore : riskReads twoRolesWorld =
      .ok (.default (plainSources.clock 0)) := rfl
  obtain ⟨swarm, items, read, version, _⟩ :=
    @updates_survive plainBackend twoRolesModels plainSources plainStore 0
      ["researcher", "risk"] [researcherCall, riskCall] twoRoles_inside
      riskCall.memory isReader twoRolesWorld .empty rfl
      (.default (plainSources.clock 0)) isBefore last run answers returned
      (twoRolesModels_inverse notEmpty)
  rw [isLeft] at version
  exact ⟨last, answers, swarm, run, returned, isLeft, read, version⟩

end SwarmFi.Core.Storage

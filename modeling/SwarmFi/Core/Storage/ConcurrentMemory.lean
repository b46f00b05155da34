import SwarmFi.Core.Storage.ConcurrentLog
import SwarmFi.Core.Storage.MemoryRuns

/-!
# Concurrent status updates

Updates through the memories of one set over the live backend take turns at
the requests to the sidecar.  All roles rewrite the one state of the swarm: an
update that has read it and is overtaken writes the others' states away.
-/

namespace SwarmFi.Core.Storage

open Foundation Python

/-- A call of `update_status`. -/
structure StatusCall where
  memory : AgentMemory
  update : StatusUpdate

def StatusCall.program (models : Models) (call : StatusCall) : Steps Unit :=
  call.memory.updateStatus models call.update

/-- The state that the call writes: the time it carries is the first thing
that the call asks for. -/
def StatusCall.wrote
    (call : StatusCall) :
    List (Event StorageVocabulary) → Option AgentState
  | ⟨.now, now⟩ :: _ => some (call.update.state call.memory.role now)
  | _ => none

/-! ## The state of the swarm as an aggregate -/

def swarmAggregate (models : Models) (kv : KvId) :
    Aggregate SwarmState (String × AgentState) where
  kv := kv
  key := KVKey.swarmState
  codec := models.swarmState
  fallback := .default
  grow := fun item swarm now => swarm.updateAgent item.1 item.2 now

theorem readSwarmState_eq_load
    (models : Models) (kv : KvId) (role : String) :
    (makeAgentMemory kv role ⟨.live⟩).readSwarmState models =
      (swarmAggregate models kv).load := by
  refine congrArg
    (Program.bind ((⟨kv, ⟨.live⟩⟩ : SwarmKV).get KVKey.swarmState))
    (funext fun raw => ?_)
  cases raw with
  | none => rfl
  | some data =>
      simp only [Option.map_some, swarmAggregate]
      cases models.swarmState.decode data <;> rfl

theorem updateSwarm_eq_revise
    (models : Models) (kv : KvId) (role : String) (state : AgentState) :
    (makeAgentMemory kv role ⟨.live⟩).updateSwarm models state =
      (swarmAggregate models kv).revise (role, state) := by
  rw [Aggregate.revise, ← readSwarmState_eq_load models kv role]
  rfl

/-- The states that have been written over those of an earlier state of the
swarm; the version counts them. -/
def WrittenOver
    (before : SwarmState) (written : List (String × AgentState))
    (swarm : SwarmState) : Prop :=
  swarm.version = before.version + written.length ∧
    ∀ role, swarm.agents.get? role =
      (lastWritten written role).or (before.agents.get? role)

theorem writtenOver_self (before : SwarmState) :
    WrittenOver before [] before :=
  ⟨(Int.add_zero _).symm, fun _ => rfl⟩

theorem writtenOver_default (time now : String) :
    WrittenOver (.default time) [] (.default now) :=
  ⟨rfl, fun _ => rfl⟩

theorem WrittenOver.updateAgent
    {before swarm : SwarmState} {written : List (String × AgentState)}
    (overwritten : WrittenOver before written swarm) (role : String)
    (state : AgentState) (now : String) :
    WrittenOver before (written ++ [(role, state)])
      (swarm.updateAgent role state now) := by
  obtain ⟨version, agents⟩ := overwritten
  refine ⟨?_, fun tested => ?_⟩
  · simp only [SwarmState.updateAgent, version, List.length_append,
      List.length_singleton]
    omega
  · simp only [SwarmState.updateAgent, Mapping.get?_set, lastWritten_snoc,
      agents]
    split
    · rfl
    · rfl

/-- The only state that was written for a role is the last. -/
theorem lastWritten_of_unique
    {written : List (String × AgentState)} {role : String}
    {state : AgentState} (member : (role, state) ∈ written)
    (unique : ∀ other, (role, other) ∈ written → other = state) :
    lastWritten written role = some state := by
  induction written using List.reverseRecOn with
  | nil => cases member
  | append_singleton written item inductionHypothesis =>
      obtain ⟨writer, last⟩ := item
      rw [lastWritten_snoc]
      split
      · next same =>
          subst same
          rw [unique last (List.mem_append_right _ List.mem_cons_self)]
      · next different =>
          refine inductionHypothesis ?_ fun other earlier =>
            unique other (List.mem_append_left _ earlier)
          rcases List.mem_append.mp member with earlier | isLast
          · exact earlier
          · cases List.mem_singleton.mp isLast
            exact absurd rfl different

/-! ## One update among others -/

variable
  {live : LiveBackend} {sources : Sources} {store : ContentStore live}
  {models : Models} {kv : KvId} {count task : Nat} {before : SwarmState}

variable (sources store models kv count before) in
abbrev statusRevisions :
    Discipline StorageVocabulary (World live)
      (List (Nat × (String × AgentState))) :=
  (swarmAggregate models kv).revisions store sources (WrittenOver before)
    count

/-- The task has begun by asking for the time. -/
def BeganAt
    (task : Nat) (now : String)
    (trace : List (Nat × Event StorageVocabulary)) : Prop :=
  (EventLoop.historyOf trace task).head? = some ⟨.now, now⟩

theorem BeganAt.snoc
    {now : String} {trace : List (Nat × Event StorageVocabulary)}
    (began : BeganAt task now trace) (mover : Nat)
    (event : Event StorageVocabulary) :
    BeganAt task now (trace ++ [(mover, event)]) := by
  rw [BeganAt, EventLoop.historyOf_snoc]
  split
  · rw [List.head?_append, began]
    rfl
  · exact began

theorem StatusCall.wrote_of_beganAt
    (call : StatusCall) {now : String}
    {trace : List (Nat × Event StorageVocabulary)}
    (began : BeganAt task now trace) :
    call.wrote (EventLoop.historyOf trace task) =
      some (call.update.state call.memory.role now) := by
  rw [BeganAt, List.head?_eq_some_iff] at began
  obtain ⟨rest, isHistory⟩ := began
  rw [isHistory]
  rfl

theorem local_updateSwarm
    (bounded : task < count) (role : String) (state : AgentState) :
    (statusRevisions sources store models kv count before).Local task
      ((makeAgentMemory kv role ⟨.live⟩).updateSwarm models state)
      ((swarmAggregate models kv).InPhase task .idle)
      fun _ => (swarmAggregate models kv).InPhase task
        (.done (role, state)) := by
  rw [updateSwarm_eq_revise]
  exact Aggregate.local_revise
    (fun _ _ item now overwritten =>
      overwritten.updateAgent item.1 item.2 now) bounded _

theorem local_writeState
    (bounded : task < count) (role : String) (update : StatusUpdate)
    (now : String) :
    (statusRevisions sources store models kv count before).Local task
      (do
        let _ ← (⟨kv, ⟨.live⟩⟩ : SwarmKV).set (KVKey.agentState role)
          (models.agentState.encode (update.state role now))
        (makeAgentMemory kv role ⟨.live⟩).updateSwarm models
          (update.state role now))
      ((swarmAggregate models kv).InPhase task .idle)
      fun _ => (swarmAggregate models kv).InPhase task
        (.done (role, update.state role now)) :=
  (Aggregate.local_away
    (away_set kv (KVKey.agentState_ne_swarmState role) _) .idle).bind
      fun _ => local_updateSwarm bounded role _

/-- What is known of a task that has not begun. -/
def NotBegun
    (models : Models) (kv : KvId) (task : Nat)
    (view : Aggregate.RevisionView live (String × AgentState)) : Prop :=
  EventLoop.historyOf view.trace task = [] ∧
    (swarmAggregate models kv).InPhase task .idle view

theorem kept_notBegun :
    (statusRevisions sources store models kv count before).Kept task
      (NotBegun models kv task) := by
  rintro other view request ghost different guaranteed sound
    ⟨nothing, idle⟩
  refine ⟨?_, Aggregate.kept_inPhase .idle other view request ghost
    different guaranteed sound idle⟩
  exact (EventLoop.historyOf_snoc _ _ _ _).trans
    ((if_neg different).trans nothing)

theorem local_updateStatus
    (bounded : task < count) (role : String) (update : StatusUpdate) :
    (statusRevisions sources store models kv count before).Local task
      ((makeAgentMemory kv role ⟨.live⟩).updateStatus models update)
      (NotBegun models kv task)
      fun _ view => ∃ now,
        (swarmAggregate models kv).InPhase task
            (.done (role, update.state role now)) view ∧
          BeganAt task now view.trace := by
  have persistent (now : String) :
      (statusRevisions sources store models kv count before).Persistent
        fun view => BeganAt task now view.trace :=
    fun mover _ _ _ began => began.snoc mover _
  have away : StorageCall.now.Away KVKey.swarmState := trivial
  refine .call_bind
    (fun now view =>
      (swarmAggregate models kv).InPhase task .idle view ∧
        BeganAt task now view.trace) ?_
    (fun now => (Aggregate.kept_inPhase _).and (persistent now).kept)
    fun now => ?_
  · refine Aggregate.steps_away away fun view parts =>
      ⟨Aggregate.inPhase_of_away away parts.2, ?_⟩
    rw [BeganAt]
    refine (congrArg List.head?
      (EventLoop.historyOf_snoc _ _ _ _)).trans ?_
    rw [if_pos rfl, parts.1]
    rfl
  · exact ((local_writeState bounded role update now).frame
      (persistent now)).weaken fun _ _ _ _ parts => ⟨now, parts⟩

/-! ## All updates -/

theorem StatusCall.isMemory
    {roles : List String} {call : StatusCall}
    (inside : ∃ role, (role, call.memory) ∈
      makeSharedMemorySet kv roles ⟨.live⟩) :
    call.memory = makeAgentMemory kv call.memory.role ⟨.live⟩ := by
  obtain ⟨role, member⟩ := inside
  have isMemory := (mem_makeSharedMemorySet.mp member).2
  rw [isMemory]
  rfl

/-- What the update of a task has put into the state of the swarm. -/
def UpdateBy
    (calls : List StatusCall) (index : Nat) (item : String × AgentState)
    (trace : List (Nat × Event StorageVocabulary)) : Prop :=
  ∃ call now, calls[index]? = some call ∧ BeganAt index now trace ∧
    item = (call.memory.role, call.update.state call.memory.role now)

/-- The update of a role that made only one is the last of the role. -/
theorem lastWritten_of_alone
    {calls : List StatusCall} {applied items : List (String × AgentState)}
    {trace : List (Nat × Event StorageVocabulary)}
    (perm : applied.Perm items)
    (updateBy : ∀ (index : Nat) item, items[index]? = some item →
      UpdateBy calls index item trace)
    {index : Nat} {call : StatusCall} (isCall : calls[index]? = some call)
    (inItems : index < items.length)
    (alone : ∀ (other : Nat) also, calls[other]? = some also →
      also.memory.role = call.memory.role → other = index) :
    ∃ now, BeganAt index now trace ∧
      lastWritten applied call.memory.role =
        some (call.update.state call.memory.role now) := by
  obtain ⟨_, now, same, began, isItem⟩ :=
    updateBy index _ (List.getElem?_eq_getElem inItems)
  rw [isCall] at same
  cases same
  refine ⟨now, began, lastWritten_of_unique ?_ ?_⟩
  · rw [perm.mem_iff, ← isItem]
    exact List.getElem_mem inItems
  · intro other member
    rw [perm.mem_iff] at member
    obtain ⟨place, isPlace⟩ := List.mem_iff_getElem?.mp member
    obtain ⟨also, later, isAlso, _, isOther⟩ := updateBy place _ isPlace
    have samePlace :=
      alone place also isAlso (Prod.mk.inj isOther).1.symm
    subst samePlace
    rw [List.getElem?_eq_getElem inItems] at isPlace
    have same := (Option.some.inj isPlace).symm.trans isItem
    exact (Prod.mk.inj same).2

/-- Where no update reads the swarm's state while another has yet to write it,
none is lost: the version counts the updates, and a role that made one update
has the state which that update wrote. -/
theorem updates_kept
    (sources : Sources) (store : ContentStore live) (kv : KvId)
    {roles : List String} {calls : List StatusCall}
    (inside : ∀ call ∈ calls, ∃ role, (role, call.memory) ∈
      makeSharedMemorySet kv roles ⟨.live⟩)
    {reader : AgentMemory}
    (isReader : ∃ role, (role, reader) ∈
      makeSharedMemorySet kv roles ⟨.live⟩)
    {first : World live} {roots : Mapping String String}
    (manifest : (first.kvs kv).manifest = roots.toJson)
    {before : SwarmState}
    (isBefore : ((reader.readSwarmState models).run
      (environment live sources) first).1 = .ok before)
    {last : EventLoop StorageVocabulary Exception Unit (World live)}
    (run : EventLoop.Runs (environment live sources) StorageCall.suspends
      (Discipline.Permits (TakesTurns kv KVKey.swarmState))
      (.start (calls.map (StatusCall.program models)) first) last)
    {answers : List Unit} (returned : last.Returned answers)
    (inverse : models.InverseOn (Held store.Holds last.shared)) :
    ∃ swarm,
      ((reader.readSwarmState models).run (environment live sources)
          last.shared).1 = .ok swarm ∧
        swarm.version = before.version + calls.length ∧
          ∀ (index : Nat) call task, calls[index]? = some call →
            last.tasks[index]? = some task →
              (∀ (other : Nat) also, calls[other]? = some also →
                also.memory.role = call.memory.role → other = index) →
                ∃ state, call.wrote task.history = some state ∧
                  swarm.agents.get? call.memory.role = some state := by
  obtain ⟨readerRole, isMember⟩ := isReader
  obtain ⟨_, rfl⟩ := mem_makeSharedMemorySet.mp isMember
  rw [readSwarmState_eq_load] at isBefore ⊢
  have reads : (swarmAggregate models kv).Reads store (WrittenOver before [])
      first (roots.get? KVKey.swarmState) := by
    refine Aggregate.reads_of_loaded manifest isBefore
      (writtenOver_self before) ?_
    rintro time rfl now
    exact writtenOver_default time now
  have triples : ∀ (task : Nat) (program : Steps Unit),
      (calls.map (StatusCall.program models))[task]? = some program →
        (statusRevisions sources store models kv
            (calls.map (StatusCall.program models)).length before).Local
          task program (NotBegun models kv task)
          fun _ view => ∃ item, UpdateBy calls task item view.trace ∧
            (swarmAggregate models kv).InPhase task (.done item) view := by
    intro task program isProgram
    rw [List.getElem?_map, Option.map_eq_some_iff] at isProgram
    obtain ⟨call, isCall, rfl⟩ := isProgram
    have isMemory :=
      StatusCall.isMemory (inside call (List.mem_of_getElem? isCall))
    have bounded :
        task < (calls.map (StatusCall.program models)).length := by
      rw [List.length_map]
      exact (List.getElem?_eq_some_iff.mp isCall).1
    rw [StatusCall.program, isMemory]
    refine (local_updateStatus bounded call.memory.role
      call.update).weaken ?_
    rintro _ view _ _ ⟨now, done, began⟩
    exact ⟨_, ⟨call, now, isCall, began, rfl⟩, done⟩
  obtain ⟨applied, items, swarm, counted, fits, perm, loaded,
      overwritten⟩ :=
    Aggregate.runs_revised
      (fun index _ item _ trace => UpdateBy calls index item trace)
      manifest reads (fun _ => kept_notBegun)
      (fun _ => ⟨rfl, List.not_mem_nil, nofun⟩) triples run returned
      inverse.swarmState
  have sameLength : answers.length = calls.length := by
    rw [← returned.length_eq, run.length_tasks]
    exact (List.length_map _).trans (List.length_map _)
  have updateBy : ∀ (index : Nat) item, items[index]? = some item →
      UpdateBy calls index item last.trace := by
    intro index item isItem
    have inRange : index < answers.length := by
      rw [← counted]
      exact (List.getElem?_eq_some_iff.mp isItem).1
    exact fits index _ item (List.getElem?_eq_getElem inRange) isItem
  refine ⟨swarm, loaded, ?_, ?_⟩
  · rw [overwritten.1, perm.length_eq, counted, sameLength]
  · intro index call task isCall isTask alone
    have inItems : index < items.length := by
      rw [counted, sameLength]
      exact (List.getElem?_eq_some_iff.mp isCall).1
    obtain ⟨now, began, isLast⟩ :=
      lastWritten_of_alone perm updateBy isCall inItems alone
    refine ⟨_, run.history isTask ▸ call.wrote_of_beganAt began, ?_⟩
    rw [overwritten.2, isLast]
    rfl

/-! ## Two roles -/

def researcherCall : StatusCall where
  memory := makeAgentMemory 0 "researcher" ⟨.live⟩
  update := ⟨.scanning, none, none, none, none, none⟩

def riskCall : StatusCall where
  memory := makeAgentMemory 0 "risk" ⟨.live⟩
  update := ⟨.deciding, none, none, none, none, none⟩

def StatusCall.plainItem (call : StatusCall) : String × AgentState :=
  (call.memory.role,
    call.update.state call.memory.role (plainSources.clock 0))

/-- The state of the swarm after these calls, one after another. -/
def swarmAfter (calls : List StatusCall) : SwarmState :=
  calls.foldl
    (fun swarm call => swarm.updateAgent call.plainItem.1 call.plainItem.2
      (plainSources.clock 0))
    (.default (plainSources.clock 0))

def twoRolesModels : Models :=
  plainModels [researcherCall.plainItem.2, riskCall.plainItem.2]
    [swarmAfter [researcherCall], swarmAfter [riskCall],
      swarmAfter [researcherCall, riskCall]] [] []

def twoRolesWorld : World plainBackend :=
  .boot (Mapping.empty : Mapping String Bytes)

def twoRolesStart : StorageLoop Unit plainBackend :=
  .start ([researcherCall, riskCall].map (StatusCall.program twoRolesModels))
    twoRolesWorld

def updatesInTurn : List Nat :=
  List.replicate 16 0 ++ List.replicate 16 1

/-- Both read the state of the swarm before either writes it. -/
def updatesReadFirst : List Nat :=
  List.replicate 10 0 ++ List.replicate 10 1 ++ List.replicate 6 0 ++
    List.replicate 6 1

def riskReads (world : World plainBackend) : Except Exception SwarmState :=
  ((riskCall.memory.readSwarmState twoRolesModels).run
    (environment plainBackend plainSources) world).1

theorem twoRoles_inside :
    ∀ call ∈ [researcherCall, riskCall], ∃ role, (role, call.memory) ∈
      makeSharedMemorySet 0 ["researcher", "risk"] ⟨.live⟩ := by
  intro call member
  simp only [List.mem_cons, List.not_mem_nil, or_false] at member
  rcases member with rfl | rfl
  · exact ⟨"researcher", List.mem_cons_self⟩
  · exact ⟨"risk", List.mem_cons_of_mem _ List.mem_cons_self⟩

theorem twoRolesModels_inverse
    {world : World plainBackend}
    (notEmpty : ∀ item ∈ Mapping.items world.live, unframe item.2 ≠ []) :
    twoRolesModels.InverseOn (Held plainStore.Holds world) := by
  refine plainModels_inverseOn ⟨?_, ?_, by decide, by decide⟩ ?_
  · decide +kernel
  · decide +kernel
  · rintro ⟨root, held⟩
    exact plainStore_not_holds_nil notEmpty root held

theorem researcher_alone
    (other : Nat) (also : StatusCall)
    (isAlso : [researcherCall, riskCall][other]? = some also)
    (sameRole : also.memory.role = researcherCall.memory.role) :
    other = 0 := by
  match other with
  | 0 => rfl
  | 1 =>
      cases isAlso
      exact absurd sameRole (by decide)
  | _ + 2 => cases isAlso

theorem updates_kept_in_turn :
    ∃ last answers swarm,
      EventLoop.Runs (environment plainBackend plainSources)
          StorageCall.suspends
          (Discipline.Permits (TakesTurns 0 KVKey.swarmState))
          twoRolesStart last ∧
        last.Returned answers ∧ riskReads last.shared = .ok swarm ∧
          swarm.version = 2 ∧
            (swarm.agents.get? "researcher").isSome := by
  obtain ⟨last, run, ended, notEmpty⟩ :
      ∃ last, EventLoop.Runs (environment plainBackend plainSources)
          StorageCall.suspends
          (Discipline.Permits (TakesTurns 0 KVKey.swarmState))
          twoRolesStart last ∧
        (∀ task ∈ last.tasks, (EventLoop.result task).isSome) ∧
          ∀ item ∈ Mapping.items last.shared.live,
            unframe item.2 ≠ [] := by
    refine EventLoop.exists_run_of_playing updatesInTurn ?_
    decide +kernel
  obtain ⟨answers, returned⟩ := EventLoop.exists_returned ended
  have isReader : ∃ role, (role, riskCall.memory) ∈
      makeSharedMemorySet 0 ["researcher", "risk"] ⟨.live⟩ :=
    twoRoles_inside riskCall (List.mem_cons_of_mem _ List.mem_cons_self)
  have isBefore : riskReads twoRolesWorld =
      .ok (.default (plainSources.clock 0)) := rfl
  obtain ⟨swarm, read, version, states⟩ :=
    @updates_kept plainBackend twoRolesModels plainSources plainStore 0
      ["researcher", "risk"] [researcherCall, riskCall] twoRoles_inside
      riskCall.memory isReader twoRolesWorld .empty rfl
      (.default (plainSources.clock 0)) isBefore last run answers returned
      (twoRolesModels_inverse notEmpty)
  have inTasks : 0 < last.tasks.length := by
    rw [run.length_tasks]
    exact Nat.zero_lt_two
  obtain ⟨state, _, isState⟩ := states 0 researcherCall _ rfl
    (List.getElem?_eq_getElem inTasks) researcher_alone
  have isThere : swarm.agents.get? "researcher" = some state := isState
  refine ⟨last, answers, swarm, run, returned, read, version, ?_⟩
  rw [isThere]
  rfl

/-- The second update was computed from a state without the first. -/
theorem update_lost :
    ∃ last, EventLoop.Reaches (environment plainBackend plainSources)
        StorageCall.suspends twoRolesStart last ∧
      twoRolesModels.InverseOn (Held plainStore.Holds last.shared) ∧
        ∃ answers before swarm,
          last.Returned answers ∧ answers.length = 2 ∧
            riskReads twoRolesWorld = .ok before ∧
              riskReads last.shared = .ok swarm ∧
                swarm.version = before.version + 1 ∧
                  swarm.agents.get? "researcher" = none := by
  obtain ⟨last, run, ended, notEmpty, isSwarm⟩ :
      ∃ last, EventLoop.Reaches (environment plainBackend plainSources)
          StorageCall.suspends twoRolesStart last ∧
        (∀ task ∈ last.tasks, (EventLoop.result task).isSome) ∧
          (∀ item ∈ Mapping.items last.shared.live,
            unframe item.2 ≠ []) ∧
            (riskReads last.shared).toOption.map (fun swarm =>
                (swarm.version, (swarm.agents.get? "researcher").isNone)) =
              some (1, true) := by
    refine EventLoop.exists_run_of_playing updatesReadFirst ?_
    decide +kernel
  obtain ⟨answers, returned⟩ := EventLoop.exists_returned ended
  have two : answers.length = 2 := by
    rw [← returned.length_eq, run.length_tasks]
    rfl
  obtain ⟨swarm, isRead, parts⟩ := Option.map_eq_some_iff.mp isSwarm
  obtain ⟨version, missing⟩ := Prod.mk.inj parts
  exact ⟨last, run, twoRolesModels_inverse notEmpty, answers,
    .default (plainSources.clock 0), swarm, returned, two, rfl,
    eq_ok_of_toOption isRead, version, Option.isNone_iff_eq_none.mp missing⟩

end SwarmFi.Core.Storage

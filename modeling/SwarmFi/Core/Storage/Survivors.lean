import SwarmFi.Core.Storage.Revisions
import SwarmFi.Foundation.Overwriting

/-!
# What is left of concurrent revisions

Tasks that read a model, extend it and write it back overwrite what others
have written meanwhile.  Whatever their turns are, the model that is stored has
been built by some of the changes, each of them once and in the order in which
they were written, and by the last one among them.
-/

namespace SwarmFi.Core.Storage

open Foundation Python

/-! ## Reading and writing the key -/

def StorageCall.access (kv : KvId) (key : String) : StorageCall → Access
  | .lookup asked name =>
      if asked = kv ∧ name = key then .read else .neither
  | .assign asked name _ =>
      if asked = kv ∧ name = key then .write else .neither
  | _ => .neither

/-- What each call of a run does with the entry of the key. -/
def accesses
    (kv : KvId) (key : String)
    (trace : List (Nat × Event StorageVocabulary)) : List (Nat × Access) :=
  trace.map fun item => (item.1, item.2.call.access kv key)

theorem accesses_snoc
    (kv : KvId) (key : String)
    (trace : List (Nat × Event StorageVocabulary)) (task : Nat)
    (event : Event StorageVocabulary) :
    accesses kv key (trace ++ [(task, event)]) =
      accesses kv key trace ++ [(task, event.call.access kv key)] := by
  rw [accesses, List.map_append]
  rfl

theorem access_of_away
    {key : String} {request : StorageCall} (away : request.Away key)
    (kv : KvId) : request.access kv key = .neither := by
  cases request with
  | lookup asked name =>
      have other : name ≠ key := away
      exact if_neg fun both => other both.2
  | assign asked name root =>
      have other : name ≠ key := away
      exact if_neg fun both => other both.2
  | _ => rfl

namespace Aggregate

variable
  {α χ : Type} {aggregate : Aggregate α χ} {live : LiveBackend}
  {sources : Sources} {store : ContentStore live}

/-! ## Loading under any discipline -/

section Loading

variable
  {γ ι : Type} {discipline : Discipline StorageVocabulary (World live) γ}
  {task : Nat} {shown : ι → α → Prop}
  {assertion : ι → View StorageVocabulary (World live) γ → Prop}

/-- What is downloaded from a root that yields something. -/
theorem local_yielded
    (isEnvironment : discipline.setting.environment =
      environment live sources)
    {known : View StorageVocabulary (World live) γ → Prop}
    (kept : discipline.Kept task known)
    (quiet : ∀ root, discipline.Steps task known (.sidecarDownload root)
      fun _ => known)
    (root : String) (raw : Bytes) :
    discipline.Local task ((⟨.live⟩ : ZeroGClient).download root)
      (fun view => store.Yields view.shared root raw ∧ known view)
      fun data view => data = raw ∧ known view := by
  have named : discipline.Local task
      ((⟨.live⟩ : ZeroGClient).download root)
      (fun view => ∃ blob, unframe blob = raw ∧
        store.contents view.shared.live
            (ZeroGStorageClient.withMark root) = some blob ∧ known view)
      fun data view => data = raw ∧ known view := by
    refine .exists_pre fun blob => .of_fact fun isRaw => ?_
    refine .call_bind (fun answer view => answer = .ok blob ∧ known view)
      ?_ (fun answer => (Discipline.kept_fact _).and kept)
      fun answer => .of_fact fun isAnswer => ?_
    · intro view holds parts permitted sound
      obtain ⟨ghost, guaranteed, stillHolds, reached⟩ :=
        quiet _ view holds parts.2 permitted sound
      refine ⟨ghost, guaranteed, stillHolds, ?_, reached⟩
      rw [isEnvironment]
      exact store.fetched _ _ _ parts.1
    · subst isAnswer
      exact fun view _ _ isKnown => ⟨isRaw, isKnown⟩
  refine named.strengthen fun view _ _ parts => ?_
  obtain ⟨⟨blob, found, isRaw⟩, isKnown⟩ := parts
  exact ⟨blob, isRaw, found, isKnown⟩

/-- `load` returns a model with the property of what is found. -/
theorem local_loadShown
    (isEnvironment : discipline.setting.environment =
      environment live sources)
    {pre : View StorageVocabulary (World live) γ → Prop}
    (kept : ∀ index, discipline.Kept task (assertion index))
    (quiet : ∀ index (request : StorageCall), request.Away aggregate.key →
      discipline.Steps task (assertion index) request
        fun _ => assertion index)
    (looks : discipline.Steps task pre
      (.lookup aggregate.kv aggregate.key)
      fun answer view => ∃ (index : ι) (found : Option String),
        answer = .ok ((found.map Json.str).getD .null) ∧
          aggregate.Reads store (shown index) view.shared found ∧
            assertion index view) :
    discipline.Local task aggregate.load pre
      fun model view => ∃ index, shown index model ∧
        assertion index view := by
  have got : discipline.Local task (aggregate.swarmKv.get aggregate.key) pre
      fun raw view => ∃ index,
        (∀ now, shown index (aggregate.readBack raw now)) ∧
          assertion index view := by
    refine .call_bind _ looks ?_ fun answer => ?_
    · intro answer
      refine Discipline.Kept.exists fun index =>
        Discipline.Kept.exists fun found => ?_
      refine (Discipline.kept_fact _).and (Discipline.Kept.and ?_
        (kept index))
      intro other before request ghost _ _ _ reads
      rw [Discipline.after, isEnvironment]
      exact reads.stays request
    refine .exists_pre fun index => .exists_pre fun found =>
      .of_fact fun isAnswer => ?_
    subst isAnswer
    cases found with
    | none => exact fun view _ _ parts => ⟨index, parts⟩
    | some root =>
        have downloaded : discipline.Local task
            (do return some (← (⟨.live⟩ : ZeroGClient).download root))
            (fun view => ∃ raw,
              (∀ now, shown index (aggregate.readBack (some raw) now)) ∧
                store.Yields view.shared root raw ∧ assertion index view)
            fun raw view => ∃ index,
              (∀ now, shown index (aggregate.readBack raw now)) ∧
                assertion index view := by
          refine .exists_pre fun raw => .of_fact fun reads => ?_
          refine (local_yielded isEnvironment (kept index)
            (fun _ => quiet index _ trivial) root raw).bind fun data =>
              .of_fact fun isData => ?_
          subst isData
          exact fun view _ _ holds => ⟨index, reads, holds⟩
        refine downloaded.strengthen fun view _ _ parts => ?_
        obtain ⟨⟨raw, yields, reads⟩, holds⟩ := parts
        exact ⟨raw, reads, yields, holds⟩
  refine got.bind fun raw => .exists_pre fun index =>
    .of_fact fun reads => ?_
  have fallen
      (isFallback : ∀ now, aggregate.readBack raw now =
        aggregate.fallback now) :
      discipline.Local task
        (do return aggregate.fallback (← ask .now)) (assertion index)
        fun model view => ∃ index, shown index model ∧
          assertion index view := by
    refine .call_bind (fun _ => assertion index)
      (quiet index .now trivial) (fun _ => kept index)
      fun now view _ _ holds => ?_
    exact ⟨index, isFallback now ▸ reads now, holds⟩
  cases decoded : raw.map aggregate.codec.decode with
  | none =>
      exact fallen fun now => by rw [readBack, decoded]
  | some outcome =>
      cases outcome with
      | error exc => exact fallen fun now => by rw [readBack, decoded]
      | ok model =>
          intro view _ _ holds
          have isModel := reads ""
          rw [readBack, decoded] at isModel
          exact ⟨index, isModel, holds⟩

end Loading

/-! ## The discipline of the tasks -/

/-- The tasks have these changes. -/
def Listed
    (ghost : List (Nat × χ)) (tasks : List Nat) (changes : List χ) : Prop :=
  List.Forall₂ (fun task change => (task, change) ∈ ghost) tasks changes

theorem Listed.mono
    {ghost later : List (Nat × χ)} {tasks : List Nat} {changes : List χ}
    (listed : Listed ghost tasks changes) (grown : ghost ⊆ later) :
    Listed later tasks changes :=
  List.Forall₂.imp (fun _ _ member => grown member) listed

theorem Listed.snoc
    {ghost : List (Nat × χ)} {tasks : List Nat} {changes : List χ}
    (listed : Listed ghost tasks changes) (task : Nat) (change : χ) :
    Listed (ghost ++ [(task, change)]) (tasks ++ [task])
      (changes ++ [change]) := by
  have earlier : Listed (ghost ++ [(task, change)]) tasks changes :=
    listed.mono (List.subset_append_left _ _)
  have last : Listed (ghost ++ [(task, change)]) [task] [change] :=
    .cons (List.mem_append_right _ List.mem_cons_self) .nil
  exact List.rel_append earlier last

variable (aggregate) in
def accessesOf (view : RevisionView live χ) : List (Nat × Access) :=
  accesses aggregate.kv aggregate.key view.trace

variable (aggregate) in
/-- What a task has found at the key. -/
def foundBy (view : RevisionView live χ) (task : Nat) : List Nat :=
  (overlapOf (aggregate.accessesOf view)).seen task

/-- The model that is stored has been built by the changes that are left. -/
structure Survives
    (aggregate : Aggregate α χ) (store : ContentStore live)
    (built : List χ → α → Prop) (count : Nat)
    (view : RevisionView live χ) : Prop where
  stored : ∃ (roots : Mapping String String) (changes : List χ),
    (view.shared.kvs aggregate.kv).manifest = roots.toJson ∧
      Listed view.ghost (survivors (aggregate.accessesOf view)) changes ∧
        aggregate.Reads store (built changes) view.shared
          (roots.get? aggregate.key)
  written : writers (aggregate.accessesOf view) = view.ghost.map Prod.fst
  once : (view.ghost.map Prod.fst).Nodup
  tasks : ∀ item ∈ view.ghost, item.1 < count

/-- A task reads and writes for itself. -/
structure OwnAccess
    (aggregate : Aggregate α χ) (task : Nat)
    (before after : RevisionView live χ) : Prop where
  found : ∀ other, other ≠ task →
    aggregate.foundBy after other = aggregate.foundBy before other
  written : after.ghost = before.ghost ∨
    ∃ change, after.ghost = before.ghost ++ [(task, change)]

theorem OwnAccess.grown
    {task : Nat} {before after : RevisionView live χ}
    (own : aggregate.OwnAccess task before after) :
    before.ghost ⊆ after.ghost := by
  rcases own.written with same | ⟨change, extended⟩
  · rw [same]
    exact List.Subset.refl _
  · rw [extended]
    exact List.subset_append_left _ _

def Unwritten (task : Nat) (view : RevisionView live χ) : Prop :=
  task ∉ view.ghost.map Prod.fst

/-- The task has yet to write, and has found what these changes have left. -/
def HasRead
    (aggregate : Aggregate α χ) (task : Nat) (changes : List χ)
    (view : RevisionView live χ) : Prop :=
  Unwritten task view ∧
    Listed view.ghost (aggregate.foundBy view task) changes

def Written
    (task : Nat) (change : χ) (view : RevisionView live χ) : Prop :=
  (task, change) ∈ view.ghost

section Discipline

variable (aggregate sources store) in
/-- Nothing is assumed of the schedule. -/
def overwrites (built : List χ → α → Prop) (count : Nat) :
    Discipline StorageVocabulary (World live) (List (Nat × χ)) where
  setting := store.setting sources aggregate.codec
  permitted := fun _ _ _ => True
  invariant := aggregate.Survives store built count
  guarantee := aggregate.OwnAccess

variable {built : List χ → α → Prop} {count task : Nat}

theorem kept_unwritten :
    (aggregate.overwrites sources store built count).Kept task
      (Unwritten task) := by
  intro other before request ghost different own _ unwritten
  have written : ghost = before.ghost ∨
      ∃ change, ghost = before.ghost ++ [(other, change)] := own.written
  show task ∉ ghost.map Prod.fst
  rcases written with same | ⟨change, extended⟩
  · rw [same]
    exact unwritten
  · rw [extended, List.map_append, List.mem_append]
    intro either
    rcases either with earlier | last
    · exact unwritten earlier
    · exact different (List.mem_singleton.mp last).symm

theorem kept_hasRead (changes : List χ) :
    (aggregate.overwrites sources store built count).Kept task
      (aggregate.HasRead task changes) := by
  intro other before request ghost different own sound hasRead
  refine ⟨kept_unwritten other before request ghost different own sound
    hasRead.1, ?_⟩
  rw [own.found task (Ne.symm different)]
  exact hasRead.2.mono own.grown

theorem kept_written (change : χ) :
    (aggregate.overwrites sources store built count).Kept task
      (Written task change) :=
  fun _ _ _ _ _ own _ written => own.grown written

/-! ## Calls that leave the key alone -/

theorem accessesOf_after
    {before after : RevisionView live χ} {request : StorageCall}
    {answer : request.Answer}
    (trace : after.trace = before.trace ++ [(task, ⟨request, answer⟩)]) :
    aggregate.accessesOf after =
      aggregate.accessesOf before ++
        [(task, request.access aggregate.kv aggregate.key)] := by
  rw [accessesOf, trace]
  exact accesses_snoc _ _ _ _ _

/-- Such a call leaves the key, and what has been found there, alone. -/
theorem accessesOf_away
    {before after : RevisionView live χ} {request : StorageCall}
    {answer : request.Answer} (away : request.Away aggregate.key)
    (trace : after.trace = before.trace ++ [(task, ⟨request, answer⟩)]) :
    survivors (aggregate.accessesOf after) =
        survivors (aggregate.accessesOf before) ∧
      writers (aggregate.accessesOf after) =
          writers (aggregate.accessesOf before) ∧
        ∀ other, aggregate.foundBy after other =
          aggregate.foundBy before other := by
  have isAfter : aggregate.accessesOf after =
      aggregate.accessesOf before ++ [(task, .neither)] := by
    rw [accessesOf_after trace, access_of_away away]
  have quiet := overlapOf_neither (aggregate.accessesOf before) task
  refine ⟨?_, ?_, fun other => ?_⟩
  · rw [isAfter]
    exact quiet.1
  · rw [isAfter, writers_snoc]
    exact List.append_nil _
  · rw [foundBy, isAfter]
    exact congrFun quiet.2 other

/-- Such a call only has to bring what it says. -/
theorem steps_asideOf
    {pre : RevisionView live χ → Prop} {request : StorageCall}
    {middle : request.Answer → RevisionView live χ → Prop}
    (away : request.Away aggregate.key)
    (reached : ∀ view, pre view →
      middle (environment live sources view.shared request).1
        ((aggregate.overwrites sources store built count).after view task
          request view.ghost)) :
    (aggregate.overwrites sources store built count).Steps task pre request
      middle := by
  intro view survives start _ _
  let next := (aggregate.overwrites sources store built count).after view
    task request view.ghost
  have trace : next.trace = view.trace ++ [(task,
      ⟨request, (environment live sources view.shared request).1⟩)] := rfl
  have quiet := accessesOf_away away trace
  refine ⟨view.ghost, ⟨fun other _ => quiet.2.2 other, Or.inl rfl⟩,
    ⟨?_, ?_, survives.once, survives.tasks⟩, reached view start⟩
  · obtain ⟨roots, changes, manifest, listed, reads⟩ := survives.stored
    obtain ⟨after, manifestNow, sameEntry⟩ :=
      manifest_of_away sources away manifest
    refine ⟨after, changes, manifestNow, ?_, ?_⟩
    · rw [quiet.1]
      exact listed
    · rw [sameEntry]
      exact reads.stays request
  · rw [quiet.2.1]
    exact survives.written

theorem steps_asideRead
    {request : StorageCall} (away : request.Away aggregate.key)
    (changes : List χ) :
    (aggregate.overwrites sources store built count).Steps task
      (aggregate.HasRead task changes) request
      fun _ => aggregate.HasRead task changes := by
  refine steps_asideOf away fun view hasRead => ⟨hasRead.1, ?_⟩
  let next := (aggregate.overwrites sources store built count).after view
    task request view.ghost
  have trace : next.trace = view.trace ++ [(task,
      ⟨request, (environment live sources view.shared request).1⟩)] := rfl
  rw [(accessesOf_away away trace).2.2]
  exact hasRead.2

/-- A program that leaves the key alone, before the task has read it. -/
theorem local_aside
    {β : Type} {program : Steps β}
    (away : program.Uses (StorageCall.Away aggregate.key)) :
    (aggregate.overwrites sources store built count).Local task program
      (Unwritten task) fun _ => Unwritten task :=
  .of_uses away kept_unwritten fun _ isAway =>
    steps_asideOf isAway fun _ unwritten => unwritten

/-- A program that leaves the key alone, after the task has written it. -/
theorem local_asideWritten
    {β : Type} {program : Steps β}
    (away : program.Uses (StorageCall.Away aggregate.key)) (change : χ) :
    (aggregate.overwrites sources store built count).Local task program
      (Written task change) fun _ => Written task change :=
  .of_uses away (kept_written change) fun _ isAway =>
    steps_asideOf isAway fun _ written => written

/-! ## Reading and writing back -/

/-- A task finds what is left of the changes. -/
theorem steps_find :
    (aggregate.overwrites sources store built count).Steps task
      (Unwritten task) (.lookup aggregate.kv aggregate.key)
      fun answer view => ∃ (changes : List χ) (found : Option String),
        answer = .ok ((found.map Json.str).getD .null) ∧
          aggregate.Reads store (built changes) view.shared found ∧
            aggregate.HasRead task changes view := by
  intro view survives unwritten _ _
  obtain ⟨roots, changes, manifest, listed, reads⟩ := survives.stored
  let next := (aggregate.overwrites sources store built count).after view
    task (.lookup aggregate.kv aggregate.key) view.ghost
  have isAfter : aggregate.accessesOf next =
      aggregate.accessesOf view ++ [(task, .read)] := by
    refine (accessesOf_after rfl).trans ?_
    rw [StorageCall.access, if_pos ⟨rfl, rfl⟩]
  have read := overlapOf_read (aggregate.accessesOf view) task
  have found (other : Nat) : aggregate.foundBy next other =
      Function.update (overlapOf (aggregate.accessesOf view)).seen task
        (survivors (aggregate.accessesOf view)) other := by
    rw [foundBy, isAfter, read.2]
  refine ⟨view.ghost, ⟨fun other different => ?_, Or.inl rfl⟩,
    ⟨⟨roots, changes, manifest, ?_, reads⟩, ?_, survives.once,
      survives.tasks⟩,
    changes, roots.get? aggregate.key, ?_, reads, unwritten, ?_⟩
  · exact (found other).trans (Function.update_of_ne different _ _)
  · show Listed view.ghost (survivors (aggregate.accessesOf next)) changes
    rw [isAfter, read.1]
    exact listed
  · show writers (aggregate.accessesOf next) = view.ghost.map Prod.fst
    rw [isAfter, writers_snoc]
    exact (List.append_nil _).trans survives.written
  · show (view.shared.kvs aggregate.kv).manifest.get aggregate.key = _
    rw [manifest, roots.get_toJson]
  · show Listed view.ghost (aggregate.foundBy next task) changes
    rw [found, Function.update_self]
    exact listed

/-- A task overwrites what has been written since it read. -/
theorem steps_overwrite
    (bounded : task < count) {changes : List χ} {change : χ} {model : α}
    (isBuilt : built (changes ++ [change]) model) (root : String) :
    (aggregate.overwrites sources store built count).Steps task
      (fun view =>
        store.Holds view.shared root (aggregate.codec.encode model) ∧
          aggregate.HasRead task changes view)
      (.assign aggregate.kv aggregate.key root)
      fun _ => Written task change := by
  intro view survives start _ inverse
  obtain ⟨held, unwritten, listed⟩ := start
  obtain ⟨roots, _, manifest, _, _⟩ := survives.stored
  let after : World live := (environment live sources view.shared
    (.assign aggregate.kv aggregate.key root)).2
  let next := (aggregate.overwrites sources store built count).after view
    task (.assign aggregate.kv aggregate.key root)
    (view.ghost ++ [(task, change)])
  have heldNow : store.Holds after root (aggregate.codec.encode model) :=
    held.stays _
  have decodes : aggregate.codec.decode (aggregate.codec.encode model) =
      .ok model := inverse model ⟨root, heldNow⟩
  have isAfter : aggregate.accessesOf next =
      aggregate.accessesOf view ++ [(task, .write)] := by
    refine (accessesOf_after rfl).trans ?_
    rw [StorageCall.access, if_pos ⟨rfl, rfl⟩]
  have write := overlapOf_write (aggregate.accessesOf view) task
  refine ⟨view.ghost ++ [(task, change)], ⟨fun other different => ?_,
    Or.inr ⟨change, rfl⟩⟩, ⟨⟨roots.set aggregate.key root,
      changes ++ [change], ?_, ?_, ?_⟩, ?_, ?_, ?_⟩,
    List.mem_append_right _ List.mem_cons_self⟩
  · show (overlapOf (aggregate.accessesOf next)).seen other = _
    rw [isAfter, write.2]
    rfl
  · exact manifest_of_assign sources manifest aggregate.key root
  · show Listed (view.ghost ++ [(task, change)])
      (survivors (aggregate.accessesOf next)) (changes ++ [change])
    rw [isAfter, write.1]
    exact listed.snoc task change
  · rw [Mapping.get?_set_self]
    refine ⟨_, heldNow.yields, fun now => ?_⟩
    rw [readBack, Option.map_some, decodes]
    exact isBuilt
  · show writers (aggregate.accessesOf next) =
      (view.ghost ++ [(task, change)]).map Prod.fst
    rw [isAfter, writers_snoc, survives.written, List.map_append]
    rfl
  · show ((view.ghost ++ [(task, change)]).map Prod.fst).Nodup
    rw [List.map_append, List.nodup_append]
    refine ⟨survives.once, List.nodup_singleton _, ?_⟩
    intro earlier member last isLast same
    rw [same, List.mem_singleton.mp isLast] at member
    exact unwritten member
  · intro item member
    rcases List.mem_append.mp member with earlier | last
    · exact survives.tasks item earlier
    · rw [List.mem_singleton.mp last]
      exact bounded

/-- A revision writes its change. -/
theorem local_overwrite
    (grown : ∀ changes model change now, built changes model →
      built (changes ++ [change]) (aggregate.grow change model now))
    (bounded : task < count) (change : χ) :
    (aggregate.overwrites sources store built count).Local task
      (aggregate.revise change) (Unwritten task)
      fun _ => Written task change := by
  have loaded : (aggregate.overwrites sources store built count).Local task
      aggregate.load (Unwritten task)
      fun model view => ∃ changes, built changes model ∧
        aggregate.HasRead task changes view :=
    local_loadShown rfl kept_hasRead
      (fun changes _ away => steps_asideRead away changes) steps_find
  refine loaded.bind fun model => .exists_pre fun changes =>
    .of_fact fun isBuilt => ?_
  have away : StorageCall.now.Away aggregate.key := trivial
  refine .call_bind (fun _ => aggregate.HasRead task changes)
    (steps_asideRead away changes) (fun _ => kept_hasRead changes)
    fun now => ?_
  have uploaded : (aggregate.overwrites sources store built count).Local
      task ((⟨.live⟩ : ZeroGClient).upload
        (aggregate.codec.encode (aggregate.grow change model now)))
      (aggregate.HasRead task changes)
      fun result view =>
        store.Holds view.shared result.rootHash
            (aggregate.codec.encode (aggregate.grow change model now)) ∧
          aggregate.HasRead task changes view := by
    refine local_liveUpload store rfl (kept_hasRead changes)
      (fun framed => ?_) _
    have away : (StorageCall.sidecarUpload framed).Away aggregate.key :=
      trivial
    exact steps_asideRead away changes
  have set : (aggregate.overwrites sources store built count).Local task
      (aggregate.swarmKv.set aggregate.key
        (aggregate.codec.encode (aggregate.grow change model now)))
      (aggregate.HasRead task changes) fun _ => Written task change := by
    refine uploaded.bind fun result => ?_
    refine .call_bind (fun _ => Written task change)
      (steps_overwrite bounded (grown _ model change now isBuilt) _)
      (fun _ => kept_written change) fun assigned => ?_
    refine (Discipline.Local.ofExcept fun _ _ _ written => written).bind
      fun _ => ?_
    refine (local_asideWritten (away_persistManifest aggregate.kv)
      change).bind fun _ => ?_
    exact fun _ _ _ written => written
  exact set.bind fun _ _ _ _ written => written

/-! ## What is left in the end -/

/-- What is there can be loaded. -/
theorem Reads.loads
    {property : α → Prop} {world : World live}
    {roots : Mapping String String}
    (manifest : (world.kvs aggregate.kv).manifest = roots.toJson)
    (reads : aggregate.Reads store property world
      (roots.get? aggregate.key)) (sources : Sources) :
    ∃ model,
      (aggregate.load.run (environment live sources) world).1 =
          .ok model ∧ property model := by
  have revised : aggregate.Revised store (fun _ => property) 0
      (⟨world, [], []⟩ : RevisionView live χ) := by
    refine ⟨⟨roots, manifest, reads⟩, List.nodup_nil, ?_⟩
    intro item member
    cases member
  exact revised.loads sources

/-- The changes of the tasks that are listed. -/
theorem Listed.eq_filterMap
    {ghost : List (Nat × χ)} {tasks : List Nat} {kept changes : List χ}
    (listed : Listed ghost tasks kept)
    (isChange : ∀ task change, (task, change) ∈ ghost →
      changes[task]? = some change) :
    kept = tasks.filterMap (changes[·]?) := by
  induction listed with
  | nil => rfl
  | cons member _ inductionHypothesis =>
      rw [List.filterMap_cons, isChange _ _ member, ← inductionHypothesis]

/-- In a run whose tasks all return, whatever their turns are, each has
written once, and the model that is stored has been built by the changes of
the survivors. -/
theorem runs_survive
    {β : Type} {programs : List (Steps β)} {first : World live}
    {last : EventLoop StorageVocabulary Exception β (World live)}
    {values : List β}
    (fits : Nat → β → χ → World live →
      List (Nat × Event StorageVocabulary) → Prop)
    {pre : Nat → RevisionView live χ → Prop}
    {roots : Mapping String String}
    (manifest : (first.kvs aggregate.kv).manifest = roots.toJson)
    (reads : aggregate.Reads store (built []) first
      (roots.get? aggregate.key))
    (kept : ∀ index,
      (aggregate.overwrites sources store built programs.length).Kept index
        (pre index))
    (met : ∀ index, pre index ⟨first, [], []⟩)
    (triples : ∀ (index : Nat) (program : Steps β),
      programs[index]? = some program →
        (aggregate.overwrites sources store built programs.length).Local
          index program (pre index)
          fun value view => ∃ change,
            fits index value change view.shared view.trace ∧
              Written index change view)
    (run : EventLoop.Reaches (environment live sources)
      StorageCall.suspends (.start programs first) last)
    (returned : last.Returned values)
    (inverse : aggregate.codec.InverseOn (Held store.Holds last.shared)) :
    ∃ (changes : List χ) (model : α),
      changes.length = values.length ∧
        (∀ index value change, values[index]? = some value →
          changes[index]? = some change →
            fits index value change last.shared last.trace) ∧
          (writers (accesses aggregate.kv aggregate.key last.trace)).Perm
              (List.range values.length) ∧
            (aggregate.load.run (environment live sources)
                last.shared).1 = .ok model ∧
              built
                ((survivors (accesses aggregate.kv aggregate.key
                  last.trace)).filterMap (changes[·]?)) model := by
  have started : (aggregate.overwrites sources store built
      programs.length).invariant ⟨first, [], []⟩ := by
    refine ⟨⟨roots, [], manifest, .nil, reads⟩, rfl, List.nodup_nil, ?_⟩
    intro item member
    cases member
  obtain ⟨ghost, knows⟩ :=
    (Discipline.Knows.start started kept met triples).run
      (run.mono fun _ _ _ _ _ _ _ => trivial) inverse
  obtain ⟨changes, counted, isFit⟩ := exists_listed
    (fun index value isValue =>
      (returned.ended isValue).elim fun _ ended =>
        knows.post inverse ended)
  have isCount : programs.length = values.length := by
    rw [← returned.length_eq, run.length_tasks]
    exact (List.length_map _).symm
  have survives : aggregate.Survives store built programs.length
      ⟨last.shared, last.trace, ghost⟩ := knows.invariant
  have written (task : Nat) (inRange : task < values.length) :
      ∃ change, changes[task]? = some change ∧ (task, change) ∈ ghost := by
    have isChange : changes[task]? = some changes[task] :=
      List.getElem?_eq_getElem (counted ▸ inRange)
    exact ⟨_, isChange, (isFit task _ _ (List.getElem?_eq_getElem inRange)
      isChange).2⟩
  have inRange (task : Nat) (change : χ) (member : (task, change) ∈ ghost) :
      task < values.length := isCount ▸ survives.tasks _ member
  obtain ⟨rootsNow, left, manifestNow, listed, readsNow⟩ := survives.stored
  obtain ⟨model, loaded, isBuilt⟩ := readsNow.loads manifestNow sources
  have isLeft : left = (survivors (accesses aggregate.kv aggregate.key
      last.trace)).filterMap (changes[·]?) := by
    refine listed.eq_filterMap fun task change member => ?_
    obtain ⟨own, isOwn, alsoMember⟩ := written task (inRange _ _ member)
    have same : change = own := congrArg Prod.snd
      (List.inj_on_of_nodup_map survives.once member alsoMember rfl)
    rw [isOwn, same]
  refine ⟨changes, model, counted,
    fun index value change isValue isChange =>
      (isFit index value change isValue isChange).1, ?_, loaded,
    isLeft ▸ isBuilt⟩
  have isWritten : writers (accesses aggregate.kv aggregate.key
      last.trace) = ghost.map Prod.fst := survives.written
  rw [isWritten, List.perm_ext_iff_of_nodup survives.once
    List.nodup_range]
  intro task
  rw [List.mem_range, List.mem_map]
  constructor
  · intro member
    obtain ⟨item, isItem, same⟩ := member
    exact same ▸ inRange item.1 item.2 isItem
  · intro isTask
    obtain ⟨change, _, member⟩ := written task isTask
    exact ⟨_, member, rfl⟩

end Discipline

end Aggregate

end SwarmFi.Core.Storage

import SwarmFi.Core.Storage.DurableLog
import SwarmFi.Foundation.Rely

/-!
# Concurrent revisions

The index of the log and the state of the swarm are one blob each: a call
reads it, extends it and writes it back, and over the live backend other calls
may come in between.  Where nobody reads while another has yet to write, no
revision is lost.
-/

namespace SwarmFi.Core.Storage

open Foundation Python

/-! ## Aggregates -/

/-- A model under a key that calls read, extend and write back. -/
structure Aggregate (α χ : Type) where
  kv : KvId
  key : String
  codec : ModelCodec α
  fallback : String → α
  grow : χ → α → String → α

namespace Aggregate

variable {α χ : Type} (self : Aggregate α χ)

def swarmKv : SwarmKV :=
  ⟨self.kv, ⟨.live⟩⟩

/-- A model that does not decode counts as none. -/
def load : Steps α := do
  let raw ← self.swarmKv.get self.key
  match raw.map self.codec.decode with
  | some (.ok model) => return model
  | _ => return self.fallback (← ask .now)

def revise (change : χ) : Steps Unit := do
  let model ← self.load
  let now : String ← ask .now
  let _ ← self.swarmKv.set self.key
    (self.codec.encode (self.grow change model now))
  return ()

/-- The model that `load` makes of what it has read. -/
def readBack (raw : Option Bytes) (now : String) : α :=
  match raw.map self.codec.decode with
  | some (.ok model) => model
  | _ => self.fallback now

end Aggregate

/-! ## Turns -/

def StorageCall.looksUp (kv : KvId) (key : String) : StorageCall → Bool
  | .lookup asked name => asked = kv && name = key
  | _ => false

def StorageCall.assigns (kv : KvId) (key : String) : StorageCall → Bool
  | .assign asked name _ => asked = kv && name = key
  | _ => false

/-- The reviser after one more call. -/
def nextReviser
    (kv : KvId) (key : String) (reviser : Option Nat)
    (item : Nat × Event StorageVocabulary) : Option Nat :=
  if item.2.call.looksUp kv key then
    some item.1
  else if item.2.call.assigns kv key then
    none
  else
    reviser

/-- The task that has looked the key up and has yet to set it. -/
def reviser
    (kv : KvId) (key : String)
    (trace : List (Nat × Event StorageVocabulary)) : Option Nat :=
  trace.foldl (nextReviser kv key) none

/-- Nobody looks the key up while another has yet to set it. -/
def TakesTurns
    (kv : KvId) (key : String)
    (trace : List (Nat × Event StorageVocabulary)) (_task : Nat)
    (request : StorageCall) : Prop :=
  request.looksUp kv key = true → reviser kv key trace = none

instance
    (kv : KvId) (key : String)
    (trace : List (Nat × Event StorageVocabulary)) (task : Nat)
    (request : StorageCall) :
    Decidable (TakesTurns kv key trace task request) :=
  inferInstanceAs (Decidable (_ → _))

theorem reviser_snoc
    (kv : KvId) (key : String)
    (trace : List (Nat × Event StorageVocabulary))
    (item : Nat × Event StorageVocabulary) :
    reviser kv key (trace ++ [item]) =
      nextReviser kv key (reviser kv key trace) item := by
  rw [reviser, List.foldl_append]
  rfl

/-! ## Calls that leave the key alone -/

def StorageCall.Away (key : String) : StorageCall → Prop
  | .lookup _ name => name ≠ key
  | .assign _ name _ => name ≠ key
  | .remove _ _ => False
  | .setManifest _ _ => False
  | _ => True

theorem nextReviser_of_away
    {key : String} {event : Event StorageVocabulary}
    (away : event.call.Away key) (kv : KvId) (reviser : Option Nat)
    (task : Nat) :
    nextReviser kv key reviser (task, event) = reviser := by
  obtain ⟨request, answer⟩ := event
  cases request with
  | lookup asked name =>
      have other : name ≠ key := away
      simp [nextReviser, StorageCall.looksUp, StorageCall.assigns, other]
  | assign asked name root =>
      have other : name ≠ key := away
      simp [nextReviser, StorageCall.looksUp, StorageCall.assigns, other]
  | _ => rfl

theorem reviser_of_away
    {key : String} {request : StorageCall} (away : request.Away key)
    (kv : KvId) (trace : List (Nat × Event StorageVocabulary))
    (task : Nat) (answer : request.Answer) :
    reviser kv key (trace ++ [(task, ⟨request, answer⟩)]) =
      reviser kv key trace := by
  rw [reviser_snoc]
  exact nextReviser_of_away away kv _ task

section Uses

variable {key : String}

theorem away_upload (data : Bytes) :
    ((⟨.live⟩ : ZeroGClient).upload data).Uses (StorageCall.Away key) := by
  refine (Program.uses_ofExcept _).bind fun framed => ?_
  refine ⟨trivial, fun answer => ?_⟩
  refine (Program.uses_ofExcept _).bind fun _ => ?_
  exact Program.uses_ofExcept _

theorem away_persistManifest (kv : KvId) :
    (⟨kv, ⟨.live⟩⟩ : SwarmKV).persistManifest.Uses
      (StorageCall.Away key) := by
  refine ⟨trivial, fun _ => ⟨trivial, fun _ => ?_⟩⟩
  refine (away_upload _).bind fun _ => ?_
  exact ⟨trivial, fun _ => Program.uses_done _⟩

theorem away_set
    (kv : KvId) {name : String} (other : name ≠ key) (value : Bytes) :
    ((⟨kv, ⟨.live⟩⟩ : SwarmKV).set name value).Uses
      (StorageCall.Away key) := by
  refine (away_upload _).bind fun _ => ⟨other, fun _ => ?_⟩
  refine (Program.uses_ofExcept _).bind fun _ => ?_
  exact (away_persistManifest kv).bind fun _ => Program.uses_done _

end Uses

variable {live : LiveBackend}

theorem manifest_of_assign
    (sources : Sources) {kv : KvId} {world : World live}
    {roots : Mapping String String}
    (manifest : (world.kvs kv).manifest = roots.toJson)
    (key root : String) :
    ((environment live sources world (.assign kv key root)).2.kvs
        kv).manifest =
      (roots.set key root).toJson := by
  simp only [environment, manifest, roots.setItem_toJson,
    World.changeManifest, World.setManifest, World.setKv,
    Function.update_self]

/-- The entry of the key stays as it is. -/
theorem manifest_of_away
    (sources : Sources) {key : String} {request : StorageCall} (away : request.Away key)
    {kv : KvId} {world : World live} {roots : Mapping String String}
    (manifest : (world.kvs kv).manifest = roots.toJson) :
    ∃ after : Mapping String String,
      ((environment live sources world request).2.kvs kv).manifest =
          after.toJson ∧
        after.get? key = roots.get? key := by
  cases request with
  | assign changed name root =>
      have other : key ≠ name := Ne.symm away
      by_cases same : kv = changed
      · subst same
        exact ⟨roots.set name root,
          manifest_of_assign sources manifest name root,
          Mapping.get?_set_of_ne _ other _⟩
      · refine ⟨roots, ?_, rfl⟩
        simp only [environment, World.changeManifest]
        split
        · exact (congrArg KvState.manifest
            (Function.update_of_ne same _ _)).trans manifest
        · exact manifest
  | setManifestRoot changed root =>
      refine ⟨roots, ?_, rfl⟩
      rw [← manifest]
      by_cases same : kv = changed
      · subst same
        simp only [environment, World.setManifestRoot, World.setKv,
          Function.update_self]
      · exact congrArg KvState.manifest (Function.update_of_ne same _ _)
  | remove changed name => exact away.elim
  | setManifest changed other => exact away.elim
  | _ => exact ⟨roots, manifest, rfl⟩

variable {sources : Sources}

/-- What a `get` that returns has found. -/
theorem run_get_cases
    (store : ContentStore live) {world reached : World live} {kv : KvId}
    {key : String} {roots : Mapping String String} {raw : Option Bytes}
    (manifest : (world.kvs kv).manifest = roots.toJson)
    (got : ((⟨kv, ⟨.live⟩⟩ : SwarmKV).get key).run
      (environment live sources) world = (.ok raw, reached)) :
    (roots.get? key = none ∧ raw = none) ∨
      ∃ root data, roots.get? key = some root ∧ raw = some data ∧
        store.Yields world root data := by
  simp only [SwarmKV.get, ask, Program.bind_eq_bind,
      Program.run_bind, Program.run_call, Program.run_done, environment,
      manifest, roots.get_toJson, Program.run_ofExcept] at got
  cases found : roots.get? key with
  | none =>
      rw [found] at got
      cases got
      exact Or.inl ⟨rfl, rfl⟩
  | some root =>
      rw [found] at got
      obtain ⟨data, between, downloaded, isRaw⟩ :=
        (Program.run_bind_eq_ok_iff _ _ _ _ _ _).mp got
      cases isRaw
      exact Or.inr ⟨root, data, rfl, rfl, store.yields_of_run downloaded⟩

/-! ## Uploads among other tasks -/

/-- Where uploads leave an assertion true, the bytes are there in the end. -/
theorem local_liveUpload
    {γ : Type} {discipline : Discipline StorageVocabulary (World live) γ}
    (store : ContentStore live)
    (isEnvironment : discipline.setting.environment =
      environment live sources)
    {task : Nat} {assertion : View StorageVocabulary (World live) γ → Prop}
    (kept : discipline.Kept task assertion)
    (quiet : ∀ framed, discipline.Steps task assertion
      (.sidecarUpload framed) fun _ => assertion)
    (data : Bytes) :
    discipline.Local task ((⟨.live⟩ : ZeroGClient).upload data) assertion
      fun result view =>
        store.Holds view.shared result.rootHash data ∧ assertion view := by
  refine (Discipline.Local.ofExcept fun framed isFramed view holds =>
    (⟨isFramed, holds⟩ : frame data = .ok framed ∧
      assertion view)).bind fun framed => ?_
  refine .of_fact fun isFramed => ?_
  refine .call_bind
    (fun answer view =>
      (∀ result root, answer = .ok result → result.rootHash = some root →
        store.Holds view.shared root data) ∧ assertion view)
    ?_ ?_ fun answer => ?_
  · intro view holds start permitted sound
    obtain ⟨ghost, guaranteed, stillHolds, reached⟩ :=
      quiet framed view holds start permitted sound
    refine ⟨ghost, guaranteed, stillHolds, ?_, reached⟩
    simp only [Discipline.after, isEnvironment]
    intro result root answered isRoot
    exact ⟨framed, isFramed, store.stored _ _ _ _ answered isRoot⟩
  · intro answer other before request ghost different guaranteed sound
      ⟨held, holds⟩
    refine ⟨fun result root answered isRoot => ?_,
      kept other before request ghost different guaranteed sound holds⟩
    simp only [Discipline.after, isEnvironment]
    exact (held result root answered isRoot).stays request
  · refine (Discipline.Local.ofExcept fun result isResult view parts =>
      (⟨fun root isRoot => parts.1 result root isResult isRoot, parts.2⟩ :
        (∀ root, result.rootHash = some root →
          store.Holds view.shared root data) ∧
            assertion view)).bind fun result => ?_
    refine .ofExcept fun uploaded isUploaded view parts => ?_
    exact ⟨parts.1 _ (uploadResult_eq_ok isUploaded), parts.2⟩

/-! ## Who has revised what -/

namespace Aggregate

variable {α χ : Type} (aggregate : Aggregate α χ)

/-- Whatever `load` makes of the root has the property. -/
def Reads
    (store : ContentStore live) (property : α → Prop) (world : World live) :
    Option String → Prop
  | none => ∀ now, property (aggregate.readBack none now)
  | some root => ∃ raw, store.Yields world root raw ∧
      ∀ now, property (aggregate.readBack (some raw) now)

/-- The ghost state lists the tasks that have revised the model, with what
they added. -/
abbrev RevisionView (live : LiveBackend) (χ : Type) :=
  View StorageVocabulary (World live) (List (Nat × χ))

def reviserOf (view : RevisionView live χ) : Option Nat :=
  reviser aggregate.kv aggregate.key view.trace

/-- What is stored has been built by the revisions, one for each task. -/
structure Revised
    (store : ContentStore live) (built : List χ → α → Prop) (count : Nat)
    (view : RevisionView live χ) : Prop where
  stored : ∃ roots : Mapping String String,
    (view.shared.kvs aggregate.kv).manifest = roots.toJson ∧
      aggregate.Reads store (built (view.ghost.map Prod.snd)) view.shared
        (roots.get? aggregate.key)
  once : (view.ghost.map Prod.fst).Nodup
  tasks : ∀ item ∈ view.ghost, item.1 < count

/-- A task speaks for itself: it may begin and end its own revision. -/
structure OwnRevision
    (task : Nat) (before after : RevisionView live χ) : Prop where
  turns : ∀ other, other ≠ task →
    (aggregate.reviserOf after = some other ↔
      aggregate.reviserOf before = some other)
  applied : after.ghost = before.ghost ∨
    aggregate.reviserOf before = some task ∧
      ∃ change, after.ghost = before.ghost ++ [(task, change)]

/-- For the task it is as if nothing had happened. -/
structure Untouched
    (task : Nat) (before after : RevisionView live χ) : Prop where
  turn : aggregate.reviserOf after = some task ↔
    aggregate.reviserOf before = some task
  applied : after.ghost = before.ghost ∨
    aggregate.reviserOf before ≠ some task ∧
      ∃ other change, other ≠ task ∧
        after.ghost = before.ghost ++ [(other, change)]

theorem OwnRevision.untouched
    {mover task : Nat} {before after : RevisionView live χ}
    (own : aggregate.OwnRevision mover before after) (other : mover ≠ task) :
    aggregate.Untouched task before after where
  turn := own.turns task (Ne.symm other)
  applied := by
    rcases own.applied with same | ⟨turn, change, extended⟩
    · exact Or.inl same
    · refine Or.inr ⟨?_, mover, change, other, extended⟩
      rw [turn]
      exact fun same => other (Option.some.inj same)

/-- Where a task is with its revision. -/
inductive Phase (χ : Type) where
  | idle
  | revising (applied : List (Nat × χ))
  | done (change : χ)

def InPhase (task : Nat) :
    Phase χ → RevisionView live χ → Prop
  | .idle, view =>
      task ∉ view.ghost.map Prod.fst ∧ aggregate.reviserOf view ≠ some task
  | .revising applied, view =>
      task ∉ applied.map Prod.fst ∧ aggregate.reviserOf view = some task ∧
        view.ghost = applied
  | .done change, view => (task, change) ∈ view.ghost

theorem InPhase.untouched
    {task : Nat} {phase : Phase χ} {before after : RevisionView live χ}
    (inPhase : aggregate.InPhase task phase before)
    (untouched : aggregate.Untouched task before after) :
    aggregate.InPhase task phase after := by
  cases phase with
  | idle =>
      obtain ⟨absent, notTurn⟩ := inPhase
      refine ⟨?_, fun turn => notTurn (untouched.turn.mp turn)⟩
      rcases untouched.applied with same | ⟨_, other, _, isOther, extended⟩
      · rw [same]
        exact absent
      · rw [extended, List.map_append, List.mem_append]
        rintro (earlier | last)
        · exact absent earlier
        · exact isOther (List.mem_singleton.mp last).symm
  | revising applied =>
      obtain ⟨absent, turn, isApplied⟩ := inPhase
      refine ⟨absent, untouched.turn.mpr turn, ?_⟩
      rcases untouched.applied with same | ⟨notTurn, _⟩
      · rw [same, isApplied]
      · exact absurd turn notTurn
  | done change =>
      show (task, change) ∈ after.ghost
      rcases untouched.applied with same | ⟨_, _, _, _, extended⟩
      · rw [same]
        exact inPhase
      · rw [extended]
        exact List.mem_append_left _ inPhase

end Aggregate

/-! ## The discipline of the tasks -/

/-- The models that are held at the end are read back. -/
def ContentStore.setting
    {α : Type} (store : ContentStore live) (sources : Sources)
    (codec : ModelCodec α) :
    Setting StorageVocabulary (World live) where
  environment := environment live sources
  sound := fun world => codec.InverseOn (Held store.Holds world)
  before := fun _ request inverse model ⟨root, held⟩ =>
    inverse model ⟨root, held.stays request⟩

namespace Aggregate

variable
  {α χ : Type} (aggregate : Aggregate α χ) (store : ContentStore live)
  (sources : Sources) (built : List χ → α → Prop) (count : Nat)

def revisions :
    Discipline StorageVocabulary (World live) (List (Nat × χ)) where
  setting := store.setting sources aggregate.codec
  permitted := TakesTurns aggregate.kv aggregate.key
  invariant := aggregate.Revised store built count
  guarantee := aggregate.OwnRevision

variable {aggregate store sources built count} {task : Nat}

theorem Reads.stays
    {property : α → Prop} {world : World live} {found : Option String}
    (reads : aggregate.Reads store property world found)
    (request : StorageCall) :
    aggregate.Reads store property
      (environment live sources world request).2 found := by
  cases found with
  | none => exact reads
  | some root =>
      obtain ⟨raw, yields, holds⟩ := reads
      exact ⟨raw, yields.stays request, holds⟩

theorem kept_inPhase (phase : Phase χ) :
    (aggregate.revisions store sources built count).Kept task
      (aggregate.InPhase task phase) :=
  fun _ _ _ _ different guaranteed _ inPhase =>
    inPhase.untouched aggregate (guaranteed.untouched aggregate different)

theorem persistent_reads
    (property : α → Prop) (found : Option String) :
    (aggregate.revisions store sources built count).Persistent
      fun view => aggregate.Reads store property view.shared found :=
  fun _ _ request _ reads => reads.stays request

theorem persistent_holds (root : String) (data : Bytes) :
    (aggregate.revisions store sources built count).Persistent
      fun view => store.Holds view.shared root data :=
  fun _ _ request _ held => held.stays request

/-! ## Calls that leave the key alone -/

theorem revised_of_away
    {request : StorageCall} (away : request.Away aggregate.key)
    {view : RevisionView live χ}
    (revised : aggregate.Revised store built count view) :
    aggregate.Revised store built count
      ((aggregate.revisions store sources built count).after view task
        request view.ghost) := by
  obtain ⟨⟨roots, manifest, reads⟩, once, tasks⟩ := revised
  obtain ⟨after, manifestNow, sameEntry⟩ :=
    manifest_of_away sources away manifest
  refine ⟨⟨after, manifestNow, ?_⟩, once, tasks⟩
  rw [sameEntry]
  exact reads.stays request

/-- Such a call only has to bring what it says. -/
theorem steps_away
    {pre : RevisionView live χ → Prop} {request : StorageCall}
    {middle : request.Answer → RevisionView live χ → Prop}
    (away : request.Away aggregate.key)
    (reached : ∀ view, pre view →
      middle (environment live sources view.shared request).1
        ((aggregate.revisions store sources built count).after view task
          request view.ghost)) :
    (aggregate.revisions store sources built count).Steps task pre request
      middle := by
  intro view revised start _ _
  refine ⟨view.ghost, ⟨fun other _ => ?_, Or.inl rfl⟩,
    revised_of_away away revised, reached view start⟩
  exact Eq.congr_left (reviser_of_away away _ _ _ _)

theorem inPhase_of_away
    {request : StorageCall} (away : request.Away aggregate.key)
    {phase : Phase χ} {view : RevisionView live χ}
    (inPhase : aggregate.InPhase task phase view) :
    aggregate.InPhase task phase
      ((aggregate.revisions store sources built count).after view task
        request view.ghost) := by
  refine inPhase.untouched aggregate ⟨?_, Or.inl rfl⟩
  exact Eq.congr_left (reviser_of_away away _ _ _ _)

/-- A program that leaves the key alone leaves the task where it is. -/
theorem local_away
    {β : Type} {program : Steps β}
    (away : program.Uses (StorageCall.Away aggregate.key))
    (phase : Phase χ) :
    (aggregate.revisions store sources built count).Local task program
      (aggregate.InPhase task phase)
      fun _ => aggregate.InPhase task phase :=
  .of_uses away (kept_inPhase phase) fun _ isAway =>
    steps_away isAway fun _ inPhase => inPhase_of_away isAway inPhase

/-- One such call before the rest of a program. -/
theorem away_bind
    {β : Type} {request : StorageCall} {next : request.Answer → Steps β}
    {phase : Phase χ} {post : β → RevisionView live χ → Prop}
    (away : request.Away aggregate.key)
    (rest : ∀ answer,
      (aggregate.revisions store sources built count).Local task
        (next answer) (aggregate.InPhase task phase) post) :
    (aggregate.revisions store sources built count).Local task
      ((ask request).bind next) (aggregate.InPhase task phase) post :=
  .call_bind (fun _ => aggregate.InPhase task phase)
    (steps_away away fun _ => inPhase_of_away away)
    (fun _ => kept_inPhase phase) rest

/-! ## Reading and writing back -/

theorem local_upload (data : Bytes) (phase : Phase χ) :
    (aggregate.revisions store sources built count).Local task
      ((⟨.live⟩ : ZeroGClient).upload data)
      (aggregate.InPhase task phase)
      fun result view =>
        store.Holds view.shared result.rootHash data ∧
          aggregate.InPhase task phase view :=
  local_liveUpload store rfl (kept_inPhase phase)
    (fun framed =>
      have away : (StorageCall.sidecarUpload framed).Away aggregate.key :=
        trivial
      steps_away away fun _ inPhase => inPhase_of_away away inPhase)
    data

/-- Looking the key up begins a revision. -/
theorem steps_lookup :
    (aggregate.revisions store sources built count).Steps task
      (aggregate.InPhase task .idle)
      (.lookup aggregate.kv aggregate.key)
      fun answer view => ∃ (applied : List (Nat × χ))
          (found : Option String),
        answer = .ok ((found.map Json.str).getD .null) ∧
          aggregate.Reads store (built (applied.map Prod.snd)) view.shared
              found ∧
            aggregate.InPhase task (.revising applied) view := by
  rintro view ⟨⟨roots, manifest, reads⟩, once, tasks⟩ ⟨absent, _⟩ permitted _
  have isLookup : (StorageCall.lookup aggregate.kv
      aggregate.key).looksUp aggregate.kv aggregate.key = true := by
    simp [StorageCall.looksUp]
  have nobody : aggregate.reviserOf view = none := permitted isLookup
  have turn : aggregate.reviserOf
      ((aggregate.revisions store sources built count).after view task
        (.lookup aggregate.kv aggregate.key) view.ghost) = some task := by
    refine (reviser_snoc _ _ _ _).trans ?_
    rw [nextReviser, if_pos isLookup]
  refine ⟨view.ghost, ⟨fun other different => ?_, Or.inl rfl⟩,
    ⟨⟨roots, manifest, reads⟩, once, tasks⟩, view.ghost,
    roots.get? aggregate.key, ?_, reads, absent, turn, rfl⟩
  · rw [turn, nobody]
    simp [Ne.symm different]
  · show (view.shared.kvs aggregate.kv).manifest.get aggregate.key = _
    rw [manifest, roots.get_toJson]

theorem local_get :
    (aggregate.revisions store sources built count).Local task
      (aggregate.swarmKv.get aggregate.key)
      (aggregate.InPhase task .idle)
      fun raw view => ∃ applied : List (Nat × χ),
        (∀ now, built (applied.map Prod.snd) (aggregate.readBack raw now)) ∧
          aggregate.InPhase task (.revising applied) view := by
  refine .call_bind _ steps_lookup ?_ fun answer => ?_
  · intro answer
    refine Discipline.Kept.exists fun applied =>
      Discipline.Kept.exists fun found => ?_
    exact (Discipline.kept_fact _).and
      ((persistent_reads _ found).kept.and (kept_inPhase _))
  refine .exists_pre fun applied => .exists_pre fun found =>
    .of_fact fun isAnswer => ?_
  subst isAnswer
  cases found with
  | none =>
      intro view _ _ parts
      exact ⟨applied, parts⟩
  | some root =>
      have named : (aggregate.revisions store sources built count).Local task
          (do return some (← (⟨.live⟩ : ZeroGClient).download root))
          (fun view => ∃ raw,
            (∀ now, built (applied.map Prod.snd)
              (aggregate.readBack (some raw) now)) ∧
              ∃ blob, unframe blob = raw ∧
                store.contents view.shared.live
                    (ZeroGStorageClient.withMark root) = some blob ∧
                  aggregate.InPhase task (.revising applied) view)
          fun raw view => ∃ applied : List (Nat × χ),
            (∀ now, built (applied.map Prod.snd)
              (aggregate.readBack raw now)) ∧
              aggregate.InPhase task (.revising applied) view := by
        refine .exists_pre fun raw => .of_fact fun reads =>
          .exists_pre fun blob => .of_fact fun isRaw => ?_
        refine .call_bind
          (fun answer view => answer = .ok blob ∧
            aggregate.InPhase task (.revising applied) view) ?_ ?_
          fun answer => .of_fact fun isAnswer => ?_
        · have away : (StorageCall.sidecarDownload
              (ZeroGStorageClient.withMark root)).Away aggregate.key :=
            trivial
          exact steps_away away fun view parts =>
            ⟨store.fetched _ _ _ parts.1, inPhase_of_away away parts.2⟩
        · exact fun answer => (Discipline.kept_fact _).and (kept_inPhase _)
        · subst isAnswer
          intro view _ _ inPhase
          exact ⟨applied, by rw [isRaw]; exact reads, inPhase⟩
      refine named.strengthen ?_
      rintro view _ _ ⟨⟨raw, ⟨blob, found, isRaw⟩, reads⟩, inPhase⟩
      exact ⟨raw, reads, blob, isRaw, found, inPhase⟩

theorem local_load :
    (aggregate.revisions store sources built count).Local task
      aggregate.load (aggregate.InPhase task .idle)
      fun model view => ∃ applied : List (Nat × χ),
        built (applied.map Prod.snd) model ∧
          aggregate.InPhase task (.revising applied) view := by
  refine local_get.bind fun raw => .exists_pre fun applied =>
    .of_fact fun reads => ?_
  have fallen
      (isFallback : ∀ now, aggregate.readBack raw now =
        aggregate.fallback now) :
      (aggregate.revisions store sources built count).Local task
        (do return aggregate.fallback (← ask .now))
        (aggregate.InPhase task (.revising applied))
        fun model view => ∃ applied : List (Nat × χ),
          built (applied.map Prod.snd) model ∧
            aggregate.InPhase task (.revising applied) view := by
    have away : StorageCall.now.Away aggregate.key := trivial
    refine away_bind away fun now view _ _ inPhase => ?_
    exact ⟨applied, isFallback now ▸ reads now, inPhase⟩
  cases decoded : raw.map aggregate.codec.decode with
  | none =>
      exact fallen fun now => by rw [readBack, decoded]
  | some outcome =>
      cases outcome with
      | error exc => exact fallen fun now => by rw [readBack, decoded]
      | ok model =>
          intro view _ _ inPhase
          have isModel := reads ""
          rw [readBack, decoded] at isModel
          exact ⟨applied, isModel, inPhase⟩

/-- A change that has been written is stored. -/
theorem revised_assign
    (bounded : task < count) {view : RevisionView live χ}
    (revised : aggregate.Revised store built count view)
    (absent : task ∉ view.ghost.map Prod.fst) {change : χ} {model : α}
    (isBuilt : built (view.ghost.map Prod.snd ++ [change]) model)
    {root : String} {after : World live}
    (isAfter : (environment live sources view.shared
      (.assign aggregate.kv aggregate.key root)).2 = after)
    (held : store.Holds after root (aggregate.codec.encode model))
    (decodes : aggregate.codec.decode (aggregate.codec.encode model) =
      .ok model) (trace : List (Nat × Event StorageVocabulary)) :
    aggregate.Revised store built count
      ⟨after, trace, view.ghost ++ [(task, change)]⟩ where
  stored := by
    obtain ⟨roots, manifest, _⟩ := revised.stored
    refine ⟨roots.set aggregate.key root,
      isAfter ▸ manifest_of_assign sources manifest aggregate.key root, ?_⟩
    rw [Mapping.get?_set_self, List.map_append]
    refine ⟨_, held.yields, fun now => ?_⟩
    rw [readBack, Option.map_some, decodes]
    exact isBuilt
  once := by
    rw [List.map_append, List.nodup_append]
    refine ⟨revised.once, List.nodup_singleton _, ?_⟩
    intro earlier member last isLast
    rw [List.mem_singleton.mp isLast]
    rintro rfl
    exact absent member
  tasks := by
    intro item member
    rcases List.mem_append.mp member with earlier | last
    · exact revised.tasks item earlier
    · rw [List.mem_singleton.mp last]
      exact bounded

/-- Setting the key ends the revision. -/
theorem steps_assign
    (bounded : task < count) {applied : List (Nat × χ)} {change : χ}
    {model : α} (isBuilt : built (applied.map Prod.snd ++ [change]) model)
    (root : String) :
    (aggregate.revisions store sources built count).Steps task
      (fun view =>
        store.Holds view.shared root (aggregate.codec.encode model) ∧
          aggregate.InPhase task (.revising applied) view)
      (.assign aggregate.kv aggregate.key root)
      fun _ => aggregate.InPhase task (.done change) := by
  rintro view revised ⟨held, absent, turn, rfl⟩ _ inverse
  have heldNow : store.Holds
      (environment live sources view.shared
        (.assign aggregate.kv aggregate.key root)).2
      root (aggregate.codec.encode model) := held.stays _
  have ended : aggregate.reviserOf
      ((aggregate.revisions store sources built count).after view task
        (.assign aggregate.kv aggregate.key root)
        (view.ghost ++ [(task, change)])) = none := by
    refine (reviser_snoc _ _ _ _).trans ?_
    simp [nextReviser, StorageCall.looksUp, StorageCall.assigns]
  refine ⟨view.ghost ++ [(task, change)], ⟨fun other different => ?_,
    Or.inr ⟨turn, change, rfl⟩⟩, ?_, List.mem_append_right _
      List.mem_cons_self⟩
  · rw [ended, turn]
    simp [Ne.symm different]
  · exact revised_assign bounded revised absent isBuilt rfl heldNow
      (inverse model ⟨root, heldNow⟩) _

/-- A revision adds its change. -/
theorem local_revise
    (grown : ∀ applied model change now, built applied model →
      built (applied ++ [change]) (aggregate.grow change model now))
    (bounded : task < count) (change : χ) :
    (aggregate.revisions store sources built count).Local task
      (aggregate.revise change) (aggregate.InPhase task .idle)
      fun _ => aggregate.InPhase task (.done change) := by
  refine local_load.bind fun model => .exists_pre fun applied =>
    .of_fact fun isBuilt => ?_
  have away : StorageCall.now.Away aggregate.key := trivial
  refine away_bind away fun now => ?_
  have set : (aggregate.revisions store sources built count).Local task
      (aggregate.swarmKv.set aggregate.key
        (aggregate.codec.encode (aggregate.grow change model now)))
      (aggregate.InPhase task (.revising applied))
      fun _ => aggregate.InPhase task (.done change) := by
    refine (local_upload _ _).bind fun result => ?_
    refine .call_bind (fun _ => aggregate.InPhase task (.done change))
      (steps_assign bounded (grown _ model change now isBuilt) _)
      (fun _ => kept_inPhase _) fun assigned => ?_
    refine (Discipline.Local.ofExcept fun _ _ _ done => done).bind
      fun _ => ?_
    refine (local_away (away_persistManifest aggregate.kv) _).bind
      fun _ => ?_
    exact fun _ _ _ done => done
  exact set.bind fun _ _ _ _ done => done

/-! ## Where the revisions begin -/

/-- What `load` returns is what is there. -/
theorem reads_of_loaded
    {property : α → Prop} {world : World live} {before : α}
    {roots : Mapping String String}
    (manifest : (world.kvs aggregate.kv).manifest = roots.toJson)
    (loaded : (aggregate.load.run (environment live sources) world).1 =
      .ok before)
    (holds : property before)
    (anyTime : ∀ time, before = aggregate.fallback time →
      ∀ now, property (aggregate.fallback now)) :
    aggregate.Reads store property world (roots.get? aggregate.key) := by
  rcases isRun : aggregate.load.run (environment live sources) world with
    ⟨outcome, last⟩
  rw [isRun] at loaded
  cases loaded
  obtain ⟨raw, reached, got, ended⟩ :=
    (Program.run_bind_eq_ok_iff _ _ _ _ _ _).mp isRun
  have same : ∀ now, property (aggregate.readBack raw now) := by
    intro now
    rw [readBack]
    cases decoded : raw.map aggregate.codec.decode with
    | none =>
        rw [decoded] at ended
        cases ended
        exact anyTime _ rfl now
    | some outcome =>
        rw [decoded] at ended
        cases outcome with
        | error exc =>
            cases ended
            exact anyTime _ rfl now
        | ok model =>
            cases ended
            exact holds
  rcases run_get_cases store manifest got with
    ⟨absent, rfl⟩ | ⟨root, data, found, rfl, yields⟩
  · rw [absent]
    exact same
  · rw [found]
    exact ⟨data, yields, same⟩
/-! ## What the revisions leave behind -/

/-- What is stored can be loaded. -/
theorem Revised.loads
    {view : RevisionView live χ}
    (revised : aggregate.Revised store built count view)
    (sources : Sources) :
    ∃ model,
      (aggregate.load.run (environment live sources) view.shared).1 =
          .ok model ∧
        built (view.ghost.map Prod.snd) model := by
  obtain ⟨roots, manifest, reads⟩ := revised.stored
  have got : ∃ raw reached,
      (aggregate.swarmKv.get aggregate.key).run (environment live sources)
          view.shared = (.ok raw, reached) ∧
        ∀ now, built (view.ghost.map Prod.snd)
          (aggregate.readBack raw now) := by
    simp only [SwarmKV.get, swarmKv, ask, Program.bind_eq_bind,
      Program.run_bind, Program.run_call, Program.run_done, environment,
      manifest, roots.get_toJson, Program.run_ofExcept]
    cases found : roots.get? aggregate.key with
    | none =>
        rw [found] at reads
        exact ⟨none, _, rfl, reads⟩
    | some root =>
        rw [found] at reads
        obtain ⟨raw, yields, holds⟩ := reads
        obtain ⟨reached, downloaded⟩ := yields.run_download sources
        refine ⟨some raw, reached, ?_, holds⟩
        simp only [Option.map_some, Option.getD_some, Program.run_bind,
          downloaded, Program.pure_eq_done, Program.run_done]
  obtain ⟨raw, reached, got, reads⟩ := got
  rw [load, Program.bind_eq_bind, Program.run_bind_of_ok _ got]
  have isBuilt := reads (sources.clock reached.ticks)
  rw [readBack] at isBuilt
  cases decoded : raw.map aggregate.codec.decode with
  | none =>
      rw [decoded] at isBuilt
      exact ⟨_, rfl, isBuilt⟩
  | some outcome =>
      rw [decoded] at isBuilt
      cases outcome with
      | error exc => exact ⟨_, rfl, isBuilt⟩
      | ok model => exact ⟨model, rfl, isBuilt⟩

/-- Once every task is done, each has revised the model exactly once. -/
theorem Revised.perm
    {view : RevisionView live χ}
    (revised : aggregate.Revised store built count view)
    {changes : List χ} (counted : changes.length = count)
    (done : ∀ index change, changes[index]? = some change →
      aggregate.InPhase index (.done change) view) :
    (view.ghost.map Prod.snd).Perm changes := by
  have listed : (changes.zipIdx.map Prod.swap).map Prod.snd = changes := by
    rw [List.map_map]
    exact List.zipIdx_map_fst 0 changes
  have nodup : (changes.zipIdx.map Prod.swap).Nodup := by
    refine List.Nodup.of_map Prod.fst ?_
    rw [List.map_map]
    show (changes.zipIdx.map Prod.snd).Nodup
    rw [List.zipIdx_map_snd]
    exact List.nodup_range'
  rw [← listed]
  refine List.Perm.map _ ?_
  rw [List.perm_ext_iff_of_nodup (revised.once.of_map _) nodup]
  rintro ⟨index, change⟩
  have isListed : (index, change) ∈ changes.zipIdx.map Prod.swap ↔
      changes[index]? = some change := by
    rw [List.mem_map]
    constructor
    · rintro ⟨⟨_, _⟩, member, same⟩
      cases same
      exact List.mem_zipIdx_iff_getElem?.mp member
    · intro found
      exact ⟨(change, index), List.mem_zipIdx_iff_getElem?.mpr found, rfl⟩
  rw [isListed]
  constructor
  · intro member
    have inRange : index < changes.length :=
      counted ▸ revised.tasks _ member
    have isDone := done index _ (List.getElem?_eq_getElem inRange)
    have same := List.inj_on_of_nodup_map revised.once isDone member rfl
    rw [List.getElem?_eq_getElem inRange, (Prod.mk.inj same).2]
  · exact done index change

/-- What can be chosen at every place of a list can be listed. -/
theorem exists_listed
    {β : Type} {values : List β} {fits : Nat → β → χ → Prop}
    (some_ : ∀ index value, values[index]? = some value →
      ∃ change, fits index value change) :
    ∃ changes : List χ, changes.length = values.length ∧
      ∀ index value change, values[index]? = some value →
        changes[index]? = some change → fits index value change := by
  have each : ∀ index : Fin values.length,
      ∃ change, fits index values[index] change :=
    fun index => some_ _ _ (List.getElem?_eq_getElem index.isLt)
  choose chosen isFit using each
  refine ⟨List.ofFn chosen, List.length_ofFn, ?_⟩
  intro index value change isValue isChange
  obtain ⟨inRange, rfl⟩ := List.getElem?_eq_some_iff.mp isValue
  rw [List.getElem?_ofFn, dif_pos inRange] at isChange
  rw [← Option.some.inj isChange]
  exact isFit ⟨index, inRange⟩

/-- In a run in which nobody reads while another has yet to write, and whose
tasks all return, the model that is stored has been built by the changes of
all tasks, in some order. -/
theorem runs_revised
    {β : Type} {programs : List (Steps β)} {first : World live}
    {last : EventLoop StorageVocabulary Exception β (World live)}
    {values : List β}
    (fits : Nat → β → χ → World live →
      List (Nat × Event StorageVocabulary) → Prop)
    {pre : Nat → RevisionView live χ → Prop}
    {roots : Mapping String String}
    (manifest : (first.kvs aggregate.kv).manifest = roots.toJson)
    (reads : aggregate.Reads store (built []) first
      (roots.get? aggregate.key))
    (kept : ∀ index,
      (aggregate.revisions store sources built programs.length).Kept index
        (pre index))
    (met : ∀ index, pre index ⟨first, [], []⟩)
    (triples : ∀ (index : Nat) (program : Steps β),
      programs[index]? = some program →
        (aggregate.revisions store sources built programs.length).Local
          index program (pre index)
          fun value view => ∃ change,
            fits index value change view.shared view.trace ∧
              aggregate.InPhase index (.done change) view)
    (run : EventLoop.Runs (environment live sources) StorageCall.suspends
      (Discipline.Permits (TakesTurns aggregate.kv aggregate.key))
      (.start programs first) last)
    (returned : last.Returned values)
    (inverse : aggregate.codec.InverseOn (Held store.Holds last.shared)) :
    ∃ applied changes model,
      changes.length = values.length ∧
        (∀ index value change, values[index]? = some value →
          changes[index]? = some change →
            fits index value change last.shared last.trace) ∧
          applied.Perm changes ∧
            (aggregate.load.run (environment live sources)
                last.shared).1 = .ok model ∧
              built applied model := by
  have started : (aggregate.revisions store sources built
      programs.length).invariant ⟨first, [], []⟩ :=
    ⟨⟨roots, manifest, reads⟩, List.nodup_nil, nofun⟩
  obtain ⟨ghost, knows⟩ :=
    (Discipline.Knows.start started kept met triples).run run inverse
  obtain ⟨changes, counted, isFit⟩ := exists_listed
    (fun index value isValue =>
      (returned.ended isValue).elim fun _ ended =>
        knows.post inverse ended)
  have revised : aggregate.Revised store built programs.length
      ⟨last.shared, last.trace, ghost⟩ := knows.invariant
  have isCount : changes.length = programs.length := by
    rw [counted, ← returned.length_eq, run.length_tasks]
    exact List.length_map _
  have perm := revised.perm isCount fun index change isChange => by
    have inRange : index < values.length := by
      rw [← counted]
      exact (List.getElem?_eq_some_iff.mp isChange).1
    exact (isFit index _ change (List.getElem?_eq_getElem inRange)
      isChange).2
  obtain ⟨model, loaded, isBuilt⟩ := revised.loads sources
  exact ⟨_, changes, model, counted,
    fun index value change isValue isChange =>
      (isFit index value change isValue isChange).1,
    perm, loaded, isBuilt⟩

end Aggregate

end SwarmFi.Core.Storage

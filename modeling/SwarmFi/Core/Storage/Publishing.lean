import SwarmFi.Core.Storage.PlainBackend
import SwarmFi.Core.Storage.Revisions
import SwarmFi.Core.Storage.RoundTrip

/-!
# Concurrent publishing

A `set` or a `delete` takes a snapshot of the manifest, uploads it and then
assigns its root.  Uploads may complete in any order: a root that is assigned
late can be that of an old manifest.  Where no such root replaces that of the
newest manifest, the root that is left is current.
-/

namespace SwarmFi.Core.Storage

open Foundation Python

/-! ## Versions of the manifest -/

def StorageCall.changes (kv : KvId) : StorageCall → Bool
  | .assign changed _ _ => changed = kv
  | .remove changed _ => changed = kv
  | _ => false

def StorageCall.takes (kv : KvId) : StorageCall → Bool
  | .manifest taken => taken = kv
  | _ => false

def StorageCall.publishes (kv : KvId) : StorageCall → Bool
  | .setManifestRoot changed _ => changed = kv
  | _ => false

/-- `version` counts the changes, `author` is the task that made the last one,
`taken` the version of the last snapshot of a task and `published` that of the
snapshot whose root is assigned. -/
structure Versions where
  version : Nat
  author : Option Nat
  taken : Nat → Nat
  published : Nat

namespace Versions

def start : Versions where
  version := 0
  author := none
  taken := fun _ => 0
  published := 0

def next (kv : KvId) (versions : Versions)
    (item : Nat × Event StorageVocabulary) : Versions :=
  if item.2.call.changes kv then
    { versions with
      version := versions.version + 1
      author := some item.1 }
  else if item.2.call.takes kv then
    { versions with
      taken := Function.update versions.taken item.1 versions.version }
  else if item.2.call.publishes kv then
    { versions with published := versions.taken item.1 }
  else
    versions

def of (kv : KvId) (trace : List (Nat × Event StorageVocabulary)) :
    Versions :=
  trace.foldl (next kv) start

theorem of_snoc
    (kv : KvId) (trace : List (Nat × Event StorageVocabulary))
    (item : Nat × Event StorageVocabulary) :
    of kv (trace ++ [item]) = next kv (of kv trace) item := by
  rw [of, List.foldl_append]
  rfl

end Versions

/-- The root of the newest manifest is not replaced by that of an older
one. -/
def PublishesNewest
    (kv : KvId) (trace : List (Nat × Event StorageVocabulary)) (task : Nat)
    (request : StorageCall) : Prop :=
  request.publishes kv = true →
    (Versions.of kv trace).published = (Versions.of kv trace).version →
      (Versions.of kv trace).taken task = (Versions.of kv trace).version

instance
    (kv : KvId) (trace : List (Nat × Event StorageVocabulary)) (task : Nat)
    (request : StorageCall) :
    Decidable (PublishesNewest kv trace task request) :=
  inferInstanceAs (Decidable (_ → _ → _))

/-! ## Calls that leave the manifest alone -/

def StorageCall.Aside (kv : KvId) : StorageCall → Prop
  | .assign changed _ _ => changed ≠ kv
  | .remove changed _ => changed ≠ kv
  | .manifest taken => taken ≠ kv
  | .setManifest changed _ => changed ≠ kv
  | .setManifestRoot changed _ => changed ≠ kv
  | _ => True

theorem StorageCall.Aside.within
    {kv : KvId} {request : StorageCall} (aside : request.Aside kv) :
    request.Within (fun changed => changed ≠ kv) True := by
  cases request with
  | assign changed key root => exact aside
  | remove changed key => exact aside
  | setManifest changed manifest => exact aside
  | setManifestRoot changed root => exact aside
  | _ => trivial

theorem Versions.next_of_aside
    {kv : KvId} {event : Event StorageVocabulary}
    (aside : event.call.Aside kv) (versions : Versions) (task : Nat) :
    versions.next kv (task, event) = versions := by
  obtain ⟨request, answer⟩ := event
  have plain : request.changes kv = false ∧ request.takes kv = false ∧
      request.publishes kv = false := by
    cases request with
    | assign changed key root =>
        exact ⟨decide_eq_false aside, rfl, rfl⟩
    | remove changed key => exact ⟨decide_eq_false aside, rfl, rfl⟩
    | manifest taken => exact ⟨rfl, decide_eq_false aside, rfl⟩
    | setManifestRoot changed root =>
        exact ⟨rfl, rfl, decide_eq_false aside⟩
    | _ => exact ⟨rfl, rfl, rfl⟩
  simp only [next, plain.1, plain.2.1, plain.2.2, Bool.false_eq_true,
    if_false]

variable
  {live : LiveBackend} {sources : Sources} {store : ContentStore live}

theorem kvs_of_aside
    {kv : KvId} {request : StorageCall} (aside : request.Aside kv)
    (world : World live) :
    (environment live sources world request).2.kvs kv = world.kvs kv :=
  kvs_of_within aside.within (fun different => different rfl) world

/-! ## Who has published what -/

abbrev PublishView (live : LiveBackend) :=
  View StorageVocabulary (World live) Unit

variable (kv : KvId)

def versionsOf (view : PublishView live) : Versions :=
  Versions.of kv view.trace

def manifestIn (view : PublishView live) : Json :=
  (view.shared.kvs kv).manifest

/-- The root is current when the last snapshot published is the newest. -/
structure Publication
    (store : ContentStore live) (count : Nat) (view : PublishView live) :
    Prop where
  listed : ∃ roots : Mapping String String,
    manifestIn kv view = roots.toJson ∧
      ((versionsOf kv view).published = (versionsOf kv view).version →
        Published store.Holds kv roots view.shared)
  taken : ∀ task, (versionsOf kv view).taken task ≤
    (versionsOf kv view).version
  published : (versionsOf kv view).published ≤ (versionsOf kv view).version
  untouched : (versionsOf kv view).author = none →
    (versionsOf kv view).published = (versionsOf kv view).version
  tasks : ∀ task, (versionsOf kv view).author = some task → task < count

/-- A task may change the manifest, take a snapshot for itself and publish,
but it does not spoil a root that is current. -/
structure OwnPublication
    (task : Nat) (before after : PublishView live) : Prop where
  taken : ∀ other, other ≠ task →
    (versionsOf kv after).taken other = (versionsOf kv before).taken other
  manifest :
    ((versionsOf kv after).version = (versionsOf kv before).version ∧
      (versionsOf kv after).author = (versionsOf kv before).author ∧
        manifestIn kv after = manifestIn kv before) ∨
      (versionsOf kv before).version < (versionsOf kv after).version ∧
        (versionsOf kv after).author = some task
  published :
    (versionsOf kv before).published = (versionsOf kv before).version →
      (versionsOf kv after).version = (versionsOf kv before).version →
        (versionsOf kv after).published = (versionsOf kv after).version

/-- Where a task is: it has nothing to publish, it has changed the manifest, or
it holds a snapshot. -/
inductive Duty where
  | settled
  | changed
  | holding (listed : Mapping String String)

def OnDuty (task : Nat) : Duty → PublishView live → Prop
  | .settled, view => (versionsOf kv view).author = some task →
      (versionsOf kv view).published = (versionsOf kv view).version
  | .changed, _ => True
  | .holding listed, view =>
      (versionsOf kv view).taken task ≤ (versionsOf kv view).version ∧
        ((versionsOf kv view).taken task = (versionsOf kv view).version →
          manifestIn kv view = listed.toJson) ∧
          ((versionsOf kv view).author = some task →
            (versionsOf kv view).taken task = (versionsOf kv view).version)

variable {kv}

theorem OnDuty.kept
    {mover task : Nat} {duty : Duty} {before after : PublishView live}
    (onDuty : OnDuty kv task duty before)
    (own : OwnPublication kv mover before after) (other : mover ≠ task) :
    OnDuty kv task duty after := by
  have stranger : ∀ {author : Option Nat}, author = some mover →
      ¬ author = some task := by
    rintro _ rfl same
    exact other (Option.some.inj same)
  cases duty with
  | settled =>
      intro isAuthor
      rcases own.manifest with ⟨sameVersion, sameAuthor, _⟩ | ⟨_, moved⟩
      · exact own.published (onDuty (sameAuthor ▸ isAuthor)) sameVersion
      · exact absurd isAuthor (stranger moved)
  | changed => trivial
  | holding listed =>
      obtain ⟨bound, isListed, newest⟩ := onDuty
      have sameTaken := own.taken task (Ne.symm other)
      rcases own.manifest with
        ⟨sameVersion, sameAuthor, sameManifest⟩ | ⟨later, moved⟩
      · refine ⟨?_, ?_, ?_⟩
        · rw [sameTaken, sameVersion]
          exact bound
        · rw [sameTaken, sameVersion, sameManifest]
          exact isListed
        · rw [sameTaken, sameVersion, sameAuthor]
          exact newest
      · refine ⟨by omega, fun same => ?_, fun isAuthor => ?_⟩
        · omega
        · exact absurd isAuthor (stranger moved)

theorem OnDuty.congr
    {task : Nat} {duty : Duty} {before after : PublishView live}
    (onDuty : OnDuty kv task duty before)
    (sameVersions : versionsOf kv after = versionsOf kv before)
    (sameManifest : manifestIn kv after = manifestIn kv before) :
    OnDuty kv task duty after := by
  cases duty with
  | settled =>
      rw [OnDuty, sameVersions]
      exact onDuty
  | changed => trivial
  | holding listed =>
      rw [OnDuty, sameVersions, sameManifest]
      exact onDuty

/-! ## The discipline of the tasks -/

variable (sources store kv) (count : Nat)

def publications :
    Discipline StorageVocabulary (World live) Unit where
  setting := (durable_live sources store).setting
  permitted := PublishesNewest kv
  invariant := Publication kv store count
  guarantee := OwnPublication kv

variable {sources store kv count} {task : Nat}

theorem kept_onDuty (duty : Duty) :
    (publications sources store kv count).Kept task
      (OnDuty kv task duty) :=
  fun _ _ _ _ different guaranteed _ onDuty =>
    onDuty.kept guaranteed different

theorem versionsOf_after
    (view : PublishView live) (request : StorageCall) (ghost : Unit) :
    versionsOf kv
        ((publications sources store kv count).after view task request
          ghost) =
      (versionsOf kv view).next kv
        (task, ⟨request, (environment live sources view.shared request).1⟩) :=
  Versions.of_snoc _ _ _

theorem published_stays
    {world : World live} {roots : Mapping String String}
    {request : StorageCall}
    (sameKv : (environment live sources world request).2.kvs kv =
      world.kvs kv)
    (published : Published store.Holds kv roots world) :
    Published store.Holds kv roots
      (environment live sources world request).2 := by
  rw [Published, sameKv]
  rw [Published] at published
  split
  · next isRoot =>
      rw [isRoot] at published
      exact published
  · next root isRoot =>
      rw [isRoot] at published
      obtain ⟨ts, listed, reordered, held⟩ := published
      exact ⟨ts, listed, reordered, held.stays request⟩

/-- A call that leaves the manifest alone only has to bring what it says. -/
theorem steps_aside
    {pre : PublishView live → Prop} {request : StorageCall}
    {middle : request.Answer → PublishView live → Prop}
    (aside : request.Aside kv)
    (reached : ∀ view, pre view →
      middle (environment live sources view.shared request).1
        ((publications sources store kv count).after view task request
          ())) :
    (publications sources store kv count).Steps task pre request
      middle := by
  rintro view ⟨⟨roots, isListed, current⟩, taken, published, untouched,
    tasks⟩ start _ _
  have sameVersions : versionsOf kv
      ((publications sources store kv count).after view task request ()) =
        versionsOf kv view :=
    (versionsOf_after view request ()).trans
      (Versions.next_of_aside aside _ task)
  have sameKv : (environment live sources view.shared request).2.kvs kv =
      view.shared.kvs kv := kvs_of_aside aside view.shared
  have sameManifest : manifestIn kv
      ((publications sources store kv count).after view task request ()) =
        manifestIn kv view := congrArg KvState.manifest sameKv
  refine ⟨(), ⟨fun _ _ => ?_, Or.inl ⟨?_, ?_, sameManifest⟩, ?_⟩,
    ⟨⟨roots, sameManifest.trans isListed, ?_⟩, ?_, ?_, ?_, ?_⟩,
    reached view start⟩
  all_goals rw [sameVersions]
  · exact fun isCurrent _ => isCurrent
  · exact fun isCurrent => published_stays sameKv (current isCurrent)
  · exact taken
  · exact published
  · exact untouched
  · exact tasks

theorem onDuty_of_aside
    {request : StorageCall} (aside : request.Aside kv) {duty : Duty}
    {view : PublishView live} (onDuty : OnDuty kv task duty view) :
    OnDuty kv task duty
      ((publications sources store kv count).after view task request
        ()) := by
  refine onDuty.congr ?_ ?_
  · exact (versionsOf_after view request ()).trans
      (Versions.next_of_aside aside _ task)
  · exact congrArg KvState.manifest (kvs_of_aside aside view.shared)

theorem aside_bind
    {β : Type} {request : StorageCall} {next : request.Answer → Steps β}
    {duty : Duty} {post : β → PublishView live → Prop}
    (aside : request.Aside kv)
    (rest : ∀ answer, (publications sources store kv count).Local task
      (next answer) (OnDuty kv task duty) post) :
    (publications sources store kv count).Local task
      ((ask request).bind next) (OnDuty kv task duty) post :=
  .call_bind (fun _ => OnDuty kv task duty)
    (steps_aside aside fun _ => onDuty_of_aside aside)
    (fun _ => kept_onDuty duty) rest

theorem local_uploadOnDuty (data : Bytes) (duty : Duty) :
    (publications sources store kv count).Local task
      ((⟨.live⟩ : ZeroGClient).upload data) (OnDuty kv task duty)
      fun result view =>
        store.Holds view.shared result.rootHash data ∧
          OnDuty kv task duty view :=
  local_liveUpload store rfl (kept_onDuty duty)
    (fun framed =>
      have aside : (StorageCall.sidecarUpload framed).Aside kv := trivial
      steps_aside aside fun _ => onDuty_of_aside aside)
    data

/-! ## Changes, snapshots and publishing -/

/-- A changed manifest is still a dict of roots. -/
theorem listed_of_changes
    {request : StorageCall} (changes : request.changes kv = true)
    {world : World live} {roots : Mapping String String}
    (listed : (world.kvs kv).manifest = roots.toJson) :
    ∃ after : Mapping String String,
      ((environment live sources world request).2.kvs kv).manifest =
        after.toJson := by
  cases request with
  | assign changed key root =>
      cases of_decide_eq_true changes
      exact ⟨_, manifest_of_assign sources listed key root⟩
  | remove changed key =>
      cases of_decide_eq_true changes
      cases present : roots.contains key with
      | false =>
          refine ⟨roots, ?_⟩
          simp only [environment, listed,
            roots.delItem_toJson_absent present, World.changeManifest]
      | true =>
          refine ⟨roots.erase key, ?_⟩
          simp only [environment, listed, roots.delItem_toJson present,
            World.changeManifest, World.setManifest, World.setKv,
            Function.update_self]
  | _ => cases changes

theorem steps_change
    (bounded : task < count) {request : StorageCall}
    (changes : request.changes kv = true) :
    (publications sources store kv count).Steps task
      (OnDuty kv task .settled) request
      fun _ => OnDuty kv task .changed := by
  rintro view ⟨⟨roots, isListed, _⟩, taken, published, _, _⟩ _ _ _
  obtain ⟨changed, isChanged⟩ :=
    @listed_of_changes live sources kv request changes view.shared roots
      isListed
  have versions : versionsOf kv
      ((publications sources store kv count).after view task request ()) =
        { versionsOf kv view with
          version := (versionsOf kv view).version + 1
          author := some task } := by
    refine (versionsOf_after view request ()).trans ?_
    rw [Versions.next, if_pos changes]
  refine ⟨(), ⟨fun _ _ => ?_, Or.inr ⟨?_, ?_⟩, ?_⟩,
    ⟨⟨changed, isChanged, ?_⟩, ?_, ?_, ?_, ?_⟩, trivial⟩
  all_goals rw [versions]
  · exact Nat.lt_succ_self _
  · intro _ same
    simp at same
  · intro same
    simp only at same
    omega
  · exact fun tested => Nat.le_succ_of_le (taken tested)
  · exact Nat.le_succ_of_le published
  · exact nofun
  · rintro tested same
    cases same
    exact bounded

theorem steps_snapshot :
    (publications sources store kv count).Steps task
      (OnDuty kv task .changed) (.manifest kv)
      fun answer view => ∃ listed : Mapping String String,
        answer = listed.toJson ∧
          OnDuty kv task (.holding listed) view := by
  rintro view ⟨⟨roots, isListed, current⟩, taken, published, untouched,
    tasks⟩ _ _ _
  have takes : (StorageCall.manifest kv).takes kv = true :=
    decide_eq_true rfl
  have versions : versionsOf kv
      ((publications sources store kv count).after view task
        (.manifest kv) ()) =
        { versionsOf kv view with
          taken := Function.update (versionsOf kv view).taken task
            (versionsOf kv view).version } := by
    refine (versionsOf_after view _ ()).trans ?_
    rw [Versions.next, if_neg (by exact Bool.false_ne_true), if_pos takes]
  refine ⟨(), ⟨fun other different => ?_, Or.inl ⟨?_, ?_, rfl⟩, ?_⟩,
    ⟨⟨roots, isListed, ?_⟩, ?_, ?_, ?_, ?_⟩, roots, isListed, ?_⟩
  all_goals try rw [versions]
  · exact Function.update_of_ne different _ _
  · exact fun isCurrent _ => isCurrent
  · exact current
  · intro tested
    by_cases same : tested = task
    · subst same
      exact (Function.update_self _ _ _).le
    · show Function.update (versionsOf kv view).taken task _ tested ≤ _
      rw [Function.update_of_ne same]
      exact taken tested
  · exact published
  · exact untouched
  · exact tasks
  · rw [OnDuty, versions]
    have newest := Function.update_self task (versionsOf kv view).version
      (versionsOf kv view).taken
    exact ⟨newest.le, fun _ => isListed, fun _ => newest⟩

theorem steps_publish
    {root ts : String} {listed : Mapping String String} :
    (publications sources store kv count).Steps task
      (fun view =>
        store.Holds view.shared root (manifestPayload ts listed.toJson) ∧
          OnDuty kv task (.holding listed) view)
      (.setManifestRoot kv root)
      fun _ => OnDuty kv task .settled := by
  rintro view ⟨⟨roots, isListed, current⟩, taken, published, untouched,
    tasks⟩ ⟨held, bound, isTaken, newest⟩ permitted _
  have publishes : (StorageCall.setManifestRoot kv root).publishes kv =
      true := decide_eq_true rfl
  have keeps := permitted publishes
  have versions : versionsOf kv
      ((publications sources store kv count).after view task
        (.setManifestRoot kv root) ()) =
        { versionsOf kv view with
          published := (versionsOf kv view).taken task } := by
    refine (versionsOf_after view _ ()).trans ?_
    rw [Versions.next, if_neg (by exact Bool.false_ne_true),
      if_neg (by exact Bool.false_ne_true), if_pos publishes]
  have cell : (environment live sources view.shared
      (.setManifestRoot kv root)).2.kvs kv =
        ⟨(view.shared.kvs kv).manifest, some root⟩ :=
    Function.update_self _ _ _
  have sameManifest : manifestIn kv
      ((publications sources store kv count).after view task
        (.setManifestRoot kv root) ()) = manifestIn kv view :=
    (congrArg KvState.manifest cell).trans rfl
  refine ⟨(), ⟨fun _ _ => ?_, Or.inl ⟨?_, ?_, sameManifest⟩, ?_⟩,
    ⟨?_, ?_, ?_, ?_, ?_⟩, ?_⟩
  all_goals try rw [versions]
  · exact fun isCurrent _ => keeps isCurrent
  · rw [sameManifest]
    by_cases isNewest : (versionsOf kv view).taken task =
        (versionsOf kv view).version
    · refine ⟨listed, isTaken isNewest, fun _ => ?_⟩
      show Published store.Holds kv listed
        (environment live sources view.shared (.setManifestRoot kv root)).2
      rw [Published, cell]
      exact ⟨ts, listed, List.Perm.refl _, held.stays _⟩
    · exact ⟨roots, isListed, fun same => absurd same isNewest⟩
  · exact taken
  · exact bound
  · exact fun noAuthor => keeps (untouched noAuthor)
  · exact tasks
  · show OnDuty kv task .settled _
    rw [OnDuty, versions]
    exact newest

/-! ## A call among others -/

theorem local_persistManifest :
    (publications sources store kv count).Local task
      (⟨kv, ⟨.live⟩⟩ : SwarmKV).persistManifest (OnDuty kv task .changed)
      fun _ => OnDuty kv task .settled := by
  have nowAside : StorageCall.now.Aside kv := trivial
  refine aside_bind nowAside fun ts => ?_
  refine .call_bind _ steps_snapshot ?_ fun manifest => ?_
  · exact fun answer => Discipline.Kept.exists fun listed =>
      (Discipline.kept_fact _).and (kept_onDuty _)
  refine .exists_pre fun listed => .of_fact fun isManifest => ?_
  subst isManifest
  refine (local_uploadOnDuty (manifestPayload ts listed.toJson) _).bind
    fun result => ?_
  refine .call_bind (fun _ => OnDuty kv task .settled) steps_publish
    (fun _ => kept_onDuty _) fun _ => ?_
  exact fun _ _ _ settled => settled

/-- A change and what follows it. -/
theorem local_change
    {β : Type} (bounded : task < count) {request : StorageCall}
    (changes : request.changes kv = true)
    {rest : request.Answer → Steps β}
    (persists : ∀ answer, (publications sources store kv count).Local task
      (rest answer) (OnDuty kv task .changed)
      fun _ => OnDuty kv task .settled) :
    (publications sources store kv count).Local task
      ((ask request).bind rest) (OnDuty kv task .settled)
      fun _ => OnDuty kv task .settled :=
  .call_bind (fun _ => OnDuty kv task .changed)
    (steps_change bounded changes) (fun _ => kept_onDuty _) persists

theorem local_set
    (bounded : task < count) (key : String) (value : Bytes) :
    (publications sources store kv count).Local task
      ((⟨kv, ⟨.live⟩⟩ : SwarmKV).set key value)
      (OnDuty kv task .settled) fun _ => OnDuty kv task .settled := by
  refine (local_uploadOnDuty value _).bind fun result => ?_
  have changes : (StorageCall.assign kv key result.rootHash).changes kv =
      true := decide_eq_true rfl
  refine (local_change bounded changes fun assigned => ?_).strengthen
    fun _ _ _ parts => parts.2
  refine (Discipline.Local.ofExcept fun _ _ _ changed => changed).bind
    fun _ => ?_
  exact local_persistManifest.bind fun _ _ _ _ settled => settled

theorem local_delete (bounded : task < count) (key : String) :
    (publications sources store kv count).Local task
      ((⟨kv, ⟨.live⟩⟩ : SwarmKV).delete key)
      (OnDuty kv task .settled) fun _ => OnDuty kv task .settled := by
  have containsAside : (StorageCall.contains kv key).Aside kv := trivial
  refine aside_bind containsAside fun answer => ?_
  refine (Discipline.Local.ofExcept fun _ _ _ settled => settled).bind
    fun present => ?_
  cases present with
  | false => exact fun _ _ _ settled => settled
  | true =>
      have changes : (StorageCall.remove kv key).changes kv = true :=
        decide_eq_true rfl
      refine local_change bounded changes fun removed => ?_
      refine (Discipline.Local.ofExcept fun _ _ _ changed => changed).bind
        fun _ => ?_
      exact local_persistManifest.bind fun _ _ _ _ settled => settled

theorem local_write (bounded : task < count) (write : KvWrite) :
    (publications sources store kv count).Local task
      (write.program ⟨kv, ⟨.live⟩⟩) (OnDuty kv task .settled)
      fun _ => OnDuty kv task .settled := by
  cases write with
  | set key value =>
      exact (local_set bounded key value).bind fun _ _ _ _ settled => settled
  | delete key => exact local_delete bounded key

/-! ## All writes -/

/-- A root that is current stays so. -/
theorem Publication.current
    {view : PublishView live} (publication : Publication kv store count view)
    (settled : ∀ task, task < count → OnDuty kv task .settled view) :
    ∃ roots : Mapping String String,
      (view.shared.kvs kv).manifest = roots.toJson ∧
        Published store.Holds kv roots view.shared := by
  obtain ⟨roots, isListed, current⟩ := publication.listed
  refine ⟨roots, isListed, current ?_⟩
  cases author : (versionsOf kv view).author with
  | none => exact publication.untouched author
  | some task =>
      exact settled task (publication.tasks task author) author

/-- A manifest that is there is loaded. -/
theorem run_loadManifest_of_yields
    {world : World live} {root text : String} {raw : Bytes} {decoded : Json}
    {listed : Mapping String String}
    (yields : store.Yields world root raw) (isText : decode raw = .ok text)
    (isDecoded : JsonReader.loads text = .ok decoded)
    (isManifest : manifestOf decoded = listed.toJson) (sources : Sources)
    (fresh : KvId) :
    ∃ reached : World live,
      ((⟨fresh, ⟨.live⟩⟩ : SwarmKV).loadManifest (some root)).run
          (environment live sources) world = (.ok (), reached) ∧
        (reached.kvs fresh).manifest = listed.toJson := by
  obtain ⟨between, downloaded⟩ := yields.run_download sources
  rw [SwarmKV.loadManifest, Program.run_recover, SwarmKV.readManifest,
    Program.bind_eq_bind, Program.run_bind_of_ok _ downloaded, isText]
  simp only [Program.bind_eq_bind, Program.ofExcept_ok, Program.done_bind,
    isDecoded, isManifest, ask, Program.run_bind, Program.run_call,
    Program.run_done, environment, Program.run_ofExcept]
  refine ⟨_, rfl, ?_⟩
  simp only [World.setManifestRoot, World.setManifest, World.setKv,
    Function.update_self]

/-- A root that is current brings the manifest back. -/
theorem reloads_of_published
    {world : World live} {roots : Mapping String String}
    (published : Published store.Holds kv roots world)
    (sources : Sources) :
    ∃ listed : Mapping String String, listed.items.Perm roots.items ∧
      (∀ root, (world.kvs kv).manifestRoot = some root →
        ∃ raw text decoded,
          (((⟨.live⟩ : ZeroGClient).download root).run
              (environment live sources) world).1 = .ok raw ∧
            decode raw = .ok text ∧ JsonReader.loads text = .ok decoded ∧
              manifestOf decoded = listed.toJson) ∧
        ∀ (later : Sources) (process : World live) (fresh : KvId),
          process.live = world.live → process.kvs fresh = .fresh →
            ∃ reached : World live,
              ((⟨fresh, ⟨.live⟩⟩ : SwarmKV).loadManifest
                  (world.kvs kv).manifestRoot).run
                (environment live later) process = (.ok (), reached) ∧
                (reached.kvs fresh).manifest = listed.toJson := by
  rw [Published] at published
  cases isRoot : (world.kvs kv).manifestRoot with
  | none =>
      rw [isRoot] at published
      refine ⟨.empty, ?_, ?_, ?_⟩
      · rw [published]
        exact List.Perm.refl _
      · intro root hasRoot
        cases hasRoot
      · intro later process fresh _ isFresh
        refine ⟨process, rfl, ?_⟩
        rw [isFresh]
        rfl
  | some root =>
      rw [isRoot] at published
      obtain ⟨ts, taken, reordered, held⟩ := published
      obtain ⟨text, decoded, listed, isText, isDecoded, isManifest, sorted⟩ :=
        loads_manifestPayload ts taken
      refine ⟨listed, sorted.trans reordered, ?_, ?_⟩
      · intro _ same
        cases same
        obtain ⟨_, downloaded⟩ := held.yields.run_download sources
        exact ⟨_, text, decoded, congrArg Prod.fst downloaded, isText,
          isDecoded, isManifest⟩
      · intro later process fresh sameLive _
        have yields :
            store.Yields process root (manifestPayload ts taken.toJson) := by
          rw [BlobStore.Yields, sameLive]
          exact held.yields
        exact run_loadManifest_of_yields yields isText isDecoded isManifest
          later fresh

/-- Where no root of an older manifest replaces that of the newest, the root
that all writes leave behind is current: its blob decodes to the manifest, and
loading it brings exactly the manifest back. -/
theorem writes_published
    (sources : Sources) (store : ContentStore live) (kv : KvId)
    {writes : List KvWrite} {first : World live}
    {roots : Mapping String String}
    (manifest : (first.kvs kv).manifest = roots.toJson)
    (current : Published store.Holds kv roots first)
    {last : EventLoop StorageVocabulary Exception Unit (World live)}
    (run : EventLoop.Runs (environment live sources) StorageCall.suspends
      (Discipline.Permits (PublishesNewest kv))
      (.start (writes.map (KvWrite.program ⟨kv, ⟨.live⟩⟩)) first) last)
    {answers : List Unit} (returned : last.Returned answers) :
    ∃ inMemory listed : Mapping String String,
      (last.shared.kvs kv).manifest = inMemory.toJson ∧
        listed.items.Perm inMemory.items ∧
          (∀ root, (last.shared.kvs kv).manifestRoot = some root →
            ∃ raw text decoded,
              (((⟨.live⟩ : ZeroGClient).download root).run
                  (environment live sources) last.shared).1 = .ok raw ∧
                decode raw = .ok text ∧
                  JsonReader.loads text = .ok decoded ∧
                    manifestOf decoded = listed.toJson) ∧
            ∀ (later : Sources) (process : World live) (fresh : KvId),
              process.live = last.shared.live →
                process.kvs fresh = .fresh →
                  ∃ reached : World live,
                    ((⟨fresh, ⟨.live⟩⟩ : SwarmKV).loadManifest
                        (last.shared.kvs kv).manifestRoot).run
                      (environment live later) process =
                        (.ok (), reached) ∧
                      (reached.kvs fresh).manifest = listed.toJson := by
  have started : (publications sources store kv writes.length).invariant
      ⟨first, [], ()⟩ :=
    ⟨⟨roots, manifest, fun _ => current⟩, fun _ => le_rfl, le_rfl,
      fun _ => rfl, nofun⟩
  have triples : ∀ (task : Nat) (program : Steps Unit),
      (writes.map (KvWrite.program ⟨kv, ⟨.live⟩⟩))[task]? = some program →
        (publications sources store kv writes.length).Local task program
          (OnDuty kv task .settled) fun _ => OnDuty kv task .settled := by
    intro task program isProgram
    rw [List.getElem?_map, Option.map_eq_some_iff] at isProgram
    obtain ⟨write, isWrite, rfl⟩ := isProgram
    exact local_write (List.getElem?_eq_some_iff.mp isWrite).1 write
  obtain ⟨_, knows⟩ :=
    (Discipline.Knows.start started (fun _ => kept_onDuty .settled)
      (fun _ => nofun) triples).run run trivial
  have sameLength : answers.length = writes.length := by
    rw [← returned.length_eq, run.length_tasks]
    exact (List.length_map _).trans (List.length_map _)
  obtain ⟨inMemory, isInMemory, published⟩ :=
    Publication.current knows.invariant fun task inRange => by
      have inAnswers : task < answers.length := sameLength ▸ inRange
      obtain ⟨_, ended⟩ :=
        returned.ended (List.getElem?_eq_getElem inAnswers)
      exact knows.post trivial ended
  obtain ⟨listed, reordered, decodes, reloads⟩ :=
    reloads_of_published published sources
  exact ⟨inMemory, listed, isInMemory, reordered, decodes, reloads⟩

/-! ## Two writes -/

def twoWrites : List KvWrite :=
  [.set "a" [1], .set "b" [2]]

def twoWritesStart : EventLoop StorageVocabulary Exception Unit
    (World plainBackend) :=
  .start (twoWrites.map (KvWrite.program ⟨0, ⟨.live⟩⟩))
    (.boot (Mapping.empty : Mapping String Bytes))

def uploadsInOrder : List Nat :=
  List.replicate 4 0 ++ List.replicate 4 1 ++ List.replicate 2 0 ++
    List.replicate 2 1

/-- The upload of the older manifest completes last. -/
def olderUploadLast : List Nat :=
  List.replicate 4 0 ++ List.replicate 4 1 ++ List.replicate 2 1 ++
    List.replicate 2 0

/-- What another process loads from the root that is left behind. -/
def reloadedFrom (world : World plainBackend) : Json :=
  ((((⟨0, ⟨.live⟩⟩ : SwarmKV).loadManifest (world.kvs 0).manifestRoot).run
    (environment plainBackend plainSources)
      (.boot world.live)).2.kvs 0).manifest

theorem writes_published_in_order :
    ∃ last, EventLoop.Runs (environment plainBackend plainSources)
        StorageCall.suspends (Discipline.Permits (PublishesNewest 0))
        twoWritesStart last ∧
      ∃ inMemory listed : Mapping String String,
        (last.shared.kvs 0).manifest = inMemory.toJson ∧
          listed.items.Perm inMemory.items ∧
            reloadedFrom last.shared = listed.toJson := by
  obtain ⟨last, run, ended⟩ :
      ∃ last, EventLoop.Runs (environment plainBackend plainSources)
          StorageCall.suspends (Discipline.Permits (PublishesNewest 0))
          twoWritesStart last ∧
        ∀ task ∈ last.tasks, (EventLoop.result task).isSome := by
    refine EventLoop.exists_run_of_playing uploadsInOrder ?_
    decide +kernel
  obtain ⟨answers, returned⟩ := EventLoop.exists_returned ended
  have isCurrent : Published plainStore.Holds 0 .empty
      (.boot (Mapping.empty : Mapping String Bytes)) := rfl
  obtain ⟨inMemory, listed, isInMemory, reordered, _, reloads⟩ :=
    @writes_published plainBackend plainSources plainStore 0 twoWrites
      (.boot (Mapping.empty : Mapping String Bytes)) .empty rfl isCurrent
      last run answers returned
  obtain ⟨reached, loaded, isListed⟩ :=
    reloads plainSources (.boot last.shared.live) 0 rfl rfl
  refine ⟨last, run, inMemory, listed, isInMemory, reordered, ?_⟩
  rw [reloadedFrom, loaded]
  exact isListed

/-- The root that is left is that of the older manifest: loading it loses the
second key. -/
theorem older_root_left :
    ∃ last, EventLoop.Reaches (environment plainBackend plainSources)
        StorageCall.suspends twoWritesStart last ∧
      (∃ answers, last.Returned answers) ∧
        (last.shared.kvs 0).manifest.contains "b" = .ok true ∧
          (reloadedFrom last.shared).contains "b" = .ok false := by
  obtain ⟨last, run, ended, inMemory, reloaded⟩ :
      ∃ last, EventLoop.Reaches (environment plainBackend plainSources)
          StorageCall.suspends twoWritesStart last ∧
        (∀ task ∈ last.tasks, (EventLoop.result task).isSome) ∧
          ((last.shared.kvs 0).manifest.contains "b").toOption =
              some true ∧
            ((reloadedFrom last.shared).contains "b").toOption =
              some false := by
    refine EventLoop.exists_run_of_playing olderUploadLast ?_
    decide +kernel
  exact ⟨last, run, EventLoop.exists_returned ended,
    eq_ok_of_toOption inMemory, eq_ok_of_toOption reloaded⟩

end SwarmFi.Core.Storage

import SwarmFi.Foundation.Linearization
import SwarmFi.Core.Storage.ManifestHistory
import SwarmFi.Core.Storage.Publishing

/-!
# Concurrent calls of a key-value store

Calls on one `SwarmKV` over the live backend take turns at the requests to the
sidecar.  Whatever the turns are, each call takes effect at one look at the
manifest or one change of it: the answers are those of a plain dict.  A
manifest that is published, early or late, is that of the dict after some of
the calls, in the same order, and never a mixture.
-/

namespace SwarmFi.Core.Storage

open Foundation Python

variable
  {live : LiveBackend} {sources : Sources} {store : ContentStore live}
  {kv : KvId} {ops : List KvOp} {task : Nat}

/-! ## What the manifests show -/

def onPlainDict (dict : Mapping String Bytes) (op : KvOp) :
    KvAnswer × Mapping String Bytes :=
  op.onDict dict

/-- The dict after the calls that have taken effect. -/
abbrev dictAfter (effects : List (Effect KvOp KvAnswer)) :
    Mapping String Bytes :=
  stateAfter onPlainDict .empty effects

abbrev KvView (live : LiveBackend) :=
  EffectView StorageVocabulary (World live) KvOp KvAnswer

/-- The task has published the root. -/
def publishing (kv : KvId) (task : Nat) (root : String) :
    Nat × Event StorageVocabulary :=
  (task, ⟨.setManifestRoot kv root, ()⟩)

/-- The manifest in memory is that of all effects, and each one that was
published that of the effects up to some time, its publisher's included. -/
structure ShowsEffects
    (store : ContentStore live) (kv : KvId) (view : KvView live) : Prop where
  manifest : ∃ roots,
    Lists store.Holds kv roots (dictAfter view.ghost) view.shared
  published : ∀ task root, publishing kv task root ∈ view.trace →
    ∃ seen, seen <+: view.ghost ∧ task ∈ seen.map Effect.task ∧
      ManifestFor store.Holds root (dictAfter seen) view.shared

variable (sources store kv ops) in
/-- Calls of the operations, one for each task. -/
def kvCalls :
    Discipline StorageVocabulary (World live)
      (List (Effect KvOp KvAnswer)) :=
  linearization (durable_live sources store).setting onPlainDict .empty ops
    (ShowsEffects store kv)

theorem dictAfter_next (effects : List (Effect KvOp KvAnswer)) (op : KvOp) :
    dictAfter
        (effects ++ [nextEffect onPlainDict .empty effects task op]) =
      (op.onDict (dictAfter effects)).2 :=
  stateAfter_next onPlainDict .empty effects task op

/-- What has been published stays what it is. -/
theorem ShowsEffects.published_after
    {view : KvView live} (shows : ShowsEffects store kv view)
    (request : StorageCall) {effects : List (Effect KvOp KvAnswer)}
    (extended : view.ghost <+: effects)
    {publisher : Nat} {root : String}
    (wasPublished : publishing kv publisher root ∈ view.trace) :
    ∃ seen, seen <+: effects ∧ publisher ∈ seen.map Effect.task ∧
      ManifestFor store.Holds root (dictAfter seen)
        (environment live sources view.shared request).2 := by
  obtain ⟨seen, early, own, manifest⟩ :=
    shows.published publisher root wasPublished
  exact ⟨seen, early.trans extended, own,
    manifest.mono fun _ _ held => held.stays request⟩

/-- A call that publishes nothing only has to keep the manifest in step. -/
theorem ShowsEffects.after
    {view : KvView live} (shows : ShowsEffects store kv view)
    {request : StorageCall} (quiet : request.publishes kv = false)
    {effects : List (Effect KvOp KvAnswer)}
    (extended : view.ghost <+: effects)
    (manifest : ∃ roots, Lists store.Holds kv roots (dictAfter effects)
      (environment live sources view.shared request).2) :
    ShowsEffects store kv
      ((kvCalls sources store kv ops).after view task request effects) := by
  refine ⟨manifest, fun publisher root member => ?_⟩
  rcases List.mem_append.mp member with earlier | last
  · exact shows.published_after request extended earlier
  · exfalso
    cases List.mem_singleton.mp last
    have loud : (StorageCall.setManifestRoot kv root).publishes kv = true :=
      decide_eq_true rfl
    rw [loud] at quiet
    cases quiet

/-- A call that leaves the manifest alone. -/
theorem ShowsEffects.aside
    {view : KvView live} (shows : ShowsEffects store kv view)
    {request : StorageCall} (quiet : request.publishes kv = false)
    (sameKv : (environment live sources view.shared request).2.kvs kv =
      view.shared.kvs kv) :
    ShowsEffects store kv
      ((kvCalls sources store kv ops).after view task request
        view.ghost) := by
  obtain ⟨roots, manifest, values⟩ := shows.manifest
  refine shows.after quiet (List.prefix_refl _) ⟨roots, ?_, ?_⟩
  · rw [sameKv]
    exact manifest
  · exact values.mono fun _ _ held => held.stays request

/-! ## Calls that let nothing take effect -/

theorem silent_aside
    {pre : KvView live → Prop} {request : StorageCall}
    {middle : request.Answer → KvView live → Prop}
    (aside : request.Aside kv)
    (reached : ∀ view, pre view →
      middle (environment live sources view.shared request).1
        ((kvCalls sources store kv ops).after view task request
          view.ghost)) :
    (kvCalls sources store kv ops).Steps task pre request middle := by
  have quiet : request.publishes kv = false := by
    cases request with
    | setManifestRoot changed root => exact decide_eq_false aside
    | _ => rfl
  exact steps_silent fun view effective isPre _ =>
    ⟨effective.shown.aside quiet (kvs_of_aside aside view.shared),
      reached view isPre⟩

/-- The snapshot that a task holds is of the effects up to some time, its own
included. -/
def HoldsSnapshot
    (store : ContentStore live) (task : Nat) (listed : Mapping String String)
    (view : KvView live) : Prop :=
  ∃ seen, seen <+: view.ghost ∧ task ∈ seen.map Effect.task ∧
    Mapping.Related (store.Holds view.shared) listed (dictAfter seen)

theorem HoldsSnapshot.after
    {listed : Mapping String String} {view : KvView live}
    (snapshot : HoldsSnapshot store task listed view) (mover : Nat)
    (request : StorageCall) {effects : List (Effect KvOp KvAnswer)}
    (extended : view.ghost <+: effects) :
    HoldsSnapshot store task listed
      ((kvCalls sources store kv ops).after view mover request effects) := by
  obtain ⟨seen, early, own, values⟩ := snapshot
  exact ⟨seen, early.trans extended, own,
    values.mono fun _ _ held => held.stays request⟩

theorem kept_holdsSnapshot (listed : Mapping String String) :
    (kvCalls sources store kv ops).Kept task
      (HoldsSnapshot store task listed) := by
  intro other before request ghost _ own _ snapshot
  apply snapshot.after
  rcases own with same | ⟨effect, _, extended⟩
  · have sameGhost : ghost = before.ghost := same
    rw [sameGhost]
  · have extendedGhost : ghost = before.ghost ++ [effect] := extended
    rw [extendedGhost]
    exact List.prefix_append _ _

/-- An upload leaves alone what the task knows of the effects. -/
theorem local_kvUpload
    (data : Bytes) {assertion : KvView live → Prop}
    (kept : (kvCalls sources store kv ops).Kept task assertion)
    (stays : ∀ view request, assertion view →
      assertion ((kvCalls sources store kv ops).after view task request
        view.ghost)) :
    (kvCalls sources store kv ops).Local task
      ((⟨.live⟩ : ZeroGClient).upload data) assertion
      fun result view =>
        store.Holds view.shared result.rootHash data ∧ assertion view :=
  local_liveUpload store rfl kept
    (fun framed =>
      have aside : (StorageCall.sidecarUpload framed).Aside kv := trivial
      silent_aside aside fun view holds => stays view _ holds)
    data

/-! ## Publishing -/

theorem steps_takeSnapshot (answer : KvAnswer) :
    (kvCalls sources store kv ops).Steps task (Settled task answer)
      (.manifest kv)
      fun reply view => ∃ listed : Mapping String String,
        reply = listed.toJson ∧ HoldsSnapshot store task listed view ∧
          Settled task answer view := by
  refine steps_silent fun view effective settled _ => ?_
  have shown := effective.shown
  obtain ⟨roots, manifest, values⟩ := shown.manifest
  have own : task ∈ view.ghost.map Effect.task := by
    obtain ⟨effect, member, isTask, _⟩ := settled
    rw [← isTask]
    exact List.mem_map_of_mem member
  refine ⟨shown.aside rfl rfl, roots, manifest, ?_, settled⟩
  exact ⟨view.ghost, List.prefix_refl _, own, values⟩

theorem steps_publishSnapshot
    (answer : KvAnswer) {root ts : String} {listed : Mapping String String} :
    (kvCalls sources store kv ops).Steps task
      (fun view =>
        store.Holds view.shared root (manifestPayload ts listed.toJson) ∧
          HoldsSnapshot store task listed view ∧ Settled task answer view)
      (.setManifestRoot kv root)
      fun _ => Settled task answer := by
  refine steps_silent fun view effective isPre _ => ?_
  obtain ⟨held, ⟨seen, early, own, taken⟩, settled⟩ := isPre
  have shown := effective.shown
  obtain ⟨roots, manifest, values⟩ := shown.manifest
  refine ⟨⟨⟨roots, ?_, ?_⟩, fun publisher name member => ?_⟩, settled⟩
  · have cell : ((environment live sources view.shared
        (.setManifestRoot kv root)).2.kvs kv) =
          ⟨(view.shared.kvs kv).manifest, some root⟩ :=
      Function.update_self _ _ _
    refine (congrArg KvState.manifest cell).trans ?_
    exact manifest
  · exact values.mono fun _ _ there => there.stays _
  · rcases List.mem_append.mp member with earlier | last
    · exact shown.published_after _ (List.prefix_refl _) earlier
    · cases List.mem_singleton.mp last
      exact ⟨seen, early, own, ts, listed, dictAfter seen, held.stays _,
        taken.mono fun _ _ there => there.stays _, List.Perm.refl _⟩

theorem local_publish (answer : KvAnswer) :
    (kvCalls sources store kv ops).Local task
      (⟨kv, ⟨.live⟩⟩ : SwarmKV).persistManifest (Settled task answer)
      fun _ => Settled task answer := by
  have nowAside : StorageCall.now.Aside kv := trivial
  refine .call_bind (fun _ => Settled task answer)
    (silent_aside nowAside fun _ settled => settled)
    (fun _ => kept_settled answer) fun ts => ?_
  refine .call_bind _ (steps_takeSnapshot answer) ?_ fun reply => ?_
  · exact fun reply => Discipline.Kept.exists fun listed =>
      (Discipline.kept_fact _).and
        ((kept_holdsSnapshot listed).and (kept_settled answer))
  refine .exists_pre fun listed => .of_fact fun isManifest => ?_
  subst isManifest
  refine (local_kvUpload (manifestPayload ts listed.toJson)
    ((kept_holdsSnapshot listed).and (kept_settled answer))
    fun view request parts =>
      ⟨parts.1.after task request (List.prefix_refl _), parts.2⟩).bind
    fun result => ?_
  refine .call_bind (fun _ => Settled task answer)
    (steps_publishSnapshot answer) (fun _ => kept_settled answer)
    fun _ => ?_
  exact fun _ _ _ settled => settled

/-! ## The calls that take effect -/

/-- A look at the manifest at which a reading call takes effect. -/
theorem steps_look
    {op : KvOp} (isOp : ops[task]? = some op) {request : StorageCall}
    (aside : request.publishes kv = false)
    (sameWorld : ∀ world : World live,
      (environment live sources world request).2 = world)
    (unchanged : ∀ dict, (op.onDict dict).2 = dict)
    {middle : request.Answer → KvView live → Prop}
    (reached : ∀ (view : KvView live) roots (after : KvView live),
      after.shared = view.shared →
        Lists store.Holds kv roots (dictAfter view.ghost) view.shared →
          Settled task (op.onDict (dictAfter view.ghost)).1 after →
            middle (environment live sources view.shared request).1
              after) :
    (kvCalls sources store kv ops).Steps task (Waits task) request
      middle := by
  refine steps_effect isOp (fun _ waits => waits)
    fun view effective _ _ => ?_
  obtain ⟨roots, lists⟩ := effective.shown.manifest
  refine ⟨effective.shown.after aside (List.prefix_append _ _) ?_,
    fun settled => reached view roots _ (sameWorld view.shared) lists
      settled⟩
  refine ⟨roots, ?_⟩
  rw [dictAfter_next, unchanged, sameWorld]
  exact lists

/-- What is there is downloaded. -/
theorem local_kvDownload
    (root : String) (data : Bytes) {assertion : KvView live → Prop}
    (kept : (kvCalls sources store kv ops).Kept task assertion)
    (stays : ∀ view request, assertion view →
      assertion ((kvCalls sources store kv ops).after view task request
        view.ghost)) :
    (kvCalls sources store kv ops).Local task
      ((⟨.live⟩ : ZeroGClient).download root)
      (fun view => store.Holds view.shared root data ∧ assertion view)
      fun raw view => raw = data ∧ assertion view := by
  have named : (kvCalls sources store kv ops).Local task
      ((⟨.live⟩ : ZeroGClient).download root)
      (fun view => ∃ framed, frame data = .ok framed ∧
        store.contents view.shared.live (ZeroGStorageClient.withMark root) =
            some framed ∧
          assertion view)
      fun raw view => raw = data ∧ assertion view := by
    refine .exists_pre fun framed => .of_fact fun isFramed => ?_
    refine .call_bind
      (fun answer view => answer = .ok framed ∧ assertion view) ?_ ?_
      fun answer => .of_fact fun isAnswer => ?_
    · have aside : (StorageCall.sidecarDownload
          (ZeroGStorageClient.withMark root)).Aside kv := trivial
      exact silent_aside aside fun view parts =>
        ⟨store.fetched _ _ _ parts.1, stays view _ parts.2⟩
    · exact fun answer => (Discipline.kept_fact _).and kept
    · subst isAnswer
      exact fun view _ _ holds => ⟨unframe_frame isFramed, holds⟩
  refine named.strengthen fun view _ _ parts => ?_
  obtain ⟨⟨framed, isFramed, found⟩, holds⟩ := parts
  exact ⟨framed, isFramed, found, holds⟩

/-- `get`, whatever is made of its result. -/
theorem local_lookUp
    {op : KvOp} (isOp : ops[task]? = some op) (key : String)
    (shown : Option Bytes → KvAnswer)
    (isGet : ∀ dict, op.onDict dict = (shown (dict.get? key), dict)) :
    (kvCalls sources store kv ops).Local task
      ((⟨kv, ⟨.live⟩⟩ : SwarmKV).get key) (Waits task)
      fun value view => Settled task (shown value) view := by
  refine .call_bind
    (fun answer view => ∃ found : Option (String × Bytes),
      answer = .ok ((found.map fun item => Json.str item.1).getD .null) ∧
        (∀ item ∈ found, store.Holds view.shared item.1 item.2) ∧
          Settled task (shown (found.map Prod.snd)) view)
    ?_ ?_ fun answer => ?_
  · refine steps_look isOp rfl (fun _ => rfl)
      (fun dict => congrArg Prod.snd (isGet dict))
      fun view roots after sameShared lists settled => ?_
    have isReply : (environment live sources view.shared
        (.lookup kv key)).1 =
          .ok (((roots.get? key).map Json.str).getD .null) := by
      rw [environment, lists.1, roots.get_toJson]
    rw [isGet] at settled
    rw [isReply, sameShared]
    rcases lists.2.get? key with ⟨noRoot, absent⟩ | ⟨root, data, isRoot,
      present, held⟩
    · rw [absent] at settled
      refine ⟨none, ?_, ?_, settled⟩
      · rw [noRoot]
        rfl
      · intro item member
        cases member
    · rw [present] at settled
      refine ⟨some (root, data), ?_, ?_, settled⟩
      · rw [isRoot]
        rfl
      · intro item member
        cases Option.mem_some_iff.mp member
        exact held
  · intro answer
    refine Discipline.Kept.exists fun found =>
      (Discipline.kept_fact _).and (Discipline.Kept.and ?_ (kept_settled _))
    exact fun _ _ request _ _ _ _ held item member =>
      (held item member).stays request
  refine .exists_pre fun found => .of_fact fun isAnswer => ?_
  subst isAnswer
  cases found with
  | none => exact fun view _ _ parts => parts.2
  | some item =>
      obtain ⟨root, data⟩ := item
      have downloads : (kvCalls sources store kv ops).Local task
          ((⟨.live⟩ : ZeroGClient).download root)
          (fun view => store.Holds view.shared root data ∧
            Settled task (shown (some data)) view)
          fun raw view => raw = data ∧
            Settled task (shown (some data)) view :=
        local_kvDownload root data (kept_settled _)
          fun _ _ settled => settled
      refine (downloads.strengthen fun view _ _ parts =>
        ⟨parts.1 _ rfl, parts.2⟩).bind fun raw => .of_fact fun isRaw => ?_
      subst isRaw
      exact fun _ _ _ settled => settled

theorem local_get
    {key : String} (isOp : ops[task]? = some (.get key)) :
    (kvCalls sources store kv ops).Local task
      ((KvOp.get key).program ⟨kv, ⟨.live⟩⟩) (Waits task)
      fun answer => Settled task answer :=
  (local_lookUp isOp key .value fun _ => rfl).bind fun _ _ _ _ settled =>
    settled

theorem local_getOrDefault
    {key : String} {default : Bytes}
    (isOp : ops[task]? = some (.getOrDefault key default)) :
    (kvCalls sources store kv ops).Local task
      ((KvOp.getOrDefault key default).program ⟨kv, ⟨.live⟩⟩) (Waits task)
      fun answer => Settled task answer := by
  have looked : (kvCalls sources store kv ops).Local task
      ((⟨kv, ⟨.live⟩⟩ : SwarmKV).get key) (Waits task)
      fun value => Settled task (.bytes (value.getD default)) :=
    local_lookUp isOp key (fun value => .bytes (value.getD default))
      fun _ => rfl
  have defaulted : (kvCalls sources store kv ops).Local task
      ((⟨kv, ⟨.live⟩⟩ : SwarmKV).getOrDefault key default) (Waits task)
      fun bytes => Settled task (.bytes bytes) :=
    looked.bind fun _ _ _ _ settled => settled
  exact defaulted.bind fun _ _ _ _ settled => settled

theorem contains_eq_of_related
    {β γ : Type} {related : β → γ → Prop} {first : Mapping String β}
    {second : Mapping String γ}
    (agree : Mapping.Related related first second) (key : String) :
    first.contains key = second.contains key := by
  rw [Mapping.contains, Mapping.contains]
  rcases agree.get? key with ⟨none_, absent⟩ | ⟨_, _, some_, present, _⟩
  · rw [none_, absent]
    rfl
  · rw [some_, present]
    rfl

theorem local_exists
    {key : String} (isOp : ops[task]? = some (.exists key)) :
    (kvCalls sources store kv ops).Local task
      ((KvOp.exists key).program ⟨kv, ⟨.live⟩⟩) (Waits task)
      fun answer => Settled task answer := by
  have contained : (kvCalls sources store kv ops).Local task
      ((⟨kv, ⟨.live⟩⟩ : SwarmKV).exists key) (Waits task)
      fun present => Settled task (.present present) := by
    refine .call_bind
      (fun answer view => ∃ present, answer = .ok present ∧
        Settled task (.present present) view) ?_ ?_ fun answer => ?_
    · refine steps_look isOp rfl (fun _ => rfl) (fun _ => rfl)
        fun view roots after _ lists settled => ?_
      refine ⟨_, ?_, settled⟩
      rw [environment, lists.1, roots.contains_toJson,
        contains_eq_of_related lists.2 key]
    · exact fun answer => Discipline.Kept.exists fun present =>
        (Discipline.kept_fact _).and (kept_settled _)
    · refine .exists_pre fun present => .of_fact fun isAnswer => ?_
      subst isAnswer
      exact fun _ _ _ settled => settled
  exact contained.bind fun _ _ _ _ settled => settled

theorem local_keys (isOp : ops[task]? = some .keys) :
    (kvCalls sources store kv ops).Local task
      (KvOp.keys.program ⟨kv, ⟨.live⟩⟩) (Waits task)
      fun answer => Settled task answer := by
  have listed : (kvCalls sources store kv ops).Local task
      (⟨kv, ⟨.live⟩⟩ : SwarmKV).keys (Waits task)
      fun listed => Settled task (.keys listed) := by
    refine .call_bind
      (fun answer view => ∃ roots : Mapping String String,
        answer = roots.toJson ∧ Settled task (.keys roots.keys) view)
      ?_ ?_ fun answer => ?_
    · refine steps_look isOp rfl (fun _ => rfl) (fun _ => rfl)
        fun view roots after _ lists settled => ⟨roots, lists.1, ?_⟩
      rw [lists.2.keys_eq]
      exact settled
    · exact fun answer => Discipline.Kept.exists fun roots =>
        (Discipline.kept_fact _).and (kept_settled _)
    · refine .exists_pre fun roots => .of_fact fun isAnswer => ?_
      subst isAnswer
      rw [roots.keys_toJson]
      exact fun _ _ _ settled => settled
  exact listed.bind fun _ _ _ _ settled => settled

/-! ## The calls that change the manifest -/

theorem steps_assignRoot
    {key : String} {value : Bytes} (isOp : ops[task]? = some (.set key value))
    (root : String) :
    (kvCalls sources store kv ops).Steps task
      (fun view => store.Holds view.shared root value ∧ Waits task view)
      (.assign kv key root)
      fun _ => Settled task .nothing := by
  refine steps_effect isOp (fun _ parts => parts.2)
    fun view effective parts _ => ?_
  obtain ⟨roots, manifest, values⟩ := effective.shown.manifest
  refine ⟨effective.shown.after rfl (List.prefix_append _ _) ?_,
    fun settled => settled⟩
  refine ⟨roots.set key root,
    manifest_of_assign sources manifest key root, ?_⟩
  rw [dictAfter_next]
  exact (values.mono fun _ _ held => held.stays _).set key
    (parts.1.stays _)

theorem local_kvSet
    {key : String} {value : Bytes}
    (isOp : ops[task]? = some (.set key value)) :
    (kvCalls sources store kv ops).Local task
      ((KvOp.set key value).program ⟨kv, ⟨.live⟩⟩) (Waits task)
      fun answer => Settled task answer := by
  have isSet : (kvCalls sources store kv ops).Local task
      ((⟨kv, ⟨.live⟩⟩ : SwarmKV).set key value) (Waits task)
      fun _ => Settled task .nothing := by
    refine (local_kvUpload value kept_waits fun _ _ waits => waits).bind
      fun result => ?_
    refine .call_bind (fun _ => Settled task .nothing)
      (steps_assignRoot isOp result.rootHash) (fun _ => kept_settled _)
      fun assigned => ?_
    refine (Discipline.Local.ofExcept fun _ _ _ settled => settled).bind
      fun _ => ?_
    exact (local_publish .nothing).bind fun _ _ _ _ settled => settled
  exact isSet.bind fun _ _ _ _ settled => settled

/-- Whether the manifest lists the key. -/
def ListsKey (kv : KvId) (key : String) (view : KvView live) : Prop :=
  (view.shared.kvs kv).manifest.contains key = .ok true

theorem listsKey_iff
    {key : String} {view : KvView live} {roots : Mapping String String}
    (manifest : (view.shared.kvs kv).manifest = roots.toJson) :
    ListsKey kv key view ↔ roots.contains key = true := by
  rw [ListsKey, manifest, roots.contains_toJson, Except.ok.injEq]

/-- A key that is not there is deleted by looking for it. -/
theorem steps_contains
    {key : String} (isOp : ops[task]? = some (.delete key)) :
    (kvCalls sources store kv ops).Steps task (Waits task)
      (.contains kv key)
      fun answer view => ∃ present : Bool, answer = .ok present ∧
        (if present then Waits task view
          else Settled task .nothing view) := by
  refine .split (ListsKey kv key) ?_ ?_
  · have aside : (StorageCall.contains kv key).Aside kv := trivial
    exact silent_aside aside fun view parts => ⟨true, parts.2, parts.1⟩
  · refine steps_effect isOp (fun _ parts => parts.1)
      fun view effective parts _ => ?_
    obtain ⟨roots, lists⟩ := effective.shown.manifest
    have missing : roots.contains key = false := by
      rw [Bool.eq_false_iff]
      exact fun present => parts.2 ((listsKey_iff lists.1).mpr present)
    have absent : (dictAfter view.ghost).get? key = none := by
      rw [contains_eq_of_related lists.2 key] at missing
      exact Option.isNone_iff_eq_none.mp
        (Option.isSome_eq_false_iff.mp missing)
    refine ⟨effective.shown.after rfl (List.prefix_append _ _)
      ⟨roots, ?_⟩, fun settled => ⟨false, ?_, settled⟩⟩
    · rw [dictAfter_next]
      show Lists store.Holds kv roots
        ((dictAfter view.ghost).erase key) view.shared
      rw [Mapping.erase_of_absent absent]
      exact lists
    · show (view.shared.kvs kv).manifest.contains key = .ok false
      rw [lists.1, roots.contains_toJson, missing]

/-- A key that is still there is removed. -/
theorem steps_remove
    {key : String} (isOp : ops[task]? = some (.delete key)) :
    (kvCalls sources store kv ops).Steps task (Waits task)
      (.remove kv key)
      fun removed view => removed = .ok () → Settled task .nothing view := by
  refine .split (ListsKey kv key) ?_ ?_
  · refine steps_effect isOp (fun _ parts => parts.1)
      fun view effective parts _ => ?_
    obtain ⟨roots, lists⟩ := effective.shown.manifest
    have present := (listsKey_iff lists.1).mp parts.2
    refine ⟨effective.shown.after rfl (List.prefix_append _ _)
      ⟨roots.erase key, ?_, ?_⟩, fun settled _ => settled⟩
    · simp only [environment, lists.1, roots.delItem_toJson present,
        World.changeManifest, World.setManifest, World.setKv,
        Function.update_self]
    · rw [dictAfter_next]
      exact (lists.2.mono fun _ _ held => held.stays _).erase key
  · refine steps_silent fun view effective parts _ => ?_
    obtain ⟨roots, lists⟩ := effective.shown.manifest
    have missing : roots.contains key = false := by
      rw [Bool.eq_false_iff]
      exact fun present => parts.2 ((listsKey_iff lists.1).mpr present)
    have refused : environment live sources view.shared
        (.remove kv key) =
          (.error ⟨.keyError, "'" ++ key ++ "'"⟩, view.shared) := by
      simp only [environment, lists.1, roots.delItem_toJson_absent missing,
        World.changeManifest]
    refine ⟨effective.shown.aside rfl ?_, fun isOk => ?_⟩
    · rw [refused]
    · exfalso
      have failed := (congrArg Prod.fst refused).symm.trans isOk
      cases failed

theorem local_kvDelete
    {key : String} (isOp : ops[task]? = some (.delete key)) :
    (kvCalls sources store kv ops).Local task
      ((KvOp.delete key).program ⟨kv, ⟨.live⟩⟩) (Waits task)
      fun answer => Settled task answer := by
  have deleted : (kvCalls sources store kv ops).Local task
      ((⟨kv, ⟨.live⟩⟩ : SwarmKV).delete key) (Waits task)
      fun _ => Settled task .nothing := by
    refine .call_bind
      (fun answer view => ∃ present, answer = .ok present ∧
        (if present then Waits task view
          else Settled task .nothing view))
      (steps_contains isOp) ?_ fun answer => ?_
    · refine fun answer => Discipline.Kept.exists fun present =>
        (Discipline.kept_fact _).and ?_
      cases present with
      | false => exact kept_settled _
      | true => exact kept_waits
    refine .exists_pre fun present => .of_fact fun isAnswer => ?_
    subst isAnswer
    cases present with
    | false => exact fun _ _ _ settled => settled
    | true =>
        refine .call_bind
          (fun removed view => removed = .ok () →
            Settled task .nothing view)
          (steps_remove isOp) ?_ fun removed => ?_
        · exact fun removed other before request ghost different own sound
            settled isOk => kept_settled _ other before request ghost
              different own sound (settled isOk)
        · refine (Discipline.Local.ofExcept fun _ isOk view settled =>
            settled isOk).bind fun _ => ?_
          exact (local_publish .nothing).bind fun _ _ _ _ settled => settled
  exact deleted.bind fun _ _ _ _ settled => settled

/-! ## All calls -/

theorem local_kvOp {op : KvOp} (isOp : ops[task]? = some op) :
    (kvCalls sources store kv ops).Local task (op.program ⟨kv, ⟨.live⟩⟩)
      (Waits task) fun answer => Settled task answer := by
  cases op with
  | set key value => exact local_kvSet isOp
  | delete key => exact local_kvDelete isOp
  | get key => exact local_get isOp
  | getOrDefault key default => exact local_getOrDefault isOp
  | «exists» key => exact local_exists isOp
  | keys => exact local_keys isOp

/-- Once all calls of a run have returned, their answers are those of a plain
dict in an order in which each call takes effect at an event of its own.  A
root that was published at any time in the run brings back, from then on, the
dict after the first calls of that order, the one that published it among
them. -/
theorem kv_linearizable
    (sources : Sources) (store : ContentStore live) (kv : KvId)
    {ops : List KvOp} {first : World live} (fresh : first.kvs kv = .fresh)
    {last : EventLoop StorageVocabulary Exception KvAnswer (World live)}
    (run : EventLoop.Reaches (environment live sources) StorageCall.suspends
      (.start (ops.map (KvOp.program ⟨kv, ⟨.live⟩⟩)) first) last)
    {answers : List KvAnswer} (returned : last.Returned answers) :
    ∃ order : List Nat,
      Linearizes onPlainDict .empty ops answers last.trace order ∧
        ∀ task root, publishing kv task root ∈ last.trace →
          ∃ seen, seen <+: order ∧ task ∈ seen ∧
            ∀ (later : Sources) (process : World live) (other : KvId),
              (∀ name blob,
                store.contents last.shared.live name = some blob →
                  store.contents process.live name = some blob) →
                ∃ loaded : World live,
                  ((⟨other, ⟨.live⟩⟩ : SwarmKV).loadManifest
                      (some root)).run (environment live later) process =
                        (.ok (), loaded) ∧
                    AnswersAs later ⟨other, ⟨.live⟩⟩
                      (onDict (seen.filterMap (ops[·]?))).2 loaded := by
  have started : (kvCalls sources store kv ops).invariant
      ⟨first, [], []⟩ := by
    refine ⟨rfl, List.nodup_nil, ?_, List.Sublist.refl _, ⟨.empty, ?_, ?_⟩,
      ?_⟩
    · intro effect member
      cases member
    · show (first.kvs kv).manifest = _
      rw [fresh]
      rfl
    · exact Mapping.related_empty
    · intro task root member
      cases member
  have triples : ∀ (task : Nat) (program : Steps KvAnswer),
      (ops.map (KvOp.program ⟨kv, ⟨.live⟩⟩))[task]? = some program →
        (kvCalls sources store kv ops).Local task program (Waits task)
          fun answer => Settled task answer := by
    intro task program isProgram
    rw [List.getElem?_map, Option.map_eq_some_iff] at isProgram
    obtain ⟨op, isOp, rfl⟩ := isProgram
    exact local_kvOp isOp
  obtain ⟨effects, knows⟩ :=
    (Discipline.Knows.start started (fun _ => kept_waits)
      (fun _ => List.not_mem_nil) triples).run
        (run.mono fun _ _ _ _ _ _ _ => trivial) trivial
  have counted : answers.length = ops.length := by
    rw [← returned.length_eq, run.length_tasks]
    exact (List.length_map _).trans (List.length_map _)
  have effective := knows.invariant
  refine ⟨effects.map Effect.task, effective.linearizes counted ?_, ?_⟩
  · intro task answer isAnswer
    obtain ⟨_, ended⟩ := returned.ended isAnswer
    exact knows.post trivial ended
  · intro task root published
    obtain ⟨seen, early, own, manifest⟩ :=
      effective.shown.published task root published
    refine ⟨seen.map Effect.task, early.map _, own,
      fun later process other kept => ?_⟩
    have areCalls : ∀ effect ∈ seen, ops[effect.task]? = some effect.call :=
      fun effect member => effective.calls effect (early.subset member)
    have there : ManifestFor store.Holds root (dictAfter seen) process := by
      refine manifest.mono fun name data held => ?_
      obtain ⟨framed, isFramed, found⟩ := held
      exact ⟨framed, isFramed, kept _ _ found⟩
    rw [filterMap_tasks areCalls]
    exact (durable_live later store).load_answers trivial there other

/-! ## A set, a delete and a get -/

def settledOps : List KvOp :=
  [.set "a" [1], .delete "a", .get "a"]

def settledStart : EventLoop StorageVocabulary Exception KvAnswer
    (World plainBackend) :=
  .start (settledOps.map (KvOp.program ⟨0, ⟨.live⟩⟩))
    (.boot (Mapping.empty : Mapping String Bytes))

/-- The manifest with the key is published after the one without it, and the
value is downloaded when it has long been deleted. -/
def lateDownload : List Nat :=
  List.replicate 4 0 ++ [2] ++ List.replicate 6 1 ++ List.replicate 2 0 ++
    [2]

theorem kv_linearizable_late :
    ∃ last answers order,
      EventLoop.Reaches (environment plainBackend plainSources)
          StorageCall.suspends settledStart last ∧
        Linearizes onPlainDict .empty settledOps answers last.trace
          order := by
  obtain ⟨last, run, ended⟩ :
      ∃ last, EventLoop.Reaches (environment plainBackend plainSources)
          StorageCall.suspends settledStart last ∧
        ∀ task ∈ last.tasks, (EventLoop.result task).isSome := by
    refine EventLoop.exists_run_of_playing lateDownload ?_
    decide +kernel
  obtain ⟨answers, returned⟩ := EventLoop.exists_returned ended
  obtain ⟨order, linearizes, _⟩ :=
    @kv_linearizable plainBackend plainSources plainStore 0 settledOps
      (.boot (Mapping.empty : Mapping String Bytes)) rfl last run answers
      returned
  exact ⟨last, answers, order, run, linearizes⟩

end SwarmFi.Core.Storage

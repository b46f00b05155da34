import SwarmFi.Core.Storage.Interruptions
import SwarmFi.Core.Storage.RoundTrip

/-!
# Whether a failed write shows

A write that raises is atomic when every question to the `SwarmKV` is answered
as before.  Both contents of the `SwarmKV` are asked on the backend as the
call leaves it, whatever that backend is and however it fails.
-/

namespace SwarmFi.Core.Storage

open Foundation Python

/-! ## Manifests that were changed -/

section Manifests

variable {manifest changed : Json} {key : String}

theorem setItem_eq_ok {item : Json}
    (isChanged : manifest.setItem key item = .ok changed) :
    ∃ fields, manifest = .obj fields ∧
      changed = .obj (Dict.set fields key item) := by
  cases manifest with
  | obj fields =>
      cases isChanged
      exact ⟨fields, rfl, rfl⟩
  | _ => cases isChanged

theorem delItem_eq_ok (isChanged : manifest.delItem key = .ok changed) :
    ∃ fields, manifest = .obj fields ∧
      changed = .obj (discard fields key) := by
  cases manifest with
  | obj fields =>
      simp only [Json.delItem] at isChanged
      split at isChanged
      · cases isChanged
        exact ⟨fields, rfl, rfl⟩
      · cases isChanged
  | _ => cases isChanged

/-- Setting a key that is there keeps the order of the keys. -/
theorem keys_set {fields : Dict} (present : Dict.has fields key = true)
    (item : Json) :
    (Dict.set fields key item).map Prod.fst = fields.map Prod.fst := by
  induction fields with
  | nil => cases present
  | cons field rest inductionHypothesis =>
      obtain ⟨name, old⟩ := field
      rw [Dict.set]
      by_cases here : name = key
      · rw [if_pos here]
        rfl
      · rw [if_neg here]
        have other : (key == name) = false :=
          beq_eq_false_iff_ne.mpr (Ne.symm here)
        have later : Dict.has rest key = true := by
          rw [Dict.has, Dict.get?, List.lookup, other] at present
          exact present
        rw [List.map_cons, List.map_cons, inductionHypothesis later]

end Manifests

/-! ## Answers -/

section Answers

variable {live : LiveBackend} {sources : Sources}

/-- A download asks no `SwarmKV`. -/
theorem download_setKv (sources : Sources) (client : ZeroGClient)
    (root : String) (world : World live) (kv : KvId) (state : KvState) :
    ((client.download root).run (environment live sources)
        (world.setKv kv state)).1 =
      ((client.download root).run (environment live sources) world).1 := by
  have sidecar (asked : String) :
      ((ZeroGStorageClient.download asked).run (environment live sources)
          (world.setKv kv state)).1 =
        ((ZeroGStorageClient.download asked).run (environment live sources)
          world).1 := by
    simp only [ZeroGStorageClient.download, ask, Program.bind_eq_bind,
      Program.run_bind, Program.run_call, Program.run_done,
      Program.run_ofExcept, environment]
    rfl
  have raw :
      ((client.backend.download root).run (environment live sources)
          (world.setKv kv state)).1 =
        ((client.backend.download root).run (environment live sources)
          world).1 := by
    cases client.backend with
    | inMemory =>
        simp only [Backend.download, InMemoryStore.download, ask,
          Program.bind_eq_bind, Program.run_bind, Program.run_call,
          Program.run_done, environment, World.setKv]
        cases InMemoryStore.firstTruthy _ _ <;> rfl
    | buffered =>
        have sameBlobs : (world.setKv kv state).blobs = world.blobs := rfl
        simp only [Backend.download, BufferedStore.download, ask,
          Program.bind_eq_bind, Program.run_bind, Program.run_call,
          Program.run_done, environment, sameBlobs]
        cases world.blobs.get? (removePrefix root "0x") with
        | some data => rfl
        | none =>
            cases world.blobs.get? root with
            | some data => rfl
            | none => exact sidecar root
    | live => exact sidecar root
  simp only [ZeroGClient.download, Program.bind_eq_bind, Program.run_bind]
  rcases first : (client.backend.download root).run
    (environment live sources) (world.setKv kv state) with ⟨outcome, _⟩
  rcases second : (client.backend.download root).run
    (environment live sources) world with ⟨other, _⟩
  rw [first, second] at raw
  simp only at raw
  rw [raw]
  cases other <;> rfl

/-- What `get` answers, by what the manifest lists under the key. -/
theorem answer_get (self : SwarmKV) (key : String) (world : World live)
    (state : KvState) :
    ((self.get key).run (environment live sources)
        (world.setKv self.id state)).1 =
      match state.manifest.get key with
      | .error exc => .error exc
      | .ok .null => .ok none
      | .ok (.str root) =>
          ((self.client.download root).run (environment live sources)
            world).1.map some
      | .ok other => .error (self.client.notText other) := by
  have cell : (world.setKv self.id state).kvs self.id = state :=
    Function.update_self _ _ _
  simp only [SwarmKV.get, ask, Program.bind_eq_bind]
  rw [Program.run_bind, Program.run_call, Program.run_done]
  simp only [environment, cell]
  cases state.manifest.get key with
  | error exc => rfl
  | ok root =>
      cases root with
      | str root =>
          have same := download_setKv sources self.client root world self.id
            state
          simp only [Program.ofExcept_ok, Program.done_bind]
          rw [← same, Program.run_bind]
          rcases (self.client.download root).run _ _ with ⟨outcome, _⟩
          cases outcome <;> rfl
      | _ => rfl

theorem answer_exists (self : SwarmKV) (key : String) (world : World live)
    (state : KvState) :
    ((self.exists key).run (environment live sources)
        (world.setKv self.id state)).1 = state.manifest.contains key := by
  have cell : (world.setKv self.id state).kvs self.id = state :=
    Function.update_self _ _ _
  simp only [SwarmKV.exists, ask, Program.bind_eq_bind]
  rw [Program.run_bind, Program.run_call, Program.run_done]
  simp only [environment, cell, Program.run_ofExcept]

theorem answer_keys (self : SwarmKV) (world : World live)
    (state : KvState) :
    (self.keys.run (environment live sources)
        (world.setKv self.id state)).1 = state.manifest.keys := by
  have cell : (world.setKv self.id state).kvs self.id = state :=
    Function.update_self _ _ _
  simp only [SwarmKV.keys, ask, Program.bind_eq_bind]
  rw [Program.run_bind, Program.run_call, Program.run_done]
  simp only [environment, cell, Program.run_ofExcept]

/-- On the backend of this world the two contents give the same answers. -/
structure AnswersAlike (sources : Sources) (kv : SwarmKV)
    (world : World live) (first second : KvState) : Prop where
  get : ∀ key,
    ((kv.get key).run (environment live sources)
        (world.setKv kv.id first)).1 =
      ((kv.get key).run (environment live sources)
        (world.setKv kv.id second)).1
  «exists» : ∀ key,
    ((kv.exists key).run (environment live sources)
        (world.setKv kv.id first)).1 =
      ((kv.exists key).run (environment live sources)
        (world.setKv kv.id second)).1
  keys :
    (kv.keys.run (environment live sources)
        (world.setKv kv.id first)).1 =
      (kv.keys.run (environment live sources)
        (world.setKv kv.id second)).1

/-- Nobody can tell from the `SwarmKV` that anything was done to it. -/
structure Unnoticed (sources : Sources) (kv : SwarmKV)
    (before after : World live) : Prop where
  answers : AnswersAlike sources kv after (before.kvs kv.id)
    (after.kvs kv.id)
  manifestRoot : (after.kvs kv.id).manifestRoot =
    (before.kvs kv.id).manifestRoot

/-- If the write raises, nobody can tell that it was tried. -/
def AtomicOnError (sources : Sources) (self : SwarmKV)
    (world : World live) (write : KvWrite) : Prop :=
  ∀ exc after,
    (write.program self).run (environment live sources) world =
        (.error exc, after) →
      Unnoticed sources self world after

theorem unnoticed_of_same {self : SwarmKV} {before after : World live}
    (same : after.kvs self.id = before.kvs self.id) :
    Unnoticed sources self before after := by
  constructor
  · rw [same]
    exact ⟨fun _ => rfl, fun _ => rfl, rfl⟩
  · rw [same]

/-! ## Interrupted writes that go unnoticed -/

/-- The key was there already, and on this backend it reads as before. -/
def Rewrites (sources : Sources) (self : SwarmKV) (world last : World live)
    (manifest : Json) (key : String) : Prop :=
  (world.kvs self.id).manifest.contains key = .ok true ∧
    ((self.get key).run (environment live sources)
        (last.setKv self.id (world.kvs self.id))).1 =
      ((self.get key).run (environment live sources)
        (last.setKv self.id
          { world.kvs self.id with manifest := manifest })).1

variable {self : SwarmKV} {world last : World live} {manifest : Json}

/-- Setting a key shows at that key only, if it was there. -/
theorem answersAlike_set_iff {key root : String}
    (changed : (world.kvs self.id).manifest.setItem key (.str root) =
      .ok manifest) :
    AnswersAlike sources self last (world.kvs self.id)
        { world.kvs self.id with manifest := manifest } ↔
      Rewrites sources self world last manifest key := by
  obtain ⟨fields, isFields, isChanged⟩ := setItem_eq_ok changed
  constructor
  · intro alike
    constructor
    · have present := alike.exists key
      rw [answer_exists, answer_exists, isChanged] at present
      rw [present]
      simp [Json.contains, Dict.has, Dict.get?_set]
    · exact alike.get key
  · intro rewrites
    obtain ⟨contains, sameValue⟩ := rewrites
    have present : Dict.has fields key = true := by
      rw [isFields] at contains
      exact Except.ok.inj contains
    constructor
    · intro asked
      by_cases same : asked = key
      · rw [same]
        exact sameValue
      · rw [answer_get, answer_get, isFields, isChanged]
        simp only [Json.get, Dict.getD, Dict.get?_set, if_neg same]
    · intro asked
      rw [answer_exists, answer_exists, isFields, isChanged]
      by_cases same : asked = key
      · rw [same]
        simp only [Json.contains, present]
        simp [Dict.has, Dict.get?_set]
      · simp only [Json.contains, Dict.has, Dict.get?_set, if_neg same]
    · rw [answer_keys, answer_keys, isFields, isChanged]
      simp only [Json.keys, keys_set present]

/-- Deleting a key always shows. -/
theorem not_answersAlike_delete {key : String}
    (present : (world.kvs self.id).manifest.contains key = .ok true)
    (changed : (world.kvs self.id).manifest.delItem key = .ok manifest) :
    ¬ AnswersAlike sources self last (world.kvs self.id)
      { world.kvs self.id with manifest := manifest } := by
  obtain ⟨fields, isFields, isChanged⟩ := delItem_eq_ok changed
  intro alike
  have still := alike.exists key
  rw [answer_exists, answer_exists, present, isChanged] at still
  simp [Json.contains, Dict.has, Dict.get?, lookup_discard] at still

/-- A write is atomic exactly when it is never interrupted, unless it sets a
key that was there to what it was. -/
theorem atomicOnError_iff (sources : Sources) (self : SwarmKV)
    (world : World live) (write : KvWrite) :
    AtomicOnError sources self world write ↔
      ∀ manifest last,
        Interrupted sources self world write manifest last →
          ∃ key value, write = .set key value ∧
            Rewrites sources self world last manifest key := by
  constructor
  · intro atomic manifest last interrupted
    obtain ⟨exc, raised⟩ := interrupted.raises
    have answers := (atomic exc last raised).answers
    rw [interrupted.kvs] at answers
    cases interrupted with
    | set stored changed failed =>
        exact ⟨_, _, rfl, (answersAlike_set_iff changed).mp answers⟩
    | delete present changed failed =>
        exact absurd answers (not_answersAlike_delete present changed)
  · intro harmless exc after raised
    rcases interrupted_or_unchanged raised with same |
      ⟨manifest, interrupted⟩
    · exact unnoticed_of_same same
    · obtain ⟨key, value, isSet, rewrites⟩ :=
        harmless manifest after interrupted
      have kvs := interrupted.kvs
      subst isSet
      cases interrupted with
      | set stored changed failed =>
          constructor
          · rw [kvs]
            exact (answersAlike_set_iff changed).mpr rewrites
          · rw [kvs]

end Answers

/-! ## The second upload fails -/

/-- A sidecar whose first upload succeeds and whose others fail. -/
def onceBackend : LiveBackend where
  State := Nat
  upload := fun uploads _ =>
    (if uploads = 0 then
        .ok { rootHash := some "0x01", txHash := none }
      else
        .error ⟨.runtimeError, "zg-sidecar failed (code 1)"⟩,
      uploads + 1)
  download := fun uploads _ =>
    (.error ⟨.runtimeError, "zg-sidecar failed (code 1)"⟩, uploads)

/-- A failed `set` leaves its key behind. -/
theorem failed_set_shows :
    ¬ ∀ (live : LiveBackend) (sources : Sources) (kv : SwarmKV)
        (state : live.State) (write : KvWrite),
      AtomicOnError sources kv (.boot state) write := by
  intro always
  let kv : SwarmKV := ⟨0, ⟨.live⟩⟩
  let ran := ((KvWrite.set "a" [1]).program kv).run
    (environment onceBackend plainSources) (.boot (0 : Nat))
  have raised : ran.1 =
      .error ⟨.runtimeError, "zg-sidecar failed (code 1)"⟩ := by
    decide +kernel
  have unnoticed := always onceBackend plainSources kv (0 : Nat)
    (.set "a" [1]) _ ran.2 (Prod.ext raised rfl)
  have asked := unnoticed.answers.exists "a"
  have there : (ran.2.kvs 0).manifest.contains "a" = .ok true := by
    decide +kernel
  rw [answer_exists, answer_exists, there] at asked
  cases asked

end SwarmFi.Core.Storage

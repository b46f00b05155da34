import SwarmFi.Core.Storage.DurableMap

/-!
# Writes that are interrupted

A write to a `SwarmKV` uploads twice, the value and then the manifest, and
changes the item in between.  What a write that raises leaves behind, over any
backend, and when nobody can tell it from no write at all.
-/

namespace SwarmFi.Core.Storage

open Foundation Python

section Runs

variable {live : LiveBackend} {sources : Sources}

theorem kvs_setManifest (world : World live) (kv : KvId)
    (manifest : Json) :
    (world.setManifest kv manifest).kvs kv =
      { world.kvs kv with manifest := manifest } :=
  Function.update_self _ _ _

theorem kvs_setManifestRoot (world : World live) (kv : KvId)
    (root : String) :
    (world.setManifestRoot kv root).kvs kv =
      { world.kvs kv with manifestRoot := some root } :=
  Function.update_self _ _ _

/-! ## What the steps of a write leave behind -/

/-- A run that writes to no `SwarmKV` leaves each of them alone. -/
theorem kvs_of_uses (sources : Sources) {α : Type} {program : Steps α}
    {stores : Prop}
    (uses : program.Uses (StorageCall.Within (fun _ => False) stores))
    (world : World live) (kv : KvId) :
    (program.run (environment live sources) world).2.kvs kv =
      world.kvs kv := by
  have frame : ∀ (state : World live) (request : StorageCall),
      request.Within (fun _ => False) stores →
        (environment live sources state request).2.kvs kv =
          state.kvs kv := by
    intro state request within
    exact kvs_of_within within id state
  exact uses.run_preserves (fun state : World live => state.kvs kv)
    frame world

theorem kvs_upload (sources : Sources) (client : ZeroGClient)
    (data : Bytes) (world : World live) (kv : KvId) :
    ((client.upload data).run (environment live sources) world).2.kvs kv =
      world.kvs kv :=
  kvs_of_uses sources (uses_upload trivial client data) world kv

variable (self : SwarmKV)

theorem run_persistManifest (world : World live) :
    self.persistManifest.run (environment live sources) world =
      match (self.client.upload
          (manifestPayload (sources.clock world.ticks)
            (world.kvs self.id).manifest)).run (environment live sources)
          { world with ticks := world.ticks + 1 } with
      | (.error exc, reached) => (.error exc, reached)
      | (.ok result, reached) =>
          (.ok result.rootHash,
            reached.setManifestRoot self.id result.rootHash) := by
  simp only [SwarmKV.persistManifest, ask, Program.bind_eq_bind]
  rw [Program.run_bind, Program.run_call, Program.run_done]
  simp only [environment]
  rw [Program.run_bind, Program.run_call, Program.run_done]
  simp only [environment]
  rw [Program.run_bind]
  rcases (self.client.upload _).run _ _ with ⟨outcome, reached⟩
  cases outcome <;> rfl

/-- A manifest that cannot be uploaded leaves every `SwarmKV` alone. -/
theorem kvs_persistManifest_error {world last : World live}
    {exc : Exception}
    (failed : self.persistManifest.run (environment live sources) world =
      (.error exc, last)) (kv : KvId) : last.kvs kv = world.kvs kv := by
  rw [run_persistManifest] at failed
  have kept := kvs_upload sources self.client
    (manifestPayload (sources.clock world.ticks)
      (world.kvs self.id).manifest) { world with ticks := world.ticks + 1 }
    kv
  split at failed
  · next error reached ran =>
      cases failed
      rw [ran] at kept
      exact kept
  · cases failed

theorem run_set (key : String) (value : Bytes) (world : World live) :
    (self.set key value).run (environment live sources) world =
      match (self.client.upload value).run (environment live sources)
        world with
      | (.error exc, reached) => (.error exc, reached)
      | (.ok result, reached) =>
          match (reached.kvs self.id).manifest.setItem key
            (.str result.rootHash) with
          | .error exc => (.error exc, reached)
          | .ok manifest =>
              match self.persistManifest.run (environment live sources)
                (reached.setManifest self.id manifest) with
              | (.error exc, last) => (.error exc, last)
              | (.ok _, last) => (.ok result, last) := by
  simp only [SwarmKV.set, ask, Program.bind_eq_bind]
  rw [Program.run_bind]
  rcases (self.client.upload value).run _ world with ⟨outcome, reached⟩
  cases outcome with
  | error exc => rfl
  | ok result =>
      simp only
      rw [Program.run_bind, Program.run_call, Program.run_done]
      simp only [environment]
      cases (reached.kvs self.id).manifest.setItem key
        (.str result.rootHash) with
      | error exc => rfl
      | ok manifest =>
          simp only [World.changeManifest, Program.ofExcept_ok,
            Program.done_bind]
          rw [Program.run_bind]
          rcases self.persistManifest.run _ _ with ⟨outcome, last⟩
          cases outcome <;> rfl

theorem run_delete (key : String) (world : World live) :
    (self.delete key).run (environment live sources) world =
      match (world.kvs self.id).manifest.contains key with
      | .error exc => (.error exc, world)
      | .ok false => (.ok (), world)
      | .ok true =>
          match (world.kvs self.id).manifest.delItem key with
          | .error exc => (.error exc, world)
          | .ok manifest =>
              match self.persistManifest.run (environment live sources)
                (world.setManifest self.id manifest) with
              | (.error exc, last) => (.error exc, last)
              | (.ok _, last) => (.ok (), last) := by
  simp only [SwarmKV.delete, ask, Program.bind_eq_bind]
  rw [Program.run_bind, Program.run_call, Program.run_done]
  simp only [environment]
  cases (world.kvs self.id).manifest.contains key with
  | error exc => rfl
  | ok present =>
      cases present with
      | false => rfl
      | true =>
          simp only [Program.ofExcept_ok, Program.done_bind, if_true]
          rw [Program.run_bind, Program.run_call, Program.run_done]
          simp only [environment]
          cases (world.kvs self.id).manifest.delItem key with
          | error exc => rfl
          | ok manifest =>
              simp only [World.changeManifest, Program.ofExcept_ok,
                Program.done_bind]
              rw [Program.run_bind]
              rcases self.persistManifest.run _ _ with ⟨outcome, last⟩
              cases outcome <;> rfl

/-! ## Interrupted writes -/

/-- The item is changed, which leaves this manifest, and the upload of the
manifest raises. -/
inductive Interrupted (sources : Sources) (self : SwarmKV)
    (world : World live) : KvWrite → Json → World live → Prop where
  | set {key : String} {value : Bytes} {result : UploadResult}
      {uploaded last : World live} {manifest : Json} {exc : Exception}
      (stored : (self.client.upload value).run (environment live sources)
        world = (.ok result, uploaded))
      (changed : (world.kvs self.id).manifest.setItem key
        (.str result.rootHash) = .ok manifest)
      (failed : self.persistManifest.run (environment live sources)
        (uploaded.setManifest self.id manifest) = (.error exc, last)) :
      Interrupted sources self world (.set key value) manifest last
  | delete {key : String} {last : World live} {manifest : Json}
      {exc : Exception}
      (present : (world.kvs self.id).manifest.contains key = .ok true)
      (changed : (world.kvs self.id).manifest.delItem key = .ok manifest)
      (failed : self.persistManifest.run (environment live sources)
        (world.setManifest self.id manifest) = (.error exc, last)) :
      Interrupted sources self world (.delete key) manifest last

variable {self}

/-- An interrupted write leaves the changed manifest under the old root. -/
theorem Interrupted.kvs {world last : World live} {write : KvWrite}
    {manifest : Json}
    (interrupted : Interrupted sources self world write manifest last) :
    last.kvs self.id = { world.kvs self.id with manifest := manifest } := by
  cases interrupted with
  | set stored changed failed =>
      rename_i key value result uploaded exc
      have kept := kvs_upload sources self.client value world
        self.id
      rw [stored] at kept
      rw [kvs_persistManifest_error self failed, kvs_setManifest, kept]
  | delete present changed failed =>
      rw [kvs_persistManifest_error self failed, kvs_setManifest]

theorem run_setEdit (key : String) (value : Bytes) (world : World live) :
    ((KvWrite.set key value).program self).run (environment live sources)
        world =
      match (self.set key value).run (environment live sources) world with
      | (.error exc, reached) => (.error exc, reached)
      | (.ok _, reached) => (.ok (), reached) := by
  rw [KvWrite.program, Program.bind_eq_bind, Program.run_bind]
  rcases (self.set key value).run _ world with ⟨outcome, reached⟩
  cases outcome <;> rfl

theorem set_of_setEdit {key : String} {value : Bytes}
    {world last : World live} {exc : Exception}
    (raised : ((KvWrite.set key value).program self).run
      (environment live sources) world = (.error exc, last)) :
    (self.set key value).run (environment live sources) world =
      (.error exc, last) := by
  rw [run_setEdit] at raised
  cases ran : (self.set key value).run (environment live sources) world with
  | mk outcome reached =>
      rw [ran] at raised
      cases outcome with
      | error error =>
          cases raised
          rfl
      | ok result => cases raised

/-- A write that raises has left the `SwarmKV` alone, or was interrupted. -/
theorem interrupted_or_unchanged {world after : World live}
    {write : KvWrite} {exc : Exception}
    (raised : (write.program self).run (environment live sources) world =
      (.error exc, after)) :
    after.kvs self.id = world.kvs self.id ∨
      ∃ manifest, Interrupted sources self world write manifest after := by
  cases write with
  | set key value =>
      have kept := kvs_upload sources self.client value world
        self.id
      rw [run_setEdit, run_set] at raised
      cases stored : (self.client.upload value).run
          (environment live sources) world with
      | mk outcome reached =>
          rw [stored] at raised kept
          cases outcome with
          | error error =>
              cases raised
              exact Or.inl kept
          | ok result =>
              simp only at raised kept
              rw [kept] at raised
              cases changed : (world.kvs self.id).manifest.setItem key
                  (.str result.rootHash) with
              | error error =>
                  rw [changed] at raised
                  cases raised
                  exact Or.inl kept
              | ok manifest =>
                  rw [changed] at raised
                  cases failed : self.persistManifest.run
                      (environment live sources)
                      (reached.setManifest self.id manifest) with
                  | mk outcome last =>
                      simp only [failed] at raised
                      cases outcome with
                      | ok root => cases raised
                      | error error =>
                          cases raised
                          exact Or.inr ⟨manifest,
                            .set stored changed failed⟩
  | delete key =>
      rw [KvWrite.program, run_delete] at raised
      cases present : (world.kvs self.id).manifest.contains key with
      | error error =>
          rw [present] at raised
          cases raised
          exact Or.inl rfl
      | ok found =>
          rw [present] at raised
          cases found with
          | false => cases raised
          | true =>
              cases changed : (world.kvs self.id).manifest.delItem key with
              | error error =>
                  rw [changed] at raised
                  cases raised
                  exact Or.inl rfl
              | ok manifest =>
                  rw [changed] at raised
                  cases failed : self.persistManifest.run
                      (environment live sources)
                      (world.setManifest self.id manifest) with
                  | mk outcome last =>
                      simp only [failed] at raised
                      cases outcome with
                      | ok root => cases raised
                      | error error =>
                          cases raised
                          exact Or.inr ⟨manifest,
                            .delete present changed failed⟩

/-- An interrupted write raises. -/
theorem Interrupted.raises {world last : World live} {write : KvWrite}
    {manifest : Json}
    (interrupted : Interrupted sources self world write manifest last) :
    ∃ exc, (write.program self).run (environment live sources) world =
      (.error exc, last) := by
  cases interrupted with
  | set stored changed failed =>
      rename_i key value result uploaded exc
      have kept := kvs_upload sources self.client value world
        self.id
      rw [stored] at kept
      simp only at kept
      refine ⟨exc, ?_⟩
      rw [run_setEdit, run_set, stored]
      simp only [kept, changed, failed]
  | delete present changed failed =>
      rename_i key exc
      refine ⟨exc, ?_⟩
      rw [KvWrite.program, run_delete, present]
      simp only [changed, failed]

end Runs

end SwarmFi.Core.Storage

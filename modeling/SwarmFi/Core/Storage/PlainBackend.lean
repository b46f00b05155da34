import SwarmFi.Core.Storage.Durable

/-!
# A sidecar with a memory

A live backend that keeps blobs in a dict and numbers their roots.  It stands
in for the real one where a run is given in full.
-/

namespace SwarmFi.Core.Storage

open Python

/-- 64 hexadecimal digits. -/
def numberedRoot (number : Nat) : String :=
  let digits := Nat.toDigits 16 number
  String.ofList (List.replicate (64 - digits.length) '0' ++ digits)

/-- The same blob has the same root. -/
def plainUpload (state : Mapping String Bytes) (data : Bytes) :
    Except Exception SidecarUpload × Mapping String Bytes :=
  match state.items.find? fun item => item.2 = data with
  | some item =>
      (.ok { rootHash := some ("0x" ++ item.1), txHash := none }, state)
  | none =>
      let root := numberedRoot state.size
      if state.contains root then
        (.error ⟨.runtimeError, "zg-sidecar failed (code 1)"⟩, state)
      else
        (.ok { rootHash := some ("0x" ++ root), txHash := none },
          state.set root data)

def plainBackend : LiveBackend where
  State := Mapping String Bytes
  upload := plainUpload
  download := fun state root =>
    match state.get? (removePrefix root "0x") with
    | some data => (.ok data, state)
    | none => (.error ⟨.runtimeError, "zg-sidecar failed (code 1)"⟩, state)

theorem plainUpload_cases (state : Mapping String Bytes) (data : Bytes) :
    (∃ root, plainUpload state data =
        (.ok { rootHash := some ("0x" ++ root), txHash := none }, state) ∧
      state.get? root = some data) ∨
    (∃ root, plainUpload state data =
        (.ok { rootHash := some ("0x" ++ root), txHash := none },
          state.set root data) ∧ state.get? root = none) ∨
    ∃ exc, plainUpload state data = (.error exc, state) := by
  rw [plainUpload]
  cases found : state.items.find? fun item => item.2 = data with
  | some item =>
      left
      have member := List.mem_of_find?_eq_some found
      have same : item.2 = data := by simpa using List.find?_some found
      exact ⟨item.1, rfl, (state.mem_items_iff _ _).mp (same ▸ member)⟩
  | none =>
      right
      simp only
      split
      · exact Or.inr ⟨_, rfl⟩
      · next absent =>
          refine Or.inl ⟨_, rfl, ?_⟩
          rw [Mapping.contains] at absent
          simpa using absent

theorem plainUpload_keeps
    {state : Mapping String Bytes} {root : String} {blob : Bytes}
    (found : state.get? root = some blob) (data : Bytes) :
    (plainUpload state data).2.get? root = some blob := by
  rcases plainUpload_cases state data with
    ⟨_, uploaded, _⟩ | ⟨name, uploaded, absent⟩ | ⟨_, uploaded⟩
  · rw [uploaded]
    exact found
  · have different : root ≠ name := by
      rintro rfl
      rw [absent] at found
      cases found
    rw [uploaded, Mapping.get?_set_of_ne _ different, found]
  · rw [uploaded]
    exact found

theorem plainUpload_stores
    {state : Mapping String Bytes} {data : Bytes} {result : SidecarUpload}
    {root : String} (answer : (plainUpload state data).1 = .ok result)
    (isRoot : result.rootHash = some root) :
    (plainUpload state data).2.get?
      (removePrefix (ZeroGStorageClient.withMark root) "0x") =
        some data := by
  rcases plainUpload_cases state data with
    ⟨name, uploaded, present⟩ | ⟨name, uploaded, _⟩ | ⟨_, uploaded⟩
  · rw [uploaded] at answer ⊢
    cases answer
    cases isRoot
    rw [withMark_marked, removePrefix_marked]
    exact present
  · rw [uploaded] at answer ⊢
    cases answer
    cases isRoot
    rw [withMark_marked, removePrefix_marked]
    exact Mapping.get?_set_self _ _ _
  · rw [uploaded] at answer
    cases answer

/-- It returns exactly what was uploaded. -/
def plainStore : ContentStore plainBackend where
  contents := fun state root =>
    Mapping.get? state (removePrefix root "0x")
  kept := fun _ data _ _ found => plainUpload_keeps found data
  stored := fun _ _ _ _ answered isRoot =>
    plainUpload_stores answered isRoot
  fetched := by
    intro state root blob found
    simp only [plainBackend, found]
  missing := by
    intro state root absent
    simp only [plainBackend, absent]
    exact ⟨_, rfl⟩
  reading := by
    intro state root
    simp only [plainBackend]
    split <;> rfl

/-- No empty text is kept. -/
theorem plainStore_not_holds_nil
    {world : World plainBackend}
    (notEmpty : ∀ item ∈ Mapping.items world.live, unframe item.2 ≠ [])
    (root : String) : ¬ plainStore.Holds world root [] := by
  rintro ⟨framed, ok, found⟩
  exact notEmpty _ ((Mapping.mem_items_iff world.live _ _).mpr found)
    (unframe_frame ok)

/-! ## A sidecar whose uploads run out -/

/-- The same, with a number of uploads that are left. -/
def limitedBackend : LiveBackend where
  State := Nat × Mapping String Bytes
  upload := fun state data =>
    match state with
    | (0, kept) =>
        (.error ⟨.runtimeError, "zg-sidecar failed (code 1)"⟩, (0, kept))
    | (left + 1, kept) =>
        ((plainUpload kept data).1, (left, (plainUpload kept data).2))
  download := fun state root =>
    match Mapping.get? state.2 (removePrefix root "0x") with
    | some data => (.ok data, state)
    | none => (.error ⟨.runtimeError, "zg-sidecar failed (code 1)"⟩, state)

def limitedStore : FlakyStore limitedBackend where
  contents := fun state root =>
    Mapping.get? (Prod.snd state) (removePrefix root "0x")
  kept := by
    intro state data root blob found
    obtain ⟨left, kept⟩ := state
    cases left with
    | zero => exact found
    | succ left => exact plainUpload_keeps found data
  stored := by
    intro state data result root answered isRoot
    obtain ⟨left, kept⟩ := state
    cases left with
    | zero => cases answered
    | succ left => exact plainUpload_stores answered isRoot
  reading := by
    intro state root
    simp only [limitedBackend]
    split <;> rfl
  fetched := by
    intro state root blob raw found answered
    simp only [limitedBackend, found] at answered
    cases answered
    rfl

theorem limitedStore_not_holds_nil
    {world : World limitedBackend}
    (notEmpty : ∀ item ∈ Mapping.items (Prod.snd world.live),
      unframe item.2 ≠ [])
    (root : String) : ¬ limitedStore.Holds world root [] := by
  intro held
  obtain ⟨framed, ok, found⟩ := held
  exact notEmpty _ ((Mapping.mem_items_iff (Prod.snd world.live) _ _).mpr
    found) (unframe_frame ok)

end SwarmFi.Core.Storage

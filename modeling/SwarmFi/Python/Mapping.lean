import Mathlib

/-!
# Dicts

A Python dict keeps its items in insertion order: a key that is set again
keeps its place, and a deleted key loses it.  No key stands twice, and the
structure carries the proof.
-/

namespace Python

universe u v w

variable {κ : Type u} {β : Type v} {γ : Type w} [DecidableEq κ]

/-! ## Items -/

/-- `items[key] = value` -/
def assign : List (κ × β) → κ → β → List (κ × β)
  | [], key, value => [(key, value)]
  | (name, old) :: rest, key, value =>
      if name = key then
        (name, value) :: rest
      else
        (name, old) :: assign rest key value

/-- `del items[key]` -/
def discard (items : List (κ × β)) (key : κ) : List (κ × β) :=
  items.filter fun item => item.1 ≠ key

theorem mem_keys_assign
    (items : List (κ × β)) (key tested : κ) (value : β) :
    tested ∈ (assign items key value).map Prod.fst ↔
      tested = key ∨ tested ∈ items.map Prod.fst := by
  induction items with
  | nil => simp [assign]
  | cons item rest inductionHypothesis =>
      obtain ⟨name, old⟩ := item
      rw [assign]
      split
      · next same =>
          subst same
          simp
      · simp only [List.map_cons, List.mem_cons, inductionHypothesis]
        tauto

theorem nodup_assign
    {items : List (κ × β)} (distinct : (items.map Prod.fst).Nodup)
    (key : κ) (value : β) :
    ((assign items key value).map Prod.fst).Nodup := by
  induction items with
  | nil => simp [assign]
  | cons item rest inductionHypothesis =>
      obtain ⟨name, old⟩ := item
      obtain ⟨fresh, restDistinct⟩ := List.nodup_cons.mp distinct
      rw [assign]
      split
      · exact distinct
      · next different =>
          refine List.nodup_cons.mpr ⟨?_, inductionHypothesis restDistinct⟩
          rw [mem_keys_assign]
          rintro (same | later)
          · exact different same
          · exact fresh later

theorem nodup_discard
    {items : List (κ × β)} (distinct : (items.map Prod.fst).Nodup)
    (key : κ) : ((discard items key).map Prod.fst).Nodup :=
  distinct.sublist (List.filter_sublist.map Prod.fst)

theorem lookup_assign
    (items : List (κ × β)) (key tested : κ) (value : β) :
    (assign items key value).lookup tested =
      if tested = key then some value else items.lookup tested := by
  induction items with
  | nil =>
      by_cases same : tested = key
      · simp [assign, same]
      · simp [assign, List.lookup, same, beq_eq_false_iff_ne.mpr same]
  | cons item rest inductionHypothesis =>
      obtain ⟨name, old⟩ := item
      rw [assign]
      split
      · next here =>
          subst here
          by_cases same : tested = name
          · simp [same]
          · simp [List.lookup, same, beq_eq_false_iff_ne.mpr same]
      · next here =>
          by_cases same : tested = name
          · subst same
            simp [here]
          · simp [List.lookup, beq_eq_false_iff_ne.mpr same,
              inductionHypothesis]

theorem lookup_discard
    (items : List (κ × β)) (key tested : κ) :
    (discard items key).lookup tested =
      if tested = key then none else items.lookup tested := by
  induction items with
  | nil => simp [discard]
  | cons item rest inductionHypothesis =>
      obtain ⟨name, old⟩ := item
      simp only [discard] at inductionHypothesis ⊢
      by_cases removed : name = key
      · subst removed
        rw [List.filter_cons_of_neg (by simp), inductionHypothesis]
        by_cases same : tested = name
        · simp [same]
        · simp [List.lookup, same, beq_eq_false_iff_ne.mpr same]
      · rw [List.filter_cons_of_pos (by simpa using removed)]
        by_cases same : tested = name
        · subst same
          simp [removed]
        · simp only [List.lookup, beq_eq_false_iff_ne.mpr same]
          exact inductionHypothesis

theorem map_assign
    (change : β → γ) (items : List (κ × β)) (key : κ) (value : β) :
    (assign items key value).map (Prod.map id change) =
      assign (items.map (Prod.map id change)) key (change value) := by
  induction items with
  | nil => rfl
  | cons item rest inductionHypothesis =>
      obtain ⟨name, old⟩ := item
      simp only [assign, List.map_cons, Prod.map_apply, id]
      split
      · rfl
      · rw [List.map_cons, inductionHypothesis]
        rfl

theorem map_discard
    (change : β → γ) (items : List (κ × β)) (key : κ) :
    (discard items key).map (Prod.map id change) =
      discard (items.map (Prod.map id change)) key := by
  simp only [discard, List.filter_map]
  rfl

theorem lookup_map
    (change : β → γ) (items : List (κ × β)) (key : κ) :
    (items.map (Prod.map id change)).lookup key =
      (items.lookup key).map change := by
  induction items with
  | nil => rfl
  | cons item rest inductionHypothesis =>
      obtain ⟨name, old⟩ := item
      by_cases same : key = name
      · simp [same]
      · simp [List.lookup, beq_eq_false_iff_ne.mpr same,
          inductionHypothesis]

/-- Setting the items of a dict one by one into an empty one gives them
back. -/
theorem foldl_assign
    {items before : List (κ × β)}
    (distinct : ((before ++ items).map Prod.fst).Nodup) :
    items.foldl (fun built item => assign built item.1 item.2) before =
      before ++ items := by
  have assign_fresh :
      ∀ (built : List (κ × β)) (key : κ) (value : β),
        key ∉ built.map Prod.fst →
          assign built key value = built ++ [(key, value)] := by
    intro built key value fresh
    induction built with
    | nil => rfl
    | cons item rest inductionHypothesis =>
        obtain ⟨name, old⟩ := item
        simp only [List.map_cons, List.mem_cons, not_or] at fresh
        rw [assign, if_neg (Ne.symm fresh.1),
          inductionHypothesis fresh.2]
        rfl
  induction items generalizing before with
  | nil => simp
  | cons item rest inductionHypothesis =>
      have fresh : item.1 ∉ before.map Prod.fst := by
        rw [List.map_append, List.map_cons] at distinct
        exact fun present =>
          (List.nodup_append.mp distinct).2.2 item.1 present item.1
            List.mem_cons_self rfl
      rw [List.foldl_cons, assign_fresh before item.1 item.2 fresh,
        inductionHypothesis (by simpa using distinct)]
      simp

/-! ## Dicts -/

structure Mapping (κ : Type u) (β : Type v) where
  items : List (κ × β)
  distinct : (items.map Prod.fst).Nodup

namespace Mapping

def empty : Mapping κ β := ⟨[], List.nodup_nil⟩

/-- `mapping.get(key)` -/
def get? (mapping : Mapping κ β) (key : κ) : Option β :=
  mapping.items.lookup key

/-- `mapping[key] = value` -/
def set (mapping : Mapping κ β) (key : κ) (value : β) : Mapping κ β :=
  ⟨assign mapping.items key value,
    nodup_assign mapping.distinct key value⟩

/-- `del mapping[key]`, where the key is there. -/
def erase (mapping : Mapping κ β) (key : κ) : Mapping κ β :=
  ⟨discard mapping.items key, nodup_discard mapping.distinct key⟩

/-- `list(mapping.keys())` -/
def keys (mapping : Mapping κ β) : List κ :=
  mapping.items.map Prod.fst

/-- `key in mapping` -/
def contains (mapping : Mapping κ β) (key : κ) : Bool :=
  (mapping.get? key).isSome

/-- `len(mapping)` -/
def size (mapping : Mapping κ β) : Nat :=
  mapping.items.length

def mapValues (change : β → γ) (mapping : Mapping κ β) : Mapping κ γ where
  items := mapping.items.map (Prod.map id change)
  distinct := by
    simpa [Function.comp_def] using mapping.distinct

omit [DecidableEq κ] in
@[ext]
theorem ext_items {first second : Mapping κ β}
    (same : first.items = second.items) : first = second := by
  cases first
  cases second
  cases same
  rfl

@[simp]
theorem get?_empty (key : κ) : (empty : Mapping κ β).get? key = none := rfl

theorem get?_set
    (mapping : Mapping κ β) (key tested : κ) (value : β) :
    (mapping.set key value).get? tested =
      if tested = key then some value else mapping.get? tested :=
  lookup_assign mapping.items key tested value

@[simp]
theorem get?_set_self (mapping : Mapping κ β) (key : κ) (value : β) :
    (mapping.set key value).get? key = some value := by
  rw [get?_set, if_pos rfl]

theorem get?_set_of_ne
    (mapping : Mapping κ β) {key tested : κ} (different : tested ≠ key)
    (value : β) :
    (mapping.set key value).get? tested = mapping.get? tested := by
  rw [get?_set, if_neg different]

theorem get?_erase (mapping : Mapping κ β) (key tested : κ) :
    (mapping.erase key).get? tested =
      if tested = key then none else mapping.get? tested :=
  lookup_discard mapping.items key tested

/-- Deleting a key that is not there changes nothing. -/
theorem erase_of_absent
    {mapping : Mapping κ β} {key : κ} (absent : mapping.get? key = none) :
    mapping.erase key = mapping := by
  refine ext_items (List.filter_eq_self.mpr ?_)
  rintro ⟨name, value⟩ present
  rw [decide_eq_true_eq]
  rintro rfl
  have listed := List.lookup_eq_none_iff.mp absent (name, value) present
  simp at listed

theorem mem_items_iff (mapping : Mapping κ β) (key : κ) (value : β) :
    (key, value) ∈ mapping.items ↔ mapping.get? key = some value := by
  obtain ⟨items, distinct⟩ := mapping
  induction items with
  | nil => simp [get?]
  | cons item rest inductionHypothesis =>
      obtain ⟨name, old⟩ := item
      obtain ⟨fresh, restDistinct⟩ := List.nodup_cons.mp distinct
      have later := inductionHypothesis restDistinct
      simp only [get?] at later ⊢
      by_cases same : key = name
      · subst same
        have absent : ∀ other, (key, other) ∉ rest := fun other present =>
          fresh (List.mem_map.mpr ⟨(key, other), present, rfl⟩)
        simp [absent, eq_comm]
      · simp [List.lookup, beq_eq_false_iff_ne.mpr same, same, later]

theorem mem_keys_iff (mapping : Mapping κ β) (key : κ) :
    key ∈ mapping.keys ↔ ∃ value, mapping.get? key = some value := by
  simp only [← mem_items_iff, keys, List.mem_map]
  constructor
  · rintro ⟨⟨name, value⟩, present, rfl⟩
    exact ⟨value, present⟩
  · rintro ⟨value, present⟩
    exact ⟨(key, value), present, rfl⟩

theorem contains_eq_true_iff (mapping : Mapping κ β) (key : κ) :
    mapping.contains key = true ↔ ∃ value, mapping.get? key = some value :=
  Option.isSome_iff_exists

/-- A reordered dict answers as before. -/
theorem get?_eq_of_perm
    {first second : Mapping κ β}
    (reordered : first.items.Perm second.items) (key : κ) :
    first.get? key = second.get? key := by
  apply Option.ext
  intro value
  show first.get? key = some value ↔ second.get? key = some value
  rw [← mem_items_iff, ← mem_items_iff, reordered.mem_iff]

/-! ## Dicts with related values -/

/-- The same keys in the same order, with related values. -/
def Related
    (related : β → γ → Prop) (first : Mapping κ β) (second : Mapping κ γ) :
    Prop :=
  List.Forall₂ (fun left right =>
    left.1 = right.1 ∧ related left.2 right.2) first.items second.items

section Related

variable
  {related other : β → γ → Prop}
  {first : Mapping κ β} {second : Mapping κ γ}

omit [DecidableEq κ] in
theorem related_empty :
    Related related (empty : Mapping κ β) (empty : Mapping κ γ) :=
  List.Forall₂.nil

omit [DecidableEq κ] in
theorem Related.mono
    (agree : Related related first second)
    (weaker : ∀ left right, related left right → other left right) :
    Related other first second :=
  List.Forall₂.imp (fun _ _ same => ⟨same.1, weaker _ _ same.2⟩) agree

omit [DecidableEq κ] in
theorem Related.keys_eq (agree : Related related first second) :
    first.keys = second.keys := by
  obtain ⟨items, _⟩ := first
  obtain ⟨others, _⟩ := second
  simp only [Related, keys] at agree ⊢
  induction agree with
  | nil => rfl
  | cons same _ inductionHypothesis =>
      simp only [List.map_cons]
      rw [same.1, inductionHypothesis (List.nodup_cons.mp ‹_›).2
        (List.nodup_cons.mp ‹_›).2]

theorem Related.set
    (agree : Related related first second) (key : κ)
    {left : β} {right : γ} (same : related left right) :
    Related related (first.set key left) (second.set key right) := by
  obtain ⟨items, _⟩ := first
  obtain ⟨others, _⟩ := second
  simp only [Related, Mapping.set] at agree ⊢
  induction agree with
  | nil => exact .cons ⟨rfl, same⟩ .nil
  | @cons item _ rest _ here later inductionHypothesis =>
      obtain ⟨name, old⟩ := item
      obtain ⟨sameName, _⟩ := here
      simp only [assign, ← sameName]
      split
      · exact .cons ⟨rfl, same⟩ later
      · exact .cons ⟨rfl, ‹_›⟩
          (inductionHypothesis (List.nodup_cons.mp ‹_›).2
            (List.nodup_cons.mp ‹_›).2)

theorem Related.erase
    (agree : Related related first second) (key : κ) :
    Related related (first.erase key) (second.erase key) := by
  obtain ⟨items, _⟩ := first
  obtain ⟨others, _⟩ := second
  simp only [Related, Mapping.erase] at agree ⊢
  induction agree with
  | nil => exact .nil
  | @cons item otherItem rest _ here later inductionHypothesis =>
      have shorter := inductionHypothesis (List.nodup_cons.mp ‹_›).2
        (List.nodup_cons.mp ‹_›).2
      by_cases removed : item.1 = key
      · simpa [discard, ← here.1, removed] using shorter
      · have kept : ¬ otherItem.1 = key := here.1 ▸ removed
        simp only [discard] at shorter ⊢
        rw [List.filter_cons_of_pos (by simpa using removed),
          List.filter_cons_of_pos (by simpa using kept)]
        exact .cons here shorter

/-- A key is in both dicts or in neither. -/
theorem Related.get?
    (agree : Related related first second) (key : κ) :
    (first.get? key = none ∧ second.get? key = none) ∨
      ∃ left right, first.get? key = some left ∧
        second.get? key = some right ∧ related left right := by
  obtain ⟨items, _⟩ := first
  obtain ⟨others, _⟩ := second
  simp only [Related, Mapping.get?] at agree ⊢
  induction agree with
  | nil => exact Or.inl ⟨rfl, rfl⟩
  | @cons item otherItem rest _ here later inductionHypothesis =>
      obtain ⟨name, left⟩ := item
      obtain ⟨otherName, right⟩ := otherItem
      obtain ⟨rfl, same⟩ := here
      by_cases found : key = name
      · subst found
        exact Or.inr ⟨left, right, by simp, by simp, same⟩
      · simp only [List.lookup, beq_eq_false_iff_ne.mpr found]
        exact inductionHypothesis (List.nodup_cons.mp ‹_›).2
          (List.nodup_cons.mp ‹_›).2

omit [DecidableEq κ] in
/-- Where one dict is reordered, so can the other be. -/
theorem Related.reorder
    (agree : Related related first second) {shuffled : Mapping κ β}
    (reordered : shuffled.items.Perm first.items) :
    ∃ follows : Mapping κ γ, follows.items.Perm second.items ∧
      Related related shuffled follows := by
  obtain ⟨items, follow, sameItems⟩ :=
    List.perm_comp_forall₂ reordered agree
  have distinct : (items.map Prod.fst).Nodup :=
    (sameItems.map Prod.fst).nodup_iff.mpr second.distinct
  exact ⟨⟨items, distinct⟩, sameItems, follow⟩

end Related

end Mapping

end Python

import Mathlib

/-!
# Stable rankings

A list ranked by a key has the greatest key first and keeps the order of equal
keys.  `ranking` gives the positions in that order, so that two items with one
key, or two equal items, stay apart; who precedes whom is read off the keys.
-/

namespace Foundation

variable {α β : Type} [LinearOrder β]

/-! ## The order of the positions -/

/-- The positions of a list of keys, the greatest key first. -/
def ranking (keys : List β) : List Nat :=
  (keys.zipIdx.insertionSort fun first second =>
    second.1 ≤ first.1).map Prod.snd

/-- One position comes before another. -/
def Precedes (first second : Nat) (order : List Nat) : Prop :=
  [first, second].Sublist order

/-- A greater key, or an equal one at an earlier position. -/
def RanksAbove (first second : β × Nat) : Prop :=
  second.1 < first.1 ∨ (first.1 = second.1 ∧ first.2 < second.2)

theorem ranksAbove_asymm {first second : β × Nat}
    (above : RanksAbove first second) : ¬ RanksAbove second first := by
  rintro (less | ⟨same, before⟩)
  · rcases above with greater | ⟨equal, _⟩
    · exact lt_asymm less greater
    · exact absurd equal less.ne
  · rcases above with greater | ⟨_, earlier⟩
    · exact absurd same greater.ne
    · omega

/-- An item that comes before the rest is inserted before its equals. -/
theorem pairwise_orderedInsert_ranksAbove
    {item : β × Nat} {sorted : List (β × Nat)}
    (earlier : ∀ other ∈ sorted, item.2 < other.2)
    (pairwise : sorted.Pairwise RanksAbove) :
    (sorted.orderedInsert (fun first second => second.1 ≤ first.1)
      item).Pairwise RanksAbove := by
  induction sorted with
  | nil => exact List.pairwise_singleton _ _
  | cons head rest inductionHypothesis =>
      rw [List.forall_mem_cons] at earlier
      have pairwiseRest := List.pairwise_cons.mp pairwise
      by_cases fits : head.1 ≤ item.1
      · rw [List.orderedInsert, if_pos fits]
        refine List.pairwise_cons.mpr ⟨?_, pairwise⟩
        have below : ∀ other, other.1 ≤ item.1 → item.2 < other.2 →
            RanksAbove item other := by
          intro other le before
          rcases le.lt_or_eq with less | same
          · exact Or.inl less
          · exact Or.inr ⟨same.symm, before⟩
        rw [List.forall_mem_cons]
        refine ⟨below head fits earlier.1, ?_⟩
        intro other member
        apply below other _ (earlier.2 other member)
        rcases pairwiseRest.1 other member with less | ⟨same, _⟩
        · exact less.le.trans fits
        · exact same.symm.le.trans fits
      · rw [List.orderedInsert, if_neg fits]
        refine List.pairwise_cons.mpr
          ⟨?_, inductionHypothesis earlier.2 pairwiseRest.2⟩
        intro other member
        rcases List.mem_cons.mp
            ((List.perm_orderedInsert _ item rest).mem_iff.mp member) with
          same | inRest
        · rw [same]
          exact Or.inl (not_le.mp fits)
        · exact pairwiseRest.1 other inRest

theorem pairwise_insertionSort_ranksAbove {items : List (β × Nat)}
    (increasing : items.Pairwise fun first second => first.2 < second.2) :
    (items.insertionSort fun first second =>
      second.1 ≤ first.1).Pairwise RanksAbove := by
  induction items with
  | nil => exact List.Pairwise.nil
  | cons item rest inductionHypothesis =>
      obtain ⟨earlier, increasingRest⟩ := List.pairwise_cons.mp increasing
      rw [List.insertionSort_cons]
      apply pairwise_orderedInsert_ranksAbove
      · intro other member
        exact earlier other
          ((List.perm_insertionSort _ rest).mem_iff.mp member)
      · exact inductionHypothesis increasingRest

/-- Two different members stand in one order or the other. -/
theorem pair_sublist_or {item other : α} {items : List α}
    (differs : item ≠ other) (member : item ∈ items)
    (otherMember : other ∈ items) :
    [item, other].Sublist items ∨ [other, item].Sublist items := by
  induction items with
  | nil => exact absurd member List.not_mem_nil
  | cons head rest inductionHypothesis =>
      rcases List.mem_cons.mp member with rfl | inRest
      · rcases List.mem_cons.mp otherMember with rfl | otherInRest
        · exact absurd rfl differs
        · exact Or.inl
            ((List.singleton_sublist.mpr otherInRest).cons_cons _)
      · rcases List.mem_cons.mp otherMember with rfl | otherInRest
        · exact Or.inr ((List.singleton_sublist.mpr inRest).cons_cons _)
        · rcases inductionHypothesis inRest otherInRest with before | after
          · exact Or.inl (before.cons _)
          · exact Or.inr (after.cons _)

theorem pairwise_zipIdx (items : List α) (start : Nat) :
    (items.zipIdx start).Pairwise fun first second =>
      first.2 < second.2 := by
  induction items generalizing start with
  | nil => exact List.Pairwise.nil
  | cons item rest inductionHypothesis =>
      rw [List.zipIdx_cons]
      refine List.pairwise_cons.mpr
        ⟨?_, inductionHypothesis (start + 1)⟩
      intro other member
      exact List.le_snd_of_mem_zipIdx member

/-- Who precedes whom in a ranking. -/
theorem precedes_ranking_iff (keys : List β) (first second : Nat) :
    Precedes first second (ranking keys) ↔
      ∃ key other, keys[first]? = some key ∧ keys[second]? = some other ∧
        RanksAbove (key, first) (other, second) := by
  have pairwise :=
    pairwise_insertionSort_ranksAbove (pairwise_zipIdx keys 0)
  have listed : ∀ item, item ∈ keys.zipIdx.insertionSort
      (fun first second => second.1 ≤ first.1) ↔
        keys[item.2]? = some item.1 := by
    intro item
    rw [(List.perm_insertionSort _ keys.zipIdx).mem_iff,
      List.mem_zipIdx_iff_getElem?]
  constructor
  · intro precedes
    obtain ⟨items, sublist, isMap⟩ := List.sublist_map_iff.mp precedes
    obtain ⟨item, rest, rfl, rfl, isRest⟩ :=
      List.map_eq_cons_iff.mp isMap.symm
    obtain ⟨other, tail, rfl, rfl, isTail⟩ := List.map_eq_cons_iff.mp isRest
    have above := List.rel_of_pairwise_cons
      (pairwise.sublist sublist) List.mem_cons_self
    exact ⟨item.1, other.1,
      (listed item).mp (sublist.subset List.mem_cons_self),
      (listed other).mp (sublist.subset
        (List.mem_cons_of_mem _ List.mem_cons_self)), above⟩
  · rintro ⟨key, other, isKey, isOther, above⟩
    have differs : (key, first) ≠ (other, second) := by
      intro same
      rw [same] at above
      exact ranksAbove_asymm above above
    rcases pair_sublist_or differs ((listed (key, first)).mpr isKey)
        ((listed (other, second)).mpr isOther) with before | after
    · exact before.map Prod.snd
    · have below := List.rel_of_pairwise_cons
        (pairwise.sublist after) List.mem_cons_self
      exact absurd below (ranksAbove_asymm above)

/-- Who precedes another still does when its key grows and the other key
stays. -/
theorem precedes_ranking_of_raised
    {keys raised : List β} {first second : Nat}
    (length : raised.length = keys.length)
    (grows : ∀ key other, keys[first]? = some key →
      raised[first]? = some other → key ≤ other)
    (stays : raised[second]? = keys[second]?)
    (precedes : Precedes first second (ranking keys)) :
    Precedes first second (ranking raised) := by
  obtain ⟨key, other, isKey, isOther, above⟩ :=
    (precedes_ranking_iff keys first second).mp precedes
  have within : first < raised.length := by
    rw [length]
    exact (List.getElem?_eq_some_iff.mp isKey).1
  have isGrown : raised[first]? = some raised[first] :=
    List.getElem?_eq_getElem within
  have le := grows key _ isKey isGrown
  refine (precedes_ranking_iff raised first second).mpr
    ⟨_, other, isGrown, stays.trans isOther, ?_⟩
  rcases above with less | ⟨same, before⟩
  · exact Or.inl (lt_of_lt_of_le less le)
  · rcases le.lt_or_eq with grown | unchanged
    · exact Or.inl (same ▸ grown)
    · exact Or.inr ⟨unchanged.symm.trans same, before⟩

/-! ## The list in its order -/

/-- A list sorted by a key is the list read in the order of its ranking. -/
theorem insertionSort_eq_ranking (key : α → β) (items : List α) :
    (items.insertionSort fun first second => key second ≤ key first) =
      (ranking (items.map key)).filterMap (items[·]?) := by
  have sorted : (items.zipIdx.insertionSort fun first second =>
        key second.1 ≤ key first.1).map Prod.fst =
      items.insertionSort fun first second => key second ≤ key first := by
    rw [List.map_insertionSort (fun first second : α × Nat =>
      key second.1 ≤ key first.1) (fun first second =>
        key second ≤ key first) Prod.fst items.zipIdx
        (fun _ _ _ _ => Iff.rfl), List.zipIdx_map_fst]
  have positions : ranking (items.map key) =
      (items.zipIdx.insertionSort fun first second =>
        key second.1 ≤ key first.1).map Prod.snd := by
    unfold ranking
    rw [List.zipIdx_map, ← List.map_insertionSort
      (fun first second : α × Nat => key second.1 ≤ key first.1)
      (fun first second : β × Nat => second.1 ≤ first.1) (Prod.map key id)
      items.zipIdx (fun _ _ _ _ => Iff.rfl), List.map_map]
    rfl
  have read : ∀ item ∈ items.zipIdx.insertionSort (fun first second =>
      key second.1 ≤ key first.1), items[item.2]? = some item.1 := by
    intro item member
    exact List.mem_zipIdx_iff_getElem?.mp
      ((List.perm_insertionSort _ items.zipIdx).mem_iff.mp member)
  rw [positions, ← sorted, List.filterMap_map]
  symm
  apply (List.filterMap_congr read).trans
  rw [← List.filterMap_eq_map]
  rfl

end Foundation

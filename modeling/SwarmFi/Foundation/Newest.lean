import Mathlib.Data.List.DropRight

/-!
# The newest items

`rtake bound items` is what is left of a log of which only the newest `bound`
items are kept.  Bounding it after each entry or once at the end comes to the
same.
-/

namespace List

variable {α : Type}

theorem reverse_rtake (items : List α) (bound : Nat) :
    (items.rtake bound).reverse = items.reverse.take bound := by
  rw [rtake_eq_reverse_take_reverse, reverse_reverse]

/-- A log that was bounded before goes on like the whole one. -/
theorem rtake_rtake_append (items more : List α) (bound : Nat) :
    (items.rtake bound ++ more).rtake bound =
      (items ++ more).rtake bound := by
  apply reverse_injective
  rw [reverse_rtake, reverse_rtake, reverse_append, reverse_append,
    reverse_rtake, take_append, take_append, take_take]
  congr 2
  omega

/-- The newest of the newest. -/
theorem rtake_rtake (items : List α) {fewer bound : Nat}
    (within : fewer ≤ bound) :
    (items.rtake bound).rtake fewer = items.rtake fewer := by
  apply reverse_injective
  rw [reverse_rtake, reverse_rtake, reverse_rtake, take_take,
    Nat.min_eq_left within]

end List

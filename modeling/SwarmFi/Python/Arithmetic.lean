import SwarmFi.Python.Float

/-!
# Arithmetic as a parameter

A computation on floats runs on any numbers that have the operations it uses.
`float` is binary64, where every operation rounds; `fraction` is the exact
arithmetic of `fractions.Fraction`, on the rationals that floats stand for.
-/

namespace Python

/-- The operations of a computation on `Number`. -/
structure Arithmetic (Number : Type) where
  /-- `float(value)` -/
  ofJson : Json → Except Exception Number
  /-- A number of the program text. -/
  literal : Rat → Number
  ofInt : Int → Number
  isZero : Number → Bool
  lt : Number → Number → Bool
  le : Number → Number → Bool
  neg : Number → Number
  add : Number → Number → Number
  sub : Number → Number → Number
  mul : Number → Number → Number
  div : Number → Number → Except Exception Number
  max : Number → Number → Number
  round : Nat → Number → Number

namespace Arithmetic

def float : Arithmetic PyFloat where
  ofJson := Json.toFloat
  literal := PyFloat.ofRat
  ofInt := PyFloat.ofInt
  isZero value := decide (value = .fin 0)
  lt := PyFloat.lt
  le := PyFloat.le
  neg := PyFloat.neg
  add := PyFloat.add
  sub := PyFloat.sub
  mul := PyFloat.mul
  div := PyFloat.div
  max := PyFloat.max
  round := PyFloat.round

end Arithmetic

/-- `Fraction(value)`: an infinity or NaN is no ratio of integers. -/
def PyFloat.toFraction : PyFloat → Except Exception Rat
  | .fin value => .ok value
  | .nan => .error ⟨.valueError, "cannot convert NaN to integer ratio"⟩
  | _ =>
      .error ⟨.overflowError, "cannot convert Infinity to integer ratio"⟩

namespace Fraction

/-- `Fraction(float(value))` -/
def ofJson (value : Json) : Except Exception Rat := do
  let number ← value.toFloat
  number.toFraction

/-- `left / right` -/
def div (left right : Rat) : Except Exception Rat :=
  if right = 0 then
    .error ⟨.other "ZeroDivisionError",
      "Fraction(" ++ toString left.num ++ ", 0)"⟩
  else
    .ok (left / right)

/-- `round(value, digits)`, ties to even. -/
def round (digits : Nat) (value : Rat) : Rat :=
  let scale : Rat := ((10 ^ digits : Nat) : Rat)
  PyFloat.roundHalfEven (value * scale) / scale

end Fraction

namespace Arithmetic

def fraction : Arithmetic Rat where
  ofJson := Fraction.ofJson
  literal value := value
  ofInt value := value
  isZero value := decide (value = 0)
  lt left right := decide (left < right)
  le left right := decide (left ≤ right)
  neg value := -value
  add left right := left + right
  sub left right := left - right
  mul left right := left * right
  div := Fraction.div
  max left right := Max.max left right
  round := Fraction.round

/-! ## The operations of the two instances -/

@[simp]
theorem float_ofJson (value : Json) : float.ofJson value = value.toFloat :=
  rfl

@[simp]
theorem float_isZero (value : PyFloat) :
    float.isZero value = decide (value = .fin 0) := rfl

@[simp]
theorem float_le (left right : PyFloat) :
    float.le left right = left.le right := rfl

@[simp]
theorem float_ofInt (value : Int) : float.ofInt value = .ofInt value := rfl

@[simp]
theorem float_sub (left right : PyFloat) :
    float.sub left right = left.sub right := rfl

@[simp]
theorem float_div (left right : PyFloat) :
    float.div left right = left.div right := rfl

@[simp]
theorem fraction_literal (value : Rat) : fraction.literal value = value :=
  rfl

@[simp]
theorem fraction_isZero (value : Rat) :
    fraction.isZero value = decide (value = 0) := rfl

@[simp]
theorem fraction_lt (left right : Rat) :
    fraction.lt left right = decide (left < right) := rfl

@[simp]
theorem fraction_le (left right : Rat) :
    fraction.le left right = decide (left ≤ right) := rfl

@[simp]
theorem fraction_neg (value : Rat) : fraction.neg value = -value := rfl

@[simp]
theorem fraction_add (left right : Rat) :
    fraction.add left right = left + right := rfl

@[simp]
theorem fraction_sub (left right : Rat) :
    fraction.sub left right = left - right := rfl

@[simp]
theorem fraction_mul (left right : Rat) :
    fraction.mul left right = left * right := rfl

@[simp]
theorem fraction_max (left right : Rat) :
    fraction.max left right = Max.max left right := rfl

@[simp]
theorem fraction_div {left right : Rat} (nonzero : right ≠ 0) :
    fraction.div left right = .ok (left / right) :=
  if_neg nonzero

/-! ## What is read as a rational -/

/-- A number that is read as a rational is read as that float. -/
theorem toFloat_of_fraction
    {value : Json} {number : Rat}
    (isRead : fraction.ofJson value = .ok number) :
    float.ofJson value = .ok (.fin number) := by
  change Fraction.ofJson value = .ok number at isRead
  change value.toFloat = .ok (.fin number)
  unfold Fraction.ofJson at isRead
  rcases h : value.toFloat with error | read
  · rw [h] at isRead
    cases isRead
  · rw [h] at isRead
    rcases read with _ | _ | _ | exact
    · cases isRead
    · cases isRead
    · cases isRead
    · cases isRead
      rfl

end Arithmetic

end Python

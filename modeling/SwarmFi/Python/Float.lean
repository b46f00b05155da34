import SwarmFi.Python.Json

/-!
# Arithmetic of floats

Every operation rounds its exact result to binary64.  As both zeros are one
value here, the sign of a zero result is lost.  A division by zero raises.
-/

namespace Python

/-- `float(value)` returns. -/
def Json.Converts (value : Json) : Prop :=
  ∃ number, value.toFloat = .ok number

namespace PyFloat

/-! ## The operations -/

def neg : PyFloat → PyFloat
  | .nan => .nan
  | .posInf => .negInf
  | .negInf => .posInf
  | .fin value => .fin (-value)

/-- `abs(value)` -/
def abs : PyFloat → PyFloat
  | .nan => .nan
  | .posInf => .posInf
  | .negInf => .posInf
  | .fin value => .fin (if value < 0 then -value else value)

def add : PyFloat → PyFloat → PyFloat
  | .fin left, .fin right => ofRat (left + right)
  | .posInf, .posInf => .posInf
  | .posInf, .fin _ => .posInf
  | .fin _, .posInf => .posInf
  | .negInf, .negInf => .negInf
  | .negInf, .fin _ => .negInf
  | .fin _, .negInf => .negInf
  | _, _ => .nan

def sub (left right : PyFloat) : PyFloat := left.add right.neg

/-- An infinity of the sign of `value`; there is none for a zero. -/
def infinityLike (value : Rat) : PyFloat :=
  if value = 0 then .nan else if 0 < value then .posInf else .negInf

def mul : PyFloat → PyFloat → PyFloat
  | .fin left, .fin right => ofRat (left * right)
  | .posInf, .fin right => infinityLike right
  | .fin left, .posInf => infinityLike left
  | .negInf, .fin right => infinityLike (-right)
  | .fin left, .negInf => infinityLike (-left)
  | .posInf, .posInf => .posInf
  | .posInf, .negInf => .negInf
  | .negInf, .posInf => .negInf
  | .negInf, .negInf => .posInf
  | _, _ => .nan

/-- `left / right` -/
def div (left right : PyFloat) : Except Exception PyFloat :=
  match left, right with
  | _, .fin 0 =>
      .error ⟨.other "ZeroDivisionError", "float division by zero"⟩
  | .fin left, .fin right => .ok (ofRat (left / right))
  | .posInf, .fin right => .ok (infinityLike right)
  | .negInf, .fin right => .ok (infinityLike (-right))
  | .fin _, .posInf => .ok (.fin 0)
  | .fin _, .negInf => .ok (.fin 0)
  | _, _ => .ok .nan

theorem div_of_ne_zero {divisor : PyFloat} (nonzero : divisor ≠ .fin 0)
    (part : PyFloat) : ∃ share, part.div divisor = .ok share := by
  unfold PyFloat.div
  split
  · exact absurd rfl nonzero
  all_goals exact ⟨_, rfl⟩

/-! ## Choosing and rounding -/

/-- `max(first, second)`: the first one unless the second is greater. -/
def max (first second : PyFloat) : PyFloat :=
  if first.lt second then second else first

/-- `min(first, second)`: the first one unless the second is smaller. -/
def min (first second : PyFloat) : PyFloat :=
  if second.lt first then second else first

/-- `round(value, digits)` -/
def round (digits : Nat) : PyFloat → PyFloat
  | .fin value =>
      let scale : Rat := ((10 ^ digits : Nat) : Rat)
      ofRat (roundHalfEven (value * scale) / scale)
  | value => value

/-- A number of hundredths with its two decimals. -/
def hundredthsText (hundredths : Nat) : String :=
  toString (hundredths / 100) ++ "." ++
    toString (hundredths % 100 / 10) ++ toString (hundredths % 10)

/-- `f"{value:.2f}"` -/
def formatTwoDecimals : PyFloat → String
  | .nan => "nan"
  | .posInf => "inf"
  | .negInf => "-inf"
  | .fin value =>
      (if value < 0 then "-" else "") ++
        hundredthsText
          (roundHalfEven
            ((if value < 0 then -value else value) * 100)).toNat

end PyFloat

end Python

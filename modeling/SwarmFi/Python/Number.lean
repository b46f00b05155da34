import SwarmFi.Python.Text

/-!
# Python numbers

Floats are binary64 values: exact rationals, the two infinities and NaN, with
both zeros read as `fin 0`.  Decimal text is rounded to the nearest binary64
value, ties to even, as the C library does it for Python.  `parseInt` and
`parseFloat` are the string arguments of `int()` and `float()`: surrounding
space, a sign, underscores between digits and the decimal digits of other
scripts are accepted.
-/

namespace Python

inductive PyFloat where
  | nan
  | posInf
  | negInf
  | fin (value : Rat)
  deriving DecidableEq

namespace PyFloat

/-! ## Comparison: false as soon as one side is NaN -/

def lt : PyFloat → PyFloat → Bool
  | .fin left, .fin right => decide (left < right)
  | .negInf, .fin _ => true
  | .negInf, .posInf => true
  | .fin _, .posInf => true
  | _, _ => false

def le : PyFloat → PyFloat → Bool
  | .fin left, .fin right => decide (left ≤ right)
  | .negInf, .negInf => true
  | .negInf, .fin _ => true
  | .negInf, .posInf => true
  | .fin _, .posInf => true
  | .posInf, .posInf => true
  | _, _ => false

@[simp]
theorem nan_lt (value : PyFloat) : lt .nan value = false := rfl

@[simp]
theorem lt_nan (value : PyFloat) : lt value .nan = false := by
  cases value <;> rfl

@[simp]
theorem nan_le (value : PyFloat) : le .nan value = false := rfl

@[simp]
theorem le_nan (value : PyFloat) : le value .nan = false := by
  cases value <;> rfl

/-! ## Rounding to binary64 -/

/-- Nearest integer, ties to even. -/
def roundHalfEven (value : Rat) : Int :=
  let floor := value.floor
  let rest := value - floor
  if rest < 1 / 2 then
    floor
  else if 1 / 2 < rest then
    floor + 1
  else if floor % 2 = 0 then
    floor
  else
    floor + 1

def powerOfTwo (exponent : Int) : Rat :=
  if 0 ≤ exponent then
    ((2 ^ exponent.toNat : Nat) : Rat)
  else
    1 / ((2 ^ (-exponent).toNat : Nat) : Rat)

/-- The exponent of the leading binary digit of a positive value. -/
def binaryExponent (value : Rat) : Int :=
  let guess : Int := value.num.natAbs.log2 - value.den.log2
  if powerOfTwo guess ≤ value then guess else guess - 1

/-- The binary64 value nearest to a rational. -/
def ofRat (value : Rat) : PyFloat :=
  if value = 0 then
    .fin 0
  else
    let size := if value < 0 then -value else value
    let exponent := max (-1074) (binaryExponent size - 52)
    let rounded :=
      (roundHalfEven (size / powerOfTwo exponent) : Rat) *
        powerOfTwo exponent
    if powerOfTwo 1024 ≤ rounded then
      if value < 0 then .negInf else .posInf
    else
      .fin (if value < 0 then -rounded else rounded)

/-- An integer as an exact number, for comparisons with floats. -/
def ofInt (value : Int) : PyFloat := .fin value

/-- `f"{value:.1f}"` -/
def formatOneDecimal : PyFloat → String
  | .nan => "nan"
  | .posInf => "inf"
  | .negInf => "-inf"
  | .fin value =>
      let tenths :=
        (roundHalfEven ((if value < 0 then -value else value) * 10)).toNat
      (if value < 0 then "-" else "") ++ toString (tenths / 10) ++ "." ++
        toString (tenths % 10)

end PyFloat

/-! ## Digits of every script -/

/-- The zeros of the decimal digit runs of Unicode 15, each followed by its
other nine digits: the tables of Python 3.12, which the image and CI run. -/
def decimalZeros : List Nat :=
  [0x30, 0x660, 0x6f0, 0x7c0, 0x966, 0x9e6, 0xa66, 0xae6, 0xb66, 0xbe6,
    0xc66, 0xce6, 0xd66, 0xde6, 0xe50, 0xed0, 0xf20, 0x1040, 0x1090, 0x17e0,
    0x1810, 0x1946, 0x19d0, 0x1a80, 0x1a90, 0x1b50, 0x1bb0, 0x1c40, 0x1c50,
    0xa620, 0xa8d0, 0xa900, 0xa9d0, 0xa9f0, 0xaa50, 0xabf0, 0xff10, 0x104a0,
    0x10d30, 0x11066, 0x110f0, 0x11136, 0x111d0, 0x112f0, 0x11450, 0x114d0,
    0x11650, 0x116c0, 0x11730, 0x118e0, 0x11950, 0x11c50, 0x11d50, 0x11da0,
    0x11f50, 0x16a60, 0x16ac0, 0x16b50, 0x1d7ce, 0x1d7d8, 0x1d7e2, 0x1d7ec,
    0x1d7f6, 0x1e140, 0x1e2f0, 0x1e4f0, 0x1e950, 0x1fbf0]

/-- A non-ASCII character as `int()` and `float()` see it: a space, an ASCII
digit, or a character that no number contains. -/
def toNumeral (character : Char) : Char :=
  if character.toNat < 127 then
    character
  else if isSpace character then
    ' '
  else
    match decimalZeros.find? fun first =>
        first ≤ character.toNat && character.toNat < first + 10 with
    | some first => Char.ofNat (48 + (character.toNat - first))
    | none => '?'

/-- The C locale's space. -/
def isAsciiSpace (character : Char) : Bool :=
  [0x09, 0x0a, 0x0b, 0x0c, 0x0d, 0x20].contains character.toNat

def stripAscii (characters : List Char) : List Char :=
  ((characters.dropWhile isAsciiSpace).reverse.dropWhile
    isAsciiSpace).reverse

def isDigit (character : Char) : Bool :=
  48 ≤ character.toNat && character.toNat ≤ 57

/-- The value of a digit or letter of a base up to 36. -/
def digitValue (character : Char) : Nat :=
  let code := character.toNat
  if 48 ≤ code ∧ code ≤ 57 then
    code - 48
  else if 97 ≤ code ∧ code ≤ 122 then
    code - 87
  else if 65 ≤ code ∧ code ≤ 90 then
    code - 55
  else
    99

/-- A sign and the rest. -/
def splitSign : List Char → Bool × List Char
  | '-' :: rest => (true, rest)
  | '+' :: rest => (false, rest)
  | characters => (false, characters)

/-! ## `int(text, base)` -/

/-- Digits of a base with single underscores between them, read on top of
`value`; `fresh` says that no digit precedes directly. -/
def readDigits (base : Nat) : Bool → Nat → List Char → Option Nat
  | fresh, value, [] => if fresh then none else some value
  | fresh, value, character :: rest =>
      if character = '_' then
        if fresh then none else readDigits base true value rest
      else if digitValue character < base then
        readDigits base false (value * base + digitValue character) rest
      else
        none

/-- Base 16 may be announced by `0x`, and one underscore may follow it. -/
def dropBaseMark (base : Nat) : List Char → List Char
  | '0' :: mark :: rest =>
      if base = 16 ∧ (mark = 'x' ∨ mark = 'X') then
        match rest with
        | '_' :: digits => digits
        | digits => digits
      else
        '0' :: mark :: rest
  | characters => characters

/-- Decimal text of more than 4300 digits is refused. -/
def tooManyDigits (base : Nat) (characters : List Char) : Bool :=
  base == 10 && 4300 < (characters.filter isDigit).length

/-- `int(text, base)` for base 10 and 16; `none` where it raises. -/
def parseInt (base : Nat) (text : String) : Option Int :=
  let (negative, unsigned) :=
    splitSign (stripAscii (text.toList.map toNumeral))
  if tooManyDigits base unsigned then
    none
  else
    (readDigits base true 0 (dropBaseMark base unsigned)).map fun value =>
      if negative then -(value : Int) else value

/-! ## `float(text)` -/

/-- The text without its underscores, each of which stands between digits. -/
def dropUnderscores : Char → List Char → Option (List Char)
  | before, [] => if before = '_' then none else some []
  | before, character :: rest =>
      if character = '_' then
        if isDigit before then dropUnderscores '_' rest else none
      else if before = '_' && !isDigit character then
        none
      else
        (dropUnderscores character rest).map (character :: ·)

def naturalOf (digits : List Char) : Nat :=
  digits.foldl (fun value digit => value * 10 + digitValue digit) 0

/-- `whole.fraction` times a power of ten, rounded. -/
def decimalValue
    (negative : Bool) (whole fraction : List Char) (exponent : Int) :
    PyFloat :=
  let scale := exponent - fraction.length
  let digits : Rat := (naturalOf (whole ++ fraction) : Nat)
  let size :=
    if 0 ≤ scale then
      digits * ((10 ^ scale.toNat : Nat) : Rat)
    else
      digits / ((10 ^ (-scale).toNat : Nat) : Rat)
  PyFloat.ofRat (if negative then -size else size)

/-- An exponent part up to the end, or nothing. -/
def readExponent : List Char → Option Int
  | [] => some 0
  | mark :: rest =>
      if mark = 'e' ∨ mark = 'E' then
        let (negative, digits) := splitSign rest
        if digits ≠ [] ∧ digits.all isDigit then
          some (if negative then -(naturalOf digits : Int)
            else naturalOf digits)
        else
          none
      else
        none

def readDecimal (negative : Bool) (characters : List Char) :
    Option PyFloat :=
  let whole := characters.takeWhile isDigit
  let afterWhole := characters.dropWhile isDigit
  let (fraction, tail) :=
    match afterWhole with
    | '.' :: rest => (rest.takeWhile isDigit, rest.dropWhile isDigit)
    | _ => ([], afterWhole)
  if whole = [] ∧ fraction = [] then
    none
  else
    (readExponent tail).map (decimalValue negative whole fraction)

/-- `float(text)`; `none` where it raises. -/
def parseFloat (text : String) : Option PyFloat :=
  let characters := stripAscii (text.toList.map toNumeral)
  let (negative, unsigned) := splitSign characters
  let word := lower (String.ofList unsigned)
  if word = "nan" then
    some .nan
  else if word = "inf" ∨ word = "infinity" then
    some (if negative then .negInf else .posInf)
  else
    (dropUnderscores '?' unsigned).bind (readDecimal negative)

end Python

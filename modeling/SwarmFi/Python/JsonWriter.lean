import SwarmFi.Python.JsonReader

/-!
# `json.dumps`

The writer of Python's `json` module with its default separators: ASCII text
only, with `\u` escapes for every other character, and floats as `repr` gives
them.  `sort_keys` orders the keys of every dict by their characters.
-/

namespace Python.JsonWriter

/-! ## Strings -/

/-- The letter after the backslash of a short escape. -/
def shortEscape (character : Char) : Option Char :=
  if character = '"' then
    some '"'
  else if character = '\\' then
    some '\\'
  else if character.toNat = 10 then
    some 'n'
  else if character.toNat = 13 then
    some 'r'
  else if character.toNat = 9 then
    some 't'
  else if character.toNat = 12 then
    some 'f'
  else if character.toNat = 8 then
    some 'b'
  else
    none

/-- `\u` and four hexadecimal digits. -/
def escapeUnit (code : Nat) : List Char :=
  ['\\', 'u', Nat.digitChar (code / 0x1000),
    Nat.digitChar (code / 0x100 % 16), Nat.digitChar (code / 0x10 % 16),
    Nat.digitChar (code % 16)]

/-- A character outside printable ASCII; beyond 16 bits it is a pair of
surrogates. -/
def escapeCode (code : Nat) : List Char :=
  if code < 0x10000 then
    escapeUnit code
  else
    escapeUnit (0xd800 + (code - 0x10000) / 0x400) ++
      escapeUnit (0xdc00 + (code - 0x10000) % 0x400)

def isPlain (character : Char) : Bool :=
  0x20 ≤ character.toNat && character.toNat ≤ 0x7e

def escape (character : Char) : List Char :=
  match shortEscape character with
  | some letter => ['\\', letter]
  | none =>
      if isPlain character then
        [character]
      else
        escapeCode character.toNat

def writeString (text : String) : List Char :=
  '"' :: text.toList.flatMap escape ++ ['"']

/-! ## Floats -/

def tenTo (exponent : Int) : Rat :=
  if 0 ≤ exponent then
    ((10 ^ exponent.toNat : Nat) : Rat)
  else
    1 / ((10 ^ (-exponent).toNat : Nat) : Rat)

/-- The place of the decimal point before the digits of a positive value:
`0.d₁d₂…` times ten to it. -/
def decimalPoint (value : Rat) : Int :=
  if 1 ≤ value then
    (Nat.toDigits 10 value.floor.toNat).length
  else
    match (List.range 400).find? fun places =>
        decide (1 ≤ value * tenTo places) with
    | some places => 1 - places
    | none => -399

/-- The shortest digits that are read back as the value, the nearest of
them. -/
def shortestDigits (value : Rat) : Nat :=
  let point := decimalPoint value
  let attempt (count : Nat) : Option Nat :=
    let scaled := value * tenTo (count - point)
    let below := scaled.floor.toNat
    let nearestFirst :=
      if scaled - below < 1 / 2 ∨
          (scaled - below = 1 / 2 ∧ below % 2 = 0) then
        [below, below + 1]
      else
        [below + 1, below]
    nearestFirst.find? fun digits =>
      decide (PyFloat.ofRat (digits * tenTo (point - count)) = .fin value)
  (((List.range 17).findSome? fun index => attempt (index + 1)).getD 0)

def writeExponent (exponent : Int) : List Char :=
  let digits := Nat.toDigits 10 exponent.natAbs
  ['e', if exponent < 0 then '-' else '+'] ++
    (if digits.length = 1 then '0' :: digits else digits)

/-- `repr(value)` of a positive float. -/
def writePositive (value : Rat) : List Char :=
  let point := decimalPoint value
  let digits := Nat.toDigits 10 (shortestDigits value)
  if point ≤ -4 ∨ 16 < point then
    digits.take 1 ++
      (if digits.length = 1 then [] else '.' :: digits.drop 1) ++
      writeExponent (point - 1)
  else if point ≤ 0 then
    ['0', '.'] ++ List.replicate (-point).toNat '0' ++ digits
  else if digits.length ≤ point.toNat then
    digits ++ List.replicate (point.toNat - digits.length) '0' ++ ['.', '0']
  else
    digits.take point.toNat ++ '.' :: digits.drop point.toNat

def writeFloat : PyFloat → List Char
  | .nan => "NaN".toList
  | .posInf => "Infinity".toList
  | .negInf => "-Infinity".toList
  | .fin value =>
      if value = 0 then
        ['0', '.', '0']
      else if value < 0 then
        '-' :: writePositive (-value)
      else
        writePositive value

/-! ## Values -/

mutual

def write : Json → List Char
  | .null => "null".toList
  | .bool true => "true".toList
  | .bool false => "false".toList
  | .int value => (toString value).toList
  | .float value => writeFloat value
  | .str text => writeString text
  | .arr items => '[' :: writeItems items ++ [']']
  | .obj fields => '{' :: writeFields fields ++ ['}']

def writeItems : List Json → List Char
  | [] => []
  | item :: rest =>
      write item ++
        (if rest.isEmpty then [] else ',' :: ' ' :: writeItems rest)

def writeFields : List (String × Json) → List Char
  | [] => []
  | (key, value) :: rest =>
      writeString key ++ ':' :: ' ' :: write value ++
        (if rest.isEmpty then [] else ',' :: ' ' :: writeFields rest)

end

/-- `json.dumps(value)` -/
def dumps (value : Json) : String :=
  String.ofList (write value)

/-! ## Sorted keys -/

/-- The order of keys. -/
def ByKey (first second : String × Json) : Prop :=
  first.1 ≤ second.1

instance : DecidableRel ByKey :=
  fun first second => inferInstanceAs (Decidable (first.1 ≤ second.1))

mutual

def sortKeys : Json → Json
  | .arr items => .arr (sortItems items)
  | .obj fields => .obj ((sortFields fields).insertionSort ByKey)
  | value => value

def sortItems : List Json → List Json
  | [] => []
  | item :: rest => sortKeys item :: sortItems rest

def sortFields : List (String × Json) → List (String × Json)
  | [] => []
  | (key, value) :: rest => (key, sortKeys value) :: sortFields rest

end

/-- `json.dumps(value, sort_keys=True)` -/
def dumpsSorted (value : Json) : String :=
  dumps (sortKeys value)

example :
    dumpsSorted (.obj [("b", .arr [.int 1, .null]), ("a", .str "\"é\"")]) =
      "\x7b\"a\": \"\\\"\\u00e9\\\"\", \"b\": [1, null]\x7d" := by
  decide +kernel

end Python.JsonWriter

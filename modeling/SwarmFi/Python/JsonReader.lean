import SwarmFi.Python.Json

/-!
# `json.loads`

The reader of Python's `json` module on text: the four kinds of white space,
strict strings, `\u` escapes with surrogate pairs, the number grammar, and the
extra literals `NaN`, `Infinity` and `-Infinity`.  The strings of the model
have no surrogates, and a lone one is read as the replacement character;
`JsonSyntax` reads the code points themselves.

Values nest, so the reader runs on fuel; every nested value starts at least
one character later, and `loads` gives it two units for each character.  The
interpreter's recursion limit is a parameter of `loadsWithin`; `loads` reads
where it is out of reach.
-/

namespace Python.JsonReader

/-- What is read and the text after it. -/
abbrev Reading (α : Type) := Option (α × List Char)

def isBlank (character : Char) : Bool :=
  [0x20, 0x09, 0x0a, 0x0d].contains character.toNat

def skipBlank (characters : List Char) : List Char :=
  characters.dropWhile isBlank

/-! ## Strings -/

def isHex (character : Char) : Bool :=
  digitValue character < 16

/-- Four hexadecimal digits. -/
def readHex : List Char → Reading Nat
  | a :: b :: c :: d :: rest =>
      if [a, b, c, d].all isHex then
        some (((digitValue a * 16 + digitValue b) * 16 + digitValue c) * 16 +
          digitValue d, rest)
      else
        none
  | _ => none

def isHighSurrogate (code : Nat) : Bool :=
  0xd800 ≤ code && code ≤ 0xdbff

def isLowSurrogate (code : Nat) : Bool :=
  0xdc00 ≤ code && code ≤ 0xdfff

def charOfCode (code : Nat) : Char :=
  if isHighSurrogate code || isLowSurrogate code then
    Char.ofNat 0xfffd
  else
    Char.ofNat code

/-- The code after `\u`, joined with a low surrogate that follows a high one. -/
def readUnicode (characters : List Char) : Reading Char :=
  match readHex characters with
  | none => none
  | some (high, rest) =>
      match rest with
      | '\\' :: 'u' :: more =>
          if isHighSurrogate high then
            match readHex more with
            | none => none
            | some (low, tail) =>
                if isLowSurrogate low then
                  some (Char.ofNat
                    (0x10000 + (high - 0xd800) * 0x400 + (low - 0xdc00)),
                    tail)
                else
                  some (charOfCode high, rest)
          else
            some (charOfCode high, rest)
      | _ => some (charOfCode high, rest)

/-- The character after a backslash other than `u`. -/
def simpleEscape (character : Char) : Option Char :=
  match character with
  | '"' => some '"'
  | '\\' => some '\\'
  | '/' => some '/'
  | 'b' => some (Char.ofNat 8)
  | 'f' => some (Char.ofNat 12)
  | 'n' => some (Char.ofNat 10)
  | 'r' => some (Char.ofNat 13)
  | 't' => some (Char.ofNat 9)
  | _ => none

/-- A string after its opening quote. -/
def readString : Nat → List Char → List Char → Reading String
  | 0, _, _ => none
  | _ + 1, _, [] => none
  | fuel + 1, reversed, character :: rest =>
      if character = '"' then
        some (String.ofList reversed.reverse, rest)
      else if character = '\\' then
        match rest with
        | [] => none
        | 'u' :: more =>
            match readUnicode more with
            | none => none
            | some (decoded, tail) =>
                readString fuel (decoded :: reversed) tail
        | mark :: more =>
            match simpleEscape mark with
            | none => none
            | some decoded => readString fuel (decoded :: reversed) more
      else if character.toNat ≤ 0x1f then
        none
      else
        readString fuel (character :: reversed) rest

/-! ## Numbers -/

/-- The integer part: `0`, or digits that do not begin with it. -/
def readWhole : List Char → Reading (List Char)
  | [] => none
  | character :: rest =>
      if character = '0' then
        some (['0'], rest)
      else if isDigit character then
        some (character :: rest.takeWhile isDigit, rest.dropWhile isDigit)
      else
        none

/-- A fraction, where a point is followed by a digit. -/
def readFraction : List Char → List Char × List Char
  | '.' :: rest =>
      if rest.takeWhile isDigit = [] then
        ([], '.' :: rest)
      else
        (rest.takeWhile isDigit, rest.dropWhile isDigit)
  | characters => ([], characters)

/-- An exponent, where the mark is followed by digits. -/
def readPower : List Char → Option Int × List Char
  | mark :: rest =>
      if mark = 'e' ∨ mark = 'E' then
        let (negative, digits) := splitSign rest
        if digits.takeWhile isDigit = [] then
          (none, mark :: rest)
        else
          let size : Int := naturalOf (digits.takeWhile isDigit)
          (some (if negative then -size else size),
            digits.dropWhile isDigit)
      else
        (none, mark :: rest)
  | [] => (none, [])

/-- A number: an int when it has neither fraction nor exponent. -/
def readNumber (characters : List Char) : Reading Json :=
  let (negative, unsigned) :=
    match characters with
    | '-' :: rest => (true, rest)
    | _ => (false, characters)
  match readWhole unsigned with
  | none => none
  | some (whole, afterWhole) =>
      let (fraction, afterFraction) := readFraction afterWhole
      let (power, tail) := readPower afterFraction
      if fraction = [] ∧ power = none then
        if tooManyDigits 10 whole then
          none
        else
          let size : Int := naturalOf whole
          some (.int (if negative then -size else size), tail)
      else
        some (.float (decimalValue negative whole fraction
          (power.getD 0)), tail)

/-! ## Values -/

/-- The words that stand for values, with what they stand for. -/
def literals : List (String × Json) :=
  [("null", .null), ("true", .bool true), ("false", .bool false),
    ("NaN", .float .nan), ("Infinity", .float .posInf),
    ("-Infinity", .float .negInf)]

def readLiteral (characters : List Char) : Reading Json :=
  literals.findSome? fun (word, value) =>
    (afterStart word.toList characters).map fun rest => (value, rest)

mutual

/-- A value that begins with the first character. -/
def readValue : Nat → List Char → Reading Json
  | 0, _ => none
  | _ + 1, [] => none
  | fuel + 1, character :: rest =>
      if character = '"' then
        (readString (rest.length + 1) [] rest).map fun (text, tail) =>
          (.str text, tail)
      else if character = '{' then
        match skipBlank rest with
        | '}' :: tail => some (.obj [], tail)
        | inside => readFields fuel [] inside
      else if character = '[' then
        match skipBlank rest with
        | ']' :: tail => some (.arr [], tail)
        | inside => readItems fuel [] inside
      else
        match readLiteral (character :: rest) with
        | some literal => some literal
        | none => readNumber (character :: rest)

/-- The fields of an object, from a key on. -/
def readFields : Nat → Dict → List Char → Reading Json
  | fuel + 1, fields, '"' :: rest =>
      match readString (rest.length + 1) [] rest with
      | none => none
      | some (key, afterKey) =>
          match skipBlank afterKey with
          | ':' :: afterColon =>
              match readValue fuel (skipBlank afterColon) with
              | none => none
              | some (value, afterValue) =>
                  match skipBlank afterValue with
                  | '}' :: tail => some (.obj (fields.set key value), tail)
                  | ',' :: more =>
                      readFields fuel (fields.set key value)
                        (skipBlank more)
                  | _ => none
          | _ => none
  | _, _, _ => none

/-- The items of an array, from a value on; they are collected backwards. -/
def readItems : Nat → List Json → List Char → Reading Json
  | 0, _, _ => none
  | fuel + 1, reversed, characters =>
      match readValue fuel characters with
      | none => none
      | some (value, afterValue) =>
          match skipBlank afterValue with
          | ']' :: tail => some (.arr (value :: reversed).reverse, tail)
          | ',' :: more =>
              readItems fuel (value :: reversed) (skipBlank more)
          | _ => none

end

/-- `json.loads(text)` -/
def loads (text : String) : Except Exception Json :=
  let characters := skipBlank text.toList
  match readValue (2 * text.toList.length + 2) characters with
  | some (value, tail) =>
      if skipBlank tail = [] then
        .ok value
      else
        .error ⟨.other "JSONDecodeError", "Extra data"⟩
  | none => .error ⟨.other "JSONDecodeError", "Expecting value"⟩

/-! ## The recursion limit -/

/-- What closes the value that a bracket opens, with Python's word for it. -/
def closerOf (character : Char) : Option (Char × String) :=
  if character = '{' then some ('}', "object")
  else if character = '[' then some (']', "array")
  else none

/-- The first bracket outside of literals that would open more than `most`
values at once: the word for its value, and the text before it, completed by
`null` and by what closes the values that are open there. -/
def tooDeep (most : Nat) :
    Bool → List Char → List Char → List Char → Option (String × List Char)
  | _, _, _, [] => none
  | true, closers, reversed, '\\' :: mark :: rest =>
      tooDeep most true closers (mark :: '\\' :: reversed) rest
  | inside, closers, reversed, character :: rest =>
      if character = '"' then
        tooDeep most (!inside) closers (character :: reversed) rest
      else if inside then
        tooDeep most inside closers (character :: reversed) rest
      else
        match closerOf character with
        | some (closer, word) =>
            if closers.length < most then
              tooDeep most inside (closer :: closers) (character :: reversed)
                rest
            else
              some (word, reversed.reverse ++ "null".toList ++ closers)
        | none =>
            tooDeep most inside
              (if closers.head? = some character then closers.tail
                else closers)
              (character :: reversed) rest

/-- No value of the text nests deeper than the limit lets it. -/
def NestsWithin (limit : Option Nat) (characters : List Char) : Prop :=
  ∀ most, limit = some most → tooDeep most false [] [] characters = none

/-- `json.loads(text)` where the recursion limit leaves so many nested
values.  A bracket that nests too deep is reached where the text before it,
completed, can be read. -/
def loadsWithin (limit : Option Nat) (text : String) :
    Except Exception Json :=
  match limit.bind fun most => tooDeep most false [] [] text.toList with
  | none => loads text
  | some (word, before) =>
      if (loads text).toBool || (loads (String.ofList before)).toBool then
        .error (recursionError
          ("while decoding a JSON " ++ word ++ " from a unicode string"))
      else
        loads text

/-- Where fewer values may nest, more may. -/
theorem tooDeep_mono {fewer more : Nat} (atMost : fewer ≤ more)
    (inside : Bool) (closers reversed characters : List Char)
    (nests : tooDeep fewer inside closers reversed characters = none) :
    tooDeep more inside closers reversed characters = none := by
  fun_induction tooDeep fewer inside closers reversed characters with
  | case1 => rfl
  | case2 closers reversed mark rest inductionHypothesis =>
      rw [tooDeep]
      exact inductionHypothesis nests
  | case3 inside closers reversed rest plain inductionHypothesis =>
      rw [tooDeep, if_pos rfl]
      · exact inductionHypothesis nests
      · exact plain
  | case4 closers reversed character rest notQuote plain inductionHypothesis =>
      rw [tooDeep, if_neg notQuote, if_pos rfl]
      · exact inductionHypothesis nests
      · exact plain
  | case5 inside closers reversed character rest plain notQuote outside closer
      word opens room inductionHypothesis =>
      rw [tooDeep, if_neg notQuote, if_neg outside, opens]
      · dsimp only
        rw [if_pos (room.trans_le atMost)]
        exact inductionHypothesis nests
      · exact plain
  | case6 => cases nests
  | case7 inside closers reversed character rest plain notQuote outside opens
      inductionHypothesis =>
      rw [tooDeep, if_neg notQuote, if_neg outside, opens]
      · exact inductionHypothesis nests
      · exact plain

theorem nestsWithin_of_fits {depth : Nat} {limit : Option Nat}
    {characters : List Char} (fits : Fits depth limit)
    (nests : tooDeep depth false [] [] characters = none) :
    NestsWithin limit characters := by
  intro most isLimit
  exact tooDeep_mono (fits most isLimit) false [] [] characters nests

theorem loadsWithin_none (text : String) :
    loadsWithin none text = loads text := rfl

theorem loadsWithin_of_nests {limit : Option Nat} {text : String}
    (nests : NestsWithin limit text.toList) :
    loadsWithin limit text = loads text := by
  unfold loadsWithin
  cases limit with
  | none => rfl
  | some most =>
      rw [Option.bind_some, nests most rfl]

theorem loadsWithin_eq_ok_iff (limit : Option Nat) (text : String)
    (value : Json) :
    loadsWithin limit text = .ok value ↔
      loads text = .ok value ∧ NestsWithin limit text.toList := by
  cases limit with
  | none =>
      have nests : NestsWithin none text.toList := fun _ isLimit => by
        cases isLimit
      rw [loadsWithin_none]
      exact (and_iff_left nests).symm
  | some most =>
      unfold loadsWithin NestsWithin
      rw [Option.bind_some]
      cases found : tooDeep most false [] [] text.toList with
      | none => simp [found]
      | some deep =>
          obtain ⟨word, before⟩ := deep
          cases read : loads text with
          | error exc =>
              dsimp only
              split <;> simp
          | ok other => simp [found, Except.toBool]

end Python.JsonReader

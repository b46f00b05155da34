import SwarmFi.Python.Float
import SwarmFi.Python.JsonWriter

/-!
# Values in f-strings

`str(value)` and `repr(value)` of the values that JSON has.  An integer of
more than 4300 digits has no decimal text, and a value may nest deeper than
the calls that the recursion limit leaves; nothing else fails.  Which
characters are printable, and their upper case, are the tables of the
interpreter's Unicode version, of which nothing is assumed.
-/

namespace Python

/-- `str.isprintable` and `str.upper` of one character. -/
structure CharacterTables where
  isPrintable : Char → Bool
  upper : Char → List Char

/-- The tables of a text in which every character prints and no letter has a
capital. -/
def asciiTables : CharacterTables :=
  ⟨fun _ => true, fun character => [character]⟩

namespace Display

/-! ## Numbers -/

def ShortInt (value : Int) : Prop :=
  (Nat.toDigits 10 value.natAbs).length ≤ 4300

instance ShortInt.decidable (value : Int) : Decidable (ShortInt value) :=
  inferInstanceAs (Decidable (_ ≤ _))

def intText (value : Int) : Except Exception (List Char) :=
  if ShortInt value then
    .ok (toString value).toList
  else
    .error ⟨.valueError,
      "Exceeds the limit (4300 digits) for integer string conversion; " ++
        "use sys.set_int_max_str_digits() to increase the limit"⟩

def floatText : PyFloat → List Char
  | .nan => "nan".toList
  | .posInf => "inf".toList
  | .negInf => "-inf".toList
  | .fin value => JsonWriter.writeFloat (.fin value)

/-- A comma before every third digit from the right. -/
def grouped : List Char → List Char
  | [] => []
  | digit :: rest =>
      if rest.length ≠ 0 ∧ rest.length % 3 = 0 then
        digit :: ',' :: grouped rest
      else
        digit :: grouped rest

/-- `f"{value:,.2f}"` -/
def formatGrouped : PyFloat → String
  | .nan => "nan"
  | .posInf => "inf"
  | .negInf => "-inf"
  | .fin value =>
      let hundredths :=
        (PyFloat.roundHalfEven ((if value < 0 then -value else value) * 100)).toNat
      (if value < 0 then "-" else "") ++
        String.ofList (grouped (toString (hundredths / 100)).toList) ++
          "." ++ toString (hundredths % 100 / 10) ++
            toString (hundredths % 10)

/-! ## Strings -/

def apostrophe : Char := Char.ofNat 39

/-- Apostrophes, unless the text has some and no quotation mark. -/
def quoteFor (characters : List Char) : Char :=
  if apostrophe ∈ characters ∧ '"' ∉ characters then '"' else apostrophe

/-- The last hexadecimal digits of a code. -/
def hexDigits : Nat → Nat → List Char
  | 0, _ => []
  | count + 1, code =>
      hexDigits count (code / 16) ++ [Nat.digitChar (code % 16)]

def reprCharacter (tables : CharacterTables) (quote character : Char) :
    List Char :=
  let code := character.toNat
  if character = quote ∨ character = '\\' then
    ['\\', character]
  else if code = 9 then
    ['\\', 't']
  else if code = 10 then
    ['\\', 'n']
  else if code = 13 then
    ['\\', 'r']
  else if tables.isPrintable character then
    [character]
  else if code ≤ 0xff then
    '\\' :: 'x' :: hexDigits 2 code
  else if code ≤ 0xffff then
    '\\' :: 'u' :: hexDigits 4 code
  else
    '\\' :: 'U' :: hexDigits 8 code

def reprString (tables : CharacterTables) (text : String) : List Char :=
  let quote := quoteFor text.toList
  quote :: text.toList.flatMap (reprCharacter tables quote) ++ [quote]

/-! ## Values -/

variable (tables : CharacterTables)

mutual

/-- `repr(value)` -/
def reprValue : Json → Except Exception (List Char)
  | .null => .ok "None".toList
  | .bool true => .ok "True".toList
  | .bool false => .ok "False".toList
  | .int value => intText value
  | .float value => .ok (floatText value)
  | .str text => .ok (reprString tables text)
  | .arr items => do
      let inner ← reprItems items
      return '[' :: inner ++ [']']
  | .obj fields => do
      let inner ← reprFields fields
      return '{' :: inner ++ ['}']

def reprItems : List Json → Except Exception (List Char)
  | [] => .ok []
  | item :: rest => do
      let first ← reprValue item
      let others ← reprItems rest
      return first ++ (if rest.isEmpty then [] else ',' :: ' ' :: others)

def reprFields : List (String × Json) → Except Exception (List Char)
  | [] => .ok []
  | (key, value) :: rest => do
      let first ← reprValue value
      let others ← reprFields rest
      return reprString tables key ++ ':' :: ' ' :: first ++
        (if rest.isEmpty then [] else ',' :: ' ' :: others)

end

/-- `str(value)` -/
def str : Json → Except Exception String
  | .str text => .ok text
  | value => do
      let characters ← reprValue tables value
      return String.ofList characters

/-- `text.upper()` -/
def upper (text : String) : String :=
  String.ofList (text.toList.flatMap tables.upper)

/-! ## What has a text -/

mutual

/-- No integer in the value has more than 4300 digits. -/
def Short : Json → Prop
  | .int value => ShortInt value
  | .arr items => ShortItems items
  | .obj fields => ShortFields fields
  | _ => True

def ShortItems : List Json → Prop
  | [] => True
  | item :: rest => Short item ∧ ShortItems rest

def ShortFields : List (String × Json) → Prop
  | [] => True
  | (_, value) :: rest => Short value ∧ ShortFields rest

end

theorem intText_returns_iff (value : Int) :
    (∃ characters, intText value = .ok characters) ↔ ShortInt value := by
  unfold intText
  by_cases short : ShortInt value
  · simp [short]
  · simp [short]

mutual

theorem reprValue_returns_iff (value : Json) :
    (∃ characters, reprValue tables value = .ok characters) ↔
      Short value := by
  cases value with
  | null => simp [reprValue, Short]
  | bool value => cases value <;> simp [reprValue, Short]
  | int value =>
      rw [reprValue, Short]
      exact intText_returns_iff value
  | float value => simp [reprValue, Short]
  | str text => simp [reprValue, Short]
  | arr items =>
      rw [reprValue, Short, ← reprItems_returns_iff items]
      cases reprItems tables items <;> simp [bind, Except.bind, pure,
        Except.pure]
  | obj fields =>
      rw [reprValue, Short, ← reprFields_returns_iff fields]
      cases reprFields tables fields <;> simp [bind, Except.bind, pure,
        Except.pure]

theorem reprItems_returns_iff (items : List Json) :
    (∃ characters, reprItems tables items = .ok characters) ↔
      ShortItems items := by
  cases items with
  | nil => simp [reprItems, ShortItems]
  | cons item rest =>
      rw [reprItems, ShortItems, ← reprValue_returns_iff item,
        ← reprItems_returns_iff rest]
      cases reprValue tables item with
      | error exc => simp [bind, Except.bind]
      | ok first =>
          cases reprItems tables rest <;> simp [bind, Except.bind, pure,
            Except.pure]

theorem reprFields_returns_iff (fields : List (String × Json)) :
    (∃ characters, reprFields tables fields = .ok characters) ↔
      ShortFields fields := by
  cases fields with
  | nil => simp [reprFields, ShortFields]
  | cons field rest =>
      obtain ⟨key, value⟩ := field
      rw [reprFields, ShortFields, ← reprValue_returns_iff value,
        ← reprFields_returns_iff rest]
      cases reprValue tables value with
      | error exc => simp [bind, Except.bind]
      | ok first =>
          cases reprFields tables rest <;> simp [bind, Except.bind, pure,
            Except.pure]

end

theorem str_returns_iff (value : Json) :
    (∃ text, str tables value = .ok text) ↔ Short value := by
  rw [← reprValue_returns_iff tables value]
  cases value with
  | str text => simp [str, reprValue]
  | _ =>
      rw [str]
      · cases reprValue tables _ <;> simp [bind, Except.bind, pure,
          Except.pure]
      · simp

/-! ## Within the recursion limit -/

/-- One nested call of `repr`, where so many are left; `none` is a limit out
of reach. -/
def enterRepr : Option Nat → Except Exception (Option Nat)
  | none => .ok none
  | some 0 =>
      .error (recursionError "while getting the repr of an object")
  | some (left + 1) => .ok (some left)

mutual

/-- Whether `repr(value)` returns, without its text. -/
def reprWithin (room : Option Nat) : Json → Except Exception Unit
  | .int value => do
      let _ ← enterRepr room
      let _ ← intText value
      return ()
  | .arr items => do
      let left ← enterRepr room
      itemsWithin left items
  | .obj fields => do
      let left ← enterRepr room
      fieldsWithin left fields
  | _ => do
      let _ ← enterRepr room
      return ()

def itemsWithin (room : Option Nat) : List Json → Except Exception Unit
  | [] => .ok ()
  | item :: rest => do
      reprWithin room item
      itemsWithin room rest

/-- A key is a string: it needs no more room than the value beside it. -/
def fieldsWithin (room : Option Nat) :
    List (String × Json) → Except Exception Unit
  | [] => .ok ()
  | (_, value) :: rest => do
      reprWithin room value
      fieldsWithin room rest

end

/-- Whether `f"{value}"` returns: a string is its own text. -/
def formatWithin (room : Option Nat) : Json → Except Exception Unit
  | .str _ => .ok ()
  | value => reprWithin room value

mutual

/-- The nested calls that `repr(value)` makes. -/
def reprDepth : Json → Nat
  | .arr items => itemsDepth items + 1
  | .obj fields => fieldsDepth fields + 1
  | _ => 1

def itemsDepth : List Json → Nat
  | [] => 0
  | item :: rest => max (reprDepth item) (itemsDepth rest)

def fieldsDepth : List (String × Json) → Nat
  | [] => 0
  | (_, value) :: rest => max (reprDepth value) (fieldsDepth rest)

end

/-- The value prints: it is a string, or its integers are short and it does
not nest too deep. -/
def Prints (room : Option Nat) (value : Json) : Prop :=
  (∃ text, value = .str text) ∨
    (Short value ∧ Fits (reprDepth value) room)

/-- A call is entered, and what it calls fits into what is left then. -/
theorem fits_succ_iff (depth : Nat) (room : Option Nat) :
    Fits (depth + 1) room ↔
      ∃ left, enterRepr room = .ok left ∧ Fits depth left := by
  match room with
  | none =>
      exact iff_of_true (fits_none _) ⟨none, rfl, fits_none depth⟩
  | some 0 => simp [fits_some_iff, enterRepr]
  | some (left + 1) => simp [fits_some_iff, enterRepr]

mutual

theorem reprWithin_eq_ok_iff (room : Option Nat) (value : Json) :
    reprWithin room value = .ok () ↔
      Short value ∧ Fits (reprDepth value) room := by
  cases value with
  | int value =>
      have leaf : reprDepth (.int value) = 0 + 1 := by simp [reprDepth]
      rw [reprWithin, Short, leaf, fits_succ_iff, ← intText_returns_iff]
      simp [bind_eq_ok_iff, fits_zero, pure, Except.pure, and_comm]
  | arr items =>
      rw [reprWithin, Short, reprDepth, fits_succ_iff, bind_eq_ok_iff]
      simp only [itemsWithin_eq_ok_iff]
      exact ⟨fun ⟨left, entered, short, fits⟩ =>
          ⟨short, left, entered, fits⟩,
        fun ⟨short, left, entered, fits⟩ => ⟨left, entered, short, fits⟩⟩
  | obj fields =>
      rw [reprWithin, Short, reprDepth, fits_succ_iff, bind_eq_ok_iff]
      simp only [fieldsWithin_eq_ok_iff]
      exact ⟨fun ⟨left, entered, short, fits⟩ =>
          ⟨short, left, entered, fits⟩,
        fun ⟨short, left, entered, fits⟩ => ⟨left, entered, short, fits⟩⟩
  | _ =>
      simp [reprWithin, Short, reprDepth, fits_succ_iff, bind_eq_ok_iff,
        fits_zero, pure, Except.pure]

theorem itemsWithin_eq_ok_iff (room : Option Nat) (items : List Json) :
    itemsWithin room items = .ok () ↔
      ShortItems items ∧ Fits (itemsDepth items) room := by
  cases items with
  | nil => simp [itemsWithin, ShortItems, itemsDepth, fits_zero]
  | cons item rest =>
      rw [itemsWithin, ShortItems, itemsDepth, fits_max_iff, bind_eq_ok_iff]
      simp only [reprWithin_eq_ok_iff room item,
        itemsWithin_eq_ok_iff room rest]
      exact ⟨fun ⟨_, first, others⟩ =>
          ⟨⟨first.1, others.1⟩, first.2, others.2⟩,
        fun ⟨short, fits⟩ => ⟨(), ⟨short.1, fits.1⟩, short.2, fits.2⟩⟩

theorem fieldsWithin_eq_ok_iff (room : Option Nat)
    (fields : List (String × Json)) :
    fieldsWithin room fields = .ok () ↔
      ShortFields fields ∧ Fits (fieldsDepth fields) room := by
  cases fields with
  | nil => simp [fieldsWithin, ShortFields, fieldsDepth, fits_zero]
  | cons field rest =>
      obtain ⟨key, value⟩ := field
      rw [fieldsWithin, ShortFields, fieldsDepth, fits_max_iff,
        bind_eq_ok_iff]
      simp only [reprWithin_eq_ok_iff room value,
        fieldsWithin_eq_ok_iff room rest]
      exact ⟨fun ⟨_, first, others⟩ =>
          ⟨⟨first.1, others.1⟩, first.2, others.2⟩,
        fun ⟨short, fits⟩ => ⟨(), ⟨short.1, fits.1⟩, short.2, fits.2⟩⟩

end

/-- A value is formatted exactly where it prints. -/
theorem formatWithin_eq_ok_iff (room : Option Nat) (value : Json)
    (done : Unit) :
    formatWithin room value = .ok done ↔ Prints room value := by
  have isUnit : done = () := rfl
  rw [isUnit, Prints]
  cases value with
  | str text => simp [formatWithin]
  | _ => simp [formatWithin, reprWithin_eq_ok_iff]

end Display

end Python

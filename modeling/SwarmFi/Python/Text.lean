import Mathlib

/-!
# Strings and exceptions

Python strings are modelled by `String`.  A lone surrogate, which a Python
string may hold and a `String` may not, is outside the model.
-/

namespace Python

/-! ## Exceptions -/

/-- The classes of exceptions the code tells apart, and the rest by name. -/
inductive ExceptionKind where
  | connectError
  | timeoutException
  | httpStatusError
  | validationError
  | valueError
  | typeError
  | attributeError
  | keyError
  | overflowError
  | runtimeError
  | other (name : String)
  deriving DecidableEq, Repr

/-- An exception: its class and `str(exc)`. -/
structure Exception where
  kind : ExceptionKind
  text : String
  deriving DecidableEq, Repr

/-- A computation that succeeds has succeeded in both of its parts. -/
theorem bind_eq_ok_iff {ε α β : Type}
    (first : Except ε α) (next : α → Except ε β) (result : β) :
    (first >>= next) = .ok result ↔
      ∃ value, first = .ok value ∧ next value = .ok result := by
  cases first with
  | error error => simp [bind, Except.bind]
  | ok value => simp [bind, Except.bind]

theorem eq_ok_of_toOption {ε α : Type}
    {outcome : Except ε α} {value : α}
    (isSome : outcome.toOption = some value) : outcome = .ok value := by
  cases outcome with
  | error error => cases isSome
  | ok other => exact congrArg Except.ok (Option.some.inj isSome)

/-! ## The recursion limit -/

/-- Where a call would nest deeper than the interpreter's recursion limit. -/
def recursionError (doing : String) : Exception :=
  ⟨.other "RecursionError", "maximum recursion depth exceeded " ++ doing⟩

/-- So many nested calls fit into what is left of them; `none` is a limit out
of reach. -/
def Fits (depth : Nat) (room : Option Nat) : Prop :=
  ∀ left, room = some left → depth ≤ left

theorem fits_none (depth : Nat) : Fits depth none := by
  intro left isLeft
  cases isLeft

theorem fits_zero (room : Option Nat) : Fits 0 room :=
  fun left _ => Nat.zero_le left

theorem fits_some_iff (depth left : Nat) :
    Fits depth (some left) ↔ depth ≤ left := by
  simp [Fits]

theorem fits_max_iff (first second : Nat) (room : Option Nat) :
    Fits (max first second) room ↔ Fits first room ∧ Fits second room := by
  cases room with
  | none => exact iff_of_true (fits_none _) ⟨fits_none _, fits_none _⟩
  | some left =>
      rw [fits_some_iff, fits_some_iff, fits_some_iff]
      exact max_le_iff

/-! ## Characters -/

/-- `str.isspace` of one character. -/
def isSpace (character : Char) : Bool :=
  [0x09, 0x0a, 0x0b, 0x0c, 0x0d, 0x1c, 0x1d, 0x1e, 0x1f, 0x20, 0x85, 0xa0,
    0x1680, 0x2000, 0x2001, 0x2002, 0x2003, 0x2004, 0x2005, 0x2006, 0x2007,
    0x2008, 0x2009, 0x200a, 0x2028, 0x2029, 0x202f, 0x205f, 0x3000].contains
      character.toNat

/-- `str.lower` of one character, for the characters whose lower case has an
ASCII letter in it; the code compares lower-cased text with ASCII words only. -/
def lowerChar (character : Char) : List Char :=
  let code := character.toNat
  if 65 ≤ code ∧ code ≤ 90 then
    [Char.ofNat (code + 32)]
  else if code = 0x212a then
    ['k']
  else if code = 0x130 then
    ['i', Char.ofNat 0x307]
  else
    [character]

/-! ## String methods -/

def stripChars (characters : List Char) : List Char :=
  ((characters.dropWhile isSpace).reverse.dropWhile isSpace).reverse

/-- `text.strip()` -/
def strip (text : String) : String :=
  String.ofList (stripChars text.toList)

/-- `text.lower()` -/
def lower (text : String) : String :=
  String.ofList (text.toList.flatMap lowerChar)

/-- The rest of `characters` after `start`, when it begins so. -/
def afterStart : List Char → List Char → Option (List Char)
  | [], characters => some characters
  | _ :: _, [] => none
  | first :: start, head :: characters =>
      if first = head then afterStart start characters else none

/-- `text.startswith(start)` -/
def startsWith (text start : String) : Bool :=
  (afterStart start.toList text.toList).isSome

theorem afterStart_eq_some_iff (start characters rest : List Char) :
    afterStart start characters = some rest ↔
      characters = start ++ rest := by
  induction start generalizing characters with
  | nil =>
      rw [afterStart, Option.some.injEq]
      rfl
  | cons first start inductionHypothesis =>
      cases characters with
      | nil => simp [afterStart]
      | cons head characters =>
          rw [afterStart, List.cons_append, List.cons.injEq]
          by_cases same : first = head
          · rw [if_pos same, inductionHypothesis]
            exact (and_iff_right same.symm).symm
          · rw [if_neg same]
            simp [Ne.symm same]

theorem afterStart_mark (characters rest : List Char) :
    afterStart "0x".toList characters = some rest ↔
      characters = '0' :: 'x' :: rest :=
  afterStart_eq_some_iff ['0', 'x'] characters rest

theorem startsWith_mark_iff (text : String) :
    startsWith text "0x" = true ↔
      ∃ rest, text.toList = '0' :: 'x' :: rest := by
  unfold startsWith
  rw [Option.isSome_iff_exists]
  exact exists_congr fun rest => afterStart_mark text.toList rest

/-- `text.removeprefix(start)` -/
def removePrefix (text start : String) : String :=
  match afterStart start.toList text.toList with
  | some rest => String.ofList rest
  | none => text

def hasInfix (part : List Char) : List Char → Bool
  | [] => (afterStart part []).isSome
  | head :: characters =>
      (afterStart part (head :: characters)).isSome ||
        hasInfix part characters

/-- `part in text` -/
def isIn (part text : String) : Bool :=
  hasInfix part.toList text.toList

/-! ## Truthiness -/

/-- `first or second` of two strings. -/
def orElse (first second : String) : String :=
  if first = "" then second else first

/-- `bool(value)` of a string or `None`. -/
def truthy : Option String → Bool
  | none => false
  | some text => decide (text ≠ "")

@[simp]
theorem truthy_none : truthy none = false := rfl

@[simp]
theorem truthy_some (text : String) :
    truthy (some text) = decide (text ≠ "") := rfl

theorem truthy_eq_true_iff (value : Option String) :
    truthy value = true ↔ ∃ text, value = some text ∧ text ≠ "" := by
  cases value <;> simp

/-- `os.environ`, read through `os.getenv`. -/
abbrev Environ := String → Option String

/-- `(os.getenv(name) or default).strip()` -/
def getenvOr (environ : Environ) (name default : String) : String :=
  strip (orElse ((environ name).getD "") default)

end Python

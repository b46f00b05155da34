import SwarmFi.Python.JsonRoundTrip

/-!
# The syntax of a JSON text

`JsonReader` reads a text at once as the values of the model, whose strings
have no surrogates, and forgets the members of an object that a repeated key
replaces.  Here the text is first read as a tree that has its literals as they
are written and every member of its objects; `Reads` is the grammar of what it
reads, and `loads_eq` says that the two readers take the same texts and that
the tree stands for the same value.

`Value` is what `json.loads` returns, exactly: a string is a list of code
points, lone surrogates among them, and a dict is what it has under each key.
-/

namespace Python.JsonSyntax

open JsonReader

/-! ## Literals -/

/-- What may stand between the quotes of a strict literal. -/
inductive Written : List Char → Prop
  | nil : Written []
  | unicode {a b c d : Char} {rest : List Char}
      (hexadecimal : [a, b, c, d].all isHex = true)
      (later : Written rest) :
      Written ('\\' :: 'u' :: a :: b :: c :: d :: rest)
  | escape {mark : Char} {rest : List Char}
      (isEscape : (simpleEscape mark).isSome = true)
      (later : Written rest) : Written ('\\' :: mark :: rest)
  | plain {character : Char} {rest : List Char}
      (notQuote : character ≠ '"') (notEscape : character ≠ '\\')
      (printed : 0x1f < character.toNat) (later : Written rest) :
      Written (character :: rest)

/-- A literal as it is written, up to its closing quote. -/
def readWritten : List Char → Reading (List Char)
  | [] => none
  | '\\' :: 'u' :: a :: b :: c :: d :: rest =>
      if [a, b, c, d].all isHex then
        (readWritten rest).map fun (later, tail) =>
          ('\\' :: 'u' :: a :: b :: c :: d :: later, tail)
      else
        none
  | '\\' :: mark :: rest =>
      if (simpleEscape mark).isSome then
        (readWritten rest).map fun (later, tail) =>
          ('\\' :: mark :: later, tail)
      else
        none
  | character :: rest =>
      if character = '"' then
        some ([], rest)
      else if character = '\\' ∨ character.toNat ≤ 0x1f then
        none
      else
        (readWritten rest).map fun (later, tail) =>
          (character :: later, tail)

theorem readWritten_eq_some {characters source rest : List Char}
    (read : readWritten characters = some (source, rest)) :
    Written source ∧ characters = source ++ '"' :: rest := by
  fun_induction readWritten characters generalizing source with
  | case1 => cases read
  | case2 a b c d more hexadecimal inductionHypothesis =>
      obtain ⟨⟨later, tail⟩, isLater, same⟩ := Option.map_eq_some_iff.mp read
      cases same
      obtain ⟨written, rfl⟩ := inductionHypothesis isLater
      exact ⟨.unicode hexadecimal written, rfl⟩
  | case3 => cases read
  | case4 mark more _ isEscape inductionHypothesis =>
      obtain ⟨⟨later, tail⟩, isLater, same⟩ := Option.map_eq_some_iff.mp read
      cases same
      obtain ⟨written, rfl⟩ := inductionHypothesis isLater
      exact ⟨.escape isEscape written, rfl⟩
  | case5 => cases read
  | case6 =>
      cases read
      exact ⟨.nil, rfl⟩
  | case7 => cases read
  | case8 character more _ _ notQuote printed inductionHypothesis =>
      obtain ⟨⟨later, tail⟩, isLater, same⟩ := Option.map_eq_some_iff.mp read
      cases same
      obtain ⟨written, rfl⟩ := inductionHypothesis isLater
      rw [not_or, Nat.not_le] at printed
      exact ⟨.plain notQuote printed.1 printed.2 written, rfl⟩

theorem readWritten_of_written {source : List Char} (written : Written source)
    (rest : List Char) :
    readWritten (source ++ '"' :: rest) = some (source, rest) := by
  induction written with
  | nil => rfl
  | unicode hexadecimal later inductionHypothesis =>
      simp only [List.cons_append]
      rw [readWritten, if_pos hexadecimal, inductionHypothesis]
      rfl
  | @escape mark more isEscape later inductionHypothesis =>
      have notUnicode : mark ≠ 'u' := by
        rintro rfl
        cases isEscape
      simp only [List.cons_append]
      rw [readWritten, if_pos isEscape, inductionHypothesis]
      · rfl
      · intro _ _ _ _ _ same
        exact absurd same notUnicode
  | plain notQuote notEscape printed later inductionHypothesis =>
      rw [List.cons_append, readWritten, if_neg notQuote, if_neg,
        inductionHypothesis]
      · rfl
      · rw [not_or, Nat.not_le]
        exact ⟨notEscape, printed⟩
      · intro _ _ _ _ _ same
        exact absurd same notEscape
      · intro _ _ same
        exact absurd same notEscape

/-- A literal, without its quotes. -/
structure Quoted where
  source : List Char
  written : Written source

namespace Quoted

@[ext]
theorem ext {first second : Quoted} (same : first.source = second.source) :
    first = second := by
  cases first
  cases second
  cases same
  rfl

end Quoted

/-- A literal after its opening quote. -/
def readQuoted (characters : List Char) : Reading Quoted :=
  match read : readWritten characters with
  | none => none
  | some (source, rest) =>
      some (⟨source, (readWritten_eq_some read).1⟩, rest)

theorem readQuoted_eq_some_iff (characters rest : List Char)
    (quoted : Quoted) :
    readQuoted characters = some (quoted, rest) ↔
      characters = quoted.source ++ '"' :: rest := by
  constructor
  · intro read
    unfold readQuoted at read
    split at read
    · cases read
    · next source tail isRead =>
        cases read
        exact (readWritten_eq_some isRead).2
  · rintro rfl
    have isRead := readWritten_of_written quoted.written rest
    unfold readQuoted
    split
    · next notRead =>
        rw [isRead] at notRead
        cases notRead
    · next source tail again =>
        rw [isRead] at again
        cases again
        rfl

/-! ## Code points -/

def hexCode (a b c d : Char) : Nat :=
  ((digitValue a * 16 + digitValue b) * 16 + digitValue c) * 16 +
    digitValue d

/-- What the characters and escapes of a literal stand for, one by one. -/
def units : List Char → List Nat
  | [] => []
  | '\\' :: 'u' :: a :: b :: c :: d :: rest => hexCode a b c d :: units rest
  | '\\' :: mark :: rest =>
      ((simpleEscape mark).getD mark).toNat :: units rest
  | character :: rest => character.toNat :: units rest

/-- A high surrogate and a low one after it are one code point. -/
def joined : List Nat → List Nat
  | high :: low :: rest =>
      if isHighSurrogate high && isLowSurrogate low then
        (0x10000 + (high - 0xd800) * 0x400 + (low - 0xdc00)) :: joined rest
      else
        high :: joined (low :: rest)
  | others => others

namespace Quoted

/-- The string of a literal. -/
def codes (quoted : Quoted) : List Nat :=
  joined (units quoted.source)

-- A lone surrogate stays what it is, and a pair is one character.
example :
    (readQuoted "\\ud800\"".toList).map (·.1.codes) = some [0xd800] ∧
      (readQuoted "\\ud83d\\ude00\"".toList).map (·.1.codes) =
        some [0x1f600] := by
  decide +kernel

/-- The string in the model's own values. -/
def string (quoted : Quoted) : String :=
  String.ofList (quoted.codes.map charOfCode)

end Quoted

/-! ## Trees -/

/-- A JSON text, with its literals as they are written. -/
inductive Tree
  | word (value : Json)
  | text (literal : Quoted)
  | arr (items : List Tree)
  | obj (members : List (Quoted × Tree))

/-- A number, or one of the words that stand for values. -/
def readWord (characters : List Char) : Reading Json :=
  match readLiteral characters with
  | some literal => some literal
  | none => readNumber characters

mutual

/-- A value that begins with the first character. -/
def parseValue : Nat → List Char → Reading Tree
  | 0, _ => none
  | _ + 1, [] => none
  | fuel + 1, character :: rest =>
      if character = '"' then
        (readQuoted rest).map fun (literal, tail) => (.text literal, tail)
      else if character = '{' then
        match skipBlank rest with
        | '}' :: tail => some (.obj [], tail)
        | inside =>
            (parseMembers fuel inside).map fun (members, tail) =>
              (.obj members, tail)
      else if character = '[' then
        match skipBlank rest with
        | ']' :: tail => some (.arr [], tail)
        | inside =>
            (parseItems fuel inside).map fun (items, tail) =>
              (.arr items, tail)
      else
        (readWord (character :: rest)).map fun (value, tail) =>
          (.word value, tail)

/-- The members of an object, from a key on. -/
def parseMembers : Nat → List Char → Reading (List (Quoted × Tree))
  | fuel + 1, '"' :: rest =>
      match readQuoted rest with
      | none => none
      | some (key, afterKey) =>
          match skipBlank afterKey with
          | ':' :: afterColon =>
              match parseValue fuel (skipBlank afterColon) with
              | none => none
              | some (value, afterValue) =>
                  match skipBlank afterValue with
                  | '}' :: tail => some ([(key, value)], tail)
                  | ',' :: more =>
                      (parseMembers fuel (skipBlank more)).map
                        fun (members, tail) =>
                          ((key, value) :: members, tail)
                  | _ => none
          | _ => none
  | _, _ => none

/-- The items of an array, from a value on. -/
def parseItems : Nat → List Char → Reading (List Tree)
  | 0, _ => none
  | fuel + 1, characters =>
      match parseValue fuel characters with
      | none => none
      | some (value, afterValue) =>
          match skipBlank afterValue with
          | ']' :: tail => some ([value], tail)
          | ',' :: more =>
              (parseItems fuel (skipBlank more)).map fun (items, tail) =>
                (value :: items, tail)
          | _ => none

end

/-- The tree of a text. -/
def parse (text : String) : Except Exception Tree :=
  match parseValue (2 * text.toList.length + 2) (skipBlank text.toList) with
  | some (tree, tail) =>
      if skipBlank tail = [] then
        .ok tree
      else
        .error ⟨.other "JSONDecodeError", "Extra data"⟩
  | none => .error ⟨.other "JSONDecodeError", "Expecting value"⟩

/-! ## Values -/

/-- A Python value: a dict is what it has under each key. -/
inductive Value
  | word (value : Json)
  | text (codes : List Nat)
  | arr (items : List Value)
  | obj (member : List Nat → Option Value)

mutual

/-- The value of a tree, with the last member under each key. -/
def Tree.value : Tree → Value
  | .word value => .word value
  | .text literal => .text literal.codes
  | .arr items => .arr (itemsValue items)
  | .obj members => .obj (memberValue members)

def itemsValue : List Tree → List Value
  | [] => []
  | item :: rest => item.value :: itemsValue rest

def memberValue : List (Quoted × Tree) → List Nat → Option Value
  | [], _ => none
  | (name, tree) :: rest, key =>
      (memberValue rest key).or
        (if name.codes = key then some tree.value else none)

end

/-- `json.loads(text)` -/
def loads (text : String) : Except Exception Value :=
  (parse text).map Tree.value

mutual

/-- The value of a tree among the model's own. -/
def Tree.json : Tree → Json
  | .word value => value
  | .text literal => .str literal.string
  | .arr items => .arr (itemsJson items)
  | .obj members => .obj (fieldsJson [] members)

def itemsJson : List Tree → List Json
  | [] => []
  | item :: rest => item.json :: itemsJson rest

/-- Members are set one by one. -/
def fieldsJson : Dict → List (Quoted × Tree) → Dict
  | fields, [] => fields
  | fields, (name, tree) :: rest =>
      fieldsJson (fields.set name.string tree.json) rest

end

/-! ## What a tree is read from -/

/-- What the three parsers return. -/
inductive Part
  | value (tree : Tree)
  | members (members : List (Quoted × Tree))
  | items (items : List Tree)

/-- A part is read from a text, up to a tail: a value; the members of an
object, from a key on and up to the brace after the last one; the items of an
array. -/
inductive Reads : List Char → Part → List Char → Prop
  | text {rest tail : List Char} {literal : Quoted}
      (isLiteral : readQuoted rest = some (literal, tail)) :
      Reads ('"' :: rest) (.value (.text literal)) tail
  | emptyObject {rest tail : List Char}
      (closed : skipBlank rest = '}' :: tail) :
      Reads ('{' :: rest) (.value (.obj [])) tail
  | object {rest tail : List Char} {members : List (Quoted × Tree)}
      (notEnd : (skipBlank rest).head? ≠ some '}')
      (areMembers : Reads (skipBlank rest) (.members members) tail) :
      Reads ('{' :: rest) (.value (.obj members)) tail
  | emptyArray {rest tail : List Char}
      (closed : skipBlank rest = ']' :: tail) :
      Reads ('[' :: rest) (.value (.arr [])) tail
  | array {rest tail : List Char} {items : List Tree}
      (notEnd : (skipBlank rest).head? ≠ some ']')
      (areItems : Reads (skipBlank rest) (.items items) tail) :
      Reads ('[' :: rest) (.value (.arr items)) tail
  | word {first : Char} {rest tail : List Char} {value : Json}
      (quote : first ≠ '"') (brace : first ≠ '{') (bracket : first ≠ '[')
      (isValue : readWord (first :: rest) = some (value, tail)) :
      Reads (first :: rest) (.value (.word value)) tail
  | lastMember {rest afterKey afterColon afterValue tail : List Char}
      {key : Quoted} {value : Tree}
      (isKey : readQuoted rest = some (key, afterKey))
      (isColon : skipBlank afterKey = ':' :: afterColon)
      (isValue : Reads (skipBlank afterColon) (.value value) afterValue)
      (closed : skipBlank afterValue = '}' :: tail) :
      Reads ('"' :: rest) (.members [(key, value)]) tail
  | member {rest afterKey afterColon afterValue more tail : List Char}
      {key : Quoted} {value : Tree} {others : List (Quoted × Tree)}
      (isKey : readQuoted rest = some (key, afterKey))
      (isColon : skipBlank afterKey = ':' :: afterColon)
      (isValue : Reads (skipBlank afterColon) (.value value) afterValue)
      (isComma : skipBlank afterValue = ',' :: more)
      (areOthers : Reads (skipBlank more) (.members others) tail) :
      Reads ('"' :: rest) (.members ((key, value) :: others)) tail
  | lastItem {characters afterValue tail : List Char} {value : Tree}
      (isValue : Reads characters (.value value) afterValue)
      (closed : skipBlank afterValue = ']' :: tail) :
      Reads characters (.items [value]) tail
  | item {characters afterValue more tail : List Char} {value : Tree}
      {others : List Tree}
      (isValue : Reads characters (.value value) afterValue)
      (isComma : skipBlank afterValue = ',' :: more)
      (areOthers : Reads (skipBlank more) (.items others) tail) :
      Reads characters (.items (value :: others)) tail

/-- The parser of the part returns it, with so much fuel. -/
def Part.ParsedWith (fuel : Nat) (characters : List Char) (part : Part)
    (tail : List Char) : Prop :=
  match part with
  | .value tree => parseValue fuel characters = some (tree, tail)
  | .members all => parseMembers fuel characters = some (all, tail)
  | .items all => parseItems fuel characters = some (all, tail)

/-- A text that does not begin with a sign has none at its head. -/
theorem head_ne_of_others {characters : List Char} {sign : Char}
    (others : ∀ tail, characters = sign :: tail → False) :
    characters.head? ≠ some sign := by
  intro same
  obtain ⟨tail, begins⟩ := List.head?_eq_some_iff.mp same
  exact others tail begins

section Sound

variable {fuel : Nat}
  (sound : ∀ {characters tail : List Char} {part : Part},
    part.ParsedWith fuel characters tail → Reads characters part tail)
  {characters tail : List Char}

include sound

theorem reads_value {tree : Tree}
    (read : parseValue (fuel + 1) characters = some (tree, tail)) :
    Reads characters (.value tree) tail := by
  cases characters with
  | nil => cases read
  | cons first rest =>
      rw [parseValue] at read
      by_cases quote : first = '"'
      · subst quote
        rw [if_pos rfl, Option.map_eq_some_iff] at read
        obtain ⟨_, isLiteral, same⟩ := read
        cases same
        exact .text isLiteral
      rw [if_neg quote] at read
      by_cases brace : first = '{'
      · subst brace
        rw [if_pos rfl] at read
        split at read
        · next closed =>
            cases read
            exact .emptyObject closed
        · next others =>
            obtain ⟨⟨members, _⟩, areMembers, same⟩ :=
              Option.map_eq_some_iff.mp read
            cases same
            exact .object (head_ne_of_others others)
              (@sound _ _ (.members members) areMembers)
      rw [if_neg brace] at read
      by_cases bracket : first = '['
      · subst bracket
        rw [if_pos rfl] at read
        split at read
        · next closed =>
            cases read
            exact .emptyArray closed
        · next others =>
            obtain ⟨⟨items, _⟩, areItems, same⟩ :=
              Option.map_eq_some_iff.mp read
            cases same
            exact .array (head_ne_of_others others)
              (@sound _ _ (.items items) areItems)
      rw [if_neg bracket, Option.map_eq_some_iff] at read
      obtain ⟨_, isValue, same⟩ := read
      cases same
      exact .word quote brace bracket isValue

theorem reads_members {members : List (Quoted × Tree)}
    (read : parseMembers (fuel + 1) characters = some (members, tail)) :
    Reads characters (.members members) tail := by
  cases characters with
  | nil => cases read
  | cons first rest =>
      by_cases quote : first = '"'
      · subst quote
        rw [parseMembers] at read
        split at read
        · cases read
        · next key afterKey isKey =>
            split at read
            · next afterColon isColon =>
                split at read
                · cases read
                · next value afterValue isValue =>
                    have ofValue := @sound _ _ (.value value) isValue
                    split at read
                    · next closed =>
                        cases read
                        exact .lastMember isKey isColon ofValue closed
                    · next more isComma =>
                        obtain ⟨⟨others, _⟩, areOthers, same⟩ :=
                          Option.map_eq_some_iff.mp read
                        cases same
                        exact .member isKey isColon ofValue isComma
                          (@sound _ _ (.members others) areOthers)
                    · cases read
            · cases read
      · simp [parseMembers, quote] at read

theorem reads_items {items : List Tree}
    (read : parseItems (fuel + 1) characters = some (items, tail)) :
    Reads characters (.items items) tail := by
  rw [parseItems] at read
  split at read
  · cases read
  · next value afterValue isValue =>
      have ofValue := @sound _ _ (.value value) isValue
      split at read
      · next closed =>
          cases read
          exact .lastItem ofValue closed
      · next more isComma =>
          obtain ⟨⟨others, _⟩, areOthers, same⟩ :=
            Option.map_eq_some_iff.mp read
          cases same
          exact .item ofValue isComma
            (@sound _ _ (.items others) areOthers)
      · cases read

end Sound

/-- What a parser returns is read from the text. -/
theorem reads_of_parsed (fuel : Nat) :
    ∀ {characters tail : List Char} {part : Part},
      part.ParsedWith fuel characters tail → Reads characters part tail := by
  induction fuel with
  | zero =>
      intro characters tail part parsed
      cases part with
      | value tree => cases parsed
      | members members =>
          unfold Part.ParsedWith parseMembers at parsed
          cases parsed
      | items items => cases parsed
  | succ fuel inductionHypothesis =>
      intro characters tail part parsed
      cases part with
      | value tree => exact reads_value inductionHypothesis parsed
      | members members => exact reads_members inductionHypothesis parsed
      | items items => exact reads_items inductionHypothesis parsed

/-! ## The model's reader takes the same texts -/

section Units

variable (rest : List Char)

theorem units_unicode (a b c d : Char) :
    units ('\\' :: 'u' :: a :: b :: c :: d :: rest) =
      hexCode a b c d :: units rest := rfl

theorem units_escape {mark decoded : Char}
    (isEscape : simpleEscape mark = some decoded) :
    units ('\\' :: mark :: rest) = decoded.toNat :: units rest := by
  rw [units, isEscape]
  · rfl
  · intro _ _ _ _ _ same
    rw [same] at isEscape
    cases isEscape

theorem units_plain {character : Char} (notEscape : character ≠ '\\') :
    units (character :: rest) = character.toNat :: units rest := by
  rw [units]
  · intro _ _ _ _ _ same
    exact absurd same notEscape
  · intro _ _ same
    exact absurd same notEscape

end Units

theorem isLowSurrogate_toNat (character : Char) :
    isLowSurrogate character.toNat = false := by
  have valid := character.valid
  simp only [UInt32.isValidChar, Nat.isValidChar] at valid
  simp only [isLowSurrogate, Bool.and_eq_false_iff,
    decide_eq_false_iff_not, Char.toNat]
  omega

theorem joined_pair {high low : Nat} (isHigh : isHighSurrogate high = true)
    (isLow : isLowSurrogate low = true) (others : List Nat) :
    joined (high :: low :: others) =
      (0x10000 + (high - 0xd800) * 0x400 + (low - 0xdc00)) ::
        joined others := by
  rw [joined, isHigh, isLow]
  rfl

theorem joined_single {code : Nat} {others : List Nat}
    (apart : isHighSurrogate code = true →
      ∀ low ∈ others.head?, isLowSurrogate low = false) :
    joined (code :: others) = code :: joined others := by
  cases others with
  | nil => rfl
  | cons low others =>
      rw [joined]
      by_cases isHigh : isHighSurrogate code = true
      · rw [apart isHigh low rfl, Bool.and_false]
        rfl
      · rw [Bool.not_eq_true] at isHigh
        rw [isHigh]
        rfl

theorem joined_character (character : Char) (others : List Nat) :
    joined (character.toNat :: others) =
      character.toNat :: joined others := by
  apply joined_single
  intro isHigh
  rw [not_isHighSurrogate] at isHigh
  cases isHigh

theorem readHex_of_hex {a b c d : Char}
    (hexadecimal : [a, b, c, d].all isHex = true) (rest : List Char) :
    readHex (a :: b :: c :: d :: rest) =
      some (hexCode a b c d, rest) := by
  rw [readHex, if_pos hexadecimal]
  rfl

theorem readHex_eq_some {characters rest : List Char} {code : Nat}
    (read : readHex characters = some (code, rest)) :
    ∃ a b c d, [a, b, c, d].all isHex = true ∧
      characters = a :: b :: c :: d :: rest := by
  unfold readHex at read
  split at read
  · next a b c d tail =>
      split at read
      · next hexadecimal =>
          cases read
          exact ⟨a, b, c, d, hexadecimal, rfl⟩
      · cases read
  · cases read

theorem charOfCode_large {code : Nat} (large : 0x10000 ≤ code) :
    charOfCode code = Char.ofNat code := by
  have notSurrogate :
      (isHighSurrogate code || isLowSurrogate code) = false := by
    simp only [isHighSurrogate, isLowSurrogate, Bool.or_eq_false_iff,
      Bool.and_eq_false_iff, decide_eq_false_iff_not]
    omega
  rw [charOfCode, notSurrogate]
  exact if_neg Bool.false_ne_true

/-- An escape is read on its own, or with the one after it. -/
theorem readUnicode_written {a b c d : Char} {later : List Char}
    (hexadecimal : [a, b, c, d].all isHex = true) (written : Written later)
    (rest : List Char) :
    ∃ code tail, Written tail ∧ tail.length ≤ later.length ∧
      joined (hexCode a b c d :: units later) =
        code :: joined (units tail) ∧
      readUnicode (a :: b :: c :: d :: (later ++ '"' :: rest)) =
        some (charOfCode code, tail ++ '"' :: rest) := by
  have isHex := readHex_of_hex hexadecimal (later ++ '"' :: rest)
  -- nothing that is joined comes after it
  have single : (isHighSurrogate (hexCode a b c d) = true →
      ∀ low ∈ (units later).head?, isLowSurrogate low = false) →
        readUnicode (a :: b :: c :: d :: (later ++ '"' :: rest)) =
          some (charOfCode (hexCode a b c d), later ++ '"' :: rest) →
            ∃ code tail, Written tail ∧ tail.length ≤ later.length ∧
              joined (hexCode a b c d :: units later) =
                code :: joined (units tail) ∧
              readUnicode (a :: b :: c :: d :: (later ++ '"' :: rest)) =
                some (charOfCode code, tail ++ '"' :: rest) :=
    fun apart read =>
      ⟨_, later, written, le_rfl, joined_single apart, read⟩
  cases written with
  | nil =>
      refine single (fun _ _ none => by cases none) ?_
      rw [readUnicode, isHex]
      rfl
  | @unicode e f g h tail digits after =>
      have isDigits := readHex_of_hex digits (tail ++ '"' :: rest)
      by_cases isHigh : isHighSurrogate (hexCode a b c d) = true
      · by_cases isLow : isLowSurrogate (hexCode e f g h) = true
        · refine ⟨_, tail, after, ?_, joined_pair isHigh isLow _, ?_⟩
          · simp only [List.length_cons]
            omega
          · rw [readUnicode, isHex]
            simp only [List.cons_append, isHigh, if_true]
            rw [isDigits]
            simp only [isLow, if_true]
            rw [charOfCode_large (by omega)]
        · rw [Bool.not_eq_true] at isLow
          refine single (fun _ low isHead => ?_) ?_
          · cases isHead
            exact isLow
          · rw [readUnicode, isHex]
            simp only [List.cons_append, isHigh, if_true]
            rw [isDigits]
            simp only [isLow]
            rfl
      · refine single (fun high => absurd high isHigh) ?_
        rw [readUnicode, isHex]
        simp only [List.cons_append, isHigh]
        rfl
  | @escape mark tail isEscape after =>
      obtain ⟨decoded, decodes⟩ := Option.isSome_iff_exists.mp isEscape
      have notUnicode : mark ≠ 'u' := by
        rintro rfl
        cases isEscape
      refine single (fun _ low isHead => ?_) ?_
      · rw [units_escape tail decodes] at isHead
        cases isHead
        exact isLowSurrogate_toNat decoded
      · rw [readUnicode, isHex]
        dsimp only [List.cons_append]
        split
        · next same => exact absurd (List.cons.inj (List.cons.inj same).2).1 notUnicode
        · rfl
  | @plain character tail notQuote notEscape printed after =>
      refine single (fun _ low isHead => ?_) ?_
      · rw [units_plain tail notEscape] at isHead
        cases isHead
        exact isLowSurrogate_toNat character
      · rw [readUnicode, isHex]
        dsimp only [List.cons_append]
        split
        · next same => exact absurd (List.cons.inj same).1 notEscape
        · rfl

/-- A literal is read as its string. -/
theorem readString_written (fuel : Nat) :
    ∀ {source reversed : List Char}, Written source →
      source.length < fuel → ∀ rest,
        readString fuel reversed (source ++ '"' :: rest) =
          some (String.ofList (reversed.reverse ++
            (joined (units source)).map charOfCode), rest) := by
  induction fuel with
  | zero =>
      intro source reversed _ short
      exact absurd short (Nat.not_lt_zero _)
  | succ fuel inductionHypothesis =>
      intro source reversed written short rest
      -- one more character before what is read later
      have extended : ∀ {code : Nat} {tail : List Char}, Written tail →
          tail.length < fuel →
            joined (units source) = code :: joined (units tail) →
              readString fuel (charOfCode code :: reversed)
                  (tail ++ '"' :: rest) =
                some (String.ofList (reversed.reverse ++
                  (joined (units source)).map charOfCode), rest) := by
        intro code tail tailWritten shorter split
        rw [inductionHypothesis tailWritten shorter, split]
        simp
      cases written with
      | nil =>
          simp [readString, units, joined]
      | @unicode a b c d later hexadecimal after =>
          simp only [List.length_cons] at short
          obtain ⟨code, tail, tailWritten, shorter, split, read⟩ :=
            readUnicode_written hexadecimal after rest
          simp only [List.cons_append]
          rw [readString_unicode, read]
          exact extended tailWritten (by omega) split
      | @escape mark later isEscape after =>
          obtain ⟨decoded, decodes⟩ := Option.isSome_iff_exists.mp isEscape
          have notUnicode : mark ≠ 'u' := by
            rintro rfl
            cases isEscape
          have split : joined (units ('\\' :: mark :: later)) =
              decoded.toNat :: joined (units later) := by
            rw [units_escape later decodes, joined_character]
          simp only [List.length_cons] at short
          simp only [List.cons_append]
          rw [readString_mark _ _ _ notUnicode, decodes]
          have later := extended after (by omega) split
          rwa [charOfCode_toNat] at later
      | @plain character later notQuote notEscape printed after =>
          have split : joined (units (character :: later)) =
              character.toNat :: joined (units later) := by
            rw [units_plain later notEscape, joined_character]
          rw [List.length_cons] at short
          rw [List.cons_append]
          unfold readString
          rw [if_neg notQuote, if_neg notEscape,
            if_neg (Nat.not_le.mpr printed)]
          have later := extended after (by omega) split
          rwa [charOfCode_toNat] at later

theorem written_of_readUnicode {characters source rest : List Char}
    {decoded : Char}
    (read : readUnicode characters = some (decoded, source ++ '"' :: rest))
    (written : Written source) :
    ∃ whole, Written whole ∧
      '\\' :: 'u' :: characters = whole ++ '"' :: rest := by
  unfold readUnicode at read
  split at read
  · cases read
  · next high afterHigh isHigh =>
      obtain ⟨a, b, c, d, hexadecimal, rfl⟩ := readHex_eq_some isHigh
      -- the escape alone
      have alone : afterHigh = source ++ '"' :: rest →
          ∃ whole, Written whole ∧
            '\\' :: 'u' :: a :: b :: c :: d :: afterHigh =
              whole ++ '"' :: rest := by
        rintro rfl
        exact ⟨_, .unicode hexadecimal written, rfl⟩
      split at read
      · next more =>
          split at read
          · split at read
            · cases read
            · next low afterLow isLow =>
                split at read
                · obtain ⟨e, f, g, h, digits, rfl⟩ := readHex_eq_some isLow
                  rw [Option.some.injEq, Prod.mk.injEq] at read
                  rw [read.2]
                  exact ⟨_, .unicode hexadecimal (.unicode digits written),
                    rfl⟩
                · rw [Option.some.injEq, Prod.mk.injEq] at read
                  exact alone read.2
          · rw [Option.some.injEq, Prod.mk.injEq] at read
            exact alone read.2
      · rw [Option.some.injEq, Prod.mk.injEq] at read
        exact alone read.2

/-- What is read as a string is written as a literal. -/
theorem written_of_readString (fuel : Nat) :
    ∀ {reversed characters tail : List Char} {text : String},
      readString fuel reversed characters = some (text, tail) →
        ∃ source, Written source ∧ characters = source ++ '"' :: tail := by
  induction fuel with
  | zero =>
      intro reversed characters tail text read
      cases read
  | succ fuel inductionHypothesis =>
      intro reversed characters tail text read
      cases characters with
      | nil => cases read
      | cons character rest =>
          unfold readString at read
          by_cases quote : character = '"'
          · rw [if_pos quote] at read
            cases read
            exact ⟨[], .nil, by rw [quote]; rfl⟩
          · rw [if_neg quote] at read
            by_cases mark : character = '\\'
            · rw [if_pos mark] at read
              subst mark
              split at read
              · cases read
              · next more =>
                  split at read
                  · cases read
                  · next decoded after isDecoded =>
                      obtain ⟨source, written, rfl⟩ :=
                        inductionHypothesis read
                      exact written_of_readUnicode isDecoded written
              · next escaped more notUnicode =>
                  split at read
                  · cases read
                  · next decoded isDecoded =>
                      obtain ⟨source, written, rfl⟩ :=
                        inductionHypothesis read
                      have isEscape : (simpleEscape escaped).isSome := by
                        rw [isDecoded]
                        rfl
                      exact ⟨_, .escape isEscape written, rfl⟩
            · rw [if_neg mark] at read
              split at read
              · cases read
              · next printed =>
                  obtain ⟨source, written, rfl⟩ := inductionHypothesis read
                  exact ⟨_, .plain quote mark (Nat.lt_of_not_le printed)
                    written, rfl⟩

theorem readString_eq (characters : List Char) :
    readString (characters.length + 1) [] characters =
      (readQuoted characters).map fun (literal, tail) =>
        (literal.string, tail) := by
  cases quoted : readQuoted characters with
  | some reading =>
      obtain ⟨literal, tail⟩ := reading
      rw [readQuoted_eq_some_iff] at quoted
      have short : literal.source.length < characters.length + 1 := by
        rw [quoted, List.length_append]
        omega
      have read := @readString_written _ _ [] literal.written short tail
      rw [← quoted] at read
      exact read
  | none =>
      cases read : readString (characters.length + 1) [] characters with
      | none => rfl
      | some reading =>
          obtain ⟨source, written, same⟩ := written_of_readString _ read
          rw [(readQuoted_eq_some_iff _ _ ⟨source, written⟩).mpr same]
            at quoted
          cases quoted

/-- Both readers read the same with so much fuel. -/
structure Agree (fuel : Nat) : Prop where
  value : ∀ characters,
    readValue fuel characters =
      (parseValue fuel characters).map fun (tree, tail) =>
        (tree.json, tail)
  fields : ∀ fields characters,
    readFields fuel fields characters =
      (parseMembers fuel characters).map fun (members, tail) =>
        (.obj (fieldsJson fields members), tail)
  items : ∀ reversed characters,
    readItems fuel reversed characters =
      (parseItems fuel characters).map fun (items, tail) =>
        (.arr (reversed.reverse ++ itemsJson items), tail)

namespace Agree

theorem zero : Agree 0 where
  value _ := rfl
  fields fields characters := by
    unfold readFields parseMembers
    rfl
  items _ _ := rfl

section Step

variable {fuel : Nat} (agree : Agree fuel)

include agree

theorem object_succ (rest : List Char) :
    readValue (fuel + 1) ('{' :: rest) =
      (parseValue (fuel + 1) ('{' :: rest)).map fun (tree, tail) =>
        (tree.json, tail) := by
  by_cases closes : ∃ tail, skipBlank rest = '}' :: tail
  · obtain ⟨tail, closed⟩ := closes
    have read : readValue (fuel + 1) ('{' :: rest) =
        some (.obj [], tail) := by
      rw [readValue, if_neg (by decide), if_pos rfl, closed]
      rfl
    have parsed : parseValue (fuel + 1) ('{' :: rest) =
        some (.obj [], tail) := by
      rw [parseValue, if_neg (by decide), if_pos rfl, closed]
      rfl
    rw [read, parsed]
    rfl
  · rw [not_exists] at closes
    have read : readValue (fuel + 1) ('{' :: rest) =
        readFields fuel [] (skipBlank rest) := by
      rw [readValue, if_neg (by decide), if_pos rfl]
      split
      · next tail closed => exact absurd closed (closes tail)
      · rfl
    have parsed : parseValue (fuel + 1) ('{' :: rest) =
        (parseMembers fuel (skipBlank rest)).map fun (members, tail) =>
          (.obj members, tail) := by
      rw [parseValue, if_neg (by decide), if_pos rfl]
      split
      · next tail closed => exact absurd closed (closes tail)
      · rfl
    rw [read, parsed, agree.fields]
    cases parseMembers fuel (skipBlank rest) <;> rfl

theorem array_succ (rest : List Char) :
    readValue (fuel + 1) ('[' :: rest) =
      (parseValue (fuel + 1) ('[' :: rest)).map fun (tree, tail) =>
        (tree.json, tail) := by
  by_cases closes : ∃ tail, skipBlank rest = ']' :: tail
  · obtain ⟨tail, closed⟩ := closes
    have read : readValue (fuel + 1) ('[' :: rest) =
        some (.arr [], tail) := by
      rw [readValue, if_neg (by decide), if_neg (by decide), if_pos rfl,
        closed]
      rfl
    have parsed : parseValue (fuel + 1) ('[' :: rest) =
        some (.arr [], tail) := by
      rw [parseValue, if_neg (by decide), if_neg (by decide), if_pos rfl,
        closed]
      rfl
    rw [read, parsed]
    rfl
  · rw [not_exists] at closes
    have read : readValue (fuel + 1) ('[' :: rest) =
        readItems fuel [] (skipBlank rest) := by
      rw [readValue, if_neg (by decide), if_neg (by decide), if_pos rfl]
      split
      · next tail closed => exact absurd closed (closes tail)
      · rfl
    have parsed : parseValue (fuel + 1) ('[' :: rest) =
        (parseItems fuel (skipBlank rest)).map fun (items, tail) =>
          (.arr items, tail) := by
      rw [parseValue, if_neg (by decide), if_neg (by decide), if_pos rfl]
      split
      · next tail closed => exact absurd closed (closes tail)
      · rfl
    rw [read, parsed, agree.items]
    cases parseItems fuel (skipBlank rest) <;> rfl

theorem value_succ (characters : List Char) :
    readValue (fuel + 1) characters =
      (parseValue (fuel + 1) characters).map fun (tree, tail) =>
        (tree.json, tail) := by
  cases characters with
  | nil => rfl
  | cons character rest =>
      by_cases brace : character = '{'
      · subst brace
        exact agree.object_succ rest
      by_cases bracket : character = '['
      · subst bracket
        exact agree.array_succ rest
      rw [readValue, parseValue]
      by_cases quote : character = '"'
      · rw [if_pos quote, if_pos quote, readString_eq]
        cases readQuoted rest <;> rfl
      · rw [if_neg quote, if_neg quote, if_neg brace, if_neg brace,
          if_neg bracket, if_neg bracket]
        show readWord (character :: rest) = _
        cases readWord (character :: rest) <;> rfl

theorem fields_succ (fields : Dict) (characters : List Char) :
    readFields (fuel + 1) fields characters =
      (parseMembers (fuel + 1) characters).map fun (members, tail) =>
        (.obj (fieldsJson fields members), tail) := by
  cases characters with
  | nil => rfl
  | cons head rest =>
      by_cases quote : head = '"'
      · subst quote
        rw [readFields, parseMembers, readString_eq]
        cases readQuoted rest with
        | none => rfl
        | some reading =>
            obtain ⟨key, afterKey⟩ := reading
            dsimp only [Option.map_some]
            cases skipBlank afterKey with
            | nil => rfl
            | cons sign afterColon =>
                by_cases colon : sign = ':'
                · subst colon
                  simp only [agree.value]
                  cases parseValue fuel (skipBlank afterColon) with
                  | none => rfl
                  | some reading =>
                      obtain ⟨value, afterValue⟩ := reading
                      dsimp only [Option.map_some]
                      cases skipBlank afterValue with
                      | nil => rfl
                      | cons next more =>
                          by_cases closing : next = '}'
                          · subst closing
                            rfl
                          by_cases comma : next = ','
                          · subst comma
                            simp only [agree.fields]
                            cases parseMembers fuel (skipBlank more) <;> rfl
                          · simp [closing, comma]
                · simp [colon]
      · simp [readFields, parseMembers, quote]

theorem items_succ (reversed : List Json) (characters : List Char) :
    readItems (fuel + 1) reversed characters =
      (parseItems (fuel + 1) characters).map fun (items, tail) =>
        (.arr (reversed.reverse ++ itemsJson items), tail) := by
  rw [readItems, parseItems, agree.value]
  cases parseValue fuel characters with
  | none => rfl
  | some reading =>
      obtain ⟨value, afterValue⟩ := reading
      dsimp only [Option.map_some]
      cases skipBlank afterValue with
      | nil => rfl
      | cons next more =>
          by_cases closing : next = ']'
          · subst closing
            simp [itemsJson]
          by_cases comma : next = ','
          · subst comma
            simp only [agree.items]
            cases parseItems fuel (skipBlank more) with
            | none => rfl
            | some reading => simp [itemsJson]
          · simp [closing, comma]

end Step

theorem all (fuel : Nat) : Agree fuel := by
  induction fuel with
  | zero => exact zero
  | succ fuel agree =>
      exact ⟨agree.value_succ, agree.fields_succ, agree.items_succ⟩

end Agree

/-- The model's reader takes the texts that have a tree, for its value. -/
theorem loads_eq (text : String) :
    JsonReader.loads text = (parse text).map Tree.json := by
  rw [JsonReader.loads, parse, (Agree.all _).value]
  dsimp only
  cases parseValue (2 * text.toList.length + 2)
      (skipBlank text.toList) with
  | none => rfl
  | some reading =>
      obtain ⟨tree, tail⟩ := reading
      dsimp only [Option.map_some]
      split <;> rfl

end Python.JsonSyntax

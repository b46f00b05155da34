import SwarmFi.Python.Bytes
import SwarmFi.Python.JsonObject
import SwarmFi.Python.JsonWriter

/-!
# `json.loads` after `json.dumps`

Text written from a value without floats, whose integers are natural numbers
of at most 4300 digits, is read back as the same value.
-/

namespace Python

open JsonReader JsonWriter

/-- Values that are read back as they were written. -/
inductive Json.Plain : Json → Prop where
  | null : Plain .null
  | bool (value : Bool) : Plain (.bool value)
  | int (value : Nat) (short : (Nat.toDigits 10 value).length ≤ 4300) :
      Plain (.int value)
  | str (text : String) : Plain (.str text)
  | arr (items : List Json) (inside : ∀ item ∈ items, Plain item) :
      Plain (.arr items)
  | obj (fields : Dict) (distinct : (fields.map Prod.fst).Nodup)
      (inside : ∀ field ∈ fields, Plain field.2) :
      Plain (.obj fields)

/-! ## Strings -/

theorem isHex_digitChar :
    ∀ digit < 16, isHex (Nat.digitChar digit) = true := by
  decide

/-- The four digits of `escapeUnit`. -/
def unitDigits (code : Nat) : List Char :=
  [Nat.digitChar (code / 0x1000), Nat.digitChar (code / 0x100 % 16),
    Nat.digitChar (code / 0x10 % 16), Nat.digitChar (code % 16)]

theorem readHex_unitDigits
    {code : Nat} (small : code < 0x10000) (rest : List Char) :
    readHex (unitDigits code ++ rest) = some (code, rest) := by
  have first : code / 0x1000 < 16 := by omega
  have second : code / 0x100 % 16 < 16 := Nat.mod_lt _ (by decide)
  have third : code / 0x10 % 16 < 16 := Nat.mod_lt _ (by decide)
  have fourth : code % 16 < 16 := Nat.mod_lt _ (by decide)
  have joined :
      ((code / 0x1000 * 16 + code / 0x100 % 16) * 16 +
        code / 0x10 % 16) * 16 + code % 16 = code := by
    omega
  simp only [unitDigits, List.cons_append, List.nil_append, readHex,
    List.all_cons, List.all_nil, isHex_digitChar _ first,
    isHex_digitChar _ second, isHex_digitChar _ third,
    isHex_digitChar _ fourth, digitValue_digitChar _ first,
    digitValue_digitChar _ second, digitValue_digitChar _ third,
    digitValue_digitChar _ fourth, joined, Bool.and_true, if_true]

theorem charOfCode_toNat (character : Char) :
    charOfCode character.toNat = character := by
  have notSurrogate :
      (isHighSurrogate character.toNat ||
        isLowSurrogate character.toNat) = false := by
    have valid := character.valid
    simp only [UInt32.isValidChar, Nat.isValidChar] at valid
    simp only [isHighSurrogate, isLowSurrogate, Bool.or_eq_false_iff,
      Bool.and_eq_false_iff, decide_eq_false_iff_not, Char.toNat]
    omega
  rw [charOfCode, notSurrogate]
  exact Char.ofNat_toNat character

theorem not_isHighSurrogate (character : Char) :
    isHighSurrogate character.toNat = false := by
  have valid := character.valid
  simp only [UInt32.isValidChar, Nat.isValidChar] at valid
  simp only [isHighSurrogate, Bool.and_eq_false_iff,
    decide_eq_false_iff_not, Char.toNat]
  omega

theorem readUnicode_unit
    {character : Char} (small : character.toNat < 0x10000)
    (rest : List Char) :
    readUnicode (unitDigits character.toNat ++ rest) =
      some (character, rest) := by
  rw [readUnicode, readHex_unitDigits small]
  simp only [charOfCode_toNat, not_isHighSurrogate]
  split <;> rfl

theorem readUnicode_pair
    {character : Char} (large : ¬ character.toNat < 0x10000)
    (rest : List Char) :
    readUnicode
        (unitDigits (0xd800 + (character.toNat - 0x10000) / 0x400) ++
          '\\' :: 'u' ::
            (unitDigits (0xdc00 + (character.toNat - 0x10000) % 0x400) ++
              rest)) =
      some (character, rest) := by
  have bound : character.toNat < 0x110000 := by
    have valid := character.valid
    simp only [UInt32.isValidChar, Nat.isValidChar] at valid
    simp only [Char.toNat]
    omega
  have high :
      isHighSurrogate (0xd800 + (character.toNat - 0x10000) / 0x400) =
        true := by
    simp only [isHighSurrogate, Bool.and_eq_true, decide_eq_true_eq]
    omega
  have low :
      isLowSurrogate (0xdc00 + (character.toNat - 0x10000) % 0x400) =
        true := by
    simp only [isLowSurrogate, Bool.and_eq_true, decide_eq_true_eq]
    omega
  have joined :
      0x10000 + (0xd800 + (character.toNat - 0x10000) / 0x400 - 0xd800) *
          0x400 +
        (0xdc00 + (character.toNat - 0x10000) % 0x400 - 0xdc00) =
          character.toNat := by
    omega
  have lowSmall : 0xdc00 + (character.toNat - 0x10000) % 0x400 < 0x10000 := by
    omega
  rw [readUnicode, readHex_unitDigits (by omega)]
  simp only [high, if_true, readHex_unitDigits lowSmall, low, joined,
    Char.ofNat_toNat]

theorem escape_ne_nil (character : Char) : escape character ≠ [] := by
  unfold escape escapeCode escapeUnit
  repeat' split
  all_goals simp

/-- A short escape is undone by the reader. -/
theorem simpleEscape_of_shortEscape
    {character letter : Char}
    (short : shortEscape character = some letter) :
    letter ≠ 'u' ∧ simpleEscape letter = some character := by
  have code :
      ∀ number, character.toNat = number →
        Char.ofNat number = character := by
    rintro number rfl
    exact Char.ofNat_toNat character
  unfold shortEscape at short
  split_ifs at short with quote slash newline return_ tab form back
  · cases short
    exact ⟨by decide, by rw [quote]; rfl⟩
  · cases short
    exact ⟨by decide, by rw [slash]; rfl⟩
  · cases short
    exact ⟨by decide, congrArg some (code 10 newline)⟩
  · cases short
    exact ⟨by decide, congrArg some (code 13 return_)⟩
  · cases short
    exact ⟨by decide, congrArg some (code 9 tab)⟩
  · cases short
    exact ⟨by decide, congrArg some (code 12 form)⟩
  · cases short
    exact ⟨by decide, congrArg some (code 8 back)⟩

theorem not_special_of_shortEscape
    {character : Char} (none_ : shortEscape character = none) :
    character ≠ '"' ∧ character ≠ '\\' := by
  unfold shortEscape at none_
  split_ifs at none_ with quote slash
  exact ⟨quote, slash⟩

theorem readString_unicode
    (fuel : Nat) (reversed more : List Char) :
    readString (fuel + 1) reversed ('\\' :: 'u' :: more) =
      match readUnicode more with
      | none => none
      | some (decoded, tail) =>
          readString fuel (decoded :: reversed) tail := rfl

theorem readString_mark
    (fuel : Nat) (reversed more : List Char) {mark : Char}
    (notUnicode : mark ≠ 'u') :
    readString (fuel + 1) reversed ('\\' :: mark :: more) =
      match simpleEscape mark with
      | none => none
      | some decoded => readString fuel (decoded :: reversed) more := by
  have notQuote : ('\\' : Char) ≠ '"' := by decide
  cases decoded : simpleEscape mark with
  | none => simp only [readString, if_neg notQuote, if_true, decoded]
  | some character =>
      simp only [readString, if_neg notQuote, if_true, decoded]

/-- One character of a string takes one step of the reader. -/
theorem readString_escape
    (fuel : Nat) (reversed : List Char) (character : Char)
    (rest : List Char) :
    readString (fuel + 1) reversed (escape character ++ rest) =
      readString fuel (character :: reversed) rest := by
  unfold escape
  cases short : shortEscape character with
  | some letter =>
      obtain ⟨notUnicode, undone⟩ := simpleEscape_of_shortEscape short
      show readString (fuel + 1) reversed ('\\' :: letter :: rest) = _
      rw [readString_mark _ _ _ notUnicode, undone]
  | none =>
      obtain ⟨notQuote, notSlash⟩ := not_special_of_shortEscape short
      simp only
      split
      · next plain =>
          simp only [isPlain, Bool.and_eq_true, decide_eq_true_eq] at plain
          simp only [List.cons_append, List.nil_append, readString]
          rw [if_neg notQuote, if_neg notSlash, if_neg (by omega)]
      · unfold escapeCode
        split
        · next small =>
            show readString (fuel + 1) reversed
              ('\\' :: 'u' :: (unitDigits character.toNat ++ rest)) = _
            rw [readString_unicode, readUnicode_unit small]
        · next large =>
            show readString (fuel + 1) reversed
              ('\\' :: 'u' ::
                (unitDigits
                    (0xd800 + (character.toNat - 0x10000) / 0x400) ++
                  '\\' :: 'u' ::
                    (unitDigits
                        (0xdc00 + (character.toNat - 0x10000) % 0x400) ++
                      rest))) = _
            rw [readString_unicode, readUnicode_pair large]

theorem readString_text
    (text rest : List Char) (fuel : Nat) (reversed : List Char)
    (enough : text.length < fuel) :
    readString fuel reversed (text.flatMap escape ++ '"' :: rest) =
      some (String.ofList (reversed.reverse ++ text), rest) := by
  induction text generalizing fuel reversed with
  | nil =>
      obtain ⟨fuel, rfl⟩ := Nat.exists_eq_add_one.mpr enough
      simp [readString]
  | cons character text inductionHypothesis =>
      obtain ⟨fuel, rfl⟩ := Nat.exists_eq_add_one.mpr
        (Nat.lt_of_le_of_lt (Nat.zero_le _) enough)
      have shorter : text.length < fuel := by
        simpa using enough
      rw [List.flatMap_cons, List.append_assoc, readString_escape,
        inductionHypothesis _ _ shorter]
      simp

theorem length_le_flatMap_escape (text : List Char) :
    text.length ≤ (text.flatMap escape).length := by
  induction text with
  | nil => exact Nat.le_refl 0
  | cons character text inductionHypothesis =>
      have one := List.length_pos_of_ne_nil (escape_ne_nil character)
      rw [List.flatMap_cons, List.length_append, List.length_cons]
      omega

/-- A written string, after its opening quote. -/
theorem readString_writeString
    (text : String) (rest : List Char) :
    ∀ body, writeString text ++ rest = '"' :: body →
      readString (body.length + 1) [] body = some (text, rest) := by
  intro body same
  have isBody : body = text.toList.flatMap escape ++ '"' :: rest := by
    simpa [writeString] using same.symm
  have enough : text.toList.length < body.length + 1 := by
    have bound := length_le_flatMap_escape text.toList
    rw [isBody, List.length_append]
    omega
  rw [isBody] at enough ⊢
  rw [readString_text _ _ _ _ enough]
  simp

/-! ## Numbers -/

/-- What may follow a number: nothing that would belong to it. -/
def Stops : List Char → Prop
  | [] => True
  | character :: _ =>
      isDigit character = false ∧ character ≠ '.' ∧ character ≠ 'e' ∧
        character ≠ 'E'

theorem isDigit_of_mem_toDigits
    {value : Nat} {character : Char}
    (member : character ∈ Nat.toDigits 10 value) :
    isDigit character = true := by
  have digit := Nat.isDigit_of_mem_toDigits (by decide) (by decide) member
  simp only [Char.isDigit, Bool.and_eq_true, decide_eq_true_eq,
    UInt32.le_iff_toNat_le] at digit
  simp only [isDigit, Bool.and_eq_true, decide_eq_true_eq, Char.toNat]
  exact digit

theorem digitValue_of_isDigit
    {character : Char} (digit : isDigit character = true) :
    digitValue character = character.toNat - 48 := by
  simp only [isDigit, Bool.and_eq_true, decide_eq_true_eq] at digit
  simp only [digitValue]
  rw [if_pos digit]

theorem naturalOf_toDigits (value : Nat) :
    naturalOf (Nat.toDigits 10 value) = value := by
  have agree :
      ∀ (digits : List Char) (start : Nat),
        (∀ character ∈ digits, isDigit character = true) →
          digits.foldl
              (fun number digit => number * 10 + digitValue digit) start =
            Nat.ofDigitChars 10 digits start := by
    intro digits
    induction digits with
    | nil =>
        intro start _
        rfl
    | cons digit digits inductionHypothesis =>
        intro start allDigits
        have first := allDigits digit List.mem_cons_self
        rw [List.foldl_cons, Nat.ofDigitChars_cons,
          digitValue_of_isDigit first, Nat.mul_comm start 10]
        exact inductionHypothesis _ fun tested member =>
          allDigits tested (List.mem_cons_of_mem _ member)
  rw [naturalOf, agree _ _ fun _ member => isDigit_of_mem_toDigits member,
    Nat.ofDigitChars_ten_toDigits]

theorem span_digits
    {digits : List Char}
    (allDigits : ∀ character ∈ digits, isDigit character = true)
    {rest : List Char} (stops : Stops rest) :
    (digits ++ rest).takeWhile isDigit = digits ∧
      (digits ++ rest).dropWhile isDigit = rest := by
  rw [List.takeWhile_append_of_pos allDigits,
    List.dropWhile_append_of_pos allDigits]
  cases rest with
  | nil => simp
  | cons character rest => simp [stops.1]

/-- Only zero is written with a leading zero. -/
theorem head_toDigits_eq_zero
    {value : Nat} {digits : List Char}
    (written : Nat.toDigits 10 value = '0' :: digits) : value = 0 := by
  induction value using Nat.strongRecOn generalizing digits with
  | ind value inductionHypothesis =>
      by_cases small : value < 10
      · rw [Nat.toDigits_of_lt_base small] at written
        exact Nat.digitChar_eq_zero.mp (List.cons.inj written).1
      · rw [Nat.toDigits_of_base_le (by decide) (by omega)] at written
        cases front : Nat.toDigits 10 (value / 10) with
        | nil => exact absurd front Nat.toDigits_ne_nil
        | cons first more =>
            rw [front, List.cons_append] at written
            obtain ⟨rfl, _⟩ := List.cons.inj written
            have zero := inductionHypothesis (value / 10) (by omega) front
            omega

theorem readWhole_toDigits
    (value : Nat) {rest : List Char} (stops : Stops rest) :
    readWhole (Nat.toDigits 10 value ++ rest) =
      some (Nat.toDigits 10 value, rest) := by
  by_cases zero : value = 0
  · subst zero
    rfl
  · have allDigits :
        ∀ character ∈ Nat.toDigits 10 value, isDigit character = true :=
      fun _ member => isDigit_of_mem_toDigits member
    cases written : Nat.toDigits 10 value with
    | nil => exact absurd written Nat.toDigits_ne_nil
    | cons first digits =>
        rw [written] at allDigits
        have firstDigit := allDigits first List.mem_cons_self
        have restDigits :
            ∀ character ∈ digits, isDigit character = true :=
          fun tested member =>
            allDigits tested (List.mem_cons_of_mem _ member)
        have notZero : first ≠ '0' := by
          rintro rfl
          exact zero (head_toDigits_eq_zero written)
        obtain ⟨taken, dropped⟩ := span_digits restDigits stops
        rw [List.cons_append, readWhole, if_neg notZero, if_pos firstDigit,
          taken, dropped]

theorem readFraction_of_stops {rest : List Char} (stops : Stops rest) :
    readFraction rest = ([], rest) := by
  cases rest with
  | nil => rfl
  | cons character rest =>
      unfold readFraction
      split
      · next same =>
          exact absurd (List.cons.inj same).1 stops.2.1
      · rfl

theorem readPower_of_stops {rest : List Char} (stops : Stops rest) :
    readPower rest = (none, rest) := by
  cases rest with
  | nil => rfl
  | cons character rest =>
      have noMark : ¬ (character = 'e' ∨ character = 'E') := by
        rintro (same | same)
        · exact stops.2.2.1 same
        · exact stops.2.2.2 same
      rw [readPower, if_neg noMark]

theorem readNumber_toDigits
    {value : Nat} (short : (Nat.toDigits 10 value).length ≤ 4300)
    {rest : List Char} (stops : Stops rest) :
    readNumber (Nat.toDigits 10 value ++ rest) =
      some (.int value, rest) := by
  have fits : tooManyDigits 10 (Nat.toDigits 10 value) = false := by
    have filtered :=
      List.length_filter_le isDigit (Nat.toDigits 10 value)
    simp only [tooManyDigits, Bool.and_eq_false_iff,
      decide_eq_false_iff_not]
    exact Or.inr (by omega)
  unfold readNumber
  split
  · next negative unsigned parts =>
      have unsignedIs :
          (negative, unsigned) =
            (false, Nat.toDigits 10 value ++ rest) := by
        rw [← parts]
        split
        · next same =>
            have first :
                '-' ∈ Nat.toDigits 10 value → isDigit '-' = true :=
              isDigit_of_mem_toDigits
            cases written : Nat.toDigits 10 value with
            | nil => exact absurd written Nat.toDigits_ne_nil
            | cons digit digits =>
                rw [written] at same first
                have minus : digit = '-' := (List.cons.inj same).1
                rw [minus] at first
                exact absurd (first List.mem_cons_self) (by decide)
        · rfl
      cases unsignedIs
      rw [readWhole_toDigits value stops]
      simp only [readFraction_of_stops stops, readPower_of_stops stops,
        fits, naturalOf_toDigits]
      rfl

/-! ## Values -/

/-- Reading gives back `value` and stops in front of `rest`. -/
def ReadsBack (value : Json) : Prop :=
  ∀ fuel rest, 2 * (write value).length ≤ fuel → Stops rest →
    readValue fuel (write value ++ rest) = some (value, rest)

/-- What a written value may begin with. -/
def Starts (character : Char) : Prop :=
  isBlank character = false ∧ character ≠ ']' ∧ character ≠ '}'

theorem starts_digit {character : Char} (digit : isDigit character = true) :
    Starts character := by
  simp only [isDigit, Bool.and_eq_true, decide_eq_true_eq] at digit
  have notEnd : character.toNat ≠ 93 ∧ character.toNat ≠ 125 := by
    omega
  refine ⟨?_, ?_, ?_⟩
  · have notBlank : character.toNat ∉ [0x20, 0x09, 0x0a, 0x0d] := by
      simp only [List.mem_cons, List.not_mem_nil, or_false]
      omega
    simpa [isBlank] using notBlank
  · rintro rfl
    exact notEnd.1 rfl
  · rintro rfl
    exact notEnd.2 rfl

theorem Json.Plain.starts {value : Json} (plain : value.Plain) :
    ∃ first more, write value = first :: more ∧ Starts first := by
  cases plain with
  | null => exact ⟨'n', _, rfl, by decide, by decide, by decide⟩
  | bool value =>
      cases value
      · exact ⟨'f', _, rfl, by decide, by decide, by decide⟩
      · exact ⟨'t', _, rfl, by decide, by decide, by decide⟩
  | int value short =>
      have written : write (.int value) = Nat.toDigits 10 value :=
        Nat.toList_repr
      cases digits : Nat.toDigits 10 value with
      | nil => exact absurd digits Nat.toDigits_ne_nil
      | cons first more =>
          refine ⟨first, more, written.trans digits, starts_digit ?_⟩
          exact isDigit_of_mem_toDigits (digits ▸ List.mem_cons_self)
  | str text => exact ⟨'"', _, rfl, by decide, by decide, by decide⟩
  | arr items inside =>
      exact ⟨'[', _, rfl, by decide, by decide, by decide⟩
  | obj fields distinct inside =>
      exact ⟨'{', _, rfl, by decide, by decide, by decide⟩

theorem skipBlank_of_starts
    {first : Char} (starts : Starts first) (more : List Char) :
    skipBlank (first :: more) = first :: more := by
  rw [skipBlank, List.dropWhile_cons, starts.1]
  rfl

theorem skipBlank_space (more : List Char) :
    skipBlank (' ' :: more) = skipBlank more := rfl

theorem stops_comma (rest : List Char) : Stops (',' :: rest) :=
  ⟨by decide, by decide, by decide, by decide⟩

theorem stops_bracket (rest : List Char) : Stops (']' :: rest) :=
  ⟨by decide, by decide, by decide, by decide⟩

theorem stops_brace (rest : List Char) : Stops ('}' :: rest) :=
  ⟨by decide, by decide, by decide, by decide⟩

/-- Blanks in front of a written value are passed over. -/
theorem Json.Plain.skipBlank_write
    {value : Json} (plain : value.Plain) (rest : List Char) :
    skipBlank (write value ++ rest) = write value ++ rest := by
  obtain ⟨first, more, written, starts⟩ := plain.starts
  rw [written, List.cons_append, skipBlank_of_starts starts]

theorem readsBack_int
    {value : Nat} (short : (Nat.toDigits 10 value).length ≤ 4300) :
    ReadsBack (.int value) := by
  intro fuel rest enough stops
  have written : write (.int value) = Nat.toDigits 10 value :=
    Nat.toList_repr
  rw [written] at enough ⊢
  have number := readNumber_toDigits short stops
  cases digits : Nat.toDigits 10 value with
  | nil => exact absurd digits Nat.toDigits_ne_nil
  | cons first more =>
      rw [digits] at enough number
      have digit : isDigit first = true :=
        isDigit_of_mem_toDigits (digits ▸ List.mem_cons_self)
      obtain ⟨fuel, rfl⟩ := Nat.exists_eq_add_one.mpr
        (show 0 < fuel by rw [List.length_cons] at enough; omega)
      have different :
          ∀ other, isDigit other = false → first ≠ other := by
        rintro other notDigit rfl
        rw [digit] at notDigit
        cases notDigit
      have noLiteral :
          readLiteral (first :: (more ++ rest)) = none := by
        have miss :
            ∀ word : Char, isDigit word = false → ¬ word = first :=
          fun word notDigit same => different word notDigit same.symm
        simp [readLiteral, literals, afterStart, miss 'n' (by decide),
          miss 't' (by decide), miss 'f' (by decide),
          miss 'N' (by decide), miss 'I' (by decide),
          miss '-' (by decide)]
      rw [List.cons_append, readValue, if_neg (different '"' (by decide)),
        if_neg (different '{' (by decide)),
        if_neg (different '[' (by decide)), noLiteral]
      exact number

theorem readsBack_str (text : String) : ReadsBack (.str text) := by
  intro fuel rest enough _
  obtain ⟨fuel, rfl⟩ := Nat.exists_eq_add_one.mpr
    (show 0 < fuel by
      simp only [write, writeString, List.length_cons,
        List.cons_append] at enough
      omega)
  show readValue (fuel + 1) (writeString text ++ rest) = _
  cases body : writeString text ++ rest with
  | nil => simp [writeString] at body
  | cons first more =>
      have quote : first = '"' := by
        rw [writeString, List.cons_append, List.cons_append] at body
        exact (List.cons.inj body).1.symm
      subst quote
      rw [readValue, if_pos rfl, readString_writeString text rest more body]
      rfl

theorem readItems_writeItems
    {items : List Json} (plain : ∀ item ∈ items, item.Plain)
    (readBack : ∀ item ∈ items, ReadsBack item) (nonempty : items ≠ [])
    (fuel : Nat) (reversed : List Json) (rest : List Char)
    (enough : 2 * (writeItems items).length < fuel) :
    readItems fuel reversed (writeItems items ++ ']' :: rest) =
      some (.arr (reversed.reverse ++ items), rest) := by
  induction items generalizing fuel reversed with
  | nil => exact absurd rfl nonempty
  | cons item items inductionHypothesis =>
      have itemPlain := plain item List.mem_cons_self
      have itemBack := readBack item List.mem_cons_self
      obtain ⟨first, more, written, _⟩ := itemPlain.starts
      have itemLength : 0 < (write item).length := by
        rw [written]
        exact Nat.succ_pos _
      rw [writeItems, List.length_append] at enough
      obtain ⟨fuel, rfl⟩ := Nat.exists_eq_add_one.mpr
        (show 0 < fuel by omega)
      have itemFuel : 2 * (write item).length ≤ fuel := by omega
      rw [writeItems, List.append_assoc, readItems]
      cases items with
      | nil =>
          simp only [List.isEmpty_nil, if_true, List.nil_append]
          rw [itemBack fuel _ itemFuel (stops_bracket rest)]
          simp [skipBlank, isBlank]
      | cons next items =>
          simp only [List.isEmpty_cons, Bool.false_eq_true, if_false,
            List.cons_append, List.length_cons] at enough ⊢
          rw [itemBack fuel _ itemFuel (stops_comma _)]
          have nextPlain :=
            plain next (List.mem_cons_of_mem _ List.mem_cons_self)
          have comma :
              skipBlank
                  (',' :: ' ' ::
                    (writeItems (next :: items) ++ ']' :: rest)) =
                ',' :: ' ' ::
                  (writeItems (next :: items) ++ ']' :: rest) := rfl
          have noBlank :
              skipBlank (writeItems (next :: items) ++ ']' :: rest) =
                writeItems (next :: items) ++ ']' :: rest := by
            rw [writeItems, List.append_assoc, nextPlain.skipBlank_write]
          simp only [comma, skipBlank_space, noBlank]
          rw [inductionHypothesis
            (fun tested member => plain tested
              (List.mem_cons_of_mem _ member))
            (fun tested member => readBack tested
              (List.mem_cons_of_mem _ member))
            (List.cons_ne_nil next items) fuel (item :: reversed)
            (by omega)]
          simp

/-- Fields are set one by one, in the order of the text. -/
def setAll (fields more : Dict) : Dict :=
  more.foldl (fun built field => built.set field.1 field.2) fields

theorem readFields_writeFields
    {fields : Dict} (plain : ∀ field ∈ fields, field.2.Plain)
    (readBack : ∀ field ∈ fields, ReadsBack field.2)
    (nonempty : fields ≠ [])
    (fuel : Nat) (before : Dict) (rest : List Char)
    (enough : 2 * (writeFields fields).length ≤ fuel) :
    readFields fuel before (writeFields fields ++ '}' :: rest) =
      some (.obj (setAll before fields), rest) := by
  induction fields generalizing fuel before with
  | nil => exact absurd rfl nonempty
  | cons field fields inductionHypothesis =>
      obtain ⟨key, value⟩ := field
      have valuePlain : value.Plain := plain (key, value) List.mem_cons_self
      have valueBack : ReadsBack value :=
        readBack (key, value) List.mem_cons_self
      rw [writeFields, List.length_append, List.length_append,
        List.length_cons, List.length_cons] at enough
      obtain ⟨fuel, rfl⟩ := Nat.exists_eq_add_one.mpr
        (show 0 < fuel by omega)
      have regrouped :
          writeFields ((key, value) :: fields) ++ '}' :: rest =
            writeString key ++ ':' :: ' ' ::
              (write value ++
                ((if fields.isEmpty then []
                  else ',' :: ' ' :: writeFields fields) ++
                    '}' :: rest)) := by
        simp [writeFields]
      rw [regrouped]
      cases body :
          writeString key ++ ':' :: ' ' ::
            (write value ++
              ((if fields.isEmpty then []
                else ',' :: ' ' :: writeFields fields) ++
                  '}' :: rest)) with
      | nil => simp [writeString] at body
      | cons first more =>
          have quote : first = '"' := by
            rw [writeString, List.cons_append, List.cons_append] at body
            exact (List.cons.inj body).1.symm
          subst quote
          rw [readFields, readString_writeString key _ more body]
          have colon :
              ∀ tail, skipBlank (':' :: ' ' :: tail) =
                ':' :: ' ' :: tail := fun _ => rfl
          simp only [colon, skipBlank_space, valuePlain.skipBlank_write]
          cases fields with
          | nil =>
              simp only [List.isEmpty_nil, if_true, List.nil_append]
              rw [valueBack fuel _ (by omega) (stops_brace rest)]
              rfl
          | cons next fields =>
              obtain ⟨nextKey, nextValue⟩ := next
              simp only [List.isEmpty_cons, Bool.false_eq_true, if_false,
                List.cons_append, List.length_cons] at enough ⊢
              rw [valueBack fuel _ (by omega) (stops_comma _)]
              have comma :
                  ∀ tail, skipBlank (',' :: ' ' :: tail) =
                    ',' :: ' ' :: tail := fun _ => rfl
              have noBlank :
                  ∀ tail,
                    skipBlank
                        (writeFields ((nextKey, nextValue) :: fields) ++
                          tail) =
                      writeFields ((nextKey, nextValue) :: fields) ++
                        tail := fun _ => rfl
              simp only [comma, skipBlank_space, noBlank]
              exact inductionHypothesis
                (fun tested member => plain tested
                  (List.mem_cons_of_mem _ member))
                (fun tested member => readBack tested
                  (List.mem_cons_of_mem _ member))
                (List.cons_ne_nil _ _) fuel (before.set key value)
                (by omega)

theorem setAll_nil
    {fields : Dict} (distinct : (fields.map Prod.fst).Nodup) :
    setAll [] fields = fields := by
  have assigned :
      fields.foldl (fun built item => assign built item.1 item.2) [] =
        [] ++ fields := foldl_assign distinct
  simpa only [setAll, Dict.set_eq_assign, List.nil_append] using assigned

/-- Every plain value is read back. -/
theorem Json.Plain.readsBack {value : Json} (plain : value.Plain) :
    ReadsBack value := by
  induction plain with
  | null =>
      intro fuel rest enough _
      obtain ⟨fuel, rfl⟩ := Nat.exists_eq_add_one.mpr
        (show 0 < fuel by simp [write] at enough; omega)
      rfl
  | bool value =>
      intro fuel rest enough _
      obtain ⟨fuel, rfl⟩ := Nat.exists_eq_add_one.mpr
        (show 0 < fuel by cases value <;> simp [write] at enough <;> omega)
      cases value <;> rfl
  | int value short => exact readsBack_int short
  | str text => exact readsBack_str text
  | arr items inside inductionHypothesis =>
      intro fuel rest enough _
      simp only [write, List.length_append, List.cons_append,
        List.length_cons, List.length_nil] at enough
      obtain ⟨fuel, rfl⟩ := Nat.exists_eq_add_one.mpr
        (show 0 < fuel by omega)
      simp only [write, List.cons_append, List.append_assoc,
        List.nil_append]
      cases items with
      | nil => rfl
      | cons item items =>
          obtain ⟨first, more, written, starts⟩ :=
            (inside item List.mem_cons_self).starts
          have noBlank :
              skipBlank (writeItems (item :: items) ++ ']' :: rest) =
                writeItems (item :: items) ++ ']' :: rest := by
            rw [writeItems, List.append_assoc,
              (inside item List.mem_cons_self).skipBlank_write]
          have readBack :=
            readItems_writeItems inside inductionHypothesis
              (List.cons_ne_nil item items) fuel [] rest (by omega)
          rw [readValue, if_neg (by decide), if_neg (by decide),
            if_pos rfl, noBlank]
          rw [writeItems, written] at readBack ⊢
          simp only [List.cons_append] at readBack ⊢
          split
          · next same =>
              exact absurd (List.cons.inj same).1 starts.2.1
          · exact readBack
  | obj fields distinct inside inductionHypothesis =>
      intro fuel rest enough _
      simp only [write, List.length_append, List.cons_append,
        List.length_cons, List.length_nil] at enough
      obtain ⟨fuel, rfl⟩ := Nat.exists_eq_add_one.mpr
        (show 0 < fuel by omega)
      simp only [write, List.cons_append, List.append_assoc,
        List.nil_append]
      cases fields with
      | nil => rfl
      | cons field fields =>
          obtain ⟨key, value⟩ := field
          have readBack :=
            readFields_writeFields inside inductionHypothesis
              (List.cons_ne_nil (key, value) fields) fuel [] rest (by omega)
          rw [setAll_nil distinct] at readBack
          rw [readValue, if_neg (by decide), if_pos rfl]
          exact readBack

/-- `json.loads(json.dumps(value)) == value` -/
theorem loads_dumps {value : Json} (plain : value.Plain) :
    loads (dumps value) = .ok value := by
  have start : skipBlank (dumps value).toList = write value := by
    have noBlank := plain.skipBlank_write []
    rw [List.append_nil] at noBlank
    rw [dumps, String.toList_ofList, noBlank]
  have readBack :=
    plain.readsBack (2 * (dumps value).toList.length + 2) []
      (by rw [dumps, String.toList_ofList]; omega) trivial
  rw [List.append_nil] at readBack
  rw [loads, start, readBack]
  rfl

/-! ## Sorted keys -/

theorem sortItems_eq (items : List Json) :
    sortItems items = items.map sortKeys := by
  induction items with
  | nil => rfl
  | cons item items inductionHypothesis =>
      rw [sortItems, inductionHypothesis, List.map_cons]

theorem sortFields_eq (fields : Dict) :
    sortFields fields = fields.map (Prod.map id sortKeys) := by
  induction fields with
  | nil => rfl
  | cons field fields inductionHypothesis =>
      obtain ⟨key, value⟩ := field
      rw [sortFields, inductionHypothesis]
      rfl

theorem sortKeys_obj (fields : Dict) :
    ∃ sorted : Dict, sortKeys (.obj fields) = .obj sorted ∧
      sorted.Perm (fields.map (Prod.map id sortKeys)) := by
  refine ⟨_, rfl, ?_⟩
  rw [sortFields_eq]
  exact List.perm_insertionSort ByKey _

theorem Json.Plain.sortKeys {value : Json} (plain : value.Plain) :
    (sortKeys value).Plain := by
  induction plain with
  | null => exact .null
  | bool value => exact .bool value
  | int value short => exact .int value short
  | str text => exact .str text
  | arr items inside inductionHypothesis =>
      rw [JsonWriter.sortKeys, sortItems_eq]
      refine .arr _ ?_
      intro item member
      obtain ⟨original, present, rfl⟩ := List.mem_map.mp member
      exact inductionHypothesis original present
  | obj fields distinct inside inductionHypothesis =>
      obtain ⟨sorted, isSorted, reordered⟩ := sortKeys_obj fields
      rw [isSorted]
      refine .obj sorted ?_ ?_
      · rw [(reordered.map Prod.fst).nodup_iff]
        simpa [Function.comp_def] using distinct
      · intro field member
        obtain ⟨original, present, rfl⟩ :=
          List.mem_map.mp (reordered.mem_iff.mp member)
        exact inductionHypothesis original present

/-- With sorted keys the text is that of the sorted value. -/
theorem loads_dumpsSorted {value : Json} (plain : value.Plain) :
    loads (dumpsSorted value) = .ok (sortKeys value) :=
  loads_dumps plain.sortKeys

end Python

import SwarmFi.Python.Number

/-!
# Plain numerals

Text that is nothing but digits, or `0x` and hexadecimal digits, and what
`int` makes of it in either base.  Decimal digits are hexadecimal digits, too:
read in base 16 they stand for another number as soon as there is a digit
other than zero in front of the last one.
-/

namespace Python

/-! ## Digits and their value -/

/-- What digits stand for in a base. -/
def valueIn (base : Nat) (digits : List Char) : Nat :=
  digits.foldl (fun value digit => value * base + digitValue digit) 0

/-- At least one digit of the base, and nothing else. -/
def IsNumeral (base : Nat) (characters : List Char) : Prop :=
  characters ≠ [] ∧ ∀ character ∈ characters, digitValue character < base

instance (base : Nat) (characters : List Char) :
    Decidable (IsNumeral base characters) :=
  @instDecidableAnd _ _ instDecidableNot (List.decidableBAll _ characters)

theorem IsNumeral.mono {base wider : Nat} {characters : List Char}
    (numeral : IsNumeral base characters) (le : base ≤ wider) :
    IsNumeral wider characters :=
  ⟨numeral.1, fun character member =>
    Nat.lt_of_lt_of_le (numeral.2 character member) le⟩

theorem valueIn_snoc (base : Nat) (digits : List Char) (digit : Char) :
    valueIn base (digits ++ [digit]) =
      valueIn base digits * base + digitValue digit := by
  unfold valueIn
  rw [List.foldl_append]
  rfl

/-- A greater base gives no smaller value, and zero only for zero. -/
theorem valueIn_le {base wider : Nat} (le : base ≤ wider)
    (digits : List Char) : valueIn base digits ≤ valueIn wider digits := by
  induction digits using List.reverseRecOn with
  | nil => exact Nat.le_refl _
  | append_singleton digits digit inductionHypothesis =>
      rw [valueIn_snoc, valueIn_snoc]
      have front := Nat.mul_le_mul inductionHypothesis le
      omega

theorem valueIn_eq_zero {base : Nat} (positive : 0 < base) (wider : Nat)
    {digits : List Char} (isZero : valueIn base digits = 0) :
    valueIn wider digits = 0 := by
  induction digits using List.reverseRecOn with
  | nil => rfl
  | append_singleton digits digit inductionHypothesis =>
      rw [valueIn_snoc] at isZero ⊢
      have noFront : valueIn base digits * base = 0 := by omega
      have front : valueIn base digits = 0 := by
        rcases Nat.mul_eq_zero.mp noFront with isZero | noBase
        · exact isZero
        · omega
      rw [inductionHypothesis front]
      omega

/-- Digits stand for the same number in a greater base exactly when they
stand for a single digit. -/
theorem valueIn_eq_iff {base wider : Nat} (positive : 0 < base)
    (lt : base < wider) {digits : List Char}
    (numeral : IsNumeral base digits) :
    valueIn wider digits = valueIn base digits ↔
      valueIn base digits < base := by
  induction digits using List.reverseRecOn with
  | nil => exact absurd rfl numeral.1
  | append_singleton digits digit _ =>
      have small : digitValue digit < base :=
        numeral.2 digit (List.mem_append_right _ (List.mem_singleton_self _))
      have front := valueIn_le (Nat.le_of_lt lt) digits
      rw [valueIn_snoc, valueIn_snoc]
      by_cases isZero : valueIn base digits = 0
      · rw [isZero, valueIn_eq_zero positive wider isZero]
        omega
      · have one : 1 ≤ valueIn base digits := Nat.one_le_iff_ne_zero.mpr isZero
        have less := Nat.mul_lt_mul_of_le_of_lt front lt
          (Nat.lt_of_lt_of_le one front)
        have atLeast := Nat.mul_le_mul_right base one
        omega

/-! ## What `int` reads -/

/-- A digit is an ASCII character, and no sign, space or underscore. -/
structure Plain (character : Char) : Prop where
  ascii : character.toNat < 127
  noSpace : isAsciiSpace character = false
  noUnderscore : character ≠ '_'
  noMinus : character ≠ '-'
  noPlus : character ≠ '+'
  noMark : character ≠ 'x' ∧ character ≠ 'X'

theorem plain_of_digitValue {character : Char}
    (digit : digitValue character < 16) : Plain character := by
  have code : (48 ≤ character.toNat ∧ character.toNat ≤ 57) ∨
      (97 ≤ character.toNat ∧ character.toNat ≤ 102) ∨
        (65 ≤ character.toNat ∧ character.toNat ≤ 70) := by
    simp only [digitValue] at digit
    split at digit
    · omega
    · split at digit
      · omega
      · split at digit <;> omega
  have notIs {other : Char}
      (differs : ¬ ((48 ≤ other.toNat ∧ other.toNat ≤ 57) ∨
        (97 ≤ other.toNat ∧ other.toNat ≤ 102) ∨
          (65 ≤ other.toNat ∧ other.toNat ≤ 70))) : character ≠ other := by
    intro same
    rw [same] at code
    exact differs code
  constructor
  · omega
  · unfold isAsciiSpace
    rw [List.contains_eq_mem, decide_eq_false_iff_not]
    intro member
    simp only [List.mem_cons, List.not_mem_nil, or_false] at member
    omega
  · exact notIs (by decide)
  · exact notIs (by decide)
  · exact notIs (by decide)
  · exact ⟨notIs (by decide), notIs (by decide)⟩

theorem dropWhile_of_all {α : Type} (drops : α → Bool) {items : List α}
    (none_ : ∀ item ∈ items, drops item = false) :
    items.dropWhile drops = items := by
  cases items with
  | nil => rfl
  | cons item rest =>
      rw [List.dropWhile_cons, none_ item List.mem_cons_self]
      rfl

theorem stripAscii_of_plain {characters : List Char}
    (plain : ∀ character ∈ characters, isAsciiSpace character = false) :
    stripAscii characters = characters := by
  unfold stripAscii
  rw [dropWhile_of_all isAsciiSpace plain, dropWhile_of_all isAsciiSpace,
    List.reverse_reverse]
  intro character member
  exact plain character (List.mem_reverse.mp member)

theorem map_toNumeral {characters : List Char}
    (ascii : ∀ character ∈ characters, character.toNat < 127) :
    characters.map toNumeral = characters := by
  have same : ∀ character ∈ characters, toNumeral character = character := by
    intro character member
    unfold toNumeral
    rw [if_pos (ascii character member)]
  rw [List.map_congr_left same, List.map_id']

theorem splitSign_of_plain {characters : List Char}
    (noMinus : ∀ rest, characters ≠ '-' :: rest)
    (noPlus : ∀ rest, characters ≠ '+' :: rest) :
    splitSign characters = (false, characters) := by
  unfold splitSign
  split
  · next rest => exact absurd rfl (noMinus rest)
  · next rest => exact absurd rfl (noPlus rest)
  · rfl

/-- Digits are read to their end. -/
theorem readDigits_of_digits {base : Nat} {fresh : Bool} {digits : List Char}
    (all : ∀ digit ∈ digits, digitValue digit < base ∧ digit ≠ '_')
    (some_ : fresh = true → digits ≠ []) (value : Nat) :
    readDigits base fresh value digits =
      some (digits.foldl
        (fun value digit => value * base + digitValue digit) value) := by
  induction digits generalizing fresh value with
  | nil =>
      cases fresh with
      | false => rfl
      | true => exact absurd rfl (some_ rfl)
  | cons digit rest inductionHypothesis =>
      obtain ⟨small, noUnderscore⟩ := all digit List.mem_cons_self
      rw [readDigits, if_neg noUnderscore, if_pos small,
        inductionHypothesis
          (fun other member => all other (List.mem_cons_of_mem _ member))
          (fun isFresh => by cases isFresh)]
      rfl

theorem readDigits_of_numeral {base : Nat} (le : base ≤ 16)
    {digits : List Char} (numeral : IsNumeral base digits) :
    readDigits base true 0 digits = some (valueIn base digits) := by
  apply readDigits_of_digits
  · intro digit member
    have small := numeral.2 digit member
    exact ⟨small,
      (plain_of_digitValue (Nat.lt_of_lt_of_le small le)).noUnderscore⟩
  · intro _
    exact numeral.1

/-- `int` of digits that no mark stands before. -/
theorem parseInt_of_numeral {base : Nat} (le : base ≤ 16) {text : String}
    (numeral : IsNumeral base text.toList) :
    parseInt base text =
      if tooManyDigits base text.toList then none
      else some (valueIn base text.toList : Int) := by
  have plain : ∀ character ∈ text.toList, Plain character := fun _ member =>
    plain_of_digitValue (Nat.lt_of_lt_of_le (numeral.2 _ member) le)
  have unmarked : dropBaseMark base text.toList = text.toList := by
    unfold dropBaseMark
    split
    · next mark rest isText =>
        have member : mark ∈ text.toList := by
          rw [isText]
          exact List.mem_cons_of_mem _ List.mem_cons_self
        have noMark := (plain mark member).noMark
        rw [isText]
        apply if_neg
        intro marked
        rcases marked.2 with isX | isX
        · exact noMark.1 isX
        · exact noMark.2 isX
    · rfl
  have unsigned : splitSign text.toList = (false, text.toList) := by
    apply splitSign_of_plain
    · intro rest isText
      rw [isText] at plain
      exact (plain '-' List.mem_cons_self).noMinus rfl
    · intro rest isText
      rw [isText] at plain
      exact (plain '+' List.mem_cons_self).noPlus rfl
  unfold parseInt
  rw [map_toNumeral fun character member => (plain character member).ascii,
    stripAscii_of_plain fun character member =>
      (plain character member).noSpace, unsigned]
  simp only [unmarked, readDigits_of_numeral le numeral]
  rfl

/-- `int(text, 16)` of marked hexadecimal digits. -/
theorem parseInt_of_marked {text : String} {digits : List Char}
    (isText : text.toList = '0' :: 'x' :: digits)
    (numeral : IsNumeral 16 digits) :
    parseInt 16 text = some (valueIn 16 digits : Int) := by
  have plain : ∀ character ∈ digits, Plain character :=
    fun _ member => plain_of_digitValue (numeral.2 _ member)
  have ascii : ∀ character ∈ text.toList, character.toNat < 127 := by
    rw [isText, List.forall_mem_cons, List.forall_mem_cons]
    exact ⟨by decide, by decide, fun character member =>
      (plain character member).ascii⟩
  have noSpace : ∀ character ∈ text.toList,
      isAsciiSpace character = false := by
    rw [isText, List.forall_mem_cons, List.forall_mem_cons]
    exact ⟨by decide, by decide, fun character member =>
      (plain character member).noSpace⟩
  have unmarked : dropBaseMark 16 ('0' :: 'x' :: digits) = digits := by
    simp only [dropBaseMark, true_and, true_or, if_true]
    split
    · next rest =>
        exact absurd rfl (plain '_' List.mem_cons_self).noUnderscore
    · rfl
  have unsigned : splitSign ('0' :: 'x' :: digits) =
      (false, '0' :: 'x' :: digits) := rfl
  have few : tooManyDigits 16 ('0' :: 'x' :: digits) = false := rfl
  unfold parseInt
  rw [map_toNumeral ascii, stripAscii_of_plain noSpace, isText, unsigned]
  simp only [few, unmarked, readDigits_of_numeral (Nat.le_refl 16) numeral]
  rfl

end Python

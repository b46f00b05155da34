import SwarmFi.Python.Numeral

/-!
# The literals that `int(text, 16)` reads

A literal of base 16 is more than hexadecimal digits: spaces may stand around
it, a sign and `0x` before it, and single underscores between its digits or
after the `0x`.  The grammar is written over `text.map toNumeral`, where a
non-ASCII space is a space and a non-ASCII decimal digit is its ASCII digit.
-/

namespace Python

/-! ## The grammar -/

/-- Hexadecimal digits with single underscores between them. -/
inductive HexDigits : List Char → Prop
  | last {digit : Char} (isDigit : digitValue digit < 16) :
      HexDigits [digit]
  | next {digit : Char} {rest : List Char}
      (isDigit : digitValue digit < 16) (digits : HexDigits rest) :
      HexDigits (digit :: rest)
  | apart {digit : Char} {rest : List Char}
      (isDigit : digitValue digit < 16) (digits : HexDigits rest) :
      HexDigits (digit :: '_' :: rest)

def hexSigns : List (List Char) := [[], ['+'], ['-']]

def hexMarks : List (List Char) :=
  [[], ['0', 'x'], ['0', 'X'], ['0', 'x', '_'], ['0', 'X', '_']]

/-- A mark, or none, and digits. -/
def MarkedDigits (unsigned : List Char) : Prop :=
  ∃ mark ∈ hexMarks, ∃ digits, unsigned = mark ++ digits ∧ HexDigits digits

/-- A sign, or none, a mark, or none, and digits, with spaces around. -/
def HexLiteral (characters : List Char) : Prop :=
  ∃ before after, ∃ sign ∈ hexSigns, ∃ unsigned,
    (∀ space ∈ before ++ after, isAsciiSpace space = true) ∧
      MarkedDigits unsigned ∧
      characters = before ++ (sign ++ unsigned) ++ after

/-! ## Digits -/

theorem hexDigits_cons_iff (digit : Char) (rest : List Char) :
    HexDigits (digit :: rest) ↔
      digitValue digit < 16 ∧
        (rest = [] ∨ HexDigits rest ∨
          ∃ tail, rest = '_' :: tail ∧ HexDigits tail) := by
  constructor
  · intro digits
    cases digits with
    | last isDigit => exact ⟨isDigit, Or.inl rfl⟩
    | next isDigit digits => exact ⟨isDigit, Or.inr (Or.inl digits)⟩
    | apart isDigit digits =>
        exact ⟨isDigit, Or.inr (Or.inr ⟨_, rfl, digits⟩)⟩
  · rintro ⟨isDigit, rfl | digits | ⟨tail, rfl, digits⟩⟩
    · exact .last isDigit
    · exact .next isDigit digits
    · exact .apart isDigit digits

theorem not_hexDigits_cons {character : Char} {rest : List Char}
    (noDigit : ¬ digitValue character < 16) :
    ¬ HexDigits (character :: rest) := fun digits =>
  noDigit ((hexDigits_cons_iff _ _).mp digits).1

theorem not_hexDigits_marked {mark : Char} {rest : List Char}
    (noDigit : ¬ digitValue mark < 16) (noUnderscore : mark ≠ '_') :
    ¬ HexDigits ('0' :: mark :: rest) := by
  intro digits
  rcases ((hexDigits_cons_iff _ _).mp digits).2 with
    isNil | digits | ⟨tail, isRest, _⟩
  · cases isNil
  · exact not_hexDigits_cons noDigit digits
  · exact noUnderscore (List.cons.inj isRest).1

/-- What follows a digit, and what follows no digit. -/
theorem isSome_readDigits (characters : List Char) :
    ∀ value,
      ((readDigits 16 true value characters).isSome = true ↔
        HexDigits characters) ∧
      ((readDigits 16 false value characters).isSome = true ↔
        characters = [] ∨ HexDigits characters ∨
          ∃ tail, characters = '_' :: tail ∧ HexDigits tail) := by
  induction characters with
  | nil =>
      intro value
      have noDigits : ¬ HexDigits [] := nofun
      simp [readDigits, noDigits]
  | cons character rest inductionHypothesis =>
      intro value
      by_cases underscore : character = '_'
      · subst underscore
        have noDigits : ¬ HexDigits ('_' :: rest) :=
          not_hexDigits_cons (by decide)
        simp [readDigits, noDigits, (inductionHypothesis value).1]
      · by_cases isDigit : digitValue character < 16
        · have more := (inductionHypothesis
            (value * 16 + digitValue character)).2
          have cons := hexDigits_cons_iff character rest
          simp [readDigits, underscore, isDigit, more, cons]
        · have noDigits : ¬ HexDigits (character :: rest) :=
            not_hexDigits_cons isDigit
          simp [readDigits, underscore, isDigit, noDigits]

/-! ## The mark, the sign and the spaces -/

theorem markedDigits_of_unmarked {unsigned : List Char}
    (unmarked : ∀ mark rest, mark = 'x' ∨ mark = 'X' →
      unsigned ≠ '0' :: mark :: rest) :
    MarkedDigits unsigned ↔ HexDigits unsigned := by
  constructor
  · rintro ⟨mark, isMark, digits, rfl, isDigits⟩
    simp only [hexMarks, List.mem_cons, List.not_mem_nil, or_false] at isMark
    rcases isMark with rfl | rfl | rfl | rfl | rfl
    · exact isDigits
    · exact absurd rfl (unmarked 'x' digits (Or.inl rfl))
    · exact absurd rfl (unmarked 'X' digits (Or.inr rfl))
    · exact absurd rfl (unmarked 'x' ('_' :: digits) (Or.inl rfl))
    · exact absurd rfl (unmarked 'X' ('_' :: digits) (Or.inr rfl))
  · intro isDigits
    exact ⟨[], List.mem_cons_self, unsigned, rfl, isDigits⟩

/-- After `0x` come digits, or one underscore and digits. -/
theorem markedDigits_of_marked {mark : Char} (isMark : mark = 'x' ∨ mark = 'X')
    (rest : List Char) :
    MarkedDigits ('0' :: mark :: rest) ↔
      HexDigits rest ∨ ∃ digits, rest = '_' :: digits ∧ HexDigits digits := by
  constructor
  · rintro ⟨start, isStart, digits, isText, isDigits⟩
    simp only [hexMarks, List.mem_cons, List.not_mem_nil, or_false] at isStart
    rcases isStart with rfl | rfl | rfl | rfl | rfl
    · rw [List.nil_append] at isText
      rw [← isText] at isDigits
      rcases isMark with rfl | rfl
      · exact absurd isDigits
          (not_hexDigits_marked (by decide) (by decide))
      · exact absurd isDigits
          (not_hexDigits_marked (by decide) (by decide))
    all_goals
      obtain ⟨-, isRest⟩ := List.cons.inj (List.cons.inj isText).2
      subst isRest
    · exact Or.inl isDigits
    · exact Or.inl isDigits
    · exact Or.inr ⟨digits, rfl, isDigits⟩
    · exact Or.inr ⟨digits, rfl, isDigits⟩
  · rintro (isDigits | ⟨digits, rfl, isDigits⟩)
    · rcases isMark with rfl | rfl
      · exact ⟨['0', 'x'], by decide, rest, rfl, isDigits⟩
      · exact ⟨['0', 'X'], by decide, rest, rfl, isDigits⟩
    · rcases isMark with rfl | rfl
      · exact ⟨['0', 'x', '_'], by decide, digits, rfl, isDigits⟩
      · exact ⟨['0', 'X', '_'], by decide, digits, rfl, isDigits⟩

theorem hexDigits_dropBaseMark (unsigned : List Char) :
    HexDigits (dropBaseMark 16 unsigned) ↔ MarkedDigits unsigned := by
  unfold dropBaseMark
  split
  · next mark rest =>
      by_cases isMark : mark = 'x' ∨ mark = 'X'
      · rw [if_pos ⟨rfl, isMark⟩, markedDigits_of_marked isMark]
        split
        · next digits =>
            have noDigits : ¬ HexDigits ('_' :: digits) :=
              not_hexDigits_cons (by decide)
            simp [noDigits]
        · next digits noUnderscore =>
            constructor
            · exact Or.inl
            · rintro (isDigits | ⟨tail, isRest, _⟩)
              · exact isDigits
              · exact absurd isRest (noUnderscore tail)
      · rw [if_neg fun marked => isMark marked.2,
          markedDigits_of_unmarked]
        rintro other tail isOther same
        obtain ⟨rfl, -⟩ := List.cons.inj (List.cons.inj same).2
        exact isMark isOther
  · next unmarked =>
      rw [markedDigits_of_unmarked]
      intro mark rest _ same
      exact unmarked mark rest same

/-- A character of a literal without its spaces. -/
def LiteralCharacter (character : Char) : Prop :=
  digitValue character < 16 ∨
    character ∈ ['0', '_', 'x', 'X', '+', '-']

theorem LiteralCharacter.noSpace {character : Char}
    (isLiteral : LiteralCharacter character) :
    isAsciiSpace character = false := by
  rcases isLiteral with isDigit | isOther
  · exact (plain_of_digitValue isDigit).noSpace
  · simp only [List.mem_cons, List.not_mem_nil, or_false] at isOther
    rcases isOther with rfl | rfl | rfl | rfl | rfl | rfl <;> decide

theorem HexDigits.characters {digits : List Char}
    (isDigits : HexDigits digits) :
    ∀ character ∈ digits, LiteralCharacter character := by
  induction isDigits with
  | last isDigit =>
      rw [List.forall_mem_singleton]
      exact Or.inl isDigit
  | next isDigit _ inductionHypothesis =>
      rw [List.forall_mem_cons]
      exact ⟨Or.inl isDigit, inductionHypothesis⟩
  | apart isDigit _ inductionHypothesis =>
      rw [List.forall_mem_cons, List.forall_mem_cons]
      exact ⟨Or.inl isDigit, Or.inr (by simp), inductionHypothesis⟩

theorem HexDigits.ne_nil {digits : List Char} (isDigits : HexDigits digits) :
    digits ≠ [] := by
  cases isDigits <;> exact List.cons_ne_nil _ _

theorem MarkedDigits.characters {unsigned : List Char}
    (marked : MarkedDigits unsigned) :
    ∀ character ∈ unsigned, LiteralCharacter character := by
  obtain ⟨mark, isMark, digits, rfl, isDigits⟩ := marked
  have markCharacters : ∀ start ∈ hexMarks, ∀ character ∈ start,
      character ∈ ['0', '_', 'x', 'X', '+', '-'] := by simp [hexMarks]
  intro character member
  rcases List.mem_append.mp member with inMark | inDigits
  · exact Or.inr (markCharacters mark isMark character inMark)
  · exact isDigits.characters character inDigits

theorem MarkedDigits.ne_nil {unsigned : List Char}
    (marked : MarkedDigits unsigned) : unsigned ≠ [] := by
  obtain ⟨mark, _, digits, rfl, isDigits⟩ := marked
  exact List.append_ne_nil_of_right_ne_nil mark isDigits.ne_nil

theorem not_markedDigits_sign {sign : Char} (isSign : sign ∈ ['+', '-'])
    (rest : List Char) : ¬ MarkedDigits (sign :: rest) := by
  have noDigit : ¬ digitValue sign < 16 := by
    simp only [List.mem_cons, List.not_mem_nil, or_false] at isSign
    rcases isSign with rfl | rfl <;> decide
  rw [markedDigits_of_unmarked]
  · exact not_hexDigits_cons noDigit
  · intro mark tail _ same
    obtain ⟨rfl, -⟩ := List.cons.inj same
    exact noDigit (by decide)

theorem markedDigits_splitSign (signed : List Char) :
    MarkedDigits (splitSign signed).2 ↔
      ∃ sign ∈ hexSigns, ∃ unsigned, signed = sign ++ unsigned ∧
        MarkedDigits unsigned := by
  constructor
  · intro marked
    unfold splitSign at marked
    split at marked
    · exact ⟨['-'], by decide, _, rfl, marked⟩
    · exact ⟨['+'], by decide, _, rfl, marked⟩
    · exact ⟨[], by decide, _, rfl, marked⟩
  · rintro ⟨sign, isSign, unsigned, rfl, marked⟩
    simp only [hexSigns, List.mem_cons, List.not_mem_nil, or_false] at isSign
    rcases isSign with rfl | rfl | rfl
    · rw [List.nil_append, splitSign_of_plain]
      · exact marked
      · rintro rest rfl
        exact not_markedDigits_sign (by simp) rest marked
      · rintro rest rfl
        exact not_markedDigits_sign (by simp) rest marked
    · exact marked
    · exact marked

/-- What `strip` takes off is space on both sides. -/
theorem exists_stripAscii (characters : List Char) :
    ∃ before after,
      (∀ space ∈ before ++ after, isAsciiSpace space = true) ∧
        characters = before ++ stripAscii characters ++ after := by
  refine ⟨characters.takeWhile isAsciiSpace,
    ((characters.dropWhile isAsciiSpace).reverse.takeWhile
      isAsciiSpace).reverse, ?_, ?_⟩
  · intro space member
    rcases List.mem_append.mp member with atStart | atEnd
    · exact List.mem_takeWhile_imp atStart
    · exact List.mem_takeWhile_imp (List.mem_reverse.mp atEnd)
  · unfold stripAscii
    rw [List.append_assoc, ← List.reverse_append,
      List.takeWhile_append_dropWhile, List.reverse_reverse,
      List.takeWhile_append_dropWhile]

theorem stripAscii_append {before core after : List Char}
    (spaces : ∀ space ∈ before ++ after, isAsciiSpace space = true)
    (noSpace : ∀ character ∈ core, isAsciiSpace character = false)
    (notEmpty : core ≠ []) :
    stripAscii (before ++ core ++ after) = core := by
  have dropped : (before ++ core ++ after).dropWhile isAsciiSpace =
      core ++ after := by
    rw [List.append_assoc, List.dropWhile_append_of_pos fun space member =>
      spaces space (List.mem_append_left _ member)]
    cases core with
    | nil => exact absurd rfl notEmpty
    | cons first core =>
        rw [List.cons_append, List.dropWhile_cons,
          noSpace first List.mem_cons_self]
        rfl
  unfold stripAscii
  rw [dropped, List.reverse_append,
    List.dropWhile_append_of_pos fun space member =>
      spaces space (List.mem_append_right _ (List.mem_reverse.mp member)),
    dropWhile_of_all isAsciiSpace fun character member =>
      noSpace character (List.mem_reverse.mp member),
    List.reverse_reverse]

theorem literalCharacter_of_signed {sign unsigned : List Char}
    (isSign : sign ∈ hexSigns) (marked : MarkedDigits unsigned) :
    ∀ character ∈ sign ++ unsigned, LiteralCharacter character := by
  have signCharacters : ∀ start ∈ hexSigns, ∀ character ∈ start,
      character ∈ ['0', '_', 'x', 'X', '+', '-'] := by simp [hexSigns]
  intro character member
  rcases List.mem_append.mp member with inSign | inUnsigned
  · exact Or.inr (signCharacters sign isSign character inSign)
  · exact marked.characters character inUnsigned

theorem hexLiteral_iff_stripAscii (characters : List Char) :
    HexLiteral characters ↔
      MarkedDigits (splitSign (stripAscii characters)).2 := by
  rw [markedDigits_splitSign]
  constructor
  · rintro ⟨before, after, sign, isSign, unsigned, spaces, marked, rfl⟩
    have noSpace : ∀ character ∈ sign ++ unsigned,
        isAsciiSpace character = false := fun character member =>
      (literalCharacter_of_signed isSign marked character member).noSpace
    exact ⟨sign, isSign, unsigned,
      stripAscii_append spaces noSpace
        (List.append_ne_nil_of_right_ne_nil sign marked.ne_nil), marked⟩
  · rintro ⟨sign, isSign, unsigned, isText, marked⟩
    obtain ⟨before, after, spaces, isWhole⟩ := exists_stripAscii characters
    rw [isText] at isWhole
    exact ⟨before, after, sign, isSign, unsigned, spaces, marked, isWhole⟩

/-- `int(text, 16)` reads the literals of base 16. -/
theorem isSome_parseInt_iff (text : String) :
    (parseInt 16 text).isSome = true ↔
      HexLiteral (text.toList.map toNumeral) := by
  rw [hexLiteral_iff_stripAscii, ← hexDigits_dropBaseMark,
    ← (isSome_readDigits _ 0).1]
  unfold parseInt
  generalize splitSign (stripAscii (text.toList.map toNumeral)) = signed
  have few : tooManyDigits 16 signed.2 = false := rfl
  simp only [few, Bool.false_eq_true, if_false]
  cases readDigits 16 true 0 (dropBaseMark 16 signed.2) <;> simp

end Python

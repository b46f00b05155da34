import SwarmFi.Python.JsonSyntax

/-!
# How far a JSON text is read

A number, or a word that stands for a value, has neither quotes nor brackets
in it, and where a blank, a comma or a closing bracket follows, it is read
without regard to what comes after that.  Two units of fuel for each
character that is read, and one more, are enough.
-/

namespace Python

theorem afterStart_append_cons {start : List Char} {mark : Char}
    (apart : mark ∉ start) (before after : List Char) :
    afterStart start (before ++ mark :: after) =
      (afterStart start before).map (· ++ mark :: after) := by
  induction start generalizing before with
  | nil => rfl
  | cons first start inductionHypothesis =>
      rw [List.mem_cons, not_or] at apart
      cases before with
      | nil =>
          have refused :
              afterStart (first :: start) (mark :: after) = none := by
            rw [afterStart, if_neg (Ne.symm apart.1)]
          exact refused
      | cons head before =>
          rw [List.cons_append, afterStart, afterStart]
          by_cases same : first = head
          · rw [if_pos same, if_pos same]
            exact inductionHypothesis apart.2 before
          · rw [if_neg same, if_neg same]
            rfl

namespace JsonSyntax

open JsonReader

/-! ## The characters of a word -/

/-- Neither a quote, a bracket, a backslash nor a backtick. -/
def Plain (character : Char) : Prop :=
  character.toNat ∉ [0x22, 0x5b, 0x5c, 0x5d, 0x60, 0x7b, 0x7d]

/-- Between a text and its tail are plain characters. -/
def Past (characters tail : List Char) : Prop :=
  ∃ word, (∀ character ∈ word, Plain character) ∧
    characters = word ++ tail

namespace Past

theorem refl (characters : List Char) : Past characters characters :=
  ⟨[], List.forall_mem_nil _, rfl⟩

theorem trans {characters middle tail : List Char}
    (early : Past characters middle) (late : Past middle tail) :
    Past characters tail := by
  obtain ⟨first, firstPlain, rfl⟩ := early
  obtain ⟨second, secondPlain, rfl⟩ := late
  refine ⟨first ++ second, ?_, (List.append_assoc first second tail).symm⟩
  exact List.forall_mem_append.mpr ⟨firstPlain, secondPlain⟩

theorem single {character : Char} (plain : Plain character)
    (rest : List Char) : Past (character :: rest) rest :=
  ⟨[character], by rwa [List.forall_mem_singleton], rfl⟩

end Past

theorem plain_of_isDigit {character : Char}
    (digit : isDigit character = true) : Plain character := by
  simp only [isDigit, Bool.and_eq_true, decide_eq_true_eq] at digit
  simp only [Plain, List.mem_cons, List.not_mem_nil, or_false]
  omega

theorem digits_past (characters : List Char) :
    Past characters (characters.dropWhile isDigit) :=
  ⟨characters.takeWhile isDigit,
    fun _ member => plain_of_isDigit (List.mem_takeWhile_imp member),
    List.takeWhile_append_dropWhile.symm⟩

theorem readWhole_past {characters whole tail : List Char}
    (read : readWhole characters = some (whole, tail)) :
    Past characters tail := by
  cases characters with
  | nil => cases read
  | cons character rest =>
      rw [readWhole] at read
      by_cases zero : character = '0'
      · rw [if_pos zero] at read
        cases read
        exact .single (plain_of_isDigit (by rw [zero]; rfl)) _
      · rw [if_neg zero] at read
        by_cases digit : isDigit character = true
        · rw [if_pos digit] at read
          cases read
          exact (Past.single (plain_of_isDigit digit) rest).trans
            (digits_past rest)
        · rw [if_neg digit] at read
          cases read

theorem readFraction_past (characters : List Char) :
    Past characters (readFraction characters).2 := by
  unfold readFraction
  split
  · next rest =>
      have point : Plain '.' := by unfold Plain; decide
      split
      · exact .refl _
      · exact (Past.single point rest).trans (digits_past rest)
  · exact .refl _

theorem splitSign_past (characters : List Char) :
    Past characters (splitSign characters).2 := by
  unfold splitSign
  split
  · exact .single (by unfold Plain; decide) _
  · exact .single (by unfold Plain; decide) _
  · exact .refl _

theorem readPower_past (characters : List Char) :
    Past characters (readPower characters).2 := by
  unfold readPower
  split
  · next mark rest =>
      by_cases isMark : mark = 'e' ∨ mark = 'E'
      · rw [if_pos isMark]
        have plain : Plain mark := by
          rcases isMark with rfl | rfl <;> unfold Plain <;> decide
        dsimp only
        split
        · exact .refl _
        · exact ((Past.single plain rest).trans (splitSign_past rest)).trans
            (digits_past _)
      · rw [if_neg isMark]
        exact .refl _
  · exact .refl _

theorem readNumber_past {characters tail : List Char} {value : Json}
    (read : readNumber characters = some (value, tail)) :
    Past characters tail := by
  unfold readNumber at read
  split at read
  next negative digits isSigned =>
    have signed : Past characters digits := by
      split at isSigned
      · cases isSigned
        exact .single (by unfold Plain; decide) _
      · cases isSigned
        exact .refl _
    cases isWhole : readWhole digits with
    | none =>
        rw [isWhole] at read
        cases read
    | some reading =>
        obtain ⟨whole, afterWhole⟩ := reading
        have passed := ((signed.trans (readWhole_past isWhole)).trans
          (readFraction_past afterWhole)).trans
            (readPower_past (readFraction afterWhole).2)
        rw [isWhole] at read
        dsimp only at read
        split at read
        · split at read
          · cases read
          · cases read
            exact passed
        · cases read
          exact passed

theorem readLiteral_past {characters tail : List Char} {value : Json}
    (read : readLiteral characters = some (value, tail)) :
    Past characters tail := by
  have checked : ∀ word ∈ literals, ∀ character ∈ word.1.toList,
      Plain character := by
    unfold Plain
    simp [literals]
  obtain ⟨word, member, isWord⟩ := List.exists_of_findSome?_eq_some read
  obtain ⟨rest, begins, same⟩ := Option.map_eq_some_iff.mp isWord
  cases same
  exact ⟨_, checked word member, (afterStart_eq_some_iff _ _ _).mp begins⟩

theorem readWord_past {characters tail : List Char} {value : Json}
    (read : readWord characters = some (value, tail)) :
    Past characters tail := by
  unfold readWord at read
  split at read
  · next literal isLiteral =>
      cases read
      exact readLiteral_past isLiteral
  · exact readNumber_past read

/-! ## Delimiters -/

/-- What may follow a value. -/
def isDelimiter (character : Char) : Bool :=
  isBlank character || [',', ']', '}'].contains character

/-- A text that is over or goes on with a delimiter. -/
def Ends (characters : List Char) : Prop :=
  ∀ first ∈ characters.head?, isDelimiter first = true

theorem isDigit_delimiter {character : Char}
    (delimiter : isDelimiter character = true) :
    isDigit character = false := by
  by_contra digit
  rw [Bool.not_eq_false] at digit
  simp only [isDigit, Bool.and_eq_true, decide_eq_true_eq] at digit
  simp only [isDelimiter, isBlank, Bool.or_eq_true, List.contains_iff_mem,
    List.mem_cons, List.not_mem_nil, or_false] at delimiter
  rcases delimiter with blank | rfl | rfl | rfl
  · omega
  · exact absurd digit (by decide)
  · exact absurd digit (by decide)
  · exact absurd digit (by decide)

theorem ne_of_delimiter {character other : Char}
    (delimiter : isDelimiter character = true)
    (isOther : isDelimiter other = false) : character ≠ other := by
  rintro rfl
  rw [delimiter] at isOther
  cases isOther

/-- The number behind a sign. -/
def readUnsigned (negative : Bool) (unsigned : List Char) : Reading Json :=
  match readWhole unsigned with
  | none => none
  | some (whole, afterWhole) =>
      let (fraction, afterFraction) := readFraction afterWhole
      let (power, tail) := readPower afterFraction
      if fraction = [] ∧ power = none then
        if tooManyDigits 10 whole then
          none
        else
          let size : Int := naturalOf whole
          some (.int (if negative then -size else size), tail)
      else
        some (.float (decimalValue negative whole fraction
          (power.getD 0)), tail)

theorem readNumber_minus (more : List Char) :
    readNumber ('-' :: more) = readUnsigned true more := rfl

theorem readNumber_of_ne {first : Char} (notMinus : first ≠ '-')
    (more : List Char) :
    readNumber (first :: more) = readUnsigned false (first :: more) := by
  unfold readNumber
  split
  next negative digits isSigned =>
    split at isSigned
    · next minus => exact absurd (List.cons.inj minus).1 notMinus
    · cases isSigned
      rfl

section Append

variable {rest : List Char} (ends : Ends rest)

include ends

theorem Ends.stops : Stops rest := by
  cases rest with
  | nil => trivial
  | cons first rest =>
      have delimiter := ends first rfl
      exact ⟨isDigit_delimiter delimiter, ne_of_delimiter delimiter rfl,
        ne_of_delimiter delimiter rfl, ne_of_delimiter delimiter rfl⟩

theorem digits_append (word : List Char) :
    (word ++ rest).takeWhile isDigit = word.takeWhile isDigit ∧
      (word ++ rest).dropWhile isDigit =
        word.dropWhile isDigit ++ rest := by
  induction word with
  | nil =>
      have none := span_digits (List.forall_mem_nil _) ends.stops
      exact none
  | cons first word inductionHypothesis =>
      by_cases digit : isDigit first = true
      · simp [digit, inductionHypothesis]
      · simp [digit]

theorem readWhole_append (word : List Char) :
    readWhole (word ++ rest) =
      (readWhole word).map fun (whole, tail) => (whole, tail ++ rest) := by
  cases word with
  | nil =>
      cases rest with
      | nil => rfl
      | cons first rest =>
          have delimiter := ends first rfl
          have notZero : first ≠ '0' := ne_of_delimiter delimiter rfl
          have notDigit := isDigit_delimiter delimiter
          show readWhole (first :: rest) = none
          rw [readWhole, if_neg notZero, notDigit]
          rfl
  | cons first word =>
      obtain ⟨taken, dropped⟩ := digits_append ends word
      rw [List.cons_append, readWhole, readWhole]
      by_cases zero : first = '0'
      · rw [if_pos zero, if_pos zero]
        rfl
      · rw [if_neg zero, if_neg zero]
        by_cases digit : isDigit first = true
        · rw [if_pos digit, if_pos digit, taken, dropped]
          rfl
        · rw [if_neg digit, if_neg digit]
          rfl

omit ends in
theorem readFraction_of_ne {first : Char} (notPoint : first ≠ '.')
    (more : List Char) :
    readFraction (first :: more) = ([], first :: more) := by
  simp [readFraction, notPoint]

theorem readFraction_append (word : List Char) :
    readFraction (word ++ rest) =
      ((readFraction word).1, (readFraction word).2 ++ rest) := by
  cases word with
  | nil => exact readFraction_of_stops ends.stops
  | cons first word =>
      by_cases point : first = '.'
      · obtain ⟨taken, dropped⟩ := digits_append ends word
        subst point
        rw [List.cons_append, readFraction, readFraction, taken, dropped]
        split <;> rfl
      · rw [List.cons_append, readFraction_of_ne point,
          readFraction_of_ne point]
        rfl

omit ends in
theorem splitSign_of_ne {first : Char} (notMinus : first ≠ '-')
    (notPlus : first ≠ '+') (more : List Char) :
    splitSign (first :: more) = (false, first :: more) := by
  simp [splitSign, notMinus, notPlus]

theorem splitSign_append (word : List Char) :
    splitSign (word ++ rest) =
      ((splitSign word).1, (splitSign word).2 ++ rest) := by
  cases word with
  | nil =>
      cases rest with
      | nil => rfl
      | cons first rest =>
          have delimiter := ends first rfl
          exact splitSign_of_ne (ne_of_delimiter delimiter rfl)
            (ne_of_delimiter delimiter rfl) rest
  | cons first word =>
      by_cases minus : first = '-'
      · subst minus
        rfl
      · by_cases plus : first = '+'
        · subst plus
          rfl
        · rw [List.cons_append, splitSign_of_ne minus plus,
            splitSign_of_ne minus plus]
          rfl

theorem readPower_append (word : List Char) :
    readPower (word ++ rest) =
      ((readPower word).1, (readPower word).2 ++ rest) := by
  cases word with
  | nil => exact readPower_of_stops ends.stops
  | cons mark word =>
      rw [List.cons_append, readPower, readPower]
      by_cases isMark : mark = 'e' ∨ mark = 'E'
      · obtain ⟨taken, dropped⟩ := digits_append ends (splitSign word).2
        rw [if_pos isMark, if_pos isMark, splitSign_append ends]
        dsimp only
        rw [taken, dropped]
        split <;> rfl
      · rw [if_neg isMark, if_neg isMark]
        rfl

theorem readUnsigned_append (negative : Bool) (word : List Char) :
    readUnsigned negative (word ++ rest) =
      (readUnsigned negative word).map fun (value, tail) =>
        (value, tail ++ rest) := by
  unfold readUnsigned
  rw [readWhole_append ends]
  cases readWhole word with
  | none => rfl
  | some reading =>
      obtain ⟨whole, afterWhole⟩ := reading
      dsimp only [Option.map_some]
      rw [readFraction_append ends]
      dsimp only
      rw [readPower_append ends]
      dsimp only
      split
      · split <;> rfl
      · rfl

theorem readNumber_append (word : List Char) :
    readNumber (word ++ rest) =
      (readNumber word).map fun (value, tail) => (value, tail ++ rest) := by
  cases word with
  | nil =>
      cases rest with
      | nil => rfl
      | cons first rest =>
          have notMinus : first ≠ '-' := ne_of_delimiter (ends first rfl) rfl
          rw [List.nil_append, readNumber_of_ne notMinus]
          exact readUnsigned_append ends false []
  | cons first word =>
      rw [List.cons_append]
      by_cases minus : first = '-'
      · rw [minus, readNumber_minus, readNumber_minus]
        exact readUnsigned_append ends true word
      · rw [readNumber_of_ne minus, readNumber_of_ne minus]
        exact readUnsigned_append ends false (first :: word)

theorem afterStart_append {start : List Char}
    (apart : ∀ character ∈ start, isDelimiter character = false)
    (word : List Char) :
    afterStart start (word ++ rest) =
      (afterStart start word).map (· ++ rest) := by
  cases rest with
  | nil => simp
  | cons first rest =>
      refine afterStart_append_cons ?_ word rest
      intro member
      have notDelimiter := apart first member
      rw [ends first rfl] at notDelimiter
      cases notDelimiter

theorem readLiteral_append (word : List Char) :
    readLiteral (word ++ rest) =
      (readLiteral word).map fun (value, tail) =>
        (value, tail ++ rest) := by
  have apart : ∀ word ∈ literals, ∀ character ∈ word.1.toList,
      isDelimiter character = false := by
    simp [literals, isDelimiter, isBlank]
  unfold readLiteral
  generalize literals = words at apart
  induction words with
  | nil => rfl
  | cons first words inductionHypothesis =>
      obtain ⟨name, value⟩ := first
      rw [List.forall_mem_cons] at apart
      rw [List.findSome?_cons, List.findSome?_cons]
      dsimp only
      rw [afterStart_append ends apart.1]
      cases afterStart name.toList word with
      | none => exact inductionHypothesis apart.2
      | some tail => rfl

theorem readWord_append (word : List Char) :
    readWord (word ++ rest) =
      (readWord word).map fun (value, tail) => (value, tail ++ rest) := by
  unfold readWord
  rw [readLiteral_append ends]
  cases readLiteral word with
  | some literal => rfl
  | none => exact readNumber_append ends word

end Append

/-- A word is read whatever comes after its end. -/
theorem readWord_ends {characters rest : List Char} {value : Json}
    (read : readWord characters = some (value, rest)) (ends : Ends rest) :
    ∃ word, (∀ character ∈ word, Plain character) ∧
      characters = word ++ rest ∧
      ∀ other, Ends other →
        readWord (word ++ other) = some (value, other) := by
  obtain ⟨word, plain, rfl⟩ := readWord_past read
  refine ⟨word, plain, rfl, fun other otherEnds => ?_⟩
  rw [readWord_append ends, Option.map_eq_some_iff] at read
  obtain ⟨⟨same, tail⟩, isWord, whole⟩ := read
  rw [Prod.mk.injEq] at whole
  obtain ⟨rfl, nothing⟩ := whole
  rw [readWord_append otherEnds, isWord]
  have isNil : tail = [] := List.append_left_eq_self.mp nothing
  rw [isNil]
  rfl

/-! ## Fuel -/

theorem Past.length_le {characters tail : List Char}
    (past : Past characters tail) : tail.length ≤ characters.length := by
  obtain ⟨word, _, rfl⟩ := past
  rw [List.length_append]
  omega

theorem length_skipBlank (characters : List Char) :
    (skipBlank characters).length ≤ characters.length :=
  (List.dropWhile_sublist _).length_le

theorem length_of_skipBlank {characters rest : List Char} {sign : Char}
    (skipped : skipBlank characters = sign :: rest) :
    rest.length < characters.length := by
  have shorter := length_skipBlank characters
  rw [skipped, List.length_cons] at shorter
  exact shorter

theorem length_readQuoted {characters rest : List Char} {literal : Quoted}
    (read : readQuoted characters = some (literal, rest)) :
    rest.length < characters.length := by
  rw [(readQuoted_eq_some_iff _ _ _).mp read, List.length_append,
    List.length_cons]
  omega

/-- Two units of fuel for each character that is read, and one more. -/
def Enough (fuel : Nat) (characters tail : List Char) : Prop :=
  2 * characters.length < fuel + 2 * tail.length

/-- With enough fuel the parser returns what is read. -/
structure Parses (characters : List Char) (part : Part) (tail : List Char) :
    Prop where
  shorter : tail.length ≤ characters.length
  parsed : ∀ fuel, Enough fuel characters tail →
    part.ParsedWith fuel characters tail

section Parses

variable {characters rest tail : List Char}

/-- Enough fuel is more than none. -/
theorem Parses.step {part : Part}
    (shorter : tail.length ≤ characters.length)
    (parsed : ∀ left, Enough (left + 1) characters tail →
      part.ParsedWith (left + 1) characters tail) :
    Parses characters part tail := by
  refine ⟨shorter, fun fuel enough => ?_⟩
  cases fuel with
  | zero =>
      unfold Enough at enough
      omega
  | succ left => exact parsed left enough

theorem parses_object {members : List (Quoted × Tree)}
    (notEnd : (skipBlank rest).head? ≠ some '}')
    (inside : Parses (skipBlank rest) (.members members) tail) :
    Parses ('{' :: rest) (.value (.obj members)) tail := by
  have blanks := length_skipBlank rest
  have inShorter := inside.shorter
  refine .step (by rw [List.length_cons]; omega) fun left enough => ?_
  rw [Enough, List.length_cons] at enough
  have areMembers : parseMembers left (skipBlank rest) =
      some (members, tail) := inside.parsed left (by unfold Enough; omega)
  show parseValue (left + 1) ('{' :: rest) = _
  rw [parseValue, if_neg (by decide), if_pos rfl]
  split
  · next closed =>
      rw [closed] at notEnd
      exact absurd rfl notEnd
  · rw [areMembers]
    rfl

theorem parses_array {items : List Tree}
    (notEnd : (skipBlank rest).head? ≠ some ']')
    (inside : Parses (skipBlank rest) (.items items) tail) :
    Parses ('[' :: rest) (.value (.arr items)) tail := by
  have blanks := length_skipBlank rest
  have inShorter := inside.shorter
  refine .step (by rw [List.length_cons]; omega) fun left enough => ?_
  rw [Enough, List.length_cons] at enough
  have areItems : parseItems left (skipBlank rest) =
      some (items, tail) := inside.parsed left (by unfold Enough; omega)
  show parseValue (left + 1) ('[' :: rest) = _
  rw [parseValue, if_neg (by decide), if_neg (by decide), if_pos rfl]
  split
  · next closed =>
      rw [closed] at notEnd
      exact absurd rfl notEnd
  · rw [areItems]
    rfl

end Parses

/-- What is read from a text is what the parsers return. -/
theorem Reads.parses {characters tail : List Char} {part : Part}
    (reads : Reads characters part tail) : Parses characters part tail := by
  induction reads with
  | @text rest tail literal isLiteral =>
      have shorter := length_readQuoted isLiteral
      refine .step (by rw [List.length_cons]; omega) fun left _ => ?_
      show parseValue (left + 1) ('"' :: rest) = _
      rw [parseValue, if_pos rfl, isLiteral]
      rfl
  | @emptyObject rest tail closed =>
      have shorter := length_of_skipBlank closed
      refine .step (by rw [List.length_cons]; omega) fun left _ => ?_
      show parseValue (left + 1) ('{' :: rest) = _
      rw [parseValue, if_neg (by decide), if_pos rfl, closed]
      rfl
  | object notEnd _ inside => exact parses_object notEnd inside
  | @emptyArray rest tail closed =>
      have shorter := length_of_skipBlank closed
      refine .step (by rw [List.length_cons]; omega) fun left _ => ?_
      show parseValue (left + 1) ('[' :: rest) = _
      rw [parseValue, if_neg (by decide), if_neg (by decide), if_pos rfl,
        closed]
      rfl
  | array notEnd _ inside => exact parses_array notEnd inside
  | @word first rest tail value quote brace bracket isValue =>
      refine .step (readWord_past isValue).length_le fun left _ => ?_
      show parseValue (left + 1) (first :: rest) = _
      rw [parseValue, if_neg quote, if_neg brace, if_neg bracket, isValue]
      rfl
  | @lastMember rest afterKey afterColon afterValue tail key value isKey
      isColon _ closed ofValue =>
      have shorterKey := length_readQuoted isKey
      have shorterColon := length_of_skipBlank isColon
      have blanks := length_skipBlank afterColon
      have shorterValue := ofValue.shorter
      have shorter := length_of_skipBlank closed
      refine .step (by rw [List.length_cons]; omega) fun left enough => ?_
      rw [Enough, List.length_cons] at enough
      have isValue : parseValue left (skipBlank afterColon) =
          some (value, afterValue) :=
        ofValue.parsed left (by unfold Enough; omega)
      show parseMembers (left + 1) ('"' :: rest) = _
      rw [parseMembers, isKey]
      simp only [isColon, isValue, closed]
  | @member rest afterKey afterColon afterValue more tail key value others
      isKey isColon _ isComma _ ofValue ofOthers =>
      have shorterKey := length_readQuoted isKey
      have shorterColon := length_of_skipBlank isColon
      have blanks := length_skipBlank afterColon
      have shorterValue := ofValue.shorter
      have shorterComma := length_of_skipBlank isComma
      have blanksMore := length_skipBlank more
      have shorter := ofOthers.shorter
      refine .step (by rw [List.length_cons]; omega) fun left enough => ?_
      rw [Enough, List.length_cons] at enough
      have isValue : parseValue left (skipBlank afterColon) =
          some (value, afterValue) :=
        ofValue.parsed left (by unfold Enough; omega)
      have areOthers : parseMembers left (skipBlank more) =
          some (others, tail) :=
        ofOthers.parsed left (by unfold Enough; omega)
      show parseMembers (left + 1) ('"' :: rest) = _
      rw [parseMembers, isKey]
      simp only [isColon, isValue, isComma, areOthers]
      rfl
  | @lastItem characters afterValue tail value _ closed ofValue =>
      have shorterValue := ofValue.shorter
      have shorter := length_of_skipBlank closed
      refine .step (by omega) fun left enough => ?_
      unfold Enough at enough
      have isValue : parseValue left characters =
          some (value, afterValue) :=
        ofValue.parsed left (by unfold Enough; omega)
      show parseItems (left + 1) characters = _
      rw [parseItems, isValue]
      simp only [closed]
  | @item characters afterValue more tail value others _ isComma _ ofValue
      ofOthers =>
      have shorterValue := ofValue.shorter
      have shorterComma := length_of_skipBlank isComma
      have blanksMore := length_skipBlank more
      have shorter := ofOthers.shorter
      refine .step (by omega) fun left enough => ?_
      unfold Enough at enough
      have isValue : parseValue left characters =
          some (value, afterValue) :=
        ofValue.parsed left (by unfold Enough; omega)
      have areOthers : parseItems left (skipBlank more) =
          some (others, tail) :=
        ofOthers.parsed left (by unfold Enough; omega)
      show parseItems (left + 1) characters = _
      rw [parseItems, isValue]
      simp only [isComma, areOthers]
      rfl

/-- A text has the tree that is read from it, up to blanks at its end. -/
theorem parse_eq_ok_iff (text : String) (tree : Tree) :
    parse text = .ok tree ↔
      ∃ tail, Reads (skipBlank text.toList) (.value tree) tail ∧
        skipBlank tail = [] := by
  unfold parse
  constructor
  · intro parsed
    split at parsed
    · next tree tail isTree =>
        split at parsed
        · next done =>
            cases parsed
            exact ⟨tail, @reads_of_parsed _ _ _ (.value tree) isTree, done⟩
        · cases parsed
    · cases parsed
  · rintro ⟨tail, isTree, done⟩
    have shorter := length_skipBlank text.toList
    have isRead : parseValue (2 * text.toList.length + 2)
        (skipBlank text.toList) = some (tree, tail) :=
      isTree.parses.parsed _ (by unfold Enough; omega)
    rw [isRead]
    exact if_pos done

end JsonSyntax

end Python

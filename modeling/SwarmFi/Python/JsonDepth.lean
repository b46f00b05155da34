import SwarmFi.Python.JsonExtent

/-!
# How deep a JSON text nests

`tooDeep` counts brackets without reading values.  Of a text that has a tree
it finds one too many where the tree nests deeper than the limit.
-/

namespace Python.JsonSyntax

open JsonReader

mutual

/-- How many objects and arrays are open at once. -/
def Tree.depth : Tree → Nat
  | .word _ => 0
  | .text _ => 0
  | .arr items => itemsDepth items + 1
  | .obj members => membersDepth members + 1

def itemsDepth : List Tree → Nat
  | [] => 0
  | item :: rest => max item.depth (itemsDepth rest)

def membersDepth : List (Quoted × Tree) → Nat
  | [] => 0
  | (_, tree) :: rest => max tree.depth (membersDepth rest)

end

/-- What closes the brackets that are open. -/
def Closers (closers : List Char) : Prop :=
  ∀ closer ∈ closers, closer = '}' ∨ closer = ']'

/-- From the text to its tail so many values are opened and closed again. -/
structure Nests (depth : Nat) (characters tail : List Char) : Prop where
  passes : ∀ (most : Nat) {closers : List Char}, Closers closers →
    closers.length + depth ≤ most → ∀ reversed, ∃ again,
      tooDeep most false closers reversed characters =
        tooDeep most false closers again tail
  exceeds : ∀ (most : Nat) {closers : List Char}, Closers closers →
    closers.length ≤ most → most < closers.length + depth → ∀ reversed,
      (tooDeep most false closers reversed characters).isSome = true

namespace Nests

theorem refl (characters : List Char) : Nests 0 characters characters where
  passes _ _ _ _ reversed := ⟨reversed, rfl⟩
  exceeds _ _ _ within deeper := by omega

theorem trans {first second : Nat} {characters middle tail : List Char}
    (early : Nests first characters middle)
    (late : Nests second middle tail) :
    Nests (max first second) characters tail where
  passes := by
    intro most closers areClosers fits reversed
    obtain ⟨again, same⟩ := early.passes most areClosers (by omega) reversed
    obtain ⟨after, sameTail⟩ := late.passes most areClosers (by omega) again
    exact ⟨after, same.trans sameTail⟩
  exceeds := by
    intro most closers areClosers within deeper reversed
    by_cases fits : closers.length + first ≤ most
    · obtain ⟨again, same⟩ := early.passes most areClosers fits reversed
      rw [same]
      exact late.exceeds most areClosers within (by omega) again
    · exact early.exceeds most areClosers within (by omega) reversed

theorem before {depth : Nat} {characters middle tail : List Char}
    (early : Nests 0 characters middle) (late : Nests depth middle tail) :
    Nests depth characters tail := by
  have both := early.trans late
  rwa [Nat.zero_max] at both

theorem after {depth : Nat} {characters middle tail : List Char}
    (early : Nests depth characters middle) (late : Nests 0 middle tail) :
    Nests depth characters tail := by
  have both := early.trans late
  rwa [Nat.max_zero] at both

/-- A plain character opens and closes nothing. -/
theorem plain {character : Char} (isPlain : Plain character)
    (rest : List Char) : Nests 0 (character :: rest) rest where
  passes := by
    intro most closers areClosers _ reversed
    refine ⟨character :: reversed, ?_⟩
    have apart : ∀ other : Char, ¬ Plain other → character ≠ other := by
      rintro other notPlain rfl
      exact notPlain isPlain
    have notQuote : character ≠ '"' := apart '"' (by unfold Plain; decide)
    have opens : closerOf character = none := by
      rw [closerOf, if_neg (apart '{' (by unfold Plain; decide)),
        if_neg (apart '[' (by unfold Plain; decide))]
    have closes : closers.head? ≠ some character := by
      intro isHead
      rcases areClosers character (List.mem_of_head? isHead) with same | same
      · exact apart '}' (by unfold Plain; decide) same
      · exact apart ']' (by unfold Plain; decide) same
    rw [tooDeep, if_neg notQuote, if_neg Bool.false_ne_true, opens]
    dsimp only
    rw [if_neg closes]
    · intro _ _ inside
      cases inside
  exceeds _ _ _ within deeper := by omega

theorem past {characters tail : List Char} (isPast : Past characters tail) :
    Nests 0 characters tail := by
  obtain ⟨word, plain, rfl⟩ := isPast
  induction word with
  | nil => exact refl tail
  | cons first word inductionHypothesis =>
      rw [List.forall_mem_cons] at plain
      exact (Nests.plain plain.1 (word ++ tail)).trans
        (inductionHypothesis plain.2)

end Nests

theorem isBlank_plain {character : Char} (blank : isBlank character = true) :
    Plain character := by
  simp only [isBlank, List.contains_iff_mem, List.mem_cons,
    List.not_mem_nil, or_false] at blank
  simp only [Plain, List.mem_cons, List.not_mem_nil, or_false]
  omega

theorem skipBlank_past (characters : List Char) :
    Past characters (skipBlank characters) :=
  ⟨characters.takeWhile isBlank,
    fun _ member => isBlank_plain (List.mem_takeWhile_imp member),
    List.takeWhile_append_dropWhile.symm⟩

theorem tooDeep_inside {character : Char} (notQuote : character ≠ '"')
    (notEscape : character ≠ '\\') (most : Nat)
    (closers reversed rest : List Char) :
    tooDeep most true closers reversed (character :: rest) =
      tooDeep most true closers (character :: reversed) rest := by
  rw [tooDeep, if_neg notQuote, if_pos rfl]
  intro _ _ _ mark
  exact absurd mark notEscape

/-- Brackets in a literal are none. -/
theorem tooDeep_written {source : List Char} (written : Written source)
    (most : Nat) (closers reversed rest : List Char) :
    ∃ again, tooDeep most true closers reversed (source ++ '"' :: rest) =
      tooDeep most false closers again rest := by
  induction written generalizing reversed with
  | nil => exact ⟨_, rfl⟩
  | @unicode a b c d later hexadecimal _ inductionHypothesis =>
      have apart : ∀ character ∈ [a, b, c, d],
          character ≠ '"' ∧ character ≠ '\\' := by
        intro character member
        have digit := List.all_eq_true.mp hexadecimal character member
        constructor
        · rintro rfl
          cases digit
        · rintro rfl
          cases digit
      simp only [List.forall_mem_cons] at apart
      obtain ⟨first, second, third, fourth, _⟩ := apart
      obtain ⟨again, same⟩ := inductionHypothesis
        (d :: c :: b :: a :: 'u' :: '\\' :: reversed)
      refine ⟨again, ?_⟩
      simp only [List.cons_append]
      rw [tooDeep, tooDeep_inside first.1 first.2,
        tooDeep_inside second.1 second.2, tooDeep_inside third.1 third.2,
        tooDeep_inside fourth.1 fourth.2]
      exact same
  | @escape mark later isEscape _ inductionHypothesis =>
      obtain ⟨again, same⟩ := inductionHypothesis (mark :: '\\' :: reversed)
      exact ⟨again, same⟩
  | @plain character later notQuote notEscape printed _
      inductionHypothesis =>
      obtain ⟨again, same⟩ := inductionHypothesis (character :: reversed)
      refine ⟨again, ?_⟩
      rw [List.cons_append, tooDeep_inside notQuote notEscape]
      exact same

theorem readQuoted_nests {characters tail : List Char} {literal : Quoted}
    (read : readQuoted characters = some (literal, tail)) :
    Nests 0 ('"' :: characters) tail where
  passes := by
    intro most closers _ _ reversed
    rw [(readQuoted_eq_some_iff _ _ _).mp read]
    obtain ⟨again, same⟩ := tooDeep_written literal.written most closers
      ('"' :: reversed) tail
    refine ⟨again, ?_⟩
    rw [tooDeep, if_pos rfl]
    · exact same
    · intro _ _ inside
      cases inside
  exceeds _ _ _ within deeper := by omega

section Bracket

variable {bracket closer : Char} {word : String}
  (opens : closerOf bracket = some (closer, word))
  (closes : closerOf closer = none)
  (isCloser : closer = '}' ∨ closer = ']')
  (notQuote : bracket ≠ '"')

include opens notQuote in
theorem tooDeep_bracket (most : Nat) (closers reversed rest : List Char) :
    tooDeep most false closers reversed (bracket :: rest) =
      if closers.length < most then
        tooDeep most false (closer :: closers) (bracket :: reversed) rest
      else
        some (word, reversed.reverse ++ "null".toList ++ closers) := by
  rw [tooDeep, if_neg notQuote, if_neg Bool.false_ne_true, opens]
  intro _ _ inside
  cases inside

include closes isCloser in
theorem tooDeep_closer (most : Nat) (closers reversed rest : List Char) :
    tooDeep most false (closer :: closers) reversed (closer :: rest) =
      tooDeep most false closers (closer :: reversed) rest := by
  have notQuote : closer ≠ '"' := by
    rcases isCloser with rfl | rfl <;> decide
  rw [tooDeep, if_neg notQuote, if_neg Bool.false_ne_true, closes]
  · dsimp only
    rw [if_pos List.head?_cons]
    rfl
  · intro _ _ inside
    cases inside

include opens closes isCloser notQuote in
/-- What stands between brackets nests one value deeper. -/
theorem Nests.bracketed {depth : Nat} {rest tail : List Char}
    (inside : Nests depth rest (closer :: tail)) :
    Nests (depth + 1) (bracket :: rest) tail := by
  have areClosers : ∀ {closers : List Char}, Closers closers →
      Closers (closer :: closers) := fun others =>
    List.forall_mem_cons.mpr ⟨isCloser, others⟩
  constructor
  · intro most closers others fits reversed
    obtain ⟨again, same⟩ := inside.passes most (areClosers others)
      (by rw [List.length_cons]; omega) (bracket :: reversed)
    refine ⟨closer :: again, ?_⟩
    rw [tooDeep_bracket opens notQuote, if_pos (by omega), same,
      tooDeep_closer closes isCloser]
  · intro most closers others within deeper reversed
    rw [tooDeep_bracket opens notQuote]
    split
    · next room =>
        exact inside.exceeds most (areClosers others) room
          (by rw [List.length_cons]; omega) _
    · rfl

end Bracket

/-! ## Trees -/

def Part.depth : Part → Nat
  | .value tree => tree.depth
  | .members all => membersDepth all
  | .items all => itemsDepth all

/-- The text behind a part; members and items leave their bracket open. -/
def Part.ending (part : Part) (tail : List Char) : List Char :=
  match part with
  | .value _ => tail
  | .members _ => '}' :: tail
  | .items _ => ']' :: tail

theorem blanks_nest (characters : List Char) :
    Nests 0 characters (skipBlank characters) :=
  .past (skipBlank_past characters)

theorem skipped_nests {characters rest : List Char} {sign : Char}
    (skipped : skipBlank characters = sign :: rest) :
    Nests 0 characters (sign :: rest) := by
  rw [← skipped]
  exact blanks_nest characters

/-- A plain sign after blanks. -/
theorem sign_nests {characters rest : List Char} {sign : Char}
    (skipped : skipBlank characters = sign :: rest)
    (plain : Plain sign) : Nests 0 characters rest :=
  (skipped_nests skipped).before (.plain plain rest)

/-- A key, up to its value. -/
theorem key_nests {rest afterKey afterColon : List Char} {key : Quoted}
    (isKey : readQuoted rest = some (key, afterKey))
    (isColon : skipBlank afterKey = ':' :: afterColon) :
    Nests 0 ('"' :: rest) (skipBlank afterColon) :=
  ((readQuoted_nests isKey).before
    (sign_nests isColon (by unfold Plain; decide))).before
      (blanks_nest afterColon)

/-- A part nests as deep as its trees. -/
theorem Reads.nests {characters tail : List Char} {part : Part}
    (reads : Reads characters part tail) :
    Nests part.depth characters (part.ending tail) := by
  induction reads with
  | text isLiteral => exact readQuoted_nests isLiteral
  | emptyObject closed =>
      exact (skipped_nests closed).bracketed rfl rfl (.inl rfl) (by decide)
  | @object rest tail members _ _ inside =>
      have nests := (blanks_nest rest).before inside
      exact nests.bracketed rfl rfl (.inl rfl) (by decide)
  | emptyArray closed =>
      exact (skipped_nests closed).bracketed rfl rfl (.inr rfl) (by decide)
  | @array rest tail items _ _ inside =>
      have nests := (blanks_nest rest).before inside
      exact nests.bracketed rfl rfl (.inr rfl) (by decide)
  | word _ _ _ isValue => exact .past (readWord_past isValue)
  | lastMember isKey isColon _ closed ofValue =>
      have valued := (key_nests isKey isColon).before ofValue
      show Nests (max _ 0) _ _
      rw [Nat.max_zero]
      exact valued.after (skipped_nests closed)
  | @member _ _ _ _ more _ _ _ _ isKey isColon _ isComma _ ofValue
      ofOthers =>
      have valued := (key_nests isKey isColon).before ofValue
      have next := (sign_nests isComma (by unfold Plain; decide)).before
        (blanks_nest more)
      exact valued.trans (next.before ofOthers)
  | lastItem _ closed ofValue =>
      show Nests (max _ 0) _ _
      rw [Nat.max_zero]
      exact ofValue.after (skipped_nests closed)
  | @item _ _ more _ _ _ _ isComma _ ofValue ofOthers =>
      have next := (sign_nests isComma (by unfold Plain; decide)).before
        (blanks_nest more)
      exact ofValue.trans (next.before ofOthers)

/-- A text nests as deep as its tree. -/
theorem nestsWithin_iff {text : String} {tree : Tree}
    (parsed : parse text = .ok tree) (limit : Option Nat) :
    NestsWithin limit text.toList ↔ Fits tree.depth limit := by
  rw [parse_eq_ok_iff] at parsed
  obtain ⟨tail, isTree, done⟩ := parsed
  have toEnd := blanks_nest tail
  rw [done] at toEnd
  have nests : Nests tree.depth text.toList [] :=
    ((blanks_nest text.toList).before isTree.nests).after toEnd
  have noClosers : Closers [] := List.forall_mem_nil _
  refine forall_congr' fun most => imp_congr_right fun _ => ?_
  constructor
  · intro within
    by_contra deeper
    have exceeds := nests.exceeds most noClosers (Nat.zero_le most)
      (by simpa using deeper) []
    rw [within] at exceeds
    cases exceeds
  · intro fits
    obtain ⟨again, same⟩ := nests.passes most noClosers
      (by simpa using fits) []
    rw [same]
    rfl

/-- `json.loads(text)` where the recursion limit leaves so many nested
values: what the model's reader takes is read for its value. -/
def loadsWithin (limit : Option Nat) (text : String) :
    Except Exception Value := do
  let _ ← JsonReader.loadsWithin limit text
  loads text

theorem loadsWithin_of_parse {text : String} {tree : Tree}
    (parsed : parse text = .ok tree) {limit : Option Nat}
    (fits : Fits tree.depth limit) :
    loadsWithin limit text = .ok tree.value := by
  have nests := (nestsWithin_iff parsed limit).mpr fits
  rw [loadsWithin, loadsWithin_of_nests nests, loads_eq, loads, parsed]
  rfl

end Python.JsonSyntax

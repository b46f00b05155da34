import SwarmFi.Core.Compute.RiskScorer
import SwarmFi.Python.JsonDepth

/-!
# Dropping the fences of a text

`_parse_response` drops every markdown fence of a reply.  No fence reaches
over a quote or a bracket, and outside of its literals a JSON text has none:
without its fences it is read as the same tree, with every literal as it is
without fences.
-/

namespace SwarmFi.Core.Compute

open Python JsonReader JsonSyntax

/-! ## Dropping fences -/

/-- The substitution over a whole text. -/
def withoutFences (characters : List Char) : List Char :=
  removeFences characters.length characters

/-- What is left of a text after a fence. -/
def afterFence (rest : List Char) : List Char :=
  (afterStart "json".toList rest).getD rest

theorem length_afterFence (rest : List Char) :
    (afterFence rest).length ≤ rest.length := by
  unfold afterFence
  cases named : afterStart "json".toList rest with
  | none => exact le_rfl
  | some after =>
      rw [(afterStart_eq_some_iff _ _ _).mp named, List.length_append,
        Option.getD_some]
      omega

theorem length_of_fenced {characters rest : List Char}
    (fenced : afterStart fence characters = some rest) :
    rest.length + 3 = characters.length := by
  rw [(afterStart_eq_some_iff _ _ _).mp fenced, List.length_append,
    Nat.add_comm]
  rfl

/-- More fuel than the text is long makes no difference. -/
theorem removeFences_eq (fuel : Nat) :
    ∀ {characters : List Char}, characters.length ≤ fuel →
      removeFences fuel characters = withoutFences characters := by
  have independent : ∀ first second : Nat, ∀ characters : List Char,
      characters.length ≤ first → characters.length ≤ second →
        removeFences first characters = removeFences second characters := by
    intro first
    induction first with
    | zero =>
        intro second characters short _
        have isEmpty := List.eq_nil_of_length_eq_zero (Nat.le_zero.mp short)
        subst isEmpty
        cases second <;> rfl
    | succ first inductionHypothesis =>
        intro second characters short shortToo
        cases characters with
        | nil => cases second <;> rfl
        | cons head characters =>
            cases second with
            | zero => cases shortToo
            | succ second =>
                rw [removeFences, removeFences]
                cases fenced : afterStart fence (head :: characters) with
                | none =>
                    exact congrArg (List.cons head)
                      (inductionHypothesis second characters
                        (Nat.le_of_succ_le_succ short)
                        (Nat.le_of_succ_le_succ shortToo))
                | some rest =>
                    have shorter := length_of_fenced fenced
                    have shortest := length_afterFence rest
                    exact inductionHypothesis second (afterFence rest)
                      (by omega) (by omega)
  intro characters short
  exact independent fuel characters.length characters short le_rfl

section Equations

variable {head : Char} {characters rest : List Char}

theorem withoutFences_fenced
    (fenced : afterStart fence (head :: characters) = some rest) :
    withoutFences (head :: characters) =
      withoutFences (afterFence rest) := by
  have shorter := length_of_fenced fenced
  have shortest := length_afterFence rest
  rw [List.length_cons] at shorter
  rw [withoutFences, List.length_cons, removeFences, fenced]
  show removeFences characters.length (afterFence rest) = _
  exact removeFences_eq _ (by omega)

theorem withoutFences_kept
    (kept : afterStart fence (head :: characters) = none) :
    withoutFences (head :: characters) =
      head :: withoutFences characters := by
  rw [withoutFences, List.length_cons, removeFences, kept]
  rfl

/-- A text is nothing, begins with a fence, or begins with something else. -/
theorem fences_induction {motive : List Char → Prop} (nil : motive [])
    (fenced : ∀ head characters rest,
      afterStart fence (head :: characters) = some rest →
        motive (afterFence rest) → motive (head :: characters))
    (kept : ∀ head characters,
      afterStart fence (head :: characters) = none →
        motive characters → motive (head :: characters))
    (characters : List Char) : motive characters := by
  induction size : characters.length using Nat.strong_induction_on
    generalizing characters with
  | _ size inductionHypothesis =>
      cases characters with
      | nil => exact nil
      | cons head characters =>
          rw [List.length_cons] at size
          cases begins : afterStart fence (head :: characters) with
          | none =>
              exact kept head characters begins
                (inductionHypothesis _ (by omega) characters rfl)
          | some rest =>
              have shorter := length_of_fenced begins
              have shortest := length_afterFence rest
              rw [List.length_cons] at shorter
              exact fenced head characters rest begins
                (inductionHypothesis _ (by omega) (afterFence rest) rfl)

end Equations

theorem mem_afterFence {character : Char} {rest : List Char}
    (member : character ∈ afterFence rest) : character ∈ rest := by
  unfold afterFence at member
  cases named : afterStart "json".toList rest with
  | none =>
      rw [named] at member
      exact member
  | some after =>
      rw [named] at member
      rw [(afterStart_eq_some_iff _ _ _).mp named]
      exact List.mem_append_right _ member

theorem mem_withoutFences {character : Char} {characters : List Char}
    (member : character ∈ withoutFences characters) :
    character ∈ characters := by
  induction characters using fences_induction with
  | nil => exact member
  | fenced head characters rest begins inductionHypothesis =>
      rw [withoutFences_fenced begins] at member
      rw [(afterStart_eq_some_iff _ _ _).mp begins]
      exact List.mem_append_right _
        (mem_afterFence (inductionHypothesis member))
  | kept head characters begins inductionHypothesis =>
      rw [withoutFences_kept begins] at member
      rcases List.mem_cons.mp member with same | later
      · rw [same]
        exact List.mem_cons_self
      · exact List.mem_cons_of_mem head (inductionHypothesis later)

/-- A text without a fence stays as it is. -/
theorem withoutFences_of_unfenced {characters : List Char}
    (unfenced : hasInfix fence characters = false) :
    withoutFences characters = characters := by
  induction characters with
  | nil => rfl
  | cons head characters inductionHypothesis =>
      rw [hasInfix, Bool.or_eq_false_iff] at unfenced
      have kept := Option.isSome_eq_false_iff.mp unfenced.1
      rw [withoutFences_kept (Option.isNone_iff_eq_none.mp kept),
        inductionHypothesis unfenced.2]

/-! ## Dropping fences around a brace -/

section Apart

variable {mark : Char} (noFence : mark ∉ fence)
  (noName : mark ∉ "json".toList)

include noName in
theorem afterFence_append_cons (before after : List Char) :
    afterFence (before ++ mark :: after) =
      afterFence before ++ mark :: after := by
  unfold afterFence
  rw [afterStart_append_cons noName]
  cases afterStart "json".toList before <;> rfl

include noFence noName in
/-- No fence reaches over a character that is in none. -/
theorem withoutFences_append_cons (before after : List Char) :
    withoutFences (before ++ mark :: after) =
      withoutFences before ++ mark :: withoutFences after := by
  induction before using fences_induction with
  | nil =>
      have kept : afterStart fence (mark :: after) = none := by
        have passed := afterStart_append_cons noFence [] after
        exact passed
      exact withoutFences_kept kept
  | fenced head characters rest begins inductionHypothesis =>
      have longer := afterStart_append_cons noFence (head :: characters)
        after
      rw [begins] at longer
      rw [withoutFences_fenced begins, ← inductionHypothesis,
        ← afterFence_append_cons noName]
      exact withoutFences_fenced longer
  | kept head characters begins inductionHypothesis =>
      have longer := afterStart_append_cons noFence (head :: characters)
        after
      rw [begins] at longer
      have kept : withoutFences (head :: characters ++ mark :: after) =
          head :: withoutFences (characters ++ mark :: after) :=
        withoutFences_kept longer
      rw [inductionHypothesis] at kept
      rw [withoutFences_kept begins]
      exact kept

end Apart

/-! ## Texts without backticks -/

def backtick : Char := Char.ofNat 0x60

theorem fence_eq : fence = [backtick, backtick, backtick] := by decide

theorem kept_of_ne {head : Char} (notBacktick : head ≠ backtick)
    (characters : List Char) :
    afterStart fence (head :: characters) = none := by
  rw [fence_eq, afterStart, if_neg (Ne.symm notBacktick)]

theorem hasInfix_cons_of_kept {head : Char} {characters : List Char}
    (kept : afterStart fence (head :: characters) = none) :
    hasInfix fence (head :: characters) = hasInfix fence characters := by
  rw [hasInfix, kept]
  rfl

/-- What has no backtick stays. -/
theorem withoutFences_append {before : List Char}
    (clean : ∀ character ∈ before, character ≠ backtick)
    (after : List Char) :
    withoutFences (before ++ after) = before ++ withoutFences after ∧
      hasInfix fence (before ++ after) = hasInfix fence after := by
  induction before with
  | nil => exact ⟨rfl, rfl⟩
  | cons head before inductionHypothesis =>
      rw [List.forall_mem_cons] at clean
      have kept := kept_of_ne clean.1 (before ++ after)
      obtain ⟨unfenced, same⟩ := inductionHypothesis clean.2
      rw [List.cons_append, withoutFences_kept kept,
        hasInfix_cons_of_kept kept, unfenced]
      exact ⟨rfl, same⟩

theorem withoutFences_cons {head : Char} (notBacktick : head ≠ backtick)
    (characters : List Char) :
    withoutFences (head :: characters) = head :: withoutFences characters ∧
      hasInfix fence (head :: characters) = hasInfix fence characters :=
  @withoutFences_append [head] (by rwa [List.forall_mem_singleton]) characters

theorem isBlank_ne_backtick {character : Char}
    (blank : isBlank character = true) : character ≠ backtick := by
  rintro rfl
  cases blank

/-- Blanks are skipped before or after fences are dropped, where none comes
next. -/
theorem skipBlank_withoutFences {characters : List Char}
    (clean : (skipBlank characters).head? ≠ some backtick) :
    skipBlank (withoutFences characters) =
        withoutFences (skipBlank characters) ∧
      hasInfix fence characters = hasInfix fence (skipBlank characters) := by
  induction characters with
  | nil => exact ⟨rfl, rfl⟩
  | cons head characters inductionHypothesis =>
      by_cases blank : isBlank head = true
      · have skipped : ∀ more, skipBlank (head :: more) = skipBlank more :=
          fun more => List.dropWhile_cons_of_pos blank
        rw [skipped] at clean ⊢
        obtain ⟨unfenced, same⟩ :=
          withoutFences_cons (isBlank_ne_backtick blank) characters
        rw [unfenced, skipped, same]
        exact inductionHypothesis clean
      · have stays : ∀ more, skipBlank (head :: more) = head :: more :=
          fun more => List.dropWhile_cons_of_neg blank
        rw [stays] at clean ⊢
        have notBacktick : head ≠ backtick := by
          rintro rfl
          exact clean rfl
        obtain ⟨unfenced, _⟩ := withoutFences_cons notBacktick characters
        rw [unfenced, stays]
        exact ⟨rfl, rfl⟩

/-- A sign after blanks stays. -/
theorem skipBlank_sign {characters rest : List Char} {sign : Char}
    (skipped : skipBlank characters = sign :: rest)
    (notBacktick : sign ≠ backtick) :
    skipBlank (withoutFences characters) = sign :: withoutFences rest ∧
      hasInfix fence characters = hasInfix fence rest := by
  have clean : (skipBlank characters).head? ≠ some backtick := by
    rw [skipped]
    exact fun same => notBacktick (Option.some.inj same)
  obtain ⟨unfenced, same⟩ := skipBlank_withoutFences clean
  obtain ⟨kept, sameRest⟩ := withoutFences_cons notBacktick rest
  rw [unfenced, same, skipped, kept, sameRest]
  exact ⟨rfl, rfl⟩

theorem head_withoutFences {characters : List Char} {sign : Char}
    (clean : characters.head? ≠ some backtick)
    (other : characters.head? ≠ some sign) :
    (withoutFences characters).head? ≠ some sign := by
  cases characters with
  | nil => exact other
  | cons first rest =>
      have notBacktick : first ≠ backtick := fun same =>
        clean (congrArg some same)
      rw [(withoutFences_cons notBacktick rest).1]
      exact other

/-! ## Literals -/

/-- UTF-16 code units. -/
def unitsOf (code : Nat) : Nat :=
  if 0x10000 ≤ code then 2 else 1

def totalUnits (codes : List Nat) : Nat :=
  (codes.map unitsOf).sum

theorem totalUnits_cons (code : Nat) (codes : List Nat) :
    totalUnits (code :: codes) = unitsOf code + totalUnits codes := rfl

/-- A pair counts as much as the two surrogates. -/
theorem totalUnits_joined (codes : List Nat) :
    totalUnits (joined codes) = totalUnits codes := by
  fun_induction joined codes with
  | case1 high low rest isPair inductionHypothesis =>
      simp only [isHighSurrogate, isLowSurrogate, Bool.and_eq_true,
        decide_eq_true_eq] at isPair
      have two : unitsOf (0x10000 + (high - 0xd800) * 0x400 +
          (low - 0xdc00)) = 2 := if_pos (by omega)
      have one : unitsOf high = 1 := if_neg (by omega)
      have another : unitsOf low = 1 := if_neg (by omega)
      rw [totalUnits_cons, totalUnits_cons, totalUnits_cons,
        inductionHypothesis, two, one, another]
      omega
  | case2 high low rest _ inductionHypothesis =>
      rw [totalUnits_cons, totalUnits_cons, inductionHypothesis]
  | case3 => rfl

/-- The units that at least are lost with the fences. -/
def lost (characters : List Char) : Nat :=
  if hasInfix fence characters then 3 else 0

theorem lost_le (characters : List Char) : lost characters ≤ 3 := by
  unfold lost
  split <;> omega

theorem not_isHex_backtick : isHex backtick = false := rfl

theorem backtick_literal :
    backtick ≠ '"' ∧ backtick ≠ '\\' ∧ unitsOf backtick.toNat = 1 := by
  decide

/-- Behind a character that begins no escape and ends no literal, the literal
goes on. -/
theorem Written.later {character : Char} {rest : List Char}
    (written : Written (character :: rest))
    (notEscape : character ≠ '\\') : Written rest := by
  cases written with
  | unicode hexadecimal later => exact absurd rfl notEscape
  | escape isEscape later => exact absurd rfl notEscape
  | plain notQuote _ printed later => exact later

/-- The word after a fence is part of the literal, too. -/
theorem afterFence_written {rest : List Char} (written : Written rest) :
    Written (afterFence rest) ∧
      totalUnits (units (afterFence rest)) ≤ totalUnits (units rest) := by
  unfold afterFence
  cases named : afterStart "json".toList rest with
  | none => exact ⟨written, le_rfl⟩
  | some after =>
      have isNamed : rest = 'j' :: 's' :: 'o' :: 'n' :: after :=
        (afterStart_eq_some_iff _ _ _).mp named
      subst isNamed
      refine ⟨Written.later (Written.later (Written.later (Written.later
        written (by decide)) (by decide)) (by decide)) (by decide), ?_⟩
      rw [Option.getD_some, units_plain _ (by decide),
        units_plain _ (by decide), units_plain _ (by decide),
        units_plain _ (by decide), totalUnits_cons, totalUnits_cons,
        totalUnits_cons, totalUnits_cons]
      omega

/-- Without its fences a literal is one that says less. -/
structure Shortens (source : List Char) : Prop where
  written : Written (withoutFences source)
  fewer : totalUnits (units (withoutFences source)) + lost source ≤
    totalUnits (units source)

namespace Shortens

variable {later : List Char}

theorem unicode {a b c d : Char}
    (hexadecimal : [a, b, c, d].all isHex = true)
    (shortens : Shortens later) :
    Shortens ('\\' :: 'u' :: a :: b :: c :: d :: later) := by
  have clean : ∀ character ∈ ['\\', 'u', a, b, c, d],
      character ≠ backtick := by
    intro character member
    have digits := List.all_eq_true.mp hexadecimal
    rcases List.mem_cons.mp member with rfl | member
    · decide
    rcases List.mem_cons.mp member with rfl | member
    · decide
    rintro rfl
    have digit := digits backtick member
    rw [not_isHex_backtick] at digit
    cases digit
  obtain ⟨kept, same⟩ := withoutFences_append clean later
  simp only [List.cons_append, List.nil_append] at kept same
  have fewer := shortens.fewer
  constructor
  · rw [kept]
    exact .unicode hexadecimal shortens.written
  · rw [kept, lost, same, ← lost, units_unicode, units_unicode,
      totalUnits_cons, totalUnits_cons]
    omega

theorem escape {mark : Char} (isEscape : (simpleEscape mark).isSome = true)
    (shortens : Shortens later) : Shortens ('\\' :: mark :: later) := by
  obtain ⟨decoded, decodes⟩ := Option.isSome_iff_exists.mp isEscape
  have notBacktick : mark ≠ backtick := by
    rintro rfl
    cases isEscape
  obtain ⟨keptMark, sameMark⟩ := withoutFences_cons notBacktick later
  obtain ⟨kept, same⟩ := withoutFences_cons
    (show '\\' ≠ backtick by decide) (mark :: later)
  have fewer := shortens.fewer
  constructor
  · rw [kept, keptMark]
    exact .escape isEscape shortens.written
  · rw [kept, keptMark, lost, same, sameMark, ← lost,
      units_escape _ decodes, units_escape _ decodes, totalUnits_cons,
      totalUnits_cons]
    omega

theorem plain {character : Char} (notQuote : character ≠ '"')
    (notEscape : character ≠ '\\') (printed : 0x1f < character.toNat)
    (begins : afterStart fence (character :: later) = none)
    (shortens : Shortens later) : Shortens (character :: later) := by
  have fewer := shortens.fewer
  constructor
  · rw [withoutFences_kept begins]
    exact .plain notQuote notEscape printed shortens.written
  · rw [withoutFences_kept begins, lost, hasInfix_cons_of_kept begins,
      ← lost, units_plain _ notEscape, units_plain _ notEscape,
      totalUnits_cons, totalUnits_cons]
    omega

/-- The three backticks are lost. -/
theorem fenced {tail : List Char}
    (begins : afterStart fence (backtick :: backtick :: backtick :: tail) =
      some tail)
    (written : Written tail) (shortens : Shortens (afterFence tail)) :
    Shortens (backtick :: backtick :: backtick :: tail) := by
  obtain ⟨_, notEscape, one⟩ := backtick_literal
  have word := (afterFence_written written).2
  have fewer := shortens.fewer
  have bound := lost_le (backtick :: backtick :: backtick :: tail)
  constructor
  · rw [withoutFences_fenced begins]
    exact shortens.written
  · rw [withoutFences_fenced begins, units_plain _ notEscape,
      units_plain _ notEscape, units_plain _ notEscape, totalUnits_cons,
      totalUnits_cons, totalUnits_cons, one]
    omega

end Shortens

theorem shortens {source : List Char} (written : Written source) :
    Shortens source := by
  induction size : source.length using Nat.strong_induction_on
    generalizing source with
  | _ size inductionHypothesis =>
      cases written with
      | nil => exact ⟨.nil, le_rfl⟩
      | unicode hexadecimal after =>
          simp only [List.length_cons] at size
          exact .unicode hexadecimal
            (inductionHypothesis _ (by omega) after rfl)
      | escape isEscape after =>
          simp only [List.length_cons] at size
          exact .escape isEscape (inductionHypothesis _ (by omega) after rfl)
      | @plain character later notQuote notEscape printed after =>
          rw [List.length_cons] at size
          cases begins : afterStart fence (character :: later) with
          | none =>
              exact .plain notQuote notEscape printed begins
                (inductionHypothesis _ (by omega) after rfl)
          | some tail =>
              have isFenced : character :: later =
                  backtick :: backtick :: backtick :: tail := by
                rw [(afterStart_eq_some_iff _ _ _).mp begins, fence_eq]
                rfl
              obtain ⟨rfl, rfl⟩ := List.cons.inj isFenced
              have written : Written tail :=
                Written.later (Written.later after notEscape) notEscape
              have shortest := length_afterFence tail
              simp only [List.length_cons] at size
              exact .fenced begins written
                (inductionHypothesis _ (by omega)
                  (afterFence_written written).1 rfl)

/-- A literal without its fences. -/
def bare (literal : Quoted) : Quoted :=
  ⟨withoutFences literal.source, (shortens literal.written).written⟩

def isFenced (literal : Quoted) : Bool :=
  hasInfix fence literal.source

theorem bare_of_unfenced {literal : Quoted}
    (unfenced : isFenced literal = false) : bare literal = literal :=
  Quoted.ext (withoutFences_of_unfenced unfenced)

theorem totalUnits_bare (literal : Quoted) :
    totalUnits (bare literal).codes + lost literal.source ≤
      totalUnits literal.codes := by
  unfold Quoted.codes
  rw [totalUnits_joined, totalUnits_joined]
  exact (shortens literal.written).fewer

theorem totalUnits_bare_lt {literal : Quoted}
    (fenced : isFenced literal = true) :
    totalUnits (bare literal).codes < totalUnits literal.codes := by
  have fewer := totalUnits_bare literal
  have three : lost literal.source = 3 := if_pos fenced
  omega

/-- A fence in a literal changes its string. -/
theorem codes_bare_iff (literal : Quoted) :
    (bare literal).codes = literal.codes ↔ isFenced literal = false := by
  constructor
  · intro same
    by_contra fenced
    rw [Bool.not_eq_false] at fenced
    have fewer := totalUnits_bare_lt fenced
    rw [same] at fewer
    exact lt_irrefl _ fewer
  · intro unfenced
    rw [bare_of_unfenced unfenced]

theorem hasInfix_append_cons {mark : Char} (noFence : mark ∉ fence)
    (notBacktick : mark ≠ backtick) (before after : List Char) :
    hasInfix fence (before ++ mark :: after) =
      (hasInfix fence before || hasInfix fence after) := by
  induction before with
  | nil =>
      have empty : hasInfix fence [] = false := rfl
      rw [List.nil_append, empty, Bool.false_or]
      exact hasInfix_cons_of_kept (kept_of_ne notBacktick after)
  | cons head before inductionHypothesis =>
      have passed := afterStart_append_cons noFence (head :: before) after
      rw [List.cons_append] at passed
      rw [List.cons_append, hasInfix, hasInfix, inductionHypothesis, passed,
        Option.isSome_map, Bool.or_assoc]

/-! ## Trees -/

mutual

/-- A tree with its literals as they are without fences. -/
def bareTree : Tree → Tree
  | .word value => .word value
  | .text literal => .text (bare literal)
  | .arr items => .arr (bareItems items)
  | .obj members => .obj (bareMembers members)

def bareItems : List Tree → List Tree
  | [] => []
  | item :: rest => bareTree item :: bareItems rest

def bareMembers : List (Quoted × Tree) → List (Quoted × Tree)
  | [] => []
  | (name, tree) :: rest => (bare name, bareTree tree) :: bareMembers rest

end

mutual

/-- Some literal of the tree has a fence in it. -/
def hasFence : Tree → Bool
  | .word _ => false
  | .text literal => isFenced literal
  | .arr items => anyFence items
  | .obj members => anyMemberFence members

def anyFence : List Tree → Bool
  | [] => false
  | item :: rest => hasFence item || anyFence rest

def anyMemberFence : List (Quoted × Tree) → Bool
  | [] => false
  | (name, tree) :: rest =>
      isFenced name || hasFence tree || anyMemberFence rest

end

mutual

theorem bareTree_of_unfenced (tree : Tree)
    (unfenced : hasFence tree = false) : bareTree tree = tree := by
  cases tree with
  | word value => rfl
  | text literal => rw [bareTree, bare_of_unfenced unfenced]
  | arr items => rw [bareTree, bareItems_of_unfenced items unfenced]
  | obj members => rw [bareTree, bareMembers_of_unfenced members unfenced]

theorem bareItems_of_unfenced (items : List Tree)
    (unfenced : anyFence items = false) : bareItems items = items := by
  cases items with
  | nil => rfl
  | cons item rest =>
      obtain ⟨first, others⟩ := Bool.or_eq_false_iff.mp unfenced
      rw [bareItems, bareTree_of_unfenced item first,
        bareItems_of_unfenced rest others]

theorem bareMembers_of_unfenced (members : List (Quoted × Tree))
    (unfenced : anyMemberFence members = false) :
    bareMembers members = members := by
  cases members with
  | nil => rfl
  | cons member rest =>
      obtain ⟨name, tree⟩ := member
      obtain ⟨first, others⟩ := Bool.or_eq_false_iff.mp unfenced
      obtain ⟨named, valued⟩ := Bool.or_eq_false_iff.mp first
      rw [bareMembers, bare_of_unfenced named,
        bareTree_of_unfenced tree valued,
        bareMembers_of_unfenced rest others]

end

mutual

theorem depth_bareTree (tree : Tree) :
    (bareTree tree).depth = tree.depth := by
  cases tree with
  | word value => rfl
  | text literal => rfl
  | arr items => rw [bareTree, Tree.depth, Tree.depth, depth_bareItems]
  | obj members => rw [bareTree, Tree.depth, Tree.depth, depth_bareMembers]

theorem depth_bareItems (items : List Tree) :
    itemsDepth (bareItems items) = itemsDepth items := by
  cases items with
  | nil => rfl
  | cons item rest =>
      rw [bareItems, itemsDepth, itemsDepth, depth_bareTree item,
        depth_bareItems rest]

theorem depth_bareMembers (members : List (Quoted × Tree)) :
    membersDepth (bareMembers members) = membersDepth members := by
  cases members with
  | nil => rfl
  | cons member rest =>
      rw [bareMembers, membersDepth, membersDepth, depth_bareTree member.2,
        depth_bareMembers rest]

end

theorem quote_apart : '"' ∉ fence ∧ '"' ∉ "json".toList := by
  decide

theorem readQuoted_unfences {characters rest : List Char}
    {literal : Quoted}
    (read : readQuoted characters = some (literal, rest)) :
    readQuoted (withoutFences characters) =
        some (bare literal, withoutFences rest) ∧
      hasInfix fence characters =
        (isFenced literal || hasInfix fence rest) := by
  rw [readQuoted_eq_some_iff] at read
  rw [read]
  constructor
  · rw [withoutFences_append_cons quote_apart.1 quote_apart.2,
      readQuoted_eq_some_iff]
    rfl
  · exact hasInfix_append_cons quote_apart.1 (by decide) _ _

theorem ends_withoutFences {characters : List Char}
    (ends : Ends characters) : Ends (withoutFences characters) := by
  cases characters with
  | nil => exact ends
  | cons first rest =>
      have notBacktick : first ≠ backtick :=
        ne_of_delimiter (ends first rfl) rfl
      rw [(withoutFences_cons notBacktick rest).1]
      intro same isFirst
      exact ends same isFirst

theorem readWord_unfences {characters rest : List Char} {value : Json}
    (read : readWord characters = some (value, rest)) (ends : Ends rest) :
    readWord (withoutFences characters) = some (value, withoutFences rest) ∧
      hasInfix fence characters = hasInfix fence rest := by
  obtain ⟨word, plain, rfl, reads⟩ := readWord_ends read ends
  have clean : ∀ character ∈ word, character ≠ backtick := by
    rintro character member rfl
    exact plain backtick member (by decide)
  obtain ⟨kept, same⟩ := withoutFences_append clean rest
  rw [kept]
  exact ⟨reads _ (ends_withoutFences ends), same⟩

/-- A value does not begin with a backtick. -/
theorem readWord_head {characters rest : List Char} {value : Json}
    (read : readWord characters = some (value, rest)) (ends : Ends rest) :
    characters.head? ≠ some backtick := by
  obtain ⟨word, plain, rfl, reads⟩ := readWord_ends read ends
  cases word with
  | nil =>
      have nothing := reads [] (fun _ none => by cases none)
      cases nothing
  | cons first word =>
      rw [List.forall_mem_cons] at plain
      intro same
      have isFirst : first = backtick := Option.some.inj same
      rw [isFirst] at plain
      exact plain.1 (by decide)

/-! ## Reading a text without its fences -/

theorem ends_of_skipBlank {characters rest : List Char} {sign : Char}
    (skipped : skipBlank characters = sign :: rest)
    (delimiter : isDelimiter sign = true) : Ends characters := by
  cases characters with
  | nil => cases skipped
  | cons first more =>
      intro same isFirst
      cases isFirst
      by_cases blank : isBlank first = true
      · rw [isDelimiter, blank, Bool.true_or]
      · have stays : skipBlank (first :: more) = first :: more :=
          List.dropWhile_cons_of_neg blank
        rw [stays] at skipped
        rw [(List.cons.inj skipped).1]
        exact delimiter

def barePart : Part → Part
  | .value tree => .value (bareTree tree)
  | .members members => .members (bareMembers members)
  | .items items => .items (bareItems items)

def partFenced : Part → Bool
  | .value tree => hasFence tree
  | .members members => anyMemberFence members
  | .items items => anyFence items

/-- A value ends before its tail; members and items have a bracket there. -/
def PartEnds : Part → List Char → Prop
  | .value _, tail => Ends tail
  | _, _ => True

/-- Without fences, the part without its fences is read from a text, and the
text has a fence where the part has one. -/
structure Unfences (characters : List Char) (part : Part)
    (tail : List Char) : Prop where
  reads : Reads (withoutFences characters) (barePart part)
    (withoutFences tail)
  fences : hasInfix fence characters =
    (partFenced part || hasInfix fence tail)
  clean : characters.head? ≠ some backtick

/-- Behind a sign that is no backtick. -/
theorem Unfences.sign {rest tail : List Char} {part : Part} {sign : Char}
    (notBacktick : sign ≠ backtick)
    (reads : Reads (sign :: withoutFences rest) (barePart part)
      (withoutFences tail))
    (fences : hasInfix fence rest =
      (partFenced part || hasInfix fence tail)) :
    Unfences (sign :: rest) part tail := by
  obtain ⟨kept, same⟩ := withoutFences_cons notBacktick rest
  refine ⟨?_, same.trans fences, fun head => ?_⟩
  · rw [kept]
    exact reads
  · exact notBacktick (Option.some.inj head)

/-- The part after the blanks. -/
theorem Unfences.skipped {characters tail : List Char} {part : Part}
    (unfences : Unfences (skipBlank characters) part tail) :
    Reads (skipBlank (withoutFences characters)) (barePart part)
        (withoutFences tail) ∧
      hasInfix fence characters =
        (partFenced part || hasInfix fence tail) := by
  obtain ⟨skipped, same⟩ := skipBlank_withoutFences unfences.clean
  rw [skipped, same]
  exact ⟨unfences.reads, unfences.fences⟩

/-- What is read from a text is read without its fences. -/
theorem unfences_of_reads {characters tail : List Char} {part : Part}
    (reads : Reads characters part tail) (ends : PartEnds part tail) :
    Unfences characters part tail := by
  induction reads with
  | text isLiteral =>
      obtain ⟨literal, fences⟩ := readQuoted_unfences isLiteral
      exact .sign (by decide) (.text literal) fences
  | emptyObject closed =>
      obtain ⟨brace, fences⟩ := skipBlank_sign closed (by decide)
      exact .sign (by decide) (.emptyObject brace) fences
  | object notEnd _ inside =>
      have unfences := inside trivial
      obtain ⟨members, fences⟩ := unfences.skipped
      have stillOpen := head_withoutFences unfences.clean notEnd
      rw [← (skipBlank_withoutFences unfences.clean).1] at stillOpen
      exact .sign (by decide) (.object stillOpen members) fences
  | emptyArray closed =>
      obtain ⟨bracket, fences⟩ := skipBlank_sign closed (by decide)
      exact .sign (by decide) (.emptyArray bracket) fences
  | array notEnd _ inside =>
      have unfences := inside trivial
      obtain ⟨items, fences⟩ := unfences.skipped
      have stillOpen := head_withoutFences unfences.clean notEnd
      rw [← (skipBlank_withoutFences unfences.clean).1] at stillOpen
      exact .sign (by decide) (.array stillOpen items) fences
  | @word first rest tail value quote brace bracket isValue =>
      have clean := readWord_head isValue ends
      have notBacktick : first ≠ backtick := fun same =>
        clean (congrArg some same)
      obtain ⟨reads, fences⟩ := readWord_unfences isValue ends
      rw [(withoutFences_cons notBacktick rest).1] at reads
      refine ⟨?_, fences, clean⟩
      rw [(withoutFences_cons notBacktick rest).1]
      exact .word quote brace bracket reads
  | lastMember isKey isColon _ closed ofValue =>
      obtain ⟨key, keyFences⟩ := readQuoted_unfences isKey
      obtain ⟨colon, colonFences⟩ := skipBlank_sign isColon (by decide)
      obtain ⟨value, valueFences⟩ :=
        (ofValue (ends_of_skipBlank closed rfl)).skipped
      obtain ⟨brace, fences⟩ := skipBlank_sign closed (by decide)
      refine .sign (by decide) (.lastMember key colon value brace) ?_
      rw [keyFences, colonFences, valueFences, fences]
      simp [partFenced, anyMemberFence, Bool.or_assoc]
  | member isKey isColon _ isComma _ ofValue ofOthers =>
      obtain ⟨key, keyFences⟩ := readQuoted_unfences isKey
      obtain ⟨colon, colonFences⟩ := skipBlank_sign isColon (by decide)
      obtain ⟨value, valueFences⟩ :=
        (ofValue (ends_of_skipBlank isComma rfl)).skipped
      obtain ⟨comma, commaFences⟩ := skipBlank_sign isComma (by decide)
      obtain ⟨others, fences⟩ := (ofOthers trivial).skipped
      refine .sign (by decide) (.member key colon value comma others) ?_
      rw [keyFences, colonFences, valueFences, commaFences, fences]
      simp only [partFenced, anyMemberFence, Bool.or_assoc]
  | lastItem _ closed ofValue =>
      obtain ⟨value, valueFences, clean⟩ :=
        ofValue (ends_of_skipBlank closed rfl)
      obtain ⟨bracket, fences⟩ := skipBlank_sign closed (by decide)
      refine ⟨.lastItem value bracket, ?_, clean⟩
      rw [valueFences, fences]
      simp [partFenced, anyFence]
  | item _ isComma _ ofValue ofOthers =>
      obtain ⟨value, valueFences, clean⟩ :=
        ofValue (ends_of_skipBlank isComma rfl)
      obtain ⟨comma, commaFences⟩ := skipBlank_sign isComma (by decide)
      obtain ⟨others, fences⟩ := (ofOthers trivial).skipped
      refine ⟨.item value comma others, ?_, clean⟩
      rw [valueFences, commaFences, fences]
      simp only [partFenced, anyFence, Bool.or_assoc]

/-- Without its fences a text has its tree without fences, and it has one
where the tree has. -/
theorem parse_withoutFences {text : String} {tree : Tree}
    (parsed : parse text = .ok tree) :
    parse (String.ofList (withoutFences text.toList)) =
        .ok (bareTree tree) ∧
      hasInfix fence text.toList = hasFence tree := by
  rw [parse_eq_ok_iff] at parsed
  obtain ⟨tail, isTree, done⟩ := parsed
  have onlyBlanks : (skipBlank tail).head? ≠ some backtick := by
    rw [done]
    exact nofun
  have ends : Ends tail := by
    cases tail with
    | nil => exact nofun
    | cons first tail =>
        intro same isFirst
        cases isFirst
        have blank := List.dropWhile_eq_nil_iff.mp done first
          List.mem_cons_self
        rw [isDelimiter, blank, Bool.true_or]
  obtain ⟨reads, fences⟩ := (unfences_of_reads isTree ends).skipped
  obtain ⟨doneBare, sameTail⟩ := skipBlank_withoutFences onlyBlanks
  constructor
  · rw [parse_eq_ok_iff, String.toList_ofList]
    refine ⟨_, reads, ?_⟩
    rw [doneBare, done]
    rfl
  · rw [fences, sameTail, done]
    exact Bool.or_false _

end SwarmFi.Core.Compute

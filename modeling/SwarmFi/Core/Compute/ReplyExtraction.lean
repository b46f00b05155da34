import Mathlib.Data.List.MinMax
import SwarmFi.Core.Compute.Fences

/-!
# The object in a reply

`_parse_response` drops every markdown fence of a reply and reads what stands
between the first opening brace and the last closing one.  Around an object
that is all that should be dropped, but a fence may also stand inside of a
string of the object, and then the string that is read is shorter.
-/

namespace SwarmFi.Core.Compute

open Python JsonSyntax

/-! ## The object between the braces -/

theorem dropWhile_append_cons {test : Char → Bool} {mark : Char}
    (stops : test mark = false) (before after : List Char) :
    (before ++ mark :: after).dropWhile test =
      before.dropWhile test ++ mark :: after := by
  induction before with
  | nil => exact List.dropWhile_cons_of_neg (by simp [stops])
  | cons head before inductionHypothesis =>
      rw [List.cons_append]
      by_cases tested : test head = true
      · rw [List.dropWhile_cons_of_pos tested,
          List.dropWhile_cons_of_pos tested, inductionHypothesis]
      · rw [List.dropWhile_cons_of_neg tested,
          List.dropWhile_cons_of_neg tested]
        rfl

/-- The end of a text up to the last mark. -/
theorem dropWhileEnd_append_cons {test : Char → Bool} {mark : Char}
    (stops : test mark = false) (before after : List Char) :
    ((before ++ mark :: after).reverse.dropWhile test).reverse =
      before ++ mark :: (after.reverse.dropWhile test).reverse := by
  have turned : (before ++ mark :: after).reverse =
      after.reverse ++ mark :: before.reverse := by
    simp
  rw [turned, dropWhile_append_cons stops, List.reverse_append,
    List.reverse_cons, List.reverse_reverse, List.append_assoc]
  rfl

theorem dropWhile_of_absent {mark : Char} {characters : List Char}
    (absent : mark ∉ characters) :
    characters.dropWhile (· ≠ mark) = [] := by
  rw [List.dropWhile_eq_nil_iff]
  intro character member
  rw [decide_eq_true_eq]
  intro same
  rw [same] at member
  exact absent member

theorem bracesOf_braced {before inner after : List Char}
    (noneBefore : '{' ∉ before) (noneAfter : '}' ∉ after) :
    bracesOf (before ++ '{' :: (inner ++ '}' :: after)) =
      some ('{' :: inner ++ ['}']) := by
  have noneBehind : '}' ∉ after.reverse := by
    rw [List.mem_reverse]
    exact noneAfter
  unfold bracesOf
  dsimp only
  rw [dropWhile_append_cons (by simp), dropWhile_of_absent noneBefore,
    List.nil_append, ← List.cons_append,
    dropWhileEnd_append_cons (by simp), dropWhile_of_absent noneBehind]
  simp

def NoBraces (text : String) : Prop :=
  '{' ∉ text.toList ∧ '}' ∉ text.toList

theorem openBrace_apart : '{' ∉ fence ∧ '{' ∉ "json".toList := by
  decide

theorem closeBrace_apart : '}' ∉ fence ∧ '}' ∉ "json".toList := by
  decide

theorem openBrace_noSpace : isSpace '{' = false := rfl

theorem closeBrace_noSpace : isSpace '}' = false := rfl

theorem withoutFences_braced (before inner after : List Char) :
    withoutFences (before ++ '{' :: (inner ++ '}' :: after)) =
      withoutFences before ++ '{' ::
        (withoutFences inner ++ '}' :: withoutFences after) := by
  rw [withoutFences_append_cons openBrace_apart.1 openBrace_apart.2,
    withoutFences_append_cons closeBrace_apart.1 closeBrace_apart.2]

/-- The braces stay when the spaces around a text go. -/
theorem stripChars_braced (before inner after : List Char) :
    stripChars (before ++ '{' :: (inner ++ '}' :: after)) =
      before.dropWhile isSpace ++ '{' ::
        (inner ++ '}' :: (after.reverse.dropWhile isSpace).reverse) := by
  have regrouped : before.dropWhile isSpace ++
      '{' :: (inner ++ '}' :: after) =
        (before.dropWhile isSpace ++ '{' :: inner) ++ '}' :: after := by
    simp
  rw [stripChars, dropWhile_append_cons openBrace_noSpace, regrouped,
    dropWhileEnd_append_cons closeBrace_noSpace]
  simp

/-- Of a reply with one braced text in it, that text is read, without its
fences. -/
theorem parseResponse_braced {α : Type}
    (loads : String → Except Exception α) {before text after : String}
    {inner : List Char} (braced : text.toList = '{' :: inner ++ ['}'])
    (plainBefore : NoBraces before) (plainAfter : NoBraces after) :
    parseResponseWith loads (before ++ text ++ after) =
      loads (String.ofList (withoutFences text.toList)) := by
  have cleanedText : withoutFences text.toList =
      '{' :: withoutFences inner ++ ['}'] := by
    rw [braced]
    exact withoutFences_braced [] inner []
  have reply : (before ++ text ++ after).toList =
      before.toList ++ '{' :: (inner ++ '}' :: after.toList) := by
    rw [String.toList_append, String.toList_append, braced]
    simp
  have noneFirst :
      '{' ∉ (withoutFences before.toList).dropWhile isSpace := by
    intro member
    have inBefore := (List.dropWhile_sublist _).subset member
    exact plainBefore.1 (mem_withoutFences inBefore)
  have noneLast : '}' ∉ ((withoutFences after.toList).reverse.dropWhile
      isSpace).reverse := by
    intro member
    rw [List.mem_reverse] at member
    have inAfter := (List.dropWhile_sublist _).subset member
    rw [List.mem_reverse] at inAfter
    exact plainAfter.2 (mem_withoutFences inAfter)
  have found : bracesOf (stripChars (withoutFences
      (before ++ text ++ after).toList)) =
        some ('{' :: withoutFences inner ++ ['}']) := by
    rw [reply, withoutFences_braced, stripChars_braced]
    exact bracesOf_braced noneFirst noneLast
  have cleaned : removeFences (before ++ text ++ after).toList.length
      (before ++ text ++ after).toList =
        withoutFences (before ++ text ++ after).toList := rfl
  rw [parseResponseWith, cleaned, found, cleanedText, Option.getD_some]

/-! ## What a tree says without its fences -/

/-- The last member under a key. -/
def lastUnder : List (Quoted × Tree) → List Nat → Option Tree
  | [], _ => none
  | (name, tree) :: rest, key =>
      (lastUnder rest key).or (if name.codes = key then some tree else none)

/-- The last member under a key, where fences are dropped from the keys. -/
def lastUnderBare (members : List (Quoted × Tree)) (key : List Nat) :
    Option Tree :=
  lastUnder (members.map fun (name, tree) => (bare name, tree)) key

/-- Without its fences the first tree keeps to what the second one says as it
is written: the same words, literals and items, and in an object under each key
what the last member there says. -/
inductive Keeps : Tree → Tree → Prop
  | word (value : Json) : Keeps (.word value) (.word value)
  | text {first second : Quoted} (same : (bare first).codes = second.codes) :
      Keeps (.text first) (.text second)
  | arr {first second : List Tree} (each : List.Forall₂ Keeps first second) :
      Keeps (.arr first) (.arr second)
  | obj {first second : List (Quoted × Tree)}
      (each : ∀ key,
        Option.Rel Keeps (lastUnderBare first key) (lastUnder second key)) :
      Keeps (.obj first) (.obj second)

theorem Tree.induction {motive : Tree → Prop}
    (word : ∀ value, motive (.word value))
    (text : ∀ literal, motive (.text literal))
    (arr : ∀ items, (∀ item ∈ items, motive item) → motive (.arr items))
    (obj : ∀ members, (∀ member ∈ members, motive member.2) →
      motive (.obj members))
    (tree : Tree) : motive tree :=
  @Tree.rec motive (fun items => ∀ item ∈ items, motive item)
    (fun members => ∀ member ∈ members, motive member.2)
    (fun member => motive member.2) word text arr obj (List.forall_mem_nil _)
    (fun _ _ first others => List.forall_mem_cons.mpr ⟨first, others⟩)
    (List.forall_mem_nil _)
    (fun _ _ first others => List.forall_mem_cons.mpr ⟨first, others⟩)
    (fun _ _ value => value) tree

theorem memberValue_eq (members : List (Quoted × Tree)) (key : List Nat) :
    memberValue members key = (lastUnder members key).map Tree.value := by
  induction members with
  | nil => rfl
  | cons member rest inductionHypothesis =>
      obtain ⟨name, tree⟩ := member
      rw [memberValue, lastUnder, inductionHypothesis]
      cases lastUnder rest key with
      | some later => rfl
      | none =>
          dsimp only [Option.map_none, Option.none_or]
          split <;> rfl

theorem memberValue_bare (members : List (Quoted × Tree))
    (key : List Nat) :
    memberValue (bareMembers members) key =
      (lastUnderBare members key).map fun tree =>
        (bareTree tree).value := by
  induction members with
  | nil => rfl
  | cons member rest inductionHypothesis =>
      obtain ⟨name, tree⟩ := member
      rw [bareMembers, memberValue, inductionHypothesis, lastUnderBare,
        lastUnderBare, List.map_cons, lastUnder]
      cases lastUnder (rest.map fun (name, tree) => (bare name, tree)) key with
      | some later => rfl
      | none =>
          dsimp only [Option.map_none, Option.none_or]
          split <;> rfl

theorem mem_of_lastUnder {members : List (Quoted × Tree)}
    {key : List Nat} {tree : Tree}
    (isLast : lastUnder members key = some tree) :
    ∃ name, (name, tree) ∈ members ∧ name.codes = key := by
  induction members with
  | nil => cases isLast
  | cons member rest inductionHypothesis =>
      obtain ⟨name, value⟩ := member
      rw [lastUnder, Option.or_eq_some_iff] at isLast
      rcases isLast with later | ⟨_, here⟩
      · obtain ⟨other, member, same⟩ := inductionHypothesis later
        exact ⟨other, List.mem_cons_of_mem _ member, same⟩
      · split at here
        · next same =>
            cases here
            exact ⟨name, List.mem_cons_self, same⟩
        · cases here

theorem mem_of_lastUnderBare {members : List (Quoted × Tree)}
    {key : List Nat} {tree : Tree}
    (isLast : lastUnderBare members key = some tree) :
    ∃ name, (name, tree) ∈ members ∧ (bare name).codes = key := by
  obtain ⟨name, member, same⟩ := mem_of_lastUnder isLast
  obtain ⟨⟨written, value⟩, member, isBare⟩ := List.mem_map.mp member
  cases isBare
  exact ⟨written, member, same⟩

theorem keepAll_iff {first : List Tree}
    (keeps : ∀ item ∈ first, ∀ other,
      Keeps item other ↔ (bareTree item).value = other.value)
    (second : List Tree) :
    List.Forall₂ Keeps first second ↔
      itemsValue (bareItems first) = itemsValue second := by
  induction first generalizing second with
  | nil => cases second <;> simp [bareItems, itemsValue]
  | cons item rest inductionHypothesis =>
      rw [List.forall_mem_cons] at keeps
      cases second with
      | nil => simp [bareItems, itemsValue]
      | cons other others =>
          rw [List.forall₂_cons, keeps.1, inductionHypothesis keeps.2,
            bareItems, itemsValue, itemsValue, List.cons.injEq]

/-- What is kept is the value. -/
theorem keeps_iff (first second : Tree) :
    Keeps first second ↔ (bareTree first).value = second.value := by
  induction first using Tree.induction generalizing second with
  | word value =>
      constructor
      · rintro ⟨⟩
        rfl
      · intro same
        cases second <;> cases same
        exact .word value
  | text literal =>
      constructor
      · intro keeps
        cases keeps with
        | text same =>
          rw [bareTree, Tree.value, Tree.value, same]
      · intro same
        cases second with
        | text other =>
            rw [bareTree, Tree.value, Tree.value, Value.text.injEq] at same
            exact .text same
        | _ => cases same
  | arr items inductionHypothesis =>
      constructor
      · intro keeps
        cases keeps with
        | arr each =>
          rw [bareTree, Tree.value, Tree.value,
            (keepAll_iff inductionHypothesis _).mp each]
      · intro same
        cases second with
        | arr others =>
            rw [bareTree, Tree.value, Tree.value, Value.arr.injEq] at same
            exact .arr ((keepAll_iff inductionHypothesis _).mpr same)
        | _ => cases same
  | obj members inductionHypothesis =>
      have each : ∀ others key,
          Option.Rel Keeps (lastUnderBare members key)
              (lastUnder others key) ↔
            memberValue (bareMembers members) key =
              memberValue others key := by
        intro others key
        rw [memberValue_bare, memberValue_eq]
        cases isLast : lastUnderBare members key with
        | none => cases lastUnder others key <;> simp
        | some tree =>
            obtain ⟨name, member, _⟩ := mem_of_lastUnderBare isLast
            have keeps := inductionHypothesis _ member
            cases lastUnder others key with
            | none => simp
            | some other => simp [keeps other]
      constructor
      · intro keeps
        cases keeps with
        | obj keeps =>
          rw [bareTree, Tree.value, Tree.value, Value.obj.injEq]
          funext key
          exact (each _ key).mp (keeps key)
      · intro same
        cases second with
        | obj others =>
            rw [bareTree, Tree.value, Tree.value, Value.obj.injEq] at same
            refine .obj fun key => (each others key).mpr ?_
            rw [same]
        | _ => cases same

/-! ## Objects without repeated keys -/

/-- No two members of an object have one key. -/
def KeysApart (members : List (Quoted × Tree)) : Prop :=
  (members.map fun member => member.1.codes).Nodup

mutual

/-- No object of the tree repeats a key. -/
def AllApart : Tree → Prop
  | .word _ => True
  | .text _ => True
  | .arr items => ItemsApart items
  | .obj members => KeysApart members ∧ MembersApart members

def ItemsApart : List Tree → Prop
  | [] => True
  | item :: rest => AllApart item ∧ ItemsApart rest

def MembersApart : List (Quoted × Tree) → Prop
  | [] => True
  | (_, tree) :: rest => AllApart tree ∧ MembersApart rest

end

theorem itemsApart_iff (items : List Tree) :
    ItemsApart items ↔ ∀ item ∈ items, AllApart item := by
  induction items with
  | nil => simp [ItemsApart]
  | cons item rest inductionHypothesis =>
      rw [ItemsApart, List.forall_mem_cons, inductionHypothesis]

theorem membersApart_iff (members : List (Quoted × Tree)) :
    MembersApart members ↔ ∀ member ∈ members, AllApart member.2 := by
  induction members with
  | nil => simp [MembersApart]
  | cons member rest inductionHypothesis =>
      rw [MembersApart, List.forall_mem_cons, inductionHypothesis]

theorem anyFence_eq_false_iff (items : List Tree) :
    anyFence items = false ↔ ∀ item ∈ items, hasFence item = false := by
  induction items with
  | nil => simp [anyFence]
  | cons item rest inductionHypothesis =>
      rw [anyFence, Bool.or_eq_false_iff, List.forall_mem_cons,
        inductionHypothesis]

theorem anyMemberFence_eq_false_iff (members : List (Quoted × Tree)) :
    anyMemberFence members = false ↔
      ∀ member ∈ members,
        isFenced member.1 = false ∧ hasFence member.2 = false := by
  induction members with
  | nil => simp [anyMemberFence]
  | cons member rest inductionHypothesis =>
      rw [anyMemberFence, Bool.or_eq_false_iff, Bool.or_eq_false_iff,
        List.forall_mem_cons, inductionHypothesis]

/-- A member whose key is not repeated is the last one under it. -/
theorem lastUnder_of_mem {members : List (Quoted × Tree)}
    (apart : KeysApart members) {name : Quoted} {tree : Tree}
    (member : (name, tree) ∈ members) :
    lastUnder members name.codes = some tree := by
  induction members with
  | nil => cases member
  | cons first rest inductionHypothesis =>
      obtain ⟨key, value⟩ := first
      obtain ⟨fresh, restApart⟩ := List.nodup_cons.mp apart
      rw [lastUnder, Option.or_eq_some_iff]
      rcases List.mem_cons.mp member with same | later
      · cases same
        right
        refine ⟨?_, if_pos rfl⟩
        cases isLast : lastUnder rest name.codes with
        | none => rfl
        | some other =>
            obtain ⟨again, isMember, sameKey⟩ := mem_of_lastUnder isLast
            exact absurd (List.mem_map.mpr ⟨_, isMember, sameKey⟩) fresh
      · exact .inl (inductionHypothesis restApart later)

theorem lastUnderBare_eq {members : List (Quoted × Tree)}
    (unfenced : ∀ member ∈ members, isFenced member.1 = false)
    (key : List Nat) :
    lastUnderBare members key = lastUnder members key := by
  have same : (members.map fun (name, tree) => (bare name, tree)) =
      members.map id := by
    refine List.map_congr_left fun member isMember => ?_
    dsimp only [id_eq]
    rw [bare_of_unfenced (unfenced member isMember)]
  rw [lastUnderBare, same, List.map_id]

section Object

variable {members : List (Quoted × Tree)} (apart : KeysApart members)
  (keeps : ∀ key,
    Option.Rel Keeps (lastUnderBare members key) (lastUnder members key))

include apart keeps

/-- Of the keys with a fence, none is the longest. -/
theorem keys_unfenced :
    ∀ member ∈ members, isFenced member.1 = false := by
  by_contra fenced
  push Not at fenced
  obtain ⟨member, isMember, isFence⟩ := fenced
  rw [Bool.ne_false_iff] at isFence
  cases longest : (members.filter fun member => isFenced member.1).argmax
      fun member => totalUnits member.1.codes with
  | none =>
      rw [List.argmax_eq_none] at longest
      have inside :
          member ∈ members.filter fun member => isFenced member.1 :=
        List.mem_filter.mpr ⟨isMember, isFence⟩
      rw [longest] at inside
      cases inside
  | some most =>
      obtain ⟨name, tree⟩ := most
      obtain ⟨isMost, mostFenced⟩ :=
        List.mem_filter.mp (List.argmax_mem longest)
      -- what keeps to it has the key without its fences
      have kept := keeps name.codes
      rw [lastUnder_of_mem apart isMost] at kept
      cases isLast : lastUnderBare members name.codes with
      | none =>
          rw [isLast] at kept
          cases kept
      | some other =>
          obtain ⟨source, isSource, same⟩ := mem_of_lastUnderBare isLast
          cases sourceFenced : isFenced source with
          | false =>
              rw [bare_of_unfenced sourceFenced] at same
              have one := List.inj_on_of_nodup_map apart isSource isMost same
              have sameName : source = name := congrArg Prod.fst one
              rw [sameName, mostFenced] at sourceFenced
              cases sourceFenced
          | true =>
              have shorter := totalUnits_bare_lt sourceFenced
              have bound := List.le_of_mem_argmax
                (List.mem_filter.mpr ⟨isSource, sourceFenced⟩) longest
              rw [same] at shorter
              exact absurd bound (Nat.not_le.mpr shorter)

/-- Every member keeps to itself. -/
theorem members_keep :
    ∀ member ∈ members, Keeps member.2 member.2 := by
  intro member isMember
  obtain ⟨name, tree⟩ := member
  have kept := keeps name.codes
  rw [lastUnderBare_eq (keys_unfenced apart keeps),
    lastUnder_of_mem apart isMember] at kept
  cases kept with
  | some itself => exact itself

end Object

theorem items_keep {items : List Tree}
    (each : List.Forall₂ Keeps items items) :
    ∀ item ∈ items, Keeps item item := by
  rw [List.forall₂_same] at each
  exact each

/-- Where no key is repeated, only a tree without a fence keeps to itself. -/
theorem unfenced_of_keeps {tree : Tree} (apart : AllApart tree)
    (keeps : Keeps tree tree) : hasFence tree = false := by
  induction tree using Tree.induction with
  | word value => rfl
  | text literal =>
      cases keeps with
      | text same => exact (codes_bare_iff literal).mp same
  | arr items inductionHypothesis =>
      cases keeps with
      | arr each =>
        rw [AllApart, itemsApart_iff] at apart
        rw [hasFence, anyFence_eq_false_iff]
        intro item member
        exact inductionHypothesis item member (apart item member)
          (items_keep each item member)
  | obj members inductionHypothesis =>
      cases keeps with
      | obj each =>
        rw [AllApart, membersApart_iff] at apart
        rw [hasFence, anyMemberFence_eq_false_iff]
        intro member isMember
        exact ⟨keys_unfenced apart.1 each member isMember,
          inductionHypothesis member isMember (apart.2 member isMember)
            (members_keep apart.1 each member isMember)⟩

/-! ## What is extracted -/

/-- The text of a JSON object, from its first brace to its last. -/
structure ObjectText (limits : RecursionLimits) (text : String)
    (fields : Dict) : Prop where
  braced : ∃ inner, text.toList = '{' :: inner ++ ['}']
  reads : JsonReader.loadsWithin limits.reading text = .ok (.obj fields)

theorem ObjectText.parses {limits : RecursionLimits} {text : String}
    {fields : Dict} (isObject : ObjectText limits text fields) :
    ∃ tree, parse text = .ok tree ∧ Fits tree.depth limits.reading := by
  obtain ⟨reads, nests⟩ :=
    (JsonReader.loadsWithin_eq_ok_iff _ _ _).mp isObject.reads
  rw [loads_eq] at reads
  cases parsed : parse text with
  | error exc =>
      rw [parsed] at reads
      cases reads
  | ok tree => exact ⟨tree, rfl, (nestsWithin_iff parsed _).mp nests⟩

/-- An object in the text has two members with one key. -/
def RepeatsKey (text : String) : Prop :=
  ∃ tree, parse text = .ok tree ∧ ¬ AllApart tree

/-- The values of the text keep to themselves when the literals lose their
fences. -/
def KeepsWithoutFences (text : String) : Prop :=
  ∃ tree, parse text = .ok tree ∧ Keeps tree tree

/-- The object is read as it was sent where it has no fence in it, or where a
key is repeated and all that stands last under a key keeps. -/
theorem parseResponse_eq_loads_iff (limits : RecursionLimits)
    {before text after : String} {fields : Dict}
    (isObject : ObjectText limits text fields)
    (plainBefore : NoBraces before) (plainAfter : NoBraces after) :
    parseResponseWith (loadsWithin limits.reading)
        (before ++ text ++ after) =
      loadsWithin limits.reading text ↔
        isIn "```" text = false ∨
          (RepeatsKey text ∧ KeepsWithoutFences text) := by
  obtain ⟨inner, braced⟩ := isObject.braced
  obtain ⟨tree, parsed, fits⟩ := isObject.parses
  obtain ⟨parsedBare, sameFence⟩ := parse_withoutFences parsed
  have fitsBare : Fits (bareTree tree).depth limits.reading := by
    rwa [depth_bareTree]
  have fenced : isIn "```" text = hasFence tree := sameFence
  have only : ∀ {other : Tree}, parse text = .ok other → other = tree := by
    intro other isOther
    rw [parsed] at isOther
    cases isOther
    rfl
  rw [parseResponse_braced _ braced plainBefore plainAfter,
    loadsWithin_of_parse parsedBare fitsBare,
    loadsWithin_of_parse parsed fits, Except.ok.injEq, ← keeps_iff, fenced]
  constructor
  · intro keeps
    cases isFence : hasFence tree with
    | false => exact .inl rfl
    | true =>
        right
        refine ⟨⟨tree, parsed, fun apart => ?_⟩, tree, parsed, keeps⟩
        have unfenced := unfenced_of_keeps apart keeps
        rw [isFence] at unfenced
        cases unfenced
  · rintro (unfenced | ⟨_, other, isOther, keeps⟩)
    · rw [keeps_iff, bareTree_of_unfenced tree unfenced]
    · rwa [only isOther] at keeps

/-! ## An object with a fence in it -/

theorem objectText_dumps {fields : Dict}
    (plain : Json.Plain (.obj fields)) :
    ObjectText {} (JsonWriter.dumps (.obj fields)) fields where
  braced := ⟨JsonWriter.writeFields fields, by
    rw [JsonWriter.dumps, String.toList_ofList, JsonWriter.write]⟩
  reads := loads_dumps plain

theorem plain_single (key text : String) :
    Json.Plain (.obj [(key, .str text)]) := by
  refine .obj _ (List.nodup_singleton key) ?_
  intro field member
  rw [List.mem_singleton] at member
  rw [member]
  exact .str text

/-- A reply in a fence, around a decision. -/
theorem parseResponse_eq_loads_iff_hold :
    parseResponseWith (loadsWithin none) ("```json\n" ++
        JsonWriter.dumps (.obj [("action", .str "hold")]) ++ "\n```") =
      loadsWithin none (JsonWriter.dumps (.obj [("action", .str "hold")])) ↔
        isIn "```" (JsonWriter.dumps (.obj [("action", .str "hold")])) =
            false ∨
          (RepeatsKey (JsonWriter.dumps (.obj [("action", .str "hold")])) ∧
            KeepsWithoutFences
              (JsonWriter.dumps (.obj [("action", .str "hold")]))) :=
  parseResponse_eq_loads_iff {}
    (objectText_dumps (plain_single "action" "hold"))
    (by unfold NoBraces; decide +kernel) (by unfold NoBraces; decide +kernel)

/-- The string under a key, where an object is read. -/
def stringUnder (key : String) : Except Exception Value → List Nat
  | .ok (.obj member) =>
      match member (key.toList.map Char.toNat) with
      | some (.text codes) => codes
      | _ => []
  | _ => []

theorem fence_in_string_dropped :
    ¬ ∀ (limits : RecursionLimits) (before text after : String)
        (fields : Dict),
      ObjectText limits text fields → NoBraces before → NoBraces after →
        parseResponseWith (loadsWithin limits.reading)
            (before ++ text ++ after) =
          loadsWithin limits.reading text := by
  intro always
  have noBraces : NoBraces "" := by
    unfold NoBraces
    decide +kernel
  have isObject := objectText_dumps (plain_single "reason" "```")
  have same := always {} "" _ "" _ isObject noBraces noBraces
  have strings := congrArg (stringUnder "reason") same
  revert strings
  decide +kernel

end SwarmFi.Core.Compute

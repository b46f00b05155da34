import SwarmFi.Python.Bytes

/-!
# Decoding what a program prints

`raw.decode(errors="replace")` and `str.splitlines`.  A wrong octet becomes
U+FFFD and spoils nothing after it, so the last line of an output is read
whatever was printed in the lines before.
-/

namespace Python

/-! ## UTF-8 with replacement -/

/-- A character whose first octets have been read: its bits so far, how many
octets are missing, and the bounds of the next one, which is not ASCII. -/
structure Pending where
  bits : Nat
  missing : Nat
  low : Nat
  high : Nat
  notAscii : 0x80 ≤ low

/-- What the first octet of a longer character says. -/
def leading (octet : Nat) : Option Pending :=
  if 0xc2 ≤ octet ∧ octet ≤ 0xdf then some ⟨octet - 0xc0, 1, 0x80, 0xbf, by decide⟩
  else if octet = 0xe0 then some ⟨0, 2, 0xa0, 0xbf, by decide⟩
  else if octet = 0xed then some ⟨0xd, 2, 0x80, 0x9f, by decide⟩
  else if 0xe1 ≤ octet ∧ octet ≤ 0xef then
    some ⟨octet - 0xe0, 2, 0x80, 0xbf, by decide⟩
  else if octet = 0xf0 then some ⟨0, 3, 0x90, 0xbf, by decide⟩
  else if 0xf1 ≤ octet ∧ octet ≤ 0xf3 then
    some ⟨octet - 0xf0, 3, 0x80, 0xbf, by decide⟩
  else if octet = 0xf4 then some ⟨4, 3, 0x80, 0x8f, by decide⟩
  else none

def replacement : Char := Char.ofNat 0xfffd

/-- An octet between characters. -/
def firstOctet (octet : Nat) : List Char × Option Pending :=
  if octet < 0x80 then ([Char.ofNat octet], none)
  else
    match leading octet with
    | some pending => ([], some pending)
    | none => ([replacement], none)

/-- One octet: what it completes or spoils, and what is pending after it. -/
def nextOctet (pending : Option Pending) (octet : Nat) :
    List Char × Option Pending :=
  match pending with
  | none => firstOctet octet
  | some pending =>
      if pending.low ≤ octet ∧ octet ≤ pending.high then
        if pending.missing ≤ 1 then
          ([Char.ofNat (pending.bits * 0x40 + (octet - 0x80))], none)
        else
          ([], some ⟨pending.bits * 0x40 + (octet - 0x80),
            pending.missing - 1, 0x80, 0xbf, by decide⟩)
      else
        (replacement :: (firstOctet octet).1, (firstOctet octet).2)

def decodeFrom : Option Pending → Bytes → List Char
  | none, [] => []
  | some _, [] => [replacement]
  | pending, octet :: rest =>
      (nextOctet pending octet.toNat).1 ++
        decodeFrom (nextOctet pending octet.toNat).2 rest

/-- `raw.decode(errors="replace")` -/
def decodeReplace (raw : Bytes) : String :=
  String.ofList (decodeFrom none raw)

theorem decodeFrom_cons (pending : Option Pending) (octet : UInt8)
    (rest : Bytes) :
    decodeFrom pending (octet :: rest) =
      (nextOctet pending octet.toNat).1 ++
        decodeFrom (nextOctet pending octet.toNat).2 rest := by
  cases pending <;> rfl

/-! ### Encoded text -/

section Encoded

variable {octet : UInt8} {pending : Pending} (rest : Bytes)

theorem decodeFrom_leading (long : 0x80 ≤ octet.toNat)
    (leads : leading octet.toNat = some pending) :
    decodeFrom none (octet :: rest) = decodeFrom (some pending) rest := by
  have notAscii : ¬ octet.toNat < 0x80 := Nat.not_lt.mpr long
  rw [decodeFrom_cons, nextOctet, firstOctet, if_neg notAscii, leads]
  rfl

theorem decodeFrom_inner
    (low : pending.low ≤ octet.toNat) (high : octet.toNat ≤ pending.high)
    (more : 1 < pending.missing) :
    decodeFrom (some pending) (octet :: rest) =
      decodeFrom (some ⟨pending.bits * 0x40 + (octet.toNat - 0x80),
        pending.missing - 1, 0x80, 0xbf, by decide⟩) rest := by
  have notLast : ¬ pending.missing ≤ 1 := Nat.not_le.mpr more
  rw [decodeFrom_cons, nextOctet, if_pos ⟨low, high⟩, if_neg notLast]
  rfl

theorem decodeFrom_last
    (low : pending.low ≤ octet.toNat) (high : octet.toNat ≤ pending.high)
    (last : pending.missing ≤ 1) :
    decodeFrom (some pending) (octet :: rest) =
      Char.ofNat (pending.bits * 0x40 + (octet.toNat - 0x80)) ::
        decodeFrom none rest := by
  rw [decodeFrom_cons, nextOctet, if_pos ⟨low, high⟩, if_pos last]
  rfl

end Encoded

theorem toNat_octet {value : Nat} (small : value < 0x100) :
    (UInt8.ofNat value).toNat = value := by
  rw [UInt8.toNat_ofNat', Nat.mod_eq_of_lt small]

/-- The bounds of the second octet leave out what three octets would not
have been needed for, and the surrogates. -/
theorem leading_three {code : Nat} (above : 0x7ff < code)
    (below : code ≤ 0xffff) (scalar : code < 0xd800 ∨ 0xdfff < code) :
    ∃ low high above, leading (code / 4096 + 0xe0) =
        some ⟨code / 4096, 2, low, high, above⟩ ∧
      low ≤ code / 64 % 0x40 + 0x80 ∧ code / 64 % 0x40 + 0x80 ≤ high := by
  rw [leading, if_neg (by omega)]
  by_cases least : code / 4096 = 0
  · rw [if_pos (by omega), least]
    exact ⟨0xa0, 0xbf, by decide, rfl, by omega, by omega⟩
  · rw [if_neg (by omega)]
    by_cases surrogate : code / 4096 = 0xd
    · rw [if_pos (by omega), surrogate]
      exact ⟨0x80, 0x9f, by decide, rfl, by omega, by omega⟩
    · rw [if_neg (by omega), if_pos (by omega), Nat.add_sub_cancel]
      exact ⟨0x80, 0xbf, by decide, rfl, by omega, by omega⟩

/-- The same for four octets and the last code point. -/
theorem leading_four {code : Nat} (above : 0xffff < code)
    (below : code < 0x110000) :
    ∃ low high above, leading (code / 262144 + 0xf0) =
        some ⟨code / 262144, 3, low, high, above⟩ ∧
      low ≤ code / 4096 % 0x40 + 0x80 ∧
        code / 4096 % 0x40 + 0x80 ≤ high := by
  rw [leading, if_neg (by omega), if_neg (by omega), if_neg (by omega),
    if_neg (by omega)]
  by_cases least : code / 262144 = 0
  · rw [if_pos (by omega), least]
    exact ⟨0x90, 0xbf, by decide, rfl, by omega, by omega⟩
  · rw [if_neg (by omega)]
    by_cases greatest : code / 262144 = 4
    · rw [if_neg (by omega), if_pos (by omega), greatest]
      exact ⟨0x80, 0x8f, by decide, rfl, by omega, by omega⟩
    · rw [if_pos (by omega), Nat.add_sub_cancel]
      exact ⟨0x80, 0xbf, by decide, rfl, by omega, by omega⟩

/-- The octets of a character decode to it. -/
theorem decodeFrom_encodeChar (character : Char) (rest : Bytes) :
    decodeFrom none (String.utf8EncodeChar character ++ rest) =
      character :: decodeFrom none rest := by
  have valid := character.valid
  have whole : Char.ofNat character.val.toNat = character :=
    Char.ofNat_toNat character
  simp only [UInt32.isValidChar, Nat.isValidChar] at valid
  rw [String.utf8EncodeChar]
  generalize character.val.toNat = code at valid whole
  by_cases one : code ≤ 0x7f
  · have octet : (UInt8.ofNat code).toNat = code := toNat_octet (by omega)
    rw [if_pos one, List.cons_append, decodeFrom_cons, nextOctet, firstOctet,
      octet, if_pos (by omega), whole]
    rfl
  · rw [if_neg one]
    by_cases two : code ≤ 0x7ff
    · have first : (UInt8.ofNat (code / 64 % 0x20 + 0xc0)).toNat =
          code / 64 + 0xc0 := by
        rw [toNat_octet (by omega)]
        omega
      have second : (UInt8.ofNat (code % 0x40 + 0x80)).toNat =
          code % 0x40 + 0x80 := toNat_octet (by omega)
      have leads : leading (code / 64 + 0xc0) =
          some ⟨code / 64, 1, 0x80, 0xbf, by decide⟩ := by
        rw [leading, if_pos (by omega), Nat.add_sub_cancel]
      have joined : code / 64 * 0x40 + (code % 0x40 + 0x80 - 0x80) =
          code := by
        omega
      rw [if_pos two, List.cons_append, List.cons_append,
        decodeFrom_leading _ (by omega) (first ▸ leads),
        decodeFrom_last _ (by rw [second]; dsimp only; omega)
          (by rw [second]; dsimp only; omega) le_rfl, second]
      dsimp only
      rw [joined, whole]
      rfl
    · rw [if_neg two]
      have last : (UInt8.ofNat (code % 0x40 + 0x80)).toNat =
          code % 0x40 + 0x80 := toNat_octet (by omega)
      have inner : (UInt8.ofNat (code / 64 % 0x40 + 0x80)).toNat =
          code / 64 % 0x40 + 0x80 := toNat_octet (by omega)
      by_cases three : code ≤ 0xffff
      · have first : (UInt8.ofNat (code / 4096 % 0x10 + 0xe0)).toNat =
            code / 4096 + 0xe0 := by
          rw [toNat_octet (by omega)]
          omega
        have joined : (code / 4096 * 0x40 +
            (code / 64 % 0x40 + 0x80 - 0x80)) * 0x40 +
              (code % 0x40 + 0x80 - 0x80) = code := by
          omega
        rcases leading_three (Nat.not_le.mp two) three (by omega) with
          ⟨low, high, above, leads, atLeast, atMost⟩
        rw [if_pos three, List.cons_append, List.cons_append,
          List.cons_append, decodeFrom_leading _ (by omega) (first ▸ leads),
          decodeFrom_inner _ (by rw [inner]; exact atLeast)
            (by rw [inner]; exact atMost) (show 1 < 2 by decide), inner,
          decodeFrom_last _ (by rw [last]; dsimp only; omega)
            (by rw [last]; dsimp only; omega) (show 1 ≤ 1 by decide), last]
        dsimp only
        rw [joined, whole]
        rfl
      · have first : (UInt8.ofNat (code / 262144 % 0x08 + 0xf0)).toNat =
            code / 262144 + 0xf0 := by
          rw [toNat_octet (by omega)]
          omega
        have second : (UInt8.ofNat (code / 4096 % 0x40 + 0x80)).toNat =
            code / 4096 % 0x40 + 0x80 := toNat_octet (by omega)
        have joined : ((code / 262144 * 0x40 +
            (code / 4096 % 0x40 + 0x80 - 0x80)) * 0x40 +
              (code / 64 % 0x40 + 0x80 - 0x80)) * 0x40 +
                (code % 0x40 + 0x80 - 0x80) = code := by
          omega
        rcases leading_four (Nat.not_le.mp three) (by omega) with
          ⟨low, high, above, leads, atLeast, atMost⟩
        rw [if_neg three, List.cons_append, List.cons_append,
          List.cons_append, List.cons_append,
          decodeFrom_leading _ (by omega) (first ▸ leads),
          decodeFrom_inner _ (by rw [second]; exact atLeast)
            (by rw [second]; exact atMost) (show 1 < 3 by decide), second,
          decodeFrom_inner _ (by rw [inner]; dsimp only; omega)
            (by rw [inner]; dsimp only; omega) (show 1 < 2 by decide), inner,
          decodeFrom_last _ (by rw [last]; dsimp only; omega)
            (by rw [last]; dsimp only; omega) (show 1 ≤ 1 by decide), last]
        dsimp only
        rw [joined, whole]
        rfl

theorem encode_eq_flatMap (text : String) :
    encode text = text.toList.flatMap String.utf8EncodeChar := by
  rw [encode, ← String.utf8Encode_toList, List.utf8Encode,
    List.toList_data_toByteArray]

/-- Text that was encoded decodes to itself, and what follows is decoded
after it. -/
theorem decodeFrom_encode (text : String) (rest : Bytes) :
    decodeFrom none (encode text ++ rest) =
      text.toList ++ decodeFrom none rest := by
  rw [encode_eq_flatMap]
  induction text.toList with
  | nil => rfl
  | cons character characters inductionHypothesis =>
      rw [List.flatMap_cons, List.append_assoc, decodeFrom_encodeChar,
        inductionHypothesis]
      rfl

@[simp]
theorem decodeReplace_encode (text : String) :
    decodeReplace (encode text) = text := by
  have decoded := decodeFrom_encode text []
  rw [List.append_nil] at decoded
  rw [decodeReplace, decoded]
  exact (congrArg String.ofList (List.append_nil _)).trans
    String.ofList_toList

/-! ### A line feed -/

theorem nextOctet_lineFeed (pending : Option Pending) :
    ∃ before, nextOctet pending 0x0a = (before ++ ['\n'], none) := by
  have first : firstOctet 0x0a = (['\n'], none) := rfl
  cases pending with
  | none => exact ⟨[], first⟩
  | some pending =>
      have outside : ¬ (pending.low ≤ 0x0a ∧ 0x0a ≤ pending.high) := by
        have above := pending.notAscii
        omega
      refine ⟨[replacement], ?_⟩
      rw [nextOctet, if_neg outside, first]
      rfl

/-- Whatever comes before a line feed, the rest is decoded on its own. -/
theorem decodeFrom_lineFeed (pending : Option Pending) (noise : Bytes) :
    ∃ before, ∀ rest, decodeFrom pending (noise ++ 0x0a :: rest) =
      before ++ '\n' :: decodeFrom none rest := by
  induction noise generalizing pending with
  | nil =>
      rcases nextOctet_lineFeed pending with ⟨before, next⟩
      refine ⟨before, ?_⟩
      intro rest
      have isNext : nextOctet pending (0x0a : UInt8).toNat =
          (before ++ ['\n'], none) := next
      rw [List.nil_append, decodeFrom_cons, isNext, List.append_assoc]
      rfl
  | cons octet noise inductionHypothesis =>
      rcases inductionHypothesis (nextOctet pending octet.toNat).2 with
        ⟨before, decoded⟩
      refine ⟨(nextOctet pending octet.toNat).1 ++ before, ?_⟩
      intro rest
      rw [List.cons_append, decodeFrom_cons, decoded, List.append_assoc]

/-! ## Lines -/

/-- A line boundary of `str.splitlines`. -/
def isLineBreak (character : Char) : Bool :=
  [0x0a, 0x0b, 0x0c, 0x0d, 0x1c, 0x1d, 0x1e, 0x85, 0x2028, 0x2029].contains
    character.toNat

/-- The lines of the characters, of which the first one has begun before. -/
def splitFrom : List Char → List Char → List (List Char)
  | reversed, [] => if reversed = [] then [] else [reversed.reverse]
  | reversed, '\r' :: '\n' :: rest => reversed.reverse :: splitFrom [] rest
  | reversed, character :: rest =>
      if isLineBreak character then
        reversed.reverse :: splitFrom [] rest
      else
        splitFrom (character :: reversed) rest

/-- `text.splitlines()` -/
def splitLines (text : String) : List String :=
  (splitFrom [] text.toList).map String.ofList

/-- `[l for l in text.splitlines() if l.strip()][-1]`, if there is one -/
def lastLine (text : String) : Option String :=
  ((splitLines text).filter fun line => strip line ≠ "").getLast?

/-- A return that no line feed follows is a boundary like the others. -/
theorem splitFrom_cons {character : Char} {rest : List Char}
    (single : character = '\r' → ∀ more, rest ≠ '\n' :: more)
    (reversed : List Char) :
    splitFrom reversed (character :: rest) =
      if isLineBreak character then
        reversed.reverse :: splitFrom [] rest
      else
        splitFrom (character :: reversed) rest := by
  rw [splitFrom]
  intro more isReturn isFeed
  exact single isReturn more isFeed

/-- Whatever comes before a line feed, the rest has its own lines. -/
theorem splitFrom_lineFeed (reversed before : List Char) :
    ∃ lines, ∀ rest, splitFrom reversed (before ++ '\n' :: rest) =
      lines ++ splitFrom [] rest := by
  induction size : before.length using Nat.strong_induction_on
    generalizing before reversed with
  | _ size inductionHypothesis =>
      cases before with
      | nil => exact ⟨[reversed.reverse], fun rest => rfl⟩
      | cons character before =>
          rw [List.length_cons] at size
          by_cases pair : character = '\r' ∧ ∃ more, before = '\n' :: more
          · rcases pair with ⟨isReturn, more, isFeed⟩
            subst isReturn isFeed
            rw [List.length_cons] at size
            rcases inductionHypothesis _ (by omega) [] more rfl with
              ⟨lines, split⟩
            refine ⟨reversed.reverse :: lines, ?_⟩
            intro rest
            rw [List.cons_append, List.cons_append, List.cons_append, ← split]
            rfl
          · by_cases last : character = '\r' ∧ before = []
            · rcases last with ⟨isReturn, isEmpty⟩
              subst isReturn isEmpty
              exact ⟨[reversed.reverse], fun rest => rfl⟩
            · have single : ∀ rest, character = '\r' → ∀ more,
                  before ++ '\n' :: rest ≠ '\n' :: more := by
                intro rest isReturn more same
                cases before with
                | nil => exact last ⟨isReturn, rfl⟩
                | cons head before =>
                    have isFeed : head = '\n' := (List.cons.inj same).1
                    subst isFeed
                    exact pair ⟨isReturn, before, rfl⟩
              rcases inductionHypothesis _ (by omega) [] before rfl with
                ⟨lines, split⟩
              rcases inductionHypothesis _ (by omega)
                (character :: reversed) before rfl with ⟨more, splitMore⟩
              by_cases breaks : isLineBreak character = true
              · refine ⟨reversed.reverse :: lines, ?_⟩
                intro rest
                rw [List.cons_append, splitFrom_cons (single rest),
                  if_pos breaks, split]
                rfl
              · refine ⟨more, ?_⟩
                intro rest
                rw [List.cons_append, splitFrom_cons (single rest),
                  if_neg breaks, splitMore]

/-- A line without boundaries inside. -/
theorem splitFrom_line {line : List Char}
    (whole : ∀ character ∈ line, isLineBreak character = false)
    (reversed : List Char) :
    splitFrom reversed (line ++ ['\n']) = [reversed.reverse ++ line] := by
  induction line generalizing reversed with
  | nil => exact congrArg (fun line => [line]) (List.append_nil _).symm
  | cons character line inductionHypothesis =>
      have plain := whole character List.mem_cons_self
      have single : character = '\r' → ∀ more,
          line ++ ['\n'] ≠ '\n' :: more := by
        intro isReturn
        subst isReturn
        cases plain
      have later : ∀ other ∈ line, isLineBreak other = false :=
        fun other member => whole other (List.mem_cons_of_mem _ member)
      rw [List.cons_append, splitFrom_cons single, plain,
        if_neg Bool.false_ne_true, inductionHypothesis later,
        List.reverse_cons, List.append_assoc]
      rfl

/-- The lines that were printed before, and the last one. -/
theorem lastLine_printed {noise : Bytes} {line : String}
    (ends : noise = [] ∨ ∃ earlier, noise = earlier ++ [0x0a])
    (whole : ∀ character ∈ line.toList, isLineBreak character = false)
    (shows : strip line ≠ "") :
    lastLine (decodeReplace (noise ++ encode (line ++ "\n"))) =
      some line := by
  have isLine : decodeFrom none (encode (line ++ "\n")) =
      line.toList ++ ['\n'] := by
    have decoded := decodeFrom_encode (line ++ "\n") []
    rw [List.append_nil] at decoded
    rw [decoded, String.toList_append]
    exact List.append_nil _
  have split : ∃ lines, splitFrom []
      (decodeFrom none (noise ++ encode (line ++ "\n"))) =
        lines ++ [line.toList] := by
    rcases ends with isEmpty | ⟨earlier, isEarlier⟩
    · subst isEmpty
      refine ⟨[], ?_⟩
      rw [List.nil_append, isLine, splitFrom_line whole]
      rfl
    · subst isEarlier
      rcases decodeFrom_lineFeed none earlier with ⟨before, decoded⟩
      rcases splitFrom_lineFeed [] before with ⟨lines, split⟩
      refine ⟨lines, ?_⟩
      rw [List.append_assoc, List.cons_append, List.nil_append, decoded,
        split, isLine, splitFrom_line whole]
      rfl
  rcases split with ⟨lines, isSplit⟩
  rw [lastLine, splitLines, decodeReplace, String.toList_ofList, isSplit,
    List.map_append, List.filter_append]
  simp [shows]

end Python

import SwarmFi.Python.HexLiteral
import SwarmFi.Core.Schema

/-!
# The public keys that a message accepts

The envelope asks for 64 characters that `int(v, 16)` reads.  These are the 64
hexadecimal digits, and the literals of 64 characters that have a space, a
sign, a `0x`, an underscore or a non-ASCII digit among them.
-/

namespace SwarmFi.Core

open Python

/-- `[0-9a-fA-F]` -/
def HexDigit (character : Char) : Prop :=
  ('0' ≤ character ∧ character ≤ '9') ∨
    ('a' ≤ character ∧ character ≤ 'f') ∨
      ('A' ≤ character ∧ character ≤ 'F')

/-- A 64-char hex string. -/
def IsHexKey (v : String) : Prop :=
  v.length = 64 ∧ ∀ character ∈ v.toList, HexDigit character

/-! ## Digits -/

theorem hexDigit_iff (character : Char) :
    HexDigit character ↔ digitValue character < 16 := by
  have bounds : HexDigit character ↔
      (48 ≤ character.toNat ∧ character.toNat ≤ 57) ∨
        (97 ≤ character.toNat ∧ character.toNat ≤ 102) ∨
          (65 ≤ character.toNat ∧ character.toNat ≤ 70) := Iff.rfl
  rw [bounds]
  simp only [digitValue]
  split
  · omega
  · split
    · omega
    · split <;> omega

theorem hexDigits_of_digits {digits : List Char} (notEmpty : digits ≠ [])
    (isDigit : ∀ digit ∈ digits, digitValue digit < 16) :
    HexDigits digits := by
  induction digits with
  | nil => exact absurd rfl notEmpty
  | cons digit rest inductionHypothesis =>
      rw [List.forall_mem_cons] at isDigit
      cases rest with
      | nil => exact .last isDigit.1
      | cons next rest =>
          exact .next isDigit.1
            (inductionHypothesis (List.cons_ne_nil _ _) isDigit.2)

/-- A key of hexadecimal digits is a literal. -/
theorem IsHexKey.hexLiteral {v : String} (isKey : IsHexKey v) :
    HexLiteral (v.toList.map toNumeral) := by
  have isDigit : ∀ digit ∈ v.toList, digitValue digit < 16 :=
    fun digit member => (hexDigit_iff digit).mp (isKey.2 digit member)
  have ascii : v.toList.map toNumeral = v.toList :=
    map_toNumeral fun character member =>
      (plain_of_digitValue (isDigit character member)).ascii
  have notEmpty : v.toList ≠ [] := by
    intro isEmpty
    have noLength : v.toList.length = 0 := by rw [isEmpty]; rfl
    rw [String.length_toList, isKey.1] at noLength
    omega
  rw [ascii]
  refine ⟨[], [], [], List.mem_cons_self, v.toList, by simp, ?_, ?_⟩
  · exact ⟨[], List.mem_cons_self, v.toList, rfl,
      hexDigits_of_digits notEmpty isDigit⟩
  · simp

/-! ## The length of the stored key -/

theorem literalCharacter_of_mem {characters : List Char}
    (literal : HexLiteral characters) :
    ∀ character ∈ characters,
      isAsciiSpace character = true ∨ LiteralCharacter character := by
  obtain ⟨before, after, sign, isSign, unsigned, spaces, marked, rfl⟩ :=
    literal
  intro character member
  rcases List.mem_append.mp member with inFront | inAfter
  · rcases List.mem_append.mp inFront with inBefore | inCore
    · exact Or.inl (spaces character (List.mem_append_left _ inBefore))
    · exact Or.inr (literalCharacter_of_signed isSign marked character inCore)
  · exact Or.inl (spaces character (List.mem_append_right _ inAfter))

/-- One character with a longer lower case is no part of a literal. -/
theorem ne_dotted_of_literalCharacter {character : Char}
    (isPart : isAsciiSpace (toNumeral character) = true ∨
      LiteralCharacter (toNumeral character)) :
    character ≠ Char.ofNat 0x130 := by
  rintro rfl
  have isNone : toNumeral (Char.ofNat 0x130) = '?' := by decide
  rw [isNone] at isPart
  rcases isPart with isSpace | isDigit | isOther
  · exact absurd isSpace (by decide)
  · exact absurd isDigit (by decide)
  · simp at isOther

theorem length_lowerChar {character : Char}
    (isOther : character ≠ Char.ofNat 0x130) :
    (lowerChar character).length = 1 := by
  have otherCode : character.toNat ≠ 0x130 := by
    intro same
    exact isOther (by rw [← same, Char.ofNat_toNat])
  unfold lowerChar
  simp only [otherCode, if_false]
  split
  · rfl
  · split <;> rfl

/-- Lower-casing a literal keeps its length. -/
theorem length_lower_of_hexLiteral {v : String}
    (literal : HexLiteral (v.toList.map toNumeral)) :
    (lower v).length = v.length := by
  have one : ∀ character ∈ v.toList, (lowerChar character).length = 1 := by
    intro character member
    apply length_lowerChar
    apply ne_dotted_of_literalCharacter
    exact literalCharacter_of_mem literal _ (List.mem_map_of_mem member)
  unfold lower
  rw [String.length_ofList, List.length_flatMap, List.map_congr_left one,
    List.map_const', List.sum_replicate, smul_eq_mul, mul_one,
    String.length_toList]

/-! ## What the validator accepts -/

/-- The length is checked first, then the literal. -/
theorem validPubkey_eq_ok_iff (v key : String) :
    validPubkey v = .ok key ↔
      (v.length = 64 ∧ HexLiteral (v.toList.map toNumeral)) ∧
        key = lower v := by
  rw [← isSome_parseInt_iff]
  unfold validPubkey
  by_cases short : v.length < 64
  · have notLong : ¬ v.length = 64 := by omega
    simp [short, notLong]
  · by_cases long : 64 < v.length
    · have notShort : ¬ v.length = 64 := by omega
      simp [short, long, notShort]
    · have exact_ : v.length = 64 := by omega
      rw [if_neg short, if_neg long, pubkeyMustBeHex]
      cases parseInt 16 v with
      | none => simp
      | some value => simp [exact_, eq_comm]

section Construction

variable (stamp : Stamp) (messageType : MessageType)
  (senderRole : AgentRole) (payload : Dict)

/-- The accepted keys are the literals of 64 characters. -/
theorem make_eq_ok_iff (v : String) (message : SwarmMessage) :
    SwarmMessage.make stamp messageType senderRole v payload = .ok message ↔
      (v.length = 64 ∧ HexLiteral (v.toList.map toNumeral)) ∧
        message = {
          messageId := stamp.messageId
          messageType := messageType
          senderRole := senderRole
          senderPubkey := lower v
          timestamp := stamp.timestamp
          payload := payload } := by
  cases checked : validPubkey v with
  | error exc =>
      rw [SwarmMessage.make_of_invalid checked]
      constructor
      · intro made
        cases made
      · rintro ⟨accepted, _⟩
        rw [(validPubkey_eq_ok_iff v _).mpr ⟨accepted, rfl⟩] at checked
        cases checked
  | ok key =>
      obtain ⟨accepted, rfl⟩ := (validPubkey_eq_ok_iff v key).mp checked
      rw [SwarmMessage.make_of_valid checked]
      simp only [Except.ok.injEq, accepted, and_self, true_and]
      exact eq_comm

/-- A key is accepted exactly when it is a 64-char hex string, and stored in
lower case. -/
structure AcceptsByGrammar (v : String) : Prop where
  accepts : (∃ message, SwarmMessage.make stamp messageType senderRole v
    payload = .ok message) ↔ IsHexKey v
  stores : ∀ message, SwarmMessage.make stamp messageType senderRole v
    payload = .ok message →
      message.senderPubkey = lower v ∧ message.senderPubkey.length = 64

/-- Beside the hex strings, a literal with any other character in it is
accepted. -/
theorem acceptsByGrammar_iff (v : String) :
    AcceptsByGrammar stamp messageType senderRole payload v ↔
      ¬ (v.length = 64 ∧ HexLiteral (v.toList.map toNumeral) ∧
        ∃ character ∈ v.toList, ¬ HexDigit character) := by
  constructor
  · rintro accepted ⟨length, literal, character, member, noDigit⟩
    have isKey := accepted.accepts.mp
      ⟨_, (make_eq_ok_iff stamp messageType senderRole payload v _).mpr
        ⟨⟨length, literal⟩, rfl⟩⟩
    exact noDigit (isKey.2 character member)
  · intro plain
    refine ⟨⟨?_, ?_⟩, ?_⟩
    · rintro ⟨message, made⟩
      obtain ⟨⟨length, literal⟩, _⟩ :=
        (make_eq_ok_iff stamp messageType senderRole payload v _).mp made
      refine ⟨length, fun character member => ?_⟩
      by_contra noDigit
      exact plain ⟨length, literal, character, member, noDigit⟩
    · intro isKey
      exact ⟨_, (make_eq_ok_iff stamp messageType senderRole payload v _).mpr
        ⟨⟨isKey.1, isKey.hexLiteral⟩, rfl⟩⟩
    · intro message made
      obtain ⟨⟨length, literal⟩, rfl⟩ :=
        (make_eq_ok_iff stamp messageType senderRole payload v _).mp made
      exact ⟨rfl, (length_lower_of_hexLiteral literal).trans length⟩

end Construction

/-- `0x` and 62 digits. -/
def markedKey : String :=
  "0xaaaaaaaaaaaaaaaaaaaaaaaaaaaaaaaaaaaaaaaaaaaaaaaaaaaaaaaaaaaaaa"

theorem marked_key_accepted :
    ¬ ∀ stamp messageType senderRole payload v,
      AcceptsByGrammar stamp messageType senderRole payload v := by
  intro always
  have valid : (validPubkey markedKey).toOption = some markedKey := by
    decide +kernel
  have made := SwarmMessage.make_of_valid (eq_ok_of_toOption valid)
    ⟨"id", "2026-01-01T00:00:00Z"⟩ .ping .risk []
  have isKey := (always _ _ _ _ _).accepts.mp ⟨_, made⟩
  have isDigit : HexDigit 'x' := isKey.2 'x' (by decide)
  exact absurd ((hexDigit_iff 'x').mp isDigit) (by decide)

end SwarmFi.Core

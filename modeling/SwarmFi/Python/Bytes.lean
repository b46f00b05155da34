import SwarmFi.Python.Number

/-!
# Bytes

Python bytes are lists of octets.  UTF-8 is the encoding `String` itself is
built on, so encoded text always decodes to the same text.
-/

namespace Python

abbrev Bytes := List UInt8

/-! ## UTF-8 -/

/-- `text.encode("utf-8")` -/
def encode (text : String) : Bytes :=
  text.toByteArray.data.toList

/-- `raw.decode("utf-8")` -/
def decode (raw : Bytes) : Except Exception String :=
  match String.fromUTF8? ⟨raw.toArray⟩ with
  | some text => .ok text
  | none =>
      .error ⟨.other "UnicodeDecodeError",
        "'utf-8' codec can't decode the bytes"⟩

@[simp]
theorem decode_encode (text : String) : decode (encode text) = .ok text := by
  have valid : String.fromUTF8? text.toByteArray = some text := by
    rw [String.fromUTF8?, dif_pos text.isValidUTF8]
    rfl
  have same : (⟨(encode text).toArray⟩ : ByteArray) = text.toByteArray := rfl
  rw [decode, same, valid]

theorem encode_injective {first second : String}
    (same : encode first = encode second) : first = second := by
  have decoded := congrArg decode same
  simpa using decoded

theorem encode_append (first second : String) :
    encode (first ++ second) = encode first ++ encode second := by
  simp [encode]

/-! ## Big-endian numbers -/

/-- `value.to_bytes(4, "big")` -/
def toBytes4 (value : Nat) : Except Exception Bytes :=
  if value < 2 ^ 32 then
    .ok [UInt8.ofNat (value / 2 ^ 24), UInt8.ofNat (value / 2 ^ 16),
      UInt8.ofNat (value / 2 ^ 8), UInt8.ofNat value]
  else
    .error ⟨.overflowError, "int too big to convert"⟩

/-- `int.from_bytes(raw, "big")` -/
def fromBytes (raw : Bytes) : Nat :=
  raw.foldl (fun value byte => value * 256 + byte.toNat) 0

theorem toBytes4_eq_ok
    {value : Nat} {raw : Bytes} (converted : toBytes4 value = .ok raw) :
    raw.length = 4 ∧ fromBytes raw = value := by
  unfold toBytes4 at converted
  split at converted
  · next small =>
      cases converted
      refine ⟨rfl, ?_⟩
      simp only [fromBytes, List.foldl_cons, List.foldl_nil,
        UInt8.toNat_ofNat']
      omega
  · cases converted

/-! ## Hexadecimal text -/

/-- The two hexadecimal digits of an octet. -/
def hexOfByte (byte : UInt8) : List Char :=
  [Nat.digitChar (byte.toNat / 16), Nat.digitChar (byte.toNat % 16)]

/-- `raw.hex()` -/
def hex (raw : Bytes) : String :=
  String.ofList (raw.flatMap hexOfByte)

/-- The octets that pairs of hexadecimal digits stand for. -/
def octets : List Char → Option Bytes
  | [] => some []
  | [_] => none
  | high :: low :: rest =>
      if digitValue high < 16 ∧ digitValue low < 16 then
        (octets rest).map
          (UInt8.ofNat (digitValue high * 16 + digitValue low) :: ·)
      else
        none

/-- `bytes.fromhex(text)`, `none` where it raises; white space, which it would
skip, is not accepted. -/
def fromHex (text : String) : Option Bytes :=
  octets text.toList

theorem digitValue_digitChar :
    ∀ digit < 16, digitValue (Nat.digitChar digit) = digit := by
  decide

theorem octets_hexOfByte (byte : UInt8) (rest : List Char) :
    octets (hexOfByte byte ++ rest) = (octets rest).map (byte :: ·) := by
  have bound := byte.toNat_lt
  have high := digitValue_digitChar (byte.toNat / 16) (by omega)
  have low := digitValue_digitChar (byte.toNat % 16) (by omega)
  have joined : byte.toNat / 16 * 16 + byte.toNat % 16 = byte.toNat := by
    omega
  show octets (Nat.digitChar _ :: Nat.digitChar _ :: rest) = _
  rw [octets, high, low, joined, UInt8.ofNat_toNat, if_pos (by omega)]

/-- Hexadecimal text gives the bytes back. -/
@[simp]
theorem fromHex_hex (raw : Bytes) : fromHex (hex raw) = some raw := by
  rw [fromHex, hex, String.toList_ofList]
  induction raw with
  | nil => rfl
  | cons byte rest inductionHypothesis =>
      rw [List.flatMap_cons, octets_hexOfByte, inductionHypothesis]
      rfl

theorem digitChar_ne_x :
    ∀ digit < 16, Nat.digitChar digit ≠ 'x' := by
  decide

/-- The second character of hexadecimal text is no `x`. -/
theorem hex_not_prefixed (raw : Bytes) (rest : List Char) :
    (hex raw).toList ≠ '0' :: 'x' :: rest := by
  rw [hex, String.toList_ofList]
  cases raw with
  | nil => simp
  | cons byte raw =>
      intro same
      have second : Nat.digitChar (byte.toNat % 16) = 'x' := by
        rw [List.flatMap_cons] at same
        exact (List.cons.inj (List.cons.inj same).2).1
      exact digitChar_ne_x _ (Nat.mod_lt _ (by decide)) second

end Python

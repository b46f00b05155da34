import SwarmFi.Python.Bytes

/-!
# SHA-256

`hashlib.sha256` on 32-bit words kept as natural numbers below `2 ^ 32`.
-/

namespace Python.Sha256

def word (value : Nat) : Nat := value % 2 ^ 32

def rotateRight (value places : Nat) : Nat :=
  word (value >>> places ||| value <<< (32 - places))

/-! ## The message schedule -/

def smallSigma0 (value : Nat) : Nat :=
  rotateRight value 7 ^^^ rotateRight value 18 ^^^ (value >>> 3)

def smallSigma1 (value : Nat) : Nat :=
  rotateRight value 17 ^^^ rotateRight value 19 ^^^ (value >>> 10)

/-- The next word of a schedule, whose words stand last first. -/
def nextWord (schedule : List Nat) : Nat :=
  word (smallSigma1 (schedule.getD 1 0) + schedule.getD 6 0 +
    smallSigma0 (schedule.getD 14 0) + schedule.getD 15 0)

def extend : Nat → List Nat → List Nat
  | 0, schedule => schedule
  | count + 1, schedule => extend count (nextWord schedule :: schedule)

def words : List UInt8 → List Nat
  | a :: b :: c :: d :: rest => fromBytes [a, b, c, d] :: words rest
  | _ => []

def schedule (block : Bytes) : List Nat :=
  (extend 48 (words block).reverse).reverse

/-! ## Compression -/

def roundConstants : List Nat :=
  [0x428a2f98, 0x71374491, 0xb5c0fbcf, 0xe9b5dba5, 0x3956c25b,
    0x59f111f1, 0x923f82a4, 0xab1c5ed5, 0xd807aa98, 0x12835b01,
    0x243185be, 0x550c7dc3, 0x72be5d74, 0x80deb1fe, 0x9bdc06a7,
    0xc19bf174, 0xe49b69c1, 0xefbe4786, 0x0fc19dc6, 0x240ca1cc,
    0x2de92c6f, 0x4a7484aa, 0x5cb0a9dc, 0x76f988da, 0x983e5152,
    0xa831c66d, 0xb00327c8, 0xbf597fc7, 0xc6e00bf3, 0xd5a79147,
    0x06ca6351, 0x14292967, 0x27b70a85, 0x2e1b2138, 0x4d2c6dfc,
    0x53380d13, 0x650a7354, 0x766a0abb, 0x81c2c92e, 0x92722c85,
    0xa2bfe8a1, 0xa81a664b, 0xc24b8b70, 0xc76c51a3, 0xd192e819,
    0xd6990624, 0xf40e3585, 0x106aa070, 0x19a4c116, 0x1e376c08,
    0x2748774c, 0x34b0bcb5, 0x391c0cb3, 0x4ed8aa4a, 0x5b9cca4f,
    0x682e6ff3, 0x748f82ee, 0x78a5636f, 0x84c87814, 0x8cc70208,
    0x90befffa, 0xa4506ceb, 0xbef9a3f7, 0xc67178f2]

structure State where
  a : Nat
  b : Nat
  c : Nat
  d : Nat
  e : Nat
  f : Nat
  g : Nat
  h : Nat

def start : State :=
  ⟨0x6a09e667, 0xbb67ae85, 0x3c6ef372, 0xa54ff53a, 0x510e527f,
    0x9b05688c, 0x1f83d9ab, 0x5be0cd19⟩

def round (state : State) (constant scheduled : Nat) : State :=
  let sigma1 :=
    rotateRight state.e 6 ^^^ rotateRight state.e 11 ^^^
      rotateRight state.e 25
  let choice :=
    (state.e &&& state.f) ^^^ ((0xffffffff - state.e) &&& state.g)
  let first := word (state.h + sigma1 + choice + constant + scheduled)
  let sigma0 :=
    rotateRight state.a 2 ^^^ rotateRight state.a 13 ^^^
      rotateRight state.a 22
  let majority :=
    (state.a &&& state.b) ^^^ (state.a &&& state.c) ^^^
      (state.b &&& state.c)
  { a := word (first + sigma0 + majority)
    b := state.a
    c := state.b
    d := state.c
    e := word (state.d + first)
    f := state.e
    g := state.f
    h := state.g }

def compress (state : State) (block : Bytes) : State :=
  let last :=
    (roundConstants.zip (schedule block)).foldl
      (fun state pair => round state pair.1 pair.2) state
  { a := word (state.a + last.a)
    b := word (state.b + last.b)
    c := word (state.c + last.c)
    d := word (state.d + last.d)
    e := word (state.e + last.e)
    f := word (state.f + last.f)
    g := word (state.g + last.g)
    h := word (state.h + last.h) }

/-! ## Padding -/

def bigEndian : Nat → Nat → Bytes
  | 0, _ => []
  | count + 1, value =>
      UInt8.ofNat (value >>> (8 * count)) :: bigEndian count value

def pad (data : Bytes) : Bytes :=
  data ++ 0x80 :: List.replicate ((119 - data.length % 64) % 64) 0 ++
    bigEndian 8 (8 * data.length)

def blocks : Nat → Bytes → List Bytes
  | 0, _ => []
  | count + 1, data => data.take 64 :: blocks count (data.drop 64)

def State.words (state : State) : List Nat :=
  [state.a, state.b, state.c, state.d, state.e, state.f, state.g, state.h]

/-- `hashlib.sha256(data).digest()` -/
def digest (data : Bytes) : Bytes :=
  let padded := pad data
  let last := (blocks (padded.length / 64) padded).foldl compress start
  last.words.flatMap (bigEndian 4)

/-- `hashlib.sha256(data).hexdigest()` -/
def hexdigest (data : Bytes) : String :=
  hex (digest data)

example :
    hexdigest [97, 98, 99] =
      "ba7816bf8f01cfea414140de5dae2223b00361a396177a9cb410ff61f20015ad" := by
  decide +kernel

end Python.Sha256

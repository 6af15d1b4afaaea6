import BeaconCeremony.Bytes.Digest

/-!
# SHA-256

The hash of FIPS 180-4 with 32-bit words: padding to blocks of 64 bytes, a message schedule of 64
words for each block, and 64 rounds on eight working words.
-/

namespace BeaconCeremony
namespace Sha256

/-- The eight working words. -/
structure State where
  /-- First word. -/
  a : UInt32
  /-- Second word. -/
  b : UInt32
  /-- Third word. -/
  c : UInt32
  /-- Fourth word. -/
  d : UInt32
  /-- Fifth word. -/
  e : UInt32
  /-- Sixth word. -/
  f : UInt32
  /-- Seventh word. -/
  g : UInt32
  /-- Eighth word. -/
  h : UInt32
deriving DecidableEq

/-- The words before the first block: fractional parts of the square roots of eight primes. -/
def State.initial : State where
  a := 0x6a09e667
  b := 0xbb67ae85
  c := 0x3c6ef372
  d := 0xa54ff53a
  e := 0x510e527f
  f := 0x9b05688c
  g := 0x1f83d9ab
  h := 0x5be0cd19

/-- The round constants: fractional parts of the cube roots of the first 64 primes. -/
def roundConstants : List UInt32 :=
  [0x428a2f98, 0x71374491, 0xb5c0fbcf, 0xe9b5dba5, 0x3956c25b, 0x59f111f1, 0x923f82a4, 0xab1c5ed5,
    0xd807aa98, 0x12835b01, 0x243185be, 0x550c7dc3, 0x72be5d74, 0x80deb1fe, 0x9bdc06a7, 0xc19bf174,
    0xe49b69c1, 0xefbe4786, 0x0fc19dc6, 0x240ca1cc, 0x2de92c6f, 0x4a7484aa, 0x5cb0a9dc, 0x76f988da,
    0x983e5152, 0xa831c66d, 0xb00327c8, 0xbf597fc7, 0xc6e00bf3, 0xd5a79147, 0x06ca6351, 0x14292967,
    0x27b70a85, 0x2e1b2138, 0x4d2c6dfc, 0x53380d13, 0x650a7354, 0x766a0abb, 0x81c2c92e, 0x92722c85,
    0xa2bfe8a1, 0xa81a664b, 0xc24b8b70, 0xc76c51a3, 0xd192e819, 0xd6990624, 0xf40e3585, 0x106aa070,
    0x19a4c116, 0x1e376c08, 0x2748774c, 0x34b0bcb5, 0x391c0cb3, 0x4ed8aa4a, 0x5b9cca4f, 0x682e6ff3,
    0x748f82ee, 0x78a5636f, 0x84c87814, 0x8cc70208, 0x90befffa, 0xa4506ceb, 0xbef9a3f7, 0xc67178f2]

/-- Rotation to the right. -/
def rotateRight (word amount : UInt32) : UInt32 :=
  (word >>> amount) ||| (word <<< (32 - amount))

/-- The schedule of 64 words that starts with the 16 words of a block. -/
def schedule (block : List UInt32) : Array UInt32 :=
  (List.range' 16 48).foldl (fun words position =>
    let near := words.getD (position - 2) 0
    let far := words.getD (position - 15) 0
    let mixedNear := rotateRight near 17 ^^^ rotateRight near 19 ^^^ (near >>> 10)
    let mixedFar := rotateRight far 7 ^^^ rotateRight far 18 ^^^ (far >>> 3)
    words.push
      (mixedNear + words.getD (position - 7) 0 + mixedFar + words.getD (position - 16) 0))
    block.toArray

/-- One round with its constant and its scheduled word. -/
def round (state : State) (constant word : UInt32) : State :=
  let mixedE := rotateRight state.e 6 ^^^ rotateRight state.e 11 ^^^ rotateRight state.e 25
  let choice := (state.e &&& state.f) ^^^ ((~~~state.e) &&& state.g)
  let fromTail := state.h + mixedE + choice + constant + word
  let mixedA := rotateRight state.a 2 ^^^ rotateRight state.a 13 ^^^ rotateRight state.a 22
  let majority := (state.a &&& state.b) ^^^ (state.a &&& state.c) ^^^ (state.b &&& state.c)
  { a := fromTail + (mixedA + majority)
    b := state.a
    c := state.b
    d := state.c
    e := state.d + fromTail
    f := state.e
    g := state.f
    h := state.g }

/-- The rounds from the scheduled word at `position` on, one for each constant. -/
def rounds (words : Array UInt32) : List UInt32 → Nat → State → State
  | [], _, state => state
  | constant :: rest, position, state =>
    rounds words rest (position + 1) (round state constant (words.getD position 0))

/-- The state after one more block of 16 words. -/
def compress (state : State) (block : List UInt32) : State :=
  let mixed := rounds (schedule block) roundConstants 0 state
  { a := state.a + mixed.a
    b := state.b + mixed.b
    c := state.c + mixed.c
    d := state.d + mixed.d
    e := state.e + mixed.e
    f := state.f + mixed.f
    g := state.g + mixed.g
    h := state.h + mixed.h }

/-- The message followed by the bit one, zeros, and its length in bits as eight bytes; the result
fills whole blocks. -/
def pad (message : Bytes) : Bytes :=
  let zeros := (119 - message.length % 64) % 64
  message ++ 0x80 :: (List.replicate zeros 0 ++ Bytes.ofNatBE 8 (8 * message.length))

/-- The 32 bytes of a state. -/
def State.toDigest (state : State) : Digest 32 where
  bytes :=
    Bytes.ofWordBE state.a ++ Bytes.ofWordBE state.b ++ Bytes.ofWordBE state.c ++
      Bytes.ofWordBE state.d ++ Bytes.ofWordBE state.e ++ Bytes.ofWordBE state.f ++
      Bytes.ofWordBE state.g ++ Bytes.ofWordBE state.h
  length_bytes := rfl

end Sha256

/-- The SHA-256 hash of a message. -/
def sha256 (message : Bytes) : Digest 32 :=
  let blocks := Bytes.piecesOf 63 (Sha256.pad message)
  (blocks.foldl (fun state block => Sha256.compress state (Bytes.wordsBE block))
    Sha256.State.initial).toDigest

end BeaconCeremony

/-!
# Byte strings

Byte strings are lists of bytes.  This file fixes how numbers are laid out in them, in both byte
orders, and how a byte string is cut into pieces of one size.
-/

namespace BeaconCeremony

/-- A byte string. -/
abbrev Bytes := List UInt8

namespace Bytes

/-- The number whose base-256 digits are the bytes, least significant first. -/
def toNatLE : Bytes → Nat
  | [] => 0
  | byte :: rest => byte.toNat + 256 * toNatLE rest

/-- The number whose base-256 digits are the bytes, most significant first. -/
def toNatBE (bytes : Bytes) : Nat := toNatLE bytes.reverse

/-- The low `size` base-256 digits of a number, least significant first. -/
def ofNatLE : Nat → Nat → Bytes
  | 0, _ => []
  | size + 1, value => UInt8.ofNat value :: ofNatLE size (value / 256)

/-- The low `size` base-256 digits of a number, most significant first. -/
def ofNatBE (size value : Nat) : Bytes := (ofNatLE size value).reverse

@[simp]
theorem length_ofNatLE (size value : Nat) : (ofNatLE size value).length = size := by
  induction size generalizing value with
  | zero => rfl
  | succ size ih => simp [ofNatLE, ih]

@[simp]
theorem length_ofNatBE (size value : Nat) : (ofNatBE size value).length = size := by
  simp [ofNatBE]

/-- The four bytes of a word, most significant first. -/
def ofWordBE (word : UInt32) : Bytes :=
  [(word >>> 24).toUInt8, (word >>> 16).toUInt8, (word >>> 8).toUInt8, word.toUInt8]

/-- The four bytes of a word, least significant first. -/
def ofWordLE (word : UInt32) : Bytes :=
  [word.toUInt8, (word >>> 8).toUInt8, (word >>> 16).toUInt8, (word >>> 24).toUInt8]

/-- The eight bytes of a double word, least significant first. -/
def ofDoubleWordLE (word : UInt64) : Bytes :=
  [word.toUInt8, (word >>> 8).toUInt8, (word >>> 16).toUInt8, (word >>> 24).toUInt8,
    (word >>> 32).toUInt8, (word >>> 40).toUInt8, (word >>> 48).toUInt8, (word >>> 56).toUInt8]

/-- The word with the given bytes, most significant first. -/
def wordBE (first second third fourth : UInt8) : UInt32 :=
  (first.toUInt32 <<< 24) ||| (second.toUInt32 <<< 16) ||| (third.toUInt32 <<< 8) |||
    fourth.toUInt32

/-- The big-endian words of a byte string; a last piece of fewer than four bytes is left out. -/
def wordsBE : Bytes → List UInt32
  | first :: second :: third :: fourth :: rest =>
    wordBE first second third fourth :: wordsBE rest
  | _ => []

theorem length_wordsBE (bytes : Bytes) : (wordsBE bytes).length = bytes.length / 4 := by
  fun_induction wordsBE bytes with
  | case1 first second third fourth rest ih => simp [ih]; omega
  | case2 bytes short =>
    match bytes with
    | [] => simp
    | [_] => simp
    | [_, _] => simp
    | [_, _, _] => simp
    | first :: second :: third :: fourth :: rest => exact absurd rfl (short _ _ _ _ rest)

/-- The little-endian double words of a byte string; a last piece of fewer than eight bytes is
left out. -/
def doubleWordsLE : Bytes → List UInt64
  | b0 :: b1 :: b2 :: b3 :: b4 :: b5 :: b6 :: b7 :: rest =>
    (b0.toUInt64 ||| (b1.toUInt64 <<< 8) ||| (b2.toUInt64 <<< 16) ||| (b3.toUInt64 <<< 24) |||
      (b4.toUInt64 <<< 32) ||| (b5.toUInt64 <<< 40) ||| (b6.toUInt64 <<< 48) |||
      (b7.toUInt64 <<< 56)) :: doubleWordsLE rest
  | _ => []

/-- Consecutive pieces of `size + 1` bytes; only the last one may be shorter. -/
def piecesOf (size : Nat) (bytes : Bytes) : List Bytes :=
  match bytes with
  | [] => []
  | byte :: rest => (byte :: rest.take size) :: piecesOf size (rest.drop size)
termination_by bytes.length
decreasing_by simp only [List.length_drop, List.length_cons]; omega

/-- Why a byte string cannot be cut. -/
inductive ChunkError
  | emptyPiece
deriving DecidableEq

/-- The operator-facing text of a refused cut. -/
def ChunkError.message : ChunkError → String
  | .emptyPiece => "size must be > 0"

/-- Consecutive pieces of `size` bytes, the last one possibly shorter. -/
def chunks (bytes : Bytes) (size : Int) : Except ChunkError (List Bytes) :=
  if size ≤ 0 then .error .emptyPiece else .ok (piecesOf (size.toNat - 1) bytes)

end Bytes
end BeaconCeremony

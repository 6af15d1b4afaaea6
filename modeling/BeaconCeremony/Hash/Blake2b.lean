import BeaconCeremony.Bytes.Digest

/-!
# BLAKE2b with a digest of 64 bytes

The unkeyed hash of RFC 7693, as an absorber that takes the message in pieces.  The absorber keeps
back the last block, because only the end of the message tells that it is the last one; how the
message was cut therefore leaves no trace in the digest.
-/

namespace BeaconCeremony
namespace Blake2b

/-- The initialisation vector, shared with SHA-512. -/
def initialVector : Array UInt64 :=
  #[0x6a09e667f3bcc908, 0xbb67ae8584caa73b, 0x3c6ef372fe94f82b, 0xa54ff53a5f1d36f1,
    0x510e527fade682d1, 0x9b05688c2b3e6c1f, 0x1f83d9abfb41bd6b, 0x5be0cd19137e2179]

/-- The order in which each of the twelve rounds takes the words of a block. -/
def messageOrder : List (List Nat) :=
  [[0, 1, 2, 3, 4, 5, 6, 7, 8, 9, 10, 11, 12, 13, 14, 15],
    [14, 10, 4, 8, 9, 15, 13, 6, 1, 12, 0, 2, 11, 7, 5, 3],
    [11, 8, 12, 0, 5, 2, 15, 13, 10, 14, 3, 6, 7, 1, 9, 4],
    [7, 9, 3, 1, 13, 12, 11, 14, 2, 6, 5, 10, 4, 0, 15, 8],
    [9, 0, 5, 7, 2, 4, 10, 15, 14, 1, 11, 12, 6, 8, 3, 13],
    [2, 12, 6, 10, 0, 11, 8, 3, 4, 13, 7, 5, 15, 14, 1, 9],
    [12, 5, 1, 15, 14, 13, 4, 10, 0, 7, 6, 3, 9, 2, 8, 11],
    [13, 11, 7, 14, 12, 1, 3, 9, 5, 0, 15, 4, 8, 6, 2, 10],
    [6, 15, 14, 9, 11, 3, 0, 8, 12, 2, 13, 7, 1, 4, 10, 5],
    [10, 2, 8, 4, 7, 6, 1, 5, 15, 11, 9, 14, 3, 12, 13, 0],
    [0, 1, 2, 3, 4, 5, 6, 7, 8, 9, 10, 11, 12, 13, 14, 15],
    [14, 10, 4, 8, 9, 15, 13, 6, 1, 12, 0, 2, 11, 7, 5, 3]]

/-- The places of the working vector that the eight mixings of a round work on: four columns, then
four diagonals. -/
def mixingPlaces : List (Nat × Nat × Nat × Nat) :=
  [(0, 4, 8, 12), (1, 5, 9, 13), (2, 6, 10, 14), (3, 7, 11, 15),
    (0, 5, 10, 15), (1, 6, 11, 12), (2, 7, 8, 13), (3, 4, 9, 14)]

/-- Rotation to the right. -/
def rotateRight (word amount : UInt64) : UInt64 :=
  (word >>> amount) ||| (word <<< (64 - amount))

/-- Mixes two message words into four places of the working vector. -/
def mix (vector : Array UInt64) (places : Nat × Nat × Nat × Nat) (first second : UInt64) :
    Array UInt64 :=
  let (ia, ib, ic, id) := places
  let a := vector.getD ia 0 + vector.getD ib 0 + first
  let d := rotateRight (vector.getD id 0 ^^^ a) 32
  let c := vector.getD ic 0 + d
  let b := rotateRight (vector.getD ib 0 ^^^ c) 24
  let a := a + b + second
  let d := rotateRight (d ^^^ a) 16
  let c := c + d
  let b := rotateRight (b ^^^ c) 63
  (((vector.setIfInBounds ia a).setIfInBounds ib b).setIfInBounds ic c).setIfInBounds id d

/-- One round: the eight mixings with the words of the block in the given order. -/
def round (block : Array UInt64) : List (Nat × Nat × Nat × Nat) → List Nat → Array UInt64 →
    Array UInt64
  | places :: morePlaces, first :: second :: order, vector =>
    round block morePlaces order
      (mix vector places (block.getD first 0) (block.getD second 0))
  | _, _, vector => vector

/-- The chaining words after one more block, of which `count` message bytes are known by now. -/
def compress (chaining : Vector UInt64 8) (block : Bytes) (count : Nat) (last : Bool) :
    Vector UInt64 8 :=
  let words := (Bytes.doubleWordsLE block).toArray
  let start := (chaining.toArray ++ initialVector).mapIdx fun place word =>
    if place = 12 then word ^^^ UInt64.ofNat count
    else if place = 13 then word ^^^ UInt64.ofNat (count / UInt64.size)
    else if place = 14 ∧ last then ~~~word
    else word
  let mixed := messageOrder.foldl (fun vector order => round words mixingPlaces order vector) start
  chaining.mapFinIdx fun place word _ => word ^^^ mixed.getD place 0 ^^^ mixed.getD (place + 8) 0

/-- The chaining words before the first block: the vector with the digest size mixed in. -/
def initialChaining : Vector UInt64 8 :=
  (Vector.ofFn fun place => initialVector.getD place.val 0).set 0
    (initialVector.getD 0 0 ^^^ 0x01010040)

/-- An absorber: a hash of a message whose end is still open. -/
structure Absorber where
  /-- Chaining words after the blocks worked in so far. -/
  chaining : Vector UInt64 8
  /-- Number of bytes in those blocks. -/
  absorbed : Nat
  /-- Bytes after those blocks, at most one block of them. -/
  pending : Bytes

namespace Absorber

/-- The absorber of the empty message. -/
def empty : Absorber := ⟨initialChaining, 0, []⟩

/-- Works in blocks as long as something follows them. -/
def drain (absorber : Absorber) : Absorber :=
  if (absorber.pending.drop 128).isEmpty then absorber
  else
    drain {
      chaining := compress absorber.chaining (absorber.pending.take 128)
        (absorber.absorbed + 128) false
      absorbed := absorber.absorbed + 128
      pending := absorber.pending.drop 128 }
termination_by absorber.pending.length
decreasing_by
  rename_i more
  simp only [List.isEmpty_iff, List.drop_eq_nil_iff] at more
  simp only [List.length_drop]
  omega

/-- Appends bytes to the message. -/
def absorb (absorber : Absorber) (bytes : Bytes) : Absorber :=
  drain { absorber with pending := absorber.pending ++ bytes }

/-- The digest of the message absorbed so far; the absorber stays open. -/
def digest (absorber : Absorber) : Digest 64 :=
  let block := absorber.pending ++ List.replicate (128 - absorber.pending.length) 0
  let final := compress absorber.chaining block (absorber.absorbed + absorber.pending.length) true
  { bytes :=
      Bytes.ofDoubleWordLE final[0] ++ Bytes.ofDoubleWordLE final[1] ++
        Bytes.ofDoubleWordLE final[2] ++ Bytes.ofDoubleWordLE final[3] ++
        Bytes.ofDoubleWordLE final[4] ++ Bytes.ofDoubleWordLE final[5] ++
        Bytes.ofDoubleWordLE final[6] ++ Bytes.ofDoubleWordLE final[7]
    length_bytes := rfl }

end Absorber
end Blake2b

/-- The 64-byte BLAKE2b hash of a message. -/
def blake2b (message : Bytes) : Digest 64 :=
  (Blake2b.Absorber.empty.absorb message).digest

end BeaconCeremony

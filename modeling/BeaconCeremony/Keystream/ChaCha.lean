import BeaconCeremony.Bytes.Basic

/-!
# The ChaCha20 keystream

A key of eight words gives a stream of blocks of 64 bytes.  A block depends on the key and on its
number alone; the nonce is zero throughout.
-/

namespace BeaconCeremony

/-- The eight words that key a keystream. -/
abbrev Seed := Vector UInt32 8

namespace ChaCha

/-- Rotation to the left. -/
def rotateLeft (word amount : UInt32) : UInt32 :=
  (word <<< amount) ||| (word >>> (32 - amount))

/-- The places of the state that the eight quarter rounds of a double round work on: four columns,
then four diagonals. -/
def quarterPlaces : List (Nat × Nat × Nat × Nat) :=
  [(0, 4, 8, 12), (1, 5, 9, 13), (2, 6, 10, 14), (3, 7, 11, 15),
    (0, 5, 10, 15), (1, 6, 11, 12), (2, 7, 8, 13), (3, 4, 9, 14)]

/-- One quarter round on four places of the state. -/
def quarterRound (state : Array UInt32) (places : Nat × Nat × Nat × Nat) : Array UInt32 :=
  let (ia, ib, ic, id) := places
  let a := state.getD ia 0 + state.getD ib 0
  let d := rotateLeft (state.getD id 0 ^^^ a) 16
  let c := state.getD ic 0 + d
  let b := rotateLeft (state.getD ib 0 ^^^ c) 12
  let a := a + b
  let d := rotateLeft (d ^^^ a) 8
  let c := c + d
  let b := rotateLeft (b ^^^ c) 7
  (((state.setIfInBounds ia a).setIfInBounds ib b).setIfInBounds ic c).setIfInBounds id d

/-- The given number of double rounds. -/
def doubleRounds : Nat → Array UInt32 → Array UInt32
  | 0, state => state
  | count + 1, state => doubleRounds count (quarterPlaces.foldl quarterRound state)

/-- The state before the rounds: four constants, the key, the number of the block in two words, and
a zero nonce. -/
def initialState (key : Seed) (number : Nat) : Vector UInt32 16 :=
  (#v[0x61707865, 0x3320646e, 0x79622d32, 0x6b206574] : Vector UInt32 4) ++ key ++
    (#v[UInt32.ofNat number, UInt32.ofNat (number / UInt32.size), 0, 0] : Vector UInt32 4)

/-- A block of the keystream. -/
def block (key : Seed) (number : Nat) : Bytes :=
  let start := initialState key number
  let mixed := doubleRounds 10 start.toArray
  (List.finRange 16).flatMap fun place =>
    Bytes.ofWordLE (start.get place + mixed.getD place.val 0)

@[simp]
theorem length_block (key : Seed) (number : Nat) : (block key number).length = 64 := by
  simp only [block, Bytes.ofWordLE, List.length_flatMap, List.length_cons, List.length_nil]
  decide

/-- Consecutive blocks of the keystream. -/
def blocks (key : Seed) (first count : Nat) : Bytes :=
  (List.range' first count).flatMap (block key)

end ChaCha
end BeaconCeremony

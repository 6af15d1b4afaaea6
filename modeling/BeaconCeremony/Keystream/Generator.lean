import BeaconCeremony.Bytes.Digest
import BeaconCeremony.Datum.Bytes
import BeaconCeremony.Datum.Literal
import BeaconCeremony.Keystream.ChaCha

/-!
# The generator of a contribution

The final state of a beacon chain seeds a generator that reads the ChaCha20 keystream from its
first byte on.  Numbers below a bound come from masked 64-bit limbs by rejection, so each of them is
equally likely.
-/

namespace BeaconCeremony

/-- Why a generator refuses a request. -/
inductive GeneratorError
  | seedLength (given : Nat)
  | seedWord (given : Datum)
  | negativeCount
  | emptyRange
  | boundKind (kind : String)
  | noBits (kind : String)
  /-- The search for a number never ends. -/
  | stalled

/-- The text of a refusal. -/
def GeneratorError.message : GeneratorError → String
  | .seedLength given => s!"seed must have 8 words, got {given}"
  | .seedWord given =>
    match given.literal Datum.usualDepth with
    | .ok shown => "seed word out of u32 range: " ++ shown
    | .error unshown => unshown.message
  | .negativeCount => "n must be >= 0"
  | .emptyRange => "bound must be > 0"
  | .boundKind kind => "'<=' not supported between instances of '" ++ kind ++ "' and 'int'"
  | .noBits kind => "'" ++ kind ++ "' object has no attribute 'bit_length'"
  | .stalled => "no draw was accepted"

namespace Seed

/-- The eight big-endian words of a chain state. -/
def ofDigest (digest : Digest 32) : Seed :=
  ⟨(Bytes.wordsBE digest.bytes).toArray, by
    simp [Bytes.length_wordsBE, digest.length_bytes]⟩

/-- The eight words of a chain state given as a datum. -/
def ofDatum (datum : Datum) : Except BytesError Seed := do
  let bytes ← datum.toBytesOfLength "beacon digest" 32
  match Digest.ofBytes? 32 bytes with
  | some digest => return ofDigest digest
  | none => .error (.wrongLength "beacon digest" 32 bytes.length)

/-- A number of 32 bits. -/
def word (datum : Datum) : Except GeneratorError UInt32 :=
  match datum.asInt? with
  | some value =>
    if 0 ≤ value ∧ value < UInt32.size then .ok (UInt32.ofNat value.toNat)
    else .error (.seedWord datum)
  | none => .error (.seedWord datum)

/-- Eight words given as data; the first one that is not a number of 32 bits is refused. -/
def ofData (data : List Datum) : Except GeneratorError Seed :=
  if data.length = 8 then do
    let words ← data.mapM word
    if sized : words.toArray.size = 8 then return ⟨words.toArray, sized⟩
    else .error (.seedLength words.length)
  else .error (.seedLength data.length)

end Seed

/-- A reader of the keystream of a seed. -/
structure Generator where
  /-- The seed. -/
  seed : Seed
  /-- Number of the block that follows the buffered bytes. -/
  nextBlock : Nat
  /-- Bytes of the keystream that have been made but not read. -/
  buffer : Bytes
deriving DecidableEq

namespace Generator

/-- The generator at the start of the keystream. -/
def ofSeed (seed : Seed) : Generator := ⟨seed, 0, []⟩

/-- Adds blocks to the buffer if it has fewer than `count` bytes: as many as hold `count` bytes, and
at least sixteen. -/
def refill (generator : Generator) (count : Nat) : Generator :=
  if generator.buffer.length < count then
    let added := max 16 ((count + 63) / 64)
    { generator with
      nextBlock := generator.nextBlock + added
      buffer := generator.buffer ++ ChaCha.blocks generator.seed generator.nextBlock added }
  else generator

/-- The next `count` bytes of the keystream. -/
def take (generator : Generator) (count : Nat) : Bytes × Generator :=
  let filled := generator.refill count
  (filled.buffer.take count, { filled with buffer := filled.buffer.drop count })

/-- The next four bytes as a little-endian word. -/
def nextWord (generator : Generator) : UInt32 × Generator :=
  let (bytes, generator) := generator.take 4
  (UInt32.ofNat bytes.toNatLE, generator)

/-- The next two words as one, the high word first. -/
def nextDoubleWord (generator : Generator) : UInt64 × Generator :=
  let (high, generator) := generator.nextWord
  let (low, generator) := generator.nextWord
  ((high.toUInt64 <<< 32) ||| low.toUInt64, generator)

/-- The next `count` bytes; a negative count is refused. -/
def fill (generator : Generator) (count : Int) : Except GeneratorError (Bytes × Generator) :=
  if count < 0 then .error .negativeCount else .ok (generator.take count.toNat)

/-- The number made of the next `count` double words, least significant first. -/
def nextLimbs (generator : Generator) : Nat → Nat × Generator
  | 0 => (0, generator)
  | count + 1 =>
    let (limb, generator) := generator.nextDoubleWord
    let (higher, generator) := generator.nextLimbs count
    (limb.toNat + UInt64.size * higher, generator)

/-- The number of bits of the numbers below a bound of at least two. -/
def bitsBelow (bound : Nat) : Nat := Nat.log2 (bound - 1) + 1

/-- A number with as many bits as the numbers below a bound need, made of the next limbs. -/
def candidate (bound : Nat) (generator : Generator) : Nat × Generator :=
  let bits := bitsBelow bound
  let (raw, generator) := generator.nextLimbs ((bits + 63) / 64)
  (raw % Nat.pow 2 bits, generator)

/-- The first candidate below the bound, among as many as there are attempts. -/
def searchWithin (bound : Nat) : Nat → Generator → Option (Nat × Generator)
  | 0, _ => none
  | attempts + 1, generator =>
    let drawn := generator.candidate bound
    if drawn.1 < bound then some drawn else searchWithin bound attempts drawn.2

/-- The number of bytes after which the keystream of a seed repeats itself, because the number of a
block has 64 bits. -/
def period : Nat := 64 * UInt64.size

/-- A number below a positive bound.  The only number below one is drawn without reading.  If no
candidate is below the bound until they repeat themselves, none ever is, and the draw has no
result. -/
def draw? (generator : Generator) (bound : Nat) : Option (Nat × Generator) :=
  if bound = 1 then some (0, generator)
  else searchWithin bound (period + generator.buffer.length) generator

/-- The only number below one, for the floating-point number one; no other such number that is
positive has the bits that are asked for. -/
def belowFloat (generator : Generator) (bound : Binary64) :
    Except GeneratorError (Nat × Generator) :=
  if bound.isZero || bound.isLess (.ofInt 0) then .error .emptyRange
  else if bound.toInt? = some 1 then .ok (0, generator)
  else .error (.noBits "float")

/-- A number from zero up to a bound. -/
def below (generator : Generator) (bound : Datum) : Except GeneratorError (Nat × Generator) :=
  match bound, bound.asInt? with
  | .float bound, _ => generator.belowFloat bound
  | _, none => .error (.boundKind bound.fullKind)
  | _, some bound =>
    if bound ≤ 0 then .error .emptyRange
    else
      match generator.draw? bound.toNat with
      | some drawn => .ok drawn
      | none => .error .stalled

end Generator
end BeaconCeremony

import BeaconCeremony.Chain.Checkpoint
import BeaconCeremony.Error
import BeaconCeremony.Hash.Sha256

/-!
# Beacon chains

A beacon chain starts with a public 32-byte value and applies SHA-256 `2 ^ n` times to it, for an
exponent `n` from 10 to 63.  On the way it passes 1024 checkpoints, one every `2 ^ (n - 10)` steps.
-/

namespace BeaconCeremony

/-- Applies SHA-256 to a state the given number of times. -/
def Digest.advance (state : Digest 32) : Nat → Digest 32
  | 0 => state
  | steps + 1 => Digest.advance (sha256 state.bytes) steps

namespace Chain

/-- The least exponent. -/
def leastExponent : Nat := 10

/-- The greatest exponent. -/
def greatestExponent : Nat := 63

/-- The number of checkpoints of every chain. -/
def checkpointCount : Nat := 1024

/-- An exponent in the accepted range. -/
structure Exponent where
  /-- The exponent itself. -/
  value : Nat
  /-- It is at least ten. -/
  least_le : leastExponent ≤ value
  /-- It is at most 63. -/
  le_greatest : value ≤ greatestExponent
deriving DecidableEq

namespace Exponent

/-- The number of steps of the chain. -/
def steps (exponent : Exponent) : Nat := Nat.pow 2 exponent.value

/-- The number of steps from one checkpoint to the next. -/
def interval (exponent : Exponent) : Nat := Nat.pow 2 (exponent.value - 10)

/-- A whole number as an exponent, if it is in range. -/
def ofInt? (value : Int) : Option Exponent :=
  if least : leastExponent ≤ value.toNat then
    if greatest : value.toNat ≤ greatestExponent then some ⟨value.toNat, least, greatest⟩ else none
  else none

/-- The exponent that a request gives.  Only a whole number in range is one; truth values and
floating-point numbers are not. -/
def ofDatum (datum : Datum) : Except CeremonyError Exponent :=
  let refusal := CeremonyError.iterationRange datum leastExponent greatestExponent
  match datum with
  | .int value =>
    match ofInt? value with
    | some exponent => .ok exponent
    | none => .error refusal
  | _ => .error refusal

end Exponent

/-- Why the chain cannot be followed. -/
inductive Error
  | stateLength (given : Nat)
  | negativeSteps
  | reversedSegment (stop start : Nat)
  | offGrid (index : Nat) (exponent : Exponent)
  | record (error : RecordError)
deriving DecidableEq

/-- The operator-facing text of an error. -/
def Error.message : Error → String
  | .stateLength given => s!"chain state must be 32 bytes, got {given}"
  | .negativeSteps => "steps must be >= 0"
  | .reversedSegment stop start => s!"segment end {stop} precedes start {start}"
  | .offGrid index exponent =>
    s!"checkpoint index {index} is not on the 2^{exponent.value} chain grid " ++
      s!"(interval {exponent.interval})"
  | .record error => error.message

/-- Applies SHA-256 the given number of times to bytes of any length; no times leaves them as they
are. -/
def iterateHash (data : Bytes) (steps : Int) : Except Error Bytes :=
  if steps < 0 then .error .negativeSteps
  else
    match steps.toNat with
    | 0 => .ok data
    | more + 1 => .ok ((sha256 data).advance more).bytes

/-- Follows a chain from a state for the given number of steps. -/
def advance (state : Bytes) (steps : Int) : Except Error Bytes :=
  if state.length = 32 then iterateHash state steps else .error (.stateLength state.length)

/-- The 32 bytes of a beacon value in bare hexadecimal notation.  A value that is no text is named
in the refusal, which cannot be told if the value cannot be shown. -/
def parseBeacon (depth : Nat) (value : Datum) : Except Failure (Digest 32) :=
  match value with
  | .text text =>
    match Hex.decode text with
    | .error _ => .error (.ceremony (.beaconFormat text .notHex))
    | .ok bytes =>
      match Digest.ofBytes? 32 bytes with
      | some digest => .ok digest
      | none => .error (.ceremony (.beaconFormat text (.wrongLength (some bytes.length))))
  | other =>
    match other.literal depth with
    | .ok shown => .error (.ceremony (.beaconFormat shown .notHex))
    | .error unshown => .error unshown.failure

end Chain

/-- A chain to run: a beacon value and an exponent. -/
structure Chain where
  /-- The state before the first step. -/
  beacon : Digest 32
  /-- The exponent of the number of steps. -/
  exponent : Chain.Exponent
deriving DecidableEq

namespace Chain

/-- The chain of a beacon value in hexadecimal notation; the exponent is checked first. -/
def ofHex (depth : Nat) (beacon exponent : Datum) : Except Failure Chain := do
  let exponent ← (Exponent.ofDatum exponent).mapError .ceremony
  let beacon ← parseBeacon depth beacon
  return ⟨beacon, exponent⟩

/-- The chain of a beacon value given as bytes; the exponent is checked first. -/
def ofBytes (beacon : Bytes) (exponent : Datum) : Except CeremonyError Chain := do
  let exponent ← Exponent.ofDatum exponent
  match Digest.ofBytes? 32 beacon with
  | some beacon => return ⟨beacon, exponent⟩
  | none => .error (.beaconFormat (Hex.encode beacon) (.wrongLength (some beacon.length)))

end Chain
end BeaconCeremony

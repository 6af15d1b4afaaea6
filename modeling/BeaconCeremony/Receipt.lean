import BeaconCeremony.Chain.Checkpoint
import BeaconCeremony.Keystream.Generator

/-!
# Receipts

A receipt is what remains of a successful contribution: the final state of the chain, the seed drawn
from it, the fingerprint, and the paths if there were any.
-/

namespace BeaconCeremony

/-- The receipt of a contribution. -/
structure Receipt where
  /-- The state after the last step of the chain. -/
  final : Digest 32
  /-- The words that seeded the generator. -/
  seed : List Int
  /-- The fingerprint of the contribution. -/
  fingerprint : Bytes
  /-- Where the parameters were read from. -/
  inputPath? : Option RawText := none
  /-- Where the parameters were written to. -/
  outputPath? : Option RawText := none
deriving DecidableEq

namespace Receipt

/-- The number of words of a seed. -/
def seedLength : Nat := 8

/-- The bytes of a fingerprint, of which there must be some. -/
def fingerprintBytes (datum : Datum) : Except RecordError Bytes :=
  match datum.asBytes? with
  | none => .error (.notBytes "fingerprint")
  | some bytes => if bytes.isEmpty then .error .emptyFingerprint else .ok bytes

/-- The final state and the fingerprint of a receipt whose fields are data of unknown type, the
state in hexadecimal notation, which is asked for last. -/
def shownOfData (final : Datum) (seed : List Datum) (fingerprint : Datum) :
    Except RecordError (String × Bytes) := do
  RecordError.checkLength "final_hash" 32 final
  if seed.length = seedLength then
    let fingerprint ← fingerprintBytes fingerprint
    return (← RecordError.hexField final, fingerprint)
  else .error (.seedLength seed.length)

end Receipt

/-- The words of a seed as whole numbers. -/
def Seed.numbers (seed : Seed) : List Int := seed.toList.map fun word => (word.toNat : Int)

end BeaconCeremony

import BeaconCeremony.Curve.Encoding
import BeaconCeremony.Hash.Blake2b
import BeaconCeremony.Hash.Sha256
import BeaconCeremony.Keystream.Generator
import BeaconCeremony.Text.Utf8

/-!
# Phase-two parameters

The state of a ceremony over BN254: the product `δ` of all contributions in both groups, two queries
that are divided by it, and one public key for every contribution.  A key proves knowledge of its
own `δ`; its transcript hash binds it to the circuit and to all keys before it.
-/

namespace BeaconCeremony
namespace Phase2

/-- The proof that a contribution knew its `δ`. -/
structure PublicKey where
  /-- The product of all contributions up to this one. -/
  deltaAfter : Curve.G1
  /-- A random point. -/
  s : Curve.G1
  /-- That point times `δ`. -/
  sDelta : Curve.G1
  /-- The point that the transcript hashes to, times `δ`. -/
  rDelta : Curve.G2
  /-- The hash of the circuit, the earlier keys and the two points. -/
  transcript : Digest 64
deriving DecidableEq

/-- The state of a ceremony. -/
structure Parameters where
  /-- The hash of the circuit that the parameters belong to. -/
  circuitHash : Digest 64
  /-- The product of the contributions in the first group. -/
  delta1 : Curve.G1
  /-- The product of the contributions in the second group. -/
  delta2 : Curve.G2
  /-- The first query. -/
  h : List Curve.G1
  /-- The second query. -/
  l : List Curve.G1
  /-- The keys of the contributions, oldest first. -/
  contributions : List PublicKey
deriving DecidableEq

/-- What is wrong with parameters or with a request for them. -/
inductive FormatError
  | querySize
  | circuitHashLength
  | badMagic
  | version (given : Nat)
  | truncated (label : String)
  | trailing
  | keyLength (index : Nat)
  | point (error : PointError)
  | transcript (index : Nat)
  | lastDelta
  | unitDelta
deriving DecidableEq

/-- The text of an error. -/
def FormatError.message : FormatError → String
  | .querySize => "query sizes must be >= 0"
  | .circuitHashLength => "cs_hash must be 64 bytes"
  | .badMagic => "not a bn254-phase2 parameters file (bad magic)"
  | .version given => s!"unsupported parameters version {given}"
  | .truncated label => "unexpected end of data while reading " ++ label
  | .trailing => "trailing data after parameters"
  | .keyLength index => s!"contribution {index}: expected 384 bytes"
  | .point error => error.message
  | .transcript index => s!"contribution {index}: transcript hash mismatch"
  | .lastDelta => "last contribution does not match delta_g1"
  | .unitDelta => "uncontributed parameters must have delta = 1"

/-- The 384 bytes of a key. -/
def PublicKey.encode (key : PublicKey) : Except PointError Bytes := do
  let deltaAfter ← Curve.encode1 key.deltaAfter
  let s ← Curve.encode1 key.s
  let sDelta ← Curve.encode1 key.sDelta
  let rDelta ← Curve.encode2 key.rDelta
  return deltaAfter ++ s ++ sDelta ++ rDelta ++ key.transcript.bytes

/-- The absorber with the bytes of some keys absorbed in order. -/
def absorbKeys (absorber : Blake2b.Absorber) : List PublicKey →
    Except PointError Blake2b.Absorber
  | [] => .ok absorber
  | key :: rest => do absorbKeys (absorber.absorb (← key.encode)) rest

/-- The hash that binds a key with the given points to the circuit and to the earlier keys. -/
def transcriptDigest (circuitHash : Digest 64) (previous : List PublicKey) (s sDelta : Curve.G1) :
    Except PointError (Digest 64) := do
  let absorber ← absorbKeys (Blake2b.Absorber.empty.absorb circuitHash.bytes) previous
  let absorber := absorber.absorb (← Curve.encode1 s)
  let absorber := absorber.absorb (← Curve.encode1 sDelta)
  return absorber.digest

/-- The fingerprint of a contribution: the hash of its key. -/
def PublicKey.fingerprint (key : PublicKey) : Except PointError (Digest 64) :=
  key.encode.map blake2b

/-- The hash of the circuit of parameters for dry runs. -/
def referenceCircuit : Digest 64 := blake2b (Utf8.encode "mpc-beacon reference circuit")

namespace Parameters

/-- A query point derived from the circuit hash, the name of the query and a number. -/
def derivedPoint (circuitHash : Digest 64) (label : String) (index : Nat) : Curve.G1 :=
  let digest := sha256 (circuitHash.bytes ++ Utf8.encode label ++ Bytes.ofNatBE 4 index)
  let scalar := digest.bytes.toNatBE % groupOrder
  Curve.generator1.multiply (if scalar = 0 then 1 else scalar)

/-- The state that nobody has contributed to, with queries of the given sizes. -/
def initial (hSize lSize : Nat) (circuitHash : Digest 64) : Parameters where
  circuitHash := circuitHash
  delta1 := Curve.generator1
  delta2 := Curve.generator2
  h := (List.range hSize).map (derivedPoint circuitHash "h")
  l := (List.range lSize).map (derivedPoint circuitHash "l")
  contributions := []

/-- The state that nobody has contributed to, for a request that may be wrong. -/
def new (hSize lSize : Int) (circuitHash? : Option Bytes) : Except FormatError Parameters :=
  if hSize < 0 ∨ lSize < 0 then .error .querySize
  else
    match circuitHash? with
    | none => .ok (initial hSize.toNat lSize.toNat referenceCircuit)
    | some bytes =>
      match Digest.ofBytes? 64 bytes with
      | some circuitHash => .ok (initial hSize.toNat lSize.toNat circuitHash)
      | none => .error .circuitHashLength

/-- Checks the transcript hashes of the keys that follow `previous`. -/
def checkTranscripts (circuitHash : Digest 64) (previous : List PublicKey) :
    List PublicKey → Except FormatError Unit
  | [] => .ok ()
  | key :: rest => do
    let expected ← (transcriptDigest circuitHash previous key.s key.sDelta).mapError .point
    if key.transcript = expected then checkTranscripts circuitHash (previous ++ [key]) rest
    else .error (.transcript previous.length)

/-- Checks that the keys and the products belong together. -/
def check (parameters : Parameters) : Except FormatError Unit := do
  checkTranscripts parameters.circuitHash [] parameters.contributions
  match parameters.contributions.getLast? with
  | some key => if key.deltaAfter.same parameters.delta1 then .ok () else .error .lastDelta
  | none =>
    if parameters.delta1.same Curve.generator1 && parameters.delta2.same Curve.generator2 then
      .ok ()
    else .error .unitDelta

/-- The fingerprints of all contributions, oldest first. -/
def fingerprints (parameters : Parameters) : Except PointError (List (Digest 64)) :=
  parameters.contributions.mapM PublicKey.fingerprint

end Parameters
end Phase2
end BeaconCeremony

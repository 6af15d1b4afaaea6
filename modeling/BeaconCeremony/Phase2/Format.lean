import BeaconCeremony.Phase2.Basic
import BeaconCeremony.Stream.Decoder

/-!
# The file format of phase-two parameters

A file holds the name and the version of the format, the circuit hash, the two products, the two
queries with their sizes, and the keys with their number.  Every part has a fixed length or a count
in front, and the file ends with the last key.
-/

namespace BeaconCeremony
namespace Phase2

/-- The name of the format, with which every file starts. -/
def magic : Bytes := Utf8.encode "mpc-bn254-phase2"

/-- The version of the format. -/
def formatVersion : Nat := 1

/-- Reads the part with the given label, of exactly `count` bytes. -/
def part (count : Nat) (label : String) : Decoder FormatError Bytes :=
  Decoder.take count (.truncated label)

/-- Reads a number of four bytes, most significant first. -/
def word (label : String) : Decoder FormatError Nat := do
  return Bytes.toNatBE (← part 4 label)

/-- Reads a point of the first group. -/
def point1 (verify : Bool) (label : String) : Decoder FormatError Curve.G1 := do
  Decoder.ofExcept ((Curve.decode1 label verify (← part 64 label)).mapError .point)

/-- Reads a point of the second group. -/
def point2 (verify : Bool) (label : String) : Decoder FormatError Curve.G2 := do
  Decoder.ofExcept ((Curve.decode2 label verify (← part 128 label)).mapError .point)

/-- Reads a query: its size and its points. -/
def query (verify : Bool) (name : String) : Decoder FormatError (List Curve.G1) := do
  let count ← word (name ++ " length")
  Decoder.items (fun index => point1 verify (name ++ s!"[{index}]")) 0 count

/-- The key that 384 bytes stand for. -/
def PublicKey.decode (verify : Bool) (index : Nat) (bytes : Bytes) :
    Except FormatError PublicKey := do
  if bytes.length ≠ 384 then throw (.keyLength index)
  let label (name : String) := s!"contribution {index} " ++ name
  let first (name : String) (start : Nat) : Except FormatError Curve.G1 :=
    (Curve.decode1 (label name) verify ((bytes.drop start).take 64)).mapError .point
  let deltaAfter ← first "delta_after" 0
  let s ← first "s" 64
  let sDelta ← first "s_delta" 128
  let rDelta ←
    (Curve.decode2 (label "r_delta") verify ((bytes.drop 192).take 128)).mapError .point
  match Digest.ofBytes? 64 (bytes.drop 320) with
  | some transcript => return ⟨deltaAfter, s, sDelta, rDelta, transcript⟩
  | none => throw (.keyLength index)

/-- Reads a key. -/
def publicKey (verify : Bool) (index : Nat) : Decoder FormatError PublicKey := do
  Decoder.ofExcept (PublicKey.decode verify index (← part 384 s!"contribution {index}"))

/-- Goes on only if a condition holds. -/
def require (condition : Bool) (error : FormatError) : Decoder FormatError Unit :=
  Decoder.ofExcept (if condition then .ok () else .error error)

/-- Reads a circuit hash. -/
def circuitHash : Decoder FormatError (Digest 64) := do
  match Digest.ofBytes? 64 (← part 64 "cs_hash") with
  | some digest => return digest
  | none => Decoder.ofExcept (.error .circuitHashLength)

/-- Reads parameters up to the end of the bytes.  With `verify` every point must lie on its curve
and in its group, and the keys must belong to the rest. -/
def decoder (verify : Bool) : Decoder FormatError Parameters := do
  require ((← part 16 "magic") == magic) .badMagic
  let version ← word "version"
  require (version == formatVersion) (.version version)
  let circuitHash ← circuitHash
  let delta1 ← point1 verify "delta_g1"
  let delta2 ← point2 verify "delta_g2"
  let h ← query verify "h"
  let l ← query verify "l"
  let count ← word "contribution count"
  let contributions ← Decoder.items (publicKey verify) 0 count
  let ended ← Decoder.atEnd fun ended => pure ended
  require ended .trailing
  let parameters : Parameters := ⟨circuitHash, delta1, delta2, h, l, contributions⟩
  if verify then Decoder.ofExcept parameters.check
  return parameters

namespace Parameters

/-- The parameters that a whole file stands for. -/
def ofBytes (verify : Bool) (bytes : Bytes) : Except FormatError Parameters :=
  ((decoder verify).parse bytes).map (·.1)

/-- Reads parameters from a source. -/
def read {m : Type → Type} [Monad m] (verify : Bool) (source : Source m) :
    m (Except Failure Parameters) :=
  (decoder verify).run (fun error => .value error.message) source

/-- The parts of a file in the order in which they are written; the parts before a point that has no
written form are written all the same. -/
def parts (parameters : Parameters) : List (Except PointError Bytes) :=
  [.ok magic, .ok (Bytes.ofNatBE 4 formatVersion), .ok parameters.circuitHash.bytes,
    Curve.encode1 parameters.delta1, Curve.encode2 parameters.delta2] ++
  [.ok (Bytes.ofNatBE 4 parameters.h.length)] ++ parameters.h.map Curve.encode1 ++
  [.ok (Bytes.ofNatBE 4 parameters.l.length)] ++ parameters.l.map Curve.encode1 ++
  [.ok (Bytes.ofNatBE 4 parameters.contributions.length)] ++
  parameters.contributions.map PublicKey.encode

/-- The whole file. -/
def toBytes (parameters : Parameters) : Except PointError Bytes :=
  (parameters.parts.mapM id).map List.flatten

/-- Writes parts to a sink, up to the first one that has no written form. -/
def writeParts {m : Type → Type} [Monad m] (sink : Sink m) :
    List (Except PointError Bytes) → m (Except Failure Unit)
  | [] => pure (.ok ())
  | .error error :: _ => pure (.error (.value error.message))
  | .ok bytes :: rest => do
    match ← sink.write bytes with
    | .error failure => return .error failure
    | .ok () => writeParts sink rest

/-- Writes parameters to a sink. -/
def write {m : Type → Type} [Monad m] (parameters : Parameters) (sink : Sink m) :
    m (Except Failure Unit) :=
  writeParts sink parameters.parts

end Parameters
end Phase2
end BeaconCeremony

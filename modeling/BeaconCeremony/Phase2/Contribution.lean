import BeaconCeremony.Phase2.Format

/-!
# Contributing to phase-two parameters

A contribution draws a scalar `δ`, multiplies both products by it, divides every point of the
queries by it, and adds the key that proves knowledge of `δ`.  Each query is divided in one pass,
which also reports how far it has come.  What such a pass comes to is told by `scale` and
`progress`, and what a contribution makes of the parameters by `withKey`.
-/

namespace BeaconCeremony
namespace Phase2

/-- A scalar from one up to the group order. -/
def drawScalar (generator : Generator) : Option (Nat × Generator) :=
  (generator.draw? (groupOrder - 1)).map fun (value, generator) => (value + 1, generator)

/-- A point of the second group derived from a digest. -/
def hashToCurve (digest : Digest 32) : Option Curve.G2 :=
  (drawScalar (Generator.ofSeed (Seed.ofDigest digest))).map fun (scalar, _) =>
    Curve.generator2.multiply scalar

/-- Why a point cannot be derived from bytes. -/
inductive HashError
  | bytes (error : BytesError)
  /-- A search of the generator never ends. -/
  | stalled

/-- The text of the reason. -/
def HashError.message : HashError → String
  | .bytes error => error.message
  | .stalled => GeneratorError.stalled.message

/-- A point of the second group derived from the first 32 bytes of a hash. -/
def hashBytesToCurve (bytes : Bytes) : Except HashError Curve.G2 :=
  match Digest.ofBytes? 32 (bytes.take 32) with
  | none => .error (.bytes (.wrongLength "beacon digest" 32 (bytes.take 32).length))
  | some digest =>
    match hashToCurve digest with
    | some point => .ok point
    | none => .error .stalled

/-- The first 32 bytes of a digest of 64. -/
def firstHalf (digest : Digest 64) : Digest 32 where
  bytes := digest.bytes.take 32
  length_bytes := by simp [digest.length_bytes]

/-- The line that reports the progress on a query. -/
def progressLine (name : String) (position total : Nat) : String :=
  "contribution progress " ++ name ++ s!": {position}/{total}"

/-- The points times a scalar. -/
def scale (scalar : Nat) (points : List Curve.G1) : List Curve.G1 :=
  points.map fun point => point.multiply scalar

/-- Whether progress is reported after the point at a position of a query of `total` points: after
every `every` points and after the last one, but never if `every` is not positive. -/
def isReported (every : Int) (total position : Nat) : Bool :=
  0 < every && (position % every.toNat = 0 || position = total)

/-- The lines that report the progress on a query of `total` points. -/
def progress (name : String) (every : Int) (total : Nat) : List String :=
  ((List.range' 1 total).filter (isReported every total)).map fun position =>
    progressLine name position total

/-- A query that is being scaled. -/
structure Scaling where
  /-- The points that have been scaled. -/
  points : Array Curve.G1 := #[]
  /-- The lines that have reported the progress. -/
  log : Array String := #[]

/-- Scales the next point of a query of `total` points and reports the progress where it is due. -/
def Scaling.next (scalar : Nat) (name : String) (every : Int) (total : Nat) (scaling : Scaling)
    (point : Curve.G1) : Scaling :=
  let position := scaling.points.size + 1
  { points := scaling.points.push (point.multiply scalar)
    log :=
      if isReported every total position then
        scaling.log.push (progressLine name position total)
      else scaling.log }

/-- Scales the points of a query one after the other. -/
def scaleQuery (scalar : Nat) (name : String) (every : Int) (points : List Curve.G1) : Scaling :=
  points.foldl (Scaling.next scalar name every points.length) {}

/-- Why a contribution has no fingerprint. -/
inductive ContributionFault
  /-- A search of the generator never ends. -/
  | stalled
  | point (error : PointError)
deriving DecidableEq

/-- The text of the reason. -/
def ContributionFault.message : ContributionFault → String
  | .stalled => GeneratorError.stalled.message
  | .point error => error.message

/-- What a contribution leaves behind. -/
structure Contribution where
  /-- The fingerprint. -/
  result : Except ContributionFault (Digest 64)
  /-- The parameters afterwards. -/
  parameters : Parameters
  /-- The generator afterwards. -/
  generator : Generator
  /-- The lines that reported the progress. -/
  log : List String

namespace Parameters

/-- The parameters with one more contribution, given its scalar `δ` and its key. -/
def withKey (parameters : Parameters) (delta : Nat) (key : PublicKey) : Parameters :=
  let inverse := inverseModulo groupOrder delta
  { parameters with
    delta1 := key.deltaAfter
    delta2 := parameters.delta2.multiply delta
    h := scale inverse parameters.h
    l := scale inverse parameters.l
    contributions := parameters.contributions ++ [key] }

/-- Contributes with randomness from a generator.  The tag is the number of points after which
progress is reported; zero or less means never.  Nothing is changed before the transcript of the
key is known; a fault after that leaves the parameters with the contribution. -/
def contribute (parameters : Parameters) (generator : Generator) (tag : Int) : Contribution :=
  match drawScalar generator with
  | none => ⟨.error .stalled, parameters, generator, []⟩
  | some (delta, generator) =>
    match drawScalar generator with
    | none => ⟨.error .stalled, parameters, generator, []⟩
    | some (scalar, generator) =>
      let s := Curve.generator1.multiply scalar
      let sDelta := s.multiply delta
      match transcriptDigest parameters.circuitHash parameters.contributions s sDelta with
      | .error error => ⟨.error (.point error), parameters, generator, []⟩
      | .ok transcript =>
        match hashToCurve (firstHalf transcript) with
        | none => ⟨.error .stalled, parameters, generator, []⟩
        | some r =>
          let key : PublicKey :=
            { deltaAfter := parameters.delta1.multiply delta
              s := s
              sDelta := sDelta
              rDelta := r.multiply delta
              transcript := transcript }
          let inverse := inverseModulo groupOrder delta
          let h := scaleQuery inverse "h" tag parameters.h
          let l := scaleQuery inverse "l" tag parameters.l
          { result := key.fingerprint.mapError .point
            parameters :=
              { parameters with
                delta1 := key.deltaAfter
                delta2 := parameters.delta2.multiply delta
                h := h.points.toList
                l := l.points.toList
                contributions := parameters.contributions ++ [key] }
            generator := generator
            log := h.log.toList ++ l.log.toList }

end Parameters
end Phase2
end BeaconCeremony

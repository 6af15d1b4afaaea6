import BeaconCeremony.Bytes.Basic
import BeaconCeremony.Curve.Point

/-!
# Points as bytes

A point is written as its affine coordinates, each in 32 bytes with the most significant first; of
an element of the quadratic extension the coefficient of `i` comes first.  The point at infinity
has no such form.
-/

namespace BeaconCeremony

/-- Why a point has no written form or bytes stand for no point. -/
inductive PointError
  | infinity1
  | infinity2
  | length (label : String) (expected given : Nat)
  | coordinate (label : String)
  | offCurve (label : String)
  | offTwist (label : String)
  | offSubgroup (label : String)
deriving DecidableEq

/-- The text of an error; points read are called by their label. -/
def PointError.message : PointError → String
  | .infinity1 => "cannot encode the G1 point at infinity"
  | .infinity2 => "cannot encode the G2 point at infinity"
  | .length label expected given => label ++ s!": expected {expected} bytes, got {given}"
  | .coordinate label => label ++ ": coordinate not in the base field"
  | .offCurve label => label ++ ": not on the BN254 G1 curve"
  | .offTwist label => label ++ ": not on the BN254 G2 twist"
  | .offSubgroup label => label ++ ": not in the prime-order G2 subgroup"

namespace Curve

/-- The 32 bytes of a coordinate. -/
def encodeCoordinate (element : BaseField) : Bytes := Bytes.ofNatBE 32 element.val

/-- The 64 bytes of a point of the first group. -/
def encode1 (point : G1) : Except PointError Bytes :=
  if point.isInfinity then .error .infinity1
  else
    let (x, y) := point.affine
    .ok (encodeCoordinate x ++ encodeCoordinate y)

/-- The 128 bytes of a point of the second group. -/
def encode2 (point : G2) : Except PointError Bytes :=
  if point.isInfinity then .error .infinity2
  else
    let (x, y) := point.affine
    .ok (encodeCoordinate x.im ++ encodeCoordinate x.re ++ encodeCoordinate y.im ++
      encodeCoordinate y.re)

/-- The coordinate written by 32 bytes, which must be its least representative. -/
def decodeCoordinate (label : String) (bytes : Bytes) : Except PointError BaseField :=
  let value := bytes.toNatBE
  if small : value < fieldPrime then .ok ⟨value, small⟩ else .error (.coordinate label)

/-- The coordinates written one after the other. -/
def decodeCoordinates (label : String) : Nat → Bytes → Except PointError (List BaseField)
  | 0, _ => .ok []
  | count + 1, bytes => do
    let element ← decodeCoordinate label (bytes.take 32)
    let more ← decodeCoordinates label count (bytes.drop 32)
    return element :: more

/-- The point of the first group that 64 bytes stand for; with `verify` it must lie on the
curve. -/
def decode1 (label : String) (verify : Bool) (bytes : Bytes) : Except PointError G1 := do
  if bytes.length ≠ 64 then throw (.length label 64 bytes.length)
  match ← decodeCoordinates label 2 bytes with
  | [x, y] =>
    let point := Point.ofAffine x y
    if verify && !point.onCurve constant then throw (.offCurve label)
    return point
  | _ => throw (.length label 64 bytes.length)

/-- Whether a point has an order that divides the group order. -/
def inSubgroup (point : G2) : Bool := (point.multiply groupOrder).isInfinity

/-- The point of the second group that 128 bytes stand for; with `verify` it must lie on the twist
and have prime order. -/
def decode2 (label : String) (verify : Bool) (bytes : Bytes) : Except PointError G2 := do
  if bytes.length ≠ 128 then throw (.length label 128 bytes.length)
  match ← decodeCoordinates label 4 bytes with
  | [x1, x0, y1, y0] =>
    let point := Point.ofAffine (⟨x0, x1⟩ : QuadraticField) ⟨y0, y1⟩
    if verify then
      if !point.onCurve twistConstant then throw (.offTwist label)
      if !inSubgroup point then throw (.offSubgroup label)
    return point
  | _ => throw (.length label 128 bytes.length)

end Curve
end BeaconCeremony

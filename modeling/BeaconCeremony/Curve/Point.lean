import BeaconCeremony.Curve.Field

/-!
# Points of a curve in projective coordinates

Points of a curve `y² = x³ + b` as triples `(x, y, z)` that stand for `(x / z, y / z)`; a triple
with `z = 0` stands for the point at infinity.  The addition formulas do not depend on `b`, so they
also apply to points of other curves of this shape.
-/

namespace BeaconCeremony

/-- A point in projective coordinates. -/
structure Point (F : Type) where
  /-- First coordinate. -/
  x : F
  /-- Second coordinate. -/
  y : F
  /-- Common denominator. -/
  z : F
deriving DecidableEq

namespace Point

variable {F : Type} [CoordinateField F]

/-- The point at infinity. -/
def infinity : Point F := ⟨1, 1, 0⟩

/-- The point with the given affine coordinates. -/
def ofAffine (x y : F) : Point F := ⟨x, y, 1⟩

/-- Whether the triple stands for the point at infinity. -/
def isInfinity (point : Point F) : Bool := decide (point.z = 0)

/-- Whether two triples stand for the same point. -/
def same (left right : Point F) : Bool :=
  decide (left.x * right.z = right.x * left.z) && decide (left.y * right.z = right.y * left.z)

/-- Whether the point lies on the curve with the given constant term. -/
def onCurve (point : Point F) (constant : F) : Bool :=
  point.isInfinity ||
    decide (point.y * point.y * point.z - point.x * point.x * point.x =
      constant * (point.z * point.z * point.z))

/-- Twice an element of the field. -/
def twice (element : F) : F := element + element

/-- The sum of a point with itself. -/
def double (point : Point F) : Point F :=
  let square := point.x * point.x
  let slope := twice square + square
  let product := point.y * point.z
  let mixed := point.x * point.y * product
  let height := slope * slope - twice (twice (twice mixed))
  let productSquare := product * product
  { x := twice (height * product)
    y := slope * (twice (twice mixed) - height) -
      twice (twice (twice (point.y * point.y * productSquare)))
    z := twice (twice (twice (product * productSquare))) }

/-- The sum of two points. -/
def add (left right : Point F) : Point F :=
  if right.isInfinity then left
  else if left.isInfinity then right
  else
    let rightY := right.y * left.z
    let leftY := left.y * right.z
    let rightX := right.x * left.z
    let leftX := left.x * right.z
    if rightX = leftX then
      if rightY = leftY then left.double else infinity
    else
      let rise := rightY - leftY
      let run := rightX - leftX
      let runSquare := run * run
      let scaled := runSquare * leftX
      let runCube := run * runSquare
      let denominator := left.z * right.z
      let height := rise * rise * denominator - runCube - twice scaled
      { x := run * height
        y := rise * (scaled - height) - runCube * leftY
        z := runCube * denominator }

/-- A multiple of a point, by repeated doubling. -/
def multiply (point : Point F) (scalar : Nat) : Point F :=
  if scalar = 0 then infinity
  else if scalar = 1 then point
  else
    let even := multiply point.double (scalar / 2)
    if scalar % 2 = 0 then even else even.add point
termination_by scalar
decreasing_by omega

/-- The affine coordinates of a point that is not at infinity. -/
def affine (point : Point F) : F × F :=
  let scale := point.z⁻¹
  (point.x * scale, point.y * scale)

end Point

namespace Curve

/-- A point with coordinates in the base field. -/
abbrev G1 := Point BaseField

/-- A point with coordinates in the quadratic extension. -/
abbrev G2 := Point QuadraticField

/-- The constant term of the curve over the base field. -/
def constant : BaseField := 3

/-- The constant term of the twist over the quadratic extension: `3 / (9 + i)`. -/
def twistConstant : QuadraticField where
  re := 19485874751759354771024239261021720505790618469301721065564631296452457478373
  im := 266929791119991161246907387137283842545076965332900288569378510910307636690

/-- The generator of the points over the base field. -/
def generator1 : G1 := Point.ofAffine 1 2

/-- The generator of the points of prime order on the twist. -/
def generator2 : G2 :=
  Point.ofAffine
    { re := 10857046999023057135944570762232829481370756359578518086990519993285655852781
      im := 11559732032986387107991004021392285783925812861821192530917403151452391805634 }
    { re := 8495653923123431417604973247489272438418190587263600148770280649306958101930
      im := 4082367875863433681332203403145435568316851327593401208105741076214120093531 }

end Curve
end BeaconCeremony

/-!
# The coordinate fields of BN254

The base field has a prime number of elements, which are kept as their least representatives.  Its
quadratic extension adjoins a root `i` of `i * i = -1`.
-/

namespace BeaconCeremony

/-- The number of elements of the base field. -/
def fieldPrime : Nat :=
  21888242871839275222246405745257275088696311157297823662689037894645226208583

/-- The prime order of the groups of points. -/
def groupOrder : Nat :=
  21888242871839275222246405745257275088548364400416034343698204186575808495617

theorem fieldPrime_pos : 0 < fieldPrime := by decide

/-- A power with a remainder taken at every step. -/
def powerModulo (modulus base exponent : Nat) : Nat :=
  if exponent = 0 then 1 % modulus
  else
    let square := powerModulo modulus (base * base % modulus) (exponent / 2)
    if exponent % 2 = 1 then square * base % modulus else square
termination_by exponent
decreasing_by omega

/-- The inverse modulo a prime: the power that completes the one of Fermat's little theorem. -/
def inverseModulo (prime value : Nat) : Nat := powerModulo prime value (prime - 2)

/-- A field in which the coordinates of points are taken. -/
class CoordinateField (F : Type) extends Zero F, One F, Add F, Sub F, Mul F, Inv F where
  /-- Coordinates can be compared. -/
  decidableEq : DecidableEq F

instance {F : Type} [CoordinateField F] : DecidableEq F := CoordinateField.decidableEq

/-- An element of the base field, as its least representative. -/
abbrev BaseField := Fin fieldPrime

namespace BaseField

/-- The residue class of a number. -/
def ofNat (value : Nat) : BaseField := ⟨value % fieldPrime, Nat.mod_lt value fieldPrime_pos⟩

instance (value : Nat) : OfNat BaseField value := ⟨ofNat value⟩

instance : Zero BaseField := ⟨0⟩

instance : One BaseField := ⟨1⟩

/-- The inverse of an element; zero is its own inverse. -/
def inverse (element : BaseField) : BaseField :=
  ofNat (inverseModulo fieldPrime element.val)

end BaseField

instance : CoordinateField BaseField where
  inv := BaseField.inverse
  decidableEq := inferInstance

/-- An element `re + im * i` of the quadratic extension. -/
structure QuadraticField where
  /-- The part in the base field. -/
  re : BaseField
  /-- The coefficient of `i`. -/
  im : BaseField
deriving DecidableEq

namespace QuadraticField

instance : Zero QuadraticField := ⟨⟨0, 0⟩⟩

instance : One QuadraticField := ⟨⟨1, 0⟩⟩

instance : Add QuadraticField := ⟨fun left right => ⟨left.re + right.re, left.im + right.im⟩⟩

instance : Sub QuadraticField := ⟨fun left right => ⟨left.re - right.re, left.im - right.im⟩⟩

instance : Mul QuadraticField :=
  ⟨fun left right =>
    ⟨left.re * right.re - left.im * right.im, left.re * right.im + left.im * right.re⟩⟩

/-- The conjugate divided by the norm. -/
instance : Inv QuadraticField :=
  ⟨fun element =>
    let scale := (element.re * element.re + element.im * element.im).inverse
    ⟨element.re * scale, (0 - element.im) * scale⟩⟩

end QuadraticField

instance : CoordinateField QuadraticField where
  decidableEq := inferInstance

end BeaconCeremony

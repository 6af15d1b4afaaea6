import BeaconCeremony.Proofs.Curve.Encoding

/-!
# The bytes of points

A byte string is the written form of a point that passes all checks if it consists of coordinates
below the prime, each in 32 bytes, and these satisfy the equation of the curve; on the twist the
point must also have the order of the group.
-/

namespace BeaconCeremony
namespace Curve

/-- The bytes of a point of the curve `y² = x³ + 3` over the residue classes. -/
def IsPoint1 (bytes : Bytes) : Prop :=
  ∃ x y : Nat, x < fieldPrime ∧ y < fieldPrime ∧
    bytes = Bytes.ofNatBE 32 x ++ Bytes.ofNatBE 32 y ∧
    (y : PrimeField) ^ 2 = (x : PrimeField) ^ 3 + 3

/-- The bytes of a point of the twist `y² = x³ + 3 / (9 + i)` whose order divides that of the group;
of each coordinate the coefficient of `i` comes first. -/
def IsPoint2 (bytes : Bytes) : Prop :=
  ∃ x0 x1 y0 y1 : Nat, x0 < fieldPrime ∧ x1 < fieldPrime ∧ y0 < fieldPrime ∧ y1 < fieldPrime ∧
    bytes = Bytes.ofNatBE 32 x1 ++ Bytes.ofNatBE 32 x0 ++ Bytes.ofNatBE 32 y1 ++
      Bytes.ofNatBE 32 y0 ∧
    ∃ nonsingular : (shortCurve (3 / ⟨9, 1⟩ : ExtensionField)).Nonsingular ⟨x0, x1⟩ ⟨y0, y1⟩,
      groupOrder • WeierstrassCurve.Affine.Point.some _ _ nonsingular = 0

theorem constant1_eq : constant1 = 3 := by
  have value_eq : constant.val = 3 := by decide
  change (constant.val : PrimeField) = 3
  rw [value_eq]
  norm_cast

theorem constant2_eq : constant2 = 3 / ⟨9, 1⟩ := by
  have divisor_ne : (⟨9, 1⟩ : ExtensionField) ≠ 0 := by
    intro zero
    have im_zero := congrArg QuadraticAlgebra.im zero
    exact one_ne_zero im_zero
  have product_eq : twistConstant * ⟨9, 1⟩ = ⟨3, 0⟩ := by decide +kernel
  have divisor_eq : QuadraticField.interpretation ⟨9, 1⟩ = ⟨9, 1⟩ := rfl
  have numerator_eq : QuadraticField.interpretation ⟨3, 0⟩ = 3 := rfl
  rw [eq_div_iff divisor_ne, ← divisor_eq, ← Interpretation.map_mul, product_eq, numerator_eq]

/-- The points of the twist, whatever its constant term is called. -/
theorem regular2_iff_of_eq {term : ExtensionField} (term_eq : constant2 = term) {point : G2} :
    Regular2 point ↔ ∃ P : (shortCurve term).Point, P ≠ 0 ∧ groupOrder • P = 0 ∧
      QuadraticField.interpretation.Represents point P := by
  subst term_eq
  exact Iff.rfl

theorem isPoint1_iff {bytes : Bytes} :
    IsPoint1 bytes ↔ ∃ point, Regular1 point ∧ written1 point = bytes := by
  constructor
  · rintro ⟨x, y, x_lt, y_lt, bytes_eq, equation⟩
    let point : G1 := Point.ofAffine ⟨x, x_lt⟩ ⟨y, y_lt⟩
    have onCurve : point.onCurve constant = true := by
      refine (Interpretation.onCurve_ofAffine constant1_eq).mpr ?_
      exact equation_shortCurve.mpr equation
    refine ⟨point, regular1_ofAffine onCurve, ?_⟩
    rw [bytes_eq]
    exact written1_ofAffine _ _
  · rintro ⟨point, ⟨P, P_ne, represents⟩, rfl⟩
    cases P with
    | zero => exact absurd rfl P_ne
    | some x y nonsingular =>
        obtain ⟨x_eq, y_eq⟩ := represents.affine_eq
        have equation := equation_shortCurve.mp nonsingular.1
        rw [constant1_eq, ← x_eq, ← y_eq] at equation
        exact ⟨_, _, point.affine.1.isLt, point.affine.2.isLt, rfl, equation⟩

theorem isPoint2_iff {bytes : Bytes} :
    IsPoint2 bytes ↔ ∃ point, Regular2 point ∧ written2 point = bytes := by
  simp only [regular2_iff_of_eq constant2_eq]
  constructor
  · rintro ⟨x0, x1, y0, y1, x0_lt, x1_lt, y0_lt, y1_lt, bytes_eq, nonsingular, order_eq⟩
    let point : G2 := Point.ofAffine ⟨⟨x0, x0_lt⟩, ⟨x1, x1_lt⟩⟩ ⟨⟨y0, y0_lt⟩, ⟨y1, y1_lt⟩⟩
    have represents : QuadraticField.interpretation.Represents point (.some _ _ nonsingular) :=
      Interpretation.represents_ofAffine nonsingular
    refine ⟨point, ⟨_, WeierstrassCurve.Affine.Point.some_ne_zero nonsingular, order_eq,
      represents⟩, ?_⟩
    rw [bytes_eq]
    exact written2_ofAffine _ _
  · rintro ⟨point, ⟨P, P_ne, order_eq, represents⟩, rfl⟩
    cases P with
    | zero => exact absurd rfl P_ne
    | some x y nonsingular =>
        obtain ⟨rfl, rfl⟩ := represents.affine_eq
        exact ⟨point.affine.1.re.val, point.affine.1.im.val, point.affine.2.re.val,
          point.affine.2.im.val, point.affine.1.re.isLt, point.affine.1.im.isLt,
          point.affine.2.re.isLt, point.affine.2.im.isLt, rfl, nonsingular, order_eq⟩

theorem encodeCoordinate_injective : Function.Injective encodeCoordinate := by
  intro left right same
  have left_read := decodeCoordinate_encodeCoordinate "" left
  rw [same, decodeCoordinate_encodeCoordinate] at left_read
  exact (Except.ok.inj left_read).symm

theorem encodeCoordinate_append_inj {left right : BaseField} {left_rest right_rest : Bytes} :
    encodeCoordinate left ++ left_rest = encodeCoordinate right ++ right_rest ↔
      left = right ∧ left_rest = right_rest := by
  constructor
  · intro same
    obtain ⟨first, rest⟩ := List.append_inj same (by simp)
    exact ⟨encodeCoordinate_injective first, rest⟩
  · rintro ⟨rfl, rfl⟩
    rfl

/-- Points are the same exactly if they are written in the same way. -/
theorem same_iff_written1 {left right : G1} (left_ne : left.z ≠ 0) (right_ne : right.z ≠ 0) :
    left.same right = true ↔ written1 left = written1 right := by
  rw [BaseField.interpretation.same_iff left_ne right_ne, written1, written1,
    encodeCoordinate_append_inj, encodeCoordinate_injective.eq_iff, Prod.ext_iff]

theorem same_iff_written2 {left right : G2} (left_ne : left.z ≠ 0) (right_ne : right.z ≠ 0) :
    left.same right = true ↔ written2 left = written2 right := by
  have ext_iff (left right : QuadraticField) :
      left = right ↔ left.im = right.im ∧ left.re = right.re := by
    cases left
    cases right
    simp [and_comm]
  rw [QuadraticField.interpretation.same_iff left_ne right_ne, Prod.ext_iff, ext_iff, ext_iff]
  simp only [written2, List.append_assoc, encodeCoordinate_append_inj,
    encodeCoordinate_injective.eq_iff, and_assoc]

end Curve
end BeaconCeremony

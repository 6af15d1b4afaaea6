import BeaconCeremony.Curve.Encoding
import BeaconCeremony.Proofs.Curve.Field
import Mathlib.AlgebraicGeometry.EllipticCurve.Affine.Point
import Mathlib.Tactic.FieldSimp
import Mathlib.Tactic.LinearCombination

/-!
# Projective points form the group of a curve

A triple of coordinates stands for a point of a curve `y² = x³ + b` over the field that the
coordinates are read in.  The operations on triples are the operations of the group of the curve.
-/

namespace BeaconCeremony

open WeierstrassCurve.Affine (slope_of_X_ne slope_of_Y_ne Y_eq_of_X_eq)

/-- The curve `y² = x³ + b`. -/
@[simps]
def shortCurve {K : Type} [Field K] (constant : K) : WeierstrassCurve.Affine K where
  a₁ := 0
  a₂ := 0
  a₃ := 0
  a₄ := 0
  a₆ := constant

section Curve

variable {K : Type} [Field K] {constant : K} {x y : K}

theorem equation_shortCurve : (shortCurve constant).Equation x y ↔ y ^ 2 = x ^ 3 + constant := by
  simp [WeierstrassCurve.Affine.equation_iff]

@[simp]
theorem negY_shortCurve : (shortCurve constant).negY x y = -y := by
  simp [WeierstrassCurve.Affine.negY]

@[simp]
theorem addX_shortCurve (other slope : K) :
    (shortCurve constant).addX x other slope = slope ^ 2 - x - other := by
  simp [WeierstrassCurve.Affine.addX]

@[simp]
theorem addY_shortCurve (other slope : K) : (shortCurve constant).addY x other y slope =
    slope * (x - (slope ^ 2 - x - other)) - y := by
  simp only [WeierstrassCurve.Affine.addY, WeierstrassCurve.Affine.negAddY, addX_shortCurve,
    negY_shortCurve]
  ring

end Curve

namespace Interpretation

variable {F K : Type} [CoordinateField F] [Field K] (reading : Interpretation F K) {constant : K}

/-- A triple that stands for a point of a curve. -/
inductive Represents (point : Point F) : (shortCurve constant).Point → Prop
  /-- Without a third coordinate it is the point at infinity. -/
  | infinity (z_eq : point.z = 0) : Represents point 0
  /-- Otherwise the third coordinate is a common denominator. -/
  | affine {x y : K} (nonsingular : (shortCurve constant).Nonsingular x y) (z_ne : point.z ≠ 0)
      (x_eq : reading point.x = x * reading point.z)
      (y_eq : reading point.y = y * reading point.z) : Represents point (.some x y nonsingular)

variable {reading} {left right point : Point F} {P Q : (shortCurve constant).Point}

theorem Represents.isInfinity_iff (represents : reading.Represents point P) :
    point.isInfinity = true ↔ P = 0 := by
  rw [Point.isInfinity, decide_eq_true_iff]
  cases represents with
  | infinity z_eq => exact iff_of_true z_eq rfl
  | affine nonsingular z_ne x_eq y_eq =>
      exact iff_of_false z_ne (WeierstrassCurve.Affine.Point.some_ne_zero nonsingular)

@[simp]
theorem map_twice (element : F) : reading (Point.twice element) = 2 * reading element := by
  rw [Point.twice, map_add, two_mul]

theorem represents_infinity : reading.Represents Point.infinity (0 : (shortCurve constant).Point) :=
  .infinity rfl

theorem represents_ofAffine {x y : F}
    (nonsingular : (shortCurve constant).Nonsingular (reading x) (reading y)) :
    reading.Represents (Point.ofAffine x y) (.some _ _ nonsingular) := by
  refine .affine nonsingular reading.one_ne_zero ?_ ?_
  · simp [Point.ofAffine]
  · simp [Point.ofAffine]

section Affine

variable {x y u v : K} {left_nonsingular : (shortCurve constant).Nonsingular x y}
  {right_nonsingular : (shortCurve constant).Nonsingular u v}

theorem Represents.not_isInfinity
    (represents : reading.Represents point (.some x y left_nonsingular)) :
    ¬point.isInfinity = true :=
  mt represents.isInfinity_iff.mp (WeierstrassCurve.Affine.Point.some_ne_zero left_nonsingular)

theorem cross_iff {leftValue rightValue leftZ rightZ : F} (leftZ_ne : leftZ ≠ 0)
    (rightZ_ne : rightZ ≠ 0) (left_eq : reading leftValue = x * reading leftZ)
    (right_eq : reading rightValue = u * reading rightZ) :
    rightValue * leftZ = leftValue * rightZ ↔ u = x := by
  rw [← reading.eq_iff, map_mul, map_mul, left_eq, right_eq, mul_right_comm x,
    mul_left_inj' (mt reading.eq_zero_iff.mp leftZ_ne),
    mul_left_inj' (mt reading.eq_zero_iff.mp rightZ_ne)]

theorem Represents.cross_x_iff
    (left_represents : reading.Represents left (.some x y left_nonsingular))
    (right_represents : reading.Represents right (.some u v right_nonsingular)) :
    right.x * left.z = left.x * right.z ↔ u = x := by
  obtain _ | ⟨_, left_z_ne, left_x, _⟩ := left_represents
  obtain _ | ⟨_, right_z_ne, right_x, _⟩ := right_represents
  exact cross_iff left_z_ne right_z_ne left_x right_x

theorem Represents.cross_y_iff
    (left_represents : reading.Represents left (.some x y left_nonsingular))
    (right_represents : reading.Represents right (.some u v right_nonsingular)) :
    right.y * left.z = left.y * right.z ↔ v = y := by
  obtain _ | ⟨_, left_z_ne, _, left_y⟩ := left_represents
  obtain _ | ⟨_, right_z_ne, _, right_y⟩ := right_represents
  exact cross_iff left_z_ne right_z_ne left_y right_y

/-- The affine coordinates stand for those of the point. -/
theorem Represents.affine_eq
    (represents : reading.Represents point (.some x y left_nonsingular)) :
    reading point.affine.1 = x ∧ reading point.affine.2 = y := by
  cases represents with
  | affine _ z_ne x_eq y_eq =>
      have denominator_ne : reading point.z ≠ 0 := mt reading.eq_zero_iff.mp z_ne
      simp [Point.affine, x_eq, y_eq, denominator_ne]

end Affine

theorem onCurve_ofAffine {x y b : F} (b_eq : reading b = constant) :
    (Point.ofAffine x y).onCurve b = true ↔
      (shortCurve constant).Equation (reading x) (reading y) := by
  rw [equation_shortCurve, Point.onCurve, Point.isInfinity, Point.ofAffine, Bool.or_eq_true,
    decide_eq_true_iff, decide_eq_true_iff, or_iff_right reading.one_ne_zero, ← reading.eq_iff]
  simp only [map_sub, map_mul, map_one, b_eq]
  constructor
  · intro equation
    linear_combination equation
  · intro equation
    linear_combination equation

/-- Affine coordinates on the curve stand for a point other than the one at infinity. -/
theorem exists_represents_ofAffine {x y b : F} (discriminant_ne : (shortCurve (reading b)).Δ ≠ 0)
    (onCurve : (Point.ofAffine x y).onCurve b = true) :
    ∃ P : (shortCurve (reading b)).Point, P ≠ 0 ∧ reading.Represents (Point.ofAffine x y) P := by
  have equation : (shortCurve (reading b)).Equation (reading x) (reading y) :=
    (onCurve_ofAffine rfl).mp onCurve
  have nonsingular :=
    (WeierstrassCurve.Affine.equation_iff_nonsingular_of_Δ_ne_zero discriminant_ne).mp equation
  exact ⟨.some _ _ nonsingular, WeierstrassCurve.Affine.Point.some_ne_zero nonsingular,
    represents_ofAffine nonsingular⟩

variable [DecidableEq K]

theorem represents_double (two_ne : (2 : K) ≠ 0) (represents : reading.Represents point P) :
    reading.Represents point.double (P + P) := by
  cases represents with
  | infinity z_eq =>
      refine .infinity (reading.eq_zero_iff.mp ?_)
      simp [Point.double, z_eq]
  | @affine x y nonsingular z_ne x_eq y_eq =>
      have denominator_ne : reading point.z ≠ 0 := mt reading.eq_zero_iff.mp z_ne
      by_cases y_zero : y = 0
      · have tangent : y = (shortCurve constant).negY x y := by simp [y_zero]
        rw [WeierstrassCurve.Affine.Point.add_self_of_Y_eq tangent]
        refine .infinity (reading.eq_zero_iff.mp ?_)
        simp [Point.double, y_eq, y_zero]
      · have y_ne : y ≠ (shortCurve constant).negY x y := by
          rw [negY_shortCurve]
          intro same
          have double_zero : 2 * y = 0 := by linear_combination same
          exact y_zero ((mul_eq_zero.mp double_zero).resolve_left two_ne)
        have slope_eq : (shortCurve constant).slope x x y y = 3 * x ^ 2 / (2 * y) := by
          rw [slope_of_Y_ne rfl y_ne]
          simp only [negY_shortCurve, shortCurve_a₁, shortCurve_a₂, shortCurve_a₄]
          ring
        rw [WeierstrassCurve.Affine.Point.add_self_of_Y_ne y_ne]
        refine .affine _ ?_ ?_ ?_
        · rw [Ne, ← reading.eq_zero_iff]
          simp [Point.double, y_eq, y_zero, two_ne, denominator_ne]
        · rw [slope_eq, addX_shortCurve]
          simp only [Point.double, map_twice, map_add, map_sub, map_mul, x_eq, y_eq]
          field_simp
          ring
        · rw [slope_eq, addY_shortCurve]
          simp only [Point.double, map_twice, map_add, map_sub, map_mul, x_eq, y_eq]
          field_simp
          ring

section Chord

variable {x y u v : K} {left_nonsingular : (shortCurve constant).Nonsingular x y}
  {right_nonsingular : (shortCurve constant).Nonsingular u v}

theorem represents_add_of_x_eq (two_ne : (2 : K) ≠ 0) (x_eq : u = x)
    (left_represents : reading.Represents left (.some x y left_nonsingular))
    (right_represents : reading.Represents right (.some u v right_nonsingular)) :
    reading.Represents (left.add right)
      (.some x y left_nonsingular + .some u v right_nonsingular) := by
  subst x_eq
  have same_x := (left_represents.cross_x_iff right_represents).mpr rfl
  have same_y := left_represents.cross_y_iff right_represents
  rw [Point.add, if_neg right_represents.not_isInfinity, if_neg left_represents.not_isInfinity]
  simp only [same_x, same_y, if_true]
  by_cases y_eq : v = y
  · subst y_eq
    rw [if_pos rfl]
    exact represents_double two_ne left_represents
  · rw [if_neg y_eq]
    have opposite : y = (shortCurve constant).negY u v :=
      (Y_eq_of_X_eq left_nonsingular.1 right_nonsingular.1 rfl).resolve_left (Ne.symm y_eq)
    rw [WeierstrassCurve.Affine.Point.add_of_Y_eq rfl opposite]
    exact represents_infinity

theorem represents_add_of_x_ne (x_ne : u ≠ x)
    (left_represents : reading.Represents left (.some x y left_nonsingular))
    (right_represents : reading.Represents right (.some u v right_nonsingular)) :
    reading.Represents (left.add right)
      (.some x y left_nonsingular + .some u v right_nonsingular) := by
  have distinct_x := mt (left_represents.cross_x_iff right_represents).mp x_ne
  rw [Point.add, if_neg right_represents.not_isInfinity, if_neg left_represents.not_isInfinity]
  simp only [if_neg distinct_x]
  have run_ne : u - x ≠ 0 := sub_ne_zero.mpr x_ne
  have slope_eq : (shortCurve constant).slope x u y v = (v - y) / (u - x) := by
    rw [slope_of_X_ne (Ne.symm x_ne), ← neg_sub v, ← neg_sub u, neg_div_neg_eq]
  rw [WeierstrassCurve.Affine.Point.add_of_X_ne (Ne.symm x_ne)]
  cases left_represents with
  | affine _ left_z_ne left_x left_y =>
      cases right_represents with
      | affine _ right_z_ne right_x right_y =>
          have left_ne := mt reading.eq_zero_iff.mp left_z_ne
          have right_ne := mt reading.eq_zero_iff.mp right_z_ne
          refine .affine _ ?_ ?_ ?_
          · have run_eq : u * reading right.z * reading left.z - x * reading left.z *
                reading right.z = (u - x) * (reading left.z * reading right.z) := by ring
            rw [Ne, ← reading.eq_zero_iff]
            simp [left_x, right_x, run_eq, run_ne, left_ne, right_ne]
          · rw [slope_eq, addX_shortCurve]
            simp only [map_twice, map_sub, map_mul, left_x, left_y, right_x, right_y]
            field_simp
            ring
          · rw [slope_eq, addY_shortCurve]
            simp only [map_twice, map_sub, map_mul, left_x, left_y, right_x, right_y]
            field_simp
            ring

end Chord

theorem represents_add (two_ne : (2 : K) ≠ 0) (left_represents : reading.Represents left P)
    (right_represents : reading.Represents right Q) :
    reading.Represents (left.add right) (P + Q) := by
  cases Q with
  | zero =>
      rw [Point.add, if_pos (right_represents.isInfinity_iff.mpr rfl)]
      exact (add_zero P).symm ▸ left_represents
  | some u v right_nonsingular =>
      cases P with
      | zero =>
          rw [Point.add, if_neg right_represents.not_isInfinity,
            if_pos (left_represents.isInfinity_iff.mpr rfl)]
          exact (zero_add (WeierstrassCurve.Affine.Point.some u v right_nonsingular)).symm ▸
            right_represents
      | some x y left_nonsingular =>
          by_cases x_eq : u = x
          · exact represents_add_of_x_eq two_ne x_eq left_represents right_represents
          · exact represents_add_of_x_ne x_eq left_represents right_represents

theorem represents_multiply (two_ne : (2 : K) ≠ 0) (represents : reading.Represents point P)
    (scalar : Nat) : reading.Represents (point.multiply scalar) (scalar • P) := by
  induction point, scalar using Point.multiply.induct generalizing P with
  | case1 point =>
      rw [Point.multiply, if_pos rfl, zero_nsmul]
      exact represents_infinity
  | case2 point one_ne =>
      rw [Point.multiply, if_neg one_ne, if_pos rfl, one_nsmul]
      exact represents
  | case3 point scalar zero_ne one_ne even ih =>
      have half_eq : scalar • P = (scalar / 2) • (P + P) := by
        rw [← two_nsmul, ← mul_nsmul]
        congr 1
        omega
      rw [Point.multiply, if_neg zero_ne, if_neg one_ne, if_pos even, half_eq]
      exact ih (represents_double two_ne represents)
  | case4 point scalar zero_ne one_ne odd ih =>
      have half_eq : scalar • P = (scalar / 2) • (P + P) + P := by
        rw [← two_nsmul, ← mul_nsmul, ← succ_nsmul]
        congr 1
        omega
      rw [Point.multiply, if_neg zero_ne, if_neg one_ne, if_neg odd, half_eq]
      exact represents_add two_ne (ih (represents_double two_ne represents)) represents

end Interpretation
end BeaconCeremony

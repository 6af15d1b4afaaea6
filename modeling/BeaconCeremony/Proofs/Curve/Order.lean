import BeaconCeremony.Proofs.Curve.Group
import Mathlib.GroupTheory.Perm.Cycle.Type

/-!
# The orders of the two groups

The points over the base field form a group of prime order.  The generator has this order, a curve
has at most two points with the same first coordinate, and no point is its own opposite.  The points
of the twist that can be read are those of the subgroup of the same order.
-/

namespace BeaconCeremony

open WeierstrassCurve.Affine (Y_eq_of_X_eq)

theorem natCast_primeField_ne_zero {number : Nat} (positive : 0 < number)
    (small : number < fieldPrime) : (number : PrimeField) ≠ 0 := by
  rw [Ne, ZMod.natCast_eq_zero_iff]
  exact Nat.not_dvd_of_pos_of_lt positive small

theorem natCast_extensionField_ne_zero {number : Nat} (positive : 0 < number)
    (small : number < fieldPrime) : (number : ExtensionField) ≠ 0 := by
  intro zero
  have re_zero := congrArg QuadraticAlgebra.re zero
  rw [QuadraticAlgebra.re_natCast, QuadraticAlgebra.re_zero] at re_zero
  exact natCast_primeField_ne_zero positive small re_zero

theorem two_ne_zero_primeField : (2 : PrimeField) ≠ 0 :=
  natCast_primeField_ne_zero two_pos (by decide)

theorem two_ne_zero_extensionField : (2 : ExtensionField) ≠ 0 :=
  natCast_extensionField_ne_zero two_pos (by decide)

theorem discriminant_shortCurve {K : Type} [Field K] (constant : K) :
    (shortCurve constant).Δ = -(((432 : Nat) : K) * constant ^ 2) := by
  simp only [WeierstrassCurve.Δ, WeierstrassCurve.b₂, WeierstrassCurve.b₄, WeierstrassCurve.b₆,
    WeierstrassCurve.b₈, shortCurve]
  push_cast
  ring

namespace Curve

/-- The constant term of the curve over the residue classes. -/
abbrev constant1 : PrimeField := BaseField.interpretation constant

/-- The constant term of the twist over the quadratic extension. -/
abbrev constant2 : ExtensionField := QuadraticField.interpretation twistConstant

/-- The points of the curve. -/
abbrev Group1 := (shortCurve constant1).Point

/-- The points of the twist. -/
abbrev Group2 := (shortCurve constant2).Point

theorem discriminant1_ne_zero : (shortCurve constant1).Δ ≠ 0 := by
  have constant_ne : constant1 ≠ 0 := by
    rw [Ne, Interpretation.eq_zero_iff]
    decide
  rw [discriminant_shortCurve]
  exact neg_ne_zero.mpr (mul_ne_zero (natCast_primeField_ne_zero (by decide) (by decide))
    (pow_ne_zero 2 constant_ne))

theorem discriminant2_ne_zero : (shortCurve constant2).Δ ≠ 0 := by
  have constant_ne : constant2 ≠ 0 := by
    rw [Ne, Interpretation.eq_zero_iff]
    decide
  rw [discriminant_shortCurve]
  exact neg_ne_zero.mpr (mul_ne_zero (natCast_extensionField_ne_zero (by decide) (by decide))
    (pow_ne_zero 2 constant_ne))

/-- A point as its first coordinate and the parity of its second one. -/
def compress : Group1 → Option (PrimeField × Bool)
  | .zero => none
  | .some x y _ => some (x, decide (y.val % 2 = 1))

theorem eq_of_parity_eq {y other : PrimeField} (opposite : y = -other)
    (parity_eq : y.val % 2 = 1 ↔ other.val % 2 = 1) : y = other := by
  by_cases zero : other = 0
  · rw [opposite, zero, neg_zero]
  · have val_eq : y.val = fieldPrime - other.val := by
      rw [opposite, ZMod.neg_val, if_neg zero]
    have odd : fieldPrime % 2 = 1 := by decide
    have other_lt := ZMod.val_lt other
    omega

theorem compress_injective : Function.Injective compress := by
  intro left right same
  cases left with
  | zero =>
      cases right with
      | zero => rfl
      | some => contradiction
  | some x y left_nonsingular =>
      cases right with
      | zero => contradiction
      | some u v right_nonsingular =>
          simp only [compress, Option.some.injEq, Prod.mk.injEq, decide_eq_decide] at same
          obtain ⟨rfl, parity_eq⟩ := same
          have y_eq : y = v := by
            rcases Y_eq_of_X_eq left_nonsingular.1 right_nonsingular.1 rfl with same | opposite
            · exact same
            · rw [negY_shortCurve] at opposite
              exact eq_of_parity_eq opposite parity_eq
          subst y_eq
          rfl

instance : Finite Group1 := Finite.of_injective compress compress_injective

theorem card_group1_le : Nat.card Group1 ≤ 2 * fieldPrime + 1 := by
  have card_le := Nat.card_le_card_of_injective compress compress_injective
  have card_bool : Nat.card Bool = 2 := by simp
  rw [Finite.card_option, Nat.card_prod, Nat.card_zmod, card_bool] at card_le
  omega

/-- The constant term is not the opposite of a cube. -/
theorem cube_add_constant_ne_zero (x : PrimeField) : x ^ 3 + constant1 ≠ 0 := by
  intro zero
  have cube_eq : x ^ 3 = ((fieldPrime - 3 : Nat) : PrimeField) := by
    rw [eq_neg_of_add_eq_zero_left zero]
    rfl
  have x_ne : x ≠ 0 := by
    rintro rfl
    rw [zero_pow (by decide)] at cube_eq
    exact natCast_primeField_ne_zero (by decide) (by decide) cube_eq.symm
  have power_eq : (x ^ 3) ^ ((fieldPrime - 1) / 3) = 1 := by
    rw [← pow_mul]
    exact ZMod.pow_card_sub_one_eq_one x_ne
  rw [cube_eq, PrimalityWitness.natCast_pow_eq_one_iff prime_fieldPrime.one_lt] at power_eq
  exact absurd power_eq (by decide +kernel)

/-- No point is its own opposite but the one at infinity. -/
theorem eq_zero_of_add_self {P : Group1} (double_eq : P + P = 0) : P = 0 := by
  cases P with
  | zero => rfl
  | some x y nonsingular =>
      by_cases tangent : y = (shortCurve constant1).negY x y
      · have y_zero : y = 0 := by
          rw [negY_shortCurve] at tangent
          have double_zero : 2 * y = 0 := by linear_combination tangent
          exact (mul_eq_zero.mp double_zero).resolve_left two_ne_zero_primeField
        have equation := equation_shortCurve.mp nonsingular.1
        rw [y_zero, zero_pow two_ne_zero] at equation
        exact absurd equation.symm (cube_add_constant_ne_zero x)
      · rw [WeierstrassCurve.Affine.Point.add_self_of_Y_ne tangent] at double_eq
        exact absurd double_eq (WeierstrassCurve.Affine.Point.some_ne_zero _)

theorem exists_represents_generator1 :
    ∃ P : Group1, P ≠ 0 ∧ BaseField.interpretation.Represents generator1 P :=
  Interpretation.exists_represents_ofAffine discriminant1_ne_zero (by decide +kernel)

theorem groupOrder_dvd_card_group1 : groupOrder ∣ Nat.card Group1 := by
  obtain ⟨P, P_ne, represents⟩ := exists_represents_generator1
  have multiple := Interpretation.represents_multiply two_ne_zero_primeField represents groupOrder
  have multiple_eq : groupOrder • P = 0 := multiple.isInfinity_iff.mp (by decide +kernel)
  rw [← addOrderOf_eq_prime multiple_eq P_ne]
  exact addOrderOf_dvd_natCard P

/-- The points of the curve form a group of prime order. -/
theorem card_group1 : Nat.card Group1 = groupOrder := by
  -- The order divides the number of points, which is odd and less than three times the order.
  obtain ⟨factor, card_eq⟩ := groupOrder_dvd_card_group1
  have card_pos : 0 < Nat.card Group1 := Nat.card_pos
  have odd : ¬2 ∣ Nat.card Group1 := by
    intro even
    obtain ⟨P, order_eq⟩ := exists_prime_addOrderOf_dvd_card' 2 even
    have double_eq : P + P = 0 := by
      rw [← two_nsmul, ← order_eq]
      exact addOrderOf_nsmul_eq_zero P
    rw [eq_zero_of_add_self double_eq, addOrderOf_zero] at order_eq
    exact absurd order_eq (by decide)
  have card_le := card_group1_le
  have small : 2 * fieldPrime + 1 < groupOrder * 3 := by decide
  have factor_lt : factor < 3 := by
    by_contra large
    have := Nat.mul_le_mul_left groupOrder (Nat.le_of_not_lt large)
    omega
  interval_cases factor
  · omega
  · omega
  · exact absurd ⟨groupOrder, card_eq.trans (Nat.mul_comm groupOrder 2)⟩ odd

theorem groupOrder_nsmul (P : Group1) : groupOrder • P = 0 := by
  rw [← card_group1]
  exact card_nsmul_eq_zero'

/-- In a group a multiple of an element of prime order is zero only for multiples of the order. -/
theorem nsmul_ne_zero_of_prime {G : Type} [AddGroup G] {order scalar : Nat} [Fact order.Prime]
    {element : G} (order_eq : order • element = 0) (element_ne : element ≠ 0)
    (scalar_ne : ¬order ∣ scalar) : scalar • element ≠ 0 := by
  rwa [Ne, ← addOrderOf_dvd_iff_nsmul_eq_zero, addOrderOf_eq_prime order_eq element_ne]

/-- A triple that stands for a point of the first group other than the one at infinity. -/
def Regular1 (point : G1) : Prop :=
  ∃ P : Group1, P ≠ 0 ∧ BaseField.interpretation.Represents point P

/-- A triple that stands for a point of the second group, which has prime order, other than the one
at infinity. -/
def Regular2 (point : G2) : Prop :=
  ∃ P : Group2, P ≠ 0 ∧ groupOrder • P = 0 ∧ QuadraticField.interpretation.Represents point P

theorem regular1_multiply {point : G1} {scalar : Nat} (regular : Regular1 point)
    (scalar_ne : ¬groupOrder ∣ scalar) : Regular1 (point.multiply scalar) := by
  obtain ⟨P, P_ne, represents⟩ := regular
  exact ⟨scalar • P, nsmul_ne_zero_of_prime (groupOrder_nsmul P) P_ne scalar_ne,
    Interpretation.represents_multiply two_ne_zero_primeField represents scalar⟩

theorem regular2_multiply {point : G2} {scalar : Nat} (regular : Regular2 point)
    (scalar_ne : ¬groupOrder ∣ scalar) : Regular2 (point.multiply scalar) := by
  obtain ⟨P, P_ne, order_eq, represents⟩ := regular
  refine ⟨scalar • P, nsmul_ne_zero_of_prime order_eq P_ne scalar_ne, ?_,
    Interpretation.represents_multiply two_ne_zero_extensionField represents scalar⟩
  rw [smul_comm, order_eq, nsmul_zero]

/-- Affine coordinates on the curve are regular. -/
theorem regular1_ofAffine {x y : BaseField}
    (onCurve : (Point.ofAffine x y).onCurve constant = true) : Regular1 (Point.ofAffine x y) :=
  Interpretation.exists_represents_ofAffine discriminant1_ne_zero onCurve

/-- Affine coordinates on the twist that pass the test of the order are regular. -/
theorem regular2_ofAffine {x y : QuadraticField}
    (onCurve : (Point.ofAffine x y).onCurve twistConstant = true)
    (tested : inSubgroup (Point.ofAffine x y) = true) : Regular2 (Point.ofAffine x y) := by
  obtain ⟨P, P_ne, represents⟩ :=
    Interpretation.exists_represents_ofAffine discriminant2_ne_zero onCurve
  have multiple :=
    Interpretation.represents_multiply two_ne_zero_extensionField represents groupOrder
  exact ⟨P, P_ne, multiple.isInfinity_iff.mp tested, represents⟩

theorem regular1_generator1 : Regular1 generator1 := exists_represents_generator1

theorem regular2_generator2 : Regular2 generator2 :=
  regular2_ofAffine (by decide +kernel) (by decide +kernel)

end Curve
end BeaconCeremony

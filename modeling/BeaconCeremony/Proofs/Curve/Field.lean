import BeaconCeremony.Proofs.Number.Primality
import Mathlib.Algebra.QuadraticAlgebra.Basic
import Mathlib.FieldTheory.Finite.Basic
import Mathlib.NumberTheory.LegendreSymbol.Basic

/-!
# The coordinate fields are fields

Coordinates are least representatives and pairs of them.  Reading them as residue classes and as
elements of a quadratic extension turns the operations on coordinates into those of a field.
-/

namespace BeaconCeremony

/-- A reading of coordinates as elements of a field. -/
structure Interpretation (F K : Type) [CoordinateField F] [Field K] where
  /-- The element that a coordinate stands for. -/
  toFun : F → K
  /-- An element is written in one way. -/
  injective : Function.Injective toFun
  map_zero : toFun 0 = 0
  map_one : toFun 1 = 1
  map_add : ∀ left right, toFun (left + right) = toFun left + toFun right
  map_sub : ∀ left right, toFun (left - right) = toFun left - toFun right
  map_mul : ∀ left right, toFun (left * right) = toFun left * toFun right
  map_inv : ∀ element, toFun element⁻¹ = (toFun element)⁻¹

namespace Interpretation

variable {F K : Type} [CoordinateField F] [Field K]

instance : CoeFun (Interpretation F K) fun _ => F → K := ⟨toFun⟩

attribute [simp] map_zero map_one map_add map_sub map_mul map_inv

variable (reading : Interpretation F K)

@[simp]
theorem eq_iff {left right : F} : reading left = reading right ↔ left = right :=
  reading.injective.eq_iff

@[simp]
theorem eq_zero_iff {element : F} : reading element = 0 ↔ element = 0 := by
  rw [← reading.map_zero, eq_iff]

include reading in
theorem one_ne_zero : (1 : F) ≠ 0 := by
  rw [Ne, ← reading.eq_zero_iff, map_one]
  exact NeZero.ne 1

end Interpretation

/-- The base field as residue classes. -/
abbrev PrimeField := ZMod fieldPrime

namespace BaseField

theorem natCast_inverse (element : BaseField) :
    (element.inverse.val : PrimeField) = (element.val : PrimeField)⁻¹ := by
  have power_eq : (element.inverse.val : PrimeField) =
      (element.val : PrimeField) ^ (fieldPrime - 2) := by
    simp only [inverse, ofNat, inverseModulo, ZMod.natCast_mod, natCast_powerModulo]
  rw [power_eq]
  by_cases zero : (element.val : PrimeField) = 0
  · rw [zero, inv_zero]
    exact zero_pow (by decide)
  · refine eq_inv_of_mul_eq_one_left ?_
    rw [← pow_succ]
    exact ZMod.pow_card_sub_one_eq_one zero

/-- Least representatives stand for their residue classes. -/
def interpretation : Interpretation BaseField PrimeField where
  toFun element := element.val
  injective left right same := by
    have val_eq := congrArg ZMod.val same
    rw [ZMod.val_natCast_of_lt left.isLt, ZMod.val_natCast_of_lt right.isLt] at val_eq
    exact Fin.ext val_eq
  map_zero := Nat.cast_zero
  map_one := Nat.cast_one
  map_add left right := by
    rw [Fin.val_add, ZMod.natCast_mod, Nat.cast_add]
  map_sub left right := by
    rw [Fin.val_sub, ZMod.natCast_mod, Nat.cast_add, Nat.cast_sub right.isLt.le,
      ZMod.natCast_self]
    ring
  map_mul left right := by
    rw [Fin.val_mul, ZMod.natCast_mod, Nat.cast_mul]
  map_inv := natCast_inverse

end BaseField

theorem neg_one_ne_square (root : PrimeField) : root ^ 2 ≠ -1 + 0 * root := by
  intro square_eq
  rw [zero_mul, add_zero] at square_eq
  exact ZMod.mod_four_ne_three_of_sq_eq_neg_one square_eq (by decide)

instance : Fact (∀ root : PrimeField, root ^ 2 ≠ -1 + 0 * root) := ⟨neg_one_ne_square⟩

/-- The quadratic extension of the residue classes by a root of minus one. -/
abbrev ExtensionField := QuadraticAlgebra PrimeField (-1) 0

namespace QuadraticField

/-- Pairs of least representatives stand for the elements with these parts. -/
def interpretation : Interpretation QuadraticField ExtensionField where
  toFun element := ⟨BaseField.interpretation element.re, BaseField.interpretation element.im⟩
  injective left right same := by
    have re_eq := congrArg QuadraticAlgebra.re same
    have im_eq := congrArg QuadraticAlgebra.im same
    cases left
    cases right
    simp_all
  map_zero := QuadraticAlgebra.ext BaseField.interpretation.map_zero
    BaseField.interpretation.map_zero
  map_one := QuadraticAlgebra.ext BaseField.interpretation.map_one
    BaseField.interpretation.map_zero
  map_add left right := QuadraticAlgebra.ext (BaseField.interpretation.map_add left.re right.re)
    (BaseField.interpretation.map_add left.im right.im)
  map_sub left right := QuadraticAlgebra.ext (BaseField.interpretation.map_sub left.re right.re)
    (BaseField.interpretation.map_sub left.im right.im)
  map_mul left right := by
    have re_eq : BaseField.interpretation (left * right).re = _ :=
      BaseField.interpretation.map_sub (left.re * right.re) (left.im * right.im)
    have im_eq : BaseField.interpretation (left * right).im = _ :=
      BaseField.interpretation.map_add (left.re * right.im) (left.im * right.re)
    ext
    · simp only [re_eq, Interpretation.map_mul, QuadraticAlgebra.re_mul]
      ring
    · simp [im_eq]
  map_inv element := by
    have scale_eq : BaseField.interpretation
        (element.re * element.re + element.im * element.im).inverse = _ :=
      BaseField.interpretation.map_inv (element.re * element.re + element.im * element.im)
    have re_eq : BaseField.interpretation element⁻¹.re = _ :=
      BaseField.interpretation.map_mul element.re _
    have im_eq : BaseField.interpretation element⁻¹.im = _ :=
      BaseField.interpretation.map_mul (0 - element.im) _
    rw [scale_eq] at re_eq im_eq
    ext
    · simp [re_eq, QuadraticAlgebra.inv_def, QuadraticAlgebra.norm_def, mul_comm]
    · simp [im_eq, QuadraticAlgebra.inv_def, QuadraticAlgebra.norm_def, mul_comm]

end QuadraticField

end BeaconCeremony

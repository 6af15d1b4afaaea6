import BeaconCeremony.Number.Binary64
import Mathlib.Algebra.Order.Ring.Nat
import Mathlib.Tactic.NormNum

/-!
# Powers of two are not rounded

A power of two below `2 ^ 1024` is a binary floating-point number.  Its significand is always the
same, and only the exponent says which power it is.
-/

namespace BeaconCeremony
namespace Binary64

/-- A quotient that comes out even stays as it is. -/
theorem roundedQuotient_mul {denominator : Nat} (quotient : Nat) (positive : 0 < denominator) :
    roundedQuotient (quotient * denominator) denominator = quotient := by
  have rest_lt : 2 * (quotient * denominator % denominator) < denominator := by
    rwa [Nat.mul_mod_left, Nat.mul_zero]
  rw [roundedQuotient, if_pos rest_lt, Nat.mul_div_cancel quotient positive]

/-- A power of two divided by another one, as long as the quotient is whole. -/
theorem scaledQuotient_two_pow {exponent count : Nat} {place : Int}
    (split : (count : Int) + place = exponent) :
    scaledQuotient (2 ^ exponent) 1 place = 2 ^ count := by
  by_cases up : 0 ≤ place
  · have exponent_eq : exponent = count + place.toNat := by omega
    rw [scaledQuotient, if_pos up, Nat.one_shiftLeft, exponent_eq, Nat.pow_add,
      roundedQuotient_mul _ (Nat.two_pow_pos _)]
  · have count_eq : exponent + (-place).toNat = count := by omega
    rw [scaledQuotient, if_neg up, Nat.shiftLeft_eq, ← Nat.pow_add, count_eq]
    simpa using roundedQuotient_mul (2 ^ count) Nat.one_pos

/-- The first guess leaves a bit too many, and one place further up the significand fits. -/
theorem ofInt_two_pow {exponent : Nat} (bounded : exponent < 1024) :
    ofInt (2 ^ exponent) = .finite false (2 ^ 52) (exponent - 52) := by
  have magnitude_eq : ((2 : Int) ^ exponent).natAbs = 2 ^ exponent := by
    rw [Int.natAbs_pow]
    rfl
  have positive : ¬ (2 : Int) ^ exponent < 0 := not_lt.mpr (by positivity)
  have one_eq : Nat.log2 1 = 0 := by decide
  have guess_eq : max ((exponent : Int) - 0 - 53) minExponent = exponent - 53 := by
    rw [minExponent]
    omega
  have too_large : ¬ scaledQuotient (2 ^ exponent) 1 (exponent - 53) < significandEnd := by
    rw [scaledQuotient_two_pow (show ((53 : Nat) : Int) + (exponent - 53) = exponent by omega)]
    decide
  have settled_eq : (exponent : Int) - 53 + 1 = exponent - 52 := by omega
  have significand_eq : scaledQuotient (2 ^ exponent) 1 (exponent - 52) = 2 ^ 52 :=
    scaledQuotient_two_pow (by omega)
  have small : ¬ maxExponent < (exponent : Int) - 52 := by
    rw [maxExponent]
    omega
  have significand_ne : (2 : Nat) ^ 52 ≠ significandEnd := by decide
  rw [ofInt, magnitude_eq, decide_eq_false positive, ofRatio, if_neg (Nat.two_pow_pos _).ne',
    Nat.log2_two_pow, one_eq]
  simp only [Nat.cast_zero, guess_eq, if_neg too_large, settled_eq, significand_eq,
    if_neg significand_ne, if_neg small]

theorem toInt?_ofInt_two_pow {exponent : Nat} (bounded : exponent < 1024) :
    (ofInt (2 ^ exponent)).toInt? = some (2 ^ exponent) := by
  rw [ofInt_two_pow bounded, toInt?]
  by_cases whole : (0 : Int) ≤ exponent - 52
  · have exponent_eq : 52 + ((exponent : Int) - 52).toNat = exponent := by omega
    rw [if_pos whole, Nat.shiftLeft_eq, ← Nat.pow_add, exponent_eq]
    simp
  · have split : exponent + (-((exponent : Int) - 52)).toNat = 52 := by omega
    have significand_eq : 2 ^ 52 = 2 ^ exponent * 2 ^ (-((exponent : Int) - 52)).toNat := by
      rw [← Nat.pow_add, split]
    rw [if_neg whole, Nat.one_shiftLeft, significand_eq]
    simp

end Binary64
end BeaconCeremony

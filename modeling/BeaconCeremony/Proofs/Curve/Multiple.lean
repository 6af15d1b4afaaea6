import BeaconCeremony.Proofs.Curve.Order

/-!
# Multiples of points

A triple can stand for a multiple of the point that another one stands for.  Multiplying by a scalar
makes such a multiple, and multiplying by the inverse of the scalar modulo the group order takes it
back.
-/

namespace BeaconCeremony
namespace Interpretation

variable {F K : Type} [CoordinateField F] [Field K] [DecidableEq K]

/-- The first triple stands for a point of the curve, and the second one for a multiple of it. -/
def Multiple (reading : Interpretation F K) (constant : K) (scalar : Nat) (base point : Point F) :
    Prop :=
  ∃ P : (shortCurve constant).Point, reading.Represents base P ∧
    reading.Represents point (scalar • P)

variable {reading : Interpretation F K} {constant : K} {base point : Point F}
  {P : (shortCurve constant).Point}

theorem Represents.multiple_one (represents : reading.Represents point P) :
    reading.Multiple constant 1 point point :=
  ⟨P, represents, (one_nsmul P).symm ▸ represents⟩

theorem Multiple.multiply {scalar : Nat} (multiple : reading.Multiple constant scalar base point)
    (two_ne : (2 : K) ≠ 0) (factor : Nat) :
    reading.Multiple constant (scalar * factor) base (point.multiply factor) := by
  obtain ⟨P, base_represents, point_represents⟩ := multiple
  refine ⟨P, base_represents, ?_⟩
  rw [mul_nsmul]
  exact represents_multiply two_ne point_represents factor

theorem Represents.multiple (represents : reading.Represents point P) (two_ne : (2 : K) ≠ 0)
    (factor : Nat) : reading.Multiple constant factor point (point.multiply factor) := by
  have multiplied := represents.multiple_one.multiply two_ne factor
  rwa [one_mul] at multiplied

end Interpretation

namespace Curve

/-- The second triple stands for a multiple of the point of the first group that the first triple
stands for. -/
abbrev Multiple1 (scalar : Nat) (base point : G1) : Prop :=
  BaseField.interpretation.Multiple constant1 scalar base point

/-- The same for points of the twist. -/
abbrev Multiple2 (scalar : Nat) (base point : G2) : Prop :=
  QuadraticField.interpretation.Multiple constant2 scalar base point

theorem Regular1.multiple {point : G1} (regular : Regular1 point) (factor : Nat) :
    Multiple1 factor point (point.multiply factor) := by
  obtain ⟨P, -, represents⟩ := regular
  exact represents.multiple two_ne_zero_primeField factor

theorem Regular2.multiple {point : G2} (regular : Regular2 point) (factor : Nat) :
    Multiple2 factor point (point.multiply factor) := by
  obtain ⟨P, -, -, represents⟩ := regular
  exact represents.multiple two_ne_zero_extensionField factor

theorem mul_inverseModulo {scalar : Nat} (scalar_ne : ¬groupOrder ∣ scalar) :
    scalar * inverseModulo groupOrder scalar % groupOrder = 1 := by
  have unit : (scalar : ZMod groupOrder) ≠ 0 := mt (ZMod.natCast_eq_zero_iff _ _).mp scalar_ne
  have product_eq : ((scalar * inverseModulo groupOrder scalar : Nat) : ZMod groupOrder) =
      (1 : Nat) := by
    rw [Nat.cast_mul, inverseModulo, natCast_powerModulo, ← pow_succ', Nat.cast_one]
    exact ZMod.pow_card_sub_one_eq_one unit
  rw [(ZMod.natCast_eq_natCast_iff' _ _ _).mp product_eq]
  exact Nat.mod_eq_of_lt prime_groupOrder.one_lt

theorem nsmul_inverse_nsmul {scalar : Nat} (scalar_ne : ¬groupOrder ∣ scalar) (P : Group1) :
    scalar • inverseModulo groupOrder scalar • P = P := by
  rw [smul_smul, nsmul_eq_mod_nsmul _ (groupOrder_nsmul P), mul_inverseModulo scalar_ne, one_nsmul]

/-- What a point is divided by goes over to the scalar. -/
theorem divide_multiple1 {scalar factor : Nat} {base point : G1}
    (multiple : Multiple1 scalar point base) (factor_ne : ¬groupOrder ∣ factor) :
    Multiple1 (scalar * factor) (point.multiply (inverseModulo groupOrder factor)) base := by
  obtain ⟨P, point_represents, base_represents⟩ := multiple
  refine ⟨inverseModulo groupOrder factor • P,
    Interpretation.represents_multiply two_ne_zero_primeField point_represents _, ?_⟩
  rwa [← smul_smul, nsmul_inverse_nsmul factor_ne]

end Curve
end BeaconCeremony

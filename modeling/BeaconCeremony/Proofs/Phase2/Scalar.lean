import BeaconCeremony.Proofs.Curve.Multiple
import BeaconCeremony.Proofs.Keystream.Sampling
import BeaconCeremony.Proofs.Phase2.Contribution

/-!
# The scalars of contributions

A scalar is one more than a number below the group order less one.  It is never zero modulo the
group order, so it has an inverse, and no scalar is likelier than another.
-/

namespace BeaconCeremony
namespace Phase2

open Generator (Settles Unbiased bits limbs masked)

variable {generator after : Generator} {scalar : Nat}

/-- The numbers that scalars are made of have 254 bits. -/
theorem bits_scalar : bits (groupOrder - 1) = 254 := by
  refine Nat.le_antisymm (Nat.size_le.mpr ?_) (Nat.lt_size.mpr ?_)
  · decide
  · decide

theorem limbs_scalar : limbs (groupOrder - 1) = 4 := by
  rw [limbs, bits_scalar]
  rfl

theorem drawScalar_eq_some_iff : drawScalar generator = some (scalar, after) ↔
    ∃ rejected accepted, Settles (groupOrder - 1) generator rejected accepted after ∧
      scalar = masked (groupOrder - 1) accepted + 1 := by
  have two_le : 2 ≤ groupOrder - 1 := by decide
  rw [drawScalar, Option.map_eq_some_iff]
  constructor
  · rintro ⟨⟨value, last⟩, drawn, same⟩
    obtain ⟨rfl, rfl⟩ := Prod.mk.inj same
    obtain ⟨rejected, accepted, settles, rfl⟩ :=
      (Generator.draw_eq_some_iff_settles two_le).mp drawn
    exact ⟨rejected, accepted, settles, rfl⟩
  · rintro ⟨rejected, accepted, settles, rfl⟩
    exact ⟨_, (Generator.draw_eq_some_iff_settles two_le).mpr
      ⟨rejected, accepted, settles, rfl⟩, rfl⟩

theorem coprime_of_drawScalar (drawn : drawScalar generator = some (scalar, after)) :
    scalar.Coprime groupOrder :=
  ((prime_groupOrder.coprime_iff_not_dvd).mpr (not_dvd_of_drawScalar drawn)).symm

/-- Each scalar has the same number of groups. -/
theorem ncard_scalar_groups (one_le : 1 ≤ scalar) (scalar_le : scalar ≤ groupOrder - 1) :
    { group | group.length = limbs (groupOrder - 1) ∧
      masked (groupOrder - 1) group + 1 = scalar }.ncard = 4 := by
  obtain ⟨value, rfl⟩ := Nat.exists_eq_add_of_le' one_le
  have value_lt : value < groupOrder - 1 := by omega
  have counted := Generator.ncard_groups_singleton value_lt
  rw [limbs_scalar, bits_scalar] at counted
  simpa [Generator.groups, limbs_scalar] using counted

/-- A draw from the numbers below a bound of at least two takes the first group of limbs that is
below the bound.  All numbers have the same number of groups, and more than half of the groups are
taken.  So are scalars drawn, from one up to the group order, each as likely as any other, and each
with an inverse. -/
theorem draws_unbiased {bound : Nat} (two_le : 2 ≤ bound) :
    Unbiased bound ∧
      (∀ (generator : Generator) (scalar : Nat) (after : Generator),
        drawScalar generator = some (scalar, after) →
          1 ≤ scalar ∧ scalar ≤ groupOrder - 1 ∧ scalar.Coprime groupOrder ∧
            scalar * inverseModulo groupOrder scalar % groupOrder = 1 ∧
            ∃ rejected accepted, Settles (groupOrder - 1) generator rejected accepted after ∧
              scalar = masked (groupOrder - 1) accepted + 1) ∧
      ∀ scalar, 1 ≤ scalar → scalar ≤ groupOrder - 1 →
        { group | group.length = limbs (groupOrder - 1) ∧
          masked (groupOrder - 1) group + 1 = scalar }.ncard = 4 := by
  refine ⟨Generator.unbiased two_le, ?_, fun scalar => ncard_scalar_groups⟩
  intro generator scalar after drawn
  obtain ⟨rejected, accepted, settles, scalar_eq⟩ := drawScalar_eq_some_iff.mp drawn
  have small := settles.accepted_small
  exact ⟨by omega, by omega, coprime_of_drawScalar drawn,
    Curve.mul_inverseModulo (not_dvd_of_drawScalar drawn), rejected, accepted, settles, scalar_eq⟩

/-- One more bit than a limb has needs a second limb; the zero seed draws a scalar. -/
theorem draws_unbiased_secondLimb :
    2 ≤ 2 ^ 64 + 1 ∧ Unbiased (2 ^ 64 + 1) ∧
      ∃ scalar after,
        drawScalar (Generator.ofSeed (Seed.ofDigest ⟨List.replicate 32 0, rfl⟩)) =
          some (scalar, after) ∧
        scalar * inverseModulo groupOrder scalar % groupOrder = 1 ∧
        { group | group.length = limbs (groupOrder - 1) ∧
          masked (groupOrder - 1) group + 1 = scalar }.ncard = 4 := by
  have two_le : 2 ≤ 2 ^ 64 + 1 := by decide
  obtain ⟨unbiased, scalars, counted⟩ := draws_unbiased two_le
  obtain ⟨scalar, after, -, -, -, drawn, -, -⟩ := Parameters.draws_zeroSeed
  obtain ⟨one_le, scalar_le, -, inverse_eq, -⟩ := scalars _ scalar after drawn
  exact ⟨two_le, unbiased, scalar, after, drawn, inverse_eq, counted scalar one_le scalar_le⟩

end Phase2
end BeaconCeremony

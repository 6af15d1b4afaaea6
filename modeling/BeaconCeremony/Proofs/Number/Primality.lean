import BeaconCeremony.Curve.Field
import Mathlib.Algebra.BigOperators.Associated
import Mathlib.NumberTheory.LucasPrimality
import Mathlib.Tactic.NormNum.Prime

/-!
# Powers with remainders and the two primes

Repeated squaring computes powers.  So a number can be seen to be prime from a root whose powers
show that it has the largest possible order, given the prime factors of the number before it.  The
number of elements of the base field and the order of the groups are prime.
-/

namespace BeaconCeremony

theorem powerModulo_eq (modulus base exponent : Nat) :
    powerModulo modulus base exponent = base ^ exponent % modulus := by
  induction exponent using Nat.strong_induction_on generalizing base with
  | _ exponent ih =>
      rw [powerModulo]
      split
      · rename_i zero
        rw [zero, pow_zero]
      · rename_i nonzero
        have square_eq : powerModulo modulus (base * base % modulus) (exponent / 2) =
            base ^ (2 * (exponent / 2)) % modulus := by
          rw [ih (exponent / 2) (by omega), ← Nat.pow_mod, ← sq, pow_mul]
        simp only [square_eq]
        split
        · rename_i odd
          rw [Nat.mod_mul_mod, ← pow_succ]
          congr 2
          omega
        · congr 2
          omega

theorem natCast_powerModulo (modulus base exponent : Nat) :
    (powerModulo modulus base exponent : ZMod modulus) = (base : ZMod modulus) ^ exponent := by
  rw [powerModulo_eq, ZMod.natCast_mod, Nat.cast_pow]

/-- What shows that a number is prime. -/
structure PrimalityWitness where
  /-- The number. -/
  number : Nat
  /-- A number of the largest order modulo the number. -/
  root : Nat
  /-- The prime factors of the number before it, each as often as it divides that number. -/
  factors : List Nat

namespace PrimalityWitness

/-- Checks a witness whose factors have been shown to be prime. -/
def passes (known : List Nat) (witness : PrimalityWitness) : Bool :=
  decide (1 < witness.number) && witness.factors.all (known.contains ·) &&
    witness.factors.prod == witness.number - 1 &&
    powerModulo witness.number witness.root (witness.number - 1) == 1 &&
    witness.factors.all fun factor =>
      powerModulo witness.number witness.root ((witness.number - 1) / factor) != 1

/-- Checks witnesses each of which can use the numbers of those before it. -/
def allPass (known : List Nat) : List PrimalityWitness → Bool
  | [] => true
  | witness :: rest => witness.passes known && allPass (witness.number :: known) rest

theorem natCast_pow_eq_one_iff {modulus : Nat} (modulus_gt : 1 < modulus) (base exponent : Nat) :
    (base : ZMod modulus) ^ exponent = 1 ↔ powerModulo modulus base exponent = 1 := by
  rw [powerModulo_eq, ← Nat.cast_pow, ← Nat.cast_one, ZMod.natCast_eq_natCast_iff',
    Nat.mod_eq_of_lt modulus_gt]

theorem prime_of_passes {known : List Nat} {witness : PrimalityWitness}
    (known_prime : ∀ number ∈ known, number.Prime) (passed : witness.passes known = true) :
    witness.number.Prime := by
  simp only [passes, Bool.and_eq_true, decide_eq_true_eq, List.all_eq_true, List.contains_iff_mem,
    beq_iff_eq, bne_iff_ne] at passed
  obtain ⟨⟨⟨⟨number_gt, factors_known⟩, product_eq⟩, full⟩, partial_ne⟩ := passed
  refine lucas_primality witness.number witness.root ?_ ?_
  · exact (natCast_pow_eq_one_iff number_gt _ _).mpr full
  · intro divisor divisor_prime divides
    rw [← product_eq, divisor_prime.prime.dvd_prod_iff] at divides
    obtain ⟨factor, member, divides⟩ := divides
    have factor_prime := known_prime factor (factors_known factor member)
    obtain rfl := (Nat.prime_dvd_prime_iff_eq divisor_prime factor_prime).mp divides
    exact fun one => partial_ne divisor member ((natCast_pow_eq_one_iff number_gt _ _).mp one)

theorem prime_of_allPass {known : List Nat} {witnesses : List PrimalityWitness}
    (known_prime : ∀ number ∈ known, number.Prime) (passed : allPass known witnesses = true) :
    ∀ witness ∈ witnesses, witness.number.Prime := by
  induction witnesses generalizing known with
  | nil => simp
  | cons witness rest ih =>
      simp only [allPass, Bool.and_eq_true] at passed
      have number_prime := prime_of_passes known_prime passed.1
      have more_prime : ∀ number ∈ witness.number :: known, number.Prime :=
        List.forall_mem_cons.mpr ⟨number_prime, known_prime⟩
      exact List.forall_mem_cons.mpr ⟨number_prime, ih more_prime passed.2⟩

end PrimalityWitness

/-- The small primes that the witnesses below start from. -/
def smallPrimes : List Nat :=
  [2, 3, 5, 7, 11, 13, 17, 19, 29, 31, 37, 41, 67, 73, 83, 89, 107, 109, 229, 233, 271, 311, 379,
    449, 661, 823, 853, 911, 983, 1231, 1637, 3557, 3691, 4999, 11003, 13327, 41927]

theorem prime_of_mem_smallPrimes : ∀ number ∈ smallPrimes, number.Prime := by
  simp only [smallPrimes, List.forall_mem_cons]
  norm_num

/-- Witnesses for the two primes and for the larger factors that come up on the way to them. -/
def primalityWitnesses : List PrimalityWitness :=
  [⟨93001, 14, [2, 2, 2, 3, 5, 5, 5, 31]⟩,
    ⟨237073, 15, [2, 2, 2, 2, 3, 11, 449]⟩,
    ⟨327599, 19, [2, 19, 37, 233]⟩,
    ⟨1593227, 2, [2, 19, 41927]⟩,
    ⟨1853641, 17, [2, 2, 2, 3, 3, 5, 19, 271]⟩,
    ⟨4562087, 5, [2, 17, 109, 1231]⟩,
    ⟨173171039, 13, [2, 73, 89, 13327]⟩,
    ⟨405928799, 22, [2, 11, 3691, 4999]⟩,
    ⟨639533339, 2, [2, 229, 853, 1637]⟩,
    ⟨1263766531, 10, [2, 3, 5, 13, 911, 3557]⟩,
    ⟨11465965001, 3, [2, 2, 2, 5, 5, 5, 5, 7, 327599]⟩,
    ⟨12048837557, 2, [2, 2, 7, 7, 661, 93001]⟩,
    ⟨35385462869, 2, [2, 2, 7, 1263766531]⟩,
    ⟨5156902474397, 2, [2, 2, 107, 12048837557]⟩,
    ⟨1670836401704629, 2, [2, 2, 3, 3, 3, 3, 5156902474397]⟩,
    ⟨2480874801745591, 6, [2, 3, 3, 5, 19, 41, 35385462869]⟩,
    ⟨65865678001877903, 5, [2, 83, 379, 1637, 639533339]⟩,
    ⟨13818364434197438864469338081, 3, [2, 2, 2, 2, 2, 5, 823, 1593227, 65865678001877903]⟩,
    ⟨13427688667394608761327070753331941386769, 17,
      [2, 2, 2, 2, 3, 7, 11, 1853641, 4562087, 173171039, 2480874801745591]⟩,
    ⟨groupOrder, 5, List.replicate 28 2 ++ [3, 3, 13, 29, 983, 11003, 237073, 405928799,
      1670836401704629, 13818364434197438864469338081]⟩,
    ⟨fieldPrime, 3, [2, 3, 3, 13, 29, 67, 229, 311, 983, 11003, 405928799, 11465965001,
      13427688667394608761327070753331941386769]⟩]

theorem prime_of_mem_primalityWitnesses {number : Nat}
    (member : number ∈ primalityWitnesses.map (·.number)) : number.Prime := by
  obtain ⟨witness, witness_mem, rfl⟩ := List.mem_map.mp member
  have passed : PrimalityWitness.allPass smallPrimes primalityWitnesses = true := by
    decide +kernel
  exact PrimalityWitness.prime_of_allPass prime_of_mem_smallPrimes passed witness witness_mem

/-- The base field has a prime number of elements. -/
theorem prime_fieldPrime : fieldPrime.Prime :=
  prime_of_mem_primalityWitnesses (by decide +kernel)

/-- The order of the groups is prime. -/
theorem prime_groupOrder : groupOrder.Prime :=
  prime_of_mem_primalityWitnesses (by decide +kernel)

instance : Fact fieldPrime.Prime := ⟨prime_fieldPrime⟩

instance : Fact groupOrder.Prime := ⟨prime_groupOrder⟩

end BeaconCeremony

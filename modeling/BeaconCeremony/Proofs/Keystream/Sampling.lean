import BeaconCeremony.Proofs.Keystream.Generator
import Mathlib.Algebra.Order.Floor.Div
import Mathlib.Data.Nat.Digits.Lemmas
import Mathlib.Data.Nat.Size
import Mathlib.Order.Interval.Set.Nat

/-!
# Numbers below a bound are equally likely

A number below a bound is drawn in groups of limbs: as many limbs as the bits of the greatest number
need, and all other bits are masked.  The first group whose number is below the bound is taken.
Every number comes from the same number of groups, and more than half of the groups are taken.
-/

namespace BeaconCeremony
namespace Generator

/-- The next double words, in the order in which they are drawn. -/
def nextDoubleWords (generator : Generator) : Nat → List UInt64 × Generator
  | 0 => ([], generator)
  | count + 1 =>
    let (word, generator) := generator.nextDoubleWord
    let (words, generator) := generator.nextDoubleWords count
    (word :: words, generator)

/-- The number of bits of the greatest number below a bound. -/
def bits (bound : Nat) : Nat := (bound - 1).size

/-- The number of limbs that so many bits need. -/
def limbs (bound : Nat) : Nat := bits bound ⌈/⌉ 64

/-- The number made of some limbs, the least significant one first. -/
def number (group : List UInt64) : Nat := Nat.ofDigits (2 ^ 64) (group.map UInt64.toNat)

/-- The number made of some limbs, without the bits that no number below the bound has. -/
def masked (bound : Nat) (group : List UInt64) : Nat := number group &&& (2 ^ bits bound - 1)

/-- Groups of limbs are drawn one after the other up to the first one that is below the bound. -/
structure Settles (bound : Nat) (generator : Generator) (rejected : List (List UInt64))
    (accepted : List UInt64) (after : Generator) : Prop where
  /-- The limbs are the next ones. -/
  drawn : generator.nextDoubleWords (limbs bound * (rejected.length + 1)) =
    (rejected.flatten ++ accepted, after)
  rejected_sized : ∀ group ∈ rejected, group.length = limbs bound
  rejected_large : ∀ group ∈ rejected, bound ≤ masked bound group
  accepted_sized : accepted.length = limbs bound
  accepted_small : masked bound accepted < bound

/-- The groups of limbs whose masked number is in a set. -/
def groups (bound : Nat) (numbers : Set Nat) : Set (List UInt64) :=
  { group | group.length = limbs bound ∧ masked bound group ∈ numbers }

variable {bound value attempts : Nat} {generator after : Generator} {group : List UInt64}

/-! ## Drawing groups -/

theorem nextDoubleWords_add (generator : Generator) (count more : Nat) :
    generator.nextDoubleWords (count + more) =
      ((generator.nextDoubleWords count).1 ++
          ((generator.nextDoubleWords count).2.nextDoubleWords more).1,
        ((generator.nextDoubleWords count).2.nextDoubleWords more).2) := by
  induction count generalizing generator with
  | zero =>
      rw [Nat.zero_add]
      rfl
  | succ count ih =>
      rw [Nat.succ_add]
      simp only [nextDoubleWords, ih, List.cons_append]

@[simp]
theorem length_nextDoubleWords (generator : Generator) (count : Nat) :
    (generator.nextDoubleWords count).1.length = count := by
  induction count generalizing generator with
  | zero => rfl
  | succ count ih => exact congrArg (· + 1) (ih generator.nextDoubleWord.2)

theorem nextLimbs_eq (generator : Generator) (count : Nat) :
    generator.nextLimbs count =
      (number (generator.nextDoubleWords count).1, (generator.nextDoubleWords count).2) := by
  induction count generalizing generator with
  | zero => rfl
  | succ count ih =>
      simp only [nextLimbs, nextDoubleWords, ih, number, List.map_cons, Nat.ofDigits_cons]
      rfl

theorem bitsBelow_eq (two_le : 2 ≤ bound) : bitsBelow bound = bits bound := by
  have positive : bound - 1 ≠ 0 := by omega
  refine Nat.le_antisymm ?_ ?_
  · exact Nat.lt_size.mpr (Nat.log2_self_le positive)
  · exact Nat.size_le.mpr Nat.lt_log2_self

theorem limbs_eq (two_le : 2 ≤ bound) : (bitsBelow bound + 63) / 64 = limbs bound := by
  rw [bitsBelow_eq two_le]
  rfl

theorem masked_eq_mod (bound : Nat) (group : List UInt64) :
    masked bound group = number group % 2 ^ bits bound :=
  Nat.and_two_pow_sub_one_eq_mod _ _

/-- A candidate is the number of the next group. -/
theorem candidate_eq_masked (two_le : 2 ≤ bound) (generator : Generator) :
    generator.candidate bound =
      (masked bound (generator.nextDoubleWords (limbs bound)).1,
        (generator.nextDoubleWords (limbs bound)).2) := by
  rw [candidate, limbs_eq two_le, nextLimbs_eq, masked_eq_mod, bitsBelow_eq two_le]
  rfl

theorem Settles.of_accepted
    (small : masked bound (generator.nextDoubleWords (limbs bound)).1 < bound) :
    Settles bound generator [] (generator.nextDoubleWords (limbs bound)).1
      (generator.nextDoubleWords (limbs bound)).2 where
  drawn := by simp
  rejected_sized := List.forall_mem_nil _
  rejected_large := List.forall_mem_nil _
  accepted_sized := length_nextDoubleWords generator _
  accepted_small := small

/-- A group that is too large comes before those that are drawn after it. -/
theorem Settles.of_rejected {rejected : List (List UInt64)}
    (large : bound ≤ masked bound (generator.nextDoubleWords (limbs bound)).1)
    (settles : Settles bound (generator.nextDoubleWords (limbs bound)).2 rejected group after) :
    Settles bound generator ((generator.nextDoubleWords (limbs bound)).1 :: rejected) group
      after where
  drawn := by
    rw [List.length_cons, Nat.mul_succ, Nat.add_comm, nextDoubleWords_add, settles.drawn,
      List.flatten_cons, List.append_assoc]
  rejected_sized := List.forall_mem_cons.mpr
    ⟨length_nextDoubleWords generator _, settles.rejected_sized⟩
  rejected_large := List.forall_mem_cons.mpr ⟨large, settles.rejected_large⟩
  accepted_sized := settles.accepted_sized
  accepted_small := settles.accepted_small

/-- The first of the groups that are drawn is the next one. -/
theorem Settles.first {first : List UInt64} {rejected : List (List UInt64)}
    (settles : Settles bound generator (first :: rejected) group after) :
    first = (generator.nextDoubleWords (limbs bound)).1 ∧
      Settles bound (generator.nextDoubleWords (limbs bound)).2 rejected group after := by
  have drawn := settles.drawn
  rw [List.length_cons, Nat.mul_succ, Nat.add_comm, nextDoubleWords_add, List.flatten_cons,
    List.append_assoc, Prod.mk.injEq] at drawn
  obtain ⟨first_sized, rejected_sized⟩ := List.forall_mem_cons.mp settles.rejected_sized
  obtain ⟨first_eq, rest_eq⟩ := List.append_inj drawn.1 (by simp [first_sized])
  exact ⟨first_eq.symm,
    { drawn := Prod.ext rest_eq drawn.2
      rejected_sized := rejected_sized
      rejected_large := (List.forall_mem_cons.mp settles.rejected_large).2
      accepted_sized := settles.accepted_sized
      accepted_small := settles.accepted_small }⟩

theorem settles_nil_iff : Settles bound generator [] group after ↔
    generator.nextDoubleWords (limbs bound) = (group, after) ∧ masked bound group < bound := by
  constructor
  · intro settles
    exact ⟨by simpa using settles.drawn, settles.accepted_small⟩
  · rintro ⟨drawn, small⟩
    have first_small : masked bound (generator.nextDoubleWords (limbs bound)).1 < bound := by
      rwa [drawn]
    have settles := Settles.of_accepted first_small
    rwa [drawn] at settles

/-- A search finds the number of the first group that is below the bound. -/
theorem exists_settles_of_searchWithin (two_le : 2 ≤ bound)
    (found : searchWithin bound attempts generator = some (value, after)) :
    ∃ rejected accepted, Settles bound generator rejected accepted after ∧
      value = masked bound accepted := by
  induction attempts generalizing generator with
  | zero => contradiction
  | succ attempts ih =>
      simp only [searchWithin, candidate_eq_masked two_le] at found
      split at found
      · rename_i small
        obtain ⟨rfl, rfl⟩ := Prod.mk.inj (Option.some.inj found)
        exact ⟨[], _, .of_accepted small, rfl⟩
      · rename_i large
        obtain ⟨rejected, accepted, settles, value_eq⟩ := ih found
        exact ⟨_, accepted, settles.of_rejected (Nat.le_of_not_lt large), value_eq⟩

theorem searchWithin_of_settles (two_le : 2 ≤ bound) {rejected : List (List UInt64)}
    {accepted : List UInt64} (settles : Settles bound generator rejected accepted after) :
    searchWithin bound (rejected.length + 1) generator =
      some (masked bound accepted, after) := by
  induction rejected generalizing generator with
  | nil =>
      obtain ⟨drawn, small⟩ := settles_nil_iff.mp settles
      simp only [searchWithin, candidate_eq_masked two_le, drawn, if_pos small]
  | cons first rejected ih =>
      obtain ⟨first_eq, later⟩ := settles.first
      have large : ¬masked bound first < bound :=
        Nat.not_lt.mpr (settles.rejected_large first List.mem_cons_self)
      rw [List.length_cons, searchWithin]
      simp only [candidate_eq_masked two_le, ← first_eq, if_neg large]
      exact ih later

theorem draw_eq_some_iff_settles (two_le : 2 ≤ bound) :
    generator.draw? bound = some (value, after) ↔
      ∃ rejected accepted, Settles bound generator rejected accepted after ∧
        value = masked bound accepted := by
  rw [draw_eq_some_iff (by omega)]
  constructor
  · rintro ⟨attempts, found⟩
    exact exists_settles_of_searchWithin two_le found
  · rintro ⟨rejected, accepted, settles, rfl⟩
    exact ⟨_, searchWithin_of_settles two_le settles⟩

/-- A request for a number below a bound is a draw. -/
theorem below_eq_ok_iff (positive : 0 < bound) :
    generator.below (.int bound) = .ok (value, after) ↔
      generator.draw? bound = some (value, after) := by
  have not_empty : ¬(bound : Int) ≤ 0 := by omega
  simp only [below, Datum.asInt?, if_neg not_empty, Int.toNat_natCast]
  cases generator.draw? bound with
  | none => simp
  | some drawn => simp

/-! ## Counting groups -/

theorem bits_le (bound : Nat) : bits bound ≤ 64 * limbs bound :=
  le_smul_ceilDiv (show 0 < 64 by decide)

theorem lt_two_pow_bits (small : value < bound) : value < 2 ^ bits bound :=
  Nat.lt_of_le_of_lt (Nat.le_sub_one_of_lt small) (Nat.lt_size_self _)

/-- The number of bits is not greater than needed. -/
theorem two_pow_bits_lt (two_le : 2 ≤ bound) : 2 ^ bits bound < 2 * bound := by
  have positive : 0 < bits bound := Nat.size_pos.mpr (by omega)
  have half_le : 2 ^ (bits bound - 1) ≤ bound - 1 := Nat.lt_size.mp (by rw [bits] at *; omega)
  have double : 2 ^ bits bound = 2 * 2 ^ (bits bound - 1) := by
    rw [← pow_succ', Nat.sub_add_cancel positive]
  omega

/-- Lists of words are lists of numbers below the size of a word. -/
theorem bijOn_map_toNat (count : Nat) :
    Set.BijOn (List.map UInt64.toNat) { group | group.length = count }
      { numbers | numbers.length = count ∧ ∀ number ∈ numbers, number < 2 ^ 64 } := by
  refine ⟨?_, ?_, ?_⟩
  · intro group sized
    refine ⟨by simpa using sized, List.forall_mem_map.mpr fun word _ => word.toNat_lt⟩
  · exact (List.map_injective_iff.mpr fun _ _ same => UInt64.toNat_inj.mp same).injOn
  · rintro numbers ⟨sized, small⟩
    refine ⟨numbers.map UInt64.ofNat, by simpa using sized, ?_⟩
    rw [List.map_map]
    refine (List.map_congr_left fun number member => ?_).trans (List.map_id numbers)
    exact UInt64.toNat_ofNat_of_lt' (small number member)

/-- Groups of the same size stand for the numbers below a power of two, each for its own. -/
theorem bijOn_number (count : Nat) :
    Set.BijOn number { group | group.length = count } (Set.Iio (2 ^ (64 * count))) := by
  have one_lt : 1 < 2 ^ 64 := by decide
  rw [pow_mul]
  exact (Nat.bijOn_ofDigits one_lt count).comp (bijOn_map_toNat count)

/-- Numbers are made of their lower bits, which are in a set, and of any upper bits. -/
theorem bijOn_parts {numbers : Set Nat} {lower : Nat} (upper : Nat)
    (small : ∀ number ∈ numbers, number < 2 ^ lower) :
    Set.BijOn (fun parts : Nat × Nat => parts.1 + 2 ^ lower * parts.2)
      (numbers ×ˢ Set.Iio (2 ^ upper))
      { number | number < 2 ^ (lower + upper) ∧ number % 2 ^ lower ∈ numbers } := by
  have lower_eq {low high : Nat} (member : low ∈ numbers) :
      (low + 2 ^ lower * high) % 2 ^ lower = low := by
    rw [Nat.add_mul_mod_self_left, Nat.mod_eq_of_lt (small low member)]
  refine ⟨?_, ?_, ?_⟩
  · rintro ⟨low, high⟩ ⟨member, high_lt⟩
    refine ⟨?_, (lower_eq member).symm ▸ member⟩
    calc low + 2 ^ lower * high
        < 2 ^ lower * (high + 1) := by
          rw [Nat.mul_succ, Nat.add_comm]
          exact Nat.add_lt_add_left (small low member) _
      _ ≤ 2 ^ lower * 2 ^ upper := Nat.mul_le_mul_left _ high_lt
      _ = 2 ^ (lower + upper) := (pow_add 2 lower upper).symm
  · rintro ⟨low, high⟩ ⟨member, -⟩ ⟨low', high'⟩ ⟨member', -⟩ same
    obtain rfl : low = low' :=
      (lower_eq member).symm.trans ((congrArg (· % 2 ^ lower) same).trans (lower_eq member'))
    obtain rfl : high = high' :=
      Nat.eq_of_mul_eq_mul_left (Nat.two_pow_pos lower) (Nat.add_left_cancel same)
    rfl
  · rintro number ⟨number_lt, member⟩
    rw [pow_add] at number_lt
    exact ⟨(number % 2 ^ lower, number / 2 ^ lower), ⟨member, Nat.div_lt_of_lt_mul number_lt⟩,
      Nat.mod_add_div number (2 ^ lower)⟩

theorem bijOn_groups (bound : Nat) (numbers : Set Nat) :
    Set.BijOn number (groups bound numbers)
      { number | number < 2 ^ (64 * limbs bound) ∧ number % 2 ^ bits bound ∈ numbers } := by
  have bijOn := bijOn_number (limbs bound)
  refine ⟨?_, bijOn.injOn.mono fun group member => member.1, ?_⟩
  · rintro group ⟨sized, member⟩
    exact ⟨bijOn.mapsTo sized, masked_eq_mod bound group ▸ member⟩
  · rintro _ ⟨number_lt, member⟩
    obtain ⟨group, sized, rfl⟩ := bijOn.surjOn number_lt
    exact ⟨group, ⟨sized, (masked_eq_mod bound group).symm ▸ member⟩, rfl⟩

/-- Every number is that of the same number of groups, because every choice of the bits that are
masked makes one. -/
theorem ncard_groups {numbers : Set Nat} (small : ∀ number ∈ numbers, number < 2 ^ bits bound) :
    (groups bound numbers).ncard = numbers.ncard * 2 ^ (64 * limbs bound - bits bound) := by
  have bijOn := bijOn_parts (64 * limbs bound - bits bound) small
  rw [Nat.add_sub_cancel' (bits_le bound)] at bijOn
  rw [(bijOn_groups bound numbers).ncard_eq, ← bijOn.ncard_eq, Set.ncard_prod,
    Set.ncard_Iio_nat]

/-- Each number below the bound has the same number of groups. -/
theorem ncard_groups_singleton (small : value < bound) :
    (groups bound {value}).ncard = 2 ^ (64 * limbs bound - bits bound) := by
  rw [ncard_groups (by simpa using lt_two_pow_bits small), Set.ncard_singleton,
    Nat.one_mul]

theorem ncard_all_groups (bound : Nat) :
    { group : List UInt64 | group.length = limbs bound }.ncard = 2 ^ (64 * limbs bound) := by
  rw [(bijOn_number (limbs bound)).ncard_eq, Set.ncard_Iio_nat]

/-- More than half of all groups are below the bound. -/
theorem lt_two_mul_ncard_groups (two_le : 2 ≤ bound) :
    2 ^ (64 * limbs bound) < 2 * (groups bound (Set.Iio bound)).ncard := by
  have positive : 0 < 2 ^ (64 * limbs bound - bits bound) := Nat.two_pow_pos _
  have small : ∀ number ∈ Set.Iio bound, number < 2 ^ bits bound :=
    fun number number_lt => lt_two_pow_bits number_lt
  rw [ncard_groups small, Set.ncard_Iio_nat, ← Nat.mul_assoc]
  calc 2 ^ (64 * limbs bound)
      = 2 ^ bits bound * 2 ^ (64 * limbs bound - bits bound) := by
        rw [← pow_add, Nat.add_sub_cancel' (bits_le bound)]
    _ < 2 * bound * 2 ^ (64 * limbs bound - bits bound) :=
        Nat.mul_lt_mul_of_pos_right (two_pow_bits_lt two_le) positive

/-- Draws from the numbers below a bound take the first group that is below it, and no number is
likelier than another. -/
structure Unbiased (bound : Nat) : Prop where
  /-- A draw takes the first group that is below the bound, if there is one. -/
  below_eq_ok_iff : ∀ (generator : Generator) (value : Nat) (after : Generator),
    generator.below (.int bound) = .ok (value, after) ↔
      ∃ rejected accepted, Settles bound generator rejected accepted after ∧
        value = masked bound accepted
  value_lt : ∀ (generator : Generator) (value : Nat) (after : Generator),
    generator.below (.int bound) = .ok (value, after) → value < bound
  all_groups : { group : List UInt64 | group.length = limbs bound }.ncard = 2 ^ (64 * limbs bound)
  /-- Each number has the same number of groups. -/
  groups_of_value : ∀ value < bound,
    (groups bound {value}).ncard = 2 ^ (64 * limbs bound - bits bound)
  /-- More than half of all groups are below the bound. -/
  most_accepted : 2 ^ (64 * limbs bound) < 2 * (groups bound (Set.Iio bound)).ncard

theorem unbiased (two_le : 2 ≤ bound) : Unbiased bound where
  below_eq_ok_iff generator value after :=
    (Generator.below_eq_ok_iff (by omega)).trans (draw_eq_some_iff_settles two_le)
  value_lt generator value after drawn :=
    draw_lt ((Generator.below_eq_ok_iff (by omega)).mp drawn)
  all_groups := ncard_all_groups bound
  groups_of_value value small := ncard_groups_singleton small
  most_accepted := lt_two_mul_ncard_groups two_le

end Generator
end BeaconCeremony

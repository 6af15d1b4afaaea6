import BeaconCeremony.Proofs.Curve.Multiple
import BeaconCeremony.Proofs.Phase2.Contribution

/-!
# The product of all contributions

Whatever has been contributed, one scalar relates the parameters to those at the start: the product
of all scalars that were drawn.  Both products of the ceremony are that multiple of a generator, and
every point of the queries, times that scalar, is the point at the same place at the start.  A key
belongs to the scalar of its own contribution and to the product up to it.
-/

namespace BeaconCeremony
namespace Phase2

open Curve

/-- Calls of contribute one after the other, with the scalars drawn by those that succeeded. -/
inductive Contributions (start : Parameters) : List Nat → Parameters → Prop
  | none : Contributions start [] start
  | more {deltas : List Nat} {reached : Parameters} {generator after : Generator} {tag : Int}
      {delta : Nat} {fingerprint : Digest 64} (before : Contributions start deltas reached)
      (drawn : drawScalar generator = some (delta, after))
      (made : (reached.contribute generator tag).result = .ok fingerprint) :
      Contributions start (deltas ++ [delta]) (reached.contribute generator tag).parameters
  | failed {deltas : List Nat} {reached : Parameters} {generator : Generator} {tag : Int}
      {fault : ContributionFault} (before : Contributions start deltas reached)
      (refused : (reached.contribute generator tag).result = .error fault) :
      Contributions start deltas (reached.contribute generator tag).parameters

/-- A key of a contribution with the scalar `delta` that makes the product `product`. -/
structure PublicKey.Proves (product delta : Nat) (key : PublicKey) : Prop where
  sDelta : Multiple1 delta key.s key.sDelta
  rDelta : ∃ hashed, hashBytesToCurve key.transcript.bytes = .ok hashed ∧
    Multiple2 delta hashed key.rDelta
  deltaAfter : Multiple1 product generator1 key.deltaAfter

/-- Parameters that have been reached from `start` with contributions of the scalars `deltas`. -/
structure Related (start : Parameters) (deltas : List Nat) (reached : Parameters) : Prop where
  product_ne : ¬groupOrder ∣ deltas.prod
  delta1 : Multiple1 deltas.prod generator1 reached.delta1
  delta2 : Multiple2 deltas.prod generator2 reached.delta2
  h : List.Forall₂ (Multiple1 deltas.prod) reached.h start.h
  l : List.Forall₂ (Multiple1 deltas.prod) reached.l start.l
  keys_length : reached.contributions.length = deltas.length
  keys : ∀ (index : Nat) (key : PublicKey) (delta : Nat),
    reached.contributions[index]? = some key → deltas[index]? = some delta →
      key.Proves (deltas.take (index + 1)).prod delta

theorem hashBytesToCurve_of_hashToCurve {digest : Digest 64} {hashed : G2}
    (hashed_eq : hashToCurve (firstHalf digest) = some hashed) :
    hashBytesToCurve digest.bytes = .ok hashed := by
  have half : Digest.ofBytes? 32 (digest.bytes.take 32) = some (firstHalf digest) :=
    dif_pos (firstHalf digest).length_bytes
  rw [hashBytesToCurve, half]
  simp only [hashed_eq]

/-- The next key belongs to its scalar and to the product with it. -/
theorem Related.nextKey_proves {start reached : Parameters} {deltas : List Nat}
    {delta scalar : Nat} {hashed : G2} (related : Related start deltas reached)
    (scalar_ne : ¬groupOrder ∣ scalar)
    (hashed_eq : hashToCurve (firstHalf (reached.nextTranscript delta scalar)) = some hashed) :
    (reached.nextKey delta scalar hashed).Proves (deltas.prod * delta) delta where
  sDelta := (regular1_multiply regular1_generator1 scalar_ne).multiple delta
  rDelta := ⟨hashed, hashBytesToCurve_of_hashToCurve hashed_eq,
    (regular_of_hashToCurve hashed_eq).multiple delta⟩
  deltaAfter := related.delta1.multiply two_ne_zero_primeField delta

theorem forall₂_scale_inverse {product delta : Nat} {points start : List G1}
    (related : List.Forall₂ (Multiple1 product) points start) (delta_ne : ¬groupOrder ∣ delta) :
    List.Forall₂ (Multiple1 (product * delta))
      (scale (inverseModulo groupOrder delta) points) start :=
  List.forall₂_map_left_iff.mpr
    (related.imp fun _ _ multiple => divide_multiple1 multiple delta_ne)

theorem Related.refl {start : Parameters} (regular : start.Regular)
    (delta1_eq : start.delta1 = generator1) (delta2_eq : start.delta2 = generator2)
    (keys_eq : start.contributions = []) : Related start [] start where
  product_ne := Nat.not_dvd_of_pos_of_lt Nat.one_pos prime_groupOrder.one_lt
  delta1 := by
    obtain ⟨P, -, represents⟩ := regular1_generator1
    exact delta1_eq ▸ represents.multiple_one
  delta2 := by
    obtain ⟨P, -, -, represents⟩ := regular2_generator2
    exact delta2_eq ▸ represents.multiple_one
  h := List.forall₂_same.mpr fun point member => by
    obtain ⟨P, -, represents⟩ := regular.h point member
    exact represents.multiple_one
  l := List.forall₂_same.mpr fun point member => by
    obtain ⟨P, -, represents⟩ := regular.l point member
    exact represents.multiple_one
  keys_length := congrArg List.length keys_eq
  keys := by
    intro index key delta key_at
    simp [keys_eq] at key_at

/-- One more contribution multiplies the product by its scalar. -/
theorem Related.withKey {start reached : Parameters} {deltas : List Nat} {delta scalar : Nat}
    {hashed : G2} (related : Related start deltas reached) (delta_ne : ¬groupOrder ∣ delta)
    (scalar_ne : ¬groupOrder ∣ scalar)
    (hashed_eq : hashToCurve (firstHalf (reached.nextTranscript delta scalar)) = some hashed) :
    Related start (deltas ++ [delta])
      (reached.withKey delta (reached.nextKey delta scalar hashed)) := by
  have proves := related.nextKey_proves scalar_ne hashed_eq
  have product_eq : (deltas ++ [delta]).prod = deltas.prod * delta := by
    rw [List.prod_append, List.prod_singleton]
  refine
    { product_ne := ?_, delta1 := ?_, delta2 := ?_, h := ?_, l := ?_, keys_length := ?_,
      keys := ?_ }
  · rw [product_eq]
    exact prime_groupOrder.not_dvd_mul related.product_ne delta_ne
  · rw [product_eq]
    exact proves.deltaAfter
  · rw [product_eq]
    exact related.delta2.multiply two_ne_zero_extensionField delta
  · rw [product_eq]
    exact forall₂_scale_inverse related.h delta_ne
  · rw [product_eq]
    exact forall₂_scale_inverse related.l delta_ne
  · simp only [Parameters.withKey, List.length_append, List.length_singleton, related.keys_length]
  · intro index key own key_at own_at
    have index_lt : index < (deltas ++ [delta]).length :=
      (List.getElem?_eq_some_iff.mp own_at).choose
    simp only [List.length_append, List.length_singleton] at index_lt
    rcases Nat.lt_succ_iff_lt_or_eq.mp index_lt with earlier | rfl
    -- The keys before keep their scalars and their products, which are prefixes.
    · rw [List.getElem?_append_left earlier] at own_at
      simp only [Parameters.withKey] at key_at
      rw [List.getElem?_append_left (related.keys_length ▸ earlier)] at key_at
      rw [List.take_append_of_le_length earlier]
      exact related.keys index key own key_at own_at
    · simp only [Parameters.withKey] at key_at
      rw [← related.keys_length, List.getElem?_concat_length] at key_at
      rw [List.getElem?_concat_length] at own_at
      obtain rfl := Option.some.inj key_at
      obtain rfl := Option.some.inj own_at
      rw [List.take_of_length_le (by simp), product_eq]
      exact proves

/-- After any calls of contribute on new parameters, one scalar that the group order does not
divide, the product of all scalars that were drawn, relates what has been reached to the start, and
every key belongs to the scalar of its own contribution.  The next call fails only where a draw
never ends, and then changes nothing. -/
theorem contributions_related {hSize lSize : Int} {circuitHash? : Option Bytes}
    {start reached : Parameters} {deltas : List Nat}
    (made : Parameters.new hSize lSize circuitHash? = .ok start)
    (contributions : Contributions start deltas reached) :
    Related start deltas reached ∧
      ∀ (generator : Generator) (tag : Int),
        let contribution := reached.contribute generator tag
        (contribution.result = .error .stalled ∧ contribution.parameters = reached) ∨
          ∃ delta after fingerprint, drawScalar generator = some (delta, after) ∧
            contribution.result = .ok fingerprint := by
  obtain ⟨circuitHash, rfl⟩ := Parameters.eq_initial_of_new made
  have start_regular := Parameters.regular_initial hSize.toNat lSize.toNat circuitHash
  have reached_fine : reached.Regular ∧
      Related (.initial hSize.toNat lSize.toNat circuitHash) deltas reached := by
    -- Regular parameters are what makes every call either a contribution or nothing.
    induction contributions with
    | none => exact ⟨start_regular, .refl start_regular rfl rfl rfl⟩
    | @more deltas reached generator after tag delta fingerprint before drawn made' ih =>
        obtain ⟨regular, related⟩ := ih
        rcases regular.failed_or_made generator tag with
          ⟨stalled, -⟩ |
          ⟨own, second, scalar, hashed, own_drawn, own_ne, scalar_ne, hashed_eq, -, same⟩
        · rw [stalled] at made'
          contradiction
        · obtain ⟨rfl, rfl⟩ := Prod.mk.inj (Option.some.inj (drawn.symm.trans own_drawn))
          rw [same]
          exact ⟨regular.withKey own_ne scalar_ne (regular_of_hashToCurve hashed_eq),
            related.withKey own_ne scalar_ne hashed_eq⟩
    | @failed deltas reached generator tag fault before refused ih =>
        obtain ⟨regular, related⟩ := ih
        rcases regular.failed_or_made generator tag with
          ⟨-, same⟩ | ⟨own, second, scalar, hashed, -, -, -, -, fingerprint_eq, -⟩
        · rw [same]
          exact ⟨regular, related⟩
        · rw [fingerprint_eq] at refused
          contradiction
  obtain ⟨regular, related⟩ := reached_fine
  refine ⟨related, fun generator tag => ?_⟩
  rcases regular.failed_or_made generator tag with
    stalled | ⟨delta, after, scalar, hashed, drawn, -, -, -, fingerprint_eq, -⟩
  · exact .inl stalled
  · exact .inr ⟨delta, after, _, drawn, fingerprint_eq⟩

/-- The zero seed contributes to new parameters with one point in each query. -/
theorem contributions_related_zeroSeed :
    let start := Parameters.initial 1 1 ⟨List.replicate 64 7, rfl⟩
    let generator := Generator.ofSeed (Seed.ofDigest ⟨List.replicate 32 0, rfl⟩)
    let reached := (start.contribute generator 1).parameters
    Parameters.new 1 1 (some (List.replicate 64 7)) = .ok start ∧
      ∃ delta, Contributions start [delta] reached ∧ Related start [delta] reached := by
  intro start generator reached
  have made : Parameters.new 1 1 (some (List.replicate 64 7)) = .ok start := rfl
  have regular : start.Regular := Parameters.regular_initial 1 1 _
  obtain ⟨delta, second, scalar, third, hashed, delta_drawn, scalar_drawn, hashed_eq⟩ :=
    Parameters.draws_zeroSeed
  have contribute_eq := regular.contribute_eq delta_drawn scalar_drawn 1
  rw [hashed_eq] at contribute_eq
  have contributions : Contributions start [delta] reached :=
    .more .none delta_drawn (congrArg Contribution.result contribute_eq)
  exact ⟨made, delta, contributions, (contributions_related made contributions).1⟩

end Phase2
end BeaconCeremony

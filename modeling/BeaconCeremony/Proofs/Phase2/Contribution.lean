import BeaconCeremony.Proofs.Keystream.Generator
import BeaconCeremony.Proofs.Phase2.Format
import BeaconCeremony.Proofs.Phase2.Scaling

/-!
# Contributions keep parameters sound

A contribution multiplies points by scalars that the group order does not divide, so they stay
points other than the one at infinity.  Its key is bound to all keys before it, and the new product
belongs to it.
-/

namespace BeaconCeremony

namespace Phase2

open Curve Decoder

theorem not_dvd_of_drawScalar {generator after : Generator} {scalar : Nat}
    (drawn : drawScalar generator = some (scalar, after)) : ¬groupOrder ∣ scalar := by
  obtain ⟨⟨value, left⟩, below, same⟩ := Option.map_eq_some_iff.mp drawn
  obtain ⟨rfl, rfl⟩ := Prod.mk.inj same
  have value_lt : value < groupOrder - 1 := Generator.draw_lt below
  exact Nat.not_dvd_of_pos_of_lt (Nat.succ_pos value) (by omega)

theorem not_dvd_inverse {scalar : Nat} (scalar_ne : ¬groupOrder ∣ scalar) :
    ¬groupOrder ∣ inverseModulo groupOrder scalar := by
  intro divides
  rw [inverseModulo, powerModulo_eq, Nat.dvd_mod_iff dvd_rfl] at divides
  exact scalar_ne (prime_groupOrder.dvd_of_dvd_pow divides)

theorem regular_of_hashToCurve {digest : Digest 32} {point : G2}
    (hashed : hashToCurve digest = some point) : Regular2 point := by
  obtain ⟨⟨scalar, after⟩, drawn, rfl⟩ := Option.map_eq_some_iff.mp hashed
  exact regular2_multiply regular2_generator2 (not_dvd_of_drawScalar drawn)

theorem regular_scale {scalar : Nat} {points : List G1} (scalar_ne : ¬groupOrder ∣ scalar)
    (regular : ∀ point ∈ points, Regular1 point) :
    ∀ point ∈ scale scalar points, Regular1 point :=
  List.forall_mem_map.mpr fun point member => regular1_multiply (regular point member) scalar_ne

namespace Parameters

theorem regular_derivedPoint (circuitHash : Digest 64) (label : String) (index : Nat) :
    Regular1 (derivedPoint circuitHash label index) := by
  refine regular1_multiply regular1_generator1 ?_
  split
  · exact Nat.not_dvd_of_pos_of_lt Nat.one_pos prime_groupOrder.one_lt
  · rename_i scalar_ne
    exact Nat.not_dvd_of_pos_of_lt (Nat.pos_of_ne_zero scalar_ne)
      (Nat.mod_lt _ prime_groupOrder.pos)

theorem eq_initial_of_new {hSize lSize : Int} {circuitHash? : Option Bytes}
    {parameters : Parameters}
    (made : Parameters.new hSize lSize circuitHash? = .ok parameters) :
    ∃ circuitHash, parameters = initial hSize.toNat lSize.toNat circuitHash := by
  unfold Parameters.new at made
  split at made
  · contradiction
  · split at made
    · exact ⟨referenceCircuit, (Except.ok.inj made).symm⟩
    · split at made
      · rename_i circuitHash _
        exact ⟨circuitHash, (Except.ok.inj made).symm⟩
      · contradiction

theorem regular_initial (hSize lSize : Nat) (circuitHash : Digest 64) :
    (initial hSize lSize circuitHash).Regular where
  delta1 := regular1_generator1
  delta2 := regular2_generator2
  h := List.forall_mem_map.mpr fun index _ => regular_derivedPoint circuitHash "h" index
  l := List.forall_mem_map.mpr fun index _ => regular_derivedPoint circuitHash "l" index
  keys := List.forall_mem_nil PublicKey.Regular

theorem sound_initial {hSize lSize : Nat} (circuitHash : Digest 64) (h_small : hSize < UInt32.size)
    (l_small : lSize < UInt32.size) : (initial hSize lSize circuitHash).Sound :=
  have regular := regular_initial hSize lSize circuitHash
  { delta1 := regular.delta1
    delta2 := regular.delta2
    h := regular.h
    l := regular.l
    keys := regular.keys
    h_small := by simpa [initial] using h_small
    l_small := by simpa [initial] using l_small
    keys_small := Nat.zero_lt_succ _
    bound := trivial
    closed := ⟨generator1.same_self, generator2.same_self⟩ }

variable {parameters : Parameters}

/-- The transcript hash of the next key. -/
def nextTranscript (parameters : Parameters) (delta scalar : Nat) : Digest 64 :=
  boundHash parameters.circuitHash parameters.contributions (generator1.multiply scalar)
    ((generator1.multiply scalar).multiply delta)

/-- The next key. -/
def nextKey (parameters : Parameters) (delta scalar : Nat) (hashed : G2) : PublicKey where
  deltaAfter := parameters.delta1.multiply delta
  s := generator1.multiply scalar
  sDelta := (generator1.multiply scalar).multiply delta
  rDelta := hashed.multiply delta
  transcript := parameters.nextTranscript delta scalar

/-- All three draws of a contribution come to an end: those of the two scalars, and that of the
point which the transcript hashes to. -/
def Draws (parameters : Parameters) (generator : Generator) : Prop :=
  ∃ delta second scalar third hashed, drawScalar generator = some (delta, second) ∧
    drawScalar second = some (scalar, third) ∧
    hashToCurve (firstHalf (parameters.nextTranscript delta scalar)) = some hashed

theorem Regular.keys_writable (regular : parameters.Regular) :
    ∀ key ∈ parameters.contributions, key.Writable :=
  fun key member => (regular.keys key member).writable

/-! ### Earlier keys that can be written

The two points that a transcript hash binds are multiples of the generator.  So the hash only needs
the earlier keys to be written, and a contribution gets as far as its own key. -/

section Drawing

variable {delta scalar : Nat} (keys : ∀ key ∈ parameters.contributions, key.Writable)

include keys

theorem transcriptDigest_eq (delta_ne : ¬groupOrder ∣ delta) (scalar_ne : ¬groupOrder ∣ scalar) :
    transcriptDigest parameters.circuitHash parameters.contributions (generator1.multiply scalar)
      ((generator1.multiply scalar).multiply delta) =
      .ok (parameters.nextTranscript delta scalar) := by
  have s_regular := regular1_multiply regular1_generator1 scalar_ne
  exact Phase2.transcriptDigest_eq parameters.circuitHash keys s_regular.z_ne
    (regular1_multiply s_regular delta_ne).z_ne

theorem contribute_eq {generator second third : Generator}
    (delta_drawn : drawScalar generator = some (delta, second))
    (scalar_drawn : drawScalar second = some (scalar, third)) (tag : Int) :
    parameters.contribute generator tag =
      match hashToCurve (firstHalf (parameters.nextTranscript delta scalar)) with
      | none => ⟨.error .stalled, parameters, third, []⟩
      | some hashed =>
        let key := parameters.nextKey delta scalar hashed
        ⟨key.fingerprint.mapError .point, parameters.withKey delta key, third,
          progress "h" tag parameters.h.length ++ progress "l" tag parameters.l.length⟩ := by
  have transcript_eq := transcriptDigest_eq keys (not_dvd_of_drawScalar delta_drawn)
    (not_dvd_of_drawScalar scalar_drawn)
  simp only [contribute, delta_drawn, scalar_drawn, transcript_eq, toList_points_scaleQuery,
    toList_log_scaleQuery]
  rfl

/-- Either one of the three draws does not end, and nothing changes, or all are made. -/
theorem stalled_or_draws (generator : Generator) (tag : Int) :
    ((parameters.contribute generator tag).result = .error .stalled ∧
        (parameters.contribute generator tag).parameters = parameters) ∨
      parameters.Draws generator := by
  cases delta_drawn : drawScalar generator with
  | none => exact .inl (by simp only [contribute, delta_drawn, and_self])
  | some drawn =>
      obtain ⟨delta, second⟩ := drawn
      cases scalar_drawn : drawScalar second with
      | none => exact .inl (by simp only [contribute, delta_drawn, scalar_drawn, and_self])
      | some drawn =>
          obtain ⟨scalar, third⟩ := drawn
          cases hashed_eq : hashToCurve (firstHalf (parameters.nextTranscript delta scalar)) with
          | none =>
              rw [contribute_eq keys delta_drawn scalar_drawn, hashed_eq]
              exact .inl ⟨rfl, rfl⟩
          | some hashed =>
              exact .inr
                ⟨delta, second, scalar, third, hashed, delta_drawn, scalar_drawn, hashed_eq⟩

end Drawing

section Contributing

variable {delta scalar : Nat} (regular : parameters.Regular) (delta_ne : ¬groupOrder ∣ delta)
  (scalar_ne : ¬groupOrder ∣ scalar)

include regular delta_ne scalar_ne

theorem Regular.regular_nextKey {hashed : G2} (hashed_regular : Regular2 hashed) :
    (parameters.nextKey delta scalar hashed).Regular where
  deltaAfter := regular1_multiply regular.delta1 delta_ne
  s := regular1_multiply regular1_generator1 scalar_ne
  sDelta := regular1_multiply (regular1_multiply regular1_generator1 scalar_ne) delta_ne
  rDelta := regular2_multiply hashed_regular delta_ne

theorem Regular.transcriptDigest_eq :
    transcriptDigest parameters.circuitHash parameters.contributions (generator1.multiply scalar)
      ((generator1.multiply scalar).multiply delta) =
      .ok (parameters.nextTranscript delta scalar) :=
  Parameters.transcriptDigest_eq regular.keys_writable delta_ne scalar_ne

/-- A contribution leaves regular parameters behind. -/
theorem Regular.withKey {hashed : G2} (hashed_regular : Regular2 hashed) :
    (parameters.withKey delta (parameters.nextKey delta scalar hashed)).Regular := by
  have key_regular := regular.regular_nextKey delta_ne scalar_ne hashed_regular
  exact
    { delta1 := key_regular.deltaAfter
      delta2 := regular2_multiply regular.delta2 delta_ne
      h := regular_scale (not_dvd_inverse delta_ne) regular.h
      l := regular_scale (not_dvd_inverse delta_ne) regular.l
      keys := List.forall_mem_append.mpr ⟨regular.keys, List.forall_mem_singleton.mpr key_regular⟩ }

end Contributing

/-- A contribution with room for its key leaves sound parameters behind. -/
theorem Sound.withKey {delta scalar : Nat} {hashed : G2} (sound : parameters.Sound)
    (delta_ne : ¬groupOrder ∣ delta) (scalar_ne : ¬groupOrder ∣ scalar)
    (hashed_regular : Regular2 hashed)
    (room : parameters.contributions.length + 1 < UInt32.size) :
    (parameters.withKey delta (parameters.nextKey delta scalar hashed)).Sound := by
  have regular := sound.regular.withKey delta_ne scalar_ne hashed_regular
  exact
    { delta1 := regular.delta1
      delta2 := regular.delta2
      h := regular.h
      l := regular.l
      keys := regular.keys
      h_small := (List.length_map _).trans_lt sound.h_small
      l_small := (List.length_map _).trans_lt sound.l_small
      keys_small := List.length_append.trans_lt room
      bound := (bound_append_singleton parameters.circuitHash).mpr ⟨sound.bound, rfl⟩
      closed := by
        rw [Closed, Parameters.withKey, List.getLast?_concat]
        exact Point.same_self _ }

theorem Regular.contribute_eq {generator second third : Generator} {delta scalar : Nat}
    (regular : parameters.Regular) (delta_drawn : drawScalar generator = some (delta, second))
    (scalar_drawn : drawScalar second = some (scalar, third)) (tag : Int) :
    parameters.contribute generator tag =
      match hashToCurve (firstHalf (parameters.nextTranscript delta scalar)) with
      | none => ⟨.error .stalled, parameters, third, []⟩
      | some hashed =>
        let key := parameters.nextKey delta scalar hashed
        ⟨.ok (blake2b key.written), parameters.withKey delta key, third,
          progress "h" tag parameters.h.length ++ progress "l" tag parameters.l.length⟩ := by
  rw [Parameters.contribute_eq regular.keys_writable delta_drawn scalar_drawn]
  cases hashed : hashToCurve (firstHalf (parameters.nextTranscript delta scalar)) with
  | none => rfl
  | some point =>
      have key_regular := regular.regular_nextKey (not_dvd_of_drawScalar delta_drawn)
        (not_dvd_of_drawScalar scalar_drawn) (regular_of_hashToCurve hashed)
      simp only [key_regular.writable.fingerprint_eq]
      rfl

/-- A contribution to regular parameters only fails where one of the three draws does not end, and
then it changes nothing. -/
theorem Regular.stalled_or_draws (regular : parameters.Regular) (generator : Generator)
    (tag : Int) :
    ((parameters.contribute generator tag).result = .error .stalled ∧
        (parameters.contribute generator tag).parameters = parameters) ∨
      parameters.Draws generator :=
  Parameters.stalled_or_draws regular.keys_writable generator tag

/-- What a contribution to regular parameters comes to: nothing, or the scalars are drawn and the
key is added. -/
theorem Regular.failed_or_made (regular : parameters.Regular) (generator : Generator) (tag : Int) :
    let contribution := parameters.contribute generator tag
    (contribution.result = .error .stalled ∧ contribution.parameters = parameters) ∨
      ∃ delta second scalar hashed, drawScalar generator = some (delta, second) ∧
        ¬groupOrder ∣ delta ∧ ¬groupOrder ∣ scalar ∧
        hashToCurve (firstHalf (parameters.nextTranscript delta scalar)) = some hashed ∧
        contribution.result = .ok (blake2b (parameters.nextKey delta scalar hashed).written) ∧
        contribution.parameters =
          parameters.withKey delta (parameters.nextKey delta scalar hashed) := by
  intro contribution
  rcases regular.stalled_or_draws generator tag with
    stalled | ⟨delta, second, scalar, third, hashed, delta_drawn, scalar_drawn, hashed_eq⟩
  · exact .inl stalled
  · have contribute_eq := regular.contribute_eq delta_drawn scalar_drawn tag
    rw [hashed_eq] at contribute_eq
    exact .inr ⟨delta, second, scalar, hashed, delta_drawn, not_dvd_of_drawScalar delta_drawn,
      not_dvd_of_drawScalar scalar_drawn, hashed_eq, congrArg Contribution.result contribute_eq,
      congrArg Contribution.parameters contribute_eq⟩

/-- Whether all three draws of a contribution come to an end, by making them. -/
def drawsEnd (parameters : Parameters) (generator : Generator) : Bool :=
  Option.isSome do
    let delta ← drawScalar generator
    let scalar ← drawScalar delta.2
    let transcript ← (transcriptDigest parameters.circuitHash parameters.contributions
      (generator1.multiply scalar.1) ((generator1.multiply scalar.1).multiply delta.1)).toOption
    hashToCurve (firstHalf transcript)

theorem Regular.draws_of_drawsEnd {generator : Generator} (regular : parameters.Regular)
    (ended : parameters.drawsEnd generator = true) : parameters.Draws generator := by
  obtain ⟨hashed, hashed_eq⟩ := Option.isSome_iff_exists.mp ended
  obtain ⟨⟨delta, second⟩, delta_drawn, hashed_eq⟩ := Option.bind_eq_some_iff.mp hashed_eq
  obtain ⟨⟨scalar, third⟩, scalar_drawn, hashed_eq⟩ := Option.bind_eq_some_iff.mp hashed_eq
  obtain ⟨transcript, transcript_eq, hashed_eq⟩ := Option.bind_eq_some_iff.mp hashed_eq
  rw [regular.transcriptDigest_eq (not_dvd_of_drawScalar delta_drawn)
    (not_dvd_of_drawScalar scalar_drawn)] at transcript_eq
  obtain rfl := Option.some.inj transcript_eq
  exact ⟨delta, second, scalar, third, hashed, delta_drawn, scalar_drawn, hashed_eq⟩

/-- With the zero seed all three draws come to an end for new parameters with one point in each
query. -/
theorem draws_zeroSeed :
    (initial 1 1 ⟨List.replicate 64 7, rfl⟩).Draws
      (Generator.ofSeed (Seed.ofDigest ⟨List.replicate 32 0, rfl⟩)) :=
  (regular_initial 1 1 _).draws_of_drawsEnd (by decide +kernel)

theorem Sound.transcriptDigest_eq {delta scalar : Nat} (sound : parameters.Sound)
    (delta_ne : ¬groupOrder ∣ delta) (scalar_ne : ¬groupOrder ∣ scalar) :
    transcriptDigest parameters.circuitHash parameters.contributions (generator1.multiply scalar)
      ((generator1.multiply scalar).multiply delta) =
      .ok (parameters.nextTranscript delta scalar) :=
  sound.regular.transcriptDigest_eq delta_ne scalar_ne

theorem Sound.contribute_eq {generator second third : Generator} {delta scalar : Nat}
    (sound : parameters.Sound) (delta_drawn : drawScalar generator = some (delta, second))
    (scalar_drawn : drawScalar second = some (scalar, third)) (tag : Int) :
    parameters.contribute generator tag =
      match hashToCurve (firstHalf (parameters.nextTranscript delta scalar)) with
      | none => ⟨.error .stalled, parameters, third, []⟩
      | some hashed =>
        let key := parameters.nextKey delta scalar hashed
        ⟨.ok (blake2b key.written), parameters.withKey delta key, third,
          progress "h" tag parameters.h.length ++ progress "l" tag parameters.l.length⟩ :=
  sound.regular.contribute_eq delta_drawn scalar_drawn tag

end Parameters
end Phase2
end BeaconCeremony

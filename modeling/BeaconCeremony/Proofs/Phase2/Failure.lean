import BeaconCeremony.Proofs.Phase2.Contribution

/-!
# Contributions that fail

The key of a contribution is written last, when the parameters have been changed.  The only one of
its points that may be the point at infinity is the new product, and only if the old one lies
outside the curve.  Then the contribution fails, the change stays, and nothing can be written any
more.  Any other contribution succeeds or draws without end, which changes nothing.
-/

namespace BeaconCeremony
namespace Phase2

open Curve

theorem PublicKey.fingerprint_of_isInfinity {key : PublicKey}
    (infinite : key.deltaAfter.isInfinity = true) : key.fingerprint = .error .infinity1 := by
  rw [fingerprint, encode, encode1_of_isInfinity infinite]
  rfl

namespace Parameters

variable {parameters : Parameters} {generator : Generator} {delta scalar : Nat} {hashed : G2}

theorem toBytes_of_isInfinity (infinite : parameters.delta1.isInfinity = true) :
    parameters.toBytes = .error .infinity1 := by
  rw [toBytes, parts, encode1_of_isInfinity infinite]
  rfl

/-- The three draws of a contribution come to an end, and its scalar takes the first product to the
point at infinity. -/
structure Vanishes (parameters : Parameters) (generator : Generator) (delta scalar : Nat)
    (hashed : G2) : Prop where
  drawn : ∃ second third, drawScalar generator = some (delta, second) ∧
    drawScalar second = some (scalar, third)
  hashed_eq : hashToCurve (firstHalf (parameters.nextTranscript delta scalar)) = some hashed
  infinite : (parameters.delta1.multiply delta).isInfinity = true

/-- A contribution that has failed after the change: both products, both queries and the keys are
those of a contribution that was made, and there is no written form of them. -/
structure Spoiled (parameters : Parameters) (delta scalar : Nat) (hashed : G2)
    (contribution : Contribution) : Prop where
  result_eq : contribution.result = .error (.point .infinity1)
  parameters_eq : contribution.parameters =
    parameters.withKey delta (parameters.nextKey delta scalar hashed)
  toBytes_eq : contribution.parameters.toBytes = .error .infinity1

theorem Spoiled.length_contributions {contribution : Contribution}
    (spoiled : parameters.Spoiled delta scalar hashed contribution) :
    contribution.parameters.contributions.length = parameters.contributions.length + 1 := by
  rw [spoiled.parameters_eq, withKey, List.length_append, List.length_singleton]

theorem Spoiled.changed {contribution : Contribution}
    (spoiled : parameters.Spoiled delta scalar hashed contribution) :
    contribution.parameters ≠ parameters := by
  intro unchanged
  have added := spoiled.length_contributions
  rw [unchanged] at added
  omega

theorem Vanishes.spoiled (vanishes : parameters.Vanishes generator delta scalar hashed)
    (keys : ∀ key ∈ parameters.contributions, key.Writable) (tag : Int) :
    parameters.Spoiled delta scalar hashed (parameters.contribute generator tag) := by
  obtain ⟨second, third, delta_drawn, scalar_drawn⟩ := vanishes.drawn
  have key_eq : (parameters.nextKey delta scalar hashed).fingerprint = .error .infinity1 :=
    PublicKey.fingerprint_of_isInfinity vanishes.infinite
  rw [contribute_eq keys delta_drawn scalar_drawn, vanishes.hashed_eq]
  exact
    { result_eq := congrArg (Except.mapError ContributionFault.point) key_eq
      parameters_eq := rfl
      toBytes_eq := toBytes_of_isInfinity vanishes.infinite }

/-- A product on the curve stays a point other than the one at infinity. -/
theorem Vanishes.not_regular (vanishes : parameters.Vanishes generator delta scalar hashed) :
    ¬Regular1 parameters.delta1 := by
  intro regular
  obtain ⟨second, third, delta_drawn, -⟩ := vanishes.drawn
  have z_ne := (regular1_multiply regular (not_dvd_of_drawScalar delta_drawn)).z_ne
  exact z_ne (Point.isInfinity_iff.mp vanishes.infinite)

theorem writable_nextKey {second third : Generator}
    (delta_drawn : drawScalar generator = some (delta, second))
    (scalar_drawn : drawScalar second = some (scalar, third))
    (hashed_eq : hashToCurve (firstHalf (parameters.nextTranscript delta scalar)) = some hashed)
    (finite : (parameters.delta1.multiply delta).z ≠ 0) :
    (parameters.nextKey delta scalar hashed).Writable := by
  have delta_ne := not_dvd_of_drawScalar delta_drawn
  have s_regular := regular1_multiply regular1_generator1 (not_dvd_of_drawScalar scalar_drawn)
  exact
    { deltaAfter := finite
      s := s_regular.z_ne
      sDelta := (regular1_multiply s_regular delta_ne).z_ne
      rDelta := (regular2_multiply (regular_of_hashToCurve hashed_eq) delta_ne).z_ne }

/-- No other point of the key and no earlier key is in the way. -/
theorem exists_vanishes_of_failed (keys : ∀ key ∈ parameters.contributions, key.Writable)
    {tag : Int} {error : PointError}
    (failed : (parameters.contribute generator tag).result = .error (.point error)) :
    ∃ delta scalar hashed, parameters.Vanishes generator delta scalar hashed := by
  rcases stalled_or_draws keys generator tag with
    ⟨stalled, -⟩ | ⟨delta, second, scalar, third, hashed, delta_drawn, scalar_drawn, hashed_eq⟩
  · cases failed.symm.trans stalled
  · refine ⟨delta, scalar, hashed, ⟨second, third, delta_drawn, scalar_drawn⟩, hashed_eq, ?_⟩
    by_contra finite
    have key_writable := writable_nextKey delta_drawn scalar_drawn hashed_eq
      (mt Point.isInfinity_iff.mpr finite)
    rw [contribute_eq keys delta_drawn scalar_drawn, hashed_eq] at failed
    simp only [key_writable.fingerprint_eq] at failed
    contradiction

theorem parameters_of_stalled (keys : ∀ key ∈ parameters.contributions, key.Writable) {tag : Int}
    (stalled : (parameters.contribute generator tag).result = .error .stalled) :
    (parameters.contribute generator tag).parameters = parameters := by
  rcases stalled_or_draws keys generator tag with
    ⟨-, unchanged⟩ | ⟨delta, second, scalar, third, hashed, delta_drawn, scalar_drawn, hashed_eq⟩
  · exact unchanged
  · rw [contribute_eq keys delta_drawn scalar_drawn, hashed_eq] at stalled
    cases key_eq : (parameters.nextKey delta scalar hashed).fingerprint with
    | error error => simp [key_eq, Except.mapError] at stalled
    | ok digest => simp [key_eq, Except.mapError] at stalled

/-- A contribution to parameters that have been read raises an error exactly if its scalar takes the
first product to the point at infinity, for which that product must have been read without checks
and lie outside the curve.  The change is then complete, and nothing can be written any more.  A
contribution that draws without end changes nothing. -/
theorem failed_contribution {verify : Bool} {bytes : Bytes}
    (read : ofBytes verify bytes = .ok parameters) (generator : Generator) (tag : Int) :
    let contribution := parameters.contribute generator tag
    (∀ error, contribution.result = .error (.point error) →
      verify = false ∧ parameters.delta1.onCurve constant = false ∧
        ∃ delta scalar hashed, parameters.Vanishes generator delta scalar hashed) ∧
      (∀ delta scalar hashed, parameters.Vanishes generator delta scalar hashed →
        parameters.Spoiled delta scalar hashed contribution) ∧
      (contribution.result = .error .stalled →
        contribution.parameters = parameters ∧ contribution.parameters.toBytes = .ok bytes) := by
  intro contribution
  have readFrom := readFrom_of_ofBytes read
  have keys := readFrom.writable.keys
  refine ⟨?raised, fun delta scalar hashed vanishes => vanishes.spoiled keys tag, ?stalled⟩
  case raised =>
    intro error failed
    obtain ⟨delta, scalar, hashed, vanishes⟩ := exists_vanishes_of_failed keys failed
    refine ⟨?_, ?_, delta, scalar, hashed, vanishes⟩
    · by_contra verified
      exact vanishes.not_regular (readFrom.sound (Bool.eq_true_of_not_eq_false verified)).delta1
    · by_contra onCurve
      -- what has been read is affine, and affine points of the curve are regular
      have affine : parameters.delta1.normalized = parameters.delta1 :=
        congrArg Parameters.delta1 readFrom.affine
      rw [Bool.not_eq_false, ← affine] at onCurve
      have regular := regular1_ofAffine onCurve
      exact vanishes.not_regular (affine ▸ regular)
  case stalled =>
    intro stalled
    have unchanged := parameters_of_stalled keys stalled
    refine ⟨unchanged, ?_⟩
    rw [unchanged, readFrom.writable.toBytes_eq, readFrom.written]

/-- Parameters whose first product `(0, 1)` lies on `y² = x³ + 1`, where its order is three. -/
def lowOrder : Parameters where
  circuitHash := ⟨List.replicate 64 7, rfl⟩
  delta1 := Point.ofAffine 0 1
  delta2 := generator2
  h := [generator1]
  l := [generator1]
  contributions := []

theorem writable_lowOrder : lowOrder.Writable where
  delta1 := BaseField.interpretation.one_ne_zero
  delta2 := regular2_generator2.z_ne
  h := List.forall_mem_singleton.mpr regular1_generator1.z_ne
  l := List.forall_mem_singleton.mpr regular1_generator1.z_ne
  keys := List.forall_mem_nil PublicKey.Writable
  h_small := by decide
  l_small := by decide
  keys_small := by decide

theorem normalized_lowOrder : lowOrder.normalized = lowOrder := by
  have generator1_eq : generator1.normalized = generator1 :=
    BaseField.interpretation.normalized_ofAffine _ _
  have generator2_eq : generator2.normalized = generator2 :=
    QuadraticField.interpretation.normalized_ofAffine _ _
  have delta1_eq : lowOrder.delta1.normalized = lowOrder.delta1 :=
    BaseField.interpretation.normalized_ofAffine _ _
  rw [normalized, delta1_eq]
  simp only [lowOrder, generator1_eq, generator2_eq, List.map_cons, List.map_nil]

theorem ofBytes_lowOrder : ofBytes false lowOrder.writtenParts.flatten = .ok lowOrder := by
  have accepted : false = true → lowOrder.Sound := nofun
  rw [writable_lowOrder.ofBytes_eq accepted, normalized_lowOrder]

/-- The first scalar of the zero seed is a multiple of three. -/
theorem exists_vanishes_lowOrder :
    let generator := Generator.ofSeed (Seed.ofDigest ⟨List.replicate 32 0, rfl⟩)
    ∃ delta scalar hashed, lowOrder.Vanishes generator delta scalar hashed := by
  intro generator
  have all_infinite : (drawScalar generator).all
      (fun drawn => (lowOrder.delta1.multiply drawn.1).isInfinity) = true := by
    decide +kernel
  obtain ⟨delta, second, scalar, third, hashed, delta_drawn, scalar_drawn, hashed_eq⟩ :=
    draws_zeroSeed
  have infinite : (lowOrder.delta1.multiply delta).isInfinity = true :=
    (Option.all_eq_true _ _).mp all_infinite _ delta_drawn
  exact ⟨delta, scalar, hashed, ⟨second, third, delta_drawn, scalar_drawn⟩, hashed_eq, infinite⟩

/-- A failure that takes a product of order three to the point at infinity. -/
theorem failed_contribution_lowOrder :
    let contribution := lowOrder.contribute
      (Generator.ofSeed (Seed.ofDigest ⟨List.replicate 32 0, rfl⟩)) 0
    ofBytes false lowOrder.writtenParts.flatten = .ok lowOrder ∧
      contribution.result = .error (.point .infinity1) ∧
      lowOrder.delta1.onCurve constant = false ∧
      ∃ delta scalar hashed, lowOrder.Spoiled delta scalar hashed contribution := by
  intro contribution
  have settled := failed_contribution ofBytes_lowOrder
    (Generator.ofSeed (Seed.ofDigest ⟨List.replicate 32 0, rfl⟩)) 0
  obtain ⟨delta, scalar, hashed, vanishes⟩ := exists_vanishes_lowOrder
  have spoiled : lowOrder.Spoiled delta scalar hashed contribution :=
    settled.2.1 delta scalar hashed vanishes
  have offCurve : lowOrder.delta1.onCurve constant = false :=
    (settled.1 .infinity1 spoiled.result_eq).2.1
  exact ⟨ofBytes_lowOrder, spoiled.result_eq, offCurve, delta, scalar, hashed, spoiled⟩

/-- That failure adds a key to parameters that had none and had a written form. -/
theorem lowOrder_changed_by_failure :
    let contribution := lowOrder.contribute
      (Generator.ofSeed (Seed.ofDigest ⟨List.replicate 32 0, rfl⟩)) 0
    ofBytes false lowOrder.writtenParts.flatten = .ok lowOrder ∧
      contribution.result = .error (.point .infinity1) ∧
      contribution.parameters ≠ lowOrder ∧
      contribution.parameters.contributions.length = lowOrder.contributions.length + 1 ∧
      lowOrder.toBytes = .ok lowOrder.writtenParts.flatten ∧
      contribution.parameters.toBytes = .error .infinity1 := by
  intro contribution
  obtain ⟨delta, scalar, hashed, vanishes⟩ := exists_vanishes_lowOrder
  have spoiled : lowOrder.Spoiled delta scalar hashed contribution :=
    vanishes.spoiled writable_lowOrder.keys 0
  exact ⟨ofBytes_lowOrder, spoiled.result_eq, spoiled.changed, spoiled.length_contributions,
    writable_lowOrder.toBytes_eq, spoiled.toBytes_eq⟩

end Parameters
end Phase2
end BeaconCeremony

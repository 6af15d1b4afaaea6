import BeaconCeremony.Proofs.Phase2.Contribution

/-!
# Rounds of a ceremony

In a round a contribution is made, the parameters are written, and what has been written is read
back with all checks.  From parameters that are new or have been read with all checks, rounds can go
on for as long as there is room for keys, and each of them adds one key and one fingerprint to those
before it.
-/

namespace BeaconCeremony
namespace Phase2

open Curve

/-- Parameters that are new, with queries whose sizes fit in a word, or that have been read with all
checks. -/
inductive Verified : Parameters → Prop
  | new {hSize lSize : Int} {circuitHash? : Option Bytes} {parameters : Parameters}
      (h_small : hSize < UInt32.size) (l_small : lSize < UInt32.size)
      (made : Parameters.new hSize lSize circuitHash? = .ok parameters) : Verified parameters
  | read {bytes : Bytes} {parameters : Parameters}
      (read : Parameters.ofBytes true bytes = .ok parameters) : Verified parameters

/-- A contribution is made, the parameters are written, and what has been written is read back with
all checks. -/
inductive Round (before : Parameters) (generator : Generator) (tag : Int)
    (fingerprint : Digest 64) (after : Parameters) : Prop
  | done {bytes : Bytes} (room : before.contributions.length + 1 < UInt32.size)
      (contributed : (before.contribute generator tag).result = .ok fingerprint)
      (written : (before.contribute generator tag).parameters.toBytes = .ok bytes)
      (read : Parameters.ofBytes true bytes = .ok after)

/-- Some rounds one after the other, with their fingerprints. -/
inductive Rounds (start : Parameters) : List (Digest 64) → Parameters → Prop
  | none : Rounds start [] start
  | more {fingerprints : List (Digest 64)} {reached after : Parameters} {generator : Generator}
      {tag : Int} {fingerprint : Digest 64} (before : Rounds start fingerprints reached)
      (round : Round reached generator tag fingerprint after) :
      Rounds start (fingerprints ++ [fingerprint]) after

/-- Parameters that differ from earlier ones by contributions with the given fingerprints. -/
structure Extends (start : Parameters) (fingerprints : List (Digest 64)) (reached : Parameters) :
    Prop where
  circuitHash : reached.circuitHash = start.circuitHash
  h_length : reached.h.length = start.h.length
  l_length : reached.l.length = start.l.length
  /-- There is one new key for every contribution, after the keys from before as they were
  written. -/
  keys : ∃ old new, start.contributions.mapM PublicKey.encode = .ok old ∧
    reached.contributions.mapM PublicKey.encode = .ok (old ++ new) ∧
    new.length = fingerprints.length
  /-- The new fingerprints follow those from before. -/
  fingerprints : ∃ old, start.fingerprints = .ok old ∧
    reached.fingerprints = .ok (old ++ fingerprints)

namespace Parameters

variable {parameters : Parameters}

theorem Sound.encode_eq (sound : parameters.Sound) :
    parameters.contributions.mapM PublicKey.encode =
      .ok (parameters.contributions.map PublicKey.written) :=
  mapM_eq_ok fun key member => (sound.writable.keys key member).encode_eq

theorem Sound.fingerprints_eq (sound : parameters.Sound) :
    parameters.fingerprints =
      .ok ((parameters.contributions.map PublicKey.written).map blake2b) := by
  rw [List.map_map]
  exact mapM_eq_ok fun key member => (sound.writable.keys key member).fingerprint_eq

theorem map_written_normalized (parameters : Parameters) :
    parameters.normalized.contributions.map PublicKey.written =
      parameters.contributions.map PublicKey.written := by
  rw [Parameters.normalized, List.map_map]
  exact List.map_congr_left fun key _ => key.written_normalized

end Parameters

theorem Verified.sound {parameters : Parameters} (verified : Verified parameters) :
    parameters.Sound := by
  cases verified with
  | read read => exact Parameters.sound_of_ofBytes read
  | @new hSize lSize circuitHash? _ h_small l_small made =>
      obtain ⟨circuitHash, rfl⟩ := Parameters.eq_initial_of_new made
      have size_pos : 0 < UInt32.size := by decide
      have h_word : hSize.toNat < UInt32.size := by omega
      have l_word : lSize.toNat < UInt32.size := by omega
      exact Parameters.sound_initial circuitHash h_word l_word

theorem Extends.refl {parameters : Parameters} (sound : parameters.Sound) :
    Extends parameters [] parameters where
  circuitHash := rfl
  h_length := rfl
  l_length := rfl
  keys := ⟨_, [], sound.encode_eq, (List.append_nil _).symm ▸ sound.encode_eq, rfl⟩
  fingerprints := ⟨_, sound.fingerprints_eq, (List.append_nil _).symm ▸ sound.fingerprints_eq⟩

theorem Extends.trans {start middle reached : Parameters} {first second : List (Digest 64)}
    (before : Extends start first middle) (after : Extends middle second reached) :
    Extends start (first ++ second) reached := by
  obtain ⟨old, new, start_keys, middle_keys, new_length⟩ := before.keys
  obtain ⟨middle_old, more, middle_keys', reached_keys, more_length⟩ := after.keys
  obtain ⟨earlier, start_fingerprints, middle_fingerprints⟩ := before.fingerprints
  obtain ⟨middle_earlier, middle_fingerprints', reached_fingerprints⟩ := after.fingerprints
  obtain rfl := Except.ok.inj (middle_keys.symm.trans middle_keys')
  obtain rfl := Except.ok.inj (middle_fingerprints.symm.trans middle_fingerprints')
  exact
    { circuitHash := after.circuitHash.trans before.circuitHash
      h_length := after.h_length.trans before.h_length
      l_length := after.l_length.trans before.l_length
      keys := ⟨old, new ++ more, start_keys, List.append_assoc old new more ▸ reached_keys, by
        rw [List.length_append, List.length_append, new_length, more_length]⟩
      fingerprints := ⟨earlier, start_fingerprints,
        List.append_assoc earlier first second ▸ reached_fingerprints⟩ }

theorem Parameters.Sound.extends_withKey {parameters : Parameters} {delta : Nat} {key : PublicKey}
    (sound : parameters.Sound) (withKey_sound : (parameters.withKey delta key).Sound) :
    Extends parameters [blake2b key.written] (parameters.withKey delta key).normalized where
  circuitHash := rfl
  h_length := (List.length_map _).trans (List.length_map _)
  l_length := (List.length_map _).trans (List.length_map _)
  keys := by
    refine ⟨_, [key.written], sound.encode_eq, ?_, rfl⟩
    rw [withKey_sound.normalized.encode_eq, Parameters.map_written_normalized]
    exact congrArg Except.ok List.map_append
  fingerprints := by
    refine ⟨_, sound.fingerprints_eq, ?_⟩
    rw [withKey_sound.normalized.fingerprints_eq, Parameters.map_written_normalized,
      Parameters.withKey, List.map_append, List.map_append]
    rfl

/-- A contribution whose three scalars have been drawn can be written and read back. -/
theorem Parameters.Sound.round {before : Parameters} {generator second third : Generator}
    {delta scalar : Nat} {hashed : G2} (sound : before.Sound)
    (room : before.contributions.length + 1 < UInt32.size)
    (delta_drawn : drawScalar generator = some (delta, second))
    (scalar_drawn : drawScalar second = some (scalar, third))
    (hashed_eq : hashToCurve (firstHalf (before.nextTranscript delta scalar)) = some hashed)
    (tag : Int) :
    let key := before.nextKey delta scalar hashed
    let after := (before.withKey delta key).normalized
    Round before generator tag (blake2b key.written) after ∧ Verified after ∧
      Extends before [blake2b key.written] after := by
  intro key after
  have withKey_sound : (before.withKey delta key).Sound :=
    sound.withKey (not_dvd_of_drawScalar delta_drawn) (not_dvd_of_drawScalar scalar_drawn)
      (regular_of_hashToCurve hashed_eq) room
  have contribute_eq := sound.contribute_eq delta_drawn scalar_drawn tag
  rw [hashed_eq] at contribute_eq
  have read := withKey_sound.writable.ofBytes_eq fun _ : true = true => withKey_sound
  refine ⟨.done room ?_ ?_ read, .read read, sound.extends_withKey withKey_sound⟩
  · rw [contribute_eq]
  · rw [contribute_eq]
    exact withKey_sound.writable.toBytes_eq

theorem Round.eq {before left right : Parameters} {generator : Generator} {tag : Int}
    {first second : Digest 64} (one : Round before generator tag first left)
    (other : Round before generator tag second right) : first = second ∧ left = right := by
  obtain ⟨_, contributed, written, read⟩ := one
  obtain ⟨_, contributed', written', read'⟩ := other
  obtain rfl := Except.ok.inj (written.symm.trans written')
  exact ⟨Except.ok.inj (contributed.symm.trans contributed'),
    Except.ok.inj (read.symm.trans read')⟩

theorem Round.extends {before after : Parameters} {generator : Generator} {tag : Int}
    {fingerprint : Digest 64} (round : Round before generator tag fingerprint after)
    (sound : before.Sound) : Extends before [fingerprint] after := by
  obtain ⟨room, contributed, written, read⟩ := round
  -- The contribution succeeded, so all three scalars were drawn, and then the round is known.
  rcases sound.regular.stalled_or_draws generator tag with
    ⟨stalled, -⟩ | ⟨delta, second, scalar, third, hashed, delta_drawn, scalar_drawn, hashed_eq⟩
  · rw [stalled] at contributed
    contradiction
  · obtain ⟨again, -, reached⟩ := sound.round room delta_drawn scalar_drawn hashed_eq tag
    obtain ⟨rfl, rfl⟩ := again.eq (.done room contributed written read)
    exact reached

/-- From parameters that are new or have been read with all checks, any number of rounds extends
them, and the parameters that have been reached can be taken through one more round: if the two
draws of scalars come to an end, the only thing that can keep a contribution from being made,
written, and read back is that the third draw, the one of the point that the transcript hashes to,
does not. -/
theorem rounds_closed {start reached : Parameters} {fingerprints : List (Digest 64)}
    (verified : Verified start) (rounds : Rounds start fingerprints reached) :
    Verified reached ∧ Extends start fingerprints reached ∧
      ∀ (generator second third : Generator) (delta scalar : Nat) (tag : Int),
        reached.contributions.length + 1 < UInt32.size →
        drawScalar generator = some (delta, second) →
        drawScalar second = some (scalar, third) →
        ∃ transcript, transcriptDigest reached.circuitHash reached.contributions
            (generator1.multiply scalar) ((generator1.multiply scalar).multiply delta) =
              .ok transcript ∧
          match hashToCurve (firstHalf transcript) with
          | none => (reached.contribute generator tag).result = .error .stalled ∧
              (reached.contribute generator tag).parameters = reached
          | some _ => ∃ fingerprint after, Round reached generator tag fingerprint after ∧
              Verified after ∧ Extends reached [fingerprint] after := by
  have reached_fine : Verified reached ∧ Extends start fingerprints reached := by
    -- What has been read with all checks is sound, and that is all the next round needs.
    induction rounds with
    | none => exact ⟨verified, .refl verified.sound⟩
    | more before round ih =>
        obtain ⟨reached_verified, extends_reached⟩ := ih
        have extended := round.extends reached_verified.sound
        obtain ⟨_, _, _, read⟩ := round
        exact ⟨.read read, extends_reached.trans extended⟩
  obtain ⟨reached_verified, extends_reached⟩ := reached_fine
  refine ⟨reached_verified, extends_reached, ?_⟩
  intro generator second third delta scalar tag room delta_drawn scalar_drawn
  have sound := reached_verified.sound
  refine ⟨_, sound.transcriptDigest_eq (not_dvd_of_drawScalar delta_drawn)
    (not_dvd_of_drawScalar scalar_drawn), ?_⟩
  split
  · rename_i stalled
    rw [sound.contribute_eq delta_drawn scalar_drawn, stalled]
    exact ⟨rfl, rfl⟩
  · rename_i hashed hashed_eq
    exact ⟨_, _, sound.round room delta_drawn scalar_drawn hashed_eq tag⟩

/-- The generator of the zero seed takes new parameters with one point in each query through a
round. -/
theorem rounds_closed_zeroSeed :
    let start := Parameters.initial 1 1 ⟨List.replicate 64 7, rfl⟩
    let generator := Generator.ofSeed (Seed.ofDigest ⟨List.replicate 32 0, rfl⟩)
    Verified start ∧ Rounds start [] start ∧ ∃ fingerprint after,
      Round start generator 1 fingerprint after ∧ Verified after ∧
      Extends start [fingerprint] after := by
  intro start generator
  have verified : Verified start :=
    @Verified.new 1 1 (some (List.replicate 64 7)) start (by decide) (by decide) rfl
  obtain ⟨delta, second, scalar, third, hashed, delta_drawn, scalar_drawn, hashed_eq⟩ :=
    Parameters.draws_zeroSeed
  obtain ⟨-, -, goes_on⟩ := rounds_closed verified .none
  obtain ⟨transcript, transcript_eq, outcome⟩ :=
    goes_on generator second third delta scalar 1 (by decide) delta_drawn scalar_drawn
  rw [verified.sound.transcriptDigest_eq (not_dvd_of_drawScalar delta_drawn)
    (not_dvd_of_drawScalar scalar_drawn)] at transcript_eq
  rw [Except.ok.inj transcript_eq] at hashed_eq
  rw [hashed_eq] at outcome
  exact ⟨verified, .none, outcome⟩

end Phase2
end BeaconCeremony

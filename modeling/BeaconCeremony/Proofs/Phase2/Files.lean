import BeaconCeremony.Proofs.Machine
import BeaconCeremony.Proofs.Phase2.Contribution
import BeaconCeremony.Proofs.Stream.Source

/-!
# Parameters in the files of a machine

Reading parameters from a file is parsing its content, and writing them to a file leaves their
written form in it.  What follows a contribution in a file are the bytes of its key.
-/

namespace BeaconCeremony
namespace Phase2

open Curve Decoder

namespace Parameters

variable {verify : Bool} {parameters : Parameters}

/-- Parameters are read from a file as they are parsed from its content. -/
theorem read_of_ofBytes {machine : Machine}
    (accepted : ofBytes verify machine.reading = .ok parameters) :
    ∃ rest, Parameters.read verify (Machine.source : Source (StateM Machine)) machine =
      (.ok parameters, { machine with reading := rest }) := by
  exact ⟨[], Machine.run_source _ (closes_decoder verify) (parse_of_ofBytes accepted)⟩

theorem writeParts_eq (parts : List Bytes) {before : Storage} {place : List Bytes} {bytes : Bytes}
    {machine : Machine} (written : Storage.Written before place bytes machine.storage) :
    ∃ after, writeParts (Machine.sink place : Sink (StateM Machine)) (parts.map .ok) machine =
        (.ok (), { machine with storage := after }) ∧
      Storage.Written before place (bytes ++ parts.flatten) after := by
  induction parts generalizing bytes machine with
  | nil => exact ⟨machine.storage, rfl, by simpa using written⟩
  | cons part parts ih =>
      obtain ⟨after, more_eq, all_written⟩ :=
        @ih (bytes ++ part) { machine with storage := machine.storage.append place part }
          (written.append part)
      refine ⟨after, more_eq, ?_⟩
      rwa [List.flatten_cons, ← List.append_assoc]

/-- Writing parameters to a file that has just been created leaves their written form in it. -/
theorem Writable.write_eq (writable : parameters.Writable) {before : Storage} {place : List Bytes}
    {machine : Machine} (created : Storage.Written before place [] machine.storage) :
    ∃ after, parameters.write (Machine.sink place : Sink (StateM Machine)) machine =
        (.ok (), { machine with storage := after }) ∧
      Storage.Written before place parameters.writtenParts.flatten after := by
  rw [Parameters.write, writable.parts_eq]
  exact writeParts_eq parameters.writtenParts created

/-- The last bytes of a file are those of the last key. -/
theorem drop_flatten_writtenParts {key : PublicKey}
    (last : parameters.contributions.getLast? = some key) :
    parameters.writtenParts.flatten.drop (parameters.writtenParts.flatten.length - 384) =
      key.written := by
  have last_part : parameters.writtenParts.getLast? = some key.written := by
    rw [writtenParts, List.getLast?_append, List.getLast?_map, last]
    rfl
  have split : parameters.writtenParts.flatten =
      parameters.writtenParts.dropLast.flatten ++ key.written := by
    rw [← List.flatten_concat, List.dropLast_append_getLast? _ last_part]
  rw [split, List.length_append, key.length_written, Nat.add_sub_cancel, List.drop_left]

/-- A contribution to sound parameters whose draws come to an end has a fingerprint and leaves sound
parameters with one more key. -/
theorem Sound.contribute_of_draws {generator : Generator} (sound : parameters.Sound)
    (room : parameters.contributions.length + 1 < UInt32.size) (draws : parameters.Draws generator)
    (tag : Int) :
    ∃ key, (parameters.contribute generator tag).result = .ok (blake2b key.written) ∧
      (parameters.contribute generator tag).parameters.Sound ∧
      (parameters.contribute generator tag).parameters.contributions =
        parameters.contributions ++ [key] := by
  obtain ⟨delta, second, scalar, third, hashed, delta_drawn, scalar_drawn, hashed_eq⟩ := draws
  have contribute_eq := sound.contribute_eq delta_drawn scalar_drawn tag
  rw [hashed_eq] at contribute_eq
  have withKey_sound := sound.withKey (not_dvd_of_drawScalar delta_drawn)
    (not_dvd_of_drawScalar scalar_drawn) (regular_of_hashToCurve hashed_eq) room
  rw [contribute_eq]
  exact ⟨_, rfl, withKey_sound, rfl⟩

/-- If a draw does not end, the contribution fails for that. -/
theorem Sound.stalled_of_not_draws {generator : Generator} (sound : parameters.Sound)
    (undrawn : ¬parameters.Draws generator) (tag : Int) :
    (parameters.contribute generator tag).result = .error .stalled :=
  ((sound.regular.stalled_or_draws generator tag).resolve_right undrawn).1

end Parameters
end Phase2
end BeaconCeremony

import BeaconCeremony.Proofs.Phase2.RoundTrip
import BeaconCeremony.Proofs.Stream.Delivery

/-!
# Files that tell where they end

All lengths in a file are fixed or announced, and reading it ends with a look for its end.  A file
that can be read is therefore neither the beginning nor the continuation of another one, and nothing
depends on the pieces in which its bytes come.
-/

namespace BeaconCeremony
namespace Phase2
namespace Parameters

variable {verify : Bool} {bytes : Bytes} {parameters : Parameters}

/-- If a file can be read, then what it begins with misses a part and what it is continued to has
bytes that do not belong to it. -/
theorem self_delimiting (read : ofBytes verify bytes = .ok parameters) :
    (∀ front, front <+: bytes → front ≠ bytes →
      ∃ label, ofBytes verify front = .error (.truncated label)) ∧
    ∀ more, more ≠ [] → ofBytes verify (bytes ++ more) = .error .trailing := by
  have parsed := parse_of_ofBytes read
  have closes := closes_decoder verify
  constructor
  · rintro front ⟨back, rfl⟩ front_ne
    have back_ne : back ≠ [] := by
      rintro rfl
      exact front_ne (List.append_nil front).symm
    obtain ⟨_, ⟨label, rfl⟩, failed⟩ := closes.parse_front parsed back_ne
    exact ⟨label, by rw [ofBytes, failed]; rfl⟩
  · intro more more_ne
    rw [ofBytes, closes.parse_append parsed more_ne]
    rfl

theorem self_delimiting_offCurve :
    ofBytes false offCurve.writtenParts.flatten = .ok offCurve.normalized ∧
      (∃ label, ofBytes false (offCurve.writtenParts.flatten.take 500) =
        .error (.truncated label)) ∧
      ofBytes false (offCurve.writtenParts.flatten ++ [0]) = .error .trailing := by
  have read : ofBytes false offCurve.writtenParts.flatten = .ok offCurve.normalized := by
    decide +kernel
  have shorter : offCurve.writtenParts.flatten.take 500 ≠ offCurve.writtenParts.flatten := by
    decide +kernel
  exact ⟨read, (self_delimiting read).1 _ (List.take_prefix 500 _) shorter,
    (self_delimiting read).2 [0] (List.cons_ne_nil 0 [])⟩

/-- Reading from a source that delivers bytes ends, after at most one read more than there are
bytes, as it ends on the source that always brings all that is asked for: with what the bytes stand
for. -/
theorem read_indifferent {World : Type} {source : Source (StateM World)} {left : World → Bytes}
    (delivers : source.Delivers left) (verify : Bool) (world : World) :
    (Parameters.read verify source world).1 =
        (Parameters.read verify Source.full (left world)).1 ∧
      (Parameters.read verify source world).1 =
        (ofBytes verify (left world)).mapError (fun error => .value error.message) ∧
      ∀ calls, source.Counts calls →
        calls (Parameters.read verify source world).2 ≤
          calls world + (left world).length + 1 := by
  have closes := closes_decoder verify
  obtain ⟨after, read_eq, -, spends⟩ :=
    closes.run_eq delivers (fun error => .value error.message) world
  obtain ⟨_, full_eq, -, -⟩ :=
    closes.run_eq Source.delivers_full (fun error => .value error.message) (left world)
  rw [Parameters.read, Parameters.read, read_eq, full_eq]
  refine ⟨rfl, rfl, fun calls counts => ?_⟩
  have spent := spends calls counts
  change calls after ≤ _
  omega

theorem read_indifferent_inPieces :
    (Source.inPieces (· % 3)).Delivers Prod.fst ∧ (Source.inPieces (· % 3)).Counts Prod.snd ∧
      (Parameters.read false (Source.inPieces (· % 3)) (offCurve.writtenParts.flatten, 0)).1 =
        (Parameters.read false Source.full offCurve.writtenParts.flatten).1 ∧
      (Parameters.read false (Source.inPieces (· % 3)) (offCurve.writtenParts.flatten, 0)).1 =
        .ok offCurve.normalized ∧
      (Parameters.read false (Source.inPieces (· % 3)) (offCurve.writtenParts.flatten, 0)).2.2 ≤
        0 + offCurve.writtenParts.flatten.length + 1 := by
  have delivers := Source.delivers_inPieces (· % 3)
  have counts := Source.counts_inPieces (· % 3)
  have parsed : ofBytes false offCurve.writtenParts.flatten = .ok offCurve.normalized := by
    decide +kernel
  obtain ⟨full_eq, read_eq, bounded⟩ :=
    read_indifferent delivers false (offCurve.writtenParts.flatten, 0)
  rw [parsed] at read_eq
  exact ⟨delivers, counts, full_eq, read_eq, bounded Prod.snd counts⟩

end Parameters
end Phase2
end BeaconCeremony

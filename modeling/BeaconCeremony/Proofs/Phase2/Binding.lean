import BeaconCeremony.Proofs.Phase2.RoundTrip

/-!
# What a transcript hash binds

The hash of a key binds a circuit, the keys before and the two points of the key.  It is the hash of
their bytes one after the other, without marks between them.  As every part has a fixed length, the
parts can be told from these bytes all the same.
-/

namespace BeaconCeremony
namespace Phase2

open Curve Blake2b

/-- What is bound by the transcript hash of a key. -/
structure Binding where
  /-- The hash of the circuit. -/
  circuitHash : Digest 64
  /-- The keys before. -/
  previous : List PublicKey
  /-- The random point of the key. -/
  s : G1
  /-- That point times the scalar of the contribution. -/
  sDelta : G1

namespace Binding

/-- The transcript hash. -/
def digest (binding : Binding) : Except PointError (Digest 64) :=
  transcriptDigest binding.circuitHash binding.previous binding.s binding.sDelta

/-- The bytes of the circuit hash, of the keys in order and of the two points, one after the
other. -/
def message (binding : Binding) : Except PointError Bytes := do
  let previous ← binding.previous.mapM PublicKey.encode
  let s ← encode1 binding.s
  let sDelta ← encode1 binding.sDelta
  return binding.circuitHash.bytes ++ previous.flatten ++ s ++ sDelta

/-- No point is the one at infinity. -/
structure Writable (binding : Binding) : Prop where
  previous : ∀ key ∈ binding.previous, key.Writable
  s : binding.s.z ≠ 0
  sDelta : binding.sDelta.z ≠ 0

/-- The bytes of all parts, written with affine coordinates. -/
def written (binding : Binding) : Bytes :=
  binding.circuitHash.bytes ++ binding.previous.flatMap PublicKey.written ++ written1 binding.s ++
    written1 binding.sDelta

/-- The binding with affine coordinates. -/
def normalized (binding : Binding) : Binding where
  circuitHash := binding.circuitHash
  previous := binding.previous.map PublicKey.normalized
  s := binding.s.normalized
  sDelta := binding.sDelta.normalized

variable {binding left right : Binding}

@[simp]
theorem written_normalized (binding : Binding) : binding.normalized.written = binding.written := by
  simp [written, normalized, List.flatMap_map]

theorem writable_normalized (binding : Binding) : binding.normalized.Writable where
  previous := List.forall_mem_map.mpr fun key _ => key.writable_normalized
  s := BaseField.interpretation.normalized_z_ne binding.s
  sDelta := BaseField.interpretation.normalized_z_ne binding.sDelta

theorem Writable.digest_eq (writable : binding.Writable) :
    binding.digest = .ok (blake2b binding.written) := by
  rw [digest, transcriptDigest_eq _ writable.previous writable.s writable.sDelta, boundHash_eq,
    written]

/-- The binding of a key that follows one outside the curve. -/
def offCurve : Binding where
  circuitHash := Parameters.offCurve.circuitHash
  previous := Parameters.offCurve.contributions
  s := ⟨3, 5, 2⟩
  sDelta := ⟨6, 10, 4⟩

theorem writable_offCurve : offCurve.Writable where
  previous := Parameters.writable_offCurve.keys
  s := by decide
  sDelta := by decide

end Binding
end Phase2
end BeaconCeremony

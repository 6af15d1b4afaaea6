import BeaconCeremony.Phase2.Format
import BeaconCeremony.Proofs.Curve.Encoding
import BeaconCeremony.Proofs.Hash.Blake2b

/-!
# Keys and their transcripts

The keys without a point at infinity have a written form, and reading it back gives the same key
with affine coordinates.  Transcript hashes see nothing of a key but its written form.
-/

namespace BeaconCeremony
namespace Phase2

open Curve

namespace PublicKey

/-- A key whose points pass all checks. -/
structure Regular (key : PublicKey) : Prop where
  deltaAfter : Regular1 key.deltaAfter
  s : Regular1 key.s
  sDelta : Regular1 key.sDelta
  rDelta : Regular2 key.rDelta

/-- A key none of whose points is at infinity. -/
structure Writable (key : PublicKey) : Prop where
  deltaAfter : key.deltaAfter.z ≠ 0
  s : key.s.z ≠ 0
  sDelta : key.sDelta.z ≠ 0
  rDelta : key.rDelta.z ≠ 0

/-- The key with affine coordinates. -/
def normalized (key : PublicKey) : PublicKey where
  deltaAfter := key.deltaAfter.normalized
  s := key.s.normalized
  sDelta := key.sDelta.normalized
  rDelta := key.rDelta.normalized
  transcript := key.transcript

/-- The 384 bytes of a key. -/
def written (key : PublicKey) : Bytes :=
  written1 key.deltaAfter ++ (written1 key.s ++ (written1 key.sDelta ++
    (written2 key.rDelta ++ key.transcript.bytes)))

@[simp]
theorem length_written (key : PublicKey) : key.written.length = 384 := by
  simp [written, key.transcript.length_bytes]

@[simp]
theorem written_normalized (key : PublicKey) : key.normalized.written = key.written := by
  simp [written, normalized]

variable {key : PublicKey}

theorem Regular.writable (regular : key.Regular) : key.Writable where
  deltaAfter := regular.deltaAfter.z_ne
  s := regular.s.z_ne
  sDelta := regular.sDelta.z_ne
  rDelta := regular.rDelta.z_ne

theorem writable_normalized (key : PublicKey) : key.normalized.Writable where
  deltaAfter := BaseField.interpretation.normalized_z_ne key.deltaAfter
  s := BaseField.interpretation.normalized_z_ne key.s
  sDelta := BaseField.interpretation.normalized_z_ne key.sDelta
  rDelta := QuadraticField.interpretation.normalized_z_ne key.rDelta

theorem regular_normalized_iff (writable : key.Writable) :
    key.normalized.Regular ↔ key.Regular := by
  have deltaAfter_iff := regular1_normalized_iff writable.deltaAfter
  have s_iff := regular1_normalized_iff writable.s
  have sDelta_iff := regular1_normalized_iff writable.sDelta
  have rDelta_iff := regular2_normalized_iff writable.rDelta
  constructor
  · rintro ⟨deltaAfter, s, sDelta, rDelta⟩
    exact ⟨deltaAfter_iff.mp deltaAfter, s_iff.mp s, sDelta_iff.mp sDelta, rDelta_iff.mp rDelta⟩
  · rintro ⟨deltaAfter, s, sDelta, rDelta⟩
    exact ⟨deltaAfter_iff.mpr deltaAfter, s_iff.mpr s, sDelta_iff.mpr sDelta,
      rDelta_iff.mpr rDelta⟩

theorem Writable.encode_eq (writable : key.Writable) : key.encode = .ok key.written := by
  simp only [encode, encode1_eq writable.deltaAfter, encode1_eq writable.s,
    encode1_eq writable.sDelta, encode2_eq writable.rDelta, written, ← List.append_assoc]
  rfl

theorem Writable.fingerprint_eq (writable : key.Writable) :
    key.fingerprint = .ok (blake2b key.written) := by
  rw [fingerprint, writable.encode_eq]
  rfl

theorem drop_written1 (point : G1) (more : Nat) (rest : Bytes) :
    (written1 point ++ rest).drop (64 + more) = rest.drop more := by
  have skipped := @List.drop_length_add_append _ (written1 point) rest more
  rwa [length_written1] at skipped

/-- The parts of a key stand at fixed places. -/
theorem written_parts (key : PublicKey) :
    (key.written.drop 0).take 64 = written1 key.deltaAfter ∧
      (key.written.drop 64).take 64 = written1 key.s ∧
      (key.written.drop 128).take 64 = written1 key.sDelta ∧
      (key.written.drop 192).take 128 = written2 key.rDelta ∧
      key.written.drop 320 = key.transcript.bytes := by
  have second : key.written.drop 64 = _ := drop_written1 key.deltaAfter 0 _
  have third : key.written.drop 128 = _ :=
    (drop_written1 key.deltaAfter 64 _).trans (drop_written1 key.s 0 _)
  have fourth : key.written.drop 192 = _ :=
    (drop_written1 key.deltaAfter 128 _).trans
      ((drop_written1 key.s 64 _).trans (drop_written1 key.sDelta 0 _))
  have last : key.written.drop 320 = key.transcript.bytes := by
    rw [← List.drop_drop (i := 128) (j := 192), fourth, List.drop_zero]
    exact List.drop_left' (length_written2 key.rDelta)
  rw [second, third, fourth]
  exact ⟨List.take_left' (length_written1 _), List.take_left' (length_written1 _),
    List.take_left' (length_written1 _), List.take_left' (length_written2 _), last⟩

theorem decode_written {verify : Bool} (accepted : verify = true → key.Regular) (index : Nat) :
    decode verify index key.written = .ok key.normalized := by
  obtain ⟨first_eq, second_eq, third_eq, fourth_eq, last_eq⟩ := written_parts key
  simp only [decode, length_written, first_eq, second_eq, third_eq, fourth_eq, last_eq,
    decode1_written1 _ fun verified => (accepted verified).deltaAfter,
    decode1_written1 _ fun verified => (accepted verified).s,
    decode1_written1 _ fun verified => (accepted verified).sDelta,
    decode2_written2 _ fun verified => (accepted verified).rDelta, Digest.ofBytes?_bytes]
  rfl

theorem take_drop_append (bytes : Bytes) (start count : Nat) :
    (bytes.drop start).take count ++ bytes.drop (start + count) = bytes.drop start := by
  rw [← List.drop_drop, List.take_append_drop]

/-- A key that has been read has affine coordinates, which are those that were written, and its
points have passed their checks. -/
theorem of_decode {verify : Bool} {index : Nat} {bytes : Bytes}
    (decoded : decode verify index bytes = .ok key) :
    key.written = bytes ∧ key.normalized = key ∧ (verify = true → key.Regular) := by
  rw [decode] at decoded
  split at decoded
  · contradiction
  obtain ⟨deltaAfter, deltaAfter_eq, decoded⟩ := exists_of_bind_eq_ok decoded
  obtain ⟨s, s_eq, decoded⟩ := exists_of_bind_eq_ok decoded
  obtain ⟨sDelta, sDelta_eq, decoded⟩ := exists_of_bind_eq_ok decoded
  obtain ⟨rDelta, rDelta_eq, decoded⟩ := exists_of_bind_eq_ok decoded
  obtain ⟨first_written, first_affine, first⟩ := of_decode1 (eq_ok_of_mapError_eq_ok deltaAfter_eq)
  obtain ⟨second_written, second_affine, second⟩ := of_decode1 (eq_ok_of_mapError_eq_ok s_eq)
  obtain ⟨third_written, third_affine, third⟩ := of_decode1 (eq_ok_of_mapError_eq_ok sDelta_eq)
  obtain ⟨fourth_written, fourth_affine, fourth⟩ := of_decode2 (eq_ok_of_mapError_eq_ok rDelta_eq)
  split at decoded
  · rename_i transcript transcript_eq
    obtain rfl := Except.ok.inj decoded
    have last_written : transcript.bytes = bytes.drop 320 := Digest.bytes_of_ofBytes? transcript_eq
    refine ⟨?_, ?_, fun verified =>
      ⟨first verified, second verified, third verified, fourth verified⟩⟩
    · rw [written, first_written, second_written, third_written, fourth_written, last_written,
        take_drop_append bytes 192, take_drop_append bytes 128, take_drop_append bytes 64,
        take_drop_append bytes 0, List.drop_zero]
    · rw [normalized, first_affine, second_affine, third_affine, fourth_affine]
  · contradiction

end PublicKey

/-- An absorber with the written forms of keys absorbed in order. -/
def absorbWritten (absorber : Blake2b.Absorber) (keys : List PublicKey) : Blake2b.Absorber :=
  keys.foldl (fun absorber key => absorber.absorb key.written) absorber

/-- The hash that binds two points to a circuit and to the written forms of earlier keys. -/
def boundHash (circuitHash : Digest 64) (previous : List PublicKey) (s sDelta : G1) : Digest 64 :=
  let absorber := absorbWritten (Blake2b.Absorber.empty.absorb circuitHash.bytes) previous
  ((absorber.absorb (written1 s)).absorb (written1 sDelta)).digest

theorem absorbKeys_eq (absorber : Blake2b.Absorber) {keys : List PublicKey}
    (writable : ∀ key ∈ keys, key.Writable) :
    absorbKeys absorber keys = .ok (absorbWritten absorber keys) := by
  induction keys generalizing absorber with
  | nil => rfl
  | cons key keys ih =>
      obtain ⟨here, there⟩ := List.forall_mem_cons.mp writable
      rw [absorbKeys, here.encode_eq]
      exact ih (absorber.absorb key.written) there

theorem transcriptDigest_eq (circuitHash : Digest 64) {previous : List PublicKey} {s sDelta : G1}
    (previous_writable : ∀ key ∈ previous, key.Writable) (s_ne : s.z ≠ 0)
    (sDelta_ne : sDelta.z ≠ 0) :
    transcriptDigest circuitHash previous s sDelta =
      .ok (boundHash circuitHash previous s sDelta) := by
  rw [transcriptDigest, absorbKeys_eq _ previous_writable, encode1_eq s_ne, encode1_eq sDelta_ne]
  rfl

theorem absorbWritten_absorb (absorber : Blake2b.Absorber) (message : Bytes)
    (keys : List PublicKey) : absorbWritten (absorber.absorb message) keys =
      absorber.absorb (message ++ keys.flatMap PublicKey.written) := by
  rw [absorbWritten, ← @List.foldl_map _ _ _ PublicKey.written Blake2b.Absorber.absorb,
    Blake2b.Absorber.foldl_absorb, List.flatMap_def]

/-- The hash sees one message: the circuit hash, the keys and the points one after the other. -/
theorem boundHash_eq (circuitHash : Digest 64) (previous : List PublicKey) (s sDelta : G1) :
    boundHash circuitHash previous s sDelta =
      blake2b (circuitHash.bytes ++ previous.flatMap PublicKey.written ++ written1 s ++
        written1 sDelta) := by
  rw [boundHash, absorbWritten_absorb, ← Blake2b.Absorber.absorb_append,
    ← Blake2b.Absorber.absorb_append, blake2b, ← List.append_assoc]

/-- Each key is bound to the circuit and to all keys before it. -/
def Bound (circuitHash : Digest 64) (previous : List PublicKey) : List PublicKey → Prop
  | [] => True
  | key :: rest =>
    key.transcript = boundHash circuitHash previous key.s key.sDelta ∧
      Bound circuitHash (previous ++ [key]) rest

theorem checkTranscripts_eq_ok_iff (circuitHash : Digest 64) {previous keys : List PublicKey}
    (previous_writable : ∀ key ∈ previous, key.Writable)
    (writable : ∀ key ∈ keys, key.Writable) :
    Parameters.checkTranscripts circuitHash previous keys = .ok () ↔
      Bound circuitHash previous keys := by
  induction keys generalizing previous with
  | nil => exact iff_of_true rfl trivial
  | cons key keys ih =>
      obtain ⟨here, there⟩ := List.forall_mem_cons.mp writable
      have more_writable : ∀ other ∈ previous ++ [key], other.Writable :=
        List.forall_mem_append.mpr ⟨previous_writable, List.forall_mem_singleton.mpr here⟩
      rw [Parameters.checkTranscripts, transcriptDigest_eq circuitHash previous_writable here.s
        here.sDelta, Bound, ← ih more_writable there]
      change (if key.transcript = boundHash circuitHash previous key.s key.sDelta then _
        else _) = _ ↔ _
      split
      · rename_i matched
        exact (and_iff_right matched).symm
      · rename_i mismatched
        exact iff_of_false nofun fun bound => mismatched bound.1

theorem bound_append_singleton (circuitHash : Digest 64) {previous keys : List PublicKey}
    {key : PublicKey} : Bound circuitHash previous (keys ++ [key]) ↔
      Bound circuitHash previous keys ∧
        key.transcript = boundHash circuitHash (previous ++ keys) key.s key.sDelta := by
  induction keys generalizing previous with
  | nil => simp [Bound]
  | cons first keys ih =>
      simp only [List.cons_append, Bound, ih, List.append_assoc, List.nil_append, and_assoc]

/-- Affine coordinates do not change what a hash binds. -/
theorem boundHash_normalized (circuitHash : Digest 64) (previous : List PublicKey)
    (s sDelta : G1) :
    boundHash circuitHash (previous.map PublicKey.normalized) s.normalized sDelta.normalized =
      boundHash circuitHash previous s sDelta := by
  simp only [boundHash_eq, List.flatMap_map, PublicKey.written_normalized, written1_normalized]

theorem bound_normalized (circuitHash : Digest 64) (previous keys : List PublicKey) :
    Bound circuitHash (previous.map PublicKey.normalized) (keys.map PublicKey.normalized) ↔
      Bound circuitHash previous keys := by
  induction keys generalizing previous with
  | nil => exact Iff.rfl
  | cons key keys ih =>
      have hash_eq : boundHash circuitHash (previous.map PublicKey.normalized)
          key.normalized.s key.normalized.sDelta =
            boundHash circuitHash previous key.s key.sDelta :=
        boundHash_normalized circuitHash previous key.s key.sDelta
      have rest_iff := ih (previous ++ [key])
      rw [List.map_append] at rest_iff
      exact and_congr (by rw [hash_eq]; exact Iff.rfl) rest_iff

end Phase2
end BeaconCeremony

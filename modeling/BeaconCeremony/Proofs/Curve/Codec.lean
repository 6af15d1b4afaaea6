import BeaconCeremony.Proofs.Curve.Encoding

/-!
# Points and their written forms

A point is written by its affine coordinates.  The written form therefore belongs to the point and
not to the triple that stands for it, and reading it back gives the same point.  Without checks, the
byte strings that can be read are those of the right length in which every coordinate is a least
representative.
-/

namespace BeaconCeremony

/-- The triple with all coordinates times a factor. -/
def Point.scaled {F : Type} [CoordinateField F] (factor : F) (point : Point F) : Point F :=
  ⟨factor * point.x, factor * point.y, factor * point.z⟩

/-- What makes a pair of functions a way to write the points over a field in `size` bytes and to
read them back. -/
structure FaithfulCodec {F : Type} [CoordinateField F] (size : Nat)
    (encode : Point F → Except PointError Bytes) (decode : Bytes → Except PointError (Point F)) :
    Prop where
  /-- Only the point at infinity has no written form. -/
  refuses_iff : ∀ point, (∃ error, encode point = .error error) ↔ point.z = 0
  /-- All triples that stand for a point are written in the same way. -/
  encode_scaled : ∀ point factor, factor ≠ 0 → encode (point.scaled factor) = encode point
  /-- What has been written is read back, as another triple that stands for the point. -/
  decode_encode : ∀ point bytes, encode point = .ok bytes → bytes.length = size ∧
    ∃ reread factor, decode bytes = .ok reread ∧ factor ≠ 0 ∧ reread.scaled factor = point
  /-- Bytes are read if they have the right length and their coordinates are below the prime. -/
  accepts_iff : ∀ bytes, (∃ point, decode bytes = .ok point) ↔
    bytes.length = size ∧ ∀ index, 32 * index < size →
      Bytes.toNatBE ((bytes.drop (32 * index)).take 32) < fieldPrime
  /-- What has been read is written as it was. -/
  encode_decode : ∀ bytes point, decode bytes = .ok point → encode point = .ok bytes

namespace Interpretation

variable {F K : Type} [CoordinateField F] [Field K] (reading : Interpretation F K) {factor : F}
  {point : Point F}

include reading

theorem z_scaled_eq_zero_iff (factor_ne : factor ≠ 0) :
    (point.scaled factor).z = 0 ↔ point.z = 0 := by
  have factor_ne' := mt reading.eq_zero_iff.mp factor_ne
  rw [← reading.eq_zero_iff, ← reading.eq_zero_iff, Point.scaled, map_mul, mul_eq_zero,
    or_iff_right factor_ne']

theorem affine_scaled (factor_ne : factor ≠ 0) : (point.scaled factor).affine = point.affine := by
  have factor_ne' := mt reading.eq_zero_iff.mp factor_ne
  have cancelled (value : F) :
      (factor * value) * (factor * point.z)⁻¹ = value * point.z⁻¹ := by
    rw [← reading.eq_iff, map_mul, map_mul, map_mul, map_inv, map_inv, map_mul, ← div_eq_mul_inv,
      ← div_eq_mul_inv, mul_div_mul_left _ _ factor_ne']
  exact Prod.ext (cancelled point.x) (cancelled point.y)

/-- A triple is the one with the affine coordinates times its denominator. -/
theorem scaled_normalized (z_ne : point.z ≠ 0) : point.normalized.scaled point.z = point := by
  have z_ne' := mt reading.eq_zero_iff.mp z_ne
  have restored (value : F) : point.z * (value * point.z⁻¹) = value := by
    rw [← reading.eq_iff, map_mul, map_mul, map_inv, mul_comm, inv_mul_cancel_right₀ z_ne']
  have unit : point.z * 1 = point.z := by
    rw [← reading.eq_iff, map_mul, map_one, mul_one]
  obtain ⟨x, y, z⟩ := point
  exact congr (congrArg₂ Point.mk (restored x) (restored y)) unit

/-- Points are written faithfully if what is written depends on the affine coordinates alone and
what is read are affine coordinates. -/
theorem faithfulCodec {size : Nat} {encode : Point F → Except PointError Bytes}
    {decode : Bytes → Except PointError (Point F)} {write : Point F → Bytes} {infinite : PointError}
    (encode_of_eq : ∀ point : Point F, point.z = 0 → encode point = .error infinite)
    (encode_of_ne : ∀ point : Point F, point.z ≠ 0 → encode point = .ok (write point))
    (write_congr : ∀ left right : Point F, left.affine = right.affine → write left = write right)
    (length_write : ∀ point, (write point).length = size)
    (decode_write : ∀ point, decode (write point) = .ok point.normalized)
    (write_decode : ∀ bytes point, decode bytes = .ok point →
      write point = bytes ∧ point.normalized = point)
    (accepts_iff : ∀ bytes, (∃ point, decode bytes = .ok point) ↔
      bytes.length = size ∧ ∀ index, 32 * index < size →
        Bytes.toNatBE ((bytes.drop (32 * index)).take 32) < fieldPrime) :
    FaithfulCodec size encode decode where
  refuses_iff point := by
    constructor
    · rintro ⟨error, refused⟩
      by_contra z_ne
      rw [encode_of_ne point z_ne] at refused
      contradiction
    · intro z_eq
      exact ⟨infinite, encode_of_eq point z_eq⟩
  encode_scaled point factor factor_ne := by
    by_cases z_eq : point.z = 0
    · rw [encode_of_eq point z_eq,
        encode_of_eq _ ((reading.z_scaled_eq_zero_iff factor_ne).mpr z_eq)]
    · rw [encode_of_ne point z_eq,
        encode_of_ne _ (mt (reading.z_scaled_eq_zero_iff factor_ne).mp z_eq),
        write_congr _ _ (reading.affine_scaled factor_ne)]
  decode_encode point bytes encoded := by
    have z_ne : point.z ≠ 0 := by
      intro z_eq
      rw [encode_of_eq point z_eq] at encoded
      contradiction
    rw [encode_of_ne point z_ne] at encoded
    obtain rfl := Except.ok.inj encoded
    exact ⟨length_write point, point.normalized, point.z, decode_write point, z_ne,
      reading.scaled_normalized z_ne⟩
  accepts_iff := accepts_iff
  encode_decode bytes point decoded := by
    obtain ⟨written, affine⟩ := write_decode bytes point decoded
    have z_ne : point.z ≠ 0 := affine ▸ reading.normalized_z_ne point
    rw [encode_of_ne point z_ne, written]

end Interpretation

namespace Curve

theorem exists_decodeCoordinate_iff (label : String) (bytes : Bytes) :
    (∃ element, decodeCoordinate label bytes = .ok element) ↔ bytes.toNatBE < fieldPrime := by
  rw [decodeCoordinate]
  split
  · rename_i small
    exact iff_of_true ⟨_, rfl⟩ small
  · rename_i large
    refine iff_of_false ?_ large
    rintro ⟨element, ⟨⟩⟩

/-- Coordinates can be read exactly if each of them is a least representative. -/
theorem exists_decodeCoordinates_iff (label : String) (count : Nat) (bytes : Bytes) :
    (∃ elements, decodeCoordinates label count bytes = .ok elements) ↔
      ∀ index < count, Bytes.toNatBE ((bytes.drop (32 * index)).take 32) < fieldPrime := by
  induction count generalizing bytes with
  | zero => exact iff_of_true ⟨[], rfl⟩ nofun
  | succ count ih =>
      have later (index : Nat) : (bytes.drop 32).drop (32 * index) =
          bytes.drop (32 * (index + 1)) := by
        rw [List.drop_drop, Nat.mul_succ, Nat.add_comm]
      constructor
      · rintro ⟨elements, decoded⟩ index index_lt
        obtain ⟨element, first, decoded⟩ := exists_of_bind_eq_ok decoded
        obtain ⟨more, rest, -⟩ := exists_of_bind_eq_ok decoded
        cases index with
        | zero => exact (exists_decodeCoordinate_iff label _).mp ⟨element, first⟩
        | succ index =>
            rw [← later]
            exact (ih _).mp ⟨more, rest⟩ index (Nat.lt_of_succ_lt_succ index_lt)
      · intro small
        obtain ⟨element, first⟩ :=
          (exists_decodeCoordinate_iff label (bytes.take 32)).mpr (small 0 count.succ_pos)
        obtain ⟨more, rest⟩ := (ih (bytes.drop 32)).mpr fun index index_lt => by
          rw [later]
          exact small (index + 1) (Nat.succ_lt_succ index_lt)
        refine ⟨element :: more, ?_⟩
        rw [decodeCoordinates, first, rest]
        rfl

/-- What is made of a fixed number of coordinates is made of the bytes of the right length that hold
least representatives. -/
theorem exists_decoded_iff {α : Type} (label : String) (count : Nat)
    {decode : Bytes → Except PointError α} {refused : Bytes → PointError}
    {build : Bytes → List BaseField → Except PointError α}
    (decode_eq : ∀ bytes, decode bytes = if bytes.length ≠ 32 * count then .error (refused bytes)
      else decodeCoordinates label count bytes >>= build bytes)
    (builds : ∀ bytes elements, elements.length = count → ∃ value, build bytes elements = .ok value)
    (bytes : Bytes) :
    (∃ value, decode bytes = .ok value) ↔
      bytes.length = 32 * count ∧ ∀ index, 32 * index < 32 * count →
        Bytes.toNatBE ((bytes.drop (32 * index)).take 32) < fieldPrime := by
  have coordinates_iff := exists_decodeCoordinates_iff label count bytes
  constructor
  · rintro ⟨value, decoded⟩
    rw [decode_eq] at decoded
    split at decoded
    · contradiction
    rename_i sized
    obtain ⟨elements, coordinates, -⟩ := exists_of_bind_eq_ok decoded
    refine ⟨not_not.mp sized, fun index index_lt => ?_⟩
    exact coordinates_iff.mp ⟨elements, coordinates⟩ index (by omega)
  · rintro ⟨sized, small⟩
    obtain ⟨elements, coordinates⟩ :=
      coordinates_iff.mpr fun index index_lt => small index (by omega)
    obtain ⟨value, built⟩ :=
      builds bytes elements (flatMap_of_decodeCoordinates sized coordinates).1
    refine ⟨value, ?_⟩
    rw [decode_eq, if_neg (not_not_intro sized), coordinates]
    exact built

theorem faithfulCodec1 (label : String) : FaithfulCodec 64 encode1 (decode1 label false) := by
  refine BaseField.interpretation.faithfulCodec
    (fun point z_eq => encode1_of_isInfinity (Point.isInfinity_iff.mpr z_eq))
    (fun point z_ne => encode1_eq z_ne) (fun left right => written1_congr) length_written1
    (fun point => decode1_written1 label nofun) ?_ (exists_decoded_iff label 2 (fun _ => rfl) ?_)
  · intro bytes point decoded
    obtain ⟨written, affine, -⟩ := of_decode1 decoded
    exact ⟨written, affine⟩
  · intro bytes elements counted
    obtain ⟨x, y, rfl⟩ := List.length_eq_two.mp counted
    exact ⟨Point.ofAffine x y, rfl⟩

theorem faithfulCodec2 (label : String) : FaithfulCodec 128 encode2 (decode2 label false) := by
  refine QuadraticField.interpretation.faithfulCodec
    (fun point z_eq => encode2_of_isInfinity (Point.isInfinity_iff.mpr z_eq))
    (fun point z_ne => encode2_eq z_ne) (fun left right => written2_congr) length_written2
    (fun point => decode2_written2 label nofun) ?_ (exists_decoded_iff label 4 (fun _ => rfl) ?_)
  · intro bytes point decoded
    obtain ⟨written, affine, -⟩ := of_decode2 decoded
    exact ⟨written, affine⟩
  · intro bytes elements counted
    obtain ⟨x1, x0, y1, y0, rfl⟩ := List.length_eq_four.mp counted
    exact ⟨Point.ofAffine ⟨x0, x1⟩ ⟨y0, y1⟩, rfl⟩

/-- The points of both groups are written and read faithfully. -/
theorem codecs_faithful (label : String) :
    FaithfulCodec 64 encode1 (decode1 label false) ∧
      FaithfulCodec 128 encode2 (decode2 label false) :=
  ⟨faithfulCodec1 label, faithfulCodec2 label⟩

end Curve
end BeaconCeremony

import BeaconCeremony.Proofs.Bytes.Number
import BeaconCeremony.Proofs.Curve.Order
import BeaconCeremony.Proofs.Except

/-!
# Reading back the points that have been written

A point other than the one at infinity is written as its affine coordinates, and reading them back
gives these coordinates with a third one of one.  This passes all checks of a point that is read.
-/

namespace BeaconCeremony

/-- The point with its affine coordinates. -/
def Point.normalized {F : Type} [CoordinateField F] (point : Point F) : Point F :=
  Point.ofAffine point.affine.1 point.affine.2

theorem Point.isInfinity_iff {F : Type} [CoordinateField F] {point : Point F} :
    point.isInfinity = true ↔ point.z = 0 :=
  decide_eq_true_iff

theorem Point.same_self {F : Type} [CoordinateField F] (point : Point F) :
    point.same point = true := by
  simp [same]

namespace Interpretation

variable {F K : Type} [CoordinateField F] [Field K] (reading : Interpretation F K) {constant : K}
  {left right point : Point F} {P : (shortCurve constant).Point}

include reading

theorem affine_ofAffine (x y : F) : (Point.ofAffine x y).affine = (x, y) := by
  have unscaled (element : F) : element * 1⁻¹ = element := by
    rw [← reading.eq_iff, map_mul, map_inv, map_one, inv_one, mul_one]
  rw [Point.affine, Point.ofAffine, unscaled, unscaled]

theorem affine_normalized (point : Point F) : point.normalized.affine = point.affine :=
  reading.affine_ofAffine point.affine.1 point.affine.2

theorem normalized_z_ne (point : Point F) : point.normalized.z ≠ 0 := reading.one_ne_zero

theorem normalized_ofAffine (x y : F) :
    (Point.ofAffine x y).normalized = Point.ofAffine x y := by
  rw [Point.normalized, reading.affine_ofAffine]

theorem cross_iff_quotient {leftValue rightValue leftZ rightZ : F} (left_ne : leftZ ≠ 0)
    (right_ne : rightZ ≠ 0) :
    leftValue * rightZ = rightValue * leftZ ↔ leftValue * leftZ⁻¹ = rightValue * rightZ⁻¹ := by
  have left_ne' := mt reading.eq_zero_iff.mp left_ne
  have right_ne' := mt reading.eq_zero_iff.mp right_ne
  refine reading.eq_iff.symm.trans (Iff.trans ?_ reading.eq_iff)
  rw [map_mul, map_mul, map_mul, map_mul, map_inv, map_inv, ← div_eq_mul_inv, ← div_eq_mul_inv,
    div_eq_div_iff left_ne' right_ne']

/-- Triples stand for the same point exactly if they have the same affine coordinates. -/
theorem same_iff (left_ne : left.z ≠ 0) (right_ne : right.z ≠ 0) :
    left.same right = true ↔ left.affine = right.affine := by
  rw [Point.same, Bool.and_eq_true, decide_eq_true_iff, decide_eq_true_iff,
    reading.cross_iff_quotient left_ne right_ne, reading.cross_iff_quotient left_ne right_ne]
  exact Prod.mk_inj.symm

theorem same_normalized (left_ne : left.z ≠ 0) (right_ne : right.z ≠ 0) :
    left.normalized.same right.normalized = left.same right := by
  rw [Bool.eq_iff_iff, reading.same_iff left_ne right_ne,
    reading.same_iff (reading.normalized_z_ne left) (reading.normalized_z_ne right),
    reading.affine_normalized, reading.affine_normalized]

theorem normalized_same (z_ne : point.z ≠ 0) : point.normalized.same point = true :=
  (reading.same_iff (reading.normalized_z_ne point) z_ne).mpr (reading.affine_normalized point)

/-- The affine coordinates stand for the same point of the curve. -/
theorem represents_normalized_iff (z_ne : point.z ≠ 0) :
    reading.Represents point.normalized P ↔ reading.Represents point P := by
  have z_ne' := mt reading.eq_zero_iff.mp z_ne
  have affine_x : reading point.normalized.x = reading point.x / reading point.z := by
    rw [div_eq_mul_inv, ← map_inv, ← map_mul]
    rfl
  have affine_y : reading point.normalized.y = reading point.y / reading point.z := by
    rw [div_eq_mul_inv, ← map_inv, ← map_mul]
    rfl
  have affine_z : reading point.normalized.z = 1 := reading.map_one
  constructor
  · intro represents
    cases represents with
    | infinity z_eq => exact absurd z_eq (reading.normalized_z_ne point)
    | affine nonsingular _ x_eq y_eq =>
        rw [affine_z, mul_one, affine_x, div_eq_iff z_ne'] at x_eq
        rw [affine_z, mul_one, affine_y, div_eq_iff z_ne'] at y_eq
        exact .affine nonsingular z_ne x_eq y_eq
  · intro represents
    cases represents with
    | infinity z_eq => exact absurd z_eq z_ne
    | affine nonsingular _ x_eq y_eq =>
        refine .affine nonsingular (reading.normalized_z_ne point) ?_ ?_
        · rw [affine_z, mul_one, affine_x, x_eq, mul_div_cancel_right₀ _ z_ne']
        · rw [affine_z, mul_one, affine_y, y_eq, mul_div_cancel_right₀ _ z_ne']

variable {reading}

theorem Represents.z_ne (represents : reading.Represents point P) (P_ne : P ≠ 0) :
    point.z ≠ 0 := by
  cases represents with
  | infinity => exact absurd rfl P_ne
  | affine nonsingular z_ne x_eq y_eq => exact z_ne

theorem Represents.onCurve {x y b : F} {P : (shortCurve (reading b)).Point}
    (represents : reading.Represents (Point.ofAffine x y) P) (P_ne : P ≠ 0) :
    (Point.ofAffine x y).onCurve b = true := by
  cases represents with
  | infinity => exact absurd rfl P_ne
  | affine nonsingular z_ne x_eq y_eq =>
      have one_eq : reading (Point.ofAffine x y).z = 1 := reading.map_one
      rw [one_eq, mul_one] at x_eq y_eq
      subst x_eq y_eq
      exact (onCurve_ofAffine rfl).mpr nonsingular.1

end Interpretation

namespace Curve

/-- The 64 bytes of the affine coordinates of a point of the first group. -/
def written1 (point : G1) : Bytes :=
  encodeCoordinate point.affine.1 ++ encodeCoordinate point.affine.2

/-- The 128 bytes of the affine coordinates of a point of the second group. -/
def written2 (point : G2) : Bytes :=
  encodeCoordinate point.affine.1.im ++ encodeCoordinate point.affine.1.re ++
    encodeCoordinate point.affine.2.im ++ encodeCoordinate point.affine.2.re

@[simp]
theorem length_encodeCoordinate (element : BaseField) : (encodeCoordinate element).length = 32 :=
  Bytes.length_ofNatBE 32 element.val

@[simp]
theorem length_written1 (point : G1) : (written1 point).length = 64 := by
  simp [written1]

@[simp]
theorem length_written2 (point : G2) : (written2 point).length = 128 := by
  simp [written2]

theorem decodeCoordinate_encodeCoordinate (label : String) (element : BaseField) :
    decodeCoordinate label (encodeCoordinate element) = .ok element := by
  have fits : element.val < 256 ^ 32 := element.isLt.trans (by decide)
  have value_eq : (encodeCoordinate element).toNatBE = element.val := Bytes.toNatBE_ofNatBE fits
  simp only [decodeCoordinate, value_eq, element.isLt, dif_pos]

theorem decodeCoordinates_flatMap (label : String) (elements : List BaseField) :
    decodeCoordinates label elements.length (elements.flatMap encodeCoordinate) = .ok elements := by
  induction elements with
  | nil => rfl
  | cons element elements ih =>
      have taken : ((element :: elements).flatMap encodeCoordinate).take 32 =
          encodeCoordinate element := List.take_left' (length_encodeCoordinate element)
      have dropped : ((element :: elements).flatMap encodeCoordinate).drop 32 =
          elements.flatMap encodeCoordinate := List.drop_left' (length_encodeCoordinate element)
      rw [List.length_cons, decodeCoordinates, taken, dropped, ih,
        decodeCoordinate_encodeCoordinate]
      rfl

theorem encode1_eq {point : G1} (z_ne : point.z ≠ 0) : encode1 point = .ok (written1 point) := by
  rw [encode1, Point.isInfinity, decide_eq_false z_ne]
  rfl

theorem encode2_eq {point : G2} (z_ne : point.z ≠ 0) : encode2 point = .ok (written2 point) := by
  rw [encode2, Point.isInfinity, decide_eq_false z_ne]
  rfl

theorem encode1_of_isInfinity {point : G1} (infinite : point.isInfinity = true) :
    encode1 point = .error .infinity1 :=
  if_pos infinite

theorem encode2_of_isInfinity {point : G2} (infinite : point.isInfinity = true) :
    encode2 point = .error .infinity2 :=
  if_pos infinite

theorem written1_congr {left right : G1} (affine_eq : left.affine = right.affine) :
    written1 left = written1 right := by
  rw [written1, written1, affine_eq]

theorem written2_congr {left right : G2} (affine_eq : left.affine = right.affine) :
    written2 left = written2 right := by
  rw [written2, written2, affine_eq]

@[simp]
theorem written1_normalized (point : G1) : written1 point.normalized = written1 point :=
  written1_congr (BaseField.interpretation.affine_normalized point)

@[simp]
theorem written2_normalized (point : G2) : written2 point.normalized = written2 point :=
  written2_congr (QuadraticField.interpretation.affine_normalized point)

theorem Regular1.z_ne {point : G1} (regular : Regular1 point) : point.z ≠ 0 := by
  obtain ⟨P, P_ne, represents⟩ := regular
  exact represents.z_ne P_ne

theorem Regular2.z_ne {point : G2} (regular : Regular2 point) : point.z ≠ 0 := by
  obtain ⟨P, P_ne, -, represents⟩ := regular
  exact represents.z_ne P_ne

theorem regular1_normalized_iff {point : G1} (z_ne : point.z ≠ 0) :
    Regular1 point.normalized ↔ Regular1 point :=
  exists_congr fun _ =>
    and_congr_right fun _ => BaseField.interpretation.represents_normalized_iff z_ne

theorem regular2_normalized_iff {point : G2} (z_ne : point.z ≠ 0) :
    Regular2 point.normalized ↔ Regular2 point :=
  exists_congr fun _ => and_congr_right fun _ =>
    and_congr_right fun _ => QuadraticField.interpretation.represents_normalized_iff z_ne

theorem Regular1.normalized {point : G1} (regular : Regular1 point) :
    Regular1 point.normalized :=
  (regular1_normalized_iff regular.z_ne).mpr regular

theorem Regular2.normalized {point : G2} (regular : Regular2 point) :
    Regular2 point.normalized :=
  (regular2_normalized_iff regular.z_ne).mpr regular

/-- Without checks the written coordinates of any triple are read back. -/
theorem decode1_written1 (label : String) {verify : Bool} {point : G1}
    (accepted : verify = true → Regular1 point) :
    decode1 label verify (written1 point) = .ok point.normalized := by
  have coordinates : decodeCoordinates label 2 (written1 point) =
      .ok [point.affine.1, point.affine.2] := by
    rw [← decodeCoordinates_flatMap label [point.affine.1, point.affine.2]]
    simp [written1]
  rw [decode1, if_neg (not_not_intro (length_written1 point)), coordinates]
  change (if (verify && !point.normalized.onCurve constant) = true then _ else _) = _
  cases verify with
  | false => rfl
  | true =>
      obtain ⟨P, P_ne, represents⟩ := (accepted rfl).normalized
      have onCurve : point.normalized.onCurve constant = true := represents.onCurve P_ne
      rw [onCurve]
      rfl

theorem decode2_written2 (label : String) {verify : Bool} {point : G2}
    (accepted : verify = true → Regular2 point) :
    decode2 label verify (written2 point) = .ok point.normalized := by
  have coordinates : decodeCoordinates label 4 (written2 point) =
      .ok [point.affine.1.im, point.affine.1.re, point.affine.2.im, point.affine.2.re] := by
    rw [← decodeCoordinates_flatMap label
      [point.affine.1.im, point.affine.1.re, point.affine.2.im, point.affine.2.re]]
    simp [written2]
  rw [decode2, if_neg (not_not_intro (length_written2 point)), coordinates]
  cases verify with
  | false => rfl
  | true =>
      obtain ⟨P, P_ne, order_eq, represents⟩ := (accepted rfl).normalized
      have onCurve : point.normalized.onCurve twistConstant = true := represents.onCurve P_ne
      have tested : inSubgroup point.normalized = true :=
        (Interpretation.represents_multiply two_ne_zero_extensionField represents
          groupOrder).isInfinity_iff.mpr order_eq
      change (if (!point.normalized.onCurve twistConstant) = true then _
        else if (!inSubgroup point.normalized) = true then _ else _) = _
      rw [onCurve, tested]
      rfl

theorem encodeCoordinate_of_decodeCoordinate {label : String} {bytes : Bytes}
    {element : BaseField} (sized : bytes.length = 32)
    (decoded : decodeCoordinate label bytes = .ok element) : encodeCoordinate element = bytes := by
  rw [decodeCoordinate] at decoded
  split at decoded
  · obtain rfl := Except.ok.inj decoded
    exact Bytes.ofNatBE_toNatBE sized
  · contradiction

/-- Coordinates are written in one way. -/
theorem flatMap_of_decodeCoordinates {label : String} {count : Nat} {bytes : Bytes}
    {elements : List BaseField} (sized : bytes.length = 32 * count)
    (decoded : decodeCoordinates label count bytes = .ok elements) :
    elements.length = count ∧ elements.flatMap encodeCoordinate = bytes := by
  induction count generalizing bytes elements with
  | zero =>
      obtain rfl := Except.ok.inj decoded
      exact ⟨rfl, (List.eq_nil_of_length_eq_zero sized).symm⟩
  | succ count ih =>
      obtain ⟨element, first, decoded⟩ := exists_of_bind_eq_ok decoded
      obtain ⟨more, rest, decoded⟩ := exists_of_bind_eq_ok decoded
      obtain rfl := Except.ok.inj decoded
      have front_sized : (bytes.take 32).length = 32 := by
        rw [List.length_take, sized]
        omega
      have rest_sized : (bytes.drop 32).length = 32 * count := by
        rw [List.length_drop, sized]
        omega
      obtain ⟨counted, rest_eq⟩ := ih rest_sized rest
      refine ⟨congrArg (· + 1) counted, ?_⟩
      rw [List.flatMap_cons, encodeCoordinate_of_decodeCoordinate front_sized first, rest_eq,
        List.take_append_drop]

theorem written1_ofAffine (x y : BaseField) :
    written1 (Point.ofAffine x y) = encodeCoordinate x ++ encodeCoordinate y := by
  rw [written1, BaseField.interpretation.affine_ofAffine]

theorem written2_ofAffine (x y : QuadraticField) :
    written2 (Point.ofAffine x y) = encodeCoordinate x.im ++ encodeCoordinate x.re ++
      encodeCoordinate y.im ++ encodeCoordinate y.re := by
  rw [written2, QuadraticField.interpretation.affine_ofAffine]

/-- A point of the first group that has been read has affine coordinates, which are those that were
written, and has passed its check. -/
theorem of_decode1 {label : String} {verify : Bool} {bytes : Bytes} {point : G1}
    (decoded : decode1 label verify bytes = .ok point) :
    written1 point = bytes ∧ point.normalized = point ∧ (verify = true → Regular1 point) := by
  rw [decode1] at decoded
  split at decoded
  · contradiction
  rename_i sized
  obtain ⟨elements, elements_eq, decoded⟩ := exists_of_bind_eq_ok decoded
  have written := (flatMap_of_decodeCoordinates (not_not.mp sized) elements_eq).2
  match elements with
  | [x, y] =>
      change (if (verify && !(Point.ofAffine x y).onCurve constant) = true then _ else _) = _
        at decoded
      split at decoded
      · contradiction
      · rename_i accepted
        obtain rfl := Except.ok.inj decoded
        refine ⟨?_, BaseField.interpretation.normalized_ofAffine x y, fun verified => ?_⟩
        · simpa [written1_ofAffine] using written
        · exact regular1_ofAffine (by simpa [verified] using accepted)

/-- The same for a point of the second group. -/
theorem of_decode2 {label : String} {verify : Bool} {bytes : Bytes} {point : G2}
    (decoded : decode2 label verify bytes = .ok point) :
    written2 point = bytes ∧ point.normalized = point ∧ (verify = true → Regular2 point) := by
  rw [decode2] at decoded
  split at decoded
  · contradiction
  rename_i sized
  obtain ⟨elements, elements_eq, decoded⟩ := exists_of_bind_eq_ok decoded
  have written := (flatMap_of_decodeCoordinates (not_not.mp sized) elements_eq).2
  match elements with
  | [x1, x0, y1, y0] =>
      let read : G2 := Point.ofAffine ⟨x0, x1⟩ ⟨y0, y1⟩
      have read_written : written2 read = bytes := by
        simpa [read, written2_ofAffine] using written
      have read_affine : read.normalized = read :=
        QuadraticField.interpretation.normalized_ofAffine _ _
      cases verify with
      | false =>
          obtain rfl := Except.ok.inj decoded
          exact ⟨read_written, read_affine, fun verified => Bool.noConfusion verified⟩
      | true =>
          change (if (!read.onCurve twistConstant) = true then _
            else if (!inSubgroup read) = true then _ else _) = _ at decoded
          split at decoded
          · contradiction
          · split at decoded
            · contradiction
            · rename_i onCurve tested
              obtain rfl := Except.ok.inj decoded
              refine ⟨read_written, read_affine, fun _ => ?_⟩
              exact regular2_ofAffine (by simpa using onCurve) (by simpa using tested)

end Curve
end BeaconCeremony

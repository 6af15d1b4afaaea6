import BeaconCeremony.Phase2.Contribution
import BeaconCeremony.Proofs.Curve.Order
import Mathlib.Data.Rat.Floor

/-!
# Scaling a query

One pass over a query makes the multiples of its points and reports how far it has come.  Up to any
point, the pass has left the multiples of the points before and one line for every position that was
due; the last position of a query is always due, so it is told once and at the end.
-/

namespace BeaconCeremony
namespace Phase2

open Curve

variable {scalar : Nat} {name : String} {every : Int} {total reached position : Nat}

/-! ## Positions that are due -/

/-- The positions from the first one up to `reached` after which progress is reported. -/
def reported (every : Int) (total reached : Nat) : List Nat :=
  (List.range' 1 reached).filter (isReported every total)

theorem isReported_iff :
    isReported every total position = true ↔
      0 < every ∧ (every ∣ (position : Int) ∨ position = total) := by
  rw [isReported, Bool.and_eq_true, Bool.or_eq_true, decide_eq_true_iff, decide_eq_true_iff,
    decide_eq_true_iff]
  refine and_congr_right fun every_pos => or_congr_left ?_
  obtain ⟨step, rfl⟩ := Int.eq_ofNat_of_zero_le every_pos.le
  rw [Int.toNat_natCast, Int.natCast_dvd_natCast, Nat.dvd_iff_mod_eq_zero]

theorem reported_succ (reached : Nat) :
    reported every total (reached + 1) =
      reported every total reached ++
        if isReported every total (reached + 1) then [reached + 1] else [] := by
  rw [reported, List.range'_1_concat, List.filter_append, List.filter_singleton, Nat.add_comm 1,
    cond_eq_ite]
  rfl

theorem mem_reported_iff :
    position ∈ reported every total reached ↔
      0 < every ∧ 1 ≤ position ∧ position ≤ reached ∧
        (every ∣ (position : Int) ∨ position = total) := by
  rw [reported, List.mem_filter, List.mem_range'_1, isReported_iff]
  constructor
  · rintro ⟨⟨first_le, lt_end⟩, every_pos, due⟩
    exact ⟨every_pos, first_le, by omega, due⟩
  · rintro ⟨every_pos, first_le, le_reached, due⟩
    exact ⟨⟨first_le, by omega⟩, every_pos, due⟩

theorem pairwise_reported (every : Int) (total reached : Nat) :
    (reported every total reached).Pairwise (· < ·) :=
  (List.pairwise_lt_range' 1).filter _

/-- If `every` is not positive, nothing is ever due. -/
theorem reported_of_nonpos (every_nonpos : every ≤ 0) (total reached : Nat) :
    reported every total reached = [] :=
  List.eq_nil_iff_forall_not_mem.mpr fun _ member =>
    (mem_reported_iff.mp member).1.not_ge every_nonpos

theorem ceil_succ_div {step : Nat} (step_pos : 0 < step) (before : Nat) :
    ⌈((before + 1 : Nat) : ℚ) / step⌉ = (before / step + 1 : Nat) := by
  have step_pos' : (0 : ℚ) < step := Nat.cast_pos.mpr step_pos
  have below : before / step * step < before + 1 := Nat.lt_succ_of_le (Nat.div_mul_le_self _ _)
  have above : before + 1 ≤ (before / step + 1) * step := by
    rw [Nat.mul_comm]
    exact Nat.lt_mul_div_succ before step_pos
  rw [Int.ceil_eq_iff, lt_div_iff₀ step_pos', div_le_iff₀ step_pos']
  push_cast
  rw [add_sub_cancel_right]
  exact ⟨by exact_mod_cast below, by exact_mod_cast above⟩

section Due

variable (every_pos : 0 < every)

include every_pos

/-- The last position is due once, also where it is a multiple itself. -/
theorem reported_last (before : Nat) :
    reported every (before + 1) (before + 1) =
      reported every (before + 1) before ++ [before + 1] := by
  rw [reported_succ, if_pos (isReported_iff.mpr ⟨every_pos, .inr rfl⟩)]

/-- Before the last position only the multiples count. -/
theorem length_reported_of_lt (reached_lt : reached < total) :
    (reported every total reached).length = reached / every.toNat := by
  induction reached with
  | zero => exact (Nat.zero_div _).symm
  | succ reached ih =>
      -- The position is not the last one yet, so the quotient grows exactly where it is due.
      have due_iff : isReported every total (reached + 1) = true ↔ every.toNat ∣ reached + 1 := by
        rw [isReported_iff, ← Int.natCast_dvd_natCast, Int.toNat_of_nonneg every_pos.le]
        simp only [every_pos, reached_lt.ne, or_false, true_and]
      rw [reported_succ, List.length_append, ih (Nat.lt_of_succ_lt reached_lt), Nat.succ_div]
      congr 1
      by_cases due : isReported every total (reached + 1) = true
      · rw [if_pos due, if_pos (due_iff.mp due), List.length_singleton]
      · rw [if_neg due, if_neg (mt due_iff.mpr due), List.length_nil]

/-- As many positions are due as there are multiples before the last position, and that one. -/
theorem length_reported (total : Nat) :
    ((reported every total total).length : Int) = ⌈(total : ℚ) / every⌉ := by
  cases total with
  | zero => simp [reported]
  | succ before =>
      obtain ⟨step, rfl⟩ := Int.eq_ofNat_of_zero_le every_pos.le
      rw [reported_last every_pos, List.length_append, List.length_singleton,
        length_reported_of_lt every_pos (Nat.lt_succ_self before), Int.toNat_natCast,
        Int.cast_natCast, ceil_succ_div (Int.natCast_pos.mp every_pos)]

end Due

/-! ## The pass -/

/-- What a pass over a query of `total` points has left when these points are behind it. -/
structure Passed (scalar : Nat) (name : String) (every : Int) (total : Nat) (passed : List G1)
    (scaling : Scaling) : Prop where
  /-- The multiples of the points, in their order. -/
  points_eq : scaling.points.toList = scale scalar passed
  /-- The lines of the positions that were due. -/
  log_eq : scaling.log.toList =
    (reported every total passed.length).map fun position => progressLine name position total

variable {passed : List G1} {scaling : Scaling}

theorem passed_nil : Passed scalar name every total [] {} where
  points_eq := rfl
  log_eq := rfl

theorem Passed.next (before : Passed scalar name every total passed scaling) (point : G1) :
    Passed scalar name every total (passed ++ [point])
      (scaling.next scalar name every total point) := by
  have size_eq : scaling.points.size = passed.length := by
    rw [← Array.length_toList, before.points_eq, scale, List.length_map]
  constructor
  · rw [Scaling.next, Array.toList_push, before.points_eq, scale, scale, List.map_append]
    rfl
  · rw [Scaling.next, List.length_append, List.length_singleton, reported_succ, List.map_append,
      ← before.log_eq, size_eq]
    by_cases due : isReported every total (passed.length + 1) = true
    · simp only [if_pos due, Array.toList_push, List.map_cons, List.map_nil]
    · simp only [if_neg due, List.map_nil, List.append_nil]

theorem Passed.foldl (before : Passed scalar name every total passed scaling) (rest : List G1) :
    Passed scalar name every total (passed ++ rest)
      (rest.foldl (Scaling.next scalar name every total) scaling) := by
  -- The points that are left are taken one by one, and what is behind grows by each of them.
  induction rest generalizing passed scaling with
  | nil => rwa [List.append_nil]
  | cons point rest ih =>
      rw [List.foldl_cons, List.append_cons]
      exact ih (before.next point)

theorem passed_scaleQuery (scalar : Nat) (name : String) (every : Int) (points : List G1) :
    Passed scalar name every points.length points (scaleQuery scalar name every points) :=
  passed_nil.foldl points

theorem toList_points_scaleQuery (scalar : Nat) (name : String) (every : Int) (points : List G1) :
    (scaleQuery scalar name every points).points.toList = scale scalar points :=
  (passed_scaleQuery scalar name every points).points_eq

theorem toList_log_scaleQuery (scalar : Nat) (name : String) (every : Int) (points : List G1) :
    (scaleQuery scalar name every points).log.toList = progress name every points.length :=
  (passed_scaleQuery scalar name every points).log_eq

example : (scaleQuery 5 "l" 2 (List.replicate 4 generator1)).log.toList =
    ["contribution progress l: 2/4", "contribution progress l: 4/4"] := by
  decide +kernel

/-! ## The log -/

/-- A log that tells how the pass over a query of `total` points went on. -/
structure TellsProgress (name : String) (every : Int) (total : Nat) (log : List String) : Prop where
  /-- The lines are those of the positions that are due, in increasing order. -/
  lines : ∃ positions : List Nat,
    log = positions.map (fun position => progressLine name position total) ∧
    positions.Pairwise (· < ·) ∧
    ∀ position, position ∈ positions ↔
      0 < every ∧ 1 ≤ position ∧ position ≤ total ∧ (every ∣ (position : Int) ∨ position = total)
  /-- No line is told twice. -/
  nodup : log.Nodup
  /-- There is a line for every `every` points that have been begun. -/
  length_eq : 0 < every → (log.length : Int) = ⌈(total : ℚ) / every⌉
  /-- The last line tells the last position. -/
  last_eq : 0 < every → 0 < total → log.getLast? = some (progressLine name total total)
  /-- There are no lines where none are asked for or there are no points. -/
  silent : every ≤ 0 ∨ total = 0 → log = []

theorem progressLine_injective (name : String) (total : Nat) :
    Function.Injective fun position => progressLine name position total := by
  intro left right same
  -- The texts before the position and after it are the same in all lines.
  have numbers_eq : s!": {left}/{total}" = s!": {right}/{total}" :=
    (String.append_right_inj _).mp same
  have position_eq : ": " ++ toString left = ": " ++ toString right :=
    (String.append_left_inj _).mp ((String.append_left_inj _).mp numbers_eq)
  have digits_eq : Nat.toDigits 10 left = Nat.toDigits 10 right := by
    have repr_eq : left.repr = right.repr := (String.append_right_inj _).mp position_eq
    rw [← Nat.toList_repr, ← Nat.toList_repr, repr_eq]
  calc
    left = Nat.ofDigitChars 10 (Nat.toDigits 10 left) 0 := Nat.ofDigitChars_ten_toDigits.symm
    _ = Nat.ofDigitChars 10 (Nat.toDigits 10 right) 0 := by rw [digits_eq]
    _ = right := Nat.ofDigitChars_ten_toDigits

theorem tellsProgress_progress (name : String) (every : Int) (total : Nat) :
    TellsProgress name every total (progress name every total) where
  lines := ⟨reported every total total, rfl, pairwise_reported every total total,
    fun _ => mem_reported_iff⟩
  nodup := List.Nodup.map (progressLine_injective name total)
    ((pairwise_reported every total total).imp Nat.ne_of_lt)
  length_eq every_pos := by
    rw [← length_reported every_pos total]
    exact congrArg Nat.cast (List.length_map _)
  last_eq every_pos total_pos := by
    obtain ⟨before, rfl⟩ := Nat.exists_eq_add_one_of_ne_zero total_pos.ne'
    have positions_eq := reported_last every_pos before
    rw [reported] at positions_eq
    rw [progress, positions_eq, List.map_append, List.map_singleton, List.getLast?_concat]
  silent quiet := by
    have nothing_due : reported every total total = [] := by
      rcases quiet with every_nonpos | rfl
      · exact reported_of_nonpos every_nonpos total total
      · rfl
    exact List.map_eq_nil_iff.mpr nothing_due

/-- Whatever is reported, scaling a query makes the multiples of its points in their order, and they
stand for the multiples in the group of whatever curve a point lies on.  The log tells exactly the
positions that are due. -/
theorem scaleQuery_exact (scalar : Nat) (name : String) (every : Int) (points : List G1) :
    let scaling := scaleQuery scalar name every points
    scaling.points.toList = points.map (fun point => point.multiply scalar) ∧
      List.Forall₂ (fun point scaled => ∀ (constant : PrimeField) (P : (shortCurve constant).Point),
          BaseField.interpretation.Represents point P →
            BaseField.interpretation.Represents scaled (scalar • P))
        points scaling.points.toList ∧
      TellsProgress name every points.length scaling.log.toList := by
  intro scaling
  have points_eq : scaling.points.toList = points.map fun point => point.multiply scalar :=
    toList_points_scaleQuery scalar name every points
  have log_eq : scaling.log.toList = progress name every points.length :=
    toList_log_scaleQuery scalar name every points
  refine ⟨points_eq, ?_, ?_⟩
  · rw [points_eq, List.forall₂_map_right_iff, List.forall₂_same]
    intro point _ constant P represents
    exact Interpretation.represents_multiply two_ne_zero_primeField represents scalar
  · rw [log_eq]
    exact tellsProgress_progress name every points.length

/-- Three multiples of the generator are told in twos, or not at all. -/
theorem scaleQuery_exact_inTwos :
    let points := List.replicate 3 generator1
    let scaling := scaleQuery 5 "h" 2 points
    0 < (2 : Int) ∧ 0 < points.length ∧ (-2 : Int) ≤ 0 ∧
      scaling.points.toList = List.replicate 3 (generator1.multiply 5) ∧
      (∃ P : Group1, BaseField.interpretation.Represents generator1 P ∧
        BaseField.interpretation.Represents (generator1.multiply 5) (5 • P)) ∧
      scaling.log.toList.length = 2 ∧
      scaling.log.toList.getLast? = some "contribution progress h: 3/3" ∧
      (scaleQuery 5 "h" (-2) points).log.toList = [] := by
  intro points scaling
  have some_due : 0 < (2 : Int) := by decide
  have some_point : 0 < points.length := by decide
  have none_due : (-2 : Int) ≤ 0 := by decide
  obtain ⟨points_eq, represents, tells⟩ := scaleQuery_exact 5 "h" 2 points
  obtain ⟨-, -, silent⟩ := scaleQuery_exact 5 "h" (-2) points
  have length_eq : (scaling.log.toList.length : Int) = ⌈((3 : Nat) : ℚ) / (2 : Int)⌉ :=
    tells.length_eq some_due
  have ceil_eq : ⌈((3 : Nat) : ℚ) / (2 : Int)⌉ = 2 := by norm_num
  have line_eq : progressLine "h" 3 3 = "contribution progress h: 3/3" := by decide
  refine ⟨some_due, some_point, none_due, ?_, ?_, ?_, ?_, silent.silent (.inl none_due)⟩
  · rw [points_eq, List.map_replicate]
  · obtain ⟨P, -, generator_represents⟩ := exists_represents_generator1
    rw [points_eq] at represents
    have first := (List.forall₂_cons.mp represents).1
    exact ⟨P, generator_represents, first constant1 P generator_represents⟩
  · rw [ceil_eq] at length_eq
    exact_mod_cast length_eq
  · rw [← line_eq]
    exact tells.last_eq some_due some_point

end Phase2
end BeaconCeremony

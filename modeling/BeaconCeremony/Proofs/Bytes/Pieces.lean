import BeaconCeremony.Bytes.Basic
import Mathlib.Tactic.Common

/-!
# Byte strings in pieces

The pieces of a byte string make it up in their order, and only the last of them can be shorter than
the others.  Where a byte string is cut into pieces and each of these once more, the smaller pieces
are the same as if it had been cut into them at once.
-/

namespace BeaconCeremony
namespace Bytes

/-- Pieces make up a byte string.  None of them is empty, and each has `size` bytes, except that the
last one may have fewer. -/
structure CutInto (size : Nat) (bytes : Bytes) (pieces : List Bytes) : Prop where
  /-- Nothing is lost or repeated. -/
  flatten_eq : pieces.flatten = bytes
  /-- No piece is empty. -/
  length_pos : ∀ piece ∈ pieces, 0 < piece.length
  /-- No piece is too long. -/
  length_le : ∀ piece ∈ pieces, piece.length ≤ size
  /-- Every piece but the last one is full. -/
  length_eq : ∀ piece ∈ pieces.dropLast, piece.length = size

variable {size : Nat} {bytes : Bytes}

theorem piecesOf_nil (size : Nat) : piecesOf size [] = [] := by
  rw [piecesOf]

theorem piecesOf_of_ne_nil (bytes_ne : bytes ≠ []) :
    piecesOf size bytes = bytes.take (size + 1) :: piecesOf size (bytes.drop (size + 1)) := by
  obtain ⟨byte, rest, rfl⟩ := List.exists_cons_of_ne_nil bytes_ne
  rw [piecesOf, List.take_succ_cons, List.drop_succ_cons]

theorem cutInto_piecesOf (size : Nat) (bytes : Bytes) :
    CutInto (size + 1) bytes (piecesOf size bytes) := by
  fun_induction piecesOf size bytes with
  | case1 => exact ⟨rfl, by simp, by simp, by simp⟩
  | case2 byte rest ih =>
      refine ⟨?_, ?_, ?_, ?_⟩
      · rw [List.flatten_cons, ih.flatten_eq, List.cons_append, List.take_append_drop]
      · exact List.forall_mem_cons.mpr ⟨Nat.zero_lt_succ _, ih.length_pos⟩
      · refine List.forall_mem_cons.mpr ⟨?_, ih.length_le⟩
        rw [List.length_cons, List.length_take]
        exact Nat.succ_le_succ (Nat.min_le_left size rest.length)
      · intro piece member
        by_cases short : rest.length ≤ size
        · rw [List.drop_of_length_le short, piecesOf_nil] at member
          cases member
        · have rest_ne : rest.drop size ≠ [] := mt List.drop_eq_nil_iff.mp short
          rw [piecesOf_of_ne_nil rest_ne, List.dropLast_cons_cons,
            ← piecesOf_of_ne_nil rest_ne] at member
          rcases List.mem_cons.mp member with rfl | later
          · rw [List.length_cons, List.length_take_of_le (Nat.le_of_not_le short)]
          · exact ih.length_eq piece later

theorem length_piecesOf (size : Nat) (bytes : Bytes) :
    (piecesOf size bytes).length = (bytes.length + size) / (size + 1) := by
  fun_induction piecesOf size bytes with
  | case1 => exact (Nat.div_eq_of_lt (by simp)).symm
  | case2 byte rest ih =>
      rw [List.length_cons, ih, List.length_drop, List.length_cons,
        ← Nat.add_div_right _ (Nat.succ_pos size)]
      by_cases short : rest.length ≤ size
      · rw [Nat.sub_eq_zero_of_le short]
        have same : (rest.length + 1 + size) / (size + 1) = 1 :=
          Nat.div_eq_of_lt_le (by omega) (by omega)
        rw [same]
        exact Nat.div_eq_of_lt_le (by omega) (by omega)
      · congr 1
        omega

/-- Where there is a cut after the first part, both parts can be cut by themselves. -/
theorem piecesOf_append {left : Bytes} (even : size + 1 ∣ left.length) (right : Bytes) :
    piecesOf size (left ++ right) = piecesOf size left ++ piecesOf size right := by
  fun_induction piecesOf size left with
  | case1 => rfl
  | case2 byte rest ih =>
      have enough : size ≤ rest.length := Nat.le_of_succ_le_succ (Nat.le_of_dvd (by simp) even)
      have rest_even : size + 1 ∣ (rest.drop size).length := by
        rw [List.length_drop, ← Nat.add_sub_add_right rest.length 1 size]
        exact Nat.dvd_sub even (Nat.dvd_refl (size + 1))
      rw [List.cons_append, piecesOf, List.take_append_of_le_length enough,
        List.drop_append_of_le_length enough, ih rest_even, List.cons_append]

/-- The pieces of the pieces are smaller pieces of the whole. -/
theorem flatMap_piecesOf {larger : Nat} (even : size + 1 ∣ larger + 1) (bytes : Bytes) :
    (piecesOf larger bytes).flatMap (piecesOf size) = piecesOf size bytes := by
  fun_induction piecesOf larger bytes with
  | case1 => exact (piecesOf_nil size).symm
  | case2 byte rest ih =>
      rw [List.flatMap_cons, ih]
      by_cases short : rest.length ≤ larger
      · rw [List.drop_of_length_le short, List.take_of_length_le short, piecesOf_nil,
          List.append_nil]
      · have first_even : size + 1 ∣ (byte :: rest.take larger).length := by
          rw [List.length_cons, List.length_take_of_le (Nat.le_of_not_le short)]
          exact even
        rw [← piecesOf_append first_even, List.cons_append, List.take_append_drop]

end Bytes
end BeaconCeremony

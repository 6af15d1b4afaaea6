import BeaconCeremony.Bytes.Basic
import Mathlib.Data.Nat.ModEq
import Mathlib.Tactic.Linarith
import Mathlib.Tactic.Ring

/-!
# Numbers as bytes

The digits of a number to the base 256 give the number back, as far as there are enough of them.
-/

namespace BeaconCeremony
namespace Bytes

theorem toNatLE_ofNatLE (size value : Nat) : toNatLE (ofNatLE size value) = value % 256 ^ size := by
  induction size generalizing value with
  | zero => exact (Nat.mod_one value).symm
  | succ size ih =>
      have digit_eq : (UInt8.ofNat value).toNat = value % 256 := UInt8.toNat_ofNat'
      rw [ofNatLE, toNatLE, ih, digit_eq, pow_succ', Nat.mod_mul]

theorem toNatBE_ofNatBE {size value : Nat} (fits : value < 256 ^ size) :
    toNatBE (ofNatBE size value) = value := by
  rw [toNatBE, ofNatBE, List.reverse_reverse, toNatLE_ofNatLE, Nat.mod_eq_of_lt fits]

theorem ofNatLE_toNatLE (bytes : Bytes) : ofNatLE bytes.length (toNatLE bytes) = bytes := by
  induction bytes with
  | nil => rfl
  | cons byte rest ih =>
      have byte_lt : byte.toNat < 256 := byte.toNat_lt
      have digit_eq : UInt8.ofNat (byte.toNat + 256 * toNatLE rest) = byte := by
        rw [← UInt8.toNat_inj, UInt8.toNat_ofNat']
        omega
      have rest_eq : (byte.toNat + 256 * toNatLE rest) / 256 = toNatLE rest := by omega
      rw [List.length_cons, toNatLE, ofNatLE, digit_eq, rest_eq, ih]

/-- As many digits as there are bytes give the bytes back. -/
theorem ofNatBE_toNatBE {size : Nat} {bytes : Bytes} (sized : bytes.length = size) :
    ofNatBE size (toNatBE bytes) = bytes := by
  subst sized
  rw [ofNatBE, toNatBE, ← List.length_reverse, ofNatLE_toNatLE, List.reverse_reverse]

/-- The digits of a number are its lower ones and then those of what is left. -/
theorem ofNatLE_add (front back value : Nat) :
    ofNatLE (front + back) value = ofNatLE front value ++ ofNatLE back (value / 256 ^ front) := by
  induction front generalizing value with
  | zero => simp [ofNatLE]
  | succ front ih =>
      have left_eq : value / 256 / 256 ^ front = value / 256 ^ (front + 1) := by
        rw [Nat.div_div_eq_div_mul, ← pow_succ']
      rw [Nat.succ_add, ofNatLE, ih, left_eq, ofNatLE, List.cons_append]

theorem toNatLE_lt (bytes : Bytes) : toNatLE bytes < 256 ^ bytes.length := by
  induction bytes with
  | nil => exact Nat.one_pos
  | cons byte rest ih =>
      have byte_lt : byte.toNat < 256 := byte.toNat_lt
      rw [toNatLE, List.length_cons, pow_succ']
      omega

theorem toNatBE_lt (bytes : Bytes) : toNatBE bytes < 256 ^ bytes.length := by
  rw [toNatBE, ← List.length_reverse]
  exact toNatLE_lt bytes.reverse

/-- The number of a big-endian word is that of its bytes. -/
theorem toNat_wordBE (first second third fourth : UInt8) :
    (wordBE first second third fourth).toNat = toNatBE [first, second, third, fourth] := by
  have first_lt := first.toNat_lt
  have second_lt := second.toNat_lt
  have third_lt := third.toNat_lt
  have fourth_lt := fourth.toNat_lt
  have lower : third.toNat <<< 8 ||| fourth.toNat = third.toNat * 256 + fourth.toNat := by
    rw [← Nat.shiftLeft_add_eq_or_of_lt fourth_lt, Nat.shiftLeft_eq]
  have middle : second.toNat <<< 16 ||| (third.toNat * 256 + fourth.toNat) =
      second.toNat * 65536 + (third.toNat * 256 + fourth.toNat) := by
    rw [← Nat.shiftLeft_add_eq_or_of_lt (by omega), Nat.shiftLeft_eq]
  have upper : first.toNat <<< 24 ||| (second.toNat * 65536 + (third.toNat * 256 + fourth.toNat)) =
      first.toNat * 16777216 + (second.toNat * 65536 + (third.toNat * 256 + fourth.toNat)) := by
    rw [← Nat.shiftLeft_add_eq_or_of_lt (by omega), Nat.shiftLeft_eq]
  have fits (byte : UInt8) {amount : Nat} (small : amount ≤ 24) :
      byte.toNat <<< amount % 4294967296 = byte.toNat <<< amount := by
    have byte_lt := byte.toNat_lt
    have power_le : 2 ^ amount ≤ 2 ^ 24 := Nat.pow_le_pow_right (by decide) small
    rw [Nat.shiftLeft_eq]
    exact Nat.mod_eq_of_lt (by nlinarith)
  have word_eq : (wordBE first second third fourth).toNat = first.toNat <<< 24 |||
      (second.toNat <<< 16 ||| (third.toNat <<< 8 ||| fourth.toNat)) := by
    simp [wordBE, fits, Nat.or_assoc]
  rw [word_eq, lower, middle, upper]
  simp only [toNatBE, List.reverse_cons, List.reverse_nil, List.nil_append, List.cons_append,
    toNatLE]
  omega

/-- The numbers of the big-endian words are those of the pieces of four bytes. -/
theorem map_toNat_wordsBE (bytes : Bytes) :
    (wordsBE bytes).map UInt32.toNat =
      (List.range (bytes.length / 4)).map fun index =>
        toNatBE ((bytes.drop (4 * index)).take 4) := by
  fun_induction wordsBE bytes with
  | case1 first second third fourth rest ih =>
      have count_eq : (first :: second :: third :: fourth :: rest).length / 4 =
          rest.length / 4 + 1 := by
        simp only [List.length_cons]
        omega
      rw [count_eq, List.range_succ_eq_map, List.map_cons, List.map_cons, List.map_map, ih,
        toNat_wordBE]
      congr 1
  | case2 bytes short =>
      have few : bytes.length / 4 = 0 := by
        rw [← length_wordsBE, wordsBE.eq_2 bytes short]
        rfl
      rw [few]
      rfl

/-! ## Words -/

/-- Byte strings of one length are told apart by their numbers. -/
theorem eq_of_toNatBE_eq {left right : Bytes} (sized : left.length = right.length)
    (same : toNatBE left = toNatBE right) : left = right := by
  rw [← ofNatBE_toNatBE sized, same, ofNatBE_toNatBE rfl]

theorem toNatBE_ofWordBE (word : UInt32) : toNatBE (ofWordBE word) = word.toNat := by
  have word_lt := word.toNat_lt
  simp [toNatBE, ofWordBE, toNatLE, Nat.shiftRight_eq_div_pow]
  omega

theorem ofWordBE_injective : Function.Injective ofWordBE := by
  intro left right same
  rw [← UInt32.toNat_inj, ← toNatBE_ofWordBE, same, toNatBE_ofWordBE]

theorem ofWordBE_ofNat (value : Nat) : ofWordBE (UInt32.ofNat value) = ofNatBE 4 value := by
  refine eq_of_toNatBE_eq rfl ?_
  rw [toNatBE_ofWordBE, toNatBE, ofNatBE, List.reverse_reverse, toNatLE_ofNatLE,
    UInt32.toNat_ofNat']
  rfl

theorem ofWordBE_wordBE (first second third fourth : UInt8) :
    ofWordBE (wordBE first second third fourth) = [first, second, third, fourth] := by
  refine eq_of_toNatBE_eq rfl ?_
  rw [toNatBE_ofWordBE, toNat_wordBE]

theorem wordsBE_append (word : UInt32) (rest : Bytes) :
    wordsBE (ofWordBE word ++ rest) = word :: wordsBE rest := by
  have word_eq : wordBE (word >>> 24).toUInt8 (word >>> 16).toUInt8 (word >>> 8).toUInt8
      word.toUInt8 = word := by
    rw [← UInt32.toNat_inj, toNat_wordBE]
    exact toNatBE_ofWordBE word
  rw [ofWordBE, List.cons_append, List.cons_append, List.cons_append, List.cons_append,
    List.nil_append, wordsBE, word_eq]

/-- The words are read back from their bytes. -/
theorem wordsBE_flatMap (words : List UInt32) : wordsBE (words.flatMap ofWordBE) = words := by
  induction words with
  | nil => rfl
  | cons word words ih => rw [List.flatMap_cons, wordsBE_append, ih]

/-- Words are laid out as the groups of four bytes that they are made of, if one word is. -/
theorem flatMap_wordsBE {α : Type} {layOut : UInt32 → List α} {spread : Bytes → List α}
    (group_eq : ∀ first second third fourth, layOut (wordBE first second third fourth) =
      spread [first, second, third, fourth])
    {bytes : Bytes} (whole : 4 ∣ bytes.length) :
    (wordsBE bytes).flatMap layOut = (piecesOf 3 bytes).flatMap spread := by
  fun_induction wordsBE bytes with
  | case1 first second third fourth rest ih =>
      have rest_whole : 4 ∣ rest.length := (Nat.dvd_add_left (Nat.dvd_refl 4)).mp whole
      rw [List.flatMap_cons, group_eq, ih rest_whole, piecesOf, List.flatMap_cons]
      rfl
  | case2 bytes short =>
      have few : bytes.length / 4 = 0 := by
        rw [← length_wordsBE, wordsBE.eq_2 bytes short]
        rfl
      have none_left : bytes.length = 0 := by omega
      rw [List.length_eq_zero_iff.mp none_left, piecesOf]
      rfl

end Bytes
end BeaconCeremony

import BeaconCeremony.Text.Utf8
import Mathlib.Tactic.Common

/-!
# Texts survive their encoding

Whatever is written as UTF-8 is read back as the same text.  The strict reader refuses overlong
forms and surrogates, and the writer makes neither.
-/

namespace BeaconCeremony
namespace Utf8

/-- A leading byte stands for a code point, together with the bytes that follow it. -/
def Leads (lead : UInt8) (tail : Bytes) (point : Nat) : Prop :=
  following? lead.toNat = some tail.length ∧
    ∀ rest, continueWith (secondRange lead.toNat) (leadValue lead.toNat tail.length) tail.length 0
      (tail ++ rest) = .ok (point, tail.length)

theorem decodeFrom_of_leads {lead : UInt8} {tail : Bytes} {point : Nat}
    (leads : Leads lead tail point) (position : Nat) (rest : Bytes) :
    decodeFrom position (lead :: (tail ++ rest)) =
      (decodeFrom (position + 1 + tail.length) rest).map (Char.ofNat point :: ·) := by
  rw [decodeFrom]
  simp only [leads.1, leads.2, List.drop_left]

/-- A number is the value of a byte that may stand at some place. -/
structure Fits (range : Nat × Nat) (value : Nat) : Prop where
  least_le : range.1 ≤ value
  le_greatest : value ≤ range.2
  small : value < 256

theorem Fits.continueWith_cons {range : Nat × Nat} {byte : Nat} (fits : Fits range byte)
    (value count used : Nat) (rest : Bytes) :
    continueWith range value (count + 1) used (UInt8.ofNat byte :: rest) =
      continueWith (0x80, 0xbf) (value * 64 + (byte - 0x80)) count (used + 1) rest := by
  have toNat_eq : (UInt8.ofNat byte).toNat = byte := UInt8.toNat_ofNat_of_lt fits.small
  rw [continueWith, toNat_eq, if_pos ⟨fits.least_le, fits.le_greatest⟩]

section Lengths

variable {lead second third fourth : Nat}

theorem leads_one (bound : lead < 0x80) : Leads (UInt8.ofNat lead) [] lead := by
  have toNat_eq : (UInt8.ofNat lead).toNat = lead :=
    UInt8.toNat_ofNat_of_lt (show lead < 256 by omega)
  rw [Leads, toNat_eq]
  exact ⟨if_pos bound, fun rest => rfl⟩

theorem leads_two (bounds : 0xc2 ≤ lead ∧ lead ≤ 0xdf) (fits : Fits (secondRange lead) second) :
    Leads (UInt8.ofNat lead) [UInt8.ofNat second] ((lead - 0xc0) * 64 + (second - 0x80)) := by
  have toNat_eq : (UInt8.ofNat lead).toNat = lead :=
    UInt8.toNat_ofNat_of_lt (show lead < 256 by omega)
  rw [Leads, toNat_eq]
  refine ⟨?_, fun rest => ?_⟩
  · rw [following?, if_neg (by omega), if_pos bounds]
    rfl
  · exact fits.continueWith_cons _ _ _ _

theorem leads_three (bounds : 0xe0 ≤ lead ∧ lead ≤ 0xef) (fits : Fits (secondRange lead) second)
    (third_fits : Fits (0x80, 0xbf) third) :
    Leads (UInt8.ofNat lead) [UInt8.ofNat second, UInt8.ofNat third]
      (((lead - 0xe0) * 64 + (second - 0x80)) * 64 + (third - 0x80)) := by
  have toNat_eq : (UInt8.ofNat lead).toNat = lead :=
    UInt8.toNat_ofNat_of_lt (show lead < 256 by omega)
  rw [Leads, toNat_eq]
  refine ⟨?_, fun rest => ?_⟩
  · rw [following?, if_neg (by omega), if_neg (by omega), if_pos bounds]
    rfl
  · exact (fits.continueWith_cons _ _ _ _).trans (third_fits.continueWith_cons _ _ _ _)

theorem leads_four (bounds : 0xf0 ≤ lead ∧ lead ≤ 0xf4) (fits : Fits (secondRange lead) second)
    (third_fits : Fits (0x80, 0xbf) third) (fourth_fits : Fits (0x80, 0xbf) fourth) :
    Leads (UInt8.ofNat lead) [UInt8.ofNat second, UInt8.ofNat third, UInt8.ofNat fourth]
      ((((lead - 0xf0) * 64 + (second - 0x80)) * 64 + (third - 0x80)) * 64 + (fourth - 0x80)) := by
  have toNat_eq : (UInt8.ofNat lead).toNat = lead :=
    UInt8.toNat_ofNat_of_lt (show lead < 256 by omega)
  rw [Leads, toNat_eq]
  refine ⟨?_, fun rest => ?_⟩
  · rw [following?, if_neg (by omega), if_neg (by omega), if_neg (by omega), if_pos bounds]
    rfl
  · exact (fits.continueWith_cons _ _ _ _).trans
      ((third_fits.continueWith_cons _ _ _ _).trans (fourth_fits.continueWith_cons _ _ _ _))

end Lengths

theorem fits_tail (value : Nat) : Fits (0x80, 0xbf) (value % 64 + 128) :=
  ⟨Nat.le_add_left _ _, by simp only; omega, by omega⟩

/-- The bounds of the second byte, which rule out overlong forms and surrogates. -/
theorem fits_second {lead : Nat} (value : Nat) (overlong3 : lead = 0xe0 → 32 ≤ value % 64)
    (surrogate : lead = 0xed → value % 64 < 32) (overlong4 : lead = 0xf0 → 16 ≤ value % 64)
    (beyond : lead = 0xf4 → value % 64 < 16) : Fits (secondRange lead) (value % 64 + 128) := by
  have small : value % 64 < 64 := Nat.mod_lt _ (by decide)
  refine ⟨?_, ?_, by omega⟩
  · rw [secondRange]
    split_ifs <;> simp only <;> omega
  · rw [secondRange]
    split_ifs <;> simp only <;> omega

/-- The bytes of a character stand for its code point. -/
theorem exists_leads (character : Char) : ∃ lead tail,
    String.utf8EncodeChar character = lead :: tail ∧ Leads lead tail character.toNat := by
  have valid : character.val.toNat < 0xd800 ∨
      0xdfff < character.val.toNat ∧ character.val.toNat < 0x110000 := character.valid
  rw [String.utf8EncodeChar, Char.toNat]
  generalize character.val.toNat = point at valid
  split_ifs with one two three
  · exact ⟨_, [], rfl, leads_one (by omega)⟩
  · have leads := @leads_two (point / 64 % 32 + 192) (point % 64 + 128) (by omega)
      (fits_second point (by omega) (by omega) (by omega) (by omega))
    have value_eq : (point / 64 % 32 + 192 - 0xc0) * 64 + (point % 64 + 128 - 0x80) = point := by
      omega
    rw [value_eq] at leads
    exact ⟨_, [_], rfl, leads⟩
  · have leads := @leads_three (point / 4096 % 16 + 224) (point / 64 % 64 + 128) (point % 64 + 128)
      (by omega) (fits_second (point / 64) (by omega) (by omega) (by omega) (by omega))
      (fits_tail point)
    have value_eq : ((point / 4096 % 16 + 224 - 0xe0) * 64 + (point / 64 % 64 + 128 - 0x80)) * 64 +
        (point % 64 + 128 - 0x80) = point := by
      omega
    rw [value_eq] at leads
    exact ⟨_, [_, _], rfl, leads⟩
  · have leads := @leads_four (point / 262144 % 8 + 240) (point / 4096 % 64 + 128)
      (point / 64 % 64 + 128) (point % 64 + 128) (by omega)
      (fits_second (point / 4096) (by omega) (by omega) (by omega) (by omega))
      (fits_tail (point / 64)) (fits_tail point)
    have value_eq : (((point / 262144 % 8 + 240 - 0xf0) * 64 +
        (point / 4096 % 64 + 128 - 0x80)) * 64 + (point / 64 % 64 + 128 - 0x80)) * 64 +
          (point % 64 + 128 - 0x80) = point := by
      omega
    rw [value_eq] at leads
    exact ⟨_, [_, _, _], rfl, leads⟩

theorem decodeFrom_encodeChar (character : Char) (position : Nat) (rest : Bytes) :
    ∃ next, decodeFrom position (String.utf8EncodeChar character ++ rest) =
      (decodeFrom next rest).map (character :: ·) := by
  obtain ⟨lead, tail, encoded, leads⟩ := exists_leads character
  refine ⟨position + 1 + tail.length, ?_⟩
  rw [encoded, List.cons_append, decodeFrom_of_leads leads, Char.ofNat_toNat]

theorem decodeFrom_flatMap (characters : List Char) (position : Nat) :
    decodeFrom position (characters.flatMap String.utf8EncodeChar) = .ok characters := by
  induction characters generalizing position with
  | nil => rw [List.flatMap_nil, decodeFrom]
  | cons character characters ih =>
      obtain ⟨next, decoded⟩ := decodeFrom_encodeChar character position
        (characters.flatMap String.utf8EncodeChar)
      rw [List.flatMap_cons, decoded, ih]
      rfl

theorem toList_loop (bytes : ByteArray) (start : Nat) (done : Bytes) :
    ByteArray.toList.loop bytes start done = done.reverse ++ bytes.data.toList.drop start := by
  fun_induction ByteArray.toList.loop bytes start done with
  | case1 start done inside ih =>
      have inside : start < bytes.data.toList.length := inside
      have byte_eq : bytes.get! start = bytes.data.toList[start] :=
        (getElem!_pos bytes.data start inside).trans (Array.getElem_toList inside).symm
      rw [ih, List.reverse_cons, List.append_assoc, List.drop_eq_getElem_cons inside, byte_eq]
      rfl
  | case2 start done outside =>
      have past : bytes.data.toList.length ≤ start := Nat.le_of_not_lt outside
      rw [List.drop_eq_nil_of_le past, List.append_nil]

theorem encode_ofList (characters : List Char) :
    encode (String.ofList characters) = characters.flatMap String.utf8EncodeChar := by
  rw [encode, String.toUTF8, ByteArray.toList, toList_loop]
  simp [String.ofList, List.utf8Encode]

/-- What has been written is read back. -/
theorem decode_encode (text : String) : decode (encode text) = .ok text := by
  rw [← String.ofList_toList (s := text), encode_ofList, decode, decodeFrom_flatMap]
  rfl

end Utf8
end BeaconCeremony

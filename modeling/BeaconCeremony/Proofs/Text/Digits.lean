import BeaconCeremony.Proofs.Bytes.Hex
import BeaconCeremony.Proofs.Text.Lines
import BeaconCeremony.Text.Blank
import BeaconCeremony.Text.DecimalDigit
import BeaconCeremony.Text.Quoted
import Mathlib.Data.List.Induction
import Mathlib.Tactic.Common

/-!
# Numbers and bytes that are shown and read again

A number is written with the ten digits of ASCII and read with the digits of all scripts.  Bytes are
written in lower case and read in either case.
-/

namespace BeaconCeremony
namespace Text

/-- Text that can stand in the middle of a line: no blank and no start of a control sequence. -/
def Ink (characters : List Char) : Prop :=
  ∀ character ∈ characters, isBlank character = false ∧ character ≠ '\x1b'

theorem isLineBreak_of_not_isBlank {character : Char} (ink : isBlank character = false) :
    isLineBreak character = false := by
  simp only [isBlank, isLineBreak, Bool.or_eq_false_iff, Bool.and_eq_false_iff, beq_eq_false_iff_ne,
    decide_eq_false_iff_not] at ink ⊢
  omega

theorem Ink.tame {characters : List Char} (ink : Ink characters) : Tame characters :=
  fun character member =>
    ⟨isLineBreak_of_not_isBlank (ink character member).1, (ink character member).2⟩

/-! ## Decimal digits -/

section Decimal

variable {character : Char} {characters : List Char}

theorem digit?_of_isDigit (digit : character.isDigit = true) :
    digit? character = some (character.toNat - '0'.toNat) := by
  have bounds : 0x30 ≤ character.toNat ∧ character.toNat ≤ 0x39 := Char.isDigit_iff_toNat.mp digit
  have first : 0x30 ≤ character.toNat ∧ character.toNat < 0x30 + 10 := by omega
  rw [digit?, digitZeros, List.find?_cons_of_pos (by simpa using first)]
  rfl

theorem ink_of_isDigit (digits : ∀ character ∈ characters, character.isDigit = true) :
    Ink characters := by
  intro character member
  have bounds : 0x30 ≤ character.toNat ∧ character.toNat ≤ 0x39 :=
    Char.isDigit_iff_toNat.mp (digits character member)
  constructor
  · simp only [isBlank, Bool.or_eq_false_iff, Bool.and_eq_false_iff, beq_eq_false_iff_ne,
      decide_eq_false_iff_not]
    omega
  · rintro rfl
    exact absurd bounds (by decide)

theorem isDigit_of_mem_toDigits {number : Nat} (member : character ∈ Nat.toDigits 10 number) :
    character.isDigit = true :=
  Nat.isDigit_of_mem_toDigits (by decide) (by decide) member

theorem ink_toDigits (number : Nat) : Ink (Nat.toDigits 10 number) :=
  ink_of_isDigit fun _ => isDigit_of_mem_toDigits

theorem mapM_digit?_of_isDigit (digits : ∀ character ∈ characters, character.isDigit = true) :
    characters.mapM digit? =
      some (characters.map fun character => character.toNat - '0'.toNat) := by
  induction characters with
  | nil => rfl
  | cons character characters ih =>
      obtain ⟨here, there⟩ := List.forall_mem_cons.mp digits
      rw [List.mapM_cons, digit?_of_isDigit here, ih there]
      rfl

/-- A number is read as it has been written. -/
theorem decimal?_toDigits (number : Nat) : decimal? (Nat.toDigits 10 number) = some number := by
  have written : (Nat.toDigits 10 number).isEmpty = false :=
    List.isEmpty_eq_false_iff.mpr Nat.toDigits_ne_nil
  have value_eq : digitsValue ((Nat.toDigits 10 number).map fun character =>
      character.toNat - '0'.toNat) = number := by
    rw [digitsValue, List.foldl_map]
    exact Nat.ofDigitChars_ten_toDigits
  rw [decimal?, if_neg (Bool.eq_false_iff.mp written),
    mapM_digit?_of_isDigit fun _ => isDigit_of_mem_toDigits, Option.map_some, value_eq]

end Decimal

end Text

/-! ## Hexadecimal digits -/

namespace Hex

theorem digit?_digitChar {value : Nat} (bound : value < 16) :
    digit? (digitChar value) = some value := by
  have each : ∀ value : Fin 16, digit? (digitChar value) = some value.val := by decide
  exact each ⟨value, bound⟩

theorem ink_digitChar {value : Nat} (bound : value < 16) :
    Text.isBlank (digitChar value) = false ∧ digitChar value ≠ '\x1b' := by
  have each : ∀ value : Fin 16, Text.isBlank (digitChar value) = false ∧
      digitChar value ≠ '\x1b' := by decide
  exact each ⟨value, bound⟩

theorem spells_encodeChars (bytes : Bytes) : Spells (encodeChars bytes) bytes := by
  induction bytes with
  | nil => exact .nil
  | cons byte bytes ih =>
      have byte_lt : byte.toNat < 256 := byte.toNat_lt
      have high := digit?_digitChar (show byte.toNat / 16 < 16 by omega)
      have low := digit?_digitChar (show byte.toNat % 16 < 16 by omega)
      exact .cons high low (Nat.div_add_mod _ _).symm ih

theorem encodeChars_injective : Function.Injective encodeChars := by
  intro left right same
  have left_eq := (spells_encodeChars left).decodeChars?_eq
  have right_eq := (spells_encodeChars right).decodeChars?_eq
  rw [same, right_eq] at left_eq
  exact (Option.some.inj left_eq).symm

theorem encodeChars_flatten (pieces : List Bytes) :
    encodeChars pieces.flatten = pieces.flatMap encodeChars := by
  rw [← List.flatMap_id, encodeChars, List.flatMap_assoc]
  rfl

theorem length_encode (bytes : Bytes) : (encode bytes).length = 2 * bytes.length := by
  rw [encode, String.length_ofList, (spells_encodeChars bytes).length_eq]

theorem ink_encodeChars (bytes : Bytes) : Text.Ink (encodeChars bytes) := by
  intro character member
  obtain ⟨byte, -, member⟩ := List.mem_flatMap.mp member
  have byte_lt : byte.toNat < 256 := byte.toNat_lt
  simp only [List.mem_cons, List.not_mem_nil, or_false] at member
  rcases member with rfl | rfl
  · exact ink_digitChar (show byte.toNat / 16 < 16 by omega)
  · exact ink_digitChar (show byte.toNat % 16 < 16 by omega)

theorem length_hexDigits (width number : Nat) : (Text.hexDigits width number).length = width := by
  induction width generalizing number with
  | zero => rfl
  | succ width ih => rw [Text.hexDigits, List.length_append, ih, List.length_singleton]

theorem ink_hexDigits (width number : Nat) : Text.Ink (Text.hexDigits width number) := by
  induction width generalizing number with
  | zero => exact List.forall_mem_nil _
  | succ width ih =>
      have digit := ink_digitChar (Nat.mod_lt number (by decide : 0 < 16))
      exact List.forall_mem_append.mpr ⟨ih _, by simpa using digit⟩

/-- The digits of the number that bytes stand for are those of the bytes, leading zeros included. -/
theorem hexDigits_toNatBE (bytes : Bytes) :
    Text.hexDigits (2 * bytes.length) (Bytes.toNatBE bytes) = encodeChars bytes := by
  induction bytes using List.reverseRecOn with
  | nil => rfl
  | append_singleton front byte ih =>
      have byte_lt : byte.toNat < 256 := byte.toNat_lt
      obtain ⟨number, number_eq⟩ : ∃ number, Bytes.toNatBE front = number := ⟨_, rfl⟩
      have longer_eq : Bytes.toNatBE (front ++ [byte]) = byte.toNat + 256 * number := by
        rw [Bytes.toNatBE, List.reverse_append, ← number_eq]
        rfl
      have front_eq : (byte.toNat + 256 * number) / 16 / 16 = number := by omega
      have high_eq : (byte.toNat + 256 * number) / 16 % 16 = byte.toNat / 16 := by omega
      have low_eq : (byte.toNat + 256 * number) % 16 = byte.toNat % 16 := by omega
      have width_eq : 2 * (front ++ [byte]).length = 2 * front.length + 1 + 1 := by
        rw [List.length_append, List.length_singleton]
        omega
      rw [longer_eq, width_eq, Text.hexDigits, Text.hexDigits, front_eq, high_eq, low_eq,
        ← number_eq, ih, encodeChars, encodeChars, List.flatMap_append, List.append_assoc]
      rfl

end Hex
end BeaconCeremony

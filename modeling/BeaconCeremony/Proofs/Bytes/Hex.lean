import BeaconCeremony.Bytes.Hex

/-!
# Spellings of bytes in hexadecimal notation

Bytes have many spellings, because every digit from ten on has two letter cases.  All of them are
read as the same bytes, and nothing else is read as bytes at all: a text that can be read consists
of an even number of digits.  Written again, the bytes have the same spelling in lower case.
-/

namespace BeaconCeremony
namespace Hex

/-- The characters are two digits for each of the bytes, in either letter case. -/
inductive Spells : List Char → Bytes → Prop
  | nil : Spells [] []
  | cons {high low : Char} {highValue lowValue : Nat} {byte : UInt8} {characters : List Char}
      {bytes : Bytes} (high_eq : digit? high = some highValue) (low_eq : digit? low = some lowValue)
      (byte_eq : byte.toNat = 16 * highValue + lowValue) (rest : Spells characters bytes) :
      Spells (high :: low :: characters) (byte :: bytes)

namespace Spells

variable {characters : List Char} {bytes : Bytes}

theorem decodeChars?_eq (spells : Spells characters bytes) :
    decodeChars? characters = some bytes := by
  induction spells with
  | nil => rfl
  | cons high_eq low_eq byte_eq _ ih =>
      simp only [decodeChars?, high_eq, low_eq, ih, Option.bind_eq_bind, Option.bind_some,
        ← byte_eq, UInt8.ofNat_toNat]
      rfl

theorem all_isDigit (spells : Spells characters bytes) : characters.all isDigit = true := by
  induction spells with
  | nil => rfl
  | cons high_eq low_eq _ _ ih =>
      simp only [List.all_cons, ih, isDigit, high_eq, low_eq]
      rfl

theorem length_eq (spells : Spells characters bytes) : characters.length = 2 * bytes.length := by
  induction spells with
  | nil => rfl
  | cons _ _ _ _ ih =>
      simp only [List.length_cons, ih]
      omega

/-- Every spelling of bytes is read as these bytes. -/
theorem decode_eq (spells : Spells characters bytes) :
    decode (String.ofList characters) = .ok bytes := by
  have even : ¬characters.length % 2 ≠ 0 := by
    rw [spells.length_eq]
    omega
  simp only [decode, RawText.ofString, String.toList_ofList, List.isEmpty_nil, Bool.not_true,
    hasDigitsOnly, spells.all_isDigit, Bool.true_or, Bool.or_false, Bool.false_eq_true, if_false,
    if_neg even, spells.decodeChars?_eq]

end Spells

/-! ## Characters that are a spelling -/

variable {characters : List Char} {bytes : Bytes}

theorem char_le_iff (left right : Char) : left ≤ right ↔ left.toNat ≤ right.toNat :=
  UInt32.le_iff_toNat_le

theorem digit?_lt {character : Char} {value : Nat} (digit_eq : digit? character = some value) :
    value < 16 := by
  simp only [digit?, char_le_iff, Char.reduceToNat] at digit_eq
  split at digit_eq
  · obtain rfl := Option.some.inj digit_eq
    omega
  · split at digit_eq
    · obtain rfl := Option.some.inj digit_eq
      omega
    · split at digit_eq
      · obtain rfl := Option.some.inj digit_eq
        omega
      · cases digit_eq

theorem spells_cons {high low : Char} {highValue lowValue : Nat}
    (high_eq : digit? high = some highValue) (low_eq : digit? low = some lowValue)
    (spells : Spells characters bytes) :
    Spells (high :: low :: characters) (UInt8.ofNat (16 * highValue + lowValue) :: bytes) := by
  have high_lt := digit?_lt high_eq
  have low_lt := digit?_lt low_eq
  have small : 16 * highValue + lowValue < 256 := by omega
  exact .cons high_eq low_eq (UInt8.toNat_ofNat_of_lt small) spells

/-- An even number of digits spells some bytes. -/
theorem exists_spells (digits : characters.all isDigit = true)
    (even : characters.length % 2 = 0) : ∃ bytes, Spells characters bytes := by
  induction characters using decodeChars?.induct with
  | case1 => exact ⟨[], .nil⟩
  | case2 => contradiction
  | case3 high low rest ih =>
      simp only [List.all_cons, Bool.and_eq_true] at digits
      obtain ⟨highValue, high_eq⟩ := Option.isSome_iff_exists.mp digits.1
      obtain ⟨lowValue, low_eq⟩ := Option.isSome_iff_exists.mp digits.2.1
      simp only [List.length_cons] at even
      obtain ⟨bytes, spells⟩ := ih digits.2.2 (by omega)
      exact ⟨_, spells_cons high_eq low_eq spells⟩

/-- Bytes are read from their spellings only. -/
theorem spells_of_decodeChars? (decoded : decodeChars? characters = some bytes) :
    Spells characters bytes := by
  induction characters using decodeChars?.induct generalizing bytes with
  | case1 =>
      obtain rfl := Option.some.inj decoded
      exact .nil
  | case2 => contradiction
  | case3 high low rest ih =>
      obtain ⟨highValue, high_eq, decoded⟩ := Option.bind_eq_some_iff.mp decoded
      obtain ⟨lowValue, low_eq, decoded⟩ := Option.bind_eq_some_iff.mp decoded
      obtain ⟨more, more_eq, decoded⟩ := Option.bind_eq_some_iff.mp decoded
      obtain rfl := Option.some.inj decoded
      exact spells_cons high_eq low_eq (ih more_eq)

/-! ## Texts that can be read -/

/-- The digits of hexadecimal notation. -/
def digits : List Char := "0123456789abcdefABCDEF".toList

theorem toNat_lt_of_isDigit {character : Char} (digit : isDigit character = true) :
    character.toNat < 128 := by
  refine Decidable.byContradiction fun large => ?_
  simp only [isDigit, digit?, char_le_iff, Char.reduceToNat] at digit
  rw [if_neg (by omega), if_neg (by omega), if_neg (by omega)] at digit
  contradiction

theorem isDigit_iff {character : Char} : isDigit character = true ↔ character ∈ digits := by
  constructor
  · intro digit
    have each : ∀ code : Fin 128,
        isDigit (Char.ofNat code) = true → Char.ofNat code ∈ digits := by
      decide +kernel
    have found := each ⟨character.toNat, toNat_lt_of_isDigit digit⟩
    rw [Char.ofNat_toNat] at found
    exact found digit
  · have each : digits.all isDigit = true := by decide
    exact List.all_eq_true.mp each character

theorem exists_spells_iff :
    (∃ bytes, Spells characters bytes) ↔
      (∀ character ∈ characters, character ∈ digits) ∧ characters.length % 2 = 0 := by
  have all_iff : characters.all isDigit = true ↔ ∀ character ∈ characters, character ∈ digits := by
    simp only [List.all_eq_true, isDigit_iff]
  rw [← all_iff]
  constructor
  · rintro ⟨bytes, spells⟩
    refine ⟨spells.all_isDigit, ?_⟩
    rw [spells.length_eq]
    exact Nat.mul_mod_right 2 _
  · rintro ⟨all_digits, even⟩
    exact exists_spells all_digits even

/-- A digit of either case is written in lower case. -/
theorem digitChar_of_digit? {character : Char} {value : Nat}
    (digit_eq : digit? character = some value) : digitChar value = character.toLower := by
  have each : digits.all (fun digit => (digit? digit).map digitChar == some digit.toLower) =
      true := by
    decide
  have member : character ∈ digits :=
    isDigit_iff.mp (Option.isSome_iff_exists.mpr ⟨value, digit_eq⟩)
  have written := eq_of_beq (List.all_eq_true.mp each character member)
  rw [digit_eq] at written
  exact Option.some.inj written

/-- Bytes are written in the lower case of each of their spellings. -/
theorem Spells.encodeChars_eq (spells : Spells characters bytes) :
    encodeChars bytes = characters.map Char.toLower := by
  induction spells with
  | nil => rfl
  | @cons high low highValue lowValue byte characters bytes high_eq low_eq byte_eq rest ih =>
      have low_lt := digit?_lt low_eq
      have high_half : byte.toNat / 16 = highValue := by omega
      have low_half : byte.toNat % 16 = lowValue := by omega
      rw [List.map_cons, List.map_cons, ← ih, ← digitChar_of_digit? high_eq,
        ← digitChar_of_digit? low_eq, ← high_half, ← low_half]
      rfl

/-- Only spellings of bytes are read as bytes. -/
theorem decode_eq_ok_iff {text : RawText} :
    decode text = .ok bytes ↔ ∃ characters, text = String.ofList characters ∧
      Spells characters bytes := by
  constructor
  · intro decoded
    obtain ⟨start, rest⟩ := text
    simp only [decode] at decoded
    split at decoded
    · contradiction
    · rename_i plain
      split at decoded
      · contradiction
      · split at decoded
        · rename_i found
          obtain rfl := Except.ok.inj decoded
          obtain rfl : rest = [] := by simp_all
          exact ⟨start.toList, by rw [String.ofList_toList]; rfl, spells_of_decodeChars? found⟩
        · contradiction
  · rintro ⟨characters, rfl, spells⟩
    exact spells.decode_eq

end Hex
end BeaconCeremony

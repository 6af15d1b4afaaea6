import BeaconCeremony.Json.Reader
import BeaconCeremony.Json.Writer
import BeaconCeremony.Proofs.Text.Digits

/-!
# Texts in JSON documents

A character is written as itself, by the name of its escape, or by the numbers of its code units.
Each of these is read as the same code units, and of these the same characters are made; so a text
is read from its quotes as it has been written, whatever follows them.
-/

namespace BeaconCeremony
namespace Json

/-- The code units of a character: its code point, or both halves of its surrogate pair. -/
def unitsOf (character : Char) : List Nat :=
  if character.toNat < 0x10000 then [character.toNat]
  else
    let offset := character.toNat - 0x10000
    [0xd800 + offset / 0x400, 0xdc00 + offset % 0x400]

/-- The ways in which a character is written. -/
inductive Escape (character : Char) : List Char → Prop
  | named {mark : Char} (name : escaped? mark = some character)
      (small : character.toNat < 0x10000) :
      Escape character ['\\', mark]
  | plain (no_quote : character ≠ '"') (no_slash : character ≠ '\\')
      (bounds : 0x20 ≤ character.toNat ∧ character.toNat ≤ 0x7e) : Escape character [character]
  | numbered : Escape character ((unitsOf character).flatMap unitEscape)

section Writing

variable {character : Char}

theorem unitsOf_of_small (small : character.toNat < 0x10000) :
    unitsOf character = [character.toNat] := if_pos small

/-- No character has the code point of half of a pair, and none is beyond the last plane. -/
theorem toNat_valid (character : Char) :
    character.toNat < 0xd800 ∨ 0xdfff < character.toNat ∧ character.toNat < 0x110000 :=
  character.valid

theorem unit_lt {unit : Nat} (member : unit ∈ unitsOf character) : unit < 0x10000 := by
  have valid := toNat_valid character
  rw [unitsOf] at member
  split at member
  · rwa [List.mem_singleton.mp member]
  · simp only [List.mem_cons, List.not_mem_nil, or_false] at member
    omega

/-- The characters that have an escape of their own. -/
def namedCharacters : List Char := ['"', '\\', '\n', '\r', '\t', '\x0c', '\x08']

theorem exists_escapeCharacter_of_mem (named : character ∈ namedCharacters) :
    ∃ mark, escapeCharacter character = ['\\', mark] ∧ escaped? mark = some character ∧
      character.toNat < 0x10000 := by
  simp only [namedCharacters, List.mem_cons, List.not_mem_nil, or_false] at named
  rcases named with rfl | rfl | rfl | rfl | rfl | rfl | rfl <;> exact ⟨_, rfl, rfl, by decide⟩

theorem escapeCharacter_of_not_mem (unnamed : character ∉ namedCharacters) :
    escapeCharacter character = if ' ' ≤ character ∧ character ≤ '~' then [character]
      else (unitsOf character).flatMap unitEscape := by
  simp only [namedCharacters, List.mem_cons, List.not_mem_nil, or_false, not_or] at unnamed
  obtain ⟨no_quote, no_slash, no_feed, no_return, no_tab, no_page, no_back⟩ := unnamed
  rw [escapeCharacter, if_neg no_quote, if_neg no_slash, if_neg no_feed, if_neg no_return,
    if_neg no_tab, if_neg no_page, if_neg no_back, unitsOf]
  congr 1
  split
  · rw [List.flatMap_singleton]
  · rw [List.flatMap_cons, List.flatMap_singleton]

/-- Every character is written in one of these ways. -/
theorem escape_escapeCharacter (character : Char) :
    Escape character (escapeCharacter character) := by
  by_cases named : character ∈ namedCharacters
  · obtain ⟨mark, escape_eq, name, small⟩ := exists_escapeCharacter_of_mem named
    exact escape_eq ▸ .named name small
  · rw [escapeCharacter_of_not_mem named]
    split
    · rename_i bounds
      simp only [namedCharacters, List.mem_cons, not_or] at named
      exact .plain named.1 named.2.1 bounds
    · exact .numbered

end Writing

/-! ## Code units -/

section Units

variable {character : Char} {unit : Nat} {rest left : List Char} {more : List Nat}

theorem units_named {mark : Char} (name : escaped? mark = some character)
    (read : units rest = .ok (more, left)) :
    units ('\\' :: mark :: rest) = .ok (character.toNat :: more, left) := by
  have no_u : mark ≠ 'u' := by
    rintro rfl
    cases name
  rw [units, if_neg no_u, name]
  · simp only [read]
    rfl
  · rintro first second third fourth others rfl
    exact absurd rfl no_u

theorem units_plain (no_quote : character ≠ '"') (no_slash : character ≠ '\\')
    (printable : 0x20 ≤ character.toNat) (read : units rest = .ok (more, left)) :
    units (character :: rest) = .ok (character.toNat :: more, left) := by
  rw [units, if_neg no_slash, if_neg (Nat.not_lt.mpr printable), read]
  · rfl
  · exact no_quote
  · exact fun _ _ _ _ _ same => absurd same no_slash
  · exact fun _ _ same => absurd same no_slash

theorem ne_nil_of_units (read : units rest = .ok (more, left)) : rest ≠ [] := by
  rintro rfl
  cases read

theorem units_unitEscape (fits : unit < 0x10000) (read : units rest = .ok (more, left)) :
    units (unitEscape unit ++ rest) = .ok (unit :: more, left) := by
  have digit (number : Nat) : Hex.digit? (Hex.digitChar (number % 16)) = some (number % 16) :=
    Hex.digit?_digitChar (Nat.mod_lt number (by decide))
  have unit_eq : unit? (Hex.digitChar (unit / 16 / 16 / 16 % 16))
      (Hex.digitChar (unit / 16 / 16 % 16)) (Hex.digitChar (unit / 16 % 16))
      (Hex.digitChar (unit % 16)) = some unit := by
    simp only [unit?, digit, Option.bind_eq_bind, Option.bind_some]
    refine congrArg some ?_
    omega
  have goes_on : rest.isEmpty = false := List.isEmpty_eq_false_iff.mpr (ne_nil_of_units read)
  have written_eq : unitEscape unit ++ rest = '\\' :: 'u' ::
      Hex.digitChar (unit / 16 / 16 / 16 % 16) :: Hex.digitChar (unit / 16 / 16 % 16) ::
        Hex.digitChar (unit / 16 % 16) :: Hex.digitChar (unit % 16) :: rest := rfl
  rw [written_eq, units, unit_eq, goes_on, read]
  rfl

theorem units_flatMap_unitEscape {numbers : List Nat} (fit : ∀ unit ∈ numbers, unit < 0x10000)
    (read : units rest = .ok (more, left)) :
    units (numbers.flatMap unitEscape ++ rest) = .ok (numbers ++ more, left) := by
  induction numbers with
  | nil => exact read
  | cons unit numbers ih =>
      obtain ⟨here, there⟩ := List.forall_mem_cons.mp fit
      rw [List.flatMap_cons, List.append_assoc]
      exact units_unitEscape here (ih there)

/-- However a character is written, its code units are read. -/
theorem Escape.units_eq {written : List Char} (escape : Escape character written)
    (read : units rest = .ok (more, left)) :
    units (written ++ rest) = .ok (unitsOf character ++ more, left) := by
  cases escape with
  | named name small =>
      rw [unitsOf_of_small small]
      exact units_named name read
  | plain no_quote no_slash bounds =>
      rw [unitsOf_of_small (by omega)]
      exact units_plain no_quote no_slash bounds.1 read
  | numbered => exact units_flatMap_unitEscape (fun _ => unit_lt) read

theorem units_flatMap_escapeCharacter (characters rest : List Char) :
    units (characters.flatMap escapeCharacter ++ '"' :: rest) =
      .ok (characters.flatMap unitsOf, rest) := by
  induction characters with
  | nil => rfl
  | cons character characters ih =>
      rw [List.flatMap_cons, List.append_assoc, List.flatMap_cons]
      exact (escape_escapeCharacter character).units_eq ih

/-- The code units of a character are put together again. -/
theorem joinUnits_unitsOf (character : Char) (more : List Nat) :
    joinUnits (unitsOf character ++ more) = .character character :: joinUnits more := by
  have valid := toNat_valid character
  have point_eq : Mark.ofPoint character.toNat = .character character :=
    Mark.ofPoint_point (.character character)
  by_cases small : character.toNat < 0x10000
  · have alone : isHighSurrogate character.toNat = false := by
      simp only [isHighSurrogate, Bool.and_eq_false_iff, decide_eq_false_iff_not]
      omega
    rw [unitsOf_of_small small, List.singleton_append]
    cases more with
    | nil => exact congrArg (fun mark => [mark]) point_eq
    | cons low more => rw [joinUnits, alone, Bool.false_and, if_neg Bool.false_ne_true, point_eq]
  · have high : isHighSurrogate (0xd800 + (character.toNat - 0x10000) / 0x400) = true := by
      simp only [isHighSurrogate, Bool.and_eq_true, decide_eq_true_eq]
      omega
    have low : isLowSurrogate (0xdc00 + (character.toNat - 0x10000) % 0x400) = true := by
      simp only [isLowSurrogate, Bool.and_eq_true, decide_eq_true_eq]
      omega
    have pair_eq : 0x10000 + (0xd800 + (character.toNat - 0x10000) / 0x400 - 0xd800) * 0x400 +
        (0xdc00 + (character.toNat - 0x10000) % 0x400 - 0xdc00) = character.toNat := by
      omega
    rw [unitsOf, if_neg small]
    simp only [List.cons_append, List.nil_append]
    rw [joinUnits, high, low, Bool.and_true, if_pos rfl, pair_eq, point_eq]

theorem joinUnits_flatMap_unitsOf (characters : List Char) :
    joinUnits (characters.flatMap unitsOf) = characters.map .character := by
  induction characters with
  | nil => rfl
  | cons character characters ih =>
      rw [List.flatMap_cons, joinUnits_unitsOf, ih, List.map_cons]

end Units

/-! ## Quotes -/

theorem quote_coe (content : String) :
    quote content = '"' :: content.toList.flatMap escapeCharacter ++ ['"'] := by
  rw [quote, RawText.marks_coe, List.flatMap_map]
  rfl

/-- A text is read from its quotes, whatever follows them. -/
theorem text_flatMap_escapeCharacter (content : String) (rest : List Char) :
    text (content.toList.flatMap escapeCharacter ++ '"' :: rest) =
      .ok ((content : RawText), rest) := by
  have content_eq : RawText.ofMarks (content.toList.map .character) = (content : RawText) := by
    rw [← RawText.marks_coe, RawText.ofMarks_marks]
  rw [text, units_flatMap_escapeCharacter]
  dsimp only
  rw [joinUnits_flatMap_unitsOf, content_eq]

/-- No carriage return is written. -/
theorem Escape.return_not_mem {character : Char} {written : List Char}
    (escape : Escape character written) : '\r' ∉ written := by
  cases escape with
  | named name small =>
      rename_i mark
      simp only [List.mem_cons, List.not_mem_nil, or_false, not_or]
      refine ⟨by decide, ?_⟩
      rintro rfl
      cases name
  | plain no_quote no_slash bounds =>
      rw [List.mem_singleton]
      rintro rfl
      exact absurd bounds.1 (by decide)
  | numbered =>
      rw [List.mem_flatMap]
      rintro ⟨unit, -, member⟩
      simp only [unitEscape, List.mem_cons] at member
      rcases member with same | same | digit
      · cases same
      · cases same
      · exact absurd (Hex.ink_hexDigits 4 unit '\r' digit).1 (by decide)

theorem return_not_mem_quote (content : String) : '\r' ∉ quote content := by
  rw [quote_coe]
  simp only [List.cons_append, List.mem_cons, List.mem_append, List.mem_flatMap, not_or]
  refine ⟨by decide, ?_, by decide, List.not_mem_nil⟩
  rintro ⟨character, -, member⟩
  exact (escape_escapeCharacter character).return_not_mem member

end Json
end BeaconCeremony

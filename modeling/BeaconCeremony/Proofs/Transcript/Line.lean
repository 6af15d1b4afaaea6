import BeaconCeremony.Proofs.Text.Digits
import BeaconCeremony.Transcript
import Mathlib.Data.List.Forall2
import Mathlib.Data.List.ReduceOption
import Mathlib.Data.List.TakeWhile

/-!
# Lines with a number and a word

A line is taken for one with a checkpoint if it consists of digits, a colon and at most one word,
with blanks before the digits and around the word.  It can be taken apart in one way only, because
no digit is a blank or the colon.  The word is a state if it is a spelling of its bytes.  Lines that
can be read one by one are read one after the other.
-/

namespace BeaconCeremony
namespace Text

variable {character : Char} {characters : List Char}

theorem isBlank_of_isDigit (digit : isDigit character = true) : isBlank character = false := by
  have each : ∀ start ∈ digitZeros, ∀ value < 10,
      isBlank (Char.ofNat (start + value)) = false := by
    decide +kernel
  obtain ⟨value, value_eq⟩ := Option.isSome_iff_exists.mp digit
  obtain ⟨start, found, -⟩ := Option.map_eq_some_iff.mp value_eq
  have within := List.find?_some found
  rw [decide_eq_true_iff] at within
  have ink := each start (List.mem_of_find?_eq_some found) (character.toNat - start) (by omega)
  rwa [Nat.add_sub_cancel' within.1, Char.ofNat_toNat] at ink

/-- Digits of any scripts write a number. -/
theorem exists_decimal?_eq (characters_ne : characters ≠ [])
    (all_digits : ∀ character ∈ characters, isDigit character = true) :
    ∃ number, decimal? characters = some number := by
  have values : ∃ values, characters.mapM digit? = some values := by
    clear characters_ne
    induction characters with
    | nil => exact ⟨[], rfl⟩
    | cons character characters ih =>
        obtain ⟨here, there⟩ := List.forall_mem_cons.mp all_digits
        obtain ⟨value, value_eq⟩ := Option.isSome_iff_exists.mp here
        obtain ⟨values, values_eq⟩ := ih there
        exact ⟨value :: values, by rw [List.mapM_cons, value_eq, values_eq]; rfl⟩
  obtain ⟨values, values_eq⟩ := values
  have present : ¬characters.isEmpty = true := mt List.isEmpty_iff.mp characters_ne
  exact ⟨digitsValue values, by rw [decimal?, if_neg present, values_eq, Option.map_some]⟩

end Text

namespace Transcript

variable {line digits word rest : List Char}

/-- A line consists of blanks, digits, a colon, blanks, a word and blanks.  The word may be empty,
as may be all blanks. -/
def Told (line digits word : List Char) : Prop :=
  ∃ blanks before after, line = blanks ++ (digits ++ ':' :: (before ++ (word ++ after))) ∧
    (∀ character ∈ blanks, Text.isBlank character = true) ∧ digits ≠ [] ∧
    (∀ character ∈ digits, Text.isDigit character = true) ∧
    (∀ character ∈ before, Text.isBlank character = true) ∧
    (∀ character ∈ word, Text.isBlank character = false) ∧
    ∀ character ∈ after, Text.isBlank character = true

theorem Told.digits_ne (told : Told line digits word) : digits ≠ [] := by
  obtain ⟨-, -, -, -, -, digits_ne, -⟩ := told
  exact digits_ne

theorem Told.all_digits (told : Told line digits word) :
    ∀ character ∈ digits, Text.isDigit character = true := by
  obtain ⟨-, -, -, -, -, -, all_digits, -⟩ := told
  exact all_digits

/-- Blanks in front of ink are dropped, and no more. -/
theorem dropWhile_isBlank_append {blanks : List Char} {first : Char}
    (blank : ∀ character ∈ blanks, Text.isBlank character = true)
    (ink : Text.isBlank first = false) (others : List Char) :
    (blanks ++ first :: others).dropWhile Text.isBlank = first :: others := by
  rw [List.dropWhile_append_of_pos blank, List.dropWhile_cons_of_neg (by simp [ink])]

/-- A word ends where blanks follow. -/
theorem takeWhile_ink_append {after : List Char}
    (ink : ∀ character ∈ word, Text.isBlank character = false)
    (blank : ∀ character ∈ after, Text.isBlank character = true) :
    (word ++ after).takeWhile (!Text.isBlank ·) = word ∧
      (word ++ after).dropWhile (!Text.isBlank ·) = after := by
  have all_ink : ∀ character ∈ word, (!Text.isBlank character) = true := by simpa using ink
  rw [List.takeWhile_append_of_pos all_ink, List.dropWhile_append_of_pos all_ink]
  cases after with
  | nil => simp
  | cons first others =>
      have first_blank : Text.isBlank first = true := blank first List.mem_cons_self
      simp [first_blank]

/-- The word after the colon is found, be it empty or not. -/
theorem word_of_append {before after : List Char}
    (before_blank : ∀ character ∈ before, Text.isBlank character = true)
    (ink : ∀ character ∈ word, Text.isBlank character = false)
    (after_blank : ∀ character ∈ after, Text.isBlank character = true) :
    let found := (before ++ (word ++ after)).dropWhile Text.isBlank
    found.takeWhile (!Text.isBlank ·) = word ∧
      (found.dropWhile (!Text.isBlank ·)).all Text.isBlank = true := by
  intro found
  cases word with
  | nil =>
      have nothing : found = [] := by
        refine List.dropWhile_eq_nil_iff.mpr (List.forall_mem_append.mpr ⟨before_blank, ?_⟩)
        simpa using after_blank
      rw [nothing]
      exact ⟨rfl, rfl⟩
  | cons first others =>
      have found_eq : found = first :: others ++ after :=
        dropWhile_isBlank_append before_blank (ink first List.mem_cons_self) (others ++ after)
      obtain ⟨taken, dropped⟩ := takeWhile_ink_append ink after_blank
      rw [found_eq, taken, dropped, List.all_eq_true]
      exact ⟨rfl, after_blank⟩

/-- Digits and a word are found in a line exactly if it consists of them. -/
theorem indexedWord?_eq_some_iff :
    indexedWord? line = some (digits, word) ↔ Told line digits word := by
  constructor
  · intro found
    simp only [indexedWord?] at found
    split at found
    · rename_i first others rest digits_eq after_eq
      split at found
      · rename_i trailing
        obtain ⟨rfl, rfl⟩ := Prod.mk.inj (Option.some.inj found)
        refine ⟨line.takeWhile Text.isBlank, rest.takeWhile Text.isBlank,
          (rest.dropWhile Text.isBlank).dropWhile (!Text.isBlank ·), ?_,
          fun _ => List.mem_takeWhile_imp, ?_, fun _ => List.mem_takeWhile_imp,
          fun _ => List.mem_takeWhile_imp, ?_, List.all_eq_true.mp trailing⟩
        · rw [List.takeWhile_append_dropWhile, List.takeWhile_append_dropWhile, ← after_eq,
            List.takeWhile_append_dropWhile, List.takeWhile_append_dropWhile]
        · rw [digits_eq]
          exact List.cons_ne_nil first others
        · intro character member
          simpa using List.mem_takeWhile_imp member
      · contradiction
    · contradiction
  · rintro
      ⟨blanks, before, after, rfl, blank, digits_ne, all_digits, before_blank, ink, after_blank⟩
    obtain ⟨first, others, rfl⟩ := List.exists_cons_of_ne_nil digits_ne
    have first_ink := Text.isBlank_of_isDigit (all_digits first List.mem_cons_self)
    have colon : ¬Text.isDigit ':' = true := by decide
    have line_eq := dropWhile_isBlank_append blank first_ink
      (others ++ ':' :: (before ++ (word ++ after)))
    rw [← List.cons_append] at line_eq
    obtain ⟨word_eq, trailing⟩ := word_of_append before_blank ink after_blank
    simp only [indexedWord?, line_eq, List.takeWhile_append_of_pos all_digits,
      List.dropWhile_append_of_pos all_digits, List.takeWhile_cons_of_neg colon,
      List.dropWhile_cons_of_neg colon, List.append_nil, word_eq, trailing, if_true]

/-- There is one way to take a line apart. -/
theorem Told.unique {digits' word' : List Char} (told : Told line digits word)
    (other : Told line digits' word') : digits = digits' ∧ word = word' := by
  have same := (indexedWord?_eq_some_iff.mpr told).symm.trans (indexedWord?_eq_some_iff.mpr other)
  exact Prod.mk.inj (Option.some.inj same)

/-! ## States -/

variable {state : Digest 32}

/-- A state is read from the spellings of its bytes only. -/
theorem state?_eq_some_iff : state? word = some state ↔ Hex.Spells word state.bytes := by
  rw [state?]
  constructor
  · intro read
    split at read
    · obtain ⟨bytes, decoded, sized⟩ := Option.bind_eq_some_iff.mp read
      obtain rfl := Digest.bytes_of_ofBytes? sized
      exact Hex.spells_of_decodeChars? decoded
    · contradiction
  · intro spells
    have length_eq : word.length = 64 := by rw [spells.length_eq, state.length_bytes]
    rw [if_pos length_eq, spells.decodeChars?_eq, Option.bind_some, Digest.ofBytes?_bytes]

/-- A word is a state exactly if it consists of 64 hexadecimal digits. -/
theorem exists_state?_eq_some_iff : (∃ state, state? word = some state) ↔
    word.length = 64 ∧ word.all Hex.isDigit = true := by
  simp only [state?_eq_some_iff]
  constructor
  · rintro ⟨state, spells⟩
    exact ⟨by rw [spells.length_eq, state.length_bytes], spells.all_isDigit⟩
  · rintro ⟨length_eq, digits⟩
    obtain ⟨bytes, spells⟩ := Hex.exists_spells digits (by rw [length_eq])
    have length_bytes : bytes.length = 32 := by
      have doubled := spells.length_eq
      omega
    exact ⟨⟨bytes, length_bytes⟩, spells⟩

/-! ## Lines that are read one by one -/

section Lines

variable {lines rest : List String} {entries : List (Option Checkpoint)}

/-- The line comes to the entry wherever it stands. -/
def ReadAs (line : String) (entry : Option Checkpoint) : Prop :=
  ∀ lineNumber, checkpoint? lineNumber line = .ok entry

/-- Lines that can be read put their checkpoints in front of those of the other lines. -/
theorem checkpointsFrom_append (read : List.Forall₂ ReadAs lines entries) (lineNumber : Nat) :
    checkpointsFrom lineNumber (lines ++ rest) =
      (checkpointsFrom (lineNumber + lines.length) rest).map (entries.reduceOption ++ ·) := by
  induction read generalizing lineNumber with
  | nil =>
      rw [List.nil_append, List.length_nil, Nat.add_zero]
      cases checkpointsFrom lineNumber rest with
      | error error => rfl
      | ok more => rfl
  | @cons line entry lines entries here there ih =>
      rw [List.cons_append, checkpointsFrom, here, ih, List.length_cons, Nat.add_assoc,
        Nat.add_comm 1]
      cases checkpointsFrom (lineNumber + (lines.length + 1)) rest with
      | error error => rfl
      | ok more => cases entry <;> rfl

/-- The same for the lines of some items. -/
theorem checkpointsFrom_map_append {α : Type} {items : List α} {line : α → String}
    {entry : α → Option Checkpoint} (read : ∀ item ∈ items, ReadAs (line item) (entry item))
    (lineNumber : Nat) :
    checkpointsFrom lineNumber (items.map line ++ rest) =
      (checkpointsFrom (lineNumber + items.length) rest).map (items.filterMap entry ++ ·) := by
  have all_read : List.Forall₂ ReadAs (items.map line) (items.map entry) :=
    List.forall₂_map_left_iff.mpr (List.forall₂_map_right_iff.mpr (List.forall₂_same.mpr read))
  have entries_eq : (items.map entry).reduceOption = items.filterMap entry := by
    rw [List.reduceOption, List.filterMap_map, Function.id_comp]
  rw [checkpointsFrom_append all_read, List.length_map, entries_eq]

end Lines

end Transcript
end BeaconCeremony

import BeaconCeremony.Proofs.Transcript
import Mathlib.Data.List.DropRight

/-!
# What is shown besides checkpoints

Besides its checkpoints and its final state a contribution shows lines about paths and the block of
its fingerprint.  Nothing is read from any of these texts, whatever the paths and the fingerprint
are, and they have no line breaks but line feeds.
-/

namespace BeaconCeremony

/-- There is no line break in a text. -/
def RawText.Unbroken (text : RawText) : Prop :=
  ∀ character, Mark.character character ∈ text.marks → Text.isLineBreak character = false

theorem RawText.Unbroken.start {text : RawText} (unbroken : text.Unbroken) :
    Text.Unbroken text.start.toList := by
  intro character member
  refine unbroken character (List.mem_append_left _ ?_)
  exact List.mem_map_of_mem member

theorem RawText.unbroken_coe {text : String} (unbroken : Text.Unbroken text.toList) :
    RawText.Unbroken text := by
  intro character member
  rw [RawText.marks_coe, List.mem_map] at member
  obtain ⟨_, member, same⟩ := member
  exact unbroken character (Mark.character.inj same ▸ member)

theorem RawText.Unbroken.append {left right : RawText} (left_unbroken : left.Unbroken)
    (right_unbroken : right.Unbroken) : (left ++ right).Unbroken := by
  intro character member
  rw [RawText.marks_append, List.mem_append] at member
  exact member.elim (left_unbroken character) (right_unbroken character)

namespace Transcript

/-- After some blanks a line starts with decimal digits and a colon. -/
def Numbered (line : List Char) : Prop :=
  ∃ blanks digits rest, line = blanks ++ (digits ++ ':' :: rest) ∧
    (∀ character ∈ blanks, Text.isBlank character = true) ∧ digits ≠ [] ∧
    ∀ character ∈ digits, Text.isDigit character = true

/-- After some blanks a line starts with the label of the final state. -/
def Labelled (line : List Char) : Prop :=
  ∃ blanks rest, line = blanks ++ (Report.finalLabel.toList ++ rest) ∧
    ∀ character ∈ blanks, Text.isBlank character = true

/-- A line is neither about a checkpoint nor about the final state. -/
structure Foreign (line : String) : Prop where
  /-- It does not start like the line of a checkpoint. -/
  not_numbered : ¬Numbered line.toList
  /-- It does not start like the line with the final state. -/
  not_labelled : ¬Labelled line.toList

/-- Nothing that is read starts with the character, nor does a control sequence. -/
structure Neutral (first : Char) : Prop where
  /-- It is no blank, after which something else could come. -/
  ink : Text.isBlank first = false
  /-- No number starts with it. -/
  no_digit : Text.isDigit first = false
  /-- The label of the final state does not start with it. -/
  no_label : first ≠ 'F'
  /-- It is shown. -/
  no_escape : first ≠ '\x1b'

instance (first : Char) : Decidable (Neutral first) :=
  decidable_of_iff
    (Text.isBlank first = false ∧ Text.isDigit first = false ∧ first ≠ 'F' ∧ first ≠ '\x1b')
    ⟨fun ⟨ink, no_digit, no_label, no_escape⟩ => ⟨ink, no_digit, no_label, no_escape⟩,
      fun neutral => ⟨neutral.ink, neutral.no_digit, neutral.no_label, neutral.no_escape⟩⟩

/-! ## Foreign lines -/

section Lines

variable {line : List Char}

theorem Told.numbered {digits word : List Char} (told : Told line digits word) : Numbered line := by
  obtain ⟨blanks, before, after, line_eq, blank, digits_ne, all_digits, -⟩ := told
  exact ⟨blanks, digits, before ++ (word ++ after), line_eq, blank, digits_ne, all_digits⟩

/-- Whatever is taken for a checkpoint is numbered. -/
theorem silent_of_not_numbered (unnumbered : ¬Numbered line) : Silent line := by
  rw [Silent, Option.eq_none_iff_forall_ne_some]
  rintro ⟨digits, word⟩ found
  exact unnumbered (indexedWord?_eq_some_iff.mp found).numbered

theorem unlabelled_of_not_labelled (unlabelled : ¬Labelled line) : Unlabelled line := by
  rw [Unlabelled, Bool.eq_false_iff, ne_eq, List.isPrefixOf_iff_prefix]
  intro labelled
  have inside : Text.trim line <+: line.dropWhile Text.isBlank :=
    List.rdropWhile_prefix Text.isBlank _
  obtain ⟨rest, rest_eq⟩ := labelled.trans inside
  refine unlabelled ⟨line.takeWhile Text.isBlank, rest, ?_, fun _ => List.mem_takeWhile_imp⟩
  rw [rest_eq, List.takeWhile_append_dropWhile]

theorem Numbered.colon_mem (numbered : Numbered line) : ':' ∈ line := by
  obtain ⟨blanks, digits, rest, rfl, -⟩ := numbered
  simp

theorem Labelled.colon_mem (labelled : Labelled line) : ':' ∈ line := by
  obtain ⟨blanks, rest, rfl, -⟩ := labelled
  simp [Report.toList_finalLabel]

theorem foreign_of_no_colon {line : String} (no_colon : ':' ∉ line.toList) : Foreign line where
  not_numbered numbered := no_colon numbered.colon_mem
  not_labelled labelled := no_colon labelled.colon_mem

theorem foreign_of_head {line : String} {first : Char} {others : List Char}
    (line_eq : line.toList = first :: others) (neutral : Neutral first) : Foreign line where
  not_numbered := by
    rintro ⟨blanks, digits, rest, split, blank, digits_ne, all_digits⟩
    rw [line_eq] at split
    obtain ⟨digit, digits, rfl⟩ := List.exists_cons_of_ne_nil digits_ne
    cases blanks with
    | nil =>
        obtain ⟨rfl, -⟩ := List.cons.inj split
        exact absurd (all_digits first List.mem_cons_self) (by simp [neutral.no_digit])
    | cons character blanks =>
        obtain ⟨rfl, -⟩ := List.cons.inj split
        exact absurd (blank first List.mem_cons_self) (by simp [neutral.ink])
  not_labelled := by
    rintro ⟨blanks, rest, split, blank⟩
    rw [line_eq, Report.toList_finalLabel] at split
    cases blanks with
    | nil => exact neutral.no_label (List.cons.inj split).1
    | cons character blanks =>
        obtain ⟨rfl, -⟩ := List.cons.inj split
        exact absurd (blank first List.mem_cons_self) (by simp [neutral.ink])

end Lines

/-! ## Texts -/

/-- Nothing is read from a text, with or without its control sequences, be it one line or many. -/
def Remark (text : String) : Prop :=
  ∀ shown ∈ [text, Text.withoutControls text],
    Foreign shown ∧ ∀ line ∈ Text.splitLines (shown ++ "\n"), Foreign line

/-- All line breaks of a text are line feeds. -/
def Fed (text : String) : Prop :=
  ∀ character ∈ text.toList, character = '\n' ∨ Text.isLineBreak character = false

section Remarks

variable {text : String} {first : Char} {others : List Char}

theorem fed_of_unbroken (unbroken : Text.Unbroken text.toList) : Fed text :=
  fun character member => .inr (unbroken character member)

theorem remark_of_no_colon (no_colon : ':' ∉ text.toList) : Remark text := by
  have foreign_lines {shown : String} (no_colon : ':' ∉ shown.toList) :
      Foreign shown ∧ ∀ line ∈ Text.splitLines (shown ++ "\n"), Foreign line := by
    refine ⟨foreign_of_no_colon no_colon, fun line line_mem => foreign_of_no_colon fun member => ?_⟩
    obtain ⟨characters, characters_mem, rfl⟩ := List.mem_map.mp line_mem
    rw [String.toList_ofList] at member
    have inside := (Text.mem_of_mem_linesFrom characters_mem member).resolve_left List.not_mem_nil
    rw [String.toList_append, List.mem_append] at inside
    exact inside.elim no_colon (by decide +kernel)
  refine List.forall_mem_cons.mpr ⟨foreign_lines no_colon,
    List.forall_mem_singleton.mpr (foreign_lines fun member => no_colon ?_)⟩
  rw [Text.withoutControls, String.toList_ofList] at member
  exact (Text.dropControls_sublist _ _).mem member

theorem remark_of_head (text_eq : text.toList = first :: others) (neutral : Neutral first)
    (unbroken : Text.Unbroken text.toList) : Remark text := by
  have foreign_line {shown : String} {others : List Char}
      (shown_eq : shown.toList = first :: others) (unbroken : Text.Unbroken shown.toList) :
      Foreign shown ∧ ∀ line ∈ Text.splitLines (shown ++ "\n"), Foreign line := by
    have foreign := foreign_of_head shown_eq neutral
    rw [Text.splitLines_unbroken unbroken]
    exact ⟨foreign, List.forall_mem_singleton.mpr foreign⟩
  have shown_eq : (Text.withoutControls text).toList = first :: Text.dropControls 0 others := by
    rw [Text.withoutControls, String.toList_ofList, text_eq,
      Text.dropControls_cons neutral.no_escape]
  refine List.forall_mem_cons.mpr ⟨foreign_line text_eq unbroken,
    List.forall_mem_singleton.mpr (foreign_line shown_eq ?_)⟩
  intro character member
  rw [Text.withoutControls, String.toList_ofList] at member
  exact unbroken character ((Text.dropControls_sublist _ _).mem member)

/-- A text that goes on after a string is a remark because of that string. -/
theorem remark_of_opening {opening : String} {path : RawText} (closing : String)
    (unbroken : ((opening : RawText) ++ path ++ (closing : RawText)).Unbroken)
    (opening_eq : opening.toList = first :: others) (neutral : Neutral first) :
    Remark ((opening : RawText) ++ path ++ (closing : RawText)).start := by
  obtain ⟨more, start_eq⟩ : ∃ more, ((opening : RawText) ++ path ++ (closing : RawText)).start =
      opening ++ more := by
    obtain ⟨start, rest⟩ := path
    cases rest with
    | nil => exact ⟨start ++ closing, String.append_assoc⟩
    | cons entry rest => exact ⟨start, rfl⟩
  have text_eq : (opening ++ more).toList = first :: (others ++ more.toList) := by
    rw [String.toList_append, opening_eq, List.cons_append]
  exact remark_of_head (start_eq ▸ text_eq) neutral unbroken.start

end Remarks
end Transcript

namespace Report

open Transcript (Fed Remark fed_of_unbroken remark_of_head remark_of_no_colon remark_of_opening)

variable {path text : RawText} {line : String} {fingerprint : Bytes} {character : Char}

/-! ## Lines about paths -/

theorem remark_empty : Remark "" := remark_of_no_colon (by simp)

theorem remark_announcement : Remark announcement :=
  remark_of_no_colon (by decide +kernel)

theorem unbroken_contributingLine (unbroken : path.Unbroken) : (contributingLine path).Unbroken :=
  ((RawText.unbroken_coe (by decide +kernel)).append unbroken).append
    (RawText.unbroken_coe (by decide +kernel))

theorem remark_contributingLine (unbroken : path.Unbroken) :
    Remark (contributingLine path).start := by
  have opening_eq : ("Contributing to `" : String).toList =
      'C' :: ("ontributing to `" : String).toList := rfl
  exact remark_of_opening _ (unbroken_contributingLine unbroken) opening_eq (by decide)

theorem unbroken_of_mem_writtenLines (unbroken : path.Unbroken)
    (member : text ∈ writtenLines path) : text.Unbroken := by
  simp only [writtenLines, List.mem_cons, List.not_mem_nil, or_false] at member
  rcases member with rfl | rfl
  · exact RawText.unbroken_coe (by simp [Text.Unbroken])
  · exact ((RawText.unbroken_coe (by decide +kernel)).append unbroken).append
      (RawText.unbroken_coe (by decide +kernel))

theorem remark_of_mem_writtenLines (unbroken : path.Unbroken)
    (member : text ∈ writtenLines path) : Remark text.start := by
  have opening_eq : ("Your contribution has been written to `" : String).toList =
      'Y' :: ("our contribution has been written to `" : String).toList := rfl
  have text_unbroken := unbroken_of_mem_writtenLines unbroken member
  simp only [writtenLines, List.mem_cons, List.not_mem_nil, or_false] at member
  rcases member with rfl | rfl
  · exact remark_empty
  · exact remark_of_opening _ text_unbroken opening_eq (by decide)

/-! ## Lines about a fingerprint -/

theorem colon_not_mem_encodeChars (bytes : Bytes) : ':' ∉ Hex.encodeChars bytes := by
  intro member
  have digits := (Hex.spells_encodeChars bytes).all_isDigit
  exact absurd (List.all_eq_true.mp digits ':' member) (by decide)

/-- A row is made of hexadecimal digits, a tab and spaces. -/
theorem mem_fingerprintRow {row : Bytes} (member : character ∈ (fingerprintRow row).toList) :
    character = '\t' ∨ character = ' ' ∨ ∃ group, character ∈ Hex.encodeChars group := by
  have tab : ("\t" : String).toList = ['\t'] := rfl
  have space : (" " : String).toList = [' '] := rfl
  rw [fingerprintRow, String.toList_append, tab, List.mem_append, List.mem_singleton] at member
  rcases member with here | later
  · exact .inl here
  · rw [String.toList_join, List.mem_flatMap] at later
    obtain ⟨piece, piece_mem, inside⟩ := later
    obtain ⟨group, -, rfl⟩ := List.mem_map.mp piece_mem
    rw [String.toList_append, space, List.mem_append, List.mem_singleton, Hex.encode,
      String.toList_ofList] at inside
    exact .inr (inside.symm.imp_right fun digit => ⟨group, digit⟩)

theorem mem_fingerprintBlock {fingerprint : Bytes}
    (member : character ∈ (fingerprintBlock fingerprint).toList) :
    (character = '\n' ∨ Text.isLineBreak character = false) ∧ character ≠ ':' := by
  have feed : ("\n" : String).toList = ['\n'] := rfl
  rw [fingerprintBlock, String.toList_intercalate, feed] at member
  rcases Text.mem_intercalate member with between | ⟨row, row_mem, inside⟩
  · rw [List.mem_singleton.mp between]
    decide
  · obtain ⟨_, text_mem, rfl⟩ := List.mem_map.mp row_mem
    obtain ⟨bytes, -, rfl⟩ := List.mem_map.mp text_mem
    rcases mem_fingerprintRow inside with rfl | rfl | ⟨group, digit⟩
    · decide
    · decide
    · have ink := Hex.ink_encodeChars group character digit
      refine ⟨.inr (Text.isLineBreak_of_not_isBlank ink.1), ?_⟩
      rintro rfl
      exact colon_not_mem_encodeChars group digit

theorem remark_of_mem_fingerprintLines (member : line ∈ fingerprintLines fingerprint) :
    Remark line := by
  have heading_eq : fingerprintHeading.toList =
      'T' :: ("he BLAKE2b hash of your contribution is:" : String).toList := rfl
  simp only [fingerprintLines, List.mem_cons, List.not_mem_nil, or_false] at member
  rcases member with rfl | rfl | rfl
  · exact remark_of_head heading_eq (by decide) (by decide +kernel)
  · exact remark_empty
  · exact remark_of_no_colon fun member => (mem_fingerprintBlock member).2 rfl

theorem fed_of_mem_fingerprintLines (member : line ∈ fingerprintLines fingerprint) :
    Fed line := by
  simp only [fingerprintLines, List.mem_cons, List.not_mem_nil, or_false] at member
  rcases member with rfl | rfl | rfl
  · exact fed_of_unbroken (by decide +kernel)
  · exact fed_of_unbroken (by simp [Text.Unbroken])
  · exact fun _ member => (mem_fingerprintBlock member).1

end Report
end BeaconCeremony

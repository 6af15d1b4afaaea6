import BeaconCeremony.Proofs.Transcript.Line

/-!
# Reading a report as a transcript

A report shows its checkpoints and its final state among other lines.  Reading it brings back
exactly these checkpoints, in their order, and this state, because every other line is passed over.
-/

namespace BeaconCeremony
namespace Text

variable {character : Char} {front word rest : List Char}

/-- No blank at the end is dropped after ink. -/
theorem dropWhile_isBlank_reverse (ink : Ink word) (word_ne : word ≠ []) (front : List Char) :
    ((front ++ word).reverse.dropWhile isBlank).reverse = front ++ word := by
  obtain ⟨before, last, rfl⟩ := word.eq_nil_or_concat.resolve_left word_ne
  have last_ink : isBlank last = false := (ink last (by simp)).1
  simp [last_ink]

theorem trim_cons (ink : isBlank character = false) (rest : List Char) :
    trim (character :: rest) = character :: (rest.reverse.dropWhile isBlank).reverse := by
  rw [trim, List.dropWhile_cons_of_neg (by simp [ink]), List.reverse_cons, List.dropWhile_append]
  split
  · rename_i gone
    simp [List.isEmpty_iff.mp gone, ink]
  · simp

/-- Only the space before a word is dropped. -/
theorem trim_space_cons (ink : Ink word) (word_ne : word ≠ []) : trim (' ' :: word) = word := by
  have space : isBlank ' ' = true := by decide
  obtain ⟨first, rest, rfl⟩ := List.exists_cons_of_ne_nil word_ne
  have first_ink : isBlank first = false := (ink first List.mem_cons_self).1
  rw [trim, List.dropWhile_cons_of_pos space, List.dropWhile_cons_of_neg (by simp [first_ink])]
  exact dropWhile_isBlank_reverse ink word_ne []

end Text

/-- The index can be read, because it does not have too many digits. -/
def Checkpoint.Short (checkpoint : Checkpoint) : Prop :=
  (Nat.toDigits 10 checkpoint.index).length ≤ Text.maxDigits

instance (checkpoint : Checkpoint) : Decidable checkpoint.Short :=
  inferInstanceAs (Decidable (_ ≤ _))

namespace Report

/-- The characters of the line of a checkpoint. -/
def checkpointCharacters (checkpoint : Checkpoint) : List Char :=
  Nat.toDigits 10 checkpoint.index ++ ':' :: ' ' :: Hex.encodeChars checkpoint.digest.bytes

/-- The characters of the line with the final state. -/
def finalCharacters (final : Digest 32) : List Char :=
  finalLabel.toList ++ ' ' :: Hex.encodeChars final.bytes

theorem toList_checkpointLine (checkpoint : Checkpoint) :
    (checkpointLine checkpoint).toList = checkpointCharacters checkpoint := by
  have separator : (": " : String).toList = [':', ' '] := rfl
  simp [checkpointLine, Checkpoint.hex, Hex.encode, separator, checkpointCharacters]

theorem toList_finalLine (final : Digest 32) :
    (finalLabel ++ " " ++ Hex.encode final.bytes).toList = finalCharacters final := by
  have separator : (" " : String).toList = [' '] := rfl
  simp [Hex.encode, separator, finalCharacters]

theorem toList_finalLabel : finalLabel.toList =
    ['F', 'i', 'n', 'a', 'l', ' ', 'r', 'e', 's', 'u', 'l', 't', ' ', 'o', 'f', ' ', 'b', 'e', 'a',
      'c', 'o', 'n', ':'] := by
  decide +kernel

theorem tame_checkpointCharacters (checkpoint : Checkpoint) :
    Text.Tame (checkpointCharacters checkpoint) :=
  (Text.ink_toDigits _).tame.append
    (Text.Tame.append (show Text.Tame [':', ' '] by decide) (Hex.ink_encodeChars _).tame)

theorem tame_finalCharacters (final : Digest 32) : Text.Tame (finalCharacters final) := by
  rw [finalCharacters, toList_finalLabel]
  exact .append (by decide)
    (Text.Tame.append (show Text.Tame [' '] by decide) (Hex.ink_encodeChars _).tame)

end Report

namespace Transcript

open Report (checkpointCharacters finalCharacters)

variable {line : List Char} {lines : List (List Char)} {rest : List String}
  {checkpoints : List Checkpoint} {final : Digest 32}

theorem encodeChars_ne_nil (digest : Digest 32) : Hex.encodeChars digest.bytes ≠ [] := by
  intro empty
  have length_eq := (Hex.spells_encodeChars digest.bytes).length_eq
  simp [empty, digest.length_bytes] at length_eq

/-- A state is read as it has been written. -/
theorem state?_encodeChars (digest : Digest 32) :
    state? (Hex.encodeChars digest.bytes) = some digest :=
  state?_eq_some_iff.mpr (Hex.spells_encodeChars digest.bytes)

/-! ## Lines with a checkpoint and lines without one -/

/-- There is no checkpoint in a line, nor anything like one. -/
def Silent (line : List Char) : Prop := indexedWord? line = none

/-- A line is not about the final state. -/
def Unlabelled (line : List Char) : Prop :=
  Report.finalLabel.toList.isPrefixOf (Text.trim line) = false

theorem indexedWord?_of_word {digits word : List Char} (digits_ne : digits ≠ [])
    (all_digits : ∀ character ∈ digits, character.isDigit = true) (ink : Text.Ink word) :
    indexedWord? (digits ++ ':' :: ' ' :: word) = some (digits, word) := by
  have are_digits : ∀ character ∈ digits, Text.isDigit character = true := by
    intro character member
    rw [Text.isDigit, Text.digit?_of_isDigit (all_digits character member)]
    rfl
  have space : ∀ character ∈ [' '], Text.isBlank character = true :=
    List.forall_mem_singleton.mpr (by decide)
  refine indexedWord?_eq_some_iff.mpr ⟨[], [' '], [], by simp, List.forall_mem_nil _, digits_ne,
    are_digits, space, fun character member => (ink character member).1, List.forall_mem_nil _⟩

theorem silent_of_no_colon (no_colon : ':' ∉ line) : Silent line := by
  have no_colon : ':' ∉ (line.dropWhile Text.isBlank).dropWhile Text.isDigit := fun member =>
    no_colon ((List.dropWhile_sublist _).mem ((List.dropWhile_sublist _).mem member))
  rw [Silent, indexedWord?]
  split
  · rename_i colon_eq
    rw [colon_eq] at no_colon
    exact absurd List.mem_cons_self no_colon
  · rfl

theorem silent_of_head {first : Char} (ink : Text.isBlank first = false)
    (no_digit : Text.isDigit first = false) (others : List Char) : Silent (first :: others) := by
  rw [Silent, indexedWord?, List.dropWhile_cons_of_neg (by simp [ink])]
  simp only [List.takeWhile_cons_of_neg (show ¬Text.isDigit first = true by simp [no_digit])]

theorem unlabelled_of_head {first : Char} (ink : Text.isBlank first = false) (other : first ≠ 'F')
    (others : List Char) : Unlabelled (first :: others) := by
  rw [Unlabelled, Report.toList_finalLabel, Text.trim_cons ink, List.isPrefixOf_cons_cons]
  simp [other.symm]

theorem silent_finalCharacters (final : Digest 32) : Silent (finalCharacters final) := by
  rw [finalCharacters, Report.toList_finalLabel]
  exact silent_of_head (by decide) (by decide) _

theorem unlabelled_checkpointCharacters (checkpoint : Checkpoint) :
    Unlabelled (checkpointCharacters checkpoint) := by
  obtain ⟨first, others, digits_eq⟩ :=
    List.exists_cons_of_ne_nil (Nat.toDigits_ne_nil (n := checkpoint.index) (b := 10))
  have first_mem : first ∈ Nat.toDigits 10 checkpoint.index := by
    rw [digits_eq]
    exact List.mem_cons_self
  have no_label : first ≠ 'F' := by
    rintro rfl
    exact absurd (Text.isDigit_of_mem_toDigits first_mem) (by decide)
  rw [checkpointCharacters, digits_eq]
  exact unlabelled_of_head (Text.ink_toDigits _ first first_mem).1 no_label _

theorem checkpoint?_silent (silent : Silent line) (lineNumber : Nat) :
    checkpoint? lineNumber (String.ofList line) = .ok none := by
  rw [checkpoint?, String.toList_ofList, silent]

/-- A checkpoint is read as it has been shown. -/
theorem checkpoint?_checkpointCharacters {checkpoint : Checkpoint}
    (short : checkpoint.Short) (lineNumber : Nat) :
    checkpoint? lineNumber (String.ofList (checkpointCharacters checkpoint)) =
      .ok (some checkpoint) := by
  have found : indexedWord? (checkpointCharacters checkpoint) =
      some (Nat.toDigits 10 checkpoint.index, Hex.encodeChars checkpoint.digest.bytes) :=
    indexedWord?_of_word Nat.toDigits_ne_nil (fun _ => Text.isDigit_of_mem_toDigits)
      (Hex.ink_encodeChars _)
  rw [checkpoint?, String.toList_ofList, found]
  simp only [state?_encodeChars, Text.decimal?_toDigits, Option.getD_some]
  rw [if_neg (Nat.not_lt.mpr short)]

/-! ## Whole reports -/

theorem checkpointsFrom_silent (silent : ∀ line ∈ lines, Silent line) (lineNumber : Nat) :
    checkpointsFrom lineNumber (lines.map String.ofList ++ rest) =
      checkpointsFrom (lineNumber + lines.length) rest := by
  have read : ∀ line ∈ lines, ReadAs (String.ofList line) none :=
    fun line member => checkpoint?_silent (silent line member)
  rw [checkpointsFrom_map_append read, List.filterMap_none]
  cases checkpointsFrom (lineNumber + lines.length) rest with
  | error error => rfl
  | ok more => rfl

theorem checkpointsFrom_checkpoints (short : ∀ checkpoint ∈ checkpoints, checkpoint.Short)
    (lineNumber : Nat) :
    checkpointsFrom lineNumber
        ((checkpoints.map checkpointCharacters).map String.ofList ++ rest) =
      (checkpointsFrom (lineNumber + checkpoints.length) rest).map (checkpoints ++ ·) := by
  have read : ∀ checkpoint ∈ checkpoints,
      ReadAs (String.ofList (checkpointCharacters checkpoint)) (some checkpoint) :=
    fun checkpoint member => checkpoint?_checkpointCharacters (short checkpoint member)
  have all_read := @checkpointsFrom_map_append rest _ _ _ _ read lineNumber
  rwa [List.filterMap_some, ← Function.comp_def, ← List.map_map] at all_read

theorem finalFrom_unlabelled (unlabelled : ∀ line ∈ lines, Unlabelled line) (lineNumber : Nat) :
    finalFrom lineNumber (lines.map String.ofList ++ rest) =
      finalFrom (lineNumber + lines.length) rest := by
  induction lines generalizing lineNumber with
  | nil => rfl
  | cons line lines ih =>
      obtain ⟨here, there⟩ := List.forall_mem_cons.mp unlabelled
      rw [List.map_cons, List.cons_append, finalFrom, String.toList_ofList,
        if_neg (Bool.eq_false_iff.mp here), ih there, List.length_cons, Nat.add_assoc,
        Nat.add_comm 1]

theorem finalFrom_finalCharacters (final : Digest 32) (lineNumber : Nat) :
    finalFrom lineNumber (String.ofList (finalCharacters final) :: rest) = .ok (some final) := by
  have ink := Hex.ink_encodeChars final.bytes
  have trimmed : Text.trim (finalCharacters final) = finalCharacters final := by
    have untouched := Text.dropWhile_isBlank_reverse ink (encodeChars_ne_nil final)
      (Report.finalLabel.toList ++ [' '])
    rw [List.append_assoc, List.singleton_append] at untouched
    have no_leading : (finalCharacters final).dropWhile Text.isBlank = finalCharacters final := by
      rw [finalCharacters, Report.toList_finalLabel]
      exact List.dropWhile_cons_of_neg (by decide)
    rw [Text.trim, no_leading]
    exact untouched
  have labelled : Report.finalLabel.toList.isPrefixOf (finalCharacters final) = true :=
    List.isPrefixOf_iff_prefix.mpr (List.prefix_append _ _)
  rw [finalFrom, String.toList_ofList, trimmed]
  simp only [labelled, if_true]
  rw [finalCharacters, List.drop_left, Text.trim_space_cons ink (encodeChars_ne_nil final)]
  simp only [state?_encodeChars]

section Reports

variable {front back : List (List Char)} (front_silent : ∀ line ∈ front, Silent line)
  (front_unlabelled : ∀ line ∈ front, Unlabelled line) (back_silent : ∀ line ∈ back, Silent line)

/-- The lines of a report: some lines, the checkpoints, the final state, and more lines. -/
def reportLines (front : List (List Char)) (checkpoints : List Checkpoint) (final : Digest 32)
    (back : List (List Char)) : List (List Char) :=
  front ++ (checkpoints.map checkpointCharacters ++ finalCharacters final :: back)

include front_silent back_silent in
theorem checkpoints_reportLines
    (short : ∀ checkpoint ∈ checkpoints, checkpoint.Short) :
    Transcript.checkpoints ((reportLines front checkpoints final back).map String.ofList) =
      .ok checkpoints := by
  have after_silent : ∀ line ∈ finalCharacters final :: back, Silent line :=
    List.forall_mem_cons.mpr ⟨silent_finalCharacters final, back_silent⟩
  have nothing_more (lineNumber : Nat) :
      checkpointsFrom lineNumber ((finalCharacters final :: back).map String.ofList) = .ok [] := by
    rw [← List.append_nil (List.map _ _), checkpointsFrom_silent after_silent]
    rfl
  rw [Transcript.checkpoints, reportLines, List.map_append, checkpointsFrom_silent front_silent,
    List.map_append, checkpointsFrom_checkpoints short, nothing_more, Except.map, List.append_nil]

include front_unlabelled in
theorem final?_reportLines :
    Transcript.final? ((reportLines front checkpoints final back).map String.ofList) =
      .ok (some final) := by
  have between : ∀ line ∈ checkpoints.map checkpointCharacters, Unlabelled line := by
    intro line member
    obtain ⟨checkpoint, -, rfl⟩ := List.mem_map.mp member
    exact unlabelled_checkpointCharacters checkpoint
  rw [Transcript.final?, reportLines, List.map_append, finalFrom_unlabelled front_unlabelled,
    List.map_append, finalFrom_unlabelled between, List.map_cons, finalFrom_finalCharacters]

end Reports

end Transcript
end BeaconCeremony

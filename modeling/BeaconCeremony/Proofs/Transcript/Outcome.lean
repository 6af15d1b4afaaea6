import BeaconCeremony.Proofs.Transcript.Interleaving

/-!
# What reading the checkpoints of a transcript comes to

Every line is either read or refused.  The first one to be refused ends the reading with an error
about that line; if there is none, the checkpoints of all lines come out in order.  Two kinds of
lines are not dealt with as they should be.  A line with more than one word after its colon starts
like one with a checkpoint, but is passed over as if it did not.  And an index with too many digits
is refused without the number of its line.
-/

namespace BeaconCeremony
namespace Transcript

variable {line digits word : List Char} {lines : List String}

/-- A line carries this checkpoint, or it does not start like the line of a checkpoint. -/
inductive Carries (line : List Char) : Option Checkpoint → Prop
  | nothing (unnumbered : ¬Numbered line) : Carries line none
  | checkpoint {digits word : List Char} {checkpoint : Checkpoint} (told : Told line digits word)
      (index_eq : Text.decimal? digits = some checkpoint.index)
      (spells : Hex.Spells word checkpoint.digest.bytes) : Carries line (some checkpoint)

/-- After its colon a line has one word of 64 hexadecimal digits. -/
def WellFormed (line : List Char) : Prop :=
  ∃ digits word, Told line digits word ∧ word.length = 64 ∧ word.all Hex.isDigit = true

/-- A line starts like that of a checkpoint, but has more than one word after its colon. -/
structure Crowded (line : List Char) : Prop where
  numbered : Numbered line
  not_told (digits word : List Char) : ¬Told line digits word

/-- The index of a line, if it has one, does not have too many digits. -/
def Short (line : List Char) : Prop :=
  ∀ digits word, Told line digits word → digits.length ≤ Text.maxDigits

/-- What is read from a line. -/
inductive Reads (line : List Char) : Option Checkpoint → Prop
  | carried {checkpoint? : Option Checkpoint} (carries : Carries line checkpoint?)
      (short : Short line) : Reads line checkpoint?
  | crowded (crowded : Crowded line) : Reads line none

/-- Why a line is refused. -/
inductive Refused (lineNumber : Nat) (line : String) : Error → Prop
  | malformed {digits word : List Char} (told : Told line.toList digits word)
      (not_wellFormed : ¬WellFormed line.toList) :
      Refused lineNumber line
        (.malformed lineNumber (withoutFeeds line) ErrorKind.malformedCheckpoint)
  | longIndex {digits word : List Char} (told : Told line.toList digits word)
      (wellFormed : WellFormed line.toList) (long : Text.maxDigits < digits.length) :
      Refused lineNumber line (.longIndex digits.length)

theorem Told.wellFormed_iff (told : Told line digits word) :
    WellFormed line ↔ ∃ state, state? word = some state := by
  rw [exists_state?_eq_some_iff]
  constructor
  · rintro ⟨_, _, other, hexadecimal⟩
    obtain ⟨rfl, rfl⟩ := told.unique other
    exact hexadecimal
  · intro hexadecimal
    exact ⟨digits, word, told, hexadecimal⟩

/-! ## One line -/

theorem checkpoint?_of_reads {line : String} {entry : Option Checkpoint}
    (reads : Reads line.toList entry) (lineNumber : Nat) :
    checkpoint? lineNumber line = .ok entry := by
  rw [checkpoint?]
  cases reads with
  | carried carries short =>
      cases carries with
      | nothing unnumbered => rw [silent_of_not_numbered unnumbered]
      | checkpoint told index_eq spells =>
          simp only [indexedWord?_eq_some_iff.mpr told, state?_eq_some_iff.mpr spells, index_eq,
            Option.getD_some, if_neg (Nat.not_lt.mpr (short _ _ told))]
  | crowded crowded =>
      have nothing : indexedWord? line.toList = none := by
        rw [Option.eq_none_iff_forall_ne_some]
        rintro ⟨digits, word⟩ found
        exact crowded.not_told digits word (indexedWord?_eq_some_iff.mp found)
      rw [nothing]

theorem checkpoint?_of_refused {line : String} {lineNumber : Nat} {error : Error}
    (refused : Refused lineNumber line error) : checkpoint? lineNumber line = .error error := by
  rw [checkpoint?]
  cases refused with
  | malformed told not_wellFormed =>
      have nothing := Option.eq_none_iff_forall_ne_some.mpr
        (not_exists.mp (mt told.wellFormed_iff.mpr not_wellFormed))
      simp only [indexedWord?_eq_some_iff.mpr told, nothing]
  | longIndex told wellFormed long =>
      obtain ⟨state, read⟩ := told.wellFormed_iff.mp wellFormed
      simp only [indexedWord?_eq_some_iff.mpr told, read, if_pos long]

/-- There is no third way for a line. -/
theorem reads_or_refused (lineNumber : Nat) (line : String) :
    (∃ entry, Reads line.toList entry) ∨ ∃ error, Refused lineNumber line error := by
  by_cases told : ∃ digits word, Told line.toList digits word
  · obtain ⟨digits, word, told⟩ := told
    by_cases wellFormed : WellFormed line.toList
    · by_cases long : Text.maxDigits < digits.length
      · exact .inr ⟨_, .longIndex told wellFormed long⟩
      · obtain ⟨state, read⟩ := told.wellFormed_iff.mp wellFormed
        obtain ⟨index, index_eq⟩ := Text.exists_decimal?_eq told.digits_ne told.all_digits
        have short : Short line.toList := by
          intro digits' word' other
          obtain ⟨rfl, -⟩ := told.unique other
          exact Nat.not_lt.mp long
        exact .inl ⟨some ⟨index, state⟩,
          .carried (.checkpoint told index_eq (state?_eq_some_iff.mp read)) short⟩
    · exact .inr ⟨_, .malformed told wellFormed⟩
  · have not_told (digits word) : ¬Told line.toList digits word :=
      fun found => told ⟨digits, word, found⟩
    by_cases numbered : Numbered line.toList
    · exact .inl ⟨none, .crowded ⟨numbered, not_told⟩⟩
    · exact .inl ⟨none, .carried (.nothing numbered)
        fun digits word found => absurd found (not_told digits word)⟩

/-! ## All lines -/

theorem reads_or_exists_refused (lineNumber : Nat) (lines : List String) :
    (∃ entries, List.Forall₂ (fun line => Reads line.toList) lines entries) ∨
      ∃ front line back entries error, lines = front ++ line :: back ∧
        List.Forall₂ (fun line => Reads line.toList) front entries ∧
        Refused (lineNumber + front.length) line error := by
  induction lines generalizing lineNumber with
  | nil => exact .inl ⟨[], .nil⟩
  | cons line lines ih =>
      rcases reads_or_refused lineNumber line with ⟨entry, here⟩ | ⟨error, refused⟩
      · rcases ih (lineNumber + 1) with
          ⟨entries, there⟩ | ⟨front, bad, back, entries, error, rfl, there, refused⟩
        · exact .inl ⟨entry :: entries, .cons here there⟩
        · refine .inr ⟨line :: front, bad, back, entry :: entries, error, rfl, .cons here there, ?_⟩
          rwa [List.length_cons, Nat.add_comm front.length, ← Nat.add_assoc]
      · exact .inr ⟨[], line, lines, [], error, rfl, .nil, refused⟩

theorem readAs_of_forall₂_reads {entries : List (Option Checkpoint)}
    (reads : List.Forall₂ (fun line => Reads line.toList) lines entries) :
    List.Forall₂ ReadAs lines entries :=
  reads.imp fun _ _ => checkpoint?_of_reads

theorem checkpoints_of_reads {entries : List (Option Checkpoint)}
    (reads : List.Forall₂ (fun line => Reads line.toList) lines entries) :
    checkpoints lines = .ok entries.reduceOption := by
  rw [checkpoints, ← List.append_nil lines, checkpointsFrom_append (readAs_of_forall₂_reads reads),
    checkpointsFrom, Except.map, List.append_nil]

theorem checkpoints_of_refused {front back : List String} {line : String}
    {entries : List (Option Checkpoint)} {error : Error}
    (reads : List.Forall₂ (fun line => Reads line.toList) front entries)
    (refused : Refused (front.length + 1) line error) :
    checkpoints (front ++ line :: back) = .error error := by
  rw [Nat.add_comm] at refused
  rw [checkpoints, checkpointsFrom_append (readAs_of_forall₂_reads reads), checkpointsFrom,
    checkpoint?_of_refused refused]
  rfl

/-! ## Lines without these two defects -/

/-- No line that starts like that of a checkpoint is dropped.  If all of them are well-formed, the
checkpoints are those of these lines.  Otherwise there is an error about the first that is not. -/
def Accounted (lines : List String) : Prop :=
  (∃ entries, List.Forall₂ (fun line => Carries line.toList) lines entries ∧
      checkpoints lines = .ok entries.reduceOption) ∨
    ∃ front line back reason, lines = front ++ line :: back ∧
      (∀ earlier ∈ front, Numbered earlier.toList → WellFormed earlier.toList) ∧
      Numbered line.toList ∧ ¬WellFormed line.toList ∧
      checkpoints lines = .error (.malformed (front.length + 1) (withoutFeeds line) reason)

theorem Carries.wellFormed {entry : Option Checkpoint} (carries : Carries line entry)
    (numbered : Numbered line) : WellFormed line := by
  cases carries with
  | nothing unnumbered => exact absurd numbered unnumbered
  | checkpoint told _ spells =>
      exact told.wellFormed_iff.mpr ⟨_, state?_eq_some_iff.mpr spells⟩

theorem Reads.carries {entry : Option Checkpoint} (reads : Reads line entry)
    (uncrowded : ¬Crowded line) : Carries line entry := by
  cases reads with
  | carried carries _ => exact carries
  | crowded crowded => exact absurd crowded uncrowded

theorem forall₂_carries {entries : List (Option Checkpoint)}
    (reads : List.Forall₂ (fun line => Reads line.toList) lines entries)
    (uncrowded : ∀ line ∈ lines, ¬Crowded line.toList) :
    List.Forall₂ (fun line => Carries line.toList) lines entries := by
  induction reads with
  | nil => exact .nil
  | cons here _ ih =>
      obtain ⟨here_uncrowded, there_uncrowded⟩ := List.forall_mem_cons.mp uncrowded
      exact .cons (here.carries here_uncrowded) (ih there_uncrowded)

theorem wellFormed_of_forall₂_carries {entries : List (Option Checkpoint)}
    (carries : List.Forall₂ (fun line => Carries line.toList) lines entries) :
    ∀ line ∈ lines, Numbered line.toList → WellFormed line.toList := by
  induction carries with
  | nil => exact List.forall_mem_nil _
  | cons here _ ih => exact List.forall_mem_cons.mpr ⟨here.wellFormed, ih⟩

/-- Reading the checkpoints of a transcript either reads every line and returns their checkpoints in
order, or it ends with an error about the first line that is refused.  Only lines with more than one
word after their colon and indices with too many digits are in the way of accounting for every line
that starts like that of a checkpoint. -/
theorem checkpoints_outcome (lines : List String) :
    ((∃ entries, List.Forall₂ (fun line => Reads line.toList) lines entries ∧
        checkpoints lines = .ok entries.reduceOption) ∨
      ∃ front line back entries error, lines = front ++ line :: back ∧
        List.Forall₂ (fun line => Reads line.toList) front entries ∧
        Refused (front.length + 1) line error ∧ checkpoints lines = .error error) ∧
      ((∀ line ∈ lines, ¬Crowded line.toList ∧ Short line.toList) → Accounted lines) := by
  rcases reads_or_exists_refused 1 lines with
    ⟨entries, reads⟩ | ⟨front, line, back, entries, error, rfl, reads, refused⟩
  · refine ⟨.inl ⟨entries, reads, checkpoints_of_reads reads⟩, fun plain => ?_⟩
    exact .inl ⟨entries, forall₂_carries reads fun line member => (plain line member).1,
      checkpoints_of_reads reads⟩
  · rw [Nat.add_comm] at refused
    have refused_eq : checkpoints (front ++ line :: back) = .error error :=
      checkpoints_of_refused reads refused
    refine ⟨.inr ⟨front, line, back, entries, error, rfl, reads, refused, refused_eq⟩,
      fun plain => .inr ?_⟩
    have front_carries := forall₂_carries reads fun earlier member =>
      (plain earlier (List.mem_append_left _ member)).1
    have line_short := (plain line (by simp)).2
    cases refused with
    | malformed told not_wellFormed =>
        exact ⟨front, line, back, _, rfl, wellFormed_of_forall₂_carries front_carries,
          told.numbered, not_wellFormed, refused_eq⟩
    | longIndex told _ long => exact absurd (line_short _ _ told) (Nat.not_le.mpr long)

/-- A line with more than one word is dropped. -/
theorem Crowded.not_accounted {line : String} (crowded : Crowded line.toList) :
    ¬Accounted [line] := by
  have dropped : checkpoints [line] = .ok [] := checkpoints_of_reads (.cons (.crowded crowded) .nil)
  rintro (⟨entries, carries, read⟩ | ⟨_, _, _, _, -, -, -, -, refused⟩)
  · obtain ⟨digits, word, told, -⟩ := wellFormed_of_forall₂_carries carries line
      (List.mem_singleton_self line) crowded.numbered
    exact crowded.not_told digits word told
  · rw [dropped] at refused
    contradiction

section Long

variable {line : String} (told : Told line.toList digits word) (wellFormed : WellFormed line.toList)
  (long : Text.maxDigits < digits.length)

include told wellFormed long

theorem Told.checkpoints_eq : checkpoints [line] = .error (.longIndex digits.length) :=
  @checkpoints_of_refused [] [] line [] _ .nil (.longIndex told wellFormed long)

/-- An index with too many digits is refused without the number of its line. -/
theorem Told.not_accounted : ¬Accounted [line] := by
  have refused_eq := told.checkpoints_eq wellFormed long
  rintro (⟨entries, -, read⟩ | ⟨_, _, _, _, -, -, -, -, refused⟩)
  · rw [refused_eq] at read
    contradiction
  · rw [refused_eq] at refused
    exact nomatch Except.error.inj refused

end Long

/-- The characters of a well-formed line with an index of 4301 digits. -/
def longCharacters : List Char := List.replicate 4301 '1' ++ ':' :: ' ' :: List.replicate 64 '0'

theorem told_longCharacters :
    Told longCharacters (List.replicate 4301 '1') (List.replicate 64 '0') := by
  have ones : ∀ character ∈ List.replicate 4301 '1', Text.isDigit character = true :=
    fun character member => List.eq_of_mem_replicate member ▸ by decide
  have zeros : ∀ character ∈ List.replicate 64 '0', Text.isBlank character = false :=
    fun character member => List.eq_of_mem_replicate member ▸ by decide
  have space : ∀ character ∈ [' '], Text.isBlank character = true :=
    List.forall_mem_singleton.mpr (by decide)
  refine ⟨[], [' '], [], ?_, by simp, ?_, ones, space, zeros, by simp⟩
  · rw [longCharacters, List.nil_append, List.append_nil, List.singleton_append]
  · exact List.ne_nil_of_length_eq_add_one List.length_replicate

theorem unbroken_longCharacters : Text.Unbroken longCharacters := by
  have ones : Text.Unbroken (List.replicate 4301 '1') :=
    fun character member => List.eq_of_mem_replicate member ▸ by decide
  exact List.forall_mem_append.mpr
    ⟨ones, show Text.Unbroken (':' :: ' ' :: List.replicate 64 '0') by decide⟩

/-- The line with these characters. -/
def longLine : String := String.ofList longCharacters

theorem told_longLine :
    Told longLine.toList (List.replicate 4301 '1') (List.replicate 64 '0') := by
  rw [longLine, String.toList_ofList]
  exact told_longCharacters

theorem wellFormed_longLine : WellFormed longLine.toList :=
  ⟨_, _, told_longLine, List.length_replicate, by decide⟩

theorem long_longLine : Text.maxDigits < (List.replicate 4301 '1').length := by
  rw [List.length_replicate]
  decide

/-- A line with two words, and a line whose index has too many digits. -/
theorem not_accounted_words_and_digits :
    ¬Accounted ["0: zz zz"] ∧ ¬Accounted [longLine] := by
  constructor
  · have numbered : Numbered ("0: zz zz" : String).toList :=
      ⟨[], ['0'], " zz zz".toList, by decide +kernel, List.forall_mem_nil _, List.cons_ne_nil _ _,
        List.forall_mem_singleton.mpr (by decide)⟩
    have not_told (digits word) : ¬Told ("0: zz zz" : String).toList digits word := by
      rw [← indexedWord?_eq_some_iff]
      exact Option.eq_none_iff_forall_ne_some.mp (by decide +kernel) (digits, word)
    exact Crowded.not_accounted ⟨numbered, not_told⟩
  · exact told_longLine.not_accounted wellFormed_longLine long_longLine

end Transcript
end BeaconCeremony

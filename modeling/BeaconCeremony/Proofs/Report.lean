import BeaconCeremony.Machine
import BeaconCeremony.Proofs.Chain.Walk
import BeaconCeremony.Proofs.Report.Remark
import BeaconCeremony.Text.Encoding

/-!
# What has been shown as a transcript

Everything that has been shown is one text.  If the checkpoints of a chain and its final state have
been shown, and otherwise only strings that are passed over, then the checkpoints and the final
state are read from this text.
-/

namespace BeaconCeremony

namespace Report

/-- The string with the final state. -/
def finalLine (final : Digest 32) : String := finalLabel ++ " " ++ Hex.encode final.bytes

/-- No checkpoint is read from any line of a string that is shown. -/
def Passing (text : String) : Prop :=
  ∃ rows, text.toList ++ ['\n'] = Text.joined rows ∧
    ∀ row ∈ rows, Text.Unbroken row ∧ Transcript.Silent row

/-- Neither a checkpoint nor the final state is read from a string. -/
structure Heading (text : String) : Prop where
  /-- It is one line. -/
  unbroken : Text.Unbroken text.toList
  /-- There is no checkpoint in it. -/
  silent : Transcript.Silent text.toList
  /-- It is not about the final state. -/
  unlabelled : Transcript.Unlabelled text.toList

/-- The checkpoints of a chain and its final state have been shown, the last string first, and
besides them only what is passed over. -/
def Reports (chain : Chain) (shown : List String) : Prop :=
  ∃ front back, shown.reverse = front ++ (chain.definition.checkpoints.map checkpointLine ++
      finalLine chain.definition.final :: back) ∧
    (∀ text ∈ front, Heading text) ∧ ∀ text ∈ back, Passing text

/-! ## Strings that are passed over -/

theorem passing_of_line {text : String} (unbroken : Text.Unbroken text.toList)
    (silent : Transcript.Silent text.toList) : Passing text := by
  refine ⟨[text.toList], by simp, fun row member => ?_⟩
  rw [List.mem_singleton.mp member]
  exact ⟨unbroken, silent⟩

theorem passing_empty : Passing "" :=
  passing_of_line (by simp [Text.Unbroken]) (Transcript.silent_of_no_colon (by simp))

/-- A remark is passed over, and it is shown without its control sequences. -/
theorem passing_of_remark {text : String} (remark : Transcript.Remark text)
    (fed : Transcript.Fed text) : Passing (Text.withoutControls text) := by
  have feed : ("\n" : String).toList = ['\n'] := rfl
  obtain ⟨rows, rows_eq, inside⟩ := Text.exists_rows (Text.withoutControls text).toList
  have unbroken : ∀ row ∈ rows, Text.Unbroken row := by
    intro row row_mem character member
    obtain ⟨of_shown, no_feed⟩ := inside row row_mem character member
    rw [Text.withoutControls, String.toList_ofList] at of_shown
    exact (fed character ((Text.dropControls_sublist _ _).mem of_shown)).resolve_left no_feed
  refine ⟨rows, rows_eq, fun row row_mem => ⟨unbroken row row_mem, ?_⟩⟩
  have foreign := (remark (Text.withoutControls text) (by simp)).2 (String.ofList row)
  rw [Text.splitLines, String.toList_append, feed, rows_eq,
    Text.linesFrom_joined unbroken] at foreign
  have unnumbered := (foreign (List.mem_map_of_mem row_mem)).not_numbered
  rw [String.toList_ofList] at unnumbered
  exact Transcript.silent_of_not_numbered unnumbered

/-! ## Reading what has been shown -/

/-- A remark of one line may stand in front of the checkpoints. -/
theorem heading_of_remark {text : String} (remark : Transcript.Remark text)
    (unbroken : Text.Unbroken text.toList) : Heading text where
  unbroken := unbroken
  silent := Transcript.silent_of_not_numbered (remark text (by simp)).1.not_numbered
  unlabelled := Transcript.unlabelled_of_not_labelled (remark text (by simp)).1.not_labelled

theorem heading_announcement : Heading announcement :=
  heading_of_remark remark_announcement (by decide +kernel)

section Shown

variable {chain : Chain} {shown : List String}

/-- Passing strings can be shown after a report. -/
theorem Reports.cons (reports : Reports chain shown) {text : String} (passing : Passing text) :
    Reports chain (text :: shown) := by
  obtain ⟨front, back, shown_eq, front_heading, back_passing⟩ := reports
  refine ⟨front, back ++ [text], ?_, front_heading, ?_⟩
  · rw [List.reverse_cons, shown_eq]
    simp
  · exact List.forall_mem_append.mpr ⟨back_passing, by simpa using passing⟩

theorem exists_passing_rows {texts : List String} (passing : ∀ text ∈ texts, Passing text) :
    ∃ rows, Text.joined (texts.map String.toList) = Text.joined rows ∧
      ∀ row ∈ rows, Text.Unbroken row ∧ Transcript.Silent row := by
  induction texts with
  | nil => exact ⟨[], rfl, by simp⟩
  | cons text texts ih =>
      obtain ⟨here, there⟩ := List.forall_mem_cons.mp passing
      obtain ⟨rows, rows_eq, rows_pass⟩ := here
      obtain ⟨more, more_eq, more_pass⟩ := ih there
      refine ⟨rows ++ more, ?_, List.forall_mem_append.mpr ⟨rows_pass, more_pass⟩⟩
      rw [Text.joined_append, ← rows_eq, ← more_eq]
      simp

theorem short_of_mem_definition {checkpoint : Checkpoint}
    (member : checkpoint ∈ chain.definition.checkpoints) : checkpoint.Short := by
  simp only [Chain.definition, List.mem_map, List.mem_range] at member
  obtain ⟨number, number_lt, rfl⟩ := member
  have interval_le : chain.exponent.interval ≤ 2 ^ 53 :=
    Nat.pow_le_pow_right (by decide) (Nat.sub_le_sub_right chain.exponent.le_greatest 10)
  have index_lt : number * chain.exponent.interval < 10 ^ 20 := calc
    number * chain.exponent.interval ≤ Chain.checkpointCount * 2 ^ 53 :=
      Nat.mul_le_mul number_lt.le interval_le
    _ < 10 ^ 20 := by decide
  have digits_le : (Nat.toDigits 10 (number * chain.exponent.interval)).length ≤ 20 :=
    (Nat.length_toDigits_le_iff (by decide) (by decide)).mpr index_lt
  exact digits_le.trans (by decide)

/-- The text that has been shown has the lines of a report. -/
theorem Reports.exists_lines (reports : Reports chain shown) : ∃ front back,
    Text.joined (shown.reverse.map String.toList) =
      Text.joined (Transcript.reportLines front chain.definition.checkpoints
        chain.definition.final back) ∧
    (∀ line ∈ front, Text.Unbroken line ∧ Transcript.Silent line ∧ Transcript.Unlabelled line) ∧
    ∀ line ∈ back, Text.Unbroken line ∧ Transcript.Silent line := by
  obtain ⟨front, back, shown_eq, front_heading, back_passing⟩ := reports
  obtain ⟨rows, rows_eq, rows_pass⟩ := exists_passing_rows back_passing
  refine ⟨front.map String.toList, rows, ?_, ?_, rows_pass⟩
  · have lines_eq : (chain.definition.checkpoints.map checkpointLine).map String.toList =
        chain.definition.checkpoints.map checkpointCharacters := by
      simp [toList_checkpointLine]
    rw [shown_eq, Transcript.reportLines]
    simp only [List.map_append, List.map_cons, Text.joined_append, Text.joined_cons, lines_eq,
      rows_eq, finalLine, toList_finalLine]
  · intro line member
    obtain ⟨text, text_mem, rfl⟩ := List.mem_map.mp member
    have heading := front_heading text text_mem
    exact ⟨heading.unbroken, heading.silent, heading.unlabelled⟩

end Shown

end Report

/-- Everything that has been shown on the standard output, each string with a line feed after
it. -/
def Machine.output (machine : Machine) : String :=
  String.ofList (Text.joined (machine.shown.reverse.map String.toList))

end BeaconCeremony

import BeaconCeremony.Proofs.CommandLine.Reporting

/-!
# Transcripts with anything between their lines

Lines about checkpoints and about the final state may stand among any other lines, in any order.
Reading them brings back the checkpoints in their order and the first final state.  The other lines
that the program shows are of this kind, whatever the paths and the fingerprint are.
-/

namespace BeaconCeremony
namespace Transcript

/-- What a line of a transcript stands for. -/
inductive Entry
  /-- A checkpoint, as it is reported. -/
  | checkpoint (reported : Checkpoint)
  /-- The final state, as it is reported. -/
  | final (state : Digest 32)
  /-- Anything else. -/
  | foreign (line : String)

namespace Entry

/-- The line of an entry. -/
def line : Entry → String
  | .checkpoint reported => Report.checkpointLine reported
  | .final state => Report.finalLine state
  | .foreign line => line

/-- The checkpoint of an entry, if it has one. -/
def checkpoint? : Entry → Option Checkpoint
  | .checkpoint reported => some reported
  | _ => none

/-- The final state of an entry, if it has one. -/
def final? : Entry → Option (Digest 32)
  | .final state => some state
  | _ => none

/-- An index does not have more digits than can be read, and other lines are foreign. -/
def Readable : Entry → Prop
  | .checkpoint reported => reported.index < Nat.pow 10 Text.maxDigits
  | .final _ => True
  | .foreign line => Foreign line

end Entry

/-! ## Entries -/

section Entries

variable {entry : Entry} {entries : List Entry}

theorem short_of_index_lt {checkpoint : Checkpoint}
    (index_lt : checkpoint.index < Nat.pow 10 Text.maxDigits) : checkpoint.Short := by
  have positive : 0 < Text.maxDigits := by decide
  rw [Checkpoint.Short]
  generalize Text.maxDigits = digits at index_lt positive ⊢
  exact (Nat.length_toDigits_le_iff (by decide) positive).mpr index_lt

theorem checkpointLine_eq (checkpoint : Checkpoint) : Report.checkpointLine checkpoint =
    String.ofList (Report.checkpointCharacters checkpoint) := by
  rw [← Report.toList_checkpointLine, String.ofList_toList]

theorem finalLine_eq (state : Digest 32) :
    Report.finalLine state = String.ofList (Report.finalCharacters state) := by
  rw [← Report.toList_finalLine, ← Report.finalLine, String.ofList_toList]

/-- The checkpoint of an entry is read from its line, and from no other line. -/
theorem checkpoint?_line (readable : entry.Readable) (lineNumber : Nat) :
    Transcript.checkpoint? lineNumber entry.line = .ok entry.checkpoint? := by
  cases entry with
  | checkpoint checkpoint =>
      rw [Entry.line, checkpointLine_eq]
      exact checkpoint?_checkpointCharacters (short_of_index_lt readable) lineNumber
  | final state =>
      rw [Entry.line, finalLine_eq]
      exact checkpoint?_silent (silent_finalCharacters state) lineNumber
  | foreign line =>
      have silent := silent_of_not_numbered (Foreign.not_numbered readable)
      rw [Entry.line, ← String.ofList_toList (s := line)]
      exact checkpoint?_silent silent lineNumber

/-- The final state of an entry is read from its line; other lines are passed over. -/
theorem finalFrom_line (readable : entry.Readable) (lineNumber : Nat) (rest : List String) :
    finalFrom lineNumber (entry.line :: rest) =
      match entry.final? with
      | some state => .ok (some state)
      | none => finalFrom (lineNumber + 1) rest := by
  have passed {line : List Char} (unlabelled : Unlabelled line) :
      finalFrom lineNumber (String.ofList line :: rest) = finalFrom (lineNumber + 1) rest :=
    finalFrom_unlabelled (List.forall_mem_singleton.mpr unlabelled) lineNumber
  cases entry with
  | checkpoint checkpoint =>
      rw [Entry.line, checkpointLine_eq]
      exact passed (unlabelled_checkpointCharacters checkpoint)
  | final state =>
      rw [Entry.line, finalLine_eq]
      exact finalFrom_finalCharacters state lineNumber
  | foreign line =>
      have unlabelled := unlabelled_of_not_labelled (Foreign.not_labelled readable)
      rw [Entry.line, ← String.ofList_toList (s := line)]
      exact passed unlabelled

theorem checkpointsFrom_entries (readable : ∀ entry ∈ entries, entry.Readable) (lineNumber : Nat) :
    checkpointsFrom lineNumber (entries.map Entry.line) =
      .ok (entries.filterMap Entry.checkpoint?) := by
  have read : ∀ entry ∈ entries, ReadAs entry.line entry.checkpoint? :=
    fun entry member => checkpoint?_line (readable entry member)
  rw [← List.append_nil (entries.map Entry.line), checkpointsFrom_map_append read, checkpointsFrom,
    Except.map, List.append_nil]

theorem finalFrom_entries (readable : ∀ entry ∈ entries, entry.Readable) (lineNumber : Nat) :
    finalFrom lineNumber (entries.map Entry.line) = .ok (entries.findSome? Entry.final?) := by
  induction entries generalizing lineNumber with
  | nil => rfl
  | cons entry entries ih =>
      obtain ⟨here, there⟩ := List.forall_mem_cons.mp readable
      rw [List.map_cons, finalFrom_line here, List.findSome?_cons, ih there]
      cases entry.final? with
      | none => rfl
      | some state => rfl

end Entries

/-! ## What else is shown -/

/-- The texts that are shown besides those about checkpoints and the final state. -/
def remarks (source destination : RawText) (fingerprint : Bytes) (seed : Seed) : List RawText :=
  [(Report.announcement : RawText), Report.contributingLine source] ++
    (Report.fingerprintLines fingerprint).map RawText.ofString ++
    (Report.writtenLines destination ++ [(CommandLine.Command.seedLine seed : RawText)])

section Remarks

theorem remark_seedLine (seed : Seed) : Remark (CommandLine.Command.seedLine seed) := by
  obtain ⟨others, line_eq⟩ := CommandLine.Command.exists_toList_seedLine seed
  exact remark_of_head line_eq (by decide) (CommandLine.Command.tame_seedLine seed).unbroken

theorem remark_of_mem_remarks {source destination text : RawText}
    (source_unbroken : source.Unbroken) (destination_unbroken : destination.Unbroken)
    {fingerprint : Bytes} {seed : Seed}
    (member : text ∈ remarks source destination fingerprint seed) : Remark text.start := by
  simp only [remarks, List.mem_append, List.mem_cons, List.not_mem_nil, or_false,
    List.mem_map] at member
  rcases member with ((rfl | rfl) | ⟨line, line_mem, rfl⟩) | written | rfl
  · exact Report.remark_announcement
  · exact Report.remark_contributingLine source_unbroken
  · exact Report.remark_of_mem_fingerprintLines line_mem
  · exact Report.remark_of_mem_writtenLines destination_unbroken written
  · exact remark_seedLine seed

end Remarks

/-- Checkpoints and final states are read back from among any other lines, the final state from the
first line about one, and whatever else is shown is such other lines. -/
theorem reads_interleaved {entries : List Entry} (readable : ∀ entry ∈ entries, entry.Readable)
    {source destination : RawText} (source_unbroken : source.Unbroken)
    (destination_unbroken : destination.Unbroken) (fingerprint : Bytes) (seed : Seed) :
    Transcript.checkpoints (entries.map Entry.line) =
        .ok (entries.filterMap Entry.checkpoint?) ∧
      Transcript.final? (entries.map Entry.line) = .ok (entries.findSome? Entry.final?) ∧
      ∀ text : String, (text : RawText) ∈ remarks source destination fingerprint seed →
        Remark text :=
  ⟨checkpointsFrom_entries readable 1, finalFrom_entries readable 1,
    fun _ member => remark_of_mem_remarks source_unbroken destination_unbroken member⟩

/-- Among other lines there are two checkpoints, not in the order of their indices, and two final
states. -/
theorem reads_interleaved_twice :
    let low : Digest 32 := ⟨List.replicate 32 0, rfl⟩
    let high : Digest 32 := ⟨List.replicate 32 255, rfl⟩
    let entries : List Entry := [.foreign "Creating a beacon RNG", .checkpoint ⟨7, low⟩,
      .foreign "", .final high, .checkpoint ⟨3, high⟩, .final low]
    let path : RawText := "new.params"
    (∀ entry ∈ entries, entry.Readable) ∧ path.Unbroken ∧
      Transcript.checkpoints (entries.map Entry.line) = .ok [⟨7, low⟩, ⟨3, high⟩] ∧
      Transcript.final? (entries.map Entry.line) = .ok (some high) ∧
      ∀ text : String, (text : RawText) ∈ remarks path path [1, 2, 3] (Seed.ofDigest low) →
        Remark text := by
  intro low high entries path
  have readable : ∀ entry ∈ entries, entry.Readable := by
    have short {index : Nat} (index_lt : index < 10) : index < Nat.pow 10 Text.maxDigits := by
      have present : Text.maxDigits ≠ 0 := by decide
      generalize Text.maxDigits = digits at present ⊢
      exact index_lt.trans_le (Nat.le_self_pow present 10)
    simp only [entries, List.forall_mem_cons, List.not_mem_nil, false_implies, implies_true,
      and_true]
    refine ⟨foreign_of_no_colon (by decide +kernel), short (by decide),
      foreign_of_no_colon (by decide), True.intro, short (by decide), True.intro⟩
  have unbroken : path.Unbroken := RawText.unbroken_coe (by decide +kernel)
  have reads := reads_interleaved readable unbroken unbroken [1, 2, 3] (Seed.ofDigest low)
  exact ⟨readable, unbroken, reads⟩

end Transcript
end BeaconCeremony

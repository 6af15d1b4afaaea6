import BeaconCeremony.Proofs.Chain.Walk
import BeaconCeremony.Proofs.CommandLine.Shares
import BeaconCeremony.Proofs.Transcript
import Mathlib.Algebra.Group.Nat.Defs

/-!
# Verifying a transcript as a whole

Verification without a range takes all checkpoints of the chain, and the final state if there is
one.  It does not ask for checkpoint zero, and it does not ask for a final state.  What exit code
zero says is that everything that is there agrees, up to the final state.
-/

namespace BeaconCeremony
namespace CommandLine
namespace Command

open Chain (Exponent)

section Whole

variable {environment : Environment} {machine : Machine} {exponent : Exponent}
  {checkpoints : List Checkpoint} {final? : Option (Digest 32)}

theorem mem_selected_whole_iff {checkpoint : Checkpoint} :
    checkpoint ∈ selected exponent 0 lastNumber checkpoints ↔
      checkpoint ∈ checkpoints ∧ checkpoint.index ≤ 1023 * exponent.interval := by
  have last_eq : lastNumber = 1023 := rfl
  rw [mem_selected_iff, last_eq]
  refine and_congr_right fun _ => ?_
  omega

/-- A checkpoint with index zero is as many steps away from the final state as the chain has. -/
theorem Verified.reach_zero (verified : Verified exponent 0 lastNumber checkpoints final?)
    {first : Checkpoint} (first_mem : first ∈ checkpoints) (first_zero : first.index = 0)
    {final : Digest 32} (final_mem : final ∈ final?) :
    Digest.successor^[exponent.steps] first.digest = final := by
  have first_selected : first ∈ selected exponent 0 lastNumber checkpoints := by
    rw [mem_selected_whole_iff, first_zero]
    exact ⟨first_mem, Nat.zero_le _⟩
  have reached := verified.consistent.reach final final_mem first first_selected
  rwa [first_zero, Nat.sub_zero] at reached

/-- What has been verified holds at least one checkpoint, and a second one or a final state. -/
theorem Verified.two_states {first last : Int}
    (verified : Verified exponent first last checkpoints final?) :
    selected exponent first last checkpoints ≠ [] ∧
      (final? = none → 2 ≤ (selected exponent first last checkpoints).length) := by
  have segment := verified.segment
  constructor
  · intro empty
    simp [empty, segmentCount] at segment
  · rintro rfl
    simp only [segmentCount, Option.isSome_none, Bool.false_and, Bool.false_eq_true,
      if_false] at segment
    omega

/-- Where a transcript as a whole is found in order, there is something to verify, every checkpoint
of the chain leads to every later one and to the final state if there is one, and from a checkpoint
with index zero to the final state these are all the steps of the chain. -/
theorem whole_exit_zero {number : Int} {path : String} {arguments : List String}
    (asked : request? arguments = some (.verifyChain { transcript := path, exponent := number }))
    (ok : (machine.execute environment arguments).1 = .exit 0) :
    ∃ exponent lines checkpoints final?, Exponent.ofDatum (.int number) = .ok exponent ∧
      lines? (machine.transcript path) = some lines ∧
      Transcript.checkpoints lines = .ok checkpoints ∧ Transcript.final? lines = .ok final? ∧
      selected exponent 0 lastNumber checkpoints ≠ [] ∧
      (final? = none → 2 ≤ (selected exponent 0 lastNumber checkpoints).length) ∧
      Chain.Consistent exponent (selected exponent 0 lastNumber checkpoints) final? ∧
      ∀ final ∈ final?, ∀ first ∈ checkpoints, first.index = 0 →
        Digest.successor^[2 ^ number.toNat] first.digest = final := by
  obtain ⟨exponent, lines, checkpoints, _, exponent_eq, lines_eq, checkpoints_eq, -⟩ :=
    (execute_verifyChain_iff asked).mp ok
  obtain ⟨final?, final_eq, verified⟩ :=
    (execute_open_iff exponent_eq lines_eq checkpoints_eq asked).mp ok
  have number_eq : number = exponent.value := Chain.ofDatum_int_eq_ok_iff.mp exponent_eq
  have steps_eq : exponent.steps = 2 ^ number.toNat := by
    rw [number_eq]
    rfl
  obtain ⟨some_selected, two_selected⟩ := verified.two_states
  refine ⟨exponent, lines, checkpoints, final?, exponent_eq, lines_eq, checkpoints_eq, final_eq,
    some_selected, two_selected, verified.consistent, ?_⟩
  intro final final_mem first first_mem first_zero
  rw [← steps_eq]
  exact verified.reach_zero first_mem first_zero final_mem

end Whole

/-- A machine with some lines on its standard input. -/
def fed (lines : List (List Char)) : Machine where
  storage := Storage.fresh "home"
  input := Utf8.encode (String.ofList (Text.joined lines))

theorem lines?_fed {lines : List (List Char)} (unbroken : ∀ line ∈ lines, Text.Unbroken line) :
    lines? ((fed lines).transcript "-") = some (lines.map String.ofList) := by
  rw [Machine.transcript, if_pos rfl]
  exact lines?_encode_joined unbroken

/-- The whole standard input is verified. -/
def input : List String := ["verify-chain", "-t", "-", "-n", "10"]

theorem input_asked : request? input =
    some (.verifyChain { transcript := "-", exponent := 10 }) := rfl

namespace Ends

/-- The final state of the shortest chain from a state. -/
def final : Digest 32 := Torn.start1.advance Torn.exponent.steps

/-- A transcript with checkpoint zero and the final state and nothing between them. -/
def lines : List (List Char) := Transcript.reportLines [] [⟨0, Torn.start1⟩] final []

theorem verified : Verified Torn.exponent 0 lastNumber [⟨0, Torn.start1⟩] (some final) := by
  have selected_eq : selected Torn.exponent 0 lastNumber [⟨0, Torn.start1⟩] =
      [⟨0, Torn.start1⟩] := rfl
  refine ⟨by decide, by decide, by decide, ?_, ?_⟩
  · rw [selected_eq]
    exact le_rfl
  · rw [selected_eq]
    refine Chain.verify_eq_nil_iff.mpr ⟨by decide, ?_, ?_⟩
    · simp
    · simp [final, Digest.advance_eq_iterate]

theorem unbroken : ∀ line ∈ lines, Text.Unbroken line := by
  intro line member
  simp only [lines, Transcript.reportLines, List.map_cons, List.map_nil, List.nil_append,
    List.cons_append, List.mem_cons, List.not_mem_nil, or_false] at member
  rcases member with rfl | rfl
  · exact (Report.tame_checkpointCharacters _).unbroken
  · exact (Report.tame_finalCharacters _).unbroken

theorem checkpoints_eq :
    Transcript.checkpoints (lines.map String.ofList) = .ok [⟨0, Torn.start1⟩] := by
  refine Transcript.checkpoints_reportLines (by simp) (by simp) fun checkpoint member => ?_
  rw [List.mem_singleton.mp member]
  decide

theorem exit : ((fed lines).execute [] input).1 = .exit 0 :=
  (execute_open_iff rfl (lines?_fed unbroken) checkpoints_eq input_asked).mpr
    ⟨some final, Transcript.final?_reportLines (by simp), verified⟩

end Ends

theorem whole_exit_zero_ends : ∃ exponent lines checkpoints final?,
    Exponent.ofDatum (.int 10) = .ok exponent ∧
      lines? ((fed Ends.lines).transcript "-") = some lines ∧
      Transcript.checkpoints lines = .ok checkpoints ∧ Transcript.final? lines = .ok final? ∧
      selected exponent 0 lastNumber checkpoints ≠ [] ∧
      (final? = none → 2 ≤ (selected exponent 0 lastNumber checkpoints).length) ∧
      Chain.Consistent exponent (selected exponent 0 lastNumber checkpoints) final? ∧
      ∀ final ∈ final?, ∀ first ∈ checkpoints, first.index = 0 →
        Digest.successor^[2 ^ 10] first.digest = final :=
  whole_exit_zero input_asked Ends.exit

namespace Headless

/-- The second and the third checkpoint of a chain. -/
def checkpoints : List Checkpoint := [⟨1, Torn.start1⟩, ⟨2, Torn.start1.successor⟩]

/-- A transcript with these checkpoints and nothing else. -/
def lines : List (List Char) := checkpoints.map Report.checkpointCharacters

theorem verified : Verified Torn.exponent 0 lastNumber checkpoints none :=
  verified_of_step rfl (by decide) (by decide) rfl

theorem unbroken : ∀ line ∈ lines, Text.Unbroken line := by
  intro line member
  obtain ⟨checkpoint, -, rfl⟩ := List.mem_map.mp member
  exact (Report.tame_checkpointCharacters checkpoint).unbroken

theorem checkpoints_eq : Transcript.checkpoints (lines.map String.ofList) = .ok checkpoints := by
  have short : ∀ checkpoint ∈ checkpoints, checkpoint.Short := by
    simp only [checkpoints, List.forall_mem_cons]
    exact ⟨by decide, by decide, by simp⟩
  rw [Transcript.checkpoints, lines, ← List.append_nil (List.map String.ofList _),
    Transcript.checkpointsFrom_checkpoints short]
  rfl

theorem final?_eq : Transcript.final? (lines.map String.ofList) = .ok none := by
  have unlabelled : ∀ line ∈ lines, Transcript.Unlabelled line := by
    intro line member
    obtain ⟨checkpoint, -, rfl⟩ := List.mem_map.mp member
    exact Transcript.unlabelled_checkpointCharacters checkpoint
  rw [Transcript.final?, ← List.append_nil (List.map _ _),
    Transcript.finalFrom_unlabelled unlabelled]
  rfl

end Headless

/-- A transcript without checkpoint zero and without a final state can be found in order as a
whole. -/
theorem whole_exit_zero_headless : ((fed Headless.lines).execute [] input).1 = .exit 0 ∧
    ∃ lines checkpoints, lines? ((fed Headless.lines).transcript "-") = some lines ∧
      Transcript.checkpoints lines = .ok checkpoints ∧
      (∀ checkpoint ∈ checkpoints, checkpoint.index ≠ 0) ∧
      Transcript.final? lines = .ok none := by
  have lines_eq := lines?_fed Headless.unbroken
  refine ⟨?_, _, _, lines_eq, Headless.checkpoints_eq, ?_, Headless.final?_eq⟩
  · exact (execute_open_iff rfl lines_eq Headless.checkpoints_eq input_asked).mpr
      ⟨none, Headless.final?_eq, Headless.verified⟩
  · simp [Headless.checkpoints]

end Command
end CommandLine
end BeaconCeremony

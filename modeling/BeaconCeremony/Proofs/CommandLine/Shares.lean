import BeaconCeremony.Proofs.Chain.Shares
import BeaconCeremony.Proofs.CommandLine.Verification

/-!
# Verifying a transcript in shares

A range of checkpoints is cut in two and each part is verified for itself.  If there is a checkpoint
at the cut, this is as good as verifying the whole range.  Otherwise nobody verifies the segment
across the cut.
-/

namespace BeaconCeremony
namespace CommandLine
namespace Command

open Chain (Exponent)

section Ranges

variable {environment : Environment} {machine : Machine} {exponent : Exponent}
  {first last cut : Int} {checkpoints : List Checkpoint} {final? : Option (Digest 32)}

theorem mem_selected_iff {checkpoint : Checkpoint} :
    checkpoint ∈ selected exponent first last checkpoints ↔
      checkpoint ∈ checkpoints ∧ first * exponent.interval ≤ checkpoint.index ∧
        (checkpoint.index : Int) ≤ last * exponent.interval := by
  simp [selected]

/-- A range is made of the two that it is cut into. -/
theorem mem_selected_cut_iff (first_le : first ≤ cut) (cut_le : cut ≤ last)
    {checkpoint : Checkpoint} :
    checkpoint ∈ selected exponent first last checkpoints ↔
      checkpoint ∈ selected exponent first cut checkpoints ∨
        checkpoint ∈ selected exponent cut last checkpoints := by
  have interval_nonneg : (0 : Int) ≤ exponent.interval := Int.natCast_nonneg _
  have low := Int.mul_le_mul_of_nonneg_right first_le interval_nonneg
  have high := Int.mul_le_mul_of_nonneg_right cut_le interval_nonneg
  simp only [mem_selected_iff]
  by_cases member : checkpoint ∈ checkpoints
  · simp only [member, true_and]
    omega
  · simp only [member, false_and, or_self]

theorem length_selected_le (cut_le : cut ≤ last) (checkpoints : List Checkpoint) :
    (selected exponent first cut checkpoints).length ≤
      (selected exponent first last checkpoints).length := by
  have interval_nonneg : (0 : Int) ≤ exponent.interval := Int.natCast_nonneg _
  have high := Int.mul_le_mul_of_nonneg_right cut_le interval_nonneg
  refine (List.monotone_filter_right checkpoints fun checkpoint kept => ?_).length_le
  simp only [decide_eq_true_eq] at kept ⊢
  omega

theorem index_le_of_selected {start stop : Checkpoint}
    (start_mem : start ∈ selected exponent first cut checkpoints)
    (stop_mem : stop ∈ selected exponent cut last checkpoints) : start.index ≤ stop.index := by
  obtain ⟨-, -, start_le⟩ := mem_selected_iff.mp start_mem
  obtain ⟨-, le_stop, -⟩ := mem_selected_iff.mp stop_mem
  omega

section Shares

variable (lower : Verified exponent first cut checkpoints none)
  (upper : Verified exponent cut last checkpoints final?)

include lower upper

theorem segment_whole : 1 ≤ segmentCount (selected exponent first last checkpoints) final? := by
  have grown : (selected exponent first cut checkpoints).length ≤
      (selected exponent first last checkpoints).length :=
    length_selected_le upper.first_le checkpoints
  have segment := lower.segment
  rw [segmentCount] at segment ⊢
  simp only [Option.isSome_none, Bool.false_and, Bool.false_eq_true, if_false] at segment
  omega

theorem consistent_whole_iff :
    Chain.Consistent exponent (selected exponent first last checkpoints) final? ↔
      ∀ start ∈ selected exponent first cut checkpoints,
        ∀ stop ∈ selected exponent cut last checkpoints, start.LeadsTo stop := by
  have within : ∀ checkpoint ∈ selected exponent cut last checkpoints,
      checkpoint.index ≤ exponent.steps := by
    intro checkpoint member
    exact ((exponent.onGrid_iff _).mp (upper.onGrid checkpoint member)).2.le
  have upper_ne : selected exponent cut last checkpoints ≠ [] := by
    intro empty
    have segment := upper.segment
    simp [segmentCount, empty] at segment
  exact Chain.consistent_shares_iff
    (fun _ => mem_selected_cut_iff lower.first_le upper.first_le)
    (fun _ start_mem _ stop_mem => index_le_of_selected start_mem stop_mem) within upper_ne
    lower.consistent upper.consistent

/-- Where two shares have been verified, the whole range is verified exactly if the checkpoints of
the first share lead to those of the second. -/
theorem verified_whole_iff : Verified exponent first last checkpoints final? ↔
    ∀ start ∈ selected exponent first cut checkpoints,
      ∀ stop ∈ selected exponent cut last checkpoints, start.LeadsTo stop := by
  rw [← consistent_whole_iff lower upper]
  constructor
  · exact Verified.consistent
  · intro consistent
    have onGrid : ∀ checkpoint ∈ selected exponent first last checkpoints,
        exponent.onGrid checkpoint.index = true := by
      intro checkpoint member
      rcases (mem_selected_cut_iff lower.first_le upper.first_le).mp member with in_lower | in_upper
      · exact lower.onGrid checkpoint in_lower
      · exact upper.onGrid checkpoint in_upper
    exact
      { first_nonneg := lower.first_nonneg
        first_le := Int.le_trans lower.first_le upper.first_le
        last_le := upper.last_le
        segment := segment_whole lower upper
        clean := Chain.verify_eq_nil_iff.mpr ⟨onGrid, consistent⟩ }

/-- A checkpoint at the cut is enough. -/
theorem Verified.whole {shared : Checkpoint} (shared_mem : shared ∈ checkpoints)
    (at_cut : (shared.index : Int) = cut * exponent.interval) :
    Verified exponent first last checkpoints final? := by
  have interval_nonneg : (0 : Int) ≤ exponent.interval := Int.natCast_nonneg _
  have low := Int.mul_le_mul_of_nonneg_right lower.first_le interval_nonneg
  have high := Int.mul_le_mul_of_nonneg_right upper.first_le interval_nonneg
  have shared_lower : shared ∈ selected exponent first cut checkpoints :=
    mem_selected_iff.mpr ⟨shared_mem, by omega, by omega⟩
  have shared_upper : shared ∈ selected exponent cut last checkpoints :=
    mem_selected_iff.mpr ⟨shared_mem, by omega, by omega⟩
  rw [verified_whole_iff lower upper]
  exact Chain.leadsTo_of_shared shared_lower shared_upper
    (fun _ start_mem _ stop_mem => index_le_of_selected start_mem stop_mem)
    lower.consistent upper.consistent

end Shares

/-- Two verifiers with a share each, on a transcript that both find in order.  The whole transcript
is in order exactly if the checkpoints of the first share lead to those of the second; it is if
there is a checkpoint at the cut. -/
theorem shares_exit_zero {number : Int} {path : String} {lower upper whole : List String}
    (lower_asked : request? lower = some (.verifyChain
      { transcript := path, exponent := number, last? := some cut }))
    (upper_asked : request? upper = some (.verifyChain
      { transcript := path, exponent := number, first := cut }))
    (whole_asked : request? whole = some (.verifyChain
      { transcript := path, exponent := number }))
    (lower_ok : (machine.execute environment lower).1 = .exit 0)
    (upper_ok : (machine.execute environment upper).1 = .exit 0) :
    ∃ exponent lines checkpoints, Exponent.ofDatum (.int number) = .ok exponent ∧
      lines? (machine.transcript path) = some lines ∧
      Transcript.checkpoints lines = .ok checkpoints ∧
      ((machine.execute environment whole).1 = .exit 0 ↔
        ∀ start ∈ selected exponent 0 cut checkpoints,
          ∀ stop ∈ selected exponent cut lastNumber checkpoints, start.LeadsTo stop) ∧
      ((∃ shared ∈ checkpoints, (shared.index : Int) = cut * exponent.interval) →
        (machine.execute environment whole).1 = .exit 0) := by
  obtain ⟨exponent, lines, checkpoints, _, exponent_eq, lines_eq, checkpoints_eq, -⟩ :=
    (execute_verifyChain_iff lower_asked).mp lower_ok
  have lower_verified :=
    (execute_closed_iff exponent_eq lines_eq checkpoints_eq lower_asked).mp lower_ok
  obtain ⟨final?, final_eq, upper_verified⟩ :=
    (execute_open_iff exponent_eq lines_eq checkpoints_eq upper_asked).mp upper_ok
  have whole_iff : (machine.execute environment whole).1 = .exit 0 ↔
      Verified exponent 0 lastNumber checkpoints final? := by
    rw [execute_open_iff exponent_eq lines_eq checkpoints_eq whole_asked]
    constructor
    · rintro ⟨other?, other_eq, verified⟩
      obtain rfl := Except.ok.inj (final_eq.symm.trans other_eq)
      exact verified
    · intro verified
      exact ⟨final?, final_eq, verified⟩
  refine ⟨exponent, lines, checkpoints, exponent_eq, lines_eq, checkpoints_eq, ?_, ?_⟩
  · exact whole_iff.trans (verified_whole_iff lower_verified upper_verified)
  · rintro ⟨shared, shared_mem, at_cut⟩
    exact whole_iff.mpr (lower_verified.whole upper_verified shared_mem at_cut)

/-- Two checkpoints, one step apart, are in order. -/
theorem verified_of_step {index : Nat} {state : Digest 32} (interval_eq : exponent.interval = 1)
    (range : 0 ≤ first ∧ first ≤ last ∧ last ≤ lastNumber) (small : index + 1 < exponent.steps)
    (selected_eq : selected exponent first last checkpoints =
      [⟨index, state⟩, ⟨index + 1, state.successor⟩]) :
    Verified exponent first last checkpoints none := by
  have leads : Checkpoint.LeadsTo ⟨index, state⟩ ⟨index + 1, state.successor⟩ := by
    simp [Checkpoint.LeadsTo]
  have sorted : [Checkpoint.mk index state, ⟨index + 1, state.successor⟩].Pairwise
      fun left right => left.index ≤ right.index := by
    simp
  refine ⟨range.1, range.2.1, range.2.2, ?_, ?_⟩
  · simp [selected_eq, segmentCount]
  · rw [selected_eq]
    refine Chain.verify_eq_nil_iff.mpr ⟨?_, ?_⟩
    · simp [Exponent.onGrid_iff, interval_eq, small, Nat.lt_of_succ_lt small]
    · refine (Chain.consistent_none_iff _ _).mpr ((Chain.isChain_precedes_iff sorted).mp ?_)
      simp [Chain.Precedes, leads]

end Ranges

/-- The lines of a transcript, without making texts of them. -/
theorem lines?_eq (content : Except Failure Bytes) :
    lines? content = (content.toOption.bind fun bytes => (Utf8.decodeFrom 0 bytes).toOption).map
      fun characters =>
        (Text.linesFrom [] (Text.unifyLineBreaks characters)).map String.ofList := by
  cases content with
  | error failure => rfl
  | ok bytes =>
      cases decoded : Utf8.decodeFrom 0 bytes with
      | error error => simp [lines?, Utf8.decode, Except.toOption, Except.map, decoded]
      | ok characters =>
          simp [lines?, Utf8.decode, Except.toOption, Except.map, decoded, Text.splitLines]

namespace Torn

/-- A line with a checkpoint. -/
def line (index state : Nat) : List Char :=
  Nat.toDigits 10 index ++ [':', ' '] ++ Nat.toDigits 16 state

/-- A transcript of two steps of one chain and two steps of another one.  The checkpoint between
them is missing. -/
def transcript : List (List Char) :=
  [line 0 0xffffffffffffffffffffffffffffffffffffffffffffffffffffffffffffffff,
    line 1 0xaf9613760f72635fbdb44a5a0a63c39f12af30f950a6ee5c971be188e89c4051,
    line 3 0x2222222222222222222222222222222222222222222222222222222222222222,
    line 4 0x9f72ea0cf49536e3c66c787f705186df9a4378083753ae9536d65b3ad7fcddc4]

/-- A machine with the transcript in a file. -/
def machine : Machine where
  storage := (Storage.fresh "home").put (["home", "t"].map Utf8.encode)
    (.file (transcript.flatMap fun line => (line ++ ['\n']).map fun character =>
      UInt8.ofNat character.toNat))

def exponent : Exponent := ⟨10, by decide, by decide⟩

def start1 : Digest 32 := ⟨List.replicate 32 0xff, List.length_replicate⟩

def start2 : Digest 32 := ⟨List.replicate 32 0x22, List.length_replicate⟩

def checkpoints : List Checkpoint :=
  [⟨0, start1⟩, ⟨1, start1.successor⟩, ⟨3, start2⟩, ⟨4, start2.successor⟩]

theorem lines?_eq : lines? (machine.transcript "t") = some (transcript.map String.ofList) := by
  have read : ((machine.transcript "t").toOption.bind fun bytes =>
      (Utf8.decodeFrom 0 bytes).toOption).map
        (fun characters => Text.linesFrom [] (Text.unifyLineBreaks characters)) =
          some transcript := by
    decide +kernel
  rw [Command.lines?_eq, ← Option.map_some, ← read, Option.map_map]
  rfl

theorem checkpoints_eq :
    Transcript.checkpoints (transcript.map String.ofList) = .ok checkpoints := by
  simp only [Transcript.checkpoints, Transcript.checkpointsFrom, transcript, List.map_cons,
    List.map_nil, Transcript.checkpoint?, String.toList_ofList]
  decide +kernel

theorem final?_eq : Transcript.final? (transcript.map String.ofList) = .ok none := by
  simp only [Transcript.final?, Transcript.finalFrom, transcript, List.map_cons, List.map_nil,
    String.toList_ofList]
  decide +kernel

theorem lower_eq : selected exponent 0 2 checkpoints =
    [⟨0, start1⟩, ⟨1, start1.successor⟩] := rfl

theorem upper_eq : selected exponent 2 lastNumber checkpoints =
    [⟨3, start2⟩, ⟨4, start2.successor⟩] := rfl

theorem lower_verified : Verified exponent 0 2 checkpoints none :=
  verified_of_step rfl (by decide) (by decide) lower_eq

theorem upper_verified : Verified exponent 2 lastNumber checkpoints none :=
  verified_of_step rfl (by decide) (by decide) upper_eq

theorem not_verified : ¬Verified exponent 0 lastNumber checkpoints none := by
  rw [verified_whole_iff lower_verified upper_verified, lower_eq, upper_eq]
  intro leads
  have across := leads ⟨1, start1.successor⟩ (by simp) ⟨3, start2⟩ (by simp)
  rw [Checkpoint.LeadsTo, ← Digest.advance_eq_iterate] at across
  exact absurd across (by decide +kernel)

def lower : List String := ["verify-chain", "-t", "t", "-n", "10", "--from", "0", "--to", "2"]

def upper : List String := ["verify-chain", "-t", "t", "-n", "10", "--from", "2"]

def whole : List String := ["verify-chain", "-t", "t", "-n", "10"]

theorem lower_asked : request? lower =
    some (.verifyChain { transcript := "t", exponent := 10, last? := some 2 }) := rfl

theorem upper_asked : request? upper =
    some (.verifyChain { transcript := "t", exponent := 10, first := 2 }) := rfl

theorem whole_asked : request? whole =
    some (.verifyChain { transcript := "t", exponent := 10 }) := rfl

theorem lower_exit : (machine.execute [] lower).1 = .exit 0 :=
  (execute_closed_iff rfl lines?_eq checkpoints_eq lower_asked).mpr lower_verified

theorem upper_exit : (machine.execute [] upper).1 = .exit 0 :=
  (execute_open_iff rfl lines?_eq checkpoints_eq upper_asked).mpr
    ⟨none, final?_eq, upper_verified⟩

end Torn

theorem shares_exit_zero_apart : ∃ exponent lines checkpoints,
    Exponent.ofDatum (.int 10) = .ok exponent ∧
      lines? (Torn.machine.transcript "t") = some lines ∧
      Transcript.checkpoints lines = .ok checkpoints ∧
      ((Torn.machine.execute [] Torn.whole).1 = .exit 0 ↔
        ∀ start ∈ selected exponent 0 2 checkpoints,
          ∀ stop ∈ selected exponent 2 lastNumber checkpoints, start.LeadsTo stop) ∧
      ((∃ shared ∈ checkpoints, (shared.index : Int) = 2 * exponent.interval) →
        (Torn.machine.execute [] Torn.whole).1 = .exit 0) :=
  shares_exit_zero Torn.lower_asked Torn.upper_asked Torn.whole_asked Torn.lower_exit
    Torn.upper_exit

/-- Without the checkpoint at the cut two shares can be in order and the whole transcript not. -/
theorem shares_exit_zero_torn : (Torn.machine.execute [] Torn.lower).1 = .exit 0 ∧
    (Torn.machine.execute [] Torn.upper).1 = .exit 0 ∧
    (Torn.machine.execute [] Torn.whole).1 ≠ .exit 0 := by
  refine ⟨Torn.lower_exit, Torn.upper_exit, ?_⟩
  rw [Ne, execute_open_iff rfl Torn.lines?_eq Torn.checkpoints_eq Torn.whole_asked]
  rintro ⟨final?, final_eq, verified⟩
  obtain rfl := Except.ok.inj (Torn.final?_eq.symm.trans final_eq)
  exact Torn.not_verified verified

end Command
end CommandLine
end BeaconCeremony

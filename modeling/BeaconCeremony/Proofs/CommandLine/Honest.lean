import BeaconCeremony.Proofs.Chain.States
import BeaconCeremony.Proofs.CommandLine.Reporting
import BeaconCeremony.Proofs.CommandLine.Shares
import BeaconCeremony.Proofs.Except

/-!
# Honest transcripts are found in order

Whatever the program has shown of a chain, it finds in order when it reads it again: any range of
checkpoints, and any range up to the final state.  The number of segments that it tells is the one
that the range has.
-/

namespace BeaconCeremony
namespace CommandLine
namespace Command

open BeaconCeremony.Report (Reports)
open Chain (Exponent)

section Ranges

variable {chain : Chain} {first last count : Nat} {final? : Option (Digest 32)}

theorem filter_range_between (first_le : first ≤ last) (last_lt : last < count) :
    (List.range count).filter (fun number => first ≤ number ∧ number ≤ last) =
      List.range' first (last - first + 1) := by
  have split : List.range count = List.range' 0 first ++
      (List.range' first (last - first + 1) ++ List.range' (last + 1) (count - last - 1)) := by
    have later : last + 1 = first + (last - first + 1) := by omega
    have whole : count = first + (last - first + 1 + (count - last - 1)) := by omega
    rw [later, List.range'_append_1]
    conv_lhs => rw [whole, List.range_eq_range', ← List.range'_append_1, Nat.zero_add]
  have before : (List.range' 0 first).filter
      (fun number => first ≤ number ∧ number ≤ last) = [] := by
    simp only [List.filter_eq_nil_iff, List.mem_range'_1, decide_eq_true_eq]
    omega
  have inside : (List.range' first (last - first + 1)).filter
      (fun number => first ≤ number ∧ number ≤ last) = List.range' first (last - first + 1) := by
    simp only [List.filter_eq_self, List.mem_range'_1, decide_eq_true_eq]
    omega
  have beyond : (List.range' (last + 1) (count - last - 1)).filter
      (fun number => first ≤ number ∧ number ≤ last) = [] := by
    simp only [List.filter_eq_nil_iff, List.mem_range'_1, decide_eq_true_eq]
    omega
  rw [split, List.filter_append, List.filter_append, before, inside, beyond, List.nil_append,
    List.append_nil]

/-- A range holds the checkpoints with its numbers. -/
theorem selected_definition (first_le : first ≤ last) (last_lt : last < Chain.checkpointCount) :
    selected chain.exponent first last chain.definition.checkpoints =
      (List.range' first (last - first + 1)).map chain.checkpointAt := by
  have chosen (number : Nat) : (decide ((first : Int) * chain.exponent.interval ≤
      (chain.checkpointAt number).index ∧
        ((chain.checkpointAt number).index : Int) ≤ last * chain.exponent.interval)) =
          decide (first ≤ number ∧ number ≤ last) := by
    refine decide_eq_decide.mpr (and_congr ?_ ?_)
    · exact (by exact_mod_cast Nat.mul_le_mul_right_iff chain.exponent.interval_pos)
    · exact (by exact_mod_cast Nat.mul_le_mul_right_iff chain.exponent.interval_pos)
  simp only [selected, Chain.definition, List.filter_map, Function.comp_def, chosen]
  rw [filter_range_between first_le last_lt]

theorem segmentCount_range' (checkpointAt : Nat → Checkpoint) :
    segmentCount ((List.range' first (last - first + 1)).map checkpointAt) final? =
      last - first + if final?.isSome then 1 else 0 := by
  have nonempty : ((List.range' first (last - first + 1)).map checkpointAt).isEmpty = false := by
    simp [List.isEmpty_eq_false_iff, List.range'_eq_nil_iff]
  rw [segmentCount, nonempty, List.length_map, List.length_range', Nat.add_sub_cancel,
    Bool.not_false, Bool.and_true]

theorem segmentCount_definition (first_le : first ≤ last) (last_lt : last < Chain.checkpointCount) :
    segmentCount (selected chain.exponent first last chain.definition.checkpoints) final? =
      last - first + if final?.isSome then 1 else 0 := by
  rw [selected_definition first_le last_lt, segmentCount_range']

/-- Every range of the checkpoints of a chain is in order, if there is a segment in it. -/
theorem verified_definition (first_le : first ≤ last) (last_lt : last < Chain.checkpointCount)
    (segment : 1 ≤ last - first + if final?.isSome then 1 else 0)
    (final_eq : ∀ final ∈ final?, final = chain.definition.final) :
    Verified chain.exponent first last chain.definition.checkpoints final? := by
  have numbers_lt : ∀ number ∈ List.range' first (last - first + 1),
      number < Chain.checkpointCount := by
    intro number member
    have := List.mem_range'_1.mp member
    omega
  have last_eq : lastNumber = (Chain.checkpointCount : Int) - 1 := rfl
  refine ⟨Int.natCast_nonneg _, Int.ofNat_le.mpr first_le, by omega, ?_, ?_⟩
  · rwa [segmentCount_definition first_le last_lt]
  · rw [selected_definition first_le last_lt]
    refine Chain.verify_eq_nil_iff.mpr ⟨fun checkpoint member => ?_,
      chain.consistent_checkpointAt numbers_lt final_eq⟩
    obtain ⟨number, number_mem, rfl⟩ := List.mem_map.mp member
    exact chain.onGrid_checkpointAt (numbers_lt number number_mem)

end Ranges

section Commands

variable {environment : Environment} {machine after : Machine} {exponent : Exponent}
  {checkpoints : List Checkpoint} {final? : Option (Digest 32)}

/-- What is told of a range that is in order. -/
def confirmation (segments : Nat) : String := s!"OK: {segments} segments verified"

theorem no_escape_confirmation (segments : Nat) : '\x1b' ∉ (confirmation segments).toList := by
  have opening : '\x1b' ∉ ("OK: " : String).toList := by decide
  have closing : '\x1b' ∉ (" segments verified" : String).toList := by decide
  have digits : '\x1b' ∉ (toString segments).toList := by
    rw [Nat.toString_eq_ofList_toDigits, String.toList_ofList]
    exact (Text.ink_toDigits segments).tame.no_escape
  simp only [confirmation, String.toList_append, List.mem_append, not_or]
  exact ⟨⟨opening, digits⟩, closing⟩

theorem returns_verifyRange {first last : Int}
    (verified : Verified exponent first last checkpoints final?) :
    Returns (verifyRange (Machine.system environment) exponent first last checkpoints final?)
      machine ()
      { machine with
        shown := confirmation (segmentCount (selected exponent first last checkpoints) final?) ::
          machine.shown } := by
  have accepted := range_accepted_iff.mpr
    ⟨verified.first_nonneg, verified.first_le, verified.last_le⟩
  have segment := verified.segment
  rw [verifyRange, if_neg (Bool.eq_false_iff.mp accepted)]
  dsimp only
  rw [if_neg (by omega)]
  simp only [returns_bind_iff, returns_orReject_iff]
  refine ⟨[], machine, ⟨verified.clean, rfl⟩, (), machine, rfl, ?_⟩
  have said := @returns_say environment machine
    (confirmation (segmentCount (selected exponent first last checkpoints) final?))
  rwa [Text.withoutControls_eq_self (no_escape_confirmation _)] at said

/-- Verifying a transcript that is in order ends with the confirmation. -/
theorem returns_verifyChain (request : VerifyRequest) {lines : List String}
    (exponent_eq : Exponent.ofDatum (.int request.exponent) = .ok exponent)
    (lines_eq : lines? (machine.transcript request.transcript) = some lines)
    (checkpoints_eq : Transcript.checkpoints lines = .ok checkpoints)
    (final_eq : finalOf request.last? lines = .ok final?)
    (verified : Verified exponent request.first (request.last?.getD lastNumber) checkpoints
      final?) :
    ∃ after, Returns (verifyChain (Machine.system environment) request) machine () after ∧
      after.shown = confirmation (segmentCount (selected exponent request.first
        (request.last?.getD lastNumber) checkpoints) final?) :: machine.shown := by
  have same_shown := machine.shown_afterReading request.transcript
  refine ⟨{ machine.afterReading request.transcript with
    shown := confirmation (segmentCount (selected exponent request.first
      (request.last?.getD lastNumber) checkpoints) final?) ::
        (machine.afterReading request.transcript).shown }, ?_, congrArg (_ :: ·) same_shown⟩
  rw [verifyChain_eq]
  simp only [returns_bind_iff, returns_orReject_iff, returns_readTranscript_iff,
    returns_transcriptPart_iff]
  exact ⟨exponent, _, ⟨exponent_eq, rfl⟩, lines, _, ⟨lines_eq, rfl⟩, checkpoints, _,
    ⟨checkpoints_eq, rfl⟩, final?, _, ⟨final_eq, rfl⟩, returns_verifyRange verified⟩

theorem execute_of_returns {arguments : List String} {request : Request}
    (asked : request? arguments = some request)
    (returned : Returns (perform (Machine.system environment) request) machine () after) :
    machine.execute environment arguments = (.exit 0, after) := by
  rw [execute_eq asked, returned]

theorem loud_beacon (request : BeaconRequest) :
    Loud (beacon (Machine.system environment) request) := by
  refine Loud.bind (.bind (loud_lift _) fun loaded => ?_) fun config =>
    (loud_orReject _).bind fun found => .bind (loud_lift _) fun outcome => ?_
  · cases loaded.bind fun config => (overrides request config).check with
    | ok config => exact loud_pure config
    | error error =>
        dsimp only
        split
        · exact loud_reject
        · exact loud_throw nofun
  · obtain ⟨failure | receipt, pipeline⟩ := outcome
    · exact loud_rejectFailure failure
    · exact loud_pure ()

/-- The program ends with code zero and tells how many segments have been verified. -/
def Confirms (environment : Environment) (machine : Machine) (arguments : List String)
    (segments : Nat) : Prop :=
  (machine.execute environment arguments).1 = .exit 0 ∧
    (machine.execute environment arguments).2.shown =
      s!"OK: {segments} segments verified" :: machine.shown

/-- The texts that the program shows of a chain with the given exponent and all its checkpoints: by
running the chain of any 32 bytes alone, or by a contribution that comes to its end and whose paths
have no line breaks. -/
inductive Honest (number : Int) : String → Prop
  | seed {environment : Environment} {machine : Machine} {arguments : List String}
      {characters : List Char} {beacon : Digest 32} (spells : Hex.Spells characters beacon.bytes)
      (bounds : 10 ≤ number ∧ number ≤ 63)
      (asked : request? arguments = some (.seed
        { beacon := String.ofList characters, exponent := number, quiet := false }))
      (nothing_shown : machine.shown = []) :
      Honest number (machine.execute environment arguments).2.output
  | beacon {environment : Environment} {machine between : Machine} {arguments : List String}
      {request : BeaconRequest} {config : Config}
      (asked : request? arguments = some (.beacon request))
      (exponent_eq : request.exponent = number)
      (configured : Returns (configure (Machine.system environment) request) machine config between)
      (loud : config.isQuiet = false) (input_unbroken : config.inputPath.Unbroken)
      (output_unbroken : config.outputPath.Unbroken) (nothing_shown : machine.shown = [])
      (succeeded : (machine.execute environment arguments).1 = .exit 0) :
      Honest number (machine.execute environment arguments).2.output

/-- An honest text is what has been shown of a chain. -/
theorem Honest.exists_reports {number : Int} {text : String} (honest : Honest number text) :
    ∃ chain shown, Exponent.ofDatum (.int number) = .ok chain.exponent ∧ Reports chain shown ∧
      text = String.ofList (Text.joined (shown.reverse.map String.toList)) := by
  have exponent_of_parsed {beacon : Datum} {chain : Chain}
      (parsed : Chain.ofHex Datum.usualDepth beacon (.int number) = .ok chain) :
      Exponent.ofDatum (.int number) = .ok chain.exponent := by
    obtain ⟨exponent, exponent_eq, parsed⟩ := exists_of_bind_eq_ok parsed
    obtain ⟨beacon, -, parsed⟩ := exists_of_bind_eq_ok parsed
    obtain rfl := Except.ok.inj parsed
    exact eq_ok_of_mapError_eq_ok exponent_eq
  cases honest with
  | @seed environment machine arguments characters beacon spells bounds asked nothing_shown =>
      obtain ⟨value, rfl⟩ := Int.eq_ofNat_of_zero_le (show 0 ≤ number by omega)
      have least : 10 ≤ value := by omega
      have greatest : value ≤ 63 := by omega
      have parsed :=
        Chain.ofHex_of_spells Datum.usualDepth ⟨beacon, ⟨value, least, greatest⟩⟩ spells
      obtain ⟨after, returned, reports⟩ := @returns_seed environment machine
        { beacon := String.ofList characters, exponent := value, quiet := false } _ parsed rfl
        nothing_shown
      refine ⟨_, after.shown, exponent_of_parsed parsed, reports, ?_⟩
      rw [execute_of_returns asked returned, Machine.output]
  | @beacon environment machine between arguments request config asked exponent_eq configured loud
      input_unbroken output_unbroken nothing_shown succeeded =>
      obtain ⟨after, returned⟩ :=
        (execute_eq_exit_zero_iff asked (loud_beacon request)).mp succeeded
      obtain ⟨chain, parsed, reports⟩ := reports_of_returns_beacon nothing_shown returned configured
        loud input_unbroken output_unbroken
      subst exponent_eq
      refine ⟨chain, after.shown, exponent_of_parsed parsed, reports, ?_⟩
      rw [execute_of_returns asked returned, Machine.output]

/-- Whatever else is in an honest text, the checkpoints and the final state of the chain are read
from it. -/
theorem read_of_reports {chain : Chain} {shown : List String} (reports : Reports chain shown) :
    ∃ lines, lines? (.ok (Utf8.encode
        (String.ofList (Text.joined (shown.reverse.map String.toList))))) = some lines ∧
      Transcript.checkpoints lines = .ok chain.definition.checkpoints ∧
      Transcript.final? lines = .ok (some chain.definition.final) := by
  obtain ⟨front, back, text_eq, front_fine, back_fine⟩ := reports.exists_lines
  have unbroken : ∀ line ∈ Transcript.reportLines front chain.definition.checkpoints
      chain.definition.final back, Text.Unbroken line := by
    intro line member
    rcases List.mem_append.mp member with before | member
    · exact (front_fine line before).1
    rcases List.mem_append.mp member with among | member
    · obtain ⟨checkpoint, -, rfl⟩ := List.mem_map.mp among
      exact (Report.tame_checkpointCharacters checkpoint).unbroken
    rcases List.mem_cons.mp member with rfl | behind
    · exact (Report.tame_finalCharacters _).unbroken
    · exact (back_fine line behind).1
  refine ⟨(Transcript.reportLines front chain.definition.checkpoints
    chain.definition.final back).map String.ofList, ?_, ?_, ?_⟩
  · rw [text_eq]
    exact lines?_encode_joined unbroken
  · exact Transcript.checkpoints_reportLines (fun line member => (front_fine line member).2.1)
      (fun line member => (back_fine line member).2) fun _ => Report.short_of_mem_definition
  · exact Transcript.final?_reportLines fun line member => (front_fine line member).2.2

/-- Honest transcripts are found in order.  Between two checkpoints there are as many segments as
their numbers are apart, and from a checkpoint to the end of the chain there are those up to the
last checkpoint and one more. -/
theorem honest_confirmed {number : Int} {text path : String} {first : Nat}
    (honest : Honest number text) (stored : machine.transcript path = .ok (Utf8.encode text)) :
    (∀ last : Nat, first < last → last ≤ 1023 → ∀ arguments, request? arguments = some (.verifyChain
        { transcript := path, exponent := number, first := first, last? := some ↑last }) →
      Confirms environment machine arguments (last - first)) ∧
    (first ≤ 1023 → ∀ arguments, request? arguments =
        some (.verifyChain { transcript := path, exponent := number, first := first }) →
      Confirms environment machine arguments (1024 - first)) := by
  obtain ⟨chain, shown, exponent_eq, reports, rfl⟩ := honest.exists_reports
  obtain ⟨lines, lines_eq, checkpoints_eq, final_eq⟩ := read_of_reports reports
  rw [← stored] at lines_eq
  constructor
  · intro last first_lt last_le arguments asked
    have last_lt : last < Chain.checkpointCount := Nat.lt_succ_of_le last_le
    have segments : segmentCount (selected chain.exponent first last chain.definition.checkpoints)
        none = last - first := segmentCount_definition first_lt.le last_lt
    have verified : Verified chain.exponent first last chain.definition.checkpoints none :=
      verified_definition first_lt.le last_lt (Nat.sub_pos_of_lt first_lt) nofun
    obtain ⟨after, returned, shown_eq⟩ := returns_verifyChain
      { transcript := path, exponent := number, first := first, last? := some last } exponent_eq
      lines_eq checkpoints_eq rfl verified
    rw [Confirms, execute_of_returns asked returned]
    refine ⟨rfl, ?_⟩
    rw [← segments]
    exact shown_eq
  · intro first_le arguments asked
    have last_lt : 1023 < Chain.checkpointCount := by decide
    have segments : segmentCount (selected chain.exponent first lastNumber
        chain.definition.checkpoints) (some chain.definition.final) = 1024 - first := by
      refine (segmentCount_definition first_le last_lt).trans ?_
      simp only [Option.isSome_some, if_true]
      omega
    have verified : Verified chain.exponent first lastNumber chain.definition.checkpoints
        (some chain.definition.final) :=
      verified_definition first_le last_lt (Nat.le_add_left _ _)
        fun final same => (Option.some.inj same).symm
    obtain ⟨after, returned, shown_eq⟩ := returns_verifyChain
      { transcript := path, exponent := number, first := first } exponent_eq lines_eq
      checkpoints_eq final_eq verified
    rw [Confirms, execute_of_returns asked returned]
    refine ⟨rfl, ?_⟩
    rw [← segments]
    exact shown_eq

end Commands

/-- The text that is shown of the shortest chain of a state is verified between two checkpoints and
up to the final state. -/
theorem honest_confirmed_seed :
    let runner : Machine := { storage := Storage.fresh "home" }
    let beacon : Digest 32 := ⟨List.replicate 32 0xff, List.length_replicate⟩
    let text := (runner.execute []
      ["seed", "-h", Hex.encode beacon.bytes, "-n", "10"]).2.output
    let machine : Machine := { storage := Storage.fresh "home", input := Utf8.encode text }
    Honest 10 text ∧ machine.transcript "-" = .ok (Utf8.encode text) ∧
      Confirms [] machine ["verify-chain", "-t", "-", "-n", "10", "--from", "3", "--to", "5"] 2 ∧
      Confirms [] machine ["verify-chain", "-t", "-", "-n", "10", "--from", "1000"] 24 := by
  intro runner beacon text machine
  have asked : request? ["seed", "-h", Hex.encode beacon.bytes, "-n", "10"] = some (.seed
      { beacon := Hex.encode beacon.bytes, exponent := 10, quiet := false }) := by
    decide +kernel
  have closed_asked : request?
      ["verify-chain", "-t", "-", "-n", "10", "--from", "3", "--to", "5"] = some (.verifyChain
        { transcript := "-", exponent := 10, first := (3 : Nat), last? := some ↑(5 : Nat) }) := by
    decide +kernel
  have open_asked : request? ["verify-chain", "-t", "-", "-n", "10", "--from", "1000"] =
      some (.verifyChain { transcript := "-", exponent := 10, first := (1000 : Nat) }) := by
    decide +kernel
  have honest : Honest 10 text :=
    .seed (Hex.spells_encodeChars beacon.bytes) (by decide) asked rfl
  -- What the text is in full does not matter from here on.
  clear_value text
  have stored : machine.transcript "-" = .ok (Utf8.encode text) := if_pos rfl
  have closed_confirmed := (@honest_confirmed [] machine 10 text "-" 3 honest stored).1 5
    (by decide) (by decide) _ closed_asked
  have open_confirmed := (@honest_confirmed [] machine 10 text "-" 1000 honest stored).2
    (by decide) _ open_asked
  exact ⟨honest, stored, closed_confirmed, open_confirmed⟩

end Command
end CommandLine
end BeaconCeremony

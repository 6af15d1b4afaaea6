import BeaconCeremony.Proofs.Chain.Verification
import BeaconCeremony.Proofs.CommandLine.Command

/-!
# What exit code zero says about a transcript

A verification exits with code zero exactly if the transcript can be read, the range holds at least
one segment and every segment in it matches.
-/

namespace BeaconCeremony
namespace CommandLine
namespace Command

open Chain (Exponent)

/-- The final state is looked for only if the range is open. -/
def finalOf (last? : Option Int) (lines : List String) :
    Except Transcript.Error (Option (Digest 32)) :=
  if last?.isNone then Transcript.final? lines else .ok none

/-- A range of checkpoints that passes verification. -/
structure Verified (exponent : Exponent) (first last : Int) (checkpoints : List Checkpoint)
    (final? : Option (Digest 32)) : Prop where
  first_nonneg : 0 ≤ first
  first_le : first ≤ last
  last_le : last ≤ lastNumber
  /-- There is something to verify. -/
  segment : 1 ≤ segmentCount (selected exponent first last checkpoints) final?
  clean : Chain.verify (selected exponent first last checkpoints) exponent
    (final?.map Digest.bytes) = .ok []

variable {system : System (StateM Machine)} {environment : Environment} {machine : Machine}
  {exponent : Exponent} {first last : Int} {checkpoints : List Checkpoint}
  {final? : Option (Digest 32)}

theorem Verified.onGrid (verified : Verified exponent first last checkpoints final?) :
    ∀ checkpoint ∈ selected exponent first last checkpoints,
      exponent.onGrid checkpoint.index = true :=
  (Chain.verify_eq_nil_iff.mp verified.clean).1

theorem Verified.consistent (verified : Verified exponent first last checkpoints final?) :
    Chain.Consistent exponent (selected exponent first last checkpoints) final? :=
  (Chain.verify_eq_nil_iff.mp verified.clean).2

theorem verifyChain_eq (request : VerifyRequest) :
    verifyChain system request = (do
      let exponent ← orReject system CeremonyError.message
        (Exponent.ofDatum (.int request.exponent))
      let lines ← readTranscript system request.transcript
      let checkpoints ← transcriptPart system (Transcript.checkpoints lines)
      let final? ← transcriptPart system (finalOf request.last? lines)
      verifyRange system exponent request.first (request.last?.getD lastNumber) checkpoints
        final?) := by
  cases last_eq : request.last? with
  | none =>
      simp only [verifyChain, finalOf, last_eq]
      rfl
  | some last =>
      simp only [verifyChain, finalOf, last_eq]
      rfl

theorem range_accepted_iff : (!(0 ≤ first && first ≤ last && last ≤ lastNumber)) = false ↔
    0 ≤ first ∧ first ≤ last ∧ last ≤ lastNumber := by
  simp [and_assoc]

theorem exists_returns_verifyRange_iff :
    (∃ after, Returns (verifyRange (Machine.system environment) exponent first last checkpoints
      final?) machine () after) ↔ Verified exponent first last checkpoints final? := by
  rw [verifyRange]
  split
  · rename_i refused
    refine iff_of_false (fun ⟨_, returned⟩ => not_returns_reject returned) fun verified => ?_
    have accepted := range_accepted_iff.mpr
      ⟨verified.first_nonneg, verified.first_le, verified.last_le⟩
    rw [refused] at accepted
    contradiction
  · rename_i accepted
    obtain ⟨first_nonneg, first_le, last_le⟩ :=
      range_accepted_iff.mp (Bool.eq_false_iff.mpr accepted)
    dsimp only
    split
    · rename_i nothing
      refine iff_of_false (fun ⟨_, returned⟩ => not_returns_reject returned) fun verified => ?_
      have segment := verified.segment
      omega
    · rename_i something
      simp only [returns_bind_iff, returns_orReject_iff]
      constructor
      · rintro ⟨after, mismatches, between, ⟨clean, rfl⟩, _, middle, _, returned⟩
        cases mismatches with
        | nil => exact ⟨first_nonneg, first_le, last_le, by omega, clean⟩
        | cons mismatch mismatches => exact absurd returned not_returns_reject
      · intro verified
        exact ⟨_, [], machine, ⟨verified.clean, rfl⟩, (), machine, rfl, returns_say _⟩

theorem loud_verifyRange : Loud (verifyRange system exponent first last checkpoints final?) := by
  rw [verifyRange]
  split
  · exact loud_reject
  · dsimp only
    split
    · exact loud_reject
    · refine (loud_orReject _).bind fun mismatches => ?_
      refine (loud_forM fun mismatch => loud_say _).bind fun _ => ?_
      split
      · exact loud_say _
      · exact loud_reject

theorem loud_verifyChain (request : VerifyRequest) : Loud (verifyChain system request) := by
  rw [verifyChain_eq]
  refine (loud_orReject _).bind fun exponent => ?_
  refine (loud_readTranscript _).bind fun lines => ?_
  refine (loud_transcriptPart _).bind fun checkpoints => ?_
  refine (loud_transcriptPart _).bind fun final? => ?_
  exact loud_verifyRange

theorem exists_returns_verifyChain_iff {request : VerifyRequest} :
    (∃ after, Returns (verifyChain (Machine.system environment) request) machine () after) ↔
      ∃ exponent lines checkpoints final?,
        Exponent.ofDatum (.int request.exponent) = .ok exponent ∧
        lines? (machine.transcript request.transcript) = some lines ∧
        Transcript.checkpoints lines = .ok checkpoints ∧
        finalOf request.last? lines = .ok final? ∧
        Verified exponent request.first (request.last?.getD lastNumber) checkpoints final? := by
  simp only [verifyChain_eq, returns_bind_iff, returns_orReject_iff, returns_readTranscript_iff,
    returns_transcriptPart_iff]
  constructor
  · rintro ⟨after, exponent, _, ⟨exponent_eq, rfl⟩, lines, _, ⟨lines_eq, rfl⟩, checkpoints, _,
      ⟨checkpoints_eq, rfl⟩, final?, _, ⟨final_eq, rfl⟩, returned⟩
    exact ⟨exponent, lines, checkpoints, final?, exponent_eq, lines_eq, checkpoints_eq, final_eq,
      exists_returns_verifyRange_iff.mp ⟨after, returned⟩⟩
  · rintro ⟨exponent, lines, checkpoints, final?, exponent_eq, lines_eq, checkpoints_eq, final_eq,
      verified⟩
    obtain ⟨after, returned⟩ := exists_returns_verifyRange_iff.mpr verified
    exact ⟨after, exponent, _, ⟨exponent_eq, rfl⟩, lines, _, ⟨lines_eq, rfl⟩, checkpoints, _,
      ⟨checkpoints_eq, rfl⟩, final?, _, ⟨final_eq, rfl⟩, returned⟩

theorem execute_verifyChain_iff {arguments : List String} {request : VerifyRequest}
    (asked : request? arguments = some (.verifyChain request)) :
    (machine.execute environment arguments).1 = .exit 0 ↔
      ∃ exponent lines checkpoints final?,
        Exponent.ofDatum (.int request.exponent) = .ok exponent ∧
        lines? (machine.transcript request.transcript) = some lines ∧
        Transcript.checkpoints lines = .ok checkpoints ∧
        finalOf request.last? lines = .ok final? ∧
        Verified exponent request.first (request.last?.getD lastNumber) checkpoints final? :=
  (execute_eq_exit_zero_iff asked (loud_verifyChain request)).trans exists_returns_verifyChain_iff

theorem execute_verifyChain_iff_of_read {arguments lines : List String} {request : VerifyRequest}
    (asked : request? arguments = some (.verifyChain request))
    (exponent_eq : Exponent.ofDatum (.int request.exponent) = .ok exponent)
    (lines_eq : lines? (machine.transcript request.transcript) = some lines)
    (checkpoints_eq : Transcript.checkpoints lines = .ok checkpoints) :
    (machine.execute environment arguments).1 = .exit 0 ↔
      ∃ final?, finalOf request.last? lines = .ok final? ∧
        Verified exponent request.first (request.last?.getD lastNumber) checkpoints final? := by
  rw [execute_verifyChain_iff asked]
  constructor
  · rintro ⟨exponent', lines', checkpoints', final?, exponent_eq', lines_eq', checkpoints_eq', rest⟩
    obtain rfl := Except.ok.inj (exponent_eq.symm.trans exponent_eq')
    obtain rfl := Option.some.inj (lines_eq.symm.trans lines_eq')
    obtain rfl := Except.ok.inj (checkpoints_eq.symm.trans checkpoints_eq')
    exact ⟨final?, rest⟩
  · rintro ⟨final?, rest⟩
    exact ⟨exponent, lines, checkpoints, final?, exponent_eq, lines_eq, checkpoints_eq, rest⟩

section Read

variable {arguments lines : List String} {number : Int} {path : String}
  (exponent_eq : Exponent.ofDatum (.int number) = .ok exponent)
  (lines_eq : lines? (machine.transcript path) = some lines)
  (checkpoints_eq : Transcript.checkpoints lines = .ok checkpoints)

include exponent_eq lines_eq checkpoints_eq

/-- A range that ends at a checkpoint is verified without the final state. -/
theorem execute_closed_iff
    (asked : request? arguments = some (.verifyChain
      { transcript := path, exponent := number, first := first, last? := some last })) :
    (machine.execute environment arguments).1 = .exit 0 ↔
      Verified exponent first last checkpoints none := by
  rw [execute_verifyChain_iff_of_read asked exponent_eq lines_eq checkpoints_eq]
  simp [finalOf]

/-- A range that is open is verified up to the final state, if there is one. -/
theorem execute_open_iff
    (asked : request? arguments = some (.verifyChain
      { transcript := path, exponent := number, first := first })) :
    (machine.execute environment arguments).1 = .exit 0 ↔
      ∃ final?, Transcript.final? lines = .ok final? ∧
        Verified exponent first lastNumber checkpoints final? := by
  rw [execute_verifyChain_iff_of_read asked exponent_eq lines_eq checkpoints_eq]
  simp [finalOf]

end Read

end Command
end CommandLine
end BeaconCeremony

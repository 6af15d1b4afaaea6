import BeaconCeremony.Proofs.CommandLine.Honest
import BeaconCeremony.Proofs.CommandLine.Whole
import BeaconCeremony.Proofs.Transcript.Outcome

/-!
# What a verification reports

A verification ends with the confirmation, or with a message on the standard error and exit code
one, or by a failure that it does not report.  Its steps come out in these three ways one after the
other.  Only the reading of the transcript has the third one: a file that is not opened for a reason
other than one of the operating system, and an index with too many digits.
-/

namespace BeaconCeremony

namespace Transcript

/-- The final state is refused only with the number of its line. -/
theorem exists_malformed_of_finalFrom {lineNumber : Nat} {lines : List String} {error : Error}
    (refused : finalFrom lineNumber lines = .error error) :
    ∃ lineNumber line reason, error = .malformed lineNumber line reason := by
  induction lines generalizing lineNumber with
  | nil => contradiction
  | cons line lines ih =>
      rw [finalFrom] at refused
      split at refused
      · split at refused
        · contradiction
        · exact ⟨_, _, _, (Except.error.inj refused).symm⟩
      · exact ih refused

end Transcript

namespace CommandLine
namespace Command

open Chain (Exponent)

variable {α β : Type}

/-- How a command comes out: it returns without a message on the standard error, or it exits with
code one after such a message, or it is ended by a failure. -/
inductive Settles (command : Command (StateM Machine) α) (machine : Machine)
    (returned : α → Machine → Prop) (unreported : Failure → Prop) : Prop
  | returns {value : α} {after : Machine} (runs : Returns command machine value after)
      (quiet : after.complaints = machine.complaints) (holds : returned value after)
  | rejects {message : String} {after : Machine}
      (runs : command.run.run machine = (.error (.exit 1), after))
      (told : after.complaints = message :: machine.complaints)
  | escapes {failure : Failure} {after : Machine}
      (runs : command.run.run machine = (.error (.escaped failure), after))
      (holds : unreported failure)

section Laws

variable {command : Command (StateM Machine) α} {machine : Machine}
  {between : α → Machine → Prop} {returned : β → Machine → Prop} {unreported : Failure → Prop}

/-- The next command goes on where this one has returned. -/
theorem Settles.bind {next : α → Command (StateM Machine) β}
    (first : Settles command machine between unreported)
    (second : ∀ value after, between value after → Settles (next value) after returned unreported) :
    Settles (command >>= next) machine returned unreported := by
  cases first with
  | returns runs quiet holds =>
      have goes_on := run_bind_of_returns runs next
      cases second _ _ holds with
      | returns runs' quiet' holds' =>
          exact .returns (goes_on.trans runs') (quiet'.trans quiet) holds'
      | rejects runs' told => exact .rejects (goes_on.trans runs') (quiet ▸ told)
      | escapes runs' holds' => exact .escapes (goes_on.trans runs') holds'
  | rejects runs told => exact .rejects (run_bind_of_ends runs next) told
  | escapes runs holds => exact .escapes (run_bind_of_ends runs next) holds

theorem Settles.imp {more : Failure → Prop} (settles : Settles command machine between unreported)
    (implies : ∀ failure, unreported failure → more failure) :
    Settles command machine between more := by
  cases settles with
  | returns runs quiet holds => exact .returns runs quiet holds
  | rejects runs told => exact .rejects runs told
  | escapes runs holds => exact .escapes runs (implies _ holds)

/-- A command that is ended by a failure is ended by one that it does not report. -/
theorem Settles.holds_of_escaped {failure : Failure} {after : Machine}
    (settles : Settles command machine between unreported)
    (runs : command.run.run machine = (.error (.escaped failure), after)) : unreported failure := by
  cases settles with
  | returns runs' => cases runs.symm.trans runs'
  | rejects runs' => cases runs.symm.trans runs'
  | escapes runs' holds =>
      cases runs.symm.trans runs'
      exact holds

end Laws

/-! ## The steps of a verification -/

section Steps

variable {environment : Environment} {machine : Machine} {unreported : Failure → Prop}
  {returned : α → Machine → Prop}

theorem settles_reject (message : RawText) :
    Settles (reject (Machine.system environment) message) machine returned unreported :=
  .rejects rfl rfl

theorem settles_orReject {ε : Type} (describe : ε → RawText) (result : Except ε α) :
    Settles (orReject (Machine.system environment) describe result) machine
      (fun value after => result = .ok value ∧ machine = after) unreported := by
  cases result with
  | ok value => exact .returns rfl rfl ⟨rfl, rfl⟩
  | error error => exact settles_reject (describe error)

/-- The bytes of a transcript are not there, for a reason other than one of the operating system. -/
def Unopened (content : Except Failure Bytes) (failure : Failure) : Prop :=
  content = .error failure ∧ ∀ error, failure ≠ .system error

theorem settles_transcriptLines (path : String) (content : Except Failure Bytes) :
    Settles (transcriptLines (Machine.system environment) path content) machine
      (fun lines after => lines? content = some lines ∧ machine = after) (Unopened content) := by
  cases content with
  | ok bytes =>
      refine (settles_orReject _ _).bind ?_
      rintro text _ ⟨decoded, rfl⟩
      exact .returns rfl rfl ⟨by simp [lines?, Except.toOption, decoded], rfl⟩
  | error failure =>
      cases failure with
      | system error => exact settles_reject _
      | _ => exact .escapes rfl ⟨rfl, fun error same => by cases same⟩

theorem settles_readTranscript (path : String) :
    Settles (readTranscript (Machine.system environment) path) machine
      (fun lines after => lines? (machine.transcript path) = some lines ∧
        machine.afterReading path = after) (Unopened (machine.transcript path)) := by
  rw [readTranscript_eq]
  by_cases input : path = "-"
  · rw [if_pos input, Machine.transcript, if_pos input, Machine.afterReading, if_pos input]
    have fetched : Settles (liftM (Machine.system environment).readInput) machine
        (fun content after => content = .ok machine.input ∧ { machine with input := [] } = after)
        (Unopened (.ok machine.input)) := .returns rfl rfl ⟨rfl, rfl⟩
    refine fetched.bind ?_
    rintro _ _ ⟨rfl, rfl⟩
    exact settles_transcriptLines path _
  · rw [if_neg input, Machine.transcript, if_neg input, Machine.afterReading, if_neg input]
    have fetched : Settles (liftM ((Machine.system environment).readFile path)) machine
        (fun content after => content = machine.storage.content path ∧ machine = after)
        (Unopened (machine.storage.content path)) := .returns rfl rfl ⟨rfl, rfl⟩
    refine fetched.bind ?_
    rintro _ _ ⟨rfl, rfl⟩
    exact settles_transcriptLines path _

/-- An index has too many digits. -/
def TooLong (result : Except Transcript.Error α) (failure : Failure) : Prop :=
  ∃ count, result = .error (.longIndex count) ∧ failure = .value (Text.tooManyDigits count)

theorem settles_transcriptPart (result : Except Transcript.Error α) :
    Settles (transcriptPart (Machine.system environment) result) machine
      (fun value after => result = .ok value ∧ machine = after) (TooLong result) := by
  cases result with
  | ok value => exact .returns rfl rfl ⟨rfl, rfl⟩
  | error error =>
      cases error with
      | malformed lineNumber line reason => exact settles_reject _
      | longIndex count => exact .escapes rfl ⟨count, rfl, rfl⟩

theorem not_tooLong_finalOf {last? : Option Int} {lines : List String} {failure : Failure} :
    ¬TooLong (finalOf last? lines) failure := by
  rintro ⟨count, refused, -⟩
  rw [finalOf] at refused
  split at refused
  · obtain ⟨_, _, _, malformed⟩ := Transcript.exists_malformed_of_finalFrom refused
    contradiction
  · contradiction

/-- Once a transcript has been read, nothing goes unreported. -/
theorem settles_verifyRange {exponent : Exponent} {first last : Int}
    {checkpoints : List Checkpoint} {final? : Option (Digest 32)} :
    Settles (verifyRange (Machine.system environment) exponent first last checkpoints final?)
      machine
      (fun _ after => ∃ segments, after.shown = confirmation segments :: machine.shown)
      unreported := by
  rw [verifyRange]
  split
  · exact settles_reject _
  dsimp only
  split
  · exact settles_reject _
  refine (settles_orReject _ _).bind ?_
  rintro mismatches _ ⟨-, rfl⟩
  have shows : Settles (mismatches.forM fun mismatch =>
      say (Machine.system environment) mismatch.message) machine
      (fun _ after => mismatches = [] → machine = after) unreported := by
    refine .returns (returns_forM_say mismatches (fun mismatch => mismatch.message.start) machine)
      rfl fun none_left => ?_
    rw [none_left]
    rfl
  refine shows.bind fun _ after same => ?_
  split
  · rename_i all_match
    obtain rfl := same (List.isEmpty_iff.mp all_match)
    refine .returns (returns_say _) rfl
      ⟨segmentCount (selected exponent first last checkpoints) final?, ?_⟩
    exact congrArg (· :: machine.shown) (Text.withoutControls_eq_self (no_escape_confirmation _))
  · exact settles_reject _

end Steps

/-! ## Whole verifications -/

/-- A failure that is not reported: of a transcript that is not opened, or about an index that has
too many digits and is the first thing to be refused in the transcript. -/
inductive Unreported (machine : Machine) (path : String) : Failure → Prop
  | unopened {failure : Failure} (content_eq : machine.transcript path = .error failure)
      (not_system : ∀ error, failure ≠ .system error) : Unreported machine path failure
  | longIndex {lines : List String} {count : Nat}
      (lines_eq : lines? (machine.transcript path) = some lines)
      (checkpoints_eq : Transcript.checkpoints lines = .error (.longIndex count)) :
      Unreported machine path (.value (Text.tooManyDigits count))

section Verifications

variable {environment : Environment} {machine : Machine}

theorem settles_verifyChain (request : VerifyRequest) :
    Settles (verifyChain (Machine.system environment) request) machine
      (fun _ after => ∃ segments, after.shown = confirmation segments :: machine.shown)
      (fun failure => (10 ≤ request.exponent ∧ request.exponent ≤ 63) ∧
        Unreported machine request.transcript failure) := by
  rw [verifyChain_eq]
  refine (settles_orReject _ _).bind ?_
  rintro exponent _ ⟨exponent_eq, rfl⟩
  have in_range := Chain.exists_ofDatum_iff.mp ⟨exponent, exponent_eq⟩
  refine ((settles_readTranscript _).imp ?unopened).bind ?_
  case unopened =>
    rintro failure ⟨content_eq, not_system⟩
    exact ⟨in_range, .unopened content_eq not_system⟩
  rintro lines _ ⟨lines_eq, rfl⟩
  refine ((settles_transcriptPart _).imp ?longIndex).bind ?_
  case longIndex =>
    rintro failure ⟨count, checkpoints_eq, rfl⟩
    exact ⟨in_range, .longIndex lines_eq checkpoints_eq⟩
  rintro checkpoints _ ⟨-, rfl⟩
  refine ((settles_transcriptPart _).imp ?final).bind ?_
  case final => exact fun failure tooLong => absurd tooLong not_tooLong_finalOf
  rintro final? _ ⟨-, rfl⟩
  rw [← machine.shown_afterReading request.transcript]
  exact settles_verifyRange

theorem run_readTranscript_of_unopened {path : String} {failure : Failure}
    (content_eq : machine.transcript path = .error failure)
    (not_system : ∀ error, failure ≠ .system error) :
    (readTranscript (Machine.system environment) path).run.run machine =
      (.error (.escaped failure), machine) := by
  have no_input : path ≠ "-" := by
    rintro rfl
    contradiction
  rw [Machine.transcript, if_neg no_input] at content_eq
  have fetched : Returns (liftM ((Machine.system environment).readFile path)) machine
      (.error failure) machine := congrArg (fun content => (Except.ok content, machine)) content_eq
  rw [readTranscript_eq, if_neg no_input, run_bind_of_returns fetched]
  cases failure with
  | system error => exact absurd rfl (not_system error)
  | _ => rfl

/-- These failures do end a verification. -/
theorem execute_of_unreported {arguments : List String} {request : VerifyRequest}
    {failure : Failure} (asked : request? arguments = some (.verifyChain request))
    (in_range : 10 ≤ request.exponent ∧ request.exponent ≤ 63)
    (unreported : Unreported machine request.transcript failure) :
    (machine.execute environment arguments).1 = .escaped failure := by
  obtain ⟨exponent, exponent_eq⟩ := Chain.exists_ofDatum_iff.mpr in_range
  have accepted : Returns (orReject (Machine.system environment) CeremonyError.message
      (Exponent.ofDatum (.int request.exponent))) machine exponent machine :=
    returns_orReject_iff.mpr ⟨exponent_eq, rfl⟩
  have ends : ∃ after, (verifyChain (Machine.system environment) request).run.run machine =
      (.error (.escaped failure), after) := by
    rw [verifyChain_eq, run_bind_of_returns accepted]
    cases unreported with
    | unopened content_eq not_system =>
        exact ⟨_, run_bind_of_ends (run_readTranscript_of_unopened content_eq not_system) _⟩
    | longIndex lines_eq checkpoints_eq =>
        rw [run_bind_of_returns (returns_readTranscript_iff.mpr ⟨lines_eq, rfl⟩), checkpoints_eq]
        exact ⟨_, rfl⟩
  obtain ⟨after, runs⟩ := ends
  rw [execute_eq asked, perform, runs]

/-- A verification exits with code zero after the confirmation, or with code one after a message on
the standard error, or it is ended by a failure.  It is ended by one exactly if the exponent is in
range and the file is not opened for a reason other than one of the operating system, or the first
thing to be refused in the transcript is an index with too many digits. -/
theorem verification_reported {arguments : List String} {request : VerifyRequest}
    (asked : request? arguments = some (.verifyChain request)) :
    ((∃ segments : Nat, (machine.execute environment arguments).1 = .exit 0 ∧
        (machine.execute environment arguments).2.shown =
          s!"OK: {segments} segments verified" :: machine.shown) ∨
      (∃ message, (machine.execute environment arguments).1 = .exit 1 ∧
        (machine.execute environment arguments).2.complaints = message :: machine.complaints) ∨
      ∃ failure, (machine.execute environment arguments).1 = .escaped failure) ∧
    ∀ failure, (machine.execute environment arguments).1 = .escaped failure ↔
      (10 ≤ request.exponent ∧ request.exponent ≤ 63) ∧
        Unreported machine request.transcript failure := by
  have settles : Settles (verifyChain (Machine.system environment) request) machine _ _ :=
    settles_verifyChain request
  have ended_eq := @execute_eq environment machine _ _ asked
  rw [perform] at ended_eq
  refine ⟨?ways, fun failure => ⟨fun escaped => ?only, ?always⟩⟩
  case ways =>
    cases settles with
    | returns runs _ holds =>
        obtain ⟨segments, shown_eq⟩ := holds
        rw [Returns] at runs
        rw [runs] at ended_eq
        exact .inl ⟨segments, by rw [ended_eq], by rw [ended_eq, shown_eq]; rfl⟩
    | rejects runs told =>
        rw [runs] at ended_eq
        exact .inr (.inl ⟨_, by rw [ended_eq], by rw [ended_eq, told]⟩)
    | escapes runs _ =>
        rw [runs] at ended_eq
        exact .inr (.inr ⟨_, by rw [ended_eq]⟩)
  case only =>
    rcases ran : (verifyChain (Machine.system environment) request).run.run machine with
      ⟨ending | value, after⟩
    · rw [ran] at ended_eq
      rw [ended_eq] at escaped
      exact settles.holds_of_escaped (ran.trans (by rw [← escaped]))
    · rw [ran] at ended_eq
      rw [ended_eq] at escaped
      contradiction
  case always =>
    rintro ⟨in_range, unreported⟩
    exact execute_of_unreported asked in_range unreported

/-- A transcript that is in order is confirmed. -/
theorem verification_reported_ends :
    request? input = some (.verifyChain { transcript := "-", exponent := 10 }) ∧
      ∃ segments : Nat, ((fed Ends.lines).execute [] input).1 = .exit 0 ∧
        ((fed Ends.lines).execute [] input).2.shown =
          s!"OK: {segments} segments verified" :: (fed Ends.lines).shown := by
  refine ⟨input_asked, ?_⟩
  rcases (@verification_reported [] (fed Ends.lines) input _ input_asked).1 with
    confirmed | ⟨_, other, -⟩ | ⟨failure, other⟩
  · exact confirmed
  · cases Ends.exit.symm.trans other
  · cases Ends.exit.symm.trans other

/-- An index of 4301 digits in a transcript ends its verification by a failure. -/
theorem verification_unreported_longIndex :
    request? input = some (.verifyChain { transcript := "-", exponent := 10 }) ∧
      lines? ((fed [Transcript.longCharacters]).transcript "-") = some [Transcript.longLine] ∧
      ((fed [Transcript.longCharacters]).execute [] input).1 =
        .escaped (.value (Text.tooManyDigits 4301)) := by
  have unbroken : ∀ line ∈ [Transcript.longCharacters], Text.Unbroken line :=
    List.forall_mem_singleton.mpr Transcript.unbroken_longCharacters
  have lines_eq := lines?_fed unbroken
  have checkpoints_eq := Transcript.told_longLine.checkpoints_eq Transcript.wellFormed_longLine
    Transcript.long_longLine
  rw [List.length_replicate] at checkpoints_eq
  exact ⟨input_asked, lines_eq,
    execute_of_unreported input_asked ⟨by decide, by decide⟩ (.longIndex lines_eq checkpoints_eq)⟩

end Verifications

end Command
end CommandLine
end BeaconCeremony

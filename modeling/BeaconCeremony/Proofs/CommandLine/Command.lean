import BeaconCeremony.CommandLine.Simulation
import BeaconCeremony.Proofs.Text.Lines
import BeaconCeremony.Proofs.Text.Utf8
import Mathlib.Tactic.Common

/-!
# Commands on a machine

A command returns a value and leaves a machine behind, or it ends early.  What it takes to return is
said for each step that commands are made of, and no command that ends early exits with code zero,
so exit code zero means that every step has returned.
-/

namespace BeaconCeremony

namespace Machine

/-- The bytes of a transcript; a dash stands for the standard input. -/
def transcript (machine : Machine) (path : String) : Except Failure Bytes :=
  if path = "-" then .ok machine.input else machine.storage.content path

/-- The machine after a transcript has been read. -/
def afterReading (machine : Machine) (path : String) : Machine :=
  if path = "-" then { machine with input := [] } else machine

theorem shown_afterReading (machine : Machine) (path : String) :
    (machine.afterReading path).shown = machine.shown := by
  rw [afterReading]
  split <;> rfl

end Machine

namespace CommandLine
namespace Command

variable {α β : Type}

/-- The command comes to a value and leaves a machine behind. -/
def Returns (command : Command (StateM Machine) α) (machine : Machine) (value : α)
    (after : Machine) : Prop :=
  command.run.run machine = (.ok value, after)

/-- The command does not exit early with code zero. -/
def Loud (command : Command (StateM Machine) α) : Prop :=
  ∀ machine ending after, command.run.run machine = (.error ending, after) → ending ≠ .exit 0

section Laws

variable {command : Command (StateM Machine) α} {machine after : Machine} {value : α}

theorem run_bind (next : α → Command (StateM Machine) β) :
    (command >>= next).run.run machine =
      match command.run.run machine with
      | (.ok value, after) => (next value).run.run after
      | (.error ending, after) => (.error ending, after) := by
  rw [ExceptT.run_bind, StateT.run_bind]
  rcases command.run.run machine with ⟨ending | value, after⟩
  · rfl
  · rfl

theorem run_bind_of_returns (runs : Returns command machine value after)
    (next : α → Command (StateM Machine) β) :
    (command >>= next).run.run machine = (next value).run.run after := by
  rw [run_bind, runs]

theorem run_bind_of_ends {ending : Ending}
    (runs : command.run.run machine = (.error ending, after))
    (next : α → Command (StateM Machine) β) :
    (command >>= next).run.run machine = (.error ending, after) := by
  rw [run_bind, runs]

theorem returns_bind_iff {next : α → Command (StateM Machine) β} {result : β} :
    Returns (command >>= next) machine result after ↔
      ∃ value between, Returns command machine value between ∧
        Returns (next value) between result after := by
  rw [Returns, run_bind]
  constructor
  · intro returned
    rcases ran : command.run.run machine with ⟨ending | value, between⟩
    · rw [ran] at returned
      cases returned
    · rw [ran] at returned
      exact ⟨value, between, ran, returned⟩
  · rintro ⟨value, between, ran, returned⟩
    rw [ran]
    exact returned

@[simp]
theorem returns_pure_iff {given : α} :
    Returns (pure given) machine value after ↔ given = value ∧ machine = after := by
  change (Except.ok given, machine) = (Except.ok value, after) ↔ _
  rw [Prod.mk.injEq, Except.ok.injEq]

@[simp]
theorem not_returns_throw {ending : Ending} : ¬Returns (throw ending) machine value after := by
  intro returned
  injection returned
  contradiction

/-- An operation of the machine goes on with its value. -/
theorem returns_lift_bind_iff {operation : StateM Machine α} {between : Machine}
    (runs : operation.run machine = (value, between)) {next : α → Command (StateM Machine) β}
    {result : β} :
    Returns (liftM operation >>= next) machine result after ↔
      Returns (next value) between result after := by
  have lifted : (liftM operation : Command (StateM Machine) α).run.run machine =
      (.ok value, between) := congrArg (fun ran : α × Machine => (Except.ok ran.1, ran.2)) runs
  rw [Returns, run_bind_of_returns lifted]
  exact Iff.rfl

theorem Loud.bind {next : α → Command (StateM Machine) β} (first : Loud command)
    (second : ∀ value, Loud (next value)) : Loud (command >>= next) := by
  intro machine ending after ended
  rw [run_bind] at ended
  rcases ran : command.run.run machine with ⟨early | value, between⟩
  · rw [ran] at ended
    cases ended
    exact first machine ending after ran
  · rw [ran] at ended
    exact second value between ending after ended

theorem loud_pure (value : α) : Loud (pure value) := nofun

theorem loud_throw {ending : Ending} (loud : ending ≠ .exit 0) :
    Loud (throw ending : Command (StateM Machine) α) := by
  rintro machine _ after ⟨⟩
  exact loud

theorem loud_lift (operation : StateM Machine α) : Loud (liftM operation) := nofun

end Laws

/-! ## The steps of commands -/

/-- The lines of a transcript, if it can be read and is a text. -/
def lines? (content : Except Failure Bytes) : Option (List String) := do
  let bytes ← content.toOption
  let text ← (Utf8.decode bytes).toOption
  return Text.splitLines (String.ofList (Text.unifyLineBreaks text.toList))

/-- A transcript has the lines that it has been made of. -/
theorem lines?_encode_joined {lines : List (List Char)}
    (unbroken : ∀ line ∈ lines, Text.Unbroken line) :
    lines? (.ok (Utf8.encode (String.ofList (Text.joined lines)))) =
      some (lines.map String.ofList) := by
  have unified : Text.unifyLineBreaks (Text.joined lines) = Text.joined lines :=
    Text.unifyLineBreaks_eq_self (Text.return_not_mem_joined unbroken)
  simp [lines?, Except.toOption, Utf8.decode_encode, Text.splitLines, unified,
    Text.linesFrom_joined unbroken]

section Steps

variable {system : System (StateM Machine)} {environment : Environment} {machine after : Machine}
  {value : α} {ε : Type}

@[simp]
theorem not_returns_reject {message : RawText} :
    ¬Returns (reject system message) machine value after := by
  rintro ⟨⟩

theorem loud_reject {message : RawText} : Loud (reject system message : Command _ α) := by
  rintro machine _ after ⟨⟩
  nofun

@[simp]
theorem returns_orReject_iff {describe : ε → RawText} {result : Except ε α} :
    Returns (orReject system describe result) machine value after ↔
      result = .ok value ∧ machine = after := by
  cases result with
  | ok found => simp [orReject]
  | error error => simp [orReject]

theorem loud_orReject {describe : ε → RawText} (result : Except ε α) :
    Loud (orReject system describe result) := by
  cases result with
  | ok found => exact loud_pure found
  | error error => exact loud_reject

@[simp]
theorem not_returns_rejectFailure {failure : Failure} :
    ¬Returns (rejectFailure system failure) machine value after := by
  cases failure with
  | ceremony error => exact not_returns_reject
  | _ => exact not_returns_throw

theorem loud_rejectFailure (failure : Failure) :
    Loud (rejectFailure system failure : Command _ α) := by
  cases failure with
  | ceremony error => exact loud_reject
  | _ => exact loud_throw nofun

@[simp]
theorem returns_orRejectFailure_iff {result : Except Failure α} :
    Returns (orRejectFailure system result) machine value after ↔
      result = .ok value ∧ machine = after := by
  cases result with
  | ok found => simp [orRejectFailure]
  | error failure => simp [orRejectFailure]

theorem loud_orRejectFailure (result : Except Failure α) :
    Loud (orRejectFailure system result) := by
  cases result with
  | ok found => exact loud_pure found
  | error failure => exact loud_rejectFailure failure

@[simp]
theorem returns_transcriptPart_iff {result : Except Transcript.Error α} :
    Returns (transcriptPart system result) machine value after ↔
      result = .ok value ∧ machine = after := by
  rw [transcriptPart, returns_orRejectFailure_iff]
  cases result with
  | ok found => simp [Except.mapError]
  | error error => simp [Except.mapError]

theorem loud_transcriptPart (result : Except Transcript.Error α) :
    Loud (transcriptPart system result) :=
  loud_orRejectFailure _

theorem loud_say (line : RawText) : Loud (say system line) := by
  refine (loud_lift _).bind fun result => ?_
  cases result with
  | ok shown => exact loud_pure shown
  | error failure => exact loud_throw nofun

theorem loud_forM {items : List β} {step : β → Command (StateM Machine) PUnit}
    (each : ∀ item, Loud (step item)) : Loud (items.forM step) := by
  induction items with
  | nil => exact loud_pure _
  | cons item items ih => exact (each item).bind fun _ => ih

theorem returns_transcriptLines_iff {path : String} {content : Except Failure Bytes}
    {lines : List String} : Returns (transcriptLines system path content) machine lines after ↔
      lines? content = some lines ∧ machine = after := by
  rcases content with failure | bytes
  · cases failure with
    | system error => simp [transcriptLines, lines?, Except.toOption]
    | _ => simp [transcriptLines, lines?, Except.toOption]
  · simp only [transcriptLines, returns_bind_iff, returns_orReject_iff, returns_pure_iff]
    cases decoded : Utf8.decode bytes with
    | error error => simp [lines?, Except.toOption, decoded]
    | ok text => simp [lines?, Except.toOption, decoded]

theorem loud_transcriptLines (path : String) (content : Except Failure Bytes) :
    Loud (transcriptLines system path content) := by
  rcases content with failure | bytes
  · cases failure with
    | system error => exact loud_reject
    | _ => exact loud_throw nofun
  · exact (loud_orReject _).bind fun text => loud_pure _

/-- Reading a transcript is getting its content and then its lines. -/
theorem readTranscript_eq (path : String) : readTranscript system path =
    if path = "-" then liftM system.readInput >>= transcriptLines system path
    else liftM (system.readFile path) >>= transcriptLines system path := rfl

theorem loud_readTranscript (path : String) : Loud (readTranscript system path) := by
  rw [readTranscript_eq]
  split
  · exact (loud_lift _).bind (loud_transcriptLines path)
  · exact (loud_lift _).bind (loud_transcriptLines path)

theorem returns_readTranscript_iff {path : String} {lines : List String} :
    Returns (readTranscript (Machine.system environment) path) machine lines after ↔
      lines? (machine.transcript path) = some lines ∧ machine.afterReading path = after := by
  rw [readTranscript_eq]
  by_cases input : path = "-"
  · rw [if_pos input, Machine.transcript, if_pos input, Machine.afterReading, if_pos input]
    refine Iff.trans (returns_lift_bind_iff ?_) returns_transcriptLines_iff
    rfl
  · rw [if_neg input, Machine.transcript, if_neg input, Machine.afterReading, if_neg input]
    refine Iff.trans (returns_lift_bind_iff ?_) returns_transcriptLines_iff
    rfl

/-- Strings can always be shown. -/
theorem returns_say (line : String) : Returns (say (Machine.system environment) line) machine ()
    { machine with shown := Text.withoutControls line :: machine.shown } := rfl

/-- The program does what is asked for and ends as that does. -/
theorem execute_eq {arguments : List String} {request : Request}
    (asked : request? arguments = some request) :
    machine.execute environment arguments =
      match (perform (Machine.system environment) request).run.run machine with
      | (.ok _, after) => (.exit 0, after)
      | (.error ending, after) => (ending, after) := by
  rw [Machine.execute, execute, asked]
  dsimp only
  rw [StateT.run_bind]
  rcases (perform (Machine.system environment) request).run.run machine with ⟨ending | value, after⟩
  · rfl
  · rfl

/-- The program exits with code zero exactly if the command comes to its end. -/
theorem execute_eq_exit_zero_iff {arguments : List String} {request : Request}
    (asked : request? arguments = some request)
    (loud : Loud (perform (Machine.system environment) request)) :
    (machine.execute environment arguments).1 = .exit 0 ↔
      ∃ after, Returns (perform (Machine.system environment) request) machine () after := by
  rw [execute_eq asked]
  rcases ran : (perform (Machine.system environment) request).run.run machine with
    ⟨ending | value, after⟩
  · refine iff_of_false (loud machine ending after ran) ?_
    rintro ⟨after, returned⟩
    rw [Returns, ran] at returned
    cases returned
  · exact iff_of_true rfl ⟨after, ran⟩

end Steps

end Command
end CommandLine
end BeaconCeremony

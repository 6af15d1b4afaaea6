import BeaconCeremony.Chain.Verification
import BeaconCeremony.CommandLine.Request
import BeaconCeremony.Config.Loading
import BeaconCeremony.Phase2.Backend
import BeaconCeremony.Pipeline.Run
import BeaconCeremony.Registry
import BeaconCeremony.Text.Lines
import BeaconCeremony.Transcript

/-!
# Commands

What the program does for each request.  A command ends with an exit code; anything that it does not
report itself as an error ends it as well, and is told apart from that.
-/

namespace BeaconCeremony

/-- A configuration error as a failure. -/
def ConfigError.failure (error : ConfigError) : Failure :=
  match error with
  | .failed failure => failure
  | other => if other.isRefusal then .value other.message else .wrongType other.message

namespace CommandLine

/-- The version of the program. -/
def version : String := "0.1.0+source"

/-- What surrounds the program. -/
structure System (m : Type → Type) where
  /-- The host of a contribution. -/
  host : Host m
  /-- Reads a whole file. -/
  readFile : String → m (Except Failure Bytes)
  /-- Reads the whole standard input. -/
  readInput : m (Except Failure Bytes)
  /-- Shows a line on the standard error. -/
  complain : RawText → m Unit
  /-- The environment variables. -/
  environment : Environment

/-- How a command ends. -/
inductive Ending
  /-- It exits with a code. -/
  | exit (code : Nat)
  /-- It is ended by a failure that it does not report. -/
  | escaped (failure : Failure)

/-- A command: a sequence of effects that may end early. -/
abbrev Command (m : Type → Type) := ExceptT Ending m

namespace Command

variable {m : Type → Type} [Monad m]

/-- Shows a line on the standard output. -/
def say (system : System m) (line : RawText) : Command m Unit := do
  match ← system.host.echo line with
  | .ok () => return ()
  | .error failure => throw (.escaped failure)

/-- Reports an error and exits. -/
def reject {α : Type} (system : System m) (message : RawText) : Command m α := do
  system.complain message
  throw (.exit 1)

/-- The value of a computation; its error is reported. -/
def orReject {ε α : Type} (system : System m) (message : ε → RawText) (result : Except ε α) :
    Command m α :=
  match result with
  | .ok value => return value
  | .error error => reject system (message error)

/-- A failure, reported if it is an error of the contribution. -/
def rejectFailure {α : Type} (system : System m) (failure : Failure) : Command m α :=
  match failure with
  | .ceremony error => reject system error.message
  | failure => throw (.escaped failure)

/-- The value of a computation; its failure is reported if it is an error of the contribution. -/
def orRejectFailure {α : Type} (system : System m) (result : Except Failure α) : Command m α :=
  match result with
  | .ok value => return value
  | .error failure => rejectFailure system failure

/-! ## Contributing -/

/-- The settings that a request changes in a configuration. -/
def overrides (request : BeaconRequest) (config : Config) : Settings where
  inputPath := .text ((request.input?.map .ofString).getD config.inputPath)
  outputPath := .text ((request.output?.map .ofString).getD config.outputPath)
  paramsFormat := .text ((request.format?.map .ofString).getD config.paramsFormat)
  quiet := if request.quiet then .bool true else config.quiet

/-- What is told of a configuration that is wrong. -/
def configurationMessage (reason : RawText) : RawText := "Invalid configuration: " ++ reason

/-- The configuration of a contribution. -/
def configure (system : System m) (request : BeaconRequest) : Command m Config := do
  let loaded ←
    Config.load (m := m) system.readFile system.environment Environment.standardStem request.config?
  match loaded.bind fun config => (overrides request config).check with
  | .ok config => return config
  | .error error =>
    if error.isRefusal then reject system (configurationMessage error.summary)
    else throw (.escaped error.failure)

/-- The formats that are known to the program. -/
def formats : Registry (Backend m Phase2.Parameters) where
  builtIn := [(Phase2.formatName, Phase2.backend)]

/-- Contributes to parameters. -/
def beacon (system : System m) (request : BeaconRequest) : Command m Unit := do
  let config ← configure system request
  let (backend, _) ← orReject system (fun error => configurationMessage error.message)
    (formats.find config.paramsFormat)
  let pipeline : Pipeline Phase2.Parameters := Pipeline.start config
  let contribution := Pipeline.run system.host backend (.text request.beacon)
    (.int request.exponent) none none request.tag
  let (result, _) ← contribution.run.run pipeline
  match result with
  | .ok _ => return ()
  | .error failure => rejectFailure system failure

/-! ## Verifying -/

/-- What is told of a transcript that is no text. -/
def notTextMessage (path : String) (error : Utf8.DecodeError) : String :=
  "Could not read \x60" ++ path ++ "\x60: not a UTF-8 text transcript (" ++ error.fault.reason ++
    s!" at byte {error.start})"

/-- The lines of a transcript with the given content. -/
def transcriptLines (system : System m) (path : String) (content : Except Failure Bytes) :
    Command m (List String) :=
  match content with
  | .error (.system error) =>
    reject system ("Could not open \x60" ++ path ++ "\x60: " ++ error.reason)
  | .error failure => throw (.escaped failure)
  | .ok bytes => do
    let text ← orReject system (fun error => notTextMessage path error) (Utf8.decode bytes)
    return Text.splitLines (String.ofList (Text.unifyLineBreaks text.toList))

/-- The lines of a transcript. -/
def readTranscript (system : System m) (path : String) : Command m (List String) := do
  let content ← if path = "-" then system.readInput else system.readFile path
  transcriptLines system path content

/-- The value of reading a transcript; its errors are reported. -/
def transcriptPart {α : Type} (system : System m) (result : Except Transcript.Error α) :
    Command m α :=
  orRejectFailure system (result.mapError (·.failure))

/-- The number of the last checkpoint of every chain. -/
def lastNumber : Int := Chain.checkpointCount - 1

/-- The checkpoints whose numbers are in a range. -/
def selected (exponent : Chain.Exponent) (first last : Int) (checkpoints : List Checkpoint) :
    List Checkpoint :=
  checkpoints.filter fun checkpoint =>
    first * exponent.interval ≤ checkpoint.index ∧ checkpoint.index ≤ last * exponent.interval

/-- The number of segments between checkpoints, and after the last if there is a final state. -/
def segmentCount (checkpoints : List Checkpoint) (final? : Option (Digest 32)) : Nat :=
  checkpoints.length - 1 + (if final?.isSome && !checkpoints.isEmpty then 1 else 0)

/-- What is told of a range that is none. -/
def rangeMessage (first last : Int) : String :=
  s!"Invalid checkpoint range [{first}, {last}]: expected 0 <= from <= to < {Chain.checkpointCount}"

/-- Verifies the checkpoints of a transcript whose numbers are in a range. -/
def verifyRange (system : System m) (exponent : Chain.Exponent) (first last : Int)
    (checkpoints : List Checkpoint) (final? : Option (Digest 32)) : Command m Unit :=
  if !(0 ≤ first && first ≤ last && last ≤ lastNumber) then
    reject system (rangeMessage first last)
  else
    let selection := selected exponent first last checkpoints
    let segments := segmentCount selection final?
    if segments < 1 then
      reject system "Nothing to verify: the selected range holds fewer than two checkpoints"
    else do
      let mismatches ← orReject system (fun error => error.message)
        (Chain.verify selection exponent (final?.map (·.bytes)))
      mismatches.forM fun mismatch => say system mismatch.message
      if mismatches.isEmpty then say system s!"OK: {segments} segments verified"
      else reject system s!"FAILED: {mismatches.length} of {segments} segments do not match"

/-- Verifies a transcript. -/
def verifyChain (system : System m) (request : VerifyRequest) : Command m Unit := do
  let exponent ← orReject system CeremonyError.message
    (Chain.Exponent.ofDatum (.int request.exponent))
  let lines ← readTranscript system request.transcript
  let checkpoints ← transcriptPart system (Transcript.checkpoints lines)
  let final? ←
    if request.last?.isNone then transcriptPart system (Transcript.final? lines) else pure none
  verifyRange system exponent request.first (request.last?.getD lastNumber) checkpoints final?

/-! ## Running a chain alone -/

/-- The line with the words of a seed. -/
def seedLine (seed : Seed) : String :=
  "Seed words: " ++ " ".intercalate
    (seed.toList.map fun word => String.ofList (Text.hexDigits 8 word.toNat))

/-- Runs a chain and shows the seed that it gives. -/
def seed (system : System m) (request : SeedRequest) : Command m Unit := do
  let chain ← orRejectFailure system
    (Chain.ofHex system.host.depth (.text request.beacon) (.int request.exponent))
  let result ← chain.run fun checkpoint =>
    if request.quiet then pure () else say system (Report.checkpointLine checkpoint)
  match result with
  | .error failure => rejectFailure system failure
  | .ok derivation =>
    (Report.finalLines derivation.final.bytes).forM fun line => say system line
    say system (seedLine (Seed.ofDigest derivation.final))

/-! ## The program -/

/-- How the program is used. -/
def usage : List String :=
  ["Usage: mpc-beacon [-v] [--version] [--help] COMMAND [OPTIONS]", "",
    "  beacon        contribute to parameters with a public beacon",
    "  verify-chain  recompute the checkpoints of a transcript",
    "  seed          run the chain alone and show the seed"]

/-- Does what is asked for. -/
def perform (system : System m) : Request → Command m Unit
  | .version => say system version
  | .help => usage.forM fun line => say system line
  | .beacon request => beacon system request
  | .verifyChain request => verifyChain system request
  | .seed request => seed system request

/-- Does what the arguments ask for; exits with code two if they cannot be understood. -/
def execute (system : System m) (arguments : List String) : m Ending := do
  match request? arguments with
  | none => return .exit 2
  | some request =>
    match ← (perform system request).run with
    | .ok () => return .exit 0
    | .error ending => return ending

end Command
end CommandLine
end BeaconCeremony

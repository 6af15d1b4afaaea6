import BeaconCeremony.Chain.Walk
import BeaconCeremony.Config.Basic
import BeaconCeremony.Metrics
import BeaconCeremony.Receipt
import BeaconCeremony.Report
import BeaconCeremony.Stream.Source

/-!
# The state of a contribution

A contribution goes through fixed stages, each of which leaves its result behind.  What the
contribution uses is given as records of operations in a monad: the format of the parameters, and
the host with its files and its output.
-/

namespace BeaconCeremony

/-- The stages of a contribution. -/
inductive Stage
  | idle
  | loaded
  | beaconDerived
  | seeded
  | contributed
  | persisted
  | done
  | failed
deriving DecidableEq

namespace Stage

/-- All stages. -/
def all : List Stage :=
  [.idle, .loaded, .beaconDerived, .seeded, .contributed, .persisted, .done, .failed]

/-- The name of a stage. -/
def name : Stage → String
  | .idle => "idle"
  | .loaded => "loaded"
  | .beaconDerived => "beacon_derived"
  | .seeded => "seeded"
  | .contributed => "contributed"
  | .persisted => "persisted"
  | .done => "done"
  | .failed => "failed"

/-- The stage that a datum names. -/
def ofDatum (datum : Datum) : Except Failure Stage :=
  match all.find? fun stage => datum.sameKey (.text stage.name) with
  | some stage => .ok stage
  | none =>
    match datum.literal Datum.usualDepth with
    | .ok shown => .error (.value (shown ++ " is not a valid PipelineState"))
    | .error unshown => .error unshown.failure

end Stage

/-- A change of stage. -/
structure Transition where
  /-- The stage before. -/
  source : Stage
  /-- The stage after. -/
  target : Stage
deriving DecidableEq

/-- What a contribution to parameters leaves behind. -/
structure Contributed (Params : Type) where
  /-- The fingerprint, or why there is none. -/
  result : Except Failure Datum
  /-- The parameters afterwards. -/
  parameters : Params
  /-- The generator afterwards. -/
  generator : Generator

/-- A format of parameters: how they are read, contributed to and written. -/
structure Backend (m : Type → Type) (Params : Type) where
  /-- Reads parameters and verifies them. -/
  read : Source m → m (Except Failure Params)
  /-- Contributes with randomness from a generator. -/
  contribute : Params → Generator → Int → m (Contributed Params)
  /-- Writes parameters. -/
  write : Params → Sink m → m (Except Failure Unit)

/-- A file that has been opened for reading. -/
structure InputFile (m : Type → Type) where
  /-- Its content. -/
  source : Source m
  /-- Closes it. -/
  close : m (Except Failure Unit)

/-- A file that has been opened for writing. -/
structure OutputFile (m : Type → Type) where
  /-- Where its content goes. -/
  sink : Sink m
  /-- Passes on what has been taken and closes it. -/
  close : m (Except Failure Unit)

/-- What surrounds a contribution. -/
structure Host (m : Type → Type) where
  /-- Shows a line to the operator. -/
  echo : RawText → m (Except Failure Unit)
  /-- Opens a file for reading. -/
  openInput : RawText → m (Except Failure (InputFile m))
  /-- Opens a file for writing, with nothing in it. -/
  openOutput : RawText → m (Except Failure (OutputFile m))
  /-- How deep calls may be inside of each other when a value is shown. -/
  depth : Nat

/-- A contribution and how far it has come. -/
structure Pipeline (Params : Type) where
  /-- What was asked for. -/
  config : Config
  /-- The stage it is at. -/
  stage : Stage := .idle
  /-- The changes of stage that have been logged, in their order. -/
  journal : List Transition := []
  /-- Why it failed, if it did. -/
  failure? : Option Failure := none
  /-- Where the parameters came from. -/
  source : RawText := "<stream>"
  /-- The parameters. -/
  parameters? : Option Params := none
  /-- The run of the chain. -/
  derivation? : Option Derivation := none
  /-- The seed of the generator. -/
  seed? : Option Seed := none
  /-- The generator. -/
  generator? : Option Generator := none
  /-- The fingerprint of the contribution. -/
  fingerprint? : Option Bytes := none
  /-- What has been reported. -/
  reporter : Reporter
  /-- What has been counted. -/
  metrics : Metrics := {}

namespace Pipeline

variable {Params : Type}

/-- A contribution that nothing has happened to. -/
def start (config : Config) : Pipeline Params where
  config := config
  reporter := { quiet := config.isQuiet }

/-- The contribution at another stage, which is logged. -/
def moveTo (pipeline : Pipeline Params) (target : Stage) : Pipeline Params :=
  { pipeline with
    stage := target
    journal := pipeline.journal ++ [⟨pipeline.stage, target⟩] }

/-- The contribution after a failure.  Only the first failure counts. -/
def fail (pipeline : Pipeline Params) (failure : Failure) : Pipeline Params :=
  if pipeline.stage = .failed then pipeline
  else
    { pipeline.moveTo .failed with
      failure? := some failure
      metrics := pipeline.metrics.recordRun (.ofFailure failure) }

end Pipeline
end BeaconCeremony

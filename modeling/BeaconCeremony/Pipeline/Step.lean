import BeaconCeremony.Pipeline.Basic

/-!
# The steps of a contribution

Every step is called at one stage and leads to the next one; at any other stage it does nothing but
say so.  A failure inside of a step ends the contribution.
-/

namespace BeaconCeremony

/-- An action on a contribution: it may change it, and it may fail. -/
abbrev Action (m : Type → Type) (Params : Type) := ExceptT Failure (StateT (Pipeline Params) m)

namespace Action

variable {m : Type → Type} [Monad m] {Params α : Type}

/-- An operation of the surroundings, which may fail. -/
def perform (operation : m (Except Failure α)) : Action m Params α := do
  match ← operation with
  | .ok value => return value
  | .error failure => throw failure

/-- An action whose failure is returned instead. -/
def observe (action : Action m Params α) : Action m Params (Except Failure α) :=
  ExceptT.lift action.run

/-- Fails with an error of the contribution. -/
def refuse (error : CeremonyError) : Action m Params α := throw (.ceremony error)

/-- Notes a failure in the contribution and fails with it. -/
def abort (failure : Failure) : Action m Params α := do
  modify (·.fail failure)
  throw failure

/-- Shows lines to the operator, up to the first that fails. -/
def echoAll (host : Host m) : List RawText → Action m Params Unit
  | [] => return ()
  | line :: rest => do
    perform (host.echo line)
    echoAll host rest

/-- A step from one stage to another. -/
def step (name : String) (expected target : Stage) (body : Action m Params α) :
    Action m Params α := do
  let actual := (← get).stage
  if actual ≠ expected then refuse (.stepOrder name expected.name actual.name)
  else
    match ← observe body with
    | .ok value =>
      modify fun pipeline => pipeline.moveTo target
      return value
    | .error failure => abort failure

/-- The result of an earlier step, without which this one cannot go on. -/
def require (name : String) (result : Pipeline Params → Option α) : Action m Params α := do
  let pipeline ← get
  match result pipeline with
  | some value => return value
  | none => refuse (.stepOrder name "prior steps completed" pipeline.stage.name)

/-- An action that is timed, also if it fails. -/
def timed (note : Metrics → Metrics) (action : Action m Params α) : Action m Params α := do
  let result ← observe action
  modify fun pipeline => { pipeline with metrics := note pipeline.metrics }
  match result with
  | .ok value => return value
  | .error failure => throw failure

end Action

/-- The reason that a failure gives for parameters that cannot be read or written, if it is of a
kind that streams and formats have. -/
def Failure.streamReason? : Failure → Option RawText
  | .value reason => some reason
  | .notEncodable error => some error.message
  | .system error => some error.reason
  | _ => none

/-- A failure of a stream or a format as an error of the contribution; other failures are left as
they are. -/
def Failure.blame (failure : Failure) (error : RawText → CeremonyError) : Failure :=
  match failure.streamReason? with
  | some reason => .ceremony (error reason)
  | none => failure

namespace Pipeline

open BeaconCeremony.Action

variable {m : Type → Type} [Monad m] {Params : Type}

/-- Goes to the stage that a datum names, whatever has been done before. -/
def enter (name : Datum) : Action m Params Unit := do
  let stage ← perform (pure (Stage.ofDatum name))
  modify fun pipeline => { pipeline with stage := stage }

/-- Reads the parameters from a source with the given name. -/
def load (backend : Backend m Params) (source : Source m) (name : RawText) :
    Action m Params Unit :=
  step "load" .idle .loaded do
    modify fun pipeline => { pipeline with source := name }
    match ← backend.read source with
    | .ok parameters =>
      modify fun pipeline => { pipeline with parameters? := some parameters }
    | .error failure => throw (failure.blame (.parameterFormat name))

/-- Takes note of a checkpoint of the chain. -/
def reportCheckpoint (host : Host m) (checkpoint : Checkpoint) : Action m Params Unit := do
  let pipeline ← get
  let (lines, reporter) := pipeline.reporter.checkpoint checkpoint
  set { pipeline with reporter := reporter }
  echoAll host (lines.map .ofString)

/-- Runs the chain of a beacon value. -/
def derive (host : Host m) (beacon exponent : Datum) : Action m Params Derivation :=
  step "derive" .loaded .beaconDerived do
    match Chain.ofHex host.depth beacon exponent with
    | .error failure => throw failure
    | .ok chain =>
      perform (host.echo Report.announcement)
      let derivation ← timed Metrics.timeChain do
        match ← chain.run (reportCheckpoint host) with
        | .error failure => throw failure
        | .ok derivation =>
          modify fun pipeline => { pipeline with derivation? := some derivation }
          return derivation
      modify fun pipeline =>
        { pipeline with metrics := pipeline.metrics.addIterations chain.exponent.steps }
      echoAll host ((Report.finalLines derivation.final.bytes).map .ofString)
      return derivation

/-- Seeds the generator with the final state of the chain. -/
def seed : Action m Params Seed :=
  step "seed" .beaconDerived .seeded do
    let derivation ← require "seed" Pipeline.derivation?
    let seed := Seed.ofDigest derivation.final
    modify fun pipeline =>
      { pipeline with seed? := some seed, generator? := some (Generator.ofSeed seed) }
    return seed

/-- The bytes of the fingerprint that a format has returned. -/
def fingerprintOf (source : RawText) (returned : Datum) : Except CeremonyError Bytes :=
  match returned.asBytes? with
  | none =>
    .error (.contribution source
      ("backend returned " ++ returned.kind ++ ", expected a bytes fingerprint"))
  | some [] => .error (.contribution source "backend returned an empty fingerprint")
  | some fingerprint => .ok fingerprint

/-- Contributes to the parameters; the tag is passed on to the format. -/
def contribute (host : Host m) (backend : Backend m Params) (tag : Int) : Action m Params Bytes :=
  step "contribute" .seeded .contributed do
    let parameters ← require "contribute" Pipeline.parameters?
    let generator ← require "contribute" Pipeline.generator?
    let source := (← get).source
    perform (host.echo (Report.contributingLine source))
    let returned ← timed Metrics.timeContribute do
      let contributed ← backend.contribute parameters generator tag
      modify fun pipeline =>
        { pipeline with
          parameters? := some contributed.parameters
          generator? := some contributed.generator }
      perform (pure contributed.result)
    match fingerprintOf source returned with
    | .error error => refuse error
    | .ok fingerprint =>
      modify fun pipeline => { pipeline with fingerprint? := some fingerprint }
      echoAll host ((Report.fingerprintLines fingerprint).map .ofString)
      return fingerprint

/-- Writes the parameters to a sink with the given name. -/
def persist (backend : Backend m Params) (sink : Sink m) (name : RawText) : Action m Params Unit :=
  step "persist" .contributed .persisted do
    let parameters ← require "persist" Pipeline.parameters?
    let written ← observe do
      perform (backend.write parameters sink)
      perform sink.flush
    match written with
    | .ok () => return ()
    | .error failure => throw (failure.blame (.serializationWrite name))

/-- Makes out the receipt. -/
def finish (inputPath? outputPath? : Option RawText) : Action m Params Receipt := do
  let receipt ← step "finish" .persisted .done do
    let derivation ← require "finish" Pipeline.derivation?
    let seed ← require "finish" Pipeline.seed?
    let fingerprint ← require "finish" Pipeline.fingerprint?
    return { final := derivation.final, seed := seed.numbers, fingerprint := fingerprint
             inputPath? := inputPath?, outputPath? := outputPath? : Receipt }
  modify fun pipeline => { pipeline with metrics := pipeline.metrics.recordRun .ok }
  return receipt

end Pipeline
end BeaconCeremony

import BeaconCeremony.Pipeline.Step

/-!
# Running a contribution with files

A run checks the request first, reads the input and closes it before anything changes, and opens the
output only after the contribution has been made.
-/

namespace BeaconCeremony
namespace Pipeline

open BeaconCeremony.Action

variable {m : Type → Type} [Monad m] {Params α : Type}

/-- Checks a request without any effect. -/
def checkRequest (depth : Nat) (beacon exponent : Datum) : Except Failure Unit := do
  let _ ← (Chain.Exponent.ofDatum exponent).mapError .ceremony
  let _ ← Chain.parseBeacon depth beacon

/-- Acts on something that has been opened and closes it afterwards, also after a failure.  A
failure to close takes the place of what the action comes to. -/
def closing (close : m (Except Failure Unit)) (action : Action m Params α) : Action m Params α := do
  let result ← observe action
  perform close
  perform (pure result)

/-- Reads the parameters from a file. -/
def loadFile (host : Host m) (backend : Backend m Params) (path : RawText) :
    Action m Params Unit := do
  match ← host.openInput path with
  | .error (.system error) => abort (.ceremony (.inputOpen path error.reason))
  | .error failure => throw failure
  | .ok file => closing file.close (load backend file.source path)

/-- Writes the parameters to a file. -/
def persistFile (host : Host m) (backend : Backend m Params) (path : RawText) :
    Action m Params Unit := do
  match ← host.openOutput path with
  | .error (.system error) => abort (.ceremony (.outputCreate path error.reason))
  | .error failure => throw failure
  | .ok file =>
    match ← observe (closing file.close (persist backend file.sink path)) with
    | .ok () => return ()
    | .error (.system error) => abort (.ceremony (.serializationWrite path error.reason))
    | .error failure => throw failure

/-- The given path, or the configured one if it is missing or empty. -/
def chosenPath (given? : Option RawText) (configured : RawText) : RawText :=
  (given?.filter (!·.isEmpty)).getD configured

/-- Carries out a whole contribution with files.  Only an error of the contribution is taken note of
when the request is checked. -/
def run (host : Host m) (backend : Backend m Params) (beacon exponent : Datum)
    (inputPath? outputPath? : Option RawText) (tag : Int) : Action m Params Receipt := do
  let pipeline ← get
  if pipeline.stage ≠ .idle then
    refuse (.stepOrder "run" Stage.idle.name pipeline.stage.name)
  else
    let inputPath := chosenPath inputPath? pipeline.config.inputPath
    let outputPath := chosenPath outputPath? pipeline.config.outputPath
    match checkRequest host.depth beacon exponent with
    | .error (.ceremony error) => abort (.ceremony error)
    | .error failure => throw failure
    | .ok () =>
      loadFile host backend inputPath
      let _ ← derive host beacon exponent
      let _ ← seed
      let _ ← contribute host backend tag
      persistFile host backend outputPath
      echoAll host (Report.writtenLines outputPath)
      finish (some inputPath) (some outputPath)

end Pipeline
end BeaconCeremony

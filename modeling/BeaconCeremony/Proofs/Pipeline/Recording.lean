import BeaconCeremony.Proofs.Pipeline.Aftermath
import BeaconCeremony.Proofs.Pipeline.Beside

/-!
# Recorded contributions

What a contribution asks of its format can be recorded for any format, host and streams: the record
is kept beside the state of the surroundings, which do not see it.  On top of that, this file
defines which contributions can be reached by calling the steps in any order.
-/

namespace BeaconCeremony

/-- Something that a contribution asks of a format, or that comes back. -/
inductive Event
  | contributing
  | contributed (result : Except Failure Datum)
  | writing

/-- Surroundings with a record of what has happened beside them. -/
abbrev Recorder (World : Type) := Beside World (List Event)

section Recorded

variable {World Params : Type}

/-- A host in recorded surroundings. -/
def Host.recorded (host : Host (StateM World)) : Host (StateM (Recorder World)) where
  echo line := Beside.lift (host.echo line)
  openInput path := Beside.opened (host.openInput path) InputFile.beside
  openOutput path := Beside.opened (host.openOutput path) OutputFile.beside
  depth := host.depth

theorem Host.depth_recorded (host : Host (StateM World)) : host.recorded.depth = host.depth := rfl

/-- A format whose contributions and writings are recorded. -/
def Backend.recorded (backend : Backend (StateM World) Params) :
    Backend (StateM (Recorder World)) Params where
  read source := Beside.lift (backend.read source.alone)
  contribute parameters generator tag := do
    Beside.add .contributing
    let contributed ← Beside.lift (backend.contribute parameters generator tag)
    Beside.add (.contributed contributed.result)
    return contributed
  write parameters sink := do
    Beside.add .writing
    Beside.lift (backend.write parameters sink.alone)

end Recorded

/-- A call of a step or of a whole run. -/
inductive Call (World : Type)
  | load (source : Source (StateM World)) (name : RawText)
  | derive (beacon exponent : Datum)
  | seed
  | contribute (tag : Int)
  | persist (sink : Sink (StateM World)) (name : RawText)
  | finish (inputPath? outputPath? : Option RawText)
  | run (beacon exponent : Datum) (inputPath? outputPath? : Option RawText) (tag : Int)

/-- The name of the one step that a call takes, unless it is a whole run. -/
def Call.stepName? {World : Type} : Call World → Option String
  | .load .. => some "load"
  | .derive .. => some "derive"
  | .seed => some "seed"
  | .contribute .. => some "contribute"
  | .persist .. => some "persist"
  | .finish .. => some "finish"
  | .run .. => none

section Reaching

variable {World Params : Type} (host : Host (StateM World))
  (backend : Backend (StateM World) Params)

/-- The recorded action of a call. -/
def Call.action : Call World → Action (StateM (Recorder World)) Params Unit
  | .load source name => Pipeline.load backend.recorded source.beside name
  | .derive beacon exponent => do discard (Pipeline.derive host.recorded beacon exponent)
  | .seed => do discard Pipeline.seed
  | .contribute tag => do discard (Pipeline.contribute host.recorded backend.recorded tag)
  | .persist sink name => Pipeline.persist backend.recorded sink.beside name
  | .finish inputPath? outputPath? => do discard (Pipeline.finish inputPath? outputPath?)
  | .run beacon exponent inputPath? outputPath? tag => do
    discard (Pipeline.run host.recorded backend.recorded beacon exponent inputPath? outputPath? tag)

/-- What a call leaves behind of a contribution, the surroundings and the record. -/
def Call.outcome (call : Call World) (pipeline : Pipeline Params) (world : World)
    (events : List Event) : Aftermath Params (Recorder World) Unit :=
  (call.action host backend).after pipeline ⟨world, events⟩

/-- The contributions that calls can lead to, with what has been recorded.  Between two calls
anything may happen to the surroundings. -/
inductive Reached (config : Config) : Pipeline Params → List Event → Prop
  | start : Reached config (Pipeline.start config) []
  | call {pipeline : Pipeline Params} {events : List Event}
      (before : Reached config pipeline events) (call : Call World) (world : World) :
      Reached config (call.outcome host backend pipeline world events).pipeline
        (call.outcome host backend pipeline world events).world.kept

end Reaching
end BeaconCeremony

import BeaconCeremony.Pipeline.Basic
import BeaconCeremony.Storage

/-!
# A machine to run on

A model of what surrounds a contribution, as the state of a monad: files, what has been shown on the
standard output and the standard error, and what is left of the file that is being read.
-/

namespace BeaconCeremony

/-- The state of a machine. -/
structure Machine where
  /-- The files. -/
  storage : Storage
  /-- What is left of the file that is being read. -/
  reading : Bytes := []
  /-- The lines shown on the standard output, the last one first. -/
  shown : List String := []
  /-- The lines shown on the standard error, the last one first. -/
  complaints : List String := []
  /-- The standard input. -/
  input : Bytes := []
deriving DecidableEq

namespace Machine

variable {m : Type → Type} [Monad m] [MonadStateOf Machine m]

/-- The source that brings what is left of the file being read. -/
def source : Source m where
  read count := do
    let machine ← getThe Machine
    set { machine with reading := machine.reading.drop count }
    return .ok (machine.reading.take count)

/-- The sink that adds to a file. -/
def sink (place : List Bytes) : Sink m where
  write bytes := do
    modifyThe Machine fun machine =>
      { machine with storage := machine.storage.append place bytes }
    return .ok ()
  flush := return (← getThe Machine).storage.settle place

/-- The machine as the host of a contribution. -/
def host : Host m where
  echo line := do
    match line.plain with
    | .error error => return .error (.notEncodable error)
    | .ok line =>
      modifyThe Machine fun machine => { machine with shown := line :: machine.shown }
      return .ok ()
  openInput path := do
    let machine ← getThe Machine
    match machine.storage.content path with
    | .error failure => return .error failure
    | .ok content =>
      set { machine with reading := content }
      return .ok { source := source, close := pure (.ok ()) }
  openOutput path := do
    let machine ← getThe Machine
    match machine.storage.create path with
    | .error failure => return .error failure
    | .ok (place, storage) =>
      set { machine with storage := storage }
      return .ok { sink := sink place, close := (sink place).flush }
  depth := Datum.usualDepth

end Machine
end BeaconCeremony

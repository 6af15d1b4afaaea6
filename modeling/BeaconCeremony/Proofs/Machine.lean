import BeaconCeremony.Machine
import BeaconCeremony.Proofs.Storage

/-!
# The machine as a host

What opening and showing come to on the model of a machine, as values and states.
-/

namespace BeaconCeremony
namespace Machine

variable {machine : Machine}

theorem openInput_eq (path : RawText) :
    (host : Host (StateM Machine)).openInput path machine =
      match machine.storage.content path with
      | .error failure => (.error failure, machine)
      | .ok content =>
        (.ok { source := source, close := pure (.ok ()) },
          { machine with reading := content }) := by
  change ((match machine.storage.content path with
    | .error failure => _
    | .ok content => _ : StateM Machine (Except Failure (InputFile (StateM Machine)))) machine) = _
  cases machine.storage.content path with
  | error failure => rfl
  | ok content => rfl

theorem openOutput_eq (path : RawText) :
    (host : Host (StateM Machine)).openOutput path machine =
      match machine.storage.create path with
      | .error failure => (.error failure, machine)
      | .ok (place, storage) =>
        (.ok { sink := sink place, close := (sink place).flush },
          { machine with storage := storage }) := by
  change ((match machine.storage.create path with
    | .error failure => _
    | .ok (place, storage) => _ :
      StateM Machine (Except Failure (OutputFile (StateM Machine)))) machine) = _
  cases machine.storage.create path with
  | error failure => rfl
  | ok created => rfl

theorem flush_sink (place : List Bytes) :
    (sink place : Sink (StateM Machine)).flush machine = (machine.storage.settle place, machine) :=
  rfl

end Machine
end BeaconCeremony

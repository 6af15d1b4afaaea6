import BeaconCeremony.CommandLine.Command
import BeaconCeremony.Machine
import BeaconCeremony.Text.Terminal

/-!
# The program on a model machine

The program as a function from the state of a machine to the state it leaves behind, with the way it
ends.  The standard streams of the machine are no terminals.
-/

namespace BeaconCeremony
namespace Machine

/-- A machine as what surrounds the program. -/
def system (environment : Environment) : CommandLine.System (StateM Machine) where
  host :=
    let plain : Host (StateM Machine) := host
    { plain with echo := fun line => plain.echo (line.mapStrings Text.withoutControls) }
  readFile path := return (← getThe Machine).storage.content path
  readInput := do
    let machine ← getThe Machine
    set { machine with input := [] }
    return .ok machine.input
  complain line := modifyThe Machine fun machine =>
    let shown := (line.mapStrings Text.withoutControls).escaped
    { machine with complaints := shown :: machine.complaints }
  environment := environment

/-- Runs the program with the given arguments. -/
def execute (machine : Machine) (environment : Environment) (arguments : List String) :
    CommandLine.Ending × Machine :=
  (CommandLine.Command.execute (system environment) arguments).run machine

end Machine
end BeaconCeremony

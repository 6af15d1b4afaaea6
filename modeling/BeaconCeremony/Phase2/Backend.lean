import BeaconCeremony.Phase2.Contribution
import BeaconCeremony.Pipeline.Basic

/-!
# Phase-two parameters as a format

The built-in format of contributions.  Parameters are verified when they are read.
-/

namespace BeaconCeremony
namespace Phase2

/-- The name of the built-in format. -/
def formatName : String := "bn254-phase2"

/-- The built-in format. -/
def backend {m : Type → Type} [Monad m] : Backend m Parameters where
  read source := Parameters.read true source
  contribute parameters generator tag :=
    let contribution := parameters.contribute generator tag
    pure
      { result := match contribution.result with
          | .ok fingerprint => .ok (.bytes fingerprint.bytes)
          | .error fault => .error (.value fault.message)
        parameters := contribution.parameters
        generator := contribution.generator }
  write parameters sink := parameters.write sink

end Phase2
end BeaconCeremony

import BeaconCeremony.Chain.Checkpoint
import BeaconCeremony.RawText

/-!
# The report of a contribution

The lines that an operator sees.  Together they are the public transcript of a run: the checkpoints
can be verified by others, and the fingerprint is meant to be compared by eye.
-/

namespace BeaconCeremony
namespace Report

/-- What the line with the final state starts with. -/
def finalLabel : String := "Final result of beacon:"

/-- The heading above a fingerprint. -/
def fingerprintHeading : String := "The BLAKE2b hash of your contribution is:"

/-- The line that announces the chain. -/
def announcement : String := "Creating a beacon RNG"

/-- The line of a checkpoint: its index and its state. -/
def checkpointLine (checkpoint : Checkpoint) : String :=
  toString checkpoint.index ++ ": " ++ checkpoint.hex

/-- One row of a fingerprint: a tab, then groups of four bytes, each with a space after it. -/
def fingerprintRow (row : Bytes) : String :=
  "\t" ++ String.join ((Bytes.piecesOf 3 row).map fun group => Hex.encode group ++ " ")

/-- A fingerprint in rows of sixteen bytes. -/
def fingerprintBlock (fingerprint : Bytes) : String :=
  "\n".intercalate ((Bytes.piecesOf 15 fingerprint).map fingerprintRow)

/-- The lines about the final state. -/
def finalLines (state : Bytes) : List String :=
  [finalLabel ++ " " ++ Hex.encode state, ""]

/-- The line about a contribution that starts. -/
def contributingLine (source : RawText) : RawText := "Contributing to `" ++ source ++ "`..."

/-- The lines about a fingerprint. -/
def fingerprintLines (fingerprint : Bytes) : List String :=
  [fingerprintHeading, "", fingerprintBlock fingerprint]

/-- The lines about parameters that have been written. -/
def writtenLines (destination : RawText) : List RawText :=
  ["", "Your contribution has been written to `" ++ destination ++ "`"]

end Report

/-- A reporter: whether it leaves out the checkpoint lines, and how many checkpoints it has seen. -/
structure Reporter where
  /-- Checkpoint lines are left out. -/
  quiet : Bool
  /-- Number of checkpoints reported, shown or not. -/
  checkpointsSeen : Nat := 0
deriving DecidableEq

/-- Takes note of a checkpoint; the line is shown unless the reporter is quiet. -/
def Reporter.checkpoint (reporter : Reporter) (checkpoint : Checkpoint) : List String × Reporter :=
  (if reporter.quiet then [] else [Report.checkpointLine checkpoint],
    { reporter with checkpointsSeen := reporter.checkpointsSeen + 1 })

end BeaconCeremony

import BeaconCeremony.Chain.Basic

/-!
# Verifying checkpoints

Checkpoints are verified by hashing from each of them to the next.  The list may be in any order
and may leave checkpoints out; it is sorted by index first, and checkpoints with the same index
keep their order.
-/

namespace BeaconCeremony
namespace Chain

/-- Hashes from one checkpoint to the index of another and compares the states. -/
def verifySegment (start stop : Checkpoint) : Except Error (Option Mismatch) :=
  if stop.index < start.index then .error (.reversedSegment stop.index start.index)
  else
    let got := start.digest.advance (stop.index - start.index)
    if got = stop.digest then .ok none
    else .ok (some ⟨start.index, stop.index, stop.digest.bytes, got.bytes⟩)

/-- The mismatches of the segments between neighbours, in their order. -/
def verifyNeighbours : List Checkpoint → Except Error (List Mismatch)
  | start :: stop :: rest => do
    let mismatch? ← verifySegment start stop
    let more ← verifyNeighbours (stop :: rest)
    return mismatch?.toList ++ more
  | _ => .ok []

/-- Whether an index is one of the checkpoints of a chain with this exponent. -/
def Exponent.onGrid (exponent : Exponent) (index : Nat) : Bool :=
  index % exponent.interval = 0 ∧ index < exponent.steps

/-- Verifies checkpoints of a chain with this exponent, and the segment to the end of the chain if
the final state is given and there is a checkpoint before it. -/
def verify (checkpoints : List Checkpoint) (exponent : Exponent) (final? : Option Bytes) :
    Except Error (List Mismatch) := do
  let ordered := checkpoints.mergeSort fun left right => left.index ≤ right.index
  match ordered.find? fun checkpoint => !exponent.onGrid checkpoint.index with
  | some stray => .error (.offGrid stray.index exponent)
  | none =>
    let mismatches ← verifyNeighbours ordered
    match final?, ordered.getLast? with
    | some final, some last =>
      let stop ← (Checkpoint.ofBytes exponent.steps final).mapError .record
      let mismatch? ← verifySegment last stop
      return mismatches ++ mismatch?.toList
    | _, _ => return mismatches

end Chain
end BeaconCeremony

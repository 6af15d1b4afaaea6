import BeaconCeremony.Bytes.Digest
import BeaconCeremony.Bytes.Hex
import BeaconCeremony.Datum.Hex
import BeaconCeremony.Datum.Literal

/-!
# Records of a beacon chain

A checkpoint is the chain state at an index, a derivation is a whole run of the chain, and a
mismatch is a segment whose end the transcript gives wrongly.  Records of data of unknown type name
the first field that is wrong; not every record asks for the type of its fields.
-/

namespace BeaconCeremony

/-- The first wrong field of a record. -/
inductive RecordError
  /-- The index is not a whole number. -/
  | indexKind
  | iterationsKind
  | negative (field : String) (given : Int)
  | notBytes (field : String)
  | length (field : String) (expected given : Nat)
  /-- A field of this kind has no length at all. -/
  | noLength (kind : String)
  | noHex (kind : String)
  | seedLength (given : Nat)
  | emptyFingerprint
deriving DecidableEq

/-- The text of a wrong field. -/
def RecordError.message : RecordError → String
  | .indexKind => "index must be an int"
  | .iterationsKind => "iterations must be int"
  | .negative field given => field ++ s!" must be non-negative (got {given})"
  | .notBytes field => field ++ " must be bytes"
  | .length field expected given => field ++ s!" must be exactly {expected} bytes (got {given})"
  | .noLength kind => "object of type '" ++ kind ++ "' has no len()"
  | .noHex kind => "'" ++ kind ++ "' object has no attribute 'hex'"
  | .seedLength given => s!"seed must have 8 words (got {given})"
  | .emptyFingerprint => "fingerprint must not be empty"

/-- The bytes as a digest of the given length. -/
def Digest.ofField (field : String) (size : Nat) (bytes : Bytes) :
    Except RecordError (Digest size) :=
  match Digest.ofBytes? size bytes with
  | some digest => .ok digest
  | none => .error (.length field size bytes.length)

/-- Refuses a field that does not have the given number of parts. -/
def RecordError.checkLength (field : String) (expected : Nat) (datum : Datum) :
    Except RecordError Unit :=
  match datum.size? with
  | none => .error (.noLength datum.kind)
  | some given => if given = expected then .ok () else .error (.length field expected given)

/-- The hexadecimal notation of a field. -/
def RecordError.hexField (datum : Datum) : Except RecordError String :=
  match datum.hex? with
  | some text => .ok text
  | none => .error (.noHex datum.fullKind)

/-- The chain state after `index` steps. -/
structure Checkpoint where
  /-- Number of steps before this state. -/
  index : Nat
  /-- The state. -/
  digest : Digest 32
deriving DecidableEq

namespace Checkpoint

/-- The state in hexadecimal notation. -/
def hex (checkpoint : Checkpoint) : String := Hex.encode checkpoint.digest.bytes

/-- A checkpoint with the given state, if that has the length of one. -/
def ofBytes (index : Nat) (bytes : Bytes) : Except RecordError Checkpoint :=
  (Digest.ofField "digest" 32 bytes).map (Checkpoint.mk index)

/-- A checkpoint from data of unknown type.  Truth values do not count as whole numbers. -/
def ofData (index digest : Datum) : Except RecordError Checkpoint :=
  match index with
  | .int index =>
    if index < 0 then .error (.negative "index" index)
    else
      match digest.asBytes? with
      | some bytes => ofBytes index.toNat bytes
      | none => .error (.notBytes "digest")
  | _ => .error .indexKind

end Checkpoint

/-- A run of a beacon chain of `2 ^ iterations` steps. -/
structure Derivation where
  /-- The state before the first step. -/
  beacon : Digest 32
  /-- The exponent of the number of steps. -/
  iterations : Nat
  /-- The state after the last step. -/
  final : Digest 32
  /-- The checkpoints passed on the way. -/
  checkpoints : List Checkpoint
deriving DecidableEq

namespace Derivation

/-- The number of steps. -/
def steps (derivation : Derivation) : Nat := Nat.pow 2 derivation.iterations

/-- The exponent of a derivation whose fields are data of unknown type.  The two states only need 32
parts; truth values count as whole numbers. -/
def exponentOfData (beacon iterations final : Datum) : Except RecordError Nat := do
  RecordError.checkLength "beacon" 32 beacon
  RecordError.checkLength "final" 32 final
  match iterations.asInt? with
  | none => .error .iterationsKind
  | some iterations =>
    if iterations < 0 then .error (.negative "iterations" iterations) else .ok iterations.toNat

end Derivation

/-- A segment of a chain whose end is not what hashing from its start gives. -/
structure Mismatch where
  /-- Index of the start. -/
  start : Int
  /-- Index of the end. -/
  stop : Int
  /-- The state recorded at the end. -/
  expected : Bytes
  /-- The state that hashing gives. -/
  got : Bytes
deriving DecidableEq

namespace Mismatch

/-- The text of a mismatch with the given texts of its fields. -/
def wording (start stop expected got : RawText) : RawText :=
  "mismatch " ++ start ++ "->" ++ stop ++ ": expected " ++ expected ++ " got " ++ got

/-- The operator-facing text of a mismatch. -/
def message (mismatch : Mismatch) : RawText :=
  wording (toString mismatch.start) (toString mismatch.stop) (Hex.encode mismatch.expected)
    (Hex.encode mismatch.got)

/-- The text of a mismatch whose fields are data of unknown type, which are shown in the order in
which they stand in it. -/
def messageOfData (start stop expected got : Datum) :
    Except RecordError (Except LiteralError RawText) :=
  match start.display Datum.usualDepth, stop.display Datum.usualDepth with
  | .ok start, .ok stop => do
    return .ok (wording start stop (← RecordError.hexField expected) (← RecordError.hexField got))
  | .error unshown, _ => .ok (.error unshown)
  | _, .error unshown => .ok (.error unshown)

end Mismatch
end BeaconCeremony

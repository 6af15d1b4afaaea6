import BeaconCeremony.Datum.Basic

/-!
# Byte strings in data of unknown type

Both kinds of byte string are taken where bytes are asked for; every other kind is refused by
name.
-/

namespace BeaconCeremony

/-- Why a datum is not the byte string that is asked for. -/
inductive BytesError
  | otherKind (kind : String)
  | wrongLength (name : String) (expected : Int) (given : Nat)
  | cut (error : Bytes.ChunkError)
deriving DecidableEq

/-- The text of a refusal. -/
def BytesError.message : BytesError → String
  | .otherKind kind => "expected bytes-like, got <class '" ++ kind ++ "'>"
  | .wrongLength name expected given => name ++ s!" must be {expected} bytes, got {given}"
  | .cut error => error.message

/-- Bytes of the given length; a refusal calls them by `name`. -/
def Bytes.ofLength (name : String) (expected : Int) (bytes : Bytes) : Except BytesError Bytes :=
  if (bytes.length : Int) = expected then .ok bytes
  else .error (.wrongLength name expected bytes.length)

namespace Datum

/-- The bytes of a datum. -/
def toBytes (datum : Datum) : Except BytesError Bytes :=
  match datum.asBytes? with
  | some content => .ok content
  | none => .error (.otherKind datum.kind)

/-- The bytes of a datum, which must have the given length. -/
def toBytesOfLength (name : String) (expected : Int) (datum : Datum) : Except BytesError Bytes := do
  Bytes.ofLength name expected (← datum.toBytes)

/-- The bytes of a datum in pieces of `size`.  The size is checked before the datum. -/
def chunks (datum : Datum) (size : Int) : Except BytesError (List Bytes) :=
  if size ≤ 0 then .error (.cut .emptyPiece)
  else do (Bytes.chunks (← datum.toBytes) size).mapError .cut

end Datum
end BeaconCeremony

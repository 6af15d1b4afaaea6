import BeaconCeremony.Datum.Basic
import BeaconCeremony.Number.Hexadecimal

/-!
# Data in hexadecimal notation

Byte strings and floating-point numbers have a hexadecimal notation; all other data have none.  Only
texts can be read as the hexadecimal notation of bytes.
-/

namespace BeaconCeremony
namespace Datum

/-- The hexadecimal notation of a datum. -/
def hex? : Datum → Option String
  | .bytes value => some (Hex.encode value)
  | .buffer value => some (Hex.encode value)
  | .float value => some value.hexText
  | _ => none

/-- The bytes that a datum writes in bare hexadecimal notation. -/
def decodeHex : Datum → Except Hex.Error Bytes
  | .text value => Hex.decode value
  | _ => .error .notText

end Datum
end BeaconCeremony

import BeaconCeremony.Bytes.Basic
import BeaconCeremony.RawText

/-!
# Hexadecimal notation

Bare hexadecimal text: two digits of either letter case for each byte, no prefix and no
separators.  Bytes are written with lower-case digits.
-/

namespace BeaconCeremony
namespace Hex

/-- The value of a hexadecimal digit. -/
def digit? (character : Char) : Option Nat :=
  if '0' ≤ character ∧ character ≤ '9' then some (character.toNat - '0'.toNat)
  else if 'a' ≤ character ∧ character ≤ 'f' then some (character.toNat - 'a'.toNat + 10)
  else if 'A' ≤ character ∧ character ≤ 'F' then some (character.toNat - 'A'.toNat + 10)
  else none

/-- Whether a character is a hexadecimal digit. -/
def isDigit (character : Char) : Bool := (digit? character).isSome

/-- The lower-case hexadecimal digit of a value below sixteen. -/
def digitChar (value : Nat) : Char :=
  Char.ofNat (if value < 10 then '0'.toNat + value else 'a'.toNat + (value - 10))

/-- The two digits of each byte. -/
def encodeChars (bytes : Bytes) : List Char :=
  bytes.flatMap fun byte => [digitChar (byte.toNat / 16), digitChar (byte.toNat % 16)]

/-- The bytes in lower-case hexadecimal notation. -/
def encode (bytes : Bytes) : String := String.ofList (encodeChars bytes)

/-- The bytes written by pairs of digits. -/
def decodeChars? : List Char → Option Bytes
  | [] => some []
  | [_] => none
  | high :: low :: rest => do
    let highValue ← digit? high
    let lowValue ← digit? low
    let bytes ← decodeChars? rest
    return UInt8.ofNat (16 * highValue + lowValue) :: bytes

/-- Why a text is not the hexadecimal notation of bytes. -/
inductive Error
  | notText
  | badCharacter
  | oddLength
  /-- A line feed takes the place of the digit at this position. -/
  | strayFeed (position : Nat)
deriving DecidableEq

/-- The operator-facing text of a refusal. -/
def Error.message : Error → String
  | .notText => "from_hex expects a str"
  | .badCharacter => "invalid hex string (characters, prefix or whitespace)"
  | .oddLength => "hex string must have an even number of nibbles"
  | .strayFeed position =>
    s!"non-hexadecimal number found in fromhex() arg at position {position}"

/-- Whether the text is made of hexadecimal digits, apart from a line feed at its very end. -/
def hasDigitsOnly (characters : List Char) : Bool :=
  characters.all isDigit ||
    (characters.getLast? == some '\n' && characters.dropLast.all isDigit)

/-- Reads bare hexadecimal text.  A line feed at the end gets past the test of the characters, but
then it counts as a digit and spoils the last pair or the even length. -/
def decode (text : RawText) : Except Error Bytes :=
  let characters := text.start.toList
  if !text.rest.isEmpty || !hasDigitsOnly characters then .error .badCharacter
  else if characters.length % 2 ≠ 0 then .error .oddLength
  else
    match decodeChars? characters with
    | some bytes => .ok bytes
    | none => .error (.strayFeed (characters.length - 1))

end Hex
end BeaconCeremony

import BeaconCeremony.Bytes.Basic

/-!
# Base 64

Lenient reading of base 64: characters that are no digits are passed over, and padding that
completes a group of four ends the content.
-/

namespace BeaconCeremony
namespace Base64

/-- The value of a digit. -/
def digit? (character : Char) : Option Nat :=
  if character.isUpper then some (character.toNat - 'A'.toNat)
  else if character.isLower then some (character.toNat - 'a'.toNat + 26)
  else if character.isDigit then some (character.toNat - '0'.toNat + 52)
  else if character = '+' then some 62
  else if character = '/' then some 63
  else none

/-- The bytes of the rest of a text, when `filled` digits of a group have been read, the last of
which leave `carry` over, with `pads` marks of padding after them. -/
def decodeFrom (filled carry pads : Nat) : List Char → Option Bytes
  | [] => if filled = 0 then some [] else none
  | character :: rest =>
    if character = '=' then
      if 2 ≤ filled ∧ 4 ≤ filled + (pads + 1) then some []
      else decodeFrom filled carry (if 2 ≤ filled then pads + 1 else pads) rest
    else
      match digit? character with
      | none => decodeFrom filled carry pads rest
      | some digit =>
        if filled = 0 then decodeFrom 1 digit 0 rest
        else if filled = 1 then
          (decodeFrom 2 (digit % 16) 0 rest).map (UInt8.ofNat (carry * 4 + digit / 16) :: ·)
        else if filled = 2 then
          (decodeFrom 3 (digit % 4) 0 rest).map (UInt8.ofNat (carry * 16 + digit / 4) :: ·)
        else (decodeFrom 0 0 0 rest).map (UInt8.ofNat (carry * 64 + digit) :: ·)

/-- The bytes that a text stands for. -/
def decode? (characters : List Char) : Option Bytes := decodeFrom 0 0 0 characters

end Base64
end BeaconCeremony

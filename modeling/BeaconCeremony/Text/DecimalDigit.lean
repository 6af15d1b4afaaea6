/-!
# Decimal digits

The decimal digits of Unicode 14.0 come in runs of ten, each in increasing order of value.  A run
is known by the code point of its zero.
-/

namespace BeaconCeremony
namespace Text

/-- The code points of the zeros, one for each run of ten digits. -/
def digitZeros : List Nat :=
  [0x30, 0x660, 0x6f0, 0x7c0, 0x966, 0x9e6, 0xa66, 0xae6, 0xb66, 0xbe6, 0xc66, 0xce6, 0xd66,
    0xde6, 0xe50, 0xed0, 0xf20, 0x1040, 0x1090, 0x17e0, 0x1810, 0x1946, 0x19d0, 0x1a80, 0x1a90,
    0x1b50, 0x1bb0, 0x1c40, 0x1c50, 0xa620, 0xa8d0, 0xa900, 0xa9d0, 0xa9f0, 0xaa50, 0xabf0, 0xff10,
    0x104a0, 0x10d30, 0x11066, 0x110f0, 0x11136, 0x111d0, 0x112f0, 0x11450, 0x114d0, 0x11650,
    0x116c0, 0x11730, 0x118e0, 0x11950, 0x11c50, 0x11d50, 0x11da0, 0x16a60, 0x16ac0, 0x16b50,
    0x1d7ce, 0x1d7d8, 0x1d7e2, 0x1d7ec, 0x1d7f6, 0x1e140, 0x1e2f0, 0x1e950, 0x1fbf0]

/-- The value of a decimal digit of any script. -/
def digit? (character : Char) : Option Nat :=
  (digitZeros.find? fun start => start ≤ character.toNat ∧ character.toNat < start + 10).map
    fun start => character.toNat - start

/-- Whether the character is a decimal digit of some script. -/
def isDigit (character : Char) : Bool := (digit? character).isSome

/-- The number written by a list of digits, most significant first. -/
def digitsValue (digits : List Nat) : Nat := digits.foldl (fun value digit => 10 * value + digit) 0

/-- The number written by characters that are all decimal digits. -/
def decimal? (characters : List Char) : Option Nat :=
  if characters.isEmpty then none else (characters.mapM digit?).map digitsValue

/-- The greatest number of digits that a number may be written with. -/
def maxDigits : Nat := 4300

/-- The text of the refusal to read a number with more digits than that. -/
def tooManyDigits (count : Nat) : String :=
  s!"Exceeds the limit (4300 digits) for integer string conversion: value has {count} " ++
    "digits; use sys.set_int_max_str_digits() to increase the limit"

/-- The text of the refusal to write such a number. -/
def tooManyDigitsToWrite : String :=
  "Exceeds the limit (4300 digits) for integer string conversion; use " ++
    "sys.set_int_max_str_digits() to increase the limit"

/-- The least number with more digits than that. -/
@[irreducible]
def leastUnwritten : Nat := Nat.pow 10 maxDigits

/-- The decimal notation of a whole number, unless it has too many digits to be written. -/
def written? (value : Int) : Option String :=
  if leastUnwritten ≤ value.natAbs then none else some (toString value)

end Text
end BeaconCeremony

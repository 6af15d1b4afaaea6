import BeaconCeremony.Text.Blank
import BeaconCeremony.Text.DecimalDigit

/-!
# Whole numbers as values of options

Options take whole numbers with some freedom: blanks around them, a sign, zeros in front, zeros
after a decimal point, and single underscores between digits.
-/

namespace BeaconCeremony
namespace CommandLine
namespace Integer

/-- Whether a character around a number is passed over. -/
def isPadding (character : Char) : Bool :=
  Text.isBlank character && !(0x1c ≤ character.toNat && character.toNat ≤ 0x1f)

/-- The characters without the blanks at both ends. -/
def trim (characters : List Char) : List Char :=
  ((characters.dropWhile isPadding).reverse.dropWhile isPadding).reverse

/-- The characters after a plus, if one comes first; no minus may follow it. -/
def dropPlus : List Char → Option (List Char)
  | '+' :: '-' :: _ => none
  | '+' :: rest => some rest
  | characters => some characters

/-- The characters from the first one on that is neither a zero nor an underscore, which may be a
minus.  One character before a decimal point is kept, and so is the last one if there are no
others. -/
def dropZeros (last : Char) : List Char → Option (List Char)
  | [] => some [last]
  | character :: rest =>
    if character == '0' || character == '_' then dropZeros character rest
    else if character == '.' then some (last :: character :: rest)
    else if character == '-' || ('1' ≤ character && character ≤ '9') then some (character :: rest)
    else none

/-- The characters without zeros in front. -/
def withoutZeros : List Char → Option (List Char)
  | '0' :: rest => dropZeros '0' rest
  | first :: rest => if '1' ≤ first ∧ first ≤ '9' then some (first :: rest) else none
  | [] => none

/-- The characters before a decimal point that zeros and nothing else follow. -/
def withoutFraction (characters : List Char) : List Char :=
  let whole := characters.takeWhile (· != '.')
  let fraction := characters.drop (whole.length + 1)
  if !fraction.isEmpty && fraction.all (· == '0') then whole else characters

/-- Whether underscores stand only between two other characters. -/
def separates : List Char → Bool
  | [] => true
  | ['_'] => false
  | '_' :: '_' :: _ => false
  | _ :: rest => separates rest

/-- The characters without underscores that separate others. -/
def withoutUnderscores (characters : List Char) : List Char :=
  if characters.head? != some '_' && separates characters then characters.filter (· != '_')
  else characters

/-- The number written by digits without zeros in front, of limited length. -/
def natural? (digits : List Char) : Option Nat :=
  if digits.isEmpty || !digits.all Char.isDigit || (digits.head? == some '0' && 1 < digits.length)
      || Text.maxDigits < digits.length
  then none
  else Text.decimal? digits

/-- Some characters without what their number does not depend on: zeros in front, a fraction of
zeros, and underscores. -/
def essential? (characters : List Char) : Option (List Char) :=
  (withoutZeros characters).map fun rest => withoutUnderscores (withoutFraction rest)

/-- The number written by digits after a minus. -/
def negative? (digits : List Char) : Option Int :=
  (natural? digits).map fun value => -(value : Int)

/-- Reads the value of an option as a whole number.  A minus stands in front or after zeros, but not
at both places. -/
def ofText? (text : String) : Option Int := do
  match ← dropPlus (trim text.toList) with
  | '-' :: rest => negative? (← essential? rest)
  | characters =>
    match ← essential? characters with
    | '-' :: digits => negative? digits
    | digits => (natural? digits).map fun value => (value : Int)

end Integer
end CommandLine
end BeaconCeremony

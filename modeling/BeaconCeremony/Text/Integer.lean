import BeaconCeremony.Text.Blank
import BeaconCeremony.Text.DecimalDigit
import BeaconCeremony.Text.Quoted

/-!
# Whole numbers in texts

Reads a whole number the way documents give it: blanks, a sign, a mark of the base, digits of any
script and blanks again.
-/

namespace BeaconCeremony
namespace Text

/-- Why a text is not a whole number. -/
inductive IntegerFault
  | malformed
  | tooLong (digits : Nat)
deriving DecidableEq

/-- The text of the refusal to read a number in a base; the text is shown in part if it is long. -/
def IntegerFault.message (base : Nat) (text : RawText) : IntegerFault → String
  | .malformed =>
    s!"invalid literal for int() with base {base}: " ++
      String.ofList ((quoted text).toList.take 200)
  | .tooLong digits => tooManyDigits digits

/-- A mark as numbers are read from it: digits of all scripts count as the common ones and blanks
beyond ASCII as spaces; no number has a question mark in it. -/
def numeral : Mark → Char
  | .half _ => '?'
  | .character character =>
    if character.toNat < 0x7f then character
    else if isBlank character then ' '
    else
      match digit? character with
      | some digit => Char.ofNat ('0'.toNat + digit)
      | none => '?'

/-- Whether a character is blank in ASCII. -/
def isSpace (character : Char) : Bool :=
  character == ' ' || (0x09 ≤ character.toNat && character.toNat ≤ 0x0d)

/-- A sign, if one comes first, and what follows it. -/
def takeSign : List Char → Bool × List Char
  | '-' :: rest => (true, rest)
  | '+' :: rest => (false, rest)
  | characters => (false, characters)

/-- A number with or without a minus. -/
def signed (negative : Bool) (magnitude : Nat) : Int := if negative then -magnitude else magnitude

/-- The letter that marks a base after a zero. -/
def baseMark? (base : Nat) : Option Char :=
  if base = 2 then some 'b' else if base = 8 then some 'o' else if base = 16 then some 'x' else none

/-- The characters after the mark of a base, if it comes first. -/
def dropBaseMark (base : Nat) (characters : List Char) : List Char :=
  match characters with
  | '0' :: mark :: rest => if baseMark? base = some mark.toLower then rest else characters
  | _ => characters

/-- The value of a digit of a base up to sixteen. -/
def baseDigit? (base : Nat) (character : Char) : Option Nat :=
  let value? :=
    if character.isDigit then some (character.toNat - '0'.toNat)
    else if 'a' ≤ character.toLower ∧ character.toLower ≤ 'f' then
      some (character.toLower.toNat - 'a'.toNat + 10)
    else none
  value?.filter (· < base)

/-- The leading digits of a base as values, and what follows them. -/
def takeDigits (base : Nat) : List Char → List Nat × List Char
  | [] => ([], [])
  | character :: rest =>
    match baseDigit? base character with
    | some digit =>
      let (digits, tail) := takeDigits base rest
      (digit :: digits, tail)
    | none => ([], character :: rest)

/-- Reads a whole number in a base.  In base ten the number of digits is limited. -/
def integerInBase (base : Nat) (text : RawText) : Except IntegerFault Int :=
  let (negative, unsigned) := takeSign ((text.marks.map numeral).dropWhile isSpace)
  let (digits, tail) := takeDigits base (dropBaseMark base unsigned)
  if base = 10 ∧ maxDigits < digits.length then .error (.tooLong digits.length)
  else if digits.isEmpty || !tail.all isSpace then .error .malformed
  else .ok (signed negative (digits.foldl (fun value digit => base * value + digit) 0))

end Text
end BeaconCeremony

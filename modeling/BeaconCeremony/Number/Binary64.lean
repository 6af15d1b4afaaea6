/-!
# Binary floating-point numbers

Numbers of 64 bits as exact values `significand * 2 ^ exponent`, rounded from ratios to the nearest
with ties to even.  The text of a number has the fewest digits that read back as the same number;
it is positional for decimal exponents from -4 to 15.
-/

namespace BeaconCeremony

/-- A binary floating-point number with 53 significant bits. -/
inductive Binary64
  /-- Not a number. -/
  | nan
  /-- An infinity. -/
  | infinite (negative : Bool)
  /-- The number `significand * 2 ^ exponent` with a sign. -/
  | finite (negative : Bool) (significand : Nat) (exponent : Int)
deriving DecidableEq

namespace Binary64

/-- The least exponent of a number. -/
def minExponent : Int := -1074

/-- The greatest exponent of a number. -/
def maxExponent : Int := 971

/-- A quotient rounded to the nearest whole number, a half to the even neighbour. -/
def roundedQuotient (numerator denominator : Nat) : Nat :=
  let quotient := numerator / denominator
  let twice := 2 * (numerator % denominator)
  if twice < denominator then quotient
  else if denominator < twice then quotient + 1
  else quotient + quotient % 2

/-- A quotient divided by a power of two and rounded. -/
def scaledQuotient (numerator denominator : Nat) (exponent : Int) : Nat :=
  if 0 ≤ exponent then roundedQuotient numerator (denominator <<< exponent.toNat)
  else roundedQuotient (numerator <<< (-exponent).toNat) denominator

/-- The significands lie below `2 ^ 53`. -/
def significandEnd : Nat := 0x20000000000000

/-- The number nearest to a ratio. -/
def ofRatio (negative : Bool) (numerator denominator : Nat) : Binary64 :=
  if numerator = 0 then .finite negative 0 minExponent
  else
    let guess : Int := (numerator.log2 : Int) - (denominator.log2 : Int) - 53
    let lower := max guess minExponent
    let settled :=
      if scaledQuotient numerator denominator lower < significandEnd then lower else lower + 1
    let significand := scaledQuotient numerator denominator settled
    let (significand, exponent) :=
      if significand = significandEnd then (significandEnd / 2, settled + 1)
      else (significand, settled)
    if maxExponent < exponent then .infinite negative
    else .finite negative significand exponent

/-- A power of ten. -/
def powerOfTen (exponent : Nat) : Nat := Nat.pow 10 exponent

/-- The number nearest to `digits * 10 ^ exponent`. -/
def ofDecimal (negative : Bool) (digits : Nat) (exponent : Int) : Binary64 :=
  let magnitude : Int := exponent + (Nat.toDigits 10 digits).length
  if digits = 0 ∨ magnitude < -330 then .finite negative 0 minExponent
  else if 310 < magnitude then .infinite negative
  else if 0 ≤ exponent then ofRatio negative (digits * powerOfTen exponent.toNat) 1
  else ofRatio negative digits (powerOfTen (-exponent).toNat)

/-- The number nearest to a whole number. -/
def ofInt (value : Int) : Binary64 := ofRatio (value < 0) value.natAbs 1

/-- The number nearest to `value * 2 ^ exponent`. -/
def ofScaled (value exponent : Int) : Binary64 :=
  if 0 ≤ exponent then ofRatio (value < 0) (value.natAbs <<< exponent.toNat) 1
  else ofRatio (value < 0) value.natAbs (1 <<< (-exponent).toNat)

/-- The number with the other sign. -/
def negate : Binary64 → Binary64
  | .nan => .nan
  | .infinite negative => .infinite (!negative)
  | .finite negative significand exponent => .finite (!negative) significand exponent

/-- The significand with its sign. -/
def signedSignificand (negative : Bool) (significand : Nat) : Int :=
  if negative then -significand else significand

/-- Whether the sign of a number that is not zero is a minus. -/
def isNegative : Binary64 → Bool
  | .nan => false
  | .infinite negative => negative
  | .finite negative _ _ => negative

/-- Whether the number is zero. -/
def isZero : Binary64 → Bool
  | .finite _ significand _ => significand == 0
  | _ => false

/-- The product of two numbers. -/
def multiply (left right : Binary64) : Binary64 :=
  let negative := left.isNegative != right.isNegative
  match left, right with
  | .nan, _ => .nan
  | _, .nan => .nan
  | .infinite _, other => if other.isZero then .nan else .infinite negative
  | other, .infinite _ => if other.isZero then .nan else .infinite negative
  | .finite _ significand exponent, .finite _ significand' exponent' =>
    let product := significand * significand'
    let place := exponent + exponent'
    if product = 0 then .finite negative 0 minExponent
    else if 0 ≤ place then ofRatio negative (product <<< place.toNat) 1
    else ofRatio negative product (1 <<< (-place).toNat)

/-- Whether `first * 2 ^ exponent` is less than `second * 2 ^ exponent'`. -/
def scaledLess (first exponent second exponent' : Int) : Bool :=
  let least := min exponent exponent'
  first * (1 <<< (exponent - least).toNat : Nat) <
    second * (1 <<< (exponent' - least).toNat : Nat)

/-- Whether one number is less than another. -/
def isLess : Binary64 → Binary64 → Bool
  | .nan, _ => false
  | _, .nan => false
  | .infinite negative, .infinite negative' => negative && !negative'
  | .infinite negative, _ => negative
  | _, .infinite negative => !negative
  | .finite negative significand exponent, .finite negative' significand' exponent' =>
    scaledLess (signedSignificand negative significand) exponent
      (signedSignificand negative' significand') exponent'

/-- The sum of two numbers. -/
def add : Binary64 → Binary64 → Binary64
  | .finite negative significand exponent, .finite negative' significand' exponent' =>
    let least := min exponent exponent'
    ofScaled
      (signedSignificand negative (significand <<< (exponent - least).toNat) +
        signedSignificand negative' (significand' <<< (exponent' - least).toNat)) least
  | .infinite negative, .infinite negative' =>
    if negative = negative' then .infinite negative else .nan
  | .nan, _ => .nan
  | _, .nan => .nan
  | .infinite negative, _ => .infinite negative
  | _, .infinite negative => .infinite negative

/-- The whole number equal to this one, if there is one. -/
def toInt? : Binary64 → Option Int
  | .finite negative significand exponent =>
    let sign (magnitude : Nat) : Int := if negative then -magnitude else magnitude
    if 0 ≤ exponent then some (sign (significand <<< exponent.toNat))
    else
      let unit := 1 <<< (-exponent).toNat
      if significand % unit = 0 then some (sign (significand / unit)) else none
  | _ => none

/-- A decimal that reads back as the given positive number, with as many digits as `count` asks
for, the nearer of the two neighbours first.  `scale` is the place before the first digit. -/
def decimalWith? (numerator denominator : Nat) (target : Binary64) (scale : Int) (count : Nat) :
    Option (Nat × Int) :=
  let place : Int := scale - count
  let (top, bottom) :=
    if 0 ≤ place then (numerator, denominator * powerOfTen place.toNat)
    else (numerator * powerOfTen (-place).toNat, denominator)
  let below := top / bottom
  let nearest := roundedQuotient top bottom
  let other := if nearest = below then below + 1 else below
  if ofDecimal false nearest place = target then some (nearest, place)
  else if ofDecimal false other place = target then some (other, place)
  else none

/-- The fewest digits that read back, with the place of the last one; `count` digits are tried
first and up to `more` further ones after that. -/
def fewestDigits (numerator denominator : Nat) (target : Binary64) (scale : Int) (count : Nat) :
    Nat → Nat × Int
  | 0 => (0, 0)
  | more + 1 =>
    match decimalWith? numerator denominator target scale count with
    | some found => found
    | none => fewestDigits numerator denominator target scale (count + 1) more

/-- The least place `scale` from `place` up with the ratio below `10 ^ scale`. -/
def scaleFrom (numerator denominator : Nat) (place : Int) : Nat → Int
  | 0 => place
  | more + 1 =>
    let fits :=
      if 0 ≤ place then numerator < denominator * powerOfTen place.toNat
      else numerator * powerOfTen (-place).toNat < denominator
    if fits then place else scaleFrom numerator denominator (place + 1) more

/-- The digits of a positive number without trailing zeros, and the place of the decimal point
counted from the first of them. -/
def shortest (significand : Nat) (exponent : Int) : List Char × Int :=
  let (numerator, denominator) :=
    if 0 ≤ exponent then (significand <<< exponent.toNat, 1)
    else (significand, 1 <<< (-exponent).toNat)
  let guess : Int := ((numerator.log2 : Int) - (denominator.log2 : Int) - 1) * 30103 / 100000 - 1
  let scale := scaleFrom numerator denominator guess 4
  let target := Binary64.finite false significand exponent
  let (digits, place) := fewestDigits numerator denominator target scale 1 17
  let characters := Nat.toDigits 10 digits
  let point : Int := characters.length + place
  ((characters.reverse.dropWhile (· == '0')).reverse, point)

/-- Digits with a decimal point after `point` of them, and a zero on a side that has none. -/
def positional (digits : List Char) (point : Int) : List Char :=
  if point ≤ 0 then '0' :: '.' :: (List.replicate (-point).toNat '0' ++ digits)
  else
    let whole := digits.take point.toNat
    let fraction := digits.drop point.toNat
    whole ++ List.replicate (point.toNat - digits.length) '0' ++
      '.' :: (if fraction.isEmpty then ['0'] else fraction)

/-- Digits with a decimal point after the first one and a power of ten. -/
def scientific (digits : List Char) (power : Int) : List Char :=
  let magnitude := Nat.toDigits 10 power.natAbs
  let fraction := digits.drop 1
  digits.take 1 ++ (if fraction.isEmpty then [] else '.' :: fraction) ++
    'e' :: (if power < 0 then '-' else '+') ::
      (List.replicate (2 - magnitude.length) '0' ++ magnitude)

/-- The shortest text of a number. -/
def text : Binary64 → String
  | .nan => "nan"
  | .infinite negative => if negative then "-inf" else "inf"
  | .finite negative significand exponent =>
    let unsigned :=
      if significand = 0 then ['0', '.', '0']
      else
        let (digits, point) := shortest significand exponent
        if -4 < point ∧ point ≤ 16 then positional digits point
        else scientific digits (point - 1)
    String.ofList (if negative then '-' :: unsigned else unsigned)

/-- The leading ASCII digits of some characters, as values, and what follows them. -/
def takeDigits : List Char → List Nat × List Char
  | [] => ([], [])
  | character :: rest =>
    if '0' ≤ character ∧ character ≤ '9' then
      let (digits, tail) := takeDigits rest
      ((character.toNat - '0'.toNat) :: digits, tail)
    else ([], character :: rest)

/-- The value of a list of digits. -/
def digitsValue (digits : List Nat) : Nat := digits.foldl (fun value digit => 10 * value + digit) 0

/-- A sign, if one comes first, and what follows it. -/
def takeSign : List Char → Bool × List Char
  | '-' :: rest => (true, rest)
  | '+' :: rest => (false, rest)
  | characters => (false, characters)

/-- A power of ten in scientific notation that takes up all of the characters. -/
def exponent? (characters : List Char) : Option Int :=
  match characters with
  | [] => some 0
  | mark :: rest =>
    if mark = 'e' ∨ mark = 'E' then
      let (negative, rest) := takeSign rest
      let (digits, tail) := takeDigits rest
      if digits.isEmpty ∨ ¬ tail.isEmpty then none
      else some (if negative then -(digitsValue digits : Int) else digitsValue digits)
    else none

/-- A decimal fraction with an optional power of ten. -/
def unsigned? (negative : Bool) (characters : List Char) : Option Binary64 :=
  let (whole, rest) := takeDigits characters
  let (fraction, rest) :=
    match rest with
    | '.' :: rest => takeDigits rest
    | _ => ([], rest)
  if whole.isEmpty ∧ fraction.isEmpty then none
  else (exponent? rest).map fun power =>
    ofDecimal negative (digitsValue (whole ++ fraction)) (power - fraction.length)

/-- Reads a number: an optional sign, then digits with at most one point among them and an
optional power of ten, or a name of an infinity or of the absence of a number. -/
def ofText? (source : String) : Option Binary64 :=
  let (negative, rest) := takeSign source.toList
  let name := String.ofList (rest.map Char.toLower)
  if name = "inf" ∨ name = "infinity" then some (.infinite negative)
  else if name = "nan" then some .nan
  else unsigned? negative rest

end Binary64
end BeaconCeremony

import BeaconCeremony.Number.Binary64
import BeaconCeremony.Yaml.Timestamp

/-!
# Tags

A tag names the type of a node.  A plain scalar without a tag gets one from the way it is written,
by the rules of YAML 1.1: `yes` and `off` are truth values, and numbers may be written in base 60.
-/

namespace BeaconCeremony
namespace Yaml

/-- What the tags of the language start with. -/
def tagPrefix : String := "tag:yaml.org,2002:"

namespace Tag

/-- The tag of the absent value. -/
def null : String := tagPrefix ++ "null"
/-- The tag of truth values. -/
def bool : String := tagPrefix ++ "bool"
/-- The tag of whole numbers. -/
def int : String := tagPrefix ++ "int"
/-- The tag of floating-point numbers. -/
def float : String := tagPrefix ++ "float"
/-- The tag of byte strings. -/
def binary : String := tagPrefix ++ "binary"
/-- The tag of dates and points in time. -/
def timestamp : String := tagPrefix ++ "timestamp"
/-- The tag of texts. -/
def text : String := tagPrefix ++ "str"
/-- The tag of lists. -/
def list : String := tagPrefix ++ "seq"
/-- The tag of mappings. -/
def map : String := tagPrefix ++ "map"
/-- The tag of mappings that are written as lists. -/
def orderedMap : String := tagPrefix ++ "omap"
/-- The tag of lists of pairs. -/
def pairs : String := tagPrefix ++ "pairs"
/-- The tag of sets. -/
def set : String := tagPrefix ++ "set"
/-- The tag of the key whose value is merged into the mapping around it. -/
def merge : String := tagPrefix ++ "merge"
/-- The tag of the key that stands for the mapping as a whole. -/
def default : String := tagPrefix ++ "value"

end Tag

/-- The characters after a sign, if one comes first. -/
def dropSign : List Char → List Char
  | '+' :: rest => rest
  | '-' :: rest => rest
  | characters => characters

/-- Whether a character is a digit or an underscore. -/
def isLooseDigit (character : Char) : Bool := character.isDigit || character == '_'

/-- Whether the characters are a power of ten with a sign, or nothing. -/
def isExponent : List Char → Bool
  | [] => true
  | mark :: sign :: digits =>
    (mark == 'e' || mark == 'E') && (sign == '+' || sign == '-') && !digits.isEmpty &&
      digits.all Char.isDigit
  | _ => false

/-- The characters after places of base 60, each a colon and one or two digits; nothing if there are
other digits. -/
def afterSixtieths : List Char → Option (List Char)
  | ':' :: first :: second :: rest =>
    if !first.isDigit then none
    else if second.isDigit then if first ≤ '5' then afterSixtieths rest else none
    else afterSixtieths (second :: rest)
  | [':', digit] => if digit.isDigit then some [] else none
  | characters => if characters.head? == some ':' then none else some characters

/-- Whether a plain scalar is a truth value. -/
def isBool (text : String) : Bool :=
  ["yes", "Yes", "YES", "no", "No", "NO", "true", "True", "TRUE", "false", "False", "FALSE", "on",
    "On", "ON", "off", "Off", "OFF"].contains text

/-- Whether a plain scalar is a floating-point number. -/
def isFloat (characters : List Char) : Bool :=
  let unsigned := dropSign characters
  match unsigned with
  | [] => false
  | '.' :: rest =>
    let name := String.ofList rest
    ["inf", "Inf", "INF"].contains name ||
      (characters == unsigned &&
        (["nan", "NaN", "NAN"].contains name ||
          (rest.head?.any Char.isDigit && isExponent (rest.dropWhile isLooseDigit))))
  | first :: rest =>
    first.isDigit &&
      match rest.dropWhile isLooseDigit with
      | '.' :: rest => isExponent (rest.dropWhile isLooseDigit)
      | ':' :: rest =>
        match afterSixtieths (':' :: rest) with
        | some ('.' :: rest) => rest.all isLooseDigit
        | _ => false
      | _ => false

/-- Whether a plain scalar is a whole number. -/
def isInt (characters : List Char) : Bool :=
  match dropSign characters with
  | [] => false
  | ['0'] => true
  | '0' :: 'b' :: digits =>
    !digits.isEmpty && digits.all fun digit => digit == '0' || digit == '1' || digit == '_'
  | '0' :: 'x' :: digits =>
    !digits.isEmpty && digits.all fun digit => Hex.isDigit digit || digit == '_'
  | '0' :: digits => digits.all fun digit => ('0' ≤ digit && digit ≤ '7') || digit == '_'
  | first :: rest =>
    first.isDigit && afterSixtieths (rest.dropWhile isLooseDigit) == some []

/-- Whether a plain scalar is the absent value. -/
def isNull (text : String) : Bool := ["", "~", "null", "Null", "NULL"].contains text

/-- The tag of a plain scalar without halves of surrogate pairs.  A line break at its end does not
count, unless there is nothing else. -/
def stringTag (written : String) : String :=
  let characters := withoutLastBreak written.toList
  let text := String.ofList characters
  if written == "\n" then Tag.text
  else if isBool text then Tag.bool
  else if isFloat characters then Tag.float
  else if isInt characters then Tag.int
  else if text == "<<" then Tag.merge
  else if isNull text then Tag.null
  else if (Timestamp.ofCharacters? written.toList).any Timestamp.isPlain then Tag.timestamp
  else if text == "=" then Tag.default
  else if text == "!" || text == "&" || text == "*" then tagPrefix ++ "yaml"
  else Tag.text

/-- The tag of a plain scalar. -/
def plainTag (written : RawText) : String := (written.string?.map stringTag).getD Tag.text

end Yaml
end BeaconCeremony

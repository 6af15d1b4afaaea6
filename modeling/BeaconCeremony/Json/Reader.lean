import BeaconCeremony.Datum.Basic
import BeaconCeremony.Text.DecimalDigit
import BeaconCeremony.Bytes.Hex

/-!
# Reading JSON

A JSON document is one value with blanks around it.  Beyond the standard, `NaN` and the infinities
are numbers.  Of two members with the same name the later one counts.  The two halves of a surrogate
pair next to each other are one character; a half alone remains as it is.
-/

namespace BeaconCeremony
namespace Json

/-- What is wrong at some place of a document. -/
inductive Fault
  | noValue
  | noName
  | noColon
  | noComma
  | openText
  | controlCharacter
  | badEscape
  | badUnicodeEscape
  | extraData
  | byteOrderMark
  | longNumber (digits : Nat)
deriving DecidableEq

/-- The text of a fault. -/
def Fault.reason : Fault → String
  | .noValue => "Expecting value"
  | .noName => "Expecting property name enclosed in double quotes"
  | .noColon => "Expecting ':' delimiter"
  | .noComma => "Expecting ',' delimiter"
  | .openText => "Unterminated string starting at"
  | .controlCharacter => "Invalid control character at"
  | .badEscape => "Invalid \\escape"
  | .badUnicodeEscape => "Invalid \\uXXXX escape"
  | .extraData => "Extra data"
  | .byteOrderMark => "Unexpected UTF-8 BOM (decode using utf-8-sig)"
  | .longNumber digits => Text.tooManyDigits digits

/-- A fault together with the number of characters from its place to the end of the document. -/
structure Stop where
  /-- What is wrong. -/
  fault : Fault
  /-- How many characters are left. -/
  left : Nat
deriving DecidableEq

/-- Stops with a fault in front of some characters. -/
def stop {α : Type} (fault : Fault) (characters : List Char) : Except Stop α :=
  .error ⟨fault, characters.length⟩

/-- Whether a character may stand between the parts of a document. -/
def isBlank (character : Char) : Bool :=
  character == ' ' || character == '\t' || character == '\n' || character == '\r'

/-- The characters after the blanks. -/
def skipBlanks (characters : List Char) : List Char := characters.dropWhile isBlank

/-- The character that a backslash and the given one stand for. -/
def escaped? : Char → Option Char
  | '"' => some '"'
  | '\\' => some '\\'
  | '/' => some '/'
  | 'b' => some '\x08'
  | 'f' => some '\x0c'
  | 'n' => some '\n'
  | 'r' => some '\r'
  | 't' => some '\t'
  | _ => none

/-- The number written by four hexadecimal digits. -/
def unit? (first second third fourth : Char) : Option Nat := do
  let a ← Hex.digit? first
  let b ← Hex.digit? second
  let c ← Hex.digit? third
  let d ← Hex.digit? fourth
  return ((a * 16 + b) * 16 + c) * 16 + d

/-- The code units of a text up to its closing quote, and what follows it; nothing if there is no
closing quote.  A unit is a code point or half of a surrogate pair; an escape of one cannot be at
the very end. -/
def units : List Char → Except (Option Stop) (List Nat × List Char)
  | [] => .error none
  | '"' :: rest => .ok ([], rest)
  | '\\' :: 'u' :: first :: second :: third :: fourth :: rest =>
    match (unit? first second third fourth).filter fun _ => !rest.isEmpty with
    | none => .error (some ⟨.badUnicodeEscape, rest.length + 5⟩)
    | some unit => do
      let (more, rest) ← units rest
      return (unit :: more, rest)
  | '\\' :: mark :: rest =>
    if mark = 'u' then .error (some ⟨.badUnicodeEscape, rest.length + 1⟩)
    else
      match escaped? mark with
      | none => .error (some ⟨.badEscape, rest.length + 2⟩)
      | some character => do
        let (more, rest) ← units rest
        return (character.toNat :: more, rest)
  | character :: rest =>
    if character = '\\' then .error none
    else if character.toNat < 0x20 then .error (some ⟨.controlCharacter, rest.length + 1⟩)
    else do
      let (more, rest) ← units rest
      return (character.toNat :: more, rest)

/-- Whether a unit is the first half of a surrogate pair. -/
def isHighSurrogate (unit : Nat) : Bool := 0xd800 ≤ unit && unit < 0xdc00

/-- Whether a unit is the second half of a surrogate pair. -/
def isLowSurrogate (unit : Nat) : Bool := 0xdc00 ≤ unit && unit < 0xe000

/-- The marks of some units. -/
def joinUnits : List Nat → List Mark
  | [] => []
  | [unit] => [.ofPoint unit]
  | high :: low :: rest =>
    if isHighSurrogate high && isLowSurrogate low then
      .ofPoint (0x10000 + (high - 0xd800) * 0x400 + (low - 0xdc00)) :: joinUnits rest
    else .ofPoint high :: joinUnits (low :: rest)

/-- Reads a text whose opening quote has been read. -/
def text (characters : List Char) : Except Stop (RawText × List Char) :=
  match units characters with
  | .ok (units, rest) => .ok (.ofMarks (joinUnits units), rest)
  | .error (some stop) => .error stop
  | .error none => .error ⟨.openText, characters.length + 1⟩

/-- Whether a character is an ASCII digit. -/
def isDigit (character : Char) : Bool := '0' ≤ character && character ≤ '9'

/-- The digits before the point of a number: a single zero, or digits that start with another. -/
def wholePart : List Char → List Char
  | '0' :: _ => ['0']
  | characters => characters.takeWhile isDigit

/-- The point of a number and the digits after it, if there are any. -/
def fractionPart : List Char → List Char
  | '.' :: rest => if (rest.takeWhile isDigit).isEmpty then [] else '.' :: rest.takeWhile isDigit
  | _ => []

/-- The power of ten of a number in scientific notation. -/
def exponentPart : List Char → List Char
  | mark :: rest =>
    if mark = 'e' ∨ mark = 'E' then
      let sign := match rest with
        | '+' :: _ => ['+']
        | '-' :: _ => ['-']
        | _ => []
      let digits := (rest.drop sign.length).takeWhile isDigit
      if digits.isEmpty then [] else mark :: sign ++ digits
    else []
  | [] => []

/-- Reads a number. -/
def number (characters : List Char) : Except Stop (Datum × List Char) :=
  let sign := match characters with
    | '-' :: _ => ['-']
    | _ => []
  let whole := wholePart (characters.drop sign.length)
  if whole.isEmpty then stop .noValue characters
  else
    let rest := characters.drop (sign.length + whole.length)
    let fraction := fractionPart rest
    let exponent := exponentPart (rest.drop fraction.length)
    let rest := rest.drop (fraction.length + exponent.length)
    if fraction.isEmpty && exponent.isEmpty then
      if Text.maxDigits < whole.length then stop (.longNumber whole.length) characters
      else
        let magnitude := Text.digitsValue (whole.map fun digit => digit.toNat - '0'.toNat)
        .ok (.int (if sign.isEmpty then magnitude else -magnitude), rest)
    else
      match Binary64.ofText? (String.ofList (sign ++ whole ++ fraction ++ exponent)) with
      | some value => .ok (.float value, rest)
      | none => stop .noValue characters

mutual

/-- Reads a value; `fuel` bounds the parts read on the way. -/
def value (fuel : Nat) (characters : List Char) : Except Stop (Datum × List Char) :=
  match fuel with
  | 0 => stop .noValue characters
  | fuel + 1 =>
    match characters with
    | '"' :: rest => do
      let (content, rest) ← text rest
      return (.text content, rest)
    | '{' :: rest =>
      match skipBlanks rest with
      | '}' :: rest => .ok (.map [], rest)
      | rest => members fuel [] rest
    | '[' :: rest =>
      match skipBlanks rest with
      | ']' :: rest => .ok (.list [], rest)
      | rest => items fuel [] rest
    | 'n' :: 'u' :: 'l' :: 'l' :: rest => .ok (.null, rest)
    | 't' :: 'r' :: 'u' :: 'e' :: rest => .ok (.bool true, rest)
    | 'f' :: 'a' :: 'l' :: 's' :: 'e' :: rest => .ok (.bool false, rest)
    | 'N' :: 'a' :: 'N' :: rest => .ok (.float .nan, rest)
    | 'I' :: 'n' :: 'f' :: 'i' :: 'n' :: 'i' :: 't' :: 'y' :: rest =>
      .ok (.float (.infinite false), rest)
    | '-' :: 'I' :: 'n' :: 'f' :: 'i' :: 'n' :: 'i' :: 't' :: 'y' :: rest =>
      .ok (.float (.infinite true), rest)
    | _ => number characters

/-- Reads the items of a list that follow those in `before`, which are in reverse order. -/
def items (fuel : Nat) (before : List Datum) (characters : List Char) :
    Except Stop (Datum × List Char) :=
  match fuel with
  | 0 => stop .noValue characters
  | fuel + 1 => do
    let (item, rest) ← value fuel characters
    match skipBlanks rest with
    | ',' :: rest => items fuel (item :: before) (skipBlanks rest)
    | ']' :: rest => return (.list (item :: before).reverse, rest)
    | rest => stop .noComma rest

/-- Reads the members of a mapping that follow those in `before`. -/
def members (fuel : Nat) (before : List (Datum × Datum)) (characters : List Char) :
    Except Stop (Datum × List Char) :=
  match fuel with
  | 0 => stop .noValue characters
  | fuel + 1 =>
    match characters with
    | '"' :: rest => do
      let (name, rest) ← text rest
      match skipBlanks rest with
      | ':' :: rest =>
        let (item, rest) ← value fuel (skipBlanks rest)
        let entries := Datum.insertEntry before (.text name) item
        match skipBlanks rest with
        | ',' :: rest => members fuel entries (skipBlanks rest)
        | '}' :: rest => return (.map entries, rest)
        | rest => stop .noComma rest
      | rest => stop .noColon rest
    | _ => stop .noName characters

end

/-- Reads the characters of a document. -/
def document (characters : List Char) : Except Stop Datum := do
  if characters.head? = some '\ufeff' then stop .byteOrderMark characters
  else
    let (value, rest) ← value (2 * characters.length + 2) (skipBlanks characters)
    match skipBlanks rest with
    | [] => return value
    | rest => stop .extraData rest

/-- Why a text is not a JSON document. -/
inductive ReadError
  | malformed (fault : Fault) (line column position : Nat)
  | longNumber (digits : Nat)
deriving DecidableEq

/-- The text of an error. -/
def ReadError.message : ReadError → String
  | .malformed fault line column position =>
    fault.reason ++ s!": line {line} column {column} (char {position})"
  | .longNumber digits => Text.tooManyDigits digits

/-- The error of a stop in a document, with lines and columns counted from one. -/
def Stop.error (characters : List Char) (stop : Stop) : ReadError :=
  match stop.fault with
  | .longNumber digits => .longNumber digits
  | fault =>
    let position := characters.length - stop.left
    let before := characters.take position
    let column := (before.reverse.takeWhile (· != '\n')).length + 1
    .malformed fault (before.count '\n' + 1) column position

/-- Reads a JSON document. -/
def read (source : String) : Except ReadError Datum :=
  (document source.toList).mapError (Stop.error source.toList)

end Json
end BeaconCeremony

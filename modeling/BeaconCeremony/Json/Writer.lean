import BeaconCeremony.Datum.Order
import BeaconCeremony.Text.DecimalDigit
import BeaconCeremony.Text.Quoted

/-!
# Writing JSON

Documents are written in ASCII, with the members of every mapping sorted by name.  Characters beyond
ASCII are written as escapes, those beyond the first plane as surrogate pairs; so a character and
the two halves of its pair look the same.
-/

namespace BeaconCeremony
namespace Json

/-- How the parts of a document are set: all on one line, or each on a line of its own with so many
spaces in front for every level. -/
inductive Layout
  | flat
  | indented (width : Nat)
deriving DecidableEq

namespace Layout

/-- What stands before the parts on a level. -/
def lineStart (layout : Layout) (level : Nat) : List Char :=
  match layout with
  | .flat => []
  | .indented width => '\n' :: List.replicate (width * level) ' '

/-- What stands between two parts on a level. -/
def separator (layout : Layout) (level : Nat) : List Char :=
  match layout with
  | .flat => [',', ' ']
  | .indented _ => ',' :: layout.lineStart level

end Layout

/-- Why a datum has no JSON form. -/
inductive WriteError
  | noForm (kind : String)
  | badName (kind : String)
  | longNumber
  | endless
  | noOrder (error : Datum.OrderError)
deriving DecidableEq

/-- The text of a refusal. -/
def WriteError.message : WriteError → String
  | .noForm kind => "Object of type " ++ kind ++ " is not JSON serializable"
  | .badName kind => "keys must be str, int, float, bool or None, not " ++ kind
  | .longNumber => Text.tooManyDigitsToWrite
  | .endless => "maximum recursion depth exceeded"
  | .noOrder error => error.message

/-- The escape of a code unit. -/
def unitEscape (unit : Nat) : List Char := '\\' :: 'u' :: Text.hexDigits 4 unit

/-- How a character stands in a text. -/
def escapeCharacter (character : Char) : List Char :=
  if character = '"' then ['\\', '"']
  else if character = '\\' then ['\\', '\\']
  else if character = '\n' then ['\\', 'n']
  else if character = '\r' then ['\\', 'r']
  else if character = '\t' then ['\\', 't']
  else if character = '\x0c' then ['\\', 'f']
  else if character = '\x08' then ['\\', 'b']
  else if ' ' ≤ character ∧ character ≤ '~' then [character]
  else if character.toNat < 0x10000 then unitEscape character.toNat
  else
    let offset := character.toNat - 0x10000
    unitEscape (0xd800 + offset / 0x400) ++ unitEscape (0xdc00 + offset % 0x400)

/-- How a mark stands in a text. -/
def escapeMark : Mark → List Char
  | .character value => escapeCharacter value
  | .half value => unitEscape value.point

/-- A text with its quotes. -/
def quote (text : RawText) : List Char := '"' :: text.marks.flatMap escapeMark ++ ['"']

/-- A floating-point number. -/
def floatText : Binary64 → String
  | .nan => "NaN"
  | .infinite negative => if negative then "-Infinity" else "Infinity"
  | value => value.text

/-- A whole number. -/
def intText (value : Int) : Except WriteError String :=
  match Text.written? value with
  | some digits => .ok digits
  | none => .error .longNumber

/-- The name of a member whose key is the given datum. -/
def name : Datum → Except WriteError RawText
  | .text key => .ok key
  | .float key => .ok (floatText key)
  | .bool key => .ok (if key then "true" else "false" : String)
  | .null => .ok "null"
  | .int key => (intText key).map (↑·)
  | key => .error (.badName key.kind)

/-- Parts between brackets on their own level. -/
def enclosed (layout : Layout) (level : Nat) (first last : Char) (parts : List (List Char)) :
    List Char :=
  if parts.isEmpty then [first, last]
  else
    first :: layout.lineStart (level + 1) ++ (layout.separator (level + 1)).intercalate parts ++
      layout.lineStart level ++ [last]

/-- A member of a mapping, given its key and its written value. -/
def member (entry : Datum × Except WriteError (List Char)) : Except WriteError (List Char) := do
  return quote (← name entry.1) ++ ':' :: ' ' :: (← entry.2)

mutual

/-- The characters of a datum on a level. -/
def characters (layout : Layout) (level : Nat) : Datum → Except WriteError (List Char)
  | .null => .ok "null".toList
  | .bool value => .ok (if value then "true" else "false").toList
  | .int value => (intText value).map String.toList
  | .float value => .ok (floatText value).toList
  | .text value => .ok (quote value)
  | .list items => do
    return enclosed layout level '[' ']' (← itemsCharacters layout (level + 1) items)
  | .map entries => do
    let members ← (Datum.sortByKey (entriesCharacters layout (level + 1) entries)).mapError .noOrder
    return enclosed layout level '\x7b' '\x7d' (← members.mapM member)
  | datum => .error (.noForm datum.kind)

/-- The characters of each item of a list. -/
def itemsCharacters (layout : Layout) (level : Nat) :
    List Datum → Except WriteError (List (List Char))
  | [] => .ok []
  | item :: rest => do
    let first ← characters layout level item
    return first :: (← itemsCharacters layout level rest)

/-- The key of each entry of a mapping with the characters of its value. -/
def entriesCharacters (layout : Layout) (level : Nat) :
    List (Datum × Datum) → List (Datum × Except WriteError (List Char))
  | [] => []
  | (key, item) :: rest =>
    (key, characters layout level item) :: entriesCharacters layout level rest

end

/-- Writes a JSON document. -/
def write (layout : Layout) (datum : Datum) : Except WriteError String :=
  (characters layout 0 datum).map String.ofList

end Json
end BeaconCeremony

import BeaconCeremony.Datum.Basic
import BeaconCeremony.Text.DecimalDigit
import BeaconCeremony.Text.Quoted

/-!
# Literals

The form in which messages show a value that was refused: texts and byte strings in quotes,
numbers with their shortest text, collections in brackets.  A whole number with too many digits
cannot be shown, and neither can collections that nest deeper than calls may.
-/

namespace BeaconCeremony

/-- Why a datum cannot be shown. -/
inductive LiteralError
  /-- A whole number has more digits than may be written. -/
  | longNumber
  /-- The calls that show parts of parts would be too deep inside of each other. -/
  | tooDeep
deriving DecidableEq

/-- The text of the refusal to show a datum. -/
def LiteralError.message : LiteralError → String
  | .longNumber => Text.tooManyDigitsToWrite
  | .tooDeep => "maximum recursion depth exceeded while getting the repr of an object"

namespace Datum

/-- How deep calls may be inside of each other once the arithmetic of the curve is in use. -/
def usualDepth : Nat := 100000

/-- The literal of a whole number. -/
def intLiteral (value : Int) : Except LiteralError String :=
  match Text.written? value with
  | some digits => .ok digits
  | none => .error .longNumber

mutual

/-- The literal of a datum, if no more than `depth` calls may be inside of each other.  A set is
shown through the list of its items, which takes one call more. -/
def literal (depth : Nat) (datum : Datum) : Except LiteralError String :=
  match depth, datum with
  | 0, _ => .error .tooDeep
  | _ + 1, .null => .ok "None"
  | _ + 1, .bool value => .ok (if value then "True" else "False")
  | _ + 1, .int value => intLiteral value
  | _ + 1, .float value => .ok value.text
  | _ + 1, .text value => .ok (Text.quoted value)
  | _ + 1, .bytes value => .ok (Text.quotedBytes value)
  | _ + 1, .buffer value => .ok ("bytearray(" ++ Text.quotedBytes value ++ ")")
  | _ + 1, .date year month day => .ok s!"datetime.date({year}, {month}, {day})"
  | _ + 1, .moment instant _ => .ok s!"datetime.datetime({instant})"
  | depth + 1, .list items => do
    return "[" ++ ", ".intercalate (← literals depth items) ++ "]"
  | depth + 1, .set items =>
    if items.isEmpty then .ok "set()"
    else do return "\x7b" ++ ", ".intercalate (← literals (depth - 1) items) ++ "\x7d"
  | depth + 1, .map entries => do
    return "\x7b" ++ ", ".intercalate (← entryLiterals depth entries) ++ "\x7d"
  | _ + 1, .again => .ok "[...]"

/-- The literals of the items of a list. -/
def literals (depth : Nat) : List Datum → Except LiteralError (List String)
  | [] => .ok []
  | item :: rest => do return (← literal depth item) :: (← literals depth rest)

/-- The literals of the entries of a mapping. -/
def entryLiterals (depth : Nat) : List (Datum × Datum) → Except LiteralError (List String)
  | [] => .ok []
  | (key, value) :: rest => do
    let entry := (← literal depth key) ++ ": " ++ (← literal depth value)
    return entry :: (← entryLiterals depth rest)

end

/-- A datum as running text: texts as they are, all else as literals. -/
def display (depth : Nat) : Datum → Except LiteralError RawText
  | .text value => .ok value
  | datum => return ← datum.literal depth

end Datum
end BeaconCeremony

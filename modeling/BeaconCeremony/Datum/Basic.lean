import BeaconCeremony.Bytes.Basic
import BeaconCeremony.Number.Binary64
import BeaconCeremony.RawText

/-!
# Data of unknown type

Requests and configuration documents bring values of any type.  A datum is such a value before
anyone has checked it.
-/

namespace BeaconCeremony

/-- A value of any type. -/
inductive Datum
  /-- The absent value. -/
  | null
  /-- A truth value. -/
  | bool (value : Bool)
  /-- A whole number. -/
  | int (value : Int)
  /-- A floating-point number. -/
  | float (value : Binary64)
  /-- A text. -/
  | text (value : RawText)
  /-- A byte string. -/
  | bytes (value : Bytes)
  /-- A byte string that its owner may still change. -/
  | buffer (value : Bytes)
  /-- A calendar day. -/
  | date (year month day : Nat)
  /-- A point in time, in microseconds; `zoned` if it is told with its offset, which is then counted
  in. -/
  | moment (instant : Int) (zoned : Bool)
  /-- A list. -/
  | list (items : List Datum)
  /-- A set. -/
  | set (items : List Datum)
  /-- A mapping, in the order in which its keys were first given. -/
  | map (entries : List (Datum × Datum))
  /-- A collection once more at a place inside of itself. -/
  | again

namespace Datum

/-- The name by which messages call the kind of a datum. -/
def kind : Datum → String
  | .null => "NoneType"
  | .bool _ => "bool"
  | .int _ => "int"
  | .float _ => "float"
  | .text _ => "str"
  | .bytes _ => "bytes"
  | .buffer _ => "bytearray"
  | .date _ _ _ => "date"
  | .moment _ _ => "datetime"
  | .list _ => "list"
  | .set _ => "set"
  | .map _ => "dict"
  | .again => "list"

/-- The name of the kind of a datum together with the family that it belongs to. -/
def fullKind (datum : Datum) : String :=
  match datum with
  | .date _ _ _ => "datetime." ++ datum.kind
  | .moment _ _ => "datetime." ++ datum.kind
  | _ => datum.kind

/-- Whether a datum counts as true: everything except the absent value, zeros and what is empty. -/
def isTrue : Datum → Bool
  | .null => false
  | .bool value => value
  | .int value => value != 0
  | .float value => !value.isZero
  | .text value => !value.isEmpty
  | .bytes value => !value.isEmpty
  | .buffer value => !value.isEmpty
  | .date _ _ _ => true
  | .moment _ _ => true
  | .list items => !items.isEmpty
  | .set items => !items.isEmpty
  | .map entries => !entries.isEmpty
  | .again => true

/-- A truth value or whole number as a whole number. -/
def asInt? : Datum → Option Int
  | .bool value => some (if value then 1 else 0)
  | .int value => some value
  | _ => none

/-- The bytes of either kind of byte string. -/
def asBytes? : Datum → Option Bytes
  | .bytes value => some value
  | .buffer value => some value
  | _ => none

/-- The number of parts of a datum that has parts. -/
def size? : Datum → Option Nat
  | .text value => some value.length
  | .bytes value => some value.length
  | .buffer value => some value.length
  | .list items => some items.length
  | .set items => some items.length
  | .map entries => some entries.length
  | _ => none

/-- The whole number equal to a numeric datum, if there is one. -/
def wholeNumber? : Datum → Option Int
  | .float value => value.toInt?
  | datum => datum.asInt?

/-- Whether two data are the same key of a mapping: equal scalars of one kind, where numbers and
truth values count as one kind. -/
def sameKey (left right : Datum) : Bool :=
  match left, right with
  | .null, .null => true
  | .text first, .text second => first == second
  | .bytes first, .bytes second => first == second
  | .date year month day, .date year' month' day' => year == year' && month == month' && day == day'
  | .moment first zoned, .moment second zoned' => first == second && zoned == zoned'
  | .float first, .float second =>
    first != .nan && (first == second || (first.isZero && second.isZero))
  | _, _ =>
    match left.wholeNumber?, right.wholeNumber? with
    | some first, some second => first == second
    | _, _ => false

/-- The entries with a value put under a key: in place if the key is there, else at the end. -/
def insertEntry (entries : List (Datum × Datum)) (key value : Datum) : List (Datum × Datum) :=
  if entries.any (·.1.sameKey key) then
    entries.map fun entry => if entry.1.sameKey key then (entry.1, value) else entry
  else entries ++ [(key, value)]

mutual

/-- Whether no collection is inside of itself. -/
def isFinite : Datum → Bool
  | .list items => areFinite items
  | .map entries => entriesAreFinite entries
  | .again => false
  | _ => true

/-- Whether this holds for all items of a list. -/
def areFinite : List Datum → Bool
  | [] => true
  | item :: rest => isFinite item && areFinite rest

/-- Whether this holds for all entries of a mapping. -/
def entriesAreFinite : List (Datum × Datum) → Bool
  | [] => true
  | (key, value) :: rest => isFinite key && isFinite value && entriesAreFinite rest

end

end Datum
end BeaconCeremony

import BeaconCeremony.Datum.Basic

/-!
# The order of keys

Keys of one family can be compared: texts by code points, numbers by value, byte strings, dates and
points in time.  Keys of different families cannot, so the first such pair that sorting meets
decides which refusal is told; and since the absence of a number is neither less nor greater than
any number, so does it decide where that ends up.
-/

namespace BeaconCeremony
namespace Datum

/-- Why two keys cannot be compared. -/
inductive OrderError
  | kinds (left right : String)
  | zones
  | dateWithMoment
deriving DecidableEq

/-- The text of the refusal to compare keys. -/
def OrderError.message : OrderError → String
  | .kinds left right =>
    "'<' not supported between instances of '" ++ left ++ "' and '" ++ right ++ "'"
  | .zones => "can't compare offset-naive and offset-aware datetimes"
  | .dateWithMoment => "can't compare datetime.datetime to datetime.date"

/-- Whether a list of numbers comes before another in the order of a dictionary. -/
def dictionaryLess : List Nat → List Nat → Bool
  | _, [] => false
  | [], _ :: _ => true
  | left :: lefts, right :: rights =>
    left < right || (left == right && dictionaryLess lefts rights)

/-- Whether one number is less than another; nothing if one of the data is not a number. -/
def numberLess? : Datum → Datum → Option Bool
  | .float left, .float right => some (left.isLess right)
  | .float .nan, right => right.asInt?.map fun _ => false
  | .float (.infinite negative), right => right.asInt?.map fun _ => negative
  | .float (.finite negative significand exponent), right =>
    right.asInt?.map fun value =>
      Binary64.scaledLess (Binary64.signedSignificand negative significand) exponent value 0
  | left, .float .nan => left.asInt?.map fun _ => false
  | left, .float (.infinite negative) => left.asInt?.map fun _ => !negative
  | left, .float (.finite negative significand exponent) =>
    left.asInt?.map fun value =>
      Binary64.scaledLess value 0 (Binary64.signedSignificand negative significand) exponent
  | left, right => do
    let first ← left.asInt?
    let second ← right.asInt?
    return first < second

/-- Whether one key is less than another. -/
def isLess (left right : Datum) : Except OrderError Bool :=
  match left, right with
  | .text first, .text second => .ok (dictionaryLess first.points second.points)
  | .bytes first, .bytes second =>
    .ok (dictionaryLess (first.map UInt8.toNat) (second.map UInt8.toNat))
  | .date year month day, .date year' month' day' =>
    .ok (dictionaryLess [year, month, day] [year', month', day'])
  | .moment first zoned, .moment second zoned' =>
    if zoned = zoned' then .ok (first < second) else .error .zones
  | .date _ _ _, .moment _ _ => .error .dateWithMoment
  | .moment _ _, .date _ _ _ => .error .dateWithMoment
  | _, _ =>
    match left.numberLess? right with
    | some less => .ok less
    | none => .error (.kinds left.fullKind right.fullKind)

variable {α : Type}

/-- The run that goes on with some entries: each next one is less than the one before it, or each is
not.  The run is given and returned with its newest entry first, together with what follows it. -/
def takeRun (falling : Bool) (latest : Datum × α) (run : List (Datum × α)) :
    List (Datum × α) → Except OrderError (List (Datum × α) × List (Datum × α))
  | [] => .ok (latest :: run, [])
  | next :: rest => do
    if (← isLess next.1 latest.1) = falling then takeRun falling next (latest :: run) rest
    else return (latest :: run, next :: rest)

/-- The place for a key between two places of a list that is in order: before the first key that it
is less than.  The part that is left is halved until nothing is left of it. -/
def placeFor (key : Datum) (sorted : List (Datum × α)) (low high : Nat) : Except OrderError Nat :=
  if low < high then
    let middle := (low + high) / 2
    match sorted[middle]? with
    | some other =>
      match isLess key other.1 with
      | .ok true => placeFor key sorted low middle
      | .ok false => placeFor key sorted (middle + 1) high
      | .error error => .error error
    | none => .ok low
  else .ok low
termination_by high - low

/-- A list in order with one more entry put in. -/
def insertByKey (sorted : List (Datum × α)) (entry : Datum × α) :
    Except OrderError (List (Datum × α)) := do
  let place ← placeFor entry.1 sorted 0 sorted.length
  return sorted.take place ++ entry :: sorted.drop place

/-- Things by key, in the order of the keys: the run at the start, with the other entries put in one
after the other. -/
def sortByKey : List (Datum × α) → Except OrderError (List (Datum × α))
  | first :: second :: rest => do
    let falling ← isLess second.1 first.1
    let (run, rest) ← takeRun falling second [first] rest
    rest.foldlM insertByKey (if falling then run else run.reverse)
  | entries => .ok entries

end Datum
end BeaconCeremony

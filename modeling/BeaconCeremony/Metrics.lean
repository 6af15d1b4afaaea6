import BeaconCeremony.Error

/-!
# Metrics of contributions

How many runs came to which outcome, how many chain steps were hashed, and how often the chain and
the contribution were timed.  Counters are floating-point numbers, so they are rounded to 53 bits
after every change.
-/

namespace BeaconCeremony

/-- The outcomes of a run that are counted apart. -/
inductive Outcome
  | ok
  | inputOpen
  | parameterFormat
  | beaconFormat
  | iterationRange
  | contribution
  | outputCreate
  | serializationWrite
  | error
deriving DecidableEq

namespace Outcome

/-- All outcomes. -/
def all : List Outcome :=
  [.ok, .inputOpen, .parameterFormat, .beaconFormat, .iterationRange, .contribution,
    .outputCreate, .serializationWrite, .error]

/-- The label of an outcome. -/
def label : Outcome → String
  | .ok => "ok"
  | .inputOpen => "input_open"
  | .parameterFormat => "parameter_format"
  | .beaconFormat => "beacon_format"
  | .iterationRange => "iteration_range"
  | .contribution => "contribution"
  | .outputCreate => "output_create"
  | .serializationWrite => "serialization_write"
  | .error => "error"

/-- The outcome with a label; labels that are not known count as errors. -/
def ofLabel (label : String) : Outcome :=
  (all.find? fun outcome => outcome.label == label).getD .error

/-- The outcome of a run that failed. -/
def ofFailure : Failure → Outcome
  | .ceremony (.inputOpen _ _) => .inputOpen
  | .ceremony (.parameterFormat _ _) => .parameterFormat
  | .ceremony (.beaconFormat _ _) => .beaconFormat
  | .ceremony (.iterationRange _ _ _) => .iterationRange
  | .ceremony (.contribution _ _) => .contribution
  | .ceremony (.outputCreate _ _) => .outputCreate
  | .ceremony (.serializationWrite _ _) => .serializationWrite
  | _ => .error

end Outcome

/-- What has been counted. -/
structure Metrics where
  /-- The outcomes of the runs so far, in order. -/
  runs : List Outcome := []
  /-- The chain steps hashed. -/
  iterations : Nat := 0
  /-- How often a chain was timed. -/
  chainTimings : Nat := 0
  /-- How often a contribution was timed. -/
  contributeTimings : Nat := 0
deriving DecidableEq

namespace Metrics

/-- The number of runs with an outcome. -/
def runCount (metrics : Metrics) (outcome : Outcome) : Nat := metrics.runs.count outcome

/-- The outcomes that have been recorded, with their numbers. -/
def runCounts (metrics : Metrics) : List (Outcome × Nat) :=
  (Outcome.all.map fun outcome => (outcome, metrics.runCount outcome)).filter (0 < ·.2)

/-- Records the outcome of a run. -/
def recordRun (metrics : Metrics) (outcome : Outcome) : Metrics :=
  { metrics with runs := metrics.runs ++ [outcome] }

/-- A count as a floating-point number holds it. -/
def rounded (count : Nat) : Nat :=
  match (Binary64.ofInt count).toInt? with
  | some value => value.toNat
  | none => count

/-- Adds chain steps. -/
def addIterations (metrics : Metrics) (steps : Nat) : Metrics :=
  { metrics with iterations := rounded (metrics.iterations + rounded steps) }

/-- The text of the refusal to count downwards. -/
def negativeMessage : String := "Counters can only be incremented by non-negative amounts."

/-- A whole number as a floating-point number, which must not be infinite. -/
def toFloat (value : Int) : Except Failure Binary64 :=
  match Binary64.ofInt value with
  | .infinite _ => .error (.tooLarge "int too large to convert to float")
  | number => .ok number

/-- Adds chain steps, whose number must not be negative. -/
def recordIterations (metrics : Metrics) (steps : Int) : Except Failure Metrics :=
  if steps < 0 then .error (.value negativeMessage)
  else (toFloat steps).map fun _ => metrics.addIterations steps.toNat

/-- Takes note of a timed chain. -/
def timeChain (metrics : Metrics) : Metrics :=
  { metrics with chainTimings := metrics.chainTimings + 1 }

/-- Takes note of a timed contribution. -/
def timeContribute (metrics : Metrics) : Metrics :=
  { metrics with contributeTimings := metrics.contributeTimings + 1 }

end Metrics

/-- How metrics are exposed: the names in front of their names and the bounds of the timings. -/
structure Exposition where
  /-- First part of every name, unless it is empty. -/
  family : String := "mpc"
  /-- Second part of every name, unless it is empty. -/
  subsystem : String := "beacon"
  /-- Bounds of the timings of chains, in seconds. -/
  chainBounds : List Binary64
  /-- Bounds of the timings of contributions, in seconds. -/
  contributeBounds : List Binary64

namespace Exposition

/-- The bounds of chain timings unless others are asked for: up to a week. -/
def defaultChainBounds : List Binary64 :=
  [.ofDecimal false 1 (-3), .ofDecimal false 1 (-2), .ofDecimal false 1 (-1)] ++
    [1, 10, 60, 600, 3600, 21600, 86400, 604800].map Binary64.ofInt

/-- The bounds of contribution timings unless others are asked for: up to an hour. -/
def defaultContributeBounds : List Binary64 :=
  [.ofDecimal false 1 (-2), .ofDecimal false 1 (-1), .ofDecimal false 5 (-1)] ++
    [1, 5, 30, 120, 600, 3600].map Binary64.ofInt

/-- A name with the parts in front of it that are not empty. -/
def fullName (exposition : Exposition) (name : String) : String :=
  "_".intercalate (([exposition.family, exposition.subsystem].filter (!·.isEmpty)) ++ [name])

/-- The text of a bound: a positive number with more than six digits before the point has one digit
there and a power of ten. -/
def boundText (bound : Binary64) : String :=
  match bound with
  | .infinite false => "+Inf"
  | .infinite true => "-Inf"
  | .nan => "NaN"
  | .finite negative _ _ =>
    let characters := bound.text.toList
    let whole := characters.takeWhile (· != '.')
    if !negative && characters.contains '.' && 6 < whole.length then
      let digits := characters.take 1 ++ '.' :: (whole.drop 1 ++ characters.drop (whole.length + 1))
      let mantissa :=
        (digits.reverse.dropWhile fun character => character == '0' || character == '.').reverse
      let power := Nat.toDigits 10 (whole.length - 1)
      String.ofList (mantissa ++ 'e' :: '+' :: (List.replicate (2 - power.length) '0' ++ power))
    else bound.text

/-- The samples of a timing: one for every bound and the unbounded rest, their number and, unless
the first bound is negative, their sum. -/
def timingSamples (exposition : Exposition) (name : String) (bounds : List Binary64) :
    List (String × List (String × String)) :=
  let name := exposition.fullName name
  let isSummed := !bounds.head?.any fun bound => bound.isLess (.ofInt 0)
  let bounds := bounds.map boundText
  let bounds := if bounds.getLast? = some "+Inf" then bounds else bounds ++ ["+Inf"]
  bounds.map (fun bound => (name ++ "_bucket", [("le", bound)])) ++
    (name ++ "_count", []) :: (if isSummed then [(name ++ "_sum", [])] else [])

/-- The order of samples: by name, then by the values of the labels. -/
def sampleLe (left right : String × List (String × String)) : Bool :=
  if left.1 = right.1 then
    match left.2, right.2 with
    | (_, first) :: _, (_, second) :: _ => first ≤ second
    | [], _ => true
    | _, [] => false
  else left.1 ≤ right.1

/-- The samples of the outcomes that have been recorded. -/
def outcomeSamples (exposition : Exposition) (metrics : Metrics) :
    List (String × List (String × String)) :=
  metrics.runCounts.map fun (outcome, _) =>
    (exposition.fullName "runs_total", [("outcome", outcome.label)])

/-- The samples that are exposed, each with its labels, in order. -/
def samples (exposition : Exposition) (metrics : Metrics) :
    List (String × List (String × String)) :=
  (exposition.outcomeSamples metrics ++ [(exposition.fullName "hash_iterations_total", [])] ++
    exposition.timingSamples "chain_seconds" exposition.chainBounds ++
    exposition.timingSamples "contribute_seconds" exposition.contributeBounds).mergeSort sampleLe

/-- Whether no number is less than the one before it. -/
def isSorted : List Binary64 → Bool
  | first :: second :: rest => !second.isLess first && isSorted (second :: rest)
  | _ => true

/-- Bounds given as whole numbers of seconds, which must be in order; at least one is needed. -/
def bounds (seconds : List Int) : Except Failure (List Binary64) := do
  let bounds ← seconds.mapM Metrics.toFloat
  if !isSorted bounds then .error (.value "Buckets not in sorted order")
  else if bounds.isEmpty then .error (.value "Must have at least two buckets")
  else return bounds

end Exposition
end BeaconCeremony

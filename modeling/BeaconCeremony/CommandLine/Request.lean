import BeaconCeremony.CommandLine.Options

/-!
# Requests

What the arguments of the program ask for.  Arguments that cannot be understood are no request; the
values of options are checked later, apart from whole numbers.
-/

namespace BeaconCeremony
namespace CommandLine

/-- What a contribution is asked to do. -/
structure BeaconRequest where
  /-- Where the parameters are read from. -/
  input? : Option String := none
  /-- The beacon value. -/
  beacon : String
  /-- The exponent of the chain. -/
  exponent : Int
  /-- Where the parameters are written to. -/
  output? : Option String := none
  /-- The number of points after which progress is logged. -/
  tag : Int := 0
  /-- The name of the format. -/
  format? : Option String := none
  /-- Whether checkpoint lines are left out. -/
  quiet : Bool := false
  /-- The configuration file. -/
  config? : Option String := none
deriving DecidableEq

/-- What is to be verified. -/
structure VerifyRequest where
  /-- The file with the transcript; a dash stands for the standard input. -/
  transcript : String
  /-- The exponent of the chain. -/
  exponent : Int
  /-- The number of the first checkpoint. -/
  first : Int := 0
  /-- The number of the last checkpoint; the final state if it is missing. -/
  last? : Option Int := none
deriving DecidableEq

/-- Which chain is to be run. -/
structure SeedRequest where
  /-- The beacon value. -/
  beacon : String
  /-- The exponent of the chain. -/
  exponent : Int
  /-- Whether checkpoint lines are left out. -/
  quiet : Bool := false
deriving DecidableEq

/-- A request to the program. -/
inductive Request
  | version
  | help
  | beacon (request : BeaconRequest)
  | verifyChain (request : VerifyRequest)
  | seed (request : SeedRequest)
deriving DecidableEq

/-- The option that asks how something is used. -/
def helpOption : OptionSpec := { name := "--help", takesValue := false }

/-- The option to leave out checkpoint lines. -/
def quietOption : OptionSpec := { name := "--quiet", letter? := some 'q', takesValue := false }

/-- The option with the exponent. -/
def iterationsOption : OptionSpec := { name := "--iterations", letter? := some 'n' }

/-- The option with the beacon value. -/
def hashOption : OptionSpec := { name := "--hash", letter? := some 'h' }

/-- The options of the program as a whole. -/
def programOptions : List OptionSpec :=
  [{ name := "--verbose", letter? := some 'v', takesValue := false },
    { name := "--version", takesValue := false }, helpOption]

/-- The options of a contribution. -/
def beaconOptions : List OptionSpec :=
  [{ name := "--input", letter? := some 'i' }, hashOption, iterationsOption,
    { name := "--output", letter? := some 'o' }, { name := "--tag" }, { name := "--format" },
    quietOption, { name := "--config" }, helpOption]

/-- The options of a verification. -/
def verifyOptions : List OptionSpec :=
  [{ name := "--transcript", letter? := some 't' }, iterationsOption, { name := "--from" },
    { name := "--to" }, helpOption]

/-- The options of a run of the chain. -/
def seedOptions : List OptionSpec := [hashOption, iterationsOption, quietOption, helpOption]

/-- Reads a request for a contribution. -/
def beaconRequest (given : Given) : Option Request := do
  let beacon ← given.value? "--hash"
  let exponent ← given.requiredInteger "--iterations"
  let tag ← given.integerOr "--tag" 0
  return .beacon
    { input? := given.value? "--input"
      beacon := beacon
      exponent := exponent
      output? := given.value? "--output"
      tag := tag
      format? := given.value? "--format"
      quiet := given.has "--quiet"
      config? := given.value? "--config" }

/-- Reads a request for a verification. -/
def verifyRequest (given : Given) : Option Request := do
  let transcript ← given.value? "--transcript"
  let exponent ← given.requiredInteger "--iterations"
  let first ← given.integerOr "--from" 0
  let last? ← given.integer? "--to"
  return .verifyChain
    { transcript := transcript, exponent := exponent, first := first, last? := last? }

/-- Reads a request for a run of the chain. -/
def seedRequest (given : Given) : Option Request := do
  let beacon ← given.value? "--hash"
  let exponent ← given.requiredInteger "--iterations"
  return .seed { beacon := beacon, exponent := exponent, quiet := given.has "--quiet" }

/-- The options of the command with a name, and how its request is read. -/
def command? (name : String) : Option (List OptionSpec × (Given → Option Request)) :=
  if name = "beacon" then some (beaconOptions, beaconRequest)
  else if name = "verify-chain" then some (verifyOptions, verifyRequest)
  else if name = "seed" then some (seedOptions, seedRequest)
  else none

/-- Reads a command with its options.  A command takes no other arguments. -/
def commandRequest (name : String) (arguments : List String) : Option Request := do
  let (specs, request) ← command? name
  let (given, others) ← readArguments specs true arguments
  if given.has "--help" then return .help
  else if others.isEmpty then request given
  else none

/-- What options of the program as a whole ask for, if they ask for something. -/
def generalRequest (given : Given) : Option Request :=
  if given.has "--version" then some .version
  else if given.has "--help" then some .help
  else none

/-- Reads the arguments of the program; nothing if they cannot be understood.  Where the name of a
command is missing, the arguments from there on are read once more as options of the program. -/
def request? (arguments : List String) : Option Request := do
  let (given, others) ← readArguments programOptions false arguments
  match generalRequest given, others with
  | some request, _ => return request
  | none, [] => none
  | none, name :: rest =>
    if (command? name).isSome then commandRequest name rest
    else
      let (given, _) ← readArguments programOptions false others
      generalRequest given

end CommandLine
end BeaconCeremony

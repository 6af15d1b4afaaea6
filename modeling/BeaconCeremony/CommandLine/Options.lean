import BeaconCeremony.CommandLine.Integer

/-!
# Options

Options have a long name and perhaps a letter.  A value follows its option as the next argument,
after an equals sign or right after the letter; letters without values can be given together.  Of an
option given more than once the last one counts.
-/

namespace BeaconCeremony
namespace CommandLine

/-- An option that can be given. -/
structure OptionSpec where
  /-- The long name with its two dashes. -/
  name : String
  /-- The letter, if there is one. -/
  letter? : Option Char := none
  /-- Whether a value comes with it. -/
  takesValue : Bool := true

/-- The options that have been given, with their values. -/
abbrev Given := List (String × String)

namespace Given

/-- The value of an option. -/
def value? (given : Given) (name : String) : Option String := given.reverse.lookup name

/-- Whether an option has been given. -/
def has (given : Given) (name : String) : Bool := (given.value? name).isSome

/-- The value of an option that must be given. -/
def required (given : Given) (name : String) : Option String := given.value? name

/-- The whole number of an option, if it is given; nothing if it is no number. -/
def integer? (given : Given) (name : String) : Option (Option Int) :=
  match given.value? name with
  | none => some none
  | some value => (Integer.ofText? value).map some

/-- The whole number of an option that must be given. -/
def requiredInteger (given : Given) (name : String) : Option Int :=
  match given.integer? name with
  | some (some value) => some value
  | _ => none

/-- The whole number of an option with a default. -/
def integerOr (given : Given) (name : String) (default : Int) : Option Int :=
  (given.integer? name).map (·.getD default)

end Given

/-- What a single argument says: the options in it, and the option that still needs its value. -/
structure Reading where
  /-- The options that are complete. -/
  given : Given := []
  /-- The option whose value is the next argument. -/
  open? : Option String := none

/-- Reads letters. -/
def letters (specs : List OptionSpec) : List Char → Option Reading
  | [] => some {}
  | letter :: rest =>
    match specs.find? (·.letter? == some letter) with
    | none => none
    | some spec =>
      if spec.takesValue then
        if rest.isEmpty then some { open? := some spec.name }
        else some { given := [(spec.name, String.ofList rest)] }
      else
        (letters specs rest).map fun reading =>
          { reading with given := (spec.name, "") :: reading.given }

/-- Reads an argument that starts with a dash. -/
def readArgument (specs : List OptionSpec) (argument : List Char) : Option Reading :=
  let name := argument.takeWhile (· != '=')
  let attached? := (argument.drop name.length).tail?
  match specs.find? (·.name == String.ofList name) with
  | some spec =>
    match spec.takesValue, attached? with
    | true, some value => some { given := [(spec.name, String.ofList value)] }
    | true, none => some { open? := some spec.name }
    | false, some _ => none
    | false, none => some { given := [(spec.name, "")] }
  | none =>
    if argument.take 2 = ['-', '-'] then none else letters specs (argument.drop 1)

/-- Whether an argument is an option: it starts with a dash and goes on. -/
def isOption : List Char → Bool
  | '-' :: _ :: _ => true
  | _ => false

/-- Reads arguments: the options given and the other arguments.  Unless options may come anywhere,
everything from the first other argument on is left as it is. -/
def readArguments (specs : List OptionSpec) (anywhere : Bool) :
    List String → Option (Given × List String)
  | [] => some ([], [])
  | argument :: rest =>
    if argument = "--" then some ([], rest)
    else if isOption argument.toList then
      match readArgument specs argument.toList with
      | none => none
      | some reading =>
        match reading.open?, rest with
        | none, rest =>
          (readArguments specs anywhere rest).map fun (given, others) =>
            (reading.given ++ given, others)
        | some _, [] => none
        | some name, value :: rest =>
          (readArguments specs anywhere rest).map fun (given, others) =>
            (reading.given ++ (name, value) :: given, others)
    else if anywhere then
      (readArguments specs anywhere rest).map fun (given, others) => (given, argument :: others)
    else some ([], argument :: rest)

end CommandLine
end BeaconCeremony

import BeaconCeremony.Datum.Literal

/-!
# Kinds of errors

Each kind of error of a contribution has a name, fields that say what is to blame, and a wording.
The fields may hold data of any type.
-/

namespace BeaconCeremony

/-- The kinds of errors of a beacon contribution. -/
inductive ErrorKind
  | inputOpen
  | parameterFormat
  | beaconFormat
  | iterationRange
  | contribution
  | outputCreate
  | serializationWrite
  | stepOrder
  | transcriptFormat
deriving DecidableEq

/-- Why an error cannot be made of the fields that are given. -/
inductive FieldError
  | unexpected (error field : String)
  | missing (error : String) (fields : List String)
  | noFields (error : String)
deriving DecidableEq

/-- Names in quotes as running text. -/
def FieldError.enumeration : List String → String
  | [] => ""
  | [name] => Text.quoted name
  | [first, second] => Text.quoted first ++ " and " ++ Text.quoted second
  | names =>
    ", ".intercalate (names.dropLast.map fun (name : String) => Text.quoted name) ++ ", and " ++
      Text.quoted (names.getLastD "")

/-- The text of the refusal to make an error. -/
def FieldError.message : FieldError → String
  | .unexpected error field =>
    error ++ ".__init__() got an unexpected keyword argument " ++ Text.quoted field
  | .missing error fields =>
    error ++ s!".__init__() missing {fields.length} required positional argument" ++
      (if fields.length = 1 then ": " else "s: ") ++ enumeration fields
  | .noFields error => error ++ "() takes no keyword arguments"

namespace ErrorKind

/-- All kinds. -/
def all : List ErrorKind :=
  [.inputOpen, .parameterFormat, .beaconFormat, .iterationRange, .contribution, .outputCreate,
    .serializationWrite, .stepOrder, .transcriptFormat]

/-- The name of a kind. -/
def name : ErrorKind → String
  | .inputOpen => "InputOpenError"
  | .parameterFormat => "ParameterFormatError"
  | .beaconFormat => "BeaconFormatError"
  | .iterationRange => "IterationRangeError"
  | .contribution => "ContributionError"
  | .outputCreate => "OutputCreateError"
  | .serializationWrite => "SerializationWriteError"
  | .stepOrder => "PipelineStateError"
  | .transcriptFormat => "TranscriptFormatError"

/-- The reason given for a line that looks like a checkpoint without being one. -/
def malformedCheckpoint : String := "malformed checkpoint line"

/-- The fields of a kind, with the defaults of those that may be left out. -/
def fields : ErrorKind → List (String × Option Datum)
  | .inputOpen => [("path", none), ("reason", none)]
  | .parameterFormat => [("source", none), ("reason", none)]
  | .beaconFormat => [("value", none), ("reason", none), ("length", some .null)]
  | .iterationRange =>
    [("iterations", none), ("minimum", some (.int 10)), ("maximum", some (.int 63))]
  | .contribution => [("source", none), ("reason", none)]
  | .outputCreate => [("path", none), ("reason", none)]
  | .serializationWrite => [("path", none), ("reason", none)]
  | .stepOrder => [("step", none), ("expected", none), ("actual", none)]
  | .transcriptFormat =>
    [("line_no", none), ("line", none), ("reason", some (.text malformedCheckpoint))]

/-- The reason for refusing a beacon value that does not have the right length. -/
def wrongLength : String := "length"

/-- The text of an error with the given values of its fields, which are shown in the order in which
they stand in it. -/
def wording (kind : ErrorKind) (fields : List Datum) : Except LiteralError RawText :=
  let shown (field : Datum) : Except LiteralError RawText := field.display Datum.usualDepth
  let quoted (field : Datum) : Except LiteralError RawText :=
    return ← field.literal Datum.usualDepth
  match kind, fields with
  | .inputOpen, [path, reason] =>
    return "Could not open \x60" ++ (← shown path) ++ "\x60: " ++ (← shown reason)
  | .parameterFormat, [source, reason] =>
    return "Could not read \x60" ++ (← shown source) ++ "\x60: " ++ (← shown reason)
  | .beaconFormat, [value, reason, length] =>
    if reason.sameKey (.text wrongLength) then
      return "Beacon hash should be 32 bytes long, got " ++ (← shown length) ++ " bytes from " ++
        (← quoted value)
    else return "Beacon hash should be in hexadecimal format, got " ++ (← quoted value)
  | .iterationRange, [given, least, greatest] =>
    return "Number of hash iterations should be in the [" ++ (← shown least) ++ ", " ++
      (← shown greatest) ++ "] range, got " ++ (← quoted given)
  | .contribution, [source, reason] =>
    return "Contribution to \x60" ++ (← shown source) ++ "\x60 failed: " ++ (← shown reason)
  | .outputCreate, [path, reason] =>
    return "Could not create \x60" ++ (← shown path) ++ "\x60: " ++ (← shown reason)
  | .serializationWrite, [path, reason] =>
    return "Could not write parameters to \x60" ++ (← shown path) ++ "\x60: " ++ (← shown reason)
  | .stepOrder, [step, expected, actual] =>
    return "Cannot run step '" ++ (← shown step) ++ "' in state " ++ (← shown actual) ++
      " (expected " ++ (← shown expected) ++ ")"
  | .transcriptFormat, [lineNumber, line, reason] =>
    return "Transcript line " ++ (← shown lineNumber) ++ ": " ++ (← shown reason) ++ ": " ++
      (← quoted line)
  | _, _ => .ok ""

/-- The text of an error of this kind that is made of named fields.  An error that can be made need
not have a text. -/
def describe (kind : ErrorKind) (given : List (String × Datum)) :
    Except FieldError (Except LiteralError RawText) :=
  match given.find? fun field => !(kind.fields.any (·.1 == field.1)) with
  | some (field, _) => .error (.unexpected kind.name field)
  | none =>
    let values := kind.fields.map fun (field, default?) =>
      (field, (given.lookup field).orElse fun _ => default?)
    match (values.filter (·.2.isNone)).map (·.1) with
    | [] => .ok (kind.wording (values.filterMap (·.2)))
    | missing => .error (.missing kind.name missing)

/-- The text of an error with a name that is made of named fields.  A name other than that of a kind
stands for errors as such, which have no fields and say nothing. -/
def describeNamed (name : String) (given : List (String × Datum)) :
    Except FieldError (Except LiteralError RawText) :=
  match all.find? (·.name == name) with
  | some kind => kind.describe given
  | none => if given.isEmpty then .ok (.ok "") else .error (.noFields name)

end ErrorKind
end BeaconCeremony

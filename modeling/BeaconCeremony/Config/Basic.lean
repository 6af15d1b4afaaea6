import BeaconCeremony.Datum.Order
import BeaconCeremony.Error
import BeaconCeremony.Json.Writer
import BeaconCeremony.Text.Blank
import BeaconCeremony.Text.Utf8

/-!
# Configurations

A configuration says where parameters are read from and written to, which format they have, and
whether checkpoint lines are left out.  Settings are the same four values before they are checked;
they may be of any type.
-/

namespace BeaconCeremony

/-- The fields of a configuration. -/
inductive ConfigField
  | inputPath
  | outputPath
  | paramsFormat
  | quiet
deriving DecidableEq

namespace ConfigField

/-- All fields. -/
def all : List ConfigField := [.inputPath, .outputPath, .paramsFormat, .quiet]

/-- The name of a field. -/
def name : ConfigField → String
  | .inputPath => "input_path"
  | .outputPath => "output_path"
  | .paramsFormat => "params_format"
  | .quiet => "quiet"

/-- The field with a name. -/
def ofName? (name : String) : Option ConfigField := all.find? (·.name == name)

/-- The field that a key of a mapping names. -/
def ofKey? : Datum → Option ConfigField
  | .text name => name.string?.bind ofName?
  | _ => none

end ConfigField

/-- Why there is no configuration. -/
inductive ConfigError
  | blankPath (field : ConfigField)
  | emptyFormat
  | unknownField (name : String)
  | unreadable (path : String) (error : SystemError)
  | notText (error : Utf8.DecodeError)
  | malformedJson (reason : String)
  | malformedYaml (path reason : String)
  | notMapping (path : String)
  | unknownKeys (path : String) (names : List RawText)
  | keyKind (position : Nat) (kind : String)
  | keyOrder (error : Datum.OrderError)
  | failed (failure : Failure)

namespace ConfigError

/-- How the position of a fault in bytes is told. -/
def faultText (error : Utf8.DecodeError) : String :=
  if error.stop = error.start + 1 then
    "byte 0x" ++ String.ofList (Text.hexDigits 2 error.byte.toNat) ++ s!" in position {error.start}"
  else s!"bytes in position {error.start}-{error.stop - 1}"

/-- The text of an error. -/
def message : ConfigError → RawText
  | .blankPath field => field.name ++ " must be a non-empty path"
  | .emptyFormat => "params_format must be a non-empty string"
  | .unknownField name =>
    "BeaconConfig.__init__() got an unexpected keyword argument " ++ Text.quoted name
  | .unreadable path error => Text.quoted path ++ ": " ++ error.reason
  | .notText error =>
    "'utf-8' codec can't decode " ++ faultText error ++ ": " ++ error.fault.reason
  | .malformedJson reason => reason
  | .malformedYaml path reason => Text.quoted path ++ ": invalid YAML: " ++ reason
  | .notMapping path => Text.quoted path ++ ": expected a mapping at the top level"
  | .unknownKeys path names =>
    Text.quoted path ++ ": unknown config keys: " ++ RawText.intercalate ", " names
  | .keyKind position kind =>
    s!"sequence item {position}: expected str instance, " ++ kind ++ " found"
  | .keyOrder error => error.message
  | .failed failure => failure.message

/-- What a command tells of an error: its text, or the name of the encoding if that was wrong. -/
def summary : ConfigError → RawText
  | .notText _ => "utf-8"
  | .failed (.notEncodable _) => "utf-8"
  | error => error.message

/-- Whether the error means that a value was refused, rather than that the check itself failed. -/
def isRefusal : ConfigError → Bool
  | .unknownField _ => false
  | .keyKind _ _ => false
  | .keyOrder _ => false
  | .failed (.value _) => true
  | .failed (.unknownKey _) => true
  | .failed (.notEncodable _) => true
  | .failed _ => false
  | _ => true

end ConfigError

/-- A configuration. -/
structure Config where
  /-- Where parameters are read from. -/
  inputPath : RawText
  /-- Where they are written to. -/
  outputPath : RawText
  /-- The name of their format. -/
  paramsFormat : RawText
  /-- Whether checkpoint lines are left out; what counts is whether this is true as a datum. -/
  quiet : Datum

/-- The values of a configuration before they are checked. -/
structure Settings where
  /-- Where parameters are read from. -/
  inputPath : Datum := .text "mpc.params"
  /-- Where they are written to. -/
  outputPath : Datum := .text "mpc.params"
  /-- The name of their format. -/
  paramsFormat : Datum := .text "bn254-phase2"
  /-- Whether checkpoint lines are left out. -/
  quiet : Datum := .bool false

namespace Settings

/-- The value of a field. -/
def get (settings : Settings) : ConfigField → Datum
  | .inputPath => settings.inputPath
  | .outputPath => settings.outputPath
  | .paramsFormat => settings.paramsFormat
  | .quiet => settings.quiet

/-- The settings with another value of a field. -/
def set (settings : Settings) (field : ConfigField) (value : Datum) : Settings :=
  match field with
  | .inputPath => { settings with inputPath := value }
  | .outputPath => { settings with outputPath := value }
  | .paramsFormat => { settings with paramsFormat := value }
  | .quiet => { settings with quiet := value }

/-- The settings with some fields named by keys; other keys are passed over. -/
def setKeys (settings : Settings) (entries : List (Datum × Datum)) : Settings :=
  entries.foldl (fun settings entry =>
    match ConfigField.ofKey? entry.1 with
    | some field => settings.set field entry.2
    | none => settings) settings

/-- The settings with the given fields and defaults for the others. -/
def ofFields (fields : List (String × Datum)) : Except ConfigError Settings :=
  match fields.find? fun field => (ConfigField.ofName? field.1).isNone with
  | some (name, _) => .error (.unknownField name)
  | none => .ok (setKeys {} (fields.map fun field => (.text field.1, field.2)))

/-- A path that is not blank. -/
def path (field : ConfigField) : Datum → Except ConfigError RawText
  | .text path => if Text.hasInk path then .ok path else .error (.blankPath field)
  | _ => .error (.blankPath field)

/-- The name of a format, which is not empty. -/
def format : Datum → Except ConfigError RawText
  | .text name => if name.isEmpty then .error .emptyFormat else .ok name
  | _ => .error .emptyFormat

/-- Checks settings; the first wrong field is named. -/
def check (settings : Settings) : Except ConfigError Config := do
  let inputPath ← path .inputPath settings.inputPath
  let outputPath ← path .outputPath settings.outputPath
  let paramsFormat ← format settings.paramsFormat
  return ⟨inputPath, outputPath, paramsFormat, settings.quiet⟩

end Settings

namespace Config

/-- Whether checkpoint lines are left out. -/
def isQuiet (config : Config) : Bool := config.quiet.isTrue

/-- The values of a configuration. -/
def settings (config : Config) : Settings :=
  ⟨.text config.inputPath, .text config.outputPath, .text config.paramsFormat, config.quiet⟩

/-- A configuration as a mapping from the names of the fields to their values. -/
def toDatum (config : Config) : Datum :=
  .map (ConfigField.all.map fun field => (.text field.name, config.settings.get field))

/-- A configuration as a JSON document with the given indentation. -/
def toJson (indent : Int) (config : Config) : Except Json.WriteError String :=
  if config.quiet.isFinite then Json.write (.indented indent.toNat) config.toDatum
  else .error .endless

end Config
end BeaconCeremony

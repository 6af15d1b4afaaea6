import BeaconCeremony.Config.Basic
import BeaconCeremony.Json.Reader
import BeaconCeremony.Text.Lines
import BeaconCeremony.Yaml.Value

/-!
# Loading configurations

A configuration is loaded from a file, whose name ends in `.json` if it is a JSON document and is a
YAML document otherwise, and from environment variables, which take precedence field by field.
-/

namespace BeaconCeremony

/-- Environment variables with their values. -/
abbrev Environment := List (String × String)

namespace Environment

/-- What the names of the variables of a configuration start with. -/
def standardStem : String := "MPC_BEACON_"

/-- The name that a variable has after its stem. -/
def suffix : ConfigField → String
  | .inputPath => "INPUT"
  | .outputPath => "OUTPUT"
  | .paramsFormat => "FORMAT"
  | .quiet => "QUIET"

/-- The name after its stem of the variable that names a configuration file. -/
def fileSuffix : String := "CONFIG"

/-- The names of all variables of a configuration. -/
def names (stem : String) : List String :=
  (fileSuffix :: ConfigField.all.map suffix).map (stem ++ ·)

/-- Whether the value of a variable switches something on. -/
def switchesOn (value : String) : Bool :=
  ["1", "true", "yes", "on"].contains value.toLower

/-- The value that a variable gives to a field. -/
def datum (field : ConfigField) (value : String) : Datum :=
  match field with
  | .quiet => .bool (switchesOn value)
  | _ => .text value

/-- The settings with the fields replaced for which there is a variable. -/
def override (environment : Environment) (stem : String) (settings : Settings) : Settings :=
  ConfigField.all.foldl (fun settings field =>
    match environment.lookup (stem ++ suffix field) with
    | some value => settings.set field (datum field value)
    | none => settings) settings

end Environment

namespace Config

/-- The configuration that variables and settings give. -/
def ofEnvironment (environment : Environment) (stem : String) (base : Settings) :
    Except ConfigError Config :=
  (environment.override stem base).check

/-- Refuses the keys of a mapping that are not names of fields; they are named in order. -/
def checkKeys (path : String) (entries : List (Datum × Datum)) : Except ConfigError Unit := do
  let unknown := entries.filter fun entry => (ConfigField.ofKey? entry.1).isNone
  if unknown.isEmpty then return ()
  else
    let keys := (← (Datum.sortByKey unknown).mapError .keyOrder).map (·.1)
    let names ← keys.zipIdx.mapM fun (key, position) =>
      match key with
      | .text name => .ok name
      | key => .error (.keyKind position key.fullKind)
    .error (.unknownKeys path names)

/-- The configuration that a document describes. -/
def ofDocument (path : String) (document : Datum) : Except ConfigError Config :=
  match document with
  | .map entries => do
    checkKeys path entries
    (Settings.setKeys {} entries).check
  | _ => .error (.notMapping path)

/-- Whether a file with this path is a JSON document. -/
def isJsonPath (path : String) : Bool := path.endsWith ".json"

/-- The document in a file.  A YAML document that is not true as a datum counts as an empty
mapping. -/
def parse (path text : String) : Except ConfigError Datum :=
  if isJsonPath path then
    match Json.read text with
    | .ok document => .ok document
    | .error (.longNumber digits) => .error (.failed (.value (Text.tooManyDigits digits)))
    | .error error => .error (.malformedJson error.message)
  else
    match Yaml.read text with
    | .ok document => .ok (if document.isTrue then document else .map [])
    | .error (.malformed fault) => .error (.malformedYaml path fault.reason)
    | .error (.refused failure) => .error (.failed failure)

/-- The text in a file, with line breaks unified. -/
def decode (content : Bytes) : Except ConfigError String :=
  match Utf8.decode content with
  | .ok text => .ok (String.ofList (Text.unifyLineBreaks text.toList))
  | .error error => .error (.notText error)

/-- The settings in a file that has been read, or could not be. -/
def ofFile (path : String) (content : Except Failure Bytes) : Except ConfigError Config :=
  match content with
  | .error (.system error) => .error (.unreadable path error)
  | .error failure => .error (.failed failure)
  | .ok content => do
    let document ← parse path (← decode content)
    ofDocument path document

/-- The path of the file to load: the given one, else the one that a variable names; an empty path
counts as none. -/
def filePath? (environment : Environment) (stem : String) (path? : Option String) : Option String :=
  match path?.filter (!·.isEmpty) with
  | some path => some path
  | none => (environment.lookup (stem ++ Environment.fileSuffix)).filter (!·.isEmpty)

/-- Loads a configuration: defaults, then a file if there is one, then variables. -/
def load {m : Type → Type} [Monad m] (readFile : String → m (Except Failure Bytes))
    (environment : Environment) (stem : String) (path? : Option String) :
    m (Except ConfigError Config) := do
  match filePath? environment stem path? with
  | none => return ofEnvironment environment stem {}
  | some path =>
    match ofFile path (← readFile path) with
    | .error error => return .error error
    | .ok config => return ofEnvironment environment stem config.settings

end Config
end BeaconCeremony

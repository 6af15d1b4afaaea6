import BeaconCeremony.Datum.Order
import BeaconCeremony.Text.Quoted

/-!
# The registry of parameter formats

Formats are found by name.  A registered format hides a built-in one of the same name; a built-in
format is put among the registered ones when it is first asked for.
-/

namespace BeaconCeremony

/-- Formats by name. -/
structure Registry (Format : Type) where
  /-- The formats that are always there. -/
  builtIn : List (RawText × Format)
  /-- The formats registered so far, the latest one of a name first. -/
  registered : List (RawText × Format) := []

/-- Why a registry refuses a request. -/
inductive RegistryError
  | emptyName
  | unknown (name : RawText) (available : List RawText)
deriving DecidableEq

/-- The text of a refusal. -/
def RegistryError.message : RegistryError → RawText
  | .emptyName => "format name must be non-empty"
  | .unknown name available =>
    "unknown parameters format " ++ Text.quoted name ++ "; available: " ++
      RawText.intercalate ", " available

namespace Registry

variable {Format : Type}

/-- Whether a name comes before another one in the order of code points. -/
def precedes (left right : RawText) : Bool := Datum.dictionaryLess left.points right.points

/-- Puts a name into a list sorted by code points, unless it is there. -/
def insertName (name : RawText) : List RawText → List RawText
  | [] => [name]
  | first :: rest =>
    if name = first then first :: rest
    else if precedes name first then name :: first :: rest
    else first :: insertName name rest

/-- The names of all formats, sorted by code points. -/
def available (registry : Registry Format) : List RawText :=
  (registry.registered ++ registry.builtIn).foldr (fun entry names => insertName entry.1 names) []

/-- Registers a format; it takes the place of an earlier one of the same name. -/
def register (registry : Registry Format) (name : RawText) (format : Format) :
    Except RegistryError (Registry Format) :=
  if name.isEmpty then .error .emptyName
  else .ok { registry with registered := (name, format) :: registry.registered }

/-- Finds a format.  A built-in format found for the first time is registered by that. -/
def find (registry : Registry Format) (name : RawText) :
    Except RegistryError (Format × Registry Format) :=
  match registry.registered.lookup name with
  | some format => .ok (format, registry)
  | none =>
    match registry.builtIn.lookup name with
    | some format =>
      .ok (format, { registry with registered := (name, format) :: registry.registered })
    | none => .error (.unknown name registry.available)

end Registry
end BeaconCeremony

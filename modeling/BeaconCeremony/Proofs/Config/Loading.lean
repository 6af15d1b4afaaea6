import BeaconCeremony.Proofs.Config.File

/-!
# Where the values of a configuration come from

A configuration is loaded from the file that is named, if there is one, and from the environment.
Each field has the value of the first source that gives it one: the environment, the file, and then
the defaults.
-/

namespace BeaconCeremony

namespace Environment

/-- The value that the environment gives to a field. -/
def value? (environment : Environment) (stem : String) (field : ConfigField) : Option Datum :=
  (environment.lookup (stem ++ suffix field)).map (datum field)

end Environment

namespace Config

variable {contents : String → Except Failure Bytes} {environment : Environment} {stem : String}
  {path? : Option String} {config : Config}

/-- The configuration that is loaded from files with the given contents. -/
def loaded (contents : String → Except Failure Bytes) (environment : Environment) (stem : String)
    (path? : Option String) : Except ConfigError Config :=
  match filePath? environment stem path? with
  | none => ofEnvironment environment stem {}
  | some path => do
    let config ← ofFile path (contents path)
    ofEnvironment environment stem config.settings

/-- Loading reads the file that is named, and no other one. -/
theorem run_load {σ : Type} {readFile : String → StateM σ (Except Failure Bytes)} {state : σ}
    {after : String → σ} (reads : ∀ path, readFile path state = (contents path, after path)) :
    load readFile environment stem path? state =
      (loaded contents environment stem path?,
        ((filePath? environment stem path?).map after).getD state) := by
  rw [load, loaded]
  cases filePath? environment stem path? with
  | none => rfl
  | some path =>
      simp only [StateT.bind, bind, reads path]
      cases ofFile path (contents path) with
      | error error => rfl
      | ok config => rfl

/-- The first path that is not empty is taken: the given one or that of the variable. -/
theorem filePath?_eq (environment : Environment) (stem : String) (path? : Option String) :
    filePath? environment stem path? =
      (path?.filter (!·.isEmpty)).or
        ((environment.lookup (stem ++ Environment.fileSuffix)).filter (!·.isEmpty)) := by
  rw [filePath?]
  cases path?.filter (!·.isEmpty) <;> rfl

/-- What a file brings, if there is one: the entries of its mapping, or none if it is a YAML
document that is not true as a datum. -/
inductive Supplies (contents : String → Except Failure Bytes) :
    Option String → List (Datum × Datum) → Prop
  | nothing : Supplies contents none []
  | mapping {path : String} {content : Bytes} {entries : List (Datum × Datum)}
      (found : contents path = .ok content) (holds : Holds path content (.map entries)) :
      Supplies contents (some path) entries
  | untrue {path : String} {content : Bytes} {value : Datum}
      (found : contents path = .ok content) (holds : Holds path content value)
      (yaml : isJsonPath path = false) (untrue : value.isTrue = false) :
      Supplies contents (some path) []

/-- A file comes to a configuration only if it brings entries that describe it. -/
theorem exists_supplies_of_ofFile {path : String}
    (made : ofFile path (contents path) = .ok config) :
    ∃ entries, Supplies contents (some path) entries ∧ Describes entries config := by
  obtain ⟨content, value, found, holds, made⟩ := exists_holds_of_ofFile made
  obtain ⟨entries, describes, rfl | ⟨rfl, yaml, untrue⟩⟩ := exists_describes_of_documentOf made
  · exact ⟨entries, .mapping found holds, describes⟩
  · exact ⟨[], .untrue found holds yaml untrue, describes⟩

/-- The environment takes precedence over what is there. -/
theorem get_of_ofEnvironment {settings : Settings}
    (made : ofEnvironment environment stem settings = .ok config) (field : ConfigField) :
    config.settings.get field =
      (environment.value? stem field).getD (settings.get field) := by
  rw [← Settings.eq_settings_of_check made]
  exact Environment.get_override environment stem settings field

/-- Every field of a configuration that is loaded has the value of the environment, else that of the
file, else its default; and what is loaded passes the check. -/
theorem exists_supplies_of_loaded (made : loaded contents environment stem path? = .ok config) :
    ∃ entries, Supplies contents (filePath? environment stem path?) entries ∧
      (∀ entry ∈ entries, ∃ field : ConfigField, entry.1 = .text field.name) ∧
      (∀ field, config.settings.get field =
        ((environment.value? stem field).or (Datum.valueOf? entries (.text field.name))).getD
          (defaults.settings.get field)) ∧ config.settings.check = .ok config := by
  rw [loaded] at made
  cases path_eq : filePath? environment stem path? with
  | none =>
      rw [path_eq] at made
      refine ⟨[], .nothing, List.forall_mem_nil _, fun field => ?_,
        Settings.check_settings_of_check made⟩
      rw [get_of_ofEnvironment made, Datum.valueOf?_nil, Option.or_none,
        ← Settings.eq_settings_of_check check_defaults]
  | some path =>
      rw [path_eq] at made
      obtain ⟨base, file_eq, made⟩ := exists_of_bind_eq_ok made
      obtain ⟨entries, supplies, describes⟩ := exists_supplies_of_ofFile file_eq
      refine ⟨entries, supplies, describes.named, fun field => ?_,
        Settings.check_settings_of_check made⟩
      rw [get_of_ofEnvironment made, describes.valued, Option.getD_or]

end Config
end BeaconCeremony

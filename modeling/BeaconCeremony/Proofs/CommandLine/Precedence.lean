import BeaconCeremony.Proofs.CommandLine.Configuration

/-!
# Precedence among the sources of a configuration

Options come before the environment, the environment before the file, and the file before the
defaults, for every field by itself.  The file is the one that the option names, or else the one
that the environment names.
-/

namespace BeaconCeremony
namespace CommandLine

/-- The value that the options give to a field. -/
def BeaconRequest.value? (request : BeaconRequest) : ConfigField → Option Datum
  | .inputPath => request.input?.map fun path => .text path
  | .outputPath => request.output?.map fun path => .text path
  | .paramsFormat => request.format?.map fun name => .text name
  | .quiet => if request.quiet then some (.bool true) else none

namespace Command

section Sources

variable {contents : String → Except Failure Bytes} {environment : Environment} {stem : String}
  {request : BeaconRequest} {base config : Config}

/-- Reads files with the given contents and takes down their paths. -/
def consulting (contents : String → Except Failure Bytes) (path : String) :
    StateM (List String) (Except Failure Bytes) := fun paths => (contents path, paths ++ [path])

/-- Only the file that is named is read. -/
theorem load_consulting (contents : String → Except Failure Bytes) (environment : Environment)
    (stem : String) (path? : Option String) :
    Config.load (consulting contents) environment stem path? [] =
      (Config.loaded contents environment stem path?,
        (Config.filePath? environment stem path?).toList) := by
  have reads (path : String) : consulting contents path [] = (contents path, [path]) := rfl
  rw [Config.run_load reads]
  cases Config.filePath? environment stem path? <;> rfl

/-- The options take precedence over what is there. -/
theorem get_overrides (request : BeaconRequest) (base : Config) (field : ConfigField) :
    (overrides request base).get field =
      (request.value? field).getD (base.settings.get field) := by
  obtain ⟨input?, beacon, exponent, output?, tag, format?, quiet, config?⟩ := request
  cases field with
  | inputPath => cases input? <;> rfl
  | outputPath => cases output? <;> rfl
  | paramsFormat => cases format? <;> rfl
  | quiet => cases quiet <;> rfl

theorem get_of_overrides (checked : (overrides request base).check = .ok config)
    (field : ConfigField) :
    config.settings.get field = (request.value? field).getD (base.settings.get field) := by
  rw [← Settings.eq_settings_of_check checked, get_overrides]

/-- Whether a configuration is quiet is said by the option, else by the variable, and else by the
truth of the value in the file. -/
theorem isQuiet_eq {given? : Option Datum}
    (valued : config.settings.get .quiet =
      (((request.value? .quiet).or (environment.value? stem .quiet)).or given?).getD
        (.bool false)) :
    config.isQuiet = (request.quiet ||
      (((environment.lookup (stem ++ "QUIET")).map fun value =>
        ["1", "true", "yes", "on"].contains value.toLower).or
          (given?.map Datum.isTrue)).getD false) := by
  change config.quiet = _ at valued
  rw [Config.isQuiet, valued, BeaconRequest.value?, Environment.value?, Environment.suffix]
  cases request.quiet with
  | true => rfl
  | false =>
      cases environment.lookup (stem ++ "QUIET") with
      | some value => rfl
      | none => cases given? <;> rfl

/-- Where a configuration is resolved, at most one file is read: the one that the option names, or
else the variable, if the name is not empty.  Each field has the value that its option gives it,
else its variable, else the file, and else its default.  What is resolved passes the check, and it
is what a contribution is made with. -/
theorem precedence_holds {paths : List String}
    (loads : Config.load (consulting contents) environment stem request.config? [] =
      (.ok base, paths))
    (checked : (overrides request base).check = .ok config) :
    ∃ path? entries,
      path? = (request.config?.filter (!·.isEmpty)).or
        ((environment.lookup (stem ++ "CONFIG")).filter (!·.isEmpty)) ∧
      paths = path?.toList ∧ Config.Supplies contents path? entries ∧
      (∀ entry ∈ entries, ∃ field : ConfigField, entry.1 = .text field.name) ∧
      (∀ field, config.settings.get field =
        (((request.value? field).or (environment.value? stem field)).or
          (Datum.valueOf? entries (.text field.name))).getD (Config.defaults.settings.get field)) ∧
      config.isQuiet = (request.quiet ||
        (((environment.lookup (stem ++ "QUIET")).map fun value =>
          ["1", "true", "yes", "on"].contains value.toLower).or
            ((Datum.valueOf? entries (.text "quiet")).map Datum.isTrue)).getD false) ∧
      config.settings.check = .ok config ∧
      ∀ machine : Machine, (∀ path : String, machine.storage.content path = contents path) →
        stem = Environment.standardStem →
        Returns (configure (Machine.system environment) request) machine config machine := by
  rw [load_consulting, Prod.mk.injEq] at loads
  obtain ⟨loaded_eq, rfl⟩ := loads
  obtain ⟨entries, supplies, named, valued, -⟩ := Config.exists_supplies_of_loaded loaded_eq
  have effective (field : ConfigField) : config.settings.get field =
      (((request.value? field).or (environment.value? stem field)).or
        (Datum.valueOf? entries (.text field.name))).getD (Config.defaults.settings.get field) := by
    rw [get_of_overrides checked, valued, Option.or_assoc]
    exact Option.getD_or.symm
  refine ⟨_, entries, Config.filePath?_eq environment stem request.config?, rfl, supplies, named,
    effective, isQuiet_eq (effective .quiet), Settings.check_settings_of_check checked, ?_⟩
  rintro machine content_eq rfl
  have resolved_eq : resolved (fun path => machine.storage.content path) environment
      Environment.standardStem request = .ok config := by
    rw [funext content_eq, resolved, loaded_eq]
    exact checked
  rw [Returns, run_configure, resolved_eq]

end Sources

namespace Mixed

/-- A directory with one file. -/
def contents (path : String) : Except Failure Bytes :=
  if path = "c.yaml" then .ok (Utf8.encode "output_path: b\nquiet: true\n")
  else .error (.system .noSuchFile)

/-- Variables that name the file and switch checkpoint lines on. -/
def environment : Environment := [("P_CONFIG", "c.yaml"), ("P_QUIET", "off")]

/-- A request with a name for the format and an empty one for the file. -/
def request : BeaconRequest :=
  { beacon := "00", exponent := 10, format? := some "f", config? := some "" }

/-- The file is read, and the options turn what comes of it into a configuration. -/
def isResolved (run : Except ConfigError Config × List String) : Bool :=
  comesTo (fun base => comesTo (fun _ => true) (overrides request base).check) run.1 &&
    run.2 == ["c.yaml"]

theorem exists_of_isResolved {run : Except ConfigError Config × List String}
    (resolves : isResolved run = true) : ∃ base config,
      run = (.ok base, ["c.yaml"]) ∧ (overrides request base).check = .ok config := by
  obtain ⟨outcome, paths⟩ := run
  obtain ⟨comes, paths_eq⟩ := Bool.and_eq_true_iff.mp resolves
  obtain rfl : paths = ["c.yaml"] := beq_iff_eq.mp paths_eq
  obtain ⟨base, rfl, passes⟩ := exists_of_comesTo comes
  obtain ⟨config, checked, -⟩ := exists_of_comesTo passes
  exact ⟨base, config, rfl, checked⟩

end Mixed

/-- The variable names the file, the option gives the format, and the variable outdoes the file. -/
theorem precedence_holds_mixed : ∃ base config,
    Config.load (consulting Mixed.contents) Mixed.environment "P_" Mixed.request.config? [] =
      (.ok base, ["c.yaml"]) ∧ (overrides Mixed.request base).check = .ok config ∧
      config.settings.get .paramsFormat = .text "f" ∧ config.isQuiet = false := by
  have resolves : Mixed.isResolved (Config.load (consulting Mixed.contents) Mixed.environment "P_"
      Mixed.request.config? []) = true := by decide +kernel
  obtain ⟨base, config, loads, checked⟩ := Mixed.exists_of_isResolved resolves
  obtain ⟨path?, entries, -, -, -, -, effective, quiet_eq, -⟩ := precedence_holds loads checked
  have switched : (Mixed.environment.lookup ("P_" ++ "QUIET")).map
      (fun value => ["1", "true", "yes", "on"].contains value.toLower) = some false := by
    decide +kernel
  rw [switched] at quiet_eq
  exact ⟨base, config, loads, checked, effective .paramsFormat, quiet_eq⟩

end Command
end CommandLine
end BeaconCeremony

import BeaconCeremony.Proofs.CommandLine.Command
import BeaconCeremony.Proofs.Config.Loading

/-!
# Configurations that are wrong

A command that contributes tells of a configuration that is refused and exits with code one.  A
configuration file is refused if it comes to no configuration, unless something unforeseen happens:
the command does not report that.
-/

namespace BeaconCeremony

namespace RawText

theorem escaped_coe_append (front : String) (text : RawText) :
    ((front : RawText) ++ text).escaped = front ++ text.escaped := by
  have folded (parts : List (Half × String)) (done : String) :
      parts.foldl (fun done entry =>
          done ++ String.ofList (Text.numericEscape entry.1.point) ++ entry.2) (front ++ done) =
        front ++ parts.foldl (fun done entry =>
          done ++ String.ofList (Text.numericEscape entry.1.point) ++ entry.2) done := by
    induction parts generalizing done with
    | nil => rfl
    | cons entry parts ih =>
        rw [List.foldl_cons, List.foldl_cons, ← ih]
        simp only [String.append_assoc]
  exact folded text.rest text.start

theorem mapStrings_withoutControls_append {front : String} (no_escape : '\x1b' ∉ front.toList)
    (text : RawText) : ((front : RawText) ++ text).mapStrings Text.withoutControls =
      (front : RawText) ++ text.mapStrings Text.withoutControls := by
  change RawText.mk (Text.withoutControls (front ++ text.start)) _ = ⟨front ++ _, _⟩
  rw [Text.withoutControls_append no_escape]
  rfl

end RawText

namespace Storage

variable {storage : Storage} {path : RawText} {failure : Failure}

end Storage

namespace CommandLine
namespace Command

section Files

variable {environment : Environment} {machine : Machine} {request : BeaconRequest}
  {error : ConfigError}

/-- The configuration of a request, where files have the given contents. -/
def resolved (contents : String → Except Failure Bytes) (environment : Environment) (stem : String)
    (request : BeaconRequest) : Except ConfigError Config :=
  (Config.loaded contents environment stem request.config?).bind fun config =>
    (overrides request config).check

/-- What is shown of a configuration that is wrong. -/
def configurationComplaint (error : ConfigError) : String :=
  "Invalid configuration: " ++ (error.summary.mapStrings Text.withoutControls).escaped

theorem shown_configurationMessage (error : ConfigError) :
    ((configurationMessage error.summary).mapStrings Text.withoutControls).escaped =
      configurationComplaint error := by
  have no_escape : '\x1b' ∉ "Invalid configuration: ".toList := by decide
  rw [configurationMessage, RawText.mapStrings_withoutControls_append no_escape]
  exact RawText.escaped_coe_append _ _

/-- A configuration is what the files and the environment give, or it is told why there is none. -/
theorem run_configure (environment : Environment) (machine : Machine) (request : BeaconRequest) :
    (configure (Machine.system environment) request).run.run machine =
      match resolved (fun path => machine.storage.content path) environment
        Environment.standardStem request with
      | .ok config => (.ok config, machine)
      | .error error =>
        if error.isRefusal then
          (.error (.exit 1),
            { machine with complaints := configurationComplaint error :: machine.complaints })
        else (.error (.escaped error.failure), machine) := by
  have reads (path : String) : (Machine.system environment).readFile path machine =
      (machine.storage.content path, machine) := rfl
  have load_eq : Config.load (Machine.system environment).readFile environment
      Environment.standardStem request.config? machine =
        (Config.loaded (fun path => machine.storage.content path) environment
          Environment.standardStem request.config?, machine) := by
    rw [Config.run_load reads]
    cases Config.filePath? environment Environment.standardStem request.config? <;> rfl
  have lifted : Returns (liftM (Config.load (Machine.system environment).readFile environment
      Environment.standardStem request.config?)) machine (Config.loaded
        (fun path => machine.storage.content path) environment Environment.standardStem
          request.config?) machine :=
    congrArg (fun ran : _ × Machine => (Except.ok ran.1, ran.2)) load_eq
  refine (run_bind_of_returns lifted _).trans ?_
  rw [resolved]
  cases (Config.loaded (fun path => machine.storage.content path) environment
      Environment.standardStem request.config?).bind fun config =>
        (overrides request config).check with
  | ok config => rfl
  | error error =>
      cases refusal : error.isRefusal with
      | true =>
          simp only [refusal, if_true]
          rw [← shown_configurationMessage]
          rfl
      | false =>
          simp only [refusal, Bool.false_eq_true, if_false]
          rfl

end Files

namespace Strange

/-- A contribution is asked for with the configuration file `c`. -/
def arguments : List String := ["beacon", "-h", "00", "-n", "10", "--config", "c"]

def request : BeaconRequest := { beacon := "00", exponent := 10, config? := some "c" }

theorem asked : request? arguments = some (.beacon request) := rfl

theorem named :
    Config.filePath? [] Environment.standardStem request.config? = some "c" := rfl

/-- A machine with the file `c`. -/
def holding (text : String) : Machine where
  storage := (Storage.fresh "home").put (["home", "c"].map Utf8.encode) (.file (Utf8.encode text))

/-- The file holds a mapping whose key is a number. -/
def numbered : Machine := holding "1: 2\n"

theorem content_eq : numbered.storage.content "c" = .ok (Utf8.encode "1: 2\n") := by
  have found : (numbered.storage.content "c").toOption = some (Utf8.encode "1: 2\n") := by
    decide +kernel
  generalize numbered.storage.content "c" = content at found ⊢
  cases content with
  | error failure => contradiction
  | ok content => exact congrArg Except.ok (Option.some.inj found)

theorem holds : Config.Holds "c" (Utf8.encode "1: 2\n") (.map [(.int 1, .int 2)]) := by
  refine Config.holds_encode (by decide) (Config.parses_yaml rfl ?_)
  have read : comesTo (Config.isSingle (Config.isNumber 1) (Config.isNumber 2))
      (Yaml.read "1: 2\n") = true := by decide +kernel
  obtain ⟨value, read, passes⟩ := exists_of_comesTo read
  obtain ⟨key, held, rfl, key_passes, held_passes⟩ := Config.exists_eq_map_of_isSingle passes
  rw [read, Config.eq_int_of_isNumber key_passes, Config.eq_int_of_isNumber held_passes]

theorem failed : Config.ofFile "c" (numbered.storage.content "c") =
    .error (.keyKind 0 "int") := by
  rw [content_eq, Config.ofFile_of_holds holds, Config.documentOf_of_isTrue rfl]
  exact Config.ofDocument_map_of_checkKeys_error rfl

end Strange

end Command
end CommandLine
end BeaconCeremony

import BeaconCeremony.Config.Loading
import BeaconCeremony.Proofs.Except

/-!
# Fields of a configuration

Settings are determined by the values of their four fields.  Keys of a mapping and variables of the
environment each give values to some of the fields and leave the others alone; of several keys with
the name of a field the last one counts.
-/

namespace BeaconCeremony

theorem RawText.string?_eq_some_iff {text : RawText} {string : String} :
    text.string? = some string ↔ text = (string : RawText) := by
  obtain ⟨start, rest⟩ := text
  cases rest with
  | nil => simp [string?, ofString]
  | cons half rest => simp [string?, ofString]

namespace Datum

theorem sameKey_text_iff {key : Datum} {name : RawText} :
    key.sameKey (.text name) = true ↔ key = .text name := by
  cases key <;> simp [sameKey, wholeNumber?, asInt?]

/-- The value that a mapping has under a key.  Of several entries with the key the last one
counts. -/
def valueOf? (entries : List (Datum × Datum)) (key : Datum) : Option Datum :=
  (entries.reverse.find? fun entry => entry.1.sameKey key).map (·.2)

theorem valueOf?_nil (key : Datum) : valueOf? [] key = none := rfl

theorem valueOf?_cons (entry : Datum × Datum) (entries : List (Datum × Datum)) (key : Datum) :
    valueOf? (entry :: entries) key =
      (valueOf? entries key).or (if entry.1.sameKey key then some entry.2 else none) := by
  rw [valueOf?, List.reverse_cons, List.find?_append, valueOf?]
  cases entries.reverse.find? fun entry => entry.1.sameKey key with
  | some found => rfl
  | none => cases same : entry.1.sameKey key <;> simp [same]

end Datum

namespace ConfigField

theorem mem_all (field : ConfigField) : field ∈ all := by cases field <;> decide

theorem ofName?_eq_some_iff {name : String} {field : ConfigField} :
    ofName? name = some field ↔ name = field.name := by
  constructor
  · intro found
    have same := List.find?_some found
    exact (beq_iff_eq.mp same).symm
  · rintro rfl
    cases field <;> decide

theorem ofKey?_eq_some_iff {key : Datum} {field : ConfigField} :
    ofKey? key = some field ↔ key = .text field.name := by
  cases key with
  | text name =>
      rw [ofKey?, Option.bind_eq_some_iff, Datum.text.injEq]
      simp only [RawText.string?_eq_some_iff, ofName?_eq_some_iff, exists_eq_right]
  | _ => simp [ofKey?]

end ConfigField

namespace Settings

@[simp]
theorem get_set_self (settings : Settings) (field : ConfigField) (value : Datum) :
    (settings.set field value).get field = value := by
  cases field <;> rfl

theorem get_set_of_ne (settings : Settings) {field other : ConfigField} (value : Datum)
    (other_ne : other ≠ field) : (settings.set field value).get other = settings.get other := by
  cases field <;> cases other <;> first | rfl | contradiction

/-- Keys with the name of a field give it its value; the other fields are left alone. -/
theorem get_setKeys (settings : Settings) (entries : List (Datum × Datum)) (field : ConfigField) :
    (settings.setKeys entries).get field =
      (Datum.valueOf? entries (.text field.name)).getD (settings.get field) := by
  induction entries generalizing settings with
  | nil => rfl
  | cons entry entries ih =>
      rw [Datum.valueOf?_cons, setKeys, List.foldl_cons]
      refine (ih _).trans ?_
      cases Datum.valueOf? entries (.text field.name) with
      | some value => rfl
      | none =>
          rw [Option.none_or, Option.getD_none]
          by_cases named : entry.1 = .text field.name
          · rw [ConfigField.ofKey?_eq_some_iff.mpr named, if_pos (Datum.sameKey_text_iff.mpr named)]
            exact get_set_self settings field entry.2
          · rw [if_neg fun same => named (Datum.sameKey_text_iff.mp same)]
            cases found : ConfigField.ofKey? entry.1 with
            | none => rfl
            | some other =>
                refine get_set_of_ne settings entry.2 ?_
                rintro rfl
                exact named (ConfigField.ofKey?_eq_some_iff.mp found)

/-- Values for some fields take the place of those that are there. -/
theorem get_foldl_set (value? : ConfigField → Option Datum) (fields : List ConfigField)
    (settings : Settings) (field : ConfigField) :
    (fields.foldl (fun settings field =>
        match value? field with
        | some value => settings.set field value
        | none => settings) settings).get field =
      if field ∈ fields then (value? field).getD (settings.get field) else settings.get field := by
  induction fields generalizing settings with
  | nil => rfl
  | cons other fields ih =>
      rw [List.foldl_cons, ih]
      by_cases same : field = other
      · subst same
        cases value? field with
        | none => simp
        | some value => simp
      · have kept : (match value? other with
            | some value => settings.set other value
            | none => settings).get field = settings.get field := by
          cases value? other with
          | none => rfl
          | some value => exact get_set_of_ne settings value same
        rw [kept]
        simp [same]

end Settings

namespace Environment

/-- A variable for a field gives it its value; the other fields are left alone. -/
theorem get_override (environment : Environment) (stem : String) (settings : Settings)
    (field : ConfigField) :
    (environment.override stem settings).get field =
      ((environment.lookup (stem ++ suffix field)).map (datum field)).getD
        (settings.get field) := by
  have folded := Settings.get_foldl_set
    (fun field => (environment.lookup (stem ++ suffix field)).map (datum field)) ConfigField.all
    settings field
  rw [if_pos field.mem_all] at folded
  rw [← folded, override]
  congr 2
  funext settings field
  cases environment.lookup (stem ++ suffix field) <;> rfl

end Environment

namespace Settings

theorem path_eq_ok_iff {field : ConfigField} {value : Datum} {path : RawText} :
    Settings.path field value = .ok path ↔ value = .text path ∧ Text.hasInk path = true := by
  cases value with
  | text found =>
      rw [Settings.path, Datum.text.injEq]
      split
      · rename_i ink
        exact ⟨fun same => ⟨Except.ok.inj same, Except.ok.inj same ▸ ink⟩,
          fun same => congrArg Except.ok same.1⟩
      · rename_i blank
        refine ⟨nofun, ?_⟩
        rintro ⟨rfl, ink⟩
        exact absurd ink blank
  | _ => simp [Settings.path]

theorem format_eq_ok_iff {value : Datum} {name : RawText} :
    format value = .ok name ↔ value = .text name ∧ name.isEmpty = false := by
  cases value with
  | text found =>
      rw [format, Datum.text.injEq]
      cases empty : found.isEmpty with
      | true =>
          refine ⟨nofun, ?_⟩
          rintro ⟨rfl, nonempty⟩
          cases empty.symm.trans nonempty
      | false =>
          refine ⟨fun same => ?_, fun same => congrArg Except.ok same.1⟩
          cases same
          exact ⟨rfl, empty⟩
  | _ => simp [format]

/-- Settings pass the check exactly if they are those of a configuration whose paths are not blank
and whose format has a name. -/
theorem check_eq_ok_iff {settings : Settings} {config : Config} :
    settings.check = .ok config ↔ settings = config.settings ∧
      Text.hasInk config.inputPath = true ∧ Text.hasInk config.outputPath = true ∧
        config.paramsFormat.isEmpty = false := by
  constructor
  · intro checked
    obtain ⟨inputPath, input_eq, checked⟩ := exists_of_bind_eq_ok checked
    obtain ⟨outputPath, output_eq, checked⟩ := exists_of_bind_eq_ok checked
    obtain ⟨paramsFormat, format_eq, checked⟩ := exists_of_bind_eq_ok checked
    cases checked
    obtain ⟨input_eq, input_ink⟩ := path_eq_ok_iff.mp input_eq
    obtain ⟨output_eq, output_ink⟩ := path_eq_ok_iff.mp output_eq
    obtain ⟨format_eq, named⟩ := format_eq_ok_iff.mp format_eq
    refine ⟨?_, input_ink, output_ink, named⟩
    rw [Config.settings, ← input_eq, ← output_eq, ← format_eq]
  · rintro ⟨rfl, input_ink, output_ink, named⟩
    have input_eq : Settings.path .inputPath (.text config.inputPath) = .ok config.inputPath :=
      path_eq_ok_iff.mpr ⟨rfl, input_ink⟩
    have output_eq : Settings.path .outputPath (.text config.outputPath) = .ok config.outputPath :=
      path_eq_ok_iff.mpr ⟨rfl, output_ink⟩
    have format_eq : format (.text config.paramsFormat) = .ok config.paramsFormat :=
      format_eq_ok_iff.mpr ⟨rfl, named⟩
    rw [check, Config.settings, input_eq, output_eq, format_eq]
    rfl

theorem eq_settings_of_check {settings : Settings} {config : Config}
    (checked : settings.check = .ok config) : settings = config.settings :=
  (check_eq_ok_iff.mp checked).1

/-- A configuration that has been checked passes the check again. -/
theorem check_settings_of_check {settings : Settings} {config : Config}
    (checked : settings.check = .ok config) : config.settings.check = .ok config :=
  eq_settings_of_check checked ▸ checked

end Settings
end BeaconCeremony

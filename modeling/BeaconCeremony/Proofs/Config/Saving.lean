import BeaconCeremony.Proofs.Config.File
import BeaconCeremony.Proofs.Json.Document
import BeaconCeremony.Proofs.Storage

/-!
# Saving configurations

The mapping that a configuration is written as names all its fields and nothing else.  So it comes
back from the file that it is saved in, whatever its strings are and however the document is
indented.
-/

namespace BeaconCeremony
namespace Config

variable {config : Config} {path : String}

/-- A configuration that passes the check comes of the mapping that it is written as. -/
theorem ofDocument_toDatum (valid : config.settings.check = .ok config) :
    ofDocument path config.toDatum = .ok config := by
  rw [toDatum, ofDocument_map_of_checkKeys (by rfl)]
  -- Every field is named, so that no default is left.
  exact valid

/-- The names of the fields are in order. -/
theorem ascending_names :
    RawText.Ascending ((ConfigField.all.map ConfigField.name).map RawText.ofString) := by
  have less : ((ConfigField.all.map ConfigField.name).map RawText.ofString).Pairwise
      fun left right => Datum.dictionaryLess left.points right.points = true := by decide +kernel
  exact less.imp Datum.dictionaryLess_iff.mp

/-- The texts of a configuration are strings, and it is quiet or it is not. -/
inductive Plain : Config → Prop
  | intro (inputPath outputPath paramsFormat : String) (quiet : Bool) :
      Plain ⟨inputPath, outputPath, paramsFormat, .bool quiet⟩

/-- The values of a plain configuration are scalars. -/
theorem Plain.exists_toDatum_eq (plain : config.Plain) :
    ∃ members : List (String × Json.Scalar), config.toDatum = .map (Json.entriesOf members) ∧
      members.map Prod.fst = ConfigField.all.map ConfigField.name := by
  obtain ⟨inputPath, outputPath, paramsFormat, quiet⟩ := plain
  let members : List (String × Json.Scalar) :=
    [(ConfigField.inputPath.name, .text inputPath), (ConfigField.outputPath.name, .text outputPath),
      (ConfigField.paramsFormat.name, .text paramsFormat), (ConfigField.quiet.name, .bool quiet)]
  exact ⟨members, rfl, rfl⟩

theorem Plain.toJson_eq (plain : config.Plain) (indent : Int) :
    config.toJson indent = Json.write (.indented indent.toNat) config.toDatum := by
  obtain ⟨inputPath, outputPath, paramsFormat, quiet⟩ := plain
  rfl

/-- A plain configuration is written, and read as it has been written. -/
theorem Plain.exists_toJson_eq_ok (plain : config.Plain) (indent : Int) :
    ∃ text, config.toJson indent = .ok text ∧ '\r' ∉ text.toList ∧
      Json.read text = .ok config.toDatum := by
  obtain ⟨members, datum_eq, names_eq⟩ := plain.exists_toDatum_eq
  rw [plain.toJson_eq, datum_eq]
  refine Json.exists_write_eq_ok _ ?_
  have ascending := ascending_names
  rw [← names_eq, List.map_map] at ascending
  exact ascending

/-- A configuration that is saved in a file with the name of a JSON document is loaded unchanged,
whatever its strings are and whatever the indentation is. -/
theorem ofFile_toJson (plain : config.Plain) (valid : config.settings.check = .ok config)
    (named : isJsonPath path = true) (indent : Int) :
    ∃ text, config.toJson indent = .ok text ∧
      ofFile path (.ok (Utf8.encode text)) = .ok config ∧
      ∀ (storage : Storage) (place : List Bytes), storage.Writable path place →
        ∃ created, storage.create path = .ok (place, created) ∧
          ofFile path ((created.append place (Utf8.encode text)).content path) = .ok config := by
  obtain ⟨text, written, no_return, read⟩ := plain.exists_toJson_eq_ok indent
  have holds : Holds path (Utf8.encode text) config.toDatum :=
    holds_encode no_return (by rw [Parses, if_pos named, read])
  have kept : documentOf path config.toDatum = config.toDatum := documentOf_of_isTrue rfl
  have loaded : ofFile path (.ok (Utf8.encode text)) = .ok config := by
    rw [ofFile_of_holds holds, kept, ofDocument_toDatum valid]
  refine ⟨text, written, loaded, fun storage place writable => ?_⟩
  obtain ⟨created, created_eq, empty⟩ := writable.create
  refine ⟨created, created_eq, ?_⟩
  rw [(empty.append (Utf8.encode text)).content writable.place_eq, List.nil_append, loaded]

/-- Strings with quotes, a backslash, control characters and a character beyond the first plane are
saved in a new file. -/
theorem ofFile_toJson_escapes :
    let config : Config := ⟨"\"in\\put\"\r\n", "\x00🎲é\x7f", "bn254\tphase2", .bool true⟩
    let storage := Storage.fresh "home"
    let place := ["home", "c.json"].map Utf8.encode
    config.Plain ∧ config.settings.check = .ok config ∧ isJsonPath "c.json" = true ∧
      storage.Writable "c.json" place ∧
      ∃ text created, config.toJson 2 = .ok text ∧ storage.create "c.json" = .ok (place, created) ∧
        ofFile "c.json" ((created.append place (Utf8.encode text)).content "c.json") =
          .ok config := by
  intro config storage place
  have plain : config.Plain := .intro _ _ _ _
  have valid : config.settings.check = .ok config :=
    Settings.check_eq_ok_iff.mpr ⟨rfl, by decide, by decide, by decide⟩
  have named : isJsonPath "c.json" = true := by decide +kernel
  have writable : storage.Writable "c.json" place :=
    ⟨eq_ok_of_toOption (by decide +kernel), .inl (by decide +kernel)⟩
  obtain ⟨text, written, -, saved⟩ := ofFile_toJson plain valid named 2
  obtain ⟨created, created_eq, loaded⟩ := saved storage place writable
  exact ⟨plain, valid, named, writable, text, created, written, created_eq, loaded⟩

end Config
end BeaconCeremony

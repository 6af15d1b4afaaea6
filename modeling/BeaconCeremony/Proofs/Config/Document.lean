import BeaconCeremony.CommandLine.Command
import BeaconCeremony.Proofs.Config.Settings
import BeaconCeremony.Proofs.Datum.Order

/-!
# Documents of configurations

What is made of the value that a file is parsed to, whatever that value is.  A mapping is taken if
all its keys are names of fields and its values pass the check; its other keys are refused by their
names, which fails if one of them is no text.
-/

namespace BeaconCeremony

/-- The failure is that a value has been refused. -/
def Failure.IsRefusal : Failure → Prop
  | .value _ => True
  | .notEncodable _ => True
  | _ => False

namespace Config

variable {path : String} {entries : List (Datum × Datum)} {error : ConfigError}

/-- The name of a key at a position; a key that is no text has none. -/
def nameAt (place : Datum × Nat) : Except ConfigError RawText :=
  match place.1 with
  | .text name => .ok name
  | key => .error (.keyKind place.2 key.fullKind)

/-- Keys have no names together exactly if one of them is no text. -/
theorem namesAt_cases (keys : List Datum) :
    (∃ names, keys.zipIdx.mapM nameAt = .ok names ∧ ∀ key ∈ keys, ∃ name, key = .text name) ∨
      ∃ position kind, keys.zipIdx.mapM nameAt = .error (.keyKind position kind) ∧
        ∃ key ∈ keys, ∀ name, key ≠ .text name := by
  have member_of (place : Datum × Nat) (member : place ∈ keys.zipIdx) : place.1 ∈ keys := by
    have projected := List.mem_map_of_mem (f := Prod.fst) member
    rwa [List.zipIdx_map_fst] at projected
  cases named : keys.zipIdx.mapM nameAt with
  | ok names =>
      refine .inl ⟨names, rfl, fun key member => ?_⟩
      rw [← List.zipIdx_map_fst 0 keys] at member
      obtain ⟨⟨key, position⟩, place_member, rfl⟩ := List.mem_map.mp member
      obtain ⟨name, name_eq⟩ := exists_eq_ok_of_mapM_eq_ok named _ place_member
      cases key with
      | text found => exact ⟨found, rfl⟩
      | _ => contradiction
  | error error =>
      obtain ⟨⟨key, position⟩, member, nameless⟩ := exists_eq_error_of_mapM_eq_error named
      refine .inr ?_
      cases key with
      | text name => contradiction
      | _ =>
          cases nameless
          exact ⟨position, _, rfl, _, member_of _ member, nofun⟩

/-- The refusal of keys by their names, in order. -/
def refuseKeys (path : String) (unknown : List (Datum × Datum)) : Except ConfigError Unit := do
  let sorted ← (Datum.sortByKey unknown).mapError ConfigError.keyOrder
  let names ← (sorted.map (·.1)).zipIdx.mapM nameAt
  .error (.unknownKeys path names)

theorem checkKeys_eq (path : String) (entries : List (Datum × Datum)) :
    checkKeys path entries =
      if (entries.filter fun entry => (ConfigField.ofKey? entry.1).isNone).isEmpty then .ok ()
      else refuseKeys path (entries.filter fun entry => (ConfigField.ofKey? entry.1).isNone) := rfl

/-- Keys are refused by their names if they are texts, and without an answer if one of them is
not. -/
theorem refuseKeys_cases (path : String) (unknown : List (Datum × Datum)) :
    (∃ names, refuseKeys path unknown = .error (.unknownKeys path names) ∧
        ∀ entry ∈ unknown, ∃ name, entry.1 = .text name) ∨
      (∃ error reason, refuseKeys path unknown = .error error ∧
        error.failure = .wrongType reason) ∧ ∃ entry ∈ unknown, ∀ name, entry.1 ≠ .text name := by
  cases sorts : Datum.sortByKey unknown with
  | error order =>
      refine .inr ⟨⟨.keyOrder order, _, by rw [refuseKeys, sorts]; rfl, rfl⟩, ?_⟩
      by_contra texts
      push Not at texts
      obtain ⟨sorted, sorted_eq⟩ :=
        Datum.exists_sortByKey_eq_ok (Datum.comparable_of_texts texts)
      cases sorts.symm.trans sorted_eq
  | ok sorted =>
      have refused_eq : refuseKeys path unknown = ((sorted.map (·.1)).zipIdx.mapM nameAt >>=
          fun names => .error (.unknownKeys path names)) := by
        rw [refuseKeys, sorts]
        rfl
      have sorted_perm := Datum.perm_of_sortByKey sorts
      rcases namesAt_cases (sorted.map (·.1)) with
        ⟨names, named, texts⟩ | ⟨position, kind, nameless, key, member, strange⟩
      · refine .inl ⟨names, by rw [refused_eq, named]; rfl, fun entry member => ?_⟩
        exact texts _ (List.mem_map_of_mem (sorted_perm.mem_iff.mpr member))
      · obtain ⟨entry, entry_member, rfl⟩ := List.mem_map.mp member
        exact .inr ⟨⟨.keyKind position kind, _, by rw [refused_eq, nameless]; rfl, rfl⟩, entry,
          sorted_perm.mem_iff.mp entry_member, strange⟩

theorem isNone_ofKey?_iff {key : Datum} :
    (ConfigField.ofKey? key).isNone = true ↔ ∀ field : ConfigField, key ≠ .text field.name := by
  rw [Option.isNone_iff_eq_none, Option.eq_none_iff_forall_ne_some]
  exact forall_congr' fun field => not_congr ConfigField.ofKey?_eq_some_iff

/-- The keys of a mapping are the names of fields, or some are refused, or one of them is no text
and there is no answer. -/
theorem checkKeys_cases (path : String) (entries : List (Datum × Datum)) :
    (checkKeys path entries = .ok () ∧
        ∀ entry ∈ entries, ∃ field : ConfigField, entry.1 = .text field.name) ∨
      (∃ names, checkKeys path entries = .error (.unknownKeys path names) ∧
        ∀ entry ∈ entries, ∃ name, entry.1 = .text name) ∨
      (∃ error reason, checkKeys path entries = .error error ∧
        error.failure = .wrongType reason) ∧ ∃ entry ∈ entries, ∀ name, entry.1 ≠ .text name := by
  rw [checkKeys_eq]
  split
  · rename_i empty
    refine .inl ⟨rfl, fun entry member => ?_⟩
    have known := List.filter_eq_nil_iff.mp (List.isEmpty_iff.mp empty) entry member
    rw [isNone_ofKey?_iff] at known
    push Not at known
    exact known
  · rcases refuseKeys_cases path _ with
      ⟨names, refused, texts⟩ | ⟨unanswered, entry, member, strange⟩
    · refine .inr (.inl ⟨names, refused, fun entry member => ?_⟩)
      by_cases unknown : (ConfigField.ofKey? entry.1).isNone = true
      · exact texts entry (List.mem_filter.mpr ⟨member, unknown⟩)
      · rw [isNone_ofKey?_iff] at unknown
        push Not at unknown
        obtain ⟨field, key_eq⟩ := unknown
        exact ⟨_, key_eq⟩
    · exact .inr (.inr ⟨unanswered, entry, (List.mem_filter.mp member).1, strange⟩)

/-! ## What comes of a document -/

end Config

namespace Config

/-- A mapping whose keys are names of fields comes to the configuration that it describes. -/
theorem ofDocument_map_of_checkKeys (checked : checkKeys path entries = .ok ()) :
    ofDocument path (.map entries) = (Settings.setKeys {} entries).check := by
  rw [ofDocument, checked]
  rfl

theorem ofDocument_map_of_checkKeys_error (refused : checkKeys path entries = .error error) :
    ofDocument path (.map entries) = .error error := by
  rw [ofDocument, refused]
  rfl

/-- The configuration that is used where nothing else is said. -/
def defaults : Config := ⟨"mpc.params", "mpc.params", "bn254-phase2", .bool false⟩

theorem check_defaults : ({} : Settings).check = .ok defaults :=
  Settings.check_eq_ok_iff.mpr ⟨rfl, rfl, rfl, rfl⟩

/-- A mapping describes a configuration: its keys are names of fields, the fields that it names have
its values, and the others have their defaults. -/
structure Describes (entries : List (Datum × Datum)) (config : Config) : Prop where
  named : ∀ entry ∈ entries, ∃ field : ConfigField, entry.1 = .text field.name
  valued : ∀ field : ConfigField, config.settings.get field =
    (Datum.valueOf? entries (.text field.name)).getD (defaults.settings.get field)

variable {config : Config}

/-- A configuration is made only of a mapping that describes it. -/
theorem exists_describes_of_ofDocument {document : Datum}
    (made : ofDocument path document = .ok config) :
    ∃ entries, document = .map entries ∧ Describes entries config := by
  cases document with
  | map entries =>
      rcases checkKeys_cases path entries with
        ⟨checked, named⟩ | ⟨names, refused, -⟩ | ⟨⟨error, reason, failed, -⟩, -⟩
      · rw [ofDocument_map_of_checkKeys checked] at made
        refine ⟨entries, rfl, named, fun field => ?_⟩
        rw [← Settings.eq_settings_of_check made, Settings.get_setKeys]
        rw [← Settings.eq_settings_of_check check_defaults]
      · cases (ofDocument_map_of_checkKeys_error refused).symm.trans made
      · cases (ofDocument_map_of_checkKeys_error failed).symm.trans made
  | _ => contradiction

end Config
end BeaconCeremony

import BeaconCeremony.Proofs.Config.Document
import BeaconCeremony.Proofs.Text.Lines
import BeaconCeremony.Proofs.Text.Utf8

/-!
# Files with configurations

A file is decoded, parsed as its path says, and then taken as a document.  Each step comes to a
value, or refuses what it is given; YAML and mappings with strange keys leave room for other
failures.
-/

namespace BeaconCeremony
namespace Config

/-- What is made of the value that a file with a path is parsed to. -/
def documentOf (path : String) (value : Datum) : Datum :=
  if isJsonPath path || value.isTrue then value else .map []

/-- A text is parsed to a value, as JSON if the path says so and else as YAML. -/
def Parses (path text : String) (value : Datum) : Prop :=
  if isJsonPath path then Json.read text = .ok value else Yaml.read text = .ok value

/-- The content of a file with a path is a text that is parsed to a value. -/
def Holds (path : String) (content : Bytes) (value : Datum) : Prop :=
  ∃ text, decode content = .ok text ∧ Parses path text value

variable {path text : String} {content : Bytes} {value : Datum} {error : ConfigError}
  {config : Config}

theorem parse_of_parses (parses : Parses path text value) :
    parse path text = .ok (documentOf path value) := by
  rw [parse, documentOf]
  rw [Parses] at parses
  cases json : isJsonPath path with
  | true =>
      rw [json, if_pos rfl] at parses
      rw [if_pos rfl, parses]
      rfl
  | false =>
      rw [json, if_neg Bool.false_ne_true] at parses
      rw [if_neg Bool.false_ne_true, parses]
      rfl

theorem ofFile_of_decode (decoded : decode content = .ok text) :
    ofFile path (.ok content) = (parse path text >>= ofDocument path) := by
  rw [ofFile, decoded]
  rfl

/-- The value that a file holds decides what the file comes to. -/
theorem ofFile_of_holds (holds : Holds path content value) :
    ofFile path (.ok content) = ofDocument path (documentOf path value) := by
  obtain ⟨text, decoded, parses⟩ := holds
  rw [ofFile_of_decode decoded, parse_of_parses parses]
  rfl

/-- A document is left as it is, or it is a YAML document that is not true as a datum. -/
theorem documentOf_cases (path : String) (value : Datum) :
    documentOf path value = value ∧ (isJsonPath path = true ∨ value.isTrue = true) ∨
      documentOf path value = .map [] ∧ isJsonPath path = false ∧ value.isTrue = false := by
  rw [documentOf]
  cases isJsonPath path <;> cases value.isTrue <;> simp

theorem documentOf_of_isTrue (counts : value.isTrue = true) : documentOf path value = value := by
  rw [documentOf, counts, Bool.or_true, if_pos rfl]

/-- A text is parsed, or it is refused, or reading it as YAML breaks down. -/
theorem parse_cases (path text : String) :
    (∃ value, Parses path text value) ∨
      (∃ error, parse path text = .error error ∧ error.failure.IsRefusal) ∨
      ∃ failure, isJsonPath path = false ∧ Yaml.read text = .error (.refused failure) ∧
        ¬failure.IsRefusal := by
  cases json : isJsonPath path with
  | true =>
      cases read : Json.read text with
      | ok value => exact .inl ⟨value, by rw [Parses, if_pos json, read]⟩
      | error fault =>
          have refused : ∃ error, parse path text = .error error ∧ error.failure.IsRefusal := by
            rw [parse, if_pos json, read]
            cases fault <;> exact ⟨_, rfl, trivial⟩
          exact .inr (.inl refused)
  | false =>
      have yaml : ¬isJsonPath path = true := by rw [json]; exact Bool.false_ne_true
      cases read : Yaml.read text with
      | ok value => exact .inl ⟨value, by rw [Parses, if_neg yaml, read]⟩
      | error fault =>
          cases fault with
          | malformed fault =>
              exact .inr (.inl ⟨.malformedYaml path fault.reason,
                by rw [parse, if_neg yaml, read], trivial⟩)
          | refused failure =>
              by_cases refusal : failure.IsRefusal
              · exact .inr (.inl ⟨.failed failure, by rw [parse, if_neg yaml, read], refusal⟩)
              · exact .inr (.inr ⟨failure, rfl, rfl, refusal⟩)

/-- A file that comes to a configuration is parsed to a value. -/
theorem exists_holds_of_ofFile {given : Except Failure Bytes}
    (made : ofFile path given = .ok config) :
    ∃ content value, given = .ok content ∧ Holds path content value ∧
      ofDocument path (documentOf path value) = .ok config := by
  cases given with
  | error failure => cases failure <;> contradiction
  | ok content =>
      obtain ⟨text, decoded, made⟩ := exists_of_bind_eq_ok made
      obtain ⟨document, parsed, made⟩ := exists_of_bind_eq_ok made
      rcases parse_cases path text with
        ⟨value, parses⟩ | ⟨error, refused, -⟩ | ⟨failure, yaml, stopped, -⟩
      · rw [parse_of_parses parses] at parsed
        cases parsed
        exact ⟨content, value, rfl, ⟨text, decoded, parses⟩, made⟩
      · cases refused.symm.trans parsed
      · rw [parse, yaml, stopped] at parsed
        contradiction

/-- A configuration comes of a mapping that describes it, or of a YAML document that is not true as
a datum and stands for an empty one. -/
theorem exists_describes_of_documentOf
    (made : ofDocument path (documentOf path value) = .ok config) :
    ∃ entries, Describes entries config ∧ (value = .map entries ∨
      entries = [] ∧ isJsonPath path = false ∧ value.isTrue = false) := by
  obtain ⟨entries, document_eq, describes⟩ := exists_describes_of_ofDocument made
  refine ⟨entries, describes, ?_⟩
  rcases documentOf_cases path value with ⟨kept, -⟩ | ⟨emptied, yaml, untrue⟩
  · exact .inl (kept.symm.trans document_eq)
  · rw [emptied, Datum.map.injEq] at document_eq
    exact .inr ⟨document_eq.symm, yaml, untrue⟩

/-- A datum is a number. -/
def isNumber (number : Int) : Datum → Bool
  | .int found => found == number
  | _ => false

/-- A datum is a mapping with one entry, whose key and value pass tests. -/
def isSingle (isKey isValue : Datum → Bool) : Datum → Bool
  | .map [(key, value)] => isKey key && isValue value
  | _ => false

theorem eq_int_of_isNumber {number : Int} (passes : isNumber number value = true) :
    value = .int number := by
  unfold isNumber at passes
  split at passes
  · exact congrArg Datum.int (beq_iff_eq.mp passes)
  · cases passes

theorem exists_eq_map_of_isSingle {isKey isValue : Datum → Bool}
    (passes : isSingle isKey isValue value = true) :
    ∃ key held, value = .map [(key, held)] ∧ isKey key = true ∧ isValue held = true := by
  unfold isSingle at passes
  split at passes
  · obtain ⟨key_passes, value_passes⟩ := Bool.and_eq_true_iff.mp passes
    exact ⟨_, _, rfl, key_passes, value_passes⟩
  · cases passes

theorem holds_encode (no_return : '\r' ∉ text.toList) (parses : Parses path text value) :
    Holds path (Utf8.encode text) value := by
  refine ⟨text, ?_, parses⟩
  rw [decode, Utf8.decode_encode]
  simp only [Text.unifyLineBreaks_eq_self no_return, String.ofList_toList]

theorem parses_yaml (yaml : isJsonPath path = false) (read : Yaml.read text = .ok value) :
    Parses path text value := by
  rw [Parses, yaml]
  exact read

end Config
end BeaconCeremony

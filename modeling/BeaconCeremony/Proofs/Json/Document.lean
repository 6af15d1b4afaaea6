import BeaconCeremony.Proofs.Config.Settings
import BeaconCeremony.Proofs.Datum.Order
import BeaconCeremony.Proofs.Json.Text
import Mathlib.Data.List.Nodup

/-!
# Documents that are read as they have been written

A mapping from names to scalars is written with its members in the order of their names.  Whatever
the layout is, what stands between the parts of the document is passed over when it is read, so that
the mapping comes back with the same members in the same order.
-/

namespace BeaconCeremony
namespace Json

/-! ## What stands between the parts -/

/-- Nothing but spaces and line feeds. -/
def Gap (characters : List Char) : Prop :=
  ∀ character ∈ characters, character = ' ' ∨ character = '\n'

section Gaps

variable {gap rest : List Char} {character : Char}

theorem Gap.return_not_mem (empty : Gap gap) : '\r' ∉ gap :=
  fun member => absurd (empty '\r' member) (by decide)

theorem gap_lineStart (layout : Layout) (level : Nat) : Gap (layout.lineStart level) := by
  cases layout with
  | flat => exact List.forall_mem_nil _
  | indented width =>
      refine List.forall_mem_cons.mpr ⟨.inr rfl, fun character member => .inl ?_⟩
      exact List.eq_of_mem_replicate member

/-- Between two parts there is a comma and a gap. -/
theorem exists_separator_eq (layout : Layout) (level : Nat) :
    ∃ gap, layout.separator level = ',' :: gap ∧ Gap gap := by
  cases layout with
  | flat => exact ⟨[' '], rfl, by simp [Gap]⟩
  | indented width => exact ⟨_, rfl, gap_lineStart _ level⟩

/-- Gaps are passed over. -/
theorem skipBlanks_append (empty : Gap gap) (rest : List Char) :
    skipBlanks (gap ++ rest) = skipBlanks rest := by
  refine List.dropWhile_append_of_pos fun character member => ?_
  rcases empty character member with rfl | rfl
  · rfl
  · rfl

theorem skipBlanks_cons (ink : isBlank character = false) (rest : List Char) :
    skipBlanks (character :: rest) = character :: rest :=
  List.dropWhile_cons_of_neg (Bool.eq_false_iff.mp ink)

end Gaps

/-! ## Scalars -/

theorem value_quote (fuel : Nat) (rest : List Char) :
    value (fuel + 1) ('"' :: rest) =
      (text rest >>= fun (content, rest) => .ok (.text content, rest)) := rfl

/-- A datum that is written in one way wherever it stands, and that is read from this whatever
follows it. -/
structure Scalar where
  /-- The datum. -/
  datum : Datum
  /-- How it is written. -/
  written : List Char
  /-- Neither the layout nor the level matters. -/
  characters_eq : ∀ layout level, characters layout level datum = .ok written
  /-- It is read back. -/
  value_eq : ∀ fuel rest, value (fuel + 1) (skipBlanks (written ++ rest)) = .ok (datum, rest)
  /-- There is no carriage return in it. -/
  return_not_mem : '\r' ∉ written

namespace Scalar

/-- A text of characters. -/
def text (content : String) : Scalar where
  datum := .text content
  written := quote content
  characters_eq layout level := by rw [characters]
  value_eq fuel rest := by
    rw [quote_coe, List.append_assoc, List.cons_append, skipBlanks_cons (by decide), value_quote,
      List.singleton_append, text_flatMap_escapeCharacter]
    rfl
  return_not_mem := return_not_mem_quote content

/-- A truth value. -/
def bool (held : Bool) : Scalar where
  datum := .bool held
  written := (if held then "true" else "false").toList
  characters_eq layout level := by rw [characters]
  value_eq fuel rest := by
    cases held with
    | true => rfl
    | false => rfl
  return_not_mem := by cases held <;> decide

end Scalar

/-- The entries of a mapping from names to scalars. -/
def entriesOf (members : List (String × Scalar)) : List (Datum × Datum) :=
  members.map fun member => (.text member.1, member.2.datum)

/-- A member of a mapping as it is written. -/
def memberCharacters (member : String × Scalar) : List Char :=
  quote member.1 ++ ':' :: ' ' :: member.2.written

/-! ## Writing -/

section Writing

variable {members : List (String × Scalar)}

theorem entriesCharacters_entriesOf (layout : Layout) (level : Nat)
    (members : List (String × Scalar)) :
    entriesCharacters layout level (entriesOf members) =
      members.map fun member => (.text member.1, .ok member.2.written) := by
  induction members with
  | nil => rw [entriesOf, List.map_nil, entriesCharacters, List.map_nil]
  | cons member members ih =>
      rw [entriesOf, List.map_cons, entriesCharacters, member.2.characters_eq, ← entriesOf, ih,
        List.map_cons]

/-- Members in the order of their names are written in this order. -/
theorem characters_map (layout : Layout) (level : Nat)
    (ascending : RawText.Ascending (members.map fun member => (member.1 : RawText))) :
    characters layout level (.map (entriesOf members)) =
      .ok (enclosed layout level '\x7b' '\x7d' (members.map memberCharacters)) := by
  have ordered : (members.map fun member =>
      ((.text member.1, .ok member.2.written) : Datum × Except WriteError (List Char))).Pairwise
        fun left right => Datum.isLess right.1 left.1 = .ok false := by
    refine List.pairwise_map.mpr ((List.pairwise_map.mp ascending).imp fun less => ?_)
    refine congrArg Except.ok (Bool.eq_false_iff.mpr fun greater => ?_)
    exact asymm_of _ less (Datum.dictionaryLess_iff.mp greater)
  have written : (members.map fun member =>
      ((.text member.1, .ok member.2.written) : Datum × Except WriteError (List Char))).mapM
        Json.member = .ok (members.map memberCharacters) := by
    rw [List.mapM_map]
    exact mapM_eq_ok fun member _ => rfl
  rw [characters, entriesCharacters_entriesOf, Datum.sortByKey_eq_self ordered]
  change (List.mapM Json.member _ >>= _) = _
  rw [written]
  rfl

end Writing

/-! ## Reading -/

section Reading

/-- The entries that some members have been put into, one after the other. -/
def inserted (before : List (Datum × Datum)) (members : List (String × Scalar)) :
    List (Datum × Datum) :=
  members.foldl (fun entries member =>
    Datum.insertEntry entries (.text member.1) member.2.datum) before

/-- Members of different names are put at the end, one after the other. -/
theorem inserted_entriesOf {before members : List (String × Scalar)}
    (distinct : ((before ++ members).map Prod.fst).Nodup) :
    inserted (entriesOf before) members = entriesOf (before ++ members) := by
  induction members generalizing before with
  | nil => rw [List.append_nil, inserted, List.foldl_nil]
  | cons member members ih =>
      have joined_eq : before ++ member :: members = before ++ [member] ++ members := by
        rw [List.append_assoc, List.singleton_append]
      have absent : (entriesOf before).any (·.1.sameKey (.text member.1)) = false := by
        refine List.any_eq_false.mpr fun entry entry_mem same => ?_
        obtain ⟨other, other_mem, rfl⟩ := List.mem_map.mp entry_mem
        have name_eq : other.1 = member.1 := by
          have key_eq := Datum.text.inj (Datum.sameKey_text_iff.mp same)
          exact congrArg RawText.start key_eq
        rw [List.map_append, List.map_cons] at distinct
        exact (List.nodup_append.mp distinct).2.2 other.1 (List.mem_map_of_mem other_mem) member.1
          List.mem_cons_self name_eq
      have put_eq : Datum.insertEntry (entriesOf before) (.text member.1) member.2.datum =
          entriesOf (before ++ [member]) := by
        rw [Datum.insertEntry, absent, if_neg Bool.false_ne_true, entriesOf, entriesOf,
          List.map_append, List.map_singleton]
      rw [inserted, List.foldl_cons, put_eq, ← inserted, joined_eq]
      exact ih (joined_eq ▸ distinct)

/-- A member is read, and then what follows it. -/
theorem members_memberCharacters (fuel : Nat) (before : List (Datum × Datum))
    (member : String × Scalar) (rest : List Char) :
    members (fuel + 2) before (memberCharacters member ++ rest) =
      match skipBlanks rest with
      | ',' :: rest => members (fuel + 1) (inserted before [member]) (skipBlanks rest)
      | '\x7d' :: rest => .ok (.map (inserted before [member]), rest)
      | rest => stop .noComma rest := by
  have written_eq : memberCharacters member ++ rest = '"' ::
      (member.1.toList.flatMap escapeCharacter ++
        '"' :: ':' :: ' ' :: (member.2.written ++ rest)) := by
    rw [memberCharacters, quote_coe]
    simp
  have space : skipBlanks (' ' :: (member.2.written ++ rest)) =
      skipBlanks (member.2.written ++ rest) := rfl
  rw [written_eq, members, text_flatMap_escapeCharacter]
  simp only [bind, Except.bind]
  rw [skipBlanks_cons (by decide)]
  simp only [space, member.2.value_eq]
  rfl

theorem exists_intercalate_eq (separator : List Char) (member : String × Scalar)
    (others : List (String × Scalar)) :
    ∃ more, separator.intercalate ((member :: others).map memberCharacters) = '"' :: more := by
  cases others with
  | nil =>
      rw [List.map_singleton, List.intercalate_singleton, memberCharacters, quote_coe]
      exact ⟨_, rfl⟩
  | cons next others =>
      rw [List.map_cons, List.map_cons, List.intercalate_cons_cons, memberCharacters, quote_coe]
      exact ⟨_, rfl⟩

/-- Nothing is passed over before the first of some members. -/
theorem skipBlanks_intercalate (separator : List Char) (member : String × Scalar)
    (others : List (String × Scalar)) (rest : List Char) :
    skipBlanks (separator.intercalate ((member :: others).map memberCharacters) ++ rest) =
      separator.intercalate ((member :: others).map memberCharacters) ++ rest := by
  obtain ⟨more, more_eq⟩ := exists_intercalate_eq separator member others
  rw [more_eq, List.cons_append, skipBlanks_cons (by decide)]

/-- Members with commas and gaps between them are read up to the end of the mapping. -/
theorem members_intercalate {between after : List Char} (between_empty : Gap between)
    (after_empty : Gap after) (member : String × Scalar) (others : List (String × Scalar))
    {fuel : Nat} (enough : others.length + 2 ≤ fuel) (before : List (Datum × Datum))
    (rest : List Char) :
    members fuel before (List.intercalate (',' :: between)
        ((member :: others).map memberCharacters) ++ (after ++ '\x7d' :: rest)) =
      .ok (.map (inserted before (member :: others)), rest) := by
  induction others generalizing member fuel before with
  | nil =>
      obtain ⟨fuel, rfl⟩ := Nat.exists_eq_add_of_le' enough
      rw [List.map_singleton, List.intercalate_singleton, List.length_nil, Nat.zero_add,
        members_memberCharacters, skipBlanks_append after_empty, skipBlanks_cons (by decide)]
      rfl
  | cons next others ih =>
      rw [List.length_cons] at enough
      obtain ⟨fuel, rfl⟩ : ∃ left, fuel = left + 2 := ⟨fuel - 2, by omega⟩
      have written_eq : List.intercalate (',' :: between)
          ((member :: next :: others).map memberCharacters) ++ (after ++ '\x7d' :: rest) =
            memberCharacters member ++ ',' :: (between ++ (List.intercalate (',' :: between)
              ((next :: others).map memberCharacters) ++ (after ++ '\x7d' :: rest))) := by
        rw [List.map_cons, List.map_cons, List.intercalate_cons_cons]
        simp
      rw [written_eq, members_memberCharacters, skipBlanks_cons (by decide)]
      change members (fuel + 1) (inserted before [member]) (skipBlanks (between ++ _)) = _
      rw [skipBlanks_append between_empty, skipBlanks_intercalate]
      exact ih next (by omega) (inserted before [member])

theorem length_le_length_intercalate (separator : List Char) {parts : List (List Char)}
    (present : ∀ part ∈ parts, part ≠ []) :
    parts.length ≤ (separator.intercalate parts).length := by
  induction parts with
  | nil => exact Nat.zero_le _
  | cons part parts ih =>
      obtain ⟨here, there⟩ := List.forall_mem_cons.mp present
      have part_pos := List.length_pos_of_ne_nil here
      cases parts with
      | nil =>
          rw [List.intercalate_singleton]
          exact part_pos
      | cons next parts =>
          have later := ih there
          rw [List.intercalate_cons_cons, List.length_append, List.length_append,
            List.length_cons]
          omega

/-- There is at least one character for each member. -/
theorem length_le_length_members (separator : List Char) (members : List (String × Scalar)) :
    members.length ≤ (separator.intercalate (members.map memberCharacters)).length := by
  have present : ∀ part ∈ members.map memberCharacters, part ≠ [] := by
    refine List.forall_mem_map.mpr fun member _ => ?_
    rw [memberCharacters, quote_coe]
    exact List.cons_ne_nil _ _
  simpa using length_le_length_intercalate separator present

theorem value_brace (fuel : Nat) (rest : List Char) :
    value (fuel + 1) ('\x7b' :: rest) =
      match skipBlanks rest with
      | '\x7d' :: rest => .ok (.map [], rest)
      | rest => members fuel [] rest := rfl

/-- Members between braces are read as a mapping, whatever the gaps are. -/
theorem value_members {opening between closing : List Char} (opening_empty : Gap opening)
    (between_empty : Gap between) (closing_empty : Gap closing) {member : String × Scalar}
    {others : List (String × Scalar)} (distinct : ((member :: others).map Prod.fst).Nodup)
    {fuel : Nat} (enough : others.length + 2 ≤ fuel) (rest : List Char) :
    value (fuel + 1) ('\x7b' :: (opening ++ (List.intercalate (',' :: between)
        ((member :: others).map memberCharacters) ++ (closing ++ '\x7d' :: rest)))) =
      .ok (.map (entriesOf (member :: others)), rest) := by
  have read := members_intercalate between_empty closing_empty member others enough [] rest
  rw [show ([] : List (Datum × Datum)) = entriesOf [] from rfl, inserted_entriesOf distinct,
    List.nil_append] at read
  obtain ⟨more, more_eq⟩ := exists_intercalate_eq (',' :: between) member others
  rw [value_brace, skipBlanks_append opening_empty, skipBlanks_intercalate, more_eq,
    List.cons_append]
  change members fuel (entriesOf []) _ = _
  rw [← List.cons_append, ← more_eq]
  exact read

/-- A mapping that is written with some layout is read with all its members. -/
theorem document_enclosed (layout : Layout) {members : List (String × Scalar)}
    (distinct : (members.map Prod.fst).Nodup) :
    document (enclosed layout 0 '\x7b' '\x7d' (members.map memberCharacters)) =
      .ok (.map (entriesOf members)) := by
  cases members with
  | nil => rfl
  | cons member others =>
      obtain ⟨between, separator_eq, between_empty⟩ := exists_separator_eq layout 1
      have written_eq : enclosed layout 0 '\x7b' '\x7d' ((member :: others).map memberCharacters) =
          '\x7b' :: (layout.lineStart 1 ++ (List.intercalate (',' :: between)
            ((member :: others).map memberCharacters) ++ (layout.lineStart 0 ++ ['\x7d']))) := by
        rw [enclosed, separator_eq, List.map_cons, List.isEmpty_cons, if_neg Bool.false_ne_true]
        simp
      obtain ⟨written, enclosed_eq⟩ : ∃ written,
          enclosed layout 0 '\x7b' '\x7d' ((member :: others).map memberCharacters) = written :=
        ⟨_, rfl⟩
      have parts_le := length_le_length_members (',' :: between) (member :: others)
      have enough : others.length + 2 ≤ 2 * written.length + 1 := by
        rw [← enclosed_eq, written_eq]
        simp only [List.length_cons, List.length_append] at parts_le ⊢
        omega
      have read := value_members (gap_lineStart layout 1) between_empty (gap_lineStart layout 0)
        distinct enough []
      have head_eq : written.head? = some '\x7b' := by
        rw [← enclosed_eq, written_eq, List.head?_cons]
      have starts : skipBlanks written = written := by
        rw [← enclosed_eq, written_eq, skipBlanks_cons (by decide)]
      rw [← written_eq, enclosed_eq] at read
      rw [enclosed_eq, document, head_eq, if_neg (by decide), starts, read]
      rfl

end Reading

/-! ## Both ways -/

theorem return_not_mem_memberCharacters (member : String × Scalar) :
    '\r' ∉ memberCharacters member := by
  simp only [memberCharacters, List.mem_append, List.mem_cons, not_or]
  exact ⟨return_not_mem_quote member.1, by decide, by decide, member.2.return_not_mem⟩

theorem return_not_mem_enclosed (layout : Layout) (level : Nat) (members : List (String × Scalar)) :
    '\r' ∉ enclosed layout level '\x7b' '\x7d' (members.map memberCharacters) := by
  rw [enclosed]
  split
  · decide
  · simp only [List.cons_append, List.mem_cons, List.mem_append, not_or]
    refine ⟨by decide, ⟨⟨(gap_lineStart layout (level + 1)).return_not_mem, fun inside => ?_⟩,
      (gap_lineStart layout level).return_not_mem⟩, by decide, List.not_mem_nil⟩
    rcases Text.mem_intercalate inside with between | ⟨part, part_mem, inside⟩
    · obtain ⟨gap, separator_eq, empty⟩ := exists_separator_eq layout (level + 1)
      rw [separator_eq, List.mem_cons] at between
      exact between.elim (by decide) empty.return_not_mem
    · obtain ⟨member, -, rfl⟩ := List.mem_map.mp part_mem
      exact return_not_mem_memberCharacters member inside

/-- A mapping from names in order to scalars is read as it has been written, with every layout.
There is no carriage return in the document. -/
theorem exists_write_eq_ok (layout : Layout) {members : List (String × Scalar)}
    (ascending : RawText.Ascending (members.map fun member => (member.1 : RawText))) :
    ∃ source, write layout (.map (entriesOf members)) = .ok source ∧ '\r' ∉ source.toList ∧
      read source = .ok (.map (entriesOf members)) := by
  have distinct : (members.map Prod.fst).Nodup := by
    refine List.Nodup.of_map RawText.ofString ?_
    rw [List.map_map]
    exact ascending.nodup
  refine ⟨String.ofList (enclosed layout 0 '\x7b' '\x7d' (members.map memberCharacters)),
    ?_, ?_, ?_⟩
  · rw [write, characters_map layout 0 ascending]
    rfl
  · rw [String.toList_ofList]
    exact return_not_mem_enclosed layout 0 members
  · rw [read, String.toList_ofList, document_enclosed layout distinct]
    rfl

end Json
end BeaconCeremony

import BeaconCeremony.Text.Lines
import BeaconCeremony.Text.Terminal
import Mathlib.Tactic.Common

/-!
# Lines that are shown and read again

A text made of lines, each with a line feed after it, is cut into the same lines, and reading it
with unified line breaks or showing it without control sequences does not change it, as long as
there are no characters in the lines that these three look for.
-/

namespace BeaconCeremony
namespace Text

/-- Some lines, each with a line feed after it. -/
def joined (lines : List (List Char)) : List Char := lines.flatMap (· ++ ['\n'])

/-- There is no line break among the characters. -/
def Unbroken (line : List Char) : Prop := ∀ character ∈ line, isLineBreak character = false

/-- There is neither a line break among the characters nor the start of a control sequence. -/
def Tame (line : List Char) : Prop :=
  ∀ character ∈ line, isLineBreak character = false ∧ character ≠ '\x1b'

-- The characters of the line are looked at, not all that there are.
instance (line : List Char) : Decidable (Unbroken line) :=
  List.decidableBAll _ line

instance (line : List Char) : Decidable (Tame line) :=
  List.decidableBAll _ line

theorem Tame.unbroken {line : List Char} (tame : Tame line) : Unbroken line :=
  fun character member => (tame character member).1

theorem Tame.append {left right : List Char} (left_tame : Tame left) (right_tame : Tame right) :
    Tame (left ++ right) :=
  List.forall_mem_append.mpr ⟨left_tame, right_tame⟩

theorem Tame.no_escape {line : List Char} (tame : Tame line) : '\x1b' ∉ line :=
  fun member => (tame '\x1b' member).2 rfl

@[simp]
theorem joined_nil : joined [] = [] := rfl

@[simp]
theorem joined_cons (line : List Char) (lines : List (List Char)) :
    joined (line :: lines) = line ++ '\n' :: joined lines := by
  simp [joined]

theorem joined_append (left right : List (List Char)) :
    joined (left ++ right) = joined left ++ joined right :=
  List.flatMap_append

/-- Characters are cut at the line feeds among them. -/
theorem exists_rows (characters : List Char) : ∃ rows, characters ++ ['\n'] = joined rows ∧
    ∀ row ∈ rows, ∀ character ∈ row, character ∈ characters ∧ character ≠ '\n' := by
  induction characters with
  | nil => exact ⟨[[]], rfl, by simp⟩
  | cons first characters ih =>
      obtain ⟨rows, rows_eq, inside⟩ := ih
      have inside : ∀ row ∈ rows, ∀ character ∈ row,
          character ∈ first :: characters ∧ character ≠ '\n' := fun row row_mem character member =>
        ⟨List.mem_cons_of_mem first (inside row row_mem character member).1,
          (inside row row_mem character member).2⟩
      by_cases feed : first = '\n'
      · subst feed
        refine ⟨[] :: rows, ?_, List.forall_mem_cons.mpr ⟨by simp, inside⟩⟩
        rw [joined_cons, ← rows_eq]
        rfl
      · cases rows with
        | nil => simp at rows_eq
        | cons row rows =>
            obtain ⟨here, there⟩ := List.forall_mem_cons.mp inside
            refine ⟨(first :: row) :: rows, ?_, List.forall_mem_cons.mpr ⟨?_, there⟩⟩
            · rw [List.cons_append, rows_eq, joined_cons, joined_cons, List.cons_append]
            · exact List.forall_mem_cons.mpr ⟨⟨List.mem_cons_self, feed⟩, here⟩

/-- Cutting goes through a line without breaks up to the line feed after it. -/
theorem linesFrom_unbroken {line : List Char} (unbroken : Unbroken line) (front rest : List Char) :
    linesFrom front (line ++ '\n' :: rest) = (front.reverse ++ line) :: linesFrom [] rest := by
  induction line generalizing front with
  | nil =>
      have breaks : isLineBreak '\n' = true := by decide
      simp [linesFrom, breaks]
  | cons character line ih =>
      obtain ⟨here, there⟩ := List.forall_mem_cons.mp unbroken
      have no_return : character ≠ '\r' := by
        rintro rfl
        exact absurd here (by decide)
      rw [List.cons_append, linesFrom, here, if_neg Bool.false_ne_true, ih there]
      · simp
      · exact fun _ same _ => no_return same

theorem linesFrom_joined {lines : List (List Char)} (unbroken : ∀ line ∈ lines, Unbroken line) :
    linesFrom [] (joined lines) = lines := by
  induction lines with
  | nil => rfl
  | cons line lines ih =>
      obtain ⟨here, there⟩ := List.forall_mem_cons.mp unbroken
      rw [joined_cons, linesFrom_unbroken here, ih there]
      rfl

/-- Without a line break after it, a line is cut off by the end of the text, if it is not empty. -/
theorem linesFrom_last {line : List Char} (unbroken : Unbroken line) (front : List Char)
    (some_ne : front.reverse ++ line ≠ []) : linesFrom front line = [front.reverse ++ line] := by
  induction line generalizing front with
  | nil =>
      rw [List.append_nil] at some_ne ⊢
      have front_ne : front.isEmpty = false :=
        List.isEmpty_eq_false_iff.mpr (mt List.reverse_eq_nil_iff.mpr some_ne)
      rw [linesFrom, front_ne, if_neg Bool.false_ne_true]
  | cons character line ih =>
      obtain ⟨here, there⟩ := List.forall_mem_cons.mp unbroken
      have no_return : character ≠ '\r' := by
        rintro rfl
        exact absurd here (by decide)
      have moved : (character :: front).reverse ++ line = front.reverse ++ character :: line := by
        rw [List.reverse_cons, List.append_assoc, List.singleton_append]
      rw [linesFrom, here, if_neg Bool.false_ne_true, ih there _ (moved ▸ some_ne), moved]
      exact fun _ same _ => no_return same

/-- Lines with line feeds only between them are cut into the same lines, if none is empty. -/
theorem linesFrom_intercalate {lines : List (List Char)}
    (unbroken : ∀ line ∈ lines, Unbroken line) (present : ∀ line ∈ lines, line ≠ []) :
    linesFrom [] (['\n'].intercalate lines) = lines := by
  induction lines with
  | nil => rfl
  | cons line lines ih =>
      obtain ⟨here, there⟩ := List.forall_mem_cons.mp unbroken
      obtain ⟨line_ne, lines_ne⟩ := List.forall_mem_cons.mp present
      cases lines with
      | nil => rw [List.intercalate_singleton, linesFrom_last here [] line_ne]; rfl
      | cons next lines =>
          rw [List.intercalate_cons_cons, List.append_assoc, List.singleton_append,
            linesFrom_unbroken here, ih there lines_ne]
          rfl

/-- A text without breaks is one line, if there is a line feed after it. -/
theorem splitLines_unbroken {text : String} (unbroken : Unbroken text.toList) :
    splitLines (text ++ "\n") = [text] := by
  have feed : ("\n" : String).toList = ['\n'] := by decide +kernel
  rw [splitLines, String.toList_append, feed, linesFrom_unbroken unbroken, List.map_cons,
    List.reverse_nil, List.nil_append, String.ofList_toList]
  rfl

theorem mem_intercalate {separator : List Char} {rows : List (List Char)} {character : Char}
    (member : character ∈ separator.intercalate rows) :
    character ∈ separator ∨ ∃ row ∈ rows, character ∈ row := by
  induction rows with
  | nil => simp at member
  | cons row rows ih =>
      cases rows with
      | nil => exact .inr ⟨row, List.mem_cons_self, by simpa using member⟩
      | cons next rows =>
          rw [List.intercalate_cons_cons, List.mem_append, List.mem_append] at member
          rcases member with (here | between) | later
          · exact .inr ⟨row, List.mem_cons_self, here⟩
          · exact .inl between
          · rcases ih later with between | ⟨other, other_mem, inside⟩
            · exact .inl between
            · exact .inr ⟨other, List.mem_cons_of_mem row other_mem, inside⟩

theorem filter_intercalate {keeps : Char → Bool} {separator : List Char}
    (dropped : separator.filter keeps = []) (rows : List (List Char)) :
    (separator.intercalate rows).filter keeps = rows.flatMap (List.filter keeps) := by
  induction rows with
  | nil => rfl
  | cons row rows ih =>
      cases rows with
      | nil => simp
      | cons next rows =>
          rw [List.intercalate_cons_cons, List.filter_append, List.filter_append, dropped, ih,
            List.append_nil, ← List.flatMap_cons]

/-- Cutting brings no characters in. -/
theorem mem_of_mem_linesFrom {front characters line : List Char} {character : Char}
    (line_mem : line ∈ linesFrom front characters) (member : character ∈ line) :
    character ∈ front ∨ character ∈ characters := by
  fun_induction linesFrom front characters with
  | case1 front no_front => simp at line_mem
  | case2 front front_ne =>
      rw [List.mem_singleton.mp line_mem, List.mem_reverse] at member
      exact .inl member
  | case3 front rest ih =>
      rcases List.mem_cons.mp line_mem with rfl | later
      · exact .inl (List.mem_reverse.mp member)
      · exact .inr (List.mem_cons_of_mem _ (List.mem_cons_of_mem _
          ((ih later).resolve_left List.not_mem_nil)))
  | case4 front first rest no_pair breaks ih =>
      rcases List.mem_cons.mp line_mem with rfl | later
      · exact .inl (List.mem_reverse.mp member)
      · exact .inr (List.mem_cons_of_mem _ ((ih later).resolve_left List.not_mem_nil))
  | case5 front first rest no_pair no_break ih =>
      rcases ih line_mem with inside | later
      · rcases List.mem_cons.mp inside with rfl | before
        · exact .inr List.mem_cons_self
        · exact .inl before
      · exact .inr (List.mem_cons_of_mem _ later)

theorem unifyLineBreaks_eq_self {characters : List Char} (no_return : '\r' ∉ characters) :
    unifyLineBreaks characters = characters := by
  induction characters with
  | nil => rfl
  | cons character characters ih =>
      obtain ⟨here, there⟩ := List.ne_and_not_mem_of_not_mem_cons no_return
      rw [unifyLineBreaks, ih there, if_neg here.symm]
      exact fun _ same _ => here same.symm

theorem return_not_mem_joined {lines : List (List Char)}
    (unbroken : ∀ line ∈ lines, Unbroken line) :
    '\r' ∉ joined lines := by
  intro member
  obtain ⟨line, line_mem, member⟩ := List.mem_flatMap.mp member
  rcases List.mem_append.mp member with inside | last
  · exact absurd (unbroken line line_mem '\r' inside) (by decide)
  · simp at last

/-! ## Control sequences -/

theorem controlLength?_of_ne {character : Char} (plain : character ≠ '\x1b') (rest : List Char) :
    controlLength? (character :: rest) = none := by
  rw [controlLength?]
  exact fun _ same => plain (List.cons.inj same).1

/-- A character that does not start a control sequence stays where it is. -/
theorem dropControls_cons {character : Char} (plain : character ≠ '\x1b') (rest : List Char) :
    dropControls 0 (character :: rest) = character :: dropControls 0 rest := by
  rw [dropControls, controlLength?_of_ne plain]

theorem dropControls_append {front : List Char} (no_escape : '\x1b' ∉ front) (back : List Char) :
    dropControls 0 (front ++ back) = front ++ dropControls 0 back := by
  induction front with
  | nil => rfl
  | cons character front ih =>
      obtain ⟨here, there⟩ := List.ne_and_not_mem_of_not_mem_cons no_escape
      rw [List.cons_append, dropControls_cons here.symm, ih there, List.cons_append]

theorem dropControls_eq_self {characters : List Char} (no_escape : '\x1b' ∉ characters) :
    dropControls 0 characters = characters := by
  have kept := dropControls_append no_escape []
  rwa [List.append_nil, dropControls, List.append_nil] at kept

/-- The start of a text without control sequences is shown as it is. -/
theorem withoutControls_append {front : String} (no_escape : '\x1b' ∉ front.toList)
    (back : String) : withoutControls (front ++ back) = front ++ withoutControls back := by
  rw [withoutControls, String.toList_append, dropControls_append no_escape, String.ofList_append,
    String.ofList_toList, withoutControls]

/-- A text without the start of a control sequence is shown as it is. -/
theorem withoutControls_eq_self {text : String} (no_escape : '\x1b' ∉ text.toList) :
    withoutControls text = text := by
  rw [withoutControls, dropControls_eq_self no_escape, String.ofList_toList]

/-- Nothing is put in the place of control sequences. -/
theorem dropControls_sublist (skipped : Nat) (characters : List Char) :
    (dropControls skipped characters).Sublist characters := by
  fun_induction dropControls skipped characters with
  | case1 => exact .refl _
  | case2 _ _ _ ih => exact ih.cons _
  | case3 _ _ _ _ ih => exact ih.cons _
  | case4 _ _ _ ih => exact ih.cons_cons _

end Text
end BeaconCeremony

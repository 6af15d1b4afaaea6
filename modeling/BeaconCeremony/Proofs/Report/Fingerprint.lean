import BeaconCeremony.Proofs.Bytes.Pieces
import BeaconCeremony.Proofs.Report

/-!
# The block of a fingerprint

A fingerprint of any size is shown as a table of groups of bytes.  The digits in the table are those
of the fingerprint, in their order, and the places where it is cut depend on its size alone.
-/

namespace BeaconCeremony
namespace Report

/-- Whether a character is one of those that set the digits of a block apart. -/
def isSpacing (character : Char) : Bool :=
  character == '\t' || character == ' ' || Text.isLineBreak character

/-- The text of a row of groups. -/
def rowText (groups : List Bytes) : String :=
  "\t" ++ String.join (groups.map fun group => Hex.encode group ++ " ")

/-- A block shows a fingerprint in rows of sixteen bytes, and each row in groups of four. -/
structure Tabulates (fingerprint : Bytes) (block : String) (table : List (List Bytes)) : Prop where
  /-- The block is made of the rows, with line feeds between them. -/
  block_eq : block = "\n".intercalate (table.map rowText)
  /-- Each row is one line. -/
  lines_eq : Text.splitLines block = table.map rowText
  /-- There are as many rows as the bytes need. -/
  length_eq : table.length = (fingerprint.length + 15) / 16
  /-- Every row but the last one shows sixteen bytes. -/
  rows : Bytes.CutInto 16 fingerprint (table.map List.flatten)
  /-- Every group but the last one of the last row has four bytes. -/
  groups : Bytes.CutInto 4 fingerprint table.flatten
  /-- These are eight digits. -/
  digits : ∀ group ∈ table.flatten.dropLast, (Hex.encode group).length = 8

variable {fingerprint : Bytes}

/-! ## Digits without what is between them -/

theorem filter_encodeChars (bytes : Bytes) :
    (Hex.encodeChars bytes).filter (!isSpacing ·) = Hex.encodeChars bytes := by
  refine List.filter_eq_self.mpr fun character member => ?_
  have ink := (Hex.ink_encodeChars bytes character member).1
  have no_break := Text.isLineBreak_of_not_isBlank ink
  have no_tab : character ≠ '\t' := by
    rintro rfl
    exact absurd ink (by decide)
  have no_space : character ≠ ' ' := by
    rintro rfl
    exact absurd ink (by decide)
  simp [isSpacing, no_break, no_tab, no_space]

theorem filter_rowText (groups : List Bytes) :
    (rowText groups).toList.filter (!isSpacing ·) = Hex.encodeChars groups.flatten := by
  have tab : ("\t" : String).toList.filter (!isSpacing ·) = [] := by decide
  have space : (" " : String).toList.filter (!isSpacing ·) = [] := by decide
  have group_eq (group : Bytes) :
      (Hex.encode group ++ " ").toList.filter (!isSpacing ·) = Hex.encodeChars group := by
    rw [String.toList_append, List.filter_append, space, List.append_nil, Hex.encode,
      String.toList_ofList, filter_encodeChars]
  rw [rowText, String.toList_append, List.filter_append, tab, List.nil_append, String.toList_join,
    List.flatMap_map, List.filter_flatMap, Hex.encodeChars_flatten]
  exact List.flatMap_congr fun group _ => group_eq group

/-! ## The table -/

/-- The groups of a fingerprint, row by row. -/
def table (fingerprint : Bytes) : List (List Bytes) :=
  (Bytes.piecesOf 15 fingerprint).map (Bytes.piecesOf 3)

theorem map_fingerprintRow (fingerprint : Bytes) :
    (Bytes.piecesOf 15 fingerprint).map fingerprintRow = (table fingerprint).map rowText := by
  rw [table, List.map_map]
  rfl

theorem map_flatten_table (fingerprint : Bytes) :
    (table fingerprint).map List.flatten = Bytes.piecesOf 15 fingerprint := by
  rw [table, List.map_map]
  exact List.map_id'' (fun row => (Bytes.cutInto_piecesOf 3 row).flatten_eq) _

theorem flatten_table (fingerprint : Bytes) :
    (table fingerprint).flatten = Bytes.piecesOf 3 fingerprint :=
  Bytes.flatMap_piecesOf (by decide) fingerprint

theorem unbroken_fingerprintRow (row : Bytes) : Text.Unbroken (fingerprintRow row).toList := by
  intro character member
  rcases mem_fingerprintRow member with rfl | rfl | ⟨group, digit⟩
  · decide
  · decide
  · exact Text.isLineBreak_of_not_isBlank (Hex.ink_encodeChars group character digit).1

theorem fingerprintRow_ne_empty (row : Bytes) : (fingerprintRow row).toList ≠ [] := by
  rw [fingerprintRow, String.toList_append]
  exact List.append_ne_nil_of_left_ne_nil (by decide) _

/-- Each row of a block is one line. -/
theorem splitLines_fingerprintBlock (fingerprint : Bytes) :
    Text.splitLines (fingerprintBlock fingerprint) =
      (Bytes.piecesOf 15 fingerprint).map fingerprintRow := by
  have feed : ("\n" : String).toList = ['\n'] := by decide
  rw [Text.splitLines, fingerprintBlock, String.toList_intercalate, feed,
    Text.linesFrom_intercalate, List.map_map]
  · exact List.map_id'' (fun row => String.ofList_toList) _
  · rw [List.map_map]
    exact List.forall_mem_map.mpr fun row _ => unbroken_fingerprintRow row
  · rw [List.map_map]
    exact List.forall_mem_map.mpr fun row _ => fingerprintRow_ne_empty row

theorem filter_fingerprintBlock (fingerprint : Bytes) :
    (fingerprintBlock fingerprint).toList.filter (!isSpacing ·) = Hex.encodeChars fingerprint := by
  have feed : ("\n" : String).toList.filter (!isSpacing ·) = [] := by decide
  rw [fingerprintBlock, map_fingerprintRow, String.toList_intercalate, Text.filter_intercalate feed,
    List.map_map, List.flatMap_map]
  calc
    (table fingerprint).flatMap (fun groups => (rowText groups).toList.filter (!isSpacing ·)) =
        (table fingerprint).flatMap fun groups => Hex.encodeChars groups.flatten :=
      List.flatMap_congr fun groups _ => filter_rowText groups
    _ = ((table fingerprint).map List.flatten).flatMap Hex.encodeChars :=
      by rw [List.flatMap_map]
    _ = Hex.encodeChars fingerprint := by
      rw [map_flatten_table, ← Hex.encodeChars_flatten, (Bytes.cutInto_piecesOf 15 _).flatten_eq]

theorem tabulates_table (fingerprint : Bytes) :
    Tabulates fingerprint (fingerprintBlock fingerprint) (table fingerprint) := by
  have groups : Bytes.CutInto 4 fingerprint (table fingerprint).flatten := by
    rw [flatten_table]
    exact Bytes.cutInto_piecesOf 3 fingerprint
  refine ⟨?_, ?_, ?_, ?_, groups, fun group member => ?_⟩
  · rw [fingerprintBlock, map_fingerprintRow]
  · rw [splitLines_fingerprintBlock, map_fingerprintRow]
  · rw [table, List.length_map, Bytes.length_piecesOf]
  · rw [map_flatten_table]
    exact Bytes.cutInto_piecesOf 15 fingerprint
  · rw [Hex.length_encode, groups.length_eq group member]

/-- The block of a fingerprint shows each of its bytes once and in order. -/
theorem fingerprintBlock_shows :
    (∀ fingerprint,
      (fingerprintBlock fingerprint).toList.filter (!isSpacing ·) = Hex.encodeChars fingerprint ∧
      (fingerprintBlock fingerprint = "" ↔ fingerprint = []) ∧
      ∃ table, Tabulates fingerprint (fingerprintBlock fingerprint) table) ∧
    Function.Injective fingerprintBlock := by
  have injective : Function.Injective fingerprintBlock := by
    intro left right same
    apply Hex.encodeChars_injective
    rw [← filter_fingerprintBlock, same, filter_fingerprintBlock]
  have empty : fingerprintBlock [] = "" := by
    rw [fingerprintBlock, Bytes.piecesOf_nil]
    rfl
  refine ⟨fun fingerprint => ⟨filter_fingerprintBlock fingerprint, ?_, _,
    tabulates_table fingerprint⟩, injective⟩
  rw [← empty]
  exact injective.eq_iff

end Report
end BeaconCeremony

import BeaconCeremony.Datum.Order
import BeaconCeremony.Proofs.Except
import Mathlib.Data.List.Lex
import Mathlib.Data.List.Perm.Basic
import Mathlib.Order.RelClasses

/-!
# Sorting by key

What comes out of sorting is what went in, in another order; what is in order already stays as it
is.  Sorting succeeds if any two of the keys can be compared, and texts can.  They are compared by
their code points, in the order of a dictionary.
-/

namespace BeaconCeremony
namespace Datum

variable {α : Type}

theorem perm_of_takeRun {falling : Bool} {latest : Datum × α}
    {run rest done left : List (Datum × α)}
    (taken : takeRun falling latest run rest = .ok (done, left)) :
    (done ++ left).Perm (latest :: run ++ rest) := by
  induction rest generalizing latest run with
  | nil =>
      cases taken
      exact .refl _
  | cons next rest ih =>
      rw [takeRun] at taken
      obtain ⟨less, -, taken⟩ := exists_of_bind_eq_ok taken
      split at taken
      · exact (ih taken).trans List.perm_middle.symm
      · cases taken
        exact .refl _

theorem perm_of_insertByKey {sorted more : List (Datum × α)} {entry : Datum × α}
    (inserted : insertByKey sorted entry = .ok more) : more.Perm (entry :: sorted) := by
  obtain ⟨place, -, inserted⟩ := exists_of_bind_eq_ok inserted
  cases inserted
  refine List.perm_middle.trans ?_
  rw [List.take_append_drop]

theorem perm_of_foldlM_insertByKey {sorted rest more : List (Datum × α)}
    (inserted : rest.foldlM insertByKey sorted = .ok more) : more.Perm (sorted ++ rest) := by
  induction rest generalizing sorted with
  | nil =>
      cases inserted
      rw [List.append_nil]
  | cons entry rest ih =>
      rw [List.foldlM_cons] at inserted
      obtain ⟨between, first, inserted⟩ := exists_of_bind_eq_ok inserted
      calc
        more.Perm (between ++ rest) := ih inserted
        List.Perm _ (entry :: sorted ++ rest) := (perm_of_insertByKey first).append_right rest
        List.Perm _ (sorted ++ entry :: rest) := List.perm_middle.symm

theorem perm_ascending (falling : Bool) (run : List (Datum × α)) :
    (if falling then run else run.reverse).Perm run := by
  split
  · exact .refl run
  · exact List.reverse_perm run

/-- Sorting neither loses nor adds anything. -/
theorem perm_of_sortByKey {entries sorted : List (Datum × α)}
    (sorts : sortByKey entries = .ok sorted) : sorted.Perm entries := by
  match entries with
  | [] | [_] =>
      cases sorts
      exact .refl _
  | first :: second :: rest =>
      obtain ⟨falling, -, sorts⟩ := exists_of_bind_eq_ok sorts
      obtain ⟨⟨run, left⟩, taken, sorts⟩ := exists_of_bind_eq_ok sorts
      calc
        sorted.Perm ((if falling then run else run.reverse) ++ left) :=
          perm_of_foldlM_insertByKey sorts
        List.Perm _ (run ++ left) := (perm_ascending falling run).append_right left
        List.Perm _ (second :: first :: rest) := perm_of_takeRun taken
        List.Perm _ (first :: second :: rest) := .swap first second rest

/-- Any two of the keys can be compared. -/
def Comparable (entries : List (Datum × α)) : Prop :=
  ∀ first ∈ entries, ∀ second ∈ entries, ∃ less, isLess first.1 second.1 = .ok less

theorem Comparable.of_subset {entries fewer : List (Datum × α)} (comparable : Comparable entries)
    (subset : fewer ⊆ entries) : Comparable fewer :=
  fun first member second member' => comparable first (subset member) second (subset member')

theorem comparable_of_texts {entries : List (Datum × α)}
    (texts : ∀ entry ∈ entries, ∃ name, entry.1 = .text name) : Comparable entries := by
  intro first member second member'
  obtain ⟨name, name_eq⟩ := texts first member
  obtain ⟨name', name_eq'⟩ := texts second member'
  rw [name_eq, name_eq']
  exact ⟨_, rfl⟩

theorem exists_takeRun_eq_ok {latest : Datum × α} {rest : List (Datum × α)}
    (comparable : Comparable (latest :: rest)) (falling : Bool) (run : List (Datum × α)) :
    ∃ result, takeRun falling latest run rest = .ok result := by
  induction rest generalizing latest run with
  | nil => exact ⟨_, rfl⟩
  | cons next rest ih =>
      have next_member : next ∈ latest :: next :: rest :=
        List.mem_cons_of_mem latest List.mem_cons_self
      obtain ⟨less, less_eq⟩ := comparable next next_member latest List.mem_cons_self
      rw [takeRun, less_eq]
      change ∃ result, (if less = falling then _ else _) = _
      split
      · exact ih (comparable.of_subset (List.subset_cons_self latest _)) (latest :: run)
      · exact ⟨_, rfl⟩

theorem exists_placeFor_eq_ok {key : Datum} {sorted : List (Datum × α)}
    (comparable : ∀ other ∈ sorted, ∃ less, isLess key other.1 = .ok less) (low high : Nat) :
    ∃ place, placeFor key sorted low high = .ok place := by
  fun_induction placeFor key sorted low high with
  | case1 low high _ middle other found less ih => exact ih
  | case2 low high _ middle other found less ih => exact ih
  | case3 low high _ middle other found error refused =>
      obtain ⟨less, less_eq⟩ := comparable other (List.mem_of_getElem? found)
      cases refused.symm.trans less_eq
  | case4 => exact ⟨_, rfl⟩
  | case5 => exact ⟨_, rfl⟩

theorem exists_insertByKey_eq_ok {sorted : List (Datum × α)} {entry : Datum × α}
    (comparable : Comparable (entry :: sorted)) :
    ∃ more, insertByKey sorted entry = .ok more := by
  have beside (other : Datum × α) (member : other ∈ sorted) :=
    comparable entry List.mem_cons_self other (List.mem_cons_of_mem entry member)
  obtain ⟨place, place_eq⟩ := exists_placeFor_eq_ok beside 0 sorted.length
  rw [insertByKey, place_eq]
  exact ⟨_, rfl⟩

theorem exists_foldlM_insertByKey_eq_ok {sorted rest : List (Datum × α)}
    (comparable : Comparable (sorted ++ rest)) :
    ∃ more, rest.foldlM insertByKey sorted = .ok more := by
  induction rest generalizing sorted with
  | nil => exact ⟨sorted, rfl⟩
  | cons entry rest ih =>
      have all_perm : (entry :: sorted ++ rest).Perm (sorted ++ entry :: rest) :=
        List.perm_middle.symm
      have front : entry :: sorted ⊆ sorted ++ entry :: rest :=
        List.Subset.trans (List.subset_append_left _ rest) all_perm.subset
      obtain ⟨between, inserted⟩ := exists_insertByKey_eq_ok (comparable.of_subset front)
      have between_perm := (perm_of_insertByKey inserted).append_right rest
      rw [List.foldlM_cons, inserted]
      exact ih (comparable.of_subset (between_perm.trans all_perm).subset)

theorem exists_sortByKey_eq_ok {entries : List (Datum × α)} (comparable : Comparable entries) :
    ∃ sorted, sortByKey entries = .ok sorted := by
  match entries with
  | [] | [_] => exact ⟨_, rfl⟩
  | first :: second :: rest =>
      have second_member : second ∈ first :: second :: rest :=
        List.mem_cons_of_mem first List.mem_cons_self
      obtain ⟨falling, falling_eq⟩ := comparable second second_member first List.mem_cons_self
      have later := comparable.of_subset (List.subset_cons_self first _)
      obtain ⟨⟨run, left⟩, taken⟩ := exists_takeRun_eq_ok later falling [first]
      have taken_perm : (run ++ left).Perm (first :: second :: rest) :=
        (perm_of_takeRun taken).trans (.swap first second rest)
      have run_perm := (perm_ascending falling run).append_right left
      rw [sortByKey, falling_eq]
      change ∃ sorted, (takeRun falling second [first] rest >>= _) = _
      rw [taken]
      exact exists_foldlM_insertByKey_eq_ok
        (comparable.of_subset (run_perm.trans taken_perm).subset)

/-! ## What is in order already -/

theorem takeRun_eq {latest : Datum × α} {rest : List (Datum × α)}
    (ordered : (latest :: rest).Pairwise fun left right => isLess right.1 left.1 = .ok false)
    (run : List (Datum × α)) :
    takeRun false latest run rest = .ok (rest.reverse ++ latest :: run, []) := by
  induction rest generalizing latest run with
  | nil => rfl
  | cons next rest ih =>
      obtain ⟨before, later⟩ := List.pairwise_cons.mp ordered
      rw [takeRun, before next List.mem_cons_self, List.reverse_cons, List.append_assoc]
      exact ih later (latest :: run)

/-- Entries stay as they are if none of them is less than one before it. -/
theorem sortByKey_eq_self {entries : List (Datum × α)}
    (ordered : entries.Pairwise fun left right => isLess right.1 left.1 = .ok false) :
    sortByKey entries = .ok entries := by
  match entries with
  | [] | [_] => rfl
  | first :: second :: rest =>
      obtain ⟨before, later⟩ := List.pairwise_cons.mp ordered
      rw [sortByKey, before second List.mem_cons_self]
      change (takeRun false second [first] rest >>= _) = _
      rw [takeRun_eq later]
      change Except.ok (rest.reverse ++ [second, first]).reverse = _
      rw [List.reverse_append, List.reverse_reverse]
      rfl

/-! ## Texts -/

theorem dictionaryLess_iff {left right : List Nat} :
    dictionaryLess left right = true ↔ List.Lex (· < ·) left right := by
  induction left generalizing right with
  | nil =>
      cases right with
      | nil => simp [dictionaryLess]
      | cons first rest => simp [dictionaryLess]
  | cons first rest ih =>
      cases right with
      | nil => simp [dictionaryLess]
      | cons first' rest' => simp [dictionaryLess, List.cons_lex_cons_iff, ih]

end Datum

namespace RawText

theorem points_injective : Function.Injective points := by
  intro left right same
  have marks_eq : left.marks = right.marks :=
    List.map_injective_iff.mpr (Function.LeftInverse.injective Mark.ofPoint_point) same
  rw [← left.ofMarks_marks, marks_eq, right.ofMarks_marks]

/-- Whether texts are in the order of their code points, with none of them twice. -/
def Ascending (texts : List RawText) : Prop :=
  texts.Pairwise fun left right => List.Lex (· < ·) left.points right.points

namespace Ascending

variable {texts others : List RawText}

theorem nodup (ascending : Ascending texts) : texts.Nodup :=
  List.Pairwise.imp (fun less same => by subst same; exact asymm_of _ less less) ascending

/-- Ascending texts are determined by which texts they are. -/
theorem eq_of_mem_iff (ascending : Ascending texts) (others_ascending : Ascending others)
    (same : ∀ text, text ∈ texts ↔ text ∈ others) : texts = others := by
  have permuted : texts.Perm others :=
    (List.perm_ext_iff_of_nodup ascending.nodup others_ascending.nodup).mpr same
  exact permuted.eq_of_pairwise (fun _ _ _ _ less greater => absurd greater (asymm_of _ less))
    ascending others_ascending

end Ascending

end RawText
end BeaconCeremony

import BeaconCeremony.Datum.Literal
import Mathlib.Algebra.Order.Group.Nat

/-!
# What can be shown

A datum has a literal exactly if its parts are not too deep inside of each other and none of its
whole numbers is too long to be written.  Which of the two is told when both are wrong depends on
what is met first.
-/

namespace BeaconCeremony

theorem Text.leastUnwritten_eq : leastUnwritten = Nat.pow 10 maxDigits := by
  delta leastUnwritten
  rfl

theorem Text.written?_eq_none_iff {value : Int} :
    written? value = none ↔ leastUnwritten ≤ value.natAbs := by
  simp only [written?, ite_eq_left_iff, reduceCtorEq, imp_false, not_not]

namespace Datum

mutual

/-- How many calls are inside of each other when a datum is shown. -/
def nesting : Datum → Nat
  | .list items => nestingOfItems items + 1
  | .set items => if items.isEmpty then 1 else nestingOfItems items + 2
  | .map entries => nestingOfEntries entries + 1
  | _ => 1

/-- The greatest number of calls for an item of a list. -/
def nestingOfItems : List Datum → Nat
  | [] => 0
  | item :: rest => max item.nesting (nestingOfItems rest)

/-- The greatest number of calls for a key or a value of a mapping. -/
def nestingOfEntries : List (Datum × Datum) → Nat
  | [] => 0
  | (key, value) :: rest => max (max key.nesting value.nesting) (nestingOfEntries rest)

end

mutual

/-- Whether all whole numbers in a datum can be written. -/
def isWritable : Datum → Bool
  | .int value => value.natAbs < Text.leastUnwritten
  | .list items => areWritable items
  | .set items => areWritable items
  | .map entries => entriesAreWritable entries
  | _ => true

/-- Whether this holds for all items of a list. -/
def areWritable : List Datum → Bool
  | [] => true
  | item :: rest => item.isWritable && areWritable rest

/-- Whether this holds for all keys and values of a mapping. -/
def entriesAreWritable : List (Datum × Datum) → Bool
  | [] => true
  | (key, value) :: rest => (key.isWritable && value.isWritable) && entriesAreWritable rest

end

/-- What comes of showing something that takes `nesting` calls where `depth` are possible, and whose
whole numbers can be written or not. -/
def Verdict {α : Type} (depth nesting : Nat) (writable : Bool) :
    Except LiteralError α → Prop
  | .ok _ => nesting ≤ depth ∧ writable = true
  | .error .longNumber => writable = false
  | .error .tooDeep => depth < nesting

section Verdicts

variable {α β : Type} {depth nesting nesting' : Nat} {writable writable' : Bool}

theorem Verdict.pure (depth : Nat) (value : α) :
    Verdict depth 0 true (Pure.pure value : Except LiteralError α) :=
  ⟨Nat.zero_le depth, rfl⟩

/-- The second part is only shown after the first one. -/
theorem Verdict.bind {first : Except LiteralError α} {next : α → Except LiteralError β}
    (head : Verdict depth nesting writable first)
    (tail : ∀ value, Verdict depth nesting' writable' (next value)) :
    Verdict depth (max nesting nesting') (writable && writable') (first >>= next) := by
  rcases first with (- | -) | value
  · obtain rfl : writable = false := head
    exact Bool.false_and _
  · exact lt_max_of_lt_left head
  · obtain ⟨nesting_le, rfl⟩ := head
    have told := tail value
    change Verdict depth _ _ (next value)
    rw [Bool.true_and]
    generalize next value = result at told ⊢
    rcases result with (- | -) | shown
    · exact told
    · exact lt_max_of_lt_right told
    · exact ⟨max_le nesting_le told.1, told.2⟩

theorem Verdict.map {first : Except LiteralError α} (finish : α → β)
    (head : Verdict depth nesting writable first) :
    Verdict depth nesting writable (first >>= fun value => Pure.pure (finish value)) := by
  have told := head.bind fun value => Verdict.pure depth (finish value)
  rwa [max_eq_left (Nat.zero_le _), Bool.and_true] at told

/-- What is around the parts takes more calls than the parts. -/
theorem Verdict.around {result : Except LiteralError α} (more : Nat)
    (told : Verdict depth nesting writable result) :
    Verdict (depth + more) (nesting + more) writable result := by
  rcases result with (- | -) | shown
  · exact told
  · exact Nat.add_lt_add_right told more
  · exact ⟨Nat.add_le_add_right told.1 more, told.2⟩

end Verdicts

theorem nesting_pos (datum : Datum) : 0 < datum.nesting := by
  cases datum with
  | set items =>
      rw [nesting]
      split <;> omega
  | _ => exact Nat.succ_pos _

theorem verdict_intLiteral (depth : Nat) (value : Int) :
    Verdict (depth + 1) 1 (Datum.int value).isWritable (intLiteral value) := by
  rw [intLiteral, isWritable]
  cases written : Text.written? value with
  | some digits =>
      have short : value.natAbs < Text.leastUnwritten := by
        rw [← not_le, ← Text.written?_eq_none_iff, written]
        exact Option.some_ne_none digits
      exact ⟨Nat.succ_pos depth, decide_eq_true short⟩
  | none => exact decide_eq_false (Text.written?_eq_none_iff.mp written).not_gt

mutual

theorem verdict_literal (depth : Nat) (datum : Datum) :
    Verdict depth datum.nesting datum.isWritable (datum.literal depth) := by
  cases depth with
  | zero =>
      rw [literal]
      exact datum.nesting_pos
  | succ depth =>
      have plain (text : String) : Verdict (depth + 1) 1 true (.ok text) :=
        ⟨Nat.succ_pos depth, rfl⟩
      cases datum with
      | int value =>
          rw [literal]
          exact verdict_intLiteral depth value
      | list items =>
          rw [literal]
          exact ((verdict_literals depth items).map _).around 1
      | set items =>
          rw [literal, nesting, isWritable]
          cases items with
          | nil => exact plain _
          | cons item rest =>
              cases depth with
              | zero =>
                  rw [literals, literal]
                  exact Nat.succ_lt_succ (Nat.succ_pos _)
              | succ depth => exact ((verdict_literals depth (item :: rest)).map _).around 2
      | map entries =>
          rw [literal]
          exact ((verdict_entryLiterals depth entries).map _).around 1
      | _ =>
          rw [literal]
          exact plain _

theorem verdict_literals (depth : Nat) (items : List Datum) :
    Verdict depth (nestingOfItems items) (areWritable items) (literals depth items) := by
  cases items with
  | nil => exact .pure depth []
  | cons item rest =>
      exact (verdict_literal depth item).bind fun _ => (verdict_literals depth rest).map _

theorem verdict_entryLiterals (depth : Nat) (entries : List (Datum × Datum)) :
    Verdict depth (nestingOfEntries entries) (entriesAreWritable entries)
      (entryLiterals depth entries) := by
  cases entries with
  | nil => exact .pure depth []
  | cons entry rest =>
      obtain ⟨key, value⟩ := entry
      have told := (verdict_literal depth key).bind fun shown =>
        (verdict_literal depth value).bind fun other =>
          (verdict_entryLiterals depth rest).map ((shown ++ ": " ++ other) :: ·)
      rw [nestingOfEntries, entriesAreWritable, max_assoc, Bool.and_assoc]
      exact told

end

/-- What nests at most `depth` deep and has numbers that can be written is shown, and nothing else
is. -/
theorem exists_literal_iff {depth : Nat} {datum : Datum} :
    (∃ shown, datum.literal depth = .ok shown) ↔
      datum.nesting ≤ depth ∧ datum.isWritable = true := by
  have told := verdict_literal depth datum
  generalize datum.literal depth = result at told ⊢
  rcases result with (- | -) | shown
  · have unwritable : datum.isWritable = false := told
    simp only [reduceCtorEq, exists_const, unwritable, Bool.false_eq_true, and_false]
  · have deep : depth < datum.nesting := told
    simp only [reduceCtorEq, exists_const, deep.not_ge, false_and]
  · exact ⟨fun _ => told, fun _ => ⟨shown, rfl⟩⟩

end Datum
end BeaconCeremony

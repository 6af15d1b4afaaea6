import BeaconCeremony.Chain.Verification
import BeaconCeremony.Proofs.Chain.Advance
import BeaconCeremony.Proofs.Except
import Mathlib.Data.List.Pairwise
import Mathlib.Data.List.Perm.Basic

/-!
# What verification finds

Verification goes through states: the checkpoints in the order of their indices, and the end of the
chain if its state is given.  Of checkpoints on the grid it finds exactly the segments between
neighbours whose start does not lead to their end.
-/

namespace BeaconCeremony

/-- Hashing from one checkpoint to the index of another gives the state of the other. -/
def Checkpoint.LeadsTo (start stop : Checkpoint) : Prop :=
  Digest.successor^[stop.index - start.index] start.digest = stop.digest

namespace Checkpoint

theorem LeadsTo.trans {first second third : Checkpoint} (first_le : first.index ≤ second.index)
    (second_le : second.index ≤ third.index) (start : first.LeadsTo second)
    (continued : second.LeadsTo third) : first.LeadsTo third := by
  have split : third.index - first.index =
      (third.index - second.index) + (second.index - first.index) := by omega
  rw [LeadsTo, split, Function.iterate_add_apply, start, continued]

@[simp]
theorem LeadsTo.refl (checkpoint : Checkpoint) : checkpoint.LeadsTo checkpoint := by
  simp [LeadsTo]

/-- Of two checkpoints with one index each leads to the other or neither does. -/
theorem LeadsTo.symm {left right : Checkpoint} (same : left.index = right.index)
    (leads : left.LeadsTo right) : right.LeadsTo left := by
  have digests : left.digest = right.digest := by
    simpa [LeadsTo, same] using leads
  simp [LeadsTo, same, digests]

/-- What is wrong with a segment: nothing if its start leads to its end. -/
def mismatch? (start stop : Checkpoint) : Option Mismatch :=
  let got := Digest.successor^[stop.index - start.index] start.digest
  if got = stop.digest then none
  else some ⟨start.index, stop.index, stop.digest.bytes, got.bytes⟩

theorem mismatch?_eq_none_iff {start stop : Checkpoint} :
    start.mismatch? stop = none ↔ start.LeadsTo stop := by
  simp [mismatch?, LeadsTo]

theorem mismatch?_eq_some_iff {start stop : Checkpoint} {mismatch : Mismatch} :
    start.mismatch? stop = some mismatch ↔ ¬start.LeadsTo stop ∧ mismatch =
      ⟨start.index, stop.index, stop.digest.bytes,
        (Digest.successor^[stop.index - start.index] start.digest).bytes⟩ := by
  simp [mismatch?, LeadsTo, eq_comm]

end Checkpoint

namespace Chain

/-! ## Segments -/

/-- The segments between neighbours. -/
def segments (states : List Checkpoint) : List (Checkpoint × Checkpoint) :=
  states.zip states.tail

/-- What is wrong with the segments between neighbours, in their order. -/
def mismatches (states : List Checkpoint) : List Mismatch :=
  (segments states).filterMap fun segment => segment.1.mismatch? segment.2

@[simp]
theorem mismatches_singleton (state : Checkpoint) : mismatches [state] = [] := rfl

theorem mismatches_cons_cons (start stop : Checkpoint) (rest : List Checkpoint) :
    mismatches (start :: stop :: rest) =
      (start.mismatch? stop).toList ++ mismatches (stop :: rest) := by
  simp only [mismatches, segments, List.tail_cons, List.zip_cons_cons, List.filterMap_cons]
  cases start.mismatch? stop with
  | none => rfl
  | some mismatch => rfl

/-- A state that ends one row of segments and starts another one belongs to both. -/
theorem mismatches_append (front back : List Checkpoint) (cut : Checkpoint) :
    mismatches (front ++ cut :: back) =
      mismatches (front ++ [cut]) ++ mismatches (cut :: back) := by
  induction front with
  | nil => rfl
  | cons start front ih =>
      cases front with
      | nil =>
          simp only [List.cons_append, List.nil_append, mismatches_cons_cons,
            mismatches_singleton, List.append_nil]
      | cons stop front =>
          simp only [List.cons_append, mismatches_cons_cons, List.append_assoc] at ih ⊢
          rw [ih]

theorem mismatches_concat (front : List Checkpoint) (last stop : Checkpoint) :
    mismatches (front ++ [last, stop]) =
      mismatches (front ++ [last]) ++ (last.mismatch? stop).toList := by
  rw [mismatches_append, mismatches_cons_cons, mismatches_singleton, List.append_nil]

/-- A mismatch is found at the positions of its segment. -/
theorem mem_mismatches_iff {states : List Checkpoint} {mismatch : Mismatch} :
    mismatch ∈ mismatches states ↔ ∃ position start stop, states[position]? = some start ∧
      states[position + 1]? = some stop ∧ start.mismatch? stop = some mismatch := by
  rw [mismatches, List.mem_filterMap]
  simp only [segments, List.mem_iff_getElem?, Prod.exists, List.getElem?_zip_eq_some,
    List.getElem?_tail]
  constructor
  · rintro ⟨start, stop, ⟨position, start_eq, stop_eq⟩, wrong⟩
    exact ⟨position, start, stop, start_eq, stop_eq, wrong⟩
  · rintro ⟨position, start, stop, start_eq, stop_eq, wrong⟩
    exact ⟨start, stop, ⟨position, start_eq, stop_eq⟩, wrong⟩

/-! ## Verification -/

theorem verifySegment_eq {start stop : Checkpoint} (ordered : start.index ≤ stop.index) :
    verifySegment start stop = .ok (start.mismatch? stop) := by
  have forward : ¬stop.index < start.index := by omega
  rw [verifySegment, if_neg forward, Checkpoint.mismatch?, ← Digest.advance_eq_iterate]
  exact (apply_ite Except.ok _ _ _).symm

/-- Between neighbours in order of their indices verification never fails, and it finds what is
wrong with the segments. -/
theorem verifyNeighbours_eq {checkpoints : List Checkpoint}
    (sorted : checkpoints.Pairwise fun left right => left.index ≤ right.index) :
    verifyNeighbours checkpoints = .ok (mismatches checkpoints) := by
  induction checkpoints with
  | nil => rfl
  | cons start rest ih =>
      cases rest with
      | nil => rfl
      | cons stop rest =>
          have ordered : start.index ≤ stop.index :=
            List.rel_of_pairwise_cons sorted List.mem_cons_self
          rw [verifyNeighbours, verifySegment_eq ordered, ih (List.Pairwise.of_cons sorted),
            mismatches_cons_cons]
          rfl

theorem Exponent.onGrid_iff (exponent : Exponent) (index : Nat) :
    exponent.onGrid index = true ↔ exponent.interval ∣ index ∧ index < exponent.steps := by
  simp [Exponent.onGrid, Nat.dvd_iff_mod_eq_zero]

/-- The end of the chain, if its state is given. -/
def arrival (exponent : Exponent) (final? : Option (Digest 32)) : List Checkpoint :=
  (final?.map (Checkpoint.mk exponent.steps)).toList

theorem mem_arrival_iff {exponent : Exponent} {final? : Option (Digest 32)} {state : Checkpoint} :
    state ∈ arrival exponent final? ↔ ∃ final ∈ final?, state = ⟨exponent.steps, final⟩ := by
  cases final? <;> simp [arrival]

@[simp]
theorem checkpoint_ofBytes_bytes (index : Nat) (digest : Digest 32) :
    Checkpoint.ofBytes index digest.bytes = .ok ⟨index, digest⟩ := by
  simp [Checkpoint.ofBytes, Digest.ofField, Except.map]

/-- The checkpoints in the order in which they are verified. -/
def inOrder (checkpoints : List Checkpoint) : List Checkpoint :=
  checkpoints.mergeSort fun left right => left.index ≤ right.index

theorem inOrder_perm (checkpoints : List Checkpoint) : (inOrder checkpoints).Perm checkpoints :=
  List.mergeSort_perm checkpoints _

theorem pairwise_inOrder (checkpoints : List Checkpoint) :
    (inOrder checkpoints).Pairwise fun left right => left.index ≤ right.index := by
  have trans (first second third : Checkpoint) :
      decide (first.index ≤ second.index) = true → decide (second.index ≤ third.index) = true →
        decide (first.index ≤ third.index) = true := by
    simp only [decide_eq_true_eq]
    exact Nat.le_trans
  have total (first second : Checkpoint) :
      (decide (first.index ≤ second.index) || decide (second.index ≤ first.index)) = true := by
    simpa using Nat.le_total first.index second.index
  simpa [inOrder] using List.pairwise_mergeSort trans total checkpoints

/-- Every checkpoint comes before all that follow it, so no two have one index. -/
def Ascending (checkpoints : List Checkpoint) : Prop :=
  checkpoints.Pairwise fun left right => left.index < right.index

theorem Ascending.of_same_indices {checkpoints others : List Checkpoint}
    (ascending : Ascending checkpoints)
    (same : others.map Checkpoint.index = checkpoints.map Checkpoint.index) :
    Ascending others := by
  have indices : (checkpoints.map Checkpoint.index).Pairwise (· < ·) :=
    List.pairwise_map.mpr ascending
  exact List.pairwise_map.mp (same ▸ indices)

theorem Ascending.nodup {checkpoints : List Checkpoint} (ascending : Ascending checkpoints) :
    (checkpoints.map Checkpoint.index).Nodup :=
  List.pairwise_map.mpr (ascending.imp Nat.ne_of_lt)

theorem ascending_inOrder {checkpoints : List Checkpoint}
    (distinct : (checkpoints.map Checkpoint.index).Nodup) : Ascending (inOrder checkpoints) := by
  have different : (inOrder checkpoints).Pairwise fun left right => left.index ≠ right.index :=
    List.pairwise_map.mp (((inOrder_perm checkpoints).map Checkpoint.index).nodup_iff.mpr distinct)
  exact ((pairwise_inOrder checkpoints).and different).imp fun both =>
    Nat.lt_of_le_of_ne both.1 both.2

/-- Between states in order the mismatches are in order too, and none of them is found twice. -/
theorem pairwise_start_mismatches {states : List Checkpoint} (ascending : Ascending states) :
    (mismatches states).Pairwise fun left right => left.start < right.start := by
  have starts : (segments states).Pairwise fun left right => left.1.index < right.1.index := by
    refine List.pairwise_iff_getElem.mpr fun earlier later earlier_lt later_lt ordered => ?_
    simp only [segments, List.getElem_zip]
    exact List.pairwise_iff_getElem.mp ascending earlier later _ _ ordered
  rw [mismatches, List.pairwise_filterMap]
  refine starts.imp fun {left right} ordered mismatch wrong other also_wrong => ?_
  obtain ⟨-, rfl⟩ := Checkpoint.mismatch?_eq_some_iff.mp wrong
  obtain ⟨-, rfl⟩ := Checkpoint.mismatch?_eq_some_iff.mp also_wrong
  exact Int.ofNat_lt.mpr ordered

/-- Checkpoints of different indices can stand in one order only. -/
theorem inOrder_eq {checkpoints ordered : List Checkpoint} (ascending : Ascending ordered)
    (permuted : ordered.Perm checkpoints) : inOrder checkpoints = ordered := by
  have distinct : (checkpoints.map Checkpoint.index).Nodup :=
    (permuted.map Checkpoint.index).nodup_iff.mp ascending.nodup
  have same : (inOrder checkpoints).Perm ordered := (inOrder_perm checkpoints).trans permuted.symm
  exact same.eq_of_pairwise (fun _ _ _ _ before after => absurd before (Nat.lt_asymm after))
    (ascending_inOrder distinct) ascending

/-- The states that verification goes through: the checkpoints in their order, and the end of the
chain if its state is given. -/
def states (exponent : Exponent) (checkpoints : List Checkpoint) (final? : Option (Digest 32)) :
    List Checkpoint :=
  inOrder checkpoints ++ arrival exponent final?

theorem pairwise_states {exponent : Exponent} {checkpoints : List Checkpoint}
    (before : ∀ checkpoint ∈ checkpoints, checkpoint.index < exponent.steps)
    (final? : Option (Digest 32)) :
    (states exponent checkpoints final?).Pairwise fun left right => left.index ≤ right.index := by
  refine List.pairwise_append.mpr ⟨pairwise_inOrder checkpoints, ?_, ?_⟩
  · cases final? <;> simp [arrival]
  · intro checkpoint member stop stop_mem
    obtain ⟨final, -, rfl⟩ := mem_arrival_iff.mp stop_mem
    exact Nat.le_of_lt (before checkpoint ((inOrder_perm checkpoints).mem_iff.mp member))

/-- Verification of checkpoints on the grid never fails.  It finds what is wrong with the segments
between neighbours of the states. -/
theorem verify_eq {exponent : Exponent} {checkpoints : List Checkpoint}
    (onGrid : ∀ checkpoint ∈ checkpoints, exponent.onGrid checkpoint.index = true)
    (final? : Option (Digest 32)) :
    verify checkpoints exponent (final?.map Digest.bytes) =
      .ok (mismatches (states exponent checkpoints final?)) := by
  have sorted := pairwise_inOrder checkpoints
  have permuted := inOrder_perm checkpoints
  rw [verify, states, ← inOrder]
  -- All that matters of sorting is that it orders the checkpoints and loses none.
  generalize inOrder checkpoints = ordered at *
  have no_stray : ordered.find? (fun checkpoint => !exponent.onGrid checkpoint.index) = none := by
    simpa using fun checkpoint member => onGrid checkpoint (permuted.mem_iff.mp member)
  rw [no_stray, verifyNeighbours_eq sorted]
  cases final? with
  | none => simp [arrival, bind, Except.bind, pure, Except.pure]
  | some final =>
      cases last_eq : ordered.getLast? with
      | none =>
          obtain rfl : ordered = [] := List.getLast?_eq_none_iff.mp last_eq
          rfl
      | some last =>
          obtain ⟨front, rfl⟩ := List.getLast?_eq_some_iff.mp last_eq
          have last_le : last.index ≤ exponent.steps :=
            Nat.le_of_lt ((exponent.onGrid_iff last.index).mp
              (onGrid last (permuted.mem_iff.mp (by simp)))).2
          have segment := @verifySegment_eq last ⟨exponent.steps, final⟩ last_le
          have arrived : arrival exponent (some final) = [⟨exponent.steps, final⟩] := rfl
          rw [arrived, List.append_assoc, List.singleton_append, mismatches_concat]
          simp [segment, bind, Except.bind, pure, Except.pure]

end Chain
end BeaconCeremony

import BeaconCeremony.Proofs.Chain.Mismatches
import Mathlib.Data.List.Chain

/-!
# What a clean verification says

Verification hashes only between neighbours of the sorted list, and from the last checkpoint to the
end of the chain.  Because agreement of two checkpoints is transitive along the indices, nothing is
lost: no mismatch is found exactly if every checkpoint agrees with every other one and with the
final state.
-/

namespace BeaconCeremony
namespace Chain

/-- One checkpoint comes no later than another and leads to it. -/
def Precedes (start stop : Checkpoint) : Prop :=
  start.index ≤ stop.index ∧ start.LeadsTo stop

instance : Trans Precedes Precedes Precedes where
  trans start continued :=
    ⟨start.1.trans continued.1, .trans start.1 continued.1 start.2 continued.2⟩

/-- States in order of their indices have no mismatch exactly if every one leads to the next one. -/
theorem mismatches_eq_nil_iff {states : List Checkpoint}
    (sorted : states.Pairwise fun left right => left.index ≤ right.index) :
    mismatches states = [] ↔ states.IsChain Precedes := by
  induction states with
  | nil => simp [mismatches, segments]
  | cons start rest ih =>
      cases rest with
      | nil => simp [mismatches, segments]
      | cons stop rest =>
          have ordered : start.index ≤ stop.index :=
            List.rel_of_pairwise_cons sorted List.mem_cons_self
          rw [mismatches_cons_cons, List.append_eq_nil_iff, ih (List.Pairwise.of_cons sorted),
            List.isChain_cons_cons, Precedes, Option.toList_eq_nil_iff,
            Checkpoint.mismatch?_eq_none_iff]
          simp only [ordered, true_and]

/-- In a sorted list neighbours agree exactly if all checkpoints do. -/
theorem isChain_precedes_iff {checkpoints : List Checkpoint}
    (sorted : checkpoints.Pairwise fun left right => left.index ≤ right.index) :
    checkpoints.IsChain Precedes ↔
      ∀ start ∈ checkpoints, ∀ stop ∈ checkpoints,
        start.index ≤ stop.index → start.LeadsTo stop := by
  rw [List.isChain_iff_pairwise]
  constructor
  · intro pairwise start start_mem stop stop_mem
    -- Two checkpoints of one index can stand in either order, so both orders have to be covered.
    refine List.Pairwise.forall_of_forall_of_flip
      (R := fun start stop => start.index ≤ stop.index → start.LeadsTo stop)
      (fun checkpoint _ _ => .refl checkpoint) ?_ ?_ start_mem stop_mem
    · exact pairwise.imp fun precedes _ => precedes.2
    · exact pairwise.imp fun precedes backward =>
        precedes.2.symm (Nat.le_antisymm precedes.1 backward)
  · intro agree
    exact sorted.imp_of_mem fun start_mem stop_mem ordered =>
      ⟨ordered, agree _ start_mem _ stop_mem ordered⟩

/-- Every checkpoint leads to every other one that does not come before it, and to the final state
if there is one. -/
structure Consistent (exponent : Exponent) (checkpoints : List Checkpoint)
    (final? : Option (Digest 32)) : Prop where
  /-- Checkpoints agree with each other, also if they share their index. -/
  agree : ∀ start ∈ checkpoints, ∀ stop ∈ checkpoints,
    start.index ≤ stop.index → start.LeadsTo stop
  /-- Checkpoints agree with the end of the chain. -/
  reach : ∀ final ∈ final?, ∀ checkpoint ∈ checkpoints,
    Digest.successor^[exponent.steps - checkpoint.index] checkpoint.digest = final

theorem Consistent.perm {exponent : Exponent} {checkpoints reordered : List Checkpoint}
    {final? : Option (Digest 32)} (permuted : reordered.Perm checkpoints)
    (consistent : Consistent exponent checkpoints final?) :
    Consistent exponent reordered final? where
  agree start start_mem stop stop_mem :=
    consistent.agree start (permuted.mem_iff.mp start_mem) stop (permuted.mem_iff.mp stop_mem)
  reach final final_mem checkpoint checkpoint_mem :=
    consistent.reach final final_mem checkpoint (permuted.mem_iff.mp checkpoint_mem)

theorem consistent_none_iff (exponent : Exponent) (checkpoints : List Checkpoint) :
    Consistent exponent checkpoints none ↔
      ∀ start ∈ checkpoints, ∀ stop ∈ checkpoints,
        start.index ≤ stop.index → start.LeadsTo stop :=
  ⟨fun consistent => consistent.agree, fun agree => ⟨agree, by simp⟩⟩

/-- Checkpoints before the end of the chain are consistent exactly if they agree with each other and
with the end as one more checkpoint. -/
theorem consistent_iff_states {exponent : Exponent} {checkpoints : List Checkpoint}
    {final? : Option (Digest 32)}
    (before : ∀ checkpoint ∈ checkpoints, checkpoint.index < exponent.steps) :
    Consistent exponent checkpoints final? ↔
      ∀ start ∈ checkpoints ++ arrival exponent final?,
        ∀ stop ∈ checkpoints ++ arrival exponent final?,
          start.index ≤ stop.index → start.LeadsTo stop := by
  constructor
  · intro consistent start start_mem stop stop_mem ordered
    simp only [List.mem_append, mem_arrival_iff] at start_mem stop_mem
    rcases start_mem with start_mem | ⟨final, final_mem, rfl⟩
    · rcases stop_mem with stop_mem | ⟨final, final_mem, rfl⟩
      · exact consistent.agree start start_mem stop stop_mem ordered
      · exact consistent.reach final final_mem start start_mem
    · rcases stop_mem with stop_mem | ⟨other, other_mem, rfl⟩
      · exact absurd ordered (before stop stop_mem).not_ge
      · obtain rfl : final = other := Option.some.inj (final_mem.symm.trans other_mem)
        exact .refl _
  · intro agree
    refine ⟨fun start start_mem stop stop_mem => agree start (List.mem_append_left _ start_mem) stop
      (List.mem_append_left _ stop_mem), fun final final_mem checkpoint member => ?_⟩
    have arrived : Checkpoint.mk exponent.steps final ∈ arrival exponent final? :=
      mem_arrival_iff.mpr ⟨final, final_mem, rfl⟩
    exact agree checkpoint (List.mem_append_left _ member) _ (List.mem_append_right _ arrived)
      (before checkpoint member).le

/-- Verification of checkpoints on the grid never fails, and it finds nothing exactly if they are
consistent. -/
theorem verify_of_onGrid {exponent : Exponent} {checkpoints : List Checkpoint}
    (onGrid : ∀ checkpoint ∈ checkpoints, exponent.onGrid checkpoint.index = true)
    (final? : Option (Digest 32)) :
    ∃ mismatches, verify checkpoints exponent (final?.map Digest.bytes) = .ok mismatches ∧
      (mismatches = [] ↔ Consistent exponent checkpoints final?) := by
  have before : ∀ checkpoint ∈ checkpoints, checkpoint.index < exponent.steps :=
    fun checkpoint member => ((exponent.onGrid_iff _).mp (onGrid checkpoint member)).2
  have sorted := pairwise_states before final?
  have same_states : ∀ state, state ∈ states exponent checkpoints final? ↔
      state ∈ checkpoints ++ arrival exponent final? := by
    simp [states, (inOrder_perm checkpoints).mem_iff]
  refine ⟨_, verify_eq onGrid final?, ?_⟩
  rw [mismatches_eq_nil_iff sorted, isChain_precedes_iff sorted, consistent_iff_states before]
  simp only [same_states]

/-- Verification refuses checkpoints off the grid. -/
theorem onGrid_of_verify_eq_ok {exponent : Exponent} {checkpoints : List Checkpoint}
    {final? : Option Bytes} {mismatches : List Mismatch}
    (verified : verify checkpoints exponent final? = .ok mismatches) :
    ∀ checkpoint ∈ checkpoints, exponent.onGrid checkpoint.index = true := by
  have permuted := List.mergeSort_perm checkpoints fun left right => left.index ≤ right.index
  rw [verify] at verified
  generalize (checkpoints.mergeSort fun left right => left.index ≤ right.index) = ordered at *
  cases stray_eq : ordered.find? fun checkpoint => !exponent.onGrid checkpoint.index with
  | some stray =>
      simp only [stray_eq] at verified
      contradiction
  | none =>
      intro checkpoint member
      simpa using List.find?_eq_none.mp stray_eq checkpoint (permuted.mem_iff.mpr member)

theorem verify_eq_nil_iff {exponent : Exponent} {checkpoints : List Checkpoint}
    {final? : Option (Digest 32)} :
    verify checkpoints exponent (final?.map Digest.bytes) = .ok [] ↔
      (∀ checkpoint ∈ checkpoints, exponent.onGrid checkpoint.index = true) ∧
        Consistent exponent checkpoints final? := by
  constructor
  · intro verified
    have onGrid := onGrid_of_verify_eq_ok verified
    obtain ⟨mismatches, found, clean_iff⟩ := verify_of_onGrid onGrid final?
    rw [found] at verified
    exact ⟨onGrid, clean_iff.mp (Except.ok.inj verified)⟩
  · rintro ⟨onGrid, consistent⟩
    obtain ⟨mismatches, found, clean_iff⟩ := verify_of_onGrid onGrid final?
    rw [found, clean_iff.mpr consistent]

/-- The verdict on checkpoints of a chain: verification answers, it finds nothing exactly if every
checkpoint agrees with every other one and with the final state, and the order in which the
checkpoints are listed makes no difference. -/
theorem verify_clean_iff_consistent (exponent : Exponent) (checkpoints : List Checkpoint)
    (final? : Option (Digest 32))
    (onGrid : ∀ checkpoint ∈ checkpoints,
      exponent.interval ∣ checkpoint.index ∧ checkpoint.index < exponent.steps) :
    (∃ mismatches, verify checkpoints exponent (final?.map Digest.bytes) = .ok mismatches ∧
      (mismatches = [] ↔ Consistent exponent checkpoints final?)) ∧
    ∀ reordered : List Checkpoint, reordered.Perm checkpoints →
      (verify reordered exponent (final?.map Digest.bytes) = .ok [] ↔
        verify checkpoints exponent (final?.map Digest.bytes) = .ok []) := by
  have placed : ∀ checkpoint ∈ checkpoints, exponent.onGrid checkpoint.index = true :=
    fun checkpoint member => (exponent.onGrid_iff checkpoint.index).mpr (onGrid checkpoint member)
  refine ⟨verify_of_onGrid placed final?, ?_⟩
  intro reordered permuted
  have replaced : ∀ checkpoint ∈ reordered, exponent.onGrid checkpoint.index = true :=
    fun checkpoint member => placed checkpoint (permuted.mem_iff.mp member)
  obtain ⟨found, verified, clean_iff⟩ := verify_of_onGrid placed final?
  obtain ⟨refound, reverified, reclean_iff⟩ := verify_of_onGrid replaced final?
  rw [verified, reverified, Except.ok.injEq, Except.ok.injEq, clean_iff, reclean_iff]
  exact ⟨.perm permuted.symm, .perm permuted⟩

/-- Three checkpoints out of order, two of them with one index. -/
theorem verify_clean_iff_consistent_unsorted :
    let exponent : Exponent := ⟨11, by decide, by decide⟩
    let state : Digest 32 := ⟨List.replicate 32 7, rfl⟩
    let checkpoints : List Checkpoint := [⟨6, state⟩, ⟨2, state⟩, ⟨6, state.successor⟩]
    (∀ checkpoint ∈ checkpoints,
      exponent.interval ∣ checkpoint.index ∧ checkpoint.index < exponent.steps) ∧
    (∃ mismatches, verify checkpoints exponent (some state.bytes) = .ok mismatches ∧
      (mismatches = [] ↔ Consistent exponent checkpoints (some state))) ∧
    ∀ reordered : List Checkpoint, reordered.Perm checkpoints →
      (verify reordered exponent (some state.bytes) = .ok [] ↔
        verify checkpoints exponent (some state.bytes) = .ok []) := by
  intro exponent state checkpoints
  have onGrid : ∀ checkpoint ∈ checkpoints,
      exponent.interval ∣ checkpoint.index ∧ checkpoint.index < exponent.steps := by
    simp only [checkpoints, List.forall_mem_cons]
    decide
  exact ⟨onGrid, verify_clean_iff_consistent exponent checkpoints (some state) onGrid⟩

end Chain
end BeaconCeremony

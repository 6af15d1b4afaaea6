import BeaconCeremony.Proofs.Chain.Verification

/-!
# Shares of a verification

Two verifiers who each find a share of the checkpoints consistent have not seen the segment between
the shares.  Both shares together are consistent exactly if each checkpoint of the first share leads
to each one of the second, and a checkpoint in both shares sees to that.

Shares that are cut at a checkpoint also find the same mismatches as one verification of the whole,
whatever the states are, and they find them in the same order.
-/

namespace BeaconCeremony
namespace Chain

variable {exponent : Exponent} {lower upper whole : List Checkpoint} {final? : Option (Digest 32)}

theorem Consistent.leadsTo_end {checkpoints : List Checkpoint} {final : Digest 32}
    (consistent : Consistent exponent checkpoints (some final)) {checkpoint : Checkpoint}
    (member : checkpoint ∈ checkpoints) : checkpoint.LeadsTo ⟨exponent.steps, final⟩ :=
  consistent.reach final rfl checkpoint member

/-- Two consistent shares are consistent together exactly if they agree with each other. -/
theorem consistent_shares_iff (members : ∀ checkpoint, checkpoint ∈ whole ↔
      checkpoint ∈ lower ∨ checkpoint ∈ upper)
    (ordered : ∀ start ∈ lower, ∀ stop ∈ upper, start.index ≤ stop.index)
    (within : ∀ checkpoint ∈ upper, checkpoint.index ≤ exponent.steps) (upper_ne : upper ≠ [])
    (lower_consistent : Consistent exponent lower none)
    (upper_consistent : Consistent exponent upper final?) :
    Consistent exponent whole final? ↔
      ∀ start ∈ lower, ∀ stop ∈ upper, start.LeadsTo stop := by
  constructor
  · intro consistent start start_mem stop stop_mem
    exact consistent.agree start ((members start).mpr (.inl start_mem)) stop
      ((members stop).mpr (.inr stop_mem)) (ordered start start_mem stop stop_mem)
  · intro across
    refine ⟨fun start start_mem stop stop_mem before => ?_,
      fun final final_eq checkpoint checkpoint_mem => ?_⟩
    · rcases (members start).mp start_mem with start_lower | start_upper
      · rcases (members stop).mp stop_mem with stop_lower | stop_upper
        · exact lower_consistent.agree start start_lower stop stop_lower before
        · exact across start start_lower stop stop_upper
      · rcases (members stop).mp stop_mem with stop_lower | stop_upper
        · -- Only checkpoints at the cut itself can stand in this order.
          have same := Nat.le_antisymm before (ordered stop stop_lower start start_upper)
          exact (across stop stop_lower start start_upper).symm same.symm
        · exact upper_consistent.agree start start_upper stop stop_upper before
    · obtain rfl : final? = some final := final_eq
      rcases (members checkpoint).mp checkpoint_mem with in_lower | in_upper
      · obtain ⟨next, next_mem⟩ := List.exists_mem_of_ne_nil upper upper_ne
        have rest : next.LeadsTo ⟨exponent.steps, final⟩ := upper_consistent.leadsTo_end next_mem
        have before := ordered checkpoint in_lower next next_mem
        exact (across checkpoint in_lower next next_mem).trans before (within next next_mem) rest
      · exact upper_consistent.leadsTo_end in_upper

/-- A checkpoint in both shares makes them agree. -/
theorem leadsTo_of_shared {shared : Checkpoint} (shared_lower : shared ∈ lower)
    (shared_upper : shared ∈ upper)
    (ordered : ∀ start ∈ lower, ∀ stop ∈ upper, start.index ≤ stop.index)
    (lower_consistent : Consistent exponent lower none)
    (upper_consistent : Consistent exponent upper final?) :
    ∀ start ∈ lower, ∀ stop ∈ upper, start.LeadsTo stop := by
  intro start start_mem stop stop_mem
  have start_le := ordered start start_mem shared shared_upper
  have le_stop := ordered shared shared_lower stop stop_mem
  have first := lower_consistent.agree start start_mem shared shared_lower start_le
  have second := upper_consistent.agree shared shared_upper stop stop_mem le_stop
  exact first.trans start_le le_stop second

/-! ## Mismatches of shares -/

section Cuts

variable {front back : List Checkpoint} {cut : Checkpoint}

theorem filter_before_cut (ascending : Ascending (front ++ cut :: back)) :
    (front ++ cut :: back).filter (fun checkpoint => checkpoint.index ≤ cut.index) =
      front ++ [cut] := by
  obtain ⟨-, after_cut, before_cut⟩ := List.pairwise_append.mp ascending
  have kept : front.filter (fun checkpoint => checkpoint.index ≤ cut.index) = front :=
    List.filter_eq_self.mpr fun checkpoint member =>
      decide_eq_true (before_cut checkpoint member cut List.mem_cons_self).le
  have dropped : back.filter (fun checkpoint => checkpoint.index ≤ cut.index) = [] :=
    List.filter_eq_nil_iff.mpr fun checkpoint member => by
      simpa using List.rel_of_pairwise_cons after_cut member
  simp [kept, dropped]

theorem filter_from_cut (ascending : Ascending (front ++ cut :: back)) :
    (front ++ cut :: back).filter (fun checkpoint => cut.index ≤ checkpoint.index) =
      cut :: back := by
  obtain ⟨-, after_cut, before_cut⟩ := List.pairwise_append.mp ascending
  have dropped : front.filter (fun checkpoint => cut.index ≤ checkpoint.index) = [] :=
    List.filter_eq_nil_iff.mpr fun checkpoint member => by
      simpa using before_cut checkpoint member cut List.mem_cons_self
  have kept : back.filter (fun checkpoint => cut.index ≤ checkpoint.index) = back :=
    List.filter_eq_self.mpr fun checkpoint member =>
      decide_eq_true (List.rel_of_pairwise_cons after_cut member).le
  simp [kept, dropped]

end Cuts

/-- Cut at one of them, checkpoints of different indices are verified share by share. -/
theorem mismatches_cut {checkpoints : List Checkpoint}
    (distinct : (checkpoints.map Checkpoint.index).Nodup) {cut : Checkpoint}
    (cut_mem : cut ∈ checkpoints) (final? : Option (Digest 32)) :
    mismatches (states exponent checkpoints final?) =
      mismatches (states exponent
        (checkpoints.filter fun checkpoint => checkpoint.index ≤ cut.index) none) ++
      mismatches (states exponent
        (checkpoints.filter fun checkpoint => cut.index ≤ checkpoint.index) final?) := by
  have permuted := inOrder_perm checkpoints
  have ascending := ascending_inOrder distinct
  obtain ⟨front, back, split⟩ := List.append_of_mem (permuted.mem_iff.mpr cut_mem)
  rw [split] at permuted ascending
  have lower : inOrder (checkpoints.filter fun checkpoint => checkpoint.index ≤ cut.index) =
      front ++ [cut] := by
    rw [← filter_before_cut ascending]
    exact inOrder_eq (ascending.filter _) (permuted.filter _)
  have upper : inOrder (checkpoints.filter fun checkpoint => cut.index ≤ checkpoint.index) =
      cut :: back := by
    rw [← filter_from_cut ascending]
    exact inOrder_eq (ascending.filter _) (permuted.filter _)
  have no_arrival : arrival exponent none = [] := rfl
  rw [states, states, states, split, lower, upper, no_arrival, List.append_nil,
    List.append_assoc, List.cons_append, mismatches_append]

/-- Verification is shared out at checkpoints.  Of checkpoints on the grid with different indices,
the whole verification finds what the share up to any one of them finds, without the end of the
chain, and then what the share from this one on finds; it finds the same in whatever order the
checkpoints are listed, and nothing exactly if they are consistent. -/
theorem verify_partitioned (exponent : Exponent) (checkpoints : List Checkpoint)
    (final? : Option (Digest 32))
    (onGrid : ∀ checkpoint ∈ checkpoints,
      exponent.interval ∣ checkpoint.index ∧ checkpoint.index < exponent.steps)
    (distinct : (checkpoints.map Checkpoint.index).Nodup) :
    ∃ found, verify checkpoints exponent (final?.map Digest.bytes) = .ok found ∧
      (found = [] ↔ Consistent exponent checkpoints final?) ∧
      (∀ cut ∈ checkpoints, ∃ lower upper,
        verify (checkpoints.filter fun checkpoint => checkpoint.index ≤ cut.index) exponent none =
          .ok lower ∧
        verify (checkpoints.filter fun checkpoint => cut.index ≤ checkpoint.index) exponent
          (final?.map Digest.bytes) = .ok upper ∧
        found = lower ++ upper) ∧
      ∀ reordered : List Checkpoint, reordered.Perm checkpoints →
        verify reordered exponent (final?.map Digest.bytes) = .ok found := by
  have placed : ∀ checkpoint ∈ checkpoints, exponent.onGrid checkpoint.index = true :=
    fun checkpoint member => (exponent.onGrid_iff checkpoint.index).mpr (onGrid checkpoint member)
  obtain ⟨found, verified, clean_iff⟩ := verify_of_onGrid placed final?
  obtain rfl : mismatches (states exponent checkpoints final?) = found :=
    Except.ok.inj ((verify_eq placed final?).symm.trans verified)
  refine ⟨_, verified, clean_iff, ?_, ?_⟩
  · intro cut cut_mem
    have share_placed (chosen : Checkpoint → Bool) :
        ∀ checkpoint ∈ checkpoints.filter chosen, exponent.onGrid checkpoint.index = true :=
      fun checkpoint member => placed checkpoint (List.mem_of_mem_filter member)
    exact ⟨_, _, verify_eq (share_placed _) none, verify_eq (share_placed _) final?,
      mismatches_cut distinct cut_mem final?⟩
  · intro reordered permuted
    have replaced : ∀ checkpoint ∈ reordered, exponent.onGrid checkpoint.index = true :=
      fun checkpoint member => placed checkpoint (permuted.mem_iff.mp member)
    have same_order : inOrder reordered = inOrder checkpoints :=
      inOrder_eq (ascending_inOrder distinct) ((inOrder_perm checkpoints).trans permuted.symm)
    rw [verify_eq replaced final?, states, same_order, ← states]

/-- Three checkpoints out of order whose states have nothing to do with each other. -/
theorem verify_partitioned_unsorted :
    let exponent : Exponent := ⟨11, by decide, by decide⟩
    let first : Checkpoint := ⟨6, ⟨List.replicate 32 7, rfl⟩⟩
    let second : Checkpoint := ⟨2, ⟨List.replicate 32 8, rfl⟩⟩
    let third : Checkpoint := ⟨12, ⟨List.replicate 32 9, rfl⟩⟩
    let checkpoints : List Checkpoint := [first, second, third]
    (∀ checkpoint ∈ checkpoints,
      exponent.interval ∣ checkpoint.index ∧ checkpoint.index < exponent.steps) ∧
    (checkpoints.map Checkpoint.index).Nodup ∧
    ∃ found, verify checkpoints exponent (some first.digest.bytes) = .ok found ∧
      (found = [] ↔ Consistent exponent checkpoints (some first.digest)) ∧
      (∃ lower upper,
        verify (checkpoints.filter fun checkpoint => checkpoint.index ≤ 6) exponent none =
          .ok lower ∧
        verify (checkpoints.filter fun checkpoint => 6 ≤ checkpoint.index) exponent
          (some first.digest.bytes) = .ok upper ∧
        found = lower ++ upper) ∧
      verify [third, second, first] exponent (some first.digest.bytes) = .ok found := by
  intro exponent first second third checkpoints
  have onGrid : ∀ checkpoint ∈ checkpoints,
      exponent.interval ∣ checkpoint.index ∧ checkpoint.index < exponent.steps := by
    simp only [checkpoints, List.forall_mem_cons]
    decide
  have distinct : (checkpoints.map Checkpoint.index).Nodup := by decide
  have reordered : [third, second, first].Perm checkpoints :=
    (List.perm_append_singleton first [third, second]).trans (.cons first (.swap second third []))
  obtain ⟨found, verified, clean_iff, partitioned, indifferent⟩ :=
    verify_partitioned exponent checkpoints (some first.digest) onGrid distinct
  exact ⟨onGrid, distinct, found, verified, clean_iff, partitioned first List.mem_cons_self,
    indifferent _ reordered⟩

end Chain
end BeaconCeremony

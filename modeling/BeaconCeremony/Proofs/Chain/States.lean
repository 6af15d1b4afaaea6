import BeaconCeremony.Proofs.Chain.Verification
import BeaconCeremony.Proofs.Chain.Walk

/-!
# The states of a chain

The checkpoints of a chain and its final state are its states after every whole interval.  They
stand in order of their indices, none of them twice, and each leads to all that follow it.
-/

namespace BeaconCeremony
namespace Chain

theorem Exponent.interval_pos (exponent : Exponent) : 0 < exponent.interval :=
  Nat.pow_pos (by decide)

/-- Every state comes before all that follow it and leads to them. -/
def Successive (states : List Checkpoint) : Prop :=
  states.Pairwise fun left right => left.index < right.index ∧ left.LeadsTo right

theorem Successive.ascending {states : List Checkpoint} (successive : Successive states) :
    Ascending states :=
  successive.imp And.left

theorem Successive.leadsTo {states : List Checkpoint} (successive : Successive states)
    {earlier later : Nat} {start stop : Checkpoint} (start_eq : states[earlier]? = some start)
    (stop_eq : states[later]? = some stop) (ordered : earlier < later) : start.LeadsTo stop := by
  obtain ⟨start_lt, rfl⟩ := List.getElem?_eq_some_iff.mp start_eq
  obtain ⟨stop_lt, rfl⟩ := List.getElem?_eq_some_iff.mp stop_eq
  exact (List.pairwise_iff_getElem.mp successive earlier later start_lt stop_lt ordered).2

variable (chain : Chain)

theorem iterate_stateAfter {passed steps : Nat} (passed_le : passed ≤ steps) :
    Digest.successor^[steps - passed] (chain.stateAfter passed) = chain.stateAfter steps := by
  rw [stateAfter, ← Function.iterate_add_apply, Nat.sub_add_cancel passed_le, stateAfter]

theorem index_checkpointAt_lt {number : Nat} (number_lt : number < checkpointCount) :
    (chain.checkpointAt number).index < chain.exponent.steps := by
  rw [chain.exponent.steps_eq_mul_interval]
  exact Nat.mul_lt_mul_of_pos_right number_lt chain.exponent.interval_pos

theorem onGrid_checkpointAt {number : Nat} (number_lt : number < checkpointCount) :
    chain.exponent.onGrid (chain.checkpointAt number).index = true :=
  (chain.exponent.onGrid_iff _).mpr ⟨Nat.dvd_mul_left _ _, chain.index_checkpointAt_lt number_lt⟩

theorem onGrid_of_mem {checkpoint : Checkpoint}
    (member : checkpoint ∈ chain.derivation.checkpoints) :
    chain.exponent.onGrid checkpoint.index = true := by
  simp only [derivation_eq_definition, definition, List.mem_map, List.mem_range] at member
  obtain ⟨number, number_lt, rfl⟩ := member
  exact chain.onGrid_checkpointAt number_lt

/-- The checkpoints of a chain are consistent, with or without its final state. -/
theorem consistent_checkpointAt {numbers : List Nat} {final? : Option (Digest 32)}
    (numbers_lt : ∀ number ∈ numbers, number < checkpointCount)
    (final_eq : ∀ final ∈ final?, final = chain.definition.final) :
    Consistent chain.exponent (numbers.map chain.checkpointAt) final? where
  agree start start_mem stop stop_mem ordered := by
    obtain ⟨earlier, -, rfl⟩ := List.mem_map.mp start_mem
    obtain ⟨later, -, rfl⟩ := List.mem_map.mp stop_mem
    exact chain.iterate_stateAfter ordered
  reach final final_mem checkpoint checkpoint_mem := by
    obtain ⟨number, number_mem, rfl⟩ := List.mem_map.mp checkpoint_mem
    rw [final_eq final final_mem, final_definition]
    exact chain.iterate_stateAfter (chain.index_checkpointAt_lt (numbers_lt number number_mem)).le

theorem length_checkpoints : chain.definition.checkpoints.length = checkpointCount := by
  rw [definition, List.length_map, List.length_range]

/-- The end of a chain is where the checkpoint after its last one would be. -/
theorem states_definition :
    chain.definition.states = (List.range (checkpointCount + 1)).map chain.checkpointAt := by
  have last_eq : chain.checkpointAt checkpointCount =
      ⟨chain.definition.steps, chain.definition.final⟩ := by
    rw [checkpointAt, ← Exponent.steps_eq_mul_interval, steps_definition, final_definition]
  rw [List.range_succ, List.map_append, List.map_singleton, last_eq, Derivation.states]
  simp only [definition]

theorem successive_states : Successive chain.definition.states := by
  rw [Successive, states_definition, List.pairwise_map]
  refine List.pairwise_lt_range.imp fun {earlier later} ordered => ?_
  have index_lt : (chain.checkpointAt earlier).index < (chain.checkpointAt later).index :=
    Nat.mul_lt_mul_of_pos_right ordered chain.exponent.interval_pos
  exact ⟨index_lt, chain.iterate_stateAfter index_lt.le⟩

end Chain
end BeaconCeremony

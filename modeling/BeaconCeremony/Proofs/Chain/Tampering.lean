import BeaconCeremony.Proofs.Chain.States

/-!
# Tampering is localised

Where a transcript gives other states than its chain has, verification finds mismatches only in the
segments that start or end there.  Nothing is assumed of the hash function: an altered state is
found at the end of a segment because the true state before it leads to the true state in its place,
whatever the altered state itself leads to.
-/

namespace BeaconCeremony
namespace Chain

/-- A checkpoint of the honest list does not stand at its position in the altered list. -/
def AlteredAt (honest altered : List Checkpoint) (position : Nat) (original : Checkpoint) : Prop :=
  honest[position]? = some original ∧ altered[position]? ≠ some original

section Altered

variable {honest altered tail : List Checkpoint}

theorem getElem?_of_same_indices
    (same_indices : altered.map Checkpoint.index = honest.map Checkpoint.index) {position : Nat}
    {state : Checkpoint} (state_eq : altered[position]? = some state) :
    ∃ original, honest[position]? = some original ∧ state.index = original.index := by
  have index_eq : altered[position]?.map Checkpoint.index =
      honest[position]?.map Checkpoint.index := by
    simpa using congrArg (·[position]?) same_indices
  rw [state_eq, Option.map_some, eq_comm, Option.map_eq_some_iff] at index_eq
  obtain ⟨original, original_eq, same_index⟩ := index_eq
  exact ⟨original, original_eq, same_index.symm⟩

/-- A state that is verified in an altered list is one of the honest list, or its position is
altered. -/
theorem honest_or_altered
    (same_indices : altered.map Checkpoint.index = honest.map Checkpoint.index) {position : Nat}
    {state : Checkpoint} (state_eq : (altered ++ tail)[position]? = some state) :
    (honest ++ tail)[position]? = some state ∨
      ∃ original, AlteredAt honest altered position original ∧ state.index = original.index := by
  have same_length : altered.length = honest.length := by
    simpa using congrArg List.length same_indices
  rw [List.getElem?_append, same_length] at state_eq
  rw [List.getElem?_append]
  split at state_eq
  · rename_i inside
    obtain ⟨original, original_eq, index_eq⟩ := getElem?_of_same_indices same_indices state_eq
    rw [if_pos inside]
    by_cases same : state = original
    · exact .inl (same ▸ original_eq)
    · exact .inr ⟨original, ⟨original_eq, by simpa [state_eq] using same⟩, index_eq⟩
  · rename_i beyond
    rw [if_neg beyond]
    exact .inl state_eq

/-- A mismatch starts or ends at an altered position. -/
theorem altered_of_mem_mismatches (successive : Successive (honest ++ tail))
    (same_indices : altered.map Checkpoint.index = honest.map Checkpoint.index)
    {mismatch : Mismatch} (member : mismatch ∈ mismatches (altered ++ tail)) :
    ∃ position original, AlteredAt honest altered position original ∧
      (mismatch.start = original.index ∨ mismatch.stop = original.index) := by
  obtain ⟨position, start, stop, start_eq, stop_eq, wrong⟩ := mem_mismatches_iff.mp member
  obtain ⟨broken, rfl⟩ := Checkpoint.mismatch?_eq_some_iff.mp wrong
  rcases honest_or_altered same_indices start_eq with start_honest | ⟨original, changed, index_eq⟩
  · rcases honest_or_altered same_indices stop_eq with stop_honest | ⟨original, changed, index_eq⟩
    · exact absurd (successive.leadsTo start_honest stop_honest (Nat.lt_succ_self position)) broken
    · exact ⟨position + 1, original, changed, .inr (congrArg Nat.cast index_eq)⟩
  · exact ⟨position, original, changed, .inl (congrArg Nat.cast index_eq)⟩

/-- An altered state after an unaltered one is found, and the true state with it. -/
theorem mem_mismatches_of_altered (successive : Successive (honest ++ tail))
    (same_indices : altered.map Checkpoint.index = honest.map Checkpoint.index) {position : Nat}
    {before original changed : Checkpoint} (honest_before : honest[position]? = some before)
    (unaltered : altered[position]? = some before)
    (changed_eq : altered[position + 1]? = some changed)
    (different : AlteredAt honest altered (position + 1) original) :
    ⟨before.index, original.index, changed.digest.bytes, original.digest.bytes⟩ ∈
      mismatches (altered ++ tail) := by
  have within {states : List Checkpoint} {place : Nat} {state : Checkpoint}
      (state_eq : states[place]? = some state) : (states ++ tail)[place]? = some state :=
    (List.getElem?_append_left (List.getElem?_eq_some_iff.mp state_eq).1).trans state_eq
  have index_eq : changed.index = original.index := by
    obtain ⟨other, other_eq, same_index⟩ := getElem?_of_same_indices same_indices changed_eq
    obtain rfl : original = other := Option.some.inj (different.1.symm.trans other_eq)
    exact same_index
  have digest_ne : original.digest ≠ changed.digest := by
    intro same
    have same_state : changed = original := by
      cases changed
      cases original
      simp_all
    exact different.2 (same_state ▸ changed_eq)
  have leads : before.LeadsTo original :=
    successive.leadsTo (within honest_before) (within different.1) (Nat.lt_succ_self position)
  refine mem_mismatches_iff.mpr ⟨position, before, changed, within unaltered, within changed_eq, ?_⟩
  rw [Checkpoint.LeadsTo] at leads
  rw [Checkpoint.mismatch?_eq_some_iff, Checkpoint.LeadsTo, index_eq, leads]
  exact ⟨digest_ne, rfl⟩

end Altered

/-- A slice of the checkpoints of a chain, with its final state or without, is a part of the states
of the chain. -/
theorem successive_slice (chain : Chain) {slice : List Checkpoint} {final? : Option (Digest 32)}
    (contiguous : slice <:+: chain.derivation.checkpoints)
    (final_eq : ∀ final ∈ final?, final = chain.derivation.final) :
    Successive (slice ++ arrival chain.exponent final?) := by
  rw [derivation_eq_definition] at contiguous final_eq
  have arrived : (arrival chain.exponent final?).Sublist
      [⟨chain.definition.steps, chain.definition.final⟩] := by
    cases final? with
    | none => exact List.nil_sublist _
    | some final =>
        rw [← final_eq final rfl, steps_definition]
        exact List.Sublist.refl _
  exact chain.successive_states.sublist (contiguous.sublist.append arrived)

/-- An altered slice stays in order and on the grid, so it is verified as it stands. -/
theorem verify_altered (chain : Chain) {slice altered : List Checkpoint}
    {final? : Option (Digest 32)} (contiguous : slice <:+: chain.derivation.checkpoints)
    (same_indices : altered.map Checkpoint.index = slice.map Checkpoint.index)
    (ascending : Ascending (altered ++ arrival chain.exponent final?)) :
    verify altered chain.exponent (final?.map Digest.bytes) =
      .ok (mismatches (altered ++ arrival chain.exponent final?)) := by
  have onGrid : ∀ checkpoint ∈ altered, chain.exponent.onGrid checkpoint.index = true := by
    intro checkpoint member
    obtain ⟨position, state_eq⟩ := List.mem_iff_getElem?.mp member
    obtain ⟨original, original_eq, index_eq⟩ := getElem?_of_same_indices same_indices state_eq
    rw [index_eq]
    exact chain.onGrid_of_mem (contiguous.subset (List.mem_of_getElem? original_eq))
  have ordered : inOrder altered = altered :=
    inOrder_eq (List.pairwise_append.mp ascending).1 (.refl altered)
  rw [verify_eq onGrid final?, states, ordered]

/-- Tampering is localised.  In a contiguous slice of the checkpoints of a chain some states are
altered.  Verification of it, with the final state of the chain or without, finds mismatches only
where a segment starts or ends at an altered state.  It finds every altered state that comes after
an unaltered one, with the altered state as the expected one and the true state as the one that
hashing gives.  The mismatches come in the order of their starts, no two with one start. -/
theorem tampering_localised (chain : Chain) (slice altered : List Checkpoint)
    (final? : Option (Digest 32)) (contiguous : slice <:+: chain.derivation.checkpoints)
    (same_indices : altered.map Checkpoint.index = slice.map Checkpoint.index)
    (final_eq : ∀ final ∈ final?, final = chain.derivation.final) :
    ∃ found, verify altered chain.exponent (final?.map Digest.bytes) = .ok found ∧
      (∀ mismatch ∈ found, ∃ position original, AlteredAt slice altered position original ∧
        (mismatch.start = original.index ∨ mismatch.stop = original.index)) ∧
      (∀ position before original changed, slice[position]? = some before →
        altered[position]? = some before → AlteredAt slice altered (position + 1) original →
        altered[position + 1]? = some changed →
        ⟨before.index, original.index, changed.digest.bytes, original.digest.bytes⟩ ∈ found) ∧
      found.Pairwise fun left right => left.start < right.start := by
  have successive := chain.successive_slice contiguous final_eq
  have same_states_indices : (altered ++ arrival chain.exponent final?).map Checkpoint.index =
      (slice ++ arrival chain.exponent final?).map Checkpoint.index := by
    rw [List.map_append, same_indices, ← List.map_append]
  have ascending : Ascending (altered ++ arrival chain.exponent final?) :=
    successive.ascending.of_same_indices same_states_indices
  refine ⟨_, chain.verify_altered contiguous same_indices ascending, ?_, ?_, ?_⟩
  · intro mismatch member
    exact altered_of_mem_mismatches successive same_indices member
  · intro position before original changed honest_before unaltered different changed_eq
    exact mem_mismatches_of_altered successive same_indices honest_before unaltered changed_eq
      different
  · exact pairwise_start_mismatches ascending

/-- In the first four checkpoints of the shortest chain the second one and the third one are
altered.  The second one is found with its true state. -/
theorem tampering_localised_twice :
    let beacon : Digest 32 := ⟨List.replicate 32 0, rfl⟩
    let other : Digest 32 := ⟨List.replicate 32 1, rfl⟩
    let chain : Chain := ⟨beacon, ⟨10, by decide, by decide⟩⟩
    let slice := chain.derivation.checkpoints.take 4
    let altered : List Checkpoint := [⟨0, beacon⟩, ⟨1, other⟩, ⟨2, other⟩, chain.checkpointAt 3]
    slice <:+: chain.derivation.checkpoints ∧
    altered.map Checkpoint.index = slice.map Checkpoint.index ∧
    ∃ found, verify altered chain.exponent (some chain.derivation.final.bytes) = .ok found ∧
      (∀ mismatch ∈ found, ∃ position original, AlteredAt slice altered position original ∧
        (mismatch.start = original.index ∨ mismatch.stop = original.index)) ∧
      ⟨0, 1, other.bytes, beacon.successor.bytes⟩ ∈ found ∧
      found.Pairwise fun left right => left.start < right.start := by
  intro beacon other chain slice altered
  have contiguous : slice <:+: chain.derivation.checkpoints := (List.take_prefix 4 _).isInfix
  have slice_eq : slice = [⟨0, beacon⟩, ⟨1, beacon.successor⟩, chain.checkpointAt 2,
      chain.checkpointAt 3] := by
    simp only [slice, derivation_eq_definition, definition, ← List.map_take, List.take_range]
    rfl
  have same_indices : altered.map Checkpoint.index = slice.map Checkpoint.index := by
    rw [slice_eq]
    rfl
  have different : other ≠ beacon.successor := by decide +kernel
  obtain ⟨found, verified, localised, told, ordered⟩ := tampering_localised chain slice altered
    (some chain.derivation.final) contiguous same_indices
    fun final same => (Option.some.inj same).symm
  have first_told := told 0 ⟨0, beacon⟩ ⟨1, beacon.successor⟩ ⟨1, other⟩ (by rw [slice_eq]; rfl) rfl
    ⟨by rw [slice_eq]; rfl, by simpa [altered] using different⟩ rfl
  exact ⟨contiguous, same_indices, found, verified, localised, first_told, ordered⟩

end Chain
end BeaconCeremony

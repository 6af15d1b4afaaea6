import BeaconCeremony.Chain.Walk
import BeaconCeremony.Proofs.Bytes.Hex
import BeaconCeremony.Proofs.Chain.Advance
import Mathlib.Logic.Function.Iterate

/-!
# What a run of a chain finds

A run carries its state from one checkpoint to the next and meets the final state last.  It shows
and returns the checkpoints that the definition of the chain asks for, for every exponent, and it
never ends without a final state.
-/

namespace BeaconCeremony

/-- All states of a run with their indices: the checkpoints, and the final state at the end. -/
def Derivation.states (derivation : Derivation) : List Checkpoint :=
  derivation.checkpoints ++ [⟨derivation.steps, derivation.final⟩]

namespace Chain

/-- The state after some steps. -/
def stateAfter (chain : Chain) (steps : Nat) : Digest 32 :=
  Digest.successor^[steps] chain.beacon

/-- The checkpoint with the given number, counted from zero. -/
def checkpointAt (chain : Chain) (number : Nat) : Checkpoint where
  index := number * chain.exponent.interval
  digest := chain.stateAfter (number * chain.exponent.interval)

/-- The derivation that the definition of the chain asks for.  It has 1024 checkpoints, so it is not
unfolded unless one asks for that. -/
@[irreducible]
def definition (chain : Chain) : Derivation where
  beacon := chain.beacon
  iterations := chain.exponent.value
  final := chain.stateAfter chain.exponent.steps
  checkpoints := (List.range checkpointCount).map chain.checkpointAt

theorem final_definition (chain : Chain) :
    chain.definition.final = chain.stateAfter chain.exponent.steps := by
  rw [definition]

theorem steps_definition (chain : Chain) : chain.definition.steps = chain.exponent.steps := by
  rw [definition]
  rfl

theorem trail_eq (chain : Chain) (count passed : Nat) :
    trail chain.exponent.interval count passed
        (chain.stateAfter (passed * chain.exponent.interval)) =
      ((List.range' passed count).map chain.checkpointAt,
        chain.stateAfter ((passed + count) * chain.exponent.interval)) := by
  induction count generalizing passed with
  | zero => rfl
  | succ count ih =>
      have advanced : (chain.stateAfter (passed * chain.exponent.interval)).advance
          chain.exponent.interval = chain.stateAfter ((passed + 1) * chain.exponent.interval) := by
        rw [Digest.advance_eq_iterate, stateAfter, ← Function.iterate_add_apply, stateAfter,
          Nat.succ_mul, Nat.add_comm]
      rw [trail, advanced, ih, List.range'_succ, List.map_cons, Nat.add_right_comm,
        Nat.add_assoc passed]
      rfl

theorem derivation_eq_definition (chain : Chain) : chain.derivation = chain.definition := by
  have trailed := chain.trail_eq checkpointCount 0
  simp only [Nat.zero_mul, Nat.zero_add, ← Exponent.steps_eq_mul_interval] at trailed
  rw [derivation, show chain.beacon = chain.stateAfter 0 from rfl, trailed]
  simp only [definition, List.range_eq_range']
  rfl

section Runs

variable {m : Type → Type} [Monad m]

theorem follow_of_checkpoint {survey : Survey} {walk rest : Walk} {checkpoint : Checkpoint}
    (visit : Checkpoint → m Unit) (arrival : next survey.chain walk = .checkpoint checkpoint rest) :
    survey.follow visit walk = do
      visit checkpoint
      let (more, survey) ← survey.follow visit rest
      return (checkpoint :: more, survey) := by
  rw [Survey.follow]
  split <;> simp_all

theorem follow_of_final {survey : Survey} {walk : Walk} {final : Digest 32}
    (visit : Checkpoint → m Unit) (arrival : next survey.chain walk = .final final) :
    survey.follow visit walk = pure ([], { survey with final? := some final }) := by
  rw [Survey.follow]
  split <;> simp_all

variable [LawfulMonad m]

/-- What is left of a walk is the rest of the trail, and then the final state. -/
theorem follow_underway (survey : Survey) (visit : Checkpoint → m Unit) (passed count : Nat)
    (state : Digest 32) (left : passed + count = checkpointCount) :
    survey.follow visit (.underway passed state) = do
      let (checkpoints, final) := trail survey.chain.exponent.interval count passed
        (state.advance survey.chain.exponent.interval)
      checkpoints.forM visit
      return (checkpoints, { survey with final? := some final }) := by
  induction count generalizing passed state with
  | zero =>
      have ended : ¬passed < checkpointCount := by omega
      have arrival : next survey.chain (.underway passed state) =
          .final (state.advance survey.chain.exponent.interval) := if_neg ended
      rw [follow_of_final visit arrival]
      simp [trail]
  | succ count ih =>
      have going : passed < checkpointCount := by omega
      have arrival : next survey.chain (.underway passed state) =
          .checkpoint
            ⟨passed * survey.chain.exponent.interval,
              state.advance survey.chain.exponent.interval⟩
            (.underway (passed + 1) (state.advance survey.chain.exponent.interval)) :=
        if_pos going
      rw [follow_of_checkpoint visit arrival, ih (passed + 1) _ (by omega)]
      simp [trail]

/-- A run shows the checkpoints of the chain in their order and nothing else, and returns the
derivation of the chain.  Afterwards the final state is known. -/
theorem complete_eq (survey : Survey) (visit : Checkpoint → m Unit) :
    survey.complete visit = do
      survey.chain.definition.checkpoints.forM visit
      return (.ok survey.chain.definition,
        { survey with final? := some survey.chain.definition.final }) := by
  have arrival : next survey.chain .fresh =
      .checkpoint ⟨0, survey.chain.beacon⟩ (.underway 1 survey.chain.beacon) := rfl
  have walked : survey.follow visit .fresh = do
      survey.chain.derivation.checkpoints.forM visit
      return (survey.chain.derivation.checkpoints,
        { survey with final? := some survey.chain.derivation.final }) := by
    obtain ⟨count, count_eq⟩ : ∃ count, checkpointCount = count + 1 := ⟨1023, rfl⟩
    rw [follow_of_checkpoint visit arrival, follow_underway survey visit 1 count _ (by omega),
      derivation, count_eq, trail]
    simp
  rw [Survey.complete, walked, derivation_eq_definition]
  simp [definition]

theorem run_eq (chain : Chain) (visit : Checkpoint → m Unit) :
    chain.run visit = do
      chain.definition.checkpoints.forM visit
      return .ok chain.definition := by
  simp [run, complete_eq]

end Runs

theorem ofInt?_eq_some_iff {number : Int} {exponent : Exponent} :
    Exponent.ofInt? number = some exponent ↔ number = exponent.value := by
  have least_pos : 0 < leastExponent := by decide
  have least := exponent.least_le
  have greatest := exponent.le_greatest
  rw [Exponent.ofInt?]
  constructor
  · intro accepted
    split at accepted
    · split at accepted
      · have value_eq := congrArg Exponent.value (Option.some.inj accepted)
        dsimp only at value_eq
        omega
      · contradiction
    · contradiction
  · rintro rfl
    simp [least, greatest]

theorem ofInt?_value (exponent : Exponent) :
    Exponent.ofInt? exponent.value = some exponent :=
  ofInt?_eq_some_iff.mpr rfl

theorem ofDatum_int_eq_ok_iff {number : Int} {exponent : Exponent} :
    Exponent.ofDatum (.int number) = .ok exponent ↔ number = exponent.value := by
  rw [← ofInt?_eq_some_iff, Exponent.ofDatum]
  cases Exponent.ofInt? number with
  | none => simp only [reduceCtorEq]
  | some given => simp only [Except.ok.injEq, Option.some.injEq]

/-- A whole number is an exponent exactly if it is in range. -/
theorem exists_ofDatum_iff {number : Int} :
    (∃ exponent, Exponent.ofDatum (.int number) = .ok exponent) ↔ 10 ≤ number ∧ number ≤ 63 := by
  have least_eq : leastExponent = 10 := rfl
  have greatest_eq : greatestExponent = 63 := rfl
  simp only [ofDatum_int_eq_ok_iff]
  constructor
  · rintro ⟨exponent, rfl⟩
    have least := exponent.least_le
    have greatest := exponent.le_greatest
    omega
  · rintro ⟨least, greatest⟩
    exact ⟨⟨number.toNat, by omega, by omega⟩, (Int.toNat_of_nonneg (by omega)).symm⟩

theorem parseBeacon_of_spells {characters : List Char} {beacon : Digest 32} (depth : Nat)
    (spells : Hex.Spells characters beacon.bytes) :
    parseBeacon depth (.text (String.ofList characters)) = .ok beacon := by
  simp [parseBeacon, spells.decode_eq]

theorem ofHex_of_spells {characters : List Char} (depth : Nat) (chain : Chain)
    (spells : Hex.Spells characters chain.beacon.bytes) :
    ofHex depth (.text (String.ofList characters)) (.int chain.exponent.value) = .ok chain := by
  simp only [ofHex, Exponent.ofDatum, ofInt?_value, parseBeacon_of_spells depth spells]
  rfl

/-- The state of a run at an index does not depend on the exponent. -/
theorem digest_of_mem_states {chain : Chain} {state : Checkpoint}
    (member : state ∈ chain.definition.states) : state.digest = chain.stateAfter state.index := by
  simp only [Derivation.states, definition, List.mem_append, List.mem_map,
    List.mem_singleton] at member
  rcases member with ⟨number, -, rfl⟩ | rfl
  · rfl
  · rfl

/-- A run computes the definition of its chain.  It shows the checkpoints with the numbers below
1024, in this order, and returns them with the final state; the chain can be given by any spelling
of its beacon value.  States of two chains with the same beacon value agree wherever both have
one. -/
theorem complete_computes_definition {m : Type → Type} [Monad m] [LawfulMonad m]
    (survey : Survey) (visit : Checkpoint → m Unit) :
    survey.complete visit = (do
      survey.chain.definition.checkpoints.forM visit
      return (.ok survey.chain.definition,
        { survey with final? := some survey.chain.definition.final })) ∧
    (∀ (depth : Nat) (characters : List Char), Hex.Spells characters survey.chain.beacon.bytes →
      derive depth (.text (String.ofList characters)) (.int survey.chain.exponent.value) visit = do
        survey.chain.definition.checkpoints.forM visit
        return .ok survey.chain.definition) ∧
    ∀ other : Chain, other.beacon = survey.chain.beacon →
      ∀ left ∈ survey.chain.definition.states, ∀ right ∈ other.definition.states,
        left.index = right.index → left = right := by
  refine ⟨complete_eq survey visit, ?_, ?_⟩
  · intro depth characters spells
    rw [derive, ofHex_of_spells depth survey.chain spells]
    simp only [run_eq]
  · intro other beacon_eq left left_mem right right_mem index_eq
    have digest_eq : left.digest = right.digest := by
      rw [digest_of_mem_states left_mem, digest_of_mem_states right_mem, index_eq, stateAfter,
        stateAfter, beacon_eq]
    cases left
    cases right
    simp_all

/-- The shortest chain of a beacon value in mixed letter case, with a callback that keeps what it is
shown, beside the chain that is twice as long. -/
theorem complete_computes_definition_mixedCase :
    let beacon : Digest 32 := ⟨List.replicate 32 0xab, rfl⟩
    let survey : Survey := ⟨⟨beacon, ⟨10, by decide, by decide⟩⟩, none⟩
    let longer : Chain := ⟨beacon, ⟨11, by decide, by decide⟩⟩
    let characters := (List.replicate 32 ['a', 'B']).flatten
    let keep : Checkpoint → StateM (List Checkpoint) Unit :=
      fun checkpoint => modify (· ++ [checkpoint])
    LawfulMonad (StateM (List Checkpoint)) ∧ Hex.Spells characters beacon.bytes ∧
    (survey.complete keep = do
      survey.chain.definition.checkpoints.forM keep
      return (.ok survey.chain.definition,
        { survey with final? := some survey.chain.definition.final })) ∧
    (derive Datum.usualDepth (.text (String.ofList characters)) (.int 10) keep = do
      survey.chain.definition.checkpoints.forM keep
      return .ok survey.chain.definition) ∧
    ∀ left ∈ survey.chain.definition.states, ∀ right ∈ longer.definition.states,
      left.index = right.index → left = right := by
  intro beacon survey longer characters keep
  have spelled (count : Nat) :
      Hex.Spells (List.replicate count ['a', 'B']).flatten (List.replicate count 0xab) := by
    induction count with
    | zero => exact .nil
    | succ count ih =>
        have high : Hex.digit? 'a' = some 10 := by decide
        have low : Hex.digit? 'B' = some 11 := by decide
        exact .cons high low (by decide) ih
  obtain ⟨completed, derived, agree⟩ := complete_computes_definition survey keep
  exact ⟨inferInstance, spelled 32, completed, derived _ characters (spelled 32),
    agree longer rfl⟩

end Chain
end BeaconCeremony

import BeaconCeremony.Chain.Basic

/-!
# Walking along a chain

A walk passes the checkpoints of a chain one at a time and hashes only as far as the next one.
Walks along the same chain do not disturb each other; what they share is the final state, which is
known from the moment the first of them has been walked to its end.
-/

namespace BeaconCeremony
namespace Chain

/-- How far a walk has come. -/
inductive Walk
  /-- No checkpoint has been passed. -/
  | fresh
  /-- `passed` checkpoints have been passed, the last of them with the given state. -/
  | underway (passed : Nat) (state : Digest 32)
  /-- The walk has reached the end of the chain. -/
  | finished
deriving DecidableEq

/-- The next thing on a walk. -/
inductive Arrival
  /-- A checkpoint, and the walk after it. -/
  | checkpoint (checkpoint : Checkpoint) (walk : Walk)
  /-- The end of the chain with the final state, reached by this very step. -/
  | final (state : Digest 32)
  /-- Nothing: the walk was over before. -/
  | nothing
deriving DecidableEq

/-- The next thing on a walk along a chain. -/
def next (chain : Chain) : Walk → Arrival
  | .fresh => .checkpoint ⟨0, chain.beacon⟩ (.underway 1 chain.beacon)
  | .underway passed state =>
    let reached := state.advance chain.exponent.interval
    if passed < checkpointCount then
      .checkpoint ⟨passed * chain.exponent.interval, reached⟩ (.underway (passed + 1) reached)
    else .final reached
  | .finished => .nothing

/-- A chain together with what its walks have found out. -/
structure Survey where
  /-- The chain. -/
  chain : Chain
  /-- The final state, once a walk has reached it. -/
  final? : Option (Digest 32) := none
deriving DecidableEq

/-- Passes up to `count` checkpoints; stops when the walk is over. -/
def Survey.pull (survey : Survey) (walk : Walk) : Nat → List Checkpoint × Walk × Survey
  | 0 => ([], walk, survey)
  | count + 1 =>
    match next survey.chain walk with
    | .checkpoint checkpoint walk =>
      let (more, walk, survey) := survey.pull walk count
      (checkpoint :: more, walk, survey)
    | .final state => ([], .finished, { survey with final? := some state })
    | .nothing => ([], walk, survey)

/-- An upper bound for the number of things still to come on a walk. -/
def Walk.remaining : Walk → Nat
  | .fresh => checkpointCount + 2
  | .underway passed _ => checkpointCount + 1 - passed
  | .finished => 0

theorem Walk.remaining_lt_of_next {chain : Chain} {before after : Walk} {checkpoint : Checkpoint}
    (passes : next chain before = .checkpoint checkpoint after) :
    after.remaining < before.remaining := by
  cases before with
  | fresh =>
      obtain ⟨-, rfl⟩ := Arrival.checkpoint.inj passes
      simp only [remaining]
      omega
  | underway passed state =>
      simp only [next] at passes
      split at passes
      · obtain ⟨-, rfl⟩ := Arrival.checkpoint.inj passes
        simp only [remaining]
        omega
      · contradiction
  | finished => contradiction

/-- Follows a walk to its end and shows each checkpoint to `visit` as soon as it is reached. -/
def Survey.follow {m : Type → Type} [Monad m] (survey : Survey) (visit : Checkpoint → m Unit)
    (walk : Walk) : m (List Checkpoint × Survey) :=
  match _ : next survey.chain walk with
  | .checkpoint checkpoint walk => do
    visit checkpoint
    let (more, survey) ← survey.follow visit walk
    return (checkpoint :: more, survey)
  | .final state => pure ([], { survey with final? := some state })
  | .nothing => pure ([], survey)
termination_by walk.remaining
decreasing_by exact Walk.remaining_lt_of_next ‹_›

/-- What is told of a walk that is over before it comes to the final state. -/
def stoppedMessage : String := "beacon chain stopped before its final state"

/-- Follows a new walk to its end and makes out what it has found.  The final state must be known
by then. -/
def Survey.complete {m : Type → Type} [Monad m] (survey : Survey) (visit : Checkpoint → m Unit) :
    m (Except Failure Derivation × Survey) := do
  let (checkpoints, survey) ← survey.follow visit .fresh
  match survey.final? with
  | some final =>
    return (.ok ⟨survey.chain.beacon, survey.chain.exponent.value, final, checkpoints⟩, survey)
  | none => return (.error (.breakdown stoppedMessage), survey)

/-- Runs the whole chain and shows each checkpoint to `visit` as soon as it is reached. -/
def run {m : Type → Type} [Monad m] (chain : Chain) (visit : Checkpoint → m Unit) :
    m (Except Failure Derivation) :=
  return (← (Survey.mk chain none).complete visit).1

/-- The run of the chain of a beacon value in hexadecimal notation. -/
def derive {m : Type → Type} [Monad m] (depth : Nat) (beacon exponent : Datum)
    (visit : Checkpoint → m Unit) : m (Except Failure Derivation) :=
  match ofHex depth beacon exponent with
  | .error failure => pure (.error failure)
  | .ok chain => chain.run visit

/-- `count` checkpoints, the first of them the `passed`-th one in the given state, and the state
that follows the last of them. -/
def trail (interval : Nat) : Nat → Nat → Digest 32 → List Checkpoint × Digest 32
  | 0, _, state => ([], state)
  | count + 1, passed, state =>
    let (more, final) := trail interval count (passed + 1) (state.advance interval)
    (⟨passed * interval, state⟩ :: more, final)

/-- What a run of the chain finds, without a walk. -/
def derivation (chain : Chain) : Derivation :=
  let (checkpoints, final) := trail chain.exponent.interval checkpointCount 0 chain.beacon
  ⟨chain.beacon, chain.exponent.value, final, checkpoints⟩

/-- Runs the whole chain, after which the final state is known. -/
def Survey.run (survey : Survey) : Derivation × Survey :=
  let derivation := survey.chain.derivation
  (derivation, { survey with final? := some derivation.final })

end Chain
end BeaconCeremony

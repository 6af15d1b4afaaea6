import BeaconCeremony.Chain.Basic
import BeaconCeremony.Proofs.Hash.Sha256
import Mathlib.Logic.Function.Iterate

/-!
# Iterated hashing along a chain

Advancing a state by some steps is iterating a single hash, which can be done with numbers, and the
steps of a whole chain are those of its equal segments together.
-/

namespace BeaconCeremony
namespace Digest

/-- The state that follows a state. -/
def successor (state : Digest 32) : Digest 32 := sha256 state.bytes

theorem advance_succ (state : Digest 32) (steps : Nat) :
    state.advance (steps + 1) = state.successor.advance steps := rfl

theorem advance_eq_iterate (state : Digest 32) (steps : Nat) :
    state.advance steps = successor^[steps] state := by
  induction steps generalizing state with
  | zero => rfl
  | succ steps ih =>
      rw [advance_succ, ih, Function.iterate_succ_apply]

open Sha256 in
/-- A state further along the chain, computed with numbers. -/
theorem iterate_successor_toDigest {start stop : State} {steps : Nat}
    (computed : Numbers.next^[steps] start.numbers = stop.numbers) :
    successor^[steps] start.toDigest = stop.toDigest := by
  have hashed : Function.Semiconj State.toDigest State.next successor := fun state =>
    (sha256_toDigest state).symm
  have counted : Function.Semiconj State.numbers State.next Numbers.next := numbers_next
  have reached : State.next^[steps] start = stop :=
    numbers_injective ((counted.iterate_right steps start).trans computed)
  rw [← hashed.iterate_right steps start, reached]

end Digest

namespace Chain

theorem Exponent.steps_eq_mul_interval (exponent : Exponent) :
    exponent.steps = checkpointCount * exponent.interval := by
  have least : 10 ≤ exponent.value := exponent.least_le
  calc
    exponent.steps = Nat.pow 2 (10 + (exponent.value - 10)) := by
      rw [Nat.add_sub_cancel' least]
      rfl
    _ = checkpointCount * exponent.interval := Nat.pow_add 2 10 (exponent.value - 10)

end Chain
end BeaconCeremony

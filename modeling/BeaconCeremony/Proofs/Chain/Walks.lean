import BeaconCeremony.Proofs.Chain.States

/-!
# Walks do not disturb each other

Any number of walks along one chain can be under way at a time.  However their steps are
interleaved, also with whole runs, each walk passes the checkpoints of the chain from the first one
on and none of them twice.  What the walks share is the final state: it becomes known when the first
walk is found to be over or the first run is complete, and then it stays.
-/

namespace BeaconCeremony
namespace Chain

/-! ## One walk -/

/-- A walk of which some number of checkpoints has been asked, one after the other. -/
def walkAfter (chain : Chain) : Nat → Walk
  | 0 => .fresh
  | passed + 1 =>
    if passed < checkpointCount then
      .underway (passed + 1) (chain.checkpointAt passed).digest
    else .finished

section Next

variable (chain : Chain) {passed : Nat}

theorem walkAfter_succ (passed_lt : passed < checkpointCount) :
    chain.walkAfter (passed + 1) = .underway (passed + 1) (chain.checkpointAt passed).digest :=
  if_pos passed_lt

theorem walkAfter_of_gt (passed_gt : checkpointCount < passed) :
    chain.walkAfter passed = .finished := by
  cases passed with
  | zero => contradiction
  | succ passed => exact if_neg (Nat.not_lt.mpr (Nat.le_of_lt_succ passed_gt))

theorem advance_checkpointAt (number : Nat) :
    (chain.checkpointAt number).digest.advance chain.exponent.interval =
      (chain.checkpointAt (number + 1)).digest := by
  rw [Digest.advance_eq_iterate, checkpointAt, checkpointAt, stateAfter, stateAfter,
    ← Function.iterate_add_apply, Nat.succ_mul, Nat.add_comm]

theorem digest_checkpointAt_count :
    (chain.checkpointAt checkpointCount).digest = chain.definition.final := by
  rw [checkpointAt, ← Exponent.steps_eq_mul_interval, final_definition]

theorem next_of_lt (passed_lt : passed < checkpointCount) :
    next chain (chain.walkAfter passed) =
      .checkpoint (chain.checkpointAt passed) (chain.walkAfter (passed + 1)) := by
  rw [chain.walkAfter_succ passed_lt]
  cases passed with
  | zero => simp [next, walkAfter, checkpointAt, stateAfter]
  | succ passed =>
      rw [chain.walkAfter_succ (Nat.lt_of_succ_lt passed_lt), next, if_pos passed_lt,
        advance_checkpointAt]
      rfl

theorem next_of_eq :
    next chain (chain.walkAfter checkpointCount) = .final chain.definition.final := by
  obtain ⟨last, count_eq⟩ : ∃ last, checkpointCount = last + 1 := ⟨1023, rfl⟩
  rw [← digest_checkpointAt_count, count_eq, chain.walkAfter_succ (by omega), next,
    if_neg (by omega), advance_checkpointAt]

theorem drop_checkpoints_of_lt (passed_lt : passed < checkpointCount) :
    chain.definition.checkpoints.drop passed =
      chain.checkpointAt passed :: chain.definition.checkpoints.drop (passed + 1) := by
  rw [← chain.length_checkpoints] at passed_lt
  rw [List.drop_eq_getElem_cons passed_lt]
  simp only [definition, List.getElem_map, List.getElem_range]

theorem drop_checkpoints_of_le (passed_ge : checkpointCount ≤ passed) :
    chain.definition.checkpoints.drop passed = [] := by
  rwa [List.drop_eq_nil_iff, length_checkpoints]

end Next

/-- What comes of asking for `count` more checkpoints after `passed` ones: the next checkpoints of
the chain.  Only if this takes the walk past the last checkpoint the final state becomes known. -/
theorem pull_walkAfter (survey : Survey) (passed count : Nat) :
    survey.pull (survey.chain.walkAfter passed) count =
      ((survey.chain.definition.checkpoints.drop passed).take count,
        survey.chain.walkAfter (passed + count),
        if passed ≤ checkpointCount ∧ checkpointCount < passed + count then
          { survey with final? := some survey.chain.definition.final }
        else survey) := by
  induction count generalizing passed with
  | zero =>
      have still : ¬(passed ≤ checkpointCount ∧ checkpointCount < passed + 0) := by omega
      rw [if_neg still, List.take_zero]
      rfl
  | succ count ih =>
      rcases Nat.lt_trichotomy passed checkpointCount with passed_lt | rfl | passed_gt
      · have same_end : passed + 1 + count = passed + (count + 1) := by omega
        have same_arrival :
            (passed + 1 ≤ checkpointCount ∧ checkpointCount < passed + (count + 1)) ↔
              (passed ≤ checkpointCount ∧ checkpointCount < passed + (count + 1)) := by omega
        rw [Survey.pull, next_of_lt _ passed_lt]
        dsimp only
        rw [ih (passed + 1), drop_checkpoints_of_lt _ passed_lt, List.take_succ_cons, same_end]
        simp only [same_arrival]
      · have past : checkpointCount < checkpointCount + (count + 1) := by omega
        rw [Survey.pull, next_of_eq, drop_checkpoints_of_le _ (Nat.le_refl _), List.take_nil,
          walkAfter_of_gt _ past, if_pos ⟨Nat.le_refl _, past⟩]
      · have still : ¬(passed ≤ checkpointCount ∧ checkpointCount < passed + (count + 1)) := by
          omega
        have past : checkpointCount < passed + (count + 1) := by omega
        rw [walkAfter_of_gt _ passed_gt, Survey.pull, drop_checkpoints_of_le _ passed_gt.le,
          List.take_nil, walkAfter_of_gt _ past, if_neg still, next]

/-! ## Walks beside each other -/

/-- A chain that is surveyed, and the walks along it in the order in which they have begun. -/
structure Expedition where
  /-- The chain, and what its walks and runs have found out. -/
  survey : Survey
  /-- How far each walk has come. -/
  walks : List Walk := []

namespace Expedition

/-- What happens along a chain. -/
inductive Event
  /-- A walk begins. -/
  | begun
  /-- A walk is asked for so many checkpoints, and these have come. -/
  | pulled (number count : Nat) (checkpoints : List Checkpoint)
  /-- The whole chain is run, with this outcome. -/
  | derived (outcome : Except Failure Derivation)

namespace Event

/-- The checkpoints that come from the walk with the given number. -/
def received (number : Nat) : Event → List Checkpoint
  | .pulled other _ checkpoints => if other = number then checkpoints else []
  | _ => []

/-- How many checkpoints the walk with the given number is asked for. -/
def requested (number : Nat) : Event → Nat
  | .pulled other count _ => if other = number then count else 0
  | _ => 0

/-- Whether a walk is found to be over, which is when fewer checkpoints come than have been asked
for, or a run is complete. -/
def reachesEnd : Event → Bool
  | .begun => false
  | .pulled _ count checkpoints => checkpoints.length < count
  | .derived outcome => outcome.isOk

end Event

/-- All checkpoints that have come from a walk, in their order. -/
def received (events : List Event) (number : Nat) : List Checkpoint :=
  events.flatMap (Event.received number)

/-- How many checkpoints a walk has been asked for in total. -/
def requested : List Event → Nat → Nat
  | [], _ => 0
  | event :: rest, number => event.requested number + requested rest number

/-- What one thing that happens changes. -/
inductive Step : Expedition → Event → Expedition → Prop
  | begin (before : Expedition) :
      Step before .begun { before with walks := before.walks ++ [.fresh] }
  | pull {before : Expedition} {number : Nat} {walk rest : Walk} {checkpoints : List Checkpoint}
      {survey : Survey} (walk_eq : before.walks[number]? = some walk) (count : Nat)
      (pulled : before.survey.pull walk count = (checkpoints, rest, survey)) :
      Step before (.pulled number count checkpoints) ⟨survey, before.walks.set number rest⟩
  | run {before : Expedition} {outcome : Except Failure Derivation} {survey : Survey}
      (completed : before.survey.complete (m := Id) (fun _ => pure ()) = (outcome, survey)) :
      Step before (.derived outcome) { before with survey }

/-- What can have happened along a chain, and what it leads to. -/
inductive Reaches (chain : Chain) : List Event → Expedition → Prop
  | start : Reaches chain [] { survey := { chain } }
  | step {events : List Event} {before after : Expedition} {event : Event}
      (reached : Reaches chain events before) (step : Step before event after) :
      Reaches chain (events ++ [event]) after

section Histories

variable (events : List Event) (event : Event) (number : Nat)

theorem received_concat :
    received (events ++ [event]) number = received events number ++ event.received number := by
  simp [received]

theorem requested_concat :
    requested (events ++ [event]) number = requested events number + event.requested number := by
  induction events with
  | nil => simp [requested]
  | cons first rest ih => simp only [List.cons_append, requested, ih, Nat.add_assoc]

end Histories

/-- The invariant of walks along a chain. -/
structure Undisturbed (chain : Chain) (events : List Event) (expedition : Expedition) : Prop where
  /-- The chain stays the same. -/
  chain_eq : expedition.survey.chain = chain
  /-- A walk is as far as has been asked of it. -/
  walk_eq : ∀ number walk, expedition.walks[number]? = some walk →
    walk = chain.walkAfter (requested events number)
  /-- Nothing has been asked of a walk before it began. -/
  requested_eq : ∀ number, expedition.walks.length ≤ number → requested events number = 0
  /-- The first checkpoints of the chain have come from each walk. -/
  received_eq : ∀ number, received events number =
    chain.definition.checkpoints.take (requested events number)
  /-- Every run has the same outcome. -/
  outcome_eq : ∀ outcome, .derived outcome ∈ events → outcome = .ok chain.definition
  /-- A walk that has been asked for more than there is has been found to be over. -/
  overrun : ∀ number, checkpointCount < requested events number →
    events.any Event.reachesEnd = true
  /-- The final state is known once a walk has been found to be over or a run was complete. -/
  final_eq : expedition.survey.final? =
    if events.any Event.reachesEnd then some chain.definition.final else none

/-- A walk is found to be over if something is asked for after its last checkpoint. -/
theorem reachesEnd_pulled_iff {chain : Chain} {number passed count : Nat}
    {checkpoints : List Checkpoint}
    (checkpoints_eq : (chain.definition.checkpoints.drop passed).take count = checkpoints) :
    (Event.pulled number count checkpoints).reachesEnd = true ↔
      checkpointCount < passed + count ∧ 0 < count := by
  subst checkpoints_eq
  simp only [Event.reachesEnd, decide_eq_true_eq, List.length_take, List.length_drop,
    length_checkpoints]
  omega

namespace Undisturbed

variable {chain : Chain} {events : List Event} {before : Expedition}
  (undisturbed : Undisturbed chain events before)

include undisturbed

theorem begin : Undisturbed chain (events ++ [.begun])
    { before with walks := before.walks ++ [.fresh] } where
  chain_eq := undisturbed.chain_eq
  walk_eq number walk found := by
    rw [requested_concat]
    rw [List.getElem?_append] at found
    split at found
    · exact undisturbed.walk_eq number walk found
    · rename_i beyond
      have unasked := undisturbed.requested_eq number (Nat.not_lt.mp beyond)
      obtain rfl := List.mem_singleton.mp (List.mem_of_getElem? found)
      rw [unasked]
      rfl
  requested_eq number beyond := by
    rw [requested_concat, undisturbed.requested_eq number (by simp at beyond; omega)]
    rfl
  received_eq number := by
    rw [received_concat, requested_concat, undisturbed.received_eq number]
    exact List.append_nil _
  outcome_eq outcome member := undisturbed.outcome_eq outcome (by simpa using member)
  overrun number far := by
    rw [List.any_append, undisturbed.overrun number (by rwa [requested_concat] at far)]
    rfl
  final_eq := by
    simpa [Event.reachesEnd] using undisturbed.final_eq

theorem overrun_pulled {number count : Nat} {checkpoints : List Checkpoint}
    (checkpoints_eq : (chain.definition.checkpoints.drop (requested events number)).take count =
      checkpoints) (other : Nat)
    (far : checkpointCount < requested (events ++ [.pulled number count checkpoints]) other) :
    (events ++ [Event.pulled number count checkpoints]).any Event.reachesEnd = true := by
  rw [List.any_append, Bool.or_eq_true]
  by_cases already : checkpointCount < requested events other
  · exact .inl (undisturbed.overrun other already)
  · rw [requested_concat, Event.requested] at far
    split at far
    · rename_i same
      subst same
      have reached : (Event.pulled number count checkpoints).reachesEnd = true :=
        (reachesEnd_pulled_iff checkpoints_eq).mpr ⟨far, by omega⟩
      exact .inr (List.any_eq_true.mpr ⟨_, List.mem_singleton_self _, reached⟩)
    · exact absurd far already

/-- The final state becomes known when a walk is found to be over for the first time. -/
theorem final_pulled {number count : Nat} {checkpoints : List Checkpoint}
    (checkpoints_eq : (chain.definition.checkpoints.drop (requested events number)).take count =
      checkpoints) :
    (if requested events number ≤ checkpointCount ∧
        checkpointCount < requested events number + count then some chain.definition.final
      else before.survey.final?) =
      if (events ++ [Event.pulled number count checkpoints]).any Event.reachesEnd then
        some chain.definition.final
      else none := by
  rw [undisturbed.final_eq]
  by_cases far : checkpointCount < requested events number + count
  · have reached := undisturbed.overrun_pulled checkpoints_eq number
      (by rwa [requested_concat, Event.requested, if_pos rfl])
    rw [reached, if_pos rfl]
    split
    · rfl
    · -- The walk was over before, so the final state was known.
      rw [if_pos (undisturbed.overrun number (by omega))]
  · have unreached : (Event.pulled number count checkpoints).reachesEnd = false :=
      Bool.eq_false_iff.mpr fun reached =>
        far ((reachesEnd_pulled_iff checkpoints_eq).mp reached).1
    rw [if_neg fun both => far both.2, List.any_append, List.any_cons, unreached, List.any_nil,
      Bool.or_false, Bool.or_false]

theorem pull {number count : Nat} {walk rest : Walk} {checkpoints : List Checkpoint}
    {survey : Survey} (walk_eq : before.walks[number]? = some walk)
    (pulled : before.survey.pull walk count = (checkpoints, rest, survey)) :
    Undisturbed chain (events ++ [.pulled number count checkpoints])
      ⟨survey, before.walks.set number rest⟩ := by
  obtain rfl := undisturbed.walk_eq number walk walk_eq
  obtain rfl := undisturbed.chain_eq
  obtain ⟨number_lt, -⟩ := List.getElem?_eq_some_iff.mp walk_eq
  simp only [pull_walkAfter, Prod.mk.injEq] at pulled
  obtain ⟨checkpoints_eq, rfl, rfl⟩ := pulled
  refine ⟨?chain_eq, ?walk_eq, ?requested_eq, ?received_eq, ?outcome_eq,
    undisturbed.overrun_pulled checkpoints_eq, ?final_eq⟩
  case chain_eq =>
    split <;> rfl
  case walk_eq =>
    intro other walk found
    rw [requested_concat, Event.requested]
    by_cases same : number = other
    · subst same
      rw [List.getElem?_set_self number_lt] at found
      rw [if_pos rfl, Option.some.inj found]
    · rw [List.getElem?_set_ne same] at found
      rw [if_neg same]
      exact undisturbed.walk_eq other walk found
  case requested_eq =>
    intro other beyond
    rw [List.length_set] at beyond
    rw [requested_concat, undisturbed.requested_eq other beyond, Event.requested, if_neg (by omega)]
  case received_eq =>
    intro other
    rw [received_concat, requested_concat, undisturbed.received_eq other, Event.received,
      Event.requested]
    split
    · rename_i same
      rw [← same, List.take_add, checkpoints_eq]
    · rw [List.append_nil, Nat.add_zero]
  case outcome_eq =>
    intro outcome member
    exact undisturbed.outcome_eq outcome (by simpa using member)
  case final_eq =>
    rw [← undisturbed.final_pulled checkpoints_eq]
    exact apply_ite Survey.final? _ _ _

theorem run {outcome : Except Failure Derivation} {survey : Survey}
    (completed : before.survey.complete (m := Id) (fun _ => pure ()) = (outcome, survey)) :
    Undisturbed chain (events ++ [.derived outcome]) { before with survey } := by
  obtain rfl := undisturbed.chain_eq
  rw [complete_eq] at completed
  obtain ⟨rfl, rfl⟩ := Prod.mk.inj completed
  have reached : (Event.derived (.ok before.survey.chain.definition)).reachesEnd = true := rfl
  have ended : (events ++ [Event.derived (.ok before.survey.chain.definition)]).any
      Event.reachesEnd = true :=
    List.any_eq_true.mpr ⟨_, List.mem_append_right _ (List.mem_singleton_self _), reached⟩
  refine ⟨rfl, ?walk_eq, ?requested_eq, ?received_eq, ?outcome_eq, fun _ _ => ended, ?final_eq⟩
  case walk_eq =>
    intro number walk found
    rw [requested_concat]
    exact undisturbed.walk_eq number walk found
  case requested_eq =>
    intro number beyond
    rw [requested_concat]
    exact undisturbed.requested_eq number beyond
  case received_eq =>
    intro number
    rw [received_concat, requested_concat, undisturbed.received_eq number]
    exact List.append_nil _
  case outcome_eq =>
    intro outcome member
    rcases List.mem_append.mp member with earlier | latest
    · exact undisturbed.outcome_eq outcome earlier
    · exact Event.derived.inj (List.mem_singleton.mp latest)
  case final_eq =>
    rw [ended]
    rfl

theorem step {event : Event} {after : Expedition} (step : Step before event after) :
    Undisturbed chain (events ++ [event]) after := by
  cases step with
  | begin => exact undisturbed.begin
  | pull walk_eq count pulled => exact undisturbed.pull walk_eq pulled
  | run completed => exact undisturbed.run completed

end Undisturbed

theorem Reaches.undisturbed {chain : Chain} {events : List Event} {expedition : Expedition}
    (reached : Reaches chain events expedition) : Undisturbed chain events expedition := by
  induction reached with
  | start =>
      refine ⟨rfl, fun number walk found => ?_, fun _ _ => rfl, fun _ => rfl,
        fun outcome member => ?_, fun number far => ?_, rfl⟩
      · simp at found
      · simp at member
      · contradiction
  | step _ step ih => exact ih.step step

end Expedition

open Expedition

/-- Walks do not disturb each other.  Whatever has happened along a chain, each walk has passed the
checkpoints with the numbers from zero on, as many as it has been asked for or as there are; every
run has had the same outcome; and the final state is unknown until a walk is found to be over or a
run is complete, and known from then on. -/
theorem walks_undisturbed (chain : Chain) {events : List Event} {expedition : Expedition}
    (reached : Reaches chain events expedition) :
    (∀ number, received events number =
      (List.range (min (requested events number) checkpointCount)).map chain.checkpointAt) ∧
    (∀ outcome, .derived outcome ∈ events → outcome = .ok chain.definition) ∧
    expedition.survey.final? =
      if events.any Event.reachesEnd then some (chain.stateAfter (Nat.pow 2 chain.exponent.value))
      else none := by
  have undisturbed := reached.undisturbed
  refine ⟨fun number => ?_, undisturbed.outcome_eq, ?_⟩
  · rw [undisturbed.received_eq number, definition, ← List.map_take, List.take_range]
  · rw [undisturbed.final_eq, final_definition]
    rfl

/-- Two walks along the shortest chain and a run.  The second walk overtakes the first one, and the
run comes before the first one goes on. -/
theorem walks_undisturbed_overtaking :
    let beacon : Digest 32 := ⟨List.replicate 32 0, rfl⟩
    let chain : Chain := ⟨beacon, ⟨10, by decide, by decide⟩⟩
    let first : Checkpoint := ⟨0, beacon⟩
    let second : Checkpoint := ⟨1, beacon.successor⟩
    let before : List Event := [.begun, .pulled 0 1 [first], .begun, .pulled 1 2 [first, second]]
    let events : List Event := before ++ [.derived (.ok chain.definition), .pulled 0 1 [second]]
    (∃ expedition, Reaches chain before expedition ∧ expedition.survey.final? = none) ∧
    ∃ expedition, Reaches chain events expedition ∧
      received events 0 = (List.range 2).map chain.checkpointAt ∧
      received events 1 = (List.range 2).map chain.checkpointAt ∧
      expedition.survey.final? = some (chain.stateAfter (Nat.pow 2 10)) := by
  intro beacon chain first second before events
  have begun : Reaches chain [.begun] ⟨⟨chain, none⟩, [.fresh]⟩ := .step .start (.begin _)
  have passed : Reaches chain [.begun, .pulled 0 1 [first]]
      ⟨⟨chain, none⟩, [.underway 1 beacon]⟩ := .step begun (.pull rfl 1 rfl)
  have joined : Reaches chain [.begun, .pulled 0 1 [first], .begun]
      ⟨⟨chain, none⟩, [.underway 1 beacon, .fresh]⟩ := .step passed (.begin _)
  have overtaken : Reaches chain before
      ⟨⟨chain, none⟩, [.underway 1 beacon, .underway 2 beacon.successor]⟩ :=
    .step joined (.pull rfl 2 rfl)
  have derived : Reaches chain (before ++ [.derived (.ok chain.definition)])
      ⟨⟨chain, some chain.definition.final⟩, [.underway 1 beacon, .underway 2 beacon.successor]⟩ :=
    .step overtaken (.run (complete_eq _ _))
  have ended : Reaches chain events ⟨⟨chain, some chain.definition.final⟩,
      [.underway 2 beacon.successor, .underway 2 beacon.successor]⟩ :=
    .step derived (.pull rfl 1 rfl)
  obtain ⟨-, -, unknown⟩ := walks_undisturbed chain overtaken
  obtain ⟨received_eq, -, known⟩ := walks_undisturbed chain ended
  exact ⟨⟨_, overtaken, unknown⟩, _, ended, received_eq 0, received_eq 1, known⟩

end Chain
end BeaconCeremony

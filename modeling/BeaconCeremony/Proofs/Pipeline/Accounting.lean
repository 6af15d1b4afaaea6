import BeaconCeremony.Proofs.Number.Binary64
import BeaconCeremony.Proofs.Pipeline.Once
import BeaconCeremony.Proofs.Pipeline.Passage

/-!
# Every contribution is counted once

A contribution is counted when it is done or has failed, and then exactly once, with the outcome
that it has come to.  The steps of its chain are counted exactly when they have been derived, and
neither the chain nor the contribution is timed more than once.
-/

namespace BeaconCeremony

namespace Metrics

/-- No step of a chain is lost in a count, because the numbers of steps are powers of two. -/
theorem rounded_pow {exponent : Nat} (bounded : exponent < 1024) :
    rounded (Nat.pow 2 exponent) = Nat.pow 2 exponent := by
  rw [Nat.pow_eq, rounded, Int.natCast_pow, Nat.cast_ofNat,
    Binary64.toInt?_ofInt_two_pow bounded]
  exact Int.toNat_natCast _

theorem addIterations_of_zero {metrics : Metrics} (uncounted : metrics.iterations = 0)
    {derivation : Derivation} (bounded : derivation.iterations ≤ Chain.greatestExponent) :
    (metrics.addIterations derivation.steps).iterations = derivation.steps := by
  have exact_steps : rounded derivation.steps = derivation.steps :=
    rounded_pow (bounded.trans_lt (by decide))
  rw [addIterations, uncounted, exact_steps, Nat.zero_add, exact_steps]

end Metrics

namespace Pipeline

open BeaconCeremony.Action

variable {World Params : Type} {backend : Backend (StateM World) Params}
  {pipeline other later : Pipeline Params} {events noted : List Event}

/-- The outcome of a contribution, once it has come to one. -/
def outcome? (pipeline : Pipeline Params) : Option Outcome :=
  match pipeline.stage with
  | .done => some .ok
  | .failed => pipeline.failure?.map Outcome.ofFailure
  | _ => none

/-- What has been counted of a contribution is what has happened to it. -/
structure Counted (pipeline : Pipeline Params) : Prop where
  /-- The outcome is counted once there is one. -/
  runs_eq : pipeline.metrics.runs = pipeline.outcome?.toList
  /-- There is a failure just if the contribution has failed. -/
  failed_iff : pipeline.failure?.isSome ↔ pipeline.stage = .failed
  /-- The steps of the chain are counted once it has been run. -/
  iterations_eq : pipeline.metrics.iterations = (pipeline.derivation?.map Derivation.steps).getD 0
  /-- The chain is timed at most once. -/
  chain_le : pipeline.metrics.chainTimings ≤ 1
  /-- The contribution is timed at most once. -/
  contribute_le : pipeline.metrics.contributeTimings ≤ 1

/-- What has been timed of a contribution is what its stage says. -/
structure Timed (pipeline : Pipeline Params) : Prop where
  /-- The chain is timed when it is run. -/
  chain_eq : pipeline.metrics.chainTimings =
    if Stage.beaconDerived.rank ≤ pipeline.stage.rank then 1 else 0
  /-- The contribution is timed when it is made. -/
  contribute_eq : pipeline.metrics.contributeTimings =
    if Stage.contributed.rank ≤ pipeline.stage.rank then 1 else 0
  /-- Before the chain is run there is no derivation. -/
  underived : pipeline.stage.rank < Stage.beaconDerived.rank → pipeline.derivation? = none

theorem counted_start (config : Config) : (start config : Pipeline Params).Counted :=
  ⟨rfl, ⟨nofun, nofun⟩, rfl, Nat.zero_le 1, Nat.zero_le 1⟩

theorem timed_start (config : Config) : (start config : Pipeline Params).Timed :=
  ⟨rfl, rfl, fun _ => rfl⟩

theorem Counted.alike (counted : pipeline.Counted) (alike : pipeline.Alike other) :
    other.Counted := by
  obtain ⟨stage_eq, failure_eq, derivation_eq, metrics_eq⟩ := alike
  have outcome_eq : other.outcome? = pipeline.outcome? := by
    rw [outcome?, outcome?, stage_eq, failure_eq]
  refine ⟨?_, ?_, ?_, ?_, ?_⟩
  · rw [metrics_eq, outcome_eq, counted.runs_eq]
  · rw [failure_eq, stage_eq, counted.failed_iff]
  · rw [metrics_eq, derivation_eq, counted.iterations_eq]
  · rw [metrics_eq]
    exact counted.chain_le
  · rw [metrics_eq]
    exact counted.contribute_le

/-- Before the end there is no outcome. -/
theorem outcome?_eq_none (undone : pipeline.stage ≠ .done) (unfailed : pipeline.stage ≠ .failed) :
    pipeline.outcome? = none := by
  rw [outcome?]
  split <;> simp_all

theorem Counted.runs_eq_nil (counted : pipeline.Counted) (undone : pipeline.stage ≠ .done)
    (unfailed : pipeline.stage ≠ .failed) : pipeline.metrics.runs = [] := by
  rw [counted.runs_eq, outcome?_eq_none undone unfailed]
  rfl

/-- The first failure of a contribution is its outcome. -/
theorem Counted.fail (counted : pipeline.Counted) (undone : pipeline.stage ≠ .done)
    (failure : Failure) : (pipeline.fail failure).Counted := by
  rw [Pipeline.fail]
  split
  · exact counted
  · rename_i unfailed
    refine ⟨?_, iff_of_true rfl rfl, counted.iterations_eq, counted.chain_le,
      counted.contribute_le⟩
    exact congrArg (· ++ [Outcome.ofFailure failure]) (counted.runs_eq_nil undone unfailed)

/-- The stage says what has been timed. -/
theorem Timed.timings_at (timed : pipeline.Timed) {stage : Stage}
    (staged : pipeline.stage = stage) :
    pipeline.metrics.chainTimings = (if Stage.beaconDerived.rank ≤ stage.rank then 1 else 0) ∧
      pipeline.metrics.contributeTimings =
        (if Stage.contributed.rank ≤ stage.rank then 1 else 0) :=
  staged ▸ ⟨timed.chain_eq, timed.contribute_eq⟩

theorem Counted.chainTimed (counted : pipeline.Counted) (timed : pipeline.Timed)
    (staged : pipeline.stage = .loaded) :
    Counted { pipeline with metrics := pipeline.metrics.timeChain } := by
  have untimed : pipeline.metrics.chainTimings = 0 := (timed.timings_at staged).1
  exact ⟨counted.runs_eq, counted.failed_iff, counted.iterations_eq,
    Nat.le_of_eq (congrArg (· + 1) untimed), counted.contribute_le⟩

theorem Counted.contributeTimed (counted : pipeline.Counted) (timed : pipeline.Timed)
    (staged : pipeline.stage = .seeded) :
    Counted { pipeline with metrics := pipeline.metrics.timeContribute } := by
  have untimed : pipeline.metrics.contributeTimings = 0 := (timed.timings_at staged).2
  exact ⟨counted.runs_eq, counted.failed_iff, counted.iterations_eq, counted.chain_le,
    Nat.le_of_eq (congrArg (· + 1) untimed)⟩

theorem Counted.derived (counted : pipeline.Counted) (timed : pipeline.Timed)
    (staged : pipeline.stage = .loaded) {derivation : Derivation}
    (bounded : derivation.iterations ≤ Chain.greatestExponent) :
    (pipeline.derived derivation).Counted := by
  have uncounted : pipeline.metrics.timeChain.iterations = 0 := by
    change pipeline.metrics.iterations = 0
    rw [counted.iterations_eq, timed.underived (staged ▸ by decide)]
    rfl
  have chain_timed := counted.chainTimed timed staged
  exact ⟨chain_timed.runs_eq, chain_timed.failed_iff,
    Metrics.addIterations_of_zero uncounted bounded, chain_timed.chain_le,
    chain_timed.contribute_le⟩

/-- Also a step that fails has counted no more than what has happened. -/
theorem Counted.underway (counted : pipeline.Counted)
    (timed : pipeline.stage ≠ .failed → pipeline.Timed) (underway : pipeline.Underway other) :
    other.Counted := by
  cases underway with
  | still alike => exact counted.alike alike
  | chain staged alike => exact (counted.chainTimed (timed (staged ▸ by decide)) staged).alike alike
  | derived staged derivation bounded alike =>
      exact (counted.derived (timed (staged ▸ by decide)) staged bounded).alike alike
  | contribution staged alike =>
      exact (counted.contributeTimed (timed (staged ▸ by decide)) staged).alike alike

theorem Counted.moveTo (counted : pipeline.Counted) (undone : pipeline.stage ≠ .done)
    (unfailed : pipeline.stage ≠ .failed) {target : Stage} (target_undone : target ≠ .done)
    (target_unfailed : target ≠ .failed) : (pipeline.moveTo target).Counted := by
  have same_outcome : pipeline.outcome? = (pipeline.moveTo target).outcome? :=
    (outcome?_eq_none undone unfailed).trans (outcome?_eq_none target_undone target_unfailed).symm
  exact ⟨same_outcome ▸ counted.runs_eq,
    counted.failed_iff.trans (iff_of_false unfailed target_unfailed), counted.iterations_eq,
    counted.chain_le, counted.contribute_le⟩

theorem Timed.alike (timed : pipeline.Timed) (alike : pipeline.Alike other) : other.Timed := by
  obtain ⟨stage_eq, -, derivation_eq, metrics_eq⟩ := alike
  refine ⟨?_, ?_, ?_⟩
  · rw [metrics_eq, stage_eq, timed.chain_eq]
  · rw [metrics_eq, stage_eq, timed.contribute_eq]
  · rw [stage_eq, derivation_eq]
    exact timed.underived

theorem Timed.moveTo (timed : pipeline.Timed) {target : Stage}
    (same_chain : Stage.beaconDerived.rank ≤ pipeline.stage.rank ↔
      Stage.beaconDerived.rank ≤ target.rank)
    (same_contribution : Stage.contributed.rank ≤ pipeline.stage.rank ↔
      Stage.contributed.rank ≤ target.rank) : (pipeline.moveTo target).Timed := by
  refine ⟨timed.chain_eq.trans ?_, timed.contribute_eq.trans ?_, fun early => ?_⟩
  · simp only [same_chain]
    rfl
  · simp only [same_contribution]
    rfl
  · exact timed.underived (Nat.not_le.mp (same_chain.not.mpr (Nat.not_le.mpr early)))

/-- The steps that time nothing and come to no outcome. -/
def Uncounted (stage target : Stage) : Prop :=
  (stage ≠ .done ∧ stage ≠ .failed) ∧ (target ≠ .done ∧ target ≠ .failed) ∧
    (Stage.beaconDerived.rank ≤ stage.rank ↔ Stage.beaconDerived.rank ≤ target.rank) ∧
    (Stage.contributed.rank ≤ stage.rank ↔ Stage.contributed.rank ≤ target.rank)

instance (stage target : Stage) : Decidable (Uncounted stage target) :=
  inferInstanceAs (Decidable (_ ∧ _))

/-- After such a step the same has been counted and timed. -/
theorem accounted_moveTo (counted : pipeline.Counted) (timed : pipeline.Timed)
    (alike : pipeline.Alike other) {stage target : Stage} (staged : pipeline.stage = stage)
    (uncounted : Uncounted stage target) :
    (other.moveTo target).Counted ∧ ((other.moveTo target).stage ≠ .failed →
      (other.moveTo target).Timed) := by
  obtain ⟨⟨undone, unfailed⟩, ⟨target_undone, target_unfailed⟩, same_chain, same_contribution⟩ :=
    uncounted
  obtain rfl : other.stage = stage := alike.stage_eq.trans staged
  exact ⟨(counted.alike alike).moveTo undone unfailed target_undone target_unfailed,
    fun _ => (timed.alike alike).moveTo same_chain same_contribution⟩

/-- A move that takes a step counts what the step has done, and the outcome only at the end. -/
theorem Move.accounted (move : Move backend pipeline events later noted)
    (accounted : pipeline.Counted ∧ (pipeline.stage ≠ .failed → pipeline.Timed)) :
    later.Counted ∧ (later.stage ≠ .failed → later.Timed) := by
  obtain ⟨counted, timed⟩ := accounted
  -- At these stages the chain has been run.
  have derived_by (stage : Stage) {fact : Prop} (late : Stage.beaconDerived.rank ≤ stage.rank)
      (early : stage.rank < Stage.beaconDerived.rank) : fact := absurd early (Nat.not_lt.mpr late)
  cases move with
  | load staged source parameters =>
      have alike : pipeline.Alike
          { pipeline with source := source, parameters? := some parameters } :=
        ⟨rfl, rfl, rfl, rfl⟩
      exact accounted_moveTo counted (timed (staged ▸ by decide)) alike staged (by decide)
  | derive staged derivation bounded reporter =>
      have timed := timed (staged ▸ by decide)
      let derived : Pipeline Params := { pipeline.derived derivation with reporter := reporter }
      have derived_counted : derived.Counted :=
        (counted.derived timed staged bounded).alike ⟨rfl, rfl, rfl, rfl⟩
      have derived_staged : derived.stage = .loaded := staged
      obtain ⟨chain_eq, contribute_eq⟩ := timed.timings_at staged
      refine ⟨derived_counted.moveTo ?_ ?_ (by decide) (by decide),
        fun _ => ⟨?_, contribute_eq, ?_⟩⟩
      · exact derived_staged ▸ by decide
      · exact derived_staged ▸ by decide
      · exact congrArg (· + 1) chain_eq
      · exact derived_by .beaconDerived (by decide)
  | seed staged derivation derived =>
      let seed := Seed.ofDigest derivation.final
      have alike : pipeline.Alike
          { pipeline with seed? := some seed, generator? := some (Generator.ofSeed seed) } :=
        ⟨rfl, rfl, rfl, rfl⟩
      exact accounted_moveTo counted (timed (staged ▸ by decide)) alike staged (by decide)
  | contribute staged parameters generator loaded seeded tag world returned fingerprint result_eq
      usable =>
      have timed := timed (staged ▸ by decide)
      let contributed := (backend.contribute parameters generator tag world).1
      let made : Pipeline Params :=
        { pipeline.answered contributed with fingerprint? := some fingerprint }
      have made_counted : made.Counted :=
        (counted.contributeTimed timed staged).alike ⟨rfl, rfl, rfl, rfl⟩
      have made_staged : made.stage = .seeded := staged
      obtain ⟨chain_eq, contribute_eq⟩ := timed.timings_at staged
      refine ⟨made_counted.moveTo ?_ ?_ (by decide) (by decide), fun _ => ⟨chain_eq, ?_, ?_⟩⟩
      · exact made_staged ▸ by decide
      · exact made_staged ▸ by decide
      · exact congrArg (· + 1) contribute_eq
      · exact derived_by .contributed (by decide)
  | persist staged =>
      exact accounted_moveTo counted (timed (staged ▸ by decide)) (Alike.refl pipeline) staged
        (by decide)
  | finish staged =>
      have timed := timed (staged ▸ by decide)
      have uncounted := counted.runs_eq_nil (staged ▸ by decide) (staged ▸ by decide)
      obtain ⟨chain_eq, contribute_eq⟩ := timed.timings_at staged
      have unfailed := counted.failed_iff.not.mpr (staged ▸ by decide)
      exact ⟨⟨congrArg (· ++ [Outcome.ok]) uncounted, iff_of_false unfailed nofun,
        counted.iterations_eq, counted.chain_le, counted.contribute_le⟩,
        fun _ => ⟨chain_eq, contribute_eq, derived_by .done (by decide)⟩⟩
  | fail undone underway failure =>
      have fails := (counted.underway timed underway).fail (underway.stage_eq ▸ undone) failure
      exact ⟨fails, fun unfailed => absurd (stage_fail _ failure) unfailed⟩

end Pipeline

namespace Outcome

theorem ofFailure_ne_ok (failure : Failure) : ofFailure failure ≠ .ok := by
  unfold ofFailure
  split <;> exact nofun

end Outcome

namespace Metrics

/-- The runs counted with any outcome. -/
def total (metrics : Metrics) : Nat :=
  Outcome.all.foldr (fun outcome sum => metrics.runCount outcome + sum) 0

/-- Only one outcome has been counted, and it once. -/
theorem total_eq {metrics : Metrics} {outcome? : Option Outcome}
    (recorded : metrics.runs = outcome?.toList) :
    metrics.total = if outcome?.isSome then 1 else 0 := by
  have counts : metrics.runCount = (outcome?.toList.count ·) :=
    funext fun outcome => congrArg (List.count outcome) recorded
  rw [total, counts]
  cases outcome? with
  | none => decide
  | some outcome => cases outcome <;> decide

end Metrics

section Life

open BeaconCeremony.Pipeline

variable {World Params : Type} {host : Host (StateM World)}
  {backend : Backend (StateM World) Params} {config : Config} {pipeline : Pipeline Params}
  {events : List Event}

theorem Reached.accounted (reached : Reached host backend config pipeline events) :
    pipeline.Counted ∧ (pipeline.stage ≠ .failed → pipeline.Timed) :=
  reached.holds ⟨counted_start config, fun _ => timed_start config⟩ Move.accounted

theorem Pipeline.Counted.runCount_pos (counted : pipeline.Counted) (outcome : Outcome) :
    0 < pipeline.metrics.runCount outcome ↔ pipeline.outcome? = some outcome := by
  rw [Metrics.runCount, counted.runs_eq, List.count_pos_iff, Option.mem_toList]

/-- After any calls in any order, with anything going wrong in between, a contribution has been
counted once if it is done or has failed, and not at all before: as done just if it is done, and
else as what it failed of first.  All steps of its chain have been counted if it has a derivation,
and none otherwise.  Neither the chain nor the contribution has been timed twice. -/
theorem counted_once (reached : Reached host backend config pipeline events) :
    pipeline.metrics.total =
        (if pipeline.stage = .done ∨ pipeline.stage = .failed then 1 else 0) ∧
      (0 < pipeline.metrics.runCount .ok ↔ pipeline.stage = .done) ∧
      (pipeline.stage = .failed → ∃ failure, pipeline.failure? = some failure ∧
        ∀ outcome, 0 < pipeline.metrics.runCount outcome ↔ outcome = .ofFailure failure) ∧
      (∀ derivation, pipeline.derivation? = some derivation →
        pipeline.metrics.iterations = Nat.pow 2 derivation.iterations) ∧
      (pipeline.derivation? = none → pipeline.metrics.iterations = 0) ∧
      pipeline.metrics.chainTimings ≤ 1 ∧ pipeline.metrics.contributeTimings ≤ 1 := by
  obtain ⟨counted, -⟩ := reached.accounted
  have failed_of {failure : Failure} (failed : pipeline.stage = .failed)
      (failure_eq : pipeline.failure? = some failure) :
      pipeline.outcome? = some (.ofFailure failure) := by
    rw [outcome?, failed, failure_eq]
    rfl
  have failure_of (failed : pipeline.stage = .failed) :
      ∃ failure, pipeline.failure? = some failure :=
    Option.isSome_iff_exists.mp (counted.failed_iff.mpr failed)
  refine ⟨?_, ?_, fun failed => ?_, fun derivation derived => ?_, fun underived => ?_,
    counted.chain_le, counted.contribute_le⟩
  · rw [Metrics.total_eq counted.runs_eq]
    refine if_congr ⟨fun come => ?_, fun ended => ?_⟩ rfl rfl
    · by_contra unended
      obtain ⟨undone, unfailed⟩ := not_or.mp unended
      rw [outcome?_eq_none undone unfailed] at come
      contradiction
    · rcases ended with done | failed
      · rw [outcome?, done]
        rfl
      · obtain ⟨failure, failure_eq⟩ := failure_of failed
        rw [failed_of failed failure_eq]
        rfl
  · rw [counted.runCount_pos]
    refine ⟨fun ok => ?_, fun done => by rw [outcome?, done]⟩
    by_contra undone
    by_cases failed : pipeline.stage = .failed
    · obtain ⟨failure, failure_eq⟩ := failure_of failed
      rw [failed_of failed failure_eq] at ok
      exact Outcome.ofFailure_ne_ok failure (Option.some.inj ok)
    · rw [outcome?_eq_none undone failed] at ok
      contradiction
  · obtain ⟨failure, failure_eq⟩ := failure_of failed
    refine ⟨failure, failure_eq, fun outcome => ?_⟩
    rw [counted.runCount_pos, failed_of failed failure_eq, Option.some_inj, eq_comm]
  · rw [counted.iterations_eq, derived]
    rfl
  · rw [counted.iterations_eq, underived]
    rfl

end Life

/-- A contribution whose parameters can neither be written nor be closed is counted once, as
parameters that were not written, with its timings and the steps of its chain. -/
theorem counted_once_unwritable :
    let config : Config := ⟨"mpc.params", "mpc.params", "bn254-phase2", .bool true⟩
    let beacon : Datum := .text (String.ofList (List.replicate 64 '0'))
    let full : SystemError := ⟨some 28, "No space left on device"⟩
    let host : Host (StateM Unit) := { Host.obliging with
      openOutput := fun _ => pure (.ok ⟨⟨fun _ => pure (.error (.system full)),
        pure (.error (.system full))⟩, pure (.error (.system full))⟩) }
    let calls : List (Call Unit) := [.run beacon (.int 10) none none 0, .seed]
    let left := Call.leave host Backend.counter () calls (.start config, [])
    Reached host Backend.counter config left.1 left.2 ∧ left.1.stage = .failed ∧
      left.1.metrics.total = 1 ∧
      0 < left.1.metrics.runCount .serializationWrite ∧ left.1.metrics.iterations = 1024 ∧
      left.1.metrics.chainTimings ≤ 1 := by
  intro config beacon full host calls left
  have reached : Reached host Backend.counter config left.1 left.2 := Reached.start.leave () calls
  obtain ⟨total_eq, -, labelled, counted, -, chain_le, -⟩ := counted_once reached
  have evaluated : left.1.stage = .failed ∧
      left.1.derivation?.map Derivation.iterations = some 10 ∧
      left.1.failure?.map Outcome.ofFailure = some .serializationWrite := by
    simp only [left, calls, Call.leave, Call.outcome, Call.action, Pipeline.run, Pipeline.derive,
      Chain.run_eq]
    decide +kernel
  obtain ⟨failed, iterations_eq, failure_eq⟩ := evaluated
  obtain ⟨derivation, derived, iterations_eq⟩ := Option.map_eq_some_iff.mp iterations_eq
  obtain ⟨failure, found, only⟩ := labelled failed
  rw [found] at failure_eq
  refine ⟨reached, failed, ?_, ?_, ?_, chain_le⟩
  · rw [total_eq, if_pos (.inr failed)]
  · exact (only _).mpr (Option.some.inj failure_eq).symm
  · rw [counted derivation derived, iterations_eq]

end BeaconCeremony

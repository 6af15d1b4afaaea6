import BeaconCeremony.Proofs.Pipeline.Recording

/-!
# Moves of a contribution

What a call makes of a contribution is a row of moves: a step that is taken to its end, or a failure
by which time a step has changed something or nothing.  A fact that every move keeps is kept by
every row of moves.
-/

namespace BeaconCeremony

namespace Pipeline

variable {World Params : Type}

/-- The step that is called at this stage asks for a result that is not there. -/
def Lacking (pipeline : Pipeline Params) : Prop :=
  match pipeline.stage with
  | .beaconDerived => pipeline.derivation? = none
  | .seeded => pipeline.parameters? = none ∨ pipeline.generator? = none
  | .contributed => pipeline.parameters? = none
  | .persisted =>
    pipeline.derivation? = none ∨ pipeline.seed? = none ∨ pipeline.fingerprint? = none
  | _ => False

/-- Two contributions are at the same stage, and the same has been derived and counted. -/
structure Alike (pipeline other : Pipeline Params) : Prop where
  /-- They are at the same stage. -/
  stage_eq : other.stage = pipeline.stage
  /-- They have failed alike. -/
  failure_eq : other.failure? = pipeline.failure?
  /-- The same has been derived. -/
  derivation_eq : other.derivation? = pipeline.derivation?
  /-- The same has been counted. -/
  metrics_eq : other.metrics = pipeline.metrics

/-- The contribution with a derivation of a chain that was timed and has been counted. -/
def derived (pipeline : Pipeline Params) (derivation : Derivation) : Pipeline Params :=
  { pipeline with
    derivation? := some derivation
    metrics := pipeline.metrics.timeChain.addIterations derivation.steps }

/-- What a step has made of a contribution by the time it fails. -/
inductive Underway (pipeline : Pipeline Params) : Pipeline Params → Prop
  /-- Nothing has been derived, timed or counted. -/
  | still {other : Pipeline Params} (alike : pipeline.Alike other) : Underway pipeline other
  /-- The chain broke off. -/
  | chain {other : Pipeline Params} (staged : pipeline.stage = .loaded)
      (alike : Alike { pipeline with metrics := pipeline.metrics.timeChain } other) :
      Underway pipeline other
  /-- The chain came to its end. -/
  | derived {other : Pipeline Params} (staged : pipeline.stage = .loaded) (derivation : Derivation)
      (bounded : derivation.iterations ≤ Chain.greatestExponent)
      (alike : (pipeline.derived derivation).Alike other) : Underway pipeline other
  /-- The format was asked to contribute. -/
  | contribution {other : Pipeline Params} (staged : pipeline.stage = .seeded)
      (alike : Alike { pipeline with metrics := pipeline.metrics.timeContribute } other) :
      Underway pipeline other

/-- The contribution with what a format has made of it, which was timed. -/
def answered (pipeline : Pipeline Params) (contributed : Contributed Params) : Pipeline Params :=
  { pipeline with
    parameters? := some contributed.parameters
    generator? := some contributed.generator
    metrics := pipeline.metrics.timeContribute }

/-- What a single step makes of a contribution and the record of its format. -/
inductive Move (backend : Backend (StateM World) Params) (pipeline : Pipeline Params)
    (events : List Event) : Pipeline Params → List Event → Prop
  | load (staged : pipeline.stage = .idle) (source : RawText) (parameters : Params) :
      Move backend pipeline events
        ({ pipeline with source := source, parameters? := some parameters }.moveTo .loaded) events
  | derive (staged : pipeline.stage = .loaded) (derivation : Derivation)
      (bounded : derivation.iterations ≤ Chain.greatestExponent) (reporter : Reporter) :
      Move backend pipeline events
        ({ pipeline.derived derivation with reporter := reporter }.moveTo .beaconDerived) events
  | seed (staged : pipeline.stage = .beaconDerived) (derivation : Derivation)
      (derived : pipeline.derivation? = some derivation) :
      Move backend pipeline events
        ({ pipeline with
            seed? := some (Seed.ofDigest derivation.final)
            generator? := some (Generator.ofSeed (Seed.ofDigest derivation.final)) }.moveTo .seeded)
        events
  | contribute (staged : pipeline.stage = .seeded) (parameters : Params) (generator : Generator)
      (loaded : pipeline.parameters? = some parameters)
      (seeded : pipeline.generator? = some generator) (tag : Int) (world : World)
      (returned : Datum) (fingerprint : Bytes)
      (result_eq : (backend.contribute parameters generator tag world).1.result = .ok returned)
      (usable : fingerprintOf pipeline.source returned = .ok fingerprint) :
      Move backend pipeline events
        ({ pipeline.answered (backend.contribute parameters generator tag world).1 with
            fingerprint? := some fingerprint }.moveTo .contributed)
        (events ++ [.contributing, .contributed (.ok returned)])
  | persist (staged : pipeline.stage = .contributed) :
      Move backend pipeline events (pipeline.moveTo .persisted) (events ++ [.writing])
  | finish (staged : pipeline.stage = .persisted) :
      Move backend pipeline events
        { pipeline.moveTo .done with metrics := pipeline.metrics.recordRun .ok } events
  | fail {other : Pipeline Params} {noted : List Event} (undone : pipeline.stage ≠ .done)
      (underway : pipeline.Underway other) (failure : Failure) :
      Move backend pipeline events (other.fail failure) noted

/-- What a row of moves makes of a contribution and the record of its format. -/
inductive Passes (backend : Backend (StateM World) Params) (pipeline : Pipeline Params)
    (events : List Event) : Pipeline Params → List Event → Prop
  | refl : Passes backend pipeline events pipeline events
  | move {later after : Pipeline Params} {noted added : List Event}
      (before : Passes backend pipeline events later noted)
      (move : Move backend later noted after added) : Passes backend pipeline events after added

section Passing

variable {backend : Backend (StateM World) Params} {pipeline later after : Pipeline Params}
  {events noted added : List Event}

theorem Alike.refl (pipeline : Pipeline Params) : pipeline.Alike pipeline := ⟨rfl, rfl, rfl, rfl⟩

theorem Underway.stage_eq (underway : pipeline.Underway later) : later.stage = pipeline.stage := by
  cases underway with
  | still alike => exact alike.stage_eq
  | chain staged alike => exact alike.stage_eq
  | derived staged derivation bounded alike => exact alike.stage_eq
  | contribution staged alike => exact alike.stage_eq

theorem Move.passes (move : Move backend pipeline events later noted) :
    Passes backend pipeline events later noted :=
  .move .refl move

theorem Passes.trans (first : Passes backend pipeline events later noted)
    (second : Passes backend later noted after added) :
    Passes backend pipeline events after added := by
  induction second with
  | refl => exact first
  | move before move ih => exact ih.move move

/-- What every move keeps is kept by rows of moves. -/
theorem Passes.keeps {fact : Pipeline Params → List Event → Prop}
    (moves : ∀ {pipeline events later noted}, Move backend pipeline events later noted →
      fact pipeline events → fact later noted)
    (passes : Passes backend pipeline events later noted) (holds : fact pipeline events) :
    fact later noted := by
  induction passes with
  | refl => exact holds
  | move before move ih => exact moves move ih

end Passing

end Pipeline

end BeaconCeremony

import BeaconCeremony.Proofs.Pipeline.Failure
import BeaconCeremony.Proofs.Pipeline.Once

/-!
# Calls at the wrong stage

Every call expects a stage.  At any other stage it is refused, and nothing is touched: not the
contribution with all that it has counted and reported, not the surroundings, not the record.  No
call expects the stage of a contribution that is done or has failed, so these stages are final.
-/

namespace BeaconCeremony

namespace Call

variable {World : Type}

/-- The stage that a call expects. -/
def expected : Call World → Stage
  | .load .. => .idle
  | .derive .. => .loaded
  | .seed => .beaconDerived
  | .contribute .. => .seeded
  | .persist .. => .contributed
  | .finish .. => .persisted
  | .run .. => .idle

/-- The name under which a call is refused. -/
def name (call : Call World) : String := call.stepName?.getD "run"

theorem expected_ne_done (call : Call World) : call.expected ≠ .done := by
  cases call <;> exact nofun

theorem expected_ne_failed (call : Call World) : call.expected ≠ .failed := by
  cases call <;> exact nofun

end Call

open BeaconCeremony.Action BeaconCeremony.Pipeline

variable {World Params : Type} (host : Host (StateM World))
  (backend : Backend (StateM World) Params)

/-- What calls can make of a contribution and its record.  Between two calls anything may happen to
the surroundings. -/
inductive Continues (pipeline : Pipeline Params) (events : List Event) :
    Pipeline Params → List Event → Prop
  | refl : Continues pipeline events pipeline events
  | call {later : Pipeline Params} {noted : List Event}
      (before : Continues pipeline events later noted) (call : Call World) (world : World) :
      Continues pipeline events (call.outcome host backend later world noted).pipeline
        (call.outcome host backend later world noted).world.kept

variable {host backend} {pipeline : Pipeline Params}

/-- At a stage that it does not expect a call is refused and leaves everything as it was. -/
theorem Call.outcome_of_ne {call : Call World} (away : pipeline.stage ≠ call.expected)
    (world : World) (events : List Event) :
    call.outcome host backend pipeline world events =
      ⟨.error (.ceremony (.stepOrder call.name call.expected.name pipeline.stage.name)), pipeline,
        ⟨world, events⟩⟩ := by
  rw [Call.outcome]
  cases call with
  | load source path => exact after_step_of_ne away _
  | derive beacon exponent => exact after_bind_of_error _ _ _ (after_step_of_ne away _)
  | seed => exact after_bind_of_error _ _ _ (after_step_of_ne away _)
  | contribute tag => exact after_bind_of_error _ _ _ (after_step_of_ne away _)
  | persist sink path => exact after_step_of_ne away _
  | finish inputPath? outputPath? =>
      refine after_bind_of_error _ _ _ ?_
      exact after_bind_of_error _ _ _ (after_step_of_ne away _)
  | run beacon exponent inputPath? outputPath? tag =>
      exact after_bind_of_error _ _ _ (after_run_of_ne _ _ _ _ _ _ away)

/-- A failure inside of a step that is called at its stage ends the contribution and is kept. -/
theorem Call.keeps_failure {call : Call World} {name : String}
    (named : call.stepName? = some name) (failure? : Option Failure) (runs : List Outcome) :
    Triple (Clean call.expected failure? runs) (call.action host backend) (fun _ _ _ => True)
      (fun failure pipeline _ => Kept runs failure pipeline) := by
  have ends {stage target : Stage} {α : Type} {action : Action (StateM (Recorder World)) Params α}
      (keeps : Triple (Clean stage failure? runs) action (fun _ => Clean target failure? runs)
        (fun failure pipeline _ => Kept runs failure pipeline)) :
      Triple (Clean stage failure? runs) action (fun _ _ _ => True)
        (fun failure pipeline _ => Kept runs failure pipeline) :=
    keeps.imp (fun _ _ clean => clean) (fun _ _ _ _ => True.intro) fun _ _ _ kept => kept
  have discards {α : Type} {stage : Stage} {action : Action (StateM (Recorder World)) Params α}
      (keeps : Triple (Clean stage failure? runs) action (fun _ _ _ => True)
        (fun failure pipeline _ => Kept runs failure pipeline)) :
      Triple (Clean stage failure? runs) (do discard action) (fun _ _ _ => True)
        (fun failure pipeline _ => Kept runs failure pipeline) :=
    .bind _ keeps fun _ _ _ _ => True.intro
  cases call with
  | load source path =>
      exact ends ((isStep_load host.recorded _ path).keeps_failure
        ⟨steady_clean .idle, fun _ _ clean => clean⟩ (by decide))
  | derive beacon exponent =>
      exact discards (ends ((isStep_derive beacon exponent).keeps_failure
        (steady_clean .loaded) (by decide)))
  | seed =>
      exact discards (ends ((isStep_seed host.recorded).keeps_failure
        (steady_clean .beaconDerived) (by decide)))
  | contribute tag =>
      exact discards (ends ((isStep_contribute tag).keeps_failure
        ⟨steady_clean .seeded, fun _ _ _ _ clean => clean⟩ (by decide)))
  | persist sink path =>
      exact (persist_keeps_failure sink.beside path).imp (fun _ _ clean => clean)
        (fun _ _ _ _ => True.intro) fun _ _ _ kept => kept.1
  | finish inputPath? outputPath? => exact discards (finish_keeps_failure inputPath? outputPath?)
  | run => contradiction

/-- Whatever is called, a contribution that is done or has failed stays as it is. -/
theorem Continues.eq_of_ended {events noted : List Event} {later : Pipeline Params}
    (ended : pipeline.stage = .done ∨ pipeline.stage = .failed)
    (continues : Continues host backend pipeline events later noted) :
    later = pipeline ∧ noted = events := by
  have away (call : Call World) : pipeline.stage ≠ call.expected := by
    rcases ended with done | failed
    · exact done ▸ call.expected_ne_done.symm
    · exact failed ▸ call.expected_ne_failed.symm
  induction continues with
  | refl => exact ⟨rfl, rfl⟩
  | call before call world ih =>
      rw [ih.1, ih.2, Call.outcome_of_ne (away call)]
      exact ⟨rfl, rfl⟩

/-- A call at a stage that it does not expect is refused and leaves the contribution, the
surroundings and the record as they were.  A failure inside of a step that is called at its stage
leaves the contribution failed, with this failure.  Once a contribution is done or has failed, no
calls change it. -/
theorem calls_at_stages (pipeline : Pipeline Params) (events : List Event) :
    (∀ (call : Call World) (world : World), pipeline.stage ≠ call.expected →
      call.outcome host backend pipeline world events =
        ⟨.error (.ceremony (.stepOrder call.name call.expected.name pipeline.stage.name)),
          pipeline, ⟨world, events⟩⟩) ∧
    (∀ (call : Call World) (world : World) (name : String) (failure : Failure),
      call.stepName? = some name → pipeline.stage = call.expected →
      (call.outcome host backend pipeline world events).result = .error failure →
      Kept pipeline.metrics.runs failure
        (call.outcome host backend pipeline world events).pipeline) ∧
    (pipeline.stage = .done ∨ pipeline.stage = .failed →
      ∀ (later : Pipeline Params) (noted : List Event),
        Continues host backend pipeline events later noted →
          later = pipeline ∧ noted = events) := by
  refine ⟨fun call world away => Call.outcome_of_ne away world events, ?_,
    fun ended later noted => Continues.eq_of_ended ended⟩
  intro call world name failure named entered failed
  have left := @Call.keeps_failure _ _ host backend call name named pipeline.failure?
    pipeline.metrics.runs pipeline ⟨world, events⟩ ⟨entered, rfl, rfl⟩
  rw [Call.outcome] at failed
  rw [Aftermath.Meets, failed] at left
  exact left

/-- A format that has no parameters to read. -/
def Backend.unreadable : Backend (StateM Unit) Nat :=
  { Backend.counter with read := fun _ => pure (.error (.value "no parameters")) }

/-- Seeding comes too early, loading fails, and a run comes too late. -/
theorem calls_at_stages_unreadable :
    let config : Config := ⟨"mpc.params", "mpc.params", "bn254-phase2", .bool true⟩
    let start : Pipeline Nat := .start config
    let failure : Failure := .ceremony (.parameterFormat "mpc.params" "no parameters")
    let load : Call Unit := .load ⟨fun _ => pure (.ok [])⟩ "mpc.params"
    let run : Call Unit := .run (.text "") (.int 10) none none 0
    let early := Call.seed.outcome Host.obliging Backend.unreadable start () []
    let left := load.outcome Host.obliging Backend.unreadable start () []
    let late := run.outcome Host.obliging Backend.unreadable left.pipeline () left.world.kept
    early = ⟨.error (.ceremony (.stepOrder "seed" "beacon_derived" "idle")), start, ⟨(), []⟩⟩ ∧
      left.result = .error failure ∧ Kept [] failure left.pipeline ∧
      late.result = .error (.ceremony (.stepOrder "run" "idle" "failed")) ∧
      late.pipeline = left.pipeline ∧ late.world.kept = [] := by
  intro config start failure load run early left late
  obtain ⟨refuses, keeps, -⟩ :=
    @calls_at_stages _ _ Host.obliging Backend.unreadable start []
  have failed : left.result = .error failure := rfl
  have kept : Kept [] failure left.pipeline := keeps load () "load" failure rfl rfl failed
  obtain ⟨refuses_late, -, ended⟩ :=
    @calls_at_stages _ _ Host.obliging Backend.unreadable left.pipeline left.world.kept
  have late_eq := refuses_late run () (by rw [kept.stage_eq]; exact nofun)
  obtain ⟨same, noted⟩ := ended (.inr kept.stage_eq) late.pipeline late.world.kept
    (.call .refl run ())
  have refused : late.result = .error (.ceremony (.stepOrder "run" "idle" "failed")) := by
    rw [show late = _ from late_eq, kept.stage_eq]
    rfl
  exact ⟨refuses .seed () nofun, failed, kept, refused, same, noted⟩

end BeaconCeremony

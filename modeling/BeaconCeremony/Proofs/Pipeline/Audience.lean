import BeaconCeremony.Phase2.Backend
import BeaconCeremony.Pipeline.Run
import BeaconCeremony.Proofs.Pipeline.Beside
import BeaconCeremony.Proofs.Phase2.Scaling

/-!
# Runs with an audience

A run reports to an audience, which takes every line and keeps of it what it likes.  It has no part
in the surroundings: reading and writing beside an audience come to what they come to without one.
-/

namespace BeaconCeremony

/-- The options of a run that are about reporting, and its audience. -/
structure Reporting where
  /-- What the configuration says about checkpoint lines. -/
  asked : Datum
  /-- Checkpoint lines are left out. -/
  quiet : Bool
  /-- The number of points after which the progress of the contribution is reported. -/
  tag : Int
  /-- What the audience keeps. -/
  Heard : Type
  /-- Takes a line. -/
  hear : Heard → RawText → Heard

section Beside

variable {World Heard α : Type}

/-- The host with the audience in place of what it shows lines to. -/
def Host.facing (host : Host (StateM World)) (reporting : Reporting) :
    Host (StateM (Beside World reporting.Heard)) where
  echo line := fun ⟨world, heard⟩ => (.ok (), ⟨world, reporting.hear heard line⟩)
  openInput path := Beside.opened (host.openInput path) InputFile.beside
  openOutput path := Beside.opened (host.openOutput path) OutputFile.beside
  depth := host.depth

theorem Host.depth_facing (host : Host (StateM World)) (reporting : Reporting) :
    (host.facing reporting).depth = host.depth := rfl

theorem Source.collect_beside (source : Source (StateM World)) (missing : Nat) (got : Bytes) :
    (source.beside.collect missing got : StateM (Beside World Heard) _) =
      Beside.lift (source.collect missing got) := by
  induction missing using Nat.strongRecOn generalizing got with
  | ind missing ih =>
      rw [collect, collect]
      split
      · rfl
      · rw [Beside.lift_bind]
        refine congrArg _ (funext fun result => ?_)
        rcases result with failure | - | ⟨byte, more⟩
        · rfl
        · rfl
        · exact ih _ (by simp only [List.length_cons]; omega) _

theorem Decoder.run_beside {ε : Type} (describe : ε → Failure) (source : Source (StateM World))
    (decoder : Decoder ε α) :
    (decoder.run describe source.beside : StateM (Beside World Heard) _) =
      Beside.lift (decoder.run describe source) := by
  induction decoder with
  | done result => cases result <;> rfl
  | exact count missing next ih =>
      rw [run, run, Beside.lift_bind, Source.collect_beside]
      refine congrArg _ (funext fun result => ?_)
      rcases result with failure | - | bytes
      · rfl
      · rfl
      · exact ih bytes
  | atEnd next ih =>
      rw [run, run, Beside.lift_bind]
      refine congrArg _ (funext fun result => ?_)
      rcases result with failure | bytes
      · rfl
      · exact ih bytes.isEmpty

end Beside

/-- The contribution with other reporting options. -/
def Pipeline.reportedAs {Params : Type} (pipeline : Pipeline Params) (reporting : Reporting) :
    Pipeline Params :=
  { pipeline with
    config := { pipeline.config with quiet := reporting.asked }
    reporter := { pipeline.reporter with quiet := reporting.quiet } }

theorem Pipeline.fail_reportedAs {Params : Type} (pipeline : Pipeline Params)
    (reporting : Reporting) (failure : Failure) :
    (pipeline.reportedAs reporting).fail failure =
      (pipeline.fail failure).reportedAs reporting := by
  have same : (pipeline.reportedAs reporting).stage = pipeline.stage := rfl
  rw [fail, fail, same]
  split <;> rfl

theorem Pipeline.seen_fail {Params : Type} (pipeline : Pipeline Params) (failure : Failure) :
    (pipeline.fail failure).reporter.checkpointsSeen = pipeline.reporter.checkpointsSeen := by
  rw [fail]
  split <;> rfl

namespace Phase2

variable {World Heard : Type}

theorem Parameters.writeParts_beside (sink : Sink (StateM World))
    (parts : List (Except PointError Bytes)) :
    (writeParts sink.beside parts : StateM (Beside World Heard) _) =
      Beside.lift (writeParts sink parts) := by
  induction parts with
  | nil => rfl
  | cons part parts ih =>
      rcases part with error | bytes
      · rfl
      · rw [writeParts, writeParts, Beside.lift_bind]
        refine congrArg _ (funext fun result => ?_)
        rcases result with failure | -
        · rfl
        · exact ih

theorem backend_read_beside (source : Source (StateM World)) :
    (backend.read source.beside : StateM (Beside World Heard) _) =
      Beside.lift (backend.read source) :=
  Decoder.run_beside _ source _

theorem backend_write_beside (parameters : Parameters) (sink : Sink (StateM World)) :
    (backend.write parameters sink.beside : StateM (Beside World Heard) _) =
      Beside.lift (backend.write parameters sink) :=
  Parameters.writeParts_beside sink parameters.parts

/-- The contribution but for the lines that reported its progress. -/
def Contribution.unlogged (contribution : Contribution) : Contribution :=
  { contribution with log := [] }

/-- The tag has no part in a contribution. -/
theorem Parameters.contribute_untagged (parameters : Parameters) (generator : Generator)
    (tag : Int) : (parameters.contribute generator tag).unlogged =
      (parameters.contribute generator 0).unlogged := by
  unfold contribute
  split
  · rfl
  · split
    · rfl
    · dsimp only
      split
      · rfl
      · split
        · rfl
        · simp only [Contribution.unlogged, toList_points_scaleQuery]

/-- What the format makes of parameters and a generator, whatever the tag is. -/
def contributed (parameters : Parameters) (generator : Generator) : Contributed Parameters :=
  Id.run (backend.contribute parameters generator 0)

theorem backend_contribute_eq {m : Type → Type} [Monad m] (parameters : Parameters)
    (generator : Generator) (tag : Int) :
    (backend : Backend m Parameters).contribute parameters generator tag =
      pure (contributed parameters generator) := by
  have untagged := parameters.contribute_untagged generator tag
  have result_eq := congrArg Contribution.result untagged
  have parameters_eq := congrArg Contribution.parameters untagged
  have generator_eq := congrArg Contribution.generator untagged
  simp only [Contribution.unlogged] at result_eq parameters_eq generator_eq
  simp only [backend, contributed, result_eq, parameters_eq, generator_eq]
  rfl

end Phase2
end BeaconCeremony

import BeaconCeremony.Phase2.Backend
import BeaconCeremony.Proofs.Phase2.Format
import BeaconCeremony.Proofs.Pipeline.Failure
import BeaconCeremony.Proofs.Stream.Interruption

/-!
# Parameters that cannot be loaded

Reading parameters fails with the error of their bytes or with that of the source, and with nothing
else.  So a contribution that loads them goes on with the parameters that the bytes stand for, or it
fails with an error that names their source.
-/

namespace BeaconCeremony

variable {World Params : Type} {left : World → Bytes}

namespace Phase2
namespace Parameters

/-- Reading comes to what the bytes stand for, which is parameters or an error of their format, or
to the error of the last read. -/
theorem exists_read_eq {source : Source (StateM World)} (yields : source.Yields left)
    (verify : Bool) (world : World) :
    ∃ result reached, Parameters.read verify source world = (result, reached) ∧
      (result = (ofBytes verify (left world)).mapError (fun error => .value error.message) ∨
        ∃ error, result = .error (.system error) ∧ source.BreaksOff error reached) :=
  (closes_decoder verify).run_eq_or_breaksOff yields (fun error => .value error.message) world

end Parameters
end Phase2

namespace Action

open BeaconCeremony.Pipeline

section Load

variable {backend : Backend (StateM World) Params} {source : Source (StateM World)}
  {pipeline : Pipeline Params} {world reached : World}

theorem after_load_of_ok (idle : pipeline.stage = .idle) (name : RawText) {parameters : Params}
    (read_eq : backend.read source world = (.ok parameters, reached)) :
    after (load backend source name) pipeline world =
      ⟨.ok (), { pipeline with source := name, parameters? := some parameters }.moveTo .loaded,
        reached⟩ := by
  refine after_step_of_ok idle ?_
  rw [after_bind_of_ok _ _ _ rfl, after_bind, after_lift, read_eq]
  rfl

theorem after_load_of_error (idle : pipeline.stage = .idle) (name : RawText) {failure : Failure}
    (read_eq : backend.read source world = (.error failure, reached)) :
    after (load backend source name) pipeline world =
      ⟨.error (failure.blame (.parameterFormat name)),
        { pipeline with source := name }.fail (failure.blame (.parameterFormat name)),
        reached⟩ := by
  refine after_step_of_error idle ?_
  rw [after_bind_of_ok _ _ _ rfl, after_bind, after_lift, read_eq]
  rfl

end Load

/-- The contribution has failed to load parameters from a named source, and a reason is given. -/
structure Misread (before : Pipeline Params) (name reason : RawText)
    (aftermath : Aftermath Params World Unit) : Prop where
  /-- The error names the source and the reason. -/
  result_eq : aftermath.result = .error (.ceremony (.parameterFormat name reason))
  /-- The contribution is over. -/
  stage_eq : aftermath.pipeline.stage = .failed
  /-- The error is kept. -/
  failure_eq : aftermath.pipeline.failure? = some (.ceremony (.parameterFormat name reason))
  /-- The outcome is recorded. -/
  runs_eq : aftermath.pipeline.metrics.runs = before.metrics.runs ++ [.parameterFormat]

theorem misread_of_error {backend : Backend (StateM World) Params} {source : Source (StateM World)}
    {pipeline : Pipeline Params} {world reached : World} (idle : pipeline.stage = .idle)
    (name : RawText) (failure : Failure) {reason : RawText}
    (read_eq : backend.read source world = (.error failure, reached))
    (reason_eq : failure.streamReason? = some reason) :
    Misread pipeline name reason (after (load backend source name) pipeline world) := by
  have blamed : failure.blame (.parameterFormat name) =
      .ceremony (.parameterFormat name reason) := by
    rw [Failure.blame, reason_eq]
  have going : { pipeline with source := name }.stage ≠ .failed := by
    intro ended
    cases idle.symm.trans ended
  rw [after_load_of_error idle name read_eq, blamed, Pipeline.fail, if_neg going]
  exact ⟨rfl, rfl, rfl, rfl⟩

open Phase2 in
/-- Loading comes to the parameters that the bytes stand for.  If they stand for none, or if a read
fails, then this is reported with the name of the source.  Nothing else can come out of reading,
with or without verification. -/
theorem malformed_reported {source : Source (StateM World)} (yields : source.Yields left)
    {pipeline : Pipeline Parameters} (idle : pipeline.stage = .idle) (name : RawText)
    (world : World) :
    (∀ verify, ∃ result reached, Parameters.read verify source world = (result, reached) ∧
      (result =
          (Parameters.ofBytes verify (left world)).mapError (fun error => .value error.message) ∨
        ∃ error, result = .error (.system error) ∧ source.BreaksOff error reached)) ∧
    let loaded := after (load Phase2.backend source name) pipeline world
    (∃ parameters, Parameters.ofBytes true (left world) = .ok parameters ∧
        loaded.result = .ok () ∧ loaded.pipeline.stage = .loaded ∧
        loaded.pipeline.parameters? = some parameters) ∨
      (∃ error, Parameters.ofBytes true (left world) = .error error ∧
        Misread pipeline name error.message loaded) ∨
      ∃ error, source.BreaksOff error loaded.world ∧ Misread pipeline name error.reason loaded := by
  refine ⟨fun verify => Parameters.exists_read_eq yields verify world, ?_⟩
  obtain ⟨result, reached, read_eq, ends⟩ := Parameters.exists_read_eq yields true world
  change (Phase2.backend : Backend (StateM World) Parameters).read source world = _ at read_eq
  dsimp only
  rcases ends with rfl | ⟨error, rfl, breaks⟩
  · cases parsed : Parameters.ofBytes true (left world) with
    | ok parameters =>
        rw [parsed] at read_eq
        rw [after_load_of_ok idle name read_eq]
        exact .inl ⟨parameters, rfl, rfl, rfl, rfl⟩
    | error error =>
        rw [parsed] at read_eq
        have misread := misread_of_error idle name (.value error.message) read_eq rfl
        exact .inr (.inl ⟨error, rfl, misread⟩)
  · have misread := misread_of_error idle name (.system error) read_eq rfl
    have world_eq : (after (load Phase2.backend source name) pipeline world).world = reached := by
      rw [after_load_of_error idle name read_eq]
    exact .inr (.inr ⟨error, world_eq ▸ breaks, misread⟩)

end Action

namespace Interrupted

open BeaconCeremony.Action BeaconCeremony.Pipeline

/-- The error of a device that cannot be read any more. -/
def deviceError : SystemError := ⟨some 5, "Input/output error"⟩

/-- The beginning of a file of a version that is not known. -/
def bytes : Bytes := Phase2.magic ++ [0, 0, 0, 2]

/-- What loading leaves behind if the device fails in the middle of the version. -/
def loaded : Aftermath Phase2.Parameters (Bytes × Nat) Unit :=
  after (load Phase2.backend (Source.lasting deviceError) "in") (Unloaded.pipeline "in") (bytes, 18)

theorem eq_deviceError {error : SystemError} {after : Bytes × Nat}
    (breaks : (Source.lasting deviceError).BreaksOff error after) : error = deviceError := by
  obtain ⟨count, ⟨left, reads⟩, read_eq⟩ := breaks
  cases reads with
  | zero => cases read_eq; rfl
  | succ reads => cases read_eq

theorem malformed_reported_broken :
    (Source.lasting deviceError).Yields Prod.fst ∧ (Unloaded.pipeline "in").stage = .idle ∧
      (Misread (Unloaded.pipeline "in") "in" "unsupported parameters version 2" loaded ∨
        Misread (Unloaded.pipeline "in") "in" "Input/output error" loaded) := by
  have yields := Source.yields_lasting deviceError
  have parsed : Phase2.Parameters.ofBytes true bytes = .error (.version 2) := by decide +kernel
  refine ⟨yields, rfl, ?_⟩
  have idle : (Unloaded.pipeline "in").stage = .idle := rfl
  rcases (malformed_reported yields idle "in" (bytes, 18)).2 with
    ⟨parameters, accepted, -⟩ | ⟨error, refused, misread⟩ | ⟨error, breaks, misread⟩
  · cases parsed.symm.trans accepted
  · cases parsed.symm.trans refused
    exact .inl misread
  · rw [eq_deviceError breaks] at misread
    exact .inr misread

end Interrupted

end BeaconCeremony

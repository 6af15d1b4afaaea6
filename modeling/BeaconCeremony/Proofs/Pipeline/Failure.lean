import BeaconCeremony.Phase2.Backend
import BeaconCeremony.Proofs.Chain.Validation
import BeaconCeremony.Proofs.Machine
import BeaconCeremony.Proofs.Pipeline.Steps

/-!
# What becomes of a failure

A failure inside of a step ends the contribution, which keeps it and records its outcome; so does a
refused request, and a file that the operating system does not open.  What else can go wrong in a
run with files is outside of the steps: some of it is not noted at all, and a file that cannot be
closed after a failure hides what has been noted.  Nor is it noted that a beacon value cannot be
shown in its refusal.
-/

namespace BeaconCeremony

/-- A failure blamed on parameters does not come from the operating system any more. -/
theorem Failure.blame_ne_system (failure : Failure) (blamed : RawText → CeremonyError)
    (error : SystemError) : failure.blame blamed ≠ .system error := by
  cases failure <;> simp [blame, streamReason?]

namespace Pipeline

variable {World Params : Type}

/-- The contribution has ended with a failure, and its outcome has been recorded after others. -/
structure Kept (runs : List Outcome) (failure : Failure) (pipeline : Pipeline Params) : Prop where
  /-- The contribution has failed. -/
  stage_eq : pipeline.stage = .failed
  /-- This is the failure. -/
  failure_eq : pipeline.failure? = some failure
  /-- Its outcome has been recorded, and nothing else. -/
  runs_eq : pipeline.metrics.runs = runs ++ [.ofFailure failure]

/-- A failure that a run with files does not take note of, with the stage that the contribution
stays at and the surroundings that are left. -/
inductive Unnoted (host : Host (StateM World)) (beacon : Datum) (inputPath outputPath : RawText)
    (failure : Failure) : Stage → World → Prop
  /-- The beacon value is no text, and cannot be shown in the refusal. -/
  | showBeacon {world : World} {unshown : LiteralError} (foreign : ∀ text, beacon ≠ .text text)
      (unwritten : beacon.literal host.depth = .error unshown)
      (failure_eq : failure = unshown.failure) :
      Unnoted host beacon inputPath outputPath failure .idle world
  /-- The input cannot be opened, and the operating system has nothing to do with it. -/
  | openInput {world left : World}
      (opened : host.openInput inputPath world = (.error failure, left))
      (foreign : ∀ error, failure ≠ .system error) :
      Unnoted host beacon inputPath outputPath failure .idle left
  /-- The input cannot be closed after it has been read. -/
  | closeInput {before world left : World} {file : InputFile (StateM World)}
      (opened : (host.openInput inputPath before).1 = .ok file)
      (closed : file.close world = (.error failure, left)) :
      Unnoted host beacon inputPath outputPath failure .loaded left
  /-- The output cannot be opened, and the operating system has nothing to do with it. -/
  | openOutput {world left : World}
      (opened : host.openOutput outputPath world = (.error failure, left))
      (foreign : ∀ error, failure ≠ .system error) :
      Unnoted host beacon inputPath outputPath failure .contributed left
  /-- The output cannot be closed after it has been written, and the operating system has nothing to
  do with it. -/
  | closeOutput {before world left : World} {file : OutputFile (StateM World)}
      (opened : (host.openOutput outputPath before).1 = .ok file)
      (closed : file.close world = (.error failure, left))
      (foreign : ∀ error, failure ≠ .system error) :
      Unnoted host beacon inputPath outputPath failure .persisted left
  /-- It cannot be shown that the output has been written. -/
  | echo {world left : World} {line : RawText} (written : line ∈ Report.writtenLines outputPath)
      (shown : host.echo line world = (.error failure, left)) :
      Unnoted host beacon inputPath outputPath failure .persisted left

/-- A failure that a run with files comes to after another one has been noted, with the surroundings
that are left. -/
inductive Overtakes (host : Host (StateM World)) (inputPath outputPath : RawText) :
    Failure → World → Prop
  /-- The input cannot be closed. -/
  | closeInput {before world left : World} {file : InputFile (StateM World)} {failure : Failure}
      (opened : (host.openInput inputPath before).1 = .ok file)
      (closed : file.close world = (.error failure, left)) :
      Overtakes host inputPath outputPath failure left
  /-- The output cannot be closed. -/
  | closeOutput {before world left : World} {file : OutputFile (StateM World)} {failure : Failure}
      (opened : (host.openOutput outputPath before).1 = .ok file)
      (closed : file.close world = (.error failure, left))
      (foreign : ∀ error, failure ≠ .system error) :
      Overtakes host inputPath outputPath failure left
  /-- The operating system does not close the output. -/
  | serialize {before world left : World} {file : OutputFile (StateM World)} {error : SystemError}
      (opened : (host.openOutput outputPath before).1 = .ok file)
      (closed : file.close world = (.error (.system error), left)) :
      Overtakes host inputPath outputPath
        (.ceremony (.serializationWrite outputPath error.reason)) left

theorem kept_fail {pipeline : Pipeline Params} (unfailed : pipeline.stage ≠ .failed)
    (failure : Failure) : Kept pipeline.metrics.runs failure (pipeline.fail failure) := by
  rw [fail, if_neg unfailed]
  exact ⟨rfl, rfl, rfl⟩

theorem Kept.fail {runs : List Outcome} {first : Failure} {pipeline : Pipeline Params}
    (kept : Kept runs first pipeline) (failure : Failure) :
    Kept runs first (pipeline.fail failure) := by
  rwa [Pipeline.fail, if_pos kept.stage_eq]

end Pipeline

namespace Action

open BeaconCeremony.Pipeline

variable {World Params α : Type} {host : Host (StateM World)}
  {backend : Backend (StateM World) Params} {failure? : Option Failure} {runs : List Outcome}

/-- The stage, the failure and the outcomes are the given ones. -/
def Clean (stage : Stage) (failure? : Option Failure) (runs : List Outcome)
    (pipeline : Pipeline Params) (_ : World) : Prop :=
  pipeline.stage = stage ∧ pipeline.failure? = failure? ∧ pipeline.metrics.runs = runs

/-- What a run with files leaves behind when it fails: the failure has been noted, or another one
has, or nothing has. -/
def Ends (host : Host (StateM World)) (beacon : Datum) (inputPath outputPath : RawText)
    (failure? : Option Failure) (runs : List Outcome) (failure : Failure)
    (pipeline : Pipeline Params) (world : World) : Prop :=
  Kept runs failure pipeline ∨
    (∃ first, Kept runs first pipeline ∧ Overtakes host inputPath outputPath failure world) ∨
    pipeline.failure? = failure? ∧ pipeline.metrics.runs = runs ∧
      Unnoted host beacon inputPath outputPath failure pipeline.stage world

theorem Clean.kept {stage : Stage} {pipeline : Pipeline Params} {world : World}
    (clean : Clean stage failure? runs pipeline world) (unfailed : stage ≠ .failed)
    (failure : Failure) : Kept runs failure (pipeline.fail failure) := by
  obtain ⟨rfl, -, rfl⟩ := clean
  exact kept_fail unfailed failure

theorem Clean.ends {stage : Stage} {pipeline : Pipeline Params} {world : World} {beacon : Datum}
    {inputPath outputPath : RawText} {failure : Failure}
    (clean : Clean stage failure? runs pipeline world)
    (unnoted : Unnoted host beacon inputPath outputPath failure stage world) :
    Ends host beacon inputPath outputPath failure? runs failure pipeline world := by
  obtain ⟨rfl, failure_eq, runs_eq⟩ := clean
  exact .inr (.inr ⟨failure_eq, runs_eq, unnoted⟩)

theorem steady_clean (stage : Stage) :
    Steady host (Clean stage failure? runs : Pipeline Params → World → Prop) where
  agree same clean := by
    simp only [standing, Prod.mk.injEq] at same
    obtain ⟨stage_eq, -, failure_eq, runs_eq⟩ := same
    exact ⟨stage_eq.trans clean.1, failure_eq.trans clean.2.1, runs_eq.trans clean.2.2⟩
  echo _ _ _ clean := clean

/-- A failure inside of a step is kept. -/
theorem IsStep.keeps_failure {name : String} {expected target : Stage}
    {kind : (Pipeline Params → World → Prop) → Prop} {action : Action (StateM World) Params α}
    (isStep : IsStep name expected target kind action)
    (calm : kind (Clean expected failure? runs)) (unfailed : expected ≠ .failed) :
    Triple (Clean expected failure? runs) action (fun _ => Clean target failure? runs)
      (fun failure pipeline _ => Kept runs failure pipeline) := by
  obtain ⟨body, rfl, keeps⟩ := isStep
  apply Triple.step (keeps _ calm)
  · exact fun _ _ clean => clean.1
  · exact fun _ _ _ clean => ⟨rfl, clean.2⟩
  · exact fun failure _ _ clean => clean.kept unfailed failure

/-- Whatever goes wrong with writing, the operating system is not left to blame. -/
theorem persist_keeps_failure (sink : Sink (StateM World)) (name : RawText) :
    Triple (Clean .contributed failure? runs) (persist backend sink name)
      (fun _ => Clean .persisted failure? runs)
      (fun failure pipeline _ => Kept runs failure pipeline ∧
        ∀ error, failure ≠ .system error) := by
  let blamed (failure : Failure) (pipeline : Pipeline Params) (world : World) : Prop :=
    Clean .contributed failure? runs pipeline world ∧ ∀ error, failure ≠ .system error
  refine Triple.step (?_ : Triple _ _ (fun _ => Clean .contributed failure? runs) blamed) ?_ ?_ ?_
  · refine Triple.bind (fun _ => Clean .contributed failure? runs) ?_ fun parameters => ?_
    · refine (Triple.require _ _).imp (fun _ _ clean => clean) (fun _ _ _ found => found.2) ?_
      rintro failure pipeline world ⟨⟨rfl, -⟩, clean⟩
      exact ⟨clean, nofun⟩
    · have writes : Keeps (Clean .contributed failure? runs : Pipeline Params → World → Prop) (do
          perform (backend.write parameters sink)
          perform sink.flush) :=
        Keeps.bind (Keeps.perform fun _ _ clean => clean) fun _ =>
          Keeps.perform fun _ _ clean => clean
      refine Triple.bind _ (Triple.observe writes) fun written => ?_
      cases written with
      | ok value => exact fun _ _ clean => clean
      | error failure =>
          exact fun _ _ clean => ⟨clean, failure.blame_ne_system (.serializationWrite name)⟩
  · exact fun _ _ clean => clean.1
  · exact fun _ _ _ clean => ⟨rfl, clean.2⟩
  · rintro failure pipeline world ⟨clean, foreign⟩
    exact ⟨clean.kept (by decide) failure, foreign⟩

section Files

variable {beacon : Datum} {inputPath outputPath : RawText}

theorem loadFile_ends :
    Triple (Clean .idle failure? runs) (loadFile host backend inputPath)
      (fun _ => Clean .loaded failure? runs)
      (Ends host beacon inputPath outputPath failure? runs) := by
  refine Triple.bind (fun opened pipeline world => Clean .idle failure? runs pipeline world ∧
    ∃ before, host.openInput inputPath before = (opened, world))
    (.lift _ fun _ world clean => ⟨clean, world, rfl⟩) fun opened => ?_
  rintro pipeline world ⟨clean, before, opened_eq⟩
  cases opened with
  | error failure =>
      cases failure with
      | system error => exact .inl (clean.kept (by decide) _)
      | _ => exact clean.ends (.openInput opened_eq nofun)
  | ok file =>
      have file_eq : (host.openInput inputPath before).1 = .ok file := congrArg Prod.fst opened_eq
      refine Triple.closing ((isStep_load host file.source inputPath).keeps_failure
        ⟨steady_clean .idle, fun _ _ clean => clean⟩ (by decide)) ?_ ?_ pipeline world clean
      · intro value pipeline world clean
        rcases closed : file.close world with ⟨failure | value, left⟩
        · exact Clean.ends clean (.closeInput file_eq closed)
        · exact clean
      · intro failure pipeline world kept
        rcases closed : file.close world with ⟨later | value, left⟩
        · exact .inr (.inl ⟨failure, kept, .closeInput file_eq closed⟩)
        · exact .inl kept

theorem persistFile_ends :
    Triple (Clean .contributed failure? runs) (persistFile host backend outputPath)
      (fun _ => Clean .persisted failure? runs)
      (Ends host beacon inputPath outputPath failure? runs) := by
  refine Triple.bind (fun opened pipeline world => Clean .contributed failure? runs pipeline world ∧
    ∃ before, host.openOutput outputPath before = (opened, world))
    (.lift _ fun _ world clean => ⟨clean, world, rfl⟩) fun opened => ?_
  rintro pipeline world ⟨clean, before, opened_eq⟩
  cases opened with
  | error failure =>
      cases failure with
      | system error => exact .inl (clean.kept (by decide) _)
      | _ => exact clean.ends (.openOutput opened_eq nofun)
  | ok file =>
      have file_eq : (host.openOutput outputPath before).1 = .ok file := congrArg Prod.fst opened_eq
      -- A failure to close is told apart from the failures inside of the step.
      let closes (failure : Failure) (world : World) : Prop :=
        ∃ earlier, file.close earlier = (.error failure, world)
      have written : Triple (Clean .contributed failure? runs)
          (closing file.close (persist backend file.sink outputPath))
          (fun _ => Clean .persisted failure? runs) (fun failure pipeline world =>
            (Kept runs failure pipeline ∧ ∀ error, failure ≠ .system error) ∨
            (∃ first, Kept runs first pipeline ∧ closes failure world) ∨
            Clean .persisted failure? runs pipeline world ∧ closes failure world) := by
        refine Triple.closing (persist_keeps_failure file.sink outputPath) ?_ ?_
        · intro value pipeline world clean
          rcases closed : file.close world with ⟨failure | value, left⟩
          · exact .inr (.inr ⟨clean, world, closed⟩)
          · exact clean
        · intro failure pipeline world kept
          rcases closed : file.close world with ⟨later | value, left⟩
          · exact .inr (.inl ⟨failure, kept.1, world, closed⟩)
          · exact .inl kept
      refine Triple.bind _ written.observe (fun settled => ?_) pipeline world clean
      cases settled with
      | ok value => exact fun pipeline world clean => clean
      | error failure =>
          cases failure with
          | system error =>
              refine Triple.abort _ fun pipeline world settled => ?_
              rcases settled with ⟨-, foreign⟩ | ⟨first, kept, earlier, closed⟩ | ⟨clean, -⟩
              · exact absurd rfl (foreign error)
              · exact .inr (.inl ⟨first, kept.fail _, .serialize file_eq closed⟩)
              · exact .inl (clean.kept (by decide) _)
          | _ =>
              intro pipeline world settled
              rcases settled with ⟨kept, -⟩ | ⟨first, kept, earlier, closed⟩ |
                ⟨clean, earlier, closed⟩
              · exact .inl kept
              · exact .inr (.inl ⟨first, kept, .closeOutput file_eq closed nofun⟩)
              · exact clean.ends (.closeOutput file_eq closed nofun)

theorem echoAll_ends :
    Triple (Clean .persisted failure? runs)
      (echoAll host (Report.writtenLines outputPath) : Action (StateM World) Params Unit)
      (fun _ => Clean .persisted failure? runs)
      (Ends host beacon inputPath outputPath failure? runs) := by
  refine Triple.echoAll fun line member pipeline world clean => ?_
  rcases shown : host.echo line world with ⟨failure | value, left⟩
  · exact Clean.ends clean (.echo member shown)
  · exact clean

theorem finish_keeps_failure (inputPath? outputPath? : Option RawText) :
    Triple (Clean .persisted failure? runs)
      (finish inputPath? outputPath? : Action (StateM World) Params Receipt)
      (fun _ _ _ => True) (fun failure pipeline _ => Kept runs failure pipeline) := by
  obtain ⟨making, isStep, finish_eq⟩ := @exists_isStep_finish World Params inputPath? outputPath?
  rw [finish_eq]
  exact Triple.bind _ (isStep.keeps_failure True.intro (by decide)) fun receipt _ _ _ => True.intro

/-- A request is refused with an error of the contribution, unless the beacon value cannot be
shown. -/
theorem cases_of_checkRequest_eq_error {depth : Nat} {exponent : Datum} {failure : Failure}
    (refused : checkRequest depth beacon exponent = .error failure) :
    (∃ error, failure = .ceremony error) ∨
      (∀ text, beacon ≠ .text text) ∧
        ∃ unshown, beacon.literal depth = .error unshown ∧ failure = unshown.failure := by
  rcases error_of_bind_eq_error refused with refused | ⟨_, -, refused⟩
  · obtain ⟨error, -, failure_eq⟩ := exists_of_mapError_eq_error refused
    exact .inl ⟨error, failure_eq⟩
  · rcases error_of_bind_eq_error refused with refused | ⟨_, -, accepted⟩
    · exact (Chain.cases_of_parseBeacon_eq_error refused).imp_left
        fun ⟨shown, fault, failure_eq⟩ => ⟨.beaconFormat shown fault, failure_eq⟩
    · contradiction

/-- How a run of an idle contribution ends when it fails. -/
theorem run_ends {config : Config} (beacon exponent : Datum)
    (inputPath? outputPath? : Option RawText) (tag : Int) :
    Triple (fun pipeline world =>
        pipeline.config = config ∧ Clean .idle failure? runs pipeline world)
      (run host backend beacon exponent inputPath? outputPath? tag) (fun _ _ _ => True)
      (Ends host beacon (chosenPath inputPath? config.inputPath)
        (chosenPath outputPath? config.outputPath) failure? runs) := by
  have kept {stage target : Stage} {α : Type} {action : Action (StateM World) Params α}
      (keeps : Triple (Clean stage failure? runs) action (fun _ => Clean target failure? runs)
        (fun failure pipeline _ => Kept runs failure pipeline)) :
      Triple (Clean stage failure? runs) action (fun _ => Clean target failure? runs)
        (Ends host beacon (chosenPath inputPath? config.inputPath)
          (chosenPath outputPath? config.outputPath) failure? runs) :=
    keeps.imp (fun _ _ clean => clean) (fun _ _ _ clean => clean) fun _ _ _ kept => .inl kept
  refine Triple.bind _ .get fun read => ?_
  rintro pipeline world ⟨rfl, rfl, clean⟩
  refine (?_ : Triple (Clean .idle failure? runs) _ _ _) read world clean
  rw [if_neg (not_not_intro clean.1)]
  cases checked : checkRequest host.depth beacon exponent with
  | error failure =>
      rcases cases_of_checkRequest_eq_error checked with
        ⟨error, rfl⟩ | ⟨foreign, unshown, unwritten, rfl⟩
      · exact Triple.abort _ fun _ _ clean => .inl (clean.kept (by decide) _)
      · cases unshown with
        | longNumber => exact fun _ _ clean => clean.ends (.showBeacon foreign unwritten rfl)
        | tooDeep => exact fun _ _ clean => clean.ends (.showBeacon foreign unwritten rfl)
  | ok _ =>
      apply Triple.bind _ loadFile_ends
      intro _
      apply Triple.bind _ (kept ((isStep_derive beacon exponent).keeps_failure
        (steady_clean .loaded) (by decide)))
      intro _
      apply Triple.bind _ (kept ((isStep_seed host).keeps_failure
        (steady_clean .beaconDerived) (by decide)))
      intro _
      apply Triple.bind _ (kept ((isStep_contribute tag).keeps_failure
        ⟨steady_clean .seeded, fun _ _ _ _ clean => clean⟩ (by decide)))
      intro _
      apply Triple.bind _ persistFile_ends
      intro _
      apply Triple.bind _ echoAll_ends
      intro _
      exact (finish_keeps_failure _ _).imp (fun _ _ clean => clean) (fun _ _ _ _ => True.intro)
        fun _ _ _ kept => .inl kept

end Files

/-- A run that fails leaves an idle contribution with this failure and its outcome, or it comes to
this failure when closing a file after another one has been noted, or the failure is one of those
that are not noted, and then the contribution stays at the stage where it happened. -/
theorem failed_run {pipeline : Pipeline Params} {world : World} {beacon exponent : Datum}
    {inputPath? outputPath? : Option RawText} {tag : Int} {failure : Failure}
    (idle : pipeline.stage = .idle)
    (failed : (after (run host backend beacon exponent inputPath? outputPath? tag) pipeline
      world).result = .error failure) :
    let left := after (run host backend beacon exponent inputPath? outputPath? tag) pipeline world
    let inputPath := chosenPath inputPath? pipeline.config.inputPath
    let outputPath := chosenPath outputPath? pipeline.config.outputPath
    Kept pipeline.metrics.runs failure left.pipeline ∨
      (∃ first, Kept pipeline.metrics.runs first left.pipeline ∧
        Overtakes host inputPath outputPath failure left.world) ∨
      left.pipeline.failure? = pipeline.failure? ∧
        left.pipeline.metrics.runs = pipeline.metrics.runs ∧
        Unnoted host beacon inputPath outputPath failure left.pipeline.stage left.world := by
  have ends := @run_ends World Params host backend pipeline.failure? pipeline.metrics.runs
    pipeline.config beacon exponent inputPath? outputPath? tag pipeline world
    ⟨rfl, idle, rfl, rfl⟩
  rw [Aftermath.Meets, failed] at ends
  exact ends

section Refused

variable {pipeline : Pipeline Params} (world : World) (beacon exponent : Datum)
  (inputPath? outputPath? : Option RawText) (tag : Int)

/-- A run of a contribution that is not idle does nothing but say so. -/
theorem after_run_of_ne (away : pipeline.stage ≠ .idle) :
    after (run host backend beacon exponent inputPath? outputPath? tag) pipeline world =
      ⟨.error (.ceremony (.stepOrder "run" Stage.idle.name pipeline.stage.name)), pipeline,
        world⟩ := by
  rw [run, after_bind, after_get]
  dsimp only
  rw [if_pos away]
  rfl

/-- A run of a request that is refused has no effect but to fail. -/
theorem after_run_of_refused {failure : Failure} (idle : pipeline.stage = .idle)
    (refused : checkRequest host.depth beacon exponent = .error failure) :
    ∃ left, (left = pipeline ∨ left = pipeline.fail failure) ∧
      after (run host backend beacon exponent inputPath? outputPath? tag) pipeline world =
        ⟨.error failure, left, world⟩ := by
  rw [run, after_bind, after_get]
  dsimp only
  rw [if_neg (not_not_intro idle), refused]
  cases failure with
  | ceremony error => exact ⟨_, .inr rfl, rfl⟩
  | _ => exact ⟨_, .inl rfl, rfl⟩

end Refused

/-- A run ends with the failure of loading, if there is one. -/
theorem after_run_of_unloaded {pipeline left : Pipeline Params} {world reached : World}
    {beacon exponent : Datum} {inputPath? outputPath? : Option RawText} {tag : Int}
    {failure : Failure} (idle : pipeline.stage = .idle)
    (accepted : checkRequest host.depth beacon exponent = .ok ())
    (unloaded : after (loadFile host backend (chosenPath inputPath? pipeline.config.inputPath))
      pipeline world = ⟨.error failure, left, reached⟩) :
    after (run host backend beacon exponent inputPath? outputPath? tag) pipeline world =
      ⟨.error failure, left, reached⟩ := by
  rw [run, after_bind, after_get]
  dsimp only
  rw [if_neg (not_not_intro idle), accepted]
  exact after_bind_of_error _ _ _ unloaded

end Action

namespace Unloaded

open BeaconCeremony.Action BeaconCeremony.Pipeline

/-- A machine without files. -/
def bare : Machine := { storage := Storage.fresh "home" }

/-- A contribution on it that nothing has happened to, with a name for its input. -/
def pipeline (inputPath : RawText) : Pipeline Phase2.Parameters :=
  .start ⟨inputPath, "out", "bn254-phase2", .bool false⟩

/-- The beacon value of nothing but zeros. -/
def zeros : Datum := .text (String.ofList (List.replicate 64 '0'))

/-- What is left of it after a run with the shortest chain. -/
def left (inputPath : RawText) : Aftermath Phase2.Parameters Machine Receipt :=
  after (run Machine.host Phase2.backend zeros (.int 10) none none 0) (pipeline inputPath) bare

/-- The failure of a run whose input is not there. -/
def missing : Failure := .ceremony (.inputOpen "in" SystemError.noSuchFile.reason)

theorem opened_missing : (Machine.host : Host (StateM Machine)).openInput "in" bare =
    (.error (.system .noSuchFile), bare) := by
  let place : List Bytes := ["home", "in"].map Utf8.encode
  have placed : bare.storage.place "in" = .ok place := eq_ok_of_toOption (by decide +kernel)
  have absent : bare.storage.find? place = none := by decide +kernel
  have content_eq : bare.storage.content "in" = .error (.system .noSuchFile) := by
    simp only [Storage.content, placed, absent, bind, Except.bind]
  rw [Machine.openInput_eq, content_eq]

theorem opened_null : (Machine.host : Host (StateM Machine)).openInput "a\x00b" bare =
    (.error (.value "embedded null byte"), bare) := by
  have null : 0 ∈ Utf8.encode "a\x00b" := by decide +kernel
  rw [Machine.openInput_eq, Storage.content_of_null (RawText.pathBytes_coe _) null]

theorem left_missing : left "in" = ⟨.error missing, (pipeline "in").fail missing, bare⟩ := by
  apply after_run_of_unloaded rfl rfl
  change after (loadFile Machine.host Phase2.backend "in") (pipeline "in") bare = _
  rw [loadFile, after_bind, after_lift, opened_missing]
  rfl

theorem left_null : left "a\x00b" =
    ⟨.error (.value "embedded null byte"), pipeline "a\x00b", bare⟩ := by
  apply after_run_of_unloaded rfl rfl
  change after (loadFile Machine.host Phase2.backend "a\x00b") (pipeline "a\x00b") bare = _
  rw [loadFile, after_bind, after_lift, opened_null]
  rfl

/-- A file that is not there. -/
theorem failed_run_missing :
    (pipeline "in").stage = .idle ∧ (left "in").result = .error missing ∧
      (Kept [] missing (left "in").pipeline ∨
        (∃ first, Kept [] first (left "in").pipeline ∧
          Overtakes Machine.host "in" "out" missing (left "in").world) ∨
        (left "in").pipeline.failure? = none ∧ (left "in").pipeline.metrics.runs = [] ∧
          Unnoted Machine.host zeros "in" "out" missing (left "in").pipeline.stage
            (left "in").world) := by
  have failed : (left "in").result = .error missing := by rw [left_missing]
  exact ⟨rfl, failed, failed_run rfl failed⟩

/-- A path with a null byte is accepted as a setting and no file has it; the failure is not
noted. -/
theorem failed_run_null :
    (∃ settings : Settings, settings.check = .ok (pipeline "a\x00b").config) ∧
      (pipeline "a\x00b").stage = .idle ∧
      (left "a\x00b").result = .error (.value "embedded null byte") ∧
      (left "a\x00b").pipeline.stage ≠ .failed ∧ (left "a\x00b").pipeline.failure? = none ∧
      (left "a\x00b").pipeline.metrics.runs = [] := by
  have accepted : Settings.check ⟨.text "a\x00b", .text "out", .text "bn254-phase2", .bool false⟩ =
      .ok (pipeline "a\x00b").config := by
    rfl
  rw [left_null]
  exact ⟨⟨_, accepted⟩, rfl, rfl, by decide, rfl, rfl⟩

end Unloaded

end BeaconCeremony

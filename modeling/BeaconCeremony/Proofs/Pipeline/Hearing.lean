import BeaconCeremony.Proofs.Chain.Walk
import BeaconCeremony.Proofs.Pipeline.Indifference

/-!
# What is heard of a run

How a run reports, and to whom, has no part in what it comes to.  The lines that are heard of two
runs are the same as well, but for those of the checkpoints, which a quiet run leaves out.
-/

namespace BeaconCeremony

/-- The lines of checkpoints, which a quiet run leaves out. -/
def Report.checkpointLines (checkpoints : List Checkpoint) (quiet : Bool) : List RawText :=
  if quiet then [] else checkpoints.map fun checkpoint => .ofString (checkpointLine checkpoint)

theorem Report.checkpointLines_nil : checkpointLines [] = fun _ => [] := by
  funext quiet
  cases quiet with
  | true => rfl
  | false => rfl

theorem Report.checkpointLines_cons (checkpoint : Checkpoint) (checkpoints : List Checkpoint) :
    checkpointLines (checkpoint :: checkpoints) = fun quiet =>
      checkpointLines [checkpoint] quiet ++ checkpointLines checkpoints quiet := by
  funext quiet
  cases quiet with
  | true => rfl
  | false => rfl

namespace Action

open BeaconCeremony.Pipeline

variable {World Params α β : Type}

section Checkpoints

variable (host : Host (StateM World))

/-- The contribution after some more checkpoints. -/
def passing (pipeline : Pipeline Params) (checkpoints : List Checkpoint) : Pipeline Params :=
  { pipeline with reporter :=
    { pipeline.reporter with
      checkpointsSeen := pipeline.reporter.checkpointsSeen + checkpoints.length } }

theorem passing_passing (pipeline : Pipeline Params) (checkpoint : Checkpoint)
    (checkpoints : List Checkpoint) :
    passing (passing pipeline [checkpoint]) checkpoints =
      passing pipeline (checkpoint :: checkpoints) := by
  have seen_eq : pipeline.reporter.checkpointsSeen + 1 + checkpoints.length =
      pipeline.reporter.checkpointsSeen + (checkpoints.length + 1) := by omega
  simp only [passing, List.length_cons, List.length_nil, seen_eq]

theorem leaves_reportCheckpoint (checkpoint : Checkpoint) (pipeline : Pipeline Params)
    (world : World) :
    Leaves (fun reporting => reportCheckpoint (host.facing reporting) checkpoint) pipeline world
      ⟨.ok (), passing pipeline [checkpoint], world⟩ (Report.checkpointLines [checkpoint]) := by
  rintro ⟨asked, quiet, tag, Heard, hear⟩ heard
  cases quiet with
  | true => rfl
  | false => rfl

/-- All checkpoints are counted, and their lines come one after the other. -/
theorem leaves_forM (checkpoints : List Checkpoint) (pipeline : Pipeline Params) (world : World) :
    Leaves (fun reporting => checkpoints.forM (reportCheckpoint (host.facing reporting))) pipeline
      world ⟨.ok (), passing pipeline checkpoints, world⟩ (Report.checkpointLines checkpoints) := by
  induction checkpoints generalizing pipeline with
  | nil =>
      rw [Report.checkpointLines_nil]
      exact fun _ _ => rfl
  | cons checkpoint checkpoints ih =>
      rw [Report.checkpointLines_cons, ← passing_passing]
      exact (leaves_reportCheckpoint host checkpoint pipeline world).bind (ih _)

end Checkpoints

/-- Either an action fails before any checkpoint is reported, or it has reported those of the chain
that is asked for. -/
def Shown (depth : Nat) (beacon exponent : Datum) (checkpoints : List Checkpoint)
    (result : Except Failure α) : Prop :=
  (checkpoints = [] ∧ ∃ failure, result = .error failure) ∨
    ∃ chain, Chain.ofHex depth beacon exponent = .ok chain ∧
      checkpoints = chain.definition.checkpoints

/-- From a contribution in its surroundings an action leaves the same behind and tells the same
lines, whatever the reporting is, but for one row of checkpoints.  They are those of the chain that
is asked for, unless the action fails before. -/
def ReportsAt (depth : Nat) (beacon exponent : Datum) (action : Reported World Params α)
    (pipeline : Pipeline Params) (world : World) : Prop :=
  ∃ left earlier checkpoints later,
    Leaves action pipeline world left
        (fun quiet => earlier ++ Report.checkpointLines checkpoints quiet ++ later) ∧
      left.pipeline.reporter.checkpointsSeen =
        pipeline.reporter.checkpointsSeen + checkpoints.length ∧
      Shown depth beacon exponent checkpoints left.result

/-- The action does so from every contribution in all surroundings. -/
def ReportsChain (depth : Nat) (beacon exponent : Datum) (action : Reported World Params α) :
    Prop :=
  ∀ pipeline world, ReportsAt depth beacon exponent action pipeline world

section Chains

variable {depth : Nat} {beacon exponent : Datum} {action : Reported World Params α}
  {next : ∀ reporting : Reporting, α → Action (StateM (Beside World reporting.Heard)) Params β}
  {pipeline left : Pipeline Params} {world reached : World}

/-- A failure before any checkpoint is reported. -/
theorem Leaves.failsEarly {failure : Failure} {lines : List RawText}
    (leaves : Leaves action pipeline world ⟨.error failure, left, reached⟩ fun _ => lines)
    (seen_eq : left.reporter.checkpointsSeen = pipeline.reporter.checkpointsSeen) :
    ReportsAt depth beacon exponent action pipeline world := by
  refine ⟨_, lines, [], [], leaves.congr fun quiet => ?_, seen_eq, .inl ⟨rfl, failure, rfl⟩⟩
  rw [Report.checkpointLines_nil, List.append_nil, List.append_nil]

theorem ReportsChain.throw (failure : Failure) :
    ReportsChain depth beacon exponent (fun _ => throw failure : Reported World Params α) :=
  fun _ _ => (Leaves.throw failure).failsEarly rfl

theorem ReportsChain.abort (failure : Failure) :
    ReportsChain depth beacon exponent (fun _ => abort failure : Reported World Params α) :=
  fun pipeline _ => (Leaves.abort failure).failsEarly (pipeline.seen_fail failure)

theorem ReportsChain.get {next : ∀ reporting : Reporting, Pipeline Params →
      Action (StateM (Beside World reporting.Heard)) Params β}
    (uses : ∀ read : Pipeline Params,
      ReportsChain depth beacon exponent fun reporting =>
        next reporting (read.reportedAs reporting)) :
    ReportsChain depth beacon exponent fun reporting => get >>= next reporting :=
  fun pipeline world => uses pipeline pipeline world

theorem ReportsChain.before (first : Indifferent action)
    (second : ∀ value, ReportsChain depth beacon exponent fun reporting => next reporting value) :
    ReportsChain depth beacon exponent fun reporting => action reporting >>= next reporting := by
  intro pipeline world
  obtain ⟨⟨result, left, reached⟩, lines, seen_eq, leaves⟩ := first pipeline world
  cases result with
  | error failure => exact leaves.bind_of_error.failsEarly seen_eq
  | ok value =>
      obtain ⟨aftermath, earlier, checkpoints, later, rest, more_eq, shown⟩ :=
        second value left reached
      refine ⟨aftermath, lines ++ earlier, checkpoints, later,
        (leaves.bind rest).congr fun quiet => ?_, ?_, shown⟩
      · simp only [List.append_assoc]
      · rw [more_eq, seen_eq]

theorem ReportsChain.andThen (first : ReportsChain depth beacon exponent action)
    (second : ∀ value, Indifferent fun reporting => next reporting value) :
    ReportsChain depth beacon exponent fun reporting => action reporting >>= next reporting := by
  intro pipeline world
  obtain ⟨⟨result, left, reached⟩, earlier, checkpoints, later, leaves, seen_eq, shown⟩ :=
    first pipeline world
  cases result with
  | error failure =>
      exact ⟨_, earlier, checkpoints, later, leaves.bind_of_error, seen_eq,
        shown.imp_left fun early => ⟨early.1, failure, rfl⟩⟩
  | ok value =>
      obtain ⟨aftermath, lines, more_eq, rest⟩ := second value left reached
      refine ⟨aftermath, earlier, checkpoints, later ++ lines,
        (leaves.bind rest).congr fun quiet => ?_, more_eq.trans seen_eq, .inr ?_⟩
      · simp only [List.append_assoc]
      · refine shown.resolve_left ?_
        rintro ⟨-, failure, failed⟩
        contradiction

theorem ReportsChain.timed (note : Metrics → Metrics)
    (reports : ReportsChain depth beacon exponent action) :
    ReportsChain depth beacon exponent fun reporting => timed note (action reporting) := by
  intro pipeline world
  obtain ⟨left, earlier, checkpoints, later, leaves, seen_eq, shown⟩ := reports pipeline world
  exact ⟨⟨left.result, { left.pipeline with metrics := note left.pipeline.metrics }, left.world⟩,
    earlier, checkpoints, later, leaves.timed note, seen_eq, shown⟩

theorem ReportsChain.step (name : String) (expected target : Stage)
    (reports : ReportsChain depth beacon exponent action) :
    ReportsChain depth beacon exponent fun reporting =>
      step name expected target (action reporting) := by
  intro pipeline world
  by_cases staged : pipeline.stage = expected
  · obtain ⟨⟨result, left, reached⟩, earlier, checkpoints, later, leaves, seen_eq, shown⟩ :=
      reports pipeline world
    cases result with
    | ok value =>
        exact ⟨⟨.ok value, left.moveTo target, reached⟩, earlier, checkpoints, later,
          leaves.step staged, seen_eq, shown⟩
    | error failure =>
        exact ⟨⟨.error failure, left.fail failure, reached⟩, earlier, checkpoints, later,
          leaves.step_of_error staged, (left.seen_fail failure).trans seen_eq, shown⟩
  · exact (Leaves.step_of_ne staged).failsEarly rfl

end Chains

section Runs

open BeaconCeremony.Phase2 (Parameters backend)

variable (host : Host (StateM World))

theorem reportsChain_forM {beacon exponent : Datum} {chain : Chain}
    (parsed : Chain.ofHex host.depth beacon exponent = .ok chain) :
    ReportsChain host.depth beacon exponent (fun reporting => chain.definition.checkpoints.forM
      (reportCheckpoint (host.facing reporting)) : Reported World Params PUnit) := by
  intro pipeline world
  exact ⟨_, [], chain.definition.checkpoints, [],
    (leaves_forM host chain.definition.checkpoints pipeline world).congr fun _ =>
      (List.append_nil _).symm, rfl, .inr ⟨chain, parsed, rfl⟩⟩

theorem reportsChain_derive (beacon exponent : Datum) :
    ReportsChain host.depth beacon exponent (fun reporting =>
      derive (host.facing reporting) beacon exponent : Reported World Params Derivation) := by
  refine .step _ _ _ ?_
  simp only [Host.depth_facing]
  cases parsed : Chain.ofHex host.depth beacon exponent with
  | error failure => exact .throw _
  | ok chain =>
      refine .before (fun _ _ => ⟨_, _, rfl, .echo _⟩) fun _ => .andThen (.timed _ ?_)
        fun derivation => ?_
      · simp only [Chain.run_eq]
        refine .andThen (.andThen (reportsChain_forM host parsed) fun _ => .pure _)
          fun result => ?_
        cases result with
        | ok derivation =>
            exact .bind (.modify (fun _ _ => rfl) fun _ => rfl) fun _ => .pure _
        | error failure => exact .throw failure
      · exact .bind (.modify (fun _ _ => rfl) fun _ => rfl) fun _ =>
          .bind (.echoAll _) fun _ => .pure _

theorem reportsChain_run (beacon exponent : Datum) (inputPath? outputPath? : Option RawText) :
    ReportsChain host.depth beacon exponent (fun reporting =>
      run (host.facing reporting) backend beacon exponent inputPath? outputPath? reporting.tag :
      Reported World Parameters Receipt) := by
  refine .get fun read => ?_
  have same_stage (reporting : Reporting) : (read.reportedAs reporting).stage = read.stage := rfl
  have same_input (reporting : Reporting) :
      (read.reportedAs reporting).config.inputPath = read.config.inputPath := rfl
  have same_output (reporting : Reporting) :
      (read.reportedAs reporting).config.outputPath = read.config.outputPath := rfl
  simp only [same_stage, same_input, same_output]
  by_cases idle : read.stage = .idle
  · simp only [idle, ne_eq, not_true_eq_false, if_false, Host.depth_facing]
    cases checkRequest host.depth beacon exponent with
    | error failure =>
        cases failure with
        | ceremony error => exact .abort _
        | _ => exact .throw _
    | ok _ =>
        refine .before (indifferent_loadFile host _) fun _ => ?_
        refine .andThen (reportsChain_derive host beacon exponent) fun _ => ?_
        refine .bind indifferent_seed fun _ => ?_
        refine .bind (indifferent_contribute host) fun _ => ?_
        refine .bind (indifferent_persistFile host _) fun _ => ?_
        exact .bind (.echoAll _) fun _ => indifferent_finish _ _
  · simp only [ne_eq, idle, not_false_eq_true, if_true]
    exact .throw _

end Runs

end Action

open BeaconCeremony.Phase2 (Parameters backend)

variable {World : Type}

/-- What a run leaves behind that reports in this way. -/
def Reporting.outcome (reporting : Reporting) (host : Host (StateM World))
    (beacon exponent : Datum) (inputPath? outputPath? : Option RawText)
    (pipeline : Pipeline Parameters) (world : World) (heard : reporting.Heard) :
    Aftermath Parameters (Beside World reporting.Heard) Receipt :=
  (Pipeline.run (host.facing reporting) backend beacon exponent inputPath? outputPath?
    reporting.tag).after (pipeline.reportedAs reporting) ⟨world, heard⟩

/-- Two runs that differ in their reporting options and their audiences alone come to the same
receipt or failure, leave the same surroundings with the same files behind, and the same
contribution with the same generator but for the reporting options.  Their audiences hear the same
lines in the same order, but those of the checkpoints only from a run that is not quiet.  The
checkpoints are the 1024 ones of the chain, if the run comes that far, and both runs count them. -/
theorem run_indifferent (host : Host (StateM World)) (beacon exponent : Datum)
    (inputPath? outputPath? : Option RawText) (pipeline : Pipeline Parameters) (world : World)
    (one other : Reporting) (heard : one.Heard) (otherHeard : other.Heard) :
    let left := one.outcome host beacon exponent inputPath? outputPath? pipeline world heard
    let otherLeft :=
      other.outcome host beacon exponent inputPath? outputPath? pipeline world otherHeard
    otherLeft.result = left.result ∧
      otherLeft.world.world = left.world.world ∧
      otherLeft.pipeline = left.pipeline.reportedAs other ∧
      otherLeft.pipeline.generator? = left.pipeline.generator? ∧
      ∃ (earlier later : List RawText) (checkpoints : List Checkpoint),
        let lines (quiet : Bool) := earlier ++ Report.checkpointLines checkpoints quiet ++ later
        left.world.kept = (lines one.quiet).foldl one.hear heard ∧
          otherLeft.world.kept = (lines other.quiet).foldl other.hear otherHeard ∧
          left.pipeline.reporter.checkpointsSeen =
            pipeline.reporter.checkpointsSeen + checkpoints.length ∧
          otherLeft.pipeline.reporter.checkpointsSeen =
            pipeline.reporter.checkpointsSeen + checkpoints.length ∧
          ((checkpoints = [] ∧ ∃ failure, left.result = .error failure) ∨
            ∃ chain, Chain.ofHex host.depth beacon exponent = .ok chain ∧
              checkpoints = chain.definition.checkpoints ∧ checkpoints.length = 1024) := by
  intro left otherLeft
  obtain ⟨aftermath, earlier, checkpoints, later, leaves, seen_eq, shown⟩ :=
    Action.reportsChain_run host beacon exponent inputPath? outputPath? pipeline world
  have left_eq := leaves one heard
  have other_eq := leaves other otherHeard
  change left = _ at left_eq
  change otherLeft = _ at other_eq
  rw [left_eq, other_eq]
  refine ⟨rfl, rfl, rfl, rfl, earlier, later, checkpoints, rfl, rfl, seen_eq, seen_eq,
    shown.imp_right ?_⟩
  rintro ⟨chain, parsed, checkpoints_eq⟩
  refine ⟨chain, parsed, checkpoints_eq, ?_⟩
  rw [checkpoints_eq, Chain.definition, List.length_map, List.length_range]
  rfl

end BeaconCeremony

import BeaconCeremony.Proofs.Pipeline.Aftermath
import BeaconCeremony.Proofs.Pipeline.Audience

/-!
# Steps that do not depend on reporting

An action is given for every kind of reporting.  It is indifferent if it always comes to the same
result, contribution and surroundings and tells the same lines.  All steps of a contribution are
indifferent but the one that runs the chain.
-/

namespace BeaconCeremony

namespace Action

open BeaconCeremony.Pipeline

variable {World Params α β : Type}

/-- An action for every kind of reporting. -/
abbrev Reported (World Params α : Type) :=
  ∀ reporting : Reporting, Action (StateM (Beside World reporting.Heard)) Params α

/-- Whatever the reporting is, the action leaves the same behind but for the reporting options, and
its lines, which may depend on whether it is quiet, are heard. -/
def Leaves (action : Reported World Params α) (pipeline : Pipeline Params) (world : World)
    (left : Aftermath Params World α) (lines : Bool → List RawText) : Prop :=
  ∀ reporting heard, after (action reporting) (pipeline.reportedAs reporting) ⟨world, heard⟩ =
    ⟨left.result, left.pipeline.reportedAs reporting, left.world,
      (lines reporting.quiet).foldl reporting.hear heard⟩

/-- The action leaves the same behind and tells the same lines, whatever the reporting is, and
reports no checkpoint. -/
def Indifferent (action : Reported World Params α) : Prop :=
  ∀ pipeline world, ∃ left lines,
    left.pipeline.reporter.checkpointsSeen = pipeline.reporter.checkpointsSeen ∧
      Leaves action pipeline world left fun _ => lines

section Rules

variable {action : Reported World Params α} {next : ∀ reporting : Reporting, α →
    Action (StateM (Beside World reporting.Heard)) Params β}
  {pipeline left : Pipeline Params} {world reached : World}
  {lines moreLines : Bool → List RawText}

theorem Leaves.congr {aftermath : Aftermath Params World α} {others : Bool → List RawText}
    (leaves : Leaves action pipeline world aftermath lines)
    (same : ∀ quiet, lines quiet = others quiet) :
    Leaves action pipeline world aftermath others :=
  funext same ▸ leaves

theorem Leaves.bind {value : α} {aftermath : Aftermath Params World β}
    (first : Leaves action pipeline world ⟨.ok value, left, reached⟩ lines)
    (second : Leaves (fun reporting => next reporting value) left reached aftermath moreLines) :
    Leaves (fun reporting => action reporting >>= next reporting) pipeline world aftermath
      fun quiet => lines quiet ++ moreLines quiet := by
  intro reporting heard
  rw [after_bind_of_ok _ _ _ (first reporting heard), second, List.foldl_append]

theorem Leaves.bind_of_error {failure : Failure}
    (first : Leaves action pipeline world ⟨.error failure, left, reached⟩ lines) :
    Leaves (fun reporting => action reporting >>= next reporting) pipeline world
      ⟨.error failure, left, reached⟩ lines :=
  fun reporting heard => after_bind_of_error _ _ _ (first reporting heard)

theorem Leaves.observe {aftermath : Aftermath Params World α}
    (leaves : Leaves action pipeline world aftermath lines) :
    Leaves (fun reporting => observe (action reporting)) pipeline world
      ⟨.ok aftermath.result, aftermath.pipeline, aftermath.world⟩ lines := by
  intro reporting heard
  exact congrArg (fun aftermath : Aftermath Params (Beside World reporting.Heard) α =>
    (⟨.ok aftermath.result, aftermath.pipeline, aftermath.world⟩ : Aftermath Params _ _))
    (leaves reporting heard)

theorem Leaves.modify {change : Pipeline Params → Pipeline Params}
    (commutes : ∀ reporting, change (pipeline.reportedAs reporting) =
      (change pipeline).reportedAs reporting) :
    Leaves (fun _ => modify change) pipeline world ⟨.ok (), change pipeline, world⟩ fun _ => [] :=
  fun reporting heard => congrArg (fun changed => (⟨.ok (), changed, ⟨world, heard⟩⟩ :
    Aftermath Params (Beside World reporting.Heard) Unit)) (commutes reporting)

theorem Leaves.settle (result : Except Failure α) :
    Leaves (fun _ => match result with
      | .ok value => Pure.pure value
      | .error failure => MonadExcept.throw failure) pipeline world ⟨result, pipeline, world⟩
      fun _ => [] := by
  cases result with
  | ok value => exact fun _ _ => rfl
  | error failure => exact fun _ _ => rfl

theorem Leaves.throw (failure : Failure) :
    Leaves (fun _ => throw failure : Reported World Params α) pipeline world
      ⟨.error failure, pipeline, world⟩ fun _ => [] :=
  fun _ _ => rfl

theorem Leaves.echo {host : Host (StateM World)} (line : RawText) :
    Leaves (fun reporting => perform ((host.facing reporting).echo line)) pipeline world
      ⟨.ok (), pipeline, world⟩ fun _ => [line] :=
  fun _ _ => rfl

theorem Leaves.echoAll {host : Host (StateM World)} (texts : List RawText) :
    Leaves (fun reporting => echoAll (host.facing reporting) texts) pipeline world
      ⟨.ok (), pipeline, world⟩ fun _ => texts := by
  induction texts with
  | nil => exact fun _ _ => rfl
  | cons text texts ih => exact (Leaves.echo text).bind ih

/-- What is timed is noted, however the action ends. -/
theorem Leaves.timed {aftermath : Aftermath Params World α} (note : Metrics → Metrics)
    (leaves : Leaves action pipeline world aftermath lines) :
    Leaves (fun reporting => timed note (action reporting)) pipeline world
      ⟨aftermath.result,
        { aftermath.pipeline with metrics := note aftermath.pipeline.metrics }, aftermath.world⟩
      lines := by
  intro reporting heard
  refine (after_bind_of_ok _ _ _ (leaves.observe reporting heard)).trans ?_
  obtain ⟨failure | value, left, reached⟩ := aftermath
  · rfl
  · rfl

theorem Leaves.step {name : String} {expected target : Stage} {value : α}
    (staged : pipeline.stage = expected)
    (leaves : Leaves action pipeline world ⟨.ok value, left, reached⟩ lines) :
    Leaves (fun reporting => step name expected target (action reporting)) pipeline world
      ⟨.ok value, left.moveTo target, reached⟩ lines := by
  intro reporting heard
  have reported : (pipeline.reportedAs reporting).stage = expected := staged
  exact after_step_of_ok reported (leaves reporting heard)

theorem Leaves.step_of_error {name : String} {expected target : Stage} {failure : Failure}
    (staged : pipeline.stage = expected)
    (leaves : Leaves action pipeline world ⟨.error failure, left, reached⟩ lines) :
    Leaves (fun reporting => Action.step name expected target (action reporting)) pipeline world
      ⟨.error failure, left.fail failure, reached⟩ lines := by
  intro reporting heard
  have reported : (pipeline.reportedAs reporting).stage = expected := staged
  rw [← fail_reportedAs left reporting failure]
  exact after_step_of_error reported (leaves reporting heard)

theorem Leaves.step_of_ne {name : String} {expected target : Stage}
    (away : pipeline.stage ≠ expected) :
    Leaves (fun reporting => Action.step name expected target (action reporting)) pipeline world
      ⟨.error (.ceremony (.stepOrder name expected.name pipeline.stage.name)), pipeline, world⟩
      fun _ => [] := by
  intro reporting heard
  have reported : (pipeline.reportedAs reporting).stage ≠ expected := away
  exact after_step_of_ne reported (Beside.mk world heard)

theorem Leaves.abort (failure : Failure) :
    Leaves (fun _ => abort failure : Reported World Params α) pipeline world
      ⟨.error failure, pipeline.fail failure, world⟩ fun _ => [] :=
  fun reporting heard => congrArg (fun failed => (⟨.error failure, failed, ⟨world, heard⟩⟩ :
    Aftermath Params (Beside World reporting.Heard) α)) (pipeline.fail_reportedAs reporting failure)

theorem Indifferent.pure (value : α) :
    Indifferent (fun _ => pure value : Reported World Params α) :=
  fun pipeline world => ⟨⟨.ok value, pipeline, world⟩, [], rfl, fun _ _ => rfl⟩

theorem Indifferent.throw (failure : Failure) :
    Indifferent (fun _ => throw failure : Reported World Params α) :=
  fun _ _ => ⟨_, [], rfl, Leaves.throw failure⟩

theorem Indifferent.bind (first : Indifferent action)
    (second : ∀ value, Indifferent fun reporting => next reporting value) :
    Indifferent fun reporting => action reporting >>= next reporting := by
  intro pipeline world
  obtain ⟨⟨result, left, reached⟩, lines, seen_eq, leaves⟩ := first pipeline world
  cases result with
  | error failure => exact ⟨_, lines, seen_eq, leaves.bind_of_error⟩
  | ok value =>
      obtain ⟨aftermath, moreLines, more_eq, rest⟩ := second value left reached
      exact ⟨aftermath, lines ++ moreLines, more_eq.trans seen_eq, leaves.bind rest⟩

/-- Of the contribution that is read everything but the reporting options may be used. -/
theorem Indifferent.get {next : ∀ reporting : Reporting, Pipeline Params →
      Action (StateM (Beside World reporting.Heard)) Params β}
    (uses : ∀ read : Pipeline Params,
      Indifferent fun reporting => next reporting (read.reportedAs reporting)) :
    Indifferent fun reporting => get >>= next reporting :=
  fun pipeline world => uses pipeline pipeline world

theorem Indifferent.modify {change : Pipeline Params → Pipeline Params}
    (commutes : ∀ pipeline reporting, change (pipeline.reportedAs reporting) =
      (change pipeline).reportedAs reporting)
    (seen_eq : ∀ pipeline, (change pipeline).reporter.checkpointsSeen =
      pipeline.reporter.checkpointsSeen) :
    Indifferent (fun _ => modify change : Reported World Params Unit) :=
  fun pipeline world =>
    ⟨⟨.ok (), change pipeline, world⟩, [], seen_eq pipeline, Leaves.modify (commutes pipeline)⟩

theorem Indifferent.lift (operation : StateM World α) :
    Indifferent
      (fun reporting => liftM (Beside.lift operation : StateM (Beside World reporting.Heard) α) :
        Reported World Params α) :=
  fun pipeline world =>
    ⟨⟨.ok (operation world).1, pipeline, (operation world).2⟩, [], rfl, fun _ _ => rfl⟩

theorem Indifferent.settle (result : Except Failure α) :
    Indifferent (fun _ => match result with
      | .ok value => Pure.pure value
      | .error failure => MonadExcept.throw failure : Reported World Params α) :=
  fun pipeline world => ⟨⟨result, pipeline, world⟩, [], rfl, Leaves.settle result⟩

theorem Indifferent.perform (operation : StateM World (Except Failure α)) :
    Indifferent (fun _ => perform (Beside.lift operation) : Reported World Params α) :=
  .bind (.lift operation) .settle

theorem Indifferent.observe (indifferent : Indifferent action) :
    Indifferent fun reporting => observe (action reporting) := by
  intro pipeline world
  obtain ⟨left, lines, seen_eq, leaves⟩ := indifferent pipeline world
  exact ⟨_, lines, seen_eq, leaves.observe⟩

theorem Indifferent.abort (failure : Failure) :
    Indifferent (fun _ => abort failure : Reported World Params α) :=
  fun pipeline world =>
    ⟨⟨.error failure, pipeline.fail failure, world⟩, [], pipeline.seen_fail failure,
      .abort failure⟩

theorem Indifferent.require (name : String) {result : Pipeline Params → Option α}
    (same : ∀ pipeline reporting, result (pipeline.reportedAs reporting) = result pipeline) :
    Indifferent (fun _ => require name result : Reported World Params α) := by
  refine .get fun read => ?_
  simp only [same]
  cases result read with
  | some value => exact .pure value
  | none =>
      exact .throw (.ceremony (.stepOrder name "prior steps completed" read.stage.name))

theorem Indifferent.timed (note : Metrics → Metrics) (indifferent : Indifferent action) :
    Indifferent fun reporting => timed note (action reporting) := by
  intro pipeline world
  obtain ⟨left, lines, seen_eq, leaves⟩ := indifferent pipeline world
  exact ⟨⟨left.result, { left.pipeline with metrics := note left.pipeline.metrics }, left.world⟩,
    lines, seen_eq, leaves.timed note⟩

theorem Indifferent.step (name : String) (expected target : Stage)
    (indifferent : Indifferent action) :
    Indifferent fun reporting => step name expected target (action reporting) := by
  intro pipeline world
  by_cases staged : pipeline.stage = expected
  · obtain ⟨⟨result, left, reached⟩, lines, seen_eq, leaves⟩ := indifferent pipeline world
    cases result with
    | ok value =>
        exact ⟨⟨.ok value, left.moveTo target, reached⟩, lines, seen_eq, leaves.step staged⟩
    | error failure =>
        exact ⟨_, lines, (left.seen_fail failure).trans seen_eq, leaves.step_of_error staged⟩
  · exact ⟨_, [], rfl, .step_of_ne staged⟩

theorem Indifferent.closing (close : StateM World (Except Failure Unit))
    (indifferent : Indifferent action) :
    Indifferent fun reporting => closing (Beside.lift close) (action reporting) :=
  .bind indifferent.observe fun result =>
    .bind (.perform close) fun _ => .perform (Pure.pure result)

theorem Indifferent.echoAll {host : Host (StateM World)} (texts : List RawText) :
    Indifferent (fun reporting => echoAll (host.facing reporting) texts :
      Reported World Params Unit) :=
  fun _ _ => ⟨_, texts, rfl, Leaves.echoAll texts⟩

/-- What has been opened looks different to different audiences, but comes from the same file. -/
theorem Indifferent.opening {File : Type} {Opened : Reporting → Type}
    {next : ∀ reporting : Reporting, Except Failure (Opened reporting) →
      Action (StateM (Beside World reporting.Heard)) Params β}
    (operation : StateM World (Except Failure File))
    (wrap : ∀ reporting, File → Opened reporting)
    (uses : ∀ opened : Except Failure File,
      Indifferent fun reporting => next reporting (opened.map (wrap reporting))) :
    Indifferent fun reporting =>
      (liftM (do return (← Beside.lift operation).map (wrap reporting) :
        StateM (Beside World reporting.Heard) _) : Action _ Params _) >>= next reporting :=
  fun pipeline world => uses (operation world).1 pipeline (operation world).2

end Rules

/-! ### Steps -/

section Steps

open BeaconCeremony.Phase2 (Parameters backend)

variable (host : Host (StateM World))

theorem indifferent_load (source : Source (StateM World)) (name : RawText) :
    Indifferent (fun _ => load backend source.beside name : Reported World Parameters Unit) := by
  refine .step _ _ _ (.bind (.modify (fun _ _ => rfl) fun _ => rfl) fun _ =>
    .bind ?_ fun result => ?_)
  · simp only [Phase2.backend_read_beside]
    exact .lift _
  · cases result with
    | ok parameters => exact .modify (fun _ _ => rfl) fun _ => rfl
    | error failure => exact .throw _

theorem indifferent_loadFile (path : RawText) :
    Indifferent (fun reporting => loadFile (host.facing reporting) backend path :
      Reported World Parameters Unit) := by
  refine .opening (host.openInput path) (fun _ => InputFile.beside) fun opened => ?_
  rcases opened with failure | file
  · cases failure with
    | system error => exact .abort _
    | _ => exact .throw _
  · exact .closing file.close (indifferent_load file.source path)

theorem indifferent_seed : Indifferent (fun _ => seed : Reported World Parameters Seed) :=
  .step _ _ _ (.bind (.require _ fun _ _ => rfl) fun _ =>
    .bind (.modify (fun _ _ => rfl) fun _ => rfl) fun _ => .pure _)

theorem indifferent_contribute :
    Indifferent (fun reporting => contribute (host.facing reporting) backend reporting.tag :
      Reported World Parameters Bytes) := by
  refine .step _ _ _ (.bind (.require _ fun _ _ => rfl) fun parameters =>
    .bind (.require _ fun _ _ => rfl) fun generator => .get fun read =>
      .bind ?_ fun _ => .bind (.timed _ ?_) fun returned => ?_)
  · exact fun pipeline world => ⟨_, _, rfl, .echo (Report.contributingLine read.source)⟩
  · simp only [Phase2.backend_contribute_eq]
    exact .bind (.lift (pure (Phase2.contributed parameters generator))) fun contributed =>
      .bind (.modify (fun _ _ => rfl) fun _ => rfl) fun _ => .perform (pure contributed.result)
  · have same (reporting : Reporting) : (read.reportedAs reporting).source = read.source := rfl
    simp only [same]
    cases fingerprintOf read.source returned with
    | error error => exact .throw _
    | ok fingerprint =>
        exact .bind (.modify (fun _ _ => rfl) fun _ => rfl) fun _ =>
          .bind (.echoAll _) fun _ => .pure _

theorem indifferent_persist (sink : Sink (StateM World)) (name : RawText) :
    Indifferent (fun _ => persist backend sink.beside name : Reported World Parameters Unit) := by
  refine .step _ _ _ (.bind (.require _ fun _ _ => rfl) fun parameters =>
    .bind (.observe ?_) fun written => ?_)
  · simp only [Phase2.backend_write_beside]
    exact .bind (.perform _) fun _ => .perform sink.flush
  · cases written with
    | ok value => exact .pure _
    | error failure => exact .throw _

theorem indifferent_persistFile (path : RawText) :
    Indifferent (fun reporting => persistFile (host.facing reporting) backend path :
      Reported World Parameters Unit) := by
  refine .opening (host.openOutput path) (fun _ => OutputFile.beside) fun opened => ?_
  rcases opened with failure | file
  · cases failure with
    | system error => exact .abort _
    | _ => exact .throw _
  · refine .bind (.observe (.closing file.close (indifferent_persist file.sink path)))
      fun settled => ?_
    rcases settled with failure | value
    · cases failure with
      | system error => exact .abort _
      | _ => exact .throw _
    · exact .pure _

theorem indifferent_finish (inputPath? outputPath? : Option RawText) :
    Indifferent (fun _ => finish inputPath? outputPath? : Reported World Parameters Receipt) := by
  refine .bind (.step _ _ _ ?_) fun _ =>
    .bind (.modify (fun _ _ => rfl) fun _ => rfl) fun _ => .pure _
  exact .bind (.require _ fun _ _ => rfl) fun _ => .bind (.require _ fun _ _ => rfl) fun _ =>
    .bind (.require _ fun _ _ => rfl) fun _ => .pure _

end Steps

end Action
end BeaconCeremony

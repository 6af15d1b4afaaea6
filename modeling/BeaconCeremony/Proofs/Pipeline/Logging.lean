import BeaconCeremony.Proofs.Chain.Walk
import BeaconCeremony.Proofs.Pipeline.Aftermath
import BeaconCeremony.Proofs.Pipeline.Beside

/-!
# Runs with a logbook

For any host and any format a logbook can be kept of what a run does to its surroundings: which
lines are shown, which files are opened, and what the format returns for a contribution.  The
logbook does not interfere: a run that keeps one comes to the same result, contribution and
surroundings.
-/

namespace BeaconCeremony

/-- Something that a run does to its surroundings, or gets from its format. -/
inductive Deed
  /-- A line is handed to the host to be shown. -/
  | showing (line : RawText)
  /-- A file is to be opened for reading. -/
  | openingInput (path : RawText)
  /-- A file is to be opened for writing, which succeeds or not. -/
  | openingOutput (path : RawText) (succeeded : Bool)
  /-- The format returns from a contribution. -/
  | contributed (result : Except Failure Datum)

/-- Surroundings with a logbook of what has been done beside them. -/
abbrev Logbook (World : Type) := Beside World (List Deed)

section Logged

variable {World Params : Type}

/-- A host that enters what it is asked for. -/
def Host.logged (host : Host (StateM World)) : Host (StateM (Logbook World)) where
  echo line := do
    Beside.add (.showing line)
    Beside.lift (host.echo line)
  openInput path := do
    Beside.add (.openingInput path)
    Beside.opened (host.openInput path) InputFile.beside
  openOutput path := do
    let opened ← Beside.lift (host.openOutput path)
    Beside.add (.openingOutput path opened.isOk)
    return opened.map OutputFile.beside
  depth := host.depth

theorem Host.depth_logged (host : Host (StateM World)) : host.logged.depth = host.depth := rfl

/-- A format whose returns are entered. -/
def Backend.logged (backend : Backend (StateM World) Params) :
    Backend (StateM (Logbook World)) Params where
  read source := Beside.lift (backend.read source.alone)
  contribute parameters generator tag := do
    let contributed ← Beside.lift (backend.contribute parameters generator tag)
    Beside.add (.contributed contributed.result)
    return contributed
  write parameters sink := Beside.lift (backend.write parameters sink.alone)

end Logged

/-- What an action leaves behind, without the logbook. -/
def Aftermath.unlogged {Params World α : Type} (aftermath : Aftermath Params (Logbook World) α) :
    Aftermath Params World α :=
  ⟨aftermath.result, aftermath.pipeline, aftermath.world.world⟩

namespace Action

open BeaconCeremony.Pipeline

variable {World Params α β : Type}

/-- But for the logbook the second action leaves the same behind as the first one. -/
def Mirrors (plain : Action (StateM World) Params α)
    (logged : Action (StateM (Logbook World)) Params α) : Prop :=
  ∀ pipeline logbook, (after logged pipeline logbook).unlogged =
    after plain pipeline logbook.world

variable {plain : Action (StateM World) Params α}
  {logged : Action (StateM (Logbook World)) Params α}

theorem Mirrors.pure (value : α) :
    Mirrors (Pure.pure value : Action (StateM World) Params α) (Pure.pure value) :=
  fun _ _ => rfl

theorem Mirrors.throw (failure : Failure) :
    Mirrors (MonadExcept.throw failure : Action (StateM World) Params α)
      (MonadExcept.throw failure) :=
  fun _ _ => rfl

theorem Mirrors.get :
    Mirrors (MonadState.get : Action (StateM World) Params (Pipeline Params)) MonadState.get :=
  fun _ _ => rfl

theorem Mirrors.modify (change : Pipeline Params → Pipeline Params) :
    Mirrors (modify change : Action (StateM World) Params Unit) (modify change) :=
  fun _ _ => rfl

theorem Mirrors.bind (first : Mirrors plain logged) {next : α → Action (StateM World) Params β}
    {nextLogged : α → Action (StateM (Logbook World)) Params β}
    (second : ∀ value, Mirrors (next value) (nextLogged value)) :
    Mirrors (plain >>= next) (logged >>= nextLogged) := by
  intro pipeline logbook
  rw [after_bind, after_bind, ← first pipeline logbook]
  generalize after logged pipeline logbook = aftermath
  obtain ⟨failure | value, pipeline, logbook⟩ := aftermath
  · rfl
  · exact second value pipeline logbook

theorem Mirrors.lift {operation : StateM World α} {entering : StateM (Logbook World) α}
    (same : ∀ logbook, (entering logbook).1 = (operation logbook.world).1 ∧
      (entering logbook).2.world = (operation logbook.world).2) :
    Mirrors (liftM operation : Action (StateM World) Params α) (liftM entering) := by
  intro pipeline logbook
  rw [after_lift, after_lift, Aftermath.unlogged, (same logbook).1, (same logbook).2]

theorem Mirrors.settle (result : Except Failure α) :
    Mirrors (match result with
        | .ok value => Pure.pure value
        | .error failure => MonadExcept.throw failure : Action (StateM World) Params α)
      (match result with
        | .ok value => Pure.pure value
        | .error failure => MonadExcept.throw failure) := by
  cases result with
  | ok value => exact .pure value
  | error failure => exact .throw failure

theorem Mirrors.perform {operation : StateM World (Except Failure α)}
    {entering : StateM (Logbook World) (Except Failure α)}
    (same : ∀ logbook, (entering logbook).1 = (operation logbook.world).1 ∧
      (entering logbook).2.world = (operation logbook.world).2) :
    Mirrors (perform operation : Action (StateM World) Params α) (perform entering) :=
  .bind (.lift same) .settle

theorem Mirrors.observe (mirrors : Mirrors plain logged) :
    Mirrors (observe plain) (observe logged) := by
  intro pipeline logbook
  have same := mirrors pipeline logbook
  exact congrArg (fun aftermath : Aftermath Params World α =>
    (⟨.ok aftermath.result, aftermath.pipeline, aftermath.world⟩ : Aftermath Params World _)) same

theorem Mirrors.abort (failure : Failure) :
    Mirrors (abort failure : Action (StateM World) Params α) (abort failure) :=
  .bind (.modify _) fun _ => .throw failure

theorem Mirrors.require (name : String) (result : Pipeline Params → Option α) :
    Mirrors (require name result : Action (StateM World) Params α) (require name result) := by
  refine .bind .get fun read => ?_
  cases result read with
  | some value => exact .pure value
  | none => exact .throw _

theorem Mirrors.timed (note : Metrics → Metrics) (mirrors : Mirrors plain logged) :
    Mirrors (timed note plain) (timed note logged) :=
  .bind mirrors.observe fun result => .bind (.modify _) fun _ => .settle result

theorem Mirrors.step (name : String) (expected target : Stage) (mirrors : Mirrors plain logged) :
    Mirrors (step name expected target plain) (step name expected target logged) := by
  refine .bind .get fun read => ?_
  dsimp only
  split
  · exact .throw _
  · refine .bind mirrors.observe fun result => ?_
    cases result with
    | ok value => exact .bind (.modify _) fun _ => .pure value
    | error failure => exact .abort failure

theorem Mirrors.closing {close : StateM World (Except Failure Unit)}
    {closeLogged : StateM (Logbook World) (Except Failure Unit)} (mirrors : Mirrors plain logged)
    (same : ∀ logbook, (closeLogged logbook).1 = (close logbook.world).1 ∧
      (closeLogged logbook).2.world = (close logbook.world).2) :
    Mirrors (closing close plain) (closing closeLogged logged) :=
  .bind mirrors.observe fun _ => .bind (.perform same) fun _ => .perform fun _ => ⟨rfl, rfl⟩

theorem Mirrors.forM {items : List β} {visit : β → Action (StateM World) Params PUnit}
    {visitLogged : β → Action (StateM (Logbook World)) Params PUnit}
    (visits : ∀ item, Mirrors (visit item) (visitLogged item)) :
    Mirrors (items.forM visit) (items.forM visitLogged) := by
  induction items with
  | nil => exact .pure _
  | cons item items ih => exact .bind (visits item) fun _ => ih

section Steps

variable (host : Host (StateM World)) (backend : Backend (StateM World) Params)

theorem mirrors_echoAll (lines : List RawText) :
    Mirrors (echoAll host lines : Action (StateM World) Params Unit)
      (echoAll host.logged lines) := by
  induction lines with
  | nil => exact .pure ()
  | cons line lines ih => exact .bind (.perform fun _ => ⟨rfl, rfl⟩) fun _ => ih

theorem mirrors_reportCheckpoint (checkpoint : Checkpoint) :
    Mirrors (reportCheckpoint host checkpoint : Action (StateM World) Params Unit)
      (reportCheckpoint host.logged checkpoint) :=
  .bind .get fun _ => .bind (fun _ _ => rfl) fun _ => mirrors_echoAll host _

theorem mirrors_load (source : Source (StateM World)) (name : RawText) :
    Mirrors (load backend source name) (load backend.logged source.beside name) := by
  refine .step _ _ _ (.bind (.modify _) fun _ => .bind (.lift fun _ => ⟨rfl, rfl⟩) fun result => ?_)
  cases result with
  | ok parameters => exact .modify _
  | error failure => exact .throw _

theorem mirrors_derive (beacon exponent : Datum) :
    Mirrors (derive host beacon exponent : Action (StateM World) Params Derivation)
      (derive host.logged beacon exponent) := by
  refine .step _ _ _ ?_
  rw [Host.depth_logged]
  cases Chain.ofHex host.depth beacon exponent with
  | error failure => exact .throw _
  | ok chain =>
      refine .bind (.perform fun _ => ⟨rfl, rfl⟩) fun _ => .bind (.timed _ ?_) fun derivation => ?_
      · rw [Chain.run_eq, Chain.run_eq]
        refine .bind (.bind (.forM (mirrors_reportCheckpoint host)) fun _ => .pure _)
          fun result => ?_
        cases result with
        | ok derivation => exact .bind (.modify _) fun _ => .pure _
        | error failure => exact .throw failure
      · exact .bind (.modify _) fun _ => .bind (mirrors_echoAll host _) fun _ => .pure _

theorem mirrors_seed :
    Mirrors (seed : Action (StateM World) Params Seed)
      (seed : Action (StateM (Logbook World)) Params Seed) :=
  .step _ _ _ (.bind (.require _ _) fun _ => .bind (.modify _) fun _ => .pure _)

theorem mirrors_contribute (tag : Int) :
    Mirrors (contribute host backend tag) (contribute host.logged backend.logged tag) := by
  refine .step _ _ _ (.bind (.require _ _) fun parameters => .bind (.require _ _) fun generator =>
    .bind .get fun read => .bind (.perform fun _ => ⟨rfl, rfl⟩) fun _ =>
      .bind (.timed _ ?_) fun returned => ?_)
  · exact .bind (.lift fun _ => ⟨rfl, rfl⟩) fun contributed =>
      .bind (.modify _) fun _ => .perform fun _ => ⟨rfl, rfl⟩
  · cases fingerprintOf read.source returned with
    | error error => exact .throw _
    | ok fingerprint =>
        exact .bind (.modify _) fun _ => .bind (mirrors_echoAll host _) fun _ => .pure _

theorem mirrors_persist (sink : Sink (StateM World)) (name : RawText) :
    Mirrors (persist backend sink name) (persist backend.logged sink.beside name) := by
  refine .step _ _ _ (.bind (.require _ _) fun parameters => .bind (.observe ?_) fun written => ?_)
  · exact .bind (.perform fun _ => ⟨rfl, rfl⟩) fun _ => .perform fun _ => ⟨rfl, rfl⟩
  · cases written with
    | ok value => exact .pure _
    | error failure => exact .throw _

theorem mirrors_finish (inputPath? outputPath? : Option RawText) :
    Mirrors (finish inputPath? outputPath? : Action (StateM World) Params Receipt)
      (finish inputPath? outputPath? : Action (StateM (Logbook World)) Params Receipt) := by
  refine .bind (.step _ _ _ ?_) fun _ => .bind (.modify _) fun _ => .pure _
  exact .bind (.require _ _) fun _ => .bind (.require _ _) fun _ =>
    .bind (.require _ _) fun _ => .pure _

theorem mirrors_loadFile (path : RawText) :
    Mirrors (loadFile host backend path) (loadFile host.logged backend.logged path) := by
  intro pipeline logbook
  -- A file that has been opened is not the same with and without a logbook, but its content is.
  have opened_eq : host.logged.openInput path logbook =
      ((host.openInput path logbook.world).1.map InputFile.beside,
        ⟨(host.openInput path logbook.world).2, logbook.kept ++ [.openingInput path]⟩) := rfl
  rw [loadFile, loadFile, after_bind, after_bind, after_lift, after_lift, opened_eq]
  generalize host.openInput path logbook.world = outcome
  obtain ⟨failure | file, world⟩ := outcome
  · cases failure with
    | system error => exact Mirrors.abort _ pipeline _
    | _ => exact Mirrors.throw _ pipeline _
  · exact Mirrors.closing (mirrors_load backend file.source path) (fun _ => ⟨rfl, rfl⟩) pipeline _

theorem mirrors_persistFile (path : RawText) :
    Mirrors (persistFile host backend path) (persistFile host.logged backend.logged path) := by
  intro pipeline logbook
  have opened_eq : host.logged.openOutput path logbook =
      ((host.openOutput path logbook.world).1.map OutputFile.beside,
        ⟨(host.openOutput path logbook.world).2, logbook.kept ++
          [.openingOutput path (host.openOutput path logbook.world).1.isOk]⟩) := rfl
  rw [persistFile, persistFile, after_bind, after_bind, after_lift, after_lift, opened_eq]
  generalize host.openOutput path logbook.world = outcome
  obtain ⟨failure | file, world⟩ := outcome
  · cases failure with
    | system error => exact Mirrors.abort _ pipeline _
    | _ => exact Mirrors.throw _ pipeline _
  · have written : Mirrors (closing file.close (persist backend file.sink path))
        (closing file.beside.close (persist backend.logged file.beside.sink path)) :=
      .closing (mirrors_persist backend file.sink path) fun _ => ⟨rfl, rfl⟩
    refine Mirrors.bind written.observe (fun settled => ?_) pipeline _
    cases settled with
    | ok value => exact .pure _
    | error failure =>
        cases failure with
        | system error => exact .abort _
        | _ => exact .throw _

/-- Keeping a logbook does not change what a run comes to. -/
theorem mirrors_run (beacon exponent : Datum) (inputPath? outputPath? : Option RawText)
    (tag : Int) :
    Mirrors (run host backend beacon exponent inputPath? outputPath? tag)
      (run host.logged backend.logged beacon exponent inputPath? outputPath? tag) := by
  refine .bind .get fun read => ?_
  split
  · exact .throw _
  · rw [Host.depth_logged]
    cases checkRequest host.depth beacon exponent with
    | error failure =>
        cases failure with
        | ceremony error => exact .abort _
        | _ => exact .throw _
    | ok _ =>
        refine .bind (mirrors_loadFile host backend _) fun _ => ?_
        refine .bind (mirrors_derive host beacon exponent) fun _ => ?_
        refine .bind mirrors_seed fun _ => ?_
        refine .bind (mirrors_contribute host backend tag) fun _ => ?_
        refine .bind (mirrors_persistFile host backend _) fun _ => ?_
        exact .bind (mirrors_echoAll host _) fun _ => mirrors_finish _ _

end Steps

end Action
end BeaconCeremony

import BeaconCeremony.Proofs.Pipeline.Failure
import BeaconCeremony.Proofs.Pipeline.Logging
import BeaconCeremony.Proofs.Stream.Source

/-!
# What a run leaves untouched

A run checks its request before it opens a file, reads its input before it starts the chain, and has
a fingerprint before it opens its output.  So whatever keeps it from going on, what comes later has
not been touched: not the chain, not the screen, not the files.
-/

namespace BeaconCeremony

namespace Pipeline

variable {Params : Type}

/-- What a chain leaves in a contribution.  Its first checkpoint is seen before its first step, and
the time of a chain is taken however it ends. -/
def chainTraces (pipeline : Pipeline Params) : Reporter × Option Derivation × Nat × Nat :=
  (pipeline.reporter, pipeline.derivation?, pipeline.metrics.chainTimings,
    pipeline.metrics.iterations)

theorem chainTraces_fail (pipeline : Pipeline Params) (failure : Failure) :
    (pipeline.fail failure).chainTraces = pipeline.chainTraces := by
  rw [fail]
  split
  · rfl
  · rfl

end Pipeline

section Environment

variable {World Params Files : Type}

/-- Neither the format nor showing lines touches a file of its own accord, reading a file does not
change any, and a file that cannot be opened for writing is left as it is. -/
structure Harmless (host : Host (StateM World)) (backend : Backend (StateM World) Params)
    (files : World → Files) : Prop where
  echo : ∀ line world, files (host.echo line world).2 = files world
  openInput : ∀ path world, files (host.openInput path world).2 = files world
  /-- Reading from a file that has been opened and closing it. -/
  input : ∀ path world file, (host.openInput path world).1 = .ok file →
    (∀ count later, files (file.source.read count later).2 = files later) ∧
      ∀ later, files (file.close later).2 = files later
  /-- A format reads parameters from its source and from nowhere else. -/
  read : ∀ source : Source (StateM World),
    (∀ count world, files (source.read count world).2 = files world) →
      ∀ world, files (backend.read source world).2 = files world
  contribute : ∀ parameters generator tag world,
    files (backend.contribute parameters generator tag world).2 = files world
  openOutput : ∀ path world failure, (host.openOutput path world).1 = .error failure →
    files (host.openOutput path world).2 = files world

/-- No parameters come from a path: the file cannot be opened, or the format refuses its content. -/
inductive Unreadable (host : Host (StateM World)) (backend : Backend (StateM World) Params)
    (path : RawText) (world : World) : Prop
  | unopened {failure : Failure} (refused : (host.openInput path world).1 = .error failure)
  | malformed {file : InputFile (StateM World)} {failure : Failure}
      (opened : (host.openInput path world).1 = .ok file)
      (refused : (backend.read file.source (host.openInput path world).2).1 = .error failure)

end Environment

namespace Action

open BeaconCeremony.Pipeline

variable {World Params Files : Type} {host : Host (StateM World)}
  {backend : Backend (StateM World) Params} {files : World → Files} {content : Files}

/-- Once a chain is started a checkpoint has been seen, however the chain ends. -/
theorem checkpointsSeen_lt (host : Host (StateM World)) (chain : Chain) (seen : Nat) :
    Triple (fun pipeline _ => pipeline.reporter.checkpointsSeen = seen)
      (chain.run (reportCheckpoint host) :
        Action (StateM World) Params (Except Failure Derivation))
      (fun _ pipeline _ => seen < pipeline.reporter.checkpointsSeen)
      (fun _ pipeline _ => seen < pipeline.reporter.checkpointsSeen) := by
  let more (pipeline : Pipeline Params) (_ : World) : Prop :=
    seen < pipeline.reporter.checkpointsSeen
  have reports {before : Pipeline Params → World → Prop} (checkpoint : Checkpoint)
      (grows : ∀ pipeline world, before pipeline world →
        seen < pipeline.reporter.checkpointsSeen + 1) :
      Triple before (reportCheckpoint host checkpoint) (fun _ => more) (fun _ => more) := by
    refine Triple.bind _ .get fun read => Triple.bind (fun _ => more) ?_ fun _ =>
      Keeps.echoAll fun _ _ _ _ holds => holds
    rintro pipeline world ⟨rfl, holds⟩
    exact grows read world holds
  obtain ⟨first, rest, checkpoints_eq⟩ :
      ∃ first rest, chain.definition.checkpoints = first :: rest := by
    rw [Chain.definition, show Chain.checkpointCount = 1023 + 1 from rfl, List.range_succ_eq_map]
    exact ⟨_, _, rfl⟩
  rw [Chain.run_eq, checkpoints_eq]
  have first_seen : Triple (fun pipeline _ => pipeline.reporter.checkpointsSeen = seen)
      (reportCheckpoint host first) (fun _ => more) (fun _ => more) :=
    reports first fun pipeline _ seen_eq => seen_eq ▸ Nat.lt_succ_self _
  have rest_seen : Keeps more (rest.forM (reportCheckpoint host)) :=
    Keeps.forM fun checkpoint _ => reports checkpoint fun _ _ => Nat.lt_succ_of_lt
  exact Triple.bind _ (Triple.bind _ first_seen fun _ => rest_seen) fun _ => Keeps.pure _

/-- No chain is started without a trace. -/
theorem chainTraces_ne (host : Host (StateM World)) (chain : Chain) (pipeline : Pipeline Params)
    (world : World) :
    (after (chain.run (reportCheckpoint host)) pipeline world).pipeline.chainTraces ≠
      pipeline.chainTraces := by
  have grown := Aftermath.meets_const_iff.mp
    (checkpointsSeen_lt host chain pipeline.reporter.checkpointsSeen pipeline world rfl)
  intro same
  have seen_eq := congrArg (fun traces => traces.1.checkpointsSeen) same
  exact Nat.ne_of_gt grown seen_eq

/-! ### Before the chain -/

theorem exists_refused {depth : Nat} {beacon exponent : Datum}
    (invalid : (∃ error, Chain.Exponent.ofDatum exponent = .error error) ∨
      ∃ failure, Chain.parseBeacon depth beacon = .error failure) :
    ∃ failure, checkRequest depth beacon exponent = .error failure := by
  rw [checkRequest]
  cases counted : Chain.Exponent.ofDatum exponent with
  | error error => exact ⟨.ceremony error, rfl⟩
  | ok exponent =>
      rw [counted] at invalid
      obtain ⟨failure, parsed⟩ := invalid.resolve_left nofun
      rw [parsed]
      exact ⟨failure, rfl⟩

/-- Parameters that the format refuses are not loaded, and the chain has not been touched. -/
theorem load_malformed {file : InputFile (StateM World)} {failure : Failure} {reached : World}
    (refused : (backend.read file.source reached).1 = .error failure) (path : RawText)
    (before : Pipeline Params) (deeds : List Deed) :
    Triple (fun pipeline logbook => pipeline.stage = .idle ∧
        pipeline.chainTraces = before.chainTraces ∧ logbook = ⟨reached, deeds⟩)
      (load backend.logged file.beside.source path) (fun _ _ _ => False)
      (fun _ pipeline logbook => pipeline.chainTraces = before.chainTraces ∧
        logbook.kept = deeds) := by
  let unread (pipeline : Pipeline Params) (logbook : Logbook World) : Prop :=
    pipeline.chainTraces = before.chainTraces ∧ logbook.kept = deeds
  refine Triple.step (?_ : Triple _ _ (fun _ _ _ => False) fun _ => unread)
    (fun _ _ holds => holds.1) (fun _ _ _ impossible => impossible)
    fun _ _ _ holds => ⟨(chainTraces_fail _ _).trans holds.1, holds.2⟩
  refine Triple.bind (fun _ pipeline logbook => pipeline.chainTraces = before.chainTraces ∧
    logbook = ⟨reached, deeds⟩) (.modify _ fun _ _ holds => holds.2) fun _ => ?_
  refine Triple.bind (fun result pipeline logbook => result = .error failure ∧
    unread pipeline logbook) (.lift _ ?_) fun result => ?_
  · rintro pipeline _ ⟨same, rfl⟩
    exact ⟨refused, same, rfl⟩
  · rintro pipeline logbook ⟨rfl, holds⟩
    exact holds

/-- Loading fails without parameters.  It opens the input and does nothing else. -/
theorem loadFile_unreadable {path : RawText} {world : World}
    (unreadable : Unreadable host backend path world) (before : Pipeline Params) :
    Triple (fun pipeline logbook => pipeline.stage = .idle ∧
        pipeline.chainTraces = before.chainTraces ∧ logbook = ⟨world, []⟩)
      (loadFile host.logged backend.logged path) (fun _ _ _ => False)
      (fun _ pipeline logbook => pipeline.chainTraces = before.chainTraces ∧
        logbook.kept = [.openingInput path]) := by
  let unread (pipeline : Pipeline Params) (logbook : Logbook World) : Prop :=
    pipeline.chainTraces = before.chainTraces ∧ logbook.kept = [.openingInput path]
  refine Triple.bind (fun opened pipeline logbook => pipeline.stage = .idle ∧
    pipeline.chainTraces = before.chainTraces ∧
    logbook = ⟨(host.openInput path world).2, [.openingInput path]⟩ ∧
    opened = (host.openInput path world).1.map InputFile.beside) (.lift _ ?_) fun opened => ?_
  · rintro pipeline _ ⟨idle, same, rfl⟩
    exact ⟨idle, same, rfl, rfl⟩
  rintro pipeline _ ⟨idle, same, rfl, opened_eq⟩
  cases unreadable with
  | @unopened failure refused =>
      rw [refused] at opened_eq
      obtain rfl : opened = .error failure := opened_eq
      cases failure with
      | system error => exact ⟨(chainTraces_fail _ _).trans same, rfl⟩
      | _ => exact ⟨same, rfl⟩
  | @malformed file failure opened_ok refused =>
      rw [opened_ok] at opened_eq
      obtain rfl : opened = .ok file.beside := opened_eq
      have loads := load_malformed refused path before [.openingInput path]
      -- Closing the file does not undo the failure, and it is not a deed.
      have closes (failure : Failure) (pipeline : Pipeline Params) (logbook : Logbook World)
          (holds : unread pipeline logbook) :
          Settles (fun _ => unread) (fun _ => unread) (file.beside.close logbook).1 pipeline
            (file.beside.close logbook).2 := by
        change Settles _ _ (file.close logbook.world).1 pipeline
          (⟨(file.close logbook.world).2, logbook.kept⟩ : Logbook World)
        cases (file.close logbook.world).1 with
        | ok value => exact holds
        | error later => exact holds
      exact Triple.closing loads (fun _ _ _ impossible => impossible.elim) closes pipeline _
        ⟨idle, same, rfl⟩

/-! ### Files -/

/-- The files are as they were, and none has been tried to be opened for writing. -/
def Calm (files : World → Files) (content : Files) (logbook : Logbook World) : Prop :=
  files logbook.world = content ∧
    ∀ path succeeded, Deed.openingOutput path succeeded ∉ logbook.kept

/-- The format has returned a fingerprint. -/
def Earned (logbook : Logbook World) : Prop :=
  ∃ fingerprint, fingerprint.IsFingerprint ∧ Deed.contributed (.ok fingerprint) ∈ logbook.kept

/-- The format has returned a fingerprint, and every file could be opened for writing. -/
def Opened (logbook : Logbook World) : Prop :=
  Earned logbook ∧ ∀ path, Deed.openingOutput path false ∉ logbook.kept

theorem Calm.enter {logbook : Logbook World} {world : World} {deed : Deed}
    (calm : Calm files content logbook) (same : files world = files logbook.world)
    (other : ∀ path succeeded, deed ≠ .openingOutput path succeeded) :
    Calm files content ⟨world, logbook.kept ++ [deed]⟩ := by
  refine ⟨same.trans calm.1, fun path succeeded member => ?_⟩
  rcases List.mem_append.mp member with earlier | latest
  · exact calm.2 path succeeded earlier
  · exact other path succeeded (List.mem_singleton.mp latest).symm

theorem Earned.enter {logbook : Logbook World} (earned : Earned logbook) (world : World)
    (deed : Deed) : Earned (⟨world, logbook.kept ++ [deed]⟩ : Logbook World) := by
  obtain ⟨fingerprint, usable, member⟩ := earned
  exact ⟨fingerprint, usable, List.mem_append_left _ member⟩

theorem Opened.enter {logbook : Logbook World} (opened : Opened logbook) (world : World)
    {deed : Deed} (other : ∀ path, deed ≠ .openingOutput path false) :
    Opened (⟨world, logbook.kept ++ [deed]⟩ : Logbook World) := by
  refine ⟨opened.1.enter world deed, fun path member => ?_⟩
  rcases List.mem_append.mp member with earlier | latest
  · exact opened.2 path earlier
  · exact other path (List.mem_singleton.mp latest).symm

section Harmless

variable (harmless : Harmless host backend files)

include harmless

theorem steady_calm :
    Steady host.logged (fun (_ : Pipeline Params) => Calm files content) where
  agree _ calm := calm
  echo line _ logbook calm := calm.enter (harmless.echo line logbook.world) nofun

theorem calm_loadFile (path : RawText) :
    Keeps (fun _ => Calm files content) (loadFile host.logged backend.logged path) := by
  refine Keeps.loadFile (fun opened => ∃ (file : InputFile (StateM World)) (world : World),
    (host.openInput path world).1 = .ok file ∧ opened = file.beside) ?_ ?_ ?_ ?_
  · intro _ logbook calm
    refine ⟨calm.enter (harmless.openInput path logbook.world) nofun, fun opened opened_eq => ?_⟩
    change (host.openInput path logbook.world).1.map InputFile.beside = _ at opened_eq
    obtain ⟨file, file_eq, logged_eq⟩ := exists_of_map_eq_ok opened_eq
    exact ⟨file, logbook.world, file_eq, logged_eq⟩
  · rintro _ ⟨file, world, opened_eq, rfl⟩
    have reads := (harmless.input path world file opened_eq).1
    refine (isStep_load host.logged _ path).keeps ⟨steady_calm harmless, fun _ logbook calm => ?_⟩
    exact ⟨(harmless.read file.source reads logbook.world).trans calm.1, calm.2⟩
  · rintro _ ⟨file, world, opened_eq, rfl⟩ _ logbook calm
    exact ⟨((harmless.input path world file opened_eq).2 logbook.world).trans calm.1, calm.2⟩
  · exact fun _ _ _ calm => calm

theorem calm_contribute (tag : Int) :
    Triple (fun _ => Calm files content) (contribute host.logged backend.logged tag)
      (fun _ _ logbook => Calm files content logbook ∧ Earned logbook)
      (fun _ _ => Calm files content) := by
  obtain ⟨body, body_eq, runs⟩ := contribute_returns host.logged backend.logged tag
  let returned (result : Except Failure Datum) (_ : Pipeline Params) (logbook : Logbook World) :
      Prop := Calm files content logbook ∧ .contributed result ∈ logbook.kept
  have steady_returned (result : Except Failure Datum) : Steady host.logged (returned result) :=
    { agree := fun _ holds => holds
      echo := fun line _ logbook ⟨calm, member⟩ =>
        ⟨calm.enter (harmless.echo line logbook.world) nofun, List.mem_append_left _ member⟩ }
  have body_runs := runs (fun _ => Calm files content) (fun _ => Calm files content) returned
    (steady_calm harmless) (steady_calm harmless) steady_returned (fun _ _ calm => calm)
    (fun _ _ _ holds => holds.1) fun parameters generator _ logbook calm =>
      ⟨calm.enter (harmless.contribute parameters generator tag logbook.world) nofun,
        List.mem_append_right _ (List.mem_singleton_self _)⟩
  rw [body_eq]
  refine Triple.attempt body_runs ?_ (fun _ _ _ calm => calm) fun _ _ _ calm => calm
  rintro _ pipeline logbook ⟨fingerprint, usable, calm, member⟩
  exact ⟨calm, fingerprint, usable, member⟩

theorem opened_persistFile (path : RawText) :
    Triple (fun _ logbook => Calm files content logbook ∧ Earned logbook)
      (persistFile host.logged backend.logged path) (fun _ _ => Opened)
      (fun _ _ logbook => Opened logbook ∨ files logbook.world = content) := by
  refine @Triple.persistFile _ _ host.logged backend.logged path _ (fun _ => Opened)
    (fun _ logbook => files logbook.world = content)
    (fun opened => ∃ file : OutputFile (StateM World), opened = file.beside) ?_ ?_ ?_
    (fun _ _ _ opened => opened) fun _ _ _ same => same
  · rintro pipeline logbook ⟨calm, earned⟩
    have opened_eq : host.logged.openOutput path logbook =
        ((host.openOutput path logbook.world).1.map OutputFile.beside,
          ⟨(host.openOutput path logbook.world).2, logbook.kept ++
            [.openingOutput path (host.openOutput path logbook.world).1.isOk]⟩) := rfl
    rw [opened_eq]
    cases opened : (host.openOutput path logbook.world).1 with
    | ok file =>
        have uncreated : ∀ other, Deed.openingOutput other false ∉ logbook.kept :=
          fun other => calm.2 other false
        exact ⟨⟨file, rfl⟩, Opened.enter ⟨earned, uncreated⟩ _ nofun⟩
    | error failure => exact (harmless.openOutput path _ failure opened).trans calm.1
  · rintro _ ⟨file, rfl⟩
    exact (isStep_persist file.beside.sink path).keeps
      ⟨fun _ _ _ opened => opened, fun _ _ opened => opened⟩
  · rintro _ ⟨file, rfl⟩ _ logbook opened
    exact opened

/-- Unless the files are as they were, the format has returned a fingerprint and the output could
be opened. -/
theorem calm_run (beacon exponent : Datum) (inputPath? outputPath? : Option RawText) (tag : Int) :
    Triple (fun _ => Calm files content)
      (run host.logged backend.logged beacon exponent inputPath? outputPath? tag)
      (fun _ _ => Opened) (fun _ _ logbook => Opened logbook ∨ files logbook.world = content) := by
  have calmly {α : Type} {action : Action (StateM (Logbook World)) Params α}
      (keeps : Keeps (fun _ => Calm files content) action) :
      Triple (fun _ => Calm files content) action (fun _ _ => Calm files content)
        (fun _ _ logbook => Opened logbook ∨ files logbook.world = content) :=
    keeps.imp (fun _ _ calm => calm) (fun _ _ _ calm => calm) fun _ _ _ calm => .inr calm.1
  have openly {α : Type} {action : Action (StateM (Logbook World)) Params α}
      (keeps : Keeps (fun _ => Opened) action) :
      Triple (fun _ => Opened) action (fun _ _ => Opened)
        (fun _ _ logbook => Opened logbook ∨ files logbook.world = content) :=
    keeps.imp (fun _ _ opened => opened) (fun _ _ _ opened => opened)
      fun _ _ _ opened => .inl opened
  refine Triple.bind _ (calmly Keeps.get) fun read => ?_
  split
  · exact fun _ _ calm => .inr calm.1
  cases checkRequest host.logged.depth beacon exponent with
  | error failure =>
      cases failure with
      | ceremony error => exact Triple.abort _ fun _ _ calm => .inr calm.1
      | _ => exact fun _ _ calm => .inr calm.1
  | ok _ =>
      refine Triple.bind _ (calmly (calm_loadFile harmless _)) fun _ => ?_
      refine Triple.bind _ (calmly ((isStep_derive beacon exponent).keeps (steady_calm harmless)))
        fun _ => ?_
      refine Triple.bind _ (calmly ((isStep_seed host.logged).keeps (steady_calm harmless)))
        fun _ => ?_
      refine Triple.bind _ ((calm_contribute harmless tag).imp (fun _ _ calm => calm)
        (fun _ _ _ earned => earned) fun _ _ _ calm => .inr calm.1) fun _ => ?_
      refine Triple.bind _ (opened_persistFile harmless _) fun _ => ?_
      refine Triple.bind _ (openly (Keeps.echoAll fun line _ _ logbook opened => ?_)) fun _ => ?_
      · exact opened.enter _ nofun
      · obtain ⟨making, isStep, finish_eq⟩ := @exists_isStep_finish (Logbook World) Params
          (some (chosenPath inputPath? read.config.inputPath))
          (some (chosenPath outputPath? read.config.outputPath))
        rw [finish_eq]
        exact openly (Keeps.bind (isStep.keeps True.intro) fun _ =>
          Keeps.bind (Keeps.modify fun _ _ opened => opened) fun _ => Keeps.pure _)

end Harmless

/-! ### Runs -/

/-- What a run does to its surroundings, in order. -/
def runDeeds (host : Host (StateM World)) (backend : Backend (StateM World) Params)
    (pipeline : Pipeline Params) (world : World) (beacon exponent : Datum)
    (inputPath? outputPath? : Option RawText) (tag : Int) : List Deed :=
  (after (run host.logged backend.logged beacon exponent inputPath? outputPath? tag) pipeline
    ⟨world, []⟩).world.kept

section Runs

variable (host : Host (StateM World)) (backend : Backend (StateM World) Params)
  (pipeline : Pipeline Params) (world : World) (beacon exponent : Datum)
  (inputPath? outputPath? : Option RawText) (tag : Int)

/-- A run leaves behind what its logged run does. -/
theorem run_eq_unlogged :
    after (run host backend beacon exponent inputPath? outputPath? tag) pipeline world =
      (after (run host.logged backend.logged beacon exponent inputPath? outputPath? tag) pipeline
        ⟨world, []⟩).unlogged :=
  (mirrors_run host backend beacon exponent inputPath? outputPath? tag pipeline ⟨world, []⟩).symm

theorem run_refused {refusal : Failure}
    (refused : checkRequest host.depth beacon exponent = .error refusal) :
    ∃ failure left, left.chainTraces = pipeline.chainTraces ∧
      after (run host backend beacon exponent inputPath? outputPath? tag) pipeline world =
        ⟨.error failure, left, world⟩ := by
  by_cases idle : pipeline.stage = .idle
  · obtain ⟨left, rfl | rfl, left_eq⟩ :=
      @after_run_of_refused _ _ host backend pipeline world beacon exponent inputPath? outputPath?
        tag refusal idle refused
    · exact ⟨refusal, left, rfl, left_eq⟩
    · exact ⟨refusal, _, chainTraces_fail _ _, left_eq⟩
  · exact ⟨_, _, rfl, after_run_of_ne world _ _ _ _ tag idle⟩

theorem run_unreadable
    (unreadable : Unreadable host backend (chosenPath inputPath? pipeline.config.inputPath) world) :
    let left := after (run host.logged backend.logged beacon exponent inputPath? outputPath? tag)
      pipeline ⟨world, []⟩
    (∃ failure, left.result = .error failure) ∧
      (∀ deed ∈ left.world.kept,
        deed = .openingInput (chosenPath inputPath? pipeline.config.inputPath)) ∧
      left.pipeline.chainTraces = pipeline.chainTraces := by
  intro left
  by_cases idle : pipeline.stage = .idle
  · cases checked : checkRequest host.depth beacon exponent with
    | error refusal =>
        obtain ⟨failure, after, same, left_eq⟩ := run_refused host.logged backend.logged pipeline
          ⟨world, []⟩ beacon exponent inputPath? outputPath? tag checked
        rw [show left = _ from left_eq]
        exact ⟨⟨failure, rfl⟩, nofun, same⟩
    | ok _ =>
        have loaded := loadFile_unreadable unreadable pipeline pipeline ⟨world, []⟩
          ⟨idle, rfl, rfl⟩
        obtain ⟨⟨failure | value, after, logbook⟩, loaded_eq⟩ : ∃ aftermath,
            Action.after (loadFile host.logged backend.logged
              (chosenPath inputPath? pipeline.config.inputPath)) pipeline ⟨world, []⟩ =
                aftermath := ⟨_, rfl⟩
        · rw [loaded_eq] at loaded
          obtain ⟨same, deeds_eq⟩ := loaded
          rw [show left = _ from after_run_of_unloaded idle checked loaded_eq]
          refine ⟨⟨failure, rfl⟩, fun deed member => ?_, same⟩
          rw [deeds_eq] at member
          exact List.mem_singleton.mp member
        · rw [loaded_eq] at loaded
          exact loaded.elim
  · have refused := @after_run_of_ne _ _ host.logged backend.logged _ ⟨world, []⟩ beacon exponent
      inputPath? outputPath? tag idle
    rw [show left = _ from refused]
    exact ⟨⟨_, rfl⟩, nofun, rfl⟩

/-- A run of an invalid request fails without any effect; a run that gets no parameters fails and
opens nothing but its input.  In both cases no chain is started, which would leave a trace, and
nothing is shown.  And as long as the format has not returned a fingerprint, or if the output cannot
be opened, all files are as they were before. -/
theorem run_leaves_untouched :
    let left := after (run host backend beacon exponent inputPath? outputPath? tag) pipeline world
    let deeds :=
      runDeeds host backend pipeline world beacon exponent inputPath? outputPath? tag
    let inputPath := chosenPath inputPath? pipeline.config.inputPath
    ((∃ error, Chain.Exponent.ofDatum exponent = .error error) ∨
        (∃ failure, Chain.parseBeacon host.depth beacon = .error failure) →
      (∃ failure, left.result = .error failure) ∧ left.world = world ∧ deeds = [] ∧
        left.pipeline.chainTraces = pipeline.chainTraces) ∧
    (Unreadable host backend inputPath world →
      (∃ failure, left.result = .error failure) ∧
        (∀ deed ∈ deeds, deed = .openingInput inputPath) ∧
        left.pipeline.chainTraces = pipeline.chainTraces) ∧
    (∀ (chain : Chain) (before : Pipeline Params) (reached : World),
      (after (chain.run (reportCheckpoint host)) before reached).pipeline.chainTraces ≠
        before.chainTraces) ∧
    ∀ (Files : Type) (files : World → Files), Harmless host backend files →
      (∀ fingerprint : Datum, fingerprint.IsFingerprint →
        Deed.contributed (.ok fingerprint) ∉ deeds) ∨
        (∃ path, Deed.openingOutput path false ∈ deeds) →
      files left.world = files world := by
  intro left deeds inputPath
  have left_eq : left = _ :=
    run_eq_unlogged host backend pipeline world beacon exponent inputPath? outputPath? tag
  refine ⟨fun invalid => ?_, fun unreadable => ?_, chainTraces_ne host,
    fun Files files harmless condition => ?_⟩
  · obtain ⟨first, refused⟩ := exists_refused invalid
    obtain ⟨failure, after, same, logged_eq⟩ := run_refused host.logged backend.logged pipeline
      ⟨world, []⟩ beacon exponent inputPath? outputPath? tag refused
    rw [logged_eq] at left_eq
    have deeds_eq : deeds = [] := by
      simp only [deeds, runDeeds, logged_eq]
    rw [left_eq]
    exact ⟨⟨failure, rfl⟩, rfl, deeds_eq, same⟩
  · rw [left_eq]
    exact run_unreadable host backend pipeline world beacon exponent inputPath? outputPath? tag
      unreadable
  · have ends := calm_run harmless beacon exponent inputPath? outputPath? tag pipeline
      ⟨world, []⟩ ⟨rfl, nofun⟩
    have spared : Opened (Beside.mk left.world deeds) ∨ files left.world = files world := by
      rw [left_eq]
      exact Aftermath.meets_const_iff.mp (ends.imp (fun _ _ _ opened => .inl opened)
        fun _ _ _ holds => holds)
    refine spared.resolve_left fun opened => ?_
    obtain ⟨⟨fingerprint, usable, member⟩, created⟩ := opened
    rcases condition with unearned | ⟨path, uncreated⟩
    · exact unearned fingerprint usable member
    · exact created path uncreated

end Runs

/-- The built-in format on a machine is harmless. -/
theorem harmless_machine :
    Harmless (Machine.host : Host (StateM Machine)) Phase2.backend Machine.storage where
  echo line machine := by
    obtain ⟨start, rest⟩ := line
    cases rest with
    | nil => rfl
    | cons entry rest => rfl
  openInput path machine := by
    rw [Machine.openInput_eq]
    cases machine.storage.content path <;> rfl
  input path machine file opened := by
    rw [Machine.openInput_eq] at opened
    cases found : machine.storage.content path with
    | error failure =>
        rw [found] at opened
        contradiction
    | ok content =>
        rw [found] at opened
        obtain rfl := Except.ok.inj opened
        exact ⟨fun _ _ => rfl, fun _ => rfl⟩
  read source reads machine := by
    have reads (count : Nat) (other : Machine) (same : other.storage = machine.storage) :
        (source.read count other).2.storage = machine.storage := (reads count other).trans same
    exact Decoder.run_keeps reads _ _ machine rfl
  contribute parameters generator tag machine := rfl
  openOutput path machine failure refused := by
    rw [Machine.openOutput_eq] at refused ⊢
    cases created : machine.storage.create path with
    | error failure => rfl
    | ok place =>
        rw [created] at refused
        contradiction

end Action

namespace Unloaded

open BeaconCeremony.Action BeaconCeremony.Pipeline

/-- On a machine without files a beacon value that is no hexadecimal text is refused, and with a
value of zeros the input is not there. -/
theorem run_leaves_untouched_bare :
    let left (beacon : Datum) :=
      after (run Machine.host Phase2.backend beacon (.int 10) none none 0) (pipeline "in") bare
    let deeds (beacon : Datum) :=
      runDeeds Machine.host Phase2.backend (pipeline "in") bare beacon (.int 10) none none 0
    (∃ failure, Chain.parseBeacon Datum.usualDepth (.text "zz") = .error failure) ∧
      deeds (.text "zz") = [] ∧
      (left (.text "zz")).world = bare ∧
      Unreadable Machine.host Phase2.backend "in" bare ∧
      (left zeros).pipeline.chainTraces = (pipeline "in").chainTraces ∧
      (∀ deed ∈ deeds zeros, deed = .openingInput "in") ∧
      (left zeros).world.storage = bare.storage := by
  intro left deeds
  have refused : ∃ failure, Chain.parseBeacon Datum.usualDepth (.text "zz") = .error failure :=
    ⟨_, rfl⟩
  have unreadable : Unreadable (Machine.host : Host (StateM Machine)) Phase2.backend "in" bare :=
    .unopened (congrArg Prod.fst opened_missing)
  have invalid := (run_leaves_untouched Machine.host Phase2.backend (pipeline "in") bare
    (.text "zz") (.int 10) none none 0).1 (.inr refused)
  obtain ⟨-, unread, -, spares⟩ := run_leaves_untouched Machine.host Phase2.backend (pipeline "in")
    bare zeros (.int 10) none none 0
  obtain ⟨-, only_input, untraced⟩ := unread unreadable
  have unearned (fingerprint : Datum) (_ : fingerprint.IsFingerprint) :
      Deed.contributed (.ok fingerprint) ∉ deeds zeros :=
    fun member => nomatch only_input _ member
  exact ⟨refused, invalid.2.2.1, invalid.2.1, unreadable, untraced, only_input,
    spares Storage Machine.storage harmless_machine (.inl unearned)⟩

end Unloaded
end BeaconCeremony

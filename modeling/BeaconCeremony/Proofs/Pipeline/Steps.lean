import BeaconCeremony.Pipeline.Run
import BeaconCeremony.Proofs.Chain.Walk
import BeaconCeremony.Proofs.Pipeline.Aftermath

/-!
# What steps leave alone

A step changes its stage only at its end.  Its body adds results to the contribution and touches
neither the stage nor the journal, and neither the failure nor the outcomes.  So a fact about these
is kept by the body of every step, as long as the surroundings keep it.
-/

namespace BeaconCeremony

/-- How a contribution stands: its stage and its journal, why it failed, and the outcomes
recorded. -/
def Pipeline.standing {Params : Type} (pipeline : Pipeline Params) :
    Stage × List Transition × Option Failure × List Outcome :=
  (pipeline.stage, pipeline.journal, pipeline.failure?, pipeline.metrics.runs)

/-- A datum that is a fingerprint: bytes, and not none. -/
def Datum.IsFingerprint (datum : Datum) : Prop :=
  ∃ byte rest, datum.asBytes? = some (byte :: rest)

namespace Action

open BeaconCeremony.Pipeline

variable {World Params α : Type}

/-- A fact that depends on nothing in a contribution but its standing, and that showing a line does
not change. -/
structure Steady (host : Host (StateM World)) (fact : Pipeline Params → World → Prop) : Prop where
  /-- Contributions of the same standing are alike. -/
  agree : ∀ {pipeline other : Pipeline Params} {world : World},
    other.standing = pipeline.standing → fact pipeline world → fact other world
  /-- Lines may be shown. -/
  echo : ∀ line pipeline world, fact pipeline world → fact pipeline (host.echo line world).2

/-- The action is a step whose body keeps every fact of a kind. -/
def IsStep (name : String) (expected target : Stage)
    (kind : (Pipeline Params → World → Prop) → Prop) (action : Action (StateM World) Params α) :
    Prop :=
  ∃ body, action = step name expected target body ∧ ∀ fact, kind fact → Keeps fact body

variable {host : Host (StateM World)} {backend : Backend (StateM World) Params}
  {fact : Pipeline Params → World → Prop}

theorem Steady.modify (steady : Steady host fact) {change : Pipeline Params → Pipeline Params}
    (same : ∀ pipeline, (change pipeline).standing = pipeline.standing) :
    Keeps fact (modify change : Action (StateM World) Params Unit) :=
  .modify fun pipeline _ holds => steady.agree (same pipeline) holds

theorem Steady.timed (steady : Steady host fact) {note : Metrics → Metrics}
    {action : Action (StateM World) Params α} (keeps : Keeps fact action)
    (same : ∀ metrics, (note metrics).runs = metrics.runs) : Keeps fact (timed note action) := by
  refine .timed keeps fun pipeline world holds => steady.agree ?_ holds
  rw [standing, same]
  rfl

theorem Steady.echoAll (steady : Steady host fact) (lines : List RawText) :
    Keeps fact (echoAll host lines) :=
  .echoAll fun line _ => steady.echo line

theorem Steady.reportCheckpoint (steady : Steady host fact) (checkpoint : Checkpoint) :
    Keeps fact (reportCheckpoint host checkpoint) := by
  refine Triple.bind _ .get fun read => Triple.bind (fun _ => fact) ?_ fun _ => steady.echoAll _
  rintro pipeline world ⟨rfl, holds⟩
  change fact { read with reporter := (read.reporter.checkpoint checkpoint).2 } world
  refine steady.agree ?_ holds
  rfl

theorem isStep_load (host : Host (StateM World)) (source : Source (StateM World)) (name : RawText) :
    IsStep "load" .idle .loaded (fun fact => Steady host fact ∧
      ∀ pipeline world, fact pipeline world → fact pipeline (backend.read source world).2)
      (load backend source name) := by
  refine ⟨_, rfl, fun fact ⟨steady, reads⟩ => ?_⟩
  refine Keeps.bind (steady.modify fun _ => rfl) fun _ => Keeps.bind (Keeps.lift reads) ?_
  intro result
  cases result with
  | ok parameters => exact steady.modify fun _ => rfl
  | error failure => exact Keeps.throw _

theorem isStep_derive (beacon exponent : Datum) :
    IsStep "derive" .loaded .beaconDerived (Steady host)
      (derive host beacon exponent : Action (StateM World) Params Derivation) := by
  refine ⟨_, rfl, fun fact steady => ?_⟩
  cases Chain.ofHex host.depth beacon exponent with
  | error failure => exact Keeps.throw _
  | ok chain =>
      refine Keeps.bind (Keeps.perform (steady.echo _)) fun _ => ?_
      refine Keeps.bind (steady.timed ?_ fun _ => rfl) fun derivation => ?_
      · rw [Chain.run_eq]
        refine Keeps.bind ?_ fun result => ?_
        · exact Keeps.bind (Keeps.forM fun checkpoint _ => steady.reportCheckpoint checkpoint)
            fun _ => Keeps.pure _
        · cases result with
          | error failure => exact Keeps.throw failure
          | ok derivation => exact Keeps.bind (steady.modify fun _ => rfl) fun _ => Keeps.pure _
      · exact Keeps.bind (steady.modify fun _ => rfl) fun _ =>
          Keeps.bind (steady.echoAll _) fun _ => Keeps.pure _

theorem isStep_seed (host : Host (StateM World)) :
    IsStep "seed" .beaconDerived .seeded (Steady host)
      (seed : Action (StateM World) Params Seed) :=
  ⟨_, rfl, fun _ steady => Keeps.bind (Keeps.require _ _) fun _ =>
    Keeps.bind (steady.modify fun _ => rfl) fun _ => Keeps.pure _⟩

theorem isFingerprint_of_fingerprintOf {source : RawText} {returned : Datum} {fingerprint : Bytes}
    (usable : fingerprintOf source returned = .ok fingerprint) : returned.IsFingerprint := by
  rw [fingerprintOf] at usable
  split at usable
  · contradiction
  · contradiction
  · rename_i bytes nonempty found
    cases bytes with
    | nil => exact absurd rfl nonempty
    | cons byte rest => exact ⟨byte, rest, found⟩

/-- Contributing ends well only after the format has returned a fingerprint.  What the format has
returned is known afterwards, also if it is a failure or no fingerprint. -/
theorem contribute_returns (host : Host (StateM World)) (backend : Backend (StateM World) Params)
    (tag : Int) :
    ∃ body, contribute host backend tag = step "contribute" .seeded .contributed body ∧
      ∀ (before failed : Pipeline Params → World → Prop)
        (returned : Except Failure Datum → Pipeline Params → World → Prop),
        Steady host before → Steady host failed → (∀ result, Steady host (returned result)) →
        (∀ pipeline world, before pipeline world → failed pipeline world) →
        (∀ result pipeline world, returned result pipeline world → failed pipeline world) →
        (∀ parameters generator pipeline world, before pipeline world →
          returned (backend.contribute parameters generator tag world).1.result pipeline
            (backend.contribute parameters generator tag world).2) →
        Triple before body
          (fun _ pipeline world => ∃ fingerprint, fingerprint.IsFingerprint ∧
            returned (.ok fingerprint) pipeline world)
          (fun _ => failed) := by
  refine ⟨_, rfl, fun before failed returned steady_before steady_failed steady early late
    contributes => ?_⟩
  have first {β : Type} {action : Action (StateM World) Params β} (keeps : Keeps before action) :
      Triple before action (fun _ => before) (fun _ => failed) :=
    keeps.imp (fun _ _ holds => holds) (fun _ _ _ holds => holds) fun _ => early
  refine Triple.bind _ (first (Keeps.require _ _)) fun parameters => ?_
  refine Triple.bind _ (first (Keeps.require _ _)) fun generator => ?_
  refine Triple.bind _ (first Keeps.get) fun read => ?_
  refine Triple.bind _ (first (Keeps.perform (steady_before.echo _))) fun _ => ?_
  refine Triple.bind (fun value => returned (.ok value)) ?_ fun value => ?_
  · have timing {fact : Pipeline Params → World → Prop} (steady : Steady host fact)
        (pipeline : Pipeline Params) (world : World) (holds : fact pipeline world) :
        fact { pipeline with metrics := pipeline.metrics.timeContribute } world := by
      refine steady.agree ?_ holds
      rfl
    refine Triple.timed _ ?_ (fun _ => timing (steady _)) fun _ => timing steady_failed
    refine Triple.bind (fun contributed => returned contributed.result)
      (.lift _ (contributes parameters generator)) fun contributed => ?_
    refine Triple.bind (fun _ => returned contributed.result) (.modify _ ?_) fun _ => .perform _ ?_
    · intro pipeline world holds
      refine (steady _).agree ?_ holds
      rfl
    intro pipeline world holds
    change Settles _ _ contributed.result pipeline world
    generalize contributed.result = result at holds
    cases result with
    | ok value => exact holds
    | error failure => exact late _ pipeline world holds
  · cases usable : fingerprintOf read.source value with
    | error error => exact late (.ok value)
    | ok fingerprint =>
        have keeps : Keeps (returned (.ok value)) (do
            modify fun pipeline => { pipeline with fingerprint? := some fingerprint }
            echoAll host ((Report.fingerprintLines fingerprint).map .ofString)
            return fingerprint) :=
          Keeps.bind ((steady _).modify fun _ => rfl) fun _ =>
            Keeps.bind ((steady _).echoAll _) fun _ => Keeps.pure _
        exact keeps.imp (fun _ _ holds => holds)
          (fun _ _ _ holds => ⟨value, isFingerprint_of_fingerprintOf usable, holds⟩)
          fun _ => late _

theorem isStep_contribute (tag : Int) :
    IsStep "contribute" .seeded .contributed (fun fact => Steady host fact ∧
      ∀ parameters generator pipeline world, fact pipeline world →
        fact pipeline (backend.contribute parameters generator tag world).2)
      (contribute host backend tag) := by
  obtain ⟨body, body_eq, runs⟩ := contribute_returns host backend tag
  refine ⟨body, body_eq, fun fact ⟨steady, contributes⟩ => ?_⟩
  refine (runs fact fact (fun _ => fact) steady steady (fun _ => steady) (fun _ _ holds => holds)
    (fun _ _ _ holds => holds) contributes).imp (fun _ _ holds => holds) ?_ fun _ _ _ holds => holds
  rintro _ pipeline world ⟨-, -, holds⟩
  exact holds

theorem isStep_persist (sink : Sink (StateM World)) (name : RawText) :
    IsStep "persist" .contributed .persisted (fun fact =>
      (∀ parameters pipeline world, fact pipeline world →
        fact pipeline (backend.write parameters sink world).2) ∧
      ∀ pipeline world, fact pipeline world → fact pipeline (sink.flush world).2)
      (persist backend sink name) := by
  refine ⟨_, rfl, fun fact ⟨writes, flushes⟩ => ?_⟩
  refine Keeps.bind (Keeps.require _ _) fun parameters => Keeps.bind (Keeps.observe ?_) ?_
  · exact Keeps.bind (Keeps.perform (writes parameters)) fun _ => Keeps.perform flushes
  · intro written
    cases written with
    | ok value => exact Keeps.pure _
    | error failure => exact Keeps.throw _

/-- A step keeps what its body keeps, if it does not depend on the contribution. -/
theorem IsStep.keeps {name : String} {expected target : Stage} {fact : World → Prop}
    {kind : (Pipeline Params → World → Prop) → Prop} {action : Action (StateM World) Params α}
    (isStep : IsStep name expected target kind action) (calm : kind fun _ => fact) :
    Keeps (fun _ => fact) action := by
  obtain ⟨body, rfl, keeps⟩ := isStep
  exact (keeps _ calm).step (fun _ _ holds => holds) fun _ _ _ holds => holds

/-- The outcome is recorded after the last step, outside of it. -/
theorem exists_isStep_finish (inputPath? outputPath? : Option RawText) :
    ∃ making : Action (StateM World) Params Receipt,
      IsStep "finish" .persisted .done (fun _ => True) making ∧
      finish inputPath? outputPath? = do
        let receipt ← making
        modify fun pipeline => { pipeline with metrics := pipeline.metrics.recordRun .ok }
        return receipt :=
  ⟨_, ⟨_, rfl, fun _ _ => Keeps.bind (Keeps.require _ _) fun _ =>
    Keeps.bind (Keeps.require _ _) fun _ => Keeps.bind (Keeps.require _ _) fun _ =>
      Keeps.pure _⟩, rfl⟩

section Files

variable {path : RawText}

/-- A fact is kept by loading from a file if opening, loading, closing and failing keep it. -/
theorem Keeps.loadFile (given : InputFile (StateM World) → Prop)
    (opens : ∀ pipeline world, fact pipeline world → fact pipeline (host.openInput path world).2 ∧
      ∀ file, (host.openInput path world).1 = .ok file → given file)
    (loads : ∀ file, given file → Keeps fact (load backend file.source path))
    (closes : ∀ file, given file → ∀ pipeline world, fact pipeline world →
      fact pipeline (file.close world).2)
    (fails : ∀ failure pipeline world, fact pipeline world → fact (pipeline.fail failure) world) :
    Keeps fact (loadFile host backend path) := by
  refine Triple.bind (fun opened pipeline world => fact pipeline world ∧
    ∀ file, opened = .ok file → given file) (.lift _ opens) fun opened => ?_
  rintro pipeline world ⟨holds, file_given⟩
  refine (?_ : Keeps fact _) pipeline world holds
  cases opened with
  | ok file =>
      exact .closing (loads file (file_given file rfl)) (closes file (file_given file rfl))
  | error failure =>
      cases failure with
      | system error => exact .abort (fails _)
      | _ => exact Keeps.throw _

/-- What holds once the output is open holds after writing to it, and what holds if it cannot be
opened holds after that, as long as writing, closing and failing keep them. -/
theorem Triple.persistFile {before opened unopened : Pipeline Params → World → Prop}
    (given : OutputFile (StateM World) → Prop)
    (opens : ∀ pipeline world, before pipeline world →
      match (host.openOutput path world).1 with
      | .ok file => given file ∧ opened pipeline (host.openOutput path world).2
      | .error _ => unopened pipeline (host.openOutput path world).2)
    (persists : ∀ file, given file → Keeps opened (persist backend file.sink path))
    (closes : ∀ file, given file → ∀ pipeline world, opened pipeline world →
      opened pipeline (file.close world).2)
    (fails : ∀ failure pipeline world, opened pipeline world → opened (pipeline.fail failure) world)
    (refuses : ∀ failure pipeline world, unopened pipeline world →
      unopened (pipeline.fail failure) world) :
    Triple before (persistFile host backend path) (fun _ => opened)
      (fun _ pipeline world => opened pipeline world ∨ unopened pipeline world) := by
  refine Triple.bind (fun outcome pipeline world => match outcome with
    | .ok file => given file ∧ opened pipeline world
    | .error _ => unopened pipeline world) (.lift _ opens) fun outcome => ?_
  cases outcome with
  | ok file =>
      rintro pipeline world ⟨file_given, holds⟩
      have written : Keeps opened (Pipeline.closing file.close (persist backend file.sink path)) :=
        .closing (persists file file_given) (closes file file_given)
      refine Aftermath.Meets.imp ((?_ : Keeps opened _) pipeline world holds)
        (fun _ _ _ holds => holds) fun _ _ _ holds => .inl holds
      refine Keeps.bind written.observe fun settled => ?_
      cases settled with
      | ok value => exact Keeps.pure _
      | error failure =>
          cases failure with
          | system error => exact .abort (fails _)
          | _ => exact Keeps.throw _
  | error failure =>
      cases failure with
      | system error => exact .abort _ fun pipeline world holds => .inr (refuses _ _ _ holds)
      | _ => exact fun pipeline world holds => .inr holds

/-- A fact is kept by writing to a file if opening, writing, closing and failing keep it. -/
theorem Keeps.persistFile (given : OutputFile (StateM World) → Prop)
    (opens : ∀ pipeline world, fact pipeline world → fact pipeline (host.openOutput path world).2 ∧
      ∀ file, (host.openOutput path world).1 = .ok file → given file)
    (persists : ∀ file, given file → Keeps fact (persist backend file.sink path))
    (closes : ∀ file, given file → ∀ pipeline world, fact pipeline world →
      fact pipeline (file.close world).2)
    (fails : ∀ failure pipeline world, fact pipeline world → fact (pipeline.fail failure) world) :
    Keeps fact (persistFile host backend path) := by
  refine (Triple.persistFile given (fun pipeline world holds => ?_) persists closes fails
    fails).imp (fun _ _ holds => holds) (fun _ _ _ holds => holds) fun _ _ _ holds =>
      holds.elim id id
  obtain ⟨kept, file_given⟩ := opens pipeline world holds
  split
  · rename_i file opened_eq
    exact ⟨file_given file opened_eq, kept⟩
  · exact kept

end Files

end Action
end BeaconCeremony

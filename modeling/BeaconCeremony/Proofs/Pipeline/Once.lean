import BeaconCeremony.Proofs.Except
import BeaconCeremony.Proofs.Pipeline.Recording
import BeaconCeremony.Proofs.Pipeline.Steps

/-!
# A contribution is made at most once

Whatever is called in whatever order, and whatever fails, the steps that succeed are the first few
of the six steps in their order.  The format is asked to contribute at most once, and to write at
most once and only after its contribution has come back with a fingerprint.
-/

namespace BeaconCeremony

/-- The names of the steps in their order. -/
def stepNames : List String := ["load", "derive", "seed", "contribute", "persist", "finish"]

namespace Stage

/-- The name of the step that leads to a stage. -/
def reachedBy? : Stage → Option String
  | .idle => none
  | .loaded => some "load"
  | .beaconDerived => some "derive"
  | .seeded => some "seed"
  | .contributed => some "contribute"
  | .persisted => some "persist"
  | .done => some "finish"
  | .failed => none

/-- The number of steps that lead to a stage, unless it is that of a failure. -/
def rank : Stage → Nat
  | .idle => 0
  | .loaded => 1
  | .beaconDerived => 2
  | .seeded => 3
  | .contributed => 4
  | .persisted => 5
  | .done => 6
  | .failed => 0

/-- One step leads from one stage to another. -/
def PrecedesBy (name : String) (expected target : Stage) : Prop :=
  expected ≠ .failed ∧ target ≠ .failed ∧ target.reachedBy? = some name ∧
    stepNames.take target.rank = stepNames.take expected.rank ++ [name]

instance (name : String) (expected target : Stage) : Decidable (PrecedesBy name expected target) :=
  inferInstanceAs (Decidable (_ ∧ _ ∧ _ ∧ _))

end Stage

/-- The names of the steps that have succeeded, in order: those whose change of stage has been
logged. -/
def Pipeline.completed {Params : Type} (pipeline : Pipeline Params) : List String :=
  pipeline.journal.filterMap fun transition => transition.target.reachedBy?

namespace Event

/-- Whether the format is asked to contribute. -/
def isContributing : Event → Bool
  | .contributing => true
  | _ => false

/-- Whether the format is asked to write. -/
def isWriting : Event → Bool
  | .writing => true
  | _ => false

/-- What may be recorded of a format over the whole life of a contribution. -/
structure Lawful (events : List Event) : Prop where
  /-- The format is asked to contribute at most once. -/
  contributions : events.countP isContributing ≤ 1
  /-- The format is asked to write at most once. -/
  writings : events.countP isWriting ≤ 1
  /-- It is asked to write only after its contribution has come back with a fingerprint. -/
  justified : ∀ before rest, events = before ++ .writing :: rest →
    ∃ fingerprint, .contributed (.ok fingerprint) ∈ before ∧ fingerprint.IsFingerprint

/-- What is recorded of a format at each stage. -/
def Fit : Stage → List Event → Prop
  | .idle, events | .loaded, events | .beaconDerived, events | .seeded, events => events = []
  | .contributed, events =>
    ∃ fingerprint, fingerprint.IsFingerprint ∧
      events = [.contributing, .contributed (.ok fingerprint)]
  | .persisted, events | .done, events =>
    ∃ fingerprint, fingerprint.IsFingerprint ∧
      events = [.contributing, .contributed (.ok fingerprint), .writing]
  | .failed, events => Lawful events

theorem lawful_nil : Lawful [] where
  contributions := by decide
  writings := by decide
  justified before rest split := by simp at split

theorem lawful_contributed (result : Except Failure Datum) :
    Lawful [.contributing, .contributed result] where
  contributions := Nat.le_refl 1
  writings := Nat.zero_le 1
  justified before rest split := by
    have member : Event.writing ∈ [.contributing, .contributed result] := by
      rw [split]
      simp
    simp at member

theorem lawful_writing {fingerprint : Datum} (usable : fingerprint.IsFingerprint) :
    Lawful [.contributing, .contributed (.ok fingerprint), .writing] where
  contributions := Nat.le_refl 1
  writings := Nat.le_refl 1
  justified before rest split := by
    refine ⟨fingerprint, ?_, usable⟩
    rcases before with - | ⟨first, - | ⟨second, more⟩⟩
    · simp at split
    · simp at split
    · simp only [List.cons_append, List.cons.injEq] at split
      simp [split.2.1]

theorem Fit.lawful {stage : Stage} {events : List Event} (fit : Fit stage events) :
    Lawful events := by
  cases stage with
  | idle | loaded | beaconDerived | seeded =>
      obtain rfl : events = [] := fit
      exact lawful_nil
  | contributed =>
      obtain ⟨fingerprint, -, rfl⟩ := fit
      exact lawful_contributed (.ok fingerprint)
  | persisted | done =>
      obtain ⟨fingerprint, usable, rfl⟩ := fit
      exact lawful_writing usable
  | failed => exact fit

end Event

/-- The invariant of contributions: the successful steps are those that lead to the stage, and the
record fits the stage. -/
structure Pipeline.Orderly {Params : Type} (pipeline : Pipeline Params) (events : List Event) :
    Prop where
  /-- The successful steps are the first ones. -/
  completed_first : pipeline.completed <+: stepNames
  /-- Unless there was a failure they are as many as the stage says. -/
  completed_eq : pipeline.stage ≠ .failed →
    pipeline.completed = stepNames.take pipeline.stage.rank
  /-- The record fits the stage. -/
  fit : Event.Fit pipeline.stage events

namespace Pipeline

variable {Params : Type}

@[simp]
theorem completed_moveTo (pipeline : Pipeline Params) (target : Stage) :
    (pipeline.moveTo target).completed = pipeline.completed ++ target.reachedBy?.toList := by
  simp only [completed, moveTo, List.filterMap_append, List.filterMap_cons, List.filterMap_nil]
  cases target.reachedBy? <;> rfl

theorem completed_fail (pipeline : Pipeline Params) (failure : Failure) :
    (pipeline.fail failure).completed = pipeline.completed := by
  rw [fail]
  split
  · rfl
  · change (pipeline.moveTo .failed).completed = pipeline.completed
    rw [completed_moveTo]
    exact List.append_nil _

theorem stage_fail (pipeline : Pipeline Params) (failure : Failure) :
    (pipeline.fail failure).stage = .failed := by
  rw [fail]
  split <;> simp_all [moveTo]

theorem orderly_start (config : Config) : (start config : Pipeline Params).Orderly [] where
  completed_first := List.nil_prefix
  completed_eq _ := rfl
  fit := rfl

/-- A failure can come at any time. -/
theorem orderly_fail {pipeline : Pipeline Params} {events : List Event} (failure : Failure)
    (completed_first : pipeline.completed <+: stepNames) (lawful : Event.Lawful events) :
    (pipeline.fail failure).Orderly events where
  completed_first := by rwa [completed_fail]
  completed_eq unfailed := absurd (stage_fail pipeline failure) unfailed
  fit := by rwa [stage_fail]

theorem orderly_moveTo {name : String} {expected target : Stage} {pipeline : Pipeline Params}
    {events : List Event} (precedes : expected.PrecedesBy name target)
    (completed_eq : pipeline.completed = stepNames.take expected.rank)
    (fit : Event.Fit target events) : (pipeline.moveTo target).Orderly events := by
  obtain ⟨-, -, reached, extended⟩ := precedes
  have completed_eq : (pipeline.moveTo target).completed = stepNames.take target.rank := by
    rw [completed_moveTo, completed_eq, reached, extended]
    rfl
  exact ⟨completed_eq ▸ List.take_prefix _ _, fun _ => completed_eq, fit⟩

end Pipeline

namespace Action

open BeaconCeremony.Pipeline

variable {World Params α : Type}

/-- The invariant as a fact about a contribution in recorded surroundings. -/
def InOrder (pipeline : Pipeline Params) (recorder : Recorder World) : Prop :=
  pipeline.Orderly recorder.kept

/-- The stage, the journal and the record are the given ones. -/
def Still (stage : Stage) (journal : List Transition) (events : List Event)
    (pipeline : Pipeline Params) (recorder : Recorder World) : Prop :=
  pipeline.stage = stage ∧ pipeline.journal = journal ∧ recorder.kept = events

/-- The stage and the journal are the given ones, and the record is as it should be. -/
def Inside (stage : Stage) (journal : List Transition) (allowed : List Event → Prop)
    (pipeline : Pipeline Params) (recorder : Recorder World) : Prop :=
  pipeline.stage = stage ∧ pipeline.journal = journal ∧ allowed recorder.kept

/-- A step is taken or not: the invariant is kept, and its name is added to the successful steps
just if it succeeds. -/
def Advances (name : String) (action : Action (StateM (Recorder World)) Params α) : Prop :=
  ∀ completed, Triple (fun pipeline recorder =>
      InOrder pipeline recorder ∧ pipeline.completed = completed) action
    (fun _ pipeline recorder =>
      InOrder pipeline recorder ∧ pipeline.completed = completed ++ [name])
    (fun _ pipeline recorder => InOrder pipeline recorder ∧ pipeline.completed = completed)

theorem Advances.keeps {name : String} {action : Action (StateM (Recorder World)) Params α}
    (advances : Advances name action) : Keeps InOrder action := by
  intro pipeline recorder orderly
  have left := advances pipeline.completed pipeline recorder ⟨orderly, rfl⟩
  exact left.imp (fun _ _ _ => And.left) (fun _ _ _ => And.left)

/-- A step is taken or not if its body touches neither the stage nor the journal, leaves a record
that fits the next stage when it succeeds, and a lawful one when it fails. -/
theorem advances_step {name : String} {expected target : Stage}
    {body : Action (StateM (Recorder World)) Params α}
    (precedes : expected.PrecedesBy name target)
    (runs : ∀ journal events, Event.Fit expected events →
      Triple (Still expected journal events) body
        (fun _ => Inside expected journal (Event.Fit target))
        (fun _ => Inside expected journal Event.Lawful)) :
    Advances name (step name expected target body) := by
  rintro completed pipeline recorder ⟨orderly, rfl⟩
  -- Away from the expected stage nothing happens; at it the invariant says what is on record.
  by_cases actual : pipeline.stage = expected
  · have completed_eq : pipeline.completed = stepNames.take expected.rank :=
      actual ▸ orderly.completed_eq (actual ▸ precedes.1)
    have fit : Event.Fit expected recorder.kept := actual ▸ orderly.fit
    have same_completed {other : Pipeline Params} (same : other.journal = pipeline.journal) :
        other.completed = pipeline.completed := by
      rw [Pipeline.completed, Pipeline.completed, same]
    refine Triple.step (runs pipeline.journal recorder.kept fit) (fun _ _ still => still.1) ?_ ?_
      pipeline recorder ⟨actual, rfl, rfl⟩
    · rintro _ after left ⟨-, same, fits⟩
      refine ⟨orderly_moveTo precedes ((same_completed same).trans completed_eq) fits, ?_⟩
      rw [completed_moveTo, same_completed same, precedes.2.2.1]
      rfl
    · rintro failure after left ⟨-, same, lawful⟩
      have unchanged := same_completed same
      exact ⟨orderly_fail failure (unchanged.symm ▸ orderly.completed_first) lawful,
        (completed_fail after failure).trans unchanged⟩
  · rw [after_step_of_ne actual]
    exact ⟨orderly, rfl⟩

/-- A step is taken or not if its body touches neither the stage nor the journal nor the record,
and nothing is to be recorded between the two stages. -/
theorem IsStep.advances {name : String} {expected target : Stage}
    {action : Action (StateM (Recorder World)) Params α}
    {kind : (Pipeline Params → Recorder World → Prop) → Prop}
    (isStep : IsStep name expected target kind action)
    (precedes : expected.PrecedesBy name target)
    (same_fit : ∀ events, Event.Fit expected events → Event.Fit target events)
    (calm : ∀ journal events, kind (Still expected journal events)) : Advances name action := by
  obtain ⟨body, rfl, keeps⟩ := isStep
  refine advances_step precedes fun journal events fit => ?_
  refine (keeps _ (calm journal events)).imp (fun _ _ still => still) ?_ ?_
  · rintro value pipeline recorder ⟨staged, logged, rfl⟩
    exact ⟨staged, logged, same_fit _ fit⟩
  · rintro failure pipeline recorder ⟨staged, logged, rfl⟩
    exact ⟨staged, logged, fit.lawful⟩

section Steps

variable {stage : Stage} {journal : List Transition} {events : List Event}
  (host : Host (StateM World)) (backend : Backend (StateM World) Params)

theorem steady_inside {allowed : List Event → Prop} :
    Steady host.recorded (Inside stage journal allowed :
      Pipeline Params → Recorder World → Prop) where
  agree same inside := by
    simp only [standing, Prod.mk.injEq] at same
    exact ⟨same.1.trans inside.1, same.2.1.trans inside.2.1, inside.2.2⟩
  echo _ _ _ inside := inside

theorem steady_still :
    Steady host.recorded (Still stage journal events :
      Pipeline Params → Recorder World → Prop) :=
  @steady_inside _ _ stage journal host (· = events)

include host in
theorem advances_load (source : Source (StateM World)) (name : RawText) :
    Advances "load" (load backend.recorded source.beside name) :=
  (isStep_load host.recorded _ name).advances (by decide) (fun _ fit => fit)
    fun _ _ => ⟨steady_still host, fun _ _ still => still⟩

theorem advances_derive (beacon exponent : Datum) :
    Advances "derive" (derive host.recorded beacon exponent :
      Action (StateM (Recorder World)) Params Derivation) :=
  (isStep_derive beacon exponent).advances (by decide) (fun _ fit => fit)
    fun _ _ => steady_still host

include host in
theorem advances_seed : Advances "seed" (seed : Action (StateM (Recorder World)) Params Seed) :=
  (isStep_seed host.recorded).advances (by decide) (fun _ fit => fit)
    fun _ _ => steady_still host

theorem advances_finish (inputPath? outputPath? : Option RawText) :
    Advances "finish"
      (finish inputPath? outputPath? : Action (StateM (Recorder World)) Params Receipt) := by
  intro completed
  obtain ⟨making, isStep, finish_eq⟩ :=
    @exists_isStep_finish (Recorder World) Params inputPath? outputPath?
  have taken : Advances "finish" making :=
    isStep.advances (by decide) (fun _ fit => fit) fun _ _ => True.intro
  rw [finish_eq]
  refine Triple.bind _ (taken completed) fun receipt => ?_
  refine Triple.bind _ (.modify _ ?_) fun _ => Triple.pure receipt
  rintro pipeline recorder ⟨orderly, completed_eq⟩
  exact ⟨⟨orderly.completed_first, orderly.completed_eq, orderly.fit⟩, completed_eq⟩

theorem advances_contribute (tag : Int) :
    Advances "contribute" (contribute host.recorded backend.recorded tag) := by
  obtain ⟨body, body_eq, runs⟩ := contribute_returns host.recorded backend.recorded tag
  rw [body_eq]
  refine advances_step (by decide) fun journal events fit => ?_
  obtain rfl : events = [] := fit
  -- The record says what the format has returned, also if that is a failure.
  refine (runs (Still .seeded journal []) (Inside .seeded journal Event.Lawful)
    (fun result => Still .seeded journal [.contributing, .contributed result])
    (steady_still host) (steady_inside host) (fun _ => steady_still host) ?_ ?_ ?_).imp
    (fun _ _ still => still) ?_ fun _ _ _ inside => inside
  · exact fun pipeline recorder still => ⟨still.1, still.2.1, still.2.2 ▸ Event.lawful_nil⟩
  · exact fun result pipeline recorder still =>
      ⟨still.1, still.2.1, still.2.2 ▸ Event.lawful_contributed result⟩
  · rintro parameters generator pipeline ⟨world, events⟩ ⟨staged, logged, rfl⟩
    exact ⟨staged, logged, rfl⟩
  · rintro value pipeline recorder ⟨returned, usable, staged, logged, events_eq⟩
    exact ⟨staged, logged, returned, usable, events_eq⟩

theorem advances_persist (sink : Sink (StateM World)) (name : RawText) :
    Advances "persist" (persist backend.recorded sink.beside name) := by
  refine advances_step (by decide) fun journal events fit => ?_
  obtain ⟨fingerprint, usable, rfl⟩ := fit
  let asked : Pipeline Params → Recorder World → Prop :=
    Still .contributed journal [.contributing, .contributed (.ok fingerprint), .writing]
  have lawful {pipeline : Pipeline Params} {recorder : Recorder World}
      (still : asked pipeline recorder) :
      Inside .contributed journal Event.Lawful pipeline recorder :=
    ⟨still.1, still.2.1, still.2.2 ▸ Event.lawful_writing usable⟩
  refine Triple.bind _ ((Keeps.require _ _).imp (fun _ _ still => still) (fun _ _ _ still => still)
    fun _ _ _ still => ⟨still.1, still.2.1, still.2.2 ▸ Event.lawful_contributed _⟩)
    fun parameters => ?_
  refine Triple.bind (fun _ => asked) ?_ fun written => ?_
  · have written : Triple
        (Still .contributed journal [.contributing, .contributed (.ok fingerprint)])
        (do
          perform (backend.recorded.write parameters sink.beside)
          perform sink.beside.flush) (fun _ => asked) (fun _ => asked) := by
      refine Triple.bind (fun _ => asked) (.perform _ ?_) fun _ =>
        Keeps.perform fun _ _ still => still
      rintro pipeline ⟨world, events⟩ ⟨staged, logged, rfl⟩
      have noted : asked pipeline (backend.recorded.write parameters sink.beside
          ⟨world, [.contributing, .contributed (.ok fingerprint)]⟩).2 := ⟨staged, logged, rfl⟩
      cases settled : (backend.recorded.write parameters sink.beside
          ⟨world, [.contributing, .contributed (.ok fingerprint)]⟩).1 <;> exact noted
    refine (Triple.observe written).imp (fun _ _ still => still) ?_ fun _ _ _ impossible =>
      impossible
    intro result pipeline recorder settled
    cases result <;> exact settled
  · cases written with
    | ok value =>
        exact fun pipeline recorder still =>
          ⟨still.1, still.2.1, fingerprint, usable, still.2.2⟩
    | error failure => exact fun pipeline recorder still => lawful still

theorem InOrder.fail {pipeline : Pipeline Params} {recorder : Recorder World}
    (orderly : InOrder pipeline recorder) (failure : Failure) :
    InOrder (pipeline.fail failure) recorder :=
  orderly_fail failure orderly.completed_first orderly.fit.lawful

/-- Opening a file is not recorded, and what is opened is as it would be without the record. -/
theorem InOrder.opens {File Opened : Type} {pipeline : Pipeline Params} {recorder : Recorder World}
    (orderly : InOrder pipeline recorder) (opening : StateM World (Except Failure File))
    (wrap : File → Opened) :
    InOrder pipeline (Beside.opened opening wrap recorder).2 ∧
      ∀ opened, (Beside.opened opening wrap recorder).1 = .ok opened →
        ∃ file, opened = wrap file := by
  refine ⟨orderly, fun opened opened_eq => ?_⟩
  obtain ⟨file, -, wrap_eq⟩ := Beside.exists_of_opened opened_eq
  exact ⟨file, wrap_eq⟩

theorem keeps_loadFile (path : RawText) :
    Keeps InOrder (loadFile host.recorded backend.recorded path) := by
  refine Keeps.loadFile (fun opened => ∃ file : InputFile (StateM World), opened = file.beside)
    (fun _ _ orderly => orderly.opens (host.openInput path) InputFile.beside) ?_ ?_
    fun failure _ _ orderly => orderly.fail failure
  · rintro _ ⟨file, rfl⟩
    exact (advances_load host backend file.source path).keeps
  · rintro _ ⟨file, rfl⟩ _ _ orderly
    exact orderly

theorem keeps_persistFile (path : RawText) :
    Keeps InOrder (persistFile host.recorded backend.recorded path) := by
  refine Keeps.persistFile (fun opened => ∃ file : OutputFile (StateM World), opened = file.beside)
    (fun _ _ orderly => orderly.opens (host.openOutput path) OutputFile.beside) ?_ ?_
    fun failure _ _ orderly => orderly.fail failure
  · rintro _ ⟨file, rfl⟩
    exact (advances_persist backend file.sink path).keeps
  · rintro _ ⟨file, rfl⟩ _ _ orderly
    exact orderly

theorem keeps_run (beacon exponent : Datum) (inputPath? outputPath? : Option RawText)
    (tag : Int) : Keeps InOrder
      (run host.recorded backend.recorded beacon exponent inputPath? outputPath? tag) := by
  refine Keeps.bind Keeps.get fun read => ?_
  split
  · exact Keeps.throw _
  · cases checkRequest host.recorded.depth beacon exponent with
    | error failure =>
        cases failure with
        | ceremony error => exact Keeps.abort fun _ _ orderly => orderly.fail _
        | _ => exact Keeps.throw _
    | ok _ =>
        refine Keeps.bind (keeps_loadFile host backend _) fun _ => ?_
        refine Keeps.bind (advances_derive host beacon exponent).keeps fun _ => ?_
        refine Keeps.bind (advances_seed host).keeps fun _ => ?_
        refine Keeps.bind (advances_contribute host backend tag).keeps fun _ => ?_
        refine Keeps.bind (keeps_persistFile host backend _) fun _ => ?_
        refine Keeps.bind (Keeps.echoAll fun _ _ _ _ orderly => orderly) fun _ => ?_
        exact (advances_finish _ _).keeps

theorem Advances.discard {name : String} {α : Type}
    {action : Action (StateM (Recorder World)) Params α} (advances : Advances name action) :
    Advances name (do discard action) :=
  fun completed => .bind _ (advances completed) fun _ _ _ holds => holds

theorem advances_call {call : Call World} {name : String} (named : call.stepName? = some name) :
    Advances name (call.action host backend) := by
  cases call with
  | load source path =>
      obtain rfl : "load" = name := Option.some.inj named
      exact advances_load host backend source path
  | derive beacon exponent =>
      obtain rfl : "derive" = name := Option.some.inj named
      exact (advances_derive host beacon exponent).discard
  | seed =>
      obtain rfl : "seed" = name := Option.some.inj named
      exact (advances_seed host).discard
  | contribute tag =>
      obtain rfl : "contribute" = name := Option.some.inj named
      exact (advances_contribute host backend tag).discard
  | persist sink path =>
      obtain rfl : "persist" = name := Option.some.inj named
      exact advances_persist backend sink path
  | finish inputPath? outputPath? =>
      obtain rfl : "finish" = name := Option.some.inj named
      exact (advances_finish inputPath? outputPath?).discard
  | run => contradiction

theorem keeps_call (call : Call World) : Keeps InOrder (call.action host backend) := by
  cases named : call.stepName? with
  | some name => exact (advances_call host backend named).keeps
  | none =>
      cases call with
      | run beacon exponent inputPath? outputPath? tag =>
          exact Keeps.bind (keeps_run host backend _ _ _ _ tag) fun _ => Keeps.pure _
      | _ => contradiction

end Steps
end Action

section Life

open BeaconCeremony.Action

variable {World Params : Type} {host : Host (StateM World)}
  {backend : Backend (StateM World) Params} {config : Config} {pipeline : Pipeline Params}
  {events : List Event}

theorem orderly_outcome (orderly : pipeline.Orderly events) (call : Call World) (world : World) :
    (call.outcome host backend pipeline world events).pipeline.Orderly
      (call.outcome host backend pipeline world events).world.kept :=
  Aftermath.meets_const_iff.mp (keeps_call host backend call pipeline ⟨world, events⟩ orderly)

theorem Reached.orderly (reached : Reached host backend config pipeline events) :
    pipeline.Orderly events := by
  induction reached with
  | start => exact Pipeline.orderly_start config
  | call before call world ih => exact orderly_outcome ih call world

theorem completed_outcome (orderly : pipeline.Orderly events) {call : Call World} (world : World)
    {name : String} (named : call.stepName? = some name) :
    (call.outcome host backend pipeline world events).pipeline.completed =
      match (call.outcome host backend pipeline world events).result with
      | .ok _ => pipeline.completed ++ [name]
      | .error _ => pipeline.completed := by
  have left := advances_call host backend named pipeline.completed pipeline ⟨world, events⟩
    ⟨orderly, rfl⟩
  rw [Call.outcome]
  generalize after (call.action host backend) pipeline ⟨world, events⟩ = aftermath at left
  obtain ⟨failure | value, after, recorder⟩ := aftermath
  · exact left.2
  · exact left.2

/-- After any calls in any order, with anything going wrong in between, the steps that have
succeeded are the first few of the six steps in their order.  The format has been asked to
contribute at most once, and to write at most once and only after its contribution had come back
with a fingerprint.  The name of a step is added to the successful ones just if its call
succeeds. -/
theorem contributes_at_most_once (reached : Reached host backend config pipeline events) :
    pipeline.completed <+: stepNames ∧
      (∀ (call : Call World) (world : World) (name : String), call.stepName? = some name →
        (call.outcome host backend pipeline world events).pipeline.completed =
          match (call.outcome host backend pipeline world events).result with
          | .ok _ => pipeline.completed ++ [name]
          | .error _ => pipeline.completed) ∧
      events.countP Event.isContributing ≤ 1 ∧ events.countP Event.isWriting ≤ 1 ∧
      ∀ before rest, events = before ++ .writing :: rest →
        ∃ fingerprint, .contributed (.ok fingerprint) ∈ before ∧ fingerprint.IsFingerprint := by
  have orderly := reached.orderly
  have lawful := orderly.fit.lawful
  exact ⟨orderly.completed_first, fun call world name named =>
    completed_outcome orderly world named, lawful.contributions, lawful.writings, lawful.justified⟩

end Life

/-- Surroundings in which everything goes well. -/
def Host.obliging : Host (StateM Unit) where
  echo _ := pure (.ok ())
  openInput _ := pure (.ok ⟨⟨fun _ => pure (.ok [])⟩, pure (.ok ())⟩)
  openOutput _ := pure (.ok ⟨⟨fun _ => pure (.ok ()), pure (.ok ())⟩, pure (.ok ())⟩)
  depth := Datum.usualDepth

/-- A format whose parameters are the number of contributions to them. -/
def Backend.counter : Backend (StateM Unit) Nat where
  read _ := pure (.ok 0)
  contribute parameters generator _ :=
    pure ⟨.ok (.bytes [parameters.toUInt8 + 1]), parameters + 1, generator⟩
  write _ _ := pure (.ok ())

/-- A whole run after which the contribution is asked for once more. -/
theorem contributes_at_most_once_repeated :
    let config : Config := ⟨"mpc.params", "mpc.params", "bn254-phase2", .bool true⟩
    let beacon : Datum := .text (String.ofList (List.replicate 64 '0'))
    let first := (Call.run beacon (.int 10) none none 0).outcome Host.obliging Backend.counter
      (.start config) () []
    let second := (Call.contribute 0).outcome Host.obliging Backend.counter first.pipeline ()
      first.world.kept
    let events := second.world.kept
    Reached Host.obliging Backend.counter config second.pipeline events ∧
      second.pipeline.completed = stepNames ∧ events.countP Event.isContributing = 1 ∧
      events.countP Event.isWriting = 1 ∧
      (second.pipeline.completed <+: stepNames ∧ events.countP Event.isContributing ≤ 1 ∧
        events.countP Event.isWriting ≤ 1 ∧ ∀ before rest, events = before ++ .writing :: rest →
          ∃ fingerprint, .contributed (.ok fingerprint) ∈ before ∧ fingerprint.IsFingerprint) := by
  intro config beacon first second events
  have reached : Reached Host.obliging Backend.counter config second.pipeline events :=
    .call (.call .start _ ()) _ ()
  obtain ⟨completed_first, -, contributions, writings, justified⟩ :=
    contributes_at_most_once reached
  have counted : second.pipeline.completed = stepNames ∧
      events.countP Event.isContributing = 1 ∧ events.countP Event.isWriting = 1 := by
    simp only [events, second, first, Call.outcome, Call.action, Pipeline.run, Pipeline.derive,
      Chain.run_eq]
    decide +kernel
  exact ⟨reached, counted.1, counted.2.1, counted.2.2, completed_first, contributions, writings,
    justified⟩

end BeaconCeremony

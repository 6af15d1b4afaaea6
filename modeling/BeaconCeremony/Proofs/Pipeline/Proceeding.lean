import BeaconCeremony.Proofs.Pipeline.Move
import BeaconCeremony.Proofs.Pipeline.Once

/-!
# Actions that proceed by moves

An action proceeds if all that it does to a contribution is a row of moves, and if it fails only in
the ways in which its surroundings may fail.  Actions made of such actions proceed as well.  The one
other failure is that of a step which asks for a result that is not there.
-/

namespace BeaconCeremony

/-- The failure of a step that asks for a result that is not there. -/
def Failure.Wants (failure : Failure) : Prop :=
  ∃ name stage, failure = .ceremony (.stepOrder name "prior steps completed" stage)

/-- A step that is called at the wrong stage is not refused for want of a result. -/
theorem Failure.not_wants_of_stage (name : String) (expected : Stage) (actual : String) :
    ¬(Failure.ceremony (.stepOrder name expected.name actual)).Wants := by
  rintro ⟨_, _, same⟩
  obtain ⟨-, expected_eq, -⟩ := CeremonyError.stepOrder.inj (Failure.ceremony.inj same)
  cases expected <;> exact absurd expected_eq (by decide)

/-- The operation fails only in ways that are allowed. -/
def FailsOnly {World α : Type} (allowed : Failure → Prop)
    (operation : StateM World (Except Failure α)) : Prop :=
  ∀ world failure, (operation world).1 = .error failure → allowed failure

section Confinement

variable {World Params : Type}

/-- Reading from a source fails only in ways that are allowed. -/
def Backend.ReadsFrom (backend : Backend (StateM World) Params) (allowed : Failure → Prop)
    (source : Source (StateM World)) : Prop :=
  FailsOnly allowed (backend.read source)

/-- Writing to a sink fails only in ways that are allowed. -/
def Backend.WritesTo (backend : Backend (StateM World) Params) (allowed : Failure → Prop)
    (sink : Sink (StateM World)) : Prop :=
  (∀ parameters, FailsOnly allowed (backend.write parameters sink)) ∧ FailsOnly allowed sink.flush

/-- The host and the format fail only in ways that are allowed. -/
structure Confined (host : Host (StateM World)) (backend : Backend (StateM World) Params)
    (allowed : Failure → Prop) : Prop where
  /-- Showing a line. -/
  echo : ∀ line, FailsOnly allowed (host.echo line)
  /-- Opening a file for reading. -/
  openInput : ∀ path, FailsOnly allowed (host.openInput path)
  /-- Reading from a file and closing it. -/
  input : ∀ path world file, (host.openInput path world).1 = .ok file →
    backend.ReadsFrom allowed file.source ∧ FailsOnly allowed file.close
  /-- Contributing. -/
  contribute : ∀ parameters generator tag world failure,
    (backend.contribute parameters generator tag world).1.result = .error failure → allowed failure
  /-- Opening a file for writing. -/
  openOutput : ∀ path, FailsOnly allowed (host.openOutput path)
  /-- Writing to a file and closing it. -/
  output : ∀ path world file, (host.openOutput path world).1 = .ok file →
    backend.WritesTo allowed file.sink ∧ FailsOnly allowed file.close

/-- The stream that a call is given fails only in ways that are allowed. -/
def Call.Serves (backend : Backend (StateM World) Params) (allowed : Failure → Prop) :
    Call World → Prop
  | .load source _ => backend.ReadsFrom allowed source
  | .persist sink _ => backend.WritesTo allowed sink
  | _ => True

end Confinement

namespace Action

open BeaconCeremony.Pipeline

variable {World Params α β : Type}

/-- The contribution and the record are the given ones. -/
def Given (pipeline : Pipeline Params) (events : List Event) (other : Pipeline Params)
    (recorder : Recorder World) : Prop :=
  other = pipeline ∧ recorder.kept = events

/-- A row of moves has led here, and the contribution is not done. -/
def Onward (backend : Backend (StateM World) Params) (pipeline : Pipeline Params)
    (events : List Event) (other : Pipeline Params) (recorder : Recorder World) : Prop :=
  Passes backend pipeline events other recorder.kept ∧ other.stage ≠ .done

/-- A failure is allowed, or a step asked for a result that was not there. -/
def Excused (backend : Backend (StateM World) Params) (allowed : Failure → Prop)
    (pipeline : Pipeline Params) (events : List Event) (failure : Failure) : Prop :=
  allowed failure ∨ ∃ later noted, Passes backend pipeline events later noted ∧ later.Lacking

/-- After an excused failure a row of moves has led here, and the contribution is not done. -/
def Broken (backend : Backend (StateM World) Params) (allowed : Failure → Prop)
    (pipeline : Pipeline Params) (events : List Event) (failure : Failure)
    (other : Pipeline Params) (recorder : Recorder World) : Prop :=
  Excused backend allowed pipeline events failure ∧ Onward backend pipeline events other recorder

/-- Unless a contribution is done, an action is a row of moves that leads to one of the given ends
and fails only in ways that are excused. -/
def Leads (backend : Backend (StateM World) Params) (allowed : Failure → Prop)
    (ends : Pipeline Params → Prop) (action : Action (StateM (Recorder World)) Params α) : Prop :=
  ∀ pipeline events, pipeline.stage ≠ .done → Triple (Given pipeline events) action
    (fun _ other recorder => Passes backend pipeline events other recorder.kept ∧ ends other)
    (Broken backend allowed pipeline events)

/-- An action leads anywhere but to the end. -/
abbrev Proceeds (backend : Backend (StateM World) Params) (allowed : Failure → Prop)
    (action : Action (StateM (Recorder World)) Params α) : Prop :=
  Leads backend allowed (fun pipeline => pipeline.stage ≠ .done) action

/-- An action may lead to the end. -/
abbrev Concludes (backend : Backend (StateM World) Params) (allowed : Failure → Prop)
    (action : Action (StateM (Recorder World)) Params α) : Prop :=
  Leads backend allowed (fun _ => True) action

section Rules

variable {backend : Backend (StateM World) Params} {allowed : Failure → Prop}
  {pipeline : Pipeline Params} {events : List Event}
  {action : Action (StateM (Recorder World)) Params α}

theorem Excused.earlier {later : Pipeline Params} {noted : List Event} {failure : Failure}
    (passes : Passes backend pipeline events later noted)
    (excused : Excused backend allowed later noted failure) :
    Excused backend allowed pipeline events failure :=
  excused.imp_right fun ⟨_, _, further, lacking⟩ => ⟨_, _, passes.trans further, lacking⟩

theorem Broken.earlier {later other : Pipeline Params} {noted : List Event} {failure : Failure}
    {recorder : Recorder World} (passes : Passes backend pipeline events later noted)
    (broken : Broken backend allowed later noted failure other recorder) :
    Broken backend allowed pipeline events failure other recorder :=
  ⟨broken.1.earlier passes, passes.trans broken.2.1, broken.2.2⟩

/-- Nothing has happened yet. -/
theorem Given.onward {other : Pipeline Params} {recorder : Recorder World}
    (given : Given pipeline events other recorder) (undone : pipeline.stage ≠ .done) :
    Onward backend pipeline events other recorder := by
  obtain ⟨rfl, rfl⟩ := given
  exact ⟨Passes.refl, undone⟩

/-- A contribution that is not done may fail. -/
theorem Onward.fail {other : Pipeline Params} {recorder : Recorder World}
    (onward : Onward backend pipeline events other recorder) (failure : Failure) :
    Onward backend pipeline events (other.fail failure) recorder :=
  ⟨onward.1.move (.fail onward.2 (.still (.refl other)) failure),
    stage_fail other failure ▸ nofun⟩

theorem Proceeds.concludes (proceeds : Proceeds backend allowed action) :
    Concludes backend allowed action :=
  fun pipeline events undone => (proceeds pipeline events undone).imp (fun _ _ given => given)
    (fun _ _ _ onward => ⟨onward.1, True.intro⟩) fun _ _ _ broken => broken

theorem Leads.throw {ends : Pipeline Params → Prop} {failure : Failure}
    (excused : allowed failure) :
    Leads backend allowed ends
      (MonadExcept.throw failure : Action (StateM (Recorder World)) Params α) :=
  fun _ _ undone _ _ given => ⟨.inl excused, given.onward undone⟩

theorem Leads.bind {ends : Pipeline Params → Prop}
    {next : α → Action (StateM (Recorder World)) Params β}
    (first : Proceeds backend allowed action)
    (second : ∀ value, Leads backend allowed ends (next value)) :
    Leads backend allowed ends (action >>= next) := by
  refine fun pipeline events undone => Triple.bind _ (first pipeline events undone) fun value => ?_
  rintro other recorder ⟨passes, undone⟩
  refine (second value other recorder.kept undone other recorder ⟨rfl, rfl⟩).imp ?_ ?_
  · exact fun _ _ _ further => ⟨passes.trans further.1, further.2⟩
  · exact fun _ _ _ broken => broken.earlier passes

theorem Leads.get_bind {ends : Pipeline Params → Prop}
    {next : Pipeline Params → Action (StateM (Recorder World)) Params β}
    (runs : ∀ read, Leads backend allowed ends (next read)) :
    Leads backend allowed ends (get >>= next) :=
  fun pipeline events undone => Triple.bind _ .get fun read =>
    (runs read pipeline events undone).imp (fun _ _ given => given.2) (fun _ _ _ passes => passes)
      fun _ _ _ broken => broken

/-- How a file is opened depends on the state of the surroundings only. -/
theorem Leads.opened_bind {ends : Pipeline Params → Prop} {File Opened : Type}
    {opening : StateM World (Except Failure File)} {wrap : File → Opened}
    {next : Except Failure Opened → Action (StateM (Recorder World)) Params β}
    (runs : ∀ world, Leads backend allowed ends (next ((opening world).1.map wrap))) :
    Leads backend allowed ends (liftM (Beside.opened opening wrap : StateM (Recorder World) _) >>=
      next) := by
  rintro pipeline events undone _ recorder ⟨rfl, same⟩
  exact runs recorder.world _ events undone _
    { recorder with world := (opening recorder.world).2 } ⟨rfl, same⟩

theorem Leads.abort {ends : Pipeline Params → Prop} {failure : Failure}
    (excused : allowed failure) :
    Leads backend allowed ends
      (Action.abort failure : Action (StateM (Recorder World)) Params α) :=
  fun _ _ undone => Triple.abort failure fun _ _ given =>
    ⟨.inl excused, (given.onward undone).fail failure⟩

/-- A failure of the surroundings changes neither the contribution nor the record. -/
theorem Triple.performed {operation : StateM World (Except Failure α)}
    (fails : FailsOnly allowed operation) :
    Triple (Given pipeline events) (Action.perform (Beside.lift operation))
      (fun _ => Given pipeline events)
      (fun failure other recorder => allowed failure ∧ Given pipeline events other recorder) := by
  refine .perform _ fun other recorder given => ?_
  cases settled : (Beside.lift operation recorder).1 with
  | ok value => exact given
  | error failure => exact ⟨fails recorder.world failure settled, given⟩

/-- An action that changes neither the contribution nor the record proceeds. -/
theorem Proceeds.unchanging
    (runs : ∀ pipeline events, Triple (Given pipeline events) action
      (fun _ => Given pipeline events)
      (fun failure other recorder => allowed failure ∧ Given pipeline events other recorder)) :
    Proceeds backend allowed action :=
  fun pipeline events undone => (runs pipeline events).imp (fun _ _ given => given)
    (fun _ _ _ given => given.onward undone)
    fun _ _ _ failed => ⟨.inl failed.1, failed.2.onward undone⟩

theorem Triple.echoedAll {host : Host (StateM World)} (lines : List RawText)
    (fails : ∀ line, FailsOnly allowed (host.echo line)) :
    Triple (Given pipeline events) (Action.echoAll host.recorded lines)
      (fun _ => Given pipeline events)
      (fun failure other recorder => allowed failure ∧ Given pipeline events other recorder) := by
  induction lines with
  | nil => exact fun _ _ given => given
  | cons line lines ih => exact Triple.bind _ (Triple.performed (fails line)) fun _ => ih

theorem Proceeds.echoAll {host : Host (StateM World)} (lines : List RawText)
    (fails : ∀ line, FailsOnly allowed (host.echo line)) :
    Proceeds backend allowed (Action.echoAll host.recorded lines) :=
  .unchanging fun _ _ => Triple.echoedAll lines fails

theorem Proceeds.closing {close : StateM World (Except Failure Unit)}
    (proceeds : Proceeds backend allowed action) (closes : FailsOnly allowed close) :
    Proceeds backend allowed (Pipeline.closing (Beside.lift close) action) := by
  refine fun pipeline events undone => Triple.closing (proceeds pipeline events undone) ?_ ?_
  · intro value other recorder onward
    cases settled : (Beside.lift close recorder).1 with
    | ok _ => exact onward
    | error failure => exact ⟨.inl (closes recorder.world failure settled), onward⟩
  · rintro failure other recorder ⟨excused, onward⟩
    cases settled : (Beside.lift close recorder).1 with
    | ok _ => exact ⟨excused, onward⟩
    | error failure => exact ⟨.inl (closes recorder.world failure settled), onward⟩

/-- A body fails because that is allowed or for want of a result, and leaves the step underway. -/
def Fails (allowed : Failure → Prop) (pipeline : Pipeline Params) (failure : Failure)
    (other : Pipeline Params) (_ : Recorder World) : Prop :=
  (allowed failure ∨ pipeline.Lacking) ∧ pipeline.Underway other

variable (plain : ∀ failure : Failure, ¬failure.Wants → allowed failure)

include plain in
/-- Away from its stage a step is refused, and if its body fails so does the contribution. -/
theorem Triple.taken {name : String} {expected target : Stage}
    {success : α → Pipeline Params → Recorder World → Prop} (undone : pipeline.stage ≠ .done)
    (runs : pipeline.stage = expected → Triple (Given pipeline events) action
      (fun value other recorder => success value (other.moveTo target) recorder)
      (Fails allowed pipeline)) :
    Triple (Given pipeline events) (Action.step name expected target action) success
      (Broken backend allowed pipeline events) := by
  by_cases staged : pipeline.stage = expected
  · refine Triple.step (runs staged) ?_ (fun _ _ _ holds => holds) ?_
    · rintro _ _ ⟨rfl, -⟩
      exact staged
    · rintro failure other recorder ⟨excused, underway⟩
      exact ⟨excused.imp_right fun lacking => ⟨_, _, Passes.refl, lacking⟩,
        (Move.fail undone underway failure).passes, stage_fail other failure ▸ nofun⟩
  · rintro _ recorder ⟨rfl, rfl⟩
    rw [after_step_of_ne staged]
    exact ⟨.inl (plain _ (Failure.not_wants_of_stage _ _ _)), Passes.refl, undone⟩

include plain in
/-- A step proceeds if its body makes the move to the target, which is not the end. -/
theorem Proceeds.step {name : String} {expected target : Stage} (unfinished : target ≠ .done)
    (runs : ∀ pipeline events, pipeline.stage = expected → Triple (Given pipeline events) action
      (fun _ other recorder => Move backend pipeline events (other.moveTo target) recorder.kept)
      (Fails allowed pipeline)) :
    Proceeds backend allowed (Action.step name expected target action) :=
  fun pipeline events undone => Triple.taken plain undone fun staged =>
    (runs pipeline events staged).imp (fun _ _ given => given)
      (fun _ _ _ move => ⟨move.passes, unfinished⟩) fun _ _ _ fails => fails

/-- A body goes on with a result that an earlier step has left, and is lacking without it. -/
theorem Triple.required {name : String} {field : Pipeline Params → Option α}
    {next : α → Action (StateM (Recorder World)) Params β}
    {success : β → Pipeline Params → Recorder World → Prop}
    (lacking : field pipeline = none → pipeline.Lacking)
    (runs : ∀ value, field pipeline = some value →
      Triple (Given pipeline events) (next value) success (Fails allowed pipeline)) :
    Triple (Given pipeline events) (Action.require name field >>= next) success
      (Fails allowed pipeline) := by
  refine Triple.bind _ ((Triple.require _ _).imp (fun _ _ given => given)
    (fun _ _ _ found => found) ?_) fun value => ?_
  · rintro failure _ recorder ⟨⟨-, missing⟩, rfl, rfl⟩
    exact ⟨.inr (lacking missing), .still (.refl _)⟩
  · rintro _ recorder ⟨found, rfl, rfl⟩
    exact runs value found _ recorder ⟨rfl, rfl⟩

/-- A failure of the surroundings in a body that has not changed anything. -/
theorem Triple.performing {operation : StateM World (Except Failure α)}
    (fails : FailsOnly allowed operation) :
    Triple (Given pipeline events) (Action.perform (Beside.lift operation))
      (fun _ => Given pipeline events) (Fails allowed pipeline) := by
  refine (Triple.performed fails).imp (fun _ _ given => given) (fun _ _ _ given => given) ?_
  rintro failure _ recorder ⟨excused, rfl, rfl⟩
  exact ⟨.inl excused, .still (.refl _)⟩

end Rules

end Action
end BeaconCeremony

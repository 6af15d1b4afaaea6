import BeaconCeremony.Pipeline.Run

/-!
# What actions leave behind

In surroundings that are a state of their own, an action on a contribution comes to a result and
leaves a contribution and surroundings behind.  Statements about actions are triples: what holds
before, what holds after success and what holds after a failure.
-/

namespace BeaconCeremony

/-- What an action leaves behind. -/
structure Aftermath (Params World α : Type) where
  /-- The value, or why there is none. -/
  result : Except Failure α
  /-- The contribution afterwards. -/
  pipeline : Pipeline Params
  /-- The surroundings afterwards. -/
  world : World

namespace Action

variable {Params World α β : Type}

/-- What an action leaves behind for a contribution in its surroundings. -/
def after (action : Action (StateM World) Params α) (pipeline : Pipeline Params)
    (world : World) : Aftermath Params World α :=
  let ((result, pipeline), world) := (action.run.run pipeline).run world
  ⟨result, pipeline, world⟩

section Laws

variable (pipeline : Pipeline Params) (world : World)

theorem after_bind (action : Action (StateM World) Params α)
    (next : α → Action (StateM World) Params β) :
    after (action >>= next) pipeline world =
      match after action pipeline world with
      | ⟨.ok value, pipeline, world⟩ => after (next value) pipeline world
      | ⟨.error failure, pipeline, world⟩ => ⟨.error failure, pipeline, world⟩ := by
  simp only [after, ExceptT.run_bind, StateT.run_bind]
  rcases (action.run.run pipeline).run world with ⟨⟨result | result, pipeline⟩, world⟩ <;> rfl

theorem after_bind_of_error {action : Action (StateM World) Params α} {failure : Failure}
    {left : Pipeline Params} {reached : World} (next : α → Action (StateM World) Params β)
    (failed : after action pipeline world = ⟨.error failure, left, reached⟩) :
    after (action >>= next) pipeline world = ⟨.error failure, left, reached⟩ := by
  rw [after_bind, failed]

theorem after_bind_of_ok {action : Action (StateM World) Params α} {value : α}
    {left : Pipeline Params} {reached : World} (next : α → Action (StateM World) Params β)
    (succeeded : after action pipeline world = ⟨.ok value, left, reached⟩) :
    after (action >>= next) pipeline world = after (next value) left reached := by
  rw [after_bind, succeeded]

@[simp]
theorem after_get :
    after (get : Action (StateM World) Params (Pipeline Params)) pipeline world =
      ⟨.ok pipeline, pipeline, world⟩ := rfl

theorem after_lift (operation : StateM World α) :
    after (liftM operation : Action (StateM World) Params α) pipeline world =
      ⟨.ok (operation world).1, pipeline, (operation world).2⟩ := rfl

/-- A result that an earlier step has left is found. -/
theorem after_require {name : String} {result : Pipeline Params → Option α}
    {pipeline : Pipeline Params} {value : α} (found : result pipeline = some value) :
    after (require name result : Action (StateM World) Params α) pipeline world =
      ⟨.ok value, pipeline, world⟩ := by
  simp only [require, after_bind, after_get, found]
  rfl

end Laws

end Action

namespace Aftermath

variable {Params World α : Type}

/-- Either the action succeeded and `success` holds, or it failed and `trouble` holds. -/
def Meets (success : α → Pipeline Params → World → Prop)
    (trouble : Failure → Pipeline Params → World → Prop) (aftermath : Aftermath Params World α) :
    Prop :=
  match aftermath.result with
  | .ok value => success value aftermath.pipeline aftermath.world
  | .error failure => trouble failure aftermath.pipeline aftermath.world

variable {success success' : α → Pipeline Params → World → Prop}
  {trouble trouble' : Failure → Pipeline Params → World → Prop}
  {aftermath : Aftermath Params World α}

theorem Meets.imp (meets : aftermath.Meets success trouble)
    (succeeds : ∀ value pipeline world, success value pipeline world →
      success' value pipeline world)
    (fails : ∀ failure pipeline world, trouble failure pipeline world →
      trouble' failure pipeline world) :
    aftermath.Meets success' trouble' := by
  obtain ⟨failure | value, pipeline, world⟩ := aftermath
  · exact fails failure pipeline world meets
  · exact succeeds value pipeline world meets

/-- What does not depend on the result holds of what is left behind. -/
theorem meets_const_iff {fact : Pipeline Params → World → Prop} :
    aftermath.Meets (fun _ => fact) (fun _ => fact) ↔
      fact aftermath.pipeline aftermath.world := by
  obtain ⟨failure | value, pipeline, world⟩ := aftermath
  · exact Iff.rfl
  · exact Iff.rfl

end Aftermath

namespace Action

variable {Params World α β : Type}

/-- Whenever `before` holds, the action leaves `success` behind if it succeeds, and `trouble` if it
fails. -/
def Triple (before : Pipeline Params → World → Prop) (action : Action (StateM World) Params α)
    (success : α → Pipeline Params → World → Prop)
    (trouble : Failure → Pipeline Params → World → Prop) : Prop :=
  ∀ pipeline world, before pipeline world → (after action pipeline world).Meets success trouble

/-- What holds before the action holds afterwards, however it ends. -/
abbrev Keeps (fact : Pipeline Params → World → Prop) (action : Action (StateM World) Params α) :
    Prop :=
  Triple fact action (fun _ => fact) (fun _ => fact)

variable {before before' fact : Pipeline Params → World → Prop}
  {success success' : α → Pipeline Params → World → Prop}
  {trouble trouble' : Failure → Pipeline Params → World → Prop}
  {action : Action (StateM World) Params α}

theorem Triple.imp (triple : Triple before action success trouble)
    (weaker : ∀ pipeline world, before' pipeline world → before pipeline world)
    (succeeds : ∀ value pipeline world, success value pipeline world →
      success' value pipeline world)
    (fails : ∀ failure pipeline world, trouble failure pipeline world →
      trouble' failure pipeline world) :
    Triple before' action success' trouble' := by
  intro pipeline world holds
  exact (triple pipeline world (weaker pipeline world holds)).imp succeeds fails

theorem Triple.pure (value : α) : Triple (success value) (pure value) success trouble :=
  fun _ _ holds => holds

theorem Triple.throw (failure : Failure) :
    Triple (trouble failure) (throw failure) success trouble :=
  fun _ _ holds => holds

theorem Triple.bind (middle : α → Pipeline Params → World → Prop)
    {success : β → Pipeline Params → World → Prop} {next : α → Action (StateM World) Params β}
    (first : Triple before action middle trouble)
    (second : ∀ value, Triple (middle value) (next value) success trouble) :
    Triple before (action >>= next) success trouble := by
  intro pipeline world holds
  have left := first pipeline world holds
  rw [after_bind]
  generalize after action pipeline world = aftermath at left
  obtain ⟨failure | value, pipeline, world⟩ := aftermath
  · exact left
  · exact second value pipeline world left

theorem Triple.get :
    Triple before (get : Action (StateM World) Params (Pipeline Params))
      (fun read pipeline world => read = pipeline ∧ before pipeline world) trouble :=
  fun _ _ holds => ⟨rfl, holds⟩

theorem Triple.modify {changed : Pipeline Params → World → Prop}
    (change : Pipeline Params → Pipeline Params)
    (holds : ∀ pipeline world, before pipeline world → changed (change pipeline) world) :
    Triple before (modify change : Action (StateM World) Params Unit) (fun _ => changed) trouble :=
  holds

theorem Triple.lift (operation : StateM World α)
    (runs : ∀ pipeline world, before pipeline world →
      success (operation world).1 pipeline (operation world).2) :
    Triple before (liftM operation : Action (StateM World) Params α) success trouble :=
  runs

/-- The assertion about a result that is at hand. -/
def Settles (success : α → Pipeline Params → World → Prop)
    (trouble : Failure → Pipeline Params → World → Prop) (result : Except Failure α)
    (pipeline : Pipeline Params) (world : World) : Prop :=
  Aftermath.Meets success trouble ⟨result, pipeline, world⟩

theorem Triple.observe (triple : Triple before action success trouble) :
    Triple before (observe action) (Settles success trouble) trouble' :=
  triple

theorem Triple.settle (result : Except Failure α) :
    Triple (Settles success trouble result)
      (match result with
        | .ok value => Pure.pure value
        | .error failure => MonadExcept.throw failure) success trouble := by
  cases result with
  | ok value => exact .pure value
  | error failure => exact .throw failure

theorem Triple.perform (operation : StateM World (Except Failure α))
    (runs : ∀ pipeline world, before pipeline world →
      Settles success trouble (operation world).1 pipeline (operation world).2) :
    Triple before (perform operation) success trouble :=
  .bind _ (.lift operation runs) fun result => .settle result

theorem Triple.abort (failure : Failure)
    (fails : ∀ pipeline world, before pipeline world →
      trouble failure (pipeline.fail failure) world) :
    Triple before (abort failure) success trouble :=
  .bind _ (.modify (·.fail failure) fails) fun _ => .throw failure

theorem Triple.require (name : String) (result : Pipeline Params → Option α) :
    Triple before (require name result)
      (fun value pipeline world => result pipeline = some value ∧ before pipeline world)
      (fun failure pipeline world => (failure = .ceremony (.stepOrder name "prior steps completed"
        pipeline.stage.name) ∧ result pipeline = none) ∧ before pipeline world) := by
  refine .bind _ .get fun read => ?_
  rintro pipeline world ⟨rfl, holds⟩
  cases found : result read with
  | none => exact ⟨⟨rfl, found⟩, holds⟩
  | some value => exact ⟨found, holds⟩

/-- What an action is timed with is noted after it, also if it fails. -/
theorem Triple.timedTo (note : Metrics → Metrics) (middle : α → Pipeline Params → World → Prop)
    (aborted : Failure → Pipeline Params → World → Prop)
    (triple : Triple before action middle aborted)
    (succeeds : ∀ value pipeline world, middle value pipeline world →
      success value { pipeline with metrics := note pipeline.metrics } world)
    (fails : ∀ failure pipeline world, aborted failure pipeline world →
      trouble failure { pipeline with metrics := note pipeline.metrics } world) :
    Triple before (timed note action) success trouble := by
  refine .bind _ (.observe triple) fun result => .bind _ (.modify _ ?_) fun _ => .settle result
  intro pipeline world settled
  cases result with
  | ok value => exact succeeds value pipeline world settled
  | error failure => exact fails failure pipeline world settled

theorem Triple.timed (note : Metrics → Metrics) (triple : Triple before action success trouble)
    (succeeds : ∀ value pipeline world, success value pipeline world →
      success value { pipeline with metrics := note pipeline.metrics } world)
    (fails : ∀ failure pipeline world, trouble failure pipeline world →
      trouble failure { pipeline with metrics := note pipeline.metrics } world) :
    Triple before (Action.timed note action) success trouble :=
  .timedTo note _ _ triple succeeds fails

/-- A failure to close takes the place of what the action came to. -/
theorem Triple.closing {close : StateM World (Except Failure Unit)}
    {middle : α → Pipeline Params → World → Prop}
    {aborted : Failure → Pipeline Params → World → Prop}
    (triple : Triple before action middle aborted)
    (succeeds : ∀ value pipeline world, middle value pipeline world →
      Settles (fun _ => success value) trouble (close world).1 pipeline (close world).2)
    (fails : ∀ failure pipeline world, aborted failure pipeline world →
      Settles (fun _ => trouble failure) trouble (close world).1 pipeline (close world).2) :
    Triple before (Pipeline.closing close action) success trouble := by
  refine .bind _ (.observe triple) fun result => .bind (fun _ => Settles success trouble result)
    (.perform close fun pipeline world settled => ?_) fun _ => .perform _ fun _ _ settled => settled
  cases result with
  | ok value => exact succeeds value pipeline world settled
  | error failure => exact fails failure pipeline world settled

theorem Triple.echoAll {host : Host (StateM World)} {lines : List RawText}
    (echoes : ∀ line ∈ lines, ∀ pipeline world, before pipeline world →
      Settles (fun _ => before) trouble (host.echo line world).1 pipeline
        (host.echo line world).2) :
    Triple before (echoAll host lines) (fun _ => before) trouble := by
  induction lines with
  | nil => exact fun _ _ holds => holds
  | cons line lines ih =>
      obtain ⟨here, there⟩ := List.forall_mem_cons.mp echoes
      exact .bind _ (.perform _ here) fun _ => ih there

theorem Triple.forM {items : List β} {visit : β → Action (StateM World) Params PUnit}
    (visits : ∀ item ∈ items, Triple before (visit item) (fun _ => before) trouble) :
    Triple before (items.forM visit) (fun _ => before) trouble := by
  induction items with
  | nil => exact fun _ _ holds => holds
  | cons item items ih =>
      obtain ⟨here, there⟩ := List.forall_mem_cons.mp visits
      exact .bind _ here fun _ => ih there

theorem Keeps.bind {next : α → Action (StateM World) Params β} (first : Keeps fact action)
    (second : ∀ value, Keeps fact (next value)) : Keeps fact (action >>= next) :=
  Triple.bind _ first second

theorem Keeps.pure (value : α) : Keeps fact (Pure.pure value) := fun _ _ holds => holds

theorem Keeps.throw (failure : Failure) :
    Keeps fact (MonadExcept.throw failure : Action (StateM World) Params α) :=
  fun _ _ holds => holds

theorem Keeps.get : Keeps fact (MonadState.get : Action (StateM World) Params (Pipeline Params)) :=
  fun _ _ holds => holds

theorem Keeps.modify {change : Pipeline Params → Pipeline Params}
    (keeps : ∀ pipeline world, fact pipeline world → fact (change pipeline) world) :
    Keeps fact (modify change : Action (StateM World) Params Unit) :=
  keeps

theorem Keeps.lift {operation : StateM World α}
    (keeps : ∀ pipeline world, fact pipeline world → fact pipeline (operation world).2) :
    Keeps fact (liftM operation : Action (StateM World) Params α) :=
  keeps

theorem Keeps.settle (result : Except Failure α) :
    Keeps fact (match result with
      | .ok value => Pure.pure value
      | .error failure => MonadExcept.throw failure) := by
  cases result with
  | ok value => exact .pure value
  | error failure => exact .throw failure

theorem Keeps.perform {operation : StateM World (Except Failure α)}
    (keeps : ∀ pipeline world, fact pipeline world → fact pipeline (operation world).2) :
    Keeps fact (perform operation) :=
  .bind (.lift keeps) .settle

theorem Keeps.observe (keeps : Keeps fact action) : Keeps fact (observe action) := by
  intro pipeline world holds
  have left := Aftermath.meets_const_iff.mp (keeps pipeline world holds)
  exact left

theorem Keeps.require (name : String) (result : Pipeline Params → Option α) :
    Keeps fact (require name result : Action (StateM World) Params α) :=
  (Triple.require name result).imp (fun _ _ holds => holds) (fun _ _ _ found => found.2)
    fun _ _ _ refused => refused.2

theorem Keeps.timed {note : Metrics → Metrics} (keeps : Keeps fact action)
    (notes : ∀ pipeline world, fact pipeline world →
      fact { pipeline with metrics := note pipeline.metrics } world) :
    Keeps fact (timed note action) :=
  Triple.timed note keeps (fun _ => notes) (fun _ => notes)

theorem Keeps.abort {failure : Failure}
    (keeps : ∀ pipeline world, fact pipeline world → fact (pipeline.fail failure) world) :
    Keeps fact (abort failure : Action (StateM World) Params α) :=
  .bind (.modify keeps) fun _ => .throw failure

theorem Keeps.echoAll {host : Host (StateM World)} {lines : List RawText}
    (echoes : ∀ line ∈ lines, ∀ pipeline world, fact pipeline world →
      fact pipeline (host.echo line world).2) :
    Keeps fact (echoAll host lines) :=
  Triple.echoAll fun line member pipeline world holds =>
    Aftermath.meets_const_iff.mpr (echoes line member pipeline world holds)

theorem Keeps.closing {close : StateM World (Except Failure Unit)} (keeps : Keeps fact action)
    (closes : ∀ pipeline world, fact pipeline world → fact pipeline (close world).2) :
    Keeps fact (Pipeline.closing close action) :=
  .bind (.observe keeps) fun _ => .bind (.perform closes) fun _ => .perform fun _ _ holds => holds

theorem Keeps.forM {items : List β} {visit : β → Action (StateM World) Params PUnit}
    (visits : ∀ item ∈ items, Keeps fact (visit item)) : Keeps fact (items.forM visit) :=
  Triple.forM visits

/-- Away from its stage a step does nothing but say so. -/
theorem after_step_of_ne {name : String} {expected target : Stage} {pipeline : Pipeline Params}
    (away : pipeline.stage ≠ expected) (world : World) :
    after (step name expected target action) pipeline world =
      ⟨.error (.ceremony (.stepOrder name expected.name pipeline.stage.name)), pipeline,
        world⟩ := by
  simp only [step, after_bind, after_get, if_pos away]
  rfl

/-- At its stage a step moves to its target if its body succeeds. -/
theorem after_step_of_ok {name : String} {expected target : Stage}
    {pipeline left : Pipeline Params} {world reached : World} {value : α}
    (staged : pipeline.stage = expected)
    (succeeded : after action pipeline world = ⟨.ok value, left, reached⟩) :
    after (step name expected target action) pipeline world =
      ⟨.ok value, left.moveTo target, reached⟩ := by
  have observed : after (observe action) pipeline world = ⟨.ok (.ok value), left, reached⟩ :=
    congrArg (fun found : Aftermath Params World α =>
      (⟨.ok found.result, found.pipeline, found.world⟩ : Aftermath Params World _)) succeeded
  rw [step, after_bind, after_get]
  simp only [if_neg (not_not_intro staged), after_bind, observed]
  rfl

/-- At its stage a step fails if its body does. -/
theorem after_step_of_error {name : String} {expected target : Stage}
    {pipeline left : Pipeline Params} {world reached : World} {failure : Failure}
    (staged : pipeline.stage = expected)
    (failed : after action pipeline world = ⟨.error failure, left, reached⟩) :
    after (step name expected target action) pipeline world =
      ⟨.error failure, left.fail failure, reached⟩ := by
  have observed : after (observe action) pipeline world = ⟨.ok (.error failure), left, reached⟩ :=
    congrArg (fun found : Aftermath Params World α =>
      (⟨.ok found.result, found.pipeline, found.world⟩ : Aftermath Params World _)) failed
  rw [step, after_bind, after_get]
  simp only [if_neg (not_not_intro staged), after_bind, observed]
  rfl

/-- At its stage a step does what its body does, and moves to its target or fails. -/
theorem Triple.step {name : String} {expected target : Stage}
    {middle : α → Pipeline Params → World → Prop}
    {aborted : Failure → Pipeline Params → World → Prop}
    (body : Triple before action middle aborted)
    (enters : ∀ pipeline world, before pipeline world → pipeline.stage = expected)
    (completes : ∀ value pipeline world, middle value pipeline world →
      success value (pipeline.moveTo target) world)
    (aborts : ∀ failure pipeline world, aborted failure pipeline world →
      trouble failure (pipeline.fail failure) world) :
    Triple before (step name expected target action) success trouble := by
  refine .bind _ .get fun read => ?_
  rintro pipeline world ⟨rfl, holds⟩
  rw [if_neg (not_not_intro (enters read world holds))]
  refine Triple.bind _ (.observe body) (fun result => ?_) read world holds
  cases result with
  | ok value => exact .bind _ (.modify _ (completes value)) fun _ => .pure value
  | error failure => exact .abort failure (aborts failure)

/-- A step that may be called at another stage, where it fails and leaves everything as it is. -/
theorem Triple.attempt {name : String} {expected target : Stage}
    {middle : α → Pipeline Params → World → Prop}
    {aborted : Failure → Pipeline Params → World → Prop}
    (body : Triple before action middle aborted)
    (completes : ∀ value pipeline world, middle value pipeline world →
      success value (pipeline.moveTo target) world)
    (aborts : ∀ failure pipeline world, aborted failure pipeline world →
      trouble failure (pipeline.fail failure) world)
    (refuses : ∀ failure pipeline world, before pipeline world → trouble failure pipeline world) :
    Triple before (Action.step name expected target action) success trouble := by
  intro pipeline world holds
  by_cases entered : pipeline.stage = expected
  · have inside : Triple (fun pipeline world => pipeline.stage = expected ∧ before pipeline world)
        action middle aborted :=
      body.imp (fun _ _ holds => holds.2) (fun _ _ _ holds => holds) fun _ _ _ holds => holds
    exact Triple.step inside (fun _ _ holds => holds.1) completes aborts pipeline world
      ⟨entered, holds⟩
  · rw [after_step_of_ne entered]
    exact refuses _ pipeline world holds

/-- A step keeps what its body keeps, if changes of stage and failures keep it as well. -/
theorem Keeps.step {name : String} {expected target : Stage} (body : Keeps fact action)
    (moves : ∀ pipeline world, fact pipeline world → fact (pipeline.moveTo target) world)
    (fails : ∀ failure pipeline world, fact pipeline world →
      fact (pipeline.fail failure) world) :
    Keeps fact (Action.step name expected target action) :=
  Triple.attempt body (fun _ => moves) fails fun _ _ _ holds => holds

end Action
end BeaconCeremony

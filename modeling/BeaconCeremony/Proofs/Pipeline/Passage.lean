import BeaconCeremony.Proofs.Chain.Walk
import BeaconCeremony.Proofs.Except
import BeaconCeremony.Proofs.Pipeline.Proceeding
import BeaconCeremony.Proofs.Pipeline.Refusal

/-!
# What calls make of a contribution

Every call proceeds by moves.  So a fact about contributions holds whatever is called in whatever
order, if it holds at the start and every move keeps it.
-/

namespace BeaconCeremony
namespace Action

open BeaconCeremony.Pipeline

variable {World Params α β : Type}

/-! ## The steps -/

section Refusals

theorem not_wants_of_kind_ne {error : CeremonyError} (kind_ne : error.kind ≠ .stepOrder) :
    ¬(Failure.ceremony error).Wants := by
  rintro ⟨name, stage, same⟩
  obtain rfl := Failure.ceremony.inj same
  exact kind_ne rfl

theorem kind_of_ofDatum {exponent : Datum} {error : CeremonyError}
    (refused : Chain.Exponent.ofDatum exponent = .error error) : error.kind = .iterationRange := by
  unfold Chain.Exponent.ofDatum at refused
  split at refused
  · split at refused
    · contradiction
    · exact Except.error.inj refused ▸ rfl
  · exact Except.error.inj refused ▸ rfl

theorem not_wants_of_unshown (unshown : LiteralError) : ¬unshown.failure.Wants := by
  rintro ⟨name, stage, same⟩
  cases unshown with
  | longNumber => exact Failure.noConfusion same
  | tooDeep => exact Failure.noConfusion same

theorem not_wants_of_parseBeacon {depth : Nat} {beacon : Datum} {failure : Failure}
    (refused : Chain.parseBeacon depth beacon = .error failure) : ¬failure.Wants := by
  rcases Chain.cases_of_parseBeacon_eq_error refused with
    ⟨shown, fault, rfl⟩ | ⟨-, unshown, -, rfl⟩
  · exact not_wants_of_kind_ne (by rintro ⟨⟩)
  · exact not_wants_of_unshown unshown

/-- A request is not refused for want of a result, whatever is made of what it asks for. -/
theorem not_wants_of_request {depth : Nat} {beacon exponent : Datum} {failure : Failure}
    (made : Chain.Exponent → Digest 32 → α)
    (refused : (do
      let exponent ← (Chain.Exponent.ofDatum exponent).mapError Failure.ceremony
      let beacon ← Chain.parseBeacon depth beacon
      return made exponent beacon) = .error failure) : ¬failure.Wants := by
  rcases error_of_bind_eq_error refused with refused | ⟨_, -, refused⟩
  · obtain ⟨error, foreign, rfl⟩ := exists_of_mapError_eq_error refused
    exact not_wants_of_kind_ne (kind_of_ofDatum foreign ▸ by decide)
  · rcases error_of_bind_eq_error refused with refused | ⟨_, -, refused⟩
    · exact not_wants_of_parseBeacon refused
    · contradiction

theorem not_wants_of_ofHex {depth : Nat} {beacon exponent : Datum} {failure : Failure}
    (refused : Chain.ofHex depth beacon exponent = .error failure) : ¬failure.Wants :=
  not_wants_of_request (fun exponent beacon => (⟨beacon, exponent⟩ : Chain)) refused

theorem not_wants_of_checkRequest {depth : Nat} {beacon exponent : Datum} {failure : Failure}
    (refused : checkRequest depth beacon exponent = .error failure) : ¬failure.Wants :=
  not_wants_of_request (fun _ _ => ()) refused

theorem not_wants_of_fingerprintOf {source : RawText} {returned : Datum} {error : CeremonyError}
    (refused : fingerprintOf source returned = .error error) :
    ¬(Failure.ceremony error).Wants := by
  refine not_wants_of_kind_ne ?_
  unfold fingerprintOf at refused
  split at refused
  · exact Except.error.inj refused ▸ nofun
  · exact Except.error.inj refused ▸ nofun
  · contradiction

end Refusals

section Steps

variable {host : Host (StateM World)} {backend : Backend (StateM World) Params}
  {allowed : Failure → Prop} (plain : ∀ failure : Failure, ¬failure.Wants → allowed failure)

include plain in
theorem allowed_ceremony {error : CeremonyError} (kind_ne : error.kind ≠ .stepOrder) :
    allowed (.ceremony error) :=
  plain _ (not_wants_of_kind_ne kind_ne)

include plain in
theorem allowed_blame {failure : Failure} (excused : allowed failure)
    (blamed : RawText → CeremonyError) (kind_ne : ∀ reason, (blamed reason).kind ≠ .stepOrder) :
    allowed (failure.blame blamed) := by
  rw [Failure.blame]
  split
  · exact allowed_ceremony plain (kind_ne _)
  · exact excused

include plain in
theorem proceeds_load {source : Source (StateM World)} (name : RawText)
    (reads : backend.ReadsFrom allowed source) :
    Proceeds backend allowed (load backend.recorded source.beside name) := by
  refine Proceeds.step plain (by decide) fun pipeline events staged => ?_
  let named : Pipeline Params := { pipeline with source := name }
  refine Triple.bind (fun _ => Given named events) (.modify _ ?_) fun _ => ?_
  · rintro _ recorder ⟨rfl, same⟩
    exact ⟨rfl, same⟩
  refine Triple.bind (fun result other recorder => Given named events other recorder ∧
    ∀ failure, result = .error failure → allowed failure) (.lift _ ?_) fun result => ?_
  · exact fun other recorder given => ⟨given, reads recorder.world⟩
  cases result with
  | ok parameters =>
      rintro _ recorder ⟨⟨rfl, rfl⟩, -⟩
      exact Move.load staged name parameters
  | error failure =>
      rintro _ recorder ⟨⟨rfl, rfl⟩, fails⟩
      exact ⟨.inl (allowed_blame plain (fails failure rfl) _ fun _ => by rintro ⟨⟩),
        .still ⟨rfl, rfl, rfl, rfl⟩⟩

/-- Only the reporter may have changed, which counts checkpoints. -/
def Counting (pipeline : Pipeline Params) (events : List Event) (other : Pipeline Params)
    (recorder : Recorder World) : Prop :=
  ∃ reporter, Given { pipeline with reporter := reporter } events other recorder

theorem counting_checkpoint {pipeline : Pipeline Params} {events : List Event}
    (shows : ∀ line, FailsOnly allowed (host.echo line)) (checkpoint : Checkpoint) :
    Triple (Counting pipeline events) (reportCheckpoint host.recorded checkpoint)
      (fun _ => Counting pipeline events)
      (fun failure other recorder =>
        allowed failure ∧ Counting pipeline events other recorder) := by
  refine Triple.bind _ .get fun read => ?_
  rintro _ recorder ⟨rfl, reporter, rfl, rfl⟩
  let marked : Pipeline Params :=
    { pipeline with reporter := (reporter.checkpoint checkpoint).2 }
  refine (Triple.echoedAll _ shows marked recorder ⟨rfl, rfl⟩ : (after (Action.echoAll
    host.recorded ((reporter.checkpoint checkpoint).1.map .ofString)) marked recorder).Meets
      (fun _ => Given marked recorder.kept) _).imp ?_ ?_
  · exact fun _ _ _ given => ⟨_, given⟩
  · exact fun _ _ _ failed => ⟨failed.1, _, failed.2⟩

theorem counting_run {pipeline : Pipeline Params} {events : List Event} (chain : Chain)
    (shows : ∀ line, FailsOnly allowed (host.echo line)) :
    Triple (Given pipeline events)
      (do
        match ← chain.run (reportCheckpoint host.recorded) with
        | .error failure => throw failure
        | .ok derivation =>
          modify fun pipeline => { pipeline with derivation? := some derivation }
          return derivation)
      (fun value other recorder => value = chain.definition ∧
        Counting { pipeline with derivation? := some chain.definition } events other recorder)
      (fun failure other recorder =>
        allowed failure ∧ Counting pipeline events other recorder) := by
  rw [Chain.run_eq]
  refine Triple.bind (fun result other recorder => result = .ok chain.definition ∧
    Counting pipeline events other recorder) ?_ fun result => ?_
  · refine Triple.bind (fun _ => Counting pipeline events) ?_ fun _ other recorder counting =>
      ⟨rfl, counting⟩
    refine (Triple.forM fun checkpoint _ => counting_checkpoint shows checkpoint).imp ?_
      (fun _ _ _ counting => counting) fun _ _ _ failed => failed
    exact fun _ _ given => ⟨_, given⟩
  · rintro _ recorder ⟨rfl, reporter, rfl, rfl⟩
    exact ⟨rfl, reporter, rfl, rfl⟩

include plain in
theorem proceeds_derive (shows : ∀ line, FailsOnly allowed (host.echo line))
    (beacon exponent : Datum) :
    Proceeds backend allowed (derive host.recorded beacon exponent :
      Action (StateM (Recorder World)) Params Derivation) := by
  refine Proceeds.step plain (by decide) fun pipeline events staged => ?_
  rw [Host.depth_recorded]
  cases parsed : Chain.ofHex host.depth beacon exponent with
  | error failure =>
      rintro _ recorder ⟨rfl, rfl⟩
      exact ⟨.inl (plain _ (not_wants_of_ofHex parsed)), .still (.refl _)⟩
  | ok chain =>
      have bounded : chain.definition.iterations ≤ Chain.greatestExponent := by
        rw [Chain.definition]
        exact chain.exponent.le_greatest
      let timed : Pipeline Params := { pipeline with metrics := pipeline.metrics.timeChain }
      let found : Pipeline Params := { timed with derivation? := some chain.definition }
      refine Triple.bind _ ((Triple.performed (shows _)).imp (fun _ _ given => given)
        (fun _ _ _ given => given) ?_) fun _ => ?_
      · rintro failure _ recorder ⟨excused, rfl, rfl⟩
        exact ⟨.inl excused, .still (.refl _)⟩
      refine Triple.bind (fun value other recorder => value = chain.definition ∧
        Counting found events other recorder)
        (.timedTo _ _ _ (counting_run chain shows) ?_ ?_) fun value => ?_
      · rintro value _ recorder ⟨rfl, reporter, rfl, rfl⟩
        exact ⟨rfl, reporter, rfl, rfl⟩
      · rintro failure _ recorder ⟨excused, reporter, rfl, rfl⟩
        exact ⟨.inl excused, .chain staged ⟨rfl, rfl, rfl, rfl⟩⟩
      rintro other recorder ⟨rfl, counting⟩
      refine (?_ : Triple (Counting found events) _ _ _) other recorder counting
      refine Triple.bind (fun _ => Counting (pipeline.derived chain.definition) events)
        (.modify _ ?_) fun _ => ?_
      · rintro _ recorder ⟨reporter, rfl, rfl⟩
        refine ⟨reporter, ?_, rfl⟩
        rw [Pipeline.derived, Chain.steps_definition]
      · rintro _ recorder ⟨reporter, rfl, rfl⟩
        let counted : Pipeline Params :=
          { pipeline.derived chain.definition with reporter := reporter }
        refine (?_ : Triple (Given counted recorder.kept) _ _ _) counted recorder ⟨rfl, rfl⟩
        refine Triple.bind _ ((Triple.echoedAll _ shows).imp (fun _ _ given => given)
          (fun _ _ _ given => given) ?_) fun _ => ?_
        · rintro failure _ recorder ⟨excused, rfl, -⟩
          exact ⟨.inl excused, .derived staged chain.definition bounded ⟨rfl, rfl, rfl, rfl⟩⟩
        · rintro _ recorder ⟨rfl, same⟩
          exact same ▸ Move.derive staged chain.definition bounded reporter

include plain in
theorem proceeds_seed : Proceeds backend allowed
    (seed : Action (StateM (Recorder World)) Params Seed) := by
  refine Proceeds.step plain (by decide) fun pipeline events staged =>
    Triple.required (fun missing => ?_) fun derivation found => ?_
  · rw [Lacking, staged]
    exact missing
  · rintro _ recorder ⟨rfl, rfl⟩
    exact Move.seed staged derivation found

/-- What a format has made of a contribution is known once it has returned. -/
theorem triple_contribute {pipeline : Pipeline Params} {events : List Event}
    (confined : Confined host backend allowed) (staged : pipeline.stage = .seeded)
    (parameters : Params) (generator : Generator) (tag : Int) :
    Triple (Given pipeline events)
      (timed Metrics.timeContribute do
        let contributed ← backend.recorded.contribute parameters generator tag
        modify fun pipeline =>
          { pipeline with
            parameters? := some contributed.parameters
            generator? := some contributed.generator }
        perform (pure contributed.result) : Action (StateM (Recorder World)) Params Datum)
      (fun returned other recorder => ∃ world,
        (backend.contribute parameters generator tag world).1.result = .ok returned ∧
        Given (pipeline.answered (backend.contribute parameters generator tag world).1)
          (events ++ [.contributing, .contributed (.ok returned)]) other recorder)
      (Fails allowed pipeline) := by
  let changed (contributed : Contributed Params) : Pipeline Params :=
    { pipeline with
      parameters? := some contributed.parameters
      generator? := some contributed.generator }
  let noted (contributed : Contributed Params) : List Event :=
    events ++ [.contributing, .contributed contributed.result]
  let asked (contributed : Contributed Params) : Prop :=
    ∃ world, contributed = (backend.contribute parameters generator tag world).1
  refine Triple.timedTo _ (fun returned other recorder => ∃ contributed,
      asked contributed ∧ contributed.result = .ok returned ∧
        Given (changed contributed) (noted contributed) other recorder)
    (fun failure other _ => allowed failure ∧ ∃ contributed, other = changed contributed) ?_ ?_ ?_
  · refine Triple.bind (fun contributed other recorder => asked contributed ∧
      Given pipeline (noted contributed) other recorder) (.lift _ ?_) fun contributed => ?_
    · rintro _ recorder ⟨rfl, rfl⟩
      refine ⟨⟨recorder.world, rfl⟩, rfl, ?_⟩
      exact List.append_assoc _ _ _
    refine Triple.bind (fun _ other recorder => asked contributed ∧
      Given (changed contributed) (noted contributed) other recorder) (.modify _ ?_)
      fun _ => .perform _ ?_
    · rintro _ recorder ⟨made, rfl, same⟩
      exact ⟨made, rfl, same⟩
    · rintro _ recorder ⟨made, rfl, same⟩
      cases result_eq : contributed.result with
      | ok returned => exact ⟨contributed, made, result_eq, rfl, same⟩
      | error failure =>
          obtain ⟨world, rfl⟩ := made
          exact ⟨confined.contribute parameters generator tag world failure result_eq, _, rfl⟩
  · rintro returned _ recorder ⟨_, ⟨world, rfl⟩, result_eq, rfl, same⟩
    refine ⟨world, result_eq, rfl, ?_⟩
    rw [← result_eq]
    exact same
  · rintro failure _ recorder ⟨excused, contributed, rfl⟩
    exact ⟨.inl excused, .contribution staged ⟨rfl, rfl, rfl, rfl⟩⟩

include plain in
theorem proceeds_contribute (confined : Confined host backend allowed) (tag : Int) :
    Proceeds backend allowed (contribute host.recorded backend.recorded tag) := by
  refine Proceeds.step plain (by decide) fun pipeline events staged => ?_
  refine Triple.required (fun missing => ?_) fun parameters loaded =>
    Triple.required (fun missing => ?_) fun generator seeded => ?_
  · rw [Lacking, staged]
    exact .inl missing
  · rw [Lacking, staged]
    exact .inr missing
  refine Triple.bind _ .get fun read => ?_
  rintro _ recorder ⟨rfl, rfl, rfl⟩
  refine (?_ : Triple (Given read recorder.kept) _ _ _) read recorder ⟨rfl, rfl⟩
  refine Triple.bind _ (Triple.performing (confined.echo _)) fun _ =>
    Triple.bind _ (triple_contribute confined staged parameters generator tag) fun returned => ?_
  cases usable : fingerprintOf read.source returned with
  | error error =>
      rintro _ recorder ⟨world, -, rfl, -⟩
      exact ⟨.inl (plain _ (not_wants_of_fingerprintOf usable)),
        .contribution staged ⟨rfl, rfl, rfl, rfl⟩⟩
  | ok fingerprint =>
      rintro _ after ⟨world, result_eq, rfl, same⟩
      let made : Pipeline Params :=
        { read.answered (backend.contribute parameters generator tag world).1 with
          fingerprint? := some fingerprint }
      refine (?_ : Triple (Given (read.answered _) after.kept) _ _ _) _ after ⟨rfl, rfl⟩
      refine Triple.bind (fun _ => Given made after.kept) (.modify _ ?_) fun _ => ?_
      · rintro _ _ ⟨rfl, same⟩
        exact ⟨rfl, same⟩
      refine Triple.bind _ ((Triple.echoedAll _ confined.echo).imp (fun _ _ given => given)
        (fun _ _ _ given => given) ?_) fun _ => ?_
      · rintro failure _ _ ⟨excused, rfl, -⟩
        exact ⟨.inl excused, .contribution staged ⟨rfl, rfl, rfl, rfl⟩⟩
      · rintro _ later ⟨rfl, events_eq⟩
        change Move backend read recorder.kept (made.moveTo .contributed) later.kept
        rw [events_eq, same]
        exact Move.contribute staged parameters generator loaded seeded tag world returned
          fingerprint result_eq usable

include plain in
theorem proceeds_persist {sink : Sink (StateM World)} (name : RawText)
    (writes : backend.WritesTo allowed sink) :
    Proceeds backend allowed (persist backend.recorded sink.beside name) := by
  refine Proceeds.step plain (by decide) fun pipeline events staged =>
    Triple.required (fun missing => ?_) fun parameters _ => ?_
  · rw [Lacking, staged]
    exact missing
  let noted : List Event := events ++ [.writing]
  have written : Triple (Given pipeline events)
      (do
        perform (backend.recorded.write parameters sink.beside)
        perform sink.beside.flush) (fun _ => Given pipeline noted)
      (fun failure other recorder => allowed failure ∧ Given pipeline noted other recorder) := by
    refine Triple.bind (fun _ => Given pipeline noted) (.perform _ ?_) fun _ =>
      Triple.performed writes.2
    rintro _ recorder ⟨rfl, rfl⟩
    cases settled : (backend.recorded.write parameters sink.beside recorder).1 with
    | ok value => exact ⟨rfl, rfl⟩
    | error failure => exact ⟨writes.1 parameters recorder.world failure settled, rfl, rfl⟩
  refine Triple.bind _ (Triple.observe written) fun result => ?_
  cases result with
  | ok value =>
      rintro _ recorder ⟨rfl, same⟩
      change Move backend _ events (Pipeline.moveTo _ .persisted) recorder.kept
      exact same ▸ Move.persist staged
  | error failure =>
      rintro _ recorder ⟨excused, rfl, same⟩
      exact ⟨.inl (allowed_blame plain excused _ fun _ => by rintro ⟨⟩), .still (.refl _)⟩

include plain in
theorem concludes_finish (inputPath? outputPath? : Option RawText) :
    Concludes backend allowed
      (finish inputPath? outputPath? : Action (StateM (Recorder World)) Params Receipt) := by
  refine fun pipeline events undone => Triple.bind
    (fun _ other recorder => pipeline.stage = .persisted ∧
      Given (pipeline.moveTo .done) events other recorder)
    (Triple.taken plain undone fun staged => ?_) fun receipt => ?_
  · refine Triple.required (fun missing => ?_) fun derivation _ =>
      Triple.required (fun missing => ?_) fun seed _ =>
        Triple.required (fun missing => ?_) fun fingerprint _ => ?_
    · rw [Lacking, staged]
      exact .inl missing
    · rw [Lacking, staged]
      exact .inr (.inl missing)
    · rw [Lacking, staged]
      exact .inr (.inr missing)
    · rintro _ recorder ⟨rfl, same⟩
      exact ⟨staged, rfl, same⟩
  · rintro _ recorder ⟨staged, rfl, rfl⟩
    exact ⟨(Move.finish staged).passes, True.intro⟩

include plain in
theorem proceeds_loadFile (confined : Confined host backend allowed) (path : RawText) :
    Proceeds backend allowed (loadFile host.recorded backend.recorded path) := by
  refine Leads.opened_bind fun world => ?_
  cases opened : (host.openInput path world).1 with
  | ok file =>
      obtain ⟨reads, closes⟩ := confined.input path world file opened
      exact Proceeds.closing (proceeds_load plain path reads) closes
  | error failure =>
      have excused := confined.openInput path world failure opened
      cases failure with
      | system error => exact Leads.abort (allowed_ceremony plain (by rintro ⟨⟩))
      | _ => exact Leads.throw excused

include plain in
theorem proceeds_persistFile (confined : Confined host backend allowed) (path : RawText) :
    Proceeds backend allowed (persistFile host.recorded backend.recorded path) := by
  refine Leads.opened_bind fun world => ?_
  cases opened : (host.openOutput path world).1 with
  | ok file =>
      obtain ⟨writes, closes⟩ := confined.output path world file opened
      have written := Proceeds.closing (proceeds_persist plain path writes) closes
      refine fun pipeline events undone =>
        Triple.bind _ (.observe (written pipeline events undone)) fun result => ?_
      cases result with
      | ok value => exact fun _ _ onward => onward
      | error failure =>
          cases failure with
          | system error =>
              exact Triple.abort _ fun _ _ broken =>
                ⟨.inl (allowed_ceremony plain (by rintro ⟨⟩)), broken.2.fail _⟩
          | _ => exact fun _ _ broken => broken
  | error failure =>
      have excused := confined.openOutput path world failure opened
      cases failure with
      | system error => exact Leads.abort (allowed_ceremony plain (by rintro ⟨⟩))
      | _ => exact Leads.throw excused

include plain in
theorem concludes_run (confined : Confined host backend allowed) (beacon exponent : Datum)
    (inputPath? outputPath? : Option RawText) (tag : Int) :
    Concludes backend allowed
      (run host.recorded backend.recorded beacon exponent inputPath? outputPath? tag) := by
  refine Leads.get_bind fun read => ?_
  split
  · exact Leads.throw (plain _ (Failure.not_wants_of_stage _ .idle _))
  · rw [Host.depth_recorded]
    cases checked : checkRequest host.depth beacon exponent with
    | error failure =>
        have excused := plain failure (not_wants_of_checkRequest checked)
        cases failure with
        | ceremony error => exact Leads.abort excused
        | _ => exact Leads.throw excused
    | ok _ =>
        refine Leads.bind (proceeds_loadFile plain confined _) fun _ => ?_
        refine Leads.bind (proceeds_derive plain confined.echo beacon exponent) fun _ => ?_
        refine Leads.bind (proceeds_seed plain) fun _ => ?_
        refine Leads.bind (proceeds_contribute plain confined tag) fun _ => ?_
        refine Leads.bind (proceeds_persistFile plain confined _) fun _ => ?_
        refine Leads.bind (Proceeds.echoAll _ confined.echo) fun _ => ?_
        exact concludes_finish plain _ _

include plain in
theorem concludes_call {call : Call World} (confined : Confined host backend allowed)
    (serves : call.Serves backend allowed) :
    Concludes backend allowed (call.action host backend) := by
  have discarded {β : Type} {action : Action (StateM (Recorder World)) Params β}
      (concludes : Concludes backend allowed action) :
      Concludes backend allowed (do discard action) :=
    fun pipeline events undone =>
      Triple.bind _ (concludes pipeline events undone) fun _ _ _ passes => passes
  cases call with
  | load source name => exact (proceeds_load plain name serves).concludes
  | derive beacon exponent =>
      exact discarded (proceeds_derive plain confined.echo beacon exponent).concludes
  | seed => exact discarded (proceeds_seed plain).concludes
  | contribute tag => exact discarded (proceeds_contribute plain confined tag).concludes
  | persist sink name => exact (proceeds_persist plain name serves).concludes
  | finish inputPath? outputPath? => exact discarded (concludes_finish plain inputPath? outputPath?)
  | run beacon exponent inputPath? outputPath? tag =>
      exact discarded (concludes_run plain confined beacon exponent inputPath? outputPath? tag)

end Steps

end Action

section Reaching

open BeaconCeremony.Action BeaconCeremony.Pipeline

variable {World Params : Type} {host : Host (StateM World)}
  {backend : Backend (StateM World) Params} {pipeline : Pipeline Params} {events : List Event}

theorem confined_of_all {allowed : Failure → Prop} (all : ∀ failure, allowed failure) :
    Confined host backend allowed where
  echo _ _ _ _ := all _
  openInput _ _ _ _ := all _
  input _ _ _ _ := ⟨fun _ _ _ => all _, fun _ _ _ => all _⟩
  contribute _ _ _ _ _ _ := all _
  openOutput _ _ _ _ := all _
  output _ _ _ _ := ⟨⟨fun _ _ _ _ => all _, fun _ _ _ => all _⟩, fun _ _ _ => all _⟩

theorem serves_of_all {allowed : Failure → Prop} (all : ∀ failure, allowed failure)
    (call : Call World) : call.Serves backend allowed := by
  cases call with
  | load source name => exact fun _ _ _ => all _
  | persist sink name => exact ⟨fun _ _ _ _ => all _, fun _ _ _ => all _⟩
  | _ => exact True.intro

/-- Every call makes a row of moves. -/
theorem passes_outcome (host : Host (StateM World)) (call : Call World) (world : World) :
    Passes backend pipeline events (call.outcome host backend pipeline world events).pipeline
      (call.outcome host backend pipeline world events).world.kept := by
  by_cases finished : pipeline.stage = .done
  · rw [Call.outcome_of_ne (finished ▸ call.expected_ne_done.symm)]
    exact Passes.refl
  · have all (_ : Failure) : True := True.intro
    have confined : Confined host backend fun _ => True := confined_of_all all
    have left := concludes_call (fun _ _ => True.intro) confined (serves_of_all all call) pipeline
      events finished pipeline ⟨world, events⟩ ⟨rfl, rfl⟩
    exact Aftermath.meets_const_iff.mp
      (left.imp (fun _ _ _ passes => passes.1) fun _ _ _ broken => broken.2.1)

/-- A call fails only as its surroundings may, unless a step asks for a result that is not there. -/
theorem excused_outcome {allowed : Failure → Prop}
    (plain : ∀ failure : Failure, ¬failure.Wants → allowed failure) {call : Call World}
    (confined : Confined host backend allowed) (serves : call.Serves backend allowed)
    {world : World} {failure : Failure}
    (failed : (call.outcome host backend pipeline world events).result = .error failure) :
    Excused backend allowed pipeline events failure := by
  by_cases finished : pipeline.stage = .done
  · rw [Call.outcome_of_ne (finished ▸ call.expected_ne_done.symm)] at failed
    obtain rfl := Except.error.inj failed
    exact .inl (plain _ (Failure.not_wants_of_stage _ _ _))
  · have left := concludes_call plain confined serves pipeline events finished pipeline
      ⟨world, events⟩ ⟨rfl, rfl⟩
    rw [Call.outcome] at failed
    generalize after (call.action host backend) pipeline ⟨world, events⟩ = aftermath at failed left
    obtain ⟨result, other, recorder⟩ := aftermath
    obtain rfl : result = .error failure := failed
    exact left.1

/-- What holds at the start and is kept by every move holds of every contribution. -/
theorem Reached.holds {config : Config} {fact : Pipeline Params → List Event → Prop}
    (starts : fact (.start config) [])
    (moves : ∀ {pipeline events later noted}, Move backend pipeline events later noted →
      fact pipeline events → fact later noted)
    (reached : Reached host backend config pipeline events) : fact pipeline events := by
  induction reached with
  | start => exact starts
  | call before call world ih => exact (passes_outcome host call world).keeps moves ih

/-- What calls in a row make of a contribution and its record, all in the same surroundings. -/
def Call.leave (host : Host (StateM World)) (backend : Backend (StateM World) Params)
    (world : World) : List (Call World) → Pipeline Params × List Event →
      Pipeline Params × List Event
  | [], left => left
  | call :: calls, (pipeline, events) =>
    let outcome := call.outcome host backend pipeline world events
    leave host backend world calls (outcome.pipeline, outcome.world.kept)

theorem Reached.leave {config : Config} (reached : Reached host backend config pipeline events)
    (world : World) (calls : List (Call World)) :
    Reached host backend config (Call.leave host backend world calls (pipeline, events)).1
      (Call.leave host backend world calls (pipeline, events)).2 := by
  induction calls generalizing pipeline events with
  | nil => exact reached
  | cons call calls ih => exact ih (.call reached call world)

end Reaching
end BeaconCeremony

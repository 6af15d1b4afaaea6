import BeaconCeremony.Proofs.CommandLine.Configuration
import BeaconCeremony.Proofs.Machine
import BeaconCeremony.Proofs.Pipeline.Steps
import BeaconCeremony.Proofs.Report
import BeaconCeremony.Proofs.Stream.Source

/-!
# What commands show

Running a chain alone shows the checkpoints of the chain, its final state and the words of the seed.
Contributing shows other lines as well, and what it shows in all is a report of its chain.
-/

namespace BeaconCeremony

open BeaconCeremony.Report (Reports checkpointLine finalLine)
open BeaconCeremony.Transcript (fed_of_unbroken)

namespace Machine

variable {environment : Environment} {machine : Machine}

/-- A string without control sequences is shown as it is. -/
theorem echo_system {text : String} (no_escape : '\x1b' ∉ text.toList) :
    (system environment).host.echo (text : RawText) machine =
      (.ok (), { machine with shown := text :: machine.shown }) := by
  change ((.ok (), { machine with shown := Text.withoutControls text :: machine.shown }) :
    Except Failure Unit × Machine) = _
  rw [Text.withoutControls_eq_self no_escape]

theorem depth_system : (system environment).host.depth = Datum.usualDepth := rfl

/-- Other texts are shown without their control sequences, or not at all. -/
theorem echo_system_cases (line : RawText) :
    ((system environment).host.echo line machine).2 = machine ∨
      ((system environment).host.echo line machine).2 =
        { machine with shown := Text.withoutControls line.start :: machine.shown } := by
  obtain ⟨start, rest⟩ := line
  cases rest with
  | nil => exact .inr rfl
  | cons entry rest => exact .inl rfl

end Machine

namespace Pipeline

open BeaconCeremony.Action

/-- The parameters come from a path without line breaks, the reporter shows checkpoints, and what
has been shown is as given. -/
structure Showing (given : List String → Prop) (pipeline : Pipeline Phase2.Parameters)
    (machine : Machine) : Prop where
  /-- The path has no line breaks. -/
  unbroken : pipeline.source.Unbroken
  /-- The reporter shows checkpoints. -/
  loud : pipeline.reporter.quiet = false
  /-- What has been shown. -/
  shown : given machine.shown

section Steps

variable {environment : Environment} {given : List String → Prop}
  {pipeline : Pipeline Phase2.Parameters} {machine : Machine} {α : Type}

theorem Showing.moveTo (showing : Showing given pipeline machine) (target : Stage) :
    Showing given (pipeline.moveTo target) machine :=
  ⟨showing.unbroken, showing.loud, showing.shown⟩

theorem Showing.fail (showing : Showing given pipeline machine) (failure : Failure) :
    Showing given (pipeline.fail failure) machine := by
  rw [Pipeline.fail]
  split
  · exact showing
  · exact ⟨showing.unbroken, showing.loud, showing.shown⟩

theorem Showing.of_shown_eq (showing : Showing given pipeline machine) {other : Machine}
    (shown_eq : other.shown = machine.shown) : Showing given pipeline other :=
  ⟨showing.unbroken, showing.loud, shown_eq ▸ showing.shown⟩

theorem showing_step {name : String} {expected target : Stage}
    {body : Action (StateM Machine) Phase2.Parameters α} (keeps : Keeps (Showing given) body) :
    Keeps (Showing given) (step name expected target body) :=
  keeps.step (fun _ _ showing => showing.moveTo target)
    fun failure _ _ showing => showing.fail failure

/-! ### Files -/

theorem shown_read (verify : Bool) (machine : Machine) :
    (Phase2.Parameters.read verify (Machine.source : Source (StateM Machine)) machine).2.shown =
      machine.shown := by
  have reads (count : Nat) (other : Machine) (same : other.shown = machine.shown) :
      ((Machine.source : Source (StateM Machine)).read count other).2.shown = machine.shown := same
  exact Decoder.run_keeps reads _ _ machine rfl

theorem shown_writeParts (parts : List (Except PointError Bytes)) (place : List Bytes)
    (machine : Machine) :
    (Phase2.Parameters.writeParts (Machine.sink place : Sink (StateM Machine)) parts
      machine).2.shown = machine.shown := by
  induction parts generalizing machine with
  | nil => rfl
  | cons part parts ih =>
      cases part with
      | error error => rfl
      | ok bytes => exact ih _

theorem showing_load {path : RawText} (unbroken : path.Unbroken) :
    Keeps (Showing given)
      (load Phase2.backend (Machine.source : Source (StateM Machine)) path) := by
  refine showing_step (Keeps.bind (Keeps.modify ?_) fun _ => Keeps.bind (Keeps.lift ?_) ?_)
  · exact fun pipeline machine showing => ⟨unbroken, showing.loud, showing.shown⟩
  · exact fun pipeline machine showing => showing.of_shown_eq (shown_read true machine)
  · intro result
    cases result with
    | error failure => exact Keeps.throw _
    | ok parameters =>
        exact Keeps.modify fun _ _ showing => ⟨showing.unbroken, showing.loud, showing.shown⟩

theorem showing_loadFile {path : RawText} (unbroken : path.Unbroken) :
    Keeps (Showing given)
      (loadFile (Machine.system environment).host Phase2.backend path) := by
  refine Keeps.loadFile (· = ⟨Machine.source, pure (.ok ())⟩) ?_ ?_ ?_ ?_
  -- Opening finds the source of the machine or fails, and shows nothing.
  · intro pipeline machine showing
    change
      Showing given pipeline ((Machine.host : Host (StateM Machine)).openInput path machine).2 ∧
      ∀ file, ((Machine.host : Host (StateM Machine)).openInput path machine).1 = .ok file → _
    rw [Machine.openInput_eq]
    cases machine.storage.content path with
    | error failure => exact ⟨showing, nofun⟩
    | ok content => exact ⟨showing.of_shown_eq rfl, fun file same => (Except.ok.inj same).symm⟩
  · rintro _ rfl
    exact showing_load unbroken
  · rintro _ rfl
    exact fun _ _ showing => showing
  · exact fun failure _ _ showing => showing.fail failure

theorem showing_persist (place : List Bytes) (name : RawText) :
    Keeps (Showing given)
      (persist Phase2.backend (Machine.sink place : Sink (StateM Machine)) name) := by
  obtain ⟨body, body_eq, keeps⟩ :=
    isStep_persist (Machine.sink place : Sink (StateM Machine)) name
  rw [body_eq]
  refine showing_step (keeps _ ⟨fun parameters pipeline machine showing => ?_, ?_⟩)
  · exact showing.of_shown_eq (shown_writeParts _ place machine)
  · exact fun _ _ showing => showing

theorem showing_persistFile (path : RawText) :
    Keeps (Showing given)
      (persistFile (Machine.system environment).host Phase2.backend path) := by
  refine Keeps.persistFile
    (fun file => ∃ place, file = ⟨Machine.sink place, (Machine.sink place).flush⟩) ?_ ?_ ?_ ?_
  · intro pipeline machine showing
    change
      Showing given pipeline ((Machine.host : Host (StateM Machine)).openOutput path machine).2 ∧
      ∀ file, ((Machine.host : Host (StateM Machine)).openOutput path machine).1 = .ok file → _
    rw [Machine.openOutput_eq]
    cases machine.storage.create path with
    | error failure => exact ⟨showing, nofun⟩
    | ok created =>
        exact ⟨showing.of_shown_eq rfl, fun file same => ⟨created.1, (Except.ok.inj same).symm⟩⟩
  · rintro _ ⟨place, rfl⟩
    exact showing_persist place path
  · rintro _ ⟨place, rfl⟩
    exact fun _ _ showing => showing
  · exact fun failure _ _ showing => showing.fail failure

/-! ### The chain -/

theorem shows_strings {texts : List String} (no_escape : ∀ text ∈ texts, '\x1b' ∉ text.toList)
    (shown : List String) :
    Triple (Showing (· = shown))
      (echoAll (Machine.system environment).host (texts.map RawText.ofString))
      (fun _ => Showing (· = texts.reverse ++ shown)) (fun _ _ _ => True) := by
  induction texts generalizing shown with
  | nil => exact fun _ _ showing => showing
  | cons text texts ih =>
      obtain ⟨here, there⟩ := List.forall_mem_cons.mp no_escape
      refine Triple.bind (fun _ => Showing (· = text :: shown)) (.perform _ ?_) fun _ => ?_
      · intro pipeline machine showing
        rw [Machine.echo_system here]
        exact ⟨showing.unbroken, showing.loud, congrArg (text :: ·) showing.shown⟩
      · rw [List.reverse_cons, List.append_assoc]
        exact ih there (text :: shown)

theorem shows_checkpoint (checkpoint : Checkpoint) (shown : List String) :
    Triple (Showing (· = shown)) (reportCheckpoint (Machine.system environment).host checkpoint)
      (fun _ => Showing (· = checkpointLine checkpoint :: shown)) (fun _ _ _ => True) := by
  have no_escape : ∀ text ∈ [checkpointLine checkpoint], '\x1b' ∉ text.toList := by
    intro text member
    rw [List.mem_singleton.mp member, Report.toList_checkpointLine]
    exact (Report.tame_checkpointCharacters checkpoint).no_escape
  refine Triple.bind _ .get fun read => ?_
  rintro pipeline machine ⟨rfl, showing⟩
  have shows_line : Triple (Showing (· = shown))
      (echoAll (Machine.system environment).host ([checkpointLine checkpoint].map RawText.ofString))
      (fun _ => Showing (· = checkpointLine checkpoint :: shown)) (fun _ _ _ => True) :=
    shows_strings no_escape shown
  refine (?_ : Triple (Showing (· = shown)) _ _ _) read machine showing
  refine Triple.bind (fun _ => Showing (· = shown)) (fun other machine holds => ?_) fun _ => ?_
  · exact ⟨showing.unbroken, showing.loud, holds.shown⟩
  · rw [if_neg (Bool.eq_false_iff.mp showing.loud)]
    exact shows_line

theorem shows_checkpoints (checkpoints : List Checkpoint) (shown : List String) :
    Triple (Showing (· = shown))
      (checkpoints.forM (reportCheckpoint (Machine.system environment).host))
      (fun _ => Showing (· = (checkpoints.map checkpointLine).reverse ++ shown))
      (fun _ _ _ => True) := by
  induction checkpoints generalizing shown with
  | nil => exact fun _ _ showing => showing
  | cons checkpoint checkpoints ih =>
      refine Triple.bind _ (shows_checkpoint checkpoint shown) fun _ => ?_
      rw [List.map_cons, List.reverse_cons, List.append_assoc]
      exact ih (checkpointLine checkpoint :: shown)

theorem no_escape_finalLines (final : Digest 32) :
    ∀ text ∈ [finalLine final, ""], '\x1b' ∉ text.toList := by
  refine List.forall_mem_cons.mpr ⟨?_, by simp⟩
  rw [finalLine, Report.toList_finalLine]
  exact (Report.tame_finalCharacters final).no_escape

theorem reports_chain (chain : Chain) (front : List String)
    (front_heading : ∀ text ∈ front, Report.Heading text) : Reports chain
      ([finalLine chain.definition.final, ""].reverse ++
        ((chain.definition.checkpoints.map checkpointLine).reverse ++ front.reverse)) := by
  refine ⟨front, [""], by simp, front_heading, fun text member => ?_⟩
  exact List.mem_singleton.mp member ▸ Report.passing_empty

/-- The chain is announced, followed and reported, if nothing has been shown before. -/
theorem shows_derive (beacon exponent : Datum) :
    Triple (Showing (· = [])) (derive (Machine.system environment).host beacon exponent)
      (fun _ pipeline machine => ∃ chain, Chain.ofHex Datum.usualDepth beacon exponent = .ok chain ∧
        Showing (Reports chain) pipeline machine)
      (fun _ _ _ => True) := by
  have announces : '\x1b' ∉ Report.announcement.toList := by decide
  let reported (_ : Derivation) (pipeline : Pipeline Phase2.Parameters) (machine : Machine) :
      Prop :=
    ∃ chain, Chain.ofHex Datum.usualDepth beacon exponent = .ok chain ∧
      Showing (Reports chain) pipeline machine
  refine Triple.attempt (?_ : Triple _ _ reported fun _ _ _ => True) ?_
    (fun _ _ _ _ => True.intro) fun _ _ _ _ => True.intro
  · rw [Machine.depth_system]
    cases parsed : Chain.ofHex Datum.usualDepth beacon exponent with
    | error failure => exact fun _ _ _ => True.intro
    | ok chain =>
        let passed : List String :=
          (chain.definition.checkpoints.map checkpointLine).reverse ++ [Report.announcement]
        refine Triple.bind (fun _ => Showing (· = [Report.announcement])) (.perform _ ?_)
          fun _ => ?_
        · intro pipeline machine showing
          rw [Machine.echo_system announces]
          exact ⟨showing.unbroken, showing.loud, congrArg (Report.announcement :: ·) showing.shown⟩
        · refine Triple.bind (fun found pipeline machine => found = chain.definition ∧
            Showing (· = passed) pipeline machine)
            (.timed _ ?_ (fun _ _ _ holds => ?_) fun _ _ _ _ => True.intro) fun found => ?_
          · rw [Chain.run_eq]
            refine Triple.bind (fun result pipeline machine => result = .ok chain.definition ∧
              Showing (· = passed) pipeline machine) ?_ fun result => ?_
            · exact Triple.bind _ (shows_checkpoints _ _) fun _ pipeline machine showing =>
                ⟨rfl, showing⟩
            · rintro pipeline machine ⟨rfl, showing⟩
              exact ⟨rfl, showing.unbroken, showing.loud, showing.shown⟩
          · exact ⟨holds.1, holds.2.unbroken, holds.2.loud, holds.2.shown⟩
          · rintro pipeline machine ⟨rfl, showing⟩
            refine (?_ : Triple (Showing (· = passed)) _ _ _) pipeline machine showing
            refine Triple.bind (fun _ => Showing (· = passed)) (.modify _ ?_) fun _ => ?_
            · exact fun _ _ showing => ⟨showing.unbroken, showing.loud, showing.shown⟩
            · refine Triple.bind _ (shows_strings (no_escape_finalLines _) passed)
                fun _ pipeline machine showing => ?_
              have reports : Reports chain machine.shown := by
                rw [showing.shown]
                refine reports_chain chain [Report.announcement] fun text member => ?_
                exact List.mem_singleton.mp member ▸ Report.heading_announcement
              exact ⟨chain, parsed, showing.unbroken, showing.loud, reports⟩
  · rintro value pipeline machine ⟨chain, parsed, showing⟩
    exact ⟨chain, parsed, showing.moveTo _⟩

/-! ### After the chain -/

variable {chain : Chain}

theorem showing_echo {line : RawText} (passing : Report.Passing (Text.withoutControls line.start))
    (pipeline : Pipeline Phase2.Parameters) (machine : Machine)
    (showing : Showing (Reports chain) pipeline machine) :
    Showing (Reports chain) pipeline ((Machine.system environment).host.echo line machine).2 := by
  rcases Machine.echo_system_cases line with unchanged | shown_eq
  · rw [unchanged]
    exact showing
  · rw [shown_eq]
    exact ⟨showing.unbroken, showing.loud, showing.shown.cons passing⟩

theorem showing_seed :
    Keeps (Showing given) (seed : Action (StateM Machine) Phase2.Parameters Seed) :=
  showing_step (Keeps.bind (Keeps.require _ _) fun _ =>
    Keeps.bind (Keeps.modify fun _ _ showing => ⟨showing.unbroken, showing.loud, showing.shown⟩)
      fun _ => Keeps.pure _)

theorem showing_contribute (tag : Int) :
    Keeps (Showing (Reports chain))
      (contribute (Machine.system environment).host Phase2.backend tag) := by
  refine showing_step (Keeps.bind (Keeps.require _ _) fun parameters =>
    Keeps.bind (Keeps.require _ _) fun generator => Triple.bind _ .get fun read => ?_)
  rintro pipeline machine ⟨rfl, showing⟩
  refine (?_ : Keeps (Showing (Reports chain)) _) read machine showing
  refine Keeps.bind (Keeps.perform (showing_echo ?_)) fun _ => Keeps.bind (Keeps.timed ?_ ?_) ?_
  · exact Report.passing_of_remark (Report.remark_contributingLine showing.unbroken)
      (fed_of_unbroken (Report.unbroken_contributingLine showing.unbroken).start)
  · refine Keeps.bind (Keeps.lift fun _ _ showing => showing) fun contributed => ?_
    refine Keeps.bind (Keeps.modify fun _ _ showing => ?_) fun _ =>
      Keeps.perform fun _ _ showing => showing
    exact ⟨showing.unbroken, showing.loud, showing.shown⟩
  · exact fun _ _ showing => ⟨showing.unbroken, showing.loud, showing.shown⟩
  · intro returned
    cases fingerprintOf read.source returned with
    | error error => exact Keeps.throw _
    | ok fingerprint =>
        refine Keeps.bind (Keeps.modify fun _ _ showing => ?_) fun _ =>
          Keeps.bind (Keeps.echoAll fun line member => ?_) fun _ => Keeps.pure _
        · exact ⟨showing.unbroken, showing.loud, showing.shown⟩
        · obtain ⟨text, text_mem, rfl⟩ := List.mem_map.mp member
          exact showing_echo (Report.passing_of_remark
            (Report.remark_of_mem_fingerprintLines text_mem)
            (Report.fed_of_mem_fingerprintLines text_mem))

theorem showing_finish (inputPath? outputPath? : Option RawText) :
    Keeps (Showing given)
      (finish inputPath? outputPath? : Action (StateM Machine) Phase2.Parameters Receipt) := by
  refine Keeps.bind (showing_step ?_) fun receipt => Keeps.bind (Keeps.modify ?_) fun _ =>
    Keeps.pure _
  · exact Keeps.bind (Keeps.require _ _) fun _ => Keeps.bind (Keeps.require _ _) fun _ =>
      Keeps.bind (Keeps.require _ _) fun _ => Keeps.pure _
  · exact fun _ _ showing => ⟨showing.unbroken, showing.loud, showing.shown⟩

/-- A whole contribution shows a report of its chain, if it succeeds. -/
theorem shows_run {beacon exponent : Datum} {config : Config} (tag : Int)
    (input_unbroken : config.inputPath.Unbroken) (output_unbroken : config.outputPath.Unbroken) :
    Triple (fun pipeline machine => pipeline.config = config ∧ Showing (· = []) pipeline machine)
      (run (Machine.system environment).host Phase2.backend beacon exponent none none tag)
      (fun _ pipeline machine => ∃ chain, Chain.ofHex Datum.usualDepth beacon exponent = .ok chain ∧
        Showing (Reports chain) pipeline machine)
      (fun _ _ _ => True) := by
  refine Triple.bind _ .get fun read => ?_
  rintro pipeline machine ⟨rfl, rfl, showing⟩
  refine (?_ : Triple (Showing (· = [])) _ _ _) read machine showing
  split
  · exact fun _ _ _ => True.intro
  · cases checkRequest (Machine.system environment).host.depth beacon exponent with
    | error failure =>
        cases failure with
        | ceremony error => exact fun _ _ _ => True.intro
        | _ => exact fun _ _ _ => True.intro
    | ok _ =>
        have ignored {given : List String → Prop} {α : Type}
            {action : Action (StateM Machine) Phase2.Parameters α}
            (keeps : Keeps (Showing given) action) :
            Triple (Showing given) action (fun _ => Showing given) (fun _ _ _ => True) :=
          keeps.imp (fun _ _ showing => showing) (fun _ _ _ showing => showing)
            fun _ _ _ _ => True.intro
        refine Triple.bind _ (ignored (showing_loadFile input_unbroken)) fun _ => ?_
        refine Triple.bind _ (shows_derive beacon exponent) fun _ => ?_
        rintro pipeline machine ⟨chain, parsed, showing⟩
        refine (?_ : Triple (Showing (Reports chain)) _ _ _) pipeline machine showing
        refine Triple.bind _ (ignored showing_seed) fun _ => ?_
        refine Triple.bind _ (ignored (showing_contribute tag)) fun _ => ?_
        refine Triple.bind _ (ignored (showing_persistFile _)) fun _ => ?_
        refine Triple.bind _ (ignored (Keeps.echoAll fun line member =>
          showing_echo (Report.passing_of_remark
            (Report.remark_of_mem_writtenLines output_unbroken member)
            (fed_of_unbroken (Report.unbroken_of_mem_writtenLines output_unbroken member).start))))
          fun _ => ?_
        exact (ignored (showing_finish _ _)).imp (fun _ _ showing => showing)
          (fun _ _ _ showing => ⟨chain, parsed, showing⟩) fun _ _ _ _ => True.intro

end Steps

end Pipeline

namespace CommandLine
namespace Command

variable {environment : Environment} {machine after : Machine}

/-! ## Commands that show a report -/

/-- Finding the configuration of a contribution changes nothing. -/
theorem eq_of_returns_configure {request : BeaconRequest} {config : Config} {between : Machine}
    (configured : Returns (configure (Machine.system environment) request) machine config between) :
    between = machine := by
  rw [Returns, run_configure] at configured
  split at configured
  · exact (Prod.mk.inj configured).2.symm
  · split at configured
    · cases configured
    · cases configured

/-- There is only one format. -/
theorem eq_backend_of_find {name : RawText} {backend : Backend (StateM Machine) Phase2.Parameters}
    {registry : Registry (Backend (StateM Machine) Phase2.Parameters)}
    (found : formats.find name = .ok (backend, registry)) : backend = Phase2.backend := by
  rw [Registry.find] at found
  simp only [formats, List.lookup_nil, List.lookup_cons] at found
  split at found
  · rename_i format lookup_eq
    split at lookup_eq
    · obtain rfl := Option.some.inj lookup_eq
      exact (Prod.mk.inj (Except.ok.inj found)).1.symm
    · cases lookup_eq
  · cases found

/-- A contribution that comes to its end has shown a report of its chain. -/
theorem reports_of_returns_beacon {request : BeaconRequest} {config : Config} {between : Machine}
    (nothing_shown : machine.shown = [])
    (returned : Returns (beacon (Machine.system environment) request) machine () after)
    (configured : Returns (configure (Machine.system environment) request) machine config between)
    (loud : config.isQuiet = false) (input_unbroken : config.inputPath.Unbroken)
    (output_unbroken : config.outputPath.Unbroken) :
    ∃ chain,
      Chain.ofHex Datum.usualDepth (.text request.beacon) (.int request.exponent) = .ok chain ∧
      Reports chain after.shown := by
  rw [beacon, returns_bind_iff] at returned
  obtain ⟨found, reached, found_eq, returned⟩ := returned
  obtain ⟨rfl, rfl⟩ : config = found ∧ between = reached := by
    rw [Returns] at configured found_eq
    rw [configured] at found_eq
    injection found_eq with same_config same_machine
    exact ⟨Except.ok.inj same_config, same_machine⟩
  obtain rfl := eq_of_returns_configure configured
  rw [returns_bind_iff] at returned
  obtain ⟨⟨backend, registry⟩, _, format_found, returned⟩ := returned
  obtain ⟨found_backend, rfl⟩ := returns_orReject_iff.mp format_found
  obtain rfl := eq_backend_of_find found_backend
  have stream_unbroken : RawText.Unbroken "<stream>" := RawText.unbroken_coe (by decide +kernel)
  have shows := @Pipeline.shows_run environment (.text request.beacon) (.int request.exponent)
    config request.tag input_unbroken output_unbroken (Pipeline.start config) between
    ⟨rfl, stream_unbroken, loud, nothing_shown⟩
  rcases ran : ((Pipeline.run (Machine.system environment).host Phase2.backend
    (.text request.beacon) (.int request.exponent) none none request.tag).run.run
      (Pipeline.start config)).run between with ⟨⟨result, pipeline⟩, world⟩
  rw [Action.after, ran] at shows
  replace returned := (returns_lift_bind_iff ran).mp returned
  cases result with
  | error failure => exact absurd returned not_returns_rejectFailure
  | ok receipt =>
      obtain ⟨-, rfl⟩ := returns_pure_iff.mp returned
      obtain ⟨chain, parsed, showing⟩ := shows
      exact ⟨chain, parsed, showing.shown⟩

/-! ## Running a chain alone -/

/-- Lines that are said are shown without their control sequences. -/
theorem returns_forM_say {α : Type} (items : List α) (line : α → String) (machine : Machine) :
    Returns (items.forM fun item => say (Machine.system environment) (line item)) machine ()
      { machine with
        shown := (items.map fun item => Text.withoutControls (line item)).reverse ++
          machine.shown } := by
  induction items generalizing machine with
  | nil => rfl
  | cons item items ih =>
      refine returns_bind_iff.mpr ⟨(), _, returns_say (line item), ?_⟩
      rw [List.map_cons, List.reverse_cons, List.append_assoc]
      exact ih { machine with shown := Text.withoutControls (line item) :: machine.shown }

/-- Lines without control sequences are shown as they are. -/
theorem returns_forM_say_plain {α : Type} {items : List α} {line : α → String}
    (plain : ∀ item ∈ items, '\x1b' ∉ (line item).toList) (machine : Machine) :
    Returns (items.forM fun item => say (Machine.system environment) (line item)) machine ()
      { machine with shown := (items.map line).reverse ++ machine.shown } := by
  have same : items.map (fun item => Text.withoutControls (line item)) = items.map line :=
    List.map_congr_left fun item member => Text.withoutControls_eq_self (plain item member)
  rw [← same]
  exact returns_forM_say items line machine

theorem returns_forM_pure {α : Type} (items : List α) (machine : Machine) :
    Returns (items.forM fun _ => (pure () : Command (StateM Machine) Unit)) machine () machine := by
  induction items with
  | nil => rfl
  | cons item items ih => exact returns_bind_iff.mpr ⟨(), machine, rfl, ih⟩

theorem tame_seedLine (seed : Seed) : Text.Tame (seedLine seed).toList := by
  have space : (" " : String).toList = [' '] := rfl
  have label_tame : Text.Tame ("Seed words: " : String).toList := by decide +kernel
  rw [seedLine, String.toList_append]
  refine label_tame.append fun character member => ?_
  rw [String.toList_intercalate, space] at member
  rcases Text.mem_intercalate member with between | ⟨_, row_mem, inside⟩
  · rw [List.mem_singleton.mp between]
    decide
  · obtain ⟨_, text_mem, rfl⟩ := List.mem_map.mp row_mem
    obtain ⟨word, -, rfl⟩ := List.mem_map.mp text_mem
    rw [String.toList_ofList] at inside
    exact (Hex.ink_hexDigits 8 word.toNat).tame character inside

theorem exists_toList_seedLine (seed : Seed) :
    ∃ others, (seedLine seed).toList = 'S' :: others := by
  have opening_eq : ("Seed words: " : String).toList =
      'S' :: ("eed words: " : String).toList := rfl
  rw [seedLine, String.toList_append, opening_eq, List.cons_append]
  exact ⟨_, rfl⟩

theorem passing_seedLine (seed : Seed) : Report.Passing (seedLine seed) := by
  obtain ⟨others, line_eq⟩ := exists_toList_seedLine seed
  refine Report.passing_of_line (tame_seedLine seed).unbroken ?_
  rw [line_eq]
  exact Transcript.silent_of_head (by decide) (by decide) _

/-- What is shown of a chain that is run alone, the first string first. -/
def seedStrings (chain : Chain) (quiet : Bool) : List String :=
  (if quiet then [] else chain.definition.checkpoints.map checkpointLine) ++
    [finalLine chain.definition.final, "", seedLine (Seed.ofDigest chain.definition.final)]

/-- Running a chain alone comes to its end. -/
theorem returns_seedStrings {request : SeedRequest} {chain : Chain}
    (parsed :
      Chain.ofHex Datum.usualDepth (.text request.beacon) (.int request.exponent) = .ok chain)
    (machine : Machine) :
    Returns (seed (Machine.system environment) request) machine ()
      { machine with shown := (seedStrings chain request.quiet).reverse ++ machine.shown } := by
  have parsed_returns : Returns (orRejectFailure (Machine.system environment)
      (Chain.ofHex Datum.usualDepth (.text request.beacon) (.int request.exponent))) machine chain
      machine :=
    returns_orRejectFailure_iff.mpr ⟨parsed, rfl⟩
  let reported : Machine :=
    { machine with
      shown :=
        (if request.quiet then [] else chain.definition.checkpoints.map checkpointLine).reverse ++
          machine.shown }
  have visited : Returns (chain.definition.checkpoints.forM fun checkpoint =>
      if request.quiet then pure ()
      else say (Machine.system environment) (checkpointLine checkpoint)) machine () reported := by
    simp only [reported]
    cases request.quiet with
    | true => exact returns_forM_pure chain.definition.checkpoints machine
    | false =>
        refine returns_forM_say_plain (fun checkpoint _ => ?_) machine
        rw [Report.toList_checkpointLine]
        exact (Report.tame_checkpointCharacters checkpoint).no_escape
  let finished : Machine :=
    { reported with
      shown := ([finalLine chain.definition.final, ""].map id).reverse ++ reported.shown }
  have finished_returns : Returns ((Report.finalLines chain.definition.final.bytes).forM fun line =>
      say (Machine.system environment) line) reported () finished :=
    returns_forM_say_plain (Pipeline.no_escape_finalLines chain.definition.final) reported
  have shown_eq : seedLine (Seed.ofDigest chain.definition.final) :: finished.shown =
      (seedStrings chain request.quiet).reverse ++ machine.shown := by
    simp [seedStrings, finished, reported]
  have said := @returns_say environment finished (seedLine (Seed.ofDigest chain.definition.final))
  rw [Text.withoutControls_eq_self (tame_seedLine _).no_escape, shown_eq] at said
  rw [seed]
  refine returns_bind_iff.mpr ⟨chain, machine, parsed_returns, ?_⟩
  rw [Chain.run_eq]
  refine returns_bind_iff.mpr ⟨.ok chain.definition, reported, returns_bind_iff.mpr
    ⟨(), reported, visited, rfl⟩, ?_⟩
  exact returns_bind_iff.mpr ⟨(), finished, finished_returns, said⟩

/-- What is shown of a chain that is run alone is a report, unless the checkpoints are left out. -/
theorem returns_seed {request : SeedRequest} {chain : Chain}
    (parsed :
      Chain.ofHex Datum.usualDepth (.text request.beacon) (.int request.exponent) = .ok chain)
    (loud : request.quiet = false) (nothing_shown : machine.shown = []) :
    ∃ after, Returns (seed (Machine.system environment) request) machine () after ∧
      Reports chain after.shown := by
  refine ⟨_, returns_seedStrings parsed machine, ?_⟩
  have reports := (Pipeline.reports_chain chain [] (List.forall_mem_nil _)).cons
    (passing_seedLine (Seed.ofDigest chain.definition.final))
  simpa [seedStrings, loud, nothing_shown] using reports

end Command
end CommandLine
end BeaconCeremony

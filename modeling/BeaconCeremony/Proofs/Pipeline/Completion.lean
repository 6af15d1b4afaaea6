import BeaconCeremony.Phase2.Backend
import BeaconCeremony.Proofs.Bytes.Number
import BeaconCeremony.Proofs.Chain.Walk
import BeaconCeremony.Proofs.Phase2.Files
import BeaconCeremony.Proofs.Pipeline.Aftermath
import BeaconCeremony.Proofs.Text.Digits

/-!
# Runs that go well

On a machine whose files can be read and written, every step of a contribution succeeds and leaves
its result to the next ones.  A whole run hands the final state of the chain to the generator, the
contribution to the output, and its key to the receipt.
-/

namespace BeaconCeremony

/-- Showing the line succeeds and leaves the files alone. -/
def Host.Shows (host : Host (StateM Machine)) (line : RawText) : Prop :=
  ∀ machine, ∃ after, host.echo line machine = (.ok (), after) ∧ after.storage = machine.storage

/-- The files are those of the machine, and every string and the lines about two paths can be
shown. -/
structure Host.Serves (host : Host (StateM Machine)) (inputPath outputPath : RawText) : Prop where
  openInput_eq : host.openInput = Machine.host.openInput
  openOutput_eq : host.openOutput = Machine.host.openOutput
  strings : ∀ text : String, host.Shows text
  contributing : host.Shows (Report.contributingLine inputPath)
  written : ∀ line ∈ Report.writtenLines outputPath, host.Shows line

namespace Pipeline

/-- What the steps of a contribution have left behind. -/
structure Results where
  /-- Where the parameters came from. -/
  source : RawText
  /-- The parameters. -/
  parameters? : Option Phase2.Parameters
  /-- The run of the chain. -/
  derivation? : Option Derivation
  /-- The seed of the generator. -/
  seed? : Option Seed
  /-- The generator. -/
  generator? : Option Generator
  /-- The fingerprint of the contribution. -/
  fingerprint? : Option Bytes

/-- The results of a contribution. -/
def results (pipeline : Pipeline Phase2.Parameters) : Results where
  source := pipeline.source
  parameters? := pipeline.parameters?
  derivation? := pipeline.derivation?
  seed? := pipeline.seed?
  generator? := pipeline.generator?
  fingerprint? := pipeline.fingerprint?

end Pipeline

namespace Action

open BeaconCeremony.Pipeline

/-- The contribution is at a stage and has some results, and the files are as they should be. -/
def At (stage : Stage) (results : Results) (files : Storage → Prop)
    (pipeline : Pipeline Phase2.Parameters) (machine : Machine) : Prop :=
  pipeline.stage = stage ∧ pipeline.results = results ∧ files machine.storage

/-- The action succeeds. -/
abbrev Succeeds {α : Type} (before : Pipeline Phase2.Parameters → Machine → Prop)
    (action : Action (StateM Machine) Phase2.Parameters α)
    (success : α → Pipeline Phase2.Parameters → Machine → Prop) : Prop :=
  Triple before action success fun _ _ _ => False

variable {host : Host (StateM Machine)} {stage : Stage} {results : Results}
  {files : Storage → Prop} {inputPath outputPath : RawText} {α : Type}

/-- A step that is called at its stage succeeds if its body does. -/
theorem succeeds_step {name : String} {expected target : Stage} {changed : Results}
    {body : Action (StateM Machine) Phase2.Parameters α} {after : Storage → Prop}
    (succeeds : Succeeds (At expected results files) body fun _ => At expected changed after) :
    Succeeds (At expected results files) (step name expected target body)
      fun _ => At target changed after :=
  Triple.step succeeds (fun _ _ here => here.1) (fun _ _ _ here => ⟨rfl, here.2⟩)
    fun _ _ _ impossible => impossible

theorem succeeds_modify {change : Pipeline Phase2.Parameters → Pipeline Phase2.Parameters}
    {changed : Results} (stage_eq : ∀ pipeline, (change pipeline).stage = pipeline.stage)
    (results_eq : ∀ pipeline, pipeline.results = results → (change pipeline).results = changed) :
    Succeeds (At stage results files) (modify change) fun _ => At stage changed files :=
  .modify _ fun pipeline _ here =>
    ⟨(stage_eq pipeline).trans here.1, results_eq _ here.2.1, here.2.2⟩

theorem succeeds_echo {line : RawText} (shows : host.Shows line) :
    Succeeds (At stage results files) (perform (host.echo line))
      fun _ => At stage results files := by
  refine .perform _ fun pipeline machine here => ?_
  obtain ⟨after, echo_eq, storage_eq⟩ := shows machine
  rw [echo_eq]
  exact ⟨here.1, here.2.1, storage_eq ▸ here.2.2⟩

theorem succeeds_echoAll {lines : List RawText} (shows : ∀ line ∈ lines, host.Shows line) :
    Succeeds (At stage results files) (echoAll host lines) fun _ => At stage results files := by
  refine Triple.echoAll fun line member pipeline machine here => ?_
  obtain ⟨after, echo_eq, storage_eq⟩ := shows line member machine
  rw [echo_eq]
  exact ⟨here.1, here.2.1, storage_eq ▸ here.2.2⟩

theorem succeeds_strings (serves : host.Serves inputPath outputPath) (texts : List String) :
    Succeeds (At stage results files) (echoAll host (texts.map .ofString))
      fun _ => At stage results files := by
  refine succeeds_echoAll fun line member => ?_
  obtain ⟨text, -, rfl⟩ := List.mem_map.mp member
  exact serves.strings text

theorem succeeds_reportCheckpoint (serves : host.Serves inputPath outputPath)
    (checkpoint : Checkpoint) :
    Succeeds (At stage results files) (reportCheckpoint host checkpoint)
      fun _ => At stage results files := by
  refine Triple.bind _ .get fun read => ?_
  rintro pipeline machine ⟨rfl, here⟩
  refine (?_ : Succeeds (At stage results files) _ _) read machine here
  exact Triple.bind (fun _ => At stage results files)
    (fun _ _ holds => ⟨here.1, here.2.1, holds.2.2⟩) fun _ => succeeds_strings serves _

/-! ### Steps -/

section Steps

open BeaconCeremony.Phase2 (Parameters)

variable {parameters : Parameters} {derivation : Derivation} {storage : Storage}

theorem succeeds_load {bytes : Bytes} (accepted : Parameters.ofBytes true bytes = .ok parameters) :
    Succeeds
      (fun pipeline machine => At .idle results files pipeline machine ∧ machine.reading = bytes)
      (load Phase2.backend (Machine.source : Source (StateM Machine)) inputPath)
      fun _ => At .loaded { results with source := inputPath, parameters? := some parameters }
        files := by
  let named : Results := { results with source := inputPath }
  refine Triple.step (?_ : Succeeds _ _ fun _ => At .idle
    { named with parameters? := some parameters } files) (fun _ _ here => here.1.1)
    (fun _ _ _ here => ⟨rfl, here.2⟩) fun _ _ _ impossible => impossible
  refine Triple.bind (fun _ pipeline machine => At .idle named files pipeline machine ∧
    machine.reading = bytes) (.modify _ ?_) fun _ => ?_
  · rintro pipeline machine ⟨⟨stage_eq, rfl, holds⟩, reading_eq⟩
    exact ⟨⟨stage_eq, rfl, holds⟩, reading_eq⟩
  · refine Triple.bind (fun result pipeline machine => result = .ok parameters ∧
      At .idle named files pipeline machine) (.lift _ ?_) fun result => ?_
    · rintro pipeline machine ⟨here, rfl⟩
      obtain ⟨rest, read_eq⟩ := Parameters.read_of_ofBytes accepted
      have backend_eq : (Phase2.backend : Backend (StateM Machine) Parameters).read Machine.source =
        Parameters.read true Machine.source := rfl
      rw [backend_eq, read_eq]
      exact ⟨rfl, here⟩
    · rintro pipeline machine ⟨rfl, here⟩
      refine (?_ : Succeeds (At .idle named files) _ _) pipeline machine here
      refine succeeds_modify (fun _ => rfl) fun pipeline results_eq => ?_
      rw [Pipeline.results, ← results_eq]
      rfl

theorem succeeds_loadFile (serves : host.Serves inputPath outputPath) {bytes : Bytes}
    (content_eq : storage.content inputPath = .ok bytes)
    (accepted : Parameters.ofBytes true bytes = .ok parameters) :
    Succeeds (At .idle results (· = storage)) (loadFile host Phase2.backend inputPath)
      fun _ => At .loaded { results with source := inputPath, parameters? := some parameters }
        (· = storage) := by
  let opened (pipeline : Pipeline Parameters) (machine : Machine) : Prop :=
    At .idle results (· = storage) pipeline machine ∧ machine.reading = bytes
  refine Triple.bind (fun result pipeline machine =>
    result = .ok ⟨Machine.source, pure (.ok ())⟩ ∧ opened pipeline machine)
    (.lift _ ?_) fun result => ?_
  · rintro pipeline machine ⟨stage_eq, results_eq, rfl⟩
    rw [serves.openInput_eq, Machine.openInput_eq, content_eq]
    exact ⟨rfl, ⟨stage_eq, results_eq, rfl⟩, rfl⟩
  · rintro pipeline machine ⟨rfl, here⟩
    refine (?_ : Succeeds opened _ _) pipeline machine here
    exact Triple.closing (succeeds_load accepted) (fun _ _ _ here => here)
      fun _ _ _ impossible => impossible

/-- The chain of a beacon value is run and shown. -/
theorem succeeds_derive (serves : host.Serves inputPath outputPath) {beacon exponent : Datum}
    {chain : Chain} (parsed : Chain.ofHex host.depth beacon exponent = .ok chain) :
    Succeeds (At .loaded results files) (derive host beacon exponent)
      fun _ => At .beaconDerived { results with derivation? := some chain.definition } files := by
  refine succeeds_step ?_
  rw [parsed]
  let derived : Results := { results with derivation? := some chain.definition }
  refine Triple.bind _ (succeeds_echo (serves.strings _)) fun _ => ?_
  refine Triple.bind (fun _ => At .loaded derived files) ?_ fun found => ?_
  · refine Triple.timed _ ?_ (fun _ _ _ here => here) fun _ _ _ impossible => impossible
    rw [Chain.run_eq]
    refine Triple.bind (fun result pipeline machine => result = .ok chain.definition ∧
      At .loaded results files pipeline machine) ?_ fun result => ?_
    · refine Triple.bind _ (Triple.forM fun checkpoint _ =>
        succeeds_reportCheckpoint serves checkpoint) fun _ pipeline machine here => ⟨rfl, here⟩
    · rintro pipeline machine ⟨rfl, here⟩
      refine (?_ : Succeeds (At .loaded results files) _ _) pipeline machine here
      refine Triple.bind (fun _ => At .loaded derived files) (succeeds_modify (fun _ => rfl) ?_)
        fun _ _ _ here => here
      rintro pipeline rfl
      rfl
  · refine Triple.bind (fun _ => At .loaded derived files)
      (succeeds_modify (fun _ => rfl) fun _ results_eq => results_eq) fun _ => ?_
    exact Triple.bind _ (succeeds_strings serves _) fun _ _ _ here => here

/-- A result of an earlier step is there for the rest of this one. -/
theorem succeeds_require {β : Type} {name : String} {field : Pipeline Parameters → Option α}
    {value : α} {next : α → Action (StateM Machine) Parameters β}
    {success : β → Pipeline Parameters → Machine → Prop} (part : Results → Option α)
    (same : ∀ pipeline, field pipeline = part pipeline.results)
    (present : part results = some value)
    (rest : Succeeds (At stage results files) (next value) success) :
    Succeeds (At stage results files) (require name field >>= next) success := by
  refine Triple.bind (fun found pipeline machine => found = value ∧
    At stage results files pipeline machine) (Triple.bind _ .get fun read => ?_) fun found => ?_
  · rintro pipeline machine ⟨rfl, here⟩
    rw [same, here.2.1, present]
    exact ⟨rfl, here⟩
  · rintro pipeline machine ⟨rfl, here⟩
    exact rest pipeline machine here

/-- The generator is seeded with the final state of the chain. -/
theorem succeeds_seed (derived : results.derivation? = some derivation) :
    Succeeds (At .beaconDerived results files) seed fun _ => At .seeded
      { results with
        seed? := some (Seed.ofDigest derivation.final)
        generator? := some (Generator.ofSeed (Seed.ofDigest derivation.final)) } files := by
  refine succeeds_step (succeeds_require Results.derivation? (fun _ => rfl) derived ?_)
  refine Triple.bind _ (succeeds_modify (fun _ => rfl) ?_) fun _ _ _ here => here
  rintro pipeline rfl
  rfl

/-- The parameters are contributed to with the generator. -/
theorem succeeds_contribute (serves : host.Serves results.source outputPath) {generator : Generator}
    {tag : Int} {fingerprint : Digest 64} (loaded : results.parameters? = some parameters)
    (seeded : results.generator? = some generator)
    (contributed : (parameters.contribute generator tag).result = .ok fingerprint) :
    Succeeds (At .seeded results files) (contribute host Phase2.backend tag) fun _ =>
      At .contributed
        { results with
          parameters? := some (parameters.contribute generator tag).parameters
          generator? := some (parameters.contribute generator tag).generator
          fingerprint? := some fingerprint.bytes } files := by
  refine succeeds_step (succeeds_require Results.parameters? (fun _ => rfl) loaded
    (succeeds_require Results.generator? (fun _ => rfl) seeded
      (Triple.bind _ .get fun read => ?_)))
  rintro pipeline machine ⟨rfl, here⟩
  have source_eq : read.source = results.source := congrArg Results.source here.2.1
  refine (?_ : Succeeds (At .seeded results files) _ _) read machine here
  rw [source_eq]
  refine Triple.bind _ (succeeds_echo serves.contributing) fun _ => ?_
  generalize contribution_eq : parameters.contribute generator tag = contribution at contributed ⊢
  let made : Results :=
    { results with
      parameters? := some contribution.parameters
      generator? := some contribution.generator }
  let given : Contributed Parameters :=
    ⟨.ok (.bytes fingerprint.bytes), contribution.parameters, contribution.generator⟩
  have backend_eq : (Phase2.backend : Backend (StateM Machine) Parameters).contribute parameters
      generator tag = pure given := by
    simp only [Phase2.backend, contribution_eq, contributed, given]
  refine Triple.bind (fun returned pipeline machine => returned = .bytes fingerprint.bytes ∧
    At .seeded made files pipeline machine) ?_ fun returned => ?_
  · refine Triple.timed _ ?_ (fun _ _ _ holds => holds) fun _ _ _ impossible => impossible
    rw [backend_eq]
    refine Triple.bind (fun found pipeline machine => found = given ∧
      At .seeded results files pipeline machine) (.lift _ fun _ _ here => ⟨rfl, here⟩) fun _ => ?_
    rintro pipeline machine ⟨rfl, here⟩
    refine (?_ : Succeeds (At .seeded results files) _ _) pipeline machine here
    refine Triple.bind (fun _ => At .seeded made files) (succeeds_modify (fun _ => rfl) ?_)
      fun _ _ _ here => ⟨rfl, here⟩
    rintro pipeline rfl
    rfl
  · rintro pipeline machine ⟨rfl, here⟩
    refine (?_ : Succeeds (At .seeded made files) _ _) pipeline machine here
    have accepted : fingerprintOf results.source (.bytes fingerprint.bytes) =
        .ok fingerprint.bytes := by
      obtain ⟨bytes, length_bytes⟩ := fingerprint
      cases bytes with
      | nil => contradiction
      | cons byte rest => rfl
    rw [accepted]
    refine Triple.bind _ (succeeds_modify (fun _ => rfl) ?_) fun _ =>
      Triple.bind _ (succeeds_strings serves _) fun _ _ _ here => here
    intro pipeline results_eq
    change { pipeline.results with fingerprint? := some fingerprint.bytes } = _
    rw [results_eq]

/-- The parameters are written to a file that has just been created. -/
theorem succeeds_persist {place : List Bytes} (loaded : results.parameters? = some parameters)
    (writable : parameters.Writable) :
    Succeeds (At .contributed results (storage.Written place []))
      (persist Phase2.backend (Machine.sink place : Sink (StateM Machine)) outputPath)
      fun _ => At .persisted results (storage.Written place parameters.writtenParts.flatten) := by
  refine succeeds_step (succeeds_require Results.parameters? (fun _ => rfl) loaded ?_)
  let complete : Pipeline Parameters → Machine → Prop :=
    At .contributed results (storage.Written place parameters.writtenParts.flatten)
  have written : Succeeds (At .contributed results (storage.Written place [])) (do
      perform (Phase2.backend.write parameters (Machine.sink place : Sink (StateM Machine)))
      perform (Machine.sink place : Sink (StateM Machine)).flush) fun _ => complete := by
    refine Triple.bind (fun _ => complete) (.perform _ ?_) fun _ => .perform _ ?_
    · rintro pipeline machine ⟨stage_eq, results_eq, created⟩
      obtain ⟨after, write_eq, all_written⟩ := writable.write_eq created
      have backend_eq : (Phase2.backend : Backend (StateM Machine) Parameters).write parameters
        (Machine.sink place) = parameters.write (Machine.sink place) := rfl
      rw [backend_eq, write_eq]
      exact ⟨stage_eq, results_eq, all_written⟩
    · rintro pipeline machine ⟨stage_eq, results_eq, all_written⟩
      rw [Machine.flush_sink, all_written.settle]
      exact ⟨stage_eq, results_eq, all_written⟩
  refine Triple.bind _ written.observe fun result => ?_
  cases result with
  | ok value => exact fun _ _ here => here
  | error failure => exact fun _ _ impossible => impossible.elim

/-- The parameters are written to a file that can be written. -/
theorem succeeds_persistFile (serves : host.Serves inputPath outputPath) {place : List Bytes}
    (takes : storage.Writable outputPath place) (loaded : results.parameters? = some parameters)
    (writable : parameters.Writable) :
    Succeeds (At .contributed results (· = storage)) (persistFile host Phase2.backend outputPath)
      fun _ => At .persisted results (storage.Written place parameters.writtenParts.flatten) := by
  obtain ⟨created, create_eq, created_written⟩ := takes.create
  refine Triple.bind (fun opened pipeline machine =>
    opened = .ok ⟨Machine.sink place, (Machine.sink place : Sink (StateM Machine)).flush⟩ ∧
      At .contributed results (storage.Written place []) pipeline machine)
    (.lift _ ?_) fun opened => ?_
  · rintro pipeline machine ⟨stage_eq, results_eq, rfl⟩
    rw [serves.openOutput_eq, Machine.openOutput_eq, create_eq]
    exact ⟨rfl, stage_eq, results_eq, created_written⟩
  · rintro pipeline machine ⟨rfl, here⟩
    refine (?_ : Succeeds (At .contributed results (storage.Written place [])) _ _) pipeline machine
      here
    let complete : Pipeline Parameters → Machine → Prop :=
      At .persisted results (storage.Written place parameters.writtenParts.flatten)
    have closed : Succeeds (At .contributed results (storage.Written place []))
        (closing (Machine.sink place : Sink (StateM Machine)).flush
          (persist Phase2.backend (Machine.sink place) outputPath)) fun _ => complete := by
      refine Triple.closing (succeeds_persist loaded writable) ?_ fun _ _ _ impossible =>
        impossible.elim
      rintro value pipeline machine ⟨stage_eq, results_eq, all_written⟩
      rw [Machine.flush_sink, all_written.settle]
      exact ⟨stage_eq, results_eq, all_written⟩
    refine Triple.bind _ closed.observe fun result => ?_
    cases result with
    | ok value => exact fun _ _ here => here
    | error failure => exact fun _ _ impossible => impossible.elim

/-- The receipt is made out for what the steps have left behind. -/
theorem succeeds_finish {seed : Seed} {fingerprint : Bytes}
    (inputPath? outputPath? : Option RawText)
    (derived : results.derivation? = some derivation) (seeded : results.seed? = some seed)
    (contributed : results.fingerprint? = some fingerprint) :
    Succeeds (At .persisted results files) (finish inputPath? outputPath?)
      fun receipt _ machine =>
        receipt = ⟨derivation.final, seed.numbers, fingerprint, inputPath?, outputPath?⟩ ∧
          files machine.storage := by
  let made (receipt : Receipt) (_ : Pipeline Parameters) (machine : Machine) : Prop :=
    receipt = ⟨derivation.final, seed.numbers, fingerprint, inputPath?, outputPath?⟩ ∧
      files machine.storage
  refine Triple.bind made (Triple.step (?_ : Succeeds _ _ made) (fun _ _ here => here.1)
    (fun _ _ _ holds => holds) fun _ _ _ impossible => impossible) fun _ _ _ holds => holds
  refine succeeds_require Results.derivation? (fun _ => rfl) derived
    (succeeds_require Results.seed? (fun _ => rfl) seeded
      (succeeds_require Results.fingerprint? (fun _ => rfl) contributed ?_))
  exact fun _ _ here => ⟨rfl, here.2.2⟩

end Steps

section Whole

open BeaconCeremony.Phase2 (Parameters)

variable {parameters : Parameters} {storage : Storage}

/-- A whole run comes to a receipt and leaves the contribution in the output. -/
theorem succeeds_run {config : Config} {beacon exponent : Datum} {chain : Chain}
    {inputPath? outputPath? : Option RawText} {tag : Int} {bytes : Bytes} {place : List Bytes}
    {fingerprint : Digest 64}
    (serves : host.Serves (chosenPath inputPath? config.inputPath)
      (chosenPath outputPath? config.outputPath))
    (accepted : checkRequest host.depth beacon exponent = .ok ())
    (parsed : Chain.ofHex host.depth beacon exponent = .ok chain)
    (content_eq : storage.content (chosenPath inputPath? config.inputPath) = .ok bytes)
    (read : Parameters.ofBytes true bytes = .ok parameters)
    (takes : storage.Writable (chosenPath outputPath? config.outputPath) place)
    (contributed : (parameters.contribute
      (Generator.ofSeed (Seed.ofDigest chain.definition.final)) tag).result = .ok fingerprint)
    (writable : (parameters.contribute
      (Generator.ofSeed (Seed.ofDigest chain.definition.final)) tag).parameters.Writable) :
    Succeeds (fun pipeline machine => pipeline.config = config ∧ pipeline.stage = .idle ∧
        machine.storage = storage)
      (run host Phase2.backend beacon exponent inputPath? outputPath? tag)
      fun receipt _ machine => receipt = ⟨chain.definition.final,
          (Seed.ofDigest chain.definition.final).numbers, fingerprint.bytes,
          some (chosenPath inputPath? config.inputPath),
          some (chosenPath outputPath? config.outputPath)⟩ ∧
        storage.Written place (parameters.contribute (Generator.ofSeed
          (Seed.ofDigest chain.definition.final)) tag).parameters.writtenParts.flatten
          machine.storage := by
  refine Triple.bind _ .get fun pipeline => ?_
  rintro _ machine ⟨rfl, rfl, idle, storage_eq⟩
  refine (?_ : Succeeds (At .idle pipeline.results (· = storage)) _ _) pipeline machine
    ⟨idle, rfl, storage_eq⟩
  rw [if_neg (not_not_intro idle), accepted]
  refine Triple.bind _ (succeeds_loadFile serves content_eq read) fun _ => ?_
  refine Triple.bind _ (succeeds_derive serves parsed) fun _ => ?_
  refine Triple.bind _ (succeeds_seed rfl) fun _ => ?_
  refine Triple.bind _ (succeeds_contribute serves rfl rfl contributed) fun _ => ?_
  refine Triple.bind _ (succeeds_persistFile serves takes rfl writable) fun _ => ?_
  refine Triple.bind _ (succeeds_echoAll serves.written) fun _ => ?_
  exact succeeds_finish _ _ rfl rfl rfl

theorem checkRequest_of_spells (depth : Nat) {characters : List Char} {beacon : Digest 32}
    (spells : Hex.Spells characters beacon.bytes) (exponent : Chain.Exponent) :
    checkRequest depth (.text (String.ofList characters)) (.int exponent.value) = .ok () := by
  simp only [checkRequest, Chain.Exponent.ofDatum, Chain.ofInt?_value,
    Chain.parseBeacon_of_spells depth spells]
  rfl

/-- The words of a seed are the numbers of four bytes each. -/
theorem numbers_ofDigest (digest : Digest 32) :
    (Seed.ofDigest digest).numbers = (List.range 8).map fun index =>
      (Bytes.toNatBE ((digest.bytes.drop (4 * index)).take 4) : Int) := by
  have words_eq := Bytes.map_toNat_wordsBE digest.bytes
  rw [digest.length_bytes] at words_eq
  have numbers_eq : (Seed.ofDigest digest).numbers =
      ((Bytes.wordsBE digest.bytes).map UInt32.toNat).map Int.ofNat := by
    rw [List.map_map]
    rfl
  rw [numbers_eq, words_eq, List.map_map]
  rfl

/-- A run computes the contribution that its beacon value stands for.  The input is any file that is
accepted, with room for one more key, and the output any path at which there may be a file, also the
one of the input.  If the draws with the seed come to an end, the run comes to a receipt; its final
state is the hash of the beacon value iterated as often as the exponent says, its seed are the words
of this state, the output holds the parameters of the input with the contribution that the seed
makes, and the fingerprint is the hash of the last bytes of the output.  If a draw does not end,
neither does the contribution. -/
theorem run_contributes {pipeline : Pipeline Parameters} {machine : Machine} {beacon : Digest 32}
    {exponent : Chain.Exponent} {characters : List Char} {inputPath? outputPath? : Option RawText}
    {tag : Int} {bytes : Bytes} {place : List Bytes} (idle : pipeline.stage = .idle)
    (serves : host.Serves (chosenPath inputPath? pipeline.config.inputPath)
      (chosenPath outputPath? pipeline.config.outputPath))
    (spells : Hex.Spells characters beacon.bytes)
    (stored : machine.storage.content (chosenPath inputPath? pipeline.config.inputPath) = .ok bytes)
    (accepted : Parameters.ofBytes true bytes = .ok parameters)
    (room : parameters.contributions.length + 1 < UInt32.size)
    (takes : machine.storage.Writable (chosenPath outputPath? pipeline.config.outputPath) place) :
    let left := after (run host Phase2.backend (.text (String.ofList characters))
      (.int exponent.value) inputPath? outputPath? tag) pipeline machine
    let final := Digest.successor^[2 ^ exponent.value] beacon
    let generator := Generator.ofSeed (Seed.ofDigest final)
    let contribution := parameters.contribute generator tag
    (parameters.Draws generator → ∃ receipt written, left.result = .ok receipt ∧
      receipt.final = final ∧
      receipt.seed = ((List.range 8).map fun index =>
        (Bytes.toNatBE ((final.bytes.drop (4 * index)).take 4) : Int)) ∧
      contribution.parameters.toBytes = .ok written ∧
      left.world.storage.content (chosenPath outputPath? pipeline.config.outputPath) =
        .ok written ∧
      receipt.fingerprint = (blake2b (written.drop (written.length - 384))).bytes) ∧
    (¬parameters.Draws generator → contribution.result = .error .stalled) := by
  intro left final generator contribution
  let chain : Chain := ⟨beacon, exponent⟩
  have final_eq : chain.definition.final = final := chain.final_definition
  have sound := Parameters.sound_of_ofBytes accepted
  refine ⟨fun draws => ?_, fun undrawn => sound.stalled_of_not_draws undrawn tag⟩
  obtain ⟨key, contributed, contributed_sound, keys_eq⟩ :=
    sound.contribute_of_draws room draws tag
  have last : contribution.parameters.contributions.getLast? = some key := by
    rw [keys_eq, List.getLast?_concat]
  simp only [generator, ← final_eq] at contributed contributed_sound
  have succeeded := succeeds_run serves (checkRequest_of_spells host.depth spells exponent)
    (Chain.ofHex_of_spells host.depth chain spells) stored accepted takes contributed
    contributed_sound.writable pipeline machine ⟨rfl, idle, rfl⟩
  rw [final_eq] at succeeded contributed_sound
  change left.Meets _ _ at succeeded
  obtain ⟨failure | receipt, _, world⟩ := left
  · exact succeeded.elim
  · obtain ⟨rfl, written⟩ := succeeded
    refine ⟨_, _, rfl, rfl, numbers_ofDigest final, contributed_sound.writable.toBytes_eq,
      written.content takes.place_eq, ?_⟩
    rw [Parameters.drop_flatten_writtenParts last]

end Whole

end Action

/-- A machine serves a run whose paths are strings. -/
theorem Machine.serves (inputPath outputPath : String) :
    (Machine.host : Host (StateM Machine)).Serves inputPath outputPath := by
  have strings (text : String) : (Machine.host : Host (StateM Machine)).Shows text :=
    fun machine => ⟨{ machine with shown := text :: machine.shown }, rfl, rfl⟩
  refine ⟨rfl, rfl, strings, ?_, ?_⟩
  · exact strings ("Contributing to `" ++ inputPath ++ "`...")
  · intro line member
    simp only [Report.writtenLines, List.mem_cons, List.not_mem_nil, or_false] at member
    rcases member with rfl | rfl
    · exact strings ""
    · exact strings ("Your contribution has been written to `" ++ outputPath ++ "`")

namespace InPlace

open BeaconCeremony.Action BeaconCeremony.Pipeline BeaconCeremony.Phase2

theorem length_circuitHash : (List.replicate 64 (7 : UInt8)).length = 64 := List.length_replicate

/-- New parameters with one point in each query. -/
def start : Parameters := Parameters.initial 1 1 ⟨List.replicate 64 7, length_circuitHash⟩

/-- The place of their file. -/
def place : List Bytes := ["home", "p"].map Utf8.encode

/-- A machine with this file. -/
def machine : Machine where
  storage := (Storage.fresh "home").put place (.file start.writtenParts.flatten)

/-- A contribution that takes its input from the file and leaves its output there. -/
def pipeline : Pipeline Parameters := .start ⟨"p", "p", formatName, .bool false⟩

theorem writable_fresh : (Storage.fresh "home").Writable "p" place :=
  ⟨eq_ok_of_toOption (by decide +kernel), .inl (by decide +kernel)⟩

theorem written : (Storage.fresh "home").Written place start.writtenParts.flatten
    machine.storage :=
  Storage.written_put writable_fresh.not_directory _

/-- The words that the chain starts with. -/
def first : Sha256.State := ⟨0xabababab, 0xabababab, 0xabababab, 0xabababab, 0xabababab, 0xabababab,
  0xabababab, 0xabababab⟩

/-- The words after the shortest chain. -/
def last : Sha256.State := ⟨0x0c10e614, 0x249dc6dd, 0x25c07522, 0x6a97f82a, 0xaea65c21, 0x1dfcacde,
  0x6941dcb0, 0x9e673e04⟩

theorem iterate_successor : Digest.successor^[1024] first.toDigest = last.toDigest :=
  Digest.iterate_successor_toDigest (by decide +kernel)

theorem draws : start.normalized.Draws (Generator.ofSeed (Seed.ofDigest last.toDigest)) := by
  have sound : start.Sound := Parameters.sound_initial _ (by decide) (by decide)
  have accepted : Parameters.ofBytes true start.writtenParts.flatten = .ok start.normalized :=
    sound.writable.ofBytes_eq fun _ => sound
  exact (Parameters.sound_of_ofBytes accepted).regular.draws_of_drawsEnd (by decide +kernel)

end InPlace

/-- New parameters are contributed to in place. -/
theorem run_contributes_inPlace :
    let beacon : Digest 32 := ⟨List.replicate 32 0xab, List.length_replicate⟩
    let exponent : Chain.Exponent := ⟨10, by decide, by decide⟩
    let bytes := InPlace.start.writtenParts.flatten
    let parameters := InPlace.start.normalized
    let left := Action.after (Pipeline.run Machine.host Phase2.backend
      (.text (String.ofList (Hex.encodeChars beacon.bytes))) (.int exponent.value) none none 0)
      InPlace.pipeline InPlace.machine
    let final := Digest.successor^[2 ^ exponent.value] beacon
    let generator := Generator.ofSeed (Seed.ofDigest final)
    let contribution := parameters.contribute generator 0
    InPlace.machine.storage.content "p" = .ok bytes ∧
      Phase2.Parameters.ofBytes true bytes = .ok parameters ∧
      InPlace.machine.storage.Writable "p" InPlace.place ∧
      parameters.Draws generator ∧
      ∃ receipt written, left.result = .ok receipt ∧
        receipt.final = final ∧
        receipt.seed = ((List.range 8).map fun index =>
          (Bytes.toNatBE ((final.bytes.drop (4 * index)).take 4) : Int)) ∧
        contribution.parameters.toBytes = .ok written ∧
        left.world.storage.content "p" = .ok written ∧
        receipt.fingerprint = (blake2b (written.drop (written.length - 384))).bytes := by
  intro beacon exponent bytes parameters
  have sound : InPlace.start.Sound :=
    Phase2.Parameters.sound_initial _ (by decide) (by decide)
  have stored : InPlace.machine.storage.content "p" = .ok bytes :=
    InPlace.written.content InPlace.writable_fresh.place_eq
  have accepted : Phase2.Parameters.ofBytes true bytes = .ok parameters :=
    sound.writable.ofBytes_eq fun _ => sound
  have takes : InPlace.machine.storage.Writable "p" InPlace.place :=
    InPlace.written.writable InPlace.writable_fresh
  have no_keys : parameters.contributions = [] := rfl
  have room : parameters.contributions.length + 1 < UInt32.size := by
    rw [no_keys]
    decide
  have beacon_eq : beacon = InPlace.first.toDigest := Digest.ext (by decide)
  have steps_eq : 2 ^ exponent.value = 1024 := rfl
  have draws : parameters.Draws (Generator.ofSeed (Seed.ofDigest
      (Digest.successor^[2 ^ exponent.value] beacon))) := by
    rw [steps_eq, beacon_eq, InPlace.iterate_successor]
    exact InPlace.draws
  have outcome := @Action.run_contributes Machine.host parameters InPlace.pipeline InPlace.machine
    beacon exponent (Hex.encodeChars beacon.bytes) none none 0 bytes InPlace.place rfl
    (Machine.serves "p" "p") (Hex.spells_encodeChars beacon.bytes) stored accepted room takes
  have path_eq : Pipeline.chosenPath none InPlace.pipeline.config.outputPath = ("p" : String) := rfl
  rw [path_eq] at outcome
  exact ⟨stored, accepted, takes, draws, outcome.1 draws⟩

end BeaconCeremony

import BeaconCeremony.Proofs.Pipeline.Once
import BeaconCeremony.Proofs.Pipeline.Passage

/-!
# What is there at each stage

The results of the steps that a contribution has taken are there, and those of other steps are not.
So no step ever misses the result of an earlier one, and the last step always succeeds.
-/

namespace BeaconCeremony
namespace Pipeline

open BeaconCeremony.Action

variable {World Params : Type} {backend : Backend (StateM World) Params}
  {pipeline later : Pipeline Params} {events noted : List Event} {seed : Seed}
  {fingerprint : Bytes}

/-- The format contributed with the generator of a seed and returned the fingerprint, and the
parameters and the generator are what it left behind. -/
structure MadeFrom (backend : Backend (StateM World) Params) (seed : Seed)
    (pipeline : Pipeline Params) (events : List Event) (fingerprint : Bytes)
    (contributed : Contributed Params) (returned : Datum) : Prop where
  /-- The format was asked to contribute with the generator of the seed. -/
  made : ∃ parameters tag world,
    contributed = (backend.contribute parameters (Generator.ofSeed seed) tag world).1
  /-- It returned something. -/
  result_eq : contributed.result = .ok returned
  /-- What it returned is on record. -/
  recorded : .contributed (.ok returned) ∈ events
  /-- It returned the fingerprint. -/
  fingerprint_eq : returned.asBytes? = some fingerprint
  /-- The fingerprint is not empty. -/
  nonempty : fingerprint ≠ []
  /-- The parameters are what it left behind. -/
  parameters_eq : pipeline.parameters? = some contributed.parameters
  /-- The generator is what it left behind. -/
  generator_eq : pipeline.generator? = some contributed.generator

/-- The results of the steps that lead to the stage are there, and no others. -/
structure Stocked (backend : Backend (StateM World) Params) (pipeline : Pipeline Params)
    (events : List Event) : Prop where
  /-- The parameters are there once they have been loaded. -/
  parameters : pipeline.parameters?.isSome ↔ Stage.loaded.rank ≤ pipeline.stage.rank
  /-- The derivation is there once the chain has been run. -/
  derivation : pipeline.derivation?.isSome ↔ Stage.beaconDerived.rank ≤ pipeline.stage.rank
  /-- The seed is there once the generator has been seeded, and comes from the derivation. -/
  seed_eq : pipeline.seed? = if Stage.seeded.rank ≤ pipeline.stage.rank then
    pipeline.derivation?.map fun derivation => Seed.ofDigest derivation.final else none
  /-- The generator is there once it has been seeded. -/
  generator : pipeline.generator?.isSome ↔ Stage.seeded.rank ≤ pipeline.stage.rank
  /-- Up to the contribution it is as the seed makes it. -/
  fresh : pipeline.stage = .seeded → pipeline.generator? = pipeline.seed?.map Generator.ofSeed
  /-- The fingerprint is there once the contribution has been made. -/
  fingerprint : pipeline.fingerprint?.isSome ↔ Stage.contributed.rank ≤ pipeline.stage.rank
  /-- The contribution was made with the generator of the seed. -/
  made : ∀ fingerprint, pipeline.fingerprint? = some fingerprint →
    ∃ seed contributed returned, pipeline.seed? = some seed ∧
      MadeFrom backend seed pipeline events fingerprint contributed returned

theorem asBytes?_of_fingerprintOf {source : RawText} {returned : Datum}
    (usable : fingerprintOf source returned = .ok fingerprint) :
    returned.asBytes? = some fingerprint ∧ fingerprint ≠ [] := by
  unfold fingerprintOf at usable
  split at usable
  · contradiction
  · contradiction
  · rename_i bytes nonempty found
    obtain rfl := Except.ok.inj usable
    exact ⟨found, nonempty⟩

theorem MadeFrom.stays {contributed : Contributed Params} {returned : Datum}
    (made : MadeFrom backend seed pipeline events fingerprint contributed returned)
    (parameters_eq : later.parameters? = pipeline.parameters?)
    (generator_eq : later.generator? = pipeline.generator?) (more : events ⊆ noted) :
    MadeFrom backend seed later noted fingerprint contributed returned where
  made := made.made
  result_eq := made.result_eq
  recorded := more made.recorded
  fingerprint_eq := made.fingerprint_eq
  nonempty := made.nonempty
  parameters_eq := parameters_eq.trans made.parameters_eq
  generator_eq := generator_eq.trans made.generator_eq

theorem stocked_start (config : Config) : Stocked backend (start config) [] where
  parameters := ⟨nofun, nofun⟩
  derivation := ⟨nofun, nofun⟩
  seed_eq := rfl
  generator := ⟨nofun, nofun⟩
  fresh := nofun
  fingerprint := ⟨nofun, nofun⟩
  made := nofun

/-- After the contribution all results stay as they are. -/
theorem Stocked.settled (stocked : Stocked backend pipeline events)
    (made : Stage.contributed.rank ≤ pipeline.stage.rank) {target : Stage}
    (settled : Stage.contributed.rank ≤ target.rank) (metrics : Metrics)
    (more : events ⊆ noted) :
    Stocked backend { pipeline.moveTo target with metrics := metrics } noted := by
  have due {stage : Stage} (early : stage.rank ≤ Stage.contributed.rank) :
      stage.rank ≤ pipeline.stage.rank ↔ stage.rank ≤ target.rank :=
    iff_of_true (Nat.le_trans early made) (Nat.le_trans early settled)
  refine ⟨stocked.parameters.trans (due (by decide)), stocked.derivation.trans (due (by decide)),
    ?_, stocked.generator.trans (due (by decide)), ?_, stocked.fingerprint.trans (due (by decide)),
    ?_⟩
  · have seeded : Stage.seeded.rank ≤ pipeline.stage.rank ↔ Stage.seeded.rank ≤ target.rank :=
      due (by decide)
    have seed_eq := stocked.seed_eq
    simp only [seeded] at seed_eq
    exact seed_eq
  · rintro rfl
    exact absurd settled (by decide)
  · intro fingerprint found
    obtain ⟨seed, contributed, returned, seeded, made⟩ := stocked.made fingerprint found
    exact ⟨seed, contributed, returned, seeded, made.stays rfl rfl more⟩

/-- Before the contribution has been made there is no fingerprint. -/
theorem Stocked.unmade (stocked : Stocked backend pipeline events)
    (early : pipeline.stage.rank < Stage.contributed.rank) : pipeline.fingerprint? = none :=
  Option.not_isSome_iff_eq_none.mp (stocked.fingerprint.not.mpr (Nat.not_le.mpr early))

/-- Before the contribution has been made it is enough to know of the results of earlier steps. -/
theorem stocked_moveTo {target : Stage} (early : target.rank < Stage.contributed.rank)
    (unmade : pipeline.fingerprint? = none)
    (parameters : pipeline.parameters?.isSome ↔ Stage.loaded.rank ≤ target.rank)
    (derivation : pipeline.derivation?.isSome ↔ Stage.beaconDerived.rank ≤ target.rank)
    (seed_eq : pipeline.seed? = if Stage.seeded.rank ≤ target.rank then
      pipeline.derivation?.map fun derivation => Seed.ofDigest derivation.final else none)
    (generator : pipeline.generator?.isSome ↔ Stage.seeded.rank ≤ target.rank)
    (fresh : target = .seeded → pipeline.generator? = pipeline.seed?.map Generator.ofSeed) :
    Stocked backend (pipeline.moveTo target) events where
  parameters := parameters
  derivation := derivation
  seed_eq := seed_eq
  generator := generator
  fresh := fresh
  fingerprint := iff_of_false (Option.not_isSome_iff_eq_none.mpr unmade) (Nat.not_le.mpr early)
  made _ found := absurd (unmade.symm.trans found) (Option.some_ne_none _).symm

/-- A move leaves the results of one more step behind. -/
theorem Move.stocked (move : Move backend pipeline events later noted)
    (stocked : pipeline.stage ≠ .failed → Stocked backend pipeline events)
    (unfailed : later.stage ≠ .failed) : Stocked backend later noted := by
  -- What is due at a stage is due at the next one, unless it is the result of the step between.
  have still {present : Prop} {due stage target : Stage}
      (there : present ↔ due.rank ≤ pipeline.stage.rank) (staged : pipeline.stage = stage)
      (same : due.rank ≤ stage.rank ↔ due.rank ≤ target.rank) :
      present ↔ due.rank ≤ target.rank := by
    rw [there, staged, same]
  cases move with
  | load staged source parameters =>
      have stocked := stocked (staged ▸ by decide)
      have unmade := stocked.unmade (staged ▸ by decide)
      have seed_eq := stocked.seed_eq
      rw [staged] at seed_eq
      exact stocked_moveTo (by decide) unmade (iff_of_true rfl (by decide))
        (still stocked.derivation staged (by decide)) seed_eq
        (still stocked.generator staged (by decide)) fun seeded => absurd seeded (by decide)
  | derive staged derivation bounded reporter =>
      have stocked := stocked (staged ▸ by decide)
      have unmade := stocked.unmade (staged ▸ by decide)
      have seed_eq := stocked.seed_eq
      rw [staged] at seed_eq
      exact stocked_moveTo (by decide) unmade (still stocked.parameters staged (by decide))
        (iff_of_true rfl (by decide)) seed_eq (still stocked.generator staged (by decide))
        fun seeded => absurd seeded (by decide)
  | seed staged derivation derived =>
      have stocked := stocked (staged ▸ by decide)
      have unmade := stocked.unmade (staged ▸ by decide)
      have seed_eq : some (Seed.ofDigest derivation.final) =
          pipeline.derivation?.map fun derivation => Seed.ofDigest derivation.final := by
        rw [derived]
        rfl
      exact stocked_moveTo (by decide) unmade (still stocked.parameters staged (by decide))
        (still stocked.derivation staged (by decide)) seed_eq (iff_of_true rfl (by decide))
        fun _ => rfl
  | contribute staged parameters generator loaded seeded tag world returned fingerprint result_eq
      usable =>
      obtain ⟨-, derivation, seed_eq, -, fresh, -, -⟩ := stocked (staged ▸ by decide)
      obtain ⟨bytes_eq, nonempty⟩ := asBytes?_of_fingerprintOf usable
      obtain ⟨seed, seed_found, rfl⟩ := Option.map_eq_some_iff.mp ((fresh staged).symm.trans seeded)
      have recorded : Event.contributed (.ok returned) ∈
          events ++ [.contributing, .contributed (.ok returned)] :=
        List.mem_append_right events (List.mem_cons_of_mem _ List.mem_cons_self)
      have derived : pipeline.derivation?.isSome := derivation.mpr (staged ▸ by decide)
      -- All results are there by now, each of them due at this stage or earlier.
      have due {present : Prop} {stage : Stage} (there : present)
          (early : stage.rank ≤ Stage.contributed.rank) :
          present ↔ stage.rank ≤ Stage.contributed.rank := iff_of_true there early
      refine ⟨due rfl (by decide), due derived (by decide), ?_, due rfl (by decide), ?_,
        due rfl (by decide), ?_⟩
      · rw [staged] at seed_eq
        exact seed_eq
      · rintro ⟨⟩
      · intro found found_eq
        obtain rfl : fingerprint = found := Option.some.inj found_eq
        exact ⟨seed, _, returned, seed_found, ⟨parameters, tag, world, rfl⟩, result_eq, recorded,
          bytes_eq, nonempty, rfl, rfl⟩
  | persist staged =>
      exact (stocked (by simp [staged])).settled (staged ▸ Nat.le_refl _) (by decide) _
        (List.subset_append_left _ _)
  | finish staged =>
      exact (stocked (by simp [staged])).settled (staged ▸ by decide) (by decide) _
        (List.Subset.refl _)
  | fail undone underway failure => exact absurd (stage_fail _ failure) unfailed

/-- No step asks for a result that is not there. -/
theorem Stocked.not_lacking (stocked : Stocked backend pipeline events) : ¬pipeline.Lacking := by
  have there {α : Type} {field : Option α} {stage : Stage}
      (due : field.isSome ↔ stage.rank ≤ pipeline.stage.rank)
      (late : stage.rank ≤ pipeline.stage.rank) : field ≠ none :=
    Option.isSome_iff_ne_none.mp (due.mpr late)
  have seeded (late : Stage.seeded.rank ≤ pipeline.stage.rank) : pipeline.seed? ≠ none := by
    rw [stocked.seed_eq, if_pos late, ne_eq, Option.map_eq_none_iff]
    exact there stocked.derivation (Nat.le_trans (by decide) late)
  have late {due actual : Stage} (staged : pipeline.stage = actual)
      (early : due.rank ≤ actual.rank) : due.rank ≤ pipeline.stage.rank := staged ▸ early
  intro lacking
  unfold Lacking at lacking
  split at lacking
  · rename_i staged
    exact there stocked.derivation (late staged (by decide)) lacking
  · rename_i staged
    exact lacking.elim (there stocked.parameters (late staged (by decide)))
      (there stocked.generator (late staged (by decide)))
  · rename_i staged
    exact there stocked.parameters (late staged (by decide)) lacking
  · rename_i staged
    rcases lacking with missing | missing | missing
    · exact there stocked.derivation (late staged (by decide)) missing
    · exact seeded (late staged (by decide)) missing
    · exact there stocked.fingerprint (late staged (by decide)) missing
  · exact lacking

/-- With the results of the earlier steps the last step succeeds. -/
theorem after_finish {derivation : Derivation} (staged : pipeline.stage = .persisted)
    (derived : pipeline.derivation? = some derivation) (seeded : pipeline.seed? = some seed)
    (made : pipeline.fingerprint? = some fingerprint) (inputPath? outputPath? : Option RawText)
    (world : World) :
    (finish inputPath? outputPath? : Action (StateM World) Params Receipt).after pipeline world =
      ⟨.ok ⟨derivation.final, seed.numbers, fingerprint, inputPath?, outputPath?⟩,
        { pipeline.moveTo .done with metrics := pipeline.metrics.recordRun .ok }, world⟩ := by
  refine after_bind_of_ok _ _ _ (after_step_of_ok staged ?_)
  rw [after_bind_of_ok _ _ _ (after_require _ derived),
    after_bind_of_ok _ _ _ (after_require _ seeded), after_bind_of_ok _ _ _ (after_require _ made)]
  rfl

end Pipeline

namespace Receipt

theorem length_numbers (seed : Seed) : seed.numbers.length = seedLength := by
  rw [Seed.numbers, List.length_map, Vector.length_toList]
  rfl

/-- A receipt with eight words and a fingerprint passes its own check. -/
theorem shownOfData_eq {receipt : Receipt} (words : receipt.seed.length = seedLength)
    (nonempty : receipt.fingerprint ≠ []) :
    shownOfData (.bytes receipt.final.bytes) (receipt.seed.map Datum.int)
        (.bytes receipt.fingerprint) =
      .ok (Hex.encode receipt.final.bytes, receipt.fingerprint) := by
  have sized : RecordError.checkLength "final_hash" 32 (.bytes receipt.final.bytes) = .ok () :=
    if_pos receipt.final.length_bytes
  have present : fingerprintBytes (.bytes receipt.fingerprint) = .ok receipt.fingerprint :=
    if_neg (by simpa using nonempty)
  have words_eq : (receipt.seed.map Datum.int).length = seedLength := by
    rw [List.length_map, words]
  rw [shownOfData, sized, if_pos words_eq, present]
  rfl

end Receipt

section Life

open BeaconCeremony.Pipeline

variable {World Params : Type} {host : Host (StateM World)}
  {backend : Backend (StateM World) Params} {config : Config} {pipeline : Pipeline Params}
  {events : List Event}

theorem Reached.stocked (reached : Reached host backend config pipeline events) :
    pipeline.stage ≠ .failed → Stocked backend pipeline events :=
  reached.holds (fun _ => stocked_start config) Move.stocked

/-- After any calls in any order, with anything going wrong in between, what is there is what the
stage says.  So no call fails for want of the result of an earlier step, unless the surroundings
fail like that, and once the parameters have been written the last step succeeds, with a receipt
that passes its own check. -/
theorem stocked_at_stages (reached : Reached host backend config pipeline events) :
    (pipeline.stage ≠ .failed → Stocked backend pipeline events) ∧
      (∀ (call : Call World) (world : World) (failure : Failure),
        Confined host backend (fun failure => ¬failure.Wants) →
        call.Serves backend (fun failure => ¬failure.Wants) →
        (call.outcome host backend pipeline world events).result = .error failure →
        ¬failure.Wants) ∧
      (pipeline.stage = .persisted → ∀ (inputPath? outputPath? : Option RawText) (world : World),
        ∃ derivation fingerprint, pipeline.derivation? = some derivation ∧
          pipeline.fingerprint? = some fingerprint ∧
          let seed := Seed.ofDigest derivation.final
          let receipt : Receipt :=
            ⟨derivation.final, seed.numbers, fingerprint, inputPath?, outputPath?⟩
          pipeline.seed? = some seed ∧
          (finish inputPath? outputPath? : Action (StateM World) Params Receipt).after pipeline
              world =
            ⟨.ok receipt,
              { pipeline.moveTo .done with metrics := pipeline.metrics.recordRun .ok }, world⟩ ∧
          Receipt.shownOfData (.bytes receipt.final.bytes) (receipt.seed.map Datum.int)
              (.bytes receipt.fingerprint) =
            .ok (Hex.encode receipt.final.bytes, receipt.fingerprint)) := by
  refine ⟨reached.stocked, fun call world failure confined serves failed => ?_,
    fun staged inputPath? outputPath? world => ?_⟩
  · have excused := excused_outcome (fun _ plain => plain) confined serves failed
    refine excused.resolve_right ?_
    rintro ⟨later, noted, passes, lacking⟩
    have later_stocked := passes.keeps Move.stocked reached.stocked
    by_cases failed : later.stage = .failed
    · rw [Lacking, failed] at lacking
      exact lacking
    · exact (later_stocked failed).not_lacking lacking
  · have stocked := reached.stocked (staged ▸ by decide)
    obtain ⟨derivation, derived⟩ :=
      Option.isSome_iff_exists.mp (stocked.derivation.mpr (staged ▸ by decide))
    obtain ⟨fingerprint, made⟩ :=
      Option.isSome_iff_exists.mp (stocked.fingerprint.mpr (staged ▸ by decide))
    have seeded : pipeline.seed? = some (Seed.ofDigest derivation.final) := by
      rw [stocked.seed_eq, if_pos (staged ▸ by decide), derived]
      rfl
    obtain ⟨_, _, _, -, made_from⟩ := stocked.made fingerprint made
    exact ⟨derivation, fingerprint, derived, made, seeded,
      after_finish staged derived seeded made inputPath? outputPath? world,
      Receipt.shownOfData_eq (Receipt.length_numbers _) made_from.nonempty⟩

end Life

theorem confined_obliging {allowed : Failure → Prop} :
    Confined Host.obliging Backend.counter allowed where
  echo _ _ _ := nofun
  openInput _ _ _ := nofun
  input _ _ file opened := by
    obtain rfl := Except.ok.inj opened
    exact ⟨fun _ _ => nofun, fun _ _ => nofun⟩
  contribute _ _ _ _ _ := nofun
  openOutput _ _ _ := nofun
  output _ _ file opened := by
    obtain rfl := Except.ok.inj opened
    exact ⟨⟨fun _ _ _ => nofun, fun _ _ => nofun⟩, fun _ _ => nofun⟩

/-- Five steps lead to a contribution that has been written.  Seeding it again is refused, and the
last step succeeds. -/
theorem stocked_at_stages_persisted :
    let config : Config := ⟨"mpc.params", "mpc.params", "bn254-phase2", .bool true⟩
    let beacon : Datum := .text (String.ofList (List.replicate 64 '0'))
    let calls : List (Call Unit) := [.load ⟨fun _ => pure (.ok [])⟩ "mpc.params",
      .derive beacon (.int 10), .seed, .contribute 0,
      .persist ⟨fun _ => pure (.ok ()), pure (.ok ())⟩ "mpc.params"]
    let left := Call.leave Host.obliging Backend.counter () calls (.start config, [])
    let again := Call.seed.outcome Host.obliging Backend.counter left.1 () left.2
    Reached Host.obliging Backend.counter config left.1 left.2 ∧
      left.1.stage = .persisted ∧ left.1.fingerprint? = some [1] ∧
      Pipeline.Stocked Backend.counter left.1 left.2 ∧
      (∀ failure, again.result = .error failure → ¬failure.Wants) ∧
      ∃ receipt later, (Pipeline.finish none none).after left.1 () = ⟨.ok receipt, later, ()⟩ ∧
        receipt.fingerprint = [1] := by
  intro config beacon calls left again
  have reached : Reached Host.obliging Backend.counter config left.1 left.2 :=
    Reached.start.leave () calls
  obtain ⟨stocked, unwanting, finishing⟩ := stocked_at_stages reached
  have evaluated : left.1.stage = .persisted ∧ left.1.fingerprint? = some [1] := by
    simp only [left, calls, Call.leave, Call.outcome, Call.action, Pipeline.derive, Chain.run_eq]
    decide +kernel
  obtain ⟨staged, made⟩ := evaluated
  obtain ⟨derivation, fingerprint, -, fingerprint_eq, -, finished, -⟩ :=
    finishing staged none none ()
  refine ⟨reached, staged, made, stocked (staged ▸ by decide), fun failure => ?_, _, _, finished,
    ?_⟩
  · exact unwanting .seed () failure confined_obliging True.intro
  · exact Option.some.inj (fingerprint_eq.symm.trans made)

end BeaconCeremony

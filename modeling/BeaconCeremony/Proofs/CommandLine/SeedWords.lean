import BeaconCeremony.Proofs.CommandLine.Honest
import BeaconCeremony.Proofs.Keystream.Seed

/-!
# The words of a seed

The program shows the words of a seed next to the final state of the chain that they come from.
Written with all their leading zeros, the words are the digits of that state.
-/

namespace BeaconCeremony

/-- The words of a seed as they are shown. -/
def Seed.words (seed : Seed) : List String :=
  seed.toList.map fun word => String.ofList (Text.hexDigits 8 word.toNat)

/-- The words of a chain state are its digits. -/
theorem Seed.join_words (digest : Digest 32) :
    String.join (Seed.ofDigest digest).words = Hex.encode digest.bytes := by
  have group_eq (first second third fourth : UInt8) :
      Text.hexDigits 8 (Bytes.wordBE first second third fourth).toNat =
        Hex.encodeChars [first, second, third, fourth] := by
    rw [Bytes.toNat_wordBE]
    exact Hex.hexDigits_toNatBE [first, second, third, fourth]
  have digits_eq : (Seed.ofDigest digest).toList.flatMap (fun word =>
      Text.hexDigits 8 word.toNat) = Hex.encodeChars digest.bytes := by
    rw [Seed.toList_ofDigest, Bytes.flatMap_wordsBE group_eq (Seed.four_dvd_length digest),
      ← Hex.encodeChars_flatten, (Bytes.cutInto_piecesOf 3 digest.bytes).flatten_eq]
  rw [Seed.words, Hex.encode, ← digits_eq, ← String.toList_inj, String.toList_join,
    List.flatMap_map, String.toList_ofList]
  exact List.flatMap_congr fun word _ => String.toList_ofList

theorem Seed.length_words (seed : Seed) : seed.words.length = 8 := by
  rw [Seed.words, List.length_map, Vector.length_toList]

namespace CommandLine
namespace Command

/-- The program ends with code zero.  The last strings that it shows are the digits of a final
state, an empty line and eight words of eight digits each, which are the same digits. -/
def ShowsSeed (environment : Environment) (machine : Machine) (arguments : List String)
    (final : Digest 32) : Prop :=
  (machine.execute environment arguments).1 = .exit 0 ∧ ∃ digits words before,
    (machine.execute environment arguments).2.shown =
      ("Seed words: " ++ " ".intercalate words) :: "" ::
        ("Final result of beacon: " ++ digits) :: before ∧
    digits = Hex.encode final.bytes ∧ words.length = 8 ∧ (∀ word ∈ words, word.length = 8) ∧
    String.join words = digits

/-- From the state of a chain to the key of the keystream nothing is lost, nor where the state is
shown.  Seeds and states correspond to each other one to one.  The key is the state with the bytes
of each group of four in reverse, so that different states make different keys, and it is what the
blocks of the keystream start from. -/
theorem seed_lossless :
    (∀ digest, Seed.ofDatum (.bytes digest.bytes) = .ok (Seed.ofDigest digest)) ∧
    Function.Bijective Seed.ofDigest ∧
    (∀ digest, (Generator.ofSeed (Seed.ofDigest digest)).seed.key =
      (Bytes.piecesOf 3 digest.bytes).flatMap List.reverse) ∧
    (∀ (seed : Seed) (number : Nat),
      (ChaCha.initialState seed number).toList.flatMap Bytes.ofWordLE =
        Utf8.encode "expand 32-byte k" ++ seed.key ++ Bytes.ofNatLE 8 number ++
          List.replicate 8 0) ∧
    (Function.Injective fun digest => (Generator.ofSeed (Seed.ofDigest digest)).seed.key) ∧
    ∀ environment machine arguments request chain,
      request? arguments = some (.seed request) →
      Chain.ofHex Datum.usualDepth (.text request.beacon) (.int request.exponent) = .ok chain →
      ShowsSeed environment machine arguments chain.definition.final := by
  refine ⟨Seed.ofDatum_bytes, Seed.bijective_ofDigest, Seed.key_ofDigest,
    ChaCha.flatMap_initialState, Seed.key_injective.comp Seed.bijective_ofDigest.injective, ?_⟩
  intro environment machine arguments request chain asked parsed
  have label_eq (final : Digest 32) :
      Report.finalLine final = "Final result of beacon: " ++ Hex.encode final.bytes := by
    have label : Report.finalLabel ++ " " = "Final result of beacon: " := by decide
    rw [Report.finalLine, label]
  rw [ShowsSeed, execute_of_returns asked (returns_seedStrings parsed machine)]
  refine ⟨rfl, Hex.encode chain.definition.final.bytes,
    (Seed.ofDigest chain.definition.final).words,
    (if request.quiet then [] else
      chain.definition.checkpoints.map Report.checkpointLine).reverse ++ machine.shown,
    ?_, rfl, Seed.length_words _, ?_, Seed.join_words _⟩
  · rw [seedStrings, label_eq, List.reverse_append, List.append_assoc]
    rfl
  · intro word member
    obtain ⟨number, -, rfl⟩ := List.mem_map.mp member
    rw [String.length_ofList, Hex.length_hexDigits]

/-- The shortest chain of a state is run without its checkpoints. -/
theorem seed_lossless_quiet :
    let beacon : Digest 32 := ⟨List.replicate 32 0xff, List.length_replicate⟩
    let chain : Chain := ⟨beacon, ⟨10, by decide, by decide⟩⟩
    let request : SeedRequest :=
      { beacon := Hex.encode beacon.bytes, exponent := 10, quiet := true }
    let arguments := ["seed", "-h", Hex.encode beacon.bytes, "-n", "10", "-q"]
    request? arguments = some (.seed request) ∧
      Chain.ofHex Datum.usualDepth (.text request.beacon) (.int request.exponent) = .ok chain ∧
      ShowsSeed [] { storage := Storage.fresh "home" } arguments chain.definition.final := by
  intro beacon chain request arguments
  have asked : request? arguments = some (.seed request) := by decide +kernel
  have parsed : Chain.ofHex Datum.usualDepth (.text request.beacon) (.int request.exponent) =
      .ok chain :=
    Chain.ofHex_of_spells Datum.usualDepth chain (Hex.spells_encodeChars beacon.bytes)
  exact ⟨asked, parsed, seed_lossless.2.2.2.2.2 _ _ _ _ _ asked parsed⟩

end Command
end CommandLine
end BeaconCeremony

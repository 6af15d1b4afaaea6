import BeaconCeremony.Keystream.Generator
import BeaconCeremony.Proofs.Bytes.Number
import BeaconCeremony.Proofs.Bytes.Pieces
import BeaconCeremony.Text.Utf8

/-!
# Seeds and their keys

The words of a seed are read from a chain state with the most significant byte first, and they are
stored in the key of the keystream with the least significant byte first.  Neither step loses
anything, so different chain states make different keys.
-/

namespace BeaconCeremony
namespace Seed

/-- The bytes of the key that a seed makes.  Each word is stored with its least significant byte
first. -/
def key (seed : Seed) : Bytes := seed.toList.flatMap Bytes.ofWordLE

/-- A byte string of the length of a chain state is mapped to the words of that state. -/
theorem ofDatum_bytes (digest : Digest 32) :
    ofDatum (.bytes digest.bytes) = .ok (ofDigest digest) := by
  have sized : Datum.toBytesOfLength "beacon digest" 32 (.bytes digest.bytes) =
      .ok digest.bytes := by
    change Bytes.ofLength "beacon digest" 32 digest.bytes = _
    exact if_pos (congrArg Int.ofNat digest.length_bytes)
  simp only [ofDatum, sized, bind, Except.bind, Digest.ofBytes?_bytes]
  rfl

theorem toList_ofDigest (digest : Digest 32) :
    (ofDigest digest).toList = Bytes.wordsBE digest.bytes := rfl

theorem four_dvd_length (digest : Digest 32) : 4 ∣ digest.bytes.length := by
  rw [digest.length_bytes]
  decide

/-- The words laid out again are the chain state. -/
theorem flatMap_ofDigest (digest : Digest 32) :
    (ofDigest digest).toList.flatMap Bytes.ofWordBE = digest.bytes := by
  have words_eq := @Bytes.flatMap_wordsBE UInt8 Bytes.ofWordBE id Bytes.ofWordBE_wordBE digest.bytes
    (four_dvd_length digest)
  rw [toList_ofDigest, words_eq, List.flatMap_id,
    (Bytes.cutInto_piecesOf 3 digest.bytes).flatten_eq]

/-- Every seed belongs to just one chain state. -/
theorem bijective_ofDigest : Function.Bijective ofDigest := by
  constructor
  · intro left right same
    refine Digest.ext ?_
    rw [← flatMap_ofDigest left, same, flatMap_ofDigest]
  · intro seed
    have sized : (seed.toList.flatMap Bytes.ofWordBE).length = 32 := by
      have each : (fun word => (Bytes.ofWordBE word).length) = fun _ => 4 := rfl
      rw [List.length_flatMap, each, List.map_const', List.sum_replicate_nat,
        Vector.length_toList]
    refine ⟨⟨seed.toList.flatMap Bytes.ofWordBE, sized⟩, Vector.toList_inj.mp ?_⟩
    rw [toList_ofDigest, Bytes.wordsBE_flatMap]

/-- The key of a chain state is the state with the bytes of each group of four in reverse. -/
theorem key_ofDigest (digest : Digest 32) :
    (ofDigest digest).key = (Bytes.piecesOf 3 digest.bytes).flatMap List.reverse := by
  refine Bytes.flatMap_wordsBE (fun first second third fourth => ?_) (four_dvd_length digest)
  exact congrArg List.reverse (Bytes.ofWordBE_wordBE first second third fourth)

/-- Different seeds make different keys. -/
theorem key_injective : Function.Injective key := by
  have of_length {lefts rights : List UInt32} (sized : lefts.length = rights.length)
      (same : lefts.flatMap Bytes.ofWordLE = rights.flatMap Bytes.ofWordLE) : lefts = rights := by
    induction lefts generalizing rights with
    | nil => exact (List.length_eq_zero_iff.mp sized.symm).symm
    | cons left lefts ih =>
        cases rights with
        | nil => cases sized
        | cons right rights =>
            obtain ⟨first, rest⟩ := List.append_inj same rfl
            have word_eq := Bytes.ofWordBE_injective (List.reverse_inj.mp first)
            rw [word_eq, ih (Nat.succ.inj sized) rest]
  intro left right same
  exact Vector.toList_inj.mp (of_length (by simp) same)

end Seed

namespace ChaCha

/-- The state that a block starts from, laid out with the least significant byte of each word first:
sixteen constant bytes, the key, the number of the block and a nonce of zeros. -/
theorem flatMap_initialState (seed : Seed) (number : Nat) :
    (initialState seed number).toList.flatMap Bytes.ofWordLE =
      Utf8.encode "expand 32-byte k" ++ seed.key ++ Bytes.ofNatLE 8 number ++
        List.replicate 8 0 := by
  have constants : [0x61707865, 0x3320646e, 0x79622d32, 0x6b206574].flatMap Bytes.ofWordLE =
      Utf8.encode "expand 32-byte k" := by decide +kernel
  have word_eq (value : Nat) : Bytes.ofWordLE (UInt32.ofNat value) = Bytes.ofNatLE 4 value :=
    List.reverse_inj.mp (Bytes.ofWordBE_ofNat value)
  have number_eq : Bytes.ofNatLE 8 number = Bytes.ofWordLE (UInt32.ofNat number) ++
      Bytes.ofWordLE (UInt32.ofNat (number / UInt32.size)) := by
    rw [word_eq, word_eq]
    exact Bytes.ofNatLE_add 4 4 number
  have nonce : Bytes.ofWordLE 0 ++ Bytes.ofWordLE 0 = List.replicate 8 0 := rfl
  rw [initialState, Vector.toList_append, Vector.toList_append, List.flatMap_append,
    List.flatMap_append, Seed.key, number_eq, ← constants, ← nonce]
  simp

end ChaCha
end BeaconCeremony

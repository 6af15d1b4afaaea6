import BeaconCeremony.Proofs.Curve.Layout
import BeaconCeremony.Proofs.Phase2.Format

/-!
# The files that are accepted

A layout lists the byte strings that a file is put together from.  It is valid if points are where
points are expected, every transcript is the hash of all that comes before it, and the products are
those of the last key.  The files that are read with all checks are those of the valid layouts.
-/

namespace BeaconCeremony
namespace Phase2

open Curve

/-- The parts of a key in a file. -/
structure KeyLayout where
  deltaAfter : Bytes
  s : Bytes
  sDelta : Bytes
  rDelta : Bytes
  transcript : Bytes

/-- The parts of a file. -/
structure Layout where
  circuitHash : Bytes
  delta1 : Bytes
  delta2 : Bytes
  h : List Bytes
  l : List Bytes
  keys : List KeyLayout

namespace KeyLayout

/-- The bytes of a key. -/
def bytes (key : KeyLayout) : Bytes :=
  key.deltaAfter ++ key.s ++ key.sDelta ++ key.rDelta ++ key.transcript

/-- A key of 384 bytes with points in their places. -/
structure Valid (key : KeyLayout) : Prop where
  deltaAfter : IsPoint1 key.deltaAfter
  s : IsPoint1 key.s
  sDelta : IsPoint1 key.sDelta
  rDelta : IsPoint2 key.rDelta
  transcript : key.transcript.length = 64

end KeyLayout

namespace Layout

/-- The bytes of a file of version one: every list comes after a word that counts it. -/
def bytes (layout : Layout) : Bytes :=
  magic ++ Bytes.ofNatBE 4 1 ++ layout.circuitHash ++ layout.delta1 ++ layout.delta2 ++
    Bytes.ofNatBE 4 layout.h.length ++ layout.h.flatten ++
    Bytes.ofNatBE 4 layout.l.length ++ layout.l.flatten ++
    Bytes.ofNatBE 4 layout.keys.length ++ layout.keys.flatMap KeyLayout.bytes

/-- What the transcript of a key is the hash of, if `previous` are the keys before it. -/
def message (layout : Layout) (previous : List KeyLayout) (key : KeyLayout) : Bytes :=
  layout.circuitHash ++ previous.flatMap KeyLayout.bytes ++ key.s ++ key.sDelta

/-- The parts have their lengths and ranges, the points lie on their curves and in their groups, and
the keys belong to the rest. -/
structure Valid (layout : Layout) : Prop where
  circuitHash : layout.circuitHash.length = 64
  delta1 : IsPoint1 layout.delta1
  delta2 : IsPoint2 layout.delta2
  h : ∀ point ∈ layout.h, IsPoint1 point
  l : ∀ point ∈ layout.l, IsPoint1 point
  keys : ∀ key ∈ layout.keys, key.Valid
  h_small : layout.h.length < 2 ^ 32
  l_small : layout.l.length < 2 ^ 32
  keys_small : layout.keys.length < 2 ^ 32
  transcripts : ∀ (index : Nat) (key : KeyLayout), layout.keys[index]? = some key →
    key.transcript = (blake2b (layout.message (layout.keys.take index) key)).bytes
  last : ∀ key, layout.keys.getLast? = some key → key.deltaAfter = layout.delta1
  unused : layout.keys = [] →
    encode1 generator1 = .ok layout.delta1 ∧ encode2 generator2 = .ok layout.delta2

end Layout

/-- The layout of the written form of a key. -/
def PublicKey.layout (key : PublicKey) : KeyLayout where
  deltaAfter := written1 key.deltaAfter
  s := written1 key.s
  sDelta := written1 key.sDelta
  rDelta := written2 key.rDelta
  transcript := key.transcript.bytes

/-- The layout of the written form of parameters. -/
def Parameters.layout (parameters : Parameters) : Layout where
  circuitHash := parameters.circuitHash.bytes
  delta1 := written1 parameters.delta1
  delta2 := written2 parameters.delta2
  h := parameters.h.map written1
  l := parameters.l.map written1
  keys := parameters.contributions.map PublicKey.layout

@[simp]
theorem PublicKey.bytes_layout (key : PublicKey) : key.layout.bytes = key.written := by
  simp [KeyLayout.bytes, layout, written]

theorem Parameters.keys_layout (parameters : Parameters) :
    parameters.layout.keys = parameters.contributions.map PublicKey.layout := rfl

theorem Parameters.bytes_layout (parameters : Parameters) :
    parameters.layout.bytes = parameters.writtenParts.flatten := by
  simp [flatten_writtenParts, Layout.bytes, layout, formatVersion, List.flatMap_map,
    ← List.flatMap_def]

theorem PublicKey.Regular.valid {key : PublicKey} (regular : key.Regular) : key.layout.Valid where
  deltaAfter := isPoint1_iff.mpr ⟨_, regular.deltaAfter, rfl⟩
  s := isPoint1_iff.mpr ⟨_, regular.s, rfl⟩
  sDelta := isPoint1_iff.mpr ⟨_, regular.sDelta, rfl⟩
  rDelta := isPoint2_iff.mpr ⟨_, regular.rDelta, rfl⟩
  transcript := key.transcript.length_bytes

theorem KeyLayout.Valid.exists_key {layout : KeyLayout} (valid : layout.Valid) :
    ∃ key : PublicKey, key.Regular ∧ key.layout = layout := by
  obtain ⟨deltaAfter, deltaAfter_regular, deltaAfter_eq⟩ := isPoint1_iff.mp valid.deltaAfter
  obtain ⟨s, s_regular, s_eq⟩ := isPoint1_iff.mp valid.s
  obtain ⟨sDelta, sDelta_regular, sDelta_eq⟩ := isPoint1_iff.mp valid.sDelta
  obtain ⟨rDelta, rDelta_regular, rDelta_eq⟩ := isPoint2_iff.mp valid.rDelta
  refine ⟨⟨deltaAfter, s, sDelta, rDelta, ⟨layout.transcript, valid.transcript⟩⟩,
    ⟨deltaAfter_regular, s_regular, sDelta_regular, rDelta_regular⟩, ?_⟩
  rw [PublicKey.layout, deltaAfter_eq, s_eq, sDelta_eq, rDelta_eq]

theorem exists_map_eq {α β : Type} {write : α → β} {good : α → Prop} {images : List β}
    (each : ∀ image ∈ images, ∃ value, good value ∧ write value = image) :
    ∃ values : List α, (∀ value ∈ values, good value) ∧ values.map write = images := by
  induction images with
  | nil => exact ⟨[], List.forall_mem_nil good, rfl⟩
  | cons image images ih =>
      obtain ⟨here, there⟩ := List.forall_mem_cons.mp each
      obtain ⟨value, value_good, rfl⟩ := here
      obtain ⟨values, values_good, rfl⟩ := ih there
      exact ⟨value :: values, List.forall_mem_cons.mpr ⟨value_good, values_good⟩, rfl⟩

theorem Layout.Valid.exists_parameters {layout : Layout} (valid : layout.Valid) :
    ∃ parameters : Parameters, parameters.Regular ∧ parameters.layout = layout := by
  obtain ⟨delta1, delta1_regular, delta1_eq⟩ := isPoint1_iff.mp valid.delta1
  obtain ⟨delta2, delta2_regular, delta2_eq⟩ := isPoint2_iff.mp valid.delta2
  obtain ⟨h, h_regular, h_eq⟩ := exists_map_eq fun point member =>
    isPoint1_iff.mp (valid.h point member)
  obtain ⟨l, l_regular, l_eq⟩ := exists_map_eq fun point member =>
    isPoint1_iff.mp (valid.l point member)
  obtain ⟨keys, keys_regular, keys_eq⟩ := exists_map_eq fun key member =>
    (valid.keys key member).exists_key
  refine ⟨⟨⟨layout.circuitHash, valid.circuitHash⟩, delta1, delta2, h, l, keys⟩,
    ⟨delta1_regular, delta2_regular, h_regular, l_regular, keys_regular⟩, ?_⟩
  rw [Parameters.layout, delta1_eq, delta2_eq, h_eq, l_eq, keys_eq]

/-- A key is bound to the keys that stand before it, wherever it stands. -/
theorem bound_iff_getElem? (circuitHash : Digest 64) {previous keys : List PublicKey} :
    Bound circuitHash previous keys ↔ ∀ (index : Nat) (key : PublicKey),
      keys[index]? = some key →
        key.transcript = boundHash circuitHash (previous ++ keys.take index) key.s key.sDelta := by
  induction keys generalizing previous with
  | nil => simp [Bound]
  | cons first keys ih =>
      rw [Bound, ih]
      constructor
      · rintro ⟨here, there⟩ index key found
        cases index with
        | zero =>
            obtain rfl := Option.some.inj found
            simpa using here
        | succ index => simpa using there index key found
      · intro all
        refine ⟨by simpa using all 0 first rfl, fun index key found => ?_⟩
        simpa using all (index + 1) key found

namespace Parameters

variable {parameters : Parameters}

theorem bytes_boundHash (previous : List PublicKey) (key : PublicKey) :
    (boundHash parameters.circuitHash previous key.s key.sDelta).bytes =
      (blake2b (parameters.layout.message (previous.map PublicKey.layout) key.layout)).bytes := by
  rw [boundHash_eq, Layout.message, List.flatMap_map]
  simp only [PublicKey.bytes_layout]
  rfl

theorem bound_iff_transcripts : Bound parameters.circuitHash [] parameters.contributions ↔
    ∀ (index : Nat) (key : KeyLayout), parameters.layout.keys[index]? = some key →
      key.transcript =
        (blake2b (parameters.layout.message (parameters.layout.keys.take index) key)).bytes := by
  rw [bound_iff_getElem?]
  simp only [keys_layout, List.getElem?_map, Option.map_eq_some_iff, ← List.map_take]
  constructor
  · rintro bound index _ ⟨key, found, rfl⟩
    rw [← bytes_boundHash, ← List.nil_append (parameters.contributions.take index),
      ← bound index key found]
    rfl
  · intro transcripts index key found
    have bytes_eq := transcripts index key.layout ⟨key, found, rfl⟩
    rw [← bytes_boundHash] at bytes_eq
    exact Digest.ext bytes_eq

theorem Regular.closed_iff (regular : parameters.Regular) : parameters.Closed ↔
    (∀ key, parameters.layout.keys.getLast? = some key →
      key.deltaAfter = parameters.layout.delta1) ∧
    (parameters.layout.keys = [] → encode1 generator1 = .ok parameters.layout.delta1 ∧
      encode2 generator2 = .ok parameters.layout.delta2) := by
  rw [Closed, keys_layout, List.getLast?_map]
  cases last : parameters.contributions.getLast? with
  | some key =>
      have member := List.mem_of_getLast? last
      have used : parameters.contributions.map PublicKey.layout ≠ [] :=
        mt List.map_eq_nil_iff.mp (List.ne_nil_of_mem member)
      have same_iff := same_iff_written1 (regular.keys key member).deltaAfter.z_ne
        regular.delta1.z_ne
      constructor
      · intro same
        refine ⟨?_, fun unused => absurd unused used⟩
        rintro _ ⟨⟩
        exact same_iff.mp same
      · rintro ⟨last_eq, -⟩
        exact same_iff.mpr (last_eq key.layout rfl)
  | none =>
      have unused : parameters.contributions.map PublicKey.layout = [] :=
        List.map_eq_nil_iff.mpr (List.getLast?_eq_none_iff.mp last)
      have one1_iff : encode1 generator1 = .ok (written1 parameters.delta1) ↔
          parameters.delta1.same generator1 = true := by
        rw [encode1_eq regular1_generator1.z_ne, Except.ok.injEq, eq_comm,
          same_iff_written1 regular.delta1.z_ne regular1_generator1.z_ne]
      have one2_iff : encode2 generator2 = .ok (written2 parameters.delta2) ↔
          parameters.delta2.same generator2 = true := by
        rw [encode2_eq regular2_generator2.z_ne, Except.ok.injEq, eq_comm,
          same_iff_written2 regular.delta2.z_ne regular2_generator2.z_ne]
      constructor
      · rintro ⟨same1, same2⟩
        exact ⟨fun key found => by contradiction,
          fun _ => ⟨one1_iff.mpr same1, one2_iff.mpr same2⟩⟩
      · rintro ⟨-, one⟩
        obtain ⟨one1, one2⟩ := one unused
        exact ⟨one1_iff.mp one1, one2_iff.mp one2⟩

theorem Sound.valid (sound : parameters.Sound) : parameters.layout.Valid where
  circuitHash := parameters.circuitHash.length_bytes
  delta1 := isPoint1_iff.mpr ⟨_, sound.delta1, rfl⟩
  delta2 := isPoint2_iff.mpr ⟨_, sound.delta2, rfl⟩
  h := List.forall_mem_map.mpr fun point member => isPoint1_iff.mpr ⟨_, sound.h point member, rfl⟩
  l := List.forall_mem_map.mpr fun point member => isPoint1_iff.mpr ⟨_, sound.l point member, rfl⟩
  keys := List.forall_mem_map.mpr fun key member => (sound.keys key member).valid
  h_small := (List.length_map _).trans_lt sound.h_small
  l_small := (List.length_map _).trans_lt sound.l_small
  keys_small := (List.length_map _).trans_lt sound.keys_small
  transcripts := bound_iff_transcripts.mp sound.bound
  last := (sound.regular.closed_iff.mp sound.closed).1
  unused := (sound.regular.closed_iff.mp sound.closed).2

theorem Regular.sound_of_valid (regular : parameters.Regular) (valid : parameters.layout.Valid) :
    parameters.Sound where
  delta1 := regular.delta1
  delta2 := regular.delta2
  h := regular.h
  l := regular.l
  keys := regular.keys
  h_small := (List.length_map written1).symm.trans_lt valid.h_small
  l_small := (List.length_map written1).symm.trans_lt valid.l_small
  keys_small := (List.length_map PublicKey.layout).symm.trans_lt valid.keys_small
  bound := bound_iff_transcripts.mpr valid.transcripts
  closed := regular.closed_iff.mpr ⟨valid.last, valid.unused⟩

/-- The files that are read with all checks are those of the valid layouts. -/
theorem exists_ofBytes_iff (bytes : Bytes) :
    (∃ parameters, ofBytes true bytes = .ok parameters) ↔
      ∃ layout : Layout, layout.Valid ∧ layout.bytes = bytes := by
  constructor
  · rintro ⟨parameters, read⟩
    have readFrom := readFrom_of_ofBytes read
    refine ⟨parameters.layout, (readFrom.sound rfl).valid, ?_⟩
    rw [bytes_layout, readFrom.written]
  · rintro ⟨layout, valid, rfl⟩
    obtain ⟨parameters, regular, rfl⟩ := valid.exists_parameters
    have sound := regular.sound_of_valid valid
    refine ⟨parameters.normalized, ?_⟩
    rw [bytes_layout]
    exact sound.writable.ofBytes_eq fun _ => sound

end Parameters
end Phase2
end BeaconCeremony

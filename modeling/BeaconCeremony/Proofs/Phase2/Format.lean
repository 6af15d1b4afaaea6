import BeaconCeremony.Proofs.Phase2.Key
import BeaconCeremony.Proofs.Stream.Closing

/-!
# Parameters that are written and read back

Parameters without a point at infinity have a written form, of which reading makes the same
parameters with affine coordinates.  Reading takes all of the bytes: it ends with a look for their
end.  Parameters are sound if everything in them passes the checks of parameters that are read, and
whatever is read with its checks is sound.
-/

namespace BeaconCeremony
namespace Phase2

open Curve Decoder

namespace Parameters

/-- The products belong to the last key, or are one if there is no key. -/
def Closed (parameters : Parameters) : Prop :=
  match parameters.contributions.getLast? with
  | some key => key.deltaAfter.same parameters.delta1 = true
  | none => parameters.delta1.same generator1 = true ∧ parameters.delta2.same generator2 = true

/-- Everything in the parameters passes the checks of parameters that are read. -/
structure Sound (parameters : Parameters) : Prop where
  delta1 : Regular1 parameters.delta1
  delta2 : Regular2 parameters.delta2
  h : ∀ point ∈ parameters.h, Regular1 point
  l : ∀ point ∈ parameters.l, Regular1 point
  keys : ∀ key ∈ parameters.contributions, key.Regular
  h_small : parameters.h.length < UInt32.size
  l_small : parameters.l.length < UInt32.size
  keys_small : parameters.contributions.length < UInt32.size
  /-- The keys are bound to the circuit and to the keys before them. -/
  bound : Bound parameters.circuitHash [] parameters.contributions
  /-- The products belong to the keys. -/
  closed : parameters.Closed

/-- No point is the one at infinity, and there are no more points and keys than a word can count. -/
structure Writable (parameters : Parameters) : Prop where
  delta1 : parameters.delta1.z ≠ 0
  delta2 : parameters.delta2.z ≠ 0
  h : ∀ point ∈ parameters.h, point.z ≠ 0
  l : ∀ point ∈ parameters.l, point.z ≠ 0
  keys : ∀ key ∈ parameters.contributions, key.Writable
  h_small : parameters.h.length < UInt32.size
  l_small : parameters.l.length < UInt32.size
  keys_small : parameters.contributions.length < UInt32.size

/-- Every point stands for a point of its curve, and of the group of prime order. -/
structure Regular (parameters : Parameters) : Prop where
  delta1 : Regular1 parameters.delta1
  delta2 : Regular2 parameters.delta2
  h : ∀ point ∈ parameters.h, Regular1 point
  l : ∀ point ∈ parameters.l, Regular1 point
  keys : ∀ key ∈ parameters.contributions, key.Regular

/-- The parameters with affine coordinates. -/
def normalized (parameters : Parameters) : Parameters where
  circuitHash := parameters.circuitHash
  delta1 := parameters.delta1.normalized
  delta2 := parameters.delta2.normalized
  h := parameters.h.map Point.normalized
  l := parameters.l.map Point.normalized
  contributions := parameters.contributions.map PublicKey.normalized

/-- The parts of a file. -/
def writtenParts (parameters : Parameters) : List Bytes :=
  [magic, Bytes.ofNatBE 4 formatVersion, parameters.circuitHash.bytes,
    written1 parameters.delta1, written2 parameters.delta2] ++
  [Bytes.ofNatBE 4 parameters.h.length] ++ parameters.h.map written1 ++
  [Bytes.ofNatBE 4 parameters.l.length] ++ parameters.l.map written1 ++
  [Bytes.ofNatBE 4 parameters.contributions.length] ++
  parameters.contributions.map PublicKey.written

theorem flatten_writtenParts (parameters : Parameters) : parameters.writtenParts.flatten =
    magic ++ (Bytes.ofNatBE 4 formatVersion ++ (parameters.circuitHash.bytes ++
      (written1 parameters.delta1 ++ (written2 parameters.delta2 ++
      ((Bytes.ofNatBE 4 parameters.h.length ++ parameters.h.flatMap written1) ++
      ((Bytes.ofNatBE 4 parameters.l.length ++ parameters.l.flatMap written1) ++
      (Bytes.ofNatBE 4 parameters.contributions.length ++
      (parameters.contributions.flatMap PublicKey.written ++ [])))))))) := by
  simp [writtenParts, List.flatMap_def]

variable {parameters : Parameters}

theorem Sound.regular (sound : parameters.Sound) : parameters.Regular where
  delta1 := sound.delta1
  delta2 := sound.delta2
  h := sound.h
  l := sound.l
  keys := sound.keys

theorem Sound.writable (sound : parameters.Sound) : parameters.Writable where
  delta1 := sound.delta1.z_ne
  delta2 := sound.delta2.z_ne
  h point member := (sound.h point member).z_ne
  l point member := (sound.l point member).z_ne
  keys key member := (sound.keys key member).writable
  h_small := sound.h_small
  l_small := sound.l_small
  keys_small := sound.keys_small

theorem Writable.parts_eq (writable : parameters.Writable) :
    parameters.parts = parameters.writtenParts.map .ok := by
  have h_eq : parameters.h.map encode1 = parameters.h.map fun point => .ok (written1 point) :=
    List.map_congr_left fun point member => encode1_eq (writable.h point member)
  have l_eq : parameters.l.map encode1 = parameters.l.map fun point => .ok (written1 point) :=
    List.map_congr_left fun point member => encode1_eq (writable.l point member)
  have keys_eq : parameters.contributions.map PublicKey.encode =
      parameters.contributions.map fun key => .ok key.written :=
    List.map_congr_left fun key member => (writable.keys key member).encode_eq
  simp only [parts, writtenParts, h_eq, l_eq, keys_eq, encode1_eq writable.delta1,
    encode2_eq writable.delta2, List.map_append, List.map_cons, List.map_nil, List.map_map,
    Function.comp_def]

theorem Writable.toBytes_eq (writable : parameters.Writable) :
    parameters.toBytes = .ok parameters.writtenParts.flatten := by
  have pieces : parameters.parts.mapM id = .ok parameters.writtenParts := by
    rw [writable.parts_eq, List.mapM_map]
    exact (mapM_eq_ok fun _ _ => rfl).trans (congrArg Except.ok (List.map_id _))
  rw [toBytes, pieces]
  rfl

theorem writable_normalized (h_small : parameters.h.length < UInt32.size)
    (l_small : parameters.l.length < UInt32.size)
    (keys_small : parameters.contributions.length < UInt32.size) :
    parameters.normalized.Writable where
  delta1 := BaseField.interpretation.normalized_z_ne parameters.delta1
  delta2 := QuadraticField.interpretation.normalized_z_ne parameters.delta2
  h := List.forall_mem_map.mpr fun point _ => BaseField.interpretation.normalized_z_ne point
  l := List.forall_mem_map.mpr fun point _ => BaseField.interpretation.normalized_z_ne point
  keys := List.forall_mem_map.mpr fun key _ => key.writable_normalized
  h_small := (List.length_map _).trans_lt h_small
  l_small := (List.length_map _).trans_lt l_small
  keys_small := (List.length_map _).trans_lt keys_small

theorem Writable.normalized (writable : parameters.Writable) : parameters.normalized.Writable :=
  writable_normalized writable.h_small writable.l_small writable.keys_small

theorem Writable.regular_normalized_iff (writable : parameters.Writable) :
    parameters.normalized.Regular ↔ parameters.Regular := by
  have delta1_iff := regular1_normalized_iff writable.delta1
  have delta2_iff := regular2_normalized_iff writable.delta2
  constructor
  · rintro ⟨delta1, delta2, h, l, keys⟩
    exact
      { delta1 := delta1_iff.mp delta1
        delta2 := delta2_iff.mp delta2
        h := fun point member => (regular1_normalized_iff (writable.h point member)).mp
          (h _ (List.mem_map_of_mem member))
        l := fun point member => (regular1_normalized_iff (writable.l point member)).mp
          (l _ (List.mem_map_of_mem member))
        keys := fun key member => (PublicKey.regular_normalized_iff (writable.keys key member)).mp
          (keys _ (List.mem_map_of_mem member)) }
  · intro regular
    exact
      { delta1 := delta1_iff.mpr regular.delta1
        delta2 := delta2_iff.mpr regular.delta2
        h := List.forall_mem_map.mpr fun point member => (regular.h point member).normalized
        l := List.forall_mem_map.mpr fun point member => (regular.l point member).normalized
        keys := List.forall_mem_map.mpr fun key member =>
          (PublicKey.regular_normalized_iff (writable.keys key member)).mpr
            (regular.keys key member) }

theorem check_eq_ok_iff (writable : ∀ key ∈ parameters.contributions, key.Writable) :
    parameters.check = .ok () ↔
      Bound parameters.circuitHash [] parameters.contributions ∧ parameters.Closed := by
  have transcripts_iff := checkTranscripts_eq_ok_iff parameters.circuitHash
    (List.forall_mem_nil PublicKey.Writable) writable
  rw [check, ← transcripts_iff, Closed]
  cases checkTranscripts parameters.circuitHash [] parameters.contributions with
  | error error => exact iff_of_false nofun fun passed => nomatch passed.1
  | ok _ =>
      refine Iff.trans ?_ (and_iff_right rfl).symm
      cases parameters.contributions.getLast? with
      | some key =>
          change (if key.deltaAfter.same parameters.delta1 = true then _ else _) = _ ↔ _
          split <;> simp_all
      | none =>
          change (if (parameters.delta1.same generator1 && parameters.delta2.same generator2) = true
            then _ else _) = _ ↔ _
          split <;> simp_all

/-- Sound parameters are those that are regular and pass the check of their keys. -/
theorem Writable.sound_iff (writable : parameters.Writable) :
    parameters.Sound ↔ parameters.Regular ∧ parameters.check = .ok () := by
  rw [check_eq_ok_iff writable.keys]
  constructor
  · intro sound
    exact ⟨sound.regular, sound.bound, sound.closed⟩
  · rintro ⟨⟨delta1, delta2, h, l, keys⟩, bound, closed⟩
    exact ⟨delta1, delta2, h, l, keys, writable.h_small, writable.l_small, writable.keys_small,
      bound, closed⟩

theorem Sound.check_eq (sound : parameters.Sound) : parameters.check = .ok () :=
  (sound.writable.sound_iff.mp sound).2

theorem Writable.closed_normalized_iff (writable : parameters.Writable) :
    parameters.normalized.Closed ↔ parameters.Closed := by
  rw [Closed, Closed]
  simp only [Parameters.normalized, List.getLast?_map]
  cases last : parameters.contributions.getLast? with
  | some key =>
      have key_writable := writable.keys key (List.mem_of_getLast? last)
      exact Bool.eq_iff_iff.mp
        (BaseField.interpretation.same_normalized key_writable.deltaAfter writable.delta1)
  | none =>
      have same1_iff := Bool.eq_iff_iff.mp (BaseField.interpretation.same_normalized
        writable.delta1 regular1_generator1.z_ne)
      have same2_iff := Bool.eq_iff_iff.mp (QuadraticField.interpretation.same_normalized
        writable.delta2 regular2_generator2.z_ne)
      rw [generator1, BaseField.interpretation.normalized_ofAffine] at same1_iff
      rw [generator2, QuadraticField.interpretation.normalized_ofAffine] at same2_iff
      exact and_congr same1_iff same2_iff

/-- The check of the keys does not depend on the coordinates in which the points are given. -/
theorem Writable.check_normalized_iff (writable : parameters.Writable) :
    parameters.normalized.check = .ok () ↔ parameters.check = .ok () := by
  rw [check_eq_ok_iff writable.keys, check_eq_ok_iff writable.normalized.keys,
    writable.closed_normalized_iff]
  exact and_congr_left' (bound_normalized parameters.circuitHash [] parameters.contributions)

theorem Writable.sound_normalized_iff (writable : parameters.Writable) :
    parameters.normalized.Sound ↔ parameters.Sound := by
  rw [writable.sound_iff, writable.normalized.sound_iff, writable.regular_normalized_iff,
    writable.check_normalized_iff]

theorem Sound.normalized (sound : parameters.Sound) : parameters.normalized.Sound :=
  sound.writable.sound_normalized_iff.mpr sound

end Parameters

theorem length_magic : magic.length = 16 := by
  decide +kernel

theorem formatVersion_small : formatVersion < UInt32.size := by
  decide

/-! ## Reading what has been written -/

theorem decodes_part {bytes : Bytes} {count : Nat} (label : String) (sized : bytes.length = count) :
    Decodes (part count label) bytes bytes :=
  .take sized

theorem decodes_word (label : String) {number : Nat} (small : number < UInt32.size) :
    Decodes (word label) (Bytes.ofNatBE 4 number) number := by
  have value_eq : (Bytes.ofNatBE 4 number).toNatBE = number := Bytes.toNatBE_ofNatBE small
  refine (decodes_part label (Bytes.length_ofNatBE 4 number)).bind_nil ?_
  rw [value_eq]
  exact .pure number

theorem decodes_require {condition : Bool} (error : FormatError) (holds : condition = true) :
    Decodes (require condition error) [] () :=
  .ofExcept (if_pos holds)

section Decodes

variable {verify : Bool}

theorem decodes_point1 (label : String) {point : G1} (accepted : verify = true → Regular1 point) :
    Decodes (point1 verify label) (written1 point) point.normalized := by
  refine (decodes_part label (length_written1 point)).bind_nil (.ofExcept ?_)
  rw [decode1_written1 label accepted]
  rfl

theorem decodes_point2 (label : String) {point : G2} (accepted : verify = true → Regular2 point) :
    Decodes (point2 verify label) (written2 point) point.normalized := by
  refine (decodes_part label (length_written2 point)).bind_nil (.ofExcept ?_)
  rw [decode2_written2 label accepted]
  rfl

theorem decodes_query (name : String) {points : List G1}
    (accepted : verify = true → ∀ point ∈ points, Regular1 point)
    (small : points.length < UInt32.size) :
    Decodes (query verify name) (Bytes.ofNatBE 4 points.length ++ points.flatMap written1)
      (points.map Point.normalized) :=
  (decodes_word _ small).bind (.items (fun point member _ =>
    decodes_point1 _ fun verified => accepted verified point member) 0)

theorem decodes_publicKey (index : Nat) {key : PublicKey} (accepted : verify = true → key.Regular) :
    Decodes (publicKey verify index) key.written key.normalized :=
  (decodes_part _ key.length_written).bind_nil
    (.ofExcept (PublicKey.decode_written accepted index))

end Decodes

theorem decodes_circuitHash (digest : Digest 64) : Decodes circuitHash digest.bytes digest := by
  refine (decodes_part _ digest.length_bytes).bind_nil ?_
  rw [Digest.ofBytes?_bytes]
  exact .pure digest

namespace Parameters

variable {parameters : Parameters}

/-- What has been written is read back with affine coordinates; with checks, if it passes them. -/
theorem Writable.ofBytes_eq (writable : parameters.Writable) {verify : Bool}
    (accepted : verify = true → parameters.Sound) :
    ofBytes verify parameters.writtenParts.flatten = .ok parameters.normalized := by
  have keys_decode : Decodes (Decoder.items (publicKey verify) 0 parameters.contributions.length)
      (parameters.contributions.flatMap PublicKey.written)
      (parameters.contributions.map PublicKey.normalized) :=
    .items (fun key member index =>
      decodes_publicKey index fun verified => (accepted verified).keys key member) 0
  have parsed : (decoder verify).parse parameters.writtenParts.flatten =
      .ok (parameters.normalized, []) := by
    rw [flatten_writtenParts, decoder, (decodes_part "magic" length_magic).parse_bind,
      (decodes_require .badMagic (BEq.rfl)).parse_bind_nil,
      (decodes_word "version" formatVersion_small).parse_bind,
      (decodes_require (.version formatVersion) (BEq.rfl)).parse_bind_nil,
      (decodes_circuitHash parameters.circuitHash).parse_bind,
      (decodes_point1 "delta_g1" fun verified => (accepted verified).delta1).parse_bind,
      (decodes_point2 "delta_g2" fun verified => (accepted verified).delta2).parse_bind,
      (decodes_query "h" (fun verified => (accepted verified).h) writable.h_small).parse_bind,
      (decodes_query "l" (fun verified => (accepted verified).l) writable.l_small).parse_bind,
      (decodes_word "contribution count" writable.keys_small).parse_bind, keys_decode.parse_bind,
      parse_atEnd_bind, (decodes_require .trailing List.isEmpty_nil).parse_bind_nil]
    cases verify with
    | false => rfl
    | true =>
        rw [if_pos rfl]
        exact (Decodes.ofExcept (accepted rfl).normalized.check_eq).parse_bind_nil []
  rw [ofBytes, parsed]
  rfl

/-- What is true of parameters that have been read from bytes. -/
structure ReadFrom (verify : Bool) (bytes : Bytes) (parameters : Parameters) : Prop where
  /-- The bytes are their written form. -/
  written : parameters.writtenParts.flatten = bytes
  /-- All points have affine coordinates. -/
  affine : parameters.normalized = parameters
  writable : parameters.Writable
  /-- If checks were asked for, they have been passed. -/
  sound : verify = true → parameters.Sound

end Parameters

/-! ## What has been read -/

theorem relates_part (count : Nat) (label : String) :
    Relates (fun taken bytes => taken = bytes ∧ bytes.length = count) (part count label) :=
  .take count _

theorem relates_require (condition : Bool) (error : FormatError) :
    Relates (fun taken _ => taken = [] ∧ condition = true) (require condition error) := by
  refine .ofExcept fun _ passed => ⟨rfl, ?_⟩
  by_contra refused
  rw [if_neg refused] at passed
  contradiction

theorem relates_word (label : String) :
    Relates (fun taken number => Bytes.ofNatBE 4 number = taken ∧ number < UInt32.size)
      (word label) := by
  refine .bind (relates_part 4 label) fun taken bytes ⟨taken_eq, sized⟩ => .pure ⟨?_, ?_⟩
  · rw [Bytes.ofNatBE_toNatBE sized, taken_eq, List.append_nil]
  · have small := Bytes.toNatBE_lt bytes
    rwa [sized] at small

theorem relates_circuitHash :
    Relates (fun taken (digest : Digest 64) => digest.bytes = taken) circuitHash := by
  refine .bind (relates_part 64 _) fun taken bytes ⟨taken_eq, _⟩ => ?_
  subst taken_eq
  cases found : Digest.ofBytes? 64 taken with
  | none => exact .ofExcept nofun
  | some digest =>
      refine .pure ?_
      rw [Digest.bytes_of_ofBytes? found, List.append_nil]

section Relates

variable (verify : Bool)

theorem relates_point1 (label : String) :
    Relates (fun taken point => written1 point = taken ∧ point.normalized = point ∧
      (verify = true → Regular1 point)) (point1 verify label) := by
  refine .bind (relates_part 64 label) fun taken bytes ⟨taken_eq, _⟩ => .ofExcept ?_
  intro point decoded
  rw [taken_eq, List.append_nil]
  exact of_decode1 (eq_ok_of_mapError_eq_ok decoded)

theorem relates_point2 (label : String) :
    Relates (fun taken point => written2 point = taken ∧ point.normalized = point ∧
      (verify = true → Regular2 point)) (point2 verify label) := by
  refine .bind (relates_part 128 label) fun taken bytes ⟨taken_eq, _⟩ => .ofExcept ?_
  intro point decoded
  rw [taken_eq, List.append_nil]
  exact of_decode2 (eq_ok_of_mapError_eq_ok decoded)

theorem relates_publicKey (index : Nat) :
    Relates (fun taken key => key.written = taken ∧ key.normalized = key ∧
      (verify = true → key.Regular)) (publicKey verify index) := by
  refine .bind (relates_part 384 _) fun taken bytes ⟨taken_eq, _⟩ => .ofExcept ?_
  intro key decoded
  rw [taken_eq, List.append_nil]
  exact PublicKey.of_decode decoded

theorem relates_query (name : String) :
    Relates (fun taken points =>
        Bytes.ofNatBE 4 points.length ++ points.flatMap written1 = taken ∧
          points.length < UInt32.size ∧
          ∀ point ∈ points, point.normalized = point ∧ (verify = true → Regular1 point))
      (query verify name) := by
  refine .bind (relates_word _) fun counter count ⟨counter_eq, small⟩ => ?_
  refine (Relates.items (fun _ => relates_point1 verify _) count 0).imp ?_
  rintro taken points ⟨taken_eq, counted, all⟩
  subst counted
  exact ⟨by rw [counter_eq, taken_eq], small, all⟩

end Relates

/-- The error tells that the bytes have ended before a part did. -/
def FormatError.IsTruncation (error : FormatError) : Prop := ∃ label, error = .truncated label

section ReadsParts

variable {verify : Bool}

theorem readsParts_part (count : Nat) (label : String) :
    (part count label).ReadsParts FormatError.IsTruncation :=
  readsParts_take count ⟨label, rfl⟩

theorem readsParts_word (label : String) : (word label).ReadsParts FormatError.IsTruncation :=
  (readsParts_part 4 label).bind fun _ => readsParts_pure _

theorem readsParts_point1 (label : String) :
    (point1 verify label).ReadsParts FormatError.IsTruncation :=
  (readsParts_part 64 label).bind fun _ => readsParts_ofExcept _

theorem readsParts_point2 (label : String) :
    (point2 verify label).ReadsParts FormatError.IsTruncation :=
  (readsParts_part 128 label).bind fun _ => readsParts_ofExcept _

theorem readsParts_query (name : String) :
    (query verify name).ReadsParts FormatError.IsTruncation :=
  (readsParts_word _).bind fun count => readsParts_items (fun _ => readsParts_point1 _) 0 count

theorem readsParts_publicKey (index : Nat) :
    (publicKey verify index).ReadsParts FormatError.IsTruncation :=
  (readsParts_part 384 _).bind fun _ => readsParts_ofExcept _

theorem readsParts_circuitHash : circuitHash.ReadsParts FormatError.IsTruncation := by
  refine (readsParts_part 64 _).bind fun bytes => ?_
  cases Digest.ofBytes? 64 bytes with
  | none => exact readsParts_ofExcept _
  | some digest => exact readsParts_pure digest

end ReadsParts

/-- After the last key the decoder looks for the end of the file, and reads nothing after that. -/
theorem closes_decoder (verify : Bool) :
    (decoder verify).Closes FormatError.IsTruncation .trailing := by
  refine (readsParts_part 16 _).bind_closes fun _ => (readsParts_ofExcept _).bind_closes fun _ => ?_
  refine (readsParts_word _).bind_closes fun _ => (readsParts_ofExcept _).bind_closes fun _ => ?_
  refine readsParts_circuitHash.bind_closes fun _ => (readsParts_point1 _).bind_closes fun _ => ?_
  refine (readsParts_point2 _).bind_closes fun _ => (readsParts_query _).bind_closes fun _ => ?_
  refine (readsParts_query _).bind_closes fun _ => (readsParts_word _).bind_closes fun count => ?_
  refine (readsParts_items readsParts_publicKey 0 count).bind_closes fun contributions => ?_
  refine closes_atEnd_bind rfl ?_
  cases verify with
  | false => exact ⟨_, rfl⟩
  | true => exact ⟨_, ofExcept_bind_pure _ _⟩

namespace Parameters

variable {parameters : Parameters}

theorem map_eq_self {α : Type} {change : α → α} {values : List α}
    (each : ∀ value ∈ values, change value = value) : values.map change = values :=
  (List.map_congr_left each).trans (List.map_id values)

/-- What is true of parameters whose parts have been read one by one. -/
structure PartsRead (verify : Bool) (parameters : Parameters) : Prop where
  delta1 : parameters.delta1.normalized = parameters.delta1 ∧
    (verify = true → Regular1 parameters.delta1)
  delta2 : parameters.delta2.normalized = parameters.delta2 ∧
    (verify = true → Regular2 parameters.delta2)
  h : ∀ point ∈ parameters.h, point.normalized = point ∧ (verify = true → Regular1 point)
  l : ∀ point ∈ parameters.l, point.normalized = point ∧ (verify = true → Regular1 point)
  keys : ∀ key ∈ parameters.contributions,
    key.normalized = key ∧ (verify = true → key.Regular)
  h_small : parameters.h.length < UInt32.size
  l_small : parameters.l.length < UInt32.size
  keys_small : parameters.contributions.length < UInt32.size

namespace PartsRead

variable {verify : Bool}

theorem affine (read : PartsRead verify parameters) : parameters.normalized = parameters := by
  have h_eq : parameters.h.map Point.normalized = parameters.h :=
    map_eq_self fun point member => (read.h point member).1
  have l_eq : parameters.l.map Point.normalized = parameters.l :=
    map_eq_self fun point member => (read.l point member).1
  have keys_eq : parameters.contributions.map PublicKey.normalized = parameters.contributions :=
    map_eq_self fun key member => (read.keys key member).1
  rw [normalized, read.delta1.1, read.delta2.1, h_eq, l_eq, keys_eq]

theorem regular (read : PartsRead verify parameters) (verified : verify = true) :
    parameters.Regular where
  delta1 := read.delta1.2 verified
  delta2 := read.delta2.2 verified
  h point member := (read.h point member).2 verified
  l point member := (read.l point member).2 verified
  keys key member := (read.keys key member).2 verified

/-- Whatever has been read in full comes from its own written form. -/
theorem readFrom (read : PartsRead verify parameters)
    (checked : verify = true → parameters.check = .ok ()) :
    ReadFrom verify parameters.writtenParts.flatten parameters := by
  have writable : parameters.Writable :=
    read.affine ▸ writable_normalized read.h_small read.l_small read.keys_small
  exact
    { written := rfl
      affine := read.affine
      writable := writable
      sound := fun verified => writable.sound_iff.mpr ⟨read.regular verified, checked verified⟩ }

end PartsRead

theorem relates_decoder (verify : Bool) : Relates (ReadFrom verify) (decoder verify) := by
  refine .bind (relates_part 16 _) fun _ found ⟨found_eq, _⟩ => ?_
  refine .bind (relates_require _ _) fun _ _ ⟨required_eq, isMagic⟩ => ?_
  refine .bind (relates_word _) fun _ version ⟨version_eq, _⟩ => ?_
  refine .bind (relates_require _ _) fun _ _ ⟨required_eq', isVersion⟩ => ?_
  refine .bind relates_circuitHash fun _ circuitHash circuitHash_eq => ?_
  refine .bind (relates_point1 verify _) fun _ delta1 ⟨delta1_eq, delta1_read⟩ => ?_
  refine .bind (relates_point2 verify _) fun _ delta2 ⟨delta2_eq, delta2_read⟩ => ?_
  refine .bind (relates_query verify _) fun _ h ⟨h_eq, h_small, h_read⟩ => ?_
  refine .bind (relates_query verify _) fun _ l ⟨l_eq, l_small, l_read⟩ => ?_
  refine .bind (relates_word _) fun _ count ⟨count_eq, count_small⟩ => ?_
  refine .bind (Relates.items (relates_publicKey verify) count 0)
    fun _ contributions ⟨contributions_eq, counted, keys_read⟩ => ?_
  refine .bind .atEnd fun _ _ ended_eq => ?_
  refine .bind (relates_require _ _) fun _ _ ⟨required_eq'', _⟩ => ?_
  obtain rfl : found = magic := eq_of_beq isMagic
  obtain rfl : version = formatVersion := eq_of_beq isVersion
  subst_vars
  let parameters : Parameters := ⟨circuitHash, delta1, delta2, h, l, contributions⟩
  have read : PartsRead verify parameters :=
    ⟨delta1_read, delta2_read, h_read, l_read, keys_read, h_small, l_small, count_small⟩
  have finish (checked : verify = true → parameters.check = .ok ()) := read.readFrom checked
  rw [flatten_writtenParts] at finish
  cases verify with
  | false => exact .pure (by simpa [parameters] using finish)
  | true =>
      have check_relates : Relates (fun taken _ => taken = [] ∧ parameters.check = .ok ())
          (Decoder.ofExcept parameters.check) := .ofExcept fun _ checked => ⟨rfl, checked⟩
      refine .bind check_relates fun _ _ ⟨check_eq, checked⟩ => .pure ?_
      subst check_eq
      simpa [parameters] using finish fun _ => checked

/-- What is read from bytes is parsed from all of them. -/
theorem parse_of_ofBytes {verify : Bool} {bytes : Bytes}
    (read : ofBytes verify bytes = .ok parameters) :
    (decoder verify).parse bytes = .ok (parameters, []) := by
  obtain ⟨⟨found, rest⟩, parsed, rfl⟩ := exists_of_map_eq_ok read
  obtain rfl := (closes_decoder verify).rest_eq parsed
  exact parsed

theorem readFrom_of_ofBytes {verify : Bool} {bytes : Bytes}
    (read : ofBytes verify bytes = .ok parameters) : ReadFrom verify bytes parameters := by
  obtain ⟨taken, split, readFrom⟩ :=
    relates_decoder verify bytes parameters [] (parse_of_ofBytes read)
  rw [List.append_nil] at split
  rwa [split]

/-- Whatever is read with all checks is sound. -/
theorem sound_of_ofBytes {bytes : Bytes} (read : ofBytes true bytes = .ok parameters) :
    parameters.Sound :=
  (readFrom_of_ofBytes read).sound rfl

end Parameters
end Phase2
end BeaconCeremony

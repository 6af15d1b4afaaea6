import BeaconCeremony.Proofs.Phase2.Format

/-!
# Files and parameters correspond

A file that can be read is the written form of what has been read from it, so a file is the only one
for its parameters.  Parameters that can be written are read back as the same parameters, and with
all checks exactly if they would have passed these checks before.
-/

namespace BeaconCeremony
namespace Phase2

open Curve

/-- Two keys with the same points, in whatever coordinates, and the same transcript hash. -/
structure PublicKey.Same (left right : PublicKey) : Prop where
  deltaAfter : left.deltaAfter.same right.deltaAfter = true
  s : left.s.same right.s = true
  sDelta : left.sDelta.same right.sDelta = true
  rDelta : left.rDelta.same right.rDelta = true
  transcript : left.transcript = right.transcript

theorem PublicKey.Writable.same {key : PublicKey} (writable : key.Writable) :
    key.normalized.Same key where
  deltaAfter := BaseField.interpretation.normalized_same writable.deltaAfter
  s := BaseField.interpretation.normalized_same writable.s
  sDelta := BaseField.interpretation.normalized_same writable.sDelta
  rDelta := QuadraticField.interpretation.normalized_same writable.rDelta
  transcript := rfl

namespace Parameters

/-- Two parameters with the same points, in whatever coordinates, at the same places, and the same
hashes. -/
structure Same (left right : Parameters) : Prop where
  circuitHash : left.circuitHash = right.circuitHash
  delta1 : left.delta1.same right.delta1 = true
  delta2 : left.delta2.same right.delta2 = true
  h : List.Forall₂ (fun left right => Point.same left right = true) left.h right.h
  l : List.Forall₂ (fun left right => Point.same left right = true) left.l right.l
  contributions : List.Forall₂ PublicKey.Same left.contributions right.contributions

variable {parameters : Parameters}

theorem forall₂_map_self {α : Type} {relation : α → α → Prop} {change : α → α} {values : List α}
    (each : ∀ value ∈ values, relation (change value) value) :
    List.Forall₂ relation (values.map change) values := by
  rw [List.forall₂_map_left_iff, List.forall₂_same]
  exact each

theorem Writable.same (writable : parameters.Writable) : parameters.normalized.Same parameters where
  circuitHash := rfl
  delta1 := BaseField.interpretation.normalized_same writable.delta1
  delta2 := QuadraticField.interpretation.normalized_same writable.delta2
  h := forall₂_map_self fun point member =>
    BaseField.interpretation.normalized_same (writable.h point member)
  l := forall₂_map_self fun point member =>
    BaseField.interpretation.normalized_same (writable.l point member)
  contributions := forall₂_map_self fun key member => (writable.keys key member).same

/-- A state with one key, none of whose points lies on its curve. -/
def offCurve : Parameters where
  circuitHash := ⟨List.replicate 64 7, List.length_replicate⟩
  delta1 := ⟨3, 5, 2⟩
  delta2 := ⟨⟨1, 2⟩, ⟨3, 4⟩, ⟨5, 6⟩⟩
  h := [⟨3, 5, 2⟩, ⟨6, 10, 4⟩]
  l := []
  contributions :=
    [{ deltaAfter := ⟨3, 5, 2⟩
       s := ⟨1, 1, 1⟩
       sDelta := ⟨0, 0, 9⟩
       rDelta := ⟨⟨0, 1⟩, ⟨1, 0⟩, ⟨0, 3⟩⟩
       transcript := ⟨List.replicate 64 9, List.length_replicate⟩ }]

theorem writable_offCurve : offCurve.Writable where
  delta1 := by decide
  delta2 := by decide
  h := by decide
  l := by decide
  keys := List.forall_mem_singleton.mpr
    { deltaAfter := by decide, s := by decide, sDelta := by decide, rDelta := by decide }
  h_small := by decide
  l_small := by decide
  keys_small := by decide

/-- Parameters that have been read, with or without checks, are written as the bytes they come
from, and come from no other bytes. -/
theorem toBytes_of_ofBytes {verify : Bool} {bytes : Bytes}
    (read : ofBytes verify bytes = .ok parameters) :
    parameters.toBytes = .ok bytes ∧
      ∀ (verify' : Bool) (other : Bytes), ofBytes verify' other = .ok parameters →
        other = bytes := by
  have readFrom := readFrom_of_ofBytes read
  have written : parameters.toBytes = .ok bytes := by
    rw [readFrom.writable.toBytes_eq, readFrom.written]
  refine ⟨written, ?_⟩
  intro verify' other other_read
  rw [← (readFrom_of_ofBytes other_read).written, readFrom.written]

theorem toBytes_of_ofBytes_offCurve :
    offCurve.normalized.toBytes = .ok offCurve.writtenParts.flatten ∧
      ∀ (verify : Bool) (other : Bytes), ofBytes verify other = .ok offCurve.normalized →
        other = offCurve.writtenParts.flatten :=
  have read : ofBytes false offCurve.writtenParts.flatten = .ok offCurve.normalized := by
    decide +kernel
  toBytes_of_ofBytes read

/-- Parameters that can be written are read back as the same parameters.  They are read back with
all checks exactly if their points belong to their groups and their keys pass the check, whatever
the coordinates in which the points are given. -/
theorem ofBytes_toBytes (writable : parameters.Writable) :
    ∃ bytes reread, parameters.toBytes = .ok bytes ∧ ofBytes false bytes = .ok reread ∧
      reread.Same parameters ∧
      ∀ checked, ofBytes true bytes = .ok checked ↔
        checked = reread ∧ parameters.Regular ∧ parameters.check = .ok () := by
  have plain : ofBytes false parameters.writtenParts.flatten = .ok parameters.normalized :=
    writable.ofBytes_eq nofun
  refine ⟨_, parameters.normalized, writable.toBytes_eq, plain, writable.same, ?_⟩
  intro checked
  constructor
  · intro read
    have readFrom := readFrom_of_ofBytes read
    -- Without checks the bytes are read as only one state, which is that of both.
    have reread : ofBytes false checked.writtenParts.flatten = .ok checked.normalized :=
      readFrom.writable.ofBytes_eq nofun
    rw [readFrom.written, readFrom.affine, plain] at reread
    obtain rfl := Except.ok.inj reread
    refine ⟨rfl, ?_⟩
    rw [← writable.sound_iff, ← writable.sound_normalized_iff]
    exact readFrom.sound rfl
  · rintro ⟨rfl, regular, passed⟩
    exact writable.ofBytes_eq fun _ => writable.sound_iff.mpr ⟨regular, passed⟩

theorem ofBytes_toBytes_offCurve :
    ∃ bytes reread, offCurve.toBytes = .ok bytes ∧ ofBytes false bytes = .ok reread ∧
      reread.Same offCurve ∧
      ∀ checked, ofBytes true bytes = .ok checked ↔
        checked = reread ∧ offCurve.Regular ∧ offCurve.check = .ok () :=
  ofBytes_toBytes writable_offCurve

end Parameters
end Phase2
end BeaconCeremony

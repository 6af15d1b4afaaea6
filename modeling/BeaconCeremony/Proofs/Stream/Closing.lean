import BeaconCeremony.Proofs.Stream.Decoder
import Mathlib.Tactic.Common

/-!
# Decoders that close their bytes

A decoder closes its bytes if all it does is to read parts and then to look for the end of the
bytes, once, and to refuse them if they go on.  Such a decoder tells where its bytes end: if they
are cut off it misses a part, and if something follows them it does not find the end.
-/

namespace BeaconCeremony
namespace Decoder

variable {ε α β : Type} {missing : ε → Prop} {trailing : ε}

/-- The decoder reads parts and does not look for the end of the bytes; it reports a part that is
cut off by one of the errors `missing`. -/
def ReadsParts (missing : ε → Prop) : Decoder ε α → Prop
  | .done _ => True
  | .exact _ error next => missing error ∧ ∀ bytes, (next bytes).ReadsParts missing
  | .atEnd _ => False

/-- The decoder fails, or reads parts and then looks for the end of the bytes, which it needs to
find; what comes after that does not read any more. -/
def Closes (missing : ε → Prop) (trailing : ε) : Decoder ε α → Prop
  | .done result => ∃ error, result = .error error
  | .exact _ error next => missing error ∧ ∀ bytes, (next bytes).Closes missing trailing
  | .atEnd next => next false = .done (.error trailing) ∧ ∃ result, next true = .done result

theorem readsParts_pure (value : α) : (pure value : Decoder ε α).ReadsParts missing := True.intro

theorem readsParts_ofExcept (result : Except ε α) : (ofExcept result).ReadsParts missing :=
  True.intro

theorem readsParts_take (count : Nat) {error : ε} (reported : missing error) :
    (take count error).ReadsParts missing :=
  ⟨reported, fun _ => True.intro⟩

theorem ReadsParts.bind {decoder : Decoder ε α} {next : α → Decoder ε β}
    (first : decoder.ReadsParts missing) (second : ∀ value, (next value).ReadsParts missing) :
    (decoder >>= next).ReadsParts missing := by
  change (decoder.andThen next).ReadsParts missing
  induction decoder with
  | done result =>
      cases result with
      | error error => exact True.intro
      | ok value => exact second value
  | exact count error continuation ih => exact ⟨first.1, fun bytes => ih bytes (first.2 bytes)⟩
  | atEnd continuation => exact first.elim

theorem readsParts_items {item : Nat → Decoder ε α}
    (each : ∀ index, (item index).ReadsParts missing) (first count : Nat) :
    (items item first count).ReadsParts missing := by
  induction count generalizing first with
  | zero => exact readsParts_pure _
  | succ count ih => exact (each first).bind fun _ => (ih _).bind fun _ => readsParts_pure _

/-- Whatever reads parts before a decoder that closes the bytes leaves it to close them. -/
theorem ReadsParts.bind_closes {decoder : Decoder ε α} {next : α → Decoder ε β}
    (first : decoder.ReadsParts missing)
    (second : ∀ value, (next value).Closes missing trailing) :
    (decoder >>= next).Closes missing trailing := by
  change (decoder.andThen next).Closes missing trailing
  induction decoder with
  | done result =>
      cases result with
      | error error => exact ⟨error, rfl⟩
      | ok value => exact second value
  | exact count error continuation ih => exact ⟨first.1, fun bytes => ih bytes (first.2 bytes)⟩
  | atEnd continuation => exact first.elim

theorem closes_atEnd_bind {next : Bool → Decoder ε α}
    (refuses : next false = .done (.error trailing))
    (finishes : ∃ result, next true = .done result) :
    ((atEnd fun ended => pure ended) >>= next).Closes missing trailing :=
  ⟨refuses, finishes⟩

theorem ofExcept_bind_pure (result : Except ε α) (value : β) :
    (ofExcept result >>= fun _ => pure value) = .done (result.map fun _ => value) := by
  cases result with
  | error error => rfl
  | ok found => rfl

/-- Nothing is left of bytes of which something has been made. -/
theorem Closes.rest_eq {decoder : Decoder ε α} (closes : decoder.Closes missing trailing)
    {bytes : Bytes} {value : α} {rest : Bytes}
    (parsed : decoder.parse bytes = .ok (value, rest)) : rest = [] := by
  induction decoder generalizing bytes with
  | done result =>
      obtain ⟨error, rfl⟩ := closes
      contradiction
  | exact count error next ih =>
      rw [parse] at parsed
      split at parsed
      · contradiction
      · exact ih _ (closes.2 _) parsed
  | atEnd next =>
      obtain ⟨refuses, result, finishes⟩ := closes
      cases bytes with
      | cons byte bytes =>
          rw [parse, List.isEmpty_cons, refuses] at parsed
          contradiction
      | nil =>
          rw [parse, List.isEmpty_nil, finishes] at parsed
          cases result with
          | error error => contradiction
          | ok found => exact (Prod.mk.inj (Except.ok.inj parsed)).2.symm

/-- Of bytes that are cut off a part is missing. -/
theorem Closes.parse_front {decoder : Decoder ε α} (closes : decoder.Closes missing trailing)
    {front back : Bytes} {value : α} {rest : Bytes}
    (parsed : decoder.parse (front ++ back) = .ok (value, rest)) (back_ne : back ≠ []) :
    ∃ error, missing error ∧ decoder.parse front = .error error := by
  induction decoder generalizing front with
  | done result =>
      obtain ⟨error, rfl⟩ := closes
      contradiction
  | exact count error next ih =>
      rw [parse] at parsed
      split at parsed
      · contradiction
      · rw [parse]
        split
        · exact ⟨error, closes.1, rfl⟩
        · rename_i enough
          have count_le : count ≤ front.length := Nat.le_of_not_lt enough
          rw [List.take_append_of_le_length count_le, List.drop_append_of_le_length count_le]
            at parsed
          exact ih _ (closes.2 _) parsed
  | atEnd next =>
      have goes_on : (front ++ back).isEmpty = false :=
        List.isEmpty_eq_false_iff.mpr (List.append_ne_nil_of_right_ne_nil front back_ne)
      rw [parse, goes_on, closes.1] at parsed
      contradiction

/-- Bytes that go on are refused where they should end. -/
theorem Closes.parse_append {decoder : Decoder ε α} (closes : decoder.Closes missing trailing)
    {bytes more : Bytes} {value : α} {rest : Bytes}
    (parsed : decoder.parse bytes = .ok (value, rest)) (more_ne : more ≠ []) :
    decoder.parse (bytes ++ more) = .error trailing := by
  induction decoder generalizing bytes with
  | done result =>
      obtain ⟨error, rfl⟩ := closes
      contradiction
  | exact count error next ih =>
      rw [parse] at parsed
      split at parsed
      · contradiction
      · rename_i enough
        have count_le : count ≤ bytes.length := Nat.le_of_not_lt enough
        have still_enough : ¬(bytes ++ more).length < count := by
          rw [List.length_append]
          omega
        rw [parse, if_neg still_enough, List.take_append_of_le_length count_le,
          List.drop_append_of_le_length count_le]
        exact ih _ (closes.2 _) parsed
  | atEnd next =>
      have goes_on : (bytes ++ more).isEmpty = false :=
        List.isEmpty_eq_false_iff.mpr (List.append_ne_nil_of_right_ne_nil bytes more_ne)
      rw [parse, goes_on, closes.1]
      rfl

end Decoder
end BeaconCeremony

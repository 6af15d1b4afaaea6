import BeaconCeremony.Bytes.Basic

/-!
# UTF-8

The strict reading of UTF-8, which refuses overlong forms, surrogates and numbers beyond the last
code point.  A refusal names the first faulty sequence and its range.
-/

namespace BeaconCeremony
namespace Utf8

/-- What is wrong with a sequence of bytes. -/
inductive Fault
  | invalidStart
  | unexpectedEnd
  | invalidContinuation
deriving DecidableEq

/-- The text of a fault. -/
def Fault.reason : Fault → String
  | .invalidStart => "invalid start byte"
  | .unexpectedEnd => "unexpected end of data"
  | .invalidContinuation => "invalid continuation byte"

/-- The first fault of a byte string. -/
structure DecodeError where
  /-- What is wrong. -/
  fault : Fault
  /-- Position of the first byte of the faulty sequence. -/
  start : Nat
  /-- Position after the last byte that belongs to it. -/
  stop : Nat
  /-- The first byte of the sequence. -/
  byte : UInt8
deriving DecidableEq

/-- The least and greatest second byte after a leading byte of a sequence of `length` bytes. -/
def secondRange (lead : Nat) : Nat × Nat :=
  if lead = 0xe0 then (0xa0, 0xbf)
  else if lead = 0xed then (0x80, 0x9f)
  else if lead = 0xf0 then (0x90, 0xbf)
  else if lead = 0xf4 then (0x80, 0x8f)
  else (0x80, 0xbf)

/-- The number of bytes that follow a leading byte, if it is one. -/
def following? (lead : Nat) : Option Nat :=
  if lead < 0x80 then some 0
  else if 0xc2 ≤ lead ∧ lead ≤ 0xdf then some 1
  else if 0xe0 ≤ lead ∧ lead ≤ 0xef then some 2
  else if 0xf0 ≤ lead ∧ lead ≤ 0xf4 then some 3
  else none

/-- Reads `count` bytes that continue a sequence, the next of them in the given range; the answer
is the code point and the number of bytes read, or the fault and the bytes that still fit. -/
def continueWith (range : Nat × Nat) (value : Nat) :
    Nat → Nat → Bytes → Except (Fault × Nat) (Nat × Nat)
  | 0, used, _ => .ok (value, used)
  | _ + 1, used, [] => .error (.unexpectedEnd, used)
  | count + 1, used, byte :: rest =>
    if range.1 ≤ byte.toNat ∧ byte.toNat ≤ range.2 then
      continueWith (0x80, 0xbf) (value * 64 + (byte.toNat - 0x80)) count (used + 1) rest
    else .error (.invalidContinuation, used)

/-- The bits of the code point that a leading byte carries. -/
def leadValue (lead following : Nat) : Nat :=
  if following = 0 then lead
  else if following = 1 then lead - 0xc0
  else if following = 2 then lead - 0xe0
  else lead - 0xf0

/-- The characters of the bytes from `position` on. -/
def decodeFrom (position : Nat) (bytes : Bytes) : Except DecodeError (List Char) :=
  match bytes with
  | [] => .ok []
  | lead :: rest =>
    match following? lead.toNat with
    | none => .error ⟨.invalidStart, position, position + 1, lead⟩
    | some count =>
      match continueWith (secondRange lead.toNat) (leadValue lead.toNat count) count 0 rest with
      | .error (fault, used) => .error ⟨fault, position, position + 1 + used, lead⟩
      | .ok (value, _) =>
        (decodeFrom (position + 1 + count) (rest.drop count)).map (Char.ofNat value :: ·)
termination_by bytes.length
decreasing_by simp only [List.length_drop, List.length_cons]; omega

/-- The text that the bytes encode. -/
def decode (bytes : Bytes) : Except DecodeError String :=
  (decodeFrom 0 bytes).map String.ofList

/-- The bytes that encode a text. -/
def encode (text : String) : Bytes := text.toUTF8.toList

end Utf8
end BeaconCeremony

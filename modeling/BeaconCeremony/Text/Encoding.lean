import BeaconCeremony.Text.Quoted
import BeaconCeremony.Text.Utf8

/-!
# Halves of surrogate pairs in UTF-8

Halves have no form in UTF-8.  Where a text with halves is to be written, it is refused, or they
stand for something else: in paths, some of them stand for single bytes, and in complaints every
half is shown by its escape.
-/

namespace BeaconCeremony

/-- The byte that a half stands for in a path. -/
def Half.pathByte? (half : Half) : Option UInt8 :=
  if 0xdc80 ≤ half.point ∧ half.point ≤ 0xdcff then some (UInt8.ofNat (half.point - 0xdc00))
  else none

namespace RawText

/-- Halves in a row that cannot be written. -/
structure EncodeError where
  /-- The first of them. -/
  half : Half
  /-- Its position in the text. -/
  start : Nat
  /-- The position after the last of them. -/
  stop : Nat
deriving DecidableEq

/-- The text of the refusal to write halves. -/
def EncodeError.message (error : EncodeError) : String :=
  "'utf-8' codec can't encode character" ++
    (if error.stop = error.start + 1 then
      " '" ++ String.ofList (Text.numericEscape error.half.point) ++
        s!"' in position {error.start}"
    else s!"s in position {error.start}-{error.stop - 1}") ++
    ": surrogates not allowed"

/-- The number of halves in a row at the start. -/
def rowLength : List (Half × String) → Nat
  | [] => 0
  | (_, part) :: rest => if part.isEmpty then rowLength rest + 1 else 1

/-- The refusal of the first halves from a position on that do not stand for bytes. -/
def refusal? (byte? : Half → Option UInt8) (position : Nat) :
    List (Half × String) → Option EncodeError
  | [] => none
  | (half, part) :: rest =>
    if (byte? half).isSome then refusal? byte? (position + 1 + part.length) rest
    else some ⟨half, position, position + rowLength ((half, part) :: rest)⟩

/-- The string that a text is, if it can be written. -/
def plain (text : RawText) : Except EncodeError String :=
  match refusal? (fun _ => none) text.start.length text.rest with
  | some error => .error error
  | none => .ok text.start

/-- The bytes of a path. -/
def pathBytes (path : RawText) : Except EncodeError Bytes :=
  match refusal? Half.pathByte? path.start.length path.rest with
  | some error => .error error
  | none =>
    .ok (Utf8.encode path.start ++ path.rest.flatMap fun (half, part) =>
      half.pathByte?.toList ++ Utf8.encode part)

/-- A text with escapes in the places of halves. -/
def escaped (text : RawText) : String :=
  text.rest.foldl (fun done (half, part) =>
    done ++ String.ofList (Text.numericEscape half.point) ++ part) text.start

end RawText
end BeaconCeremony

/-!
# Control sequences of terminals

A text that is shown on a terminal may have control sequences in it: an escape, a bracket,
parameters and a letter.  Elsewhere a text is shown without them.
-/

namespace BeaconCeremony
namespace Text

/-- Whether a character can stand among the parameters of a control sequence. -/
def isControlParameter (character : Char) : Bool :=
  character == ';' || character == '?' || character.isDigit

/-- The length of the control sequence that some characters start with. -/
def controlLength? : List Char → Option Nat
  | '\x1b' :: '[' :: rest =>
    let parameters := rest.takeWhile isControlParameter
    if (rest.drop parameters.length).head?.any Char.isAlpha then some (parameters.length + 3)
    else none
  | _ => none

/-- The characters after the first `skipped` ones without the control sequences among them. -/
def dropControls : Nat → List Char → List Char
  | _, [] => []
  | skipped + 1, _ :: rest => dropControls skipped rest
  | 0, character :: rest =>
    match controlLength? (character :: rest) with
    | some length => dropControls (length - 1) rest
    | none => character :: dropControls 0 rest

/-- A text without control sequences. -/
def withoutControls (text : String) : String := String.ofList (dropControls 0 text.toList)

end Text
end BeaconCeremony

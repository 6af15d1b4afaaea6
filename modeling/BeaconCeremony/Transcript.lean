import BeaconCeremony.Error
import BeaconCeremony.Report
import BeaconCeremony.Text.Blank
import BeaconCeremony.Text.DecimalDigit

/-!
# Transcripts

A transcript is the report of an earlier run.  Its checkpoint lines and the line with the final
state are read; all other lines are passed over, so that a console log can be used as it is.
-/

namespace BeaconCeremony
namespace Transcript

/-- Why a transcript cannot be read. -/
inductive Error
  | malformed (lineNumber : Nat) (line reason : String)
  | longIndex (digits : Nat)
deriving DecidableEq

/-- The failure to report. -/
def Error.failure : Error → Failure
  | .malformed lineNumber line reason => .ceremony (.transcriptFormat lineNumber line reason)
  | .longIndex digits => .value (Text.tooManyDigits digits)

/-- The state written by 64 hexadecimal digits. -/
def state? (characters : List Char) : Option (Digest 32) :=
  if characters.length = 64 then (Hex.decodeChars? characters).bind (Digest.ofBytes? 32) else none

/-- The digits and the single word of a line made of digits, a colon and at most one word, with
blanks before the digits and around the word. -/
def indexedWord? (line : List Char) : Option (List Char × List Char) :=
  let line := line.dropWhile Text.isBlank
  let digits := line.takeWhile Text.isDigit
  match digits, line.dropWhile Text.isDigit with
  | _ :: _, ':' :: rest =>
    let rest := rest.dropWhile Text.isBlank
    let word := rest.takeWhile (!Text.isBlank ·)
    if (rest.dropWhile (!Text.isBlank ·)).all Text.isBlank then some (digits, word) else none
  | _, _ => none

/-- A line without the line feeds at its end. -/
def withoutFeeds (line : String) : String :=
  String.ofList (line.toList.reverse.dropWhile (· == '\n')).reverse

/-- The checkpoint of a line, or nothing if the line is not about one. -/
def checkpoint? (lineNumber : Nat) (line : String) : Except Error (Option Checkpoint) :=
  match indexedWord? line.toList with
  | none => .ok none
  | some (digits, word) =>
    match state? word with
    | none =>
      .error (.malformed lineNumber (withoutFeeds line) ErrorKind.malformedCheckpoint)
    | some state =>
      if Text.maxDigits < digits.length then .error (.longIndex digits.length)
      else .ok (some ⟨(Text.decimal? digits).getD 0, state⟩)

/-- The checkpoints of the lines from the given number on. -/
def checkpointsFrom (lineNumber : Nat) : List String → Except Error (List Checkpoint)
  | [] => .ok []
  | line :: rest => do
    let checkpoint? ← checkpoint? lineNumber line
    let more ← checkpointsFrom (lineNumber + 1) rest
    return checkpoint?.toList ++ more

/-- The checkpoints of a transcript, in the order of its lines. -/
def checkpoints (lines : List String) : Except Error (List Checkpoint) := checkpointsFrom 1 lines

/-- The final state given by the first line about one, from the given number on. -/
def finalFrom (lineNumber : Nat) : List String → Except Error (Option (Digest 32))
  | [] => .ok none
  | line :: rest =>
    let trimmed := Text.trim line.toList
    let label := Report.finalLabel.toList
    if label.isPrefixOf trimmed then
      match state? (Text.trim (trimmed.drop label.length)) with
      | some state => .ok (some state)
      | none => .error (.malformed lineNumber (withoutFeeds line) "malformed final hash")
    else finalFrom (lineNumber + 1) rest

/-- The final state of a transcript, if it has one. -/
def final? (lines : List String) : Except Error (Option (Digest 32)) := finalFrom 1 lines

end Transcript
end BeaconCeremony

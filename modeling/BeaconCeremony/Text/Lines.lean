/-!
# Lines

Where a text is cut into lines, and the single line break that a text file is read with.
-/

namespace BeaconCeremony
namespace Text

/-- Whether a character ends a line. -/
def isLineBreak (character : Char) : Bool :=
  let point := character.toNat
  (0x0a ≤ point && point ≤ 0x0d) || (0x1c ≤ point && point ≤ 0x1e) || point == 0x85 ||
    point == 0x2028 || point == 0x2029

/-- The lines of a text without their ends, where `line` holds the characters of the open line in
reverse.  A carriage return and a line feed are one end, and an end at the end of the text opens
no further line. -/
def linesFrom (line : List Char) : List Char → List (List Char)
  | [] => if line.isEmpty then [] else [line.reverse]
  | '\r' :: '\n' :: rest => line.reverse :: linesFrom [] rest
  | character :: rest =>
    if isLineBreak character then line.reverse :: linesFrom [] rest
    else linesFrom (character :: line) rest

/-- The lines of a text, without their ends. -/
def splitLines (text : String) : List String :=
  (linesFrom [] text.toList).map String.ofList

/-- The characters with every carriage return, alone or before a line feed, read as a line
feed. -/
def unifyLineBreaks : List Char → List Char
  | [] => []
  | '\r' :: '\n' :: rest => '\n' :: unifyLineBreaks rest
  | character :: rest =>
    (if character = '\r' then '\n' else character) :: unifyLineBreaks rest

end Text
end BeaconCeremony

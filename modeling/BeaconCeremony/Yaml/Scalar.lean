import BeaconCeremony.Bytes.Hex
import BeaconCeremony.Yaml.Cursor

/-!
# The scalars of a YAML document

Scalars are written plainly, in quotes or as blocks.  In all of them lines are folded: a single line
break counts as a space, and of several the first is left out.  Only literal blocks keep their
lines.
-/

namespace BeaconCeremony
namespace Yaml

/-! ## Blocks -/

/-- The header of a block scalar. -/
structure BlockHeader where
  /-- Whether the line breaks at the end are all kept or all left out; one is kept by default. -/
  keepsEnd? : Option Bool := none
  /-- By how much the block is indented, if that is given. -/
  increment? : Option Nat := none

/-- Reads an indentation indicator, if one is next. -/
def blockIncrement (cursor : Cursor) : Except ReadError (Option Nat × Cursor) :=
  match cursor.peek with
  | some digit =>
    if digit == '0' then stop .badBlockHeader
    else if digit.isDigit then .ok (some (digit.toNat - '0'.toNat), cursor.step)
    else .ok (none, cursor)
  | none => .ok (none, cursor)

/-- Reads a chomping indicator, if one is next. -/
def blockChomping (cursor : Cursor) : Option Bool × Cursor :=
  match cursor.peek with
  | some '+' => (some true, cursor.step)
  | some '-' => (some false, cursor.step)
  | _ => (none, cursor)

/-- Reads the two indicators of a block scalar, in either order, and the rest of their line. -/
def blockHeader (cursor : Cursor) : Except ReadError (BlockHeader × Cursor) := do
  let (before?, cursor) := blockChomping cursor
  let (increment?, cursor) ← blockIncrement cursor
  let (keepsEnd?, cursor) :=
    if before?.isNone && increment?.isSome then blockChomping cursor else (before?, cursor)
  if endsWord cursor.peek then
    return (⟨keepsEnd?, increment?⟩, ← cursor.ignoredLine .badBlockHeader)
  else stop .badBlockHeader

/-- Reads empty lines at the start of a block; the greatest column in front of a line break or of
the first character is the indentation of the block. -/
def blockIndentation : Nat → Nat → List Char → Cursor → Nat × List Char × Cursor
  | 0, deepest, breaks, cursor => (deepest, breaks, cursor)
  | fuel + 1, deepest, breaks, cursor =>
    match cursor.peek with
    | some ' ' => blockIndentation fuel (max deepest cursor.step.column) breaks cursor.step
    | some character =>
      if isBreak character then
        let (lineBreak, cursor) := cursor.lineBreak
        blockIndentation fuel deepest (breaks ++ lineBreak) cursor
      else (deepest, breaks, cursor)
    | none => (deepest, breaks, cursor)

/-- The place after at most so many spaces that the column is the given one. -/
def skipIndent (indent : Nat) (cursor : Cursor) : Cursor :=
  cursor.advance (((cursor.left.takeWhile (· == ' ')).length).min (indent - cursor.column))

/-- Reads empty lines inside of a block with the given indentation. -/
def blockBreaks (indent : Nat) : Nat → List Char → Cursor → List Char × Cursor
  | 0, breaks, cursor => (breaks, cursor)
  | fuel + 1, breaks, cursor =>
    let cursor := skipIndent indent cursor
    let (lineBreak, after) := cursor.lineBreak
    if lineBreak.isEmpty then (breaks, cursor)
    else blockBreaks indent fuel (breaks ++ lineBreak) after

/-- What has been read of a block. -/
structure BlockText where
  /-- The lines without the breaks after the last of them. -/
  body : List Char
  /-- The break of the last line. -/
  lastBreak : List Char
  /-- The breaks of the empty lines after it. -/
  breaks : List Char

/-- Whether a line can be folded: it starts with neither a space nor a tab. -/
def startsFolded (next : Option Char) : Bool := next != some ' ' && next != some '\t'

/-- Reads the lines of a block. -/
def blockLines (folded : Bool) (indent : Nat) :
    Nat → List Char → List Char → Cursor → BlockText × Cursor
  | 0, body, breaks, cursor => (⟨body, [], breaks⟩, cursor)
  | fuel + 1, body, breaks, cursor =>
    if cursor.column == indent && !cursor.atEnd then
      let foldable := folded && startsFolded cursor.peek
      let (line, cursor) := cursor.span (!isBreak ·)
      let (lineBreak, cursor) := cursor.lineBreak
      let body := body ++ breaks ++ line
      let (breaks, cursor) := blockBreaks indent (cursor.left.length + 1) [] cursor
      if cursor.column == indent && !cursor.atEnd then
        let joint :=
          if foldable && lineBreak == ['\n'] && startsFolded cursor.peek then
            if breaks.isEmpty then [' '] else []
          else lineBreak
        blockLines folded indent fuel (body ++ joint) breaks cursor
      else (⟨body, lineBreak, breaks⟩, cursor)
    else (⟨body, [], breaks⟩, cursor)

/-- Reads a block scalar from its indicator on, inside of the given indentation. -/
def blockScalar (folded : Bool) (outer : Int) (cursor : Cursor) :
    Except ReadError (String × Cursor) := do
  let (header, cursor) ← blockHeader cursor.step
  let least := max 1 (outer + 1).toNat
  let fuel := cursor.left.length + 1
  let (indent, breaks, cursor) :=
    match header.increment? with
    | none =>
      let (deepest, breaks, cursor) := blockIndentation fuel 0 [] cursor
      (max least deepest, breaks, cursor)
    | some increment =>
      let indent := least + increment - 1
      (indent, blockBreaks indent fuel [] cursor)
  let (text, cursor) := blockLines folded indent fuel [] breaks cursor
  let lastBreak := if header.keepsEnd? == some false then [] else text.lastBreak
  let breaks := if header.keepsEnd? == some true then text.breaks else []
  return (String.ofList (text.body ++ lastBreak ++ breaks), cursor)

/-! ## Quoted scalars -/

/-- The character that a backslash and the given one stand for. -/
def escaped? : Char → Option Char
  | '0' => some '\x00'
  | 'a' => some '\x07'
  | 'b' => some '\x08'
  | 't' => some '\t'
  | '\t' => some '\t'
  | 'n' => some '\n'
  | 'v' => some '\x0b'
  | 'f' => some '\x0c'
  | 'r' => some '\r'
  | 'e' => some '\x1b'
  | ' ' => some ' '
  | '"' => some '"'
  | '\\' => some '\\'
  | '/' => some '/'
  | 'N' => some '\x85'
  | '_' => some '\xa0'
  | 'L' => some '\u2028'
  | 'P' => some '\u2029'
  | _ => none

/-- The number of hexadecimal digits after a backslash and the given character. -/
def escapeWidth? : Char → Option Nat
  | 'x' => some 2
  | 'u' => some 4
  | 'U' => some 8
  | _ => none

/-- The number written by hexadecimal digits after a backslash and the given character, if those are
next, and the place after them. -/
def escapedNumber? (mark : Char) (cursor : Cursor) : Option (Nat × Cursor) := do
  let width ← escapeWidth? mark
  let digits := cursor.left.take width
  if digits.length < width then none
  else
    let values ← digits.mapM Hex.digit?
    return (values.foldl (fun value digit => 16 * value + digit) 0, cursor.advance width)

/-- The text of an escape with a number. -/
def escapedText (point : Nat) : Except ReadError RawText :=
  if point < 0x110000 then .ok (.ofMarks [.ofPoint point])
  else if point < 0x80000000 then .error (.refused (.value "chr() arg not in range(0x110000)"))
  else .error (.refused (.tooLarge "Python int too large to convert to C int"))

/-- Reads the breaks of empty lines in a quoted scalar, and the blanks around them. -/
def quotedBreaks : Nat → List Char → Cursor → Except ReadError (List Char × Cursor)
  | 0, breaks, cursor => .ok (breaks, cursor)
  | fuel + 1, breaks, cursor =>
    if cursor.atMarker then stop .openQuote
    else
      let cursor := cursor.skip fun character => character == ' ' || character == '\t'
      let (lineBreak, after) := cursor.lineBreak
      if lineBreak.isEmpty then .ok (breaks, cursor)
      else quotedBreaks fuel (breaks ++ lineBreak) after

/-- Reads blanks in a quoted scalar; line breaks among them are folded. -/
def quotedBlanks (cursor : Cursor) : Except ReadError (List Char × Cursor) := do
  let (blanks, cursor) := cursor.span fun character => character == ' ' || character == '\t'
  if cursor.atEnd then stop .openQuote
  else
    let (lineBreak, after) := cursor.lineBreak
    if lineBreak.isEmpty then return (blanks, cursor)
    else
      let (breaks, cursor) ← quotedBreaks (after.left.length + 1) [] after
      let joint :=
        if lineBreak != ['\n'] then lineBreak else if breaks.isEmpty then [' '] else []
      return (joint ++ breaks, cursor)

/-- Whether a character of a quoted scalar always stands for itself. -/
def isQuotedInk (character : Char) : Bool :=
  !(character == '\'' || character == '"' || character == '\\' || character == ' ' ||
    character == '\t' || isBreak character)

/-- Reads an escape from the character after the backslash on. -/
def quotedEscape (cursor : Cursor) : Except ReadError (RawText × Cursor) :=
  match cursor.peek with
  | none => stop .badEscape
  | some mark =>
    match escaped? mark, escapedNumber? mark cursor.step with
    | some character, _ => .ok (character.toString, cursor.step)
    | none, some (point, cursor) => do return (← escapedText point, cursor)
    | none, none =>
      if isBreak mark then do
        let after := cursor.lineBreak.2
        let (breaks, cursor) ← quotedBreaks (after.left.length + 1) [] after
        return (String.ofList breaks, cursor)
      else stop .badEscape

/-- Reads a quoted scalar from after its opening quote to after its closing one. -/
def quotedText (double : Bool) : Nat → RawText → Cursor → Except ReadError (RawText × Cursor)
  | 0, _, _ => stop .openQuote
  | fuel + 1, done, cursor => do
    let (run, cursor) := cursor.span isQuotedInk
    let done := done ++ String.ofList run
    match cursor.left with
    | [] => stop .openQuote
    | character :: rest =>
      if character == '\'' && !double then
        if rest.head? == some '\'' then quotedText double fuel (done ++ "'") (cursor.advance 2)
        else return (done, cursor.step)
      else if character == '"' && double then return (done, cursor.step)
      else if character == '\\' && double then do
        let (escape, cursor) ← quotedEscape cursor.step
        quotedText double fuel (done ++ escape) cursor
      else if character == '\'' || character == '"' || character == '\\' then
        quotedText double fuel (done ++ character.toString) cursor.step
      else do
        let (blanks, cursor) ← quotedBlanks cursor
        quotedText double fuel (done ++ String.ofList blanks) cursor

/-- Reads a quoted scalar from its opening quote on. -/
def quotedScalar (double : Bool) (cursor : Cursor) : Except ReadError (RawText × Cursor) :=
  quotedText double (cursor.left.length + 1) "" cursor.step

/-! ## Plain scalars -/

/-- Whether a character separates the parts of a flow collection. -/
def isFlowIndicator (character : Char) : Bool :=
  ",[]\x7b\x7d".toList.contains character

/-- The number of characters up to the first that a plain scalar cannot have inside of a line. -/
def plainLength (flow : Bool) : List Char → Nat
  | [] => 0
  | character :: rest =>
    let next := rest.head?
    let isColon := character == ':' && (endsIndicator next || (flow && next.any isFlowIndicator))
    if endsIndicator (some character) || isColon ||
        (flow && (isFlowIndicator character || character == '?')) then 0
    else plainLength flow rest + 1

/-- Reads the breaks of empty lines in a plain scalar and the spaces around them; nothing if a
document marker follows. -/
def plainBreaks : Nat → List Char → Cursor → Option (List Char) × Cursor
  | 0, breaks, cursor => (some breaks, cursor)
  | fuel + 1, breaks, cursor =>
    let cursor := cursor.skipSpaces
    let (lineBreak, after) := cursor.lineBreak
    if lineBreak.isEmpty then (some breaks, cursor)
    else if after.atMarker then (none, after)
    else plainBreaks fuel (breaks ++ lineBreak) after

/-- Reads blanks in a plain scalar, with line breaks folded; tells whether there were any line
breaks. -/
def plainBlanks (cursor : Cursor) : List Char × Bool × Cursor :=
  let (blanks, cursor) := cursor.span (· == ' ')
  let (lineBreak, after) := cursor.lineBreak
  if lineBreak.isEmpty then (blanks, false, cursor)
  else if after.atMarker then ([], true, after)
  else
    match plainBreaks (after.left.length + 1) [] after with
    | (none, cursor) => ([], true, cursor)
    | (some breaks, cursor) =>
      let joint :=
        if lineBreak != ['\n'] then lineBreak else if breaks.isEmpty then [' '] else []
      (joint ++ breaks, true, cursor)

/-- Reads a plain scalar, which on every line after the first must be indented by at least `indent`
unless it is in a flow collection; tells whether it ends with a line break. -/
def plainText (flow : Bool) (indent : Int) :
    Nat → List Char → List Char → Bool → Cursor → List Char × Bool × Cursor
  | 0, done, _, broke, cursor => (done, broke, cursor)
  | fuel + 1, done, blanks, broke, cursor =>
    let length := if cursor.peek == some '#' then 0 else plainLength flow cursor.left
    if length == 0 then (done, broke, cursor)
    else
      let done := done ++ blanks ++ cursor.left.take length
      let (blanks, broke, cursor) := plainBlanks (cursor.advance length)
      if blanks.isEmpty || cursor.peek == some '#' || (!flow && cursor.column < indent) then
        (done, broke, cursor)
      else plainText flow indent fuel done blanks broke cursor

/-- Reads a plain scalar. -/
def plainScalar (flow : Bool) (outer : Int) (cursor : Cursor) : String × Bool × Cursor :=
  let fuel := cursor.left.length + 1
  let (text, broke, cursor) := plainText flow (outer + 1) fuel [] [] false cursor
  (String.ofList text, broke, cursor)

end Yaml
end BeaconCeremony

import BeaconCeremony.Error

/-!
# The place of a reader in a YAML document

YAML is read by a cursor that knows its line and column, because indentation carries meaning.
-/

namespace BeaconCeremony
namespace Yaml

/-- What is wrong with a document. -/
inductive Fault
  | unprintable (point : Nat)
  | strayCharacter
  | noColon
  | misplaced
  | badDirective
  | badAnchor
  | badTag
  | badBlockHeader
  | openQuote
  | badEscape
  | unexpectedToken
  | unknownAlias (name : String)
  | repeatedAnchor (name : String)
  | unknownHandle (handle : String)
  | secondDocument
  | wrongTag (tag : String)
  | badKey
  | badMerge
  | tooDeep
deriving DecidableEq

/-- The text of a fault. -/
def Fault.reason : Fault → String
  | .unprintable _ => "special characters are not allowed"
  | .strayCharacter => "found character that cannot start any token"
  | .noColon => "could not find expected ':'"
  | .misplaced => "mapping values are not allowed here"
  | .badDirective => "while scanning a directive"
  | .badAnchor => "while scanning an anchor"
  | .badTag => "while scanning a tag"
  | .badBlockHeader => "while scanning a block scalar"
  | .openQuote => "found unexpected end of stream"
  | .badEscape => "found unknown escape character"
  | .unexpectedToken => "expected the node content"
  | .unknownAlias name => "found undefined alias " ++ Text.quoted name
  | .repeatedAnchor name => "found duplicate anchor " ++ Text.quoted name
  | .unknownHandle handle => "found undefined tag handle " ++ Text.quoted handle
  | .secondDocument => "expected a single document in the stream"
  | .wrongTag tag => "could not determine a constructor for the tag " ++ Text.quoted tag
  | .badKey => "found unhashable key"
  | .badMerge => "expected a mapping or list of mappings for merging"
  | .tooDeep => "nested too deeply"

/-- What is told of parts that are nested too deeply. -/
def Fault.depthReason : String := "maximum recursion depth exceeded"

/-- Why a text is not a document, or has no meaning as one. -/
inductive ReadError
  | malformed (fault : Fault)
  | refused (failure : Failure)

/-- The text of an error. -/
def ReadError.message : ReadError → RawText
  | .malformed fault => fault.reason
  | .refused failure => failure.message

/-- Stops with a fault. -/
def stop {α : Type} (fault : Fault) : Except ReadError α := .error (.malformed fault)

/-- Whether a character ends a line. -/
def isBreak (character : Char) : Bool :=
  character == '\n' || character == '\r' || character == '\x85' || character == '\u2028' ||
    character == '\u2029'

/-- Whether a line ends here: a line break is next, or nothing. -/
def endsLine : Option Char → Bool
  | none => true
  | some character => isBreak character

/-- Whether a word ends here: a space or the end of a line is next. -/
def endsWord (next : Option Char) : Bool := next == some ' ' || endsLine next

/-- Whether an indicator ends here: a tab, a space or the end of a line is next. -/
def endsIndicator (next : Option Char) : Bool := next == some '\t' || endsWord next

/-- Whether a character can stand in the name of an anchor, a directive or a tag handle. -/
def isNameCharacter (character : Char) : Bool :=
  character.isAlphanum || character == '-' || character == '_'

/-- A place in a document. -/
structure Cursor where
  /-- The characters that are left. -/
  left : List Char
  /-- The number of characters before. -/
  position : Nat := 0
  /-- The number of lines before. -/
  line : Nat := 0
  /-- The number of characters before on the same line. -/
  column : Nat := 0

namespace Cursor

/-- The next character. -/
def peek (cursor : Cursor) : Option Char := cursor.left.head?

/-- The character after the given number of others. -/
def peekAt (cursor : Cursor) (offset : Nat) : Option Char := cursor.left[offset]?

/-- Whether nothing is left. -/
def atEnd (cursor : Cursor) : Bool := cursor.left.isEmpty

/-- The place after the next character.  A byte order mark takes no column. -/
def step (cursor : Cursor) : Cursor :=
  match cursor.left with
  | [] => cursor
  | character :: rest =>
    if isBreak character && !(character == '\r' && rest.head? == some '\n') then
      ⟨rest, cursor.position + 1, cursor.line + 1, 0⟩
    else if character == '\ufeff' then { cursor with left := rest, position := cursor.position + 1 }
    else ⟨rest, cursor.position + 1, cursor.line, cursor.column + 1⟩

/-- The place after the given number of characters. -/
def advance (cursor : Cursor) : Nat → Cursor
  | 0 => cursor
  | count + 1 => cursor.step.advance count

/-- The longest run of characters of one class, and the place after it. -/
def span (cursor : Cursor) (belongs : Char → Bool) : List Char × Cursor :=
  let run := cursor.left.takeWhile belongs
  (run, cursor.advance run.length)

/-- The place after a run of characters of one class. -/
def skip (cursor : Cursor) (belongs : Char → Bool) : Cursor := (cursor.span belongs).2

/-- The place after spaces. -/
def skipSpaces (cursor : Cursor) : Cursor := cursor.skip (· == ' ')

/-- Reads a line break as the character that it means, if one is next. -/
def lineBreak (cursor : Cursor) : List Char × Cursor :=
  match cursor.left with
  | '\r' :: '\n' :: _ => (['\n'], cursor.advance 2)
  | character :: _ =>
    if character == '\u2028' || character == '\u2029' then ([character], cursor.step)
    else if isBreak character then (['\n'], cursor.step)
    else ([], cursor)
  | [] => ([], cursor)

/-- Whether a line that starts with a document marker starts here. -/
def atMarker (cursor : Cursor) : Bool :=
  let marks := cursor.left.take 3
  (marks == ['-', '-', '-'] || marks == ['.', '.', '.']) && endsIndicator (cursor.peekAt 3)

/-- The place after the rest of a line that holds nothing but a comment. -/
def ignoredLine (cursor : Cursor) (fault : Fault) : Except ReadError Cursor :=
  let cursor := cursor.skipSpaces
  let cursor := if cursor.peek == some '#' then cursor.skip (!isBreak ·) else cursor
  if endsLine cursor.peek then .ok cursor.lineBreak.2 else stop fault

end Cursor
end Yaml
end BeaconCeremony

import BeaconCeremony.Text.DecimalDigit
import BeaconCeremony.Text.Utf8
import BeaconCeremony.Yaml.Scalar

/-!
# The tokens of a YAML document

A document is a sequence of tokens.  Blocks have no brackets of their own, so there are tokens for
their starts and ends where the indentation changes.  That something is the key of a mapping shows
only at the colon after it; until then the lexer keeps in mind where a key may have started.  Tokens
are taken one by one, so that the first fault is the one that a reader comes upon first.
-/

namespace BeaconCeremony
namespace Yaml

/-- A token of a document. -/
inductive Token
  /-- The version of the language. -/
  | version (major : Nat)
  /-- A handle for tags and what it stands for. -/
  | handle (name expansion : String)
  | otherDirective
  | documentStart
  | documentEnd
  | blockListStart
  | blockMapStart
  | blockEnd
  | flowListStart
  | flowListEnd
  | flowMapStart
  | flowMapEnd
  | blockEntry
  /-- The comma between two parts of a flow collection. -/
  | flowEntry
  | key
  | value
  | alias (name : String)
  | anchor (name : String)
  /-- A tag for the next node, with its handle if it has one. -/
  | tag (handle? : Option String) (suffix : String)
  /-- A scalar; `plain` if it stands without quotes and is no block. -/
  | scalar (text : RawText) (plain : Bool)
  | streamEnd
deriving DecidableEq

/-- A place where a key may have started. -/
structure KeyStart where
  /-- The number of tokens before it. -/
  tokens : Nat
  /-- The key is the only thing that can stand there. -/
  required : Bool
  /-- Its place. -/
  cursor : Cursor

/-- The state of a lexer: the tokens up to some place, and what decides how it goes on. -/
structure Lexer where
  /-- How far the lexer has read. -/
  cursor : Cursor
  /-- The number of tokens that have been handed out. -/
  taken : Nat := 0
  /-- The tokens after those. -/
  pending : List Token := []
  /-- Whether the end of the documents is among the tokens. -/
  ended : Bool := false
  /-- The number of open brackets and braces. -/
  depth : Nat := 0
  /-- The column of the innermost block; -1 outside of all blocks. -/
  indent : Int := -1
  /-- The columns of the blocks around it, the innermost first. -/
  outerIndents : List Int := []
  /-- Whether a key can start here. -/
  allowsKey : Bool := true
  /-- Where keys may have started, by the number of brackets and braces open there. -/
  keyStarts : List (Nat × KeyStart) := []

/-! ## Parts of tokens -/

/-- Reads the name of an anchor or alias from the indicator on. -/
def anchorName (cursor : Cursor) : Except ReadError (String × Cursor) :=
  let (name, cursor) := cursor.step.span isNameCharacter
  let ends := endsIndicator cursor.peek || cursor.peek.any ("?:,]\x7d%@\x60".toList.contains ·)
  if name.isEmpty || !ends then stop .badAnchor else .ok (String.ofList name, cursor)

/-- Whether a character can stand in a tag without an escape. -/
def isTagCharacter (character : Char) : Bool :=
  character.isAlphanum || "-;/?:@&=+$,_.!~*'()[]".toList.contains character

/-- The bytes written by consecutive escapes, with the number of characters that they take up. -/
def escapedBytes : List Char → Except ReadError (Bytes × Nat)
  | '%' :: high :: low :: rest =>
    match Hex.digit? high, Hex.digit? low with
    | some high, some low => do
      let (bytes, length) ← escapedBytes rest
      return (UInt8.ofNat (16 * high + low) :: bytes, length + 3)
    | _, _ => stop .badTag
  | '%' :: _ => stop .badTag
  | _ => .ok ([], 0)

/-- Reads the rest of a tag after the characters in `done`. -/
def tagText : Nat → List Char → Cursor → Except ReadError (List Char × Cursor)
  | 0, _, _ => stop .badTag
  | fuel + 1, done, cursor => do
    let (run, cursor) := cursor.span isTagCharacter
    let (bytes, length) ← escapedBytes cursor.left
    if length == 0 then
      if (done ++ run).isEmpty then stop .badTag else return (done ++ run, cursor)
    else
      match Utf8.decode bytes with
      | .ok text => tagText fuel (done ++ run ++ text.toList) (cursor.advance length)
      | .error _ => stop .badTag

/-- Reads a tag without its handle. -/
def tagSuffix (cursor : Cursor) : Except ReadError (String × Cursor) := do
  let (text, cursor) ← tagText (cursor.left.length + 1) [] cursor
  return (String.ofList text, cursor)

/-- Reads the handle of a tag: one exclamation mark, or a name between two. -/
def tagHandle (cursor : Cursor) : Except ReadError (String × Cursor) :=
  if cursor.peek != some '!' then stop .badTag
  else if cursor.peekAt 1 == some ' ' then .ok ("!", cursor.step)
  else
    let (name, after) := cursor.step.span isNameCharacter
    if after.peek == some '!' then .ok (String.ofList ('!' :: name ++ ['!']), after.step)
    else stop .badTag

/-- Reads a tag. -/
def tag (cursor : Cursor) : Except ReadError (Token × Cursor) := do
  let next := cursor.peekAt 1
  let (token, cursor) ←
    if next == some '<' then do
      let (suffix, cursor) ← tagSuffix (cursor.advance 2)
      if cursor.peek == some '>' then pure (Token.tag none suffix, cursor.step) else stop .badTag
    else if endsIndicator next then pure (Token.tag none "!", cursor.step)
    else do
      let word := (cursor.left.drop 1).takeWhile fun character => !endsWord (some character)
      let (handle, cursor) ← if word.contains '!' then tagHandle cursor else pure ("!", cursor.step)
      let (suffix, cursor) ← tagSuffix cursor
      pure (Token.tag (some handle) suffix, cursor)
  if endsWord cursor.peek then return (token, cursor) else stop .badTag

/-- Reads the digits of a version number. -/
def versionNumber (cursor : Cursor) : Except ReadError (Nat × Cursor) :=
  let (digits, cursor) := cursor.span Char.isDigit
  if digits.isEmpty then stop .badDirective
  else if Text.maxDigits < digits.length then
    .error (.refused (.value (Text.tooManyDigits digits.length)))
  else .ok ((Text.decimal? digits).getD 0, cursor)

/-- Reads what follows the name of a version directive. -/
def versionDirective (cursor : Cursor) : Except ReadError (Token × Cursor) := do
  let (major, cursor) ← versionNumber cursor.skipSpaces
  if cursor.peek != some '.' then stop .badDirective
  else
    let (_, cursor) ← versionNumber cursor.step
    if endsWord cursor.peek then return (.version major, cursor) else stop .badDirective

/-- Reads what follows the name of a handle directive. -/
def handleDirective (cursor : Cursor) : Except ReadError (Token × Cursor) := do
  let (name, cursor) ← tagHandle cursor.skipSpaces
  if cursor.peek != some ' ' then stop .badDirective
  else
    let (expansion, cursor) ← tagSuffix cursor.skipSpaces
    if endsWord cursor.peek then return (.handle name expansion, cursor) else stop .badDirective

/-- Reads a directive. -/
def directive (cursor : Cursor) : Except ReadError (Token × Cursor) := do
  let (name, cursor) := cursor.step.span isNameCharacter
  if name.isEmpty || !endsWord cursor.peek then stop .badDirective
  else
    let (token, cursor) ←
      if name == "YAML".toList then versionDirective cursor
      else if name == "TAG".toList then handleDirective cursor
      else pure (Token.otherDirective, cursor.skip (!isBreak ·))
    return (token, ← cursor.ignoredLine .badDirective)

/-! ## The lexer -/

namespace Lexer

/-- Adds a token. -/
def push (lexer : Lexer) (token : Token) : Lexer :=
  { lexer with pending := lexer.pending ++ [token] }

/-- The number of tokens so far. -/
def count (lexer : Lexer) : Nat := lexer.taken + lexer.pending.length

/-- The place of a possible key inside of the innermost open brackets. -/
def keyStart? (lexer : Lexer) : Option KeyStart :=
  lexer.keyStarts.lookup lexer.depth

/-- Forgets the possible key inside of the innermost open brackets. -/
def forgetKey (lexer : Lexer) : Lexer :=
  { lexer with keyStarts := lexer.keyStarts.filter (·.1 != lexer.depth) }

/-- Gives up the possible key inside of the innermost open brackets, which must not be required. -/
def dropKey (lexer : Lexer) : Except ReadError Lexer :=
  match lexer.keyStart? with
  | some key => if key.required then stop .noColon else .ok lexer.forgetKey
  | none => .ok lexer

/-- Whether a possible key lies too far back to be one: a key is on one line and of limited
length. -/
def isStale (lexer : Lexer) (key : KeyStart) : Bool :=
  key.cursor.line != lexer.cursor.line ||
    1024 < lexer.cursor.position - key.cursor.position

/-- Gives up the possible keys that lie too far back. -/
def dropStaleKeys (lexer : Lexer) : Except ReadError Lexer :=
  if lexer.keyStarts.any fun entry => lexer.isStale entry.2 && entry.2.required then
    stop .noColon
  else
    .ok { lexer with
      keyStarts := lexer.keyStarts.filter fun entry => !lexer.isStale entry.2 }

/-- Keeps in mind that a key may start here. -/
def markKey (lexer : Lexer) : Except ReadError Lexer :=
  if lexer.allowsKey then do
    let required := lexer.depth == 0 && lexer.indent == lexer.cursor.column
    let key : KeyStart := ⟨lexer.count, required, lexer.cursor⟩
    let lexer ← lexer.dropKey
    return { lexer with keyStarts := (lexer.depth, key) :: lexer.keyStarts }
  else .ok lexer

/-- Closes the blocks of the given columns that lie beyond a column. -/
def closeBlocks (column : Int) : Int → List Int → Nat × Int × List Int
  | indent, [] => (0, indent, [])
  | indent, outer :: rest =>
    if column < indent then
      let (closed, indent, rest) := closeBlocks column outer rest
      (closed + 1, indent, rest)
    else (0, indent, outer :: rest)

/-- Closes the blocks that lie beyond a column, unless brackets are open. -/
def closeDeeper (lexer : Lexer) (column : Int) : Lexer :=
  if lexer.depth != 0 then lexer
  else
    let (closed, indent, outer) := closeBlocks column lexer.indent lexer.outerIndents
    { lexer with
      indent := indent
      outerIndents := outer
      pending := lexer.pending ++ List.replicate closed .blockEnd }

/-- Opens a block at a column, if it lies beyond the innermost one; tells whether it does. -/
def openBlock (lexer : Lexer) (column : Nat) : Bool × Lexer :=
  if lexer.indent < column then
    (true, { lexer with indent := column, outerIndents := lexer.indent :: lexer.outerIndents })
  else (false, lexer)

/-- Opens a block here with the given token, if one can be opened. -/
def startBlock (lexer : Lexer) (token : Token) : Lexer :=
  match lexer.openBlock lexer.cursor.column with
  | (true, lexer) => lexer.push token
  | (false, lexer) => lexer

/-- Puts a token after the first `count` ones. -/
def insert (lexer : Lexer) (count : Nat) (token : Token) : Lexer :=
  let older := count - lexer.taken
  { lexer with pending := lexer.pending.take older ++ token :: lexer.pending.drop older }

/-- The place after spaces, comments and line breaks; after a line break outside of all brackets a
key can start. -/
def skipToToken : Nat → Bool → Bool → Cursor → Bool × Cursor
  | 0, _, allowsKey, cursor => (allowsKey, cursor)
  | fuel + 1, inFlow, allowsKey, cursor =>
    let cursor := cursor.skipSpaces
    let cursor := if cursor.peek == some '#' then cursor.skip (!isBreak ·) else cursor
    let (lineBreak, after) := cursor.lineBreak
    if lineBreak.isEmpty then (allowsKey, cursor)
    else skipToToken fuel inFlow (allowsKey || !inFlow) after

/-- Goes to the next token and closes what ends before it. -/
def nearToken (lexer : Lexer) : Except ReadError Lexer := do
  let cursor := lexer.cursor
  let cursor :=
    if cursor.position == 0 && cursor.peek == some '\ufeff' then cursor.step else cursor
  let (allowsKey, cursor) :=
    skipToToken (cursor.left.length + 1) (lexer.depth != 0) lexer.allowsKey cursor
  let lexer ← { lexer with cursor := cursor, allowsKey := allowsKey }.dropStaleKeys
  return lexer.closeDeeper cursor.column

/-- Ends all blocks and the possible key. -/
def endContent (lexer : Lexer) : Except ReadError Lexer := do
  let lexer ← (lexer.closeDeeper (-1)).dropKey
  return { lexer with allowsKey := false }

/-- Takes a token of the given length. -/
def take (lexer : Lexer) (length : Nat) (token : Token) : Lexer :=
  { lexer.push token with cursor := lexer.cursor.advance length }

/-- Takes an opening bracket. -/
def takeOpening (lexer : Lexer) (token : Token) : Except ReadError Lexer := do
  let lexer ← lexer.markKey
  return { lexer.take 1 token with depth := lexer.depth + 1, allowsKey := true }

/-- Takes a closing bracket. -/
def takeClosing (lexer : Lexer) (token : Token) : Except ReadError Lexer := do
  let lexer ← lexer.dropKey
  return { lexer.take 1 token with depth := lexer.depth - 1, allowsKey := false }

/-- Takes the mark before an item of a block. -/
def takeBlockEntry (lexer : Lexer) : Except ReadError Lexer := do
  if lexer.depth == 0 && !lexer.allowsKey then stop .misplaced
  else
    let lexer := if lexer.depth == 0 then lexer.startBlock .blockListStart else lexer
    let lexer ← { lexer with allowsKey := true }.dropKey
    return lexer.take 1 .blockEntry

/-- Takes the mark before a key. -/
def takeKey (lexer : Lexer) : Except ReadError Lexer := do
  if lexer.depth == 0 && !lexer.allowsKey then stop .misplaced
  else
    let lexer := if lexer.depth == 0 then lexer.startBlock .blockMapStart else lexer
    let lexer ← { lexer with allowsKey := lexer.depth == 0 }.dropKey
    return lexer.take 1 .key

/-- Takes the mark before a value. If a key may have started before, it did. -/
def takeValue (lexer : Lexer) : Except ReadError Lexer := do
  match lexer.keyStart? with
  | some key =>
    let lexer := lexer.forgetKey.insert key.tokens .key
    let lexer :=
      if lexer.depth == 0 then
        match lexer.openBlock key.cursor.column with
        | (true, lexer) => lexer.insert key.tokens .blockMapStart
        | (false, lexer) => lexer
      else lexer
    return { lexer.take 1 .value with allowsKey := false }
  | none =>
    if lexer.depth == 0 && !lexer.allowsKey then stop .misplaced
    else
      let lexer := if lexer.depth == 0 then lexer.startBlock .blockMapStart else lexer
      let lexer ← { lexer with allowsKey := lexer.depth == 0 }.dropKey
      return lexer.take 1 .value

/-- Takes a part of a node that may be a key. -/
def takeNode (lexer : Lexer) (read : Cursor → Except ReadError (Token × Cursor)) :
    Except ReadError Lexer := do
  let lexer ← lexer.markKey
  let (token, cursor) ← read lexer.cursor
  return { lexer.push token with cursor := cursor, allowsKey := false }

/-- Takes a block scalar. -/
def takeBlockScalar (lexer : Lexer) (folded : Bool) : Except ReadError Lexer := do
  let lexer ← { lexer with allowsKey := true }.dropKey
  let (text, cursor) ← blockScalar folded lexer.indent lexer.cursor
  return { lexer.push (.scalar text false) with cursor := cursor }

/-- Takes a plain scalar. -/
def takePlain (lexer : Lexer) : Except ReadError Lexer := do
  let lexer ← lexer.markKey
  let (text, broke, cursor) := plainScalar (lexer.depth != 0) lexer.indent lexer.cursor
  return { lexer.push (.scalar text true) with cursor := cursor, allowsKey := broke }

/-- Whether a plain scalar can start with a character that is followed by another. -/
def startsPlain (inFlow : Bool) (character : Char) (next : Option Char) : Bool :=
  if endsIndicator (some character) ||
      "-?:,[]\x7b\x7d#&*!|>'\"%@\x60".toList.contains character then
    !endsIndicator next &&
      (character == '-' || (!inFlow && (character == '?' || character == ':')))
  else true

/-- Takes the next token, which starts with the given character. -/
def takeToken (lexer : Lexer) (character : Char) : Except ReadError Lexer := do
  let inFlow := lexer.depth != 0
  let next := lexer.cursor.peekAt 1
  let startsLine := lexer.cursor.column == 0
  if startsLine && character == '%' then
    let lexer ← lexer.endContent
    let (token, cursor) ← directive lexer.cursor
    return { lexer.push token with cursor := cursor }
  else if startsLine && lexer.cursor.atMarker then
    let lexer ← lexer.endContent
    return lexer.take 3 (if character == '-' then .documentStart else .documentEnd)
  else if character == '[' then lexer.takeOpening .flowListStart
  else if character == '\x7b' then lexer.takeOpening .flowMapStart
  else if character == ']' then lexer.takeClosing .flowListEnd
  else if character == '\x7d' then lexer.takeClosing .flowMapEnd
  else if character == ',' then
    let lexer ← { lexer with allowsKey := true }.dropKey
    return lexer.take 1 .flowEntry
  else if character == '-' && endsIndicator next then lexer.takeBlockEntry
  else if character == '?' && (inFlow || endsIndicator next) then lexer.takeKey
  else if character == ':' && (inFlow || endsIndicator next) then lexer.takeValue
  else if character == '*' then
    lexer.takeNode fun cursor => do
      let (name, cursor) ← anchorName cursor
      return (.alias name, cursor)
  else if character == '&' then
    lexer.takeNode fun cursor => do
      let (name, cursor) ← anchorName cursor
      return (.anchor name, cursor)
  else if character == '!' then lexer.takeNode tag
  else if character == '|' && !inFlow then lexer.takeBlockScalar false
  else if character == '>' && !inFlow then lexer.takeBlockScalar true
  else if character == '\'' || character == '"' then
    lexer.takeNode fun cursor => do
      let (text, cursor) ← quotedScalar (character == '"') cursor
      return (.scalar text false, cursor)
  else if startsPlain inFlow character next then lexer.takePlain
  else stop .strayCharacter

/-- Goes on to the next token and takes it. -/
def advance (lexer : Lexer) : Except ReadError Lexer := do
  let lexer ← lexer.nearToken
  match lexer.cursor.peek with
  | some character => lexer.takeToken character
  | none => return { (← lexer.endContent).push .streamEnd with ended := true }

/-- Whether the oldest token cannot be handed out yet: there is none, or it may turn out to be the
start of a key. -/
def awaitsMore (lexer : Lexer) : Bool :=
  !lexer.ended &&
    (lexer.pending.isEmpty ||
      (lexer.keyStarts.map (·.2.tokens)).min? == some lexer.taken)

/-- Takes tokens until the oldest one can be handed out; every one takes up at least one character.
-/
def ready : Nat → Lexer → Except ReadError Lexer
  | 0, lexer => .ok lexer
  | fuel + 1, lexer => do
    let lexer ← if lexer.ended || lexer.pending.isEmpty then pure lexer else lexer.dropStaleKeys
    if lexer.awaitsMore then ready fuel (← lexer.advance) else return lexer

/-- The oldest token. -/
def next (lexer : Lexer) : Token := lexer.pending.headD .streamEnd

/-- The lexer after the oldest token has been handed out. -/
def drop (lexer : Lexer) : Lexer :=
  { lexer with taken := lexer.taken + 1, pending := lexer.pending.drop 1 }

end Lexer

/-- Whether a character can occur in a document. -/
def isAllowed (character : Char) : Bool :=
  let point := character.toNat
  point == 0x09 || point == 0x0a || point == 0x0d || (0x20 ≤ point && point ≤ 0x7e) ||
    point == 0x85 || (0xa0 ≤ point && point ≤ 0xfffd) || 0x10000 ≤ point

/-- The lexer at the start of a document. -/
def Lexer.start (characters : List Char) : Except ReadError Lexer :=
  match characters.find? (!isAllowed ·) with
  | some character => stop (.unprintable character.toNat)
  | none => .ok { cursor := { left := characters } }

end Yaml
end BeaconCeremony

import BeaconCeremony.Yaml.Token
import BeaconCeremony.Yaml.Tag

/-!
# The nodes of a YAML document

The tokens of a document make up nodes, each with its tag.  An alias stands for the node with its
anchor, which may be one of those around it, so nodes refer to each other by their numbers in the
document.
-/

namespace BeaconCeremony
namespace Yaml

/-- The number of a node in its document. -/
abbrev NodeId := Nat

/-- What a node holds. -/
inductive Content
  | scalar (text : RawText)
  | list (items : List NodeId)
  | map (entries : List (NodeId × NodeId))

namespace Content

/-- Whether this is a mapping. -/
def isMap : Content → Bool
  | .map _ => true
  | _ => false

/-- The number of items or entries. -/
def size : Content → Nat
  | .scalar _ => 0
  | .list items => items.length
  | .map entries => entries.length

end Content

/-- A node of a document. -/
structure Node where
  /-- The tag. -/
  tag : String
  /-- What the node holds. -/
  content : Content

/-- The node where there is nothing. -/
def Node.empty : Node := ⟨Tag.null, .scalar ""⟩

/-- The nodes of a document by their numbers. -/
structure Document where
  /-- The nodes. -/
  nodes : Array Node
  /-- The number of the node that holds all others. -/
  root : NodeId

namespace Document

/-- The node with a number. -/
def node (document : Document) (id : NodeId) : Node := document.nodes.getD id Node.empty

/-- The document with another node under a number. -/
def put (document : Document) (id : NodeId) (node : Node) : Document :=
  { document with nodes := document.nodes.setIfInBounds id node }

end Document

/-- What is left to be read, and what has been met before. -/
structure Parsing where
  /-- The lexer, with the tokens that are left. -/
  lexer : Lexer
  /-- The nodes so far. -/
  nodes : Array Node := #[]
  /-- The nodes with anchors. -/
  anchors : List (String × NodeId) := []
  /-- What the handles of tags stand for. -/
  handles : List (String × String) := []
  /-- The number of collections around the place. -/
  depth : Nat := 0
  /-- A bound for the number of tokens. -/
  bound : Nat

/-- A step of reading nodes. -/
abbrev Parse := StateT Parsing (Except ReadError)

/-- Where a node stands. -/
inductive Setting
  | block
  | entry
  | flow
deriving DecidableEq

namespace Parse

/-- Stops with a fault. -/
def fail {α : Type} (fault : Fault) : Parse α := fun _ => stop fault

/-- The next token. -/
def peek : Parse Token := do
  let parsing ← get
  let lexer ← parsing.lexer.ready parsing.bound
  set { parsing with lexer := lexer }
  return lexer.next

/-- Passes over the next token. -/
def drop : Parse Unit :=
  modify fun parsing => { parsing with lexer := parsing.lexer.drop }

/-- Passes over the next token if it is the given one; tells whether it is. -/
def accept (token : Token) : Parse Bool := do
  if (← peek) = token then
    drop
    return true
  else return false

/-- Passes over the next token, which must be the given one. -/
def expect (token : Token) : Parse Unit := do
  if !(← accept token) then fail .unexpectedToken

/-- Whether the next token is one of some tokens. -/
def isNext (tokens : List Token) : Parse Bool := do
  return tokens.contains (← peek)

/-- Reads an anchor, if one is next. -/
def anchor? : Parse (Option String) := do
  match ← peek with
  | .anchor name =>
    drop
    return some name
  | _ => return none

/-- Reads the handle and the suffix of a tag, if one is next. -/
def tagParts? : Parse (Option (Option String × String)) := do
  match ← peek with
  | .tag handle? suffix =>
    drop
    return some (handle?, suffix)
  | _ => return none

/-- The tag with a handle and a suffix. -/
def tagName (handle? : Option String) (suffix : String) : Parse String := do
  match handle? with
  | none => return suffix
  | some handle =>
    match (← get).handles.lookup handle with
    | some expansion => return expansion ++ suffix
    | none => fail (.unknownHandle handle)

/-- Reads the anchor and the tag of a node, in either order. -/
def properties : Parse (Option String × Option String) := do
  let before? ← anchor?
  let parts? ← tagParts?
  let name? ← if before?.isNone && parts?.isSome then anchor? else pure before?
  match parts? with
  | some (handle?, suffix) => return (name?, some (← tagName handle? suffix))
  | none => return (name?, none)

/-- The tag of a node, when nothing but the default is known about it. -/
def tagOr (tag? : Option String) (default : String) : String :=
  match tag? with
  | none => default
  | some "!" => default
  | some tag => tag

/-- The tag of a scalar: a plain one without a tag has the tag of its text, and so has any scalar
whose tag is a single exclamation mark. -/
def scalarTag (tag? : Option String) (text : RawText) (plain : Bool) : String :=
  tagOr tag? (if plain || tag?.isSome then plainTag text else Tag.text)

/-- Gives the next number to a node, and its anchor if it has one. -/
def add (name? : Option String) (node : Node) : Parse NodeId := do
  let parsing ← get
  let id := parsing.nodes.size
  match name? with
  | none => set { parsing with nodes := parsing.nodes.push node }
  | some name =>
    if (parsing.anchors.lookup name).isSome then fail (.repeatedAnchor name)
    else
      set { parsing with
        nodes := parsing.nodes.push node
        anchors := (name, id) :: parsing.anchors }
  return id

/-- The greatest number of collections around a node. -/
def maxDepth : Nat := 49980

/-- Adds a collection before its parts have been read, which are then put into it. -/
def collection (name? : Option String) (tag : String) (parts : Parse Content) : Parse NodeId := do
  let id ← add name? ⟨tag, .list []⟩
  if maxDepth ≤ (← get).depth then throw (.refused (.tooDeep Fault.depthReason))
  else
    modify fun parsing => { parsing with depth := parsing.depth + 1 }
    let content ← parts
    modify fun parsing => { parsing with
      nodes := parsing.nodes.setIfInBounds id ⟨tag, content⟩
      depth := parsing.depth - 1 }
    return id

/-- Adds the node where there is nothing. -/
def nothing : Parse NodeId := add none Node.empty

/-- The node with an anchor. -/
def anchored (name : String) : Parse NodeId := do
  match (← get).anchors.lookup name with
  | some id => return id
  | none => fail (.unknownAlias name)

mutual

/-- Reads a node; `fuel` bounds the tokens read on the way. -/
def node (fuel : Nat) (setting : Setting) : Parse NodeId :=
  match fuel with
  | 0 => fail .tooDeep
  | fuel + 1 => do
    match ← peek with
    | .alias name =>
      drop
      anchored name
    | _ =>
      let (name?, tag?) ← properties
      content fuel setting name? tag?

/-- Reads what follows the anchor and the tag of a node; if it has one of them, this may be
nothing. -/
def content (fuel : Nat) (setting : Setting) (name? tag? : Option String) : Parse NodeId :=
  match fuel with
  | 0 => fail .tooDeep
  | fuel + 1 => do
    let next ← peek
    match next with
    | .scalar text plain =>
      drop
      add name? ⟨scalarTag tag? text plain, .scalar text⟩
    | .flowListStart =>
      drop
      collection name? (tagOr tag? Tag.list) do return .list (← flowItems fuel true)
    | .flowMapStart =>
      drop
      collection name? (tagOr tag? Tag.map) do return .map (← flowEntries fuel true)
    | _ =>
      if next = .blockEntry && setting = .entry then
        collection name? (tagOr tag? Tag.list) do return .list (← looseItems fuel)
      else if next = .blockListStart && setting ≠ .flow then
        drop
        collection name? (tagOr tag? Tag.list) do return .list (← blockItems fuel)
      else if next = .blockMapStart && setting ≠ .flow then
        drop
        collection name? (tagOr tag? Tag.map) do return .map (← blockEntries fuel)
      else if name?.isSome || tag?.isSome then
        add name? ⟨scalarTag tag? "" true, .scalar ""⟩
      else fail .unexpectedToken

/-- Reads a node, or nothing if one of the given tokens is next. -/
def nodeUnless (fuel : Nat) (setting : Setting) (ends : List Token) : Parse NodeId :=
  match fuel with
  | 0 => fail .tooDeep
  | fuel + 1 => do
    if ← isNext ends then nothing else node fuel setting

/-- Reads the items of a list in a block. -/
def blockItems (fuel : Nat) : Parse (List NodeId) :=
  match fuel with
  | 0 => fail .tooDeep
  | fuel + 1 => do
    if ← accept .blockEntry then
      let item ← nodeUnless fuel .block [.blockEntry, .blockEnd]
      return item :: (← blockItems fuel)
    else
      expect .blockEnd
      return []

/-- Reads the items of a list that is not indented. -/
def looseItems (fuel : Nat) : Parse (List NodeId) :=
  match fuel with
  | 0 => fail .tooDeep
  | fuel + 1 => do
    if ← accept .blockEntry then
      let item ← nodeUnless fuel .block [.blockEntry, .key, .value, .blockEnd]
      return item :: (← looseItems fuel)
    else return []

/-- Reads the entries of a mapping in a block. -/
def blockEntries (fuel : Nat) : Parse (List (NodeId × NodeId)) :=
  match fuel with
  | 0 => fail .tooDeep
  | fuel + 1 => do
    if ← accept .key then
      let key ← nodeUnless fuel .entry [.key, .value, .blockEnd]
      let value ← entryValue fuel .entry [.key, .value, .blockEnd]
      return (key, value) :: (← blockEntries fuel)
    else
      expect .blockEnd
      return []

/-- Reads the value of an entry, which may be missing. -/
def entryValue (fuel : Nat) (setting : Setting) (ends : List Token) : Parse NodeId :=
  match fuel with
  | 0 => fail .tooDeep
  | fuel + 1 => do
    if ← accept .value then nodeUnless fuel setting ends else nothing

/-- Reads the items of a list in brackets; a comma stands before every one but the first. -/
def flowItems (fuel : Nat) (first : Bool) : Parse (List NodeId) :=
  match fuel with
  | 0 => fail .tooDeep
  | fuel + 1 => do
    if ← accept .flowListEnd then return []
    else
      if !first then expect .flowEntry
      if ← accept .key then
        let item ← collection none Tag.map do
          let key ← nodeUnless fuel .flow [.value, .flowEntry, .flowListEnd]
          let value ← entryValue fuel .flow [.flowEntry, .flowListEnd]
          return .map [(key, value)]
        return item :: (← flowItems fuel false)
      else if ← accept .flowListEnd then return []
      else
        let item ← node fuel .flow
        return item :: (← flowItems fuel false)

/-- Reads the entries of a mapping in braces; a comma stands before every one but the first. -/
def flowEntries (fuel : Nat) (first : Bool) : Parse (List (NodeId × NodeId)) :=
  match fuel with
  | 0 => fail .tooDeep
  | fuel + 1 => do
    if ← accept .flowMapEnd then return []
    else
      if !first then expect .flowEntry
      if ← accept .key then
        let key ← nodeUnless fuel .flow [.value, .flowEntry, .flowMapEnd]
        let value ← entryValue fuel .flow [.flowEntry, .flowMapEnd]
        return (key, value) :: (← flowEntries fuel false)
      else if ← accept .flowMapEnd then return []
      else
        let key ← node fuel .flow
        let value ← nothing
        return (key, value) :: (← flowEntries fuel false)

end

/-- The handles that are always declared. -/
def standardHandles : List (String × String) := [("!", "!"), ("!!", tagPrefix)]

/-- Reads directives; `versioned` tells whether the version has been given. -/
def directives : Nat → Bool → Parse Unit
  | 0, _ => fail .tooDeep
  | fuel + 1, versioned => do
    match ← peek with
    | .version major =>
      drop
      if versioned || major != 1 then fail .badDirective else directives fuel true
    | .handle name expansion =>
      drop
      let parsing ← get
      if (parsing.handles.lookup name).isSome then fail .badDirective
      else
        set { parsing with handles := (name, expansion) :: parsing.handles }
        directives fuel versioned
    | .otherDirective =>
      drop
      directives fuel versioned
    | _ => modify fun parsing => { parsing with
        handles := parsing.handles ++ standardHandles }

/-- Whether a token is a directive. -/
def isDirective : Token → Bool
  | .version _ => true
  | .handle _ _ => true
  | .otherDirective => true
  | _ => false

/-- Passes over markers after a document. -/
def documentEnds : Nat → Parse Unit
  | 0 => fail .tooDeep
  | fuel + 1 => do
    if ← accept .documentEnd then documentEnds fuel

/-- Passes over what may stand between two documents: markers and then directives. -/
def betweenDocuments (fuel : Nat) : Parse Unit := do
  documentEnds fuel
  if (← peek) != .streamEnd then
    modify fun parsing => { parsing with handles := [] }
    directives fuel false
    expect .documentStart
    fail .secondDocument

/-- Reads the only document; nothing if there is none. -/
def document (fuel : Nat) : Parse (Option NodeId) := do
  let next ← peek
  if next = .streamEnd then return none
  else
    let isExplicit := isDirective next || next = .documentStart
    directives fuel false
    if isExplicit then expect .documentStart
    let next ← peek
    let isEmpty := isExplicit &&
      (isDirective next || [.documentStart, .documentEnd, .streamEnd].contains next)
    let root ← if isEmpty then nothing else node fuel .block
    betweenDocuments fuel
    return some root

end Parse

/-- The document with the given characters; nothing if there is no document. -/
def Document.ofCharacters (characters : List Char) : Except ReadError (Option Document) := do
  let bound := 16 * characters.length + 64
  let lexer ← Lexer.start characters
  let (root?, parsing) ← (Parse.document bound).run { lexer := lexer, bound := bound }
  return root?.map fun root => ⟨parsing.nodes, root⟩

end Yaml
end BeaconCeremony

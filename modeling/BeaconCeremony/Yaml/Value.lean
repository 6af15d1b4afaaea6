import BeaconCeremony.Bytes.Base64
import BeaconCeremony.Text.Integer
import BeaconCeremony.Text.Lowercase
import BeaconCeremony.Yaml.Node

/-!
# The values of YAML documents

The nodes of a document become data by their tags.  Scalars are read when they are met, collections
are filled in the order in which they were met, and mappings take in the mappings that are merged
into them when they are filled.  So of several faults in a document the first in this order counts.
-/

namespace BeaconCeremony
namespace Yaml

/-! ## Scalars -/

/-- Refuses a value. -/
def refuse {α : Type} (failure : Failure) : Except ReadError α := .error (.refused failure)

/-- The truth value with a name in any letter case. -/
def boolDatum (text : RawText) : Except ReadError Datum :=
  let name := text.mapStrings Text.lower
  if name.string?.any ["yes", "true", "on"].contains then .ok (.bool true)
  else if name.string?.any ["no", "false", "off"].contains then .ok (.bool false)
  else refuse (.unknownKey name)

/-- The marks of a number without underscores. -/
def numberMarks (text : RawText) : List Mark := text.marks.filter (· != .character '_')

/-- The marks after a sign, if one comes first. -/
def withoutSign : List Mark → List Mark
  | .character '-' :: rest => rest
  | .character '+' :: rest => rest
  | marks => marks

/-- The parts of a number between its colons. -/
def sixtieths (marks : List Mark) : List RawText := (marks.splitOn (.character ':')).map .ofMarks

/-- The whole number written in a base. -/
def integer (base : Nat) (text : RawText) : Except ReadError Int :=
  (Text.integerInBase base text).mapError fun fault => .refused (.value (fault.message base text))

/-- The refusal of a number without digits. -/
def noDigits {α : Type} : Except ReadError α := refuse (.beyondEnd "string index out of range")

/-- The whole number written without a sign; underscores have been left out. -/
def unsignedInt (marks : List Mark) : Except ReadError Int :=
  match marks with
  | [] => noDigits
  | [.character '0'] => .ok 0
  | .character '0' :: .character 'b' :: digits => integer 2 (.ofMarks digits)
  | .character '0' :: .character 'x' :: digits => integer 16 (.ofMarks digits)
  | .character '0' :: _ => integer 8 (.ofMarks marks)
  | _ => do
    let places ← (sixtieths marks).mapM (integer 10)
    return places.foldl (fun value place => 60 * value + place) 0

/-- The whole number of a scalar. -/
def intDatum (text : RawText) : Except ReadError Datum := do
  let marks := numberMarks text
  if marks.isEmpty then noDigits
  else
    let value ← unsignedInt (withoutSign marks)
    return .int (if marks.head? = some (.character '-') then -value else value)

/-- The characters without spaces at both ends. -/
def withoutSpaces (characters : List Char) : List Char :=
  ((characters.dropWhile Text.isSpace).reverse.dropWhile Text.isSpace).reverse

/-- The floating-point number that a text is written as. -/
def floatingPoint (text : RawText) : Except ReadError Binary64 :=
  match Binary64.ofText? (String.ofList (withoutSpaces (text.marks.map Text.numeral))) with
  | some value => .ok value
  | none => refuse (.value ("could not convert string to float: " ++ Text.quoted text))

/-- The sum of places of base 60, the last of them first; `weight` is the weight of the first. -/
def sumOfSixtieths (sum : Binary64) (weight : Nat) : List Binary64 → Except ReadError Binary64
  | [] => .ok sum
  | place :: rest =>
    match Binary64.ofInt weight with
    | .infinite _ => refuse (.tooLarge "int too large to convert to float")
    | factor => sumOfSixtieths (sum.add (place.multiply factor)) (60 * weight) rest

/-- The floating-point number written without a sign, in small letters and without underscores. -/
def unsignedFloat (marks : List Mark) : Except ReadError Binary64 :=
  let text := RawText.ofMarks marks
  if text = ".inf" then .ok (.infinite false)
  else if text = ".nan" then .ok .nan
  else if marks.contains (.character ':') then do
    let places ← (sixtieths marks).mapM floatingPoint
    sumOfSixtieths (.ofInt 0) 1 places.reverse
  else floatingPoint text

/-- The marks of a floating-point number as they are read. -/
def floatMarks (text : RawText) : List Mark :=
  ((RawText.ofMarks (numberMarks text)).mapStrings Text.lower).marks

/-- Whether a scalar names the one value that is not a number. -/
def isNanName (text : RawText) : Bool := RawText.ofMarks (withoutSign (floatMarks text)) == ".nan"

/-- The floating-point number of a scalar. -/
def floatDatum (text : RawText) : Except ReadError Datum := do
  let marks := floatMarks text
  if marks.isEmpty then noDigits
  else
    let value ← unsignedFloat (withoutSign marks)
    return .float (if marks.head? = some (.character '-') then value.negate else value)

/-- The date or the point in time of a scalar. -/
def timestampDatum (text : RawText) : Except ReadError Datum :=
  match text.string?.bind fun text => Timestamp.ofCharacters? text.toList with
  | some timestamp => timestamp.toDatum
  | none => refuse (.noPart "'NoneType' object has no attribute 'groupdict'")

/-- The byte string of a scalar. -/
def binaryDatum (text : RawText) : Except ReadError Datum :=
  let ascii? := text.string?.filter fun text => text.toList.all (·.toNat < 0x80)
  match ascii?.bind fun text => Base64.decode? text.toList with
  | some bytes => .ok (.bytes bytes)
  | none => stop (.wrongTag Tag.binary)

/-- How the datum of a scalar is read from its text, for a tag of scalars. -/
def scalarReader? (tag : String) : Option (RawText → Except ReadError Datum) :=
  if tag = Tag.text then some fun text => .ok (.text text)
  else if tag = Tag.null then some fun _ => .ok .null
  else if tag = Tag.bool then some boolDatum
  else if tag = Tag.int then some intDatum
  else if tag = Tag.float then some floatDatum
  else if tag = Tag.timestamp then some timestampDatum
  else if tag = Tag.binary then some binaryDatum
  else none

/-! ## Collections -/

/-- What the value of a node holds, by the numbers of the nodes. -/
inductive Value
  /-- A scalar, with the text that it was read from. -/
  | scalar (datum : Datum) (text : RawText)
  /-- A list. -/
  | list (items : List NodeId)
  /-- A list of pairs. -/
  | pairs (items : List (NodeId × NodeId))
  /-- A mapping. -/
  | map (entries : List (NodeId × NodeId))
  /-- A set. -/
  | set (items : List NodeId)

/-- The empty collection for a tag of collections. -/
def Value.empty? (tag : String) : Option Value :=
  if tag = Tag.list then some (.list [])
  else if tag = Tag.map then some (.map [])
  else if tag = Tag.set then some (.set [])
  else if tag = Tag.orderedMap ∨ tag = Tag.pairs then some (.pairs [])
  else none

/-- A document of which some nodes have become values. -/
structure Construction where
  /-- The document. -/
  document : Document
  /-- The values of the nodes that have been met. -/
  values : Array (Option Value)
  /-- The nodes of the collections that have been met since the last ones were filled, the newest
  first. -/
  met : List NodeId := []
  /-- A bound for the number of merges. -/
  merges : Nat

/-- A step of making values. -/
abbrev Construct := StateT Construction (Except ReadError)

namespace Construct

/-- Stops with a fault. -/
def fail {α : Type} (fault : Fault) : Construct α := fun _ => stop fault

/-- The node with a number. -/
def node (id : NodeId) : Construct Node := return (← get).document.node id

/-- Replaces a node. -/
def putNode (id : NodeId) (node : Node) : Construct Unit :=
  modify fun construction => { construction with document := construction.document.put id node }

/-- The value of a node that has been met. -/
def value? (id : NodeId) : Construct (Option Value) := return (← get).values.getD id none

/-- Gives a value to a node. -/
def putValue (id : NodeId) (value : Value) : Construct Unit :=
  modify fun construction =>
    { construction with values := construction.values.setIfInBounds id (some value) }

/-- The scalar that a node is read from: its own, or that of the default value of a mapping. -/
def scalarText (tag : String) : Nat → NodeId → Construct RawText
  | 0, _ => throw (.refused (.tooDeep Fault.depthReason))
  | fuel + 1, id => do
    match (← node id).content with
    | .scalar text => return text
    | .list _ => fail (.wrongTag tag)
    | .map entries =>
      match ← entries.findM? fun entry => return (← node entry.1).tag = Tag.default with
      | some (_, value) => scalarText tag fuel value
      | none => fail (.wrongTag tag)

/-- Meets a node: a scalar is read, a collection is left to be filled. -/
def meet (id : NodeId) : Construct Unit := do
  if (← value? id).isNone then
    let node ← node id
    match Value.empty? node.tag, scalarReader? node.tag with
    | some value, _ =>
      putValue id value
      modify fun construction => { construction with met := id :: construction.met }
    | none, some reader =>
      let text ← scalarText node.tag ((← get).values.size + 1) id
      if node.tag = Tag.timestamp && node.content.isMap then
        throw (.refused (.wrongType "expected string or bytes-like object, got 'list'"))
      else putValue id (.scalar (← reader text) text)
    | none, none => fail (.wrongTag node.tag)

/-- The entries of a node that is a mapping. -/
def entries (id : NodeId) (fault : Fault) : Construct (List (NodeId × NodeId)) := do
  match (← node id).content with
  | .map entries => return entries
  | _ => fail fault

/-- Replaces the entries of a mapping. -/
def putEntries (id : NodeId) (entries : List (NodeId × NodeId)) : Construct Unit := do
  putNode id { (← node id) with content := .map entries }

/-- Takes the keys for texts that stand for the mapping as a whole. -/
def plainKeys (entries : List (NodeId × NodeId)) : Construct Unit :=
  entries.forM fun (key, _) => do
    let node ← node key
    if node.tag = Tag.default then putNode key { node with tag := Tag.text }

/-- The entries before the first that is a merge, and those from it on. -/
def untilMerge : List (NodeId × NodeId) →
    Construct (List (NodeId × NodeId) × List (NodeId × NodeId))
  | [] => return ([], [])
  | entry :: rest => do
    if (← node entry.1).tag = Tag.merge then return ([], entry :: rest)
    else
      let (before, rest) ← untilMerge rest
      return (entry :: before, rest)

/-- Takes merges out of a mapping from a place on, and puts what they merge in front, after what has
been `merged` before.  Every step takes out one merge, so `fuel` bounds their number. -/
def flatten : Nat → NodeId → Nat → List (NodeId × NodeId) → Construct Unit
  | 0, _, _, _ => throw (.refused (.tooDeep Fault.depthReason))
  | fuel + 1, id, place, merged => do
    let content ← entries id .badMerge
    let (before, rest) ← untilMerge (content.drop place)
    plainKeys before
    match rest with
    | [] => putEntries id (merged ++ content)
    | (_, source) :: rest =>
      putEntries id (content.take place ++ before ++ rest)
      let flat (id : NodeId) : Construct (List (NodeId × NodeId)) := do
        let _ ← entries id .badMerge
        flatten fuel id 0 []
        entries id .badMerge
      let more ← match (← node source).content with
        | .list items => do pure (← items.mapM flat).reverse.flatten
        | _ => flat source
      flatten fuel id (place + before.length) (merged ++ more)

/-- What tells a key from others: a key that is not a number is the same as another only if both
are named so or are the same node. -/
def keyName (id : NodeId) : Construct (Datum × Option NodeId) := do
  match ← value? id with
  | some (.scalar (.float .nan) text) =>
    return (.float .nan, if isNanName text then none else some id)
  | some (.scalar datum _) => return (datum, none)
  | _ => fail .badKey

/-- Whether two keys are the same. -/
def sameName (left right : Datum × Option NodeId) : Bool :=
  match left.1, right.1 with
  | .float .nan, .float .nan => left.2 == right.2
  | first, second => first.sameKey second

/-- The entries of a mapping with one more, in which the first of two same keys is kept and the last
of their values. -/
def insertEntry (done : List ((Datum × Option NodeId) × NodeId × NodeId))
    (name : Datum × Option NodeId) (key value : NodeId) :
    List ((Datum × Option NodeId) × NodeId × NodeId) :=
  if done.any fun entry => sameName entry.1 name then
    done.map fun entry =>
      if sameName entry.1 name then (entry.1, entry.2.1, value) else entry
  else done ++ [(name, key, value)]

/-- Meets the keys and values of a mapping, which is flattened before. -/
def mapEntries (id : NodeId) (tag : String) : Construct (List (NodeId × NodeId)) := do
  let _ ← entries id (.wrongTag tag)
  flatten ((← get).merges + 1) id 0 []
  let done ← (← entries id (.wrongTag tag)).foldlM (fun done (key, value) => do
    meet key
    let name ← keyName key
    meet value
    return insertEntry done name key value) []
  return done.map (·.2)

/-- Meets the only key and the only value of a mapping. -/
def pair (tag : String) (id : NodeId) : Construct (NodeId × NodeId) := do
  match ← entries id (.wrongTag tag) with
  | [(key, value)] =>
    meet key
    meet value
    return (key, value)
  | _ => fail (.wrongTag tag)

/-- Fills a collection. -/
def fill (id : NodeId) : Construct Unit := do
  let node ← node id
  let items : Construct (List NodeId) :=
    match node.content with
    | .list items => pure items
    | _ => fail (.wrongTag node.tag)
  match ← value? id with
  | some (.list _) =>
    let items ← items
    items.forM meet
    putValue id (.list items)
  | some (.pairs _) => putValue id (.pairs (← (← items).mapM (pair node.tag)))
  | some (.map _) => putValue id (.map (← mapEntries id node.tag))
  | some (.set _) => putValue id (.set ((← mapEntries id node.tag).map (·.1)))
  | _ => return ()

/-- Fills the collections that have been met, round by round; every round but the last fills at
least one. -/
def fillAll : Nat → Construct Unit
  | 0 => return ()
  | fuel + 1 => do
    let met := (← get).met
    if !met.isEmpty then
      modify fun construction => { construction with met := [] }
      met.reverse.forM fill
      fillAll fuel

end Construct

/-! ## Data -/

/-- How far the datum of a node is known. -/
inductive Progress
  | unknown
  | open
  | known (datum : Datum)

/-- The datum of a node.  A collection inside of itself is told as such; `fuel` bounds the number of
nodes around the place. -/
def datumOf (values : Array (Option Value)) :
    Nat → NodeId → StateM (Array Progress) Datum
  | 0, _ => return .again
  | fuel + 1, id => do
    match (← get).getD id .unknown with
    | .known datum => return datum
    | .open => return .again
    | .unknown =>
      modify (·.setIfInBounds id .open)
      let both (entry : NodeId × NodeId) : StateM (Array Progress) (Datum × Datum) := do
        let key ← datumOf values fuel entry.1
        return (key, ← datumOf values fuel entry.2)
      let datum ← match values.getD id none with
        | some (.scalar datum _) => pure datum
        | some (.list items) => do pure (.list (← items.mapM (datumOf values fuel)))
        | some (.pairs items) => do
          pure (.list ((← items.mapM both).map fun (key, value) => .list [key, value]))
        | some (.map entries) => do pure (.map (← entries.mapM both))
        | some (.set items) => do pure (.set (← items.mapM (datumOf values fuel)))
        | none => pure .null
      modify (·.setIfInBounds id (.known datum))
      return datum

/-- The datum of a document. -/
def Document.datum (document : Document) : Except ReadError Datum := do
  let size := document.nodes.size
  let construct : Construct Unit := do
    Construct.meet document.root
    Construct.fillAll size
  let merges := document.nodes.foldl (fun count node => count + node.content.size) 0
  let (_, construction) ←
    construct.run { document := document, values := Array.replicate size none, merges := merges }
  let (datum, _) :=
    (datumOf construction.values (size + 1) document.root).run (Array.replicate size .unknown)
  return datum

/-- Reads a YAML document; an empty one is the absent value. -/
def read (source : String) : Except ReadError Datum := do
  match ← Document.ofCharacters source.toList with
  | some document => document.datum
  | none => return .null

end Yaml
end BeaconCeremony

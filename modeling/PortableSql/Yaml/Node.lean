import PortableSql.Yaml.Tag
import PortableSql.Yaml.Tokens

/-!
# Nodes of a settings document

A document is made of nodes: scalars, sequences and mappings, each with a tag. The nodes are
numbered, and collections hold the numbers of their parts. An alias stands for the node that has
the anchor of the same name. It may stand inside of that node, which is then part of itself.

A stream holds at most one document.
-/

namespace PortableSql.Yaml

/-- What a node is made of. -/
inductive NodeContent
  | scalar (text : Text)
  /-- A scalar of which some codes stand for half of a character. -/
  | halved (codes : List Nat)
  | sequence (items : List Nat)
  | mapping (entries : List (Nat × Nat))
deriving DecidableEq, Repr

/-- A node with its tag. -/
structure Node where
  /-- What kind of value the node stands for. -/
  tag : Tag
  /-- What the node is made of. -/
  content : NodeContent
deriving DecidableEq, Repr

/-- A scalar that is not written. -/
def Node.missing : Node :=
  ⟨.null, .scalar []⟩

/-- Nodes by their numbers. -/
abbrev Nodes := Array Node

namespace Nodes

/-- The tag of a node. -/
def tag (nodes : Nodes) (n : Nat) : Tag :=
  (nodes.getD n .missing).tag

/-- The content of a node. -/
def content (nodes : Nodes) (n : Nat) : NodeContent :=
  (nodes.getD n .missing).content

/-- The entries of a mapping. -/
def entries (nodes : Nodes) (n : Nat) : List (Nat × Nat) :=
  match nodes.content n with
  | .mapping entries => entries
  | _ => []

end Nodes

/-- What is left to read, and what was found on the way. -/
structure NodeSource where
  /-- The tokens that are left. -/
  ready : List Token
  /-- What is wrong after them. -/
  fault : Fault
  /-- The nodes with an anchor. -/
  anchors : List (Text × Nat)
  /-- What the tag handles stand for. -/
  handles : List (Text × Text)
  /-- The nodes so far. -/
  nodes : Nodes
  /-- The nodes that were read to their end, the last one first. -/
  finished : List Nat

/-- Reading nodes from tokens. -/
abbrev NodeReader := StateT NodeSource (Except Fault)

namespace NodeReader

/-- Tokens in an order that makes no document. -/
def badGrammar : Fault :=
  .document .grammar

/-- The next token. -/
def peek : NodeReader Token := do
  match (← get).ready with
  | token :: _ => return token
  | [] => throw (← get).fault

/-- Passes over a token. -/
def skip : NodeReader Unit :=
  modify fun source => { source with ready := source.ready.drop 1 }

/-- Passes over the next token if it is the given one. -/
def accept (token : Token) : NodeReader Bool := do
  if (← peek) == token then
    skip
    return true
  else return false

/-- Passes over a comma, which must stand here. -/
def separator : NodeReader Unit := do
  if !(← accept .flowEntry) then throw badGrammar

/-- The node that an alias stands for. -/
def resolve (name : Text) : NodeReader Nat := do
  match (← get).anchors.lookup name with
  | some n => return n
  | none => throw (.document .composition)

/-- An anchor may be given only once. -/
def checkAnchor (anchor : Option Text) : NodeReader Unit := do
  match anchor with
  | none => return ()
  | some name =>
    if ((← get).anchors.lookup name).isSome then throw (.document .composition)

/-- Adds a node, which may have an anchor. Returns its number. -/
def start (anchor : Option Text) (node : Node) : NodeReader Nat :=
  modifyGet fun source =>
    let n := source.nodes.size
    (n, { source with
      nodes := source.nodes.push node
      anchors := anchor.toList.map (fun name => (name, n)) ++ source.anchors })

/-- Gives a node its content. Returns its number. -/
def finish (n : Nat) (node : Node) : NodeReader Nat :=
  modifyGet fun source =>
    (n, { source with
      nodes := source.nodes.setIfInBounds n node
      finished := n :: source.finished })

/-- Adds a node without parts, which may have an anchor. Returns its number. -/
def leaf (anchor : Option Text) (node : Node) : NodeReader Nat := do
  finish (← start anchor node) node

/-- Adds a scalar that is not written. -/
def missing : NodeReader Nat :=
  leaf none .missing

/-- The anchor and the tag in front of a node, in either order. -/
def properties : NodeReader (Option Text × Option (Option Text × Text)) := do
  match ← peek with
  | .anchor name =>
    skip
    match ← peek with
    | .tag handle suffix =>
      skip
      return (some name, some (handle, suffix))
    | _ => return (some name, none)
  | .tag handle suffix =>
    skip
    match ← peek with
    | .anchor name =>
      skip
      return (some name, some (handle, suffix))
    | _ => return (none, some (handle, suffix))
  | _ => return (none, none)

/-- The full name of a tag. -/
def tagName (tag : Option Text × Text) : NodeReader Text := do
  match tag.1 with
  | none => return tag.2
  | some handle =>
    match (← get).handles.lookup handle with
    | some expansion => return expansion ++ tag.2
    | none => throw badGrammar

/-- The tag of a collection: its own, or the one it has by default. -/
def collectionTag (default : Tag) (name : Option Text) : Tag :=
  match name with
  | none => default
  | some name => if name == ['!'] then default else .ofName name

/-- The tag of a scalar: its own, or the one that it has by its form. -/
def scalarTag (name : Option Text) (plain : Bool) (text : Text) : Tag :=
  match name with
  | none => if plain then .ofPlain text else .str
  | some name => if name == ['!'] then .ofPlain text else .ofName name

/-- Tokens after which the value of a block entry is missing. -/
def endsBlockValue (token : Token) : Bool :=
  token == .key || token == .value || token == .blockEnd

/-- Tokens after which the value of an entry in brackets is missing. -/
def endsFlowValue (closer token : Token) : Bool :=
  token == .flowEntry || token == closer

mutual

/-- A node. In a block it may be a block collection, and as a value of a mapping it may be a list
that is not indented. The first argument bounds the number of steps, and the second one says how
many more levels there may be. -/
def node : Nat → (levels : Nat) → (block indentless : Bool) → NodeReader Nat
  | 0, _, _, _ => throw badGrammar
  | _, 0, _, _ => throw .nestedTooDeep
  | fuel + 1, levels + 1, block, indentless => do
    match ← peek with
    | .alias name =>
      skip
      resolve name
    | _ =>
      let (anchor, tag) ← properties
      let name ← tag.mapM tagName
      let next ← peek
      match next with
      | .scalar text plain =>
        skip
        checkAnchor anchor
        leaf anchor ⟨scalarTag name plain text, .scalar text⟩
      | .halved codes =>
        skip
        checkAnchor anchor
        leaf anchor ⟨scalarTag name false (codes.map Text.charOf), .halved codes⟩
      | _ =>
        if next == .flowSequenceStart || block && next == .blockSequenceStart ||
            indentless && next == .blockEntry then
          checkAnchor anchor
          let tag := collectionTag .seq name
          let n ← start anchor ⟨tag, .sequence []⟩
          let items ← match next with
            | .flowSequenceStart => do
              skip
              flowItems fuel levels true
            | .blockSequenceStart => do
              skip
              blockItems fuel levels
            | _ => indentlessItems fuel levels
          finish n ⟨tag, .sequence items⟩
        else if next == .flowMappingStart || block && next == .blockMappingStart then
          checkAnchor anchor
          let tag := collectionTag .map name
          let n ← start anchor ⟨tag, .mapping []⟩
          skip
          let entries ← if next == .flowMappingStart then flowEntries fuel levels true
            else blockEntries fuel levels
          finish n ⟨tag, .mapping entries⟩
        else if anchor.isSome || name.isSome then
          checkAnchor anchor
          leaf anchor ⟨scalarTag name true [], .scalar []⟩
        else throw badGrammar

/-- The items of an indented list. -/
def blockItems : Nat → (levels : Nat) → NodeReader (List Nat)
  | 0, _ => throw badGrammar
  | fuel + 1, levels => do
    if ← accept .blockEntry then
      let next ← peek
      let item ← if next == .blockEntry || next == .blockEnd then missing
        else node fuel levels true false
      return item :: (← blockItems fuel levels)
    else if ← accept .blockEnd then return []
    else throw badGrammar

/-- The items of a list that is not indented. -/
def indentlessItems : Nat → (levels : Nat) → NodeReader (List Nat)
  | 0, _ => throw badGrammar
  | fuel + 1, levels => do
    if ← accept .blockEntry then
      let next ← peek
      let item ← if next == .blockEntry || endsBlockValue next then missing
        else node fuel levels true false
      return item :: (← indentlessItems fuel levels)
    else return []

/-- The entries of a mapping by lines. -/
def blockEntries : Nat → (levels : Nat) → NodeReader (List (Nat × Nat))
  | 0, _ => throw badGrammar
  | fuel + 1, levels => do
    if ← accept .key then
      let key ← if endsBlockValue (← peek) then missing else node fuel levels true true
      let value ← if ← accept .value then
          if endsBlockValue (← peek) then missing else node fuel levels true true
        else missing
      return (key, value) :: (← blockEntries fuel levels)
    else if ← accept .blockEnd then return []
    else throw badGrammar

/-- The items of a list in brackets. An entry with a key is a mapping of its own. -/
def flowItems : Nat → (levels : Nat) → (first : Bool) → NodeReader (List Nat)
  | 0, _, _ => throw badGrammar
  | fuel + 1, levels, first => do
    if ← accept .flowSequenceEnd then return []
    else
      if !first then separator
      if ← accept .key then
        let item ← singleEntry fuel levels
        return item :: (← flowItems fuel levels false)
      else if ← accept .flowSequenceEnd then return []
      else
        let item ← node fuel levels false false
        return item :: (← flowItems fuel levels false)

/-- A mapping of one entry that is an item of a list in brackets. -/
def singleEntry : Nat → (levels : Nat) → NodeReader Nat
  | 0, _ => throw badGrammar
  | _, 0 => throw .nestedTooDeep
  | fuel + 1, levels + 1 => do
    let next ← peek
    let n ← start none ⟨.map, .mapping []⟩
    let key ← if next == .value || endsFlowValue .flowSequenceEnd next then missing
      else node fuel levels false false
    let value ← if ← accept .value then
        if endsFlowValue .flowSequenceEnd (← peek) then missing
        else node fuel levels false false
      else missing
    finish n ⟨.map, .mapping [(key, value)]⟩

/-- The entries of a mapping in brackets. An entry without a key indicator is a key without a
value. -/
def flowEntries : Nat → (levels : Nat) → (first : Bool) → NodeReader (List (Nat × Nat))
  | 0, _, _ => throw badGrammar
  | fuel + 1, levels, first => do
    if ← accept .flowMappingEnd then return []
    else
      if !first then separator
      if ← accept .key then
        let next ← peek
        let key ← if next == .value || endsFlowValue .flowMappingEnd next then missing
          else node fuel levels false false
        let value ← if ← accept .value then
            if endsFlowValue .flowMappingEnd (← peek) then missing
            else node fuel levels false false
          else missing
        return (key, value) :: (← flowEntries fuel levels false)
      else if ← accept .flowMappingEnd then return []
      else
        let key ← node fuel levels false false
        return (key, ← missing) :: (← flowEntries fuel levels false)

end

/-- What the tag handles stand for by default. -/
def defaultHandles : List (Text × Text) :=
  [("!".toList, "!".toList), ("!!".toList, Tag.nameSpace)]

/-- Reads directives: a version at most once and of the first generation, and each tag handle at
most once. Returns the handles. -/
def directives : List Token → (version : Bool) → (handles : List (Text × Text)) →
    NodeReader (List (Text × Text))
  | .directive directive :: rest, version, handles => do
    skip
    match directive with
    | .version major _ =>
      if version || major != 1 then throw badGrammar else directives rest true handles
    | .tagHandle handle expansion =>
      if (handles.lookup handle).isSome then throw badGrammar
      else directives rest version (handles ++ [(handle, expansion)])
    | .unknown => directives rest version handles
  | _, _, handles => return handles

/-- Passes over the ends of documents. -/
def skipEnds : List Token → NodeReader Unit
  | .documentEnd :: rest => do
    skip
    skipEnds rest
  | _ => return ()

/-- The start of a document with directives and a marker. False at the end of the stream. -/
def explicitStart : NodeReader Bool := do
  skipEnds (← get).ready
  if (← peek) == .streamEnd then return false
  else
    let handles ← directives (← get).ready false []
    if ← accept .documentStart then
      modify fun source => { source with handles := handles ++ defaultHandles }
      return true
    else throw badGrammar

/-- The number of levels that nodes may be nested in. -/
def levelLimit : Nat :=
  491

/-- A bound on the steps of reading a list of tokens. -/
def stepBound (tokens : List Token) : Nat :=
  3 * tokens.length + 3

/-- The content of a document with a marker; it may be missing. -/
def explicitContent (fuel : Nat) : NodeReader Nat := do
  match ← peek with
  | .directive _ => missing
  | .documentStart => missing
  | .documentEnd => missing
  | .streamEnd => missing
  | _ => node fuel levelLimit true false

/-- The first document of a stream. -/
def firstDocument (fuel : Nat) : NodeReader (Option Nat) := do
  let explicit ← match ← peek with
    | .directive _ => pure true
    | .documentStart => pure true
    | .streamEnd => pure true
    | _ => pure false
  if explicit then
    if ← explicitStart then return some (← explicitContent fuel) else return none
  else return some (← node fuel levelLimit true false)

/-- The only document of a stream. -/
def onlyDocument (fuel : Nat) : NodeReader (Option Nat) := do
  match ← firstDocument fuel with
  | none => return none
  | some n =>
    let _ ← accept .documentEnd
    if ← explicitStart then throw (.document .composition)
    return some n

end NodeReader

/-- The nodes of a document. -/
structure NodeGraph where
  /-- The nodes. -/
  nodes : Nodes
  /-- The numbers of the nodes in the order in which they were read to their end. A node comes
  after all that it holds, unless it is part of itself. -/
  order : List Nat
  /-- The number of the outermost node. -/
  root : Nat

/-- The nodes of a document, unless it is empty. The text may be cut off by a fault. -/
def readNodes? (cut : Option Fault) (t : Text) : Except Fault (Option NodeGraph) := do
  let found := tokens cut t
  let source : NodeSource :=
    { ready := found.ready
      fault := found.fault.getD NodeReader.badGrammar
      anchors := []
      handles := NodeReader.defaultHandles
      nodes := #[]
      finished := [] }
  let (root, source) ← (NodeReader.onlyDocument (NodeReader.stepBound found.ready)).run source
  return root.map fun n => ⟨source.nodes, source.finished.reverse, n⟩

end PortableSql.Yaml

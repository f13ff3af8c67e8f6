import PortableSql.Yaml.Binary
import PortableSql.Yaml.Merge
import PortableSql.Yaml.Number
import PortableSql.Yaml.Timestamp

/-!
# What the nodes of a settings document hold

A node becomes a cell by its tag: a scalar, or a collection that holds the numbers of other nodes.
A scalar that is not written as its tag asks for is malformed, and a node of the wrong shape cannot
be turned into a cell at all. Of several entries of a mapping with the same key the last one
counts, in the place of the first.

Scalars are read at once. Collections are only noted and are filled later, in the order in which
they were noted, so the faults of the outer collections come before those of the inner ones. No
node is read twice, wherever it is used.
-/

namespace PortableSql.Yaml

/-- What a node holds. -/
inductive Cell
  | scalar (s : Scalar)
  | list (items : List Nat)
  | pairs (pairs : List (Nat × Nat))
  | map (fields : List (Scalar × Nat))
  | set (members : List Scalar)
deriving DecidableEq, Repr

/-- The kind of value that a cell holds. -/
def Cell.kind : Cell → ValueKind
  | scalar s => s.kind
  | list _ => .list
  | pairs _ => .list
  | map _ => .mapping
  | set _ => .set

/-- The state of filling cells. -/
structure CellSource where
  /-- The nodes. -/
  nodes : Nodes
  /-- At least the number of merge entries. -/
  mergeLimit : Nat
  /-- The cells of the nodes that are read or noted. -/
  cells : Array (Option Cell)
  /-- The collections that are noted and not yet filled, the last one first. -/
  noted : List Nat

/-- Filling cells. -/
abbrev CellReader := StateT CellSource (Except Fault)

namespace CellReader

/-! ## Scalars -/

/-- The text of a scalar. A mapping stands for what it holds under the sign of a default value.
The first argument bounds the number of mappings on the way. -/
def scalarText (nodes : Nodes) : (fuel : Nat) → (n : Nat) → Except Fault Scalar
  | 0, _ => .error .nestedTooDeep
  | fuel + 1, n =>
    match nodes.content n with
    | .scalar text => .ok (.text text)
    | .halved codes => .ok (.halved codes)
    | .mapping entries =>
      match entries.find? fun entry => nodes.tag entry.1 == .value with
      | some entry => scalarText nodes fuel entry.2
      | none => .error unconstructible
    | .sequence _ => .error unconstructible

/-- A point in time, which must be written as a scalar itself. -/
def readMoment (content : NodeContent) (t : Text) : Except Fault Scalar :=
  match content with
  | .scalar _ => readTimestamp t
  | .halved _ => readTimestamp t
  | _ => .error (.notMatchable .list)

/-- The scalar of a node that has the tag of a scalar. -/
def scalarOf (nodes : Nodes) (n : Nat) : Except Fault Scalar := do
  let written := scalarText nodes (nodes.size + 1) n
  let read := written.map Scalar.shown
  match nodes.tag n with
  | .null => return (fun _ => .null) (← read)
  | .bool => return .bool (← readBool (← read))
  | .int => return .int (← readInt (← read))
  | .float => return .float (← readFloat n (← read))
  | .binary =>
    match readBytes? (← read) with
    | some bytes => return .bytes bytes
    | none => throw unconstructible
  | .timestamp => readMoment (nodes.content n) (← read)
  | .str => written
  | _ => throw unconstructible

/-! ## Collections -/

/-- A cell for a collection that is not yet filled. -/
def emptyCell? : Tag → Option Cell
  | .seq => some (.list [])
  | .omap => some (.pairs [])
  | .pairs => some (.pairs [])
  | .map => some (.map [])
  | .set => some (.set [])
  | _ => none

/-- Gives a node its cell. -/
def setCell (n : Nat) (cell : Cell) : CellReader Unit :=
  modify fun source => { source with cells := source.cells.setIfInBounds n (some cell) }

/-- Reads a scalar, or notes a collection, unless that was done before. -/
def note (n : Nat) : CellReader Unit := do
  let source ← get
  if ((source.cells.getD n none)).isSome then return ()
  match emptyCell? (source.nodes.tag n) with
  | some cell =>
    setCell n cell
    modify fun source => { source with noted := n :: source.noted }
  | none => setCell n (.scalar (← scalarOf source.nodes n))

/-- Reads a key. Only scalars are keys. -/
def noteKey (n : Nat) : CellReader Scalar := do
  note n
  match (← get).cells.getD n none with
  | some (.scalar key) => return key
  | _ => throw unconstructible

/-- Puts a value under a key; a key that is already there keeps its place. -/
def putField {α : Type} (fields : List (Scalar × α)) (key : Scalar) (value : α) :
    List (Scalar × α) :=
  if fields.any fun field => field.1.sameKey key then
    fields.map fun field => if field.1.sameKey key then (field.1, value) else field
  else fields ++ [(key, value)]

/-- The fields of a mapping with the given entries. -/
def noteFields (entries : List (Nat × Nat)) : CellReader (List (Scalar × Nat)) :=
  entries.foldlM
    (fun fields entry => do
      let key ← noteKey entry.1
      note entry.2
      return putField fields key entry.2)
    []

/-- The fields of a node that must be a mapping. -/
def fieldsOf (n : Nat) : CellReader (List (Scalar × Nat)) := do
  let source ← get
  match source.nodes.content n with
  | .mapping _ =>
    let (_, nodes) ← (flatten source.mergeLimit n).run source.nodes
    modify fun source => { source with nodes }
    noteFields (nodes.entries n)
  | _ => throw unconstructible

/-- The items of a node that must be a sequence. -/
def itemsOf (n : Nat) : CellReader (List Nat) := do
  match (← get).nodes.content n with
  | .sequence items => return items
  | _ => throw unconstructible

/-- The key and the value of a node that must be a mapping of one entry. -/
def pairOf (n : Nat) : CellReader (Nat × Nat) := do
  match (← get).nodes.content n with
  | .mapping [(key, value)] =>
    note key
    note value
    return (key, value)
  | _ => throw unconstructible

/-- Fills the cell of a collection. -/
def fill (n : Nat) : CellReader Unit := do
  match (← get).nodes.tag n with
  | .seq =>
    let items ← itemsOf n
    items.forM note
    setCell n (.list items)
  | .map => setCell n (.map (← fieldsOf n))
  | .set => setCell n (.set ((← fieldsOf n).map (·.1)))
  | _ => setCell n (.pairs (← (← itemsOf n).mapM pairOf))

/-- Fills the collections that are noted, and those that are noted on the way. The first argument
bounds the number of rounds. -/
def fillNoted : (fuel : Nat) → CellReader Unit
  | 0 => return ()
  | fuel + 1 => do
    match (← get).noted with
    | [] => return ()
    | noted =>
      modify fun source => { source with noted := [] }
      noted.reverse.forM fill
      fillNoted fuel

end CellReader

/-- The cells of a document, by the numbers of the nodes. -/
def readCells (graph : NodeGraph) : Except Fault (Array (Option Cell)) := do
  let source : CellSource :=
    { nodes := graph.nodes
      mergeLimit := graph.nodes.mergeCount
      cells := Array.replicate graph.nodes.size none
      noted := [] }
  let work : CellReader Unit := do
    CellReader.note graph.root
    CellReader.fillNoted (graph.nodes.size + 1)
  let (_, source) ← work.run source
  return source.cells

end PortableSql.Yaml

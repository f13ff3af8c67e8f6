import PortableSql.Yaml.Cell
import PortableSql.Yaml.Stream

/-!
# Values of a settings document

The cells of a document are put together to values. A cell is complete when all its parts are, and
since a node was read after its parts, one pass over the nodes in that order completes nearly all
of them. What is then still incomplete is part of itself and has no end: it is laid open to a few
levels, which is more than any setting needs.
-/

namespace PortableSql.Yaml

/-- The value of a cell whose parts have values. -/
def assemble? (part? : Nat → Option Value) : Cell → Option Value
  | .scalar s => some (.scalar s)
  | .list items => (items.mapM part?).map .list
  | .pairs pairs =>
    (pairs.mapM fun (key, value) => do
      return Value.pair (← part? key) (← part? value)).map .list
  | .map fields => (fields.mapM fun field => (part? field.2).map fun v => (field.1, v)).map .map
  | .set members => some (.set members)

/-- Values by the numbers of their nodes. -/
abbrev Values := Array (Option Value)

/-- The value of a node, if it is complete. -/
def Values.value? (values : Values) (n : Nat) : Option Value :=
  values.getD n none

/-- One pass over nodes: completes those whose parts are complete. -/
def completeOnce (cells : Array (Option Cell)) (order : List Nat) (values : Values) : Values :=
  order.foldl
    (fun values n =>
      if (values.value? n).isSome then values
      else
        let value := (cells.getD n none).bind (assemble? values.value?)
        values.setIfInBounds n value)
    values

/-- The number of values that are complete. -/
def Values.completeCount (values : Values) : Nat :=
  values.countP Option.isSome

/-- Passes over nodes until no further value can be completed. The first argument bounds the number
of passes. -/
def complete (cells : Array (Option Cell)) (order : List Nat) : Nat → Values → Values
  | 0, values => values
  | fuel + 1, values =>
    let next := completeOnce cells order values
    if next.completeCount == values.completeCount then next else complete cells order fuel next

/-- The number of levels to which endless values are laid open. -/
def openLevels : Nat :=
  5

/-- Lays endless values open to a number of levels. -/
def layOpen (cells : Array (Option Cell)) (values : Values) : Nat → Values
  | 0 => values.mapIdx fun n value =>
    value.or ((cells.getD n none).map fun cell => .endless cell.kind)
  | levels + 1 =>
    let below := layOpen cells values levels
    values.mapIdx fun n value =>
      value.or ((cells.getD n none).bind (assemble? below.value?))

/-- The value of the nodes of a document. -/
def valueOf (graph : NodeGraph) : Except Fault Value := do
  let cells ← readCells graph
  let values := complete cells graph.order (graph.nodes.size + 1)
    (Array.replicate graph.nodes.size none)
  match values.value? graph.root with
  | some value => return value
  | none =>
    return ((layOpen cells values openLevels).value? graph.root).getD (.scalar .null)

/-- The value of a settings document; an empty document is null. -/
def readDocument (stream : Stream) : Except Fault Value := do
  let (text, cut) ← stream.readable
  match ← readNodes? cut text with
  | none => return .scalar .null
  | some graph => valueOf graph

end PortableSql.Yaml

import PortableSql.Sql.Recording

/-!
# Recordings as documents

The record of an engine's answers can be kept in a document: a mapping with the readings, the moves
between dialects, and the functions of each dialect. What is missing in it is left open or empty.
-/

namespace PortableSql.Sql

/-- What a mapping holds under a name; null if it holds nothing there. -/
def entryOf (name : String) : Value → Value
  | .map fields =>
    ((fields.find? fun field => field.1 == .text name.toList).map (·.2)).getD (.scalar .null)
  | _ => .scalar .null

/-- A text, if the value is one. -/
def textOf? : Value → Option Text
  | .scalar (.text t) => some t
  | _ => none

/-- The items of a list. -/
def itemsOf : Value → List Value
  | .list items => items
  | _ => []

/-- The entries of a mapping whose keys are texts. -/
def entriesOf : Value → List (Text × Value)
  | .map fields => fields.filterMap fun (key, value) =>
    match key with
    | .text name => some (name, value)
    | _ => none
  | _ => []

namespace Rendering

/-- What a node is written as: a text, or a mapping from dialects to texts. -/
def ofValue (value : Value) : Rendering :=
  match value with
  | .map _ => .byDialect ((entriesOf value).map fun (dialect, text) => (dialect, textOf? text))
  | _ => .uniform ((textOf? value).getD [])

end Rendering

namespace Node

/-- A node without arguments and children that is written as nothing. -/
def blank : Node :=
  ⟨false, none, .uniform [], [], []⟩

/-- The node with a field set, unless the field is for its children. -/
def withField (node : Node) (name : Text) (value : Value) : Node :=
  if name == "func".toList then { node with isCall := value.isTruthy }
  else if name == "id".toList then
    { node with
      id := match value with
        | .scalar (.int n) => some n
        | _ => none }
  else if name == "sql".toList then { node with rendering := .ofValue value }
  else if name == "args".toList then
    { node with args := (entriesOf value).map fun (arg, text) => (arg, (textOf? text).getD []) }
  else node

mutual

/-- The node that a value describes. -/
def ofValue : Value → Node
  | .map fields => ofFields fields
  | _ => blank

/-- The node that the fields of a mapping describe. -/
def ofFields : List (Scalar × Value) → Node
  | [] => blank
  | (.text name, value) :: fields =>
    if name == "children".toList then { ofFields fields with children := ofChildren value }
    else (ofFields fields).withField name value
  | _ :: fields => ofFields fields

/-- The nodes that a list describes. -/
def ofChildren : Value → List Node
  | .list items => ofItems items
  | _ => []

/-- The nodes that values describe. -/
def ofItems : List Value → List Node
  | [] => []
  | value :: values => ofValue value :: ofItems values

end

end Node

/-- An answer: the reason of a failure, or what was given. -/
def answerOf {α : Type} (value : Value) (given : α) : Except Text α :=
  match textOf? (entryOf "raise" value) with
  | some reason => .error reason
  | none => .ok given

/-- A tree, if there is one. -/
def treeOf? : Value → Option Node
  | .scalar .null => none
  | value => some (.ofValue value)

/-- A recorded reading. -/
def ParseEntry.ofValue (value : Value) : ParseEntry where
  sql := textOf? (entryOf "sql" value)
  dialect := textOf? (entryOf "dialect" value)
  answer := answerOf value (treeOf? (entryOf "tree" value))

/-- A recorded move between dialects. -/
def TranspileEntry.ofValue (value : Value) : TranspileEntry where
  sql := textOf? (entryOf "sql" value)
  read := textOf? (entryOf "read" value)
  write := textOf? (entryOf "write" value)
  answer := answerOf value
    ((itemsOf (entryOf "result" value)).map fun text => (textOf? text).getD [])

/-- The implementation of a function: a scalar, or none. -/
def implementationOf : Value → Scalar
  | .scalar s => s
  | _ => .null

/-- The functions of a dialect, if it has a table of them. -/
def tableOf? (value : Value) : Option FunctionTable :=
  match value with
  | .map _ => some ((entriesOf value).map fun (name, entry) => (name, implementationOf entry))
  | _ => none

/-- A record of an engine's answers. -/
def Recording.ofValue (value : Value) : Recording where
  parses := (itemsOf (entryOf "parse" value)).map .ofValue
  transpiles := (itemsOf (entryOf "transpile" value)).map .ofValue
  dialects := (entriesOf (entryOf "dialects" value)).map fun (name, table) => (name, tableOf? table)

end PortableSql.Sql

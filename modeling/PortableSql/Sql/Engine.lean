import PortableSql.Sorting
import PortableSql.Sql.Node
import PortableSql.Text.Blank

/-!
# The SQL engine

Reading and writing SQL is the work of an engine: a value with three answers. It reads a text of a
dialect into a tree, it carries a text from one dialect to another, and it tells which functions a
dialect knows and how each is implemented. Nothing else is assumed about an engine.

Two adapters differ in a function when one of them lacks it or when they implement it differently.
-/

namespace PortableSql.Sql

/-- The functions that a dialect knows, each with its implementation; a false implementation counts
as none. -/
abbrev FunctionTable := List (Text × Scalar)

/-- An SQL engine. -/
structure Engine where
  /-- Reads a text. There may be no tree in it. -/
  parse : Text → Dialect → Except Fault (Option Node)
  /-- Carries a text from the first dialect to the second. -/
  transpile : Text → Dialect → Dialect → Except Fault (List Text)
  /-- The functions of a dialect, if the engine knows the dialect; the dialect may have no
  table. -/
  functions : Dialect → Option (Option FunctionTable)

namespace Engine

/-- The function tables of a list of adapters. -/
def tables (engine : Engine) (adapters : List Value) :
    Except Fault (List (Option FunctionTable)) :=
  adapters.mapM fun adapter => do
    let dialect ← Dialect.canonical adapter
    match engine.functions dialect with
    | some table => return table
    | none => throw (.unknownDialect dialect.shown)

/-- What a table holds for a function, unless it counts as none. -/
def implementation? (name : Text) (table : FunctionTable) : Option Scalar :=
  (table.lookup name).filter Scalar.isTruthy

/-- The distinct implementations of a function, as texts. -/
def implementations (tables : List (Option FunctionTable)) (name : Text) : List Text :=
  (tables.filterMap fun table => (table.bind (implementation? name)).map Scalar.shown).eraseDups

/-- A function differs when its implementations are several, or fewer than the dialects. -/
def differs (tables : List (Option FunctionTable)) (name : Text) : Bool :=
  let count := (implementations tables name).length
  1 < count || count < tables.length

/-- The names of all functions in the tables, each once. -/
def functionNames (tables : List (Option FunctionTable)) : List Text :=
  (tables.flatMap fun table => (table.getD []).map (·.1)).eraseDups

/-- The functions in which the adapters differ, in order of their names. -/
def differences (engine : Engine) (adapters : Value) : Except Fault (List Text) := do
  let tables ← engine.tables (← adapters.items)
  return sortBy Text.le ((functionNames tables).filter (differs tables))

/-- Carries a text from one adapter's dialect to another's. An engine that gives no text leaves it
as it is. -/
def transpileSql (engine : Engine) (sql : Text) (read write : Value) : Except Fault Text := do
  let read ← Dialect.canonical read
  let write ← Dialect.canonical write
  let texts ← engine.transpile sql read write
  return texts.head?.getD sql

/-- The name of a call: what stands before the first parenthesis of its text, in upper case. -/
def callName (sql : Text) : Text :=
  Text.upper (Text.strip (sql.takeWhile (· != '(')))

/-- The calls of an SQL text with their names, level by level. A text that cannot be read holds
none, but a text without a tree is a fault. -/
def calls (engine : Engine) (sql : Text) (adapter : Value) : Except Fault (List (Text × Node)) :=
  match Dialect.canonical adapter with
  | .error _ => .ok []
  | .ok dialect =>
    match engine.parse sql dialect with
    | .error _ => .ok []
    | .ok none => .error .noTree
    | .ok (some tree) =>
      (tree.walk.filter Node.isCall).mapM fun node => do
        let text ← node.render dialect
        return (callName text, node)

end Engine

end PortableSql.Sql

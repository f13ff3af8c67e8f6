import PortableSql.Text.Case
import PortableSql.Value.Shown

/-!
# Trees of SQL

The SQL engine reads a text into a tree of nodes, and writes a node in any dialect. A node knows
whether it is a function call. What it is written as is given by the engine as a text for each
dialect, in which the node's arguments stand for their names between braces.
-/

namespace PortableSql.Sql

/-- The dialect that the engine is asked for. -/
inductive Dialect
  /-- No dialect in particular. -/
  | unspecified
  /-- The dialect of this name. -/
  | named (name : Text)
  /-- An adapter that is no text, or holds half of a character, and so names no dialect. -/
  | foreign (adapter : Value)

namespace Dialect

/-- The dialect that an adapter stands for as it is written in the settings. -/
def ofValue : Value → Dialect
  | .scalar .null => unspecified
  | .scalar (.text name) => named name
  | adapter => foreign adapter

/-- A dialect in messages. -/
def shown : Dialect → Text
  | unspecified => "None".toList
  | named name => name
  | foreign adapter => adapter.shown

/-- Whether a dialect has the given name. -/
def hasName (name : Text) : Dialect → Bool
  | named own => own == name
  | _ => false

/-- The spellings under which a dialect is known. -/
def aliases : List (String × String) :=
  [("postgresql", "postgres")]

/-- The dialect's own name for an adapter: lower case, and one spelling for each dialect. -/
def canonicalName (adapter : Text) : Text :=
  let name := Text.lower adapter
  match aliases.find? fun entry => entry.1.toList == name with
  | some entry => entry.2.toList
  | none => name

/-- A byte that stands for an upper-case letter of ASCII as that of the lower-case one. -/
def lowerByte (b : UInt8) : UInt8 :=
  if 0x41 ≤ b && b ≤ 0x5a then b + 0x20 else b

/-- The dialect of an adapter of the settings, which is the same for all its spellings. Bytes have
lower-case letters too. -/
def canonical : Value → Except Fault Dialect
  | .scalar (.text adapter) => .ok (named (canonicalName adapter))
  | .scalar (.halved codes) => .ok (foreign (.scalar (.halved codes)))
  | .scalar (.bytes adapter) => .ok (foreign (.scalar (.bytes (adapter.map lowerByte))))
  | value => .error (.unsupported value.kind "lower")

end Dialect

/-- What a node is written as: the same in all dialects, or by dialect. The empty name stands for
no dialect in particular and a star for all that are not listed; a dialect without a text cannot
be written. -/
inductive Rendering
  | uniform (text : Text)
  | byDialect (entries : List (Text × Option Text))
deriving DecidableEq, Inhabited, Repr

/-- A node of an SQL tree. -/
structure Node where
  /-- The node is a function call. -/
  isCall : Bool
  /-- The node's number, if it has one. -/
  id : Option Int
  /-- What the node is written as. -/
  rendering : Rendering
  /-- The node's arguments by name. -/
  args : List (Text × Text)
  /-- The nodes below this one. -/
  children : List Node
deriving Inhabited

namespace Rendering

/-- What is listed for a dialect. -/
def entry? (entries : List (Text × Option Text)) : Dialect → Except Fault (Option (Option Text))
  | .unspecified => .ok (entries.lookup [])
  | .named name => .ok (entries.lookup name)
  | .foreign adapter =>
    match adapter.lookupFault? with
    | some fault => .error fault
    | none => .ok none

/-- What is written in a dialect, before arguments are put in. -/
def select? : Rendering → Dialect → Except Fault (Option Text)
  | uniform text, _ => .ok (some text)
  | byDialect entries, dialect => do
    match ← entry? entries dialect with
    | some entry => return entry
    | none => return (entries.lookup ['*']).join

end Rendering

namespace Node

/-- The arguments that may stand in a node's text. -/
def argumentNames : List String :=
  ["this", "expression", "expressions", "distinct"]

/-- Puts the arguments into a text, one name after the other. A missing argument is empty. -/
def fill (args : List (Text × Text)) (text : Text) : Text :=
  argumentNames.foldl
    (fun t name =>
      Text.replaceAll (['\x7b'] ++ name.toList ++ ['\x7d']) ((args.lookup name.toList).getD []) t)
    text

/-- The SQL of a node in a dialect. -/
def render (node : Node) (dialect : Dialect) : Except Fault Text := do
  match ← node.rendering.select? dialect with
  | some text => return fill node.args text
  | none => throw (.unrenderable dialect.shown)

/-- The text of an identifier. It is a node without arguments, so a name between braces in it is
filled with nothing. -/
def identifierText (identifier : Text) : Text :=
  fill [] identifier

/-- The node with its arguments taken away and a single identifier put in their place. -/
def withArgument (node : Node) (identifier : Text) : Node :=
  let kept := node.args.filter fun arg =>
    !argumentNames.any fun name => name.toList == arg.1
  { node with args := ("this".toList, identifierText identifier) :: kept }

/-- Joins two lists of levels level by level. -/
def mergeLevels : List (List Node) → List (List Node) → List (List Node)
  | [], levels => levels
  | levels, [] => levels
  | a :: as, b :: bs => (a ++ b) :: mergeLevels as bs

mutual

/-- The levels of a tree, from the top. -/
def levels : Node → List (List Node)
  | ⟨isCall, id, rendering, args, children⟩ =>
    [⟨isCall, id, rendering, args, children⟩] :: levelsOfAll children

/-- The levels of a row of trees. -/
def levelsOfAll : List Node → List (List Node)
  | [] => []
  | node :: nodes => mergeLevels (levels node) (levelsOfAll nodes)

end

/-- The nodes of a tree level by level, the top first. -/
def walk (node : Node) : List Node :=
  node.levels.flatten

/-- The first function call of a tree, level by level. -/
def firstCall? (node : Node) : Option Node :=
  node.walk.find? Node.isCall

mutual

/-- The function calls of a tree with their distance from the top, each before those below it. -/
def callsBelow (depth : Nat) : Node → List (Nat × Node)
  | ⟨isCall, id, rendering, args, children⟩ =>
    (if isCall then [(depth, ⟨isCall, id, rendering, args, children⟩)] else []) ++
      callsBelowAll (depth + 1) children

/-- The function calls of a row of trees with their distance from the top. -/
def callsBelowAll (depth : Nat) : List Node → List (Nat × Node)
  | [] => []
  | node :: nodes => callsBelow depth node ++ callsBelowAll depth nodes

end

end Node

end PortableSql.Sql

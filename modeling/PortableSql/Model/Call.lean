import PortableSql.Sql.Engine

/-!
# Calls that are made portable

A call in a model is replaced by a call of a macro when the dialects write it differently. The
macro is named after the function, and its single argument is the text between the parentheses of
the call, as a string unless it already starts with a quote.

Names of functions are ASCII words regardless of case. The four letters beyond ASCII whose case
mapping meets an ASCII letter count as letters too.
-/

namespace PortableSql.Model

open Sql

/-! ## Names -/

/-- Letters of function names. -/
def isNameLetter (c : Char) : Bool :=
  'a' ≤ c && c ≤ 'z' || 'A' ≤ c && c ≤ 'Z' || c == '_' ||
    c == '\u0130' || c == '\u0131' || c == '\u017f' || c == '\u212a'

/-- Characters of function names after the first. -/
def isNamePart (c : Char) : Bool :=
  isNameLetter c || '0' ≤ c && c ≤ '9'

/-- A text that starts with a name, cut after it. -/
def splitName? (sql : Text) : Option (Text × Text) :=
  match sql with
  | c :: cs =>
    if isNameLetter c then some (c :: cs.takeWhile isNamePart, cs.dropWhile isNamePart) else none
  | [] => none

/-- The name in front of an opening parenthesis at the start of a text, and what follows the
parenthesis. -/
def splitCall? (sql : Text) : Option (Text × Text) :=
  match splitName? sql with
  | some (name, rest) =>
    match Text.stripLeft rest with
    | '(' :: inside => some (name, inside)
    | _ => none
  | none => none

/-- A name that is all of a text, or all but a line feed at its end. -/
def bareName? (sql : Text) : Option Text :=
  match splitName? sql with
  | some (name, rest) => if rest.isEmpty || rest == ['\n'] then some name else none
  | none => none

/-- The name of the function that a text calls, in upper case: a name before a parenthesis, or the
whole text. -/
def functionName? (sql : Text) : Option Text :=
  match splitCall? sql with
  | some (name, _) => some (Text.upper name)
  | none => (bareName? sql).map Text.upper

/-- The name of the function that a node calls in a dialect. -/
def nodeName? (node : Node) (dialect : Dialect) : Except Fault (Option Text) := do
  return functionName? (← node.render dialect)

/-! ## Macro calls -/

/-- What stands before a parenthesis at the end of a text, where the text may go on with one line
feed. -/
def beforeClose? (inside : Text) : Option Text :=
  match inside.reverse with
  | ')' :: rest => some rest.reverse
  | '\n' :: ')' :: rest => some rest.reverse
  | _ => none

/-- The text between the parentheses of a call that is all of a text. -/
def arguments? (sql : Text) : Option Text :=
  match splitCall? sql with
  | some (_, inside) => beforeClose? inside
  | none => none

/-- What all macros of the library are named with. -/
def macroName (name : Text) : Text :=
  "portable_".toList ++ Text.lower name

/-- An expression tag around a text. -/
def expressionTag (inside : Text) : Text :=
  "\x7b\x7b ".toList ++ inside ++ " \x7d\x7d".toList

/-- The argument of a macro call: a string, unless it is empty or already starts with a quote. -/
def macroArgument (args : Text) : Text :=
  match args with
  | [] => []
  | c :: _ => if c == '\x27' || c == '\x22' then args else ['\x27'] ++ args ++ ['\x27']

/-- The macro call for a function and the text of a call of it. -/
def macroCall (name sql : Text) : Text :=
  let argument := match arguments? sql with
    | some args => macroArgument (Text.strip args)
    | none => []
  expressionTag (macroName name ++ ['('] ++ argument ++ [')'])

/-- The macro call for a function and a node that calls it. -/
def nodeMacroCall (name : Text) (node : Node) (dialect : Dialect) : Except Fault Text := do
  return macroCall name (← node.render dialect)

/-! ## Which calls are replaced -/

/-- Aggregates that are left alone when they have no arguments. -/
def aggregates : List String :=
  ["count", "sum", "min", "max", "avg"]

/-- A call with a star in it is left alone, and so is an aggregate without arguments. -/
def isEligible (name : Text) (node : Node) : Except Fault Bool := do
  let sql ← node.render .unspecified
  return !sql.contains '*' &&
    !(node.args.isEmpty && aggregates.any fun aggregate => aggregate.toList == Text.lower name)

/-- Whether dialects write a node in more than one way, given the ways seen so far. A dialect that
cannot write it differs from all. -/
def differsFrom (seen : List Text) (node : Node) : List Value → Except Fault Bool
  | [] => .ok (1 < seen.eraseDups.length)
  | adapter :: adapters => do
    let dialect ← Dialect.canonical adapter
    match node.render dialect with
    | .ok sql => differsFrom (sql :: seen) node adapters
    | .error _ => return true

/-- Whether the adapters write a node in more than one way. -/
def differs (node : Node) (adapters : Value) : Except Fault Bool := do
  differsFrom [] node (← adapters.items)

/-- A call that was found in a tree. -/
structure FoundCall where
  /-- The distance from the top of the tree. -/
  depth : Nat
  /-- The name of the function. -/
  name : Text
  /-- The node that calls it. -/
  node : Node

/-- The calls of a tree whose name can be told from their text. -/
def findCalls (tree : Node) (dialect : Dialect) : Except Fault (List FoundCall) := do
  let found ← (tree.callsBelow 0).mapM fun (depth, node) => do
    return (← nodeName? node dialect).map fun name => ⟨depth, name, node⟩
  return found.filterMap id

/-- A call to be replaced, by its text. -/
structure Replacement where
  /-- The distance from the top of the tree. -/
  depth : Int
  /-- The text of the call. -/
  sql : Text
  /-- The macro call that takes its place. -/
  macroCall : Text
deriving DecidableEq, Repr

/-- The replacement for a call, if it is to be replaced. -/
def replacement? (adapters : Value) (primary : Dialect) (call : FoundCall) :
    Except Fault (Option Replacement) := do
  if ← isEligible call.name call.node then
    if ← differs call.node adapters then
      let sql ← call.node.render primary
      return some ⟨call.depth, sql, macroCall call.name sql⟩
    else return none
  else return none

/-- The replacements for a list of calls. -/
def replacements (adapters : Value) (primary : Dialect) (calls : List FoundCall) :
    Except Fault (List Replacement) := do
  return (← calls.mapM (replacement? adapters primary)).filterMap id

end PortableSql.Model

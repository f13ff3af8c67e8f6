import PortableSql.Macro.Moment
import PortableSql.Model.Call

/-!
# The macro library

For every function the library has a dispatching macro and one macro for each adapter. The
dispatching macro passes its argument on to the macro of the adapter in use; that one holds the
function as the adapter's dialect writes it. A function that the engine cannot carry over is
called by its own name.
-/

namespace PortableSql.Macro

open Sql

/-- The parameter of all macros. -/
def parameter : Text :=
  "expression".toList

/-- What stands for the argument while a function is carried to another dialect. -/
def placeholder : Text :=
  "__PLACEHOLDER__".toList

/-- The line that starts a macro. -/
def macroBegin (name parameter : Text) : Text :=
  "\x7b% macro ".toList ++ name ++ ['('] ++ parameter ++ ") -%\x7d".toList

/-- The line that ends a macro. -/
def macroEnd : Text :=
  "\x7b%- endmacro %\x7d".toList

/-- A macro of one line, and an empty line after it. -/
def macroLines (name parameter body : Text) : List Text :=
  [macroBegin name parameter, "    ".toList ++ body, macroEnd, []]

/-- The macro that hands its argument to the macro of the adapter in use. -/
def dispatcher (name parameter : Text) : List Text :=
  macroLines (Model.macroName name) parameter
    (Model.expressionTag ("return(adapter.dispatch('".toList ++ Text.lower name ++
      "', 'portable')(".toList ++ parameter ++ "))".toList))

/-- A query that calls a function. -/
def probe (name placeholder : Text) : Text :=
  "SELECT ".toList ++ name ++ ['('] ++ placeholder ++ [')']

/-- A function call on a placeholder, as a dialect writes it. -/
def carry (engine : Engine) (name placeholder : Text) (primary target : Dialect) :
    Except Fault Text := do
  match ← engine.parse (probe name placeholder) primary with
  | none => throw .noTree
  | some tree =>
    match tree.firstCall? with
    | none => throw (.noCall (probe name placeholder))
    | some call => (call.withArgument placeholder).render target

/-- The body of an adapter's macro. -/
def adapterBody (engine : Engine) (name : Text) (primary dialect : Dialect) : Text :=
  match carry engine name placeholder primary dialect with
  | .ok sql => Text.replaceAll placeholder (Model.expressionTag parameter) sql
  | .error _ => name ++ ['('] ++ Model.expressionTag parameter ++ [')']

/-- The macro of an adapter. -/
def adapterMacro (engine : Engine) (name : Text) (primary : Dialect) (adapter : Value) :
    Except Fault (List Text) := do
  let dialect ← Dialect.canonical adapter
  return macroLines (dialect.shown ++ "__".toList ++ Text.lower name) parameter
    (adapterBody engine name primary dialect)

/-- All macros of a function. -/
def functionMacros (engine : Engine) (name : Text) (adapters : Value) (primary : Dialect) :
    Except Fault Text := do
  let macros ← (← adapters.items).mapM (adapterMacro engine name primary)
  return Text.join ['\n'] (dispatcher name parameter ++ macros.flatten)

/-- The comment at the head of the library. -/
def header (now : Moment) : Text :=
  "\x7b#\n  Auto-generated by dbt-multi-adapter-utils\n  Generated: ".toList ++ now.shown ++
    "\n  DO NOT EDIT MANUALLY\n\n".toList ++
    "  Regenerate with: dbt-multi-adapter-utils generate\n#\x7d\n\n".toList

/-- The library for a list of functions, in order of their names. -/
def library (engine : Engine) (now : Moment) (functions : List Text) (adapters : Value)
    (primary : Dialect) : Except Fault Text := do
  let macros ← (sortBy Text.le functions).mapM fun name => do
    return (← functionMacros engine name adapters primary) ++ ['\n']
  return header now ++ macros.flatten

end PortableSql.Macro

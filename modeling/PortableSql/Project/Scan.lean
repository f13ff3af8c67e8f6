import PortableSql.Project.Settings
import PortableSql.Sql.Engine
import PortableSql.Template.Region

/-!
# Scanning a project

Scanning counts the calls of functions in which the adapters differ. The functions are listed in
the order in which they are first found.
-/

namespace PortableSql

open Sql

namespace Project

/-- The names of the functions that a model calls, one for each call. -/
def modelFunctions (engine : Engine) (primary : Value) (model : Text) :
    Except Fault (List Text) := do
  let regions ← Template.regions model
  let calls ← (Template.sqlRegions model regions).mapM fun region =>
    engine.calls region.masked primary
  return calls.flatten.map (·.1)

/-- The names of the functions that a file calls. A file that cannot be read calls none. -/
def fileFunctions (engine : Engine) (tree : Tree) (primary : Value) (path : Path) :
    Except Fault (List Text) :=
  match tree.readText? path with
  | some model => modelFunctions engine primary model
  | none => .ok []

/-- The names of the functions that the models below a path call. -/
def folderFunctions (engine : Engine) (tree : Tree) (primary : Value) (path : Path) :
    Except Fault (List Text) := do
  return ((← (← tree.models path).mapM (fileFunctions engine tree primary))).flatten

/-- Adds one to the count of a name. -/
def addName (counts : List (Text × Nat)) (name : Text) : List (Text × Nat) :=
  if (counts.lookup name).isSome then
    counts.map fun count => if count.1 == name then (name, count.2 + 1) else count
  else counts ++ [(name, 1)]

/-- How often each name occurs, in the order of first occurrence. -/
def tally (names : List Text) : List (Text × Nat) :=
  names.foldl addName []

/-- The functions in which the adapters differ, and how often the models call them. The models are
read in the order of the paths of the settings, and a model that is reached by several paths counts
as often. -/
def scan (engine : Engine) (tree : Tree) (settings : Settings) :
    Except Fault (List (Text × Nat)) := do
  if !settings.scanProject.isTruthy then return []
  let primary ← settings.adapters.first
  let names ← settings.modelPaths.mapM (folderFunctions engine tree primary)
  let known ← engine.differences settings.adapters
  return (tally names.flatten).filter fun count => known.contains count.1

end Project

end PortableSql

import PortableSql.Project.Tree
import PortableSql.Yaml.Document

/-!
# Settings of a project

The settings name the adapters, where the macros go and where the models are. They stand in a file
at the root of the project, and paths in it count from there.
-/

namespace PortableSql

/-- The settings of a project. -/
structure Settings where
  /-- The adapters; the first one is that of the models as they are. -/
  adapters : Value
  /-- Where the macros go. -/
  macroOutput : Path
  /-- Whether models are scanned. -/
  scanProject : Value
  /-- Where the models are. -/
  modelPaths : List Path
  /-- The root of the project. -/
  projectRoot : Path

namespace Settings

/-- Where the macros go by default. -/
def defaultMacroOutput : Value :=
  .ofText "macros/portable_functions.sql".toList

/-- Where the models are by default. -/
def defaultModelPaths : Value :=
  .list [.ofText "models".toList]

/-- A path of the settings, counted from the root. -/
def pathFrom (root : Path) : Value → Except Fault Path
  | .scalar (.text t) => .ok (root.join (.ofText t))
  | .scalar (.halved codes) => .ok (root.join (.ofCodes codes))
  | value => .error (.notPath value.kind)

/-- The settings that a value holds, for a project with the given root. -/
def ofValue (root : Path) (value : Value) : Except Fault Settings := do
  if !value.isTruthy then throw .settingsEmpty
  let adapters := (← value.field? "adapters").getD (.list [])
  if !adapters.isTruthy then throw .tooFewAdapters
  if (← adapters.length) < 2 then throw .tooFewAdapters
  let macroOutput ← pathFrom root ((← value.field? "macro_output").getD defaultMacroOutput)
  let scanProject := (← value.field? "scan_project").getD (.scalar (.bool true))
  let modelPaths ←
    if scanProject.isTruthy then do
      let listed := (← value.field? "model_paths").getD defaultModelPaths
      (← listed.items).mapM (pathFrom root)
    else pure []
  return { adapters, macroOutput, scanProject, modelPaths, projectRoot := root }

/-- The text of a file. -/
def streamOf : Content → Yaml.Stream
  | .text chars => .ofText chars
  | .binary bytes => .ofBytes bytes

/-- Reads the settings file at a path. -/
def load (tree : Tree) (path : Path) : Except Fault Settings := do
  if !(← tree.hasEntry path) then throw (.settingsNotFound path.shown)
  let content ← tree.read path
  ofValue path.parent (← Yaml.readDocument (streamOf content))

end Settings

end PortableSql

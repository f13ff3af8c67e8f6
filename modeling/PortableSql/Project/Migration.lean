import PortableSql.Macro.Library
import PortableSql.Model.Replacement
import PortableSql.Project.Scan

/-!
# Making a project portable

Generating writes the macro library for a list of functions. Converting replaces calls in the
models by calls of macros; a dry run only tells which models would change.
-/

namespace PortableSql

open Sql

namespace Project

/-- Writes the macro library for a list of adapters. A name of an adapter that holds half of a
character cannot be written, and the file is empty then. -/
def writeLibrary (path : Path) (adapters : List Value) (library : Text) : Action Unit :=
  if adapters.any Value.isHalved then do
    Action.write path []
    throw .unencodable
  else Action.write path library

/-- Writes the macro library for a list of functions, unless the list is empty. Returns where the
library goes. -/
def generate (engine : Engine) (now : Macro.Moment) (settings : Settings)
    (functions : List Text) : Action Path := do
  if functions.isEmpty then return settings.macroOutput
  Action.makeFolders settings.macroOutput.parent
  let primary ← Action.ofExcept settings.adapters.first
  let library ← Action.ofExcept
    (Macro.library engine now functions settings.adapters (.ofValue primary))
  writeLibrary settings.macroOutput (← Action.ofExcept settings.adapters.items) library
  return settings.macroOutput

/-- Converts one model. Returns whether it changes. -/
def convertFile (engine : Engine) (adapters : Value) (primary : Dialect) (dryRun : Bool)
    (path : Path) : Action Bool := do
  match (← get).readText? path with
  | none => return false
  | some model =>
    let converted ← Action.ofExcept (Model.convert engine adapters primary model)
    if converted == model then return false
    if !dryRun then Action.write path converted
    return true

/-- Converts models one after the other. Returns those that change. -/
def convertFiles (engine : Engine) (adapters : Value) (primary : Dialect) (dryRun : Bool) :
    List Path → Action (List Path)
  | [] => return []
  | path :: paths => do
    let changes ← convertFile engine adapters primary dryRun path
    let rest ← convertFiles engine adapters primary dryRun paths
    return if changes then path :: rest else rest

/-- Converts the models below a path. Returns those that change. -/
def convertFolder (engine : Engine) (adapters : Value) (primary : Dialect) (dryRun : Bool)
    (path : Path) : Action (List Path) := do
  let models ← Action.ofExcept ((← get).models path)
  convertFiles engine adapters primary dryRun models

/-- Converts the models of a project, in the order of the paths of the settings. Returns those that
change. -/
def convert (engine : Engine) (settings : Settings) (dryRun : Bool) : Action (List Path) := do
  let primary ← Action.ofExcept settings.adapters.first
  let changed ← settings.modelPaths.mapM
    (convertFolder engine settings.adapters (.ofValue primary) dryRun)
  return changed.flatten

end Project

end PortableSql

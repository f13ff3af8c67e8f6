import PortableSql.Fault
import PortableSql.Project.Path

/-!
# The command line

A command line is the name of a command and its options. All commands take the path of the
settings file, and one of them a flag for a dry run. What is not known makes the command line
unusable. The path is looked at when all options are read, and arguments that are no options only
after that.
-/

namespace PortableSql

/-- What a command does. -/
inductive Task
  | scan
  | generate
  | generateLibrary
  | convert (dryRun : Bool)
  | migrate
deriving DecidableEq, Repr

/-- A task with the path of the settings file. -/
structure Command where
  /-- What to do. -/
  task : Task
  /-- Where the settings are. -/
  settings : Path
deriving DecidableEq, Repr

namespace Command

/-- Where the settings are by default. -/
def defaultSettings : Path :=
  .ofText ".dbt-multi-adapter.yml".toList

/-- The tasks by name. -/
def tasks : List (String × Task) :=
  [("scan", .scan), ("generate", .generate), ("generate-library", .generateLibrary),
    ("rewrite", .convert false), ("migrate", .migrate)]

/-- The task of a name. -/
def task? (name : Text) : Option Task :=
  (tasks.find? fun entry => entry.1.toList == name).map (·.2)

/-- The command with the flag for a dry run, if it takes the flag. -/
def withDryRun? (command : Command) : Option Command :=
  match command.task with
  | .convert _ => some { command with task := .convert true }
  | _ => none

/-- The command with other settings. -/
def withSettings (command : Command) (path : Text) : Command :=
  { command with settings := .ofText path }

/-- An option whose value belongs to the same argument, or a flag. -/
def attachedOption? (command : Command) (argument : Text) : Option Command :=
  match Text.after? "--config=".toList argument with
  | some path => some (command.withSettings path)
  | none =>
    if argument == "--dry-run".toList then command.withDryRun?
    else match argument with
      | '-' :: 'c' :: d :: path => some (command.withSettings (d :: path))
      | _ => none

/-- Why a command line cannot be run. -/
inductive Refusal
  /-- It is not written as a command line. -/
  | usage
  /-- The path of the settings cannot be used. -/
  | fault (fault : Fault)
deriving DecidableEq, Repr

/-- Whether an argument is written as an option. -/
def isOption (argument : Text) : Bool :=
  argument.head? == some '-' && 1 < argument.length

/-- Reads the options of a command. Returns the command and whether there are other arguments. -/
def options? (command : Command) (extra : Bool) : List Text → Option (Command × Bool)
  | [] => some (command, extra)
  | argument :: rest =>
    if argument == "--".toList then some (command, extra || !rest.isEmpty)
    else if argument == "--config".toList || argument == "-c".toList then
      match rest with
      | path :: rest => options? (command.withSettings path) extra rest
      | [] => none
    else if isOption argument then
      match command.attachedOption? argument with
      | some command => options? command extra rest
      | none => none
    else options? command true rest

/-- Reads the name of a command and its options. -/
def named? : List Text → Option (Command × Bool)
  | [] => none
  | name :: arguments => do
    options? ⟨← task? name, defaultSettings⟩ false arguments

/-- Reads a command line. Two hyphens may stand in front of the name. -/
def ofArguments (arguments : List Text) : Except Refusal Command :=
  let found := match arguments with
    | ['-', '-'] :: rest => named? rest
    | _ => named? arguments
  match found with
  | none => .error .usage
  | some (command, extra) =>
    if command.settings.shown.contains '\x00' then .error (.fault .nullCharacter)
    else if extra then .error .usage
    else .ok command

end Command

end PortableSql

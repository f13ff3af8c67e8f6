import PortableSql.Command.Line
import PortableSql.Project.Migration
import PortableSql.Report.Table

/-!
# Running commands

A command works on the tree of a project and prints a report. A fault ends the command; what was
done and printed before stays.
-/

namespace PortableSql

open Sql

/-- The tree of a project and what has been printed. -/
structure Session where
  /-- The tree. -/
  tree : Tree
  /-- What has been printed. -/
  output : Text
deriving DecidableEq, Repr

/-- Work on a tree with a report. -/
abbrev Console := ExceptT Fault (StateM Session)

namespace Console

/-- An answer that changes nothing. -/
def ofAnswer {α : Type} (answer : Except Fault α) : Console α :=
  ExceptT.mk (pure answer)

/-- Work on the tree. -/
def ofAction {α : Type} (action : Action α) : Console α :=
  ExceptT.mk do
    let session ← get
    let (answer, tree) := action.run.run session.tree
    set { session with tree }
    return answer

/-- Prints a text as it is. -/
def write (t : Text) : Console Unit :=
  modify fun session => { session with output := session.output ++ t }

/-- Prints a message with markup. -/
def print (message : Text) : Console Unit := do
  write (← ofAnswer (Report.printed message))

/-- Prints a message with markup that names a path. -/
def printNaming (path : Path) (message : Text) : Console Unit := do
  let report ← ofAnswer (Report.printed message)
  if path.isWhole then write report else throw .unencodable

end Console

namespace Command

open Console

/-- A message between style tags. -/
def styled (style : String) (message : Text) : Text :=
  ['['] ++ style.toList ++ [']'] ++ message ++ "[/".toList ++ style.toList ++ [']']

/-- A headline. -/
def headline (message : String) : Text :=
  styled "bold blue" message.toList

/-- The mark of success. -/
def checkMark : Text :=
  styled "bold green" "✓".toList

/-- The settings of a command. -/
def loadSettings (path : Path) : Console Settings := do
  ofAnswer (Settings.load (← get).tree path)

/-- The functions that a scan finds. -/
def scanProject (engine : Engine) (settings : Settings) : Console (List (Text × Nat)) := do
  ofAnswer (Project.scan engine (← get).tree settings)

/-- Scans the project and prints a table. -/
def runScan (engine : Engine) (path : Path) : Console Unit := do
  print (headline "Scanning dbt project...")
  let settings ← loadSettings path
  let counts ← scanProject engine settings
  write (← ofAnswer (Report.printedTable counts))
  print ("\n".toList ++ styled "bold" "Total unique functions:".toList ++ " ".toList ++
    Text.ofNat counts.length)

/-- Writes macros for the functions that a scan finds. -/
def runGenerate (engine : Engine) (now : Macro.Moment) (path : Path) : Console Unit := do
  print (headline "Generating macros...")
  let settings ← loadSettings path
  let counts ← scanProject engine settings
  let output ← ofAction (Project.generate engine now settings (counts.map (·.1)))
  printNaming output (checkMark ++ " Generated macros at: ".toList ++ output.shown)

/-- Writes macros for all functions in which the adapters differ. -/
def runGenerateLibrary (engine : Engine) (now : Macro.Moment) (path : Path) : Console Unit := do
  print (headline "Generating complete function library...")
  let settings ← loadSettings path
  let functions ← ofAnswer (engine.differences settings.adapters)
  let output ← ofAction (Project.generate engine now settings functions)
  printNaming output (checkMark ++ " Generated ".toList ++ Text.ofNat functions.length ++
    " macros at: ".toList ++ output.shown)

/-- Converts the models, or tells how many would change. -/
def runConvert (engine : Engine) (dryRun : Bool) (path : Path) : Console Unit := do
  print (headline (if dryRun then "Preview models..." else "Rewriting models..."))
  let settings ← loadSettings path
  let changed ← ofAction (Project.convert engine settings dryRun)
  let count := Text.ofNat changed.length
  if dryRun then
    print ("\n".toList ++
      styled "bold" ("Would modify ".toList ++ count ++ " file(s)".toList))
  else print (checkMark ++ " Modified ".toList ++ count ++ " file(s)".toList)

/-- Scans the project, writes the macros and converts the models. -/
def runMigrate (engine : Engine) (now : Macro.Moment) (path : Path) : Console Unit := do
  print (headline "Starting migration..." ++ "\n".toList)
  let settings ← loadSettings path
  print "[1/3] Scanning project...".toList
  let counts ← scanProject engine settings
  print ("      Found ".toList ++ Text.ofNat counts.length ++ " non-portable function(s)\n".toList)
  print "[2/3] Generating macros...".toList
  let output ← ofAction (Project.generate engine now settings (counts.map (·.1)))
  printNaming output ("      Generated macros at: ".toList ++ output.shown ++ "\n".toList)
  print "[3/3] Rewriting models...".toList
  let changed ← ofAction (Project.convert engine settings false)
  print ("      Modified ".toList ++ Text.ofNat changed.length ++ " file(s)\n".toList)
  print (styled "bold green" "✓ Migration complete!".toList)

/-- Runs a command. -/
def run (engine : Engine) (now : Macro.Moment) (command : Command) : Console Unit :=
  match command.task with
  | .scan => runScan engine command.settings
  | .generate => runGenerate engine now command.settings
  | .generateLibrary => runGenerateLibrary engine now command.settings
  | .convert dryRun => runConvert engine dryRun command.settings
  | .migrate => runMigrate engine now command.settings

/-- What is left of a command that was run. -/
structure Outcome where
  /-- The tree after the command. -/
  tree : Tree
  /-- What was printed. -/
  output : Text
  /-- Why the command failed, if it did. -/
  fault : Option Fault
deriving DecidableEq, Repr

/-- Runs a command on a tree. -/
def runOn (engine : Engine) (now : Macro.Moment) (tree : Tree) (command : Command) : Outcome :=
  let (answer, session) := (command.run engine now).run.run ⟨tree, []⟩
  match answer with
  | .ok _ => ⟨session.tree, session.output, none⟩
  | .error fault => ⟨session.tree, session.output, some fault⟩

end Command

end PortableSql

import PortableSql.Command.Run
import PortableSql.Sql.RecordingFormat

/-!
# The program

The program runs a command on the current folder. The answers of the SQL engine are taken from a
record in that folder.
-/

namespace PortableSql.Main

/-- Where the answers of the SQL engine are recorded. -/
def engineRecord : Path :=
  .ofText ".portable-sql-engine.yml".toList

/-- The content of a file. -/
def contentOf (bytes : ByteArray) : Content :=
  match String.fromUTF8? bytes with
  | some text => .text text.toList
  | none => .binary bytes.toList

/-- The bytes of a content. -/
def bytesOf : Content → ByteArray
  | .text chars => (String.ofList chars).toUTF8
  | .binary bytes => ⟨bytes.toArray⟩

/-- The files below the current folder, apart from those of version control. A file is locked that
cannot be opened to add to it. -/
def readTree : IO Tree := do
  let top ← IO.currentDir
  let mut tree := Tree.empty
  for place in ← top.walkDir fun folder => pure (folder.fileName != some ".git") do
    let path : Path :=
      ⟨.relative, (place.components.drop top.components.length).map String.toList⟩
    if ← place.isDir then tree := (Action.makeFolders path).treeAfter tree
    else
      tree := (Action.place path (contentOf (← IO.FS.readBinFile place))).treeAfter tree
      try discard (IO.FS.Handle.mk place .append)
      catch _ => tree := { tree with locked := ⟨.above 0, path.parts⟩ :: tree.locked }
  return tree

/-- Writes the files that a command has changed. -/
def writeChanges (before after : Tree) : IO Unit := do
  for (path, content) in after.changesSince before do
    let names := path.map String.ofList
    IO.FS.createDirAll ("/".intercalate ("." :: names.dropLast))
    IO.FS.writeBinFile ("/".intercalate names) (bytesOf content)

/-- The current moment: that at which a new file is made. -/
def currentMoment : IO Macro.Moment := do
  let (_, place) ← IO.FS.createTempFile
  let made := (← place.metadata).modified
  IO.FS.removeFile place
  return .ofSeconds made.sec.toNat

/-- The engine that is recorded in a tree. Without a record it has no answers. -/
def recordedEngine (tree : Tree) : Except Fault Sql.Engine := do
  match tree.readText? engineRecord with
  | some text => return (Sql.Recording.ofValue (← Yaml.readDocument (.ofText text))).engine
  | none => return (Sql.Recording.ofValue (.scalar .null)).engine

/-- Tells why a command failed. -/
def tell (fault : Fault) : IO Unit :=
  IO.eprintln (String.ofList (fault.message.getD "The settings cannot be read".toList))

/-- What a command line looks like. -/
def usage : String :=
  "Usage: COMMAND [--config PATH], where COMMAND is one of " ++
    ", ".intercalate (Command.tasks.map (·.1))

/-- Runs a command on the current folder. -/
def execute (command : Command) : IO UInt32 := do
  let tree ← readTree
  match recordedEngine tree with
  | .error fault =>
    tell fault
    return 1
  | .ok engine =>
    let outcome := command.runOn engine (← currentMoment) tree
    IO.print (String.ofList outcome.output)
    writeChanges tree outcome.tree
    match outcome.fault with
    | none => return 0
    | some fault =>
      tell fault
      return 1

end PortableSql.Main

/-- Runs the command that the arguments ask for. -/
def main (arguments : List String) : IO UInt32 := do
  match PortableSql.Command.ofArguments (arguments.map String.toList) with
  | .ok command => PortableSql.Main.execute command
  | .error .usage =>
    IO.eprintln PortableSql.Main.usage
    return 2
  | .error (.fault fault) =>
    PortableSql.Main.tell fault
    return 1

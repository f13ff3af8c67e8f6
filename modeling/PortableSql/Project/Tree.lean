import PortableSql.Fault
import PortableSql.Project.Path
import PortableSql.Sorting

/-!
# The files of a project

A tree holds the folders and files that a command can see. Locations count from the folder that the
command runs in, from a folder above it, or from the root. Of what is outside of the folder of the
command only a little is known: the folders above it, the usual folders at the root and the device
that keeps nothing. Everything else there is missing until a command makes it.

A file holds encoded text, or bytes that are none. Some files can be read but not written, and in
some folders nothing can be made.
-/

namespace PortableSql

/-- The content of a file. -/
inductive Content
  /-- Encoded text. -/
  | text (chars : Text)
  /-- Bytes that are no encoded text. -/
  | binary (bytes : List UInt8)
deriving DecidableEq, Repr

/-- What stands at a place. -/
inductive Entry
  | folder
  | file (content : Content)
deriving DecidableEq, Repr

/-- The folder that a location counts from. -/
inductive Base
  /-- The folder so many levels above the one that commands run in. -/
  | above (levels : Nat)
  /-- The root of all folders. -/
  | root
deriving DecidableEq, Repr

/-- A place: the names that lead there from a folder. -/
structure Location where
  /-- The folder to start from. -/
  base : Base
  /-- The names. -/
  names : List Text
deriving DecidableEq, Repr

namespace Location

/-- The folder that commands run in. -/
def top : Location :=
  ⟨.above 0, []⟩

/-- The folder that a location is in. The root is in itself. -/
def parent (location : Location) : Location :=
  match location.names, location.base with
  | [], .above levels => ⟨.above (levels + 1), []⟩
  | [], .root => location
  | _ :: _, base => ⟨base, location.names.dropLast⟩

/-- The location of a name in a folder. -/
def child (location : Location) (name : Text) : Location :=
  ⟨location.base, location.names ++ [name]⟩

/-- Whether two locations are the same. Most locations differ in how many names they have, which is
seen sooner than a difference of names. -/
def same (a b : Location) : Bool :=
  a.names.length == b.names.length && a == b

/-- The names that lead to a location from the folder that commands run in, if it is in there. -/
def inner? (location : Location) : Option (List Text) :=
  if location.base == .above 0 then some location.names else none

/-- The names that lead from a folder to a location in it. -/
def below? (folder location : Location) : Option (List Text) :=
  if folder.base == location.base && folder.names.isPrefixOf location.names then
    some (location.names.drop folder.names.length)
  else none

end Location

/-- The folders and files that a command can see, apart from those that are always there. -/
structure Tree where
  /-- The entries. -/
  entries : List (Location × Entry)
  /-- The files that cannot be written, and the folders in which nothing can be made. -/
  locked : List Location
deriving DecidableEq, Repr

/-- Why a path cannot be followed or used. -/
inductive Obstacle
  /-- Something on the way does not exist. -/
  | missing
  /-- A file stands where a folder should be. -/
  | blocked
  /-- A name or the whole path is too long. -/
  | tooLong
  /-- A name holds the character that ends a path. -/
  | nullCharacter
  /-- A name holds half of a character that stands for no byte. -/
  | unencodable
deriving DecidableEq, Repr

/-- The fault of using a path that an obstacle is in the way of. -/
def Obstacle.fault (obstacle : Obstacle) (path : Path) : Fault :=
  match obstacle with
  | missing => .notFound path.shown
  | blocked => .isFile path.shown
  | tooLong => .nameTooLong path.shown
  | nullCharacter => .nullCharacter
  | unencodable => .unencodable

namespace Tree

/-- A tree with nothing but what is always there. -/
def empty : Tree :=
  ⟨[], []⟩

/-! ## Places -/

/-- The folders at the root. -/
def rootFolders : List String :=
  ["bin", "boot", "dev", "etc", "home", "lib", "lib64", "media", "mnt", "opt", "proc", "root",
    "run", "sbin", "srv", "sys", "tmp", "usr", "var"]

/-- What is always there: the folders that locations count from, the folders at the root, and a
device that holds nothing. -/
def standing? (location : Location) : Option Entry :=
  match location.names with
  | [] => some .folder
  | [name] =>
    if location.base == .root && rootFolders.any fun folder => folder.toList == name then
      some .folder
    else none
  | [folder, name] =>
    if location.base == .root && folder == "dev".toList && name == "null".toList then
      some (.file (.text []))
    else none
  | _ => none

/-- What stands at a location, apart from what is always there. -/
def made? (tree : Tree) (location : Location) : Option Entry :=
  (tree.entries.find? fun entry => entry.1.same location).map (·.2)

/-- What stands at a location. -/
def lookup (tree : Tree) (location : Location) : Option Entry :=
  (standing? location).or (tree.made? location)

/-- Puts an entry at a location, in the place of one that is already there. What is always there
does not change. -/
def put (tree : Tree) (location : Location) (entry : Entry) : Tree :=
  if (standing? location).isSome then tree
  else if (tree.made? location).isSome then
    { tree with
      entries := tree.entries.map fun e => if e.1.same location then (location, entry) else e }
  else { tree with entries := tree.entries ++ [(location, entry)] }

/-- Whether nothing can be put at a location: what stands there is locked, or nothing stands there
and the folder is locked that it would be in. -/
def refuses (tree : Tree) (location : Location) : Bool :=
  tree.locked.contains (if (tree.lookup location).isSome then location else location.parent)

/-- The largest number of bytes of a name. -/
def nameLimit : Nat :=
  255

/-- The largest number of bytes of a path. -/
def pathLimit : Nat :=
  4096

/-- The number of bytes of a name. A slash and the character after it stand for one byte. -/
def byteCount : Text → Nat
  | [] => 0
  | '/' :: _ :: cs => byteCount cs + 1
  | c :: cs => byteCount cs + c.utf8Size

/-- The number of bytes of a path, with a slash after each name. -/
def pathSize (path : Path) : Nat :=
  path.parts.foldl (fun n name => n + byteCount name + 1) (Path.shownAnchor path.anchor).length

/-- Where a name leads from a folder. -/
def step (folder : Location) (name : Text) : Except Obstacle Location :=
  if name == ['.', '.'] then .ok folder.parent
  else if nameLimit < byteCount name then .error .tooLong
  else .ok (folder.child name)

/-- Follows names from a location. All but the last must be those of folders. -/
def follow (tree : Tree) (location : Location) : List Text → Except Obstacle Location
  | [] => .ok location
  | name :: names => do
    match tree.lookup location with
    | none => .error .missing
    | some (.file _) => .error .blocked
    | some .folder => tree.follow (← step location name) names

/-- Where a path starts. -/
def startOf : Anchor → Location
  | .relative => .top
  | _ => ⟨.root, []⟩

/-- A path that can be handed to the system at all. -/
def checkPath (path : Path) : Except Obstacle Unit :=
  if !path.isEncodable then .error .unencodable
  else if path.parts.any fun name => name.contains '\x00' then .error .nullCharacter
  else if pathLimit < pathSize path then .error .tooLong
  else .ok ()

/-- Where a path leads. -/
def locate (tree : Tree) (path : Path) : Except Obstacle Location := do
  checkPath path
  tree.follow (startOf path.anchor) path.parts

/-! ## Reading and writing -/

/-- What a path leads to, if it leads to anything. A path that is too long is a fault. -/
def entryAt? (tree : Tree) (path : Path) : Except Fault (Option Entry) :=
  match tree.locate path with
  | .ok location => .ok (tree.lookup location)
  | .error .tooLong => .error (Obstacle.tooLong.fault path)
  | .error _ => .ok none

/-- Whether a path leads to a file or folder. -/
def hasEntry (tree : Tree) (path : Path) : Except Fault Bool :=
  (tree.entryAt? path).map Option.isSome

/-- The content of the file that a path leads to. -/
def read (tree : Tree) (path : Path) : Except Fault Content :=
  match tree.locate path with
  | .error obstacle => .error (obstacle.fault path)
  | .ok location =>
    match tree.lookup location with
    | some (.file content) => .ok content
    | some .folder => .error (.isFolder path.shown)
    | none => .error (.notFound path.shown)

/-- The text of the file that a path leads to, with line feeds as line ends; nothing if there is
no such text. -/
def readText? (tree : Tree) (path : Path) : Option Text :=
  match tree.read path with
  | .ok (.text chars) => some (Text.normalizeNewlines chars)
  | _ => none

/-- A path at which a file can be written. -/
def locateFile (tree : Tree) (path : Path) : Except Fault Location :=
  match tree.locate path with
  | .error obstacle => .error (obstacle.fault path)
  | .ok location =>
    if tree.lookup location == some .folder then .error (.isFolder path.shown)
    else if tree.refuses location then .error (.notPermitted path.shown)
    else .ok location

/-! ## Models -/

/-- Models are files whose names end so. -/
def modelEnding : Text :=
  ".sql".toList

/-- Whether the last of the names is that of a model. -/
def endsAsModel (names : List Text) : Bool :=
  match names.getLast? with
  | some name => Text.endsWith name modelEnding
  | none => false

/-- Order of lists of names: by the first that differ, and a folder before what is in it. -/
def namesLe : List Text → List Text → Bool
  | [], _ => true
  | _ :: _, [] => false
  | a :: as, b :: bs => if a == b then namesLe as bs else Text.le a b

/-- Order of files: by folder, and then by name. So the files of a folder come before those of the
folders in it. -/
def fileLe (a b : List Text) : Bool :=
  if a.dropLast == b.dropLast then namesLe a b else namesLe a.dropLast b.dropLast

/-- The names that lead from a folder to the models below it. -/
def modelNames (tree : Tree) (folder : Location) : List (List Text) :=
  sortBy fileLe (tree.entries.filterMap fun (location, entry) =>
    match entry, folder.below? location with
    | .file _, some names => if endsAsModel names then some names else none
    | _, _ => none)

/-- The models below a path. -/
def models (tree : Tree) (path : Path) : Except Fault (List Path) := do
  if !(← tree.hasEntry path) then return []
  match tree.locate path with
  | .ok location =>
    if tree.lookup location == some .folder then
      return (tree.modelNames location).map path.append
    else return []
  | .error _ => return []

/-! ## Changes -/

/-- The files in the folder of the command that are not in an earlier tree with the same
content. -/
def changesSince (tree earlier : Tree) : List (List Text × Content) :=
  tree.entries.filterMap fun (location, entry) =>
    match location.inner?, entry with
    | some names, .file content =>
      if earlier.lookup location == some (.file content) then none else some (names, content)
    | _, _ => none

end Tree

/-- Work on a tree that may fail. What was done before a fault stays done. -/
abbrev Action := ExceptT Fault (StateM Tree)

namespace Action

/-- An answer that does not change the tree. -/
def ofExcept {α : Type} (answer : Except Fault α) : Action α :=
  ExceptT.mk (pure answer)

/-- A change of the tree that may fail. -/
def change (step : Tree → Except Fault Tree) : Action Unit := do
  set (← ofExcept (step (← get)))

/-- The tree after some work, whether it failed or not. -/
def treeAfter {α : Type} (action : Action α) (tree : Tree) : Tree :=
  (action.run.run tree).2

/-- Makes a folder at a location that a path leads to. It may be there already. -/
def makeFolderAt (path : Path) (location : Location) : Action Location := do
  match (← get).lookup location with
  | some .folder => return location
  | some (.file _) => throw (.alreadyExists path.shown)
  | none =>
    if (← get).refuses location then throw (.notPermitted path.shown)
    modify fun tree => tree.put location .folder
    return location

/-- Makes one folder. It may be there already. Returns where it is. -/
def makeFolder (path : Path) : Action Location := do
  match (← get).locate path with
  | .ok location => makeFolderAt path location
  | .error obstacle => throw (obstacle.fault path)

/-- Makes the folder of a name in a folder, where a path leads to. It may be there already. -/
def makeFolderIn (folder : Location) (name : Text) (path : Path) : Action Location := do
  match Tree.step folder name with
  | .ok location => makeFolderAt path location
  | .error obstacle => throw (obstacle.fault path)

/-- The largest number of folders on the way to another one that can be made with it. -/
def depthLimit : Nat :=
  987

/-- Makes the folder that the first names of a path lead to and, if need be, those on the way to
it. The first number says how many folders may be made. Returns where the folder is. -/
def makeFoldersTo (path : Path) : (depth count : Nat) → Action Location
  | _, 0 => makeFolder ⟨path.anchor, []⟩
  | 0, _ => throw .nestedTooDeep
  | depth + 1, count + 1 => do
    let here : Path := ⟨path.anchor, path.parts.take (count + 1)⟩
    match (← get).locate here with
    | .error .missing =>
      let folder ← makeFoldersTo path depth count
      makeFolderIn folder (path.parts.getD count []) here
    | _ => makeFolder here

/-- Makes a folder and, if need be, the folders on the way to it. -/
def makeFolders (path : Path) : Action Unit :=
  discard (makeFoldersTo path depthLimit path.parts.length)

/-- Puts a content in the file that a path leads to. -/
def store (path : Path) (content : Content) : Action Unit := do
  let location ← ofExcept ((← get).locateFile path)
  modify fun tree => tree.put location (.file content)

/-- Writes a text to the file that a path leads to. -/
def write (path : Path) (chars : Text) : Action Unit :=
  store path (.text chars)

/-- Puts a content in a file, and makes the folders on the way to it. -/
def place (path : Path) (content : Content) : Action Unit := do
  makeFolders path.parent
  store path content

end Action

end PortableSql

import PortableSql.Text.Quoted
import PortableSql.Value.Kind
import PortableSql.Yaml.Fault

/-!
# Faults

The ways in which a command can fail, and the message of each. The settings may hold values of any
kind, so many faults tell that a value has the wrong kind for what is asked of it.
-/

namespace PortableSql

/-- Why a command failed. -/
inductive Fault
  /-- A value of this kind has no length. -/
  | unmeasured (kind : ValueKind)
  /-- A value of this kind has no such operation. -/
  | unsupported (kind : ValueKind) (operation : String)
  /-- A value of this kind has no items to go through. -/
  | notIterable (kind : ValueKind)
  /-- A value of this kind has no item at a position. -/
  | notSubscriptable (kind : ValueKind)
  /-- A value of this kind cannot be joined to a path. -/
  | notPath (kind : ValueKind)
  /-- A value of this kind cannot be matched with a form of text. -/
  | notMatchable (kind : ValueKind)
  /-- A value of this kind cannot be looked up. -/
  | unhashable (kind : ValueKind)
  /-- An item to be concatenated is not a text. -/
  | notText (index : Nat) (kind : ValueKind)
  /-- A list or text has no first item. -/
  | empty (kind : ValueKind)
  /-- A mapping has no such key. -/
  | missingKey (key : Text)
  /-- A value is written in a way that its kind does not allow. -/
  | malformed (reason : Text)
  /-- The code of a character does not even fit into a machine integer. -/
  | hugeCode
  /-- A factor of a number is larger than every floating-point number. -/
  | hugeFactor
  /-- No SQL dialect has this name. -/
  | unknownDialect (name : Text)
  /-- The engine cannot write a node in this dialect. -/
  | unrenderable (dialect : Text)
  /-- The engine cannot read a text. -/
  | unparsable (reason : Text)
  /-- A text that holds no tree was searched for calls. -/
  | noTree
  /-- A text that should hold a call holds none. -/
  | noCall (sql : Text)
  /-- There is no settings file. -/
  | settingsNotFound (path : Text)
  /-- The settings file holds nothing. -/
  | settingsEmpty
  /-- The settings name fewer than two adapters. -/
  | tooFewAdapters
  /-- A settings file is not encoded text. -/
  | undecodable
  /-- A settings document is malformed. -/
  | document (fault : Yaml.DocumentFault)
  /-- The nodes of a settings document, or folders that are to be made, are nested too deep. -/
  | nestedTooDeep
  /-- A folder stands where a file was asked for. -/
  | isFolder (path : Text)
  /-- A file stands where a folder was asked for. -/
  | isFile (path : Text)
  /-- A folder cannot be made because a file has its name. -/
  | alreadyExists (path : Text)
  /-- There is no such file or folder. -/
  | notFound (path : Text)
  /-- A name or a path is too long. -/
  | nameTooLong (path : Text)
  /-- A path holds the character that ends a path. -/
  | nullCharacter
  /-- A file cannot be written, or nothing can be made in a folder. -/
  | notPermitted (path : Text)
  /-- A text that holds half of a character is to be written. -/
  | unencodable
  /-- A closing markup tag closes no open tag. -/
  | unopenedTag (tag : Text) (position : Nat)
  /-- An anonymous closing markup tag stands where no tag is open. -/
  | nothingToClose (position : Nat)
  /-- A literal among the parameters of a markup tag cannot be read. -/
  | unreadableParameters (literal parameters reason : Text)
  /-- The parameters of a markup tag are no literal. -/
  | badParameters (parameters reason : Text)
deriving DecidableEq, Repr

namespace Fault

/-- A system error with its number and the path that it is about. -/
def systemMessage (number : String) (reason : String) (path : Text) : Text :=
  "[Errno ".toList ++ number.toList ++ "] ".toList ++ reason.toList ++ ": ".toList ++
    Text.quoted path

/-- The name of a kind between quotes. -/
def quotedLabel (kind : ValueKind) : Text :=
  "'".toList ++ kind.label.toList ++ "'".toList

/-- The text of a fault. The faults of a document and of an encoding have none of their own. -/
def message : Fault → Option Text
  | unmeasured kind => some ("object of type ".toList ++ quotedLabel kind ++ " has no len()".toList)
  | unsupported kind operation =>
    some (quotedLabel kind ++ " object has no attribute '".toList ++ operation.toList ++ "'".toList)
  | notIterable kind => some (quotedLabel kind ++ " object is not iterable".toList)
  | notSubscriptable kind => some (quotedLabel kind ++ " object is not subscriptable".toList)
  | notPath kind =>
    some ("unsupported operand type(s) for /: 'PosixPath' and ".toList ++ quotedLabel kind)
  | notMatchable kind =>
    some ("expected string or bytes-like object, got ".toList ++ quotedLabel kind)
  | unhashable kind => some ("unhashable type: ".toList ++ quotedLabel kind)
  | notText index kind =>
    some ("sequence item ".toList ++ Text.ofNat index ++
      ": expected str instance, ".toList ++ kind.label.toList ++ " found".toList)
  | empty kind =>
    some ((if kind == .text then "string" else kind.label).toList ++ " index out of range".toList)
  | missingKey key => some key
  | malformed reason => some reason
  | hugeCode => some "Python int too large to convert to C int".toList
  | hugeFactor => some "int too large to convert to float".toList
  | unknownDialect name => some ("Unknown dialect '".toList ++ name ++ "'.".toList)
  | unrenderable dialect => some ("cannot generate for ".toList ++ dialect)
  | unparsable reason => some reason
  | noTree => some "'NoneType' object has no attribute 'walk'".toList
  | noCall sql => some ("No function found in ".toList ++ sql)
  | settingsNotFound path => some ("Config file not found: ".toList ++ path)
  | settingsEmpty => some "Config file is empty".toList
  | tooFewAdapters => some "At least 2 adapters must be specified".toList
  | undecodable => none
  | document _ => none
  | nestedTooDeep => none
  | isFolder path => some (systemMessage "21" "Is a directory" path)
  | isFile path => some (systemMessage "20" "Not a directory" path)
  | notPermitted path => some (systemMessage "13" "Permission denied" path)
  | alreadyExists path => some (systemMessage "17" "File exists" path)
  | notFound path => some (systemMessage "2" "No such file or directory" path)
  | nameTooLong path => some (systemMessage "36" "File name too long" path)
  | nullCharacter => some "embedded null byte".toList
  | unencodable => none
  | unopenedTag tag position =>
    some ("closing tag '".toList ++ tag ++ "' at position ".toList ++ Text.ofNat position ++
      " doesn't match any open tag".toList)
  | nothingToClose position =>
    some ("closing tag '[/]' at position ".toList ++ Text.ofNat position ++
      " has nothing to close".toList)
  | unreadableParameters literal parameters reason =>
    some ("error parsing ".toList ++ Text.quoted literal ++ " in ".toList ++
      Text.quoted parameters ++ "; ".toList ++ reason)
  | badParameters parameters reason =>
    some ("error parsing ".toList ++ Text.quoted parameters ++ "; ".toList ++ reason)

end Fault

end PortableSql

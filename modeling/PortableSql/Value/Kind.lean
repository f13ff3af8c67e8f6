import PortableSql.Text.Basic

/-!
# Kinds of values

Settings and tokens hold values of several kinds. Messages about a value of the wrong kind name
the kind.
-/

namespace PortableSql

/-- The kind of a value. -/
inductive ValueKind
  | absent
  | boolean
  | integer
  | float
  | text
  | bytes
  | date
  | timestamp
  | list
  | pair
  | mapping
  | set
deriving DecidableEq, Repr

namespace ValueKind

/-- The name of a kind in messages. -/
def label : ValueKind → String
  | absent => "NoneType"
  | boolean => "bool"
  | integer => "int"
  | float => "float"
  | text => "str"
  | bytes => "bytes"
  | date => "datetime.date"
  | timestamp => "datetime.datetime"
  | list => "list"
  | pair => "tuple"
  | mapping => "dict"
  | set => "set"

/-- The name of a kind without the module that it belongs to. -/
def shortLabel : ValueKind → String
  | date => "date"
  | timestamp => "datetime"
  | kind => kind.label

end ValueKind

end PortableSql

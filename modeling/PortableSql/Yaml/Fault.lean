/-!
# What can be wrong with a settings document

A document is read in steps, and each step has its own kind of fault.
-/

namespace PortableSql.Yaml

/-- Why a settings document cannot be read. -/
inductive DocumentFault
  /-- The text holds a character that no document may hold. -/
  | characters
  /-- A token is malformed or stands where none may start. -/
  | token
  /-- The text ends inside of a token. -/
  | unfinished
  /-- The tokens are in an order that makes no document. -/
  | grammar
  /-- An alias or anchor is wrong, or there is more than one document. -/
  | composition
  /-- A node cannot be turned into a value of the kind its tag asks for. -/
  | construction
deriving DecidableEq, Repr

end PortableSql.Yaml

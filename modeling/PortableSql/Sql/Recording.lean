import PortableSql.Sql.Engine

/-!
# Recorded engines

An engine can be given by a record of its answers. A question is answered by the first entry that
fits it; an entry may leave open which text or dialect it is for. A question that no entry fits
cannot be read.
-/

namespace PortableSql.Sql

/-- An entry fits every text where it leaves the text open. -/
def fits (wanted : Option Text) (actual : Text) : Bool :=
  wanted.all (· == actual)

/-- An entry fits every dialect where it leaves the dialect open. -/
def fitsDialect (wanted : Option Text) (actual : Dialect) : Bool :=
  wanted.all fun name => actual.hasName name

/-- A recorded reading of a text. -/
structure ParseEntry where
  /-- The text that was read, or any. -/
  sql : Option Text
  /-- The name of the dialect, or any. -/
  dialect : Option Text
  /-- The tree, or why there is none. -/
  answer : Except Text (Option Node)

/-- A recorded move from one dialect to another. -/
structure TranspileEntry where
  /-- The text that was read, or any. -/
  sql : Option Text
  /-- The name of the dialect that was read, or any. -/
  read : Option Text
  /-- The name of the dialect that was written, or any. -/
  write : Option Text
  /-- The texts that were written, or why there are none. -/
  answer : Except Text (List Text)

/-- A record of an engine's answers. -/
structure Recording where
  /-- The readings. -/
  parses : List ParseEntry
  /-- The moves between dialects. -/
  transpiles : List TranspileEntry
  /-- The dialects and their functions. -/
  dialects : List (Text × Option FunctionTable)

/-- The reason that is given when nothing was recorded. -/
def noEntry : Fault :=
  .unparsable "no entry".toList

/-- A recorded reason as a fault. -/
def recorded {α : Type} : Except Text α → Except Fault α
  | .ok a => .ok a
  | .error reason => .error (.unparsable reason)

/-- The engine that answers from a record. -/
def Recording.engine (recording : Recording) : Engine where
  parse sql dialect :=
    match recording.parses.find? fun entry =>
      fits entry.sql sql && fitsDialect entry.dialect dialect with
    | some entry => recorded entry.answer
    | none => .error noEntry
  transpile sql read write :=
    match recording.transpiles.find? fun entry =>
      fits entry.sql sql && fitsDialect entry.read read && fitsDialect entry.write write with
    | some entry => recorded entry.answer
    | none => .error noEntry
  functions dialect :=
    (recording.dialects.find? fun entry => dialect.hasName entry.1).map (·.2)

end PortableSql.Sql

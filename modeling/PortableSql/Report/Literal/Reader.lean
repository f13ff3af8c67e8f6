import PortableSql.Report.Literal.Term
import PortableSql.Report.Literal.Token

/-!
# Reading expressions

A reader takes tokens from the front of a list. It may fail, and then another one is tried from the
same place; or it may refuse the whole text with a message. What a rule of the grammar gave at a
place is remembered. This does not only save work: a rule that was once read without looking for
mistakes is not read again to look for them.
-/

namespace PortableSql.Report.Literal

/-- The rules of the grammar that are remembered. -/
inductive Rule
  | expression
  | starExpression
  | disjunction
  | conjunction
  | inversion
  /-- Operands with operators of some strength between them. -/
  | binary (strength : Nat)
  | factor
  | awaited
  | primary
  | arguments
  /-- A target of a loop. -/
  | target
  /-- A target without a star. -/
  | plainTarget
  /-- What stands before the last name of a target. -/
  | targetPrimary
  /-- What looks like a name that gets a value, but is none. -/
  | misnamed
deriving DecidableEq, Repr

/-- A place between two tokens. -/
structure Place where
  /-- The tokens after it. -/
  items : List Item
  /-- The number of brackets that are open there. -/
  level : Nat

/-- What is known from earlier reading. -/
structure Memory where
  /-- What the rules gave, by the number of tokens that were left. -/
  results : Array (List (Rule × Option (Term × Place)))
  /-- The least number of tokens that were left when a token was looked at. -/
  furthest : Nat

/-- What is wrong with a text. -/
structure Refusal where
  /-- The message. -/
  message : Text
  /-- The least number of tokens that were left when a token was looked at. -/
  furthest : Nat

/-- How a text is read. -/
structure Mode where
  /-- Whether likely mistakes are looked for. -/
  again : Bool
  /-- What all messages start with. -/
  label : Text
  /-- What is wrong with a pattern. -/
  patternProblem? : Quotation → Option Text

/-- A reader of tokens. -/
abbrev Reader := ReaderT Mode (StateT Place (OptionT (StateT Memory (Except Refusal))))

namespace Reader

/-- Refuses the text with a message that is complete. -/
def stop {α : Type} (message : Text) : Reader α :=
  fun _ _ => OptionT.mk fun memory => .error ⟨message, memory.furthest⟩

/-- Refuses the text. -/
def refuse {α : Type} (message : Text) : Reader α := do
  stop ((← read).label ++ message)

/-- Refuses the text with a fixed message. -/
def reject {α : Type} (message : String) : Reader α :=
  refuse message.toList

/-- What is wrong with a bracket that is never closed. -/
def neverClosed (bracket : Char) : Text :=
  "'".toList ++ [bracket] ++ "' was never closed".toList

/-- The next token. Looking at what is no token, or at the end of a text with an open bracket, is a
problem. -/
def look : Reader Token := do
  let items := (← get).items
  modifyThe Memory fun memory => { memory with furthest := min memory.furthest items.length }
  match items with
  | [] => return .finish
  | item :: _ =>
    match item.token with
    | .unclosed bracket _ => refuse (neverClosed bracket)
    | .backslash _ => reject "unexpected character after line continuation character"
    | .bad message => stop message
    | token => return token

/-- Passes over the next token. -/
def skip : Reader Unit :=
  modify fun place =>
    match place.items with
    | [] => place
    | item :: rest => ⟨rest, item.level⟩

/-- Reads a given token. -/
def expect (token : Token) : Reader Unit := do
  if (← look) == token then skip else failure

/-- Reads a mark. -/
def mark (t : String) : Reader Unit :=
  expect (.mark t.toList)

/-- Reads a keyword. -/
def word (t : String) : Reader Unit :=
  expect (.name t.toList)

/-- Words that are no names. -/
def keywords : List String :=
  ["False", "None", "True", "and", "as", "assert", "async", "await", "break", "class", "continue",
    "def", "del", "elif", "else", "except", "finally", "for", "from", "global", "if", "import",
    "in", "is", "lambda", "nonlocal", "not", "or", "pass", "raise", "return", "try", "while",
    "with", "yield"]

/-- Reads a name. -/
def name : Reader Text := do
  match ← look with
  | .name t =>
    if keywords.any fun word => word.toList == t then failure
    skip
    return t
  | _ => failure

/-- Reads a quotation. -/
def quotation : Reader Quotation := do
  match ← look with
  | .quotation q =>
    skip
    return q
  | _ => failure

/-- What a reader gives, if it does not fail. -/
def attempt {α : Type} (reader : Reader α) : Reader (Option α) :=
  (some <$> reader) <|> pure none

/-- Succeeds where a reader does, but reads nothing. -/
def ahead {α : Type} (reader : Reader α) : Reader Unit := do
  let place ← get
  discard reader
  set place

/-- Succeeds where a reader fails. -/
def absent {α : Type} (reader : Reader α) : Reader Unit := do
  if (← attempt (ahead reader)).isSome then failure

/-- Looks for a likely mistake, if mistakes are looked for. -/
def suspect {α : Type} (mistake : Reader α) : Reader Unit := do
  if (← read).again then discard (attempt (ahead mistake))

/-- Reads without looking for mistakes. -/
def trusting {α : Type} (reader : Reader α) : Reader α :=
  withReader (fun mode => { mode with again := false }) reader

/-- Uses a reader as often as it succeeds, but at most so many times. -/
def repeated {α : Type} (reader : Reader α) : Nat → Reader (List α)
  | 0 => return []
  | n + 1 => do
    match ← attempt reader with
    | none => return []
    | some a => return a :: (← repeated reader n)

/-- Uses a reader as often as it succeeds. -/
def many {α : Type} (reader : Reader α) : Reader (List α) := do
  repeated reader (← get).items.length

/-- Uses a reader at least once. -/
def many1 {α : Type} (reader : Reader α) : Reader (List α) := do
  let first ← reader
  return first :: (← many reader)

/-- Reads at least one item, with commas between them. -/
def separated {α : Type} (reader : Reader α) : Reader (List α) := do
  let first ← reader
  return first :: (← many (mark "," *> reader))

/-- Reads a comma that may be missing. -/
def lastComma : Reader Unit :=
  discard (attempt (mark ","))

/-- What a rule gives at a place: what it gave there before, or else what its reader gives now. -/
def remember (rule : Rule) (reader : Reader Term) : Reader Term := do
  let key := (← get).items.length
  match ((← getThe Memory).results.getD key []).lookup rule with
  | some (some (term, place)) =>
    set place
    return term
  | some none => failure
  | none =>
    let found ← attempt do
      let term ← reader
      return (term, ← get)
    modifyThe Memory fun memory =>
      { memory with results := memory.results.modify key ((rule, found) :: ·) }
    match found with
    | some (term, _) => return term
    | none => failure

end Reader

end PortableSql.Report.Literal

import PortableSql.Report.Literal.Grammar
import PortableSql.Report.Literal.Pattern

/-!
# Literals

A literal is read as an expression, so that the first problem is found where a reader of expressions
finds it. An expression that cannot be read is read a second time, in order to say what is wrong
with it. Then the places where a mistake is likely are looked at more closely.
-/

namespace PortableSql.Report.Literal

open Reader

/-- Expressions with commas between them. -/
def expressions (rules : Rules) : Reader Term := do
  let first ← rules .expression
  let others ← many (mark "," *> rules .expression)
  match ← attempt (mark ",") with
  | some _ => return .tuple (first :: others)
  | none => return if others.isEmpty then first else .tuple (first :: others)

/-- Expressions that are all of a text. -/
def wholeText (rules : Rules) : Reader Term := do
  let term ← expressions rules
  discard (many (expect .lineEnd))
  expect .finish
  return term

/-- A bound on the depth of rules in a text of so many tokens. -/
def depthBound (count : Nat) : Nat :=
  24 * (count + 2)

/-- What a reader gives for tokens, and the least number of tokens that were left when a token was
looked at. -/
def readItems (reader : Rules → Reader Term) (mode : Mode) (items : List Item) :
    Except Refusal (Option Term × Nat) := do
  let memory := ⟨Array.replicate (items.length + 1) [], items.length⟩
  let (found, memory) ← reader (rulesUpTo (depthBound items.length)) mode ⟨items, 0⟩ memory
  return (found.map (·.1), memory.furthest)

/-- The token after which so many tokens are left, itself included. -/
def itemAt? (items : List Item) (left : Nat) : Option Item :=
  (items.drop (items.length - left)).head?

/-- The bracket that is open at the end of a text, with its line. -/
def openAtEnd? (items : List Item) : Option (Char × Nat) :=
  match items.getLast?.map Item.token with
  | some (.unclosed bracket line) => some (bracket, line)
  | some (.backslash bracket) => bracket
  | _ => none

/-- What is wrong with a text that was refused. What is wrong with a later token comes first, and
also a bracket that was opened on an earlier line and is never closed. -/
def finalMessage (mode : Mode) (items : List Item) (refusal : Refusal) : Text :=
  match items.getLast?.map Item.token, openAtEnd? items with
  | some (.bad message), _ => message
  | _, some (bracket, line) =>
    if (itemAt? items refusal.furthest).any (line < ·.line) then
      mode.label ++ neverClosed bracket
    else refusal.message
  | _, none => refusal.message

/-- Whether the end of a text in which a bracket is open was seen. It is also seen by looking at the
last token before it, if that is no quotation and ends with the text. -/
def sawEnd (t : Text) (items : List Item) (refusal : Refusal) : Bool :=
  refusal.furthest ≤ 1 ||
    refusal.furthest == 2 && items.getLast?.any (·.token matches .unclosed _ _) &&
      !t.getLast?.any (fun c => [' ', '\t', '\n', '\x0c'].contains c) &&
      (itemAt? items 2).any fun item => !(item.token matches .quotation _)

/-- What a reader gives for a text. The text is read a second time if it cannot be read. -/
def readText (reader : Rules → Reader Term) (mode : Mode) (t : Text) : Except Text Term :=
  let items := tokens t
  let reading : Except Refusal (Option Term × Nat × Nat) := do
    let (found, furthest) ← readItems reader { mode with again := false } items
    if found.isSome then return (found, furthest, furthest)
    let (_, reached) ← readItems reader { mode with again := true } items
    return (none, furthest, min furthest reached)
  match reading with
  | .ok (some term, _, _) => .ok term
  | .ok (none, furthest, reached) =>
    if (itemAt? items furthest).any (·.token == .indent) then
      .error (mode.label ++ "unexpected indent".toList)
    else .error (finalMessage mode items ⟨mode.label ++ "invalid syntax".toList, reached⟩)
  | .error refusal =>
    .error (if sawEnd t items refusal then refusal.message else finalMessage mode items refusal)

/-- How patterns are read that are in as many others as some texts have characters. -/
def patternMode (label : Text) (expressionProblem? : Text → Option Text) : Mode where
  again := false
  label
  patternProblem? q :=
    PatternRules.problem? ⟨q.raw, label, expressionProblem?⟩ q.content

/-- What is wrong with the expression of a field. The depth bounds how many patterns may be in each
other. -/
def fieldProblem? : (depth : Nat) → Text → Option Text
  | 0, _ => none
  | depth + 1, t =>
    let mode := patternMode "f-string: ".toList (fieldProblem? depth)
    match readText starExpressions mode (['('] ++ t ++ [')']) with
    | .ok _ => none
    | .error problem => some problem

/-- What is wrong with a text that should be a literal. -/
inductive Problem
  /-- It cannot be read. -/
  | unreadable (message : Text)
  /-- It is read, but is no literal. -/
  | noLiteral (message : Text)
deriving DecidableEq, Repr

/-- What is wrong with a text that should be a literal, if anything is. -/
def problem? (t : Text) : Option Problem :=
  if t.contains '\x00' then some (.noLiteral "source code string cannot contain null bytes".toList)
  else
    match readText wholeText (patternMode [] (fieldProblem? t.length)) t with
    | .error message => some (.unreadable message)
    | .ok term =>
      match term.meaning with
      | .refused reason => some (.noLiteral reason)
      | _ => none

end PortableSql.Report.Literal

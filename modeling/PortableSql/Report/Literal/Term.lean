import PortableSql.Text.Basic

/-!
# Terms

A term is what an expression is, so far as it matters: whether it is a literal, what it is called in
messages, and whether something may be assigned to it. Numbers, quotations and constants are
literals, and so are tuples, sets and mappings of literals. What is written with names, calls and
most operators is none.
-/

namespace PortableSql.Report.Literal

/-- The arguments of a call. -/
structure Arguments where
  /-- How many have no name. -/
  positional : Nat
  /-- How many have a name or are taken out of a mapping. -/
  named : Nat
  /-- Whether some are taken out of a mapping. -/
  merged : Bool
deriving DecidableEq, Repr

/-- What an expression is. -/
inductive Term
  | name (t : Text)
  /-- One of the words that are constants. -/
  | word (t : String)
  | number (imaginary : Bool)
  | quotation
  | pattern
  | ellipsis
  | tuple (items : List Term)
  | set (items : List Term)
  /-- A mapping. A pair without a key is another mapping that is put into it. -/
  | mapping (pairs : List (Option Term × Term))
  /-- A plus or minus sign and an operand. -/
  | signed (operand : Term)
  /-- Two operands with a plus or minus sign between them. -/
  | sum (left right : Term)
  /-- Operands with another operator. -/
  | operation
  /-- A comparison; the left operand if it is one of containment. -/
  | comparison (contained : Option Term)
  /-- A name after a point. -/
  | member
  | call (function : Option Text) (arguments : Arguments)
  /-- An expression with a star in front of it. -/
  | starred (value : Term)
  /-- An expression of another kind. -/
  | other (kind : String)

namespace Term

/-- The name that a term is. -/
def name? : Term → Option Text
  | name t => some t
  | _ => none

/-- What a term is called in messages. -/
def kind : Term → String
  | name _ => "name"
  | word t => t
  | number _ => "literal"
  | quotation => "literal"
  | pattern => "f-string expression"
  | ellipsis => "ellipsis"
  | tuple _ => "tuple"
  | set _ => "set display"
  | mapping _ => "dict literal"
  | signed _ => "expression"
  | sum _ _ => "expression"
  | operation => "expression"
  | comparison _ => "comparison"
  | member => "attribute"
  | call _ _ => "function call"
  | starred _ => "starred"
  | other kind => kind

mutual

/-- The first part of a term that cannot be the target of a loop. The loop's own word for
containment makes a comparison of a target and what follows it. -/
def badTarget? : Term → Option Term
  | name _ => none
  | member => none
  | tuple items => badTargetOf? items
  | starred value => badTarget? value
  | comparison (some left) => badTarget? left
  | comparison none => none
  | term => some term

/-- The first of several targets that cannot be one. -/
def badTargetOf? : List Term → Option Term
  | [] => none
  | item :: items => (badTarget? item).or (badTargetOf? items)

end

end Term

/-! ## Meanings -/

/-- What a term stands for. -/
inductive Meaning
  /-- A number: whether it is written without a sign, and whether it is imaginary. -/
  | number (bare imaginary : Bool)
  /-- Another value that may be an element of a set or a key of a mapping. -/
  | constant
  /-- A value that may not: a set or a mapping. -/
  | mutable (kind : String)
  /-- An expression that is no literal. -/
  | refused (reason : Text)
deriving DecidableEq, Repr

/-- The reason why an expression is no literal. -/
def malformed : Meaning :=
  .refused "malformed node or string on line 1".toList

/-- The meaning of a sum or a difference: a real number and an imaginary one make a number. -/
def sumMeaning (left right : Meaning) : Meaning :=
  match left, right with
  | .number _ false, .number true true => .constant
  | _, _ => malformed

/-- The meaning of a number with a sign. -/
def signedMeaning : Meaning → Meaning
  | .number true imaginary => .number false imaginary
  | _ => malformed

/-- The meaning of a tuple. -/
def tupleMeaning (items : List Meaning) : Meaning :=
  let refused := items.find? fun item => item matches .refused _
  let mutable := items.find? fun item => item matches .mutable _
  (refused.or mutable).getD .constant

/-- The reason why something cannot be an element of a set or a key. -/
def notHashable (kind : String) : Meaning :=
  .refused ("unhashable type: '".toList ++ kind.toList ++ ['\x27'])

/-- What is wrong with an element or a key. -/
def keyProblem? : Meaning → Option Meaning
  | .refused reason => some (.refused reason)
  | .mutable kind => some (notHashable kind)
  | _ => none

/-- The meaning of a set. -/
def setMeaning (items : List Meaning) : Meaning :=
  (items.findSome? keyProblem?).getD (.mutable "set")

/-- What is wrong with a key and its value. A key that cannot be one is found after a value that is
no literal. -/
def pairProblem? (pair : Meaning × Meaning) : Option Meaning :=
  match pair with
  | (.refused reason, _) => some (.refused reason)
  | (_, .refused reason) => some (.refused reason)
  | (key, _) => keyProblem? key

/-- The meaning of a mapping. -/
def mappingMeaning (pairs : List (Meaning × Meaning)) : Meaning :=
  (pairs.findSome? pairProblem?).getD (.mutable "dict")

/-- The key of a mapping that is put into another one. -/
def mergedKey : Meaning :=
  .refused "malformed node or string: None".toList

/-- The meaning of a call: the empty set, which has no literal of its own, may be written so. -/
def callMeaning (function : Option Text) (arguments : Arguments) : Meaning :=
  if function == some "set".toList && arguments.positional == 0 && arguments.named == 0 then
    .mutable "set"
  else malformed

namespace Term

mutual

/-- What a term stands for. -/
def meaning : Term → Meaning
  | word _ => .constant
  | number imaginary => .number true imaginary
  | quotation => .constant
  | ellipsis => .constant
  | tuple items => tupleMeaning (meanings items)
  | set items => setMeaning (meanings items)
  | mapping pairs => mappingMeaning (pairMeanings pairs)
  | signed operand => signedMeaning (meaning operand)
  | sum left right => sumMeaning (meaning left) (meaning right)
  | call function arguments => callMeaning function arguments
  | _ => malformed

/-- What several terms stand for. -/
def meanings : List Term → List Meaning
  | [] => []
  | item :: items => meaning item :: meanings items

/-- What the pairs of a mapping stand for. -/
def pairMeanings : List (Option Term × Term) → List (Meaning × Meaning)
  | [] => []
  | (some key, value) :: pairs => (meaning key, meaning value) :: pairMeanings pairs
  | (none, value) :: pairs => (mergedKey, meaning value) :: pairMeanings pairs

end

end Term

end PortableSql.Report.Literal

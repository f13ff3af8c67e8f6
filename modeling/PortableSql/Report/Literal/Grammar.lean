import PortableSql.Report.Literal.Reader

/-!
# The grammar of expressions

Expressions are read by rules that call each other. A rule gets the reader of the remembered rules
as an argument, so that the recursion stands in one place, at the end.

Where mistakes are looked for, a rule first tries readers of likely mistakes. They refuse the text
if they find what they look for.
-/

namespace PortableSql.Report.Literal

open Reader

/-- The reader of the remembered rules. -/
abbrev Rules := Rule → Reader Term

/-! ## Operators -/

/-- Words that are names only in some places. -/
def softKeywords : List String :=
  ["_", "case", "match"]

/-- Names that once were followed by their arguments without brackets. -/
def commands : List String :=
  ["print", "exec"]

/-- Whether a name is one of a list. -/
def isOneOf (names : List String) (t : Text) : Bool :=
  names.any fun known => known.toList == t

/-- The strength of the weakest operator of arithmetic. -/
def weakest : Nat :=
  1

/-- The strength of plus and minus between operands. -/
def sumStrength : Nat :=
  5

/-- The marks of the operators of some strength. -/
def operators : Nat → List String
  | 1 => ["|"]
  | 2 => ["^"]
  | 3 => ["&"]
  | 4 => ["<<", ">>"]
  | 5 => ["+", "-"]
  | 6 => ["*", "/", "//", "%", "@"]
  | _ => []

/-- Reads one of several marks. -/
def oneOf (marks : List String) : Reader Unit := do
  let token ← look
  if marks.any fun t => token == .mark t.toList then skip else failure

/-- Operands of arithmetic. -/
def operand (rules : Rules) : Reader Term :=
  rules (.binary weakest)

/-- Alternatives, of which one must be true. -/
def disjunction (rules : Rules) : Reader Term := do
  let first ← rules .conjunction
  let others ← many (word "or" *> rules .conjunction)
  return if others.isEmpty then first else .operation

/-- Conditions, of which all must be true. -/
def conjunction (rules : Rules) : Reader Term := do
  let first ← rules .inversion
  let others ← many (word "and" *> rules .inversion)
  return if others.isEmpty then first else .operation

/-- The operators of comparison, and whether they are that of containment. -/
def comparator : Reader Bool :=
  (oneOf ["==", "!=", "<=", "<", ">=", ">"] *> pure false) <|>
    (word "not" *> word "in" *> pure false) <|> (word "in" *> pure true) <|>
    (word "is" *> word "not" *> pure false) <|> (word "is" *> pure false)

/-- An operator of comparison and an operand. -/
def compared (rules : Rules) : Reader Bool :=
  (do
    let contains ← comparator
    discard (operand rules)
    return contains) <|>
  (word "is" *> operand rules *> pure false)

/-- Operands that are compared. -/
def comparison (rules : Rules) : Reader Term := do
  let left ← operand rules
  match ← many (compared rules) with
  | [] => return left
  | contains :: _ => return .comparison (if contains then some left else none)

/-- A comparison or its negation. -/
def inversion (rules : Rules) : Reader Term :=
  (word "not" *> rules .inversion *> pure .operation) <|> comparison rules

/-- The operands of an operator of some strength. -/
def operandOf (rules : Rules) (strength : Nat) : Reader Term :=
  if strength < 6 then rules (.binary (strength + 1)) else rules .factor

/-- Operands with operators of some strength between them. -/
def binary (rules : Rules) (strength : Nat) : Reader Term := do
  let first ← operandOf rules strength
  let others ← many (oneOf (operators strength) *> operandOf rules strength)
  return others.foldl
    (fun left right => if strength == sumStrength then .sum left right else .operation) first

/-- Operands with signs in front of them, and powers. -/
def factor (rules : Rules) : Reader Term :=
  (oneOf ["+", "-"] *> .signed <$> rules .factor) <|>
  (mark "~" *> rules .factor *> pure .operation) <|>
  (rules .awaited *> mark "**" *> rules .factor *> pure .operation) <|>
  rules .awaited

/-- An operand that may be waited for. -/
def awaited (rules : Rules) : Reader Term :=
  (word "await" *> rules .primary *> pure (.other "await expression")) <|> rules .primary

/-! ## Expressions -/

/-- A choice between two expressions, or a disjunction. -/
def chosen (rules : Rules) : Reader Term :=
  (rules .disjunction *> word "if" *> rules .disjunction *> word "else" *> rules .expression *>
    pure (.other "conditional expression")) <|>
  rules .disjunction

/-- A name that gets a value. -/
def assignment (rules : Rules) : Reader Term :=
  name *> mark ":=" *> rules .expression *> pure (.other "named expression")

/-- An expression that gets no name. -/
def unnamed (rules : Rules) : Reader Term := do
  let term ← rules .expression
  absent (mark ":=")
  return term

/-- An expression that may get a name. -/
def namedExpression (rules : Rules) : Reader Term :=
  assignment rules <|> (suspect (rules .misnamed) *> unnamed rules)

/-- An expression, or operands with a star in front of them. -/
def starExpression (rules : Rules) : Reader Term :=
  (mark "*" *> .starred <$> operand rules) <|> rules .expression

/-- Expressions with commas between them. -/
def starExpressions (rules : Rules) : Reader Term := do
  let first ← rules .starExpression
  let others ← many (mark "," *> rules .starExpression)
  match ← attempt (mark ",") with
  | some _ => return .tuple (first :: others)
  | none => return if others.isEmpty then first else .tuple (first :: others)

/-- An item of a tuple or a set. -/
def item (rules : Rules) : Reader Term :=
  (mark "*" *> .starred <$> operand rules) <|> namedExpression rules

/-- Items with commas between them; a last comma may follow. -/
def itemList (rules : Rules) : Reader (List Term) := do
  let items ← separated (item rules)
  lastComma
  return items

/-- An argument or a group with a star in front of it. -/
def starred (rules : Rules) : Reader Term :=
  (mark "*" *> .starred <$> rules .expression) <|>
  (mark "*" *> reject "Invalid star expression")

/-- An expression that a generator gives in place of a value. -/
def yielded (rules : Rules) : Reader Term :=
  ((word "yield" *> word "from" *> discard (rules .expression)) <|>
    (word "yield" *> discard (attempt (starExpressions rules)))) *>
  pure (.other "yield expression")

/-! ## Loops -/

/-- Targets of a loop. -/
def targets (rules : Rules) : Reader Unit :=
  separated (rules .target) *> lastComma

/-- The start of a loop. -/
def loopStart : Reader Unit :=
  attempt (word "async") *> word "for"

/-- Targets to which nothing can be assigned. -/
def badTargets (rules : Rules) : Reader Unit := do
  loopStart
  if let some bad := (← starExpressions rules).badTarget? then
    refuse ("cannot assign to ".toList ++ bad.kind.toList)

/-- A loop and its conditions. -/
def loop (rules : Rules) : Reader Unit := do
  match ← attempt (loopStart *> targets rules *> word "in") with
  | some _ => rules .disjunction *> discard (many (word "if" *> rules .disjunction))
  | none => suspect (badTargets rules) *> failure

/-- At least one loop. -/
def loops (rules : Rules) : Reader Unit :=
  discard (many1 (loop rules))

/-- Items that a loop cannot give. -/
def badLoop (rules : Rules) : Reader Unit :=
  (oneOf ["(", "\x7b"] *> starred rules *> loops rules *>
    reject "iterable unpacking cannot be used in comprehension") <|>
  (mark "\x7b" *> item rules *> mark "," *> itemList rules *> loops rules *>
    reject "did you forget parentheses around the comprehension target?") <|>
  (mark "\x7b" *> item rules *> mark "," *> loops rules *>
    reject "did you forget parentheses around the comprehension target?")

/-- Values that are given by a loop one after the other. -/
def generator (rules : Rules) : Reader Term :=
  (mark "(" *> (assignment rules <|> unnamed rules) *> loops rules *> mark ")" *>
    pure (.other "generator expression")) <|>
  (suspect (badLoop rules) *> failure)

/-- What follows a part of a target. -/
def partEnd : Reader Unit :=
  oneOf ["(", "[", "."]

/-- A target with or without a star. -/
def target (rules : Rules) : Reader Term :=
  (mark "*" *> absent (mark "*") *> rules .target) <|> rules .plainTarget

/-- Targets in brackets. -/
def targetList (rules : Rules) : Reader Unit :=
  (rules .target *> many1 (mark "," *> rules .target) *> lastComma) <|>
  (rules .target *> mark ",")

/-- A target without a star. -/
def plainTarget (rules : Rules) : Reader Term :=
  (rules .targetPrimary *> mark "." *> name *> absent partEnd *> pure .member) <|>
  (.name <$> name) <|>
  (mark "(" *> rules .plainTarget <* mark ")") <|>
  (mark "(" *> attempt (targetList rules) *> mark ")" *> pure (.tuple []))

/-! ## Calls -/

/-- The kinds of arguments. -/
inductive Argument
  | plain
  | named
  | merged
deriving DecidableEq, Repr

/-- Several arguments. -/
def Arguments.of (arguments : List Argument) : Arguments where
  positional := (arguments.filter (· == .plain)).length
  named := (arguments.filter (· != .plain)).length
  merged := arguments.contains .merged

/-- A name with one equals sign after it. -/
def singleEquals {α : Type} : Reader α :=
  reject "invalid syntax. Maybe you meant '==' or ':=' instead of '='?"

/-- The words that are constants. -/
def constant : Reader String := do
  for t in ["True", "False", "None"] do
    if (← attempt (word t)).isSome then return t
  failure

/-- An argument without a name. -/
def plainArgument (rules : Rules) : Reader Argument :=
  (starred rules *> pure .plain) <|>
  ((assignment rules <|> unnamed rules) *> absent (mark "=") *> pure .plain)

/-- What looks like an argument with a name, but is none. -/
def badNamedArgument (rules : Rules) : Reader Unit :=
  (do
    let t ← constant
    mark "="
    refuse ("cannot assign to ".toList ++ t.toList)) <|>
  (name *> mark "=" *> rules .expression *> loops rules *> singleEquals) <|>
  (absent (name *> mark "=") *> rules .expression *> mark "=" *>
    reject "expression cannot contain assignment, perhaps you meant \"==\"?")

/-- An argument with a name. -/
def namedArgument (rules : Rules) : Reader Argument :=
  name *> mark "=" *> rules .expression *> pure .named

/-- An argument with a name, or one with a star. -/
def namedOrStarred (rules : Rules) : Reader Argument :=
  suspect (badNamedArgument rules) *>
    (namedArgument rules <|> (starred rules *> pure .plain))

/-- An argument with a name, or a mapping of them. -/
def namedOrMerged (rules : Rules) : Reader Argument :=
  suspect (badNamedArgument rules) *>
    (namedArgument rules <|> (mark "**" *> rules .expression *> pure .merged))

/-- Arguments from the first one with a name on. -/
def namedArguments (rules : Rules) : Reader (List Argument) :=
  (do
    let first ← separated (namedOrStarred rules)
    mark ","
    return first ++ (← separated (namedOrMerged rules))) <|>
  separated (namedOrStarred rules) <|> separated (namedOrMerged rules)

/-- Arguments with commas between them. -/
def argumentList (rules : Rules) : Reader (List Argument) :=
  (do
    let plain ← separated (plainArgument rules)
    let named ← attempt (mark "," *> namedArguments rules)
    return plain ++ named.getD []) <|>
  namedArguments rules

/-- A loop in a call without brackets of its own. -/
def bareLoop {α : Type} : Reader α :=
  reject "Generator expression must be parenthesized"

/-- What is wrong with the arguments of a call. -/
def badArguments (rules : Rules) : Reader Unit :=
  (((separated (plainArgument rules) *> mark "," *> namedArguments rules) <|>
      namedArguments rules) *>
    mark "," *> separated (starred rules <* absent (mark "=")) *>
    reject "iterable argument unpacking follows keyword argument unpacking") <|>
  (rules .expression *> loops rules *> mark "," *>
    attempt (discard (argumentList rules) <|> (rules .expression *> loops rules)) *> bareLoop) <|>
  (name *> mark "=" *> rules .expression *> loops rules *> singleEquals) <|>
  (do
    let arguments ← argumentList rules
    loops rules
    if 1 < (Arguments.of arguments).positional then bareLoop) <|>
  (argumentList rules *> mark "," *> rules .expression *> loops rules *> bareLoop) <|>
  (do
    let arguments ← argumentList rules
    mark ","
    discard (argumentList rules)
    reject (if (Arguments.of arguments).merged then
      "positional argument follows keyword argument unpacking"
    else "positional argument follows keyword argument"))

/-- The arguments of a call. -/
def arguments (rules : Rules) : Reader Term :=
  (do
    let arguments ← argumentList rules
    lastComma
    ahead (mark ")")
    return .call none (.of arguments)) <|>
  (suspect (badArguments rules) *> failure)

/-- A call of a function, given the function. -/
def Term.called (function : Term) : Option Term → Term
  | some (.call _ arguments) => .call function.name? arguments
  | _ => .call function.name? ⟨0, 0, false⟩

/-- What may follow an operand: a name after a point, or arguments. -/
def trailer (rules : Rules) (base : Term) : Reader Term :=
  (mark "." *> name *> pure .member) <|>
  (generator rules *> pure (base.called (some (.call none ⟨1, 0, false⟩)))) <|>
  (base.called <$> (mark "(" *> attempt (rules .arguments) <* mark ")"))

/-- An operand with at most so many trailers. -/
def trailers (rules : Rules) : Nat → Term → Reader Term
  | 0, base => return base
  | n + 1, base => do
    match ← attempt (trailer rules base) with
    | none => return base
    | some term => trailers rules n term

/-! ## Functions without a name -/

/-- The value that a parameter has by default. -/
def default (rules : Rules) : Reader Unit :=
  (mark "=" *> discard (rules .expression)) <|>
  (suspect (mark "=" *> ahead (oneOf [")", ","]) *>
    (reject "expected default value expression" : Reader Unit)) *> failure)

/-- What follows a parameter. -/
def parameterEnd : Reader Unit :=
  mark "," <|> ahead (mark ":")

/-- A parameter without a value. -/
def plainParameter : Reader Unit :=
  name *> parameterEnd

/-- A parameter with a value. -/
def setParameter (rules : Rules) : Reader Unit :=
  name *> default rules *> parameterEnd

/-- A parameter that may have a value. -/
def anyParameter (rules : Rules) : Reader Unit :=
  name *> attempt (default rules) *> parameterEnd

/-- Parameters before a slash, all without a value. -/
def plainBeforeSlash : Reader Unit :=
  many1 plainParameter *> mark "/" *> parameterEnd

/-- Parameters before a slash, the last of them with values. -/
def setBeforeSlash (rules : Rules) : Reader Unit :=
  many plainParameter *> many1 (setParameter rules) *> mark "/" *> parameterEnd

/-- What is wrong with a parameter that takes a mapping. -/
def badMergedParameter : Reader Unit :=
  (mark "**" *> name *> mark "=" *>
    reject "var-keyword argument cannot have default value") <|>
  (mark "**" *> name *> mark "," *> name *>
    reject "arguments cannot follow var-keyword argument") <|>
  (mark "**" *> name *> mark "," *> oneOf ["*", "**", "/"] *>
    reject "arguments cannot follow var-keyword argument")

/-- A parameter that takes a mapping. -/
def mergedParameter : Reader Unit :=
  suspect badMergedParameter *> mark "**" *> plainParameter

/-- What is wrong with parameters after a star. -/
def badStarParameters (rules : Rules) : Reader Unit :=
  (mark "*" *> (mark ":" <|> (mark "," *> oneOf [":", "**"])) *>
    reject "named arguments must follow bare *") <|>
  (mark "*" *> name *> mark "=" *>
    reject "var-positional argument cannot have default value") <|>
  (mark "*" *> (plainParameter <|> mark ",") *> many (anyParameter rules) *> mark "*" *>
    (plainParameter <|> mark ",") *> reject "* argument may appear only once")

/-- Parameters from a star on. -/
def starParameters (rules : Rules) : Reader Unit :=
  suspect (badStarParameters rules) *>
    ((mark "*" *> plainParameter *> many (anyParameter rules) *>
      discard (attempt mergedParameter)) <|>
    (mark "*" *> mark "," *> many1 (anyParameter rules) *> discard (attempt mergedParameter)) <|>
    mergedParameter)

/-- Parameters before a slash. -/
def beforeSlash (rules : Rules) : Reader Unit :=
  plainBeforeSlash <|> setBeforeSlash rules

/-- What is wrong with parameters. -/
def badParameters (rules : Rules) : Reader Unit :=
  (many plainParameter *> (setBeforeSlash rules <|> discard (many1 (setParameter rules))) *>
    plainParameter *> reject "non-default argument follows default argument") <|>
  (many plainParameter *> mark "(" *> separated name *> lastComma *> mark ")" *>
    reject "Lambda expression parameters cannot be parenthesized") <|>
  (mark "/" *> mark "," *> reject "at least one argument must precede /") <|>
  (beforeSlash rules *> many (anyParameter rules) *> mark "/" *>
    reject "/ may appear only once") <|>
  (attempt (beforeSlash rules) *> many (anyParameter rules) *> mark "*" *>
    (mark "," <|> plainParameter) *> many (anyParameter rules) *> mark "/" *>
    reject "/ must be ahead of *") <|>
  (many1 (anyParameter rules) *> mark "/" *> mark "*" *>
    reject "expected comma between / and *")

/-- The parameters of a function. -/
def parameters (rules : Rules) : Reader Unit :=
  let rest := discard (attempt (starParameters rules))
  suspect (badParameters rules) *>
    ((plainBeforeSlash *> many plainParameter *> many (setParameter rules) *> rest) <|>
    (setBeforeSlash rules *> many (setParameter rules) *> rest) <|>
    (many1 plainParameter *> many (setParameter rules) *> rest) <|>
    (many1 (setParameter rules) *> rest) <|>
    starParameters rules)

/-- A function without a name. -/
def function (rules : Rules) : Reader Term :=
  word "lambda" *> attempt (parameters rules) *> mark ":" *> rules .expression *>
    pure (.other "lambda")

/-! ## Operands -/

/-- The largest number of digits of a whole number. -/
def digitLimit : Nat :=
  4300

/-- Reads a number. -/
def number : Reader Term := do
  match ← look with
  | .number imaginary digits =>
    if digitLimit < digits then
      refuse ("Exceeds the limit (4300 digits) for integer string conversion: value has ".toList ++
        Text.ofNat digits ++ (" digits; use sys.set_int_max_str_digits() to increase the limit" ++
          " - Consider hexadecimal for huge integer literals to avoid decimal conversion " ++
          "limits.").toList)
    skip
    return .number imaginary
  | _ => failure

/-- What is wrong with one of several quotations that follow each other; the flag says whether the
first of them holds bytes. -/
def checkQuotation (bytes : Bool) (q : Quotation) : Reader Unit := do
  if let some problem := q.problem? then refuse problem
  if q.bytes != bytes then reject "cannot mix bytes and nonbytes literals"
  if q.pattern then
    if let some problem := (← read).patternProblem? q then stop problem

/-- Quotations that follow each other are one. -/
def quotations : Reader Term := do
  let found ← many1 quotation
  found.forM (checkQuotation (found.head?.any (·.bytes)))
  return if found.any (·.pattern) then .pattern else .quotation

/-- A tuple. -/
def tuple (rules : Rules) : Reader Term := do
  mark "("
  let items ← attempt do
    let first ← item rules <* mark ","
    return first :: ((← attempt (itemList rules)).getD [])
  mark ")"
  return .tuple (items.getD [])

/-- What is wrong with a single expression in brackets. -/
def badGroup (rules : Rules) : Reader Unit :=
  (mark "(" *> starred rules *> mark ")" *> reject "cannot use starred expression here") <|>
  (mark "(" *> mark "**" *> rules .expression *> mark ")" *>
    reject "cannot use double starred expression here")

/-- A single expression in brackets. -/
def group (rules : Rules) : Reader Term :=
  (mark "(" *> (yielded rules <|> namedExpression rules) <* mark ")") <|>
  (suspect (badGroup rules) *> failure)

/-- A key and its value. -/
def pair (rules : Rules) : Reader (Option Term × Term) := do
  let key ← rules .expression <* mark ":"
  return (some key, ← rules .expression)

/-- A pair, or another mapping. -/
def pairOrMapping (rules : Rules) : Reader (Option Term × Term) :=
  (mark "**" *> (none, ·) <$> operand rules) <|> pair rules

/-- What is wrong with the value of a pair. -/
def badValue (rules : Rules) : Reader Unit :=
  (rules .expression *> mark ":" *> mark "*" *> operand rules *>
    reject "cannot use a starred expression in a dictionary value") <|>
  (rules .expression *> mark ":" *> ahead (oneOf ["\x7d", ","]) *>
    reject "expression expected after dictionary key and ':'")

/-- What is wrong with a pair. -/
def badPair (rules : Rules) : Reader Unit :=
  (rules .expression *> absent (mark ":") *> reject "':' expected after dictionary key") <|>
  badValue rules

/-- A mapping. Some mistakes are always looked for. -/
def mapping (rules : Rules) : Reader Term :=
  (do
    mark "\x7b"
    let pairs ← attempt (separated (pairOrMapping rules) <* lastComma)
    mark "\x7d"
    return .mapping (pairs.getD [])) <|>
  (mark "\x7b" *>
    ((separated (pairOrMapping rules) *> mark "," *> badPair rules) <|> badValue rules) *> failure)

/-- A set. -/
def set (rules : Rules) : Reader Term :=
  mark "\x7b" *> .set <$> itemList rules <* mark "\x7d"

/-- A mapping that is given by a loop. -/
def mappingLoop (rules : Rules) : Reader Term :=
  (mark "\x7b" *> pair rules *> loops rules *> mark "\x7d" *>
    pure (.other "dict comprehension")) <|>
  (suspect (mark "\x7b" *> mark "**" *> operand rules *> loops rules *> mark "\x7d" *>
    (reject "dict unpacking cannot be used in dict comprehension" : Reader Unit)) *> failure)

/-- A set that is given by a loop. -/
def setLoop (rules : Rules) : Reader Term :=
  (mark "\x7b" *> namedExpression rules *> loops rules *> mark "\x7d" *>
    pure (.other "set comprehension")) <|>
  (suspect (badLoop rules) *> failure)

/-- An operand without signs: a name, a constant, or what stands between brackets. -/
def atom (rules : Rules) : Reader Term :=
  (.name <$> name) <|> (.word <$> constant) <|> quotations <|> number <|>
  (ahead (mark "(") *> (tuple rules <|> group rules <|> generator rules)) <|>
  (ahead (mark "\x7b") *>
    (mapping rules <|> set rules <|> mappingLoop rules <|> setLoop rules)) <|>
  (mark "..." *> pure .ellipsis)

/-- An operand with what follows it. -/
def primary (rules : Rules) : Reader Term := do
  trailers rules (← get).items.length (← atom rules)

/-- What stands before the last name of a target. -/
def targetPrimary (rules : Rules) : Reader Term := do
  let base ← atom rules <* ahead partEnd
  discard (many (trailer rules base *> ahead partEnd))
  return base

/-! ## Mistakes in expressions -/

/-- Two expressions without anything between them, and a choice without an alternative. -/
def badExpression (rules : Rules) : Reader Unit :=
  (do
    absent (discard (name *> quotation) <|> (do if !isOneOf softKeywords (← name) then failure))
    let first ← rules .disjunction
    discard (trusting (chosen rules <|> function rules))
    if !(first.name?.any (isOneOf commands)) && (← get).level != 0 then
      reject "invalid syntax. Perhaps you forgot a comma?") <|>
  (rules .disjunction *> word "if" *> rules .disjunction *>
    absent (word "else" <|> mark ":") *> reject "expected 'else' after 'if' expression")

/-- A command that is followed by its arguments. -/
def badCommand (rules : Rules) : Reader Unit := do
  let command ← name
  absent (mark "(")
  discard (starExpressions rules)
  if isOneOf commands command then
    refuse ("Missing parentheses in call to '".toList ++ command ++ "'. Did you mean ".toList ++
      command ++ "(...)?".toList)

/-- An expression. -/
def expression (rules : Rules) : Reader Term :=
  suspect (badExpression rules) *> suspect (badCommand rules) *>
    (chosen rules <|> function rules)

/-- The end of something that gets a value. -/
def noEquals : Reader Unit :=
  absent (oneOf ["=", ":="])

/-- What looks like a name that gets a value, but is none. -/
def misnamed (rules : Rules) : Reader Term :=
  (do
    let term ← rules .expression
    mark ":="
    discard (rules .expression)
    refuse ("cannot use assignment expressions with ".toList ++ term.kind.toList)) <|>
  (name *> mark "=" *> operand rules *> noEquals *> singleEquals) <|>
  (do
    absent (tuple rules <|> generator rules <|> .word <$> constant)
    let term ← operand rules
    mark "="
    discard (operand rules)
    noEquals
    refuse ("cannot assign to ".toList ++ term.kind.toList ++
      " here. Maybe you meant '==' instead of '='?".toList))

/-! ## All rules -/

/-- What a rule reads, given the reader of all rules. -/
def Rule.reader (rules : Rules) : Rules
  | expression => Literal.expression rules
  | starExpression => Literal.starExpression rules
  | disjunction => Literal.disjunction rules
  | conjunction => Literal.conjunction rules
  | inversion => Literal.inversion rules
  | binary strength => Literal.binary rules strength
  | factor => Literal.factor rules
  | awaited => Literal.awaited rules
  | primary => Literal.primary rules
  | arguments => Literal.arguments rules
  | target => Literal.target rules
  | plainTarget => Literal.plainTarget rules
  | targetPrimary => Literal.targetPrimary rules
  | misnamed => Literal.misnamed rules

/-- The reader of all rules, up to some depth. -/
def rulesUpTo : Nat → Rules
  | 0, _ => failure
  | depth + 1, rule => remember rule (rule.reader (rulesUpTo depth))

end PortableSql.Report.Literal

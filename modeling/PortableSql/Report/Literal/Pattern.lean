import PortableSql.Report.Literal.Token

/-!
# Patterns

A pattern is a quotation with fields in braces. A field is an expression, perhaps with an equals
sign after it, a conversion, and a format after a colon; the format may have fields too, but no
further formats with fields. Braces that stand for themselves are doubled.

What an expression in a field has to satisfy is given from outside. The messages about the pattern
itself start with a label.
-/

namespace PortableSql.Report.Literal

/-- How a pattern is read. -/
structure PatternRules where
  /-- Whether the characters of the pattern stand as they are written. -/
  raw : Bool
  /-- What all messages start with. -/
  label : Text
  /-- What is wrong with the expression of a field. -/
  expressionProblem? : Text → Option Text

namespace PatternRules

/-- Refuses a pattern. -/
def fault {α : Type} (rules : PatternRules) (message : Text) : Except Text α :=
  .error (rules.label ++ "f-string".toList ++ message)

/-- Refuses a pattern with a field that does not end. -/
def unclosed {α : Type} (rules : PatternRules) : Except Text α :=
  rules.fault ": expecting '\x7d'".toList

/-- A character between quotes. -/
def quoted (c : Char) : Text :=
  ['\x27', c, '\x27']

/-! ## Text between fields -/

/-- The text in front of a field, of the end of a format, or of the end of the pattern. -/
structure Passage where
  /-- What is written. -/
  written : Text
  /-- What follows. -/
  rest : Text
  /-- Whether the text ends with a doubled brace, of which only one is written. -/
  doubled : Bool
deriving DecidableEq, Repr

/-- The text in front of a brace. In a format a brace is never doubled. Elsewhere a single closing
brace is a fault. -/
def atBrace (rules : PatternRules) (inFormat : Bool) (passed : Text) (c : Char) (cs : Text) :
    Except Text Passage :=
  if inFormat then .ok ⟨passed.reverse, c :: cs, false⟩
  else if cs.head? == some c then .ok ⟨(c :: passed).reverse, cs.drop 1, true⟩
  else if c == '\x7d' then rules.fault ": single '\x7d' is not allowed".toList
  else .ok ⟨passed.reverse, c :: cs, false⟩

/-- Where a reader of text stands. -/
inductive Spot
  | plain
  /-- After a backslash. -/
  | escaped
  /-- After the letter that starts the name of a character. -/
  | naming
  /-- In the name of a character. -/
  | named
deriving DecidableEq, Repr

/-- Whether a character is a brace. -/
def isBrace (c : Char) : Bool :=
  c == '\x7b' || c == '\x7d'

/-- The text up to a brace or the end. The characters that were passed over are held with the last
one first. The braces around the name of a character do not count. -/
def passage (rules : PatternRules) (inFormat : Bool) :
    Spot → (passed : Text) → Text → Except Text Passage
  | _, passed, [] => .ok ⟨passed.reverse, [], false⟩
  | .plain, passed, c :: cs =>
    if c == '\\' && !rules.raw then passage rules inFormat .escaped (c :: passed) cs
    else if isBrace c then rules.atBrace inFormat passed c cs
    else passage rules inFormat .plain (c :: passed) cs
  | .escaped, passed, c :: cs =>
    if isBrace c then rules.atBrace inFormat passed c cs
    else passage rules inFormat (if c == 'N' then .naming else .plain) (c :: passed) cs
  | .naming, passed, c :: cs =>
    passage rules inFormat (if c == '\x7b' then .named else .plain) (c :: passed) cs
  | .named, passed, c :: cs =>
    passage rules inFormat (if c == '\x7d' then .plain else .named) (c :: passed) cs

/-! ## Fields -/

/-- The expression of a field, and what follows it. The count says how many characters are still to
be passed over. The quotation that the reader is in is given by its quote and whether it has three
of them, and the open brackets with the innermost first. -/
def fieldExpression (rules : PatternRules) :
    (skip : Nat) → Option (Char × Bool) → (brackets passed : Text) → Text →
      Except Text (Text × Text)
  | _, some _, _, _, [] => rules.fault ": unterminated string".toList
  | _, none, bracket :: _, _, [] => rules.fault (": unmatched ".toList ++ quoted bracket)
  | _, none, [], _, [] => rules.unclosed
  | skip + 1, quote, brackets, passed, c :: cs =>
    rules.fieldExpression skip quote brackets (c :: passed) cs
  | 0, quote, brackets, passed, c :: cs =>
    if c == '\\' then rules.fault " expression part cannot include a backslash".toList
    else
      let three := [c, c].isPrefixOf cs
      match quote with
      | some (mark, triple) =>
        if c == mark && (three || !triple) then
          rules.fieldExpression (if triple then 2 else 0) none brackets (c :: passed) cs
        else rules.fieldExpression 0 quote brackets (c :: passed) cs
      | none =>
        if c == '\x27' || c == '\x22' then
          rules.fieldExpression (if three then 2 else 0) (some (c, three)) brackets
            (c :: passed) cs
        else if (closing? c).isSome then
          if bracketLimit ≤ brackets.length then
            rules.fault ": too many nested parenthesis".toList
          else rules.fieldExpression 0 none (c :: brackets) (c :: passed) cs
        else if c == '#' then rules.fault " expression part cannot include '#'".toList
        else if brackets.isEmpty && ['!', '=', '<', '>'].contains c && cs.head? == some '=' then
          rules.fieldExpression 1 none brackets (c :: passed) cs
        else if brackets.isEmpty && ['!', ':', '\x7d', '='].contains c then
          .ok (passed.reverse, c :: cs)
        else if [')', ']', '\x7d'].contains c then
          match brackets with
          | [] => rules.fault (": unmatched ".toList ++ quoted c)
          | bracket :: outer =>
            if closing? bracket == some c then
              rules.fieldExpression 0 none outer (c :: passed) cs
            else rules.fault (": closing parenthesis ".toList ++ quoted c ++
              " does not match opening parenthesis ".toList ++ quoted bracket)
        else rules.fieldExpression 0 none brackets (c :: passed) cs

/-- Refuses an expression that is empty or that cannot be read. -/
def checkExpression (rules : PatternRules) (expression rest : Text) : Except Text Unit := do
  if expression.all fun c => [' ', '\t', '\n', '\x0c'].contains c then
    match rest with
    | '\x7d' :: _ => rules.fault ": empty expression not allowed".toList
    | c :: _ => rules.fault (": expression required before ".toList ++ quoted c)
    | [] => rules.unclosed
  if let some problem := rules.expressionProblem? expression then throw problem

/-- Passes over an equals sign and the blanks after it. -/
def afterEquals (t : Text) : Text :=
  if t.head? == some '=' then
    (t.drop 1).dropWhile fun c => [' ', '\t', '\n', '\x0b', '\x0c', '\r'].contains c
  else t

/-- Passes over a conversion. -/
def afterConversion (rules : PatternRules) (t : Text) : Except Text Text :=
  match t with
  | ['!'] => rules.unclosed
  | '!' :: c :: cs =>
    if ['s', 'r', 'a'].contains c then .ok cs
    else rules.fault ": invalid conversion character: expected 's', 'r', or 'a'".toList
  | _ => .ok t

/-- Passes over the brace at the end of a field. -/
def afterField (rules : PatternRules) (t : Text) : Except Text Text :=
  match t with
  | '\x7d' :: cs => .ok cs
  | _ => rules.unclosed

/-- Reads text and fields up to the end of the pattern or of a format, and returns what follows. The
level says how many formats the reader is in. -/
def pieces (rules : PatternRules) : (fuel level : Nat) → Text → Except Text Text
  | 0, _, t => .ok t
  | fuel + 1, level, t => do
    let found ← rules.passage (level != 0) .plain [] t
    if !rules.raw then
      if let some problem := textProblem? found.written then throw (rules.label ++ problem)
    match found.doubled, found.rest with
    | true, rest => rules.pieces fuel level rest
    | false, '\x7b' :: cs =>
      if 2 ≤ level then rules.fault ": expressions nested too deeply".toList
      let (expression, rest) ← rules.fieldExpression 0 none [] [] cs
      rules.checkExpression expression rest
      match ← rules.afterConversion (afterEquals rest) with
      | [':'] => rules.unclosed
      | ':' :: format =>
        let rest ← rules.afterField (← rules.pieces fuel (level + 1) format)
        rules.pieces fuel level rest
      | rest => rules.pieces fuel level (← rules.afterField rest)
    | false, rest => return rest

/-- What is wrong with the content of a pattern. -/
def problem? (rules : PatternRules) (content : Text) : Option Text :=
  match rules.pieces (content.length + 1) 0 content with
  | .ok _ => none
  | .error problem => some problem

end PatternRules

end PortableSql.Report.Literal

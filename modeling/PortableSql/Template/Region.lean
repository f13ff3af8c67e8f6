import PortableSql.Fault
import PortableSql.Template.Lexer

/-!
# Regions of a template

The tokens of a template fall into groups: a piece of text, a tag from its opening delimiter
through the next closing one, or any other single token. Pieces of text and tags are the regions
of the template. A tag is harmless when it is an expression that starts with one of a few known
names; a statement is control flow when it starts with one of the keywords. All other tags are
complex, and a template with a complex tag is left alone.

A region's content is the concatenation of its tokens' values, and its place is counted in the
lengths of the values before it. A token whose value has no length has no place.
-/

namespace PortableSql.Template

/-- What a region is to the reader of SQL. -/
inductive RegionKind
  | static
  | safeExpression
  | controlFlow
  | complex
deriving DecidableEq, Repr

/-- A piece of a template. -/
structure Region where
  /-- Where the region starts. -/
  start : Nat
  /-- Where the region ends. -/
  stop : Nat
  /-- What the region is. -/
  kind : RegionKind
  /-- The region's content. -/
  content : Lexeme
deriving DecidableEq, Repr

/-- A group of tokens that belong together. -/
inductive Group
  /-- A piece of text. -/
  | data (token : Token)
  /-- A tag, with its delimiters. -/
  | tag (kind : TagKind) (tokens : List Token)
  /-- A token outside of tags that is no text. -/
  | loose (token : Token)
deriving DecidableEq, Repr

/-- The kind of tag that a token opens. -/
def Token.tagKind? (token : Token) : Option TagKind :=
  match token.kind with
  | .variableBegin => some .expression
  | .blockBegin => some .statement
  | _ => none

/-- The tokens through the first one that closes a tag, or all of them. -/
def throughClose : List Token → List Token
  | [] => []
  | token :: tokens => if token.closesTag then [token] else token :: throughClose tokens

/-- The groups of tokens that follow an open tag, whose tokens so far are given in reverse. -/
def groupsFrom : Option (TagKind × List Token) → List Token → List Group
  | none, [] => []
  | some (kind, seen), [] => [.tag kind seen.reverse]
  | some (kind, seen), token :: tokens =>
    if token.closesTag then .tag kind (token :: seen).reverse :: groupsFrom none tokens
    else groupsFrom (some (kind, token :: seen)) tokens
  | none, token :: tokens =>
    if token.kind == .data then .data token :: groupsFrom none tokens
    else match token.tagKind? with
      | some kind => groupsFrom (some (kind, [token])) tokens
      | none => .loose token :: groupsFrom none tokens

/-- The groups of a list of tokens. -/
def groups (tokens : List Token) : List Group :=
  groupsFrom none tokens

/-- The length of a value. -/
def Lexeme.length : Lexeme → Except Fault Nat
  | .text chars => .ok chars.length
  | .parts items => .ok items.length
  | .unmeasured kind => .error (.unmeasured kind)

/-- The total length of the values of a list of tokens. -/
def totalLength : List Token → Except Fault Nat
  | [] => .ok 0
  | token :: tokens => do
    let n ← token.value.length
    let rest ← totalLength tokens
    return n + rest

/-- The concatenated values of tokens, of which the first has the given number. -/
def concatFrom : Nat → List Token → Except Fault Text
  | _, [] => .ok []
  | index, token :: tokens =>
    match token.value with
    | .text chars => (concatFrom (index + 1) tokens).map (chars ++ ·)
    | .parts _ => .error (.notText index .list)
    | .unmeasured kind => .error (.notText index kind)

/-- Expressions that start with one of these names leave the SQL around them readable. -/
def safeNames : List String :=
  ["ref", "source", "var", "config", "this", "target", "env_var"]

/-- Statements that start with one of these names are control flow. -/
def controlKeywords : List String :=
  ["if", "elif", "else", "endif", "for", "endfor", "block", "endblock", "macro", "endmacro",
    "set", "endset"]

/-- Whether the first name among the tokens is one of the given names. A list of texts cannot be
looked up. -/
def startsWithName (names : List String) : List Token → Except Fault Bool
  | [] => .ok false
  | token :: tokens =>
    if token.kind == .name then
      match token.value with
      | .text chars => .ok (names.any fun name => name.toList == chars)
      | .parts _ => .error (.unhashable .list)
      | .unmeasured _ => .ok false
    else startsWithName names tokens

/-- An expression is safe when its first name is a known one. -/
def isSafeExpression (tokens : List Token) : Except Fault Bool :=
  startsWithName safeNames tokens

/-- A statement is control flow when its first name is a keyword. -/
def isControlFlow (tokens : List Token) : Except Fault Bool :=
  startsWithName controlKeywords tokens

/-- What a tag is to the reader of SQL. -/
def classify : TagKind → List Token → Except Fault RegionKind
  | .statement, tokens => do
    return if ← isControlFlow tokens then .controlFlow else .complex
  | .expression, tokens => do
    return if ← isSafeExpression tokens then .safeExpression else .complex

/-- The regions of groups that start at the given place. -/
def regionsFrom : Nat → List Group → Except Fault (List Region)
  | _, [] => .ok []
  | start, .data token :: rest => do
    let n ← token.value.length
    let regions ← regionsFrom (start + n) rest
    return ⟨start, start + n, .static, token.value⟩ :: regions
  | start, .tag kind tokens :: rest => do
    let n ← totalLength tokens
    let regionKind ← classify kind tokens
    let content ← concatFrom 0 tokens
    let regions ← regionsFrom (start + n) rest
    return ⟨start, start + content.length, regionKind, .text content⟩ :: regions
  | start, .loose token :: rest => do
    let n ← token.value.length
    regionsFrom (start + n) rest

/-- The regions of a list of tokens. -/
def regionsOfTokens (tokens : List Token) : Except Fault (List Region) :=
  regionsFrom 0 (groups tokens)

/-- The number of the token after the tag that holds the given one. A negative number counts from
the end, and goes on with the first token after the last one. -/
def nextIndex (tokens : List Token) (index : Int) : Except Fault Int :=
  if 0 ≤ index then .ok (index + (throughClose (tokens.drop index.toNat)).length)
  else if (tokens.length : Int) < -index then .error (.empty .list)
  else
    let place := (tokens.length + index).toNat
    .ok (index + (throughClose (tokens.drop place ++ tokens)).length)

/-- The regions of a template. A malformed template is one complex region, and a template without
any region is one piece of text. -/
def regions (template : Text) : Except Fault (List Region) :=
  match lex? template with
  | none => .ok [⟨0, template.length, .complex, .text template⟩]
  | some tokens => do
    let found ← regionsOfTokens tokens
    if found.isEmpty then return [⟨0, template.length, .static, .text template⟩]
    else return found

/-! ## Masking -/

/-- Whether a template with these regions may be changed. -/
def isConvertible (regions : List Region) : Bool :=
  !regions.any fun region => region.kind == .complex

/-- Why a template may or may not be changed. -/
def reason (regions : List Region) : Text :=
  if isConvertible regions then "Template is safe to rewrite".toList
  else "Template contains complex Jinja expressions".toList

/-- The characters of a value, if it is made of texts. -/
def Lexeme.chars : Lexeme → Text
  | .text chars => chars
  | .parts items => items.flatten
  | .unmeasured _ => []

/-- What stands for a region in the SQL that is read: text stands for itself, and a tag is masked
by a name. -/
def Region.mask (region : Region) : Text :=
  match region.kind with
  | .static => region.content.chars
  | .safeExpression => " __PLACEHOLDER__ ".toList
  | .controlFlow => " __JINJA__, ".toList
  | .complex => " __JINJA__, ".toList

/-- The SQL of a template, with its tags masked. -/
def maskedSql (regions : List Region) : Text :=
  regions.flatMap Region.mask

/-- A part of a template that can be read as SQL. -/
structure SqlRegion where
  /-- Where the part starts. -/
  start : Int
  /-- Where the part ends. -/
  stop : Int
  /-- The SQL of the part, with its tags masked. -/
  masked : Text
deriving DecidableEq, Repr

/-- The parts of a template that can be read as SQL: the whole of it, unless it is blank. -/
def sqlRegions (template : Text) (regions : List Region) : List SqlRegion :=
  let masked := maskedSql regions
  if (Text.strip masked).isEmpty then [] else [⟨0, template.length, masked⟩]

end PortableSql.Template

import PortableSql.Value.Kind

/-!
# Tokens of a template

A template is text with tags in it: `{{ … }}` holds an expression and `{% … %}` a statement. Its
tokens are the pieces of text, the delimiters of the tags and the symbols between them. A token's
value is nearly always a text; numerals are numbers, which have no length.
-/

namespace PortableSql.Template

/-- What a token is. -/
inductive TokenKind
  | data
  | variableBegin
  | variableEnd
  | blockBegin
  | blockEnd
  | name
  | string
  | integer
  | float
  | operator
  | other (label : Text)
deriving DecidableEq, Repr

/-- The value of a token: a text, a list of texts, or a value of a kind that has no length. -/
inductive Lexeme
  | text (chars : Text)
  | parts (items : List Text)
  | unmeasured (kind : ValueKind)
deriving DecidableEq, Repr

/-- A token with its value. -/
structure Token where
  /-- What the token is. -/
  kind : TokenKind
  /-- The token's value. -/
  value : Lexeme
deriving DecidableEq, Repr

namespace Token

/-- The token closes an expression or a statement. -/
def closesTag (token : Token) : Bool :=
  token.kind == .variableEnd || token.kind == .blockEnd

/-- A token whose value is a text. -/
def ofText (kind : TokenKind) (chars : Text) : Token :=
  ⟨kind, .text chars⟩

end Token

end PortableSql.Template

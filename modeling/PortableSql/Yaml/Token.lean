import PortableSql.Text.Digits

/-!
# Tokens of a settings document
-/

namespace PortableSql.Yaml

/-- What a directive says. -/
inductive Directive
  | version (major minor : Nat)
  | tagHandle (handle expansion : Text)
  | unknown
deriving DecidableEq, Repr

/-- The tokens of a settings document. The starts and ends of block collections are not written;
they follow from the indentation. -/
inductive Token
  | streamEnd
  | directive (directive : Directive)
  | documentStart
  | documentEnd
  | blockSequenceStart
  | blockMappingStart
  | blockEnd
  | flowSequenceStart
  | flowSequenceEnd
  | flowMappingStart
  | flowMappingEnd
  | blockEntry
  | flowEntry
  | key
  | value
  | alias (name : Text)
  | anchor (name : Text)
  | tag (handle : Option Text) (suffix : Text)
  | scalar (text : Text) (plain : Bool)
  /-- A quoted scalar of which some codes stand for half of a character. -/
  | halved (codes : List Nat)
deriving DecidableEq, Repr

/-- The quoted scalar with the given codes. -/
def Token.ofCodes (codes : List Nat) : Token :=
  if codes.any Text.isHalfCode then halved codes else scalar (codes.map Char.ofNat) false

end PortableSql.Yaml

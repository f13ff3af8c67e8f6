import PortableSql.Report.Colour
import PortableSql.Text.Case

/-!
# Styles

A style is a list of words: attributes, which may be denied, a colour of the text, a colour of the
ground and the target of a link. Styles with the same effect have the same name, in which the words
have one spelling and one order.
-/

namespace PortableSql.Report

/-- A property of letters that a style sets. -/
inductive Attribute
  | bold
  | dim
  | italic
  | underline
  | blink
  | blink2
  | reverse
  | conceal
  | strike
  | underline2
  | frame
  | encircle
  | overline
deriving DecidableEq, Repr

namespace Attribute

/-- The attributes in the order in which they are named. -/
def all : List Attribute :=
  [bold, dim, italic, underline, blink, blink2, reverse, conceal, strike, underline2, frame,
    encircle, overline]

/-- The names of an attribute; the first one is used in the names of styles. -/
def names : Attribute → String × List String
  | bold => ("bold", ["b"])
  | dim => ("dim", ["d"])
  | italic => ("italic", ["i"])
  | underline => ("underline", ["u"])
  | blink => ("blink", [])
  | blink2 => ("blink2", [])
  | reverse => ("reverse", ["r"])
  | conceal => ("conceal", ["c"])
  | strike => ("strike", ["s"])
  | underline2 => ("underline2", ["uu"])
  | frame => ("frame", [])
  | encircle => ("encircle", [])
  | overline => ("overline", ["o"])

/-- The attribute that a word names. -/
def named? (word : Text) : Option Attribute :=
  all.find? fun a => (a.names.1 :: a.names.2).any fun name => name.toList == word

end Attribute

/-- A style. -/
structure Style where
  /-- Attributes that are set or denied, the latest first. -/
  settings : List (Attribute × Bool)
  /-- The colour of the text. -/
  colour : Option Text
  /-- The colour of the ground. -/
  ground : Option Text
  /-- The target of a link. -/
  link : Option Text
deriving DecidableEq, Repr

namespace Style

/-- The style without an effect. -/
def plain : Style :=
  ⟨[], none, none, none⟩

/-- The words of an attribute in the name of a style. -/
def attributeWords (style : Style) (a : Attribute) : List Text :=
  match style.settings.find? fun setting => setting.1 == a with
  | some (_, true) => [a.names.1.toList]
  | some (_, false) => ["not".toList, a.names.1.toList]
  | none => []

/-- The words of a part of a style, after the word that announces it. -/
def partWords (announced : List String) (part : Option Text) : List Text :=
  match part with
  | some word => announced.map String.toList ++ [word]
  | none => []

/-- The name of a style, the same for all styles of the same effect. -/
def name (style : Style) : Text :=
  let words := Attribute.all.flatMap style.attributeWords ++ partWords [] style.colour ++
    partWords ["on"] style.ground ++ partWords ["link"] style.link
  if words.isEmpty then "none".toList else Text.join [' '] words

/-- Reads the words of a style and adds them to what was read before. A word that is missing, or
that is neither an attribute nor a colour, makes the text no style. -/
def addWords (style : Style) : List Text → Except Fault (Option Style)
  | [] => .ok (some style)
  | word :: rest =>
    let small := Text.lower word
    if small == "on".toList then
      match rest with
      | [] => .ok none
      | next :: rest => do
        let ground := Text.lower next
        if ← isColour ground then addWords { style with ground := some ground } rest
        else return none
    else if small == "not".toList then
      match rest with
      | [] => .ok none
      | next :: rest =>
        match Attribute.named? next with
        | some a => addWords { style with settings := (a, false) :: style.settings } rest
        | none => .ok none
    else if small == "link".toList then
      match rest with
      | [] => .ok none
      | next :: rest => addWords { style with link := some next } rest
    else match Attribute.named? small with
      | some a => addWords { style with settings := (a, true) :: style.settings } rest
      | none => do
        if ← isColour small then addWords { style with colour := some small } rest
        else return none

/-- The style that a text describes, if it does. -/
def ofText (t : Text) : Except Fault (Option Style) :=
  if Text.strip t == "none".toList then .ok (some plain) else addWords plain (Text.words t)

/-- The name under which a style is opened and closed. A text that describes no style is its own
name, in small letters. -/
def nameOf (t : Text) : Except Fault Text := do
  match ← ofText t with
  | some style => return style.name
  | none => return Text.lower (Text.strip t)

end Style

end PortableSql.Report

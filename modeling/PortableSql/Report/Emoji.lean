import PortableSql.Report.EmojiNames
import PortableSql.Text.Blank
import PortableSql.Text.Case
import PortableSql.Text.Digits

/-!
# Emoji in messages

A name between colons stands for an emoji. An ending of the name chooses how it is drawn: as text or
as a picture. A name that stands for nothing is left as it is written.
-/

namespace PortableSql.Report

/-- The characters whose codes are written with hyphens between them. -/
def charactersOf (codes : Text) : Text :=
  ((Text.splitOn '-' codes).filterMap (Text.readDigits? 16)).map Char.ofNat

/-- The emoji of a name in a table. -/
def listedEmoji? (table : List String) (name : Text) : Option Text :=
  (table.findSome? fun line =>
    (Text.splitOn ';' line.toList).findSome? (Text.after? (name ++ ['=']))).map charactersOf

/-- The endings of names that choose a tone of skin, and the characters of the tones. -/
def skinTones : List (String × Nat) :=
  [("_light_skin_tone", 0x1f3fb), ("_medium-light_skin_tone", 0x1f3fc),
    ("_medium_skin_tone", 0x1f3fd), ("_medium-dark_skin_tone", 0x1f3fe),
    ("_dark_skin_tone", 0x1f3ff)]

/-- The character after an emoji that asks for a text. -/
def textSelector : Char :=
  '\ufe0e'

/-- The character after an emoji that asks for a picture. -/
def pictureSelector : Char :=
  '\ufe0f'

/-- An emoji in a tone of skin. The tone comes after the first character and takes the place of a
selector there. -/
def withTone (tone : Char) (emoji : Text) : Text :=
  match emoji with
  | [] => []
  | c :: cs => c :: tone :: (if cs.head? == some pictureSelector then cs.drop 1 else cs)

/-- The emoji of a name that ends in a tone of skin. -/
def tonedEmoji? (name : Text) : Option Text :=
  skinTones.findSome? fun (ending, tone) =>
    if Text.endsWith name ending.toList then
      (listedEmoji? tonedEmoji (name.take (name.length - ending.length))).map
        (withTone (Char.ofNat tone))
    else none

/-- The emoji of a name in small letters. -/
def emojiNamed? (name : Text) : Option Text :=
  (listedEmoji? plainEmoji name).or ((listedEmoji? tonedEmoji name).or (tonedEmoji? name))

/-- The endings that choose how an emoji is drawn, and the characters that say so. -/
def drawings : List (String × Char) :=
  [("-emoji", pictureSelector), ("-text", textSelector)]

/-- The emoji of what stands between colons: a name in any case, and perhaps a way to draw it. -/
def emoji? (t : Text) : Option Text :=
  match drawings.find? fun drawing => Text.endsWith t drawing.1.toList with
  | some (ending, selector) =>
    (emojiNamed? (Text.lower (t.take (t.length - ending.length)))).map (· ++ [selector])
  | none => emojiNamed? (Text.lower t)

/-- What stands between a colon and the next one, unless it holds a blank. -/
def betweenColons? (t : Text) : Option Text :=
  match t with
  | ':' :: cs =>
    let name := cs.takeWhile fun c => c != ':' && !Text.isBlank c
    if (cs.drop name.length).head? == some ':' then some name else none
  | _ => none

/-- Puts emoji in the places of their names. The count says how many characters of a name are still
to be passed over. -/
def replaceEmoji : Nat → Text → Text
  | _, [] => []
  | skip + 1, _ :: cs => replaceEmoji skip cs
  | 0, c :: cs =>
    match betweenColons? (c :: cs) with
    | some name =>
      ((emoji? name).getD ([':'] ++ name ++ [':'])) ++ replaceEmoji (name.length + 1) cs
    | none => c :: replaceEmoji 0 cs

/-- A text with emoji in the places of their names. -/
def withEmoji (t : Text) : Text :=
  replaceEmoji 0 t

end PortableSql.Report

import PortableSql.Text.CodeRange
import PortableSql.Text.Digits
import PortableSql.Text.Name.Aliases
import PortableSql.Text.Name.Alphabets
import PortableSql.Text.Name.Ancient
import PortableSql.Text.Name.EastAsia
import PortableSql.Text.Name.Hieroglyphs
import PortableSql.Text.Name.Notations
import PortableSql.Text.Name.Pictographs
import PortableSql.Text.Name.Syllabics
import PortableSql.Text.Name.Symbols

/-!
# Characters by name

A character is found by its Unicode name. Names of ideographs end in the code of the character, and
names of Korean syllables are made of the names of their parts; both are in capital letters. All
others are listed, or end in a code or in a number, and may be written in small letters.
-/

namespace PortableSql.Text

/-- All rows of names. -/
def nameRows : List (Nat × List String) :=
  [latinNames, greekNames, arabicNames, indicNames, southeastNames, ethiopicNames, islandNames,
    composedNames, punctuationNames, arrowNames, shapeNames, notationNames, supplementNames,
    kanaNames, yiNames, formNames, linearNames, semiticNames, brahmicNames, cuneiformNames,
    hieroglyphNames, tangutNames, shorthandNames, musicNames, alphanumericNames, signNames,
    gameNames, pictographNames, furtherPictographNames, aliasNames].flatten

/-- A small letter of ASCII as its capital. -/
def capital (c : Char) : Char :=
  if 'a' ≤ c && c ≤ 'z' then Char.ofNat (c.toNat - 32) else c

/-- The words of a name as it is written in a row, given those of the name before it. -/
def nameWords (previous : List Text) (entry : Text) : List Text :=
  match entry with
  | [] => []
  | shared :: rest => previous.take (shared.toNat - '0'.toNat) ++ splitOn ' ' rest

/-- The code of a name in the rest of a row, given the next code and the name before it. -/
def codeInRow? (name : List Text) : (code : Nat) → (previous : List Text) → List Text → Option Nat
  | _, _, [] => none
  | code, previous, entry :: entries =>
    let words := nameWords previous entry
    if words == name then some code else codeInRow? name (code + 1) words entries

/-- The code of a listed name. -/
def listedCode? (name : Text) : Option Nat :=
  let words := splitOn ' ' (name.map capital)
  nameRows.findSome? fun (first, entries) =>
    codeInRow? words first [] (entries.flatMap fun line => splitOn ';' line.toList)

/-- The code at the end of a name, which has four or five digits in capital letters. -/
def codeAfter? (lead : String) (ranges : List CodeRange) (name : Text) : Option Nat := do
  let digits ← after? lead.toList name
  let code ← readDigits? 16 digits
  if (digits.length == 4 || digits.length == 5) && digits.all (fun c => capital c == c) &&
      CodeRange.covers ranges code then
    some code
  else none

/-- The ideographs whose names end in their codes and are written in capital letters. -/
def ideographs : List CodeRange :=
  [(0x3400, 0x4dbf), (0x4e00, 0x9fff), (0x20000, 0x2a6df), (0x2a700, 0x2b738), (0x2b740, 0x2b81d),
    (0x2b820, 0x2cea1), (0x2ceb0, 0x2ebe0), (0x30000, 0x3134a)]

/-- The code of an ideograph. -/
def ideographCode? (name : Text) : Option Nat :=
  codeAfter? "CJK UNIFIED IDEOGRAPH-" ideographs name

/-- Other characters whose names end in their codes: how the names start, and the codes. -/
def codedFamilies : List (String × List CodeRange) :=
  [("CJK COMPATIBILITY IDEOGRAPH-", [(0xf900, 0xfa6d), (0xfa70, 0xfad9), (0x2f800, 0x2fa1d)]),
    ("KHITAN SMALL SCRIPT CHARACTER-", [(0x18b00, 0x18cd5)]),
    ("NUSHU CHARACTER-", [(0x1b170, 0x1b2fb)])]

/-- The code of another character whose name ends in it. The code has no needless zero. -/
def endingCode? (name : Text) : Option Nat :=
  let name := name.map capital
  codedFamilies.findSome? fun (lead, ranges) =>
    if (lead ++ "0").toList.isPrefixOf name then none else codeAfter? lead ranges name

/-- Characters whose names end in a number: how the names start, the least number of digits, the
first number, and the codes. -/
def numberedFamilies : List (String × Nat × Nat × CodeRange) :=
  [("TANGUT COMPONENT-", 3, 1, (0x18800, 0x18aff)),
    ("VARIATION SELECTOR-", 1, 17, (0xe0100, 0xe01ef))]

/-- The code of a character whose name ends in a number. -/
def numberedCode? (name : Text) : Option Nat :=
  let name := name.map capital
  numberedFamilies.findSome? fun (lead, width, start, first, last) => do
    let digits ← after? lead.toList name
    let number ← readDigits? 10 digits
    if digits.length == max width (ofNat number).length && start ≤ number &&
        first + (number - start) ≤ last then
      some (first + (number - start))
    else none

/-- The names of the consonants that a Korean syllable starts with. -/
def leadingSounds : List String :=
  ["G", "GG", "N", "D", "DD", "R", "M", "B", "BB", "S", "SS", "", "J", "JJ", "C", "K", "T", "P",
    "H"]

/-- The names of the vowels of a Korean syllable. -/
def vowelSounds : List String :=
  ["A", "AE", "YA", "YAE", "EO", "E", "YEO", "YE", "O", "WA", "WAE", "OE", "YO", "U", "WEO", "WE",
    "WI", "YU", "EU", "YI", "I"]

/-- The names of the consonants that a Korean syllable ends with. -/
def trailingSounds : List String :=
  ["", "G", "GG", "GS", "N", "NJ", "NH", "D", "L", "LG", "LM", "LB", "LS", "LT", "LP", "LH", "M",
    "B", "BS", "S", "SS", "NG", "J", "C", "K", "T", "P", "H"]

/-- The sound that a text starts with, the longest one, with its place in the list and what
follows. -/
def readSound? (sounds : List String) (t : Text) : Option (Nat × Text) :=
  let found := sounds.zipIdx.filterMap fun (sound, place) =>
    (after? sound.toList t).map fun rest => (place, rest)
  found.foldl (fun best next =>
    match best with
    | some (_, rest) => if next.2.length < rest.length then some next else best
    | none => some next) none

/-- The code of a Korean syllable. -/
def syllableCode? (name : Text) : Option Nat := do
  let sounds ← after? "HANGUL SYLLABLE ".toList name
  let (leading, rest) ← readSound? leadingSounds sounds
  let (vowel, rest) ← readSound? vowelSounds rest
  let (trailing, rest) ← readSound? trailingSounds rest
  if rest.isEmpty then some (0xac00 + (leading * 21 + vowel) * 28 + trailing) else none

/-- The character of a Unicode name. -/
def charNamed? (name : Text) : Option Char :=
  ((syllableCode? name).or ((ideographCode? name).or ((endingCode? name).or
    ((numberedCode? name).or (listedCode? name))))).map Char.ofNat

end PortableSql.Text

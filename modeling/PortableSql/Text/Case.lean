import PortableSql.Text.CaseTable

/-!
# Lower and upper case

Lower and upper case of whole texts. Both may change the length: a dotted capital `I` becomes two
characters in lower case, and a sharp `s` becomes two in upper case. A capital sigma becomes the
final form of the small letter at the end of a word.
-/

namespace PortableSql.Text

/-- A character that is in no table keeps its case. -/
def lowerChar (c : Char) : Char :=
  match CaseRun.image? lowerRuns c.toNat with
  | some n => Char.ofNat n
  | none => c

/-- Whether the first character that counts as context has case. -/
def casedContext : Text → Bool
  | [] => false
  | c :: cs =>
    if CodeRange.covers caseIgnorableRanges c.toNat then casedContext cs
    else CodeRange.covers casedRanges c.toNat

/-- Lower case of a text, given what stands before it in reverse. -/
def lowerAfter : (before : Text) → Text → Text
  | _, [] => []
  | before, c :: cs =>
    let image :=
      if c == 'Σ' then [if casedContext before && !casedContext cs then 'ς' else 'σ']
      else if c == 'İ' then ['i', '\u0307']
      else [lowerChar c]
    image ++ lowerAfter (c :: before) cs

/-- Lower case of a text. -/
def lower (t : Text) : Text :=
  lowerAfter [] t

/-- Upper case of a character, up to three characters long. -/
def upperChar (c : Char) : Text :=
  match longUppers.lookup c.toNat with
  | some image => image.map Char.ofNat
  | none =>
    match CaseRun.image? upperRuns c.toNat with
    | some n => [Char.ofNat n]
    | none => [c]

/-- Upper case of a text. -/
def upper (t : Text) : Text :=
  t.flatMap upperChar

end PortableSql.Text

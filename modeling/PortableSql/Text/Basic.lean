/-!
# Texts

A text is a list of characters, so that positions and lengths count characters. This module holds
the operations on texts that need no knowledge of character classes: searching, replacing, cutting
and comparing.
-/

namespace PortableSql

/-- A text as the list of its characters. -/
abbrev Text := List Char

namespace Text

/-- What follows `pattern` in a text that starts with it. -/
def after? : (pattern : Text) → Text → Option Text
  | [], t => some t
  | _ :: _, [] => none
  | p :: ps, c :: cs => if p == c then after? ps cs else none

/-- Whether a text starts with a character of a class. -/
def headIs (p : Char → Bool) : Text → Bool
  | [] => false
  | c :: _ => p c

/-- Whether a text ends with `pattern`. -/
def endsWith (t pattern : Text) : Bool :=
  pattern.isSuffixOf t

/-- The position of the first occurrence of `pattern`. -/
def indexOf? (pattern : Text) : Text → Option Nat
  | [] => if pattern.isEmpty then some 0 else none
  | c :: cs =>
    if pattern.isPrefixOf (c :: cs) then some 0 else (indexOf? pattern cs).map (· + 1)

/-- Whether `pattern` occurs in a text. -/
def includes (t pattern : Text) : Bool :=
  (indexOf? pattern t).isSome

/-- Replaces the first occurrence of `pattern`, if there is one. -/
def replaceFirst (pattern replacement t : Text) : Text :=
  match indexOf? pattern t with
  | none => t
  | some n => t.take n ++ replacement ++ t.drop (n + pattern.length)

/-- Replaces the occurrences of `pattern` from left to right. The count says how many characters
of a match are still to be passed over. -/
def replaceFrom (pattern replacement : Text) : Nat → Text → Text
  | _, [] => []
  | skip + 1, _ :: cs => replaceFrom pattern replacement skip cs
  | 0, c :: cs =>
    if pattern.isPrefixOf (c :: cs) then
      replacement ++ replaceFrom pattern replacement (pattern.length - 1) cs
    else c :: replaceFrom pattern replacement 0 cs

/-- Replaces all occurrences of a non-empty `pattern`; of overlapping ones the leftmost. -/
def replaceAll (pattern replacement t : Text) : Text :=
  if pattern.isEmpty then t else replaceFrom pattern replacement 0 t

/-- The number of disjoint occurrences of `c` twice in a row, counted from the left. -/
def countPairs (c : Char) : Text → Nat
  | a :: b :: rest =>
    if a == c && b == c then countPairs c rest + 1 else countPairs c (b :: rest)
  | _ => 0

/-- The pieces between the occurrences of `separator`. -/
def splitOn (separator : Char) : Text → List Text
  | [] => [[]]
  | c :: cs =>
    if c == separator then [] :: splitOn separator cs
    else match splitOn separator cs with
      | [] => [[c]]
      | piece :: pieces => (c :: piece) :: pieces

/-- The texts with `separator` between them. -/
def join (separator : Text) : List Text → Text
  | [] => []
  | [t] => t
  | t :: ts => t ++ separator ++ join separator ts

/-- The index of a position that is counted from the end if it is negative. A position outside
the text is moved to the nearer end. -/
def position (t : Text) (i : Int) : Nat :=
  if i < 0 then (i + t.length).toNat else min i.toNat t.length

/-- The part of a text between two positions, each of which may be counted from the end. -/
def slice (t : Text) (first last : Int) : Text :=
  (t.take (position t last)).drop (position t first)

/-- Order of texts by their code points. -/
def le : Text → Text → Bool
  | [], _ => true
  | _ :: _, [] => false
  | a :: as, b :: bs => a.toNat < b.toNat || a.toNat == b.toNat && le as bs

/-- Line ends are written as a carriage return, a line feed or both; all become a line feed. -/
def normalizeNewlines : Text → Text
  | '\r' :: '\n' :: cs => '\n' :: normalizeNewlines cs
  | '\r' :: cs => '\n' :: normalizeNewlines cs
  | c :: cs => c :: normalizeNewlines cs
  | [] => []

/-- A text without the characters of a class at its end. -/
def trimEnd (p : Char → Bool) (t : Text) : Text :=
  (t.reverse.dropWhile p).reverse

/-- A text without the characters of a class at both ends. -/
def trim (p : Char → Bool) (t : Text) : Text :=
  trimEnd p (t.dropWhile p)

/-- A text without one line feed at its end. -/
def withoutFinalBreak (t : Text) : Text :=
  if t.getLast? == some '\n' then t.dropLast else t

/-- A text of `n` spaces. -/
def spaces (n : Nat) : Text :=
  List.replicate n ' '

end Text

end PortableSql

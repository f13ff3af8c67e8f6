import PortableSql.Model.Call
import PortableSql.Template.Region

/-!
# Replacing calls in a text

A call is looked for by its text: as it is written, or else regardless of case. Only its first
occurrence is replaced, and only if that one is not inside an expression tag. The longest calls
come first, so that a call is replaced before those inside it.
-/

namespace PortableSql.Model

open Sql Template

/-- The part of a text that spells a call: the call itself if it occurs, or as many characters as
the call has from the place where it occurs in lower case. -/
def findSpelling? (sql region : Text) : Option Text :=
  if Text.includes region sql then some sql
  else
    match Text.indexOf? (Text.lower sql) (Text.lower region) with
    | some start => some ((region.drop start).take sql.length)
    | none => none

/-- Whether more expression tags open than close in a text. -/
def endsInTag (before : Text) : Bool :=
  Text.countPairs '\x7d' before < Text.countPairs '\x7b' before

/-- Whether the first occurrence of a pattern is inside an expression tag. -/
def isInsideTag (pattern region : Text) : Bool :=
  match Text.indexOf? pattern region with
  | some start => endsInTag (region.take start)
  | none => false

/-- Makes one replacement, if the call occurs outside of expression tags. -/
def replaceCall (region : Text) (replacement : Replacement) : Text :=
  match findSpelling? replacement.sql region with
  | none => region
  | some spelling =>
    if spelling.isEmpty || isInsideTag spelling region then region
    else Text.replaceFirst spelling replacement.macroCall region

/-- Makes replacements one after the other. -/
def replaceCalls (region : Text) (replacements : List Replacement) : Text :=
  replacements.foldl replaceCall region

/-- Longer calls first; calls of one length keep their order. -/
def longestFirst (replacements : List Replacement) : List Replacement :=
  sortBy (fun a b => decide (b.sql.length ≤ a.sql.length)) replacements

/-- The replacements that the SQL of a region asks for. There are none if it cannot be read. -/
def regionReplacements (engine : Engine) (adapters : Value) (primary : Dialect) (masked : Text) :
    Except Fault (List Replacement) :=
  match engine.parse masked primary with
  | .ok (some tree) => do
    replacements adapters primary (← findCalls tree primary)
  | _ => .ok []

/-- A text in which regions are being replaced, and by how much it has grown. -/
structure Draft where
  /-- The text. -/
  content : Text
  /-- How many characters the text has gained. -/
  offset : Int
deriving DecidableEq, Repr

/-- Makes the replacements of one region of a draft. The region's place is shifted by what the
draft has gained. -/
def convertRegion (engine : Engine) (adapters : Value) (primary : Dialect) (draft : Draft)
    (region : SqlRegion) : Except Fault Draft := do
  let found ← regionReplacements engine adapters primary region.masked
  if found.isEmpty then return draft
  let first := region.start + draft.offset
  let last := region.stop + draft.offset
  let before := Text.slice draft.content first last
  let after := replaceCalls before (longestFirst found)
  if after == before then return draft
  return {
    content := draft.content.take (Text.position draft.content first) ++ after ++
      draft.content.drop (Text.position draft.content last)
    offset := draft.offset + (after.length - before.length : Int) }

/-- A model in which calls have been replaced. A model with complex tags, or without content, is
left as it is. -/
def convert (engine : Engine) (adapters : Value) (primary : Dialect) (model : Text) :
    Except Fault Text := do
  if model.isEmpty then return model
  let regions ← Template.regions model
  if !isConvertible regions then return model
  let draft ← (sqlRegions model regions).foldlM (convertRegion engine adapters primary) ⟨model, 0⟩
  return draft.content

end PortableSql.Model

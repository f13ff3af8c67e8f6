import PortableSql.Proofs.Model.Insertion
import PortableSql.Proofs.Text.Case

/-!
# The place where a call is replaced

A call is replaced where its text stands, or where it stands regardless of case. What is found
there has the lower case of the call, provided that the case of both texts is that of their
characters: otherwise positions in the lower case are not those in the text. `replaceCall_cases`
says all that one replacement can do.
-/

namespace PortableSql.Model

open Text

/-- The spelling of a call stands in the text, at the place where it is searched, and has the lower
case of the call. -/
theorem findSpelling?_eq_some {sql region spelling : Text} (hsql : sql.HasSimpleCase)
    (hregion : region.HasSimpleCase) (hfound : findSpelling? sql region = some spelling) :
    lower spelling = lower sql ∧ ∃ before after, region = before ++ spelling ++ after ∧
      indexOf? spelling region = some before.length := by
  simp only [findSpelling?] at hfound
  split at hfound
  next hincludes =>
    obtain rfl := Option.some.inj hfound
    obtain ⟨n, hn⟩ := Option.isSome_iff_exists.mp hincludes
    obtain ⟨before, after, hsplit, rfl⟩ := exists_split_of_indexOf? hn
    exact ⟨rfl, before, after, hsplit, hn⟩
  next =>
    split at hfound
    next start hstart =>
      obtain rfl := Option.some.inj hfound
      rw [lower_eq_map hsql, lower_eq_map hregion] at hstart
      obtain ⟨before, after, hsplit, rfl⟩ := exists_split_of_indexOf? hstart
      -- The parts of the lower case are the lower case of parts of the text.
      obtain ⟨front, rest, rfl, hfront, rfl⟩ := List.map_eq_append_iff.mp hsplit
      obtain ⟨left, spelling, rfl, rfl, hspelling⟩ := List.map_eq_append_iff.mp hfront
      have hlength : spelling.length = sql.length := by
        simpa using congrArg List.length hspelling
      have hpart : ((left ++ spelling ++ rest).drop (left.map lowerChar).length).take sql.length =
          spelling := by
        rw [List.length_map, List.append_assoc, List.drop_left, ← hlength, List.take_left]
      rw [hpart]
      have hcase := (hasSimpleCase_append.mp (hasSimpleCase_append.mp hregion).1).2
      refine ⟨by rw [lower_eq_map hcase, lower_eq_map hsql, hspelling], left, rest, rfl, ?_⟩
      -- An earlier occurrence would be one of the lower case too.
      obtain ⟨n, hn, hindex⟩ := exists_indexOf?_le left spelling rest
      obtain ⟨early, late, hearly, rfl⟩ := exists_split_of_indexOf? hindex
      obtain ⟨m, hm, hlow⟩ := exists_indexOf?_le (early.map lowerChar) (sql.map lowerChar)
        (late.map lowerChar)
      rw [← hspelling, ← List.map_append, ← List.map_append, ← hearly, hspelling, hstart,
        Option.some.injEq] at hlow
      rw [hindex, Option.some.injEq]
      simp only [List.length_map] at hm hlow
      omega
    next => cases hfound

/-- The spelling of a call is a part of the text, whatever the case of the text is like. -/
theorem isInfix_of_findSpelling? {sql region spelling : Text}
    (hfound : findSpelling? sql region = some spelling) : spelling <:+: region := by
  simp only [findSpelling?] at hfound
  split at hfound
  next hincludes =>
    obtain rfl := Option.some.inj hfound
    exact includes_eq_true_iff.mp hincludes
  next =>
    split at hfound
    next start hstart =>
      obtain rfl := Option.some.inj hfound
      exact (List.take_prefix _ _).isInfix.trans (List.drop_suffix _ _).isInfix
    next => cases hfound

/-- A replacement puts its macro call in the place of a piece that is found outside of expression
tags, or it leaves the text as it is. -/
theorem replaceCall_place (region : Text) (replacement : Replacement) :
    (applies region replacement = false ∧ replaceCall region replacement = region) ∨
      (applies region replacement = true ∧ ∃ before piece after,
        region = before ++ piece ++ after ∧ piece ≠ [] ∧
        findSpelling? replacement.sql region = some piece ∧ endsInTag before = false ∧
        replaceCall region replacement = before ++ replacement.macroCall ++ after) := by
  unfold applies replaceCall
  cases hfound : findSpelling? replacement.sql region with
  | none => exact .inl ⟨rfl, rfl⟩
  | some piece =>
    cases hskip : piece.isEmpty || isInsideTag piece region with
    | true => exact .inl ⟨by simp [hskip], by simp [hskip]⟩
    | false =>
      obtain ⟨hempty, hinside⟩ := Bool.or_eq_false_iff.mp hskip
      have hincludes := includes_eq_true_iff.mpr (isInfix_of_findSpelling? hfound)
      obtain ⟨n, hn⟩ := Option.isSome_iff_exists.mp hincludes
      obtain ⟨before, after, hsplit, rfl⟩ := exists_split_of_indexOf? hn
      have hmade : replaceFirst piece replacement.macroCall region =
          before ++ replacement.macroCall ++ after := by
        rw [replaceFirst, hn]
        simp [hsplit]
      rw [isInsideTag, hn] at hinside
      exact .inr ⟨by simp [hskip], before, piece, after, hsplit, by simpa using hempty, rfl,
        by simpa [hsplit] using hinside, by simpa [hskip] using hmade⟩

/-- A replacement is made where a spelling of the call stands outside of expression tags, or it
leaves the text as it is. -/
theorem replaceCall_cases {region : Text} {replacement : Replacement}
    (hsql : replacement.sql.HasSimpleCase) (hregion : region.HasSimpleCase) :
    (applies region replacement = false ∧ replaceCall region replacement = region) ∨
      (applies region replacement = true ∧ ∃ before piece after,
        region = before ++ piece ++ after ∧ piece ≠ [] ∧
        lower piece = lower replacement.sql ∧ endsInTag before = false ∧
        replaceCall region replacement = before ++ replacement.macroCall ++ after) := by
  rcases replaceCall_place region replacement with
    hkept | ⟨happlies, before, piece, after, hsplit, hne, hfound, houtside, hmade⟩
  · exact .inl hkept
  · have hspells := (findSpelling?_eq_some hsql hregion hfound).1
    exact .inr ⟨happlies, before, piece, after, hsplit, hne, hspells, houtside, hmade⟩

end PortableSql.Model

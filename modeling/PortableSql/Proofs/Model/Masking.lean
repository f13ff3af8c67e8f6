import PortableSql.Proofs.Model.Nesting
import PortableSql.Proofs.Model.Spelling
import PortableSql.Proofs.Text.Ascii
import PortableSql.Proofs.Text.Lines

/-!
# Masks do not come into models

The SQL that an engine reads has masks in the place of tags, and the engine may write them into the
calls that it finds. Such a call is not found in a model that does not name a mask, regardless of
case. What is found lies in the lower case of the model, so its name and its arguments do not name a
mask either, and the marks of the macro call keep them apart from each other and from the model.
-/

namespace PortableSql.Model

open Sql Template Text

/-- The ends of the masks, in lower case. -/
def maskEnds : List Text :=
  ["placeholder__".toList, "jinja__".toList]

/-- Whether a text names a mask, regardless of case. -/
def namesMask (t : Text) : Bool :=
  maskEnds.any fun mask => includes (lower t) mask

/-- A text in ASCII, up to the sign for kelvin, that does not name a mask. -/
structure IsMaskFree (t : Text) : Prop where
  chars : t.IsNearAscii
  names : namesMask t = false

instance (t : Text) : Decidable (IsMaskFree t) :=
  decidable_of_iff (t.IsNearAscii ∧ namesMask t = false) ⟨fun h => ⟨h.1, h.2⟩, fun h => ⟨h.1, h.2⟩⟩

/-- A text names no mask exactly if no end of a mask occurs in it, regardless of case. -/
theorem namesMask_eq_false {t : Text} :
    namesMask t = false ↔ ∀ mask ∈ maskEnds, includes (lower t) mask = false := by
  rw [namesMask, List.any_eq_false]
  exact forall₂_congr fun mask _ => by rw [Bool.not_eq_true]

/-- A text whose lower case is found in that of such a text is such a text. -/
theorem IsMaskFree.of_lower {part t : Text} (ht : IsMaskFree t) (hpart : lower part <:+: lower t) :
    IsMaskFree part := by
  refine ⟨isNearAscii_of_lower fun c hc => ht.chars.toNat_lt c (hpart.subset hc), ?_⟩
  rw [namesMask_eq_false]
  intro mask hmask
  have hnot := namesMask_eq_false.mp ht.names mask hmask
  rw [← Bool.not_eq_true, includes_eq_true_iff] at hnot ⊢
  exact fun hfound => hnot (hfound.trans hpart)

/-- A part of a text without masks has none. -/
theorem IsMaskFree.of_part {part t : Text} (ht : IsMaskFree t) (hpart : part <:+: t) :
    IsMaskFree part := by
  refine ht.of_lower ?_
  rw [(ht.chars.of_subset hpart.subset).lower_eq, ht.chars.lower_eq]
  exact hpart.map lowerChar

/-- A text without masks has none in lower case. -/
theorem IsMaskFree.lower {t : Text} (ht : IsMaskFree t) : IsMaskFree (lower t) := by
  refine ht.of_lower ?_
  rw [ht.chars.lower_lower]

/-- No end of a mask is empty. -/
theorem ne_nil_of_mem_maskEnds {mask : Text} (hmask : mask ∈ maskEnds) : mask ≠ [] := by
  simp only [maskEnds, List.mem_cons, List.not_mem_nil, or_false] at hmask
  rcases hmask with rfl | rfl <;> decide

/-- An ASCII character that is in no end of a mask, regardless of case. -/
def isApart (c : Char) : Bool :=
  isNearAscii c && maskEnds.all fun mask => !mask.contains (lowerChar c)

/-- A character apart from masks is in no end of one. -/
theorem not_mem_of_isApart {c : Char} (hc : isApart c = true) {mask : Text}
    (hmask : mask ∈ maskEnds) : lowerChar c ∉ mask := by
  rw [isApart, Bool.and_eq_true] at hc
  have hone := List.all_eq_true.mp hc.2 mask hmask
  simpa using hone

/-- Two such texts can be put together if a character stands between them that is in no mask. -/
theorem IsMaskFree.join {first second : Text} {c : Char} (hfirst : IsMaskFree first)
    (hc : isApart c = true) (hsecond : IsMaskFree second) : IsMaskFree (first ++ c :: second) := by
  have hchars : IsNearAscii (first ++ c :: second) := by
    refine isNearAscii_append.mpr ⟨hfirst.chars, ?_⟩
    rw [IsNearAscii, List.all_cons, (Bool.and_eq_true_iff.mp hc).1]
    exact hsecond.chars
  refine ⟨hchars, namesMask_eq_false.mpr fun mask hmask => ?_⟩
  have hskips := skips_append_of_not_includes (ne_nil_of_mem_maskEnds hmask)
    (not_mem_of_isApart hc hmask) (namesMask_eq_false.mp hfirst.names mask hmask)
  rw [hchars.lower_eq, List.map_append, List.map_cons, List.append_cons, ← hfirst.chars.lower_eq,
    ← hsecond.chars.lower_eq, hskips.includes_append]
  exact namesMask_eq_false.mp hsecond.names mask hmask

/-- Such a text may start with what the names of macros start with. -/
theorem IsMaskFree.portable {t : Text} (ht : IsMaskFree t) :
    IsMaskFree ("portable_".toList ++ t) := by
  have hchars := isNearAscii_append.mpr ⟨(by decide : IsNearAscii "portable_".toList), ht.chars⟩
  refine ⟨hchars, namesMask_eq_false.mpr fun mask hmask => ?_⟩
  have hskips : Skips mask "portable_".toList := by
    simp only [maskEnds, List.mem_cons, List.not_mem_nil, or_false] at hmask
    rcases hmask with rfl | rfl
    · exact skips_of_clashes [] (by decide : clashes "placeholder__".toList _ = true)
    · exact skips_of_clashes [] (by decide : clashes "jinja__".toList _ = true)
  have hlower : ("portable_".toList).map lowerChar = "portable_".toList := by decide +kernel
  rw [hchars.lower_eq, List.map_append, hlower, ← ht.chars.lower_eq, hskips.includes_append]
  exact namesMask_eq_false.mp ht.names mask hmask

/-! ## Calls -/

/-- A call that is found in such a text is such a text. -/
theorem IsMaskFree.of_findSpelling? {sql region spelling : Text} (hregion : IsMaskFree region)
    (hfound : findSpelling? sql region = some spelling) : IsMaskFree sql := by
  simp only [findSpelling?] at hfound
  split at hfound
  next hincludes => exact hregion.of_part (includes_eq_true_iff.mp hincludes)
  next =>
    split at hfound
    next start hstart =>
      have hincludes : includes (Text.lower region) (Text.lower sql) = true :=
        Option.isSome_of_eq_some hstart
      exact hregion.of_lower (includes_eq_true_iff.mp hincludes)
    next => cases hfound

/-- The name of a call in such a text names no mask. -/
theorem IsMaskFree.functionName {sql function : Text} (hsql : IsMaskFree sql)
    (hname : functionName? sql = some function) : IsMaskFree (Text.lower function) := by
  obtain ⟨name, hcalls, rfl⟩ := functionName?_eq_some_iff.mp hname
  have hpart : IsMaskFree name := by
    cases hcalls with
    | call => exact hsql.of_part (List.prefix_append _ _).isInfix
    | bare => exact hsql.of_part (List.prefix_append _ _).isInfix
  rw [hpart.chars.lower_upper]
  exact hpart.lower

/-- The arguments of a call in such a text name no mask, as a string or as they are. -/
theorem IsMaskFree.macroArgument {sql args : Text} (hsql : IsMaskFree sql)
    (hargs : arguments? sql = some args) : IsMaskFree (macroArgument (strip args)) := by
  have hpart : IsMaskFree (strip args) := by
    unfold arguments? at hargs
    split at hargs
    next name inside hcall =>
      obtain ⟨blanks, rfl, -, -⟩ := splitCall?_eq_some hcall
      obtain ⟨ending, rfl, -⟩ := beforeClose?_eq_some hargs
      obtain ⟨before, after, hsplit, -, -⟩ := exists_blanks_around args
      refine hsql.of_part ⟨name ++ blanks ++ '(' :: before, after ++ ')' :: ending, ?_⟩
      conv_rhs => rw [hsplit]
      simp
    next => cases hargs
  have hnone : IsMaskFree [] := by decide
  have hquote : isApart '\x27' = true := by decide +kernel
  unfold Model.macroArgument
  split
  · exact hnone
  · split
    · exact hpart
    · exact hnone.join hquote (hpart.join hquote hnone)

/-- Such a text may have the macro call for a call in such a text put into it. -/
theorem IsMaskFree.insert {before after sql function : Text} (hbefore : IsMaskFree before)
    (hafter : IsMaskFree after) (hsql : IsMaskFree sql)
    (hname : functionName? sql = some function) :
    IsMaskFree (before ++ macroCall function sql ++ after) := by
  have hnone : IsMaskFree [] := by decide
  have hmarks : ("\x7b\x7d() ".toList.all isApart) = true := by decide +kernel
  have hapart {c : Char} (hc : c ∈ "\x7b\x7d() ".toList) : isApart c = true :=
    List.all_eq_true.mp hmarks c hc
  obtain ⟨argument, hshape, hargument⟩ := exists_macroCall_eq function sql
  have hpassed : IsMaskFree argument := by
    rcases hargument with rfl | ⟨args, hargs, rfl⟩
    · exact hnone
    · exact hsql.macroArgument hargs
  have hclose := hnone.join (hapart (by decide : '\x7d' ∈ _))
    (hnone.join (hapart (by decide : '\x7d' ∈ _)) hafter)
  have hend := hpassed.join (hapart (by decide : ')' ∈ _))
    (hnone.join (hapart (by decide : ' ' ∈ _)) hclose)
  have hmacro : IsMaskFree (macroName function) := (hsql.functionName hname).portable
  have hinside := hmacro.join (hapart (by decide : '(' ∈ _)) hend
  have hopen := hbefore.join (hapart (by decide : '\x7b' ∈ _))
    (hnone.join (hapart (by decide : '\x7b' ∈ _))
      (hnone.join (hapart (by decide : ' ' ∈ _)) hinside))
  rw [hshape]
  simpa using hopen

/-! ## Conversions -/

/-- A replacement in such a text leaves such a text. -/
theorem IsMaskFree.replaceCall {region : Text} {replacement : Replacement} {function : Text}
    (hregion : IsMaskFree region) (hname : functionName? replacement.sql = some function)
    (hcall : replacement.macroCall = macroCall function replacement.sql) :
    IsMaskFree (replaceCall region replacement) := by
  rcases replaceCall_place region replacement with
    ⟨-, hkept⟩ | ⟨-, before, piece, after, rfl, -, hfound, -, hmade⟩
  · rwa [hkept]
  · have hsql := hregion.of_findSpelling? hfound
    rw [hmade, hcall]
    exact (hregion.of_part ⟨[], piece ++ after, by simp⟩).insert
      (hregion.of_part ⟨before ++ piece, [], by simp⟩) hsql hname

/-- Replacing calls by macro calls of their own adds no mask. -/
theorem IsMaskFree.replaceCalls {region : Text} {replacements : List Replacement}
    (hregion : IsMaskFree region)
    (hcalls : ∀ replacement ∈ replacements, ∃ function,
      functionName? replacement.sql = some function ∧
      replacement.macroCall = macroCall function replacement.sql) :
    IsMaskFree (replaceCalls region replacements) := by
  induction replacements generalizing region with
  | nil => exact hregion
  | cons replacement replacements ih =>
    obtain ⟨⟨function, hname, hcall⟩, hcalls⟩ := List.forall_mem_cons.mp hcalls
    exact ih (hregion.replaceCall hname hcall) hcalls

/-- A model that names no mask is converted to one that names none, whatever the engine reads. -/
theorem IsMaskFree.convert {engine : Engine} {adapters : Value} {primary : Dialect}
    {model converted : Text} (hmodel : IsMaskFree model)
    (hconvert : convert engine adapters primary model = .ok converted) : IsMaskFree converted := by
  rw [convert_eq] at hconvert
  cases hwanted : wanted engine adapters primary model with
  | error fault =>
    rw [hwanted] at hconvert
    cases hconvert
  | ok found =>
    rw [hwanted] at hconvert
    obtain rfl := Except.ok.inj hconvert
    refine hmodel.replaceCalls fun replacement hmem => ?_
    exact (exists_function_of_mem_wanted hwanted ((mem_sortBy _).mp hmem)).2

/-- A text that is read with other line ends names no mask that it did not name before. -/
theorem IsMaskFree.normalizeNewlines {t : Text} (ht : IsMaskFree t) :
    IsMaskFree (normalizeNewlines t) := by
  have hchars : IsNearAscii (Text.normalizeNewlines t) := by
    refine List.all_eq_true.mpr fun c hc => ?_
    by_cases hfeed : c = '\n'
    · rw [hfeed]
      decide
    · exact List.all_eq_true.mp ht.chars c (mem_of_mem_normalizeNewlines hc hfeed)
  refine ⟨hchars, namesMask_eq_false.mpr fun mask hmask => ?_⟩
  have hnot := namesMask_eq_false.mp ht.names mask hmask
  rw [← Bool.not_eq_true, includes_eq_true_iff] at hnot ⊢
  rw [hchars.lower_eq]
  rintro ⟨left, right, hsplit⟩
  obtain ⟨front, after, hread, hfront, -⟩ := List.map_eq_append_iff.mp hsplit.symm
  obtain ⟨before, part, rfl, -, rfl⟩ := List.map_eq_append_iff.mp hfront
  -- no mask spans two lines, so the part stands in the text as it was written
  have hfeed : '\n' ∉ part := fun hmem =>
    not_mem_of_isApart (by decide +kernel) hmask (List.mem_map_of_mem hmem)
  have hpart : part <:+: t := isInfix_of_normalizeNewlines ⟨before, after, hread.symm⟩ hfeed
  rw [ht.chars.lower_eq] at hnot
  exact hnot (hpart.map lowerChar)

end PortableSql.Model

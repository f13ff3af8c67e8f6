import PortableSql.Proofs.Model.Spelling
import PortableSql.Proofs.Text.Brace
import PortableSql.Sql.Recording

/-!
# Statement tags and comments of a model

Calls are found in a model whose tags are masked, but they are replaced in the text as it is, and
only expression tags are passed over there. A statement tag or a comment stays as it is when none of
the calls occurs in it, regardless of case. A call may hold braces, as long as it does not hold,
begin or end with what could be a part of a tag's delimiter.
-/

namespace PortableSql.Model

open Sql Template Text

/-- A statement tag or a comment. -/
def IsMarkup (t : Text) : Prop :=
  ∃ d ∈ ['%', '#'], ∃ inside : Text, t = '\x7b' :: d :: (inside ++ [d, '\x7d'])

/-- What statement tags and comments open and close with. -/
def delimiters : List Text :=
  ["\x7b%".toList, "%\x7d".toList, "\x7b#".toList, "#\x7d".toList]

/-- A text that cannot reach over an end of a statement tag or a comment. -/
structure AvoidsDelimiters (t : Text) : Prop where
  inside : ∀ delimiter ∈ delimiters, includes t delimiter = false
  head : t.head? ≠ some '\x7d'
  last : t.getLast? ≠ some '\x7b'

/-- A call that is spelled in none of the given texts and reaches over no end of them. -/
structure Spares (sql : Text) (marks : List Text) : Prop where
  simpleCase : sql.HasSimpleCase
  delimiters : AvoidsDelimiters sql
  outside : ∀ mark ∈ marks, includes (lower mark) (lower sql) = false

/-! ## Parts of a text with tags -/

section Parts

variable {first mark rest before piece after : Text}

/-- A part of a text with a tag in it stands before the tag or ends after the tag's start. -/
theorem AvoidsDelimiters.part_before (hpiece : AvoidsDelimiters piece) (hmark : IsMarkup mark)
    (heq : first ++ (mark ++ rest) = before ++ piece ++ after) :
    (∃ more, first = before ++ piece ++ more ∧ after = more ++ (mark ++ rest)) ∨
      ∃ more, before = first ++ more ∧ mark ++ rest = more ++ piece ++ after := by
  rcases part_cases heq with hbefore | hafter | ⟨left, right, -, hright, rfl, -, hmore⟩
  · exact .inl hbefore
  · exact .inr hafter
  · -- The part would end inside of the opening delimiter or after it.
    obtain ⟨d, hd, inside, rfl⟩ := hmark
    match right with
    | [] => exact absurd rfl hright
    | [c] =>
      obtain ⟨rfl, -⟩ : '\x7b' = c ∧ _ := by simpa using hmore
      exact absurd (by simp) hpiece.last
    | c :: e :: right =>
      obtain ⟨rfl, rfl, -⟩ : '\x7b' = c ∧ d = e ∧ _ := by simpa using hmore
      have hdelimiter : ['\x7b', d] ∈ delimiters := by
        simp only [List.mem_cons, List.not_mem_nil, or_false] at hd
        rcases hd with rfl | rfl <;> decide
      have hincludes : includes (left ++ '\x7b' :: d :: right) ['\x7b', d] = true :=
        includes_eq_true_iff.mpr ⟨left, right, by simp⟩
      rw [hpiece.inside _ hdelimiter] at hincludes
      cases hincludes

/-- A part of a text that starts with a tag stands in the tag or after it. -/
theorem AvoidsDelimiters.part_after (hpiece : AvoidsDelimiters piece) (hmark : IsMarkup mark)
    (heq : mark ++ rest = before ++ piece ++ after) :
    (∃ more, mark = before ++ piece ++ more ∧ after = more ++ rest) ∨
      ∃ more, before = mark ++ more ∧ rest = more ++ piece ++ after := by
  rcases part_cases heq with hinside | hafter | ⟨left, right, hleft, -, rfl, hmore, -⟩
  · exact .inl hinside
  · exact .inr hafter
  · -- The part would start inside of the closing delimiter or before it.
    obtain ⟨d, hd, inside, rfl⟩ := hmark
    obtain ⟨start, last, rfl⟩ := (List.eq_nil_or_concat left).resolve_left hleft
    have hends : ('\x7b' :: d :: (inside ++ [d])) ++ ['\x7d'] = (before ++ start) ++ [last] := by
      simpa using hmore
    obtain ⟨hrest, hlast⟩ := List.append_inj' hends rfl
    obtain rfl : '\x7d' = last := by simpa using hlast
    rcases List.eq_nil_or_concat start with rfl | ⟨start, next, rfl⟩
    · exact absurd (by simp) hpiece.head
    · have hnexts : ('\x7b' :: d :: inside) ++ [d] = (before ++ start) ++ [next] := by
        simpa using hrest
      obtain ⟨-, hnext⟩ := List.append_inj' hnexts rfl
      obtain rfl : d = next := by simpa using hnext
      have hdelimiter : [d, '\x7d'] ∈ delimiters := by
        simp only [List.mem_cons, List.not_mem_nil, or_false] at hd
        rcases hd with rfl | rfl <;> decide
      have hincludes : includes (start ++ [d] ++ ['\x7d'] ++ right) [d, '\x7d'] = true :=
        includes_eq_true_iff.mpr ⟨start, right, by simp⟩
      simp only [List.concat_eq_append] at hpiece
      rw [hpiece.inside _ hdelimiter] at hincludes
      cases hincludes

/-- A part that is in none of the marks is put in its place between them. -/
theorem interleave_insert {marks : List (Text × Text)}
    (hmarks : ∀ mark ∈ marks.map (·.1), IsMarkup mark) (hpiece : AvoidsDelimiters piece)
    (houtside : ∀ mark ∈ marks.map (·.1), ¬piece <:+: mark)
    (hsplit : interleave first marks = before ++ piece ++ after) (call : Text) :
    ∃ next nextMarks, before ++ call ++ after = interleave next nextMarks ∧
      nextMarks.map (·.1) = marks.map (·.1) := by
  induction marks generalizing first before with
  | nil => exact ⟨before ++ call ++ after, [], rfl, rfl⟩
  | cons entry marks ih =>
    obtain ⟨mark, next⟩ := entry
    obtain ⟨hmark, hmarks⟩ := List.forall_mem_cons.mp hmarks
    obtain ⟨hhere, houtside⟩ := List.forall_mem_cons.mp houtside
    rw [interleave, List.append_assoc] at hsplit
    rcases hpiece.part_before hmark hsplit with ⟨more, rfl, rfl⟩ | ⟨start, rfl, htail⟩
    · exact ⟨before ++ call ++ more, (mark, next) :: marks, by simp [interleave], rfl⟩
    · rcases hpiece.part_after hmark htail with ⟨more, hinside, -⟩ | ⟨start, rfl, hlast⟩
      · exact absurd ⟨start, more, hinside.symm⟩ hhere
      · obtain ⟨text, rest, htext, hrest⟩ := ih hmarks houtside hlast
        refine ⟨first, (mark, text) :: rest, ?_, by simp [hrest]⟩
        simp [interleave, ← htext]

end Parts

/-! ## Spellings -/

/-- What spells a call reaches over no end of a tag either. -/
theorem AvoidsDelimiters.of_lower_eq {piece sql : Text} (hsql : AvoidsDelimiters sql)
    (hcase : sql.HasSimpleCase) (hpiece : piece.HasSimpleCase) (hspells : lower piece = lower sql) :
    AvoidsDelimiters piece where
  inside delimiter hdelimiter := by
    have hcaseless : ∀ p ∈ delimiter, IsCaseless p := by
      have hmarks : (delimiters.all fun d =>
          d.all ['\x7b', '\x7d', '%', '#', '(', ')'].contains) = true := by
        decide
      intro p hp
      have hmark := List.all_eq_true.mp (List.all_eq_true.mp hmarks delimiter hdelimiter) p hp
      exact isCaseless_delimiter (List.contains_iff_mem.mp hmark)
    rw [← Bool.not_eq_true, includes_eq_true_iff]
    rintro ⟨left, right, hsplit⟩
    obtain ⟨start, rest, rfl, -⟩ :=
      exists_part_of_lower_eq hpiece hcase hspells hcaseless hsplit.symm
    have hnot := hsql.inside delimiter hdelimiter
    rw [← Bool.not_eq_true, includes_eq_true_iff] at hnot
    exact hnot ⟨start, rest, rfl⟩
  head := by
    intro hhead
    obtain ⟨right, rfl⟩ := List.head?_eq_some_iff.mp hhead
    have hsplit : '\x7d' :: right = [] ++ ['\x7d'] ++ right := rfl
    obtain ⟨start, rest, rfl, hstart, -⟩ := exists_part_of_lower_eq hpiece hcase hspells
      (by simpa using isCaseless_delimiter (by simp)) hsplit
    rw [List.length_nil, List.length_eq_zero_iff] at hstart
    exact hsql.head (by simp [hstart])
  last := by
    intro hlast
    obtain ⟨left, rfl⟩ := List.getLast?_eq_some_iff.mp hlast
    have hsplit : left ++ ['\x7b'] = left ++ ['\x7b'] ++ [] := by simp
    obtain ⟨start, rest, rfl, -, hrest⟩ := exists_part_of_lower_eq hpiece hcase hspells
      (by simpa using isCaseless_delimiter (by simp)) hsplit
    rw [List.length_nil, List.length_eq_zero_iff] at hrest
    exact hsql.last (by simp [hrest])

/-- The marks of a text have the case of their characters if the text does. -/
theorem hasSimpleCase_of_mem_marks {first : Text} {marks : List (Text × Text)}
    (hcase : (interleave first marks).HasSimpleCase) {mark : Text}
    (hmark : mark ∈ marks.map (·.1)) : mark.HasSimpleCase := by
  induction marks generalizing first with
  | nil => cases hmark
  | cons entry marks ih =>
    obtain ⟨hfront, hrest⟩ := hasSimpleCase_append.mp hcase
    rcases List.mem_cons.mp hmark with rfl | hmark
    · exact (hasSimpleCase_append.mp hfront).2
    · exact ih hrest hmark

/-- What spells a call that is spared is in none of the marks. -/
theorem Spares.not_infix {piece sql : Text} {marks : List Text} (hspares : Spares sql marks)
    (hpiece : piece.HasSimpleCase) (hspells : lower piece = lower sql) {mark : Text}
    (hmark : mark ∈ marks) (hcase : mark.HasSimpleCase) : ¬piece <:+: mark := by
  rintro ⟨left, right, rfl⟩
  have hnot := hspares.outside _ hmark
  rw [← Bool.not_eq_true, includes_eq_true_iff, ← hspells, lower_eq_map hcase,
    lower_eq_map hpiece, List.map_append, List.map_append] at hnot
  exact hnot ⟨_, _, rfl⟩

/-- A macro call has the case of its characters if the call does. -/
theorem hasSimpleCase_macroCall {sql : Text} (hsql : sql.HasSimpleCase) (function : Text) :
    (macroCall function sql).HasSimpleCase := by
  have hmarks : callMarks.HasSimpleCase := by decide
  have hlower := hasSimpleCase_lower function
  constructor <;> intro hmem <;> rcases mem_of_mem_macroCall hmem with hmem | hmem | hmem
  · exact hmarks.1 hmem
  · exact hlower.1 hmem
  · exact hsql.1 hmem
  · exact hmarks.2 hmem
  · exact hlower.2 hmem
  · exact hsql.2 hmem

/-! ## Runs -/

/-- Replacements for calls that are spared leave all marks as they are. -/
theorem replaceCalls_interleave {first : Text} {marks : List (Text × Text)}
    {replacements : List Replacement} (hmarks : ∀ mark ∈ marks.map (·.1), IsMarkup mark)
    (hspares : ∀ replacement ∈ replacements, Spares replacement.sql (marks.map (·.1)))
    (hcalls : ∀ replacement ∈ replacements, replacement.macroCall.HasSimpleCase)
    (hcase : (interleave first marks).HasSimpleCase) :
    ∃ next nextMarks, replaceCalls (interleave first marks) replacements =
        interleave next nextMarks ∧ nextMarks.map (·.1) = marks.map (·.1) := by
  induction replacements generalizing first marks with
  | nil => exact ⟨first, marks, rfl, rfl⟩
  | cons replacement replacements ih =>
    obtain ⟨hspare, hspares⟩ := List.forall_mem_cons.mp hspares
    obtain ⟨hcall, hcalls⟩ := List.forall_mem_cons.mp hcalls
    rw [replaceCalls, List.foldl_cons]
    rcases replaceCall_cases hspare.simpleCase hcase
      with ⟨-, hsame⟩ | ⟨-, before, piece, after, hsplit, -, hspells, -, hmade⟩
    · rw [hsame]
      exact ih hmarks hspares hcalls hcase
    · have hparts := hcase
      rw [hsplit] at hparts
      obtain ⟨hfront, hafter⟩ := hasSimpleCase_append.mp hparts
      obtain ⟨hbefore, hpiece⟩ := hasSimpleCase_append.mp hfront
      obtain ⟨next, nextMarks, hnext, hsameMarks⟩ := interleave_insert hmarks
        (hspare.delimiters.of_lower_eq hspare.simpleCase hpiece hspells)
        (fun mark hmark => hspare.not_infix hpiece hspells hmark
          (hasSimpleCase_of_mem_marks hcase hmark)) hsplit replacement.macroCall
      have hnextCase : (interleave next nextMarks).HasSimpleCase := by
        rw [← hnext]
        exact hasSimpleCase_append.mpr ⟨hasSimpleCase_append.mpr ⟨hbefore, hcall⟩, hafter⟩
      rw [hmade, hnext, ← hsameMarks]
      exact ih (hsameMarks ▸ hmarks) (hsameMarks ▸ hspares) hcalls hnextCase

/-- The statement tags and comments of a model stay as they are, in the same order, if all calls
that are to be replaced spare them. -/
theorem convert_keeps_markup {engine : Engine} {adapters : Value} {primary : Dialect} {first : Text}
    {marks : List (Text × Text)} {found : List Replacement}
    (hmarks : ∀ mark ∈ marks.map (·.1), IsMarkup mark)
    (hcase : (interleave first marks).HasSimpleCase)
    (hwanted : wanted engine adapters primary (interleave first marks) = .ok found)
    (hspares : ∀ replacement ∈ found, Spares replacement.sql (marks.map (·.1))) :
    ∃ next nextMarks, convert engine adapters primary (interleave first marks) =
        .ok (interleave next nextMarks) ∧ nextMarks.map (·.1) = marks.map (·.1) := by
  have hmem {replacement : Replacement} (hlong : replacement ∈ longestFirst found) :
      replacement ∈ found := by
    rwa [longestFirst, mem_sortBy] at hlong
  have hcalls : ∀ replacement ∈ longestFirst found, replacement.macroCall.HasSimpleCase := by
    intro replacement hlong
    obtain ⟨-, function, -, hcall⟩ := exists_function_of_mem_wanted hwanted (hmem hlong)
    rw [hcall]
    exact hasSimpleCase_macroCall (hspares replacement (hmem hlong)).simpleCase function
  obtain ⟨next, nextMarks, hnext, hsame⟩ := replaceCalls_interleave hmarks
    (fun replacement hlong => hspares replacement (hmem hlong)) hcalls hcase
  refine ⟨next, nextMarks, ?_, hsame⟩
  rw [convert_eq, hwanted, ← hnext]
  rfl

/-- An engine that reads the same call in all of the given texts. Only Spark has the function; the
other dialect writes the call with another name. -/
def collectingEngine (texts : List Text) : Engine :=
  let call : Node := ⟨true, none, .byDialect [("postgres".toList, some "ARRAY_AGG(x)".toList),
    ("*".toList, some "COLLECT_LIST(x)".toList)], [], []⟩
  Recording.engine
    { parses := texts.map fun text =>
        ⟨some text, none, .ok (some ⟨false, none, .uniform text, [], [call]⟩)⟩
      transpiles := []
      dialects :=
        [("spark".toList, some [("COLLECT_LIST".toList, .text "ArrayAgg".toList)]),
          ("postgres".toList, some [("ARRAY_AGG".toList, .text "ArrayAgg".toList)])] }

/-- Spark and Postgres. -/
def twoAdapters : Value :=
  .list (["spark".toList, "postgres".toList].map .ofText)

/-- The marks of a model with a comment and a condition, which compares with the given text. -/
def conditionalMarks (value : String) : List (Text × Text) :=
  [("\x7b# COLLECT_LIST #\x7d".toList, "SELECT id, ".toList),
    ("\x7b% if var('agg') == '".toList ++ value.toList ++ "' %\x7d".toList,
      " COLLECT_LIST(x), ".toList),
    ("\x7b% endif %\x7d".toList, " y FROM t".toList)]

/-- The SQL of the model, with its tags masked. -/
def conditionalSql : Text :=
  "SELECT id,  __JINJA__,  COLLECT_LIST(x),  __JINJA__,  y FROM t".toList

/-- The comment and the tags stay, though two of them name the function. -/
theorem convert_keeps_markup_conditional :
    ∃ next nextMarks,
      convert (collectingEngine [conditionalSql]) twoAdapters (.named "spark".toList)
          (interleave [] (conditionalMarks "collect_list")) = .ok (interleave next nextMarks) ∧
      nextMarks.map (·.1) = (conditionalMarks "collect_list").map (·.1) := by
  have hmarks : ∀ mark ∈ (conditionalMarks "collect_list").map (·.1), IsMarkup mark := by
    simp only [conditionalMarks, List.map_cons, List.map_nil, List.forall_mem_cons,
      List.not_mem_nil, false_implies, implies_true, and_true]
    exact ⟨⟨'#', by decide, " COLLECT_LIST ".toList, rfl⟩,
      ⟨'%', by decide, " if var('agg') == 'collect_list' ".toList, rfl⟩,
      ⟨'%', by decide, " endif ".toList, rfl⟩⟩
  have hwanted : wanted (collectingEngine [conditionalSql]) twoAdapters (.named "spark".toList)
      (interleave [] (conditionalMarks "collect_list")) =
        .ok [⟨1, "COLLECT_LIST(x)".toList,
          "\x7b\x7b portable_collect_list('x') \x7d\x7d".toList⟩] := by
    decide +kernel
  refine convert_keeps_markup hmarks (by decide +kernel) hwanted ?_
  rw [List.forall_mem_singleton]
  exact ⟨by decide, ⟨by decide, by decide, by decide⟩, by decide +kernel⟩

/-- A tag that spells the call is changed in its place. -/
theorem condition_with_call_is_changed :
    ∃ converted,
      convert (collectingEngine [conditionalSql]) twoAdapters (.named "spark".toList)
          (interleave [] (conditionalMarks "COLLECT_LIST(x)")) = .ok converted ∧
      includes converted "\x7b% if var('agg') == 'COLLECT_LIST(x)' %\x7d".toList = false ∧
      includes converted " COLLECT_LIST(x), ".toList = true := by
  refine ⟨interleave [] [("\x7b# COLLECT_LIST #\x7d".toList, "SELECT id, ".toList),
    ("\x7b% if var('agg') == '\x7b\x7b portable_collect_list('x') \x7d\x7d' %\x7d".toList,
      " COLLECT_LIST(x), ".toList),
    ("\x7b% endif %\x7d".toList, " y FROM t".toList)], ?_⟩
  decide +kernel

end PortableSql.Model

import PortableSql.Proofs.Macro.Expansion
import PortableSql.Proofs.Project.Frame
import PortableSql.Proofs.Template.Tags
import PortableSql.Proofs.Text.Lines

/-!
# Reading a library as a template

The reader of templates finds in a library what was written into it: each definition is a tag that
starts a macro, the expressions of its body and a tag that ends the macro. The text around the
expressions is whatever an engine writes, so all that is known of it is that it has no braces. No
two macros of a library have the same name. A library is never taken for a model that may be
changed, since a macro that dispatches holds an expression that is not safe.
-/

namespace PortableSql.Macro

open Sql Text Template

/-! ## Names -/

/-- The letters of a name in lower case are those of a name. -/
theorem isWordChar_lower {name : Text} (hname : isAsciiName name = true) {c : Char}
    (hc : c ∈ lower name) : isWordChar c = true := by
  have hword {d : Char} (hd : d ∈ name) : isWordChar d = true := isWordChar_of_mem hname hd
  have hsimple : name.HasSimpleCase :=
    ⟨fun h => absurd (hword h) (by decide), fun h => absurd (hword h) (by decide)⟩
  rw [lower_eq_map hsimple] at hc
  obtain ⟨d, hd, rfl⟩ := List.mem_map.mp hc
  exact forall_word (p := fun c => isWordChar (lowerChar c)) (by decide) (hword hd)

/-- A name that goes on with letters and digits is a name. -/
theorem isAsciiName_append {first second : Text} (hfirst : isAsciiName first = true)
    (hsecond : ∀ c ∈ second, isWordChar c = true) : isAsciiName (first ++ second) = true := by
  cases first with
  | nil => cases hfirst
  | cons c first =>
    simp only [isAsciiName, List.cons_append, Bool.and_eq_true, List.all_eq_true] at hfirst ⊢
    exact ⟨hfirst.1, List.forall_mem_append.mpr ⟨hfirst.2, hsecond⟩⟩

/-! ## Bodies -/

/-- The symbols of an expression that stands in a body. -/
structure IsBodyTag (symbols : List Symbol) (content : Text) : Prop where
  readable : AreReadable (.space :: (symbols ++ [.space]))
  line : '\r' ∉ symbols.flatMap Symbol.text
  mark : (Tag.ofSymbols .expression "\x7b\x7b".toList (.space :: (symbols ++ [.space]))
    "\x7d\x7d".toList).mark? = some (.complex, content)

/-- Text and expressions that are not safe, by what the expressions hold. -/
inductive IsBody : Text → List Text → Prop
  | nil : IsBody [] []
  | char {c : Char} {t : Text} {contents : List Text} (hc : c ≠ '\x7b') (ht : IsBody t contents) :
      IsBody (c :: t) contents
  | tag {symbols : List Symbol} {content t : Text} {contents : List Text}
      (htag : IsBodyTag symbols content) (ht : IsBody t contents) :
      IsBody (Model.expressionTag (symbols.flatMap Symbol.text) ++ t) (content :: contents)

/-- A text without braces is a body without expressions. -/
theorem isBody_text {t : Text} (hbrace : '\x7b' ∉ t) : IsBody t [] := by
  induction t with
  | nil => exact .nil
  | cons c t ih =>
    rw [List.mem_cons, not_or] at hbrace
    exact .char (Ne.symm hbrace.1) (ih hbrace.2)

/-- Two bodies make one. -/
theorem IsBody.append {first second : Text} {contents others : List Text}
    (hfirst : IsBody first contents) (hsecond : IsBody second others) :
    IsBody (first ++ second) (contents ++ others) := by
  induction hfirst with
  | nil => exact hsecond
  | char hc _ ih => exact .char hc ih
  | tag htag _ ih =>
    rw [List.append_assoc]
    exact .tag htag ih

/-- An expression tag that may stand in a body is a body of one expression. -/
theorem IsBodyTag.isBody {symbols : List Symbol} {content : Text}
    (htag : IsBodyTag symbols content) :
    IsBody (Model.expressionTag (symbols.flatMap Symbol.text)) [content] := by
  simpa using IsBody.tag htag .nil

/-- Expressions that are put into a text make a body of it. -/
theorem exists_isBody_replaceAll {symbols : List Symbol} {content : Text}
    (htag : IsBodyTag symbols content) {t : Text} (hbrace : '\x7b' ∉ t) (pattern : Text) :
    ∃ contents, IsBody
      (replaceAll pattern (Model.expressionTag (symbols.flatMap Symbol.text)) t) contents := by
  have hstep (skip : Nat) : ∃ contents, IsBody (replaceFrom pattern
      (Model.expressionTag (symbols.flatMap Symbol.text)) skip t) contents := by
    induction t generalizing skip with
    | nil =>
      refine ⟨[], ?_⟩
      cases skip <;> exact .nil
    | cons c t ih =>
      rw [List.mem_cons, not_or] at hbrace
      cases skip with
      | succ skip => exact ih hbrace.2 skip
      | zero =>
        simp only [replaceFrom]
        split
        · obtain ⟨contents, hrest⟩ := ih hbrace.2 (pattern.length - 1)
          exact ⟨content :: contents, .tag htag hrest⟩
        · obtain ⟨contents, hrest⟩ := ih hbrace.2 0
          exact ⟨contents, .char (Ne.symm hbrace.1) hrest⟩
  rw [replaceAll]
  split
  · exact ⟨[], isBody_text hbrace⟩
  · exact hstep 0

/-- Blanks can be taken off the front of a body. -/
theorem IsBody.dropWhile {t : Text} {contents : List Text} (hbody : IsBody t contents) :
    IsBody (t.dropWhile isBlank) contents := by
  induction hbody with
  | nil => exact .nil
  | @char c t contents hc ht ih =>
    rw [List.dropWhile_cons]
    split
    · exact ih
    · exact .char hc ht
  | tag htag ht _ => exact .tag htag ht

/-- In front of a line end a body stays a body when line ends become line feeds. -/
theorem IsBody.normalizeNewlines {t : Text} {contents : List Text} (hbody : IsBody t contents) :
    ∃ lines, IsBody lines contents ∧ ∀ rest, Text.normalizeNewlines (t ++ '\n' :: rest) =
      lines ++ '\n' :: Text.normalizeNewlines rest := by
  induction hbody with
  | nil => exact ⟨[], .nil, normalizeNewlines_append ['\n'] (by decide)⟩
  | @char c t contents hc ht ih =>
    obtain ⟨lines, hlines, heq⟩ := ih
    by_cases hreturn : c = '\r'
    · -- What comes next is known: the next character of the body, or the line end behind it.
      subst hreturn
      obtain ⟨d, hd⟩ : ∃ d, ∀ rest, ∃ u, t ++ '\n' :: rest = d :: u := by
        cases t with
        | nil => exact ⟨'\n', fun rest => ⟨rest, rfl⟩⟩
        | cons d t => exact ⟨d, fun rest => ⟨t ++ '\n' :: rest, rfl⟩⟩
      by_cases hfeed : d = '\n'
      · refine ⟨lines, hlines, fun rest => ?_⟩
        obtain ⟨u, hu⟩ := hd rest
        rw [← heq, List.cons_append, hu, normalizeNewlines_return, if_pos hfeed]
      · refine ⟨'\n' :: lines, .char (by decide) hlines, fun rest => ?_⟩
        obtain ⟨u, hu⟩ := hd rest
        rw [List.cons_append, List.cons_append, ← heq, hu, normalizeNewlines_return, if_neg hfeed]
    · refine ⟨c :: lines, .char hc hlines, fun rest => ?_⟩
      have hone := normalizeNewlines_append [c] (by simpa using Ne.symm hreturn)
        (t ++ '\n' :: rest)
      rw [List.singleton_append, List.singleton_append, heq] at hone
      exact hone
  | @tag symbols content t contents htag ht ih =>
    obtain ⟨lines, hlines, heq⟩ := ih
    refine ⟨_, .tag htag hlines, fun rest => ?_⟩
    have hreturn : '\r' ∉ Model.expressionTag (symbols.flatMap Symbol.text) := by
      have hopen : '\r' ∉ "\x7b\x7b ".toList := by decide
      have hclose : '\r' ∉ " \x7d\x7d".toList := by decide
      rw [Model.expressionTag, List.mem_append, List.mem_append, not_or, not_or]
      exact ⟨⟨hopen, htag.line⟩, hclose⟩
    rw [List.append_assoc, normalizeNewlines_append _ hreturn, heq, List.append_assoc]

/-- A body is read as text and its expressions. -/
theorem IsBody.reads {t : Text} {contents : List Text} (hbody : IsBody t contents)
    (pending : Text) : ∃ found left, Reads pending t found left ∧
      found.map Tag.mark? = contents.map fun content => some (.complex, content) := by
  induction hbody generalizing pending with
  | nil => exact ⟨[], pending, reads_nil pending, rfl⟩
  | @char c t contents hc _ ih =>
    obtain ⟨found, left, hreads, hmarks⟩ := ih (c :: pending)
    have hchar : Reads pending [c] [] (c :: pending) :=
      reads_text (by simpa using Ne.symm hc) pending
    exact ⟨found, left, hchar.append hreads, hmarks⟩
  | @tag symbols content t contents htag _ ih =>
    obtain ⟨found, left, hreads, hmarks⟩ := ih []
    refine ⟨_ :: found, left, ?_, by rw [List.map_cons, htag.mark, hmarks]; rfl⟩
    have htext : Model.expressionTag (symbols.flatMap Symbol.text) = "\x7b\x7b".toList ++
        ((Symbol.space :: (symbols ++ [.space])).flatMap Symbol.text ++ "\x7d\x7d".toList) := by
      simp [Model.expressionTag, Symbol.text]
    rw [htext]
    exact Reads.tag htag.readable (fun rest => rfl) ⟨'\x7d', ['\x7d'], rfl, by decide, by decide⟩
      (fun last rest => rfl) hreads

/-! ## Definitions -/

/-- The symbols of the tag that starts a macro. -/
def beginSymbols (name : Text) : List Symbol :=
  [.space, .name "macro".toList, .space, .name name, .operator '(', .name parameter,
    .operator ')', .space]

/-- The symbols of the tag that ends a macro. -/
def endSymbols : List Symbol :=
  [.space, .name "endmacro".toList, .space]

/-- The tag that starts a macro can be read. -/
theorem areReadable_beginSymbols {name : Text} (hname : isAsciiName name = true) :
    AreReadable (beginSymbols name) where
  sound := by
    have hkeyword : isAsciiName ['m', 'a', 'c', 'r', 'o'] = true := by decide
    have hparameter : isAsciiName parameter = true := by decide
    simp [beginSymbols, Symbol.IsSound, hname, hkeyword, hparameter]
  apart := rfl
  balanced := rfl

/-- The tag that ends a macro can be read. -/
theorem areReadable_endSymbols : AreReadable endSymbols where
  sound := by
    have hkeyword : isAsciiName ['e', 'n', 'd', 'm', 'a', 'c', 'r', 'o'] = true := by decide
    simp [endSymbols, Symbol.IsSound, hkeyword]
  apart := rfl
  balanced := rfl

/-- The tag that starts a macro, with the blanks that it takes away. -/
def beginTag (name blanks : Text) : Tag :=
  .ofSymbols .statement "\x7b%".toList (beginSymbols name) ("-%\x7d".toList ++ blanks)

/-- The tag that ends a macro. -/
def endTag : Tag :=
  .ofSymbols .statement "\x7b%-".toList endSymbols "%\x7d".toList

/-- What the tag that starts a macro holds. -/
def beginContent (name blanks : Text) : Text :=
  "\x7b%macro".toList ++ (name ++ ("(expression)-%\x7d".toList ++ blanks))

/-- What the tag that ends a macro holds. -/
def endContent : Text :=
  "\x7b%-endmacro%\x7d".toList

/-- The tag that starts a macro marks control flow. -/
theorem mark?_beginTag (name blanks : Text) :
    (beginTag name blanks).mark? = some (.controlFlow, beginContent name blanks) := by
  have hread : (beginTag name blanks).mark? = some (.controlFlow, "\x7b%".toList ++
      ("macro".toList ++ (name ++ (['('] ++ (parameter ++ ([')'] ++
        (("-%\x7d".toList ++ blanks) ++ []))))))) := rfl
  have hopen : "\x7b%macro".toList = "\x7b%".toList ++ "macro".toList := by decide
  have hclose : "(expression)-%\x7d".toList =
      ['('] ++ (parameter ++ ([')'] ++ "-%\x7d".toList)) := by decide
  unfold beginContent
  simp only [hread, hopen, hclose, List.append_assoc, List.append_nil]

/-- The tag that ends a macro marks control flow. -/
theorem mark?_endTag : endTag.mark? = some (.controlFlow, endContent) := by decide

/-- The tags of a definition: the start of the macro, the expressions of its body and the end. -/
def definitionMarks (name blanks : Text) (contents : List Text) : List (RegionKind × Text) :=
  (.controlFlow, beginContent name blanks) :: (contents.map (.complex, ·) ++
    [(.controlFlow, endContent)])

/-- The tag that ends a macro is read as such. -/
theorem reads_macroEnd (pending : Text) :
    Reads pending macroEnd [endTag] [] := by
  have htext : macroEnd = "\x7b%-".toList ++
      (endSymbols.flatMap Symbol.text ++ "%\x7d".toList) ++ [] := by decide
  rw [htext]
  exact Reads.tag areReadable_endSymbols (fun rest => rfl)
    ⟨'%', ['\x7d'], rfl, by decide, by decide⟩ (fun last rest => rfl) (reads_nil [])

/-- The sign in front of the end of a statement takes away the blanks after it. -/
theorem lexFrom_minus {blanks : Text} (hblanks : ∀ c ∈ blanks, isBlank c = true) {rest : Text}
    (hrest : ∀ c ∈ rest.head?, isBlank c = false) (last : Bool) :
    lexFrom 0 (.tag .statement [] last) (("-%\x7d".toList ++ blanks) ++ rest) =
      (lexFrom 0 (.text []) rest).map ([.ofText .blockEnd ("-%\x7d".toList ++ blanks)] ++ ·) := by
  have hrun : (blanks ++ rest).takeWhile isBlank = blanks := by
    rw [List.takeWhile_append_of_pos hblanks, takeWhile_eq_nil hrest, List.append_nil]
  have hend : blockEnd? ('-' :: '%' :: '\x7d' :: (blanks ++ rest)) =
      some (3 + ((blanks ++ rest).takeWhile isBlank).length) := rfl
  have hstep : step? (.tag .statement [] last) '-' (('%' :: '\x7d' :: blanks) ++ rest) =
      some ⟨[.ofText .blockEnd ("-%\x7d".toList ++ blanks)],
        ('-' :: '%' :: '\x7d' :: blanks).length, .text []⟩ := by
    have htake : ('-' :: '%' :: '\x7d' :: (blanks ++ rest)).take (3 + blanks.length) =
        "-%\x7d".toList ++ blanks := by
      rw [Nat.add_comm]
      simp
    rw [hrun] at hend
    have hlength : 3 + blanks.length = ('-' :: '%' :: '\x7d' :: blanks).length :=
      Nat.add_comm _ _
    simp only [step?, inTag?, TagKind.end?, List.cons_append, List.isEmpty_nil, if_true, hend,
      htake]
    rw [hlength]
    rfl
  exact lexFrom_of_step? hstep

/-- The tag that starts a macro, by its symbols. -/
theorem macroBegin_eq (name : Text) : macroBegin name parameter =
    "\x7b%".toList ++ ((beginSymbols name).flatMap Symbol.text ++ "-%\x7d".toList) := by
  have hopen : "\x7b% macro ".toList =
      "\x7b%".toList ++ ([' '] ++ ("macro".toList ++ [' '])) := by decide
  have hclose : ") -%\x7d".toList = [')'] ++ ([' '] ++ "-%\x7d".toList) := by decide
  unfold macroBegin
  simp only [hopen, hclose, beginSymbols, List.flatMap_cons, List.flatMap_nil, Symbol.text,
    List.append_assoc, List.append_nil]

/-- The tag that starts a macro takes away the blanks in front of the body. -/
theorem exists_reads_definition {name inner : Text} (hname : isAsciiName name = true)
    {contents : List Text} (hinner : IsBody inner contents) :
    ∃ found blanks, (∀ c ∈ blanks, isBlank c = true) ∧
      (∀ pending, Reads pending (macroBegin name parameter ++ (inner ++ macroEnd)) found []) ∧
      found.map Tag.mark? = (definitionMarks name blanks contents).map some := by
  obtain ⟨found, left, hfound, hmarks⟩ := hinner.dropWhile.reads []
  have hblanks : ∀ c ∈ inner.takeWhile isBlank, isBlank c = true := fun c => List.mem_takeWhile_imp
  have hvisible (rest : Text) :
      ∀ c ∈ (inner.dropWhile isBlank ++ macroEnd ++ rest).head?, isBlank c = false := by
    intro c hc
    cases hdrop : inner.dropWhile isBlank with
    | nil =>
      rw [hdrop] at hc
      obtain rfl := Option.some.inj hc
      decide
    | cons d visible =>
      rw [hdrop] at hc
      obtain rfl := Option.some.inj hc
      have hfirst := List.head?_dropWhile_not isBlank inner
      rw [hdrop] at hfirst
      simpa using hfirst
  have htext : macroBegin name parameter ++ (inner ++ macroEnd) = "\x7b%".toList ++
      ((beginSymbols name).flatMap Symbol.text ++ ("-%\x7d".toList ++ inner.takeWhile isBlank)) ++
        (inner.dropWhile isBlank ++ macroEnd) := by
    rw [macroBegin_eq]
    conv_lhs => rw [← List.takeWhile_append_dropWhile (p := isBlank) (l := inner)]
    simp only [List.append_assoc]
  refine ⟨beginTag name (inner.takeWhile isBlank) :: (found ++ [endTag]),
    inner.takeWhile isBlank, hblanks, fun pending => ?_, ?_⟩
  · rw [htext]
    exact Reads.tag (areReadable_beginSymbols hname) (fun rest => rfl)
      ⟨'-', _, rfl, by decide, by decide⟩
      (fun last rest => lexFrom_minus hblanks (hvisible rest) last)
      (hfound.append (reads_macroEnd left))
  · rw [List.map_cons, List.map_append, hmarks, mark?_beginTag, List.map_singleton, mark?_endTag]
    simp [definitionMarks]

/-- The macro that a definition is read as, once line ends are line feeds, and the empty line after
it. -/
theorem Definition.normalizeNewlines_text {definition : Definition}
    (hname : isAsciiName definition.name = true) {contents : List Text}
    (hbody : IsBody definition.body contents) :
    ∃ inner, IsBody inner contents ∧ ∀ rest, Text.normalizeNewlines (definition.text ++ rest) =
      macroBegin definition.name parameter ++ (inner ++ macroEnd) ++
        (['\n', '\n'] ++ Text.normalizeNewlines rest) := by
  obtain ⟨lines, hlines, hnewlines⟩ := hbody.normalizeNewlines
  have hindent : IsBody ['\n', ' ', ' ', ' ', ' '] [] := isBody_text (by decide)
  have hbreak : IsBody ['\n'] [] := isBody_text (by decide)
  have hinner := hindent.append (hlines.append hbreak)
  rw [List.nil_append, List.append_nil] at hinner
  refine ⟨_, hinner, fun rest => ?_⟩
  have hbegin : '\r' ∉ macroBegin definition.name parameter ++ ['\n', ' ', ' ', ' ', ' '] := by
    have hopen : '\r' ∉ "\x7b% macro ".toList := by decide
    have hparameter : '\r' ∉ parameter := by decide
    have hclose : '\r' ∉ ") -%\x7d".toList := by decide
    have hmissing := not_mem_of_isAsciiName hname (c := '\r') (by decide)
    unfold macroBegin
    simp only [List.mem_append, not_or]
    exact ⟨⟨⟨⟨⟨hopen, hmissing⟩, by decide⟩, hparameter⟩, hclose⟩, by decide⟩
  have htext : definition.text ++ rest =
      (macroBegin definition.name parameter ++ ['\n', ' ', ' ', ' ', ' ']) ++
        (definition.body ++ '\n' :: (macroEnd ++ ['\n', '\n'] ++ rest)) := by
    have hspaces : "    ".toList = [' ', ' ', ' ', ' '] := by decide
    unfold Definition.text macroLines
    simp only [hspaces, List.flatMap_cons, List.flatMap_nil, List.append_assoc, List.cons_append,
      List.nil_append]
  rw [htext, normalizeNewlines_append _ hbegin, hnewlines,
    normalizeNewlines_append (macroEnd ++ ['\n', '\n']) (by decide)]
  simp only [List.append_assoc, List.cons_append, List.nil_append]

/-! ## The header -/

/-- What the comment at the head of a library holds. -/
def headerInside (now : Moment) : Text :=
  "\n  Auto-generated by dbt-multi-adapter-utils\n  Generated: ".toList ++ now.shown ++
    "\n  DO NOT EDIT MANUALLY\n\n  Regenerate with: dbt-multi-adapter-utils generate\n".toList

/-- The head of the library is a comment and two line ends. -/
theorem header_eq (now : Moment) : header now =
    "\x7b#".toList ++ (headerInside now ++ "#\x7d".toList) ++ ['\n', '\n'] := by
  have hstart : "\x7b#\n  Auto-generated by dbt-multi-adapter-utils\n  Generated: ".toList =
      "\x7b#".toList ++ "\n  Auto-generated by dbt-multi-adapter-utils\n  Generated: ".toList := by
    decide
  have hend : "\n  DO NOT EDIT MANUALLY\n\n".toList ++
      "  Regenerate with: dbt-multi-adapter-utils generate\n#\x7d\n\n".toList =
      "\n  DO NOT EDIT MANUALLY\n\n  Regenerate with: dbt-multi-adapter-utils generate\n".toList ++
        ("#\x7d".toList ++ ['\n', '\n']) := by
    decide
  unfold header headerInside
  simp only [List.append_assoc, hstart, hend]

/-- There is no carriage return at the head of the library. -/
theorem return_not_mem_header (now : Moment) : '\r' ∉ header now := by
  have hshown : '\r' ∉ now.shown := not_mem_shown now (by decide) (by decide)
  unfold header
  simp only [List.mem_append, not_or]
  exact ⟨⟨⟨by decide, hshown⟩, by decide⟩, by decide⟩

/-- The comment at the head of a library is passed over. -/
theorem reads_header (now : Moment) :
    Reads [] ("\x7b#".toList ++ (headerInside now ++ "#\x7d".toList)) [] [] := by
  have hshown : '#' ∉ now.shown := not_mem_shown now (by decide) (by decide)
  have hhash : '#' ∉ headerInside now := by
    unfold headerInside
    simp only [List.mem_append, not_or]
    exact ⟨⟨by decide, hshown⟩, by decide⟩
  have hend : ∀ c ∈ (headerInside now).getLast?, c ≠ '+' ∧ c ≠ '-' := by
    intro c hc
    unfold headerInside at hc
    rw [List.getLast?_append_of_ne_nil _ (by decide)] at hc
    obtain rfl : '\n' = c := Option.some.inj (Eq.trans (by decide) hc)
    decide
  refine ⟨[], fun rest => ?_, fun rest => rfl, by simp [AreTexts]⟩
  have hopen (t : Text) : lexFrom 0 (.text []) ("\x7b#".toList ++ '\n' :: t) =
      (lexFrom 0 (.comment false) ('\n' :: t)).map ([] ++ ·) := rfl
  obtain ⟨t, ht⟩ : ∃ t, headerInside now ++ ("#\x7d".toList ++ rest) = '\n' :: t := ⟨_, rfl⟩
  rw [List.append_assoc, List.append_assoc, ht, hopen, ← ht,
    lexFrom_comment hhash hend false rest]

/-! ## Whole libraries -/

/-- The name of the macro that a tag starts. -/
def startedMacro? (tag : Text) : Option Text :=
  if "\x7b%macro".toList.isPrefixOf tag then
    some ((tag.drop "\x7b%macro".length).takeWhile isWordChar)
  else none

/-- The names of the macros that are defined by tags which in turn start and end a macro. -/
def macroNames? : List Text → Option (List Text)
  | [] => some []
  | [_] => none
  | first :: second :: rest =>
    if second = endContent then
      (startedMacro? first).bind fun name => (macroNames? rest).map (name :: ·)
    else none

/-- The name of a macro is read from the tag that starts it. -/
theorem startedMacro?_beginContent {name : Text} (hname : isAsciiName name = true)
    (blanks : Text) : startedMacro? (beginContent name blanks) = some name := by
  have hword : ∀ c ∈ name, isWordChar c = true := fun c => isWordChar_of_mem hname
  have hstart : "\x7b%macro".toList.isPrefixOf (beginContent name blanks) = true :=
    List.isPrefixOf_iff_prefix.mpr (List.prefix_append _ _)
  have hrest : (beginContent name blanks).drop "\x7b%macro".length =
      name ++ ("(expression)-%\x7d".toList ++ blanks) := rfl
  have hend : ("(expression)-%\x7d".toList ++ blanks).takeWhile isWordChar = [] := rfl
  rw [startedMacro?, if_pos hstart, hrest, List.takeWhile_append_of_pos hword, hend,
    List.append_nil]

/-- The definitions of a library, each with what the expressions of its body hold. -/
def AreDefinitions (known : List (Definition × List Text)) : Prop :=
  ∀ entry ∈ known, isAsciiName entry.1.name = true ∧ IsBody entry.1.body entry.2

/-- Tags that define macros of the given names and hold the given expressions besides. -/
structure Outlines (marks : List (RegionKind × Text)) (names contents : List Text) : Prop where
  names : macroNames? (held .controlFlow marks) = some names
  expressions : held .complex marks = contents

/-- The tags of a definition come before those of others. -/
theorem Outlines.cons {marks : List (RegionKind × Text)} {names contents others : List Text}
    (hmarks : Outlines marks names contents) {name : Text} (hname : isAsciiName name = true)
    (blanks : Text) :
    Outlines (definitionMarks name blanks others ++ marks) (name :: names)
      (others ++ contents) := by
  have hcontrol : held .controlFlow (definitionMarks name blanks others) =
      [beginContent name blanks, endContent] := by
    simp [held, definitionMarks, List.filter_map]
  have hcomplex : held .complex (definitionMarks name blanks others) = others := by
    simp [held, definitionMarks, List.filter_map]
  refine ⟨?_, by rw [held_append, hcomplex, hmarks.expressions]⟩
  rw [held_append, hcontrol]
  simp [macroNames?, startedMacro?_beginContent hname, hmarks.names]

/-- What separates pieces can be counted to the one before or the one after. -/
theorem append_flatMap_append (separator : Text) (pieces : List Text) :
    separator ++ pieces.flatMap (· ++ separator) =
      pieces.flatMap (separator ++ ·) ++ separator := by
  induction pieces with
  | nil => simp
  | cons piece pieces ih =>
    rw [List.flatMap_cons, List.append_assoc piece, ih, List.flatMap_cons]
    simp only [List.append_assoc]

/-- Definitions are read one after the other, each after an empty line. -/
theorem exists_reads_definitions {known : List (Definition × List Text)}
    (hknown : AreDefinitions known) :
    ∃ (cores : List Text) (marks : List (RegionKind × Text)),
      (normalizeNewlines ((known.map (·.1)).flatMap Definition.text) =
        cores.flatMap (· ++ ['\n', '\n'])) ∧
      (∀ pending, ∃ found left, Reads pending (cores.flatMap (['\n', '\n'] ++ ·)) found left ∧
        found.map Tag.mark? = marks.map some) ∧
      Outlines marks (known.map (·.1.name)) (known.flatMap (·.2)) := by
  induction known with
  | nil => exact ⟨[], [], rfl, fun pending => ⟨[], pending, reads_nil pending, rfl⟩, rfl, rfl⟩
  | cons entry known ih =>
    obtain ⟨⟨hname, hbody⟩, hothers⟩ := List.forall_mem_cons.mp hknown
    obtain ⟨cores, marks, hlines, hreads, houtlines⟩ := ih hothers
    obtain ⟨inner, hinner, hnewlines⟩ := entry.1.normalizeNewlines_text hname hbody
    obtain ⟨found, blanks, -, hone, hmarks⟩ := exists_reads_definition hname hinner
    refine ⟨(macroBegin entry.1.name parameter ++ (inner ++ macroEnd)) :: cores,
      definitionMarks entry.1.name blanks entry.2 ++ marks, ?_, fun pending => ?_,
      houtlines.cons hname blanks⟩
    · rw [List.map_cons, List.flatMap_cons, hnewlines, hlines, List.flatMap_cons]
      simp only [List.append_assoc]
    · have hempty : Reads pending ['\n', '\n'] [] ('\n' :: '\n' :: pending) :=
        reads_text (by decide) pending
      obtain ⟨more, left, hmore, hlater⟩ := hreads []
      refine ⟨found ++ more, left, ?_, ?_⟩
      · have hwhole := (hempty.append (hone _)).append hmore
        simpa using hwhole
      · rw [List.map_append, hmarks, hlater, List.map_append]

/-- A library is a well-formed template, and its tags are those of its definitions. -/
theorem exists_regions_of_definitions (now : Moment) {known : List (Definition × List Text)}
    (hknown : AreDefinitions known) :
    ∃ tokens found,
      lex? (header now ++ (known.map (·.1)).flatMap Definition.text) = some tokens ∧
      regions (header now ++ (known.map (·.1)).flatMap Definition.text) = .ok found ∧
      Outlines (marks found) (known.map (·.1.name)) (known.flatMap (·.2)) := by
  obtain ⟨cores, outline, hlines, hreads, houtlines⟩ := exists_reads_definitions hknown
  obtain ⟨found, left, hfound, hmarks⟩ := hreads []
  have hsource : source (header now ++ (known.map (·.1)).flatMap Definition.text) =
      ("\x7b#".toList ++ (headerInside now ++ "#\x7d".toList)) ++
        (cores.flatMap (['\n', '\n'] ++ ·) ++ ['\n']) := by
    have hnewlines : normalizeNewlines (header now ++
        (known.map (·.1)).flatMap Definition.text) =
        (("\x7b#".toList ++ (headerInside now ++ "#\x7d".toList)) ++
          (cores.flatMap (['\n', '\n'] ++ ·) ++ ['\n'])) ++ ['\n'] := by
      rw [normalizeNewlines_append _ (return_not_mem_header now), hlines, header_eq,
        List.append_assoc, append_flatMap_append]
      simp only [List.append_assoc, List.cons_append, List.nil_append]
    rw [source, hnewlines]
    simp only [List.getLast?_concat, beq_self_eq_true, if_true, List.dropLast_concat]
  have hwhole : Reads [] (source (header now ++ (known.map (·.1)).flatMap Definition.text)) found
      (['\n'] ++ left) := by
    rw [hsource]
    have hlast : Reads left ['\n'] [] (['\n'] ++ left) := reads_text (by decide) left
    have hall := (reads_header now).append (hfound.append hlast)
    rwa [List.nil_append, List.append_nil] at hall
  obtain ⟨tokens, regions, hlex, hregions, hsame⟩ := exists_regions_of_reads hwhole
  rw [hmarks] at hsame
  rw [← List.map_injective_iff.mpr (Option.some_injective _) hsame] at houtlines
  exact ⟨tokens, regions, hlex, hregions, houtlines⟩

/-! ## The definitions of a library -/

/-- The symbols of the call that a dispatching macro makes. -/
def dispatchSymbols (key : Text) : List Symbol :=
  [.name "return".toList, .operator '(', .name "adapter".toList, .operator '.',
    .name "dispatch".toList, .operator '(', .string key, .operator ',', .space,
    .string "portable".toList, .operator ')', .operator '(', .name parameter, .operator ')',
    .operator ')']

/-- The parameter between braces may stand in a body. -/
theorem isBodyTag_parameter : ∃ content, IsBodyTag [.name parameter] content := by
  have hparameter : isAsciiName parameter = true := by decide
  refine ⟨_, ⟨?_, rfl, rfl⟩, by decide, rfl⟩
  simp [Symbol.IsSound, hparameter]

/-- The call that finds the macro of an adapter may stand in a body. -/
theorem isBodyTag_dispatch {name : Text} (hname : isAsciiName name = true) :
    ∃ content, IsBodyTag (dispatchSymbols (lower name)) content := by
  have hword : ∀ c ∈ lower name, isWordChar c = true := fun c => isWordChar_lower hname
  have hkey : (Symbol.string (lower name)).IsSound := Symbol.isSound_string hword
  have hportable : (Symbol.string "portable".toList).IsSound :=
    Symbol.isSound_string (List.all_eq_true.mp (by decide))
  have hoperator {c : Char} (hc : c ∈ ['(', ')', ',', '.']) : (Symbol.operator c).IsSound := hc
  have hnames : isAsciiName "return".toList = true ∧ isAsciiName "adapter".toList = true ∧
      isAsciiName "dispatch".toList = true ∧ isAsciiName parameter = true := by decide
  obtain ⟨hreturn, hadapter, hdispatch, hparameter⟩ := hnames
  refine ⟨_, ⟨?_, rfl, rfl⟩, ?_, rfl⟩
  · simp only [dispatchSymbols, List.cons_append, List.nil_append, List.forall_mem_cons]
    exact ⟨trivial, hreturn, hoperator (by decide), hadapter, hoperator (by decide), hdispatch,
      hoperator (by decide), hkey, hoperator (by decide), trivial, hportable,
      hoperator (by decide), hoperator (by decide), hparameter, hoperator (by decide),
      hoperator (by decide), trivial, by simp⟩
  · have hline : '\r' ∉ lower name := fun h => absurd (hword _ h) (by decide)
    have hothers : '\r' ∉ "return".toList ∧ '\r' ∉ "adapter".toList ∧ '\r' ∉ "dispatch".toList ∧
        '\r' ∉ "portable".toList ∧ '\r' ∉ parameter := by decide
    simp only [dispatchSymbols, List.flatMap_cons, List.flatMap_nil, Symbol.text, List.mem_append,
      List.mem_cons, List.not_mem_nil, hline, hothers, not_or, or_false, not_false_eq_true,
      true_and]
    decide

/-- The body of a dispatching macro is one tag. -/
theorem dispatching_body (name : Text) : (dispatching name).body =
    Model.expressionTag ((dispatchSymbols (lower name)).flatMap Symbol.text) := by
  have hopen : "return(adapter.dispatch('".toList = "return".toList ++ (['('] ++
      ("adapter".toList ++ (['.'] ++ ("dispatch".toList ++ (['('] ++ ['\x27']))))) := by decide
  have hmiddle : "', 'portable')(".toList = ['\x27'] ++ ([','] ++ ([' '] ++ (['\x27'] ++
      ("portable".toList ++ (['\x27'] ++ ([')'] ++ ['('])))))) := by decide
  have hclose : "))".toList = [')'] ++ [')'] := by decide
  unfold dispatching
  simp only [hopen, hmiddle, hclose, dispatchSymbols, List.flatMap_cons, List.flatMap_nil,
    Symbol.text, List.append_assoc, List.append_nil, List.cons_append, List.nil_append]

/-- A body with no expression has no opening brace. -/
theorem IsBody.contents_ne_nil {t : Text} {contents : List Text} (hbody : IsBody t contents)
    (hbrace : '\x7b' ∈ t) : contents ≠ [] := by
  induction hbody with
  | nil => cases hbrace
  | char hc _ ih =>
    rcases List.mem_cons.mp hbrace with h | h
    · exact absurd h.symm hc
    · exact ih h
  | tag => exact List.cons_ne_nil _ _

section Library

variable {engine : Engine} {adapters functions : List Text} {primary : Dialect}

/-- Every definition of a library can be read. -/
theorem isBody_of_mem_definitions (hengine : engine.IsBraceless)
    (hadapters : ∀ adapter ∈ adapters, IsAdapterName (Dialect.canonicalName adapter))
    {name : Text} (hname : isAsciiName name = true) {definition : Definition}
    (hmem : definition ∈ definitions engine adapters primary name) :
    isAsciiName definition.name = true ∧ ∃ contents, IsBody definition.body contents := by
  have hlower : ∀ c ∈ lower name, isWordChar c = true := fun c => isWordChar_lower hname
  rcases List.mem_cons.mp hmem with rfl | hmem
  · obtain ⟨content, htag⟩ := isBodyTag_dispatch hname
    exact ⟨isAsciiName_append (by decide) hlower, _, dispatching_body name ▸ htag.isBody⟩
  · obtain ⟨adapter, hadapter, rfl⟩ := List.mem_map.mp hmem
    obtain ⟨content, htag⟩ := isBodyTag_parameter
    refine ⟨isAsciiName_append (isAsciiName_append (hadapters adapter hadapter).word ?_) hlower, ?_⟩
    · exact List.all_eq_true.mp (by decide)
    · simp only [adapting, adapterBody]
      split
      next sql hcarry =>
        exact exists_isBody_replaceAll htag (isBraceless_of_carry hengine hcarry).1 placeholder
      next =>
        have hopen : IsBody (name ++ ['(']) [] := isBody_text (by
          rw [List.mem_append, not_or]
          exact ⟨not_mem_of_isAsciiName hname (by decide), by decide⟩)
        have hclose : IsBody [')'] [] := isBody_text (by decide)
        exact ⟨_, (hopen.append htag.isBody).append hclose⟩

/-- The names of the macros of a function. -/
def definedNames (adapters : List Text) (name : Text) : List Text :=
  Model.macroName name :: adapters.map fun adapter =>
    Dialect.canonicalName adapter ++ "__".toList ++ lower name

/-- The definitions for a function have the names that are expected. -/
theorem map_name_definitions (engine : Engine) (primary : Dialect) (adapters : List Text)
    (name : Text) :
    (definitions engine adapters primary name).map (·.name) = definedNames adapters name := by
  simp only [definitions, definedNames, List.map_cons, List.map_map]
  rfl

/-- The key of a function can be told from the name of any of its macros. -/
theorem lower_eq_of_name_eq
    (hadapters : ∀ adapter ∈ adapters, IsAdapterName (Dialect.canonicalName adapter))
    {name other : Text} {first second : Definition}
    (hfirst : first ∈ definitions engine adapters primary name)
    (hsecond : second ∈ definitions engine adapters primary other)
    (hsame : first.name = second.name) : lower name = lower other := by
  rcases List.mem_cons.mp hfirst with rfl | hfirst
  · rcases List.mem_cons.mp hsecond with rfl | hsecond
    · exact List.append_cancel_left hsame
    · obtain ⟨adapter, hadapter, rfl⟩ := List.mem_map.mp hsecond
      exact absurd hsame.symm (adapting_name_ne (hadapters adapter hadapter))
  · obtain ⟨adapter, hadapter, rfl⟩ := List.mem_map.mp hfirst
    rcases List.mem_cons.mp hsecond with rfl | hsecond
    · exact absurd hsame (adapting_name_ne (hadapters adapter hadapter))
    · obtain ⟨another, hanother, rfl⟩ := List.mem_map.mp hsecond
      exact (adapting_name_inj (hadapters adapter hadapter) (hadapters another hanother) hsame).2

/-- Functions of distinct names have no macro name in common, and no function has one twice. -/
theorem nodup_map_name (engine : Engine) (primary : Dialect)
    (hdistinct : (functions.map lower).Nodup)
    (hadapters : ∀ adapter ∈ adapters, IsAdapterName (Dialect.canonicalName adapter))
    (hdialects : (adapters.map Dialect.canonicalName).Nodup) :
    ((functions.flatMap (definitions engine adapters primary)).map (·.name)).Nodup := by
  rw [List.map_flatMap, List.nodup_flatMap]
  refine ⟨fun name _ => ?_, ?_⟩
  · rw [definitions, List.map_cons, List.nodup_cons, List.map_map]
    constructor
    · intro hmem
      obtain ⟨adapter, hadapter, hsame⟩ := List.mem_map.mp hmem
      exact adapting_name_ne (hadapters adapter hadapter) hsame
    · refine List.Nodup.map_on (fun adapter hadapter another hanother hsame => ?_)
        (List.Nodup.of_map _ hdialects)
      have hdialect := (adapting_name_inj (hadapters adapter hadapter)
        (hadapters another hanother) hsame).1
      exact List.inj_on_of_nodup_map hdialects hadapter hanother hdialect
  · refine (List.pairwise_map.mp hdistinct).imp fun hne name hname hother => hne ?_
    obtain ⟨first, hfirst, rfl⟩ := List.mem_map.mp hname
    obtain ⟨second, hsecond, hsame⟩ := List.mem_map.mp hother
    exact lower_eq_of_name_eq hadapters hfirst hsecond hsame.symm

end Library

/-- The content of a definition's expressions can be chosen for all definitions at once. -/
theorem exists_areDefinitions {known : List Definition}
    (hknown : ∀ definition ∈ known, isAsciiName definition.name = true ∧
      ∃ contents, IsBody definition.body contents) :
    ∃ entries : List (Definition × List Text), entries.map (·.1) = known ∧
      AreDefinitions entries := by
  induction known with
  | nil => exact ⟨[], rfl, by simp [AreDefinitions]⟩
  | cons definition known ih =>
    obtain ⟨⟨hname, contents, hbody⟩, hothers⟩ := List.forall_mem_cons.mp hknown
    obtain ⟨entries, rfl, hentries⟩ := ih hothers
    exact ⟨(definition, contents) :: entries, rfl,
      List.forall_mem_cons.mpr ⟨⟨hname, hbody⟩, hentries⟩⟩

/-- A library is read as the macros that it defines, and it holds complex expressions. -/
theorem exists_regions_of_library {engine : Engine} (hengine : engine.IsBraceless) (now : Moment)
    {functions adapters : List Text} (primary : Dialect) (hfunctions : functions ≠ [])
    (hnames : ∀ name ∈ functions, isAsciiName name = true)
    (hdialects : ∀ adapter ∈ adapters, IsAdapterName (Dialect.canonicalName adapter)) :
    ∃ content tokens found,
      library engine now functions (.list (adapters.map .ofText)) primary = .ok content ∧
      lex? content = some tokens ∧ regions content = .ok found ∧
      macroNames? ((found.filter (·.kind == .controlFlow)).map (·.content.chars)) =
        some ((sortBy Text.le functions).flatMap (definedNames adapters)) ∧
      isConvertible found = false := by
  have hlibrary := library_eq engine now functions adapters primary
  have hreadable : ∀ definition ∈
      (sortBy Text.le functions).flatMap (definitions engine adapters primary),
      isAsciiName definition.name = true ∧ ∃ contents, IsBody definition.body contents := by
    intro definition hdefinition
    obtain ⟨name, hname, hmem⟩ := List.mem_flatMap.mp hdefinition
    exact isBody_of_mem_definitions hengine hdialects (hnames name ((mem_sortBy _).mp hname)) hmem
  obtain ⟨entries, hentries, hknown⟩ := exists_areDefinitions hreadable
  obtain ⟨tokens, found, hlex, hregions, houtlines⟩ := exists_regions_of_definitions now hknown
  rw [hentries] at hlex hregions
  refine ⟨_, tokens, found, hlibrary, hlex, hregions, ?_, isConvertible_eq_false ?_⟩
  · have hdefined : entries.map (·.1.name) =
        (sortBy Text.le functions).flatMap (definedNames adapters) := by
      have hmap : entries.map (·.1.name) = (entries.map (·.1)).map (·.name) := by
        rw [List.map_map]
        rfl
      rw [hmap, hentries, List.map_flatMap]
      exact List.flatMap_congr fun name _ => map_name_definitions engine primary adapters name
    rw [← held_marks (by decide), houtlines.names, hdefined]
  · -- The macro that dispatches a function holds an expression.
    obtain ⟨name, hname⟩ := List.exists_mem_of_ne_nil functions hfunctions
    have hmem : dispatching name ∈ entries.map (·.1) := by
      rw [hentries]
      exact List.mem_flatMap.mpr ⟨name, (mem_sortBy _).mpr hname, List.mem_cons_self⟩
    obtain ⟨entry, hentry, hdispatching⟩ := List.mem_map.mp hmem
    have hcontents := (hknown entry hentry).2.contents_ne_nil
      (hdispatching ▸ List.mem_cons_self)
    rw [houtlines.expressions, ne_eq, List.flatMap_eq_nil_iff]
    exact fun hnone => hcontents (hnone entry hentry)

/-- The macro library that is written for functions and adapters of plain names is a well-formed
template. Its statements in turn start and end the macros of the functions, in order and no name
twice, and it is never taken for a model that may be changed. -/
theorem library_defines_macros_once {engine : Engine} (hengine : engine.IsBraceless) (now : Moment)
    (settings : Settings) (functions adapters : List Text) (hfunctions : functions ≠ [])
    (hnames : ∀ name ∈ functions, isAsciiName name = true)
    (hdistinct : (functions.map lower).Nodup)
    (hsettings : settings.adapters = .list (adapters.map .ofText)) (hadapters : adapters ≠ [])
    (hdialects : ∀ adapter ∈ adapters, IsAdapterName (Dialect.canonicalName adapter))
    (hdialectsDistinct : (adapters.map Dialect.canonicalName).Nodup) :
    ∃ primary content tokens found,
      settings.adapters.first = .ok primary ∧
      library engine now functions settings.adapters (.ofValue primary) = .ok content ∧
      (∀ before path after,
        Yields (Project.generate engine now settings functions) before path after →
          ∃ location, after.locate settings.macroOutput = .ok location ∧
            (Tree.standing? location = none →
              after.lookup location = some (.file (.text content)))) ∧
      lex? content = some tokens ∧ regions content = .ok found ∧
      macroNames? ((found.filter (·.kind == .controlFlow)).map (·.content.chars)) =
        some ((sortBy Text.le functions).flatMap (definedNames adapters)) ∧
      ((sortBy Text.le functions).flatMap (definedNames adapters)).Nodup ∧
      isConvertible found = false := by
  obtain ⟨adapter, others, rfl⟩ := List.exists_cons_of_ne_nil hadapters
  have hfirst : settings.adapters.first = .ok (.ofText adapter) := by
    rw [hsettings]
    rfl
  obtain ⟨content, tokens, found, hlibrary, hlex, hregions, hmacros, hconvertible⟩ :=
    exists_regions_of_library hengine now (.ofValue (.ofText adapter)) hfunctions hnames hdialects
  rw [← hsettings] at hlibrary
  refine ⟨.ofText adapter, content, tokens, found, hfirst, hlibrary,
    fun before path after hrun => ?_, hlex, hregions, hmacros, ?_, hconvertible⟩
  · rcases Project.generate_yields hrun with ⟨hempty, -⟩ |
      ⟨-, primary, written, location, hprimary, hwritten, hlocate, hlookup⟩
    · exact absurd hempty hfunctions
    · obtain rfl := Except.ok.inj (hfirst.symm.trans hprimary)
      obtain rfl := Except.ok.inj (hlibrary.symm.trans hwritten)
      exact ⟨location, hlocate, hlookup⟩
  · have hsorted : ((sortBy Text.le functions).map lower).Nodup :=
      ((sortBy_perm Text.le functions).map lower).nodup_iff.mpr hdistinct
    have hnodup := nodup_map_name engine (.ofValue (.ofText adapter)) hsorted hdialects
      hdialectsDistinct
    rw [List.map_flatMap] at hnodup
    rwa [List.flatMap_congr fun name _ => map_name_definitions engine _ _ name] at hnodup

/-- Two aggregates for two dialects, of which one goes by another name in the settings. -/
theorem library_defines_macros_once_aggregates :
    ∃ content tokens found,
      library aggregateEngine ⟨2026, 1, 2, 3, 4, 5⟩ ["LOGICAL_OR".toList, "LOGICAL_AND".toList]
        (.list (["bigquery".toList, "PostgreSQL".toList].map .ofText))
        (.ofValue (.ofText "bigquery".toList)) = .ok content ∧
      lex? content = some tokens ∧ regions content = .ok found ∧
      macroNames? ((found.filter (·.kind == .controlFlow)).map (·.content.chars)) =
        some ["portable_logical_and".toList, "bigquery__logical_and".toList,
          "postgres__logical_and".toList, "portable_logical_or".toList,
          "bigquery__logical_or".toList, "postgres__logical_or".toList] ∧
      isConvertible found = false := by
  obtain ⟨primary, content, tokens, found, hfirst, hlibrary, -, hlex, hregions, hmacros, -,
      hconvertible⟩ :=
    library_defines_macros_once aggregateEngine_isBraceless ⟨2026, 1, 2, 3, 4, 5⟩
      ⟨.list (["bigquery".toList, "PostgreSQL".toList].map .ofText), .ofText "macros.sql".toList,
        .scalar (.bool true), [], .ofText []⟩
      ["LOGICAL_OR".toList, "LOGICAL_AND".toList] ["bigquery".toList, "PostgreSQL".toList]
      (by decide) (by decide) (by decide) rfl (by decide) (by decide) (by decide)
  obtain rfl := Except.ok.inj hfirst
  exact ⟨content, tokens, found, hlibrary, hlex, hregions, hmacros.trans (by decide +kernel),
    hconvertible⟩

end PortableSql.Macro

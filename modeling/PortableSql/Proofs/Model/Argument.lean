import PortableSql.Proofs.Macro.Reading
import PortableSql.Proofs.Model.Nesting
import PortableSql.Proofs.Template.Literal

/-!
# The argument of a macro call

A macro call takes the arguments of a call as one string, which is put between single quotes as it
is, or left as it is if it starts with a quote. A template reader that finds the macro call again
reads the same arguments from it exactly if nothing in them ends the string, changes in it or is
decoded.
-/

namespace PortableSql.Model

open Sql Text Template

/-- The tokens of a call of a macro with a string for its only argument. -/
def callTokens (name argument : Text) : List Token :=
  [.ofText .variableBegin "\x7b\x7b".toList, .ofText .name name, .ofText .operator ['('],
    .ofText .string argument, .ofText .operator [')'], .ofText .variableEnd "\x7d\x7d".toList]

/-- Arguments that can be put between single quotes as they are, and that do not start a string of
their own. -/
structure IsQuotable (args : Text) : Prop where
  start : args.head? ≠ some '\x22'
  quote : '\x27' ∉ args
  line : '\r' ∉ args
  escape : hasEscape args = false

/-! ## Around the argument -/

/-- What stands after the argument of a macro call. -/
def callEnd : Text :=
  ") \x7d\x7d".toList

/-- A macro has a name like that of its function. -/
theorem isAsciiName_macroName {function : Text} (hfunction : isAsciiName function = true) :
    isAsciiName (macroName function) = true :=
  Macro.isAsciiName_append (by decide) fun _ hc => Macro.isWordChar_lower hfunction hc

/-- A macro call is read as its name, an opening parenthesis, the argument and the end of the call.
-/
theorem source_expressionTag {name : Text} (hname : isAsciiName name = true) (argument : Text) :
    source (expressionTag (name ++ ['('] ++ argument ++ [')'])) =
      "\x7b\x7b ".toList ++ (name ++ ('(' :: (normalizeNewlines argument ++ callEnd))) := by
  have hplain : '\r' ∉ "\x7b\x7b ".toList ++ (name ++ ['(']) := by
    have hmissing : '\r' ∉ name := fun hmem => absurd (isWordChar_of_mem hname hmem) (by decide)
    simpa using hmissing
  have hparts : expressionTag (name ++ ['('] ++ argument ++ [')']) =
      ("\x7b\x7b ".toList ++ (name ++ ['('])) ++ (argument ++ callEnd) := by
    simp [expressionTag, callEnd]
  have hend : normalizeNewlines callEnd = callEnd := by decide
  have hlast : (("\x7b\x7b ".toList ++ (name ++ ['('])) ++
      (normalizeNewlines argument ++ callEnd)).getLast? = some '\x7d' := by
    rw [← List.append_assoc, List.getLast?_append_of_ne_nil _ (by decide)]
    rfl
  rw [source, hparts, normalizeNewlines_append _ hplain,
    normalizeNewlines_append_of_head? _ (by decide), hend, hlast, if_neg (by decide)]
  simp

/-- A macro call is read up to the quote that its argument starts with. -/
theorem exists_lex?_quote {name : Text} {quote : Char} (hname : isAsciiName name = true)
    (hquote : quote = '\x27' ∨ quote = '\x22') (t : Text) :
    ∃ point, lex? (expressionTag (name ++ ['('] ++ (quote :: t) ++ [')'])) =
      (lexFrom 0 (.tag .expression [')'] point) (quote :: (normalizeNewlines t ++ callEnd))).map
        ([.ofText .variableBegin "\x7b\x7b".toList, .ofText .name name,
          .ofText .operator ['(']] ++ ·) := by
  have hsound : ∀ symbol ∈ [Symbol.space, .name name, .operator '('], symbol.IsSound := by
    simpa [Symbol.IsSound] using hname
  have hopened : openAfter? [] [Symbol.space, .name name, .operator '('] = some [')'] := rfl
  have hrest : ∀ c ∈ (quote :: (normalizeNewlines t ++ callEnd)).head?,
      isBlank c = false ∧ isNameChar c = false := by
    intro c hc
    obtain rfl := Option.some.inj hc
    rcases hquote with rfl | rfl <;> decide
  obtain ⟨point, hsymbols⟩ := lexFrom_symbols .expression hsound rfl hopened hrest false
  have hlines : normalizeNewlines (quote :: t) = quote :: normalizeNewlines t :=
    normalizeNewlines_append [quote] (by rcases hquote with rfl | rfl <;> decide) t
  have hopen (u : Text) : lexFrom 0 (.text []) ("\x7b\x7b ".toList ++ u) =
      (lexFrom 0 (.tag .expression [] false) (' ' :: u)).map
        ([.ofText .variableBegin "\x7b\x7b".toList] ++ ·) := rfl
  refine ⟨point, ?_⟩
  rw [lex?, source_expressionTag hname, hlines, hopen]
  simp only [List.flatMap_cons, List.flatMap_nil, Symbol.text, Symbol.tokens, List.append_assoc,
    List.nil_append, List.cons_append] at hsymbols ⊢
  rw [hsymbols, Option.map_map]
  rfl

/-- The end of a macro call closes the parenthesis and the tag. -/
theorem lexFrom_callEnd (point : Bool) :
    lexFrom 0 (.tag .expression [')'] point) callEnd =
      some [.ofText .operator [')'], .ofText .variableEnd "\x7d\x7d".toList] := by
  cases point <;> rfl

/-! ## The argument -/

/-- An argument that starts with a quote is passed on as it is, and any other one between quotes. -/
theorem macroArgument_cons (c : Char) (cs : Text) :
    ((c = '\x27' ∨ c = '\x22') ∧ macroArgument (c :: cs) = c :: cs) ∨
      (c ≠ '\x27' ∧ c ≠ '\x22' ∧
        macroArgument (c :: cs) = '\x27' :: (c :: cs ++ ['\x27'])) := by
  by_cases hsingle : c = '\x27'
  · exact .inl ⟨.inl hsingle, by simp [macroArgument, hsingle]⟩
  · by_cases hdouble : c = '\x22'
    · exact .inl ⟨.inr hdouble, by simp [macroArgument, hdouble]⟩
    · exact .inr ⟨hsingle, hdouble, by simp [macroArgument, hsingle, hdouble]⟩

/-- Quotable arguments are put between single quotes, where they are read back. -/
theorem lex?_of_isQuotable {name args : Text} (hname : isAsciiName name = true) (hne : args ≠ [])
    (hargs : IsQuotable args) :
    lex? (expressionTag (name ++ ['('] ++ macroArgument args ++ [')'])) =
      some (callTokens name args) := by
  have hform : macroArgument args = '\x27' :: (args ++ ['\x27']) := by
    obtain ⟨c, cs, rfl⟩ := List.exists_cons_of_ne_nil hne
    rcases macroArgument_cons c cs with ⟨rfl | rfl, -⟩ | ⟨-, -, hform⟩
    · exact absurd List.mem_cons_self hargs.quote
    · exact absurd rfl hargs.start
    · exact hform
  have hlines : normalizeNewlines (args ++ ['\x27']) = args ++ ['\x27'] :=
    normalizeNewlines_eq_self (by simpa using hargs.line)
  obtain ⟨point, hlex⟩ := exists_lex?_quote hname (.inl rfl) (args ++ ['\x27'])
  rw [hlines, List.append_assoc args, List.singleton_append,
    lexFrom_literal (.inl rfl) hargs.quote hargs.escape, lexFrom_callEnd] at hlex
  rw [hform, hlex]
  rfl

/-- If arguments are read back from a literal with at most as many backslashes, then as many are
decoded as there are, and the quote of the literal does not occur in the arguments. -/
theorem exists_inside_of_read {quote : Char} {t args : Text} {point : Bool} {more : List Token}
    (hquote : quote = '\x27' ∨ quote = '\x22') (hcount : t.count '\\' ≤ args.count '\\')
    (hlex : lexFrom 0 (.tag .expression [')'] point)
      (quote :: (normalizeNewlines t ++ callEnd)) = some (.ofText .string args :: more)) :
    ∃ inside rest, normalizeNewlines t ++ callEnd = inside ++ quote :: rest ∧
      DecodesEvenly inside args ∧ quote ∉ args := by
  obtain ⟨inside, rest, chars, others, hsplit, hinside, hchars, htokens⟩ :=
    exists_inside_of_lexFrom hquote hlex
  have hsame : args = chars := by
    simp only [Token.ofText, List.cons.injEq, Token.mk.injEq, Lexeme.text.injEq, true_and]
      at htokens
    exact htokens.1
  subst hsame
  have hlines : inside.count '\\' ≤ t.count '\\' := by
    have hwhole := congrArg (List.count '\\') hsplit
    rw [List.count_append, List.count_append,
      count_normalizeNewlines (by decide) (by decide)] at hwhole
    have hend : callEnd.count '\\' = 0 := by decide
    omega
  have heven := (decodes_of_unescape? hchars).evenly (by omega)
  refine ⟨inside, rest, hsplit, heven, fun hmem => ?_⟩
  -- A quote in the arguments would stand in the literal without a backslash before it.
  have hslash : quote ≠ '\\' := by rcases hquote with rfl | rfl <;> decide
  obtain ⟨before, after, hplace, hlast | hkept⟩ := heven.exists_of_mem hmem hslash
    (by rcases hquote with rfl | rfl <;> decide)
  · exact hlast (hinside.getLast? hslash hplace)
  · have hstarts : startsEscape quote = true := by rcases hquote with rfl | rfl <;> decide
    rw [hstarts] at hkept
    cases hkept

/-- The first quote after a text without any is found there. -/
theorem eq_of_append_quote {c : Char} {first second inside rest : Text} (hfirst : c ∉ first)
    (hsecond : c ∉ second) (hsplit : first ++ c :: second = inside ++ c :: rest) :
    inside = first := by
  rcases List.append_eq_append_iff.mp hsplit with ⟨more, rfl, hmore⟩ | ⟨more, rfl, hmore⟩
  · cases more with
    | nil => exact List.append_nil first
    | cons d more =>
      refine absurd ?_ hsecond
      rw [(List.cons.inj hmore).2]
      simp
  · cases more with
    | nil => exact (List.append_nil inside).symm
    | cons d more =>
      rw [(List.cons.inj hmore).1] at hfirst
      simp at hfirst

/-- Arguments that are read back are quotable. -/
theorem isQuotable_of_lex? {name args : Text} (hname : isAsciiName name = true) (hne : args ≠ [])
    (hlex : lex? (expressionTag (name ++ ['('] ++ macroArgument args ++ [')'])) =
      some (callTokens name args)) : IsQuotable args := by
  obtain ⟨c, cs, rfl⟩ := List.exists_cons_of_ne_nil hne
  have hread {quote : Char} {t : Text} (hquote : quote = '\x27' ∨ quote = '\x22')
      (hform : macroArgument (c :: cs) = quote :: t) :
      ∃ point more, lexFrom 0 (.tag .expression [')'] point)
        (quote :: (normalizeNewlines t ++ callEnd)) = some (.ofText .string (c :: cs) :: more) := by
    obtain ⟨point, hpoint⟩ := exists_lex?_quote hname hquote t
    rw [← hform, hlex] at hpoint
    obtain ⟨tokens, htokens, heq⟩ := Option.map_eq_some_iff.mp hpoint.symm
    rw [callTokens] at heq
    rw [List.append_cancel_left heq] at htokens
    exact ⟨point, _, htokens⟩
  rcases macroArgument_cons c cs with ⟨hc, hform⟩ | ⟨hsingle, hdouble, hform⟩
  · -- A quote at the start would be the quote of the literal.
    obtain ⟨point, more, hmore⟩ := hread hc hform
    obtain ⟨-, -, -, -, hmissing⟩ :=
      exists_inside_of_read hc (List.count_le_count_cons) hmore
    exact absurd List.mem_cons_self hmissing
  · obtain ⟨point, more, hmore⟩ := hread (.inl rfl) hform
    obtain ⟨inside, rest, hsplit, heven, hmissing⟩ :=
      exists_inside_of_read (.inl rfl) (by rw [List.count_append]; simp) hmore
    rw [normalizeNewlines_append_of_head? _ (by decide), List.append_assoc] at hsplit
    have hwhole : inside = normalizeNewlines (c :: cs) :=
      eq_of_append_quote (fun hmem => hmissing (mem_of_mem_normalizeNewlines hmem (by decide)))
        (by decide) hsplit
    have hline : '\r' ∉ c :: cs := by
      intro hmem
      obtain ⟨before, after, hplace, -⟩ := heven.exists_of_mem hmem (by decide) (by decide)
      refine not_mem_normalizeNewlines (c :: cs) ?_
      rw [← hwhole, hplace]
      simp
    rw [normalizeNewlines_eq_self hline] at hwhole
    subst hwhole
    exact ⟨by simpa using hdouble, hmissing, hline, (heven.eq_self rfl).2⟩

/-- The macro call for a call passes the arguments as one string, as a template reader finds it,
exactly if they are quotable. -/
theorem arguments_passed_as_one_string_iff {function called args : Text} {node : Node}
    {primary : Dialect} (hfunction : isAsciiName function = true)
    (hcalled : isAsciiName called = true)
    (hrender : node.render primary = .ok (called ++ ['('] ++ args ++ [')']))
    (hargs : strip args ≠ []) :
    ∃ call, nodeMacroCall function node primary = .ok call ∧
      (lex? call = some (callTokens (macroName function) (strip args)) ↔
        IsQuotable (strip args)) := by
  have hname := isAsciiName_macroName hfunction
  refine ⟨expressionTag (macroName function ++ ['('] ++ macroArgument (strip args) ++ [')']), ?_,
    isQuotable_of_lex? hname hargs, lex?_of_isQuotable hname hargs⟩
  rw [nodeMacroCall, hrender]
  show Except.ok (macroCall function _) = _
  simp only [macroCall, arguments?_call hcalled]

/-- Double quotes, backslashes before letters that make no escape and letters beyond ASCII are
passed. -/
theorem arguments_passed_as_one_string_iff_pattern :
    ∃ call, nodeMacroCall "RLIKE".toList (uniformCall "RLIKE( é, \"\\d+\" )".toList) .unspecified =
        .ok call ∧
      (lex? call = some (callTokens "portable_rlike".toList "é, \"\\d+\"".toList) ↔
        IsQuotable "é, \"\\d+\"".toList) ∧
      IsQuotable "é, \"\\d+\"".toList := by
  have hname : isAsciiName "RLIKE".toList = true := by decide
  have hrender : (uniformCall "RLIKE( é, \"\\d+\" )".toList).render .unspecified =
    .ok ("RLIKE".toList ++ ['('] ++ " é, \"\\d+\" ".toList ++ [')']) := rfl
  obtain ⟨call, hcall, hread⟩ :=
    arguments_passed_as_one_string_iff hname hname hrender (by decide)
  exact ⟨call, hcall, hread, by decide, by decide, by decide, by decide⟩

/-- A string among the arguments ends the one that they are put into, and arguments that start with
a string are not put into one. -/
theorem string_argument_splits_literal :
    nodeMacroCall "NVL".toList (uniformCall "NVL(x, 'a')".toList) (.named "spark".toList) =
      .ok "\x7b\x7b portable_nvl('x, 'a'') \x7d\x7d".toList ∧
    lex? "\x7b\x7b portable_nvl('x, 'a'') \x7d\x7d".toList =
      some [.ofText .variableBegin "\x7b\x7b".toList, .ofText .name "portable_nvl".toList,
        .ofText .operator ['('], .ofText .string "x, ".toList, .ofText .name "a".toList,
        .ofText .string [], .ofText .operator [')'], .ofText .variableEnd "\x7d\x7d".toList] ∧
    nodeMacroCall "TRUNC".toList (uniformCall "TRUNC('day', t)".toList) (.named "spark".toList) =
      .ok "\x7b\x7b portable_trunc('day', t) \x7d\x7d".toList ∧
    lex? "\x7b\x7b portable_trunc('day', t) \x7d\x7d".toList ≠
      some (callTokens "portable_trunc".toList "'day', t".toList) := by
  refine ⟨?_, ?_, ?_, ?_⟩ <;> decide +kernel

end PortableSql.Model

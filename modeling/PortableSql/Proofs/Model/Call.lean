import PortableSql.Model.Call
import PortableSql.Proofs.Text.Case
import PortableSql.Proofs.Text.Search

/-!
# Names and arguments of calls

The name of a call can be taken from its text in two ways: as the word before the parenthesis, or
as everything before the parenthesis. Where the first way gives a name, the second gives the same.
The argument of a macro call is the text between the outermost parentheses.
-/

namespace PortableSql.Model

open Sql Text

/-! ## Characters of names -/

/-- Letters, digits and underscores are parts of the name of a function. -/
theorem isNamePart_of_isWordChar {c : Char} (hc : isWordChar c = true) : isNamePart c = true := by
  have hdigit : c.isDigit = ('0' ≤ c && c ≤ '9') := rfl
  rw [isWordChar_eq, hdigit] at hc
  simp only [isNamePart, isNameLetter, Bool.or_eq_true, Bool.and_eq_true, decide_eq_true_eq]
    at hc ⊢
  tauto

/-- Letters and underscores start the name of a function. -/
theorem isNameLetter_of_isWordChar {c : Char} (hc : isWordChar c = true)
    (hdigit : c.isDigit = false) : isNameLetter c = true := by
  rw [isWordChar_eq, hdigit, Bool.or_false] at hc
  simp only [isNameLetter, Bool.or_eq_true, Bool.and_eq_true, decide_eq_true_eq] at hc ⊢
  tauto

/-- A character of a name is one of four beyond ASCII or lies between zero and small z. -/
theorem code_of_isNamePart {c : Char} (hc : isNamePart c = true) :
    (0x30 ≤ c.toNat ∧ c.toNat ≤ 0x7a) ∨ c ∈ ['\u0130', '\u0131', '\u017f', '\u212a'] := by
  have hfrom (d : Char) : d ≤ c ↔ d.toNat ≤ c.toNat := Iff.rfl
  have hto (d : Char) : c ≤ d ↔ c.toNat ≤ d.toNat := Iff.rfl
  simp only [isNamePart, isNameLetter, Bool.or_eq_true, Bool.and_eq_true, decide_eq_true_eq,
    beq_iff_eq, hfrom, hto] at hc
  rcases hc with ((((((h | h) | rfl) | rfl) | rfl) | rfl) | rfl) | h
  · exact .inl (by simp at h; omega)
  · exact .inl (by simp at h; omega)
  · exact .inl (by decide)
  · exact .inr (by decide)
  · exact .inr (by decide)
  · exact .inr (by decide)
  · exact .inr (by decide)
  · exact .inl (by simp at h; omega)

/-- No blank is part of a name. -/
theorem isBlank_of_isNamePart {c : Char} (hc : isNamePart c = true) : isBlank c = false := by
  rcases code_of_isNamePart hc with hcode | hbeyond
  · simp only [isBlank, blankRanges, CodeRange.covers]
    simp
    omega
  · simp only [List.mem_cons, List.not_mem_nil, or_false] at hbeyond
    rcases hbeyond with rfl | rfl | rfl | rfl <;> decide

/-- Nothing is removed around a text of visible characters. -/
theorem strip_eq_self {t : Text} (hvisible : ∀ c ∈ t, isBlank c = false) : strip t = t := by
  have hleft : stripLeft t = t := by
    cases t with
    | nil => rfl
    | cons c t => simp [stripLeft, hvisible c (by simp)]
  rw [strip, hleft, stripRight_eq_self_iff]
  exact fun c hc => hvisible c (List.mem_of_getLast? hc)

/-! ## Names of calls -/

/-- A letter followed by characters of names. -/
def isName : Text → Bool
  | [] => false
  | c :: cs => isNameLetter c && cs.all isNamePart

/-- A name in ASCII is the name of a function. -/
theorem isName_of_isAsciiName {name : Text} (hname : isAsciiName name = true) :
    isName name = true := by
  cases name with
  | nil => cases hname
  | cons c cs =>
    simp only [isAsciiName, Bool.and_eq_true, Bool.not_eq_true', List.all_eq_true] at hname
    obtain ⟨⟨hc, hdigit⟩, hcs⟩ := hname
    simp only [isName, Bool.and_eq_true, List.all_eq_true]
    exact ⟨isNameLetter_of_isWordChar hc hdigit, fun d hd => isNamePart_of_isWordChar (hcs d hd)⟩

/-- The name of a function consists of parts of names. -/
theorem isNamePart_of_mem {name : Text} (hname : isName name = true) :
    ∀ c ∈ name, isNamePart c = true := by
  cases name with
  | nil => cases hname
  | cons c cs =>
    simp only [isName, Bool.and_eq_true, List.all_eq_true] at hname
    rw [List.forall_mem_cons]
    exact ⟨by simp [isNamePart, hname.1], hname.2⟩

/-- A name is cut off at the first character that is no part of it. -/
theorem splitName?_append {name rest : Text} (hname : isName name = true)
    (hrest : ∀ c ∈ rest.head?, isNamePart c = false) :
    splitName? (name ++ rest) = some (name, rest) := by
  cases name with
  | nil => cases hname
  | cons c cs =>
    simp only [isName, Bool.and_eq_true, List.all_eq_true] at hname
    obtain ⟨hletter, hparts⟩ := hname
    have hstop : rest.takeWhile isNamePart = [] ∧ rest.dropWhile isNamePart = rest := by
      cases rest with
      | nil => exact ⟨rfl, rfl⟩
      | cons d rest => simp [hrest d rfl]
    simp only [List.cons_append, splitName?, hletter, if_true,
      List.takeWhile_append_of_pos hparts, List.dropWhile_append_of_pos hparts, hstop,
      List.append_nil]

/-- The parts of a text that starts with a name. -/
theorem splitName?_eq_some {sql name rest : Text} (hsplit : splitName? sql = some (name, rest)) :
    sql = name ++ rest ∧ isName name = true := by
  cases sql with
  | nil => cases hsplit
  | cons c cs =>
    simp only [splitName?] at hsplit
    split at hsplit
    next hletter =>
      obtain ⟨rfl, rfl⟩ := Prod.mk.inj (Option.some.inj hsplit)
      refine ⟨by simp, ?_⟩
      simp only [isName, hletter, Bool.true_and, List.all_eq_true]
      exact fun d hd => List.mem_takeWhile_imp hd
    next => cases hsplit

/-- What stands before the first parenthesis of a text, without the blanks after it. -/
theorem strip_takeWhile_paren {name blanks rest : Text} (hname : ∀ c ∈ name, isNamePart c = true)
    (hblanks : ∀ c ∈ blanks, isBlank c = true) (hrest : ∀ c ∈ rest.head?, c = '(') :
    strip ((name ++ (blanks ++ rest)).takeWhile (· != '(')) = name := by
  have hbefore : ∀ c ∈ name ++ blanks, (c != '(') = true := by
    intro c hc
    rw [bne_iff_ne]
    rintro rfl
    rcases List.mem_append.mp hc with hc | hc
    · exact absurd (hname _ hc) (by decide)
    · exact absurd (hblanks _ hc) (by decide)
  have hstop : rest.takeWhile (· != '(') = [] := by
    cases rest with
    | nil => rfl
    | cons c rest => simp [hrest c rfl]
  rw [← List.append_assoc, List.takeWhile_append_of_pos hbefore, hstop, List.append_nil]
  have hstrip : strip ([] ++ (name ++ blanks)) = strip name :=
    strip_append_blanks (by simp) hblanks name
  rw [List.nil_append] at hstrip
  rw [hstrip, strip_eq_self fun c hc => isBlank_of_isNamePart (hname c hc)]

/-- The parts of a text that starts with a call. -/
theorem splitCall?_eq_some {sql name inside : Text} (hcall : splitCall? sql = some (name, inside)) :
    ∃ blanks, sql = name ++ (blanks ++ '(' :: inside) ∧ isName name = true ∧
      ∀ c ∈ blanks, isBlank c = true := by
  simp only [splitCall?] at hcall
  split at hcall
  next rest hsplit =>
    split at hcall
    next hrest =>
      obtain ⟨rfl, rfl⟩ := Prod.mk.inj (Option.some.inj hcall)
      obtain ⟨rfl, hname⟩ := splitName?_eq_some hsplit
      refine ⟨rest.takeWhile isBlank, ?_, hname, fun c hc => List.mem_takeWhile_imp hc⟩
      rw [← hrest, stripLeft, List.takeWhile_append_dropWhile]
    next => cases hcall
  next => cases hcall

/-- A name is told from the text of a call, also with blanks before the parenthesis. -/
theorem splitCall?_append {name blanks : Text} (hname : isName name = true)
    (hblanks : ∀ c ∈ blanks, isBlank c = true) (inside : Text) :
    splitCall? (name ++ (blanks ++ '(' :: inside)) = some (name, inside) := by
  have hstop : ∀ c ∈ (blanks ++ '(' :: inside).head?, isNamePart c = false := by
    intro c hc
    cases blanks with
    | nil =>
      obtain rfl := Option.some.inj hc
      decide
    | cons d blanks =>
      obtain rfl := Option.some.inj hc
      rw [← Bool.not_eq_true]
      intro hpart
      have hblank := hblanks d List.mem_cons_self
      rw [isBlank_of_isNamePart hpart] at hblank
      cases hblank
  have hstrip : stripLeft (blanks ++ '(' :: inside) = '(' :: inside := by
    rw [stripLeft, List.dropWhile_append_of_pos hblanks]
    rfl
  simp only [splitCall?, splitName?_append hname hstop, hstrip]

/-- The ways in which a text calls a function by its name: before an opening parenthesis, from which
blanks may separate it, or alone, where one line feed may follow. -/
inductive CallsByName : (sql name : Text) → Prop
  | call {name blanks inside : Text} (hname : isName name = true)
      (hblanks : ∀ c ∈ blanks, isBlank c = true) :
      CallsByName (name ++ (blanks ++ '(' :: inside)) name
  | bare {name rest : Text} (hname : isName name = true) (hrest : rest = [] ∨ rest = ['\n']) :
      CallsByName (name ++ rest) name

/-- What a call calls by its name is the name of a function. -/
theorem CallsByName.isName {sql name : Text} (hcalls : CallsByName sql name) :
    isName name = true := by
  cases hcalls with
  | call hname => exact hname
  | bare hname => exact hname

/-- The name that a text calls is what stands before the parenthesis. -/
theorem CallsByName.callName {sql name : Text} (hcalls : CallsByName sql name) :
    Engine.callName sql = upper name := by
  have hparts := isNamePart_of_mem hcalls.isName
  cases hcalls with
  | call hname hblanks => rw [Engine.callName, strip_takeWhile_paren hparts hblanks (by simp)]
  | @bare _ rest hname hrest =>
    have hblanks : ∀ c ∈ rest, isBlank c = true := by
      rcases hrest with rfl | rfl
      · simp
      · exact List.all_eq_true.mp (by decide)
    have hstrip : strip ((name ++ (rest ++ [])).takeWhile (· != '(')) = name :=
      strip_takeWhile_paren hparts hblanks (by simp)
    rw [List.append_nil] at hstrip
    rw [Engine.callName, hstrip]

/-- A function is told from a text exactly if the text calls it by its name. -/
theorem functionName?_eq_some_iff {sql function : Text} :
    functionName? sql = some function ↔ ∃ name, CallsByName sql name ∧ upper name = function := by
  unfold functionName?
  constructor
  · intro hname
    split at hname
    next name inside hcall =>
      obtain ⟨blanks, rfl, hname', hblanks⟩ := splitCall?_eq_some hcall
      exact ⟨name, .call hname' hblanks, Option.some.inj hname⟩
    next =>
      obtain ⟨name, hbare, rfl⟩ := Option.map_eq_some_iff.mp hname
      simp only [bareName?] at hbare
      split at hbare
      next rest hsplit =>
        split at hbare
        next hrest =>
          obtain rfl := Option.some.inj hbare
          obtain ⟨rfl, hname'⟩ := splitName?_eq_some hsplit
          exact ⟨_, .bare hname' (by simpa using hrest), rfl⟩
        next => cases hbare
      next => cases hbare
  · rintro ⟨name, hcalls, rfl⟩
    cases hcalls with
    | call hname hblanks => rw [splitCall?_append hname hblanks]
    | @bare _ rest hname hrest =>
      have hstop : ∀ c ∈ rest.head?, isNamePart c = false := by
        rcases hrest with rfl | rfl
        · simp
        · simp
          decide
      have hsplit := splitName?_append hname hstop
      have hcall : splitCall? (name ++ rest) = none := by
        simp only [splitCall?, hsplit]
        rcases hrest with rfl | rfl <;> rfl
      have hbare : bareName? (name ++ rest) = some name := by
        simp only [bareName?, hsplit]
        rcases hrest with rfl | rfl <;> rfl
      rw [hcall, hbare]
      rfl

/-- The name of a function that a text calls is the upper case of a word, and it is what stands
before the parenthesis. -/
theorem functionName?_eq_some {sql function : Text} (hname : functionName? sql = some function) :
    ∃ name : Text, (∀ c ∈ name, isNamePart c = true) ∧ function = upper name ∧
      Engine.callName sql = function := by
  obtain ⟨name, hcalls, rfl⟩ := functionName?_eq_some_iff.mp hname
  exact ⟨name, isNamePart_of_mem hcalls.isName, rfl, hcalls.callName⟩

/-! ## Macro calls -/

/-- A mark that is not in a name is not in the name of its macro. -/
theorem not_mem_macroName {p : Char} (hp : isMark p = true) (hliteral : p ∉ "portable_".toList)
    {name : Text} (hname : p ∉ name) : p ∉ macroName name := by
  intro h
  rcases List.mem_append.mp h with h | h
  · exact hliteral h
  · exact hname (mem_of_mem_lower hp h)

/-- The arguments of a call are a part of its text. -/
theorem arguments?_subset {sql args : Text} (hargs : arguments? sql = some args) : args ⊆ sql := by
  unfold arguments? at hargs
  split at hargs
  next name inside hcall =>
    obtain ⟨blanks, rfl, -, -⟩ := splitCall?_eq_some hcall
    have hinside : args ⊆ inside := by
      unfold beforeClose? at hargs
      split at hargs
      next rest hrest =>
        obtain rfl := Option.some.inj hargs
        intro c hc
        rw [← List.mem_reverse, hrest]
        exact List.mem_cons_of_mem _ (List.mem_reverse.mp hc)
      next rest hrest =>
        obtain rfl := Option.some.inj hargs
        intro c hc
        rw [← List.mem_reverse, hrest]
        exact List.mem_cons_of_mem _ (List.mem_cons_of_mem _ (List.mem_reverse.mp hc))
      next => cases hargs
    intro c hc
    simp [hinside hc]
  next => cases hargs

/-- The marks that a macro call has around the name of its function and the arguments. -/
def callMarks : Text :=
  "\x7b\x7b portable_('') \x7d\x7d".toList

/-- A macro argument holds quotes and what it is made of. -/
theorem mem_of_mem_macroArgument {p : Char} {args : Text} (hp : p ∈ macroArgument args) :
    p ∈ ['\x27'] ∨ p ∈ args := by
  unfold macroArgument at hp
  split at hp
  · cases hp
  · split at hp
    · exact .inr hp
    · rw [List.mem_append, List.mem_append] at hp
      exact hp.elim id .inl

/-- A macro call is made of the name of its function, parts of the call, and marks around them. -/
theorem mem_of_mem_macroCall {p : Char} {function sql : Text} (hp : p ∈ macroCall function sql) :
    p ∈ callMarks ∨ p ∈ lower function ∨ p ∈ sql := by
  have hmarks {part : Text} (hpart : (part.all fun c => callMarks.contains c) = true)
      (hmem : p ∈ part) : p ∈ callMarks :=
    List.contains_iff_mem.mp (List.all_eq_true.mp hpart p hmem)
  unfold macroCall expressionTag macroName at hp
  rw [List.mem_append, List.mem_append, List.mem_append, List.mem_append, List.mem_append,
    List.mem_append] at hp
  rcases hp with (hp | (((hp | hp) | hp) | hp) | hp) | hp
  · exact .inl (hmarks (by decide) hp)
  · exact .inl (hmarks (by decide) hp)
  · exact .inr (.inl hp)
  · exact .inl (hmarks (by decide) hp)
  · split at hp
    next args hargs =>
      rcases mem_of_mem_macroArgument hp with hp | hp
      · exact .inl (hmarks (by decide) hp)
      · exact .inr (.inr (arguments?_subset hargs (mem_of_mem_strip hp)))
    next => cases hp
  · exact .inl (hmarks (by decide) hp)
  · exact .inl (hmarks (by decide) hp)

/-- The parts of a macro call: the name of the macro and the argument, with marks around them. -/
theorem exists_macroCall_eq (function sql : Text) : ∃ argument : Text,
    macroCall function sql = '\x7b' :: '\x7b' :: ' ' :: (macroName function ++
      '(' :: (argument ++ [')', ' ', '\x7d', '\x7d'])) ∧
    (argument = [] ∨
      ∃ args, arguments? sql = some args ∧ argument = macroArgument (strip args)) := by
  have hshape (argument : Text) :
      expressionTag (macroName function ++ ['('] ++ argument ++ [')']) =
        '\x7b' :: '\x7b' :: ' ' :: (macroName function ++
          '(' :: (argument ++ [')', ' ', '\x7d', '\x7d'])) := by
    show '\x7b' :: '\x7b' :: ' ' :: (macroName function ++ ['('] ++ argument ++ [')'] ++
      [' ', '\x7d', '\x7d']) = _
    simp
  unfold macroCall
  split
  next args hargs => exact ⟨_, hshape _, .inr ⟨args, hargs, rfl⟩⟩
  next => exact ⟨[], hshape [], .inl rfl⟩

/-- The arguments of a call are the text between its parentheses. -/
theorem arguments?_call {name : Text} (hname : isAsciiName name = true) (args : Text) :
    arguments? (name ++ ['('] ++ args ++ [')']) = some args := by
  have hsplit : splitName? (name ++ ('(' :: (args ++ [')']))) =
      some (name, '(' :: (args ++ [')'])) :=
    splitName?_append (isName_of_isAsciiName hname) (by simp; decide)
  have hcall : splitCall? (name ++ ('(' :: (args ++ [')']))) = some (name, args ++ [')']) := by
    simp only [splitCall?, hsplit]
    rfl
  have hshape : name ++ ['('] ++ args ++ [')'] = name ++ ('(' :: (args ++ [')'])) := by simp
  simp only [hshape, arguments?, hcall, beforeClose?, List.reverse_append, List.reverse_singleton,
    List.singleton_append, List.reverse_reverse]

/-- A macro call takes the arguments of a call as a string. -/
theorem macroCall_call {name args : Text} (hname : isAsciiName name = true) (function : Text)
    (hargs : args ≠ []) (hstrip : strip args = args) (hsingle : '\x27' ∉ args)
    (hdouble : '\x22' ∉ args) :
    macroCall function (name ++ ['('] ++ args ++ [')']) =
      expressionTag (macroName function ++ ['('] ++ (['\x27'] ++ args ++ ['\x27']) ++ [')']) := by
  obtain ⟨c, cs, rfl⟩ := List.exists_cons_of_ne_nil hargs
  rw [List.mem_cons, not_or] at hsingle hdouble
  have hquotes : (c == '\x27' || c == '\x22') = false := by
    simp [Ne.symm hsingle.1, Ne.symm hdouble.1]
  simp only [macroCall, arguments?_call hname, hstrip, macroArgument, hquotes, Bool.false_eq_true,
    if_false]

end PortableSql.Model

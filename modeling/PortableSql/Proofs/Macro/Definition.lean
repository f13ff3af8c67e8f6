import PortableSql.Macro.Library
import PortableSql.Proofs.Computation
import PortableSql.Proofs.Model.Call
import PortableSql.Proofs.Sorting
import PortableSql.Proofs.Text.Brace

/-!
# The definitions in a macro library

A library is a comment followed by definitions of macros: for each function the one that
dispatches, and then one for each adapter. A search for the opening of a macro passes over the
comment and over all definitions of other names, as long as no name and no body brings in a
statement tag of its own. So a library defines the macros that it was made for and no others.
-/

namespace PortableSql

/-- An engine that writes no braces: neither for a node of a tree that it has read, nor for one
whose arguments were replaced by a text without braces. -/
structure Sql.Engine.IsBraceless (engine : Engine) : Prop where
  written : ∀ {sql dialect tree node target t}, engine.parse sql dialect = .ok (some tree) →
    node ∈ tree.walk → node.render target = .ok t → t.IsBraceless
  carried : ∀ {sql dialect tree node identifier target t},
    engine.parse sql dialect = .ok (some tree) → node ∈ tree.walk →
    identifier.IsBraceless → (node.withArgument identifier).render target = .ok t → t.IsBraceless

namespace Macro

open Sql Text

/-! ## The parts of a library -/

/-- A macro of one parameter, by its name and the line between its tags. -/
structure Definition where
  /-- The name of the macro. -/
  name : Text
  /-- What the macro stands for. -/
  body : Text
deriving DecidableEq

/-- How the definition of a macro starts. -/
def opening (name : Text) : Text :=
  "\x7b% macro ".toList ++ name ++ ['(']

/-- The definition as it stands in a library, each line with its end. -/
def Definition.text (definition : Definition) : Text :=
  (macroLines definition.name parameter definition.body).flatMap (· ++ ['\n'])

/-- The definition that dispatches a function. -/
def dispatching (name : Text) : Definition :=
  ⟨Model.macroName name, Model.expressionTag ("return(adapter.dispatch('".toList ++
    lower name ++ "', 'portable')(".toList ++ parameter ++ "))".toList)⟩

/-- The definition of a function for an adapter. -/
def adapting (engine : Engine) (primary : Dialect) (name adapter : Text) : Definition :=
  ⟨Dialect.canonicalName adapter ++ "__".toList ++ lower name,
    adapterBody engine name primary (.named (Dialect.canonicalName adapter))⟩

/-- The definitions of a function. -/
def definitions (engine : Engine) (adapters : List Text) (primary : Dialect) (name : Text) :
    List Definition :=
  dispatching name :: adapters.map (adapting engine primary name)

/-- Lines that are joined, and the last one ended. -/
theorem join_append_break {lines : List Text} (hlines : lines ≠ []) :
    Text.join ['\n'] lines ++ ['\n'] = lines.flatMap (· ++ ['\n']) := by
  induction lines with
  | nil => exact absurd rfl hlines
  | cons line lines ih =>
    cases lines with
    | nil => simp [Text.join]
    | cons next lines =>
      rw [List.flatMap_cons, ← ih (List.cons_ne_nil _ _)]
      simp [Text.join]

/-- The lines for an adapter are those of its definition. -/
theorem adapterMacro_ofText (engine : Engine) (name : Text) (primary : Dialect) (adapter : Text) :
    adapterMacro engine name primary (.ofText adapter) =
      .ok (macroLines (adapting engine primary name adapter).name parameter
        (adapting engine primary name adapter).body) := rfl

/-- All macros of a function are the texts of its definitions. -/
theorem functionMacros_eq (engine : Engine) (name : Text) (adapters : List Text)
    (primary : Dialect) :
    (do return (← functionMacros engine name (.list (adapters.map .ofText)) primary) ++ ['\n']) =
      Except.ok (ε := Fault)
        ((definitions engine adapters primary name).flatMap Definition.text) := by
  have hmacros : (adapters.map Value.ofText).mapM (adapterMacro engine name primary) =
      .ok (adapters.map fun adapter => macroLines (adapting engine primary name adapter).name
        parameter (adapting engine primary name adapter).body) := by
    rw [mapM_eq_ok, List.forall₂_map_left_iff, List.forall₂_map_right_iff, List.forall₂_same]
    exact fun adapter _ => adapterMacro_ofText engine name primary adapter
  rw [functionMacros, Value.items]
  simp only [bind, Except.bind, hmacros, pure, Except.pure]
  rw [join_append_break (by simp [dispatcher, macroLines])]
  simp only [definitions, dispatching, Definition.text, dispatcher, List.flatMap_append,
    List.flatMap_cons, List.flatMap_map, List.flatten_eq_flatMap, List.flatMap_assoc, id]

/-- A library is its header and the texts of the definitions of its functions, in order. -/
theorem library_eq (engine : Engine) (now : Moment) (functions adapters : List Text)
    (primary : Dialect) :
    library engine now functions (.list (adapters.map .ofText)) primary =
      .ok (header now ++ ((sortBy Text.le functions).flatMap
        (definitions engine adapters primary)).flatMap Definition.text) := by
  have hmacros : (sortBy Text.le functions).mapM (fun name => do
      return (← functionMacros engine name (.list (adapters.map .ofText)) primary) ++ ['\n']) =
      Except.ok (ε := Fault) ((sortBy Text.le functions).map fun name =>
        (definitions engine adapters primary name).flatMap Definition.text) := by
    rw [mapM_eq_ok, List.forall₂_map_right_iff, List.forall₂_same]
    exact fun name _ => functionMacros_eq engine name adapters primary
  rw [library, hmacros]
  simp only [bind, Except.bind, pure, Except.pure, List.flatMap_assoc, List.flatten_eq_flatMap,
    List.flatMap_map, id]

/-! ## Searching a library -/

/-- The opening of a macro is passed over in a text without opening braces. -/
theorem skips_opening_of_not_mem {name segment : Text} (hbrace : '\x7b' ∉ segment) :
    Skips (opening name) segment :=
  skips_of_not_mem hbrace

/-- The opening of a macro is passed over in a tag that is no statement. -/
theorem skips_opening_of_clashes {segment : Text} (name : Text)
    (hclash : clashes "\x7b% macro ".toList segment = true) : Skips (opening name) segment := by
  unfold opening
  rw [List.append_assoc]
  exact skips_of_clashes (name ++ ['(']) hclash

/-- The opening of one macro is passed over in the opening of another. -/
theorem skips_opening_opening {name other : Text} (hname : '(' ∉ name) (hother : '(' ∉ other)
    (hbrace : '\x7b' ∉ other) (hne : other ≠ name) : Skips (opening name) (opening other) := by
  have hrest : '\x7b' ∉ "% macro ".toList ++ other ++ ['('] := by
    rw [List.mem_append, List.mem_append]
    rintro ((h | h) | h)
    · exact absurd h (by decide)
    · exact hbrace h
    · exact absurd h (by decide)
  refine skips_cons (fun rest hstart => hne ?_) (skips_opening_of_not_mem hrest)
  have hsame : opening name <+: opening other ++ rest := hstart
  unfold opening at hsame
  rw [List.append_assoc, List.append_assoc, List.append_assoc,
    List.prefix_append_right_inj] at hsame
  exact (eq_of_marked_start hname hother hsame).symm

/-- A definition that brings in no statement tag besides its own two, and whose name ends where the
parameter starts. -/
structure Definition.IsTame (definition : Definition) : Prop where
  paren : '(' ∉ definition.name
  brace : '\x7b' ∉ definition.name
  body : ∀ pattern, Skips ('\x7b' :: '%' :: pattern) definition.body

/-- The opening of a macro is passed over in the definition of another. -/
theorem Definition.IsTame.skips_opening {name : Text} {definition : Definition}
    (htame : definition.IsTame) (hname : '(' ∉ name) (hne : definition.name ≠ name) :
    Skips (opening name) definition.text := by
  have hbegin : Skips (opening name) (macroBegin definition.name parameter) :=
    ((skips_opening_opening hname htame.paren htame.brace hne).append
      (skips_opening_of_not_mem (by decide))).append (skips_opening_of_not_mem (by decide))
  have hindent : Skips (opening name) "    ".toList := skips_opening_of_not_mem (by decide)
  have hend : Skips (opening name) macroEnd := skips_opening_of_clashes name (by decide)
  have hbreak : Skips (opening name) ['\n'] := skips_opening_of_not_mem (by decide)
  refine skips_flatten fun segment hsegment => ?_
  simp only [macroLines, List.map_cons, List.map_nil, List.mem_cons, List.not_mem_nil,
    or_false] at hsegment
  rcases hsegment with rfl | rfl | rfl | rfl
  · exact hbegin.append hbreak
  · exact (hindent.append (htame.body _)).append hbreak
  · exact hend.append hbreak
  · exact hbreak

/-- A numeral holds digits only. -/
theorem isDigit_of_mem_ofNat {n : Nat} {c : Char} (hc : c ∈ Text.ofNat n) : c.isDigit = true :=
  Nat.isDigit_of_mem_toDigits (by decide) (by decide) hc

/-- Numbers hold nothing but digits. -/
theorem not_mem_ofNat {c : Char} (hdigit : c.isDigit = false) (n : Nat) : c ∉ Text.ofNat n := by
  intro hmem
  rw [isDigit_of_mem_ofNat hmem] at hdigit
  cases hdigit

/-- Only digits, hyphens, colons and spaces are written in a moment. -/
theorem not_mem_shown (now : Moment) {c : Char} (hdigit : c.isDigit = false)
    (hc : c ∉ ['-', ':', ' ']) : c ∉ now.shown := by
  have hnumber := not_mem_ofNat hdigit
  have hzero : c ≠ '0' := by
    rintro rfl
    cases hdigit
  have htwo (n : Nat) : c ∉ ofNatTwo n := by
    unfold ofNatTwo
    split
    · simpa [hzero] using hnumber n
    · exact hnumber n
  simp only [List.mem_cons, List.not_mem_nil, or_false, not_or] at hc
  simp [Moment.shown, hnumber, htwo, hc]

/-- The opening of a macro is passed over in the header of a library. -/
theorem skips_opening_header (name : Text) (now : Moment) : Skips (opening name) (header now) := by
  have hstart : Skips (opening name)
      "\x7b#\n  Auto-generated by dbt-multi-adapter-utils\n  Generated: ".toList :=
    skips_opening_of_clashes name (by decide)
  have hmoment : Skips (opening name) now.shown :=
    skips_opening_of_not_mem (not_mem_shown now (by decide) (by decide))
  refine ((hstart.append hmoment).append (skips_opening_of_not_mem ?_)).append
    (skips_opening_of_not_mem ?_)
  · decide
  · decide

/-- No statement tag is in an expression tag. -/
theorem skips_expressionTag {inside : Text} (pattern : Text) (hbrace : '\x7b' ∉ inside) :
    Skips ('\x7b' :: '%' :: pattern) (Model.expressionTag inside) := by
  have hstart : Skips (['\x7b', '%'] ++ pattern) "\x7b\x7b ".toList :=
    skips_of_clashes pattern (by decide)
  exact (hstart.append (skips_of_not_mem hbrace)).append (skips_of_not_mem (by decide))

/-- A dispatching definition is tame. -/
theorem dispatching_isTame {name : Text} (hparen : '(' ∉ name) (hbrace : '\x7b' ∉ name) :
    (dispatching name).IsTame where
  paren := Model.not_mem_macroName (by decide) (by decide) hparen
  brace := Model.not_mem_macroName (by decide) (by decide) hbrace
  body pattern := by
    refine skips_expressionTag pattern fun h => ?_
    simp only [List.mem_append] at h
    rcases h with (((h | h) | h) | h) | h
    · exact absurd h (by decide)
    · exact hbrace (mem_of_mem_lower (by decide) h)
    all_goals exact absurd h (by decide)

/-- A function is carried to a text without braces. -/
theorem isBraceless_of_carry {engine : Engine} (hengine : engine.IsBraceless) {name sql : Text}
    {primary target : Dialect} (hcarry : carry engine name placeholder primary target = .ok sql) :
    sql.IsBraceless := by
  simp only [carry, bind_eq_ok] at hcarry
  obtain ⟨answer, hparse, hanswer⟩ := hcarry
  cases answer with
  | none => cases hanswer
  | some tree =>
    cases hcall : tree.firstCall? with
    | none => simp [hcall] at hanswer
    | some call =>
      simp only [hcall] at hanswer
      have hplaceholder : placeholder.IsBraceless := by decide
      exact hengine.carried hparse (List.mem_of_find?_eq_some hcall) hplaceholder hanswer

/-- A function is carried to texts without opening braces for all adapters. -/
def CarriesPlainly (engine : Engine) (adapters : List Text) (primary : Dialect) (name : Text) :
    Prop :=
  ∀ adapter ∈ adapters, ∀ sql,
    carry engine name placeholder primary (.named (Dialect.canonicalName adapter)) = .ok sql →
      '\x7b' ∉ sql

/-- An engine that writes no braces carries every function to texts without them. -/
theorem carriesPlainly_of_isBraceless {engine : Engine} (hengine : engine.IsBraceless)
    (adapters : List Text) (primary : Dialect) (name : Text) :
    CarriesPlainly engine adapters primary name :=
  fun _ _ _ hcarry => (isBraceless_of_carry hengine hcarry).1

/-- The definition of a function for an adapter is tame. -/
theorem adapting_isTame {engine : Engine} {adapters : List Text} {primary : Dialect}
    {name adapter : Text} (hcarries : CarriesPlainly engine adapters primary name)
    (hmem : adapter ∈ adapters) (hparen : '(' ∉ name) (hbrace : '\x7b' ∉ name)
    (hadapter : '(' ∉ Dialect.canonicalName adapter ∧ '\x7b' ∉ Dialect.canonicalName adapter) :
    (adapting engine primary name adapter).IsTame where
  paren h := by
    simp only [adapting, List.mem_append] at h
    rcases h with (h | h) | h
    · exact hadapter.1 h
    · exact absurd h (by decide)
    · exact hparen (mem_of_mem_lower (by decide) h)
  brace h := by
    simp only [adapting, List.mem_append] at h
    rcases h with (h | h) | h
    · exact hadapter.2 h
    · exact absurd h (by decide)
    · exact hbrace (mem_of_mem_lower (by decide) h)
  body pattern := by
    have htag : Skips ('\x7b' :: '%' :: pattern) (Model.expressionTag parameter) :=
      skips_expressionTag pattern (by decide)
    simp only [adapting, adapterBody]
    split
    next sql hcarry => exact skips_replaceAll htag (hcarries adapter hmem sql hcarry)
    next =>
      exact (((skips_of_not_mem hbrace).append (skips_of_not_mem (by decide))).append htag).append
        (skips_of_not_mem (by decide))

/-! ## What a library defines -/

/-- A dialect whose macros cannot be taken for others: an identifier without underscores, other
than the one that dispatching macros start with. -/
structure IsAdapterName (name : Text) : Prop where
  word : isAsciiName name = true
  underscore : '_' ∉ name
  notPortable : name ≠ "portable".toList

instance (name : Text) : Decidable (IsAdapterName name) :=
  decidable_of_iff (isAsciiName name = true ∧ '_' ∉ name ∧ name ≠ "portable".toList)
    ⟨fun h => ⟨h.1, h.2.1, h.2.2⟩, fun h => ⟨h.1, h.2, h.3⟩⟩

/-- A name of a function that can be told in a definition. -/
def IsPlain (name : Text) : Prop :=
  '(' ∉ name ∧ '\x7b' ∉ name

variable {engine : Engine} {adapters : List Text} {primary : Dialect}

/-- The definitions of a function are tame. -/
theorem isTame_of_mem_definitions
    (hadapters : ∀ adapter ∈ adapters, IsAdapterName (Dialect.canonicalName adapter))
    {name : Text} (hname : IsPlain name) (hcarries : CarriesPlainly engine adapters primary name)
    {definition : Definition}
    (hmem : definition ∈ definitions engine adapters primary name) : definition.IsTame := by
  rcases List.mem_cons.mp hmem with rfl | hmem
  · exact dispatching_isTame hname.1 hname.2
  · obtain ⟨adapter, hadapter, rfl⟩ := List.mem_map.mp hmem
    have hword := (hadapters adapter hadapter).word
    exact adapting_isTame hcarries hadapter hname.1 hname.2
      ⟨not_mem_of_isAsciiName hword rfl, not_mem_of_isAsciiName hword rfl⟩

/-- The macro of an adapter is not named as one that dispatches. -/
theorem adapting_name_ne {name other adapter : Text}
    (hadapter : IsAdapterName (Dialect.canonicalName adapter)) :
    (adapting engine primary name adapter).name ≠ Model.macroName other := by
  intro hsame
  have hstart : Dialect.canonicalName adapter ++ ['_'] <+:
      "portable".toList ++ '_' :: lower other := by
    have hwhole : Model.macroName other = "portable".toList ++ '_' :: lower other := rfl
    rw [← hwhole, ← hsame]
    simp only [adapting, List.append_assoc]
    exact (List.prefix_append_right_inj _).mpr ⟨'_' :: lower name, rfl⟩
  exact hadapter.notPortable (eq_of_marked_start hadapter.underscore (by decide) hstart)

/-- A definition starts with the opening of its macro. -/
theorem Definition.opening_prefix_text (definition : Definition) :
    opening definition.name <+: definition.text := by
  refine ⟨parameter ++ ") -%\x7d".toList ++ ['\n'] ++
    [("    ".toList ++ definition.body), macroEnd, []].flatMap (· ++ ['\n']), ?_⟩
  unfold Definition.text macroLines macroBegin opening
  simp only [List.flatMap_cons, List.append_assoc]

/-- A library defines the macro of each of its functions. -/
theorem includes_library_of_mem {now : Moment} {functions : List Text} {library : Text}
    (hlibrary : Macro.library engine now functions (.list (adapters.map .ofText)) primary =
      .ok library) {name : Text} (hname : name ∈ functions) :
    includes library (opening (Model.macroName name)) = true := by
  rw [library_eq, Except.ok.injEq] at hlibrary
  have hmem : dispatching name ∈
      (sortBy Text.le functions).flatMap (definitions engine adapters primary) :=
    List.mem_flatMap.mpr ⟨name, (mem_sortBy _).mpr hname, List.mem_cons_self⟩
  have hpart : (dispatching name).text <:+:
      ((sortBy Text.le functions).flatMap (definitions engine adapters primary)).flatMap
        Definition.text := by
    obtain ⟨before, after, hsplit⟩ := List.append_of_mem hmem
    rw [hsplit, List.flatMap_append, List.flatMap_cons]
    exact (List.prefix_append _ _).isInfix.trans (List.suffix_append _ _).isInfix
  rw [includes_eq_true_iff, ← hlibrary]
  exact ((dispatching name).opening_prefix_text.isInfix.trans hpart).trans
    (List.suffix_append _ _).isInfix

/-- A library of tame definitions defines no other macros than those of its functions and its
adapters. -/
theorem exists_mem_of_includes_library
    (hadapters : ∀ adapter ∈ adapters, IsAdapterName (Dialect.canonicalName adapter))
    {now : Moment} {functions : List Text} (hfunctions : ∀ name ∈ functions, IsPlain name)
    (hcarries : ∀ name ∈ functions, CarriesPlainly engine adapters primary name)
    {library : Text} (hlibrary : Macro.library engine now functions
      (.list (adapters.map .ofText)) primary = .ok library)
    {name : Text} (hname : '(' ∉ name)
    (hincludes : includes library (opening (Model.macroName name)) = true) :
    ∃ function ∈ functions, Model.macroName function = Model.macroName name := by
  rw [library_eq, Except.ok.injEq] at hlibrary
  have hparen := Model.not_mem_macroName (by decide) (by decide) hname
  by_contra hnone
  push Not at hnone
  have hdefinitions : Skips (opening (Model.macroName name))
      (((sortBy Text.le functions).flatMap (definitions engine adapters primary)).flatMap
        Definition.text) := by
    refine skips_flatten fun segment hsegment => ?_
    obtain ⟨definition, hdefinition, rfl⟩ := List.mem_map.mp hsegment
    obtain ⟨function, hfunction, hmem⟩ := List.mem_flatMap.mp hdefinition
    rw [mem_sortBy] at hfunction
    have htame := isTame_of_mem_definitions hadapters (hfunctions function hfunction)
      (hcarries function hfunction) hmem
    refine htame.skips_opening hparen ?_
    rcases List.mem_cons.mp hmem with rfl | hmem
    · exact hnone function hfunction
    · obtain ⟨adapter, hadapter, rfl⟩ := List.mem_map.mp hmem
      exact adapting_name_ne (hadapters adapter hadapter)
  have hwhole := ((skips_opening_header _ now).append hdefinitions).not_includes
    (List.cons_ne_nil _ _)
  rw [hlibrary, hincludes] at hwhole
  cases hwhole

end Macro

end PortableSql

import PortableSql.Proofs.Macro.Definition

/-!
# What a macro call stands for

A macro call in a model is expanded through the library: the macro that it names dispatches to the
macro of the adapter in use, and the body of that one is taken with the argument in the place of
the parameter. Blanks around a body are dropped, as its tags say. The expansion of a call is the
function as the adapter's dialect writes it, with the arguments of the call in it.
-/

namespace PortableSql.Macro

open Sql Text

/-! ## Expanding a call -/

/-- The body of a macro in a library, without the blanks around it. -/
def body? (library name : Text) : Option Text :=
  (between? ("\x7b% macro ".toList ++ name ++ "(expression) -%\x7d".toList)
    "\x7b%- endmacro %\x7d".toList library).map strip

/-- What a macro call with a string argument stands for when an adapter is in use. -/
def expand? (library adapter call : Text) : Option Text := do
  let name ← between? "\x7b\x7b ".toList "('".toList call
  let argument ← between? "('".toList "') \x7d\x7d".toList call
  let dispatch ← body? library name
  let key ← between? "\x7b\x7b return(adapter.dispatch('".toList
    "', 'portable')(expression)) \x7d\x7d".toList dispatch
  let body ← body? library (adapter ++ "__".toList ++ key)
  return replaceAll "\x7b\x7b expression \x7d\x7d".toList argument body

/-- The function as a dialect writes it, with the placeholder for its argument. A function that
cannot be carried over is called by its name. -/
def carried (engine : Engine) (name : Text) (primary dialect : Dialect) : Text :=
  match carry engine name placeholder primary dialect with
  | .ok sql => sql
  | .error _ => name ++ ['('] ++ placeholder ++ [')']

/-- Names of functions: identifiers in which the placeholder does not occur. -/
structure IsFunctionName (name : Text) : Prop where
  word : isAsciiName name = true
  placeholder : includes name placeholder = false

instance (name : Text) : Decidable (IsFunctionName name) :=
  decidable_of_iff (isAsciiName name = true ∧ includes name placeholder = false)
    ⟨fun h => ⟨h.1, h.2⟩, fun h => ⟨h.1, h.2⟩⟩

/-- What is no word character is not in the name of a function. -/
theorem IsFunctionName.not_mem {name : Text} (hname : IsFunctionName name) {c : Char}
    (hc : isWordChar c = false) : c ∉ name :=
  not_mem_of_isAsciiName hname.word hc

/-- The name of a function is plain SQL. -/
theorem IsFunctionName.isPlain {name : Text} (hname : IsFunctionName name) : IsPlain name :=
  ⟨hname.not_mem (by decide), hname.not_mem (by decide)⟩

/-- Texts of arguments that can be handed to a macro as a string. -/
structure IsArgument (args : Text) : Prop where
  nonempty : args ≠ []
  stripped : strip args = args
  quotes : '\x27' ∉ args ∧ '\x22' ∉ args
  backslash : '\x5c' ∉ args
  braceless : args.IsBraceless

/-! ## Definitions by name -/

/-- The text of a definition, cut at its tags. -/
theorem Definition.text_eq (definition : Definition) :
    definition.text = ("\x7b% macro ".toList ++ definition.name ++ "(expression) -%\x7d".toList) ++
      ((['\n', ' ', ' ', ' ', ' '] ++ (definition.body ++ ['\n'])) ++
        ("\x7b%- endmacro %\x7d".toList ++ ['\n', '\n'])) := by
  have hlines : "(expression) -%\x7d".toList = ['('] ++ parameter ++ ") -%\x7d".toList := by decide
  have hindent : "    ".toList = [' ', ' ', ' ', ' '] := by decide
  unfold Definition.text macroLines macroBegin macroEnd
  rw [hlines, hindent]
  simp only [List.flatMap_cons, List.flatMap_nil, List.append_assoc, List.nil_append,
    List.append_nil, List.cons_append]

/-- The body of the first definition of a name is found in a library of tame definitions. -/
theorem body?_eq {now : Moment} {known : List Definition} (htame : ∀ d ∈ known, d.IsTame)
    {name : Text} {definition : Definition}
    (hfirst : known.find? (·.name == name) = some definition) :
    body? (header now ++ known.flatMap Definition.text) name = some (strip definition.body) := by
  obtain ⟨hname, before, after, rfl, hbefore⟩ := List.find?_eq_some_iff_append.mp hfirst
  obtain rfl : definition.name = name := by simpa using hname
  have hself : definition.IsTame := htame definition (by simp)
  have hearlier : Skips (opening definition.name)
      (header now ++ before.flatMap Definition.text) := by
    refine (skips_opening_header _ now).append (skips_flatten fun segment hsegment => ?_)
    obtain ⟨earlier, hearlier, rfl⟩ := List.mem_map.mp hsegment
    have hne : earlier.name ≠ definition.name := by simpa using hbefore earlier hearlier
    exact (htame earlier (by simp [hearlier])).skips_opening hself.paren hne
  have hleft : Skips ("\x7b% macro ".toList ++ definition.name ++ "(expression) -%\x7d".toList)
      (header now ++ before.flatMap Definition.text) := by
    have hextended := hearlier.extend "expression) -%\x7d".toList
    unfold opening at hextended
    rw [List.append_assoc] at hextended
    exact hextended
  have hinside : Skips "\x7b%- endmacro %\x7d".toList
      (['\n', ' ', ' ', ' ', ' '] ++ (definition.body ++ ['\n'])) :=
    (skips_of_not_mem (by decide)).append ((hself.body _).append (skips_of_not_mem (by decide)))
  have hfound := between?_eq hleft hinside (['\n', '\n'] ++ after.flatMap Definition.text)
  have hwhole : header now ++ (before ++ definition :: after).flatMap Definition.text =
      (header now ++ before.flatMap Definition.text) ++
        (("\x7b% macro ".toList ++ definition.name ++ "(expression) -%\x7d".toList) ++
          ((['\n', ' ', ' ', ' ', ' '] ++ (definition.body ++ ['\n'])) ++
            ("\x7b%- endmacro %\x7d".toList ++
              (['\n', '\n'] ++ after.flatMap Definition.text)))) := by
    rw [List.flatMap_append, List.flatMap_cons, definition.text_eq]
    simp only [List.append_assoc]
  rw [body?, hwhole, hfound, Option.map_some,
    strip_append_blanks (List.all_eq_true.mp (by decide)) (List.all_eq_true.mp (by decide))
      definition.body]

section Library

variable {engine : Engine} {adapters functions : List Text} {primary : Dialect}

/-- A key that two adapters share under one macro name belongs to one dialect. -/
theorem adapting_name_inj {name other adapter another : Text}
    (hadapter : IsAdapterName (Dialect.canonicalName adapter))
    (hanother : IsAdapterName (Dialect.canonicalName another))
    (hsame : (adapting engine primary name adapter).name =
      (adapting engine primary other another).name) :
    Dialect.canonicalName adapter = Dialect.canonicalName another ∧ lower name = lower other := by
  simp only [adapting, List.append_assoc] at hsame
  have hstart : Dialect.canonicalName adapter ++ ['_'] <+:
      Dialect.canonicalName another ++ '_' :: ('_' :: lower other) := by
    have hshape : Dialect.canonicalName another ++ '_' :: ('_' :: lower other) =
      Dialect.canonicalName adapter ++ ['_'] ++ ('_' :: lower name) := by
      rw [List.append_assoc]
      exact hsame.symm
    exact hshape ▸ List.prefix_append _ _
  have hadapters := eq_of_marked_start hadapter.underscore hanother.underscore hstart
  rw [hadapters, List.append_cancel_left_eq, List.append_cancel_left_eq] at hsame
  exact ⟨hadapters, hsame⟩

/-- In a library for functions of distinct names, a name has one definition. -/
theorem definition_unique (hdistinct : (functions.map lower).Nodup)
    (hadapters : ∀ adapter ∈ adapters, IsAdapterName (Dialect.canonicalName adapter))
    {name other : Text} (hname : name ∈ functions) (hother : other ∈ functions)
    {first second : Definition} (hfirst : first ∈ definitions engine adapters primary name)
    (hsecond : second ∈ definitions engine adapters primary other)
    (hsame : first.name = second.name) : first = second := by
  have hfunction (hlower : lower name = lower other) : name = other :=
    List.inj_on_of_nodup_map hdistinct hname hother hlower
  rcases List.mem_cons.mp hfirst with rfl | hfirst
  · rcases List.mem_cons.mp hsecond with rfl | hsecond
    · rw [hfunction (List.append_cancel_left hsame)]
    · obtain ⟨adapter, hadapter, rfl⟩ := List.mem_map.mp hsecond
      exact absurd hsame.symm (adapting_name_ne (hadapters adapter hadapter))
  · obtain ⟨adapter, hadapter, rfl⟩ := List.mem_map.mp hfirst
    rcases List.mem_cons.mp hsecond with rfl | hsecond
    · exact absurd hsame (adapting_name_ne (hadapters adapter hadapter))
    · obtain ⟨another, hanother, rfl⟩ := List.mem_map.mp hsecond
      obtain ⟨hdialect, hlower⟩ :=
        adapting_name_inj (hadapters adapter hadapter) (hadapters another hanother) hsame
      rw [hfunction hlower, adapting, adapting, hdialect]

/-- The body of every definition is found in its library by name. -/
theorem body?_library (hengine : engine.IsBraceless)
    (hfunctions : ∀ name ∈ functions, IsPlain name) (hdistinct : (functions.map lower).Nodup)
    (hadapters : ∀ adapter ∈ adapters, IsAdapterName (Dialect.canonicalName adapter))
    {now : Moment} {library : Text} (hlibrary : Macro.library engine now functions
      (.list (adapters.map .ofText)) primary = .ok library)
    {name : Text} (hname : name ∈ functions) {definition : Definition}
    (hdefinition : definition ∈ definitions engine adapters primary name) :
    body? library definition.name = some (strip definition.body) := by
  rw [library_eq, Except.ok.injEq] at hlibrary
  rw [← hlibrary]
  refine body?_eq (fun d hd => ?_) ?_
  · obtain ⟨function, hfunction, hd⟩ := List.mem_flatMap.mp hd
    rw [mem_sortBy] at hfunction
    exact isTame_of_mem_definitions hadapters (hfunctions function hfunction)
      (carriesPlainly_of_isBraceless hengine _ _ _) hd
  · have hmem : definition ∈
        (sortBy Text.le functions).flatMap (definitions engine adapters primary) :=
      List.mem_flatMap.mpr ⟨name, (mem_sortBy _).mpr hname, hdefinition⟩
    cases hfind : ((sortBy Text.le functions).flatMap
        (definitions engine adapters primary)).find? (·.name == definition.name) with
    | none => simpa using List.find?_eq_none.mp hfind definition hmem
    | some found =>
      obtain ⟨function, hfunction, hfound⟩ :=
        List.mem_flatMap.mp (List.mem_of_find?_eq_some hfind)
      rw [mem_sortBy] at hfunction
      have hsame : found.name = definition.name := by simpa using List.find?_some hfind
      rw [definition_unique hdistinct hadapters hfunction hname hfound hdefinition hsame]

end Library

/-! ## Bodies with arguments -/

/-- The body of an adapter's macro is the carried function with the parameter for its
placeholder. -/
theorem adapterBody_eq {name : Text} (hname : includes name placeholder = false) (engine : Engine)
    (primary dialect : Dialect) :
    adapterBody engine name primary dialect =
      replaceAll placeholder (Model.expressionTag parameter)
        (carried engine name primary dialect) := by
  cases hcarry : carry engine name placeholder primary dialect with
  | ok sql => simp only [adapterBody, carried, hcarry]
  | error fault =>
    have hskips : Skips placeholder (name ++ ['(']) :=
      skips_append_of_not_includes (by decide) (by decide) hname
    have hend : replaceAll placeholder (Model.expressionTag parameter) [')'] = [')'] :=
      replaceAll_eq_self (by decide)
    simp only [adapterBody, carried, hcarry]
    rw [List.append_assoc (name ++ ['(']) placeholder [')'], hskips.replaceAll_append,
      replaceAll_append_self (by decide), hend, List.append_assoc (name ++ ['('])]

/-- No brace is in a function that is carried by an engine that writes none. -/
theorem not_mem_carried {engine : Engine} (hengine : engine.IsBraceless) {name : Text}
    (hname : isAsciiName name = true) (primary dialect : Dialect) :
    '\x7b' ∉ carried engine name primary dialect := by
  cases hcarry : carry engine name placeholder primary dialect with
  | ok sql =>
    simp only [carried, hcarry]
    exact (isBraceless_of_carry hengine hcarry).1
  | error fault =>
    simp only [carried, hcarry, List.mem_append]
    rintro (((h | h) | h) | h)
    · exact absurd (isWordChar_of_mem hname h) (by decide)
    all_goals exact absurd h (by decide)

/-- Nothing is removed around an expression tag. -/
theorem strip_expressionTag (inside : Text) :
    strip (Model.expressionTag inside) = Model.expressionTag inside := by
  have hleft : stripLeft (Model.expressionTag inside) = Model.expressionTag inside := rfl
  have hend : " \x7d\x7d".toList.getLast? = some '\x7d' := by decide
  rw [strip, hleft, stripRight_eq_self_iff]
  intro c hc
  unfold Model.expressionTag at hc
  rw [List.getLast?_append, hend, Option.some_or, Option.mem_some_iff] at hc
  rw [← hc]
  decide

/-- Putting the arguments in the place of the parameter is putting them in the place of the
placeholder. -/
theorem replaceAll_parameter {t args : Text} (hargs : IsArgument args) (hbrace : '\x7b' ∉ t) :
    replaceAll (Model.expressionTag parameter) args
        (strip (replaceAll placeholder (Model.expressionTag parameter) t)) =
      strip (replaceAll placeholder args t) := by
  have hvisible : ∀ c ∈ placeholder, isBlank c = false := by
    have hall : placeholder.all (!isBlank ·) = true := by decide
    simpa using hall
  have hne : placeholder ≠ [] := by decide
  obtain ⟨hfirst, hlast⟩ := visible_ends_of_strip_eq_self hargs.stripped
  obtain ⟨htagFirst, htagLast⟩ := visible_ends_of_strip_eq_self (strip_expressionTag parameter)
  rw [strip_replaceAll hvisible hne (by decide) htagFirst htagLast,
    strip_replaceAll hvisible hne hargs.nonempty hfirst hlast]
  exact replaceAll_replaceAll hne fun h => hbrace (mem_of_mem_strip h)

/-! ## Expansions -/

/-- The name and the argument can be read off a macro call. -/
theorem call_parts {name args : Text} (hname : '(' ∉ name) (hargs : '\x27' ∉ args) :
    let call := Model.expressionTag (name ++ ['('] ++ (['\x27'] ++ args ++ ['\x27']) ++ [')'])
    between? "\x7b\x7b ".toList "('".toList call = some name ∧
      between? "('".toList "') \x7d\x7d".toList call = some args := by
  have hopen : "('".toList = ['(', '\x27'] := by decide
  have hclose : "') \x7d\x7d".toList = ['\x27', ')'] ++ " \x7d\x7d".toList := by decide
  have hwhole : Model.expressionTag
      (name ++ ['('] ++ (['\x27'] ++ args ++ ['\x27']) ++ [')']) =
      "\x7b\x7b ".toList ++ (name ++ ("('".toList ++ (args ++ ("') \x7d\x7d".toList ++ [])))) := by
    unfold Model.expressionTag
    rw [hopen, hclose]
    simp only [List.append_assoc, List.cons_append, List.nil_append, List.append_nil]
  have hskips : Skips "('".toList name := skips_of_not_mem hname
  have hbefore : Skips "('".toList ("\x7b\x7b ".toList ++ name) := by
    have hstart : Skips "('".toList "\x7b\x7b ".toList := skips_of_not_mem (by decide)
    exact hstart.append hskips
  have hinside : Skips "') \x7d\x7d".toList args := skips_of_not_mem hargs
  refine ⟨?_, ?_⟩
  · rw [hwhole]
    exact between?_start hskips _
  · rw [hwhole, ← List.append_assoc]
    exact between?_eq hbefore hinside []

/-- The key under which a macro dispatches can be read off its body. -/
theorem dispatching_key {name : Text} (hname : '\x27' ∉ name) :
    between? "\x7b\x7b return(adapter.dispatch('".toList
      "', 'portable')(expression)) \x7d\x7d".toList (strip (dispatching name).body) =
      some (lower name) := by
  have hleft : "\x7b\x7b return(adapter.dispatch('".toList =
      "\x7b\x7b ".toList ++ "return(adapter.dispatch('".toList := by decide
  have hright : "', 'portable')(expression)) \x7d\x7d".toList =
      "', 'portable')(".toList ++ (parameter ++ ("))".toList ++ " \x7d\x7d".toList)) := by decide
  have hwhole : (dispatching name).body = "\x7b\x7b return(adapter.dispatch('".toList ++
      (lower name ++ ("', 'portable')(expression)) \x7d\x7d".toList ++ [])) := by
    unfold dispatching Model.expressionTag
    rw [hleft, hright]
    simp only [List.append_assoc, List.append_nil]
  have hkey : Skips "', 'portable')(expression)) \x7d\x7d".toList (lower name) :=
    skips_of_not_mem fun h => hname (mem_of_mem_lower (by decide) h)
  have hstrip : strip (dispatching name).body = (dispatching name).body := strip_expressionTag _
  rw [hstrip, hwhole]
  exact between?_start hkey []

/-- A call is expanded from its parts. -/
theorem expand?_eq {library adapter call name argument dispatch key body : Text}
    (hname : between? "\x7b\x7b ".toList "('".toList call = some name)
    (hargument : between? "('".toList "') \x7d\x7d".toList call = some argument)
    (hdispatch : body? library name = some dispatch)
    (hkey : between? "\x7b\x7b return(adapter.dispatch('".toList
      "', 'portable')(expression)) \x7d\x7d".toList dispatch = some key)
    (hbody : body? library (adapter ++ "__".toList ++ key) = some body) :
    expand? library adapter call =
      some (replaceAll "\x7b\x7b expression \x7d\x7d".toList argument body) := by
  unfold expand?
  rw [hname, hargument]
  show Option.bind (body? library name) _ = _
  rw [hdispatch, Option.bind_some, hkey]
  show Option.bind (body? library (adapter ++ "__".toList ++ key)) _ = _
  rw [hbody, Option.bind_some]
  rfl

/-- A call of a function that is made portable expands, for each adapter, to the function as the
adapter's dialect writes it on the arguments of the call. -/
theorem expand_call_eq_carried {engine : Engine} (hengine : engine.IsBraceless) (now : Moment)
    (functions adapters : List Text) (primary : Dialect) (name args : Text) (node : Node)
    (hname : IsFunctionName name) (hargs : IsArgument args)
    (hfunctions : ∀ function ∈ functions, IsFunctionName function)
    (hdistinct : (functions.map lower).Nodup) (hmem : upper name ∈ functions)
    (hadapters : ∀ adapter ∈ adapters, IsAdapterName (Dialect.canonicalName adapter))
    (hnode : node.render primary = .ok (name ++ ['('] ++ args ++ [')'])) :
    ∃ library call,
      Macro.library engine now functions (.list (adapters.map .ofText)) primary = .ok library ∧
      Model.nodeMacroCall (upper name) node primary = .ok call ∧
      ∀ adapter ∈ adapters,
        expand? library (Dialect.canonicalName adapter) call =
          some (strip (replaceAll placeholder args
            (carried engine (upper name) primary (.named (Dialect.canonicalName adapter))))) := by
  have hcall : Model.nodeMacroCall (upper name) node primary =
      .ok (Model.expressionTag (Model.macroName (upper name) ++ ['('] ++
        (['\x27'] ++ args ++ ['\x27']) ++ [')'])) := by
    rw [Model.nodeMacroCall, hnode, ← Model.macroCall_call hname.word (upper name) hargs.nonempty
      hargs.stripped hargs.quotes.1 hargs.quotes.2]
    rfl
  have hlibrary := library_eq engine now functions adapters primary
  refine ⟨_, _, hlibrary, hcall, fun adapter hadapter => ?_⟩
  have hfunction := hfunctions (upper name) hmem
  have hplain : ∀ function ∈ functions, IsPlain function :=
    fun function h => (hfunctions function h).isPlain
  obtain ⟨hcalled, hargument⟩ := call_parts
    (Model.not_mem_macroName (by decide) (by decide) hfunction.isPlain.1) hargs.quotes.1
  have hdispatching : dispatching (upper name) ∈
      definitions engine adapters primary (upper name) := List.mem_cons_self
  have hadapting : adapting engine primary (upper name) adapter ∈
      definitions engine adapters primary (upper name) :=
    List.mem_cons_of_mem _ (List.mem_map_of_mem hadapter)
  have hdispatch := body?_library hengine hplain hdistinct hadapters hlibrary hmem hdispatching
  have hadapted := body?_library hengine hplain hdistinct hadapters hlibrary hmem hadapting
  have hkey := dispatching_key (hfunction.not_mem (by decide))
  have hbody : (adapting engine primary (upper name) adapter).body =
      replaceAll placeholder (Model.expressionTag parameter)
        (carried engine (upper name) primary (.named (Dialect.canonicalName adapter))) :=
    adapterBody_eq hfunction.placeholder engine primary _
  rw [hbody] at hadapted
  have hexpand := expand?_eq hcalled hargument hdispatch hkey hadapted
  rw [hexpand]
  exact congrArg some (replaceAll_parameter hargs (not_mem_carried hengine hfunction.word _ _))

/-! ## Functions that dialects rename -/

/-- What is written for a dialect is one of the texts listed. -/
theorem mem_of_select? {entries : List (Text × Option Text)} {dialect : Dialect} {t : Text}
    (hselect : (Rendering.byDialect entries).select? dialect = .ok (some t)) :
    some t ∈ entries.map (·.2) := by
  have hlookup {key : Text} {entry : Option Text} (h : entries.lookup key = some entry) :
      entry ∈ entries.map (·.2) := by
    obtain ⟨before, after, hsplit, -⟩ := List.lookup_eq_some_iff.mp h
    simp [hsplit]
  simp only [Rendering.select?, bind_eq_ok] at hselect
  obtain ⟨entry, hentry, hselected⟩ := hselect
  cases entry with
  | none => exact hlookup (Option.join_eq_some_iff.mp (pure_eq_ok.mp hselected))
  | some found =>
    obtain rfl := pure_eq_ok.mp hselected
    cases dialect with
    | unspecified => exact hlookup (Except.ok.inj hentry)
    | named name => exact hlookup (Except.ok.inj hentry)
    | foreign adapter =>
      simp only [Rendering.entry?] at hentry
      split at hentry <;> cases hentry

/-- No argument is put into a text without braces. -/
theorem foldl_fill_eq_self {t : Text} (hbrace : '\x7b' ∉ t) (value : String → Text)
    (names : List String) :
    names.foldl (fun t name => replaceAll (['\x7b'] ++ name.toList ++ ['\x7d']) (value name) t) t =
      t := by
  induction names with
  | nil => rfl
  | cons name names ih =>
    have hname : replaceAll (['\x7b'] ++ name.toList ++ ['\x7d']) (value name) t = t :=
      replaceAll_eq_self hbrace
    rw [List.foldl_cons, hname, ih]

/-- The first argument is put in its place, and nothing else is changed. -/
theorem fill_this {args : List (Text × Text)} {before after value : Text}
    (hbefore : '\x7b' ∉ before) (hafter : '\x7b' ∉ after) (hvalue : '\x7b' ∉ value)
    (hargs : (args.lookup "this".toList).getD [] = value) :
    Node.fill args (before ++ ("\x7bthis\x7d".toList ++ after)) = before ++ (value ++ after) := by
  have hskips : Skips "\x7bthis\x7d".toList before := skips_of_not_mem hbefore
  have hfirst : replaceAll "\x7bthis\x7d".toList value
      (before ++ ("\x7bthis\x7d".toList ++ after)) = before ++ (value ++ after) := by
    rw [hskips.replaceAll_append, replaceAll_append_self (by decide)]
    rw [show replaceAll "\x7bthis\x7d".toList value after = after from replaceAll_eq_self hafter]
  have hbrace : '\x7b' ∉ before ++ (value ++ after) := by simp [hbefore, hvalue, hafter]
  unfold Node.fill Node.argumentNames
  rw [List.foldl_cons, hargs,
    show ['\x7b'] ++ "this".toList ++ ['\x7d'] = "\x7bthis\x7d".toList by decide, hfirst]
  exact foldl_fill_eq_self hbrace (fun name => (args.lookup name.toList).getD []) _

/-- A text in which at most the first argument is put in. -/
def IsTemplate (t : Text) : Prop :=
  t.IsBraceless ∨ ∃ before after : Text, t = before ++ ("\x7bthis\x7d".toList ++ after) ∧
    before.IsBraceless ∧ after.IsBraceless

/-- A node is written without braces if its texts and its first argument bring in none. -/
theorem isBraceless_of_render {node : Node} {entries : List (Text × Option Text)}
    (hentries : node.rendering = .byDialect entries)
    (htemplates : ∀ t, some t ∈ entries.map (·.2) → IsTemplate t)
    (hvalue : ((node.args.lookup "this".toList).getD []).IsBraceless) {target : Dialect} {t : Text}
    (hrender : node.render target = .ok t) : t.IsBraceless := by
  simp only [Node.render, bind_eq_ok, hentries] at hrender
  obtain ⟨selected, hselect, hfill⟩ := hrender
  cases selected with
  | none => cases hfill
  | some template =>
    obtain rfl := pure_eq_ok.mp hfill
    rcases htemplates template (mem_of_select? hselect) with hplain | ⟨before, after, rfl, hb, ha⟩
    · have hkept : Node.fill node.args template = template :=
        foldl_fill_eq_self hplain.1 (fun name => (node.args.lookup name.toList).getD []) _
      exact hkept.symm ▸ hplain
    · rw [fill_this hb.1 ha.1 hvalue.1 rfl]
      exact hb.append (hvalue.append ha)

/-- The query that calls an aggregate on the placeholder. The aggregate has one name in most
dialects, another in PostgreSQL and another in Snowflake. -/
def aggregateQuery (name postgres snowflake : Text) : Node :=
  let entries (written : Text → Text) : List (Text × Option Text) :=
    [("postgres".toList, some (written postgres)), ("snowflake".toList, some (written snowflake)),
      ("*".toList, some (written name))]
  ⟨false, none, .byDialect (entries fun f => probe f placeholder), [],
    [⟨true, none, .byDialect (entries fun f => f ++ ['('] ++ "\x7bthis\x7d".toList ++ [')']),
      [("this".toList, placeholder)],
      [⟨false, none, .byDialect [("*".toList, some placeholder)], [], []⟩]⟩]⟩

/-- The nodes of such a query are written from templates. -/
theorem templates_of_mem_aggregateQuery {name postgres snowflake : Text}
    (hname : name.IsBraceless) (hpostgres : postgres.IsBraceless)
    (hsnowflake : snowflake.IsBraceless) {node : Node}
    (hnode : node ∈ (aggregateQuery name postgres snowflake).walk) :
    ∃ entries, node.rendering = .byDialect entries ∧
      (∀ t, some t ∈ entries.map (·.2) → IsTemplate t) ∧
      ((node.args.lookup "this".toList).getD []).IsBraceless := by
  have hprobe {f : Text} (hf : f.IsBraceless) : IsTemplate (probe f placeholder) :=
    .inl (((IsBraceless.append (by decide) hf).append (by decide)).append (by decide) |>.append
      (by decide))
  have hcall {f : Text} (hf : f.IsBraceless) :
      IsTemplate (f ++ ['('] ++ "\x7bthis\x7d".toList ++ [')']) :=
    .inr ⟨f ++ ['('], [')'], List.append_assoc _ _ _, hf.append (by decide), by decide⟩
  simp only [aggregateQuery, Node.walk, Node.levels, Node.levelsOfAll, Node.mergeLevels,
    List.flatten_cons, List.flatten_nil, List.append_nil, List.singleton_append, List.mem_cons,
    List.not_mem_nil, or_false] at hnode
  have hnone : Text.IsBraceless [] := by decide
  have hargument : placeholder.IsBraceless := by decide
  rcases hnode with rfl | rfl | rfl
  · refine ⟨_, rfl, fun t ht => ?_, hnone⟩
    simp only [List.map_cons, List.map_nil, List.mem_cons, List.not_mem_nil, or_false,
      Option.some.injEq] at ht
    rcases ht with rfl | rfl | rfl
    · exact hprobe hpostgres
    · exact hprobe hsnowflake
    · exact hprobe hname
  · refine ⟨_, rfl, fun t ht => ?_, hargument⟩
    simp only [List.map_cons, List.map_nil, List.mem_cons, List.not_mem_nil, or_false,
      Option.some.injEq] at ht
    rcases ht with rfl | rfl | rfl
    · exact hcall hpostgres
    · exact hcall hsnowflake
    · exact hcall hname
  · refine ⟨_, rfl, fun t ht => ?_, hnone⟩
    simp only [List.map_cons, List.map_nil, List.mem_cons, List.not_mem_nil, or_false,
      Option.some.injEq] at ht
    exact ht ▸ .inl hargument

/-- An engine that reads the queries for two aggregates. -/
def aggregateEngine : Engine where
  parse sql _ :=
    if sql = probe "LOGICAL_OR".toList placeholder then
      .ok (some (aggregateQuery "LOGICAL_OR".toList "BOOL_OR".toList "BOOLOR_AGG".toList))
    else if sql = probe "LOGICAL_AND".toList placeholder then
      .ok (some (aggregateQuery "LOGICAL_AND".toList "BOOL_AND".toList "BOOLAND_AGG".toList))
    else .error .noTree
  transpile _ _ _ := .ok []
  functions _ := some (some [("LOGICAL_OR".toList, .text "LogicalOr".toList),
    ("LOGICAL_AND".toList, .text "LogicalAnd".toList)])

/-- What the engine reads is one of the two queries. -/
theorem aggregateEngine_templates {sql : Text} {dialect : Dialect} {tree node : Node}
    (hparse : aggregateEngine.parse sql dialect = .ok (some tree)) (hnode : node ∈ tree.walk) :
    ∃ entries, node.rendering = .byDialect entries ∧
      (∀ t, some t ∈ entries.map (·.2) → IsTemplate t) ∧
      ((node.args.lookup "this".toList).getD []).IsBraceless := by
  simp only [aggregateEngine] at hparse
  split at hparse
  · obtain rfl := Option.some.inj (Except.ok.inj hparse)
    exact templates_of_mem_aggregateQuery (by decide) (by decide) (by decide) hnode
  · split at hparse
    · obtain rfl := Option.some.inj (Except.ok.inj hparse)
      exact templates_of_mem_aggregateQuery (by decide) (by decide) (by decide) hnode
    · cases hparse

/-- The engine for aggregates writes no braces. -/
theorem aggregateEngine_isBraceless : aggregateEngine.IsBraceless where
  written hparse hnode hrender := by
    obtain ⟨entries, hentries, htemplates, hvalue⟩ := aggregateEngine_templates hparse hnode
    exact isBraceless_of_render hentries htemplates hvalue hrender
  carried := by
    intro sql dialect tree node identifier target t hparse hnode hidentifier hrender
    obtain ⟨entries, hentries, htemplates, -⟩ := aggregateEngine_templates hparse hnode
    have hsame : (node.withArgument identifier).rendering = .byDialect entries := hentries
    have hfill : Node.identifierText identifier = identifier :=
      foldl_fill_eq_self hidentifier.1 (fun _ => []) Node.argumentNames
    have hlookup : (node.withArgument identifier).args.lookup "this".toList =
        some (Node.identifierText identifier) := List.lookup_cons_self
    have hargument : (((node.withArgument identifier).args.lookup "this".toList).getD
        []).IsBraceless := by
      rw [hlookup, Option.getD_some, hfill]
      exact hidentifier
    exact isBraceless_of_render hsame htemplates hargument hrender

/-- An aggregate of BigQuery expands to the names that the other two dialects have for it. -/
theorem expand_call_eq_carried_aggregate :
    ∃ library call,
      Macro.library aggregateEngine ⟨2026, 1, 2, 3, 4, 5⟩
        ["LOGICAL_OR".toList, "LOGICAL_AND".toList]
        (.list (["bigquery".toList, "PostgreSQL".toList, "snowflake".toList].map .ofText))
        (.named "bigquery".toList) = .ok library ∧
      Model.nodeMacroCall "LOGICAL_OR".toList
        ⟨true, none, .uniform "LOGICAL_OR(x > 0)".toList, [], []⟩ (.named "bigquery".toList) =
          .ok call ∧
      expand? library "bigquery".toList call = some "LOGICAL_OR(x > 0)".toList ∧
      expand? library "postgres".toList call = some "BOOL_OR(x > 0)".toList ∧
      expand? library "snowflake".toList call = some "BOOLOR_AGG(x > 0)".toList := by
  obtain ⟨library, call, hlibrary, hcall, hexpand⟩ :=
    expand_call_eq_carried aggregateEngine_isBraceless ⟨2026, 1, 2, 3, 4, 5⟩
      ["LOGICAL_OR".toList, "LOGICAL_AND".toList]
      ["bigquery".toList, "PostgreSQL".toList, "snowflake".toList] (.named "bigquery".toList)
      "LOGICAL_OR".toList "x > 0".toList
      ⟨true, none, .uniform "LOGICAL_OR(x > 0)".toList, [], []⟩ (by decide)
      ⟨by decide, by decide, by decide, by decide, by decide⟩ (by decide) (by decide) (by decide)
      (by decide) rfl
  refine ⟨library, call, hlibrary, hcall, ?_, ?_, ?_⟩
  · exact (hexpand "bigquery".toList (by decide)).trans (by decide +kernel)
  · exact (hexpand "PostgreSQL".toList (by decide)).trans (by decide +kernel)
  · exact (hexpand "snowflake".toList (by decide)).trans (by decide +kernel)

end PortableSql.Macro

import PortableSql.Command.Run
import PortableSql.Proofs.Macro.Definition
import PortableSql.Proofs.Project.Conversion
import PortableSql.Proofs.Project.Scan
import PortableSql.Sql.Recording

/-!
# Which macros a migrated project has

A migration scans a project, writes the macros of the functions that it finds and then puts macro
calls into the models. The scan finds the functions that the table of an adapter holds and that a
model calls. The macro calls are those of functions that the dialects write differently, whether or
not a table holds them, and the macros that an earlier migration wrote are lost as soon as another
one finds anything. So a macro that is called is defined only under the conditions stated here.
-/

namespace PortableSql

open Sql

namespace Console

/-- Printing leaves the tree as it is. -/
theorem yields_print {message : Text} {before after : Session} {u : Unit}
    (hyields : Yields (print message) before u after) : after.tree = before.tree := by
  unfold print at hyields
  obtain ⟨printed, between, hanswer, hyields⟩ := yields_bind.mp hyields
  obtain ⟨-, rfl⟩ := yields_answer.mp hanswer
  obtain rfl := yields_modify.mp hyields
  rfl

/-- Work that starts with a message goes on with the same tree. -/
theorem yields_print_bind {α : Type} {message : Text} {next : Unit → Console α}
    {before after : Session} {a : α} (hyields : Yields (print message >>= next) before a after) :
    ∃ between, between.tree = before.tree ∧ Yields (next ()) between a after := by
  obtain ⟨_, between, hprint, hnext⟩ := yields_bind.mp hyields
  exact ⟨between, yields_print hprint, hnext⟩

/-- A path is printed if it holds no half of a character, and printing leaves the tree as it is. -/
theorem yields_printNaming {path : Path} {message : Text} {before after : Session} {u : Unit}
    (hyields : Yields (printNaming path message) before u after) :
    path.isWhole = true ∧ after.tree = before.tree := by
  unfold printNaming at hyields
  obtain ⟨printed, between, hanswer, hyields⟩ := yields_bind.mp hyields
  obtain ⟨-, rfl⟩ := yields_answer.mp hanswer
  split at hyields
  next hwhole =>
    obtain rfl := yields_modify.mp hyields
    exact ⟨hwhole, rfl⟩
  next => exact absurd hyields not_yields_throw

/-- An answer about the tree leaves the session as it is. -/
theorem yields_question {α : Type} (question : Tree → Except Fault α) {before after : Session}
    {a : α} (hyields : Yields (do ofAnswer (question (← get).tree)) before a after) :
    question before.tree = .ok a ∧ before = after := by
  obtain ⟨session, between, hget, hanswer⟩ := yields_bind.mp hyields
  obtain ⟨rfl, rfl⟩ := yields_get.mp hget
  exact yields_answer.mp hanswer

/-- Work on the tree is done on the tree of the session. -/
theorem yields_ofAction {α : Type} {action : Action α} {before after : Session} {a : α}
    (hyields : Yields (ofAction action) before a after) :
    Yields action before.tree a after.tree := by
  have hpair : ((action.run.run before.tree).1, { before with
      tree := (action.run.run before.tree).2 }) = (Except.ok a, after) := hyields
  obtain ⟨hanswer, rfl⟩ := Prod.mk.inj hpair
  exact Prod.ext hanswer rfl

end Console

namespace Command

open Console

/-! ## The steps of a migration -/

/-- A command that leaves no fault has succeeded. -/
theorem yields_of_fault_none {engine : Engine} {now : Macro.Moment} {tree : Tree}
    {command : Command} (hrun : (runOn engine now tree command).fault = none) :
    ∃ session, Yields (command.run engine now) ⟨tree, []⟩ () session ∧
      (runOn engine now tree command).tree = session.tree := by
  unfold runOn at hrun ⊢
  cases hresult : (command.run engine now).run.run ⟨tree, []⟩ with
  | mk answer session =>
    rw [hresult] at hrun
    cases answer with
    | error fault => cases hrun
    | ok u => exact ⟨session, hresult, rfl⟩

/-- A migration that succeeds has loaded its settings, scanned the project, written the macros and
converted the models. -/
theorem migrate_steps {engine : Engine} {now : Macro.Moment} {tree : Tree} {path : Path}
    (hrun : (runOn engine now tree ⟨.migrate, path⟩).fault = none) :
    ∃ settings counts output between changed, Settings.load tree path = .ok settings ∧
      Project.scan engine tree settings = .ok counts ∧
      Yields (Project.generate engine now settings (counts.map (·.1))) tree output between ∧
      Yields (Project.convert engine settings false) between changed
        (runOn engine now tree ⟨.migrate, path⟩).tree := by
  obtain ⟨last, hyields, htree⟩ := yields_of_fault_none hrun
  rw [htree]
  have hmigrate : Yields (runMigrate engine now path) ⟨tree, []⟩ () last := hyields
  unfold runMigrate at hmigrate
  obtain ⟨started, hstarted, hmigrate⟩ := yields_print_bind hmigrate
  obtain ⟨settings, loaded, hquestion, hmigrate⟩ := yields_bind.mp hmigrate
  obtain ⟨hload, rfl⟩ := yields_question (Settings.load · path) hquestion
  obtain ⟨announced, hannounced, hmigrate⟩ := yields_print_bind hmigrate
  obtain ⟨counts, scanned, hquestion, hmigrate⟩ := yields_bind.mp hmigrate
  obtain ⟨hscan, rfl⟩ := yields_question (Project.scan engine · settings) hquestion
  obtain ⟨counted, hcounted, hmigrate⟩ := yields_print_bind hmigrate
  obtain ⟨generating, hgenerating, hmigrate⟩ := yields_print_bind hmigrate
  obtain ⟨output, generated, haction, hmigrate⟩ := yields_bind.mp hmigrate
  have hgenerate := yields_ofAction haction
  obtain ⟨_, reported, hreport, hmigrate⟩ := yields_bind.mp hmigrate
  obtain ⟨-, hreported⟩ := yields_printNaming hreport
  obtain ⟨converting, hconverting, hmigrate⟩ := yields_print_bind hmigrate
  obtain ⟨changed, converted, haction, hmigrate⟩ := yields_bind.mp hmigrate
  have hconvert := yields_ofAction haction
  obtain ⟨closing, hclosing, hmigrate⟩ := yields_print_bind hmigrate
  have hlast := yields_print hmigrate
  -- The tree is that of the project until the macros are generated.
  have hbefore : generating.tree = tree := by
    rw [hgenerating, hcounted, hannounced, hstarted]
  rw [hannounced, hstarted] at hscan
  rw [hstarted] at hload
  rw [hbefore] at hgenerate
  rw [hconverting, hreported] at hconvert
  rw [hlast, hclosing]
  exact ⟨settings, counts, output, generated.tree, changed, hload, hscan, hgenerate, hconvert⟩

/-! ## Macros after a migration -/

/-- A scan finds a function: one of the adapters knows it and one of the models calls it. -/
def Finds (engine : Engine) (primary : Text) (others : List Text) (tree : Tree)
    (settings : Settings) (name : Text) : Prop :=
  engine.Knows (primary :: others) name ∧
    Project.Calls engine (.named (Dialect.canonicalName primary)) tree settings name

/-- The file that a path leads to defines a macro. -/
def Defines (tree : Tree) (path : Path) (name : Text) : Prop :=
  ∃ chars, tree.read path = .ok (.text chars) ∧ Text.includes chars (Macro.opening name) = true

instance (tree : Tree) (path : Path) (name : Text) : Decidable (Defines tree path name) :=
  match hread : tree.read path with
  | .ok (.text chars) =>
    decidable_of_iff (Text.includes chars (Macro.opening name) = true) (by simp [Defines, hread])
  | .ok (.binary bytes) => isFalse (by simp [Defines, hread])
  | .error fault => isFalse (by simp [Defines, hread])

/-- The macro calls that a migration puts into models. -/
def insertions (engine : Engine) (now : Macro.Moment) (settings : Settings) (tree : Tree) :
    List Project.Insertion :=
  match Project.scan engine tree settings with
  | .error _ => []
  | .ok counts =>
    Project.insertions engine settings
      ((Project.generate engine now settings (counts.map (·.1))).treeAfter tree)

/-- A migration that succeeds. The macros go to a file that keeps what is written, and no macro call
is put into that file. -/
structure Migrates (engine : Engine) (now : Macro.Moment) (path : Path) (settings : Settings)
    (before after : Tree) : Prop where
  load : Settings.load before path = .ok settings
  success : (runOn engine now before ⟨.migrate, path⟩).fault = none
  result : (runOn engine now before ⟨.migrate, path⟩).tree = after
  apart : ∀ location, after.locate settings.macroOutput = .ok location →
    Tree.standing? location = none ∧
      ∀ insertion ∈ insertions engine now settings before,
        after.locate insertion.path ≠ .ok location

section Migrating

variable {engine : Engine} {now : Macro.Moment} {path : Path} {settings : Settings}
  {before after : Tree} {primary : Text} {others : List Text}

/-- After a migration the macro file is as before if the scan found no function. Otherwise it is the
library for the functions that were found. -/
theorem Migrates.macros (hmigrates : Migrates engine now path settings before after)
    (hadapters : settings.adapters = .list ((primary :: others).map .ofText))
    (hothers : others ≠ []) :
    ∃ functions : List Text,
      (∀ name, name ∈ functions ↔ Finds engine primary others before settings name) ∧
      ((functions = [] ∧ ∀ content, after.read settings.macroOutput = .ok content ↔
          before.read settings.macroOutput = .ok content) ∨
        (functions ≠ [] ∧ ∃ library, Macro.library engine now functions
            (.list ((primary :: others).map .ofText)) (.named primary) = .ok library ∧
          after.read settings.macroOutput = .ok (.text library))) := by
  obtain ⟨loaded, counts, output, between, changed, hload, hscan, hgenerate, hconvert⟩ :=
    migrate_steps hmigrates.success
  obtain rfl : loaded = settings := Except.ok.inj (hload.symm.trans hmigrates.load)
  rw [hmigrates.result] at hconvert
  have hinserted : insertions engine now loaded before =
      Project.insertions engine loaded between := by
    simp only [insertions, hscan, Action.treeAfter_of_yields hgenerate]
  have hleaves := Project.convert_leaves hconvert
  rw [← hinserted] at hleaves
  -- Where the macros go, converting leaves what stands there.
  have hkept {location : Location} (hlocate : after.locate loaded.macroOutput = .ok location) :
      after.lookup location = between.lookup location := by
    refine hleaves.others location fun insertion hinsertion hother => ?_
    exact (hmigrates.apart location hlocate).2 insertion hinsertion
      (hleaves.folders.locate_iff.mp hother)
  refine ⟨counts.map (·.1), fun name => Project.mem_scan_iff hadapters hothers
    (Project.modelPaths_of_load hload) hscan, ?_⟩
  rcases Project.generate_yields hgenerate with ⟨hempty, rfl⟩ | ⟨hsome, first, library,
    location, hfirst, hlibrary, hlocate, hwritten⟩
  · refine .inl ⟨hempty, fun content => ?_⟩
    rw [Tree.read_eq_ok, Tree.read_eq_ok]
    refine exists_congr fun location => ?_
    rw [hleaves.folders.locate_iff]
    exact and_congr_right fun hlocate => by rw [hkept hlocate]
  · rw [hadapters] at hfirst hlibrary
    obtain rfl : Value.ofText primary = first := Except.ok.inj hfirst
    have hafter := hleaves.folders.locate_iff.mp hlocate
    refine .inr ⟨hsome, library, hlibrary, Tree.read_eq_ok.mpr ⟨location, hafter, ?_⟩⟩
    rw [hkept hafter]
    exact hwritten (hmigrates.apart location hafter).1

/-- A macro is defined after a migration if a function of that macro is found, or if none is found
and it was defined before. -/
def Provides (engine : Engine) (primary : Text) (others : List Text) (settings : Settings)
    (tree : Tree) (name : Text) : Prop :=
  (∃ function, Finds engine primary others tree settings function ∧
      Model.macroName function = name) ∨
    ((∀ function, ¬Finds engine primary others tree settings function) ∧
      Defines tree settings.macroOutput name)

/-- A migration defines what it provides. -/
theorem Migrates.defines_of_provides (hmigrates : Migrates engine now path settings before after)
    (hadapters : settings.adapters = .list ((primary :: others).map .ofText))
    (hothers : others ≠ []) {name : Text}
    (hprovides : Provides engine primary others settings before name) :
    Defines after settings.macroOutput name := by
  obtain ⟨functions, hfunctions, hcases⟩ := hmigrates.macros hadapters hothers
  rcases hprovides with ⟨function, hfound, rfl⟩ | ⟨hnone, chars, hread, hincludes⟩
  · have hmem := (hfunctions function).mpr hfound
    rcases hcases with ⟨rfl, -⟩ | ⟨-, library, hlibrary, hread⟩
    · cases hmem
    · exact ⟨library, hread, Macro.includes_library_of_mem hlibrary hmem⟩
  · rcases hcases with ⟨-, hsame⟩ | ⟨hsome, -⟩
    · exact ⟨chars, (hsame _).mpr hread, hincludes⟩
    · obtain ⟨function, hmem⟩ := List.exists_mem_of_ne_nil functions hsome
      exact absurd ((hfunctions function).mp hmem) (hnone function)

/-- The functions that a scan finds bring no opening brace into the macros, neither with their names
nor with what they are carried to. -/
def FindsPlain (engine : Engine) (primary : Text) (others : List Text) (settings : Settings)
    (tree : Tree) : Prop :=
  ∀ function, Finds engine primary others tree settings function →
    '\x7b' ∉ function ∧ Macro.CarriesPlainly engine (primary :: others) (.named primary) function

/-- No parenthesis is in the name of a function that is called. -/
theorem not_mem_of_calls {dialect : Dialect} {tree : Tree} {name : Text}
    (hcalls : Project.Calls engine dialect tree settings name) : '(' ∉ name := by
  obtain ⟨model, sql, -, -, rfl⟩ := hcalls
  intro hmem
  have hpart : '(' ∈ sql.takeWhile (· != '(') :=
    Text.mem_of_mem_strip (Text.mem_of_mem_upper (by decide) hmem)
  exact absurd (List.mem_takeWhile_imp hpart) (by decide)

/-- A migration defines no other macros of functions than those that it provides. -/
theorem Migrates.provides_of_defines (hmigrates : Migrates engine now path settings before after)
    (hadapters : settings.adapters = .list ((primary :: others).map .ofText))
    (hothers : others ≠ []) (hplain : FindsPlain engine primary others settings before)
    (hnames : ∀ adapter ∈ primary :: others, Macro.IsAdapterName (Dialect.canonicalName adapter))
    {function : Text} (hparen : '(' ∉ function)
    (hdefines : Defines after settings.macroOutput (Model.macroName function)) :
    Provides engine primary others settings before (Model.macroName function) := by
  obtain ⟨functions, hfunctions, hcases⟩ := hmigrates.macros hadapters hothers
  obtain ⟨chars, hread, hincludes⟩ := hdefines
  rcases hcases with ⟨rfl, hsame⟩ | ⟨-, library, hlibrary, hwritten⟩
  · refine .inr ⟨fun other hfound => ?_, chars, (hsame _).mp hread, hincludes⟩
    cases (hfunctions other).mpr hfound
  · obtain rfl : library = chars := by simpa using hwritten.symm.trans hread
    have hfinds {name : Text} (hname : name ∈ functions) := (hfunctions name).mp hname
    obtain ⟨found, hfound, hsame⟩ := Macro.exists_mem_of_includes_library hnames
      (fun name hname => ⟨not_mem_of_calls (hfinds hname).2, (hplain name (hfinds hname)).1⟩)
      (fun name hname => (hplain name (hfinds hname)).2) hlibrary hparen hincludes
    exact .inl ⟨found, (hfunctions found).mp hfound, hsame⟩

/-- A macro call that a migration puts into a model calls the macro of a function, which is called
in that model. -/
theorem exists_function_of_mem_insertions
    (hadapters : settings.adapters = .list ((primary :: others).map .ofText))
    {insertion : Project.Insertion}
    (hinserted : insertion ∈ insertions engine now settings before) :
    ∃ function sql, '(' ∉ function ∧
      Model.calledMacro insertion.call = Model.macroName function ∧
      Model.HasCall engine (.named primary) insertion.model sql ∧
      Engine.callName sql = function := by
  unfold insertions at hinserted
  split at hinserted
  · cases hinserted
  · have hfirst : settings.adapters.first = .ok (.ofText primary) := by
      rw [hadapters]
      rfl
    obtain ⟨sql, function, hcall, hname, hwritten⟩ :=
      Model.exists_call_of_mem_insertions (Project.mem_insertions_model hfirst hinserted)
    obtain ⟨name, hparts, hupper, hcalled⟩ := Model.functionName?_eq_some hname
    have hparen : '(' ∉ function := by
      intro hmem
      rw [hupper] at hmem
      exact absurd (hparts _ (Text.mem_of_mem_upper (by decide) hmem)) (by decide)
    refine ⟨function, sql, hparen, ?_, hcall, hcalled⟩
    rw [hwritten, Model.calledMacro_macroCall hparen]

/-- The macro that a migration puts a call of into a model is that of a function which is called in
the model. After the migration it is defined if the migration provides it, that is, if a function
of that macro is called somewhere and stands in the table of an adapter, or if no such function is
found at all and the macro was defined before. If the functions that are found bring no braces
into the macros, it is defined in no other case. -/
theorem inserted_macro_defined_iff_provided
    (hmigrates : Migrates engine now path settings before after)
    (hadapters : settings.adapters = .list ((primary :: others).map .ofText))
    (hothers : others ≠ [])
    (hcanonical : ∀ adapter ∈ primary :: others, Dialect.canonicalName adapter = adapter)
    {insertion : Project.Insertion}
    (hinserted : insertion ∈ insertions engine now settings before) :
    ∃ function, Model.calledMacro insertion.call = Model.macroName function ∧
      (Project.Reads before settings insertion.model →
        Project.Calls engine (.named primary) before settings function) ∧
      (Provides engine primary others settings before (Model.macroName function) →
        Defines after settings.macroOutput (Model.macroName function)) ∧
      (FindsPlain engine primary others settings before →
        (∀ adapter ∈ primary :: others, Macro.IsAdapterName adapter) →
        Defines after settings.macroOutput (Model.macroName function) →
        Provides engine primary others settings before (Model.macroName function)) := by
  obtain ⟨function, sql, hparen, hcalled, hcall, hname⟩ :=
    exists_function_of_mem_insertions hadapters hinserted
  refine ⟨function, hcalled, fun hreads => ⟨insertion.model, sql, hreads, hcall, hname⟩,
    hmigrates.defines_of_provides hadapters hothers, fun hplain hnames => ?_⟩
  refine hmigrates.provides_of_defines hadapters hothers hplain (fun adapter hadapter => ?_) hparen
  rw [hcanonical adapter hadapter]
  exact hnames adapter hadapter

/-! ## A sample project -/

/-- The reading of a query with one call, as the two dialects write that call. -/
def recordedQuery (spark postgres : String) : ParseEntry :=
  let written (lead : Text) : Rendering :=
    .byDialect [("postgres".toList, some (lead ++ postgres.toList)),
      ("*".toList, some (lead ++ spark.toList))]
  ⟨some ("SELECT ".toList ++ spark.toList), none,
    .ok (some ⟨false, none, written "SELECT ".toList, [], [⟨true, none, written [], [], []⟩]⟩)⟩

/-- An engine that reads calls of two functions, which are in the table of Spark only, and a call of
a function that is in no table. The dialects quote the argument of that one differently. -/
def sampleEngine : Engine :=
  Recording.engine
    { parses :=
        [recordedQuery "COLLECT_LIST(x)" "ARRAY_AGG(x)",
          recordedQuery "COLLECT_LIST(__PLACEHOLDER__)" "ARRAY_AGG(__PLACEHOLDER__)",
          recordedQuery "COLLECT_SET(a * b)" "ARRAY_AGG(DISTINCT a * b)",
          recordedQuery "COLLECT_SET(__PLACEHOLDER__)" "ARRAY_AGG(DISTINCT __PLACEHOLDER__)",
          recordedQuery "CLEAN(`c`)" "CLEAN(\"c\")"]
      transpiles := []
      dialects :=
        [("spark".toList, some [("COLLECT_LIST".toList, .text "ArrayAgg".toList),
            ("COLLECT_SET".toList, .text "ArrayUniqueAgg".toList)]),
          ("postgres".toList, some [("ARRAY_AGG".toList, .text "ArrayAgg".toList)])] }

/-- A project for two adapters with the given models. -/
def sampleTree (models : List (Text × Text)) : Tree :=
  ⟨[(⟨.above 0, [".dbt-multi-adapter.yml".toList]⟩,
      .file (.text "adapters: [spark, postgres]\n".toList)),
    (⟨.above 0, ["models".toList]⟩, .folder)] ++
    models.map fun (name, text) => (⟨.above 0, ["models".toList, name]⟩, .file (.text text)), []⟩

/-- The settings of the project. -/
def sampleSettings : Settings where
  adapters := .list (["spark".toList, "postgres".toList].map .ofText)
  macroOutput := ⟨.relative, ["macros".toList, "portable_functions.sql".toList]⟩
  scanProject := .scalar (.bool true)
  modelPaths := [⟨.relative, ["models".toList]⟩]
  projectRoot := ⟨.relative, []⟩

/-- Where the macros of the project go. -/
def sampleLocation : Location :=
  ⟨.above 0, ["macros".toList, "portable_functions.sql".toList]⟩

/-- The moment at which the project is migrated. -/
def sampleClock : Macro.Moment :=
  ⟨2026, 1, 2, 3, 4, 5⟩

/-- What a migration of the project does. -/
def sampleRun (tree : Tree) : Outcome :=
  runOn sampleEngine sampleClock tree ⟨.migrate, defaultSettings⟩

/-- The project after a number of migrations. -/
def sampleTrees (models : List (Text × Text)) : Nat → Tree
  | 0 => sampleTree models
  | k + 1 => (sampleRun (sampleTrees models k)).tree

/-- Whether values are the given texts. -/
def areTexts : List Value → List Text → Bool
  | [], [] => true
  | .scalar (.text chars) :: items, name :: names => chars == name && areTexts items names
  | _, _ => false

/-- Items that are checked to be given texts are those texts. -/
theorem eq_map_of_areTexts {items : List Value} {names : List Text}
    (htexts : areTexts items names = true) : items = names.map .ofText := by
  fun_induction areTexts items names with
  | case1 => rfl
  | case2 chars items name names ih =>
    obtain ⟨hchars, hrest⟩ := Bool.and_eq_true_iff.mp htexts
    rw [List.map_cons, ih hrest, eq_of_beq hchars]
    rfl
  | case3 => cases htexts

/-- Whether settings are those of the project. -/
def isSample : Settings → Bool
  | ⟨.list items, macroOutput, .scalar scanned, modelPaths, projectRoot⟩ =>
    areTexts items ["spark".toList, "postgres".toList] && scanned == .bool true &&
      decide (macroOutput = sampleSettings.macroOutput ∧
        modelPaths = sampleSettings.modelPaths ∧ projectRoot = sampleSettings.projectRoot)
  | _ => false

/-- Settings that are checked to be those of the sample are those of the sample. -/
theorem eq_of_isSample {settings : Settings} (hsample : isSample settings = true) :
    settings = sampleSettings := by
  unfold isSample at hsample
  split at hsample
  · simp only [Bool.and_eq_true, decide_eq_true_eq] at hsample
    obtain ⟨⟨htexts, hscanned⟩, rfl, rfl, rfl⟩ := hsample
    rw [eq_map_of_areTexts htexts, eq_of_beq hscanned]
    rfl
  · cases hsample

/-- What evaluation shows of one of the migrations. -/
def SampleChecks (models : List (Text × Text)) (k : Nat) : Prop :=
  (Settings.load (sampleTrees models k) defaultSettings).toOption.any isSample = true ∧
    (sampleRun (sampleTrees models k)).fault = none ∧
    (sampleTrees models (k + 1)).locate sampleSettings.macroOutput = .ok sampleLocation ∧
    ∀ insertion ∈ insertions sampleEngine sampleClock sampleSettings (sampleTrees models k),
      (sampleTrees models (k + 1)).locate insertion.path ≠ .ok sampleLocation

instance (models : List (Text × Text)) (k : Nat) : Decidable (SampleChecks models k) :=
  inferInstanceAs (Decidable (_ ∧ _ ∧ _ ∧ _))

/-- The checks on a migration of the sample make it one that succeeds. -/
theorem SampleChecks.migrates {models : List (Text × Text)} {k : Nat}
    (hchecks : SampleChecks models k) :
    Migrates sampleEngine sampleClock defaultSettings sampleSettings (sampleTrees models k)
      (sampleTrees models (k + 1)) := by
  obtain ⟨hsample, hsuccess, hlocate, hapart⟩ := hchecks
  refine ⟨?_, hsuccess, rfl, fun location hother => ?_⟩
  · obtain ⟨settings, hload, hsettings⟩ := exists_ok_of_any hsample
    rw [hload, eq_of_isSample hsettings]
  · obtain rfl : sampleLocation = location := Except.ok.inj (hlocate.symm.trans hother)
    exact ⟨rfl, hapart⟩

/-- The models of the project: one that collects values. -/
def sampleModels : List (Text × Text) :=
  [("m.sql".toList, "SELECT COLLECT_LIST(x)".toList)]

/-- The macro call that is put into the model. -/
def sampleInsertion : Project.Insertion where
  path := ⟨.relative, ["models".toList, "m.sql".toList]⟩
  model := "SELECT COLLECT_LIST(x)".toList
  call := "\x7b\x7b portable_collect_list('x') \x7d\x7d".toList

/-- The first migration finds the function and puts in the macro call. -/
theorem sampleChecks_zero :
    SampleChecks sampleModels 0 ∧
      sampleInsertion ∈
        insertions sampleEngine sampleClock sampleSettings (sampleTrees sampleModels 0) ∧
      Project.scan sampleEngine (sampleTrees sampleModels 0) sampleSettings =
        .ok [("COLLECT_LIST".toList, 1)] := by
  decide +kernel

/-- The settings file of the sample holds the settings of the sample. -/
theorem load_sample {settings : Settings} :
    Settings.load (sampleTree sampleModels) defaultSettings = .ok settings ↔
      settings = sampleSettings := by
  have hload : Settings.load (sampleTree sampleModels) defaultSettings = .ok sampleSettings :=
    sampleChecks_zero.1.migrates.load
  rw [hload, Except.ok.injEq]
  exact eq_comm

/-- The macro is provided, since a table holds the function. -/
theorem provides_sample :
    Provides sampleEngine "spark".toList ["postgres".toList] sampleSettings
      (sampleTrees sampleModels 0) (Model.calledMacro sampleInsertion.call) := by
  obtain ⟨hchecks, -, hscan⟩ := sampleChecks_zero
  refine .inl ⟨"COLLECT_LIST".toList, ?_, by decide +kernel⟩
  exact (Project.mem_scan_iff rfl (List.cons_ne_nil _ _)
    (Project.modelPaths_of_load hchecks.migrates.load) hscan).mp (List.mem_singleton.mpr rfl)

/-- The call of the sample project is replaced by a call of a macro, which is defined. -/
theorem inserted_macro_defined_iff_provided_collect :
    Migrates sampleEngine sampleClock defaultSettings sampleSettings (sampleTrees sampleModels 0)
        (sampleTrees sampleModels 1) ∧
      sampleInsertion ∈
        insertions sampleEngine sampleClock sampleSettings (sampleTrees sampleModels 0) ∧
      Provides sampleEngine "spark".toList ["postgres".toList] sampleSettings
        (sampleTrees sampleModels 0) (Model.calledMacro sampleInsertion.call) ∧
      Defines (sampleTrees sampleModels 1) sampleSettings.macroOutput
        (Model.calledMacro sampleInsertion.call) := by
  obtain ⟨hchecks, hinserted, -⟩ := sampleChecks_zero
  have hprovides := provides_sample
  obtain ⟨function, hcalled, -, hdefines, -⟩ := inserted_macro_defined_iff_provided
    hchecks.migrates rfl (List.cons_ne_nil _ _) (by decide) hinserted
  refine ⟨hchecks.migrates, hinserted, hprovides, ?_⟩
  rw [hcalled] at hprovides ⊢
  exact hdefines hprovides

/-- A model that calls a function which is in no table. -/
def unknownModels : List (Text × Text) :=
  [("m.sql".toList, "SELECT CLEAN(`c`)".toList)]

/-- A call of a function that is in no table is replaced by a call of a macro that is not
defined. -/
theorem unknown_function_macro_undefined :
    (sampleRun (sampleTrees unknownModels 0)).fault = none ∧
      (sampleTrees unknownModels 1).read sampleInsertion.path =
        .ok (.text "SELECT \x7b\x7b portable_clean('`c`') \x7d\x7d".toList) ∧
      ¬Defines (sampleTrees unknownModels 1) sampleSettings.macroOutput
        "portable_clean".toList := by
  decide +kernel

/-! ## Macros after several migrations -/

/-- A migration of a tree spares a macro that is defined: it finds no function at all, or it finds
one of that macro. -/
def Spares (engine : Engine) (primary : Text) (others : List Text) (settings : Settings)
    (tree : Tree) (name : Text) : Prop :=
  (∀ function, ¬Finds engine primary others tree settings function) ∨
    ∃ function, Finds engine primary others tree settings function ∧
      Model.macroName function = name

/-- What is provided is spared. -/
theorem Provides.spares {tree : Tree} {name : Text}
    (hprovides : Provides engine primary others settings tree name) :
    Spares engine primary others settings tree name :=
  hprovides.elim .inr fun hnone => .inl hnone.1

/-- What is defined and spared is provided. -/
theorem Spares.provides {tree : Tree} {name : Text}
    (hspares : Spares engine primary others settings tree name)
    (hdefined : Defines tree settings.macroOutput name) :
    Provides engine primary others settings tree name :=
  hspares.elim (fun hnone => .inr ⟨hnone, hdefined⟩) .inl

/-- A macro that one of several migrations puts a call of into a model, and that is defined after
one of them, stays defined if every migration after that spares it. If the functions that these
migrations find bring no braces into the macros, it stays defined in no other case. -/
theorem called_macro_stays_iff_spared {trees : Nat → Tree} {clocks : Nat → Macro.Moment}
    {count : Nat}
    (hmigrates : ∀ k < count, Migrates engine (clocks k) path settings (trees k) (trees (k + 1)))
    (hadapters : settings.adapters = .list ((primary :: others).map .ofText))
    (hothers : others ≠ []) {i j : Nat} {insertion : Project.Insertion}
    (hinserted : insertion ∈ insertions engine (clocks i) settings (trees i))
    (hdefined : Defines (trees j) settings.macroOutput (Model.calledMacro insertion.call)) :
    ((∀ k, j ≤ k → k < count → Spares engine primary others settings (trees k)
        (Model.calledMacro insertion.call)) →
      ∀ k, j ≤ k → k ≤ count →
        Defines (trees k) settings.macroOutput (Model.calledMacro insertion.call)) ∧
    ((∀ k, j ≤ k → k < count → FindsPlain engine primary others settings (trees k)) →
      (∀ adapter ∈ primary :: others, Macro.IsAdapterName (Dialect.canonicalName adapter)) →
      (∀ k, j ≤ k → k ≤ count →
        Defines (trees k) settings.macroOutput (Model.calledMacro insertion.call)) →
      ∀ k, j ≤ k → k < count → Spares engine primary others settings (trees k)
        (Model.calledMacro insertion.call)) := by
  obtain ⟨function, sql, hparen, hcalled, -, -⟩ :=
    exists_function_of_mem_insertions hadapters hinserted
  rw [hcalled] at hdefined ⊢
  refine ⟨fun hspares k hjk => ?_, fun hplain hnames hstays k hjk hk => ?_⟩
  · induction k, hjk using Nat.le_induction with
    | base => exact fun _ => hdefined
    | succ k hjk ih =>
      intro hk
      exact (hmigrates k (by omega)).defines_of_provides hadapters hothers
        ((hspares k hjk (by omega)).provides (ih (by omega)))
  · have hafter := hstays (k + 1) (by omega) (by omega)
    exact ((hmigrates k hk).provides_of_defines hadapters hothers (hplain k hjk hk) hnames hparen
      hafter).spares

/-- The second migration finds nothing. -/
theorem sampleChecks_one :
    SampleChecks sampleModels 1 ∧
      Project.scan sampleEngine (sampleTrees sampleModels 1) sampleSettings = .ok [] := by
  decide +kernel

/-- The macro is still defined after a second migration, which finds nothing. -/
theorem called_macro_stays_iff_spared_twice :
    (∀ k < 2, Migrates sampleEngine sampleClock defaultSettings sampleSettings
        (sampleTrees sampleModels k) (sampleTrees sampleModels (k + 1))) ∧
      sampleInsertion ∈
        insertions sampleEngine sampleClock sampleSettings (sampleTrees sampleModels 0) ∧
      Defines (sampleTrees sampleModels 1) sampleSettings.macroOutput
        (Model.calledMacro sampleInsertion.call) ∧
      Spares sampleEngine "spark".toList ["postgres".toList] sampleSettings
        (sampleTrees sampleModels 1) (Model.calledMacro sampleInsertion.call) ∧
      Defines (sampleTrees sampleModels 2) sampleSettings.macroOutput
        (Model.calledMacro sampleInsertion.call) := by
  obtain ⟨hfirst, hinserted, -⟩ := sampleChecks_zero
  obtain ⟨hsecond, hscan⟩ := sampleChecks_one
  have hmigrates : ∀ k < 2, Migrates sampleEngine sampleClock defaultSettings sampleSettings
      (sampleTrees sampleModels k) (sampleTrees sampleModels (k + 1)) := by
    intro k hk
    obtain rfl | rfl : k = 0 ∨ k = 1 := by omega
    · exact hfirst.migrates
    · exact hsecond.migrates
  have hdefined : Defines (sampleTrees sampleModels 1) sampleSettings.macroOutput
      (Model.calledMacro sampleInsertion.call) :=
    hfirst.migrates.defines_of_provides rfl (List.cons_ne_nil _ _) provides_sample
  have hspares : Spares sampleEngine "spark".toList ["postgres".toList] sampleSettings
      (sampleTrees sampleModels 1) (Model.calledMacro sampleInsertion.call) := by
    refine .inl fun function hfinds => ?_
    cases (Project.mem_scan_iff rfl (List.cons_ne_nil _ _)
      (Project.modelPaths_of_load hsecond.migrates.load) hscan).mpr hfinds
  refine ⟨hmigrates, hinserted, hdefined, hspares, ?_⟩
  refine (called_macro_stays_iff_spared hmigrates rfl (List.cons_ne_nil _ _) hinserted
    hdefined).1 (fun k hfrom hto => ?_) 2 (by omega) (by omega)
  obtain rfl : k = 1 := by omega
  exact hspares

/-- A second model, whose call stays as it is since it has a star in it. -/
def starredModels : List (Text × Text) :=
  sampleModels ++ [("n.sql".toList, "SELECT COLLECT_SET(a * b)".toList)]

/-- A second migration loses the macro of one model, since the call in the other one is found
again. -/
theorem called_macro_lost_by_second_migration :
    (sampleRun (sampleTrees starredModels 0)).fault = none ∧
      (sampleRun (sampleTrees starredModels 1)).fault = none ∧
      Defines (sampleTrees starredModels 1) sampleSettings.macroOutput
        "portable_collect_list".toList ∧
      (sampleTrees starredModels 2).read sampleInsertion.path =
        .ok (.text "SELECT \x7b\x7b portable_collect_list('x') \x7d\x7d".toList) ∧
      ¬Defines (sampleTrees starredModels 2) sampleSettings.macroOutput
        "portable_collect_list".toList := by
  decide +kernel

end Migrating

end Command

end PortableSql

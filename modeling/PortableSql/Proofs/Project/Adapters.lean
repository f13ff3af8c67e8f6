import PortableSql.Proofs.Macro.Definition
import PortableSql.Proofs.Project.Repetition

/-!
# How adapters are written

An adapter can be written in several ways that stand for one dialect. A scan asks the engine for the
dialect under its own name, so it makes no difference how the adapters are written. The generated
macros and the conversion of models take the first adapter as it is written. They come out alike if
the engine does not tell the two ways of writing it apart, and some engine does unless they are the
same.
-/

namespace PortableSql

namespace Sql

/-! ## Questions to the engine -/

/-- Two lists of adapters stand for the same dialects, one by one. -/
def SameDialects (names others : List Text) : Prop :=
  List.Forall₂ (fun a b => Dialect.canonicalName a = Dialect.canonicalName b) names others

instance (names others : List Text) : Decidable (SameDialects names others) :=
  inferInstanceAs (Decidable (List.Forall₂ _ _ _))

/-- Answers for adapters that depend on their dialects only. -/
theorem SameDialects.mapM_eq {β : Type} {f : Value → Except Fault β} {names others : List Text}
    (hsame : SameDialects names others)
    (hf : ∀ a b, Dialect.canonicalName a = Dialect.canonicalName b →
      f (.ofText a) = f (.ofText b)) :
    (names.map Value.ofText).mapM f = (others.map Value.ofText).mapM f := by
  induction hsame with
  | nil => rfl
  | cons hfirst _ ih =>
    rw [List.map_cons, List.map_cons, List.mapM_cons, List.mapM_cons, hf _ _ hfirst, ih]

namespace Engine

/-- The engine reads every text in two dialects alike, and writes what it read alike in both. -/
structure Confuses (engine : Engine) (first second : Dialect) : Prop where
  parse : ∀ sql, engine.parse sql first = engine.parse sql second
  render : ∀ sql tree, engine.parse sql first = .ok (some tree) →
    ∀ node ∈ tree.walk, node.render first = node.render second

/-- An engine reads and writes a dialect like itself. -/
theorem Confuses.refl (engine : Engine) (dialect : Dialect) : engine.Confuses dialect dialect :=
  ⟨fun _ => rfl, fun _ _ _ _ _ => rfl⟩

/-- The report of differences depends on the dialects only. -/
theorem differences_congr (engine : Engine) {names others : List Text}
    (hsame : SameDialects names others) :
    engine.differences (.list (names.map .ofText)) =
      engine.differences (.list (others.map .ofText)) := by
  have htables : engine.tables (names.map .ofText) = engine.tables (others.map .ofText) := by
    refine hsame.mapM_eq fun a b hname => ?_
    simp only [Value.ofText, Dialect.canonical, hname]
  simp only [differences, Value.items, bind, Except.bind, htables]

/-- The calls of a text depend on the dialect only. -/
theorem calls_congr (engine : Engine) {a b : Text}
    (hname : Dialect.canonicalName a = Dialect.canonicalName b) (sql : Text) :
    engine.calls sql (.ofText a) = engine.calls sql (.ofText b) := by
  simp only [calls, Value.ofText, Dialect.canonical, hname]

end Engine

end Sql

open Sql

/-! ## Macros -/

namespace Macro

/-- A library depends on the dialects of the adapters and on how the engine reads the first. -/
theorem library_congr {engine : Engine} {names others : List Text} {first second : Dialect}
    (hsame : SameDialects names others)
    (hparse : ∀ sql, engine.parse sql first = engine.parse sql second) (now : Moment)
    (functions : List Text) :
    library engine now functions (.list (names.map .ofText)) first =
      library engine now functions (.list (others.map .ofText)) second := by
  have hbody (name : Text) (dialect : Dialect) :
      adapterBody engine name first dialect = adapterBody engine name second dialect := by
    simp only [adapterBody, carry, hparse]
  have hdefinitions (name : Text) :
      definitions engine names first name = definitions engine others second name := by
    have hadapters : names.map (adapting engine first name) =
        others.map (adapting engine second name) := by
      induction hsame with
      | nil => rfl
      | cons hname _ ih => rw [List.map_cons, List.map_cons, ih, adapting, adapting, hname, hbody]
    rw [definitions, definitions, hadapters]
  rw [library_eq, library_eq, funext hdefinitions]

end Macro

/-! ## Models -/

namespace Model

/-- Whether adapters write a node in more than one way depends on their dialects only. -/
theorem differsFrom_congr (seen : List Text) (node : Node) {names others : List Text}
    (hsame : SameDialects names others) :
    differsFrom seen node (names.map .ofText) = differsFrom seen node (others.map .ofText) := by
  induction hsame generalizing seen with
  | nil => rfl
  | @cons a b _ _ hfirst _ ih =>
    simp only [List.map_cons, differsFrom, Value.ofText, Dialect.canonical, hfirst, bind,
      Except.bind]
    cases node.render (.named (Dialect.canonicalName b)) with
    | error fault => rfl
    | ok sql => exact ih (sql :: seen)

/-- The calls of a tree are found alike in two dialects in which all of its nodes are written
alike. -/
theorem findCalls_congr {tree : Node} {first second : Dialect}
    (hrender : ∀ node ∈ tree.walk, node.render first = node.render second) :
    findCalls tree first = findCalls tree second := by
  unfold findCalls
  refine congrArg (· >>= _) (mapM_congr fun call hcall => ?_)
  have hnode := (Node.mem_walk_of_mem_callsBelow hcall).1
  simp only [nodeName?, hrender call.2 hnode]

/-- The conversion of a model depends on the dialects of the adapters and on how the engine reads
and writes the first. -/
theorem convert_congr {engine : Engine} {names others : List Text} {first second : Dialect}
    (hsame : SameDialects names others)
    (hfirst : engine.Confuses first second) (model : Text) :
    convert engine (.list (names.map .ofText)) first model =
      convert engine (.list (others.map .ofText)) second model := by
  have hdiffers (node : Node) : differs node (.list (names.map .ofText)) =
      differs node (.list (others.map .ofText)) :=
    differsFrom_congr [] node hsame
  have hregion (masked : Text) :
      regionReplacements engine (.list (names.map .ofText)) first masked =
        regionReplacements engine (.list (others.map .ofText)) second masked := by
    unfold regionReplacements
    rw [← hfirst.parse masked]
    split
    next tree hparse =>
      have hnodes := hfirst.render masked tree hparse
      rw [← findCalls_congr hnodes]
      cases hcalls : findCalls tree first with
      | error fault => rfl
      | ok calls =>
        have hanswers : calls.mapM (replacement? (.list (names.map .ofText)) first) =
            calls.mapM (replacement? (.list (others.map .ofText)) second) := by
          refine mapM_congr fun call hcall => ?_
          have hnode := (exists_node_of_mem_findCalls hcalls hcall).1
          simp only [replacement?, hdiffers, hnodes call.node hnode]
        simp only [bind, Except.bind, replacements, hanswers]
    next => rfl
  rw [convert_eq, convert_eq]
  simp only [wanted, hregion]

end Model

/-! ## Projects -/

/-- An answer that is known. -/
theorem Action.ofExcept_ok_bind {α β : Type} (a : α) (next : α → Action β) :
    (Action.ofExcept (.ok a) >>= next) = next a := rfl

/-- The settings with these adapters. -/
def Settings.withAdapters (settings : Settings) (names : List Text) : Settings :=
  { settings with adapters := .list (names.map .ofText) }

namespace Project

section Writing

variable {names others : List Text}

/-- The first adapters of lists for the same dialects stand for the same dialect. -/
theorem first_of_sameDialects (hsame : SameDialects names others) :
    (names = [] ∧ others = []) ∨ ∃ a as b bs, names = a :: as ∧ others = b :: bs ∧
      Dialect.canonicalName a = Dialect.canonicalName b := by
  cases hsame with
  | nil => exact .inl ⟨rfl, rfl⟩
  | cons hfirst _ => exact .inr ⟨_, _, _, _, rfl, rfl, hfirst⟩

/-- A scan finds the same however the adapters are written. -/
theorem scan_congr (hsame : SameDialects names others) (engine : Engine) (tree : Tree)
    (settings : Settings) :
    scan engine tree (settings.withAdapters names) =
      scan engine tree (settings.withAdapters others) := by
  have hdifferences := engine.differences_congr hsame
  rcases first_of_sameDialects hsame with ⟨rfl, rfl⟩ | ⟨a, as, b, bs, rfl, rfl, hfirst⟩
  · rfl
  · have hmodel : modelFunctions engine (.ofText a) = modelFunctions engine (.ofText b) := by
      funext model
      simp only [modelFunctions, engine.calls_congr hfirst]
    have hfile : fileFunctions engine tree (.ofText a) = fileFunctions engine tree (.ofText b) := by
      funext path
      simp only [fileFunctions, hmodel]
    have hfolder : folderFunctions engine tree (.ofText a) =
        folderFunctions engine tree (.ofText b) := by
      funext path
      simp only [folderFunctions, hfile]
    simp only [scan, Settings.withAdapters, List.map_cons, Value.first] at hdifferences ⊢
    rw [hdifferences]
    simp only [bind, Except.bind, hfolder]

/-- The library for adapters that are texts is written as it is. -/
theorem writeLibrary_ofText (path : Path) (names : List Text) (library : Text) :
    writeLibrary path (names.map .ofText) library = Action.write path library := by
  have hnone : (names.map Value.ofText).any Value.isHalved = false := by
    rw [List.any_map]
    exact List.any_eq_false.mpr fun _ _ => Bool.false_ne_true
  unfold writeLibrary
  rw [hnone]
  rfl

/-- The library is written alike if the engine reads the first adapters alike. -/
theorem generate_congr (hsame : SameDialects names others) {engine : Engine}
    (hfirst : ∀ a ∈ names.head?, ∀ b ∈ others.head?, engine.Confuses (.named a) (.named b))
    (settings : Settings) (now : Macro.Moment) (functions : List Text) :
    generate engine now (settings.withAdapters names) functions =
      generate engine now (settings.withAdapters others) functions := by
  rcases first_of_sameDialects hsame with ⟨rfl, rfl⟩ | ⟨a, as, b, bs, rfl, rfl, -⟩
  · rfl
  · have hlibrary := Macro.library_congr hsame (hfirst a rfl b rfl).parse now functions
    simp only [generate, Settings.withAdapters, Value.items, Action.ofExcept_ok_bind,
      writeLibrary_ofText]
    simp only [List.map_cons, Value.first, Action.ofExcept_ok_bind] at hlibrary ⊢
    simp only [Value.ofText, Dialect.ofValue] at hlibrary ⊢
    rw [hlibrary]

/-- Models are converted alike if the engine reads and writes the first adapters alike. -/
theorem convert_congr (hsame : SameDialects names others) {engine : Engine}
    (hfirst : ∀ a ∈ names.head?, ∀ b ∈ others.head?, engine.Confuses (.named a) (.named b))
    (settings : Settings) (dryRun : Bool) :
    convert engine (settings.withAdapters names) dryRun =
      convert engine (settings.withAdapters others) dryRun := by
  rcases first_of_sameDialects hsame with ⟨rfl, rfl⟩ | ⟨a, as, b, bs, rfl, rfl, -⟩
  · rfl
  · have hmodel := Model.convert_congr hsame (hfirst a rfl b rfl)
    have hfile : convertFile engine (.list ((a :: as).map .ofText)) (.named a) dryRun =
        convertFile engine (.list ((b :: bs).map .ofText)) (.named b) dryRun := by
      funext path
      simp only [convertFile, hmodel]
    have hfiles (paths : List Path) :
        convertFiles engine (.list ((a :: as).map .ofText)) (.named a) dryRun paths =
          convertFiles engine (.list ((b :: bs).map .ofText)) (.named b) dryRun paths := by
      induction paths with
      | nil => rfl
      | cons path paths ih => rw [convertFiles, convertFiles, hfile, ih]
    have hfolder : convertFolder engine (.list ((a :: as).map .ofText)) (.named a) dryRun =
        convertFolder engine (.list ((b :: bs).map .ofText)) (.named b) dryRun := by
      funext path
      simp only [convertFolder, hfiles]
    simp only [convert, Settings.withAdapters, List.map_cons, Value.first,
      Action.ofExcept_ok_bind] at hfolder ⊢
    simp only [Value.ofText, Dialect.ofValue] at hfolder ⊢
    rw [hfolder]

/-! ## Engines that tell spellings apart -/

/-- An engine that reads texts in the dialect of one name only, each as a call that it cannot
write. -/
def muteEngine (name : Text) : Engine :=
  Recording.engine
    { parses := [⟨none, some name, .ok (some ⟨true, none, .byDialect [], [], []⟩)⟩]
      transpiles := []
      dialects := [] }

/-- A model is converted unless its dialect is the one that the engine reads. -/
theorem convert_muteEngine_iff (name other : Text) (adapters : Value) :
    Model.convert (muteEngine name) adapters (.named other) "x".toList = .ok "x".toList ↔
      other ≠ name := by
  have hregions : Template.regions "x".toList = .ok [⟨0, 1, .static, .text "x".toList⟩] := by
    decide +kernel
  have hwanted : Model.wanted (muteEngine name) adapters (.named other) "x".toList =
      Model.regionReplacements (muteEngine name) adapters (.named other) "x".toList := by
    unfold Model.wanted
    rw [hregions]
    rfl
  rw [Model.convert_eq, hwanted]
  by_cases hname : other = name
  · subst hname
    have hparse : (muteEngine other).parse "x".toList (.named other) =
        .ok (some ⟨true, none, .byDialect [], [], []⟩) := by
      simp [muteEngine, Recording.engine, fits, fitsDialect, Dialect.hasName, recorded]
    rw [Model.regionReplacements, hparse]
    refine iff_of_false (fun hconvert => ?_) (by simp)
    cases hconvert
  · have hparse : (muteEngine name).parse "x".toList (.named other) = .error noEntry := by
      simp [muteEngine, Recording.engine, fits, fitsDialect, Dialect.hasName, hname]
    rw [Model.regionReplacements, hparse]
    exact iff_of_true rfl hname

/-- Under two ways of writing the first adapter, some engine converts one project only. -/
theorem exists_convert_ne {first second : Text} (hne : first ≠ second) (names others : List Text) :
    ∃ (engine : Engine) (settings : Settings),
      convert engine (settings.withAdapters (first :: names)) false ≠
        convert engine (settings.withAdapters (second :: others)) false := by
  have hunique : (folderedTree [("models", "m.sql", "x".toList)]).IsUnambiguous := by decide
  have hvisits : (folderedTree [("models", "m.sql", "x".toList)]).visits
      (folderedSettings ["models"]).modelPaths = .ok [folderedPath "models" "m.sql"] := by
    decide +kernel
  have hread : (folderedTree [("models", "m.sql", "x".toList)]).readText?
      (folderedPath "models" "m.sql") = some "x".toList := by
    decide +kernel
  -- The model is settled exactly if its conversion succeeds.
  have hsettled (name : Text) (rest : List Text) : Yields (convert (muteEngine first)
      ((folderedSettings ["models"]).withAdapters (name :: rest)) false)
      (folderedTree [("models", "m.sql", "x".toList)]) []
      (folderedTree [("models", "m.sql", "x".toList)]) ↔ name ≠ first := by
    rw [convert_yields hunique, ← convert_muteEngine_iff first name
      (.list ((name :: rest).map .ofText))]
    constructor
    · rintro ⟨primary, visited, hprimary, hvisited, hfiles⟩
      obtain rfl := Except.ok.inj hprimary
      obtain rfl := Except.ok.inj (hvisits.symm.trans hvisited)
      exact convertFiles_nil_iff.mp hfiles _ (List.mem_singleton.mpr rfl) _ hread
    · intro hconvert
      refine ⟨_, _, rfl, hvisits, convertFiles_nil_iff.mpr fun path hpath model hmodel => ?_⟩
      rw [List.mem_singleton.mp hpath, hread] at hmodel
      rwa [← Option.some.inj hmodel]
  refine ⟨muteEngine first, folderedSettings ["models"], fun hsame => ?_⟩
  have hsecond := (hsettled second others).mpr (Ne.symm hne)
  rw [← hsame] at hsecond
  exact (hsettled first names).mp hsecond rfl

end Writing

/-- For adapters that stand for the same dialects, it makes no difference to a scan how they are
written. The library and the models come out alike if the engine does not tell the two ways of
writing the first adapter apart. They do so for every engine exactly if the first adapter is written
in the same way. -/
theorem spelling_matters_in_front {names others : List Text} (hsame : SameDialects names others) :
    (∀ engine tree (settings : Settings), scan engine tree (settings.withAdapters names) =
      scan engine tree (settings.withAdapters others)) ∧
    (∀ engine (settings : Settings), (∀ first ∈ names.head?, ∀ second ∈ others.head?,
        engine.Confuses (.named first) (.named second)) →
      (∀ now functions, generate engine now (settings.withAdapters names) functions =
        generate engine now (settings.withAdapters others) functions) ∧
      ∀ dryRun, convert engine (settings.withAdapters names) dryRun =
        convert engine (settings.withAdapters others) dryRun) ∧
    ((∀ engine (settings : Settings),
        (∀ now functions, generate engine now (settings.withAdapters names) functions =
          generate engine now (settings.withAdapters others) functions) ∧
        ∀ dryRun, convert engine (settings.withAdapters names) dryRun =
          convert engine (settings.withAdapters others) dryRun) ↔
      names.head? = others.head?) := by
  have halike (engine : Engine) (settings : Settings) (hfirst : ∀ first ∈ names.head?,
      ∀ second ∈ others.head?, engine.Confuses (.named first) (.named second)) :=
    And.intro (generate_congr hsame hfirst settings) (convert_congr hsame hfirst settings)
  refine ⟨scan_congr hsame, halike, fun hall => ?_, fun hhead engine settings => ?_⟩
  · rcases first_of_sameDialects hsame with ⟨rfl, rfl⟩ | ⟨a, as, b, bs, rfl, rfl, -⟩
    · rfl
    · by_contra hne
      obtain ⟨engine, settings, hdifferent⟩ :=
        exists_convert_ne (fun heq => hne (congrArg some heq)) as bs
      exact hdifferent ((hall engine settings).2 false)
  · refine halike engine settings fun first hfirst second hsecond => ?_
    rw [hhead] at hfirst
    obtain rfl := Option.some.inj (hfirst.symm.trans hsecond)
    exact .refl engine _

/-- Adapters other than the first may be written in any way. -/
theorem spelling_matters_in_front_second :
    SameDialects ["spark".toList, "PostgreSQL".toList] ["spark".toList, "postgres".toList] ∧
    ∀ engine (settings : Settings),
      (∀ now functions, generate engine now
          (settings.withAdapters ["spark".toList, "PostgreSQL".toList]) functions =
        generate engine now (settings.withAdapters ["spark".toList, "postgres".toList])
          functions) ∧
      ∀ dryRun, convert engine
          (settings.withAdapters ["spark".toList, "PostgreSQL".toList]) dryRun =
        convert engine (settings.withAdapters ["spark".toList, "postgres".toList]) dryRun :=
  ⟨by decide +kernel, (spelling_matters_in_front (by decide +kernel)).2.2.mpr rfl⟩

/-- An engine that reads a call in every text of Postgres, and no texts of other dialects. Spark
has another name for the function. -/
def postgresEngine : Engine :=
  let call : Node := ⟨true, none,
    .byDialect [("spark".toList, some "COLLECT_LIST(\x7bthis\x7d)".toList),
      ("*".toList, some "ARRAY_AGG(\x7bthis\x7d)".toList)],
    [("this".toList, "x".toList)], []⟩
  Recording.engine
    { parses := [⟨none, some "postgres".toList, .ok (some call)⟩]
      transpiles := []
      dialects :=
        [("postgres".toList, some [("ARRAY_AGG".toList, .text "ArrayAgg".toList)]),
          ("spark".toList, some [("COLLECT_LIST".toList, .text "ArrayAgg".toList)])] }

/-- What is generated and converted under `postgres` is not under `PostgreSQL`, although both stand
for the same dialect and are scanned alike. -/
theorem other_spelling_is_not_converted :
    let tree := folderedTree [("models", "m.sql", "SELECT ARRAY_AGG(x)".toList)]
    let settings := fun name : String =>
      (folderedSettings ["models"]).withAdapters [name.toList, "spark".toList]
    let library := fun name : String => ((generate postgresEngine ⟨2026, 1, 2, 3, 4, 5⟩
      (settings name) ["ARRAY_AGG".toList]).treeAfter tree).readText? (settings name).macroOutput
    SameDialects ["postgres".toList, "spark".toList] ["PostgreSQL".toList, "spark".toList] ∧
      scan postgresEngine tree (settings "postgres") = .ok [("ARRAY_AGG".toList, 1)] ∧
      scan postgresEngine tree (settings "PostgreSQL") = .ok [("ARRAY_AGG".toList, 1)] ∧
      (library "postgres").any (Text.includes · "COLLECT_LIST".toList) ∧
      (library "PostgreSQL").all (!Text.includes · "COLLECT_LIST".toList) ∧
      Yields (convert postgresEngine (settings "postgres") false) tree
        [folderedPath "models" "m.sql"] (folderedTree [("models", "m.sql",
          "SELECT \x7b\x7b portable_array_agg('x') \x7d\x7d".toList)]) ∧
      Yields (convert postgresEngine (settings "PostgreSQL") false) tree [] tree := by
  intro tree settings library
  decide +kernel

end Project

end PortableSql

import PortableSql.Proofs.Model.Markup
import PortableSql.Proofs.Model.Outcome
import PortableSql.Proofs.Project.Visits

/-!
# Converting a project again

After a project was converted, each of its models is settled or was rewritten. A model that was
rewritten holds calls of macros. If one of them is an expression of the template, the model is
complex and will be left alone, unless a numeral in a tag keeps its regions from being told. If all
of them ended up in comments, raw blocks or other tags, the model is read as SQL once more.
-/

namespace PortableSql.Project

open Sql Template

section Converting

variable {engine : Engine} {adapters : Value} {primary : Dialect}

/-- A file stays settled, unless one of the paths that were rewritten leads to it. -/
theorem Settled.kept {before after : Tree} {changed : List Path} {path : Path}
    (hsettled : Settled engine adapters primary before path)
    (hrewrites : Rewrites before after changed) :
    Settled engine adapters primary after path ∨ ∃ other ∈ changed, SamePlace after other path := by
  by_cases hother : ∃ other ∈ changed, SamePlace after other path
  · exact .inr hother
  · left
    have hread : after.readText? path = before.readText? path := by
      refine hrewrites.readText? fun location hlocate other hmem hsame => hother ⟨other, hmem, ?_⟩
      exact ⟨location, hrewrites.locate_iff.mp hsame, hrewrites.locate_iff.mp hlocate⟩
    intro model hmodel
    exact hsettled model (hread ▸ hmodel)

/-- After files were converted, each of them is settled or was rewritten. -/
theorem convertFiles_settles {paths changed : List Path} {before after : Tree}
    (hunique : before.IsUnambiguous)
    (hyields : Yields (convertFiles engine adapters primary false paths) before changed after) :
    ∀ path ∈ paths, Settled engine adapters primary after path ∨
      ∃ other ∈ changed, SamePlace after other path := by
  induction paths generalizing before changed with
  | nil => simp
  | cons path paths ih =>
    obtain ⟨changes, between, rest, hfile, hrest, rfl⟩ := convertFiles_cons.mp hyields
    have hfirst := convertFile_rewrites hunique hfile
    have hlater := convertFiles_rewrites (hunique.of_outline hfirst.outline.symm) hrest
    have hweaken {visited : Path} (hkept : Settled engine adapters primary after visited ∨
        ∃ other ∈ rest, SamePlace after other visited) :
        Settled engine adapters primary after visited ∨
          ∃ other ∈ (if changes then [path] else []) ++ rest, SamePlace after other visited :=
      hkept.imp_right fun ⟨other, hmem, hsame⟩ => ⟨other, List.mem_append_right _ hmem, hsame⟩
    rw [List.forall_mem_cons]
    constructor
    · rcases convertFile_yields.mp hfile with ⟨hsettled, rfl, rfl⟩ | ⟨model, converted, location,
        -, -, -, -, hlocate, rfl, -⟩
      · exact hweaken (hsettled.kept hlater)
      · have hafter := (hfirst.append hlater).locate_iff.mp hlocate
        exact .inr ⟨path, by simp, location, hafter, hafter⟩
    · intro visited hvisited
      exact hweaken (ih (hunique.of_outline hfirst.outline.symm) hrest visited hvisited)

end Converting

/-- A second run after a first one changes nothing exactly if each file that the first one changed
now has no numeral in its tags, and either a call of a macro is an expression of it or there is
nothing left to replace in it. -/
theorem convert_again_iff {engine : Engine} {settings : Settings} {primary : Value}
    {changed : List Path} {before after : Tree} (hunique : before.IsUnambiguous)
    (hprimary : settings.adapters.first = .ok primary)
    (hyields : Yields (convert engine settings false) before changed after) :
    Yields (convert engine settings false) after [] after ↔
      ∀ path ∈ changed, ∀ model, after.readText? path = some model →
        hasNumeral model = false ∧ (opensCall model = true ∨
          Model.convert engine settings.adapters (.ofValue primary) model = .ok model) := by
  obtain ⟨other, visited, hother, hvisits, hfiles⟩ := (convert_yields hunique).mp hyields
  obtain rfl := Except.ok.inj (hprimary.symm.trans hother)
  have hrewrites := convertFiles_rewrites hunique hfiles
  have hagain : Yields (convert engine settings false) after [] after ↔
      ∀ path ∈ visited, Settled engine settings.adapters (.ofValue primary) after path := by
    rw [convert_yields (hunique.of_outline hrewrites.outline.symm), ← convertFiles_nil_iff,
      Tree.visits_of_outline hrewrites.outline, hvisits]
    constructor
    · rintro ⟨other, paths, hother, hpaths, hnone⟩
      obtain rfl := Except.ok.inj (hprimary.symm.trans hother)
      obtain rfl := Except.ok.inj hpaths
      exact hnone
    · exact fun hnone => ⟨primary, visited, hprimary, rfl, hnone⟩
  have hchanged : (∀ path ∈ visited,
      Settled engine settings.adapters (.ofValue primary) after path) ↔
        ∀ path ∈ changed, Settled engine settings.adapters (.ofValue primary) after path := by
    refine ⟨fun hall path hpath => hall path (convertFiles_subset hfiles hpath), ?_⟩
    intro hall path hpath
    rcases convertFiles_settles hunique hfiles path hpath with hsettled | ⟨other, hmem, hsame⟩
    · exact hsettled
    · intro model hmodel
      exact hall other hmem model (hsame.readText? ▸ hmodel)
  rw [hagain, hchanged]
  refine forall₂_congr fun path _ => forall₂_congr fun model _ => ?_
  constructor
  · exact fun hsettled => ⟨Model.hasNumeral_of_convert hsettled, .inr hsettled⟩
  · rintro ⟨hnumeral, hopens | hsettled⟩
    · exact Model.convert_of_opensCall hopens hnumeral
    · exact hsettled

/-- A project of folders that hold one model each. -/
def folderedTree (models : List (String × String × Text)) : Tree :=
  ⟨models.flatMap fun (folder, name, text) =>
    [(⟨.above 0, [folder.toList]⟩, .folder),
      (⟨.above 0, [folder.toList, name.toList]⟩, .file (.text text))], []⟩

/-- The settings of a project with models in the given folders. -/
def folderedSettings (folders : List String) : Settings where
  adapters := Model.twoAdapters
  macroOutput := ⟨.relative, ["macros".toList, "portable_functions.sql".toList]⟩
  scanProject := .scalar (.bool true)
  modelPaths := folders.map fun folder => ⟨.relative, [folder.toList]⟩
  projectRoot := ⟨.relative, []⟩

/-- The path of a model. -/
def folderedPath (folder name : String) : Path :=
  ⟨.relative, [folder.toList, name.toList]⟩

/-- An engine that reads a single call. -/
def collectEngine : Engine :=
  Model.collectingEngine ["SELECT COLLECT_LIST(x)".toList]

/-- What the call is replaced with. -/
def collectCall : Text :=
  "\x7b\x7b portable_collect_list('x') \x7d\x7d".toList

/-- The second run changes nothing in a project with a call that is read and replaced where it
stands. -/
theorem convert_again_iff_collect :
    Yields (convert collectEngine (folderedSettings ["models"]) false)
        (folderedTree [("models", "m.sql", "SELECT COLLECT_LIST(x)".toList)])
        [folderedPath "models" "m.sql"]
        (folderedTree [("models", "m.sql", "SELECT ".toList ++ collectCall)]) ∧
      Yields (convert collectEngine (folderedSettings ["models"]) false)
        (folderedTree [("models", "m.sql", "SELECT ".toList ++ collectCall)]) []
        (folderedTree [("models", "m.sql", "SELECT ".toList ++ collectCall)]) := by
  have hfirst : Yields (convert collectEngine (folderedSettings ["models"]) false)
      (folderedTree [("models", "m.sql", "SELECT COLLECT_LIST(x)".toList)])
      [folderedPath "models" "m.sql"]
      (folderedTree [("models", "m.sql", "SELECT ".toList ++ collectCall)]) := by
    decide +kernel
  refine ⟨hfirst, (convert_again_iff (by decide) rfl hfirst).mpr ?_⟩
  intro path hpath model hmodel
  rw [List.mem_singleton.mp hpath] at hmodel
  have hread : (folderedTree [("models", "m.sql", "SELECT ".toList ++ collectCall)]).readText?
      (folderedPath "models" "m.sql") = some ("SELECT ".toList ++ collectCall) := by
    decide +kernel
  obtain rfl := Option.some.inj (hread.symm.trans hmodel)
  exact ⟨by decide +kernel, .inl (by decide +kernel)⟩

/-- A call in a comment is replaced first, so the second run still finds the call below it. -/
theorem commented_call_is_converted_twice :
    Yields (convert collectEngine (folderedSettings ["models"]) false)
        (folderedTree [("models", "m.sql",
          "\x7b# COLLECT_LIST(x) #\x7dSELECT COLLECT_LIST(x)".toList)])
        [folderedPath "models" "m.sql"]
        (folderedTree [("models", "m.sql",
          "\x7b# ".toList ++ collectCall ++ " #\x7dSELECT COLLECT_LIST(x)".toList)]) ∧
      Yields (convert collectEngine (folderedSettings ["models"]) false)
        (folderedTree [("models", "m.sql",
          "\x7b# ".toList ++ collectCall ++ " #\x7dSELECT COLLECT_LIST(x)".toList)])
        [folderedPath "models" "m.sql"]
        (folderedTree [("models", "m.sql",
          "\x7b# ".toList ++ collectCall ++ " #\x7dSELECT ".toList ++ collectCall)]) := by
  decide +kernel

end PortableSql.Project

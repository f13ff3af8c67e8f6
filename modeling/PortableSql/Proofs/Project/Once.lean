import PortableSql.Proofs.Model.Once
import PortableSql.Proofs.Project.Attempt

/-!
# Files that are converted once

A plain model whose file has changed holds a text that no conversion changes. So its file stays as
it is, whatever is converted later and in whatever way.
-/

namespace PortableSql.Project

open Sql

/-- A path leads to a file whose text no conversion changes. -/
structure Rests (tree : Tree) (path : Path) (location : Location) (chars : Text) : Prop where
  locate : tree.locate path = .ok location
  lookup : tree.lookup location = some (.file (.text chars))
  fixed : Model.IsFixed (Text.normalizeNewlines chars)

section Rests

variable {tree : Tree} {path : Path} {location : Location} {chars : Text}

/-- No conversion of any file disturbs the file. -/
theorem Rests.attempt (hrests : Rests tree path location chars) (attempt : Attempt) :
    Rests (attempt.run.treeAfter tree) path location chars := by
  refine ⟨(attempt.sameFolders tree).locate_iff.mp hrests.locate, ?_, hrests.fixed⟩
  obtain ⟨text, hlookup, rfl | ⟨hconvert, hchanged⟩⟩ := attempt.file_after hrests.lookup
  · exact hlookup
  · exact absurd (hrests.fixed _ _ _ _ hconvert) hchanged

/-- No conversions of any files disturb the file. -/
theorem Rests.afterAll (hrests : Rests tree path location chars) (attempts : List Attempt) :
    Rests (afterAll tree attempts) path location chars :=
  afterAll_keeps (Rests · path location chars) (fun attempt _ htree => htree.attempt attempt)
    attempts hrests

/-- A conversion of the file itself changes nothing at all. -/
theorem Rests.again (hrests : Rests tree path location chars) {attempt : Attempt}
    (hpath : attempt.path = path) :
    attempt.run.treeAfter tree = tree ∧
      (attempt.run.answer tree = .ok false ∨ ∃ fault, attempt.run.answer tree = .error fault) := by
  have hread : tree.readText? attempt.path = some (Text.normalizeNewlines chars) :=
    Tree.readText?_eq_some.mpr ⟨location, chars, hpath ▸ hrests.locate, hrests.lookup, rfl⟩
  have hfixed {model converted : Text} (hmodel : tree.readText? attempt.path = some model)
      (hconvert : attempt.convert model = .ok converted) : converted = model := by
    obtain rfl := Option.some.inj (hread.symm.trans hmodel)
    exact hrests.fixed _ _ _ _ hconvert
  have houtcome := attempt.outcome tree
  generalize attempt.run.answer tree = answer, attempt.run.treeAfter tree = after at houtcome ⊢
  cases houtcome with
  | unread => exact ⟨rfl, .inl rfl⟩
  | failed => exact ⟨rfl, .inr ⟨_, rfl⟩⟩
  | kept => exact ⟨rfl, .inl rfl⟩
  | foretold hmodel hconvert hchanged => exact absurd (hfixed hmodel hconvert) hchanged
  | stored hmodel hconvert hchanged => exact absurd (hfixed hmodel hconvert) hchanged
  | refused hmodel hconvert hchanged => exact absurd (hfixed hmodel hconvert) hchanged

end Rests

/-- A plain model whose file changes is left at rest. -/
theorem exists_rests {tree : Tree} {attempt : Attempt} {model : Text}
    (hmodel : tree.readText? attempt.path = some model) (hplain : model.IsBraceless)
    (hchanges : (attempt.run.treeAfter tree).read attempt.path ≠ tree.read attempt.path) :
    ∃ location chars, Rests (attempt.run.treeAfter tree) attempt.path location chars := by
  obtain ⟨location, chars, hlocate, hlookup, rfl⟩ := Tree.readText?_eq_some.mp hmodel
  have hlater := (attempt.sameFolders tree).locate_iff.mp hlocate
  obtain ⟨text, htext, hcase⟩ := attempt.file_after hlookup
  refine ⟨location, text, hlater, htext, ?_⟩
  rcases hcase with rfl | ⟨hconvert, hchanged⟩
  · rw [Tree.read_eq_ok.mpr ⟨location, hlater, htext⟩,
      Tree.read_eq_ok.mpr ⟨location, hlocate, hlookup⟩] at hchanges
    exact absurd rfl hchanges
  · rcases Model.callsFirst_convert hplain hconvert with hsame | hcalls
    · exact absurd hsame hchanged
    · exact Model.isFixed_of_callsFirst hcalls.normalizeNewlines

/-- A plain model is converted at most once. After a conversion that changes its file, the file
keeps its content whatever is converted, and converting it again changes nothing in the tree: there
is no change to tell of, or a fault. -/
theorem plain_model_is_converted_once {tree : Tree} {first : Attempt} {model : Text}
    (hmodel : tree.readText? first.path = some model) (hplain : model.IsBraceless)
    (hchanges : (first.run.treeAfter tree).read first.path ≠ tree.read first.path)
    (others : List Attempt) {again : Attempt} (hagain : again.path = first.path) :
    (afterAll (first.run.treeAfter tree) others).read first.path =
        (first.run.treeAfter tree).read first.path ∧
      again.run.treeAfter (afterAll (first.run.treeAfter tree) others) =
        afterAll (first.run.treeAfter tree) others ∧
      (again.run.answer (afterAll (first.run.treeAfter tree) others) = .ok false ∨
        ∃ fault, again.run.answer (afterAll (first.run.treeAfter tree) others) = .error fault) := by
  obtain ⟨location, chars, hrests⟩ := exists_rests hmodel hplain hchanges
  have hlater := hrests.afterAll others
  have hbefore := Tree.read_eq_ok.mpr ⟨location, hrests.locate, hrests.lookup⟩
  have hafter := Tree.read_eq_ok.mpr ⟨location, hlater.locate, hlater.lookup⟩
  exact ⟨hafter.trans hbefore.symm, hlater.again hagain⟩

/-- An engine that reads the same call in every text. -/
def eagerEngine : Engine :=
  let call : Node := ⟨true, none, .byDialect [("postgres".toList, some "ARRAY_AGG(x)".toList),
    ("*".toList, some "COLLECT_LIST(x)".toList)], [], []⟩
  Recording.engine
    { parses := [⟨none, none, .ok (some ⟨false, none, .uniform [], [], [call]⟩)⟩]
      transpiles := []
      dialects := [] }

/-- A conversion of a model with this engine. -/
def eagerAttempt : Attempt :=
  ⟨eagerEngine, Model.twoAdapters, .named "spark".toList, false, folderedPath "models" "m.sql"⟩

/-- A model with two calls of the function that the engine reads. -/
def twoCallsTree : Tree :=
  folderedTree [("models", "m.sql", "SELECT COLLECT_LIST(x), collect_list(x)".toList)]

/-- The first of two calls is replaced, and the other one never is. -/
theorem plain_model_is_converted_once_eager :
    eagerAttempt.run.treeAfter twoCallsTree =
        folderedTree [("models", "m.sql",
          "SELECT ".toList ++ collectCall ++ ", collect_list(x)".toList)] ∧
      afterAll (eagerAttempt.run.treeAfter twoCallsTree) [eagerAttempt, eagerAttempt] =
        eagerAttempt.run.treeAfter twoCallsTree := by
  have hfirst : eagerAttempt.run.treeAfter twoCallsTree =
      folderedTree [("models", "m.sql",
        "SELECT ".toList ++ collectCall ++ ", collect_list(x)".toList)] := by
    decide +kernel
  have hmodel : twoCallsTree.readText? eagerAttempt.path =
      some "SELECT COLLECT_LIST(x), collect_list(x)".toList := by
    decide +kernel
  have hchanges : (eagerAttempt.run.treeAfter twoCallsTree).read eagerAttempt.path ≠
      twoCallsTree.read eagerAttempt.path := by
    rw [hfirst]
    decide +kernel
  have hstays (others : List Attempt) :
      eagerAttempt.run.treeAfter (afterAll (eagerAttempt.run.treeAfter twoCallsTree) others) =
        afterAll (eagerAttempt.run.treeAfter twoCallsTree) others :=
    (plain_model_is_converted_once hmodel (by decide) hchanges others rfl).2.1
  refine ⟨hfirst, ?_⟩
  rw [afterAll, List.foldl_cons, List.foldl_cons, List.foldl_nil]
  exact (congrArg eagerAttempt.run.treeAfter (hstays [])).trans (hstays [])

end PortableSql.Project

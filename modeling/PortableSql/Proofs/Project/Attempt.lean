import PortableSql.Proofs.Project.Prediction

/-!
# Converting one file

Converting a file reads its text, converts it and stores the result if it differs. `Outcome` lists
all that can come of it. So a file keeps its text when any file is converted, unless its own text is
converted to another one, and no conversion changes the folders. What each conversion keeps is kept
by several of them, whether or not they end with a fault.
-/

namespace PortableSql

open Sql

namespace Action

variable {α β : Type} {holds : Tree → Prop}

/-- Work that keeps what holds of a tree, also where it ends with a fault. -/
def Keeps (holds : Tree → Prop) (action : Action α) : Prop :=
  ∀ tree, holds tree → holds (action.treeAfter tree)

/-- Two steps that keep what holds. -/
theorem Keeps.bind {first : Action α} {next : α → Action β} (hfirst : first.Keeps holds)
    (hnext : ∀ a, (next a).Keeps holds) : (first >>= next).Keeps holds := by
  intro tree htree
  cases hanswer : first.answer tree with
  | error fault =>
    rw [(run_bind_of_error hanswer next).2]
    exact hfirst tree htree
  | ok a =>
    rw [(run_bind_of_ok hanswer next).2]
    exact hnext a _ (hfirst tree htree)

/-- An answer that does not look at the tree comes first. -/
theorem Keeps.ofExcept_bind {known : Except Fault α} {next : α → Action β}
    (hnext : ∀ a, known = .ok a → (next a).Keeps holds) :
    (Action.ofExcept known >>= next).Keeps holds := by
  cases known with
  | error fault => exact fun _ htree => htree
  | ok a => exact hnext a rfl

/-- Steps that keep what holds, for each item of a list. -/
theorem Keeps.mapM {step : α → Action β} (hstep : ∀ a, (step a).Keeps holds) (items : List α) :
    (items.mapM step).Keeps holds := by
  induction items with
  | nil => exact fun _ htree => htree
  | cons a items ih =>
    rw [List.mapM_cons]
    exact (hstep a).bind fun _ => ih.bind fun _ _ htree => htree

end Action

namespace Project

/-- A conversion of one file. -/
structure Attempt where
  /-- What reads the SQL. -/
  engine : Engine
  /-- The adapters to convert for. -/
  adapters : Value
  /-- The dialect of the model. -/
  primary : Dialect
  /-- Whether the result is not stored. -/
  dryRun : Bool
  /-- Where the model is. -/
  path : Path

/-- Converts the file. -/
def Attempt.run (attempt : Attempt) : Action Bool :=
  convertFile attempt.engine attempt.adapters attempt.primary attempt.dryRun attempt.path

/-- What the text of a model is converted to. -/
def Attempt.convert (attempt : Attempt) (model : Text) : Except Fault Text :=
  Model.convert attempt.engine attempt.adapters attempt.primary model

/-- All that can come of converting a file: the answer and the tree after it. -/
inductive Outcome (attempt : Attempt) (tree : Tree) : Except Fault Bool → Tree → Prop
  /-- There is no text to read. -/
  | unread (hmodel : tree.readText? attempt.path = none) : Outcome attempt tree (.ok false) tree
  /-- The model cannot be converted. -/
  | failed {model : Text} {fault : Fault} (hmodel : tree.readText? attempt.path = some model)
      (hconvert : attempt.convert model = .error fault) : Outcome attempt tree (.error fault) tree
  /-- The model stays as it is. -/
  | kept {model : Text} (hmodel : tree.readText? attempt.path = some model)
      (hconvert : attempt.convert model = .ok model) : Outcome attempt tree (.ok false) tree
  /-- The model would change. -/
  | foretold {model converted : Text} (hmodel : tree.readText? attempt.path = some model)
      (hconvert : attempt.convert model = .ok converted) (hchanged : converted ≠ model)
      (hdry : attempt.dryRun = true) : Outcome attempt tree (.ok true) tree
  /-- The converted model is stored. -/
  | stored {model converted : Text} {location : Location}
      (hmodel : tree.readText? attempt.path = some model)
      (hconvert : attempt.convert model = .ok converted) (hchanged : converted ≠ model)
      (hlocate : tree.locate attempt.path = .ok location)
      (hopen : tree.refuses location = false) (hdry : attempt.dryRun = false) :
      Outcome attempt tree (.ok true) (tree.put location (.file (.text converted)))
  /-- The converted model cannot be written. -/
  | refused {model converted : Text} {location : Location}
      (hmodel : tree.readText? attempt.path = some model)
      (hconvert : attempt.convert model = .ok converted) (hchanged : converted ≠ model)
      (hlocate : tree.locate attempt.path = .ok location)
      (hlocked : tree.refuses location = true) (hdry : attempt.dryRun = false) :
      Outcome attempt tree (.error (.notPermitted attempt.path.shown)) tree

/-- Converting a file has one of these outcomes. -/
theorem Attempt.outcome (attempt : Attempt) (tree : Tree) :
    Outcome attempt tree (attempt.run.answer tree) (attempt.run.treeAfter tree) := by
  have hget : (get : Action Tree).answer tree = .ok tree := rfl
  have hstay : (get : Action Tree).treeAfter tree = tree := rfl
  unfold Attempt.run convertFile
  rw [(Action.run_bind_of_ok hget _).1, (Action.run_bind_of_ok hget _).2, hstay]
  cases hmodel : tree.readText? attempt.path with
  | none => exact .unread hmodel
  | some model =>
    cases hconvert : attempt.convert model with
    | error fault =>
      have hfails : (Action.ofExcept (Model.convert attempt.engine attempt.adapters attempt.primary
          model)).answer tree = .error fault := hconvert
      dsimp only
      rw [(Action.run_bind_of_error hfails _).1, (Action.run_bind_of_error hfails _).2]
      exact .failed hmodel hconvert
    | ok converted =>
      have hok : (Action.ofExcept (Model.convert attempt.engine attempt.adapters attempt.primary
          model)).answer tree = .ok converted := hconvert
      have hread : (Action.ofExcept (Model.convert attempt.engine attempt.adapters attempt.primary
          model)).treeAfter tree = tree := rfl
      dsimp only
      rw [(Action.run_bind_of_ok hok _).1, (Action.run_bind_of_ok hok _).2, hread]
      by_cases hsame : converted = model
      · rw [if_pos (beq_iff_eq.mpr hsame)]
        exact .kept hmodel (hsame ▸ hconvert)
      · rw [if_neg (by simpa using hsame)]
        cases hdry : attempt.dryRun with
        | true => exact .foretold hmodel hconvert hsame hdry
        | false =>
          obtain ⟨location, chars, hlocate, hlookup, -⟩ := Tree.readText?_eq_some.mp hmodel
          have hplace : tree.lookup location ≠ some .folder := by simp [hlookup]
          obtain ⟨hstored, hfailed⟩ := Action.run_write attempt.path converted tree
          simp only [Bool.not_false, if_true]
          cases hrefuses : tree.refuses location with
          | false =>
            obtain ⟨hanswer, hafter⟩ := hstored location
              (Tree.locateFile_eq_ok.mpr ⟨hlocate, hplace, hrefuses⟩)
            rw [(Action.run_bind_of_ok hanswer _).1, (Action.run_bind_of_ok hanswer _).2, hafter]
            exact .stored hmodel hconvert hsame hlocate hrefuses hdry
          | true =>
            obtain ⟨hanswer, hafter⟩ := hfailed (.notPermitted attempt.path.shown)
              (Tree.locateFile_eq_refused hlocate hplace hrefuses)
            rw [(Action.run_bind_of_error hanswer _).1, (Action.run_bind_of_error hanswer _).2,
              hafter]
            exact .refused hmodel hconvert hsame hlocate hrefuses hdry

/-- Converting a file leaves the tree as it is, or it puts the converted text in the place of a
text. -/
theorem Attempt.tree_after (attempt : Attempt) (tree : Tree) :
    attempt.run.treeAfter tree = tree ∨ ∃ location chars converted,
      tree.locate attempt.path = .ok location ∧
      tree.lookup location = some (.file (.text chars)) ∧
      attempt.convert (Text.normalizeNewlines chars) = .ok converted ∧
      converted ≠ Text.normalizeNewlines chars ∧
      attempt.run.treeAfter tree = tree.put location (.file (.text converted)) := by
  have houtcome := attempt.outcome tree
  generalize attempt.run.answer tree = answer, attempt.run.treeAfter tree = after at houtcome ⊢
  cases houtcome with
  | unread | failed | kept | foretold | refused => exact .inl rfl
  | stored hmodel hconvert hchanged hlocate =>
    obtain ⟨chars, hlookup, rfl⟩ := Tree.lookup_of_readText? hmodel hlocate
    exact .inr ⟨_, chars, _, hlocate, hlookup, hconvert, hchanged, rfl⟩

/-- Converting a file leaves the folders as they are. -/
theorem Attempt.sameFolders (attempt : Attempt) (tree : Tree) :
    tree.SameFolders (attempt.run.treeAfter tree) := by
  rcases attempt.tree_after tree with hkept | ⟨location, chars, _, -, hlookup, -, -, hput⟩
  · rw [hkept]
    exact .refl tree
  · rw [hput]
    exact Tree.sameFolders_put_file (by simp [hlookup]) _

/-- A place keeps its entry when a file is converted, unless it holds a text that is converted to
another one: then it holds that one. -/
theorem Attempt.entry_after (attempt : Attempt) (tree : Tree) (location : Location) :
    (attempt.run.treeAfter tree).lookup location = tree.lookup location ∨
      ∃ chars converted, tree.lookup location = some (.file (.text chars)) ∧
        attempt.convert (Text.normalizeNewlines chars) = .ok converted ∧
        converted ≠ Text.normalizeNewlines chars ∧
        (attempt.run.treeAfter tree).lookup location = some (.file (.text converted)) := by
  rcases attempt.tree_after tree with
    hkept | ⟨other, chars, converted, -, hlookup, hconvert, hchanged, hput⟩
  · exact .inl (by rw [hkept])
  · rw [hput]
    by_cases hplace : location = other
    · subst hplace
      by_cases hfree : Tree.standing? location = none
      · exact .inr ⟨chars, converted, hlookup, hconvert, hchanged,
          by rw [Tree.lookup_put hfree, if_pos rfl]⟩
      · exact .inl (by rw [Tree.put_standing hfree])
    · exact .inl (Tree.lookup_put_of_ne hplace)

/-- The same for a place that holds a text. -/
theorem Attempt.file_after (attempt : Attempt) {tree : Tree} {location : Location} {chars : Text}
    (hfile : tree.lookup location = some (.file (.text chars))) :
    ∃ text, (attempt.run.treeAfter tree).lookup location = some (.file (.text text)) ∧
      (text = chars ∨ attempt.convert (Text.normalizeNewlines chars) = .ok text ∧
        text ≠ Text.normalizeNewlines chars) := by
  rcases attempt.entry_after tree location with
    hkept | ⟨held, converted, hheld, hconvert, hchanged, hstored⟩
  · exact ⟨chars, hkept.trans hfile, .inl rfl⟩
  · rw [hfile, Option.some.injEq, Entry.file.injEq, Content.text.injEq] at hheld
    subst hheld
    exact ⟨converted, hstored, .inr ⟨hconvert, hchanged⟩⟩

/-- The tree after several conversions. -/
def afterAll (tree : Tree) (attempts : List Attempt) : Tree :=
  attempts.foldl (fun tree attempt => attempt.run.treeAfter tree) tree

/-- What every conversion keeps is kept by several. -/
theorem afterAll_keeps (holds : Tree → Prop)
    (hkeeps : ∀ attempt : Attempt, attempt.run.Keeps holds) (attempts : List Attempt) {tree : Tree}
    (htree : holds tree) : holds (afterAll tree attempts) := by
  induction attempts generalizing tree with
  | nil => exact htree
  | cons attempt attempts ih => exact ih (hkeeps attempt tree htree)

end Project

end PortableSql

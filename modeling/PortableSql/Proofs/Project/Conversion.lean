import PortableSql.Proofs.Model.Insertion
import PortableSql.Proofs.Project.Frame

/-!
# What converting a project changes

Converting visits the models one after the other, and later models are read in the tree that the
earlier ones left. The macro calls that are put into models are listed along the way, each with the
model as it was read. Converting changes nothing but the files that such a macro call is put into.
-/

namespace PortableSql.Project

open Sql

/-- A macro call that is put into a model. -/
structure Insertion where
  /-- Where the model is. -/
  path : Path
  /-- The model as it was before. -/
  model : Text
  /-- The macro call. -/
  call : Text
deriving DecidableEq

/-- What is noted before each of several steps, in the tree that the steps before it left. -/
def trace {α β γ : Type} (step : α → Action β) (note : Tree → α → List γ) :
    Tree → List α → List γ
  | _, [] => []
  | tree, a :: rest => note tree a ++ trace step note ((step a).treeAfter tree) rest

/-- The macro calls that are put into a file. -/
def fileInsertions (engine : Engine) (adapters : Value) (primary : Dialect) (tree : Tree)
    (path : Path) : List Insertion :=
  match tree.readText? path with
  | none => []
  | some model =>
    (Model.insertions engine adapters primary model).map fun call => ⟨path, model, call⟩

/-- The macro calls that are put into the models below a path. -/
def folderInsertions (engine : Engine) (adapters : Value) (primary : Dialect) (tree : Tree)
    (path : Path) : List Insertion :=
  match tree.models path with
  | .error _ => []
  | .ok models =>
    trace (convertFile engine adapters primary false) (fileInsertions engine adapters primary)
      tree models

/-- The macro calls that are put into the models of a project. -/
def insertions (engine : Engine) (settings : Settings) (tree : Tree) : List Insertion :=
  match settings.adapters.first with
  | .error _ => []
  | .ok primary =>
    trace (convertFolder engine settings.adapters (.ofValue primary) false)
      (folderInsertions engine settings.adapters (.ofValue primary)) tree settings.modelPaths

/-! ## Changes -/

/-- Between two trees nothing changes but the files that macro calls are put into. -/
structure Leaves (before after : Tree) (inserted : List Insertion) : Prop where
  folders : before.SameFolders after
  others : ∀ location, (∀ insertion ∈ inserted, before.locate insertion.path ≠ .ok location) →
    after.lookup location = before.lookup location

/-- Nothing changes in a tree that stays. -/
theorem Leaves.refl (tree : Tree) (inserted : List Insertion) : Leaves tree tree inserted :=
  ⟨.refl tree, fun _ _ => rfl⟩

/-- Changes one after the other. -/
theorem Leaves.append {first second third : Tree} {earlier later : List Insertion}
    (hearlier : Leaves first second earlier) (hlater : Leaves second third later) :
    Leaves first third (earlier ++ later) where
  folders := hearlier.folders.trans hlater.folders
  others location hnone := by
    have hsecond : ∀ insertion ∈ later, second.locate insertion.path ≠ .ok location := by
      intro insertion hinsertion hlocate
      exact hnone insertion (List.mem_append_right _ hinsertion)
        (hearlier.folders.locate_iff.mpr hlocate)
    rw [hlater.others location hsecond, hearlier.others location fun insertion hinsertion =>
      hnone insertion (List.mem_append_left _ hinsertion)]

section Converting

variable {engine : Engine} {adapters : Value} {primary : Dialect}

/-- A file that converting leaves as it is: it has no text, or a text that is its own conversion. -/
def Settled (engine : Engine) (adapters : Value) (primary : Dialect) (tree : Tree) (path : Path) :
    Prop :=
  ∀ model, tree.readText? path = some model →
    Model.convert engine adapters primary model = .ok model

/-- All that converting a file can do: it leaves the file as it is, or it writes the conversion of
its text. -/
theorem convertFile_yields {path : Path} {before after : Tree} {changed : Bool} :
    Yields (convertFile engine adapters primary false path) before changed after ↔
      (Settled engine adapters primary before path ∧ changed = false ∧ after = before) ∨
        ∃ model converted location, before.readText? path = some model ∧
          Model.convert engine adapters primary model = .ok converted ∧ converted ≠ model ∧
          before.refuses location = false ∧ before.locate path = .ok location ∧ changed = true ∧
          after = before.put location (.file (.text converted)) := by
  unfold convertFile
  constructor
  · intro hyields
    obtain ⟨tree, between, hget, hyields⟩ := yields_bind.mp hyields
    obtain ⟨rfl, rfl⟩ := yields_get.mp hget
    split at hyields
    next hnone =>
      obtain ⟨rfl, rfl⟩ := yields_pure.mp hyields
      exact .inl ⟨fun model hmodel => by simp [hnone] at hmodel, rfl, rfl⟩
    next model hmodel =>
      obtain ⟨converted, between, hanswer, hyields⟩ := yields_bind.mp hyields
      obtain ⟨hconvert, rfl⟩ := yields_answer.mp hanswer
      split at hyields
      next hsame =>
        obtain ⟨rfl, rfl⟩ := yields_pure.mp hyields
        refine .inl ⟨fun other hother => ?_, rfl, rfl⟩
        obtain rfl := Option.some.inj (hmodel.symm.trans hother)
        rw [hconvert, beq_iff_eq.mp hsame]
      next hchanged =>
        simp only [Bool.not_false, if_true] at hyields
        obtain ⟨u, written, hwrite, hyields⟩ := yields_bind.mp hyields
        obtain ⟨rfl, rfl⟩ := yields_pure.mp hyields
        obtain ⟨location, hlocate, -, hopen, rfl⟩ := Action.yields_write.mp hwrite
        exact .inr ⟨model, converted, location, hmodel, hconvert, by simpa using hchanged, hopen,
          hlocate, rfl, rfl⟩
  · intro houtcome
    refine yields_bind.mpr ⟨before, before, yields_get.mpr ⟨rfl, rfl⟩, ?_⟩
    rcases houtcome with ⟨hsettled, rfl, rfl⟩ | ⟨model, converted, location, hmodel, hconvert,
      hchanged, hopen, hlocate, rfl, rfl⟩
    · cases hmodel : after.readText? path with
      | none => exact yields_pure.mpr ⟨rfl, rfl⟩
      | some model =>
        refine yields_bind.mpr ⟨model, after, yields_answer.mpr ⟨hsettled model hmodel, rfl⟩, ?_⟩
        rw [if_pos (beq_self_eq_true model)]
        exact yields_pure.mpr ⟨rfl, rfl⟩
    · rw [hmodel]
      refine yields_bind.mpr ⟨converted, before, yields_answer.mpr ⟨hconvert, rfl⟩, ?_⟩
      rw [if_neg (by simpa using hchanged)]
      have hplace : before.lookup location ≠ some .folder := by
        obtain ⟨chars, hlookup, -⟩ := Tree.lookup_of_readText? hmodel hlocate
        simp [hlookup]
      refine yields_bind.mpr ⟨(), _, ?_, yields_pure.mpr ⟨rfl, rfl⟩⟩
      exact Action.yields_write.mpr ⟨location, hlocate, hplace, hopen, rfl⟩

/-- Converting a file changes nothing else. -/
theorem convertFile_leaves {path : Path} {before after : Tree} {changed : Bool}
    (hyields : Yields (convertFile engine adapters primary false path) before changed after) :
    Leaves before after (fileInsertions engine adapters primary before path) := by
  rcases convertFile_yields.mp hyields with ⟨-, -, rfl⟩ | ⟨model, converted, location, hmodel,
    hconvert, hchanged, -, hlocate, -, rfl⟩
  · exact .refl _ _
  · have hplace : before.lookup location ≠ some .folder := by
      obtain ⟨chars, hlookup, -⟩ := Tree.lookup_of_readText? hmodel hlocate
      simp [hlookup]
    refine ⟨Tree.sameFolders_put_file hplace _, fun other hnone => ?_⟩
    refine Tree.lookup_put_of_ne ?_
    rintro rfl
    cases hinserted : Model.insertions engine adapters primary model with
    | nil => exact hchanged (Model.convert_of_insertions_nil hinserted hconvert)
    | cons call calls =>
      refine hnone ⟨path, model, call⟩ ?_ hlocate
      simp [fileInsertions, hmodel, hinserted]

/-- Converting files changes nothing else. -/
theorem convertFiles_leaves {paths changed : List Path} {before after : Tree}
    (hyields : Yields (convertFiles engine adapters primary false paths) before changed after) :
    Leaves before after (trace (convertFile engine adapters primary false)
      (fileInsertions engine adapters primary) before paths) := by
  induction paths generalizing before changed with
  | nil =>
    obtain ⟨-, rfl⟩ := yields_pure.mp hyields
    exact .refl _ _
  | cons path paths ih =>
    unfold convertFiles at hyields
    obtain ⟨changes, between, hfile, hyields⟩ := yields_bind.mp hyields
    obtain ⟨rest, last, hrest, hyields⟩ := yields_bind.mp hyields
    obtain ⟨-, rfl⟩ := yields_pure.mp hyields
    rw [trace, Action.treeAfter_of_yields hfile]
    exact (convertFile_leaves hfile).append (ih hrest)

/-- Converting the models below a path changes nothing else. -/
theorem convertFolder_leaves {path : Path} {changed : List Path} {before after : Tree}
    (hyields : Yields (convertFolder engine adapters primary false path) before changed after) :
    Leaves before after (folderInsertions engine adapters primary before path) := by
  unfold convertFolder at hyields
  obtain ⟨tree, between, hget, hyields⟩ := yields_bind.mp hyields
  obtain ⟨rfl, rfl⟩ := yields_get.mp hget
  obtain ⟨models, between, hanswer, hyields⟩ := yields_bind.mp hyields
  obtain ⟨hmodels, rfl⟩ := yields_answer.mp hanswer
  simp only [folderInsertions, hmodels]
  exact convertFiles_leaves hyields

/-- Converting the models below several paths changes nothing else. -/
theorem convertFolders_leaves {paths : List Path} {changed : List (List Path)}
    {before after : Tree}
    (hyields : Yields (paths.mapM (convertFolder engine adapters primary false)) before changed
      after) :
    Leaves before after (trace (convertFolder engine adapters primary false)
      (folderInsertions engine adapters primary) before paths) := by
  induction paths generalizing before changed with
  | nil =>
    obtain ⟨-, rfl⟩ := yields_pure.mp hyields
    exact .refl _ _
  | cons path paths ih =>
    rw [List.mapM_cons] at hyields
    obtain ⟨first, between, hfolder, hyields⟩ := yields_bind.mp hyields
    obtain ⟨rest, last, hrest, hyields⟩ := yields_bind.mp hyields
    obtain ⟨-, rfl⟩ := yields_pure.mp hyields
    rw [trace, Action.treeAfter_of_yields hfolder]
    exact (convertFolder_leaves hfolder).append (ih hrest)

end Converting

/-- Converting a project changes nothing but the models that macro calls are put into. -/
theorem convert_leaves {engine : Engine} {settings : Settings} {changed : List Path}
    {before after : Tree}
    (hyields : Yields (convert engine settings false) before changed after) :
    Leaves before after (insertions engine settings before) := by
  unfold convert at hyields
  obtain ⟨primary, between, hanswer, hyields⟩ := yields_bind.mp hyields
  obtain ⟨hprimary, rfl⟩ := yields_answer.mp hanswer
  obtain ⟨lists, last, hfolders, hyields⟩ := yields_bind.mp hyields
  obtain ⟨-, rfl⟩ := yields_pure.mp hyields
  simp only [insertions, hprimary]
  exact convertFolders_leaves hfolders

/-! ## Where macro calls come from -/

/-- What is noted in all trees is noted along the way. -/
theorem forall_mem_trace {α β γ : Type} {step : α → Action β} {note : Tree → α → List γ}
    {P : γ → Prop} (hnote : ∀ tree a, ∀ c ∈ note tree a, P c) (tree : Tree) (items : List α) :
    ∀ c ∈ trace step note tree items, P c := by
  induction items generalizing tree with
  | nil => simp [trace]
  | cons a items ih =>
    intro c hc
    rw [trace, List.mem_append] at hc
    rcases hc with hc | hc
    · exact hnote tree a c hc
    · exact ih _ c hc

/-- A macro call that is put into a project is put into the model that it is listed with. -/
theorem mem_insertions_model {engine : Engine} {settings : Settings} {tree : Tree}
    {primary : Value} (hprimary : settings.adapters.first = .ok primary) {insertion : Insertion}
    (hmem : insertion ∈ insertions engine settings tree) :
    insertion.call ∈
      Model.insertions engine settings.adapters (.ofValue primary) insertion.model := by
  have hfile (tree : Tree) (path : Path) : ∀ other ∈ fileInsertions engine settings.adapters
      (.ofValue primary) tree path, other.call ∈
        Model.insertions engine settings.adapters (.ofValue primary) other.model := by
    intro other hother
    unfold fileInsertions at hother
    split at hother
    · cases hother
    · obtain ⟨call, hcall, rfl⟩ := List.mem_map.mp hother
      exact hcall
  have hfolder (tree : Tree) (path : Path) : ∀ other ∈ folderInsertions engine settings.adapters
      (.ofValue primary) tree path, other.call ∈
        Model.insertions engine settings.adapters (.ofValue primary) other.model := by
    intro other hother
    unfold folderInsertions at hother
    split at hother
    · cases hother
    · exact forall_mem_trace hfile _ _ other hother
  simp only [insertions, hprimary] at hmem
  exact forall_mem_trace hfolder _ _ insertion hmem

end PortableSql.Project

import PortableSql.Proofs.Project.Conversion

/-!
# The models that are visited

Converting a project lists the models below each path when it comes to that path, in a tree that has
been changed by then. Since only files take the place of files, the lists are those of the tree at
the start. So converting a project is converting the models of one list, one after the other.
-/

namespace PortableSql

open Sql

/-- The models below several paths, in the order of the paths. -/
def Tree.visits (tree : Tree) (paths : List Path) : Except Fault (List Path) :=
  (paths.mapM tree.models).map List.flatten

/-- The models that are visited are those below the paths, path by path. -/
theorem Tree.visits_eq_ok {tree : Tree} {paths visited : List Path} :
    tree.visits paths = .ok visited ↔
      ∃ lists, paths.mapM tree.models = .ok lists ∧ lists.flatten = visited := by
  unfold Tree.visits
  cases paths.mapM tree.models <;> simp [Except.map]

/-- The models below the first path are visited first. -/
theorem Tree.visits_cons {tree : Tree} {path : Path} {paths visited : List Path} :
    tree.visits (path :: paths) = .ok visited ↔
      ∃ first rest, tree.models path = .ok first ∧ tree.visits paths = .ok rest ∧
        visited = first ++ rest := by
  unfold Tree.visits
  rw [List.mapM_cons]
  cases tree.models path with
  | error fault => simp [bind, Except.bind, Except.map]
  | ok first =>
    cases paths.mapM tree.models with
    | error fault => simp [bind, Except.bind, Except.map]
    | ok rest => simp [bind, Except.bind, Except.map, pure, Except.pure, eq_comm]

/-- Trees with the same outline have the same models visited. -/
theorem Tree.visits_of_outline {first second : Tree} (hsame : first.outline = second.outline)
    (paths : List Path) : first.visits paths = second.visits paths := by
  unfold Tree.visits
  rw [funext (Tree.models_of_outline hsame)]

/-- Whether the place that a path leads to can be written. -/
def Tree.permits (tree : Tree) (path : Path) : Bool :=
  match tree.locate path with
  | .ok location => !tree.refuses location
  | .error _ => true

/-- A path is permitted if nothing is refused where it leads. -/
theorem Tree.permits_of_locate {tree : Tree} {path : Path} {location : Location}
    (hlocate : tree.locate path = .ok location) :
    tree.permits path = true ↔ tree.refuses location = false := by
  simp [Tree.permits, hlocate]

namespace Project

section Converting

variable {engine : Engine} {adapters : Value} {primary : Dialect}

/-! ## Frames -/

/-- Two paths lead to the same place. -/
def SamePlace (tree : Tree) (first second : Path) : Prop :=
  ∃ location, tree.locate first = .ok location ∧ tree.locate second = .ok location

/-- At the same place the same text is read. -/
theorem SamePlace.readText? {tree : Tree} {first second : Path}
    (hsame : SamePlace tree first second) : tree.readText? first = tree.readText? second := by
  obtain ⟨location, hfirst, hsecond⟩ := hsame
  refine Option.ext fun model => ?_
  rw [Tree.readText?_eq_some, Tree.readText?_eq_some, hfirst, hsecond]

/-- Between two trees nothing changes but the content of files that the given paths lead to. -/
structure Rewrites (before after : Tree) (changed : List Path) : Prop where
  outline : after.outline = before.outline
  others : ∀ location, (∀ path ∈ changed, before.locate path ≠ .ok location) →
    after.lookup location = before.lookup location
  locked : after.locked = before.locked

/-- A tree is left as it is without changes. -/
theorem Rewrites.refl (tree : Tree) : Rewrites tree tree [] :=
  ⟨rfl, fun _ _ => rfl, rfl⟩

/-- Paths lead where they led before. -/
theorem Rewrites.locate_iff {before after : Tree} {changed : List Path}
    (hrewrites : Rewrites before after changed) {path : Path} {location : Location} :
    before.locate path = .ok location ↔ after.locate path = .ok location :=
  (Tree.sameFolders_of_outline hrewrites.outline.symm).locate_iff

/-- Changes one after the other. -/
theorem Rewrites.append {first second third : Tree} {earlier later : List Path}
    (hearlier : Rewrites first second earlier) (hlater : Rewrites second third later) :
    Rewrites first third (earlier ++ later) where
  outline := hlater.outline.trans hearlier.outline
  others location hnone := by
    obtain ⟨hfirst, hsecond⟩ := List.forall_mem_append.mp hnone
    rw [hlater.others location fun path hpath => hearlier.locate_iff.not.mp (hsecond path hpath),
      hearlier.others location hfirst]
  locked := hlater.locked.trans hearlier.locked

/-- What could not be written before cannot be written, and nothing else. -/
theorem Rewrites.refuses {before after : Tree} {changed : List Path}
    (hrewrites : Rewrites before after changed) (location : Location) :
    after.refuses location = before.refuses location :=
  Tree.refuses_of_outline hrewrites.outline hrewrites.locked location

/-- The same paths are permitted as before. -/
theorem Rewrites.permits {before after : Tree} {changed : List Path}
    (hrewrites : Rewrites before after changed) : after.permits = before.permits := by
  funext path
  cases hlocate : before.locate path with
  | ok location =>
    simp only [Tree.permits, hlocate, hrewrites.locate_iff.mp hlocate, hrewrites.refuses]
  | error obstacle =>
    cases hafter : after.locate path with
    | ok location =>
      rw [hrewrites.locate_iff.mpr hafter] at hlocate
      cases hlocate
    | error other => simp [Tree.permits, hlocate, hafter]

/-- A file is read as before, unless one of the paths leads to it. -/
theorem Rewrites.readText? {before after : Tree} {changed : List Path}
    (hrewrites : Rewrites before after changed) {path : Path}
    (hother : ∀ location, before.locate path = .ok location →
      ∀ changedPath ∈ changed, before.locate changedPath ≠ .ok location) :
    after.readText? path = before.readText? path :=
  (Tree.readText?_congr (fun _ => hrewrites.locate_iff) fun location hlocate =>
    (hrewrites.others location (hother location hlocate)).symm).symm

/-- No two of the paths lead to the same place. -/
def Apart (tree : Tree) (paths : List Path) : Prop :=
  paths.Pairwise fun first second => ¬SamePlace tree first second

/-- Paths stay apart while files are rewritten. -/
theorem Apart.kept {before after : Tree} {changed paths : List Path} (hapart : Apart before paths)
    (hrewrites : Rewrites before after changed) : Apart after paths := by
  refine hapart.imp fun hne hsame => hne ?_
  obtain ⟨location, hfirst, hsecond⟩ := hsame
  exact ⟨location, hrewrites.locate_iff.mpr hfirst, hrewrites.locate_iff.mpr hsecond⟩

/-- Files that are rewritten elsewhere are read as before. -/
theorem Rewrites.readText?_of_apart {before after : Tree} {changed paths : List Path}
    (hrewrites : Rewrites before after changed)
    (hapart : ∀ path ∈ changed, ∀ other ∈ paths, ¬SamePlace before path other) :
    ∀ other ∈ paths, after.readText? other = before.readText? other := by
  intro other hother
  refine hrewrites.readText? fun location hlocate path hpath hsame => ?_
  exact hapart path hpath other hother ⟨location, hsame, hlocate⟩

/-- More paths leave less to be kept. -/
theorem Rewrites.mono {before after : Tree} {changed paths : List Path}
    (hrewrites : Rewrites before after changed) (hsubset : changed ⊆ paths) :
    Rewrites before after paths :=
  ⟨hrewrites.outline, fun location hnone =>
    hrewrites.others location fun path hpath => hnone path (hsubset hpath), hrewrites.locked⟩

/-- A text that takes the place of the one that a path leads to. -/
theorem rewrites_put {tree : Tree} (hunique : tree.IsUnambiguous) {path : Path} {model : Text}
    {location : Location} (hmodel : tree.readText? path = some model)
    (hlocate : tree.locate path = .ok location) (content : Content) :
    Rewrites tree (tree.put location (.file content)) [path] := by
  obtain ⟨chars, hlookup, -⟩ := Tree.lookup_of_readText? hmodel hlocate
  refine ⟨Tree.outline_put_file hunique hlookup _, fun other hnone => ?_, Tree.locked_put _ _ _⟩
  refine Tree.lookup_put_of_ne ?_
  rintro rfl
  exact hnone path List.mem_cons_self hlocate

/-- Converting a file rewrites this file at most. -/
theorem convertFile_rewrites {path : Path} {before after : Tree} {changed : Bool}
    (hunique : before.IsUnambiguous)
    (hyields : Yields (convertFile engine adapters primary false path) before changed after) :
    Rewrites before after (if changed then [path] else []) := by
  rcases convertFile_yields.mp hyields with ⟨-, rfl, rfl⟩ | ⟨model, converted, location, hmodel, -,
    -, -, hlocate, rfl, rfl⟩
  · exact .refl after
  · exact rewrites_put hunique hmodel hlocate _

/-- Converting a list of files is converting the first and then the others. -/
theorem convertFiles_cons {path : Path} {paths changed : List Path} {before after : Tree} :
    Yields (convertFiles engine adapters primary false (path :: paths)) before changed after ↔
      ∃ changes between rest,
        Yields (convertFile engine adapters primary false path) before changes between ∧
        Yields (convertFiles engine adapters primary false paths) between rest after ∧
        changed = (if changes then [path] else []) ++ rest := by
  rw [convertFiles, yields_bind]
  refine exists_congr fun changes => exists_congr fun between => ?_
  rw [yields_bind]
  constructor
  · rintro ⟨hfile, rest, last, hrest, hyields⟩
    obtain ⟨rfl, rfl⟩ := yields_pure.mp hyields
    exact ⟨rest, hfile, hrest, by cases changes <;> rfl⟩
  · rintro ⟨rest, hfile, hrest, rfl⟩
    exact ⟨hfile, rest, after, hrest, yields_pure.mpr ⟨by cases changes <;> rfl, rfl⟩⟩

/-- Converting files rewrites those that it returns. -/
theorem convertFiles_rewrites {paths changed : List Path} {before after : Tree}
    (hunique : before.IsUnambiguous)
    (hyields : Yields (convertFiles engine adapters primary false paths) before changed after) :
    Rewrites before after changed := by
  induction paths generalizing before changed with
  | nil =>
    obtain ⟨rfl, rfl⟩ := yields_pure.mp hyields
    exact .refl _
  | cons path paths ih =>
    obtain ⟨changes, between, rest, hfile, hrest, rfl⟩ := convertFiles_cons.mp hyields
    have hfirst := convertFile_rewrites hunique hfile
    exact hfirst.append (ih (hunique.of_outline hfirst.outline.symm) hrest)

/-- Files can be converted in two parts. -/
theorem convertFiles_append {first second changed : List Path} {before after : Tree} :
    Yields (convertFiles engine adapters primary false (first ++ second)) before changed after ↔
      ∃ earlier between later,
        Yields (convertFiles engine adapters primary false first) before earlier between ∧
        Yields (convertFiles engine adapters primary false second) between later after ∧
        changed = earlier ++ later := by
  induction first generalizing before changed with
  | nil =>
    constructor
    · intro hyields
      exact ⟨[], before, changed, yields_pure.mpr ⟨rfl, rfl⟩, hyields, rfl⟩
    · rintro ⟨earlier, between, later, hnone, hyields, rfl⟩
      obtain ⟨rfl, rfl⟩ := yields_pure.mp hnone
      exact hyields
  | cons path first ih =>
    rw [List.cons_append, convertFiles_cons]
    constructor
    · rintro ⟨changes, middle, rest, hfile, hrest, rfl⟩
      obtain ⟨earlier, between, later, hearlier, hlater, rfl⟩ := ih.mp hrest
      exact ⟨_, between, later, convertFiles_cons.mpr ⟨changes, middle, earlier, hfile, hearlier,
        rfl⟩, hlater, by simp⟩
    · rintro ⟨earlier, between, later, hearlier, hlater, rfl⟩
      obtain ⟨changes, middle, rest, hfile, hrest, rfl⟩ := convertFiles_cons.mp hearlier
      exact ⟨changes, middle, rest ++ later, hfile, ih.mpr ⟨rest, between, later, hrest, hlater,
        rfl⟩, by simp⟩

/-- Only visited files are rewritten. -/
theorem convertFiles_subset {paths changed : List Path} {before after : Tree}
    (hyields : Yields (convertFiles engine adapters primary false paths) before changed after) :
    changed ⊆ paths := by
  induction paths generalizing before changed with
  | nil =>
    obtain ⟨rfl, -⟩ := yields_pure.mp hyields
    exact List.Subset.refl _
  | cons path paths ih =>
    obtain ⟨changes, between, rest, -, hrest, rfl⟩ := convertFiles_cons.mp hyields
    refine List.append_subset.mpr ⟨?_, List.subset_cons_of_subset _ (ih hrest)⟩
    cases changes <;> simp

/-- Converting files changes nothing exactly if all of them are settled. -/
theorem convertFiles_nil_iff {paths : List Path} {tree : Tree} :
    Yields (convertFiles engine adapters primary false paths) tree [] tree ↔
      ∀ path ∈ paths, Settled engine adapters primary tree path := by
  induction paths with
  | nil => exact iff_of_true (yields_pure.mpr ⟨rfl, rfl⟩) (by simp)
  | cons path paths ih =>
    rw [convertFiles_cons, List.forall_mem_cons, ← ih]
    constructor
    · rintro ⟨changes, between, rest, hfile, hrest, hnone⟩
      obtain ⟨hchanges, rfl⟩ := List.append_eq_nil_iff.mp hnone.symm
      rcases convertFile_yields.mp hfile with ⟨hsettled, rfl, rfl⟩ |
        ⟨_, _, _, -, -, -, -, -, rfl, -⟩
      · exact ⟨hsettled, hrest⟩
      · cases hchanges
    · rintro ⟨hsettled, hrest⟩
      exact ⟨false, tree, [], convertFile_yields.mpr (.inl ⟨hsettled, rfl, rfl⟩), hrest, rfl⟩

/-! ## Projects -/

/-- Converting folders one after the other is converting the models that are visited. -/
theorem convertFolders_yields {paths changed : List Path} {before after : Tree}
    (hunique : before.IsUnambiguous) :
    (∃ lists, Yields (paths.mapM (convertFolder engine adapters primary false)) before lists after ∧
        lists.flatten = changed) ↔
      ∃ visited, before.visits paths = .ok visited ∧
        Yields (convertFiles engine adapters primary false visited) before changed after := by
  induction paths generalizing before changed with
  | nil =>
    constructor
    · rintro ⟨lists, hnone, rfl⟩
      obtain ⟨rfl, rfl⟩ := yields_pure.mp hnone
      exact ⟨[], rfl, yields_pure.mpr ⟨rfl, rfl⟩⟩
    · rintro ⟨visited, hvisits, hyields⟩
      obtain rfl := Except.ok.inj hvisits
      obtain ⟨rfl, rfl⟩ := yields_pure.mp hyields
      exact ⟨[], yields_pure.mpr ⟨rfl, rfl⟩, rfl⟩
  | cons path paths ih =>
    rw [List.mapM_cons]
    constructor
    · rintro ⟨lists, hyields, rfl⟩
      obtain ⟨first, between, hfolder, hyields⟩ := yields_bind.mp hyields
      obtain ⟨rest, last, hrest, hyields⟩ := yields_bind.mp hyields
      obtain ⟨rfl, rfl⟩ := yields_pure.mp hyields
      obtain ⟨tree, _, hget, hfolder⟩ := yields_bind.mp hfolder
      obtain ⟨rfl, rfl⟩ := yields_get.mp hget
      obtain ⟨models, _, hanswer, hfiles⟩ := yields_bind.mp hfolder
      obtain ⟨hmodels, rfl⟩ := yields_answer.mp hanswer
      have hrewrites := convertFiles_rewrites hunique hfiles
      obtain ⟨visited, hvisits, hlater⟩ :=
        (ih (hunique.of_outline hrewrites.outline.symm)).mp ⟨rest, hrest, rfl⟩
      rw [Tree.visits_of_outline hrewrites.outline] at hvisits
      exact ⟨models ++ visited, Tree.visits_cons.mpr ⟨models, visited, hmodels, hvisits, rfl⟩,
        convertFiles_append.mpr ⟨first, between, rest.flatten, hfiles, hlater, rfl⟩⟩
    · rintro ⟨visited, hvisits, hyields⟩
      obtain ⟨models, others, hmodels, hothers, rfl⟩ := Tree.visits_cons.mp hvisits
      obtain ⟨earlier, between, later, hearlier, hlater, rfl⟩ := convertFiles_append.mp hyields
      have hrewrites := convertFiles_rewrites hunique hearlier
      rw [← Tree.visits_of_outline hrewrites.outline] at hothers
      obtain ⟨lists, hlists, rfl⟩ :=
        (ih (hunique.of_outline hrewrites.outline.symm)).mpr ⟨others, hothers, hlater⟩
      refine ⟨earlier :: lists, ?_, rfl⟩
      refine yields_bind.mpr ⟨earlier, between, ?_, yields_bind.mpr ⟨lists, after, hlists,
        yields_pure.mpr ⟨rfl, rfl⟩⟩⟩
      refine yields_bind.mpr ⟨before, before, yields_get.mpr ⟨rfl, rfl⟩, ?_⟩
      exact yields_bind.mpr ⟨models, before, yields_answer.mpr ⟨hmodels, rfl⟩, hearlier⟩

end Converting

/-- Converting a project is converting the models that are visited at its start. -/
theorem convert_yields {engine : Engine} {settings : Settings} {changed : List Path}
    {before after : Tree} (hunique : before.IsUnambiguous) :
    Yields (convert engine settings false) before changed after ↔
      ∃ primary visited, settings.adapters.first = .ok primary ∧
        before.visits settings.modelPaths = .ok visited ∧
        Yields (convertFiles engine settings.adapters (.ofValue primary) false visited) before
          changed after := by
  unfold convert
  rw [yields_bind]
  constructor
  · rintro ⟨primary, between, hanswer, hyields⟩
    obtain ⟨hprimary, rfl⟩ := yields_answer.mp hanswer
    obtain ⟨lists, last, hlists, hyields⟩ := yields_bind.mp hyields
    obtain ⟨rfl, rfl⟩ := yields_pure.mp hyields
    obtain ⟨visited, hvisits, hfiles⟩ := (convertFolders_yields hunique).mp ⟨lists, hlists, rfl⟩
    exact ⟨primary, visited, hprimary, hvisits, hfiles⟩
  · rintro ⟨primary, visited, hprimary, hvisits, hfiles⟩
    obtain ⟨lists, hlists, rfl⟩ := (convertFolders_yields hunique).mpr ⟨visited, hvisits, hfiles⟩
    refine ⟨primary, before, yields_answer.mpr ⟨hprimary, rfl⟩, ?_⟩
    exact yields_bind.mpr ⟨lists, after, hlists, yields_pure.mpr ⟨rfl, rfl⟩⟩

end Project

end PortableSql

import PortableSql.Proofs.Project.Counting
import PortableSql.Proofs.Project.Isolation

/-!
# The order of models

A scan counts calls over all models that are reached by the paths of the settings, a model as often
as it is reached. Neither the order of the paths nor that in which the files of a folder are listed
has a say in which functions are counted or how often, but it decides which of them comes first.
This order ends at the macro library, which sorts its functions by name.
-/

namespace PortableSql

open Sql

/-! ## Listings -/

namespace Tree

/-- The files with names of models in the folder that a path leads to and in the folders below it,
in the order of the entries of the tree. Below a path that leads to no folder there are none. -/
def filesBelow (tree : Tree) (path : Path) : List Path :=
  match tree.locate path with
  | .error _ => []
  | .ok folder =>
    if tree.lookup folder = some .folder then
      tree.entries.filterMap fun entry =>
        (modelName? folder (entry.1, isFolder entry.2)).map path.append
    else []

/-- The models below a path are listed, in some order. -/
def Lists (tree : Tree) (path : Path) (listing : List Path) : Prop :=
  ∃ models, tree.models path = .ok models ∧ models.Perm listing

/-- The models below a path are the files there. -/
theorem models_perm_filesBelow {tree : Tree} {path : Path} {models : List Path}
    (hmodels : tree.models path = .ok models) : models.Perm (tree.filesBelow path) := by
  unfold filesBelow
  rcases tree.models_cases path with ⟨folder, hlocate, hfolder, hlisted⟩ | ⟨-, hfault⟩ |
    ⟨hnone, -, hlisted⟩
  · obtain rfl := Except.ok.inj (hmodels.symm.trans hlisted)
    simp only [hlocate, hfolder, if_true]
    rw [← List.map_filterMap]
    exact (modelNames_perm_entries tree folder).map _
  · rw [hmodels] at hfault
    cases hfault
  · obtain rfl := Except.ok.inj (hmodels.symm.trans hlisted)
    cases hlocate : tree.locate path with
    | error obstacle => exact .nil
    | ok folder =>
      simp only [hnone folder hlocate, if_false]
      exact .nil

/-- The models below several paths are the files there. -/
theorem visits_perm_filesBelow {tree : Tree} {paths visited : List Path}
    (hvisits : tree.visits paths = .ok visited) :
    visited.Perm (paths.flatMap tree.filesBelow) := by
  induction paths generalizing visited with
  | nil =>
    obtain rfl := Except.ok.inj hvisits
    exact .nil
  | cons path paths ih =>
    obtain ⟨first, rest, hfirst, hrest, rfl⟩ := visits_cons.mp hvisits
    rw [List.flatMap_cons]
    exact (models_perm_filesBelow hfirst).append (ih hrest)

/-- Listings of the models below several paths hold the models that are visited. -/
theorem visits_perm_listings {tree : Tree} {paths visited : List Path}
    {listings : List (List Path)} (hvisits : tree.visits paths = .ok visited)
    (hlistings : List.Forall₂ tree.Lists paths listings) : visited.Perm listings.flatten := by
  induction hlistings generalizing visited with
  | nil =>
    obtain rfl := Except.ok.inj hvisits
    exact .nil
  | cons hlisting _ ih =>
    obtain ⟨models, rest, hmodels, hrest, rfl⟩ := visits_cons.mp hvisits
    obtain ⟨others, hothers, hperm⟩ := hlisting
    obtain rfl := Except.ok.inj (hmodels.symm.trans hothers)
    rw [List.flatten_cons]
    exact hperm.append (ih hrest)

/-- Paths in another order lead to the same models. -/
theorem visits_perm {tree : Tree} {paths others visited : List Path} (hperm : paths.Perm others)
    (hvisits : tree.visits paths = .ok visited) :
    ∃ again, tree.visits others = .ok again ∧ visited.Perm again := by
  obtain ⟨lists, hlists, rfl⟩ := visits_eq_ok.mp hvisits
  obtain ⟨again, hagain, hsame⟩ := mapM_perm hperm hlists
  exact ⟨again.flatten, visits_eq_ok.mpr ⟨again, hagain, rfl⟩, hsame.flatten⟩

end Tree

namespace Project

/-! ## Counts -/

/-- Counts of known functions: an entry for each of them that occurs, with the number of its
occurrences. -/
theorem mem_filter_tally_iff {names known : List Text} {name : Text} {n : Nat} :
    (name, n) ∈ ((tally names).filter fun count => known.contains count.1) ↔
      name ∈ known ∧ 0 < n ∧ n = names.count name := by
  rw [List.mem_filter, mem_tally_iff, List.contains_iff_mem, and_comm]

/-- A report names no function twice. -/
theorem nodup_filter_tally (names known : List Text) :
    (((tally names).filter fun count => known.contains count.1).map (·.1)).Nodup :=
  (nodup_tally names).sublist (List.filter_sublist.map _)

/-- Two counts of known functions are the same if each of the functions occurs as often. -/
theorem filter_tally_perm_iff {names others known : List Text} :
    ((tally names).filter fun count => known.contains count.1).Perm
        ((tally others).filter fun count => known.contains count.1) ↔
      ∀ name ∈ known, names.count name = others.count name := by
  have hnodup (names : List Text) :
      ((tally names).filter fun count => known.contains count.1).Nodup :=
    .of_map _ (nodup_filter_tally names known)
  rw [List.perm_ext_iff_of_nodup (hnodup names) (hnodup others)]
  simp only [Prod.forall, mem_filter_tally_iff]
  constructor
  · intro hsame name hname
    have hhere := hsame name (names.count name)
    have hthere := hsame name (others.count name)
    simp only [hname, true_and, and_true] at hhere hthere
    omega
  · intro hsame name n
    refine and_congr_right fun hname => ?_
    rw [hsame name hname]

/-- Names in another order have the same counts. -/
theorem filter_tally_perm {names others : List Text} (hperm : names.Perm others)
    (known : List Text) :
    ((tally names).filter fun count => known.contains count.1).Perm
      ((tally others).filter fun count => known.contains count.1) :=
  filter_tally_perm_iff.mpr fun name _ => hperm.count_eq name

/-- The library does not depend on the order of the functions. -/
theorem generate_perm {functions others : List Text} (hperm : functions.Perm others)
    (engine : Engine) (now : Macro.Moment) (settings : Settings) :
    generate engine now settings functions = generate engine now settings others := by
  have hempty : functions.isEmpty = others.isEmpty := by
    rw [Bool.eq_iff_iff, List.isEmpty_iff, List.isEmpty_iff]
    exact ⟨fun h => (h ▸ hperm).nil_eq.symm, fun h => (h ▸ hperm).eq_nil⟩
  have hlibrary (primary : Dialect) : Macro.library engine now functions settings.adapters primary =
      Macro.library engine now others settings.adapters primary := by
    unfold Macro.library
    rw [Text.sortBy_le_congr hperm]
  unfold generate
  simp only [hempty, hlibrary]

/-- In a scan that succeeds, a function has a count exactly if the adapters are reported to differ
in it and it is called in one of the files below the paths of the settings; the count is the number
of its calls in all of these files. With the paths in another order and their models listed in any
order the scan succeeds as well, with the same counts, and the same library is generated for the
functions that it finds. -/
theorem scan_counts_in_any_order {engine : Engine} {tree : Tree} {settings : Settings}
    {counts : List (Text × Nat)} (hon : settings.scanProject.isTruthy = true)
    (hscan : scan engine tree settings = .ok counts) :
    (∃ primary known found, settings.adapters.first = .ok primary ∧
      engine.differences settings.adapters = .ok known ∧
      (settings.modelPaths.flatMap tree.filesBelow).mapM (fileFunctions engine tree primary) =
        .ok found ∧
      (counts.map (·.1)).Nodup ∧
      ∀ name n, (name, n) ∈ counts ↔ name ∈ known ∧ 0 < n ∧ n = found.flatten.count name) ∧
    (∀ paths, scan engine tree { settings with modelPaths := paths } =
      scanListed engine tree settings (paths.map tree.models)) ∧
    ∀ paths listings, settings.modelPaths.Perm paths → List.Forall₂ tree.Lists paths listings →
      ∃ again, scanListed engine tree settings (listings.map .ok) = .ok again ∧
        again.Perm counts ∧
        ∀ now, generate engine now { settings with modelPaths := paths } (again.map (·.1)) =
          generate engine now settings (counts.map (·.1)) := by
  obtain ⟨primary, visited, found, known, hprimary, hvisits, hfound, hknown, rfl⟩ :=
    (scan_eq_ok hon).mp hscan
  refine ⟨?_, fun paths => scan_eq_scanListed engine tree _, fun paths listings hpaths hlistings =>
    ?_⟩
  · obtain ⟨all, hall, hsame⟩ := mapM_perm (Tree.visits_perm_filesBelow hvisits) hfound
    refine ⟨primary, known, all, hprimary, hknown, hall, nodup_filter_tally _ _, fun name n => ?_⟩
    rw [mem_filter_tally_iff, hsame.flatten.count_eq]
  · obtain ⟨others, hothers, hperm⟩ := Tree.visits_perm hpaths hvisits
    have hlisted := hperm.trans (Tree.visits_perm_listings hothers hlistings)
    obtain ⟨all, hall, hsame⟩ := mapM_perm hlisted hfound
    have hcounts := filter_tally_perm hsame.flatten.symm known
    have hok : (listings.map Except.ok).mapM id = (.ok listings : Except Fault _) := by
      rw [List.mapM_map]
      exact (mapM_eq_map fun _ _ => rfl).trans (by rw [List.map_id'])
    refine ⟨_, (scanListed_eq_ok hon).mpr ⟨primary, listings, all, known, hprimary, hok, hall,
      hknown, rfl⟩, hcounts, fun now => ?_⟩
    exact generate_perm (hcounts.map _) engine now settings

/-- A project in which one of two models is reached by two paths. The files of the folder that holds
all of it are listed in the order of their names or otherwise. -/
theorem scan_counts_in_any_order_nested :
    let model := "SELECT COLLECT_LIST(x)".toList
    let tree := pairTree model model
    let whole : Path := ⟨.relative, []⟩
    let part : Path := ⟨.relative, ["models".toList]⟩
    let settings := { folderedSettings [] with modelPaths := [whole, part] }
    let first := folderedPath "staging" "a.sql"
    let second := folderedPath "models" "b.sql"
    tree.models whole = .ok [second, first] ∧
      scan collectEngine tree settings = .ok [("COLLECT_LIST".toList, 3)] ∧
      ∃ again, scanListed collectEngine tree settings [.ok [second], .ok [first, second]] =
          .ok again ∧ again.Perm [("COLLECT_LIST".toList, 3)] := by
  intro model tree whole part settings first second
  have hwhole : tree.models whole = .ok [second, first] := by decide +kernel
  have hpart : tree.models part = .ok [second] := by decide +kernel
  have hscan : scan collectEngine tree settings = .ok [("COLLECT_LIST".toList, 3)] := by
    decide +kernel
  obtain ⟨-, -, hagain⟩ := @scan_counts_in_any_order collectEngine tree settings _ rfl hscan
  obtain ⟨again, hok, hperm, -⟩ := hagain [part, whole] [[second], [first, second]] (.swap _ _ _)
    (.cons ⟨_, hpart, .refl _⟩ (.cons ⟨_, hwhole, .swap _ _ _⟩ .nil))
  exact ⟨hwhole, hscan, again, hok, hperm⟩

end Project

end PortableSql

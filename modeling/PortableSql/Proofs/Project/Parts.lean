import Mathlib.Data.List.Perm.Basic
import PortableSql.Proofs.Project.Visits
import PortableSql.Proofs.Sorting

/-!
# Parts of a project

The models of a project can be divided into two parts. Each part is a project of its own, with all
other files and folders and only some of the models. A model is read in its part as it is in the
whole project, and what is visited in the project is what is visited in the two parts.
-/

namespace PortableSql.Tree

/-- A tree as file systems have them: every location has one entry, and no name leads upwards. -/
structure IsFileSystem (tree : Tree) : Prop where
  unambiguous : tree.IsUnambiguous
  proper : ∀ entry ∈ tree.entries, ['.', '.'] ∉ entry.1.names

/-- An entry with the name of a model. -/
def isModel (entry : Location × Entry) : Bool :=
  !isFolder entry.2 && endsAsModel entry.1.names

/-- The part of a tree with only some of its models. -/
def keeping (tree : Tree) (keep : Location → Bool) : Tree :=
  { tree with entries := tree.entries.filter fun entry => !isModel entry || keep entry.1 }

/-! ## Entries -/

/-- A part has no location twice either. -/
theorem IsUnambiguous.keeping {tree : Tree} (hunique : tree.IsUnambiguous)
    (keep : Location → Bool) : (tree.keeping keep).IsUnambiguous :=
  hunique.sublist (List.filter_sublist.map _)

/-- What is kept stands where it stood. -/
theorem lookup_keeping {tree : Tree} (hunique : tree.IsUnambiguous) {keep : Location → Bool}
    {location : Location} (hkeep : keep location = true) :
    (tree.keeping keep).lookup location = tree.lookup location := by
  have hmade : (tree.keeping keep).made? location = tree.made? location := by
    refine Option.ext fun entry => ?_
    rw [made?_eq_some_iff hunique, made?_eq_some_iff (hunique.keeping keep), Tree.keeping,
      List.mem_filter]
    simp [hkeep]
  rw [lookup, lookup, hmade]

/-- All folders are kept. -/
theorem sameFolders_keeping {tree : Tree} (hunique : tree.IsUnambiguous) (keep : Location → Bool) :
    SameFolders tree (tree.keeping keep) := by
  intro location
  have hmade : (tree.keeping keep).made? location = some .folder ↔
      tree.made? location = some .folder := by
    rw [made?_eq_some_iff hunique, made?_eq_some_iff (hunique.keeping keep), Tree.keeping,
      List.mem_filter]
    simp [isModel, isFolder]
  rw [lookup, lookup, Option.or_eq_some_iff, Option.or_eq_some_iff, hmade]

/-- A path of a location that is kept is read as in the whole tree. -/
theorem readText?_keeping {tree : Tree} (hunique : tree.IsUnambiguous) {keep : Location → Bool}
    {path : Path} (hkeep : ∀ location, tree.locate path = .ok location → keep location = true) :
    (tree.keeping keep).readText? path = tree.readText? path :=
  (readText?_congr (fun _ => (sameFolders_keeping hunique keep).locate_iff) fun location hlocate =>
    (lookup_keeping hunique (hkeep location hlocate)).symm).symm

/-! ## Where paths lead -/

/-- Following names in two goes is following them all. -/
theorem follow_append {tree : Tree} {start location : Location} {first second : List Text} :
    tree.follow start (first ++ second) = .ok location ↔
      ∃ between, tree.follow start first = .ok between ∧
        tree.follow between second = .ok location := by
  induction first generalizing start with
  | nil => simp [follow]
  | cons name first ih =>
    rw [List.cons_append, follow, follow]
    cases tree.lookup start with
    | none => simp
    | some entry =>
      cases entry with
      | file content => simp
      | folder =>
        cases step start name with
        | error obstacle => simp [bind, Except.bind]
        | ok next => exact ih

/-- Names that do not lead upwards are added to the location. -/
theorem follow_eq {tree : Tree} {start location : Location} {names : List Text}
    (hproper : ['.', '.'] ∉ names) (hfollow : tree.follow start names = .ok location) :
    location = ⟨start.base, start.names ++ names⟩ := by
  induction names generalizing start with
  | nil =>
    obtain rfl := Except.ok.inj hfollow
    rw [List.append_nil]
  | cons name names ih =>
    obtain ⟨hname, hnames⟩ := not_or.mp (List.mem_cons.not.mp hproper)
    unfold follow at hfollow
    split at hfollow
    · cases hfollow
    · cases hfollow
    · obtain ⟨next, hstep, hfollow⟩ := bind_eq_ok.mp hfollow
      have hnext : next = start.child name := by
        unfold step at hstep
        rw [if_neg (by simpa using Ne.symm hname)] at hstep
        split at hstep
        · cases hstep
        · exact (Except.ok.inj hstep).symm
      rw [ih hnames hfollow, hnext, Location.child, List.append_assoc, List.singleton_append]

/-- A path that goes on from a folder with names that do not lead upwards leads to the location of
these names in the folder. -/
theorem locate_append {tree : Tree} {path : Path} {folder location : Location} {names : List Text}
    (hproper : ['.', '.'] ∉ names) (hfolder : tree.locate path = .ok folder)
    (hlocate : tree.locate (path.append names) = .ok location) :
    location = ⟨folder.base, folder.names ++ names⟩ := by
  obtain ⟨_, -, hpath⟩ := bind_eq_ok.mp hfolder
  obtain ⟨_, -, hwhole⟩ := bind_eq_ok.mp hlocate
  obtain ⟨between, hbetween, hrest⟩ := follow_append.mp hwhole
  obtain rfl := Except.ok.inj (hpath.symm.trans hbetween)
  exact follow_eq hproper hrest

/-! ## Visits -/

/-- A location in a folder is that of the folder with more names. -/
theorem below?_eq_some {folder location : Location} {names : List Text}
    (hbelow : folder.below? location = some names) :
    location = ⟨folder.base, folder.names ++ names⟩ := by
  unfold Location.below? at hbelow
  split at hbelow
  next hinside =>
    obtain ⟨hbase, hstart⟩ := Bool.and_eq_true_iff.mp hinside
    obtain ⟨rest, hrest⟩ := List.isPrefixOf_iff_prefix.mp hstart
    obtain ⟨base, all⟩ := location
    obtain rfl : folder.names ++ rest = all := hrest
    rw [Option.some.injEq, List.drop_left] at hbelow
    rw [beq_iff_eq.mp hbase, hbelow]
  next => cases hbelow

/-- Whether names end as those of a model is told by the last ones. -/
theorem endsAsModel_append (first : List Text) {names : List Text}
    (hends : endsAsModel names = true) : endsAsModel (first ++ names) = true := by
  unfold endsAsModel at hends ⊢
  rw [List.getLast?_append]
  cases hlast : names.getLast? with
  | none => simp [hlast] at hends
  | some name =>
    rw [hlast] at hends
    exact hends

/-- The models of a folder are those entries that are in it. -/
theorem modelName?_eq_some {folder : Location} {entry : Location × Entry} {names : List Text}
    (hname : modelName? folder (entry.1, isFolder entry.2) = some names) :
    entry.1 = ⟨folder.base, folder.names ++ names⟩ ∧ isModel entry = true := by
  unfold modelName? at hname
  split at hname
  · cases hname
  next hfile =>
    obtain ⟨hbelow, hends⟩ := Option.filter_eq_some_iff.mp hname
    have hlocation := below?_eq_some hbelow
    refine ⟨hlocation, ?_⟩
    have hlast : endsAsModel entry.1.names = true := by
      rw [hlocation]
      exact endsAsModel_append folder.names hends
    simpa [isModel, hlast] using hfile

/-- The models of a folder are listed in another order than their entries stand. -/
theorem modelNames_perm_entries (tree : Tree) (folder : Location) :
    (tree.modelNames folder).Perm (tree.entries.filterMap fun entry =>
      modelName? folder (entry.1, isFolder entry.2)) := by
  rw [modelNames_eq, outline, List.filterMap_map]
  exact sortBy_perm _ _

/-- The models of a folder are those of the two parts. -/
theorem modelNames_perm (tree : Tree) (keep : Location → Bool) (folder : Location) :
    (tree.modelNames folder).Perm ((tree.keeping keep).modelNames folder ++
      (tree.keeping fun location => !keep location).modelNames folder) := by
  -- What is kept without being a model has no name here.
  have hpart (keep : Location → Bool) :
      ((tree.keeping keep).modelNames folder).Perm
        ((tree.entries.filter fun entry => keep entry.1).filterMap fun entry =>
          modelName? folder (entry.1, isFolder entry.2)) := by
    refine (modelNames_perm_entries _ folder).trans (.of_eq ?_)
    rw [keeping, List.filterMap_filter, List.filterMap_filter]
    refine List.filterMap_congr fun entry _ => ?_
    cases hname : modelName? folder (entry.1, isFolder entry.2) with
    | none => simp
    | some names => rw [(modelName?_eq_some hname).2, Bool.not_true, Bool.false_or]
  refine (modelNames_perm_entries tree folder).trans (.trans ?_ ((hpart keep).append
    (hpart _)).symm)
  rw [← List.filterMap_append]
  exact (List.filter_append_perm (fun entry => keep entry.1) tree.entries).symm.filterMap _

/-- A path that a model is listed by leads to the entry of the model, if it leads anywhere. -/
theorem exists_entry_of_mem_modelNames {tree listed : Tree}
    (hproper : ∀ entry ∈ listed.entries, ['.', '.'] ∉ entry.1.names) {path : Path}
    {folder location : Location} (hfolder : tree.locate path = .ok folder) {names : List Text}
    (hnames : names ∈ listed.modelNames folder)
    (hlocate : tree.locate (path.append names) = .ok location) :
    ∃ entry ∈ listed.entries, entry.1 = location ∧ isModel entry = true := by
  obtain ⟨entry, hentry, hname⟩ :=
    List.mem_filterMap.mp ((modelNames_perm_entries _ folder).mem_iff.mp hnames)
  obtain ⟨hplace, hmodel⟩ := modelName?_eq_some hname
  have hup : ['.', '.'] ∉ names := by
    have hall := hproper entry hentry
    rw [hplace] at hall
    exact fun hup => hall (List.mem_append_right _ hup)
  exact ⟨entry, hentry, hplace.trans (locate_append hup hfolder hlocate).symm, hmodel⟩

/-- A path of a model leads to a location that is kept, if it leads anywhere. -/
theorem keep_of_mem_modelNames {tree : Tree} (htree : tree.IsFileSystem) {keep : Location → Bool}
    {path : Path} {folder : Location} (hfolder : tree.locate path = .ok folder) {names : List Text}
    (hnames : names ∈ (tree.keeping keep).modelNames folder) :
    ∀ location, tree.locate (path.append names) = .ok location → keep location = true := by
  intro location hlocate
  have hproper : ∀ entry ∈ (tree.keeping keep).entries, ['.', '.'] ∉ entry.1.names :=
    fun entry hentry => htree.proper entry (List.mem_of_mem_filter hentry)
  obtain ⟨entry, hentry, rfl, hmodel⟩ :=
    exists_entry_of_mem_modelNames hproper hfolder hnames hlocate
  simpa [hmodel] using (List.mem_filter.mp hentry).2

/-- What is always there has no name of a model. -/
theorem standing?_of_endsAsModel {location : Location}
    (hends : endsAsModel location.names = true) : standing? location = none := by
  have hfolders : ∀ folder ∈ rootFolders, Text.endsWith folder.toList modelEnding = false := by
    decide
  have hnull : Text.endsWith "null".toList modelEnding = false := by decide
  obtain ⟨base, names⟩ := location
  dsimp only at hends
  unfold standing?
  split
  next hnames =>
    rw [show names = [] from hnames] at hends
    cases hends
  next name hnames =>
    rw [show names = [name] from hnames] at hends
    refine if_neg fun hroot => ?_
    obtain ⟨folder, hmem, hname⟩ := List.any_eq_true.mp (Bool.and_eq_true_iff.mp hroot).2
    rw [← beq_iff_eq.mp hname] at hends
    exact Bool.false_ne_true ((hfolders folder hmem).symm.trans hends)
  next folder name hnames =>
    rw [show names = [folder, name] from hnames] at hends
    refine if_neg fun hdevice => ?_
    rw [beq_iff_eq.mp (Bool.and_eq_true_iff.mp hdevice).2] at hends
    exact Bool.false_ne_true (hnull.symm.trans hends)
  next => rfl

/-- What a path of a model leads to is not always there. -/
theorem IsFileSystem.standing?_of_mem_models {tree : Tree} (htree : tree.IsFileSystem) {path : Path}
    {models : List Path} (hmodels : tree.models path = .ok models) {model : Path}
    (hmem : model ∈ models) {location : Location} (hlocate : tree.locate model = .ok location) :
    standing? location = none := by
  rcases tree.models_cases path with ⟨folder, hfolder, -, hlisted⟩ | ⟨-, hfault⟩ | ⟨-, -, hnone⟩
  · obtain rfl := Except.ok.inj (hmodels.symm.trans hlisted)
    obtain ⟨names, hnames, rfl⟩ := List.mem_map.mp hmem
    obtain ⟨entry, -, rfl, hmodel⟩ :=
      exists_entry_of_mem_modelNames htree.proper hfolder hnames hlocate
    exact standing?_of_endsAsModel (Bool.and_eq_true_iff.mp hmodel).2
  · rw [hmodels] at hfault
    cases hfault
  · obtain rfl := Except.ok.inj (hmodels.symm.trans hnone)
    cases hmem

/-- Paths are divided into those that lead to kept locations, if anywhere, and those that do
not. -/
structure Divides (tree : Tree) (keep : Location → Bool) (visited own others : List Path) :
    Prop where
  perm : visited.Perm (own ++ others)
  kept : ∀ path ∈ own, ∀ location, tree.locate path = .ok location → keep location = true
  dropped : ∀ path ∈ others, ∀ location, tree.locate path = .ok location → keep location = false

/-- No paths are divided into none and none. -/
theorem Divides.nil (tree : Tree) (keep : Location → Bool) : Divides tree keep [] [] [] :=
  ⟨.nil, by simp, by simp⟩

/-- Paths are divided piece by piece. -/
theorem Divides.append {tree : Tree} {keep : Location → Bool}
    {first second firstOwn secondOwn firstOthers secondOthers : List Path}
    (hfirst : Divides tree keep first firstOwn firstOthers)
    (hsecond : Divides tree keep second secondOwn secondOthers) :
    Divides tree keep (first ++ second) (firstOwn ++ secondOwn) (firstOthers ++ secondOthers) where
  perm := by
    refine (hfirst.perm.append hsecond.perm).trans ?_
    rw [List.append_assoc, List.append_assoc]
    exact (List.perm_append_comm_assoc firstOthers secondOwn secondOthers).append_left firstOwn
  kept := List.forall_mem_append.mpr ⟨hfirst.kept, hsecond.kept⟩
  dropped := List.forall_mem_append.mpr ⟨hfirst.dropped, hsecond.dropped⟩

/-- The models below a path are divided among the two parts. -/
theorem models_keeping {tree : Tree} (htree : tree.IsFileSystem) {path : Path}
    {visited : List Path} (hmodels : tree.models path = .ok visited) (keep : Location → Bool) :
    ∃ own others, (tree.keeping keep).models path = .ok own ∧
      (tree.keeping fun location => !keep location).models path = .ok others ∧
      Divides tree keep visited own others := by
  have hsame := sameFolders_keeping htree.unambiguous
  by_cases hfolder : ∃ folder, tree.locate path = .ok folder ∧ tree.lookup folder = some .folder
  · obtain ⟨folder, hlocate, hfolder⟩ := hfolder
    have hpart (keep : Location → Bool) : (tree.keeping keep).models path =
        .ok (((tree.keeping keep).modelNames folder).map path.append) :=
      models_of_folder ((hsame keep).locate_iff.mp hlocate) ((hsame keep folder).mp hfolder)
    rw [models_of_folder hlocate hfolder] at hmodels
    obtain rfl := Except.ok.inj hmodels
    refine ⟨_, _, hpart keep, hpart fun location => !keep location, ?_, ?_, ?_⟩
    · rw [← List.map_append]
      exact (modelNames_perm tree keep folder).map _
    · intro visited hvisited
      obtain ⟨names, hnames, rfl⟩ := List.mem_map.mp hvisited
      exact keep_of_mem_modelNames htree hlocate hnames
    · intro visited hvisited location hlocation
      obtain ⟨names, hnames, rfl⟩ := List.mem_map.mp hvisited
      simpa using keep_of_mem_modelNames htree hlocate hnames location hlocation
  · have hnone : ∀ folder, tree.locate path = .ok folder → tree.lookup folder ≠ some .folder :=
      fun folder hlocate hhere => hfolder ⟨folder, hlocate, hhere⟩
    obtain rfl := ((hsame keep).models hnone).2 visited hmodels
    refine ⟨[], [], ?_, ?_, .nil tree keep⟩
    · rw [← ((hsame keep).models hnone).1, hmodels]
    · rw [← ((hsame _).models hnone).1, hmodels]

/-- What is visited in a tree is divided among the two parts. -/
theorem visits_keeping {tree : Tree} (htree : tree.IsFileSystem) {paths visited : List Path}
    (hvisits : tree.visits paths = .ok visited) (keep : Location → Bool) :
    ∃ own others, (tree.keeping keep).visits paths = .ok own ∧
      (tree.keeping fun location => !keep location).visits paths = .ok others ∧
      Divides tree keep visited own others := by
  induction paths generalizing visited with
  | nil =>
    obtain rfl := Except.ok.inj hvisits
    exact ⟨[], [], rfl, rfl, .nil tree keep⟩
  | cons path paths ih =>
    obtain ⟨first, rest, hfirst, hrest, rfl⟩ := visits_cons.mp hvisits
    obtain ⟨firstOwn, firstOthers, hfirstOwn, hfirstOthers, hdivided⟩ :=
      models_keeping htree hfirst keep
    obtain ⟨restOwn, restOthers, hrestOwn, hrestOthers, hrestDivided⟩ := ih hrest
    exact ⟨_, _, visits_cons.mpr ⟨_, _, hfirstOwn, hrestOwn, rfl⟩,
      visits_cons.mpr ⟨_, _, hfirstOthers, hrestOthers, rfl⟩, hdivided.append hrestDivided⟩

end PortableSql.Tree

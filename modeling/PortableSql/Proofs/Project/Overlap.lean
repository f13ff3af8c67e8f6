import PortableSql.Proofs.Project.Order
import PortableSql.Proofs.Project.Prediction

/-!
# Paths that are listed again

Scans and dry runs go through the paths of the settings one by one and keep no record of the files
that they have seen. So a path that is added counts the calls below it and returns the models below
it once more, also if it is listed already or leads into a folder that is. Such a path leads to no
model that was not visited before, so it has no say in whether a run succeeds.
-/

namespace PortableSql

open Sql

/-! ## Folders in folders -/

namespace Tree

/-- Two paths lead to folders, and the second is the first with more names, none of which leads
upwards. -/
def IsSubfolder (tree : Tree) (outer inner : Path) : Prop :=
  ∃ names folder place, ['.', '.'] ∉ names ∧ inner = outer.append names ∧
    tree.locate outer = .ok folder ∧ tree.lookup folder = some .folder ∧
    tree.locate inner = .ok place ∧ tree.lookup place = some .folder

/-- A path is listed, or it leads to a folder in the folder of a listed path. -/
def Covers (tree : Tree) (listed : List Path) (path : Path) : Prop :=
  path ∈ listed ∨ ∃ outer ∈ listed, tree.IsSubfolder outer path

/-- A model of a folder is one of the folders that it is in, under a longer name. -/
theorem modelName?_of_inner {base : Base} {outer names rest : List Text}
    {place : Location × Bool} (hname : modelName? ⟨base, outer ++ names⟩ place = some rest) :
    modelName? ⟨base, outer⟩ place = some (names ++ rest) := by
  unfold modelName? at hname ⊢
  split at hname
  · cases hname
  next hfile =>
    obtain ⟨hbelow, hends⟩ := Option.filter_eq_some_iff.mp hname
    rw [if_neg hfile, below?_eq_some hbelow]
    refine Option.filter_eq_some_iff.mpr ⟨?_, endsAsModel_append names hends⟩
    simp [Location.below?]

/-- The models below a folder in another one are below that one too. -/
theorem IsSubfolder.models_subset {tree : Tree} {outer inner : Path}
    (hinside : tree.IsSubfolder outer inner) :
    ∃ models others, tree.models outer = .ok models ∧ tree.models inner = .ok others ∧
      others ⊆ models := by
  obtain ⟨names, folder, place, hproper, rfl, hlocate, hfolder, hthere, hplace⟩ := hinside
  refine ⟨_, _, models_of_folder hlocate hfolder, models_of_folder hthere hplace, ?_⟩
  obtain rfl := locate_append hproper hlocate hthere
  intro model hmodel
  obtain ⟨rest, hrest, rfl⟩ := List.mem_map.mp hmodel
  obtain ⟨entry, hentry, hname⟩ :=
    List.mem_filterMap.mp ((modelNames_perm_entries _ _).mem_iff.mp hrest)
  refine List.mem_map.mpr ⟨names ++ rest, (modelNames_perm_entries _ _).mem_iff.mpr
    (List.mem_filterMap.mpr ⟨entry, hentry, modelName?_of_inner hname⟩), ?_⟩
  simp [Path.append]

/-- What holds of all models below the listed paths holds of those below a path that they cover. -/
theorem Covers.forall_models {tree : Tree} {listed : List Path} {path : Path}
    (hcovers : tree.Covers listed path) {holds : Path → Prop}
    (hall : ∀ other ∈ listed, ∃ models, tree.models other = .ok models ∧
      ∀ model ∈ models, holds model) :
    ∃ models, tree.models path = .ok models ∧ ∀ model ∈ models, holds model := by
  rcases hcovers with hlisted | ⟨outer, houter, hinside⟩
  · exact hall path hlisted
  · obtain ⟨models, others, hmodels, hothers, hsubset⟩ := hinside.models_subset
    obtain ⟨same, hsame, hholds⟩ := hall outer houter
    obtain rfl := Except.ok.inj (hmodels.symm.trans hsame)
    exact ⟨others, hothers, fun model hmodel => hholds model (hsubset hmodel)⟩

end Tree

/-! ## One more item -/

/-- A list of answers with one more item. -/
theorem mapM_middle_eq_ok {ε α β : Type} {f : α → Except ε β} {before after : List α} {a : α}
    {results : List β} :
    (before ++ a :: after).mapM f = .ok results ↔ ∃ earlier b later,
      before.mapM f = .ok earlier ∧ f a = .ok b ∧ after.mapM f = .ok later ∧
        results = earlier ++ b :: later := by
  rw [mapM_append_eq_ok]
  constructor
  · rintro ⟨earlier, others, hearlier, hothers, rfl⟩
    rw [List.mapM_cons] at hothers
    obtain ⟨b, hb, hothers⟩ := bind_eq_ok.mp hothers
    obtain ⟨later, hlater, hothers⟩ := bind_eq_ok.mp hothers
    obtain rfl := pure_eq_ok.mp hothers
    exact ⟨earlier, b, later, hearlier, hb, hlater, rfl⟩
  · rintro ⟨earlier, b, later, hearlier, hb, hlater, rfl⟩
    refine ⟨earlier, b :: later, hearlier, ?_, rfl⟩
    rw [List.mapM_cons]
    exact bind_eq_ok.mpr ⟨b, hb, bind_eq_ok.mpr ⟨later, hlater, rfl⟩⟩

/-- A list of answers succeeds with one more item if it does without, and so does the item. -/
theorem mapM_middle_ok_iff {ε α β : Type} {f : α → Except ε β} {before after : List α} {a : α} :
    (∃ results, (before ++ a :: after).mapM f = .ok results) ↔
      (∃ results, (before ++ after).mapM f = .ok results) ∧ ∃ b, f a = .ok b := by
  simp only [mapM_ok_iff, List.forall_mem_append, List.forall_mem_cons]
  tauto

/-- If the answer for a path succeeds as soon as something holds of the models below it, one for a
path that the others cover fails only if one of theirs does. -/
theorem Tree.Covers.mapM_ok_iff {β : Type} {tree : Tree} {before after : List Path} {path : Path}
    (hcovers : tree.Covers (before ++ after) path) {f : Path → Except Fault β}
    {holds : Path → Prop}
    (hok : ∀ path, (∃ b, f path = .ok b) ↔
      ∃ models, tree.models path = .ok models ∧ ∀ model ∈ models, holds model) :
    (∃ results, (before ++ after).mapM f = .ok results) ↔
      ∃ results, (before ++ path :: after).mapM f = .ok results := by
  rw [mapM_middle_ok_iff, iff_self_and]
  intro hall
  exact (hok path).mpr (hcovers.forall_models fun other hother =>
    (hok other).mp (PortableSql.mapM_ok_iff.mp hall other hother))

/-! ## Dry runs -/

namespace Action

variable {α β : Type}

/-- After work that only reads, the tree is the same. -/
theorem OnlyReads.answer_bind {first : Action α} (hfirst : OnlyReads first) (next : α → Action β)
    (tree : Tree) :
    (first >>= next).answer tree = first.answer tree >>= fun a => (next a).answer tree := by
  cases hanswer : first.answer tree with
  | error fault => exact (run_bind_of_error hanswer next).1
  | ok a =>
    rw [(run_bind_of_ok hanswer next).1, hfirst tree]
    rfl

/-- Steps that only read answer one after the other as each does alone. -/
theorem OnlyReads.answer_mapM {step : α → Action β} (hstep : ∀ a, OnlyReads (step a))
    (items : List α) (tree : Tree) :
    (items.mapM step).answer tree = items.mapM fun a => (step a).answer tree := by
  induction items with
  | nil => rfl
  | cons a items ih =>
    rw [List.mapM_cons, List.mapM_cons, (hstep a).answer_bind]
    refine bind_congr fun b => ?_
    rw [(OnlyReads.mapM hstep items).answer_bind, ih]
    rfl

end Action

namespace Project

section Converting

variable {engine : Engine} {adapters : Value} {primary : Dialect}

/-- A dry run of one model tells whether it changes. -/
theorem convertFile_answer (tree : Tree) (path : Path) :
    (convertFile engine adapters primary true path).answer tree =
      willChange engine adapters primary tree path := by
  have hget : (get : Action Tree).answer tree = .ok tree := rfl
  unfold convertFile willChange
  rw [(Action.run_bind_of_ok hget _).1]
  cases tree.readText? path with
  | none => rfl
  | some model =>
    refine (Action.OnlyReads.answer_bind (fun _ => rfl) _ _).trans ?_
    refine bind_congr fun converted => ?_
    by_cases hsame : converted = model
    · rw [if_pos (beq_iff_eq.mpr hsame), bne_eq_false_iff_eq.mpr hsame]
      rfl
    · rw [if_neg (by simpa using hsame), bne_iff_ne.mpr hsame]
      rfl

/-- A dry run of several models tells which of them change. -/
theorem convertFiles_answer (tree : Tree) (paths : List Path) :
    (convertFiles engine adapters primary true paths).answer tree =
      changesAmong engine adapters primary true tree paths := by
  induction paths with
  | nil => rfl
  | cons path paths ih =>
    rw [convertFiles, changesAmong, changeIn_true, (convertFile_onlyReads path).answer_bind,
      convertFile_answer]
    refine bind_congr fun changes => ?_
    rw [(convertFiles_onlyReads paths).answer_bind, ih]
    rfl

/-- A dry run of the models below a path tells which of them change. -/
theorem convertFolder_answer (tree : Tree) (path : Path) :
    (convertFolder engine adapters primary true path).answer tree =
      changesBelow engine adapters primary true tree path := by
  have hget : (get : Action Tree).answer tree = .ok tree := rfl
  unfold convertFolder changesBelow
  rw [(Action.run_bind_of_ok hget _).1]
  refine (Action.OnlyReads.answer_bind (fun _ => rfl) _ _).trans ?_
  exact bind_congr fun models => convertFiles_answer tree models

end Converting

/-- A dry run returns the models that change when each of them is converted as it is, on every tree
and also if paths overlap. -/
theorem dryRun_answer (engine : Engine) (settings : Settings) (tree : Tree) :
    (convert engine settings true).answer tree = changes engine settings true tree := by
  unfold convert changes
  refine (Action.OnlyReads.answer_bind (fun _ => rfl) _ _).trans ?_
  refine bind_congr fun primary => ?_
  rw [(Action.OnlyReads.mapM convertFolder_onlyReads _).answer_bind,
    Action.OnlyReads.answer_mapM convertFolder_onlyReads]
  simp only [convertFolder_answer]
  rfl

/-! ## Success -/

section Success

variable {engine : Engine} {tree : Tree} {path : Path}

/-- The functions that are called below a path can be told if those of each model there can. -/
theorem folderFunctions_ok_iff {primary : Value} :
    (∃ names, folderFunctions engine tree primary path = .ok names) ↔
      ∃ models, tree.models path = .ok models ∧
        ∀ model ∈ models, ∃ names, fileFunctions engine tree primary model = .ok names := by
  unfold folderFunctions
  simp only [bind_ok_iff, pure_eq_ok, exists_eq', and_true, mapM_ok_iff]

/-- It can be told which models change if it can be told of each of them. -/
theorem changesAmong_ok_iff {adapters : Value} {primary : Dialect} {paths : List Path} :
    (∃ changed, changesAmong engine adapters primary true tree paths = .ok changed) ↔
      ∀ model ∈ paths, ∃ changes, willChange engine adapters primary tree model = .ok changes := by
  induction paths with
  | nil => exact iff_of_true ⟨[], rfl⟩ (by simp)
  | cons model paths ih =>
    rw [List.forall_mem_cons, ← ih, changesAmong, changeIn_true]
    simp only [bind_ok_iff, pure_eq_ok, exists_eq', and_true, exists_and_right]

/-- It can be told which models below a path change if they can be listed and it can be told of each
of them. -/
theorem changesBelow_ok_iff {adapters : Value} {primary : Dialect} :
    (∃ changed, changesBelow engine adapters primary true tree path = .ok changed) ↔
      ∃ models, tree.models path = .ok models ∧
        ∀ model ∈ models, ∃ changes, willChange engine adapters primary tree model =
          .ok changes := by
  unfold changesBelow
  simp only [bind_ok_iff, changesAmong_ok_iff]

end Success

/-! ## What a path adds -/

/-- The names that a scan counts for one path, one for each call below it. -/
def reportedBelow (engine : Engine) (tree : Tree) (settings : Settings) (path : Path) :
    Except Fault (List Text) := do
  if !settings.scanProject.isTruthy then return []
  let primary ← settings.adapters.first
  let names ← folderFunctions engine tree primary path
  let known ← engine.differences settings.adapters
  return names.filter known.contains

/-- The models that a dry run returns for one path. -/
def changedBelow (engine : Engine) (tree : Tree) (settings : Settings) (path : Path) :
    Except Fault (List Path) := do
  let primary ← settings.adapters.first
  changesBelow engine settings.adapters (.ofValue primary) true tree path

/-- Names that come in between add to the counts. -/
theorem countOf_middle (earlier names later known : List Text) (name : Text) :
    countOf ((tally (earlier ++ names ++ later)).filter fun count => known.contains count.1) name =
      countOf ((tally (earlier ++ later)).filter fun count => known.contains count.1) name +
        (names.filter known.contains).count name := by
  rw [countOf_filter, countOf_filter, countOf_tally, countOf_tally]
  by_cases hname : name ∈ known
  · rw [if_pos hname, if_pos hname, List.count_filter (by simpa using hname)]
    simp only [List.count_append]
    omega
  · rw [if_neg hname, if_neg hname, List.count_eq_zero.mpr (by simp [hname])]

/-- Names that come in between leave the counts as they are if none of them is known. -/
theorem filter_tally_middle_perm_iff {earlier names later known : List Text} :
    ((tally (earlier ++ names ++ later)).filter fun count => known.contains count.1).Perm
        ((tally (earlier ++ later)).filter fun count => known.contains count.1) ↔
      names.filter known.contains = [] := by
  rw [filter_tally_perm_iff, List.filter_eq_nil_iff]
  constructor
  · intro hsame name hname hknown
    have hcount := hsame name (by simpa using hknown)
    have hpositive := List.count_pos_iff.mpr hname
    simp only [List.count_append] at hcount
    omega
  · intro hnone name hknown
    have hzero : names.count name = 0 :=
      List.count_eq_zero.mpr fun hname => hnone name hname (by simpa using hknown)
    simp only [List.count_append]
    omega

section Added

variable {engine : Engine} {tree : Tree} {settings : Settings} {before after : List Path}
  {path : Path}

/-- A scan that is turned off finds nothing, whatever the paths. -/
theorem scan_off (hoff : settings.scanProject.isTruthy = false) (paths : List Path) :
    scan engine tree { settings with modelPaths := paths } = .ok [] :=
  @scan_eq_nil { settings with modelPaths := paths } hoff engine tree

/-- A scan counts what is found below each of the paths. -/
theorem scan_eq_ok_folders (hon : settings.scanProject.isTruthy = true) {paths : List Path}
    {counts : List (Text × Nat)} :
    scan engine tree { settings with modelPaths := paths } = .ok counts ↔
      ∃ primary lists known, settings.adapters.first = .ok primary ∧
        paths.mapM (folderFunctions engine tree primary) = .ok lists ∧
        engine.differences settings.adapters = .ok known ∧
        counts = (tally lists.flatten).filter fun count => known.contains count.1 := by
  have hscan : scan engine tree { settings with modelPaths := paths } = do
      let primary ← settings.adapters.first
      let names ← paths.mapM (folderFunctions engine tree primary)
      let known ← engine.differences settings.adapters
      return (tally names.flatten).filter fun count => known.contains count.1 := by
    rw [scan, hon]
    rfl
  rw [hscan]
  simp only [bind_eq_ok, pure_eq_ok, eq_comm (a := counts)]
  constructor
  · rintro ⟨primary, hprimary, lists, hlists, known, hknown, rfl⟩
    exact ⟨primary, lists, known, hprimary, hlists, hknown, rfl⟩
  · rintro ⟨primary, lists, known, hprimary, hlists, hknown, rfl⟩
    exact ⟨primary, hprimary, lists, hlists, known, hknown, rfl⟩

/-- The models of a project that change are those below each of its paths. -/
theorem changes_eq_ok {paths changed : List Path} :
    changes engine { settings with modelPaths := paths } true tree = .ok changed ↔
      ∃ primary lists, settings.adapters.first = .ok primary ∧
        paths.mapM (changesBelow engine settings.adapters (.ofValue primary) true tree) =
          .ok lists ∧
        changed = lists.flatten := by
  unfold changes
  simp only [bind_eq_ok, pure_eq_ok, eq_comm (a := changed), exists_and_left]

/-- A path that the others cover does not decide whether a scan succeeds. -/
theorem scan_covered_ok_iff (hcovers : tree.Covers (before ++ after) path) :
    (∃ counts, scan engine tree { settings with modelPaths := before ++ after } = .ok counts) ↔
      ∃ counts, scan engine tree { settings with modelPaths := before ++ path :: after } =
        .ok counts := by
  cases hon : settings.scanProject.isTruthy with
  | false => exact iff_of_true ⟨[], scan_off hon _⟩ ⟨[], scan_off hon _⟩
  | true =>
    have hsame (primary : Value) :
        (∃ lists, (before ++ after).mapM (folderFunctions engine tree primary) = .ok lists) ↔
          ∃ lists, (before ++ path :: after).mapM (folderFunctions engine tree primary) =
            .ok lists :=
      hcovers.mapM_ok_iff fun _ => folderFunctions_ok_iff
    simp only [scan_eq_ok_folders hon]
    constructor
    · rintro ⟨_, primary, lists, known, hprimary, hlists, hknown, -⟩
      obtain ⟨others, hothers⟩ := (hsame primary).mp ⟨lists, hlists⟩
      exact ⟨_, primary, others, known, hprimary, hothers, hknown, rfl⟩
    · rintro ⟨_, primary, lists, known, hprimary, hlists, hknown, -⟩
      obtain ⟨others, hothers⟩ := (hsame primary).mpr ⟨lists, hlists⟩
      exact ⟨_, primary, others, known, hprimary, hothers, hknown, rfl⟩

/-- A path that the others cover does not decide whether a dry run succeeds. -/
theorem changes_covered_ok_iff (hcovers : tree.Covers (before ++ after) path) :
    (∃ changed, changes engine { settings with modelPaths := before ++ after } true tree =
        .ok changed) ↔
      ∃ changed, changes engine { settings with modelPaths := before ++ path :: after } true tree =
        .ok changed := by
  have hsame (primary : Value) :
      (∃ lists, (before ++ after).mapM
          (changesBelow engine settings.adapters (.ofValue primary) true tree) = .ok lists) ↔
        ∃ lists, (before ++ path :: after).mapM
          (changesBelow engine settings.adapters (.ofValue primary) true tree) = .ok lists :=
    hcovers.mapM_ok_iff fun _ => changesBelow_ok_iff
  simp only [changes_eq_ok]
  constructor
  · rintro ⟨_, primary, lists, hprimary, hlists, -⟩
    obtain ⟨others, hothers⟩ := (hsame primary).mp ⟨lists, hlists⟩
    exact ⟨_, primary, others, hprimary, hothers, rfl⟩
  · rintro ⟨_, primary, lists, hprimary, hlists, -⟩
    obtain ⟨others, hothers⟩ := (hsame primary).mpr ⟨lists, hlists⟩
    exact ⟨_, primary, others, hprimary, hothers, rfl⟩

/-- A scan counts the calls below one more path in addition to the others. -/
theorem scan_added {counts more : List (Text × Nat)}
    (hscan : scan engine tree { settings with modelPaths := before ++ after } = .ok counts)
    (hmore : scan engine tree { settings with modelPaths := before ++ path :: after } = .ok more) :
    ∃ names, reportedBelow engine tree settings path = .ok names ∧
      (∀ name, countOf more name = countOf counts name + names.count name) ∧
      (more.Perm counts ↔ names = []) := by
  cases hon : settings.scanProject.isTruthy with
  | false =>
    obtain rfl := Except.ok.inj ((scan_off hon _).symm.trans hscan)
    obtain rfl := Except.ok.inj ((scan_off hon _).symm.trans hmore)
    refine ⟨[], ?_, fun _ => rfl, by simp⟩
    rw [reportedBelow, hon]
    rfl
  | true =>
    obtain ⟨primary, lists, known, hprimary, hlists, hknown, rfl⟩ :=
      (scan_eq_ok_folders hon).mp hscan
    obtain ⟨_, others, _, hsame, hothers, hagain, rfl⟩ := (scan_eq_ok_folders hon).mp hmore
    obtain rfl := Except.ok.inj (hprimary.symm.trans hsame)
    obtain rfl := Except.ok.inj (hknown.symm.trans hagain)
    obtain ⟨earlier, later, hearlier, hlater, rfl⟩ := mapM_append_eq_ok.mp hlists
    obtain ⟨first, names, last, hfirst, hnames, hlast, rfl⟩ := mapM_middle_eq_ok.mp hothers
    obtain rfl := Except.ok.inj (hearlier.symm.trans hfirst)
    obtain rfl := Except.ok.inj (hlater.symm.trans hlast)
    have hreported : reportedBelow engine tree settings path =
        .ok (names.filter known.contains) := by
      rw [reportedBelow, hon]
      exact bind_eq_ok.mpr ⟨primary, hprimary, bind_eq_ok.mpr ⟨names, hnames,
        bind_eq_ok.mpr ⟨known, hknown, rfl⟩⟩⟩
    rw [List.flatten_append, List.flatten_append, List.flatten_cons, ← List.append_assoc]
    exact ⟨_, hreported, countOf_middle _ _ _ known, filter_tally_middle_perm_iff⟩

/-- A dry run returns the models below one more path in addition to the others. -/
theorem changes_added {changed more : List Path}
    (hchanges : changes engine { settings with modelPaths := before ++ after } true tree =
      .ok changed)
    (hmore : changes engine { settings with modelPaths := before ++ path :: after } true tree =
      .ok more) :
    ∃ first added last, changedBelow engine tree settings path = .ok added ∧
      changed = first ++ last ∧ more = first ++ added ++ last := by
  obtain ⟨primary, lists, hprimary, hlists, rfl⟩ := changes_eq_ok.mp hchanges
  obtain ⟨_, others, hsame, hothers, rfl⟩ := changes_eq_ok.mp hmore
  obtain rfl := Except.ok.inj (hprimary.symm.trans hsame)
  obtain ⟨earlier, later, hearlier, hlater, rfl⟩ := mapM_append_eq_ok.mp hlists
  obtain ⟨first, added, last, hfirst, hadded, hlast, rfl⟩ := mapM_middle_eq_ok.mp hothers
  obtain rfl := Except.ok.inj (hearlier.symm.trans hfirst)
  obtain rfl := Except.ok.inj (hlater.symm.trans hlast)
  refine ⟨earlier.flatten, added, later.flatten, bind_eq_ok.mpr ⟨primary, hprimary, hadded⟩,
    List.flatten_append, ?_⟩
  rw [List.flatten_append, List.flatten_cons, List.append_assoc]

end Added

/-- A path that is listed already, or that leads to a folder in the folder of a listed path, can be
added anywhere without changing whether a scan or a dry run succeeds. But what is below an added
path is taken once more, whatever the path: a scan counts each call of a reported function there
again, so the counts stay the same exactly if there is none, and a dry run returns each model there
that changes again, so its list stays the same exactly if no model there changes. -/
theorem added_path_counts_again (engine : Engine) (tree : Tree) (settings : Settings)
    (before after : List Path) (path : Path) :
    let once := { settings with modelPaths := before ++ after }
    let again := { settings with modelPaths := before ++ path :: after }
    (tree.Covers (before ++ after) path →
      ((∃ counts, scan engine tree once = .ok counts) ↔
        ∃ counts, scan engine tree again = .ok counts) ∧
      ((∃ changed, (convert engine once true).answer tree = .ok changed) ↔
        ∃ changed, (convert engine again true).answer tree = .ok changed)) ∧
    (∀ counts more, scan engine tree once = .ok counts → scan engine tree again = .ok more →
      ∃ names, reportedBelow engine tree settings path = .ok names ∧
        (∀ name, countOf more name = countOf counts name + names.count name) ∧
        (more.Perm counts ↔ names = [])) ∧
    ∀ changed more, (convert engine once true).answer tree = .ok changed →
      (convert engine again true).answer tree = .ok more →
      ∃ first added last, changedBelow engine tree settings path = .ok added ∧
        changed = first ++ last ∧ more = first ++ added ++ last ∧
        (more = changed ↔ added = []) := by
  intro once again
  simp only [dryRun_answer]
  refine ⟨fun hcovers => ⟨scan_covered_ok_iff hcovers, changes_covered_ok_iff hcovers⟩,
    fun counts more hscan hmore => scan_added hscan hmore, fun changed more hchanges hmore => ?_⟩
  obtain ⟨first, added, last, hadded, rfl, rfl⟩ := changes_added hchanges hmore
  refine ⟨first, added, last, hadded, rfl, rfl, ?_⟩
  simp [List.append_assoc]

/-- The folder of one of two models is added to the folder that holds both. -/
theorem added_path_counts_again_nested :
    let model := "SELECT COLLECT_LIST(x)".toList
    let tree := pairTree model model
    let whole : Path := ⟨.relative, []⟩
    let part : Path := ⟨.relative, ["models".toList]⟩
    let once := { folderedSettings [] with modelPaths := [whole] }
    let again := { folderedSettings [] with modelPaths := [whole, part] }
    let changed := [folderedPath "models" "b.sql", folderedPath "staging" "a.sql"]
    tree.Covers [whole] part ∧
      scan collectEngine tree once = .ok [("COLLECT_LIST".toList, 2)] ∧
      (convert collectEngine once true).answer tree = .ok changed ∧
      (∃ more, scan collectEngine tree again = .ok more ∧ countOf more "COLLECT_LIST".toList = 3) ∧
      ∃ more, (convert collectEngine again true).answer tree = .ok more ∧ more ≠ changed := by
  intro model tree whole part once again changed
  have hinside : tree.IsSubfolder whole part :=
    ⟨["models".toList], ⟨.above 0, []⟩, ⟨.above 0, ["models".toList]⟩, by decide +kernel⟩
  have hcovers : tree.Covers ([whole] ++ []) part := .inr ⟨whole, by simp, hinside⟩
  obtain ⟨hscan, hdry, hreported, hbelow⟩ :
      scan collectEngine tree once = .ok [("COLLECT_LIST".toList, 2)] ∧
        (convert collectEngine once true).answer tree = .ok changed ∧
        reportedBelow collectEngine tree (folderedSettings []) part = .ok ["COLLECT_LIST".toList] ∧
        changedBelow collectEngine tree (folderedSettings []) part =
          .ok [folderedPath "models" "b.sql"] := by
    decide +kernel
  obtain ⟨hsucceeds, hcounts, hchanges⟩ :=
    added_path_counts_again collectEngine tree (folderedSettings []) [whole] [] part
  obtain ⟨counts, hmore⟩ := (hsucceeds hcovers).1.mp ⟨_, hscan⟩
  obtain ⟨list, hlist⟩ := (hsucceeds hcovers).2.mp ⟨_, hdry⟩
  obtain ⟨names, hnames, hcount, -⟩ := hcounts _ counts hscan hmore
  obtain ⟨first, added, last, hadded, -, -, hsame⟩ := hchanges _ list hdry hlist
  obtain rfl := Except.ok.inj (hreported.symm.trans hnames)
  obtain rfl := Except.ok.inj (hbelow.symm.trans hadded)
  exact ⟨hcovers, hscan, hdry, ⟨counts, hmore, by rw [hcount]; decide⟩, list, hlist,
    fun heq => List.cons_ne_nil _ _ (hsame.mp heq)⟩

/-- One model with one call, in a folder that is listed twice: the scan counts two calls and the dry
run returns the model twice, while a conversion returns it once. -/
theorem model_listed_twice_counts_twice :
    let tree := folderedTree [("models", "m.sql", "SELECT COLLECT_LIST(x)".toList)]
    let once := folderedSettings ["models"]
    let twice := folderedSettings ["models", "models"]
    let path := folderedPath "models" "m.sql"
    scan collectEngine tree once = .ok [("COLLECT_LIST".toList, 1)] ∧
      scan collectEngine tree twice = .ok [("COLLECT_LIST".toList, 2)] ∧
      (convert collectEngine once true).answer tree = .ok [path] ∧
      (convert collectEngine twice true).answer tree = .ok [path, path] ∧
      (convert collectEngine twice false).answer tree = .ok [path] := by
  decide +kernel

end Project

end PortableSql

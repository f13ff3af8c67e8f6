import PortableSql.Project.Scan
import PortableSql.Proofs.Model.Insertion
import PortableSql.Proofs.Sql.Differences

/-!
# What a scan finds

A scan reads the models below the paths of the settings, takes the names of the function calls in
them and keeps the functions that the adapters are reported to differ in. So it finds the functions
that a model calls and that the table of one of the adapters holds.
-/

namespace PortableSql.Project

open Sql Template

/-- A scan reads a text in one of the models. -/
def Reads (tree : Tree) (settings : Settings) (model : Text) : Prop :=
  ∃ folder ∈ settings.modelPaths, ∃ models, tree.models folder = .ok models ∧
    ∃ path ∈ models, tree.readText? path = some model

/-- One of the models that a scan reads calls a function. -/
def Calls (engine : Engine) (dialect : Dialect) (tree : Tree) (settings : Settings)
    (name : Text) : Prop :=
  ∃ model sql, Reads tree settings model ∧ Model.HasCall engine dialect model sql ∧
    Engine.callName sql = name

/-! ## Counting -/

/-- Adding a name to a tally adds it behind the names that are counted, unless it is one of
them. -/
theorem map_fst_addName (counts : List (Text × Nat)) (name : Text) :
    (addName counts name).map (·.1) =
      if name ∈ counts.map (·.1) then counts.map (·.1) else counts.map (·.1) ++ [name] := by
  have hfound : (counts.lookup name).isSome = true ↔ name ∈ counts.map (·.1) := by
    rw [List.lookup_isSome_iff, List.mem_map]
    refine exists_congr fun count => and_congr_right fun _ => ?_
    rw [beq_iff_eq, eq_comm]
  unfold addName
  split
  next hcounted =>
    rw [if_pos (hfound.mp hcounted), List.map_map]
    refine List.map_congr_left fun count _ => ?_
    by_cases hname : count.1 = name <;> simp [hname]
  next hnew =>
    rw [if_neg (hfound.not.mp hnew), List.map_append]
    rfl

/-- Counting a name adds it to the names that are counted. -/
theorem mem_addName {counts : List (Text × Nat)} {name other : Text} :
    other ∈ (addName counts name).map (·.1) ↔ other ∈ counts.map (·.1) ∨ other = name := by
  rw [map_fst_addName]
  split
  next hmem => exact ⟨.inl, fun h => h.elim id fun heq => heq ▸ hmem⟩
  next => rw [List.mem_append, List.mem_singleton]

/-- The names that are counted are those that occur. -/
theorem mem_tally {names : List Text} {name : Text} :
    name ∈ (tally names).map (·.1) ↔ name ∈ names := by
  have hstep (counts : List (Text × Nat)) :
      name ∈ (names.foldl addName counts).map (·.1) ↔
        name ∈ counts.map (·.1) ∨ name ∈ names := by
    induction names generalizing counts with
    | nil => simp
    | cons first rest ih =>
      rw [List.foldl_cons, ih, mem_addName, List.mem_cons]
      tauto
  rw [tally, hstep]
  simp

/-! ## Names of calls -/

/-- The names of the calls of a text are those of the calls in its tree. -/
theorem mem_calls {engine : Engine} {adapter sql : Text} {found : List (Text × Node)}
    (hfound : engine.calls sql (.ofText adapter) = .ok found) {name : Text} :
    name ∈ found.map (·.1) ↔ ∃ tree node text,
      engine.parse sql (.named (Dialect.canonicalName adapter)) = .ok (some tree) ∧
        node ∈ tree.walk ∧ node.isCall = true ∧
        node.render (.named (Dialect.canonicalName adapter)) = .ok text ∧
        Engine.callName text = name := by
  simp only [Engine.calls, Value.ofText, Dialect.canonical] at hfound
  split at hfound
  next hparse =>
    obtain rfl := Except.ok.inj hfound
    simp [hparse]
  next => cases hfound
  next tree hparse =>
    constructor
    · intro hname
      obtain ⟨call, hcall, rfl⟩ := List.mem_map.mp hname
      obtain ⟨node, hnode, hcalled⟩ := exists_item_of_mapM hfound hcall
      rw [List.mem_filter] at hnode
      simp only [bind_eq_ok, pure_eq_ok] at hcalled
      obtain ⟨text, hrender, rfl⟩ := hcalled
      exact ⟨tree, node, text, hparse, hnode.1, hnode.2, hrender, rfl⟩
    · rintro ⟨other, node, text, hother, hnode, hisCall, hrender, rfl⟩
      obtain rfl : tree = other := Option.some.inj (Except.ok.inj (hparse.symm.trans hother))
      obtain ⟨call, hcall, hcalled⟩ :=
        exists_result_of_mapM hfound (List.mem_filter.mpr ⟨hnode, hisCall⟩)
      simp only [hrender, bind_eq_ok, Except.ok.injEq, exists_eq_left', pure_eq_ok] at hcalled
      exact List.mem_map.mpr ⟨call, hcall, by rw [← hcalled]⟩

/-- The functions that a model calls are the names of the calls that the engine reads in it. -/
theorem mem_modelFunctions {engine : Engine} {adapter model : Text} {names : List Text}
    (hnames : modelFunctions engine (.ofText adapter) model = .ok names) {name : Text} :
    name ∈ names ↔ ∃ sql,
      Model.HasCall engine (.named (Dialect.canonicalName adapter)) model sql ∧
        Engine.callName sql = name := by
  simp only [modelFunctions, bind_eq_ok, pure_eq_ok] at hnames
  obtain ⟨regions, hregions, calls, hcalls, rfl⟩ := hnames
  constructor
  · intro hname
    obtain ⟨call, hcall, rfl⟩ := List.mem_map.mp hname
    obtain ⟨found, hfound, hmem⟩ := List.mem_flatten.mp hcall
    obtain ⟨region, hregion, hanswer⟩ := exists_item_of_mapM hcalls hfound
    simp only [sqlRegions] at hregion
    split at hregion
    · cases hregion
    next hvisible =>
      obtain rfl := List.mem_singleton.mp hregion
      obtain ⟨tree, node, sql, hparse, hnode, hisCall, hrender, hcalled⟩ :=
        (mem_calls hanswer).mp (List.mem_map_of_mem hmem)
      exact ⟨sql, ⟨regions, tree, node, hregions, by simpa using hvisible, hparse, hnode, hisCall,
        hrender⟩, hcalled⟩
  · rintro ⟨sql, ⟨others, tree, node, hothers, hvisible, hparse, hnode, hisCall, hrender⟩, rfl⟩
    obtain rfl : regions = others := Except.ok.inj (hregions.symm.trans hothers)
    have hregion : (⟨0, model.length, maskedSql regions⟩ : SqlRegion) ∈
        sqlRegions model regions := by
      simp [sqlRegions, hvisible]
    obtain ⟨found, hfound, hanswer⟩ := exists_result_of_mapM hcalls hregion
    have hname := (mem_calls hanswer).mpr ⟨tree, node, sql, hparse, hnode, hisCall, hrender, rfl⟩
    obtain ⟨call, hcall, hcalled⟩ := List.mem_map.mp hname
    exact List.mem_map.mpr ⟨call, List.mem_flatten.mpr ⟨found, hfound, hcall⟩, hcalled⟩

/-! ## Functions that are found -/

/-- Settings that turn scanning off have no models. -/
theorem modelPaths_of_load {tree : Tree} {path : Path} {settings : Settings}
    (hload : Settings.load tree path = .ok settings)
    (hoff : settings.scanProject.isTruthy = false) : settings.modelPaths = [] := by
  have hvalue : ∃ value, Settings.ofValue path.parent value = .ok settings := by
    unfold Settings.load at hload
    obtain ⟨found, -, hload⟩ := bind_eq_ok.mp hload
    split at hload
    · cases hload
    · obtain ⟨content, -, hload⟩ := bind_eq_ok.mp hload
      obtain ⟨value, -, hload⟩ := bind_eq_ok.mp hload
      exact ⟨value, hload⟩
  obtain ⟨value, hvalue⟩ := hvalue
  dsimp only [Settings.ofValue] at hvalue
  split at hvalue
  · cases hvalue
  · obtain ⟨adapters, -, hvalue⟩ := bind_eq_ok.mp hvalue
    split at hvalue
    · cases hvalue
    · obtain ⟨count, -, hvalue⟩ := bind_eq_ok.mp hvalue
      split at hvalue
      · cases hvalue
      · obtain ⟨output, -, hvalue⟩ := bind_eq_ok.mp hvalue
        obtain ⟨macroOutput, -, hvalue⟩ := bind_eq_ok.mp hvalue
        obtain ⟨scanProject, -, hvalue⟩ := bind_eq_ok.mp hvalue
        split at hvalue
        next hon =>
          obtain ⟨field, -, hvalue⟩ := bind_eq_ok.mp hvalue
          obtain ⟨listed, -, hvalue⟩ := bind_eq_ok.mp hvalue
          obtain ⟨paths, -, hvalue⟩ := bind_eq_ok.mp hvalue
          rw [← pure_eq_ok.mp hvalue, hon] at hoff
          cases hoff
        next =>
          obtain ⟨paths, hpaths, hvalue⟩ := bind_eq_ok.mp hvalue
          rw [← pure_eq_ok.mp hvalue, ← pure_eq_ok.mp hpaths]

/-- The functions that are read in the models of a project are those that they call. -/
theorem mem_folderFunctions {engine : Engine} {tree : Tree} {settings : Settings} {primary : Text}
    {names : List (List Text)} (hnames : settings.modelPaths.mapM
      (folderFunctions engine tree (.ofText primary)) = .ok names) {name : Text} :
    name ∈ names.flatten ↔
      Calls engine (.named (Dialect.canonicalName primary)) tree settings name := by
  constructor
  · intro hname
    obtain ⟨folderNames, hfolderNames, hname⟩ := List.mem_flatten.mp hname
    obtain ⟨folder, hfolder, hfound⟩ := exists_item_of_mapM hnames hfolderNames
    simp only [folderFunctions, bind_eq_ok, pure_eq_ok] at hfound
    obtain ⟨models, hmodels, fileNames, hfileNames, rfl⟩ := hfound
    obtain ⟨found, hfound, hname⟩ := List.mem_flatten.mp hname
    obtain ⟨path, hpath, hfile⟩ := exists_item_of_mapM hfileNames hfound
    simp only [fileFunctions] at hfile
    split at hfile
    next model hmodel =>
      obtain ⟨sql, hcall, hcalled⟩ := (mem_modelFunctions hfile).mp hname
      exact ⟨model, sql, ⟨folder, hfolder, models, hmodels, path, hpath, hmodel⟩, hcall, hcalled⟩
    next =>
      obtain rfl := Except.ok.inj hfile
      cases hname
  · rintro ⟨model, sql, ⟨folder, hfolder, models, hmodels, path, hpath, hmodel⟩, hcall, rfl⟩
    obtain ⟨folderNames, hfolderNames, hfound⟩ := exists_result_of_mapM hnames hfolder
    simp only [folderFunctions, hmodels, bind_eq_ok, Except.ok.injEq, exists_eq_left',
      pure_eq_ok] at hfound
    obtain ⟨fileNames, hfileNames, rfl⟩ := hfound
    obtain ⟨found, hfound, hfile⟩ := exists_result_of_mapM hfileNames hpath
    simp only [fileFunctions, hmodel] at hfile
    have hname := (mem_modelFunctions hfile).mpr ⟨sql, hcall, rfl⟩
    exact List.mem_flatten.mpr ⟨_, hfolderNames, List.mem_flatten.mpr ⟨found, hfound, hname⟩⟩

/-- A scan finds the functions that one of the adapters knows and one of the models calls. -/
theorem mem_scan_iff {engine : Engine} {tree : Tree} {settings : Settings}
    {counts : List (Text × Nat)} {primary : Text} {others : List Text}
    (hadapters : settings.adapters = .list ((primary :: others).map .ofText))
    (htwo : others ≠ []) (hpaths : settings.scanProject.isTruthy = false → settings.modelPaths = [])
    (hscan : scan engine tree settings = .ok counts) {name : Text} :
    name ∈ counts.map (·.1) ↔ engine.Knows (primary :: others) name ∧
      Calls engine (.named (Dialect.canonicalName primary)) tree settings name := by
  unfold scan at hscan
  split at hscan
  next hoff =>
    have hnone := hpaths (by simpa using hoff)
    obtain rfl := pure_eq_ok.mp hscan
    simp [Calls, Reads, hnone]
  next =>
    rw [hadapters] at hscan
    simp only [List.map_cons, Value.first, bind_eq_ok, Except.ok.injEq, exists_eq_left',
      pure_eq_ok] at hscan
    obtain ⟨names, hnames, known, hknown, rfl⟩ := hscan
    have hlength : 2 ≤ (primary :: others).length := by
      have := List.length_pos_iff.mpr htwo
      simp only [List.length_cons]
      omega
    have hcalled : name ∈ (tally names.flatten).map (·.1) ↔
        Calls engine (.named (Dialect.canonicalName primary)) tree settings name :=
      mem_tally.trans (mem_folderFunctions hnames)
    rw [← Engine.mem_differences_iff hlength hknown, ← hcalled]
    simp only [List.mem_map, List.mem_filter, List.contains_iff_mem]
    constructor
    · rintro ⟨count, ⟨hcount, hreported⟩, rfl⟩
      exact ⟨hreported, count, hcount, rfl⟩
    · rintro ⟨hreported, count, hcount, rfl⟩
      exact ⟨count, ⟨hcount, hreported⟩, rfl⟩

end PortableSql.Project

import PortableSql.Proofs.Model.Outcome
import PortableSql.Proofs.Project.Scan
import PortableSql.Proofs.Project.Visits

/-!
# Counting calls

A scan visits the models that a conversion visits, and counts the calls in all of them together. It
succeeds exactly if the regions of each model can be told and the engine does not read its SQL as
nothing. The count of a function is the number of its calls, so it does not depend on the order of
the models.
-/

namespace PortableSql

namespace Project

open Sql Template

/-! ## Success -/

/-- The engine reads the SQL of a model as nothing, without saying that it cannot be read. -/
def LacksTree (engine : Engine) (dialect : Dialect) (model : Text) : Prop :=
  ∃ regions, Template.regions model = .ok regions ∧ Text.strip (maskedSql regions) ≠ [] ∧
    engine.parse (maskedSql regions) dialect = .ok none

/-- The calls of a text can be told unless the engine reads it as nothing. -/
theorem calls_ok_iff {engine : Engine} (hengine : engine.IsWriting) {adapter sql : Text} :
    (∃ found, engine.calls sql (.ofText adapter) = .ok found) ↔
      engine.parse sql (.named (Dialect.canonicalName adapter)) ≠ .ok none := by
  simp only [Engine.calls, Value.ofText, Dialect.canonical]
  split
  next fault hparse => exact iff_of_true ⟨[], rfl⟩ (by simp [hparse])
  next hparse => exact iff_of_false (by simp) (by simp [hparse])
  next tree hparse =>
    refine iff_of_true (mapM_ok_iff.mpr fun node hnode => ?_) (by simp [hparse])
    obtain ⟨text, htext⟩ :=
      (hengine sql _ tree hparse node (List.mem_of_mem_filter hnode)).named
        (Dialect.canonicalName adapter)
    exact ⟨_, bind_eq_ok.mpr ⟨text, htext, rfl⟩⟩

/-- The functions that a model calls can be told exactly if there is no numeral in its tags and the
engine does not read its SQL as nothing. -/
theorem modelFunctions_ok_iff {engine : Engine} (hengine : engine.IsWriting)
    {adapter model : Text} :
    (∃ names, modelFunctions engine (.ofText adapter) model = .ok names) ↔
      hasNumeral model = false ∧
        ¬LacksTree engine (.named (Dialect.canonicalName adapter)) model := by
  rw [← regions_ok_iff]
  constructor
  · rintro ⟨names, hnames⟩
    obtain ⟨regions, hregions, hnames⟩ := bind_eq_ok.mp hnames
    obtain ⟨calls, hcalls, -⟩ := bind_eq_ok.mp hnames
    refine ⟨⟨regions, hregions⟩, ?_⟩
    rintro ⟨others, hothers, hvisible, hparse⟩
    obtain rfl := Except.ok.inj (hregions.symm.trans hothers)
    have hregion : (⟨0, model.length, maskedSql regions⟩ : SqlRegion) ∈
        sqlRegions model regions := by
      simp [sqlRegions, hvisible]
    obtain ⟨found, -, hfound⟩ := exists_result_of_mapM hcalls hregion
    exact (calls_ok_iff hengine).mp ⟨found, hfound⟩ hparse
  · rintro ⟨⟨regions, hregions⟩, htree⟩
    have hcalls : ∃ calls, (sqlRegions model regions).mapM (fun region =>
        engine.calls region.masked (.ofText adapter)) = .ok calls := by
      refine mapM_ok_iff.mpr fun region hregion => (calls_ok_iff hengine).mpr fun hparse => ?_
      simp only [sqlRegions] at hregion
      split at hregion
      · cases hregion
      next hvisible =>
        obtain rfl := List.mem_singleton.mp hregion
        exact htree ⟨regions, hregions, by simpa using hvisible, hparse⟩
    obtain ⟨calls, hcalls⟩ := hcalls
    exact ⟨_, bind_eq_ok.mpr ⟨regions, hregions, bind_eq_ok.mpr ⟨calls, hcalls, rfl⟩⟩⟩

/-- The functions that a file calls can be told if it has no text or if those of its text can. -/
theorem fileFunctions_ok_iff {engine : Engine} (hengine : engine.IsWriting) {tree : Tree}
    {adapter : Text} {path : Path} :
    (∃ names, fileFunctions engine tree (.ofText adapter) path = .ok names) ↔
      ∀ model, tree.readText? path = some model → hasNumeral model = false ∧
        ¬LacksTree engine (.named (Dialect.canonicalName adapter)) model := by
  unfold fileFunctions
  cases tree.readText? path with
  | none => simp
  | some model => simp [modelFunctions_ok_iff hengine]

/-! ## Visits -/

/-- The names of the functions that the models of a listing call. -/
def listedFunctions (engine : Engine) (tree : Tree) (primary : Value)
    (listing : Except Fault (List Path)) : Except Fault (List Text) := do
  return ((← (← listing).mapM (fileFunctions engine tree primary))).flatten

/-- A scan of models that were listed in some way, with a listing for each path. -/
def scanListed (engine : Engine) (tree : Tree) (settings : Settings)
    (listings : List (Except Fault (List Path))) : Except Fault (List (Text × Nat)) := do
  if !settings.scanProject.isTruthy then return []
  let primary ← settings.adapters.first
  let names ← listings.mapM (listedFunctions engine tree primary)
  let known ← engine.differences settings.adapters
  return (tally names.flatten).filter fun count => known.contains count.1

/-- A scan lists the models below each path in their usual order. -/
theorem scan_eq_scanListed (engine : Engine) (tree : Tree) (settings : Settings) :
    scan engine tree settings =
      scanListed engine tree settings (settings.modelPaths.map tree.models) := by
  unfold scan scanListed
  simp only [List.mapM_map]
  rfl

/-- The names that are found in several listings are those of the models that are listed. -/
theorem listedFunctions_eq_ok {engine : Engine} {tree : Tree} {primary : Value}
    {listings : List (Except Fault (List Path))} {names : List Text} :
    (∃ lists, listings.mapM (listedFunctions engine tree primary) = .ok lists ∧
        lists.flatten = names) ↔
      ∃ visited found, listings.mapM id = .ok visited ∧
        visited.flatten.mapM (fileFunctions engine tree primary) = .ok found ∧
        found.flatten = names := by
  induction listings generalizing names with
  | nil =>
    constructor
    · rintro ⟨lists, hnone, rfl⟩
      obtain rfl := Except.ok.inj hnone
      exact ⟨[], [], rfl, rfl, rfl⟩
    · rintro ⟨visited, found, hvisits, hfound, rfl⟩
      obtain rfl := Except.ok.inj hvisits
      obtain rfl := Except.ok.inj hfound
      exact ⟨[], rfl, rfl⟩
  | cons listing listings ih =>
    rw [List.mapM_cons, List.mapM_cons]
    constructor
    · rintro ⟨lists, hlists, rfl⟩
      obtain ⟨first, hfirst, hlists⟩ := bind_eq_ok.mp hlists
      obtain ⟨rest, hrest, hlists⟩ := bind_eq_ok.mp hlists
      obtain rfl := pure_eq_ok.mp hlists
      obtain ⟨models, hmodels, hfirst⟩ := bind_eq_ok.mp hfirst
      obtain ⟨earlier, hearlier, hfirst⟩ := bind_eq_ok.mp hfirst
      obtain rfl := pure_eq_ok.mp hfirst
      obtain ⟨visited, later, hvisits, hlater, hsame⟩ := ih.mp ⟨rest, hrest, rfl⟩
      refine ⟨models :: visited, earlier ++ later, bind_eq_ok.mpr ⟨models, hmodels,
        bind_eq_ok.mpr ⟨visited, hvisits, rfl⟩⟩, mapM_append_eq_ok.mpr ⟨earlier, later, hearlier,
        hlater, rfl⟩, ?_⟩
      rw [List.flatten_append, List.flatten_cons, hsame]
    · rintro ⟨visited, found, hvisits, hfound, rfl⟩
      obtain ⟨models, hmodels, hvisits⟩ := bind_eq_ok.mp hvisits
      obtain ⟨others, hothers, hvisits⟩ := bind_eq_ok.mp hvisits
      obtain rfl := pure_eq_ok.mp hvisits
      obtain ⟨earlier, later, hearlier, hlater, rfl⟩ := mapM_append_eq_ok.mp hfound
      obtain ⟨lists, hlists, hsame⟩ := ih.mpr ⟨others, later, hothers, hlater, rfl⟩
      refine ⟨earlier.flatten :: lists, bind_eq_ok.mpr ⟨_, ?_, bind_eq_ok.mpr ⟨lists, hlists,
        rfl⟩⟩, ?_⟩
      · exact bind_eq_ok.mpr ⟨models, hmodels, bind_eq_ok.mpr ⟨earlier, hearlier, rfl⟩⟩
      · rw [List.flatten_append, List.flatten_cons, hsame]

/-- A scan that is turned off finds nothing. -/
theorem scan_eq_nil {settings : Settings} (hoff : settings.scanProject.isTruthy = false)
    (engine : Engine) (tree : Tree) : scan engine tree settings = .ok [] := by
  rw [scan, hoff]
  rfl

/-- Scanning listed models is counting the calls in all of them, unless scanning is turned off. -/
theorem scanListed_eq_ok {engine : Engine} {tree : Tree} {settings : Settings}
    {listings : List (Except Fault (List Path))} {counts : List (Text × Nat)}
    (hon : settings.scanProject.isTruthy = true) :
    scanListed engine tree settings listings = .ok counts ↔
      ∃ primary visited found known, settings.adapters.first = .ok primary ∧
        listings.mapM id = .ok visited ∧
        visited.flatten.mapM (fileFunctions engine tree primary) = .ok found ∧
        engine.differences settings.adapters = .ok known ∧
        counts = (tally found.flatten).filter fun count => known.contains count.1 := by
  have hscan : scanListed engine tree settings listings = do
      let primary ← settings.adapters.first
      let names ← listings.mapM (listedFunctions engine tree primary)
      let known ← engine.differences settings.adapters
      return (tally names.flatten).filter fun count => known.contains count.1 := by
    rw [scanListed, hon]
    rfl
  rw [hscan]
  constructor
  · intro hcounts
    obtain ⟨primary, hprimary, hcounts⟩ := bind_eq_ok.mp hcounts
    obtain ⟨names, hnames, hcounts⟩ := bind_eq_ok.mp hcounts
    obtain ⟨known, hknown, hcounts⟩ := bind_eq_ok.mp hcounts
    obtain ⟨visited, found, hvisits, hfound, hsame⟩ :=
      listedFunctions_eq_ok.mp ⟨names, hnames, rfl⟩
    refine ⟨primary, visited, found, known, hprimary, hvisits, hfound, hknown, ?_⟩
    rw [hsame, pure_eq_ok.mp hcounts]
  · rintro ⟨primary, visited, found, known, hprimary, hvisits, hfound, hknown, rfl⟩
    obtain ⟨names, hnames, hsame⟩ :=
      listedFunctions_eq_ok.mpr ⟨visited, found, hvisits, hfound, rfl⟩
    refine bind_eq_ok.mpr ⟨primary, hprimary, bind_eq_ok.mpr ⟨names, hnames, ?_⟩⟩
    rw [hsame]
    exact bind_eq_ok.mpr ⟨known, hknown, rfl⟩

/-- Scanning a project is counting the calls in the models that are visited, unless scanning is
turned off. -/
theorem scan_eq_ok {engine : Engine} {tree : Tree} {settings : Settings}
    {counts : List (Text × Nat)} (hon : settings.scanProject.isTruthy = true) :
    scan engine tree settings = .ok counts ↔
      ∃ primary visited found known, settings.adapters.first = .ok primary ∧
        tree.visits settings.modelPaths = .ok visited ∧
        visited.mapM (fileFunctions engine tree primary) = .ok found ∧
        engine.differences settings.adapters = .ok known ∧
        counts = (tally found.flatten).filter fun count => known.contains count.1 := by
  rw [scan_eq_scanListed, scanListed_eq_ok hon]
  rw [List.mapM_map, Function.id_comp]
  constructor
  · rintro ⟨primary, lists, found, known, hprimary, hlists, hrest⟩
    exact ⟨primary, lists.flatten, found, known, hprimary,
      Tree.visits_eq_ok.mpr ⟨lists, hlists, rfl⟩, hrest⟩
  · rintro ⟨primary, visited, found, known, hprimary, hvisits, hrest⟩
    obtain ⟨lists, hlists, rfl⟩ := Tree.visits_eq_ok.mp hvisits
    exact ⟨primary, lists, found, known, hprimary, hlists, hrest⟩

/-! ## Counts -/

/-- How often a name was counted. -/
def countOf (counts : List (Text × Nat)) (name : Text) : Nat :=
  (counts.lookup name).getD 0

/-- The first count of a name is the one that counts. -/
theorem countOf_cons (count : Text × Nat) (counts : List (Text × Nat)) (name : Text) :
    countOf (count :: counts) name = if count.1 = name then count.2 else countOf counts name := by
  obtain ⟨first, n⟩ := count
  by_cases hname : first = name
  · simp [countOf, hname]
  · have hother : (name == first) = false := by simpa using Ne.symm hname
    simp [countOf, List.lookup_cons, hname, hother]

/-- Adding a name adds one to its count. -/
theorem countOf_addName (counts : List (Text × Nat)) (name other : Text) :
    countOf (addName counts name) other =
      countOf counts other + if name = other then 1 else 0 := by
  by_cases hother : name = other
  · subst hother
    have hraised : ((counts.map fun count =>
        if count.1 == name then (name, count.2 + 1) else count).lookup name) =
          (counts.lookup name).map (· + 1) := by
      induction counts with
      | nil => rfl
      | cons count counts ih =>
        obtain ⟨first, n⟩ := count
        by_cases hfirst : first = name
        · simp [hfirst]
        · have hnot : (name == first) = false := by simpa using Ne.symm hfirst
          simpa [List.lookup_cons, hfirst, hnot] using ih
    unfold addName countOf
    split
    next hfound =>
      obtain ⟨n, hn⟩ := Option.isSome_iff_exists.mp hfound
      rw [hraised, hn, if_pos rfl]
      rfl
    next hnew =>
      rw [Bool.not_eq_true, Option.isSome_eq_false_iff, Option.isNone_iff_eq_none] at hnew
      simp [List.lookup_append, hnew]
  · have hkept : countOf (counts.map fun count =>
        if count.1 == name then (name, count.2 + 1) else count) other = countOf counts other := by
      induction counts with
      | nil => rfl
      | cons count counts ih =>
        rw [List.map_cons, countOf_cons, countOf_cons, ih]
        by_cases hfirst : count.1 = name
        · simp [hfirst, hother]
        · simp [hfirst]
    rw [if_neg hother, Nat.add_zero, addName]
    split
    · exact hkept
    · have hnot : (other == name) = false := by simpa using Ne.symm hother
      simp [countOf, List.lookup_append, List.lookup_cons, hnot]

/-- The count of a name is how often it occurs. -/
theorem countOf_tally (names : List Text) (name : Text) :
    countOf (tally names) name = names.count name := by
  have hstep (counts : List (Text × Nat)) :
      countOf (names.foldl addName counts) name = countOf counts name + names.count name := by
    induction names generalizing counts with
    | nil => rfl
    | cons first rest ih =>
      rw [List.foldl_cons, ih, countOf_addName, List.count_cons]
      simp only [beq_iff_eq]
      omega
  rw [tally, hstep, countOf, List.lookup_nil, Option.getD_none, Nat.zero_add]

/-- Counts of known functions are kept, and those of others are dropped. -/
theorem countOf_filter (counts : List (Text × Nat)) (known : List Text) (name : Text) :
    countOf (counts.filter fun count => known.contains count.1) name =
      if name ∈ known then countOf counts name else 0 := by
  induction counts with
  | nil => simp [countOf]
  | cons count counts ih =>
    rw [List.filter_cons]
    split
    next hkept =>
      rw [countOf_cons, countOf_cons, ih]
      split
      next hname => rw [if_pos (by simpa [hname] using hkept)]
      next => rfl
    next hdropped =>
      rw [ih, countOf_cons]
      split
      next hknown =>
        rw [if_neg]
        rintro rfl
        exact hdropped (by simpa using hknown)
      next => rfl

/-- No name is counted twice. -/
theorem nodup_tally (names : List Text) : ((tally names).map (·.1)).Nodup := by
  have hstep (counts : List (Text × Nat)) (hcounts : (counts.map (·.1)).Nodup) :
      ((names.foldl addName counts).map (·.1)).Nodup := by
    induction names generalizing counts with
    | nil => exact hcounts
    | cons name names ih =>
      refine ih (addName counts name) ?_
      rw [map_fst_addName]
      split
      next => exact hcounts
      next hnew => exact List.nodup_append.mpr ⟨hcounts, List.nodup_singleton name, by
        rintro first hfirst _ hname rfl
        exact hnew (List.mem_singleton.mp hname ▸ hfirst)⟩
  exact hstep [] List.nodup_nil

/-- If no name is counted twice, a name has the count that is found for it. -/
theorem countOf_of_mem {counts : List (Text × Nat)} (hnodup : (counts.map (·.1)).Nodup)
    {name : Text} {n : Nat} (hmem : (name, n) ∈ counts) : countOf counts name = n := by
  induction counts with
  | nil => cases hmem
  | cons count counts ih =>
    obtain ⟨hfirst, hrest⟩ := List.nodup_cons.mp hnodup
    rw [countOf_cons]
    rcases List.mem_cons.mp hmem with rfl | hmem
    · rw [if_pos rfl]
    · rw [if_neg, ih hrest hmem]
      rintro rfl
      exact hfirst (List.mem_map.mpr ⟨_, hmem, rfl⟩)

/-- A tally has an entry for each name that occurs, with the number of its occurrences. -/
theorem mem_tally_iff {names : List Text} {name : Text} {n : Nat} :
    (name, n) ∈ tally names ↔ 0 < n ∧ n = names.count name := by
  constructor
  · intro hmem
    have hcount := countOf_of_mem (nodup_tally names) hmem
    have hoccurs : name ∈ names := mem_tally.mp (List.mem_map_of_mem hmem)
    rw [countOf_tally] at hcount
    rw [← hcount]
    exact ⟨List.count_pos_iff.mpr hoccurs, rfl⟩
  · rintro ⟨hpositive, rfl⟩
    have hoccurs : name ∈ names := List.count_pos_iff.mp hpositive
    obtain ⟨⟨other, n⟩, hmem, rfl⟩ := List.mem_map.mp (mem_tally.mpr hoccurs)
    have hcount := countOf_of_mem (nodup_tally names) hmem
    rw [countOf_tally] at hcount
    rwa [hcount]

end Project

end PortableSql

import PortableSql.Proofs.Project.Counting
import PortableSql.Proofs.Project.Parts
import PortableSql.Proofs.Project.Repetition

/-!
# Models one by one

A scan and a conversion take the models of a project one after the other, and one of them can make
the whole fail. This happens exactly if there is a numeral in a tag of a model, or, in a scan, if
the engine reads the SQL of a model as nothing, or, in a conversion, if a model that is changed
cannot be written. When nothing fails, each model gets what it would get if it were the only one:
its calls are counted on top of those of the others, and a model that is visited once is rewritten
as it is alone. A model that is visited twice is converted twice, so the second visit reads what the
first one wrote.
-/

namespace PortableSql

open Sql Template

namespace Tree

/-- The tree with the model of a path as its only one. -/
def alone (tree : Tree) (path : Path) : Tree :=
  tree.keeping fun location => decide (tree.locate path = .ok location)

/-- The tree with all models but that of a path. -/
def without (tree : Tree) (path : Path) : Tree :=
  tree.keeping fun location => !decide (tree.locate path = .ok location)

end Tree

namespace Project

/-! ## Scanning -/

/-- A model is scanned in its part of a tree as in the whole. -/
theorem fileFunctions_keeping {engine : Engine} {tree : Tree} (hunique : tree.IsUnambiguous)
    {primary : Value} {keep : Location → Bool} {path : Path}
    (hkeep : ∀ location, tree.locate path = .ok location → keep location = true) :
    fileFunctions engine (tree.keeping keep) primary path =
      fileFunctions engine tree primary path := by
  unfold fileFunctions
  rw [Tree.readText?_keeping hunique hkeep]

/-- The counts of a project are those of its two parts together. -/
theorem scan_keeping {engine : Engine} {tree : Tree} {settings : Settings}
    {counts : List (Text × Nat)} (htree : tree.IsFileSystem)
    (hscan : scan engine tree settings = .ok counts) (keep : Location → Bool) :
    ∃ own others, scan engine (tree.keeping keep) settings = .ok own ∧
      scan engine (tree.keeping fun location => !keep location) settings = .ok others ∧
      ∀ name, countOf counts name = countOf own name + countOf others name := by
  cases hon : settings.scanProject.isTruthy with
  | false =>
    obtain rfl := Except.ok.inj ((scan_eq_nil hon engine tree).symm.trans hscan)
    exact ⟨[], [], scan_eq_nil hon engine _, scan_eq_nil hon engine _, fun _ => rfl⟩
  | true =>
    obtain ⟨primary, visited, found, known, hprimary, hvisits, hfound, hknown, rfl⟩ :=
      (scan_eq_ok hon).mp hscan
    obtain ⟨own, others, hown, hothers, hdivides⟩ := Tree.visits_keeping htree hvisits keep
    obtain ⟨again, hagain, hperm⟩ := mapM_perm hdivides.perm hfound
    obtain ⟨ownFound, othersFound, hownFound, hothersFound, rfl⟩ := mapM_append_eq_ok.mp hagain
    refine ⟨_, _, (scan_eq_ok hon).mpr ⟨primary, own, ownFound, known, hprimary, hown, ?_, hknown,
      rfl⟩, (scan_eq_ok hon).mpr ⟨primary, others, othersFound, known, hprimary, hothers, ?_,
      hknown, rfl⟩, fun name => ?_⟩
    · rw [← hownFound]
      exact mapM_congr fun path hpath =>
        fileFunctions_keeping htree.unambiguous (hdivides.kept path hpath)
    · rw [← hothersFound]
      refine mapM_congr fun path hpath => fileFunctions_keeping htree.unambiguous ?_
      intro location hlocate
      rw [hdivides.dropped path hpath location hlocate, Bool.not_false]
    · have hcount : found.flatten.count name =
          ownFound.flatten.count name + othersFound.flatten.count name := by
        rw [hperm.flatten.count_eq, List.flatten_append, List.count_append]
      simp only [countOf_filter, countOf_tally, hcount]
      split <;> rfl

/-! ## Converting -/

section Converting

variable {engine : Engine} {adapters : Value} {primary : Dialect}

/-- A file is converted alike in two trees with the same folders and locks and with the same file
there. -/
theorem convertFile_elsewhere {first second after : Tree} (hsame : first.SameFolders second)
    (hlocked : first.locked = second.locked) {path : Path} {location : Location}
    (hlocate : first.locate path = .ok location)
    (hlookup : first.lookup location = second.lookup location) {changes : Bool}
    (hyields : Yields (convertFile engine adapters primary false path) first changes after) :
    ∃ other, Yields (convertFile engine adapters primary false path) second changes other ∧
      other.lookup location = after.lookup location := by
  have hread : first.readText? path = second.readText? path := by
    refine Tree.readText?_congr (fun _ => hsame.locate_iff) fun there hthere => ?_
    obtain rfl := Except.ok.inj (hlocate.symm.trans hthere)
    exact hlookup
  rcases convertFile_yields.mp hyields with ⟨hsettled, rfl, rfl⟩ | ⟨model, converted, there, hmodel,
    hconvert, hchanged, hopen, hthere, rfl, rfl⟩
  · refine ⟨second, convertFile_yields.mpr (.inl ⟨?_, rfl, rfl⟩), hlookup.symm⟩
    exact fun model hmodel => hsettled model (hread.trans hmodel)
  · obtain rfl := Except.ok.inj (hlocate.symm.trans hthere)
    refine ⟨_, convertFile_yields.mpr (.inr ⟨model, converted, location, hread ▸ hmodel, hconvert,
      hchanged, Tree.refuses_congr hlocked hlookup ▸ hopen, hsame.locate_iff.mp hlocate, rfl,
      rfl⟩), ?_⟩
    rw [Tree.lookup_put_self, Tree.lookup_put_self]

/-- A path is among those that are visited, and no other visit leads to its place. -/
def VisitedOnce (tree : Tree) (visited : List Path) (path : Path) : Prop :=
  ∃ first rest, visited = first ++ path :: rest ∧
    ∀ other ∈ first ++ rest, ¬SamePlace tree other path

/-- A model that is visited once is changed by its own visit only. -/
theorem convertFiles_once {before after : Tree} (hunique : before.IsUnambiguous)
    {visited changed : List Path} {path : Path} {location : Location}
    (honce : VisitedOnce before visited path) (hlocate : before.locate path = .ok location)
    (hyields : Yields (convertFiles engine adapters primary false visited) before changed after) :
    ∃ changes next, Yields (convertFile engine adapters primary false path) before changes next ∧
      next.lookup location = after.lookup location ∧ (path ∈ changed ↔ changes = true) := by
  obtain ⟨first, rest, rfl, hothers⟩ := honce
  obtain ⟨hfirst, hrest⟩ := List.forall_mem_append.mp hothers
  obtain ⟨earlier, between, last, hearlier, hlast, rfl⟩ := convertFiles_append.mp hyields
  obtain ⟨changes, next, later, hfile, hlater, rfl⟩ := convertFiles_cons.mp hlast
  have hbefore := convertFiles_rewrites hunique hearlier
  have hbetween : between.IsUnambiguous := hunique.of_outline hbefore.outline.symm
  have hown := convertFile_rewrites hbetween hfile
  have hafter := convertFiles_rewrites (hbetween.of_outline hown.outline.symm) hlater
  have hnext := hbefore.append hown
  -- Neither the visits before nor those after lead to the location.
  have hkept : between.lookup location = before.lookup location :=
    hbefore.others location fun other hother hsame =>
      hfirst other (convertFiles_subset hearlier hother) ⟨location, hsame, hlocate⟩
  have hlast : after.lookup location = next.lookup location :=
    hafter.others location fun other hother hsame =>
      hrest other (convertFiles_subset hlater hother)
        ⟨location, hnext.locate_iff.mpr hsame, hlocate⟩
  obtain ⟨other, hother, hsame⟩ := convertFile_elsewhere
    (Tree.sameFolders_of_outline hbefore.outline) hbefore.locked (hbefore.locate_iff.mp hlocate)
    hkept hfile
  refine ⟨changes, other, hother, hsame.trans hlast.symm, ?_⟩
  have hself : SamePlace before path path := ⟨location, hlocate, hlocate⟩
  have hnotFirst : path ∉ earlier := fun hmem =>
    hfirst path (convertFiles_subset hearlier hmem) hself
  have hnotRest : path ∉ later := fun hmem =>
    hrest path (convertFiles_subset hlater hmem) hself
  cases changes <;> simp [hnotFirst, hnotRest]

/-- Of several paths of which only one leads anywhere, only that one is converted. -/
theorem convertFiles_only {before next : Tree} (hunique : before.IsUnambiguous)
    {first rest : List Path} {path : Path} {changes : Bool}
    (hothers : ∀ other ∈ first ++ rest, ∀ location, before.locate other ≠ .ok location)
    (hfile : Yields (convertFile engine adapters primary false path) before changes next) :
    Yields (convertFiles engine adapters primary false (first ++ path :: rest)) before
      (if changes then [path] else []) next := by
  obtain ⟨hfirst, hrest⟩ := List.forall_mem_append.mp hothers
  have hsettled {tree : Tree} {other : Path}
      (hnone : ∀ location, tree.locate other ≠ .ok location) :
      Settled engine adapters primary tree other := by
    intro model hmodel
    obtain ⟨location, -, hlocate, -⟩ := Tree.readText?_eq_some.mp hmodel
    exact absurd hlocate (hnone location)
  have hrewrites := convertFile_rewrites hunique hfile
  refine convertFiles_append.mpr ⟨[], before, _, ?_, convertFiles_cons.mpr ⟨changes, next, [],
    hfile, ?_, (List.append_nil _).symm⟩, rfl⟩
  · exact convertFiles_nil_iff.mpr fun other hother => hsettled (hfirst other hother)
  · refine convertFiles_nil_iff.mpr fun other hother => hsettled fun location hlocate => ?_
    exact hrest other hother location (hrewrites.locate_iff.mpr hlocate)

end Converting

/-- A model that is visited once is converted as it is alone. -/
theorem convert_alone {engine : Engine} {settings : Settings} {tree after : Tree}
    (htree : tree.IsFileSystem) {visited changed : List Path}
    (hvisits : tree.visits settings.modelPaths = .ok visited)
    (hyields : Yields (convert engine settings false) tree changed after) {path : Path}
    {location : Location} (honce : VisitedOnce tree visited path)
    (hlocate : tree.locate path = .ok location) :
    ∃ next, Yields (convert engine settings false) (tree.alone path)
        (if path ∈ changed then [path] else []) next ∧
      next.lookup location = after.lookup location := by
  obtain ⟨primary, others, hprimary, hothers, hfiles⟩ :=
    (convert_yields htree.unambiguous).mp hyields
  obtain rfl := Except.ok.inj (hvisits.symm.trans hothers)
  obtain ⟨changes, own, hown, hkept, hchanged⟩ :=
    convertFiles_once htree.unambiguous honce hlocate hfiles
  obtain ⟨mine, rest, hmine, -, hdivides⟩ := Tree.visits_keeping htree hvisits
    fun other => decide (tree.locate path = .ok other)
  have hpart : tree.SameFolders (tree.alone path) := Tree.sameFolders_keeping htree.unambiguous _
  obtain ⟨next, hnext, hsame⟩ := convertFile_elsewhere hpart rfl hlocate
    (Tree.lookup_keeping htree.unambiguous (by simpa using hlocate)).symm hown
  refine ⟨next, (convert_yields (htree.unambiguous.keeping _)).mpr ⟨primary, mine, hprimary, hmine,
    ?_⟩, hsame.trans hkept⟩
  -- The path is visited in the part where it is alone, and no other visit leads anywhere there.
  obtain ⟨first, last, rfl, honly⟩ := honce
  have hmem : path ∈ mine := by
    have hmem := hdivides.perm.mem_iff.mp (List.mem_append_right first List.mem_cons_self)
    refine (List.mem_append.mp hmem).resolve_right fun hdropped => ?_
    simpa [hlocate] using hdivides.dropped path hdropped location hlocate
  obtain ⟨start, finish, rfl⟩ := List.append_of_mem hmem
  have hperm : (first ++ last).Perm (start ++ finish ++ rest) := by
    have hall := hdivides.perm
    rw [List.append_assoc, List.cons_append] at hall
    rw [List.append_assoc]
    exact (List.perm_middle.symm.trans (hall.trans List.perm_middle)).cons_inv
  have hnone : ∀ other ∈ start ++ finish, ∀ there, (tree.alone path).locate other ≠ .ok there := by
    intro other hother there hthere
    have hthere := hpart.locate_iff.mpr hthere
    refine honly other (hperm.mem_iff.mpr (List.mem_append_left _ hother)) ⟨there, hthere, ?_⟩
    have hown : other ∈ start ++ path :: finish := by
      rcases List.mem_append.mp hother with hother | hother
      · exact List.mem_append_left _ hother
      · exact List.mem_append_right _ (List.mem_cons_of_mem _ hother)
    simpa using hdivides.kept other hown there hthere
  have hlist : (if path ∈ changed then [path] else []) = if changes then [path] else [] := by
    simp only [hchanged]
  rw [hlist]
  exact convertFiles_only (htree.unambiguous.keeping _) hnone hnext

/-! ## Success -/

section Success

variable {engine : Engine} {names : List Text} {primary : Text}

/-- A file can be converted unless there is a numeral in the tags of its text, or its text changes
and the file cannot be written. -/
theorem convertFile_ok_iff (hengine : engine.IsWriting) {tree : Tree} {path : Path} :
    (∃ changes after, Yields (convertFile engine (.list (names.map .ofText)) (.named primary) false
        path) tree changes after) ↔
      ∀ model, tree.readText? path = some model → hasNumeral model = false ∧
        (Model.convert engine (.list (names.map .ofText)) (.named primary) model = .ok model ∨
          tree.permits path = true) := by
  constructor
  · rintro ⟨changes, after, hyields⟩ model hmodel
    rcases convertFile_yields.mp hyields with ⟨hsettled, -, -⟩ |
      ⟨other, converted, location, hother, hconvert, -, hopen, hlocate, -, -⟩
    · exact ⟨Model.hasNumeral_of_convert (hsettled model hmodel), .inl (hsettled model hmodel)⟩
    · obtain rfl := Option.some.inj (hmodel.symm.trans hother)
      have hpermits := (Tree.permits_of_locate hlocate).mpr hopen
      exact ⟨Model.hasNumeral_of_convert hconvert, .inr hpermits⟩
  · intro hmodels
    by_cases hsettled : Settled engine (.list (names.map .ofText)) (.named primary) tree path
    · exact ⟨false, tree, convertFile_yields.mpr (.inl ⟨hsettled, rfl, rfl⟩)⟩
    · unfold Settled at hsettled
      push Not at hsettled
      obtain ⟨model, hmodel, hunsettled⟩ := hsettled
      obtain ⟨hnumeral, hpermits⟩ := hmodels model hmodel
      obtain ⟨converted, hconvert⟩ := (Model.convert_ok_iff hengine model).mpr hnumeral
      have hchanged : converted ≠ model := by
        rintro rfl
        exact hunsettled hconvert
      obtain ⟨location, -, hlocate, -⟩ := Tree.readText?_eq_some.mp hmodel
      have hopen := (Tree.permits_of_locate hlocate).mp (hpermits.resolve_left hunsettled)
      exact ⟨true, _, convertFile_yields.mpr (.inr ⟨model, converted, location, hmodel, hconvert,
        hchanged, hopen, hlocate, rfl, rfl⟩)⟩

/-- Files at different places can be converted exactly if each of them can. -/
theorem convertFiles_ok_iff (hengine : engine.IsWriting) {tree : Tree}
    (hunique : tree.IsUnambiguous) {visited : List Path} (hapart : Apart tree visited) :
    (∃ changed after, Yields (convertFiles engine (.list (names.map .ofText)) (.named primary) false
        visited) tree changed after) ↔
      ∀ path ∈ visited, ∀ model, tree.readText? path = some model → hasNumeral model = false ∧
        (Model.convert engine (.list (names.map .ofText)) (.named primary) model = .ok model ∨
          tree.permits path = true) := by
  induction visited generalizing tree with
  | nil => exact iff_of_true ⟨[], tree, yields_pure.mpr ⟨rfl, rfl⟩⟩ (by simp)
  | cons path rest ih =>
    obtain ⟨hpath, hrest⟩ := List.pairwise_cons.mp hapart
    -- What the first visit leaves for the others: the same texts at different places.
    have hstep {changes : Bool} {between : Tree} (hfile : Yields (convertFile engine
        (.list (names.map .ofText)) (.named primary) false path) tree changes between) :
        (∃ changed after, Yields (convertFiles engine (.list (names.map .ofText)) (.named primary)
            false rest) between changed after) ↔
          ∀ other ∈ rest, ∀ model, tree.readText? other = some model → hasNumeral model = false ∧
            (Model.convert engine (.list (names.map .ofText)) (.named primary) model = .ok model ∨
              tree.permits other = true) := by
      have hrewrites : Rewrites tree between [path] :=
        (convertFile_rewrites hunique hfile).mono (by cases changes <;> simp)
      have hread := hrewrites.readText?_of_apart (List.forall_mem_singleton.mpr hpath)
      rw [ih (hunique.of_outline hrewrites.outline.symm) (Apart.kept hrest hrewrites)]
      refine forall₂_congr fun other hother => ?_
      rw [hread other hother, hrewrites.permits]
    rw [List.forall_mem_cons, ← convertFile_ok_iff hengine]
    constructor
    · rintro ⟨changed, after, hyields⟩
      obtain ⟨changes, between, later, hfile, hothers, -⟩ := convertFiles_cons.mp hyields
      exact ⟨⟨changes, between, hfile⟩, (hstep hfile).mp ⟨later, after, hothers⟩⟩
    · rintro ⟨⟨changes, between, hfile⟩, hothers⟩
      obtain ⟨later, after, hyields⟩ := (hstep hfile).mpr hothers
      exact ⟨_, after, convertFiles_cons.mpr ⟨changes, between, later, hfile, hyields, rfl⟩⟩

/-- A scan of adapters that the engine knows succeeds exactly if the calls of each model can be
told. -/
theorem scan_ok_iff (hengine : engine.IsWriting) {tree : Tree} {settings : Settings}
    (hadapters : settings.adapters = .list ((primary :: names).map .ofText))
    (hknown : ∀ name ∈ primary :: names,
      (engine.functions (.named (Dialect.canonicalName name))).isSome = true)
    {visited : List Path} (hvisits : tree.visits settings.modelPaths = .ok visited) :
    (∃ counts, scan engine tree settings = .ok counts) ↔
      (settings.scanProject.isTruthy = true → ∀ path ∈ visited, ∀ model,
        tree.readText? path = some model → hasNumeral model = false ∧
          ¬LacksTree engine (.named (Dialect.canonicalName primary)) model) := by
  cases hon : settings.scanProject.isTruthy with
  | false => exact iff_of_true ⟨[], scan_eq_nil hon engine tree⟩ (by simp)
  | true =>
    have hfiles : (∀ path ∈ visited, ∀ model, tree.readText? path = some model →
        hasNumeral model = false ∧
          ¬LacksTree engine (.named (Dialect.canonicalName primary)) model) ↔
        ∃ found, visited.mapM (fileFunctions engine tree (.ofText primary)) = .ok found := by
      rw [mapM_ok_iff]
      exact forall₂_congr fun path _ => (fileFunctions_ok_iff hengine).symm
    have hprimary : settings.adapters.first = .ok (.ofText primary) := by
      rw [hadapters]
      rfl
    rw [forall_prop_of_true rfl, hfiles]
    constructor
    · rintro ⟨counts, hcounts⟩
      obtain ⟨other, paths, found, -, hother, hpaths, hfound, -⟩ := (scan_eq_ok hon).mp hcounts
      obtain rfl := Except.ok.inj (hprimary.symm.trans hother)
      obtain rfl := Except.ok.inj (hvisits.symm.trans hpaths)
      exact ⟨found, hfound⟩
    · rintro ⟨found, hfound⟩
      obtain ⟨known, hreported⟩ := Engine.differences_ok hknown
      rw [← hadapters] at hreported
      exact ⟨_, (scan_eq_ok hon).mpr ⟨_, visited, found, known, hprimary, hvisits, hfound,
        hreported, rfl⟩⟩

end Success

/-- The engine cannot read a text, or it reads a tree that it can write. -/
theorem collectEngine_parse (sql : Text) (dialect : Dialect) :
    collectEngine.parse sql dialect = .error noEntry ∨
      ∃ tree, collectEngine.parse sql dialect = .ok (some tree) ∧
        ∀ node ∈ tree.walk, node.IsWritable := by
  simp only [collectEngine, Model.collectingEngine, Recording.engine]
  split
  next entry hentry =>
    obtain rfl := List.mem_singleton.mp (List.mem_of_find?_eq_some hentry)
    refine .inr ⟨_, rfl, fun node hnode => ?_⟩
    rcases List.mem_pair.mp hnode with rfl | rfl
    · exact ⟨fun _ => ⟨_, rfl⟩, _, rfl⟩
    · refine ⟨fun name => ?_, _, rfl⟩
      by_cases hname : name = "postgres".toList
      · subst hname
        exact ⟨_, rfl⟩
      · by_cases hstar : name = "*".toList
        · subst hstar
          exact ⟨_, rfl⟩
        · have hnone : List.lookup name [("postgres".toList, some "ARRAY_AGG(x)".toList),
              ("*".toList, some "COLLECT_LIST(x)".toList)] = none := by
            rw [List.lookup_cons, beq_false_of_ne hname, List.lookup_cons, beq_false_of_ne hstar]
            rfl
          refine ⟨"COLLECT_LIST(x)".toList, ?_⟩
          simp only [Node.render, Rendering.select?, Rendering.entry?, hnone]
          rfl
  next => exact .inl rfl

/-- The engine can write what it reads. -/
theorem collectEngine_isWriting : collectEngine.IsWriting := by
  intro sql dialect tree hparse
  rcases collectEngine_parse sql dialect with hnone | ⟨other, hother, hnodes⟩
  · rw [hnone] at hparse
    cases hparse
  · obtain rfl := Option.some.inj (Except.ok.inj (hparse.symm.trans hother))
    exact hnodes

/-- The engine reads no text as nothing. -/
theorem collectEngine_not_lacksTree (dialect : Dialect) (model : Text) :
    ¬LacksTree collectEngine dialect model := by
  rintro ⟨regions, -, -, hparse⟩
  rcases collectEngine_parse (maskedSql regions) dialect with hnone | ⟨tree, htree, -⟩
  · rw [hnone] at hparse
    cases hparse
  · rw [htree] at hparse
    cases hparse

/-- A project with a call in one of its two models. -/
def pairTree (first second : Text) : Tree :=
  folderedTree [("staging", "a.sql", first), ("models", "b.sql", second)]

end Project

end PortableSql

import PortableSql.Proofs.Project.Prediction

/-!
# Where work on a project may write

A path leads to one place only, whatever folders there are: names are added to the location and a
name that leads upwards takes one away. So the places that some work may write to are known from the
settings alone. Everywhere else files stay as they are, no file is ever removed, and at most folders
are added. This holds whether or not the work ends with a fault.
-/

namespace PortableSql

open Sql

/-! ## Targets of paths -/

/-- Where a name leads from a location. -/
def Location.advance (location : Location) (name : Text) : Location :=
  if name = ['.', '.'] then location.parent else location.child name

/-- Where a path leads, if it leads anywhere. -/
def Path.target (path : Path) : Location :=
  path.parts.foldl Location.advance (Tree.startOf path.anchor)

namespace Location

/-- No name of the location leads upwards. -/
def IsProper (location : Location) : Prop :=
  ['.', '.'] ∉ location.names

instance (location : Location) : Decidable location.IsProper :=
  inferInstanceAs (Decidable (_ ∉ _))

/-- Where a name leads from a proper location is proper. -/
theorem IsProper.advance {location : Location} (hproper : location.IsProper) (name : Text) :
    (location.advance name).IsProper := by
  unfold Location.advance
  split
  · unfold Location.parent
    split
    · exact List.not_mem_nil
    · exact hproper
    · exact fun hmem => hproper (List.mem_of_mem_dropLast hmem)
  next hname =>
    intro hmem
    rcases List.mem_append.mp hmem with hmem | hmem
    · exact hproper hmem
    · exact hname (List.mem_singleton.mp hmem).symm

/-- Where several names lead from a proper location is proper. -/
theorem IsProper.foldl {location : Location} (hproper : location.IsProper) (names : List Text) :
    (names.foldl Location.advance location).IsProper := by
  induction names generalizing location with
  | nil => exact hproper
  | cons name names ih => exact ih (hproper.advance name)

/-- Names that do not lead upwards are added to a location. -/
theorem foldl_advance {names : List Text} (hnames : ['.', '.'] ∉ names) (location : Location) :
    names.foldl Location.advance location = ⟨location.base, location.names ++ names⟩ := by
  induction names generalizing location with
  | nil => simp
  | cons name names ih =>
    rw [List.mem_cons, not_or] at hnames
    rw [List.foldl_cons, ih hnames.2, Location.advance, if_neg (Ne.symm hnames.1)]
    simp [Location.child]

end Location

/-- Paths lead to proper locations. -/
theorem Path.target_isProper (path : Path) : path.target.IsProper := by
  refine Location.IsProper.foldl ?_ path.parts
  cases path.anchor <;> exact List.not_mem_nil

namespace Tree

/-- A name leads where it is said to lead. -/
theorem step_eq_ok {folder location : Location} {name : Text}
    (hstep : step folder name = .ok location) : location = folder.advance name := by
  unfold step at hstep
  unfold Location.advance
  split at hstep
  next hup =>
    rw [if_pos (eq_of_beq hup)]
    exact (Except.ok.inj hstep).symm
  next hup =>
    split at hstep
    · cases hstep
    · rw [if_neg (by simpa using hup)]
      exact (Except.ok.inj hstep).symm

/-- Names that can be followed lead where they are said to lead. -/
theorem follow_eq_foldl {tree : Tree} {start location : Location} {names : List Text}
    (hfollow : tree.follow start names = .ok location) :
    location = names.foldl Location.advance start := by
  induction names generalizing start with
  | nil => exact (Except.ok.inj hfollow).symm
  | cons name names ih =>
    unfold follow at hfollow
    split at hfollow
    · cases hfollow
    · cases hfollow
    · obtain ⟨next, hstep, hfollow⟩ := bind_eq_ok.mp hfollow
      rw [List.foldl_cons, ← step_eq_ok hstep]
      exact ih hfollow

/-- A path leads to its target or nowhere. -/
theorem locate_eq_target {tree : Tree} {path : Path} {location : Location}
    (hlocate : tree.locate path = .ok location) : location = path.target := by
  obtain ⟨_, -, hfollow⟩ := bind_eq_ok.mp hlocate
  exact follow_eq_foldl hfollow

/-- A model that is listed for a folder is an entry below it. -/
theorem exists_below_of_mem_modelNames {tree : Tree} {folder : Location} {names : List Text}
    (hnames : names ∈ tree.modelNames folder) :
    ∃ entry ∈ tree.entries, folder.below? entry.1 = some names ∧ endsAsModel names = true := by
  obtain ⟨entry, hentry, hname⟩ :=
    List.mem_filterMap.mp ((modelNames_perm_entries tree folder).mem_iff.mp hnames)
  unfold modelName? at hname
  split at hname
  · cases hname
  · exact ⟨entry, hentry, Option.filter_eq_some_iff.mp hname⟩

/-! ## Changes of a tree -/

/-- No location in the tree has a name that leads upwards. -/
def IsProper (tree : Tree) : Prop :=
  ∀ entry ∈ tree.entries, entry.1.IsProper

instance (tree : Tree) : Decidable tree.IsProper :=
  inferInstanceAs (Decidable (∀ entry ∈ tree.entries, _))

/-- What may become of what stands at a location: it stays, a folder is made where nothing was, or a
file is written if this is a place for it. -/
inductive Fate (place : Prop) : Option Entry → Option Entry → Prop
  | kept (entry : Option Entry) : Fate place entry entry
  | founded : Fate place none (some .folder)
  | written (content : Content) {entry : Option Entry} (hfile : entry ≠ some .folder)
      (hplace : place) : Fate place entry (some (.file content))

/-- What becomes of a place in two steps may become of it in one. -/
theorem Fate.trans {place : Prop} {first second third : Option Entry}
    (hfirst : Fate place first second) (hsecond : Fate place second third) :
    Fate place first third := by
  cases hsecond with
  | kept => exact hfirst
  | founded =>
    cases hfirst with
    | kept => exact .founded
  | written content hfile hplace =>
    cases hfirst with
    | kept => exact .written content hfile hplace
    | founded => exact absurd rfl hfile
    | written _ hbefore _ => exact .written content hbefore hplace

/-- More places allow for more. -/
theorem Fate.mono {place other : Prop} (hplaces : place → other) {before after : Option Entry}
    (hfate : Fate place before after) : Fate other before after := by
  cases hfate with
  | kept => exact .kept _
  | founded => exact .founded
  | written content hfile hplace => exact .written content hfile (hplaces hplace)

/-- A folder stays. -/
theorem Fate.folder {place : Prop} {after : Option Entry}
    (hfate : Fate place (some .folder) after) : after = some .folder := by
  cases hfate with
  | kept => rfl
  | written content hfile _ => exact absurd rfl hfile

/-- A file stays a file, with its content unless this is a place for another one. -/
theorem Fate.file {place : Prop} {content : Content} {after : Option Entry}
    (hfate : Fate place (some (.file content)) after) :
    ∃ other, after = some (.file other) ∧ (¬place → other = content) := by
  cases hfate with
  | kept => exact ⟨content, rfl, fun _ => rfl⟩
  | written other _ hplace => exact ⟨other, rfl, fun hnot => absurd hplace hnot⟩

/-- Files are written at the given places only, and no file or folder is removed. -/
structure Changes (places : Location → Prop) (before after : Tree) : Prop where
  fate : ∀ location, Fate (places location) (before.lookup location) (after.lookup location)
  proper : before.IsProper → after.IsProper

/-- A tree may stay as it is. -/
theorem Changes.refl (places : Location → Prop) (tree : Tree) : Changes places tree tree :=
  ⟨fun _ => .kept _, id⟩

/-- Changes one after the other. -/
theorem Changes.trans {places : Location → Prop} {first second third : Tree}
    (hfirst : Changes places first second) (hsecond : Changes places second third) :
    Changes places first third :=
  ⟨fun location => (hfirst.fate location).trans (hsecond.fate location),
    fun hproper => hsecond.proper (hfirst.proper hproper)⟩

/-- Changes at some places are changes at more places. -/
theorem Changes.mono {places others : Location → Prop}
    (hplaces : ∀ location, places location → others location) {before after : Tree}
    (hchanges : Changes places before after) : Changes others before after :=
  ⟨fun location => (hchanges.fate location).mono (hplaces location), hchanges.proper⟩

/-- A tree stays proper when an entry is put at a proper location. -/
theorem isProper_put {tree : Tree} (htree : tree.IsProper) {location : Location}
    (hlocation : location.IsProper) (entry : Entry) : (tree.put location entry).IsProper := by
  intro other hother
  unfold put at hother
  split at hother
  · exact htree other hother
  · split at hother
    · obtain ⟨old, hold, rfl⟩ := List.mem_map.mp hother
      split
      · exact hlocation
      · exact htree old hold
    · rcases List.mem_append.mp hother with hother | hother
      · exact htree other hother
      · rw [List.mem_singleton.mp hother]
        exact hlocation

/-- An entry is put where its fate allows it. -/
theorem changes_put {places : Location → Prop} {tree : Tree} {location : Location} {entry : Entry}
    (hlocation : location.IsProper)
    (hfate : Fate (places location) (tree.lookup location) (some entry)) :
    Changes places tree (tree.put location entry) := by
  refine ⟨fun other => ?_, fun htree => isProper_put htree hlocation entry⟩
  by_cases hfree : standing? location = none
  · rw [lookup_put hfree]
    split
    next hother =>
      rw [hother]
      exact hfate
    next => exact .kept _
  · rw [put_standing hfree]
    exact .kept _

/-! ## What changes keep -/

/-- A path that leads somewhere still leads there when folders are added. -/
theorem Changes.locate {places : Location → Prop} {before after : Tree}
    (hchanges : Changes places before after) {path : Path} {location : Location}
    (hlocate : before.locate path = .ok location) : after.locate path = .ok location := by
  have hfollow {start : Location} {names : List Text}
      (hbefore : before.follow start names = .ok location) :
      after.follow start names = .ok location := by
    induction names generalizing start with
    | nil => exact hbefore
    | cons name names ih =>
      unfold follow at hbefore ⊢
      cases hstart : before.lookup start with
      | none => simp [hstart] at hbefore
      | some entry =>
        cases entry with
        | file content => simp [hstart] at hbefore
        | folder =>
          have hfate := hchanges.fate start
          rw [hstart] at hbefore hfate
          rw [hfate.folder]
          obtain ⟨next, hstep, hrest⟩ := bind_eq_ok.mp hbefore
          exact bind_eq_ok.mpr ⟨next, hstep, ih hrest⟩
  obtain ⟨u, hcheck, hbefore⟩ := bind_eq_ok.mp hlocate
  exact bind_eq_ok.mpr ⟨u, hcheck, hfollow hbefore⟩

/-- A file that is not in one of the places is read as before. -/
theorem Changes.read {places : Location → Prop} {before after : Tree}
    (hchanges : Changes places before after) {path : Path} (hpath : ¬places path.target)
    {content : Content} (hread : before.read path = .ok content) :
    after.read path = .ok content := by
  obtain ⟨location, hlocate, hlookup⟩ := read_eq_ok.mp hread
  have hfate := hchanges.fate location
  rw [hlookup] at hfate
  obtain ⟨other, hother, hsame⟩ := hfate.file
  rw [hsame (locate_eq_target hlocate ▸ hpath)] at hother
  exact read_eq_ok.mpr ⟨location, hchanges.locate hlocate, hother⟩

end Tree

/-- A path that can be read leads to an entry. -/
theorem Tree.hasEntry_of_read {tree : Tree} {path : Path} {content : Content}
    (hread : tree.read path = .ok content) : tree.hasEntry path = .ok true := by
  obtain ⟨location, hlocate, hlookup⟩ := read_eq_ok.mp hread
  simp [hasEntry, entryAt?, hlocate, hlookup, Except.map]

/-- Settings stand in a file. -/
theorem Settings.load_eq_ok {tree : Tree} {path : Path} {settings : Settings} :
    Settings.load tree path = .ok settings ↔ ∃ content document, tree.read path = .ok content ∧
      Yaml.readDocument (streamOf content) = .ok document ∧
      ofValue path.parent document = .ok settings := by
  unfold load
  constructor
  · intro hload
    obtain ⟨found, hfound, hload⟩ := bind_eq_ok.mp hload
    cases found with
    | false => cases hload
    | true =>
      obtain ⟨content, hread, hload⟩ := bind_eq_ok.mp hload
      obtain ⟨document, hdocument, hload⟩ := bind_eq_ok.mp hload
      exact ⟨content, document, hread, hdocument, hload⟩
  · rintro ⟨content, document, hread, hdocument, hsettings⟩
    refine bind_eq_ok.mpr ⟨true, Tree.hasEntry_of_read hread, ?_⟩
    exact bind_eq_ok.mpr ⟨content, hread, bind_eq_ok.mpr ⟨document, hdocument, hsettings⟩⟩

/-- Settings are loaded as before if their file is not in one of the places. -/
theorem Tree.Changes.load {places : Location → Prop} {before after : Tree}
    (hchanges : Changes places before after) {path : Path} (hpath : ¬places path.target)
    {settings : Settings} (hload : Settings.load before path = .ok settings) :
    Settings.load after path = .ok settings := by
  obtain ⟨content, document, hread, hrest⟩ := Settings.load_eq_ok.mp hload
  exact Settings.load_eq_ok.mpr ⟨content, document, hchanges.read hpath hread, hrest⟩

/-! ## Work that keeps to places -/

namespace Action

variable {α β : Type} {places : Location → Prop} {tree : Tree}

/-- Work on a tree writes to the given places only, and what it returns is as stated. -/
structure Confined (places : Location → Prop) (action : Action α) (tree : Tree)
    (post : α → Prop) : Prop where
  changes : Tree.Changes places tree (action.treeAfter tree)
  returns : ∀ a, action.answer tree = .ok a → post a

/-- Returning something writes nothing. -/
theorem confined_pure {post : α → Prop} {a : α} (hpost : post a) :
    Confined places (pure a) tree post :=
  ⟨.refl places tree, fun _ h => Except.ok.inj h ▸ hpost⟩

/-- A fault writes nothing. -/
theorem confined_throw {post : α → Prop} (fault : Fault) :
    Confined places (throw fault : Action α) tree post :=
  ⟨.refl places tree, fun _ h => by cases h⟩

/-- Two steps, of which the second starts in the tree that the first leaves. -/
theorem Confined.bind {first : Action α} {next : α → Action β} {post : α → Prop}
    {last : β → Prop} (hfirst : Confined places first tree post)
    (hnext : ∀ a, post a → Confined places (next a) (first.treeAfter tree) last) :
    Confined places (first >>= next) tree last := by
  cases hanswer : first.answer tree with
  | error fault =>
    obtain ⟨hfault, htree⟩ := run_bind_of_error hanswer next
    refine ⟨htree ▸ hfirst.changes, fun b hb => ?_⟩
    rw [hfault] at hb
    cases hb
  | ok a =>
    obtain ⟨hlast, htree⟩ := run_bind_of_ok hanswer next
    have hsecond := hnext a (hfirst.returns a hanswer)
    refine ⟨htree ▸ hfirst.changes.trans hsecond.changes, fun b hb => ?_⟩
    exact hsecond.returns b (hlast ▸ hb)

/-- Looking at the tree first. -/
theorem Confined.get_bind {next : Tree → Action β} {last : β → Prop}
    (hnext : Confined places (next tree) tree last) : Confined places (get >>= next) tree last :=
  ⟨hnext.changes, hnext.returns⟩

/-- An answer that does not look at the tree comes first. -/
theorem Confined.ofExcept_bind {answer : Except Fault α} {next : α → Action β} {last : β → Prop}
    (hnext : ∀ a, answer = .ok a → Confined places (next a) tree last) :
    Confined places (ofExcept answer >>= next) tree last := by
  have hfirst : Confined places (ofExcept answer) tree fun a => answer = .ok a :=
    ⟨.refl places tree, fun _ h => h⟩
  exact hfirst.bind hnext

/-- Making a folder writes no file. -/
theorem makeFolderAt_confined {path : Path} {location : Location} (hproper : location.IsProper) :
    Confined places (makeFolderAt path location) tree Location.IsProper := by
  refine .get_bind ?_
  split
  · exact confined_pure hproper
  · exact confined_throw _
  next hnone =>
    refine .get_bind ?_
    split
    · exact confined_throw _
    · have hput : Tree.Changes places tree (tree.put location .folder) :=
        Tree.changes_put hproper (hnone ▸ .founded)
      exact ⟨hput, fun _ h => Except.ok.inj h ▸ hproper⟩

/-- Making the folder of a path writes no file. -/
theorem makeFolder_confined (path : Path) :
    Confined places (makeFolder path) tree Location.IsProper := by
  refine .get_bind ?_
  split
  next location hlocate =>
    exact makeFolderAt_confined (Tree.locate_eq_target hlocate ▸ path.target_isProper)
  next => exact confined_throw _

/-- Making a folder in another one writes no file. -/
theorem makeFolderIn_confined {folder : Location} (hfolder : folder.IsProper) (name : Text)
    (path : Path) : Confined places (makeFolderIn folder name path) tree Location.IsProper := by
  unfold makeFolderIn
  split
  next location hstep => exact makeFolderAt_confined (Tree.step_eq_ok hstep ▸ hfolder.advance name)
  next => exact confined_throw _

/-- Making the folders on the way to another one writes no file. -/
theorem makeFoldersTo_confined (path : Path) (depth count : Nat) (tree : Tree) :
    Confined places (makeFoldersTo path depth count) tree Location.IsProper := by
  induction count generalizing depth tree with
  | zero =>
    cases depth <;> exact makeFolder_confined _
  | succ count ih =>
    cases depth with
    | zero => exact confined_throw _
    | succ depth =>
      refine .get_bind ?_
      split
      · exact (ih depth tree).bind fun folder hfolder => makeFolderIn_confined hfolder _ _
      · exact makeFolder_confined _

/-- Making a folder and those on the way to it writes no file. -/
theorem makeFolders_confined (path : Path) :
    Confined places (makeFolders path) tree fun _ => True :=
  (makeFoldersTo_confined path depthLimit path.parts.length tree).bind fun _ _ =>
    confined_pure trivial

/-- Writing to a file leaves all others alone. -/
theorem write_confined {path : Path} (hpath : places path.target) (chars : Text) :
    Confined places (write path chars) tree fun _ => True := by
  refine .get_bind (.ofExcept_bind fun location hlocate => ?_)
  obtain ⟨hlocate, hfile, -⟩ := Tree.locateFile_eq_ok.mp hlocate
  have htarget := Tree.locate_eq_target hlocate
  have hput : Tree.Changes places tree (tree.put location (.file (.text chars))) :=
    Tree.changes_put (htarget ▸ path.target_isProper) (.written _ hfile (htarget ▸ hpath))
  exact ⟨hput, fun _ _ => trivial⟩

end Action

namespace Project

open PortableSql.Action

variable {engine : Engine} {places : Location → Prop} {tree : Tree}

/-- A library is written to its own file only. -/
theorem writeLibrary_confined {path : Path} (hplace : places path.target) (adapters : List Value)
    (library : Text) :
    Confined places (writeLibrary path adapters library) tree fun _ => True := by
  unfold writeLibrary
  split
  · exact (write_confined hplace []).bind fun _ _ => confined_throw _
  · exact write_confined hplace library

/-- Generating writes to the file of the macros only. -/
theorem generate_confined {now : Macro.Moment} {settings : Settings} (functions : List Text)
    (hplace : places settings.macroOutput.target) :
    Confined places (generate engine now settings functions) tree
      fun path => path = settings.macroOutput := by
  unfold generate
  split
  · exact confined_pure rfl
  · refine (makeFolders_confined _).bind fun _ _ => ?_
    refine .ofExcept_bind fun primary _ => .ofExcept_bind fun library _ => ?_
    refine .ofExcept_bind fun adapters _ => ?_
    exact (writeLibrary_confined hplace adapters library).bind fun _ _ => confined_pure rfl

section Converting

variable {adapters : Value} {primary : Dialect} {dryRun : Bool}

/-- Converting a model writes to its own file only. -/
theorem convertFile_confined {path : Path} (hplace : places path.target) :
    Confined places (convertFile engine adapters primary dryRun path) tree fun _ => True := by
  refine .get_bind ?_
  split
  · exact confined_pure trivial
  · refine .ofExcept_bind fun converted _ => ?_
    split
    · exact confined_pure trivial
    · split
      · exact (write_confined hplace converted).bind fun _ _ => confined_pure trivial
      · exact confined_pure trivial

/-- Converting models writes to their own files only. -/
theorem convertFiles_confined {paths : List Path} (hplaces : ∀ path ∈ paths, places path.target)
    (tree : Tree) :
    Confined places (convertFiles engine adapters primary dryRun paths) tree fun _ => True := by
  induction paths generalizing tree with
  | nil => exact confined_pure trivial
  | cons path paths ih =>
    obtain ⟨hpath, hpaths⟩ := List.forall_mem_cons.mp hplaces
    refine (convertFile_confined hpath).bind fun _ _ => (ih hpaths _).bind fun _ _ => ?_
    exact confined_pure trivial

/-- The models below a path are in places below its target. -/
theorem convertFolder_confined {path : Path} (htree : tree.IsProper)
    (hplaces : ∀ location names, path.target.below? location = some names →
      Tree.endsAsModel names = true → places location) :
    Confined places (convertFolder engine adapters primary dryRun path) tree fun _ => True := by
  refine .get_bind (.ofExcept_bind fun models hmodels => ?_)
  refine convertFiles_confined (fun model hmodel => ?_) tree
  rcases tree.models_cases path with ⟨folder, hfolder, -, hlisted⟩ | ⟨-, hfault⟩ | ⟨-, -, hnone⟩
  · obtain rfl := Except.ok.inj (hmodels.symm.trans hlisted)
    obtain ⟨names, hnames, rfl⟩ := List.mem_map.mp hmodel
    obtain rfl := Tree.locate_eq_target hfolder
    obtain ⟨entry, hentry, hbelow, hends⟩ := Tree.exists_below_of_mem_modelNames hnames
    have hproper : ['.', '.'] ∉ names := fun hmem => by
      have hentryProper := htree entry hentry
      rw [Tree.below?_eq_some hbelow] at hentryProper
      exact hentryProper (List.mem_append_right _ hmem)
    have htarget : (path.append names).target = entry.1 := by
      rw [Tree.below?_eq_some hbelow, ← Location.foldl_advance hproper]
      exact List.foldl_append
    exact htarget ▸ hplaces entry.1 names hbelow hends
  · rw [hmodels] at hfault
    cases hfault
  · obtain rfl := Except.ok.inj (hmodels.symm.trans hnone)
    cases hmodel

/-- Converting writes to models below the paths of the settings only. -/
theorem convert_confined {settings : Settings} (htree : tree.IsProper)
    (hplaces : ∀ path ∈ settings.modelPaths, ∀ location names,
      path.target.below? location = some names → Tree.endsAsModel names = true →
        places location) :
    Confined places (convert engine settings dryRun) tree fun _ => True := by
  refine .ofExcept_bind fun primary _ => ?_
  have hfolders : Confined places (settings.modelPaths.mapM
      (convertFolder engine settings.adapters (.ofValue primary) dryRun)) tree fun _ => True := by
    generalize settings.modelPaths = paths at hplaces
    induction paths generalizing tree with
    | nil => exact confined_pure trivial
    | cons path paths ih =>
      obtain ⟨hpath, hpaths⟩ := List.forall_mem_cons.mp hplaces
      rw [List.mapM_cons]
      have hfirst : Confined places
          (convertFolder engine settings.adapters (.ofValue primary) dryRun path) tree
          fun _ => True := convertFolder_confined htree hpath
      refine hfirst.bind fun _ _ => (ih (hfirst.changes.proper htree) hpaths).bind fun _ _ => ?_
      exact confined_pure trivial
  exact hfolders.bind fun _ _ => confined_pure trivial

end Converting

end Project

end PortableSql

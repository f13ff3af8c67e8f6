import Mathlib.Data.List.Nodup
import PortableSql.Proofs.Computation
import PortableSql.Project.Migration

/-!
# What work on a tree leaves alone

Putting an entry at a location changes what stands there and nothing else. A path is followed
through folders only, so it leads to the same location in two trees with the same folders.
-/

namespace PortableSql

namespace Tree

/-! ## Entries -/

/-- Locations are found to be the same exactly if they are equal. -/
theorem same_iff {a b : Location} : a.same b = true ↔ a = b := by
  simp only [Location.same, Bool.and_eq_true, beq_iff_eq]
  exact ⟨And.right, fun h => ⟨by rw [h], h⟩⟩

/-- The entry that is found for a location after those of another were replaced. -/
theorem made?_replace (tree : Tree) (location other : Location) (entry : Entry) :
    ({ tree with entries := tree.entries.map fun e =>
        if e.1.same location then (location, entry) else e } : Tree).made? other =
      if other = location then (tree.made? location).map fun _ => entry
      else tree.made? other := by
  obtain ⟨entries, locked⟩ := tree
  induction entries with
  | nil => simp [made?]
  | cons e entries ih =>
    simp only [made?, List.map_cons, List.find?_cons] at ih ⊢
    by_cases hhere : e.1 = location
    · subst hhere
      by_cases hother : other = e.1
      · simp [hother, same_iff.mpr rfl]
      · have hnot : e.1.same other = false := by
          rw [← Bool.not_eq_true, same_iff]
          exact Ne.symm hother
        simpa [hother, hnot, same_iff.mpr rfl] using ih
    · have hnot : e.1.same location = false := by
        rw [← Bool.not_eq_true, same_iff]
        exact hhere
      by_cases hother : other = e.1
      · subst hother
        simp [hhere, hnot, same_iff.mpr rfl]
      · have hnext : e.1.same other = false := by
          rw [← Bool.not_eq_true, same_iff]
          exact Ne.symm hother
        simpa [hnot, hnext] using ih

/-- What stands at a location after an entry was put at one that is not always taken. -/
theorem lookup_put {tree : Tree} {location : Location} (hfree : standing? location = none)
    (other : Location) (entry : Entry) :
    (tree.put location entry).lookup other =
      if other = location then some entry else tree.lookup other := by
  have hmade : (tree.put location entry).made? other =
      if other = location then some entry else tree.made? other := by
    rw [put, hfree, Option.isSome_none, if_neg Bool.false_ne_true]
    split
    next htaken =>
      obtain ⟨present, hpresent⟩ := Option.isSome_iff_exists.mp htaken
      rw [made?_replace, hpresent, Option.map_some]
    next hnew =>
      rw [Bool.not_eq_true, Option.isSome_eq_false_iff, Option.isNone_iff_eq_none] at hnew
      by_cases hother : other = location
      · subst hother
        simp only [made?, Option.map_eq_none_iff] at hnew
        simp [made?, List.find?_append, hnew, same_iff.mpr rfl]
      · have hnot : location.same other = false := by
          rw [← Bool.not_eq_true, same_iff]
          exact Ne.symm hother
        simp [made?, List.find?_append, hnot, hother]
  by_cases hother : other = location
  · rw [lookup, hmade, if_pos hother, if_pos hother, hother, hfree, Option.none_or]
  · rw [lookup, hmade, if_neg hother, if_neg hother, lookup]

/-- What is always there does not change. -/
theorem put_standing {tree : Tree} {location : Location} (htaken : standing? location ≠ none)
    (entry : Entry) : tree.put location entry = tree := by
  rw [put, if_pos (Option.isSome_iff_ne_none.mpr htaken)]

/-- What stands where an entry was put. -/
theorem lookup_put_self (tree : Tree) (location : Location) (entry : Entry) :
    (tree.put location entry).lookup location = (standing? location).or (some entry) := by
  by_cases hfree : standing? location = none
  · rw [lookup_put hfree, if_pos rfl, hfree, Option.none_or]
  · obtain ⟨present, hpresent⟩ := Option.ne_none_iff_exists'.mp hfree
    rw [put_standing hfree, lookup, hpresent, Option.some_or, Option.some_or]

/-- What stands at other locations stays. -/
theorem lookup_put_of_ne {tree : Tree} {location other : Location} {entry : Entry}
    (hne : other ≠ location) : (tree.put location entry).lookup other = tree.lookup other := by
  by_cases hfree : standing? location = none
  · rw [lookup_put hfree, if_neg hne]
  · rw [put_standing hfree]

/-- Nothing becomes locked, and nothing is unlocked. -/
@[simp] theorem locked_put (tree : Tree) (location : Location) (entry : Entry) :
    (tree.put location entry).locked = tree.locked := by
  unfold put
  split
  · rfl
  · split <;> rfl

/-! ## Paths -/

/-- Two trees have the same folders. -/
def SameFolders (first second : Tree) : Prop :=
  ∀ location, first.lookup location = some .folder ↔ second.lookup location = some .folder

/-- A tree has the same folders as itself. -/
theorem SameFolders.refl (tree : Tree) : SameFolders tree tree := fun _ => Iff.rfl

/-- Trees with the same folders as a third one have the same folders. -/
theorem SameFolders.trans {first second third : Tree} (hfirst : SameFolders first second)
    (hsecond : SameFolders second third) : SameFolders first third :=
  fun location => (hfirst location).trans (hsecond location)

/-- Having the same folders goes both ways. -/
theorem SameFolders.symm {first second : Tree} (hsame : SameFolders first second) :
    SameFolders second first :=
  fun location => (hsame location).symm

/-- A file that is put where no folder is leaves the folders as they are. -/
theorem sameFolders_put_file {tree : Tree} {location : Location}
    (hplace : tree.lookup location ≠ some .folder) (content : Content) :
    SameFolders tree (tree.put location (.file content)) := by
  intro other
  by_cases hfree : standing? location = none
  · rw [lookup_put hfree]
    split
    next hother =>
      rw [hother]
      exact iff_of_false hplace (by simp)
    next => exact Iff.rfl
  · rw [put_standing hfree]

/-- Names that lead to a location lead there in every tree with the same folders. -/
theorem SameFolders.follow {first second : Tree} (hsame : SameFolders first second)
    {start location : Location} {names : List Text}
    (hfollow : first.follow start names = .ok location) :
    second.follow start names = .ok location := by
  induction names generalizing start with
  | nil => exact hfollow
  | cons name names ih =>
    unfold Tree.follow at hfollow ⊢
    cases hstart : first.lookup start with
    | none => simp [hstart] at hfollow
    | some entry =>
      cases entry with
      | file content => simp [hstart] at hfollow
      | folder =>
        rw [hstart] at hfollow
        rw [(hsame start).mp hstart]
        obtain ⟨next, hnext, hfollow⟩ := bind_eq_ok.mp hfollow
        exact bind_eq_ok.mpr ⟨next, hnext, ih hfollow⟩

/-- A path leads to a location in one tree exactly when it does in another with the same
folders. -/
theorem SameFolders.locate_iff {first second : Tree} (hsame : SameFolders first second)
    {path : Path} {location : Location} :
    first.locate path = .ok location ↔ second.locate path = .ok location := by
  unfold Tree.locate
  rw [bind_eq_ok, bind_eq_ok]
  exact exists_congr fun _ => and_congr_right fun _ => ⟨hsame.follow, hsame.symm.follow⟩

/-- A path is too long in one tree exactly when it is in another with the same folders. -/
theorem SameFolders.tooLong_iff {first second : Tree} (hsame : SameFolders first second)
    {path : Path} : first.locate path = .error .tooLong ↔ second.locate path = .error .tooLong := by
  have hfollow {first second : Tree} (hsame : SameFolders first second) {start : Location}
      {names : List Text} (hlong : first.follow start names = .error .tooLong) :
      second.follow start names = .error .tooLong := by
    induction names generalizing start with
    | nil => cases hlong
    | cons name names ih =>
      unfold Tree.follow at hlong ⊢
      cases hstart : first.lookup start with
      | none => simp [hstart] at hlong
      | some entry =>
        cases entry with
        | file content => simp [hstart] at hlong
        | folder =>
          rw [hstart] at hlong
          rw [(hsame start).mp hstart]
          cases hstep : step start name with
          | error obstacle =>
            rw [hstep] at hlong
            exact hlong
          | ok next =>
            rw [hstep] at hlong
            exact ih hlong
  unfold Tree.locate
  cases checkPath path with
  | error obstacle => exact Iff.rfl
  | ok u => exact ⟨hfollow hsame, hfollow hsame.symm⟩

/-- A file is read where its path leads. -/
theorem read_eq_ok {tree : Tree} {path : Path} {content : Content} :
    tree.read path = .ok content ↔
      ∃ location, tree.locate path = .ok location ∧
        tree.lookup location = some (.file content) := by
  unfold Tree.read
  cases tree.locate path with
  | error obstacle => simp
  | ok location =>
    simp only [Except.ok.injEq, exists_eq_left']
    cases tree.lookup location with
    | none => simp
    | some entry => cases entry <;> simp

/-- A file can be written where a path leads, if no folder is there and nothing is locked. -/
theorem locateFile_eq_ok {tree : Tree} {path : Path} {location : Location} :
    tree.locateFile path = .ok location ↔
      tree.locate path = .ok location ∧ tree.lookup location ≠ some .folder ∧
        tree.refuses location = false := by
  unfold locateFile
  cases tree.locate path with
  | error obstacle => simp
  | ok found =>
    simp only [Except.ok.injEq]
    split
    next hfolder =>
      refine iff_of_false nofun ?_
      rintro ⟨rfl, hnot, -⟩
      exact hnot (by simpa using hfolder)
    next hfolder =>
      split
      next hrefuses =>
        refine iff_of_false nofun ?_
        rintro ⟨rfl, -, hopen⟩
        exact Bool.false_ne_true (hopen.symm.trans hrefuses)
      next hopen =>
        refine ⟨?_, fun h => congrArg Except.ok h.1⟩
        rintro ⟨rfl⟩
        exact ⟨rfl, by simpa using hfolder, by simpa using hopen⟩

/-- A file that cannot be written is refused. -/
theorem locateFile_eq_refused {tree : Tree} {path : Path} {location : Location}
    (hlocate : tree.locate path = .ok location) (hplace : tree.lookup location ≠ some .folder)
    (hlocked : tree.refuses location = true) :
    tree.locateFile path = .error (.notPermitted path.shown) := by
  simp [locateFile, hlocate, hplace, hlocked]

/-- A text is read where its path leads. -/
theorem readText?_eq_some {tree : Tree} {path : Path} {model : Text} :
    tree.readText? path = some model ↔
      ∃ location chars, tree.locate path = .ok location ∧
        tree.lookup location = some (.file (.text chars)) ∧
        Text.normalizeNewlines chars = model := by
  have hread (chars : Text) : tree.read path = .ok (.text chars) ↔
      ∃ location, tree.locate path = .ok location ∧
        tree.lookup location = some (.file (.text chars)) := read_eq_ok
  unfold readText?
  constructor
  · intro htext
    split at htext
    next chars hok =>
      obtain ⟨location, hlocate, hlookup⟩ := (hread chars).mp hok
      exact ⟨location, chars, hlocate, hlookup, Option.some.inj htext⟩
    next => cases htext
  · rintro ⟨location, chars, hlocate, hlookup, rfl⟩
    rw [(hread chars).mpr ⟨location, hlocate, hlookup⟩]

/-- A file stands where a text is read. -/
theorem lookup_of_readText? {tree : Tree} {path : Path} {model : Text} {location : Location}
    (hmodel : tree.readText? path = some model) (hlocate : tree.locate path = .ok location) :
    ∃ chars, tree.lookup location = some (.file (.text chars)) ∧
      Text.normalizeNewlines chars = model := by
  obtain ⟨other, chars, hother, hlookup, hchars⟩ := readText?_eq_some.mp hmodel
  rw [← Except.ok.inj (hlocate.symm.trans hother)] at hlookup
  exact ⟨chars, hlookup, hchars⟩

/-- A path that leads to the same content in two trees is read alike. -/
theorem readText?_congr {first second : Tree} {path : Path}
    (hlocate : ∀ location, first.locate path = .ok location ↔ second.locate path = .ok location)
    (hlookup : ∀ location, first.locate path = .ok location →
      first.lookup location = second.lookup location) :
    first.readText? path = second.readText? path := by
  refine Option.ext fun model => ?_
  rw [readText?_eq_some, readText?_eq_some]
  refine exists_congr fun location => exists_congr fun chars => ?_
  rw [← hlocate location]
  refine and_congr_right fun hhere => ?_
  rw [hlookup location hhere]

/-! ## Models -/

/-- The models below a path are those of the folder that it leads to. A path that is too long is a
fault, and below any other path there are none. -/
theorem models_cases (tree : Tree) (path : Path) :
    (∃ location, tree.locate path = .ok location ∧ tree.lookup location = some .folder ∧
        tree.models path = .ok ((tree.modelNames location).map path.append)) ∨
      (tree.locate path = .error .tooLong ∧
        tree.models path = .error (Obstacle.tooLong.fault path)) ∨
      ((∀ location, tree.locate path = .ok location → tree.lookup location ≠ some .folder) ∧
        tree.locate path ≠ .error .tooLong ∧ tree.models path = .ok []) := by
  unfold models hasEntry entryAt?
  cases hlocate : tree.locate path with
  | error obstacle =>
    cases obstacle with
    | tooLong => exact .inr (.inl ⟨rfl, rfl⟩)
    | missing => exact .inr (.inr ⟨by simp, by simp, rfl⟩)
    | blocked => exact .inr (.inr ⟨by simp, by simp, rfl⟩)
    | nullCharacter => exact .inr (.inr ⟨by simp, by simp, rfl⟩)
    | unencodable => exact .inr (.inr ⟨by simp, by simp, rfl⟩)
  | ok location =>
    cases hlookup : tree.lookup location with
    | none => exact .inr (.inr ⟨by simp [hlookup], by simp, by simp [hlookup, Except.map]⟩)
    | some entry =>
      cases entry with
      | folder =>
        refine .inl ⟨location, rfl, hlookup, ?_⟩
        simp only [hlookup, Except.map]
        rfl
      | file content =>
        exact .inr (.inr ⟨by simp [hlookup], by simp, by simp [hlookup, Except.map]⟩)

/-- The models below a path to a folder are those of the folder. -/
theorem models_of_folder {tree : Tree} {path : Path} {folder : Location}
    (hlocate : tree.locate path = .ok folder) (hfolder : tree.lookup folder = some .folder) :
    tree.models path = .ok ((tree.modelNames folder).map path.append) := by
  rcases tree.models_cases path with ⟨other, hother, -, hmodels⟩ | ⟨hlong, -⟩ | ⟨hnone, -, -⟩
  · rwa [Except.ok.inj (hlocate.symm.trans hother)]
  · rw [hlocate] at hlong
    cases hlong
  · exact absurd hfolder (hnone folder hlocate)

/-- A path that leads to no folder gives the same answer, without models, in all trees with the same
folders. -/
theorem SameFolders.models {first second : Tree} (hsame : SameFolders first second) {path : Path}
    (hnone : ∀ location, first.locate path = .ok location → first.lookup location ≠ some .folder) :
    first.models path = second.models path ∧
      ∀ paths, first.models path = .ok paths → paths = [] := by
  rcases first.models_cases path with ⟨location, hlocate, hfolder, -⟩ | ⟨hlong, hfirst⟩ |
    ⟨-, hshort, hfirst⟩
  · exact absurd hfolder (hnone location hlocate)
  · refine ⟨?_, fun paths hpaths => by rw [hfirst] at hpaths; cases hpaths⟩
    have hthere := hsame.tooLong_iff.mp hlong
    rcases second.models_cases path with ⟨other, hother, -⟩ | ⟨-, hsecond⟩ | ⟨-, hshort, -⟩
    · rw [hthere] at hother
      cases hother
    · rw [hfirst, hsecond]
    · exact absurd hthere hshort
  · refine ⟨?_, fun paths hpaths => by rw [hfirst] at hpaths; exact (Except.ok.inj hpaths).symm⟩
    rcases second.models_cases path with ⟨other, hother, hfolder, -⟩ | ⟨hlong, -⟩ | ⟨-, -, hsecond⟩
    · exact absurd ((hsame other).mpr hfolder) (hnone other (hsame.locate_iff.mpr hother))
    · exact absurd (hsame.tooLong_iff.mpr hlong) hshort
    · rw [hfirst, hsecond]

/-! ## Outlines -/

/-- The entry is a folder. -/
def isFolder : Entry → Bool
  | .folder => true
  | .file _ => false

/-- The locations of a tree's entries, and which of them are folders. -/
def outline (tree : Tree) : List (Location × Bool) :=
  tree.entries.map fun entry => (entry.1, isFolder entry.2)

/-- No location has two entries. -/
def IsUnambiguous (tree : Tree) : Prop :=
  (tree.entries.map (·.1)).Nodup

instance (tree : Tree) : Decidable tree.IsUnambiguous :=
  inferInstanceAs (Decidable (List.Nodup _))

/-- Whether locations are taken twice is seen from the outline. -/
theorem IsUnambiguous.of_outline {first second : Tree} (hunique : first.IsUnambiguous)
    (hsame : first.outline = second.outline) : second.IsUnambiguous := by
  have hlocations (tree : Tree) : tree.entries.map (·.1) = tree.outline.map (·.1) := by
    simp [outline]
  rw [IsUnambiguous, hlocations] at hunique ⊢
  rwa [← hsame]

/-- What stands at a location is its entry. -/
theorem made?_eq_some_iff {tree : Tree} (hunique : tree.IsUnambiguous) {location : Location}
    {entry : Entry} : tree.made? location = some entry ↔ (location, entry) ∈ tree.entries := by
  unfold made?
  rw [Option.map_eq_some_iff]
  constructor
  · rintro ⟨⟨other, _⟩, hfound, rfl⟩
    obtain rfl : other = location := same_iff.mp (by simpa using List.find?_some hfound)
    exact List.mem_of_find?_eq_some hfound
  · intro hmem
    cases hfound : tree.entries.find? fun entry => entry.1.same location with
    | none => exact absurd (same_iff.mpr rfl) (List.find?_eq_none.mp hfound _ hmem)
    | some found =>
      have hlocation : found.1 = location := same_iff.mp (by simpa using List.find?_some hfound)
      have hsame : found = (location, entry) :=
        List.inj_on_of_nodup_map hunique (List.mem_of_find?_eq_some hfound) hmem hlocation
      exact ⟨found, rfl, by rw [hsame]⟩

/-- Whether a folder stands at a location can be told from the outline. -/
theorem lookup_outline (tree : Tree) (location : Location) :
    (tree.lookup location).map isFolder =
      ((standing? location).map isFolder).or
        ((tree.outline.find? fun entry => entry.1.same location).map (·.2)) := by
  rw [lookup, made?, outline, List.find?_map, Option.map_or, Option.map_map, Option.map_map]
  rfl

/-- Whether something can be put at a location can be told from what stands there and from what is
locked. -/
theorem refuses_congr {first second : Tree} (hlocked : first.locked = second.locked)
    {location : Location} (hlookup : first.lookup location = second.lookup location) :
    first.refuses location = second.refuses location := by
  unfold refuses
  rw [hlookup, hlocked]

/-- Whether something can be put at a location can be told from the outline and from what is
locked. -/
theorem refuses_of_outline {first second : Tree} (hsame : first.outline = second.outline)
    (hlocked : first.locked = second.locked) (location : Location) :
    first.refuses location = second.refuses location := by
  have hstands (tree : Tree) : (tree.lookup location).isSome =
      ((tree.lookup location).map isFolder).isSome := by
    rw [Option.isSome_map]
  unfold refuses
  rw [hstands first, hstands second, lookup_outline, lookup_outline, hsame, hlocked]

/-- Trees with the same outline have the same folders. -/
theorem sameFolders_of_outline {first second : Tree} (hsame : first.outline = second.outline) :
    SameFolders first second := by
  intro location
  have hfolder (tree : Tree) : tree.lookup location = some .folder ↔
      (tree.lookup location).map isFolder = some true := by
    cases tree.lookup location with
    | none => simp
    | some entry => cases entry <;> simp [isFolder]
  rw [hfolder first, hfolder second, lookup_outline, lookup_outline, hsame]

/-- The name by which a place is listed among the models of a folder: that of a file in the folder
with the ending of models. -/
def modelName? (folder : Location) (place : Location × Bool) : Option (List Text) :=
  if place.2 then none else (folder.below? place.1).filter endsAsModel

/-- The names of models can be told from the outline. -/
theorem modelNames_eq (tree : Tree) (folder : Location) :
    tree.modelNames folder = sortBy fileLe (tree.outline.filterMap (modelName? folder)) := by
  rw [modelNames, outline, List.filterMap_map]
  congr 2
  funext entry
  obtain ⟨location, entry⟩ := entry
  cases entry with
  | folder => rfl
  | file content =>
    dsimp only [Function.comp_apply, modelName?, isFolder]
    cases folder.below? location <;> rfl

/-- Trees with the same outline have the same models. -/
theorem models_of_outline {first second : Tree} (hsame : first.outline = second.outline)
    (path : Path) : first.models path = second.models path := by
  have hfolders := sameFolders_of_outline hsame
  by_cases hfolder : ∃ folder, first.locate path = .ok folder ∧ first.lookup folder = some .folder
  · obtain ⟨folder, hlocate, hfolder⟩ := hfolder
    rw [models_of_folder hlocate hfolder, modelNames_eq, hsame, ← modelNames_eq,
      models_of_folder (hfolders.locate_iff.mp hlocate) ((hfolders folder).mp hfolder)]
  · exact (hfolders.models fun folder hlocate hhere => hfolder ⟨folder, hlocate, hhere⟩).1

/-- A file that takes the place of another leaves the outline as it is. -/
theorem outline_put_file {tree : Tree} (hunique : tree.IsUnambiguous) {location : Location}
    {old : Content} (hplace : tree.lookup location = some (.file old)) (new : Content) :
    (tree.put location (.file new)).outline = tree.outline := by
  by_cases hfree : standing? location = none
  · rw [lookup, hfree, Option.none_or] at hplace
    rw [put, hfree, Option.isSome_none, if_neg Bool.false_ne_true, hplace, Option.isSome_some,
      if_pos rfl, outline, outline, List.map_map]
    refine List.map_congr_left fun entry hentry => ?_
    rw [Function.comp_apply]
    split
    next hhere =>
      -- The location has one entry only, which is the file that was found.
      have hfound := (made?_eq_some_iff hunique).mp hplace
      obtain rfl : entry = (location, .file old) :=
        List.inj_on_of_nodup_map hunique hentry hfound (same_iff.mp hhere)
      rfl
    next => rfl
  · rw [put_standing hfree]

end Tree

/-! ## Writing -/

namespace Action

/-- The tree after work that succeeds. -/
theorem treeAfter_of_yields {α : Type} {action : Action α} {before after : Tree} {a : α}
    (hyields : Yields action before a after) : action.treeAfter before = after :=
  congrArg Prod.snd hyields

/-- A text is written where its path leads, if no folder is there and nothing is locked. -/
theorem yields_write {path : Path} {chars : Text} {before after : Tree} {u : Unit} :
    Yields (write path chars) before u after ↔
      ∃ location, before.locate path = .ok location ∧ before.lookup location ≠ some .folder ∧
        before.refuses location = false ∧ after = before.put location (.file (.text chars)) := by
  unfold write store
  constructor
  · intro hyields
    obtain ⟨tree, between, hget, hyields⟩ := yields_bind.mp hyields
    obtain ⟨rfl, rfl⟩ := yields_get.mp hget
    obtain ⟨location, between, hanswer, hyields⟩ := yields_bind.mp hyields
    obtain ⟨hfile, rfl⟩ := yields_answer.mp hanswer
    obtain ⟨hlocate, hfolder, hopen⟩ := Tree.locateFile_eq_ok.mp hfile
    exact ⟨location, hlocate, hfolder, hopen, (yields_modify.mp hyields).symm⟩
  · rintro ⟨location, hlocate, hfolder, hopen, rfl⟩
    have hfile := Tree.locateFile_eq_ok.mpr ⟨hlocate, hfolder, hopen⟩
    refine yields_bind.mpr ⟨before, before, yields_get.mpr ⟨rfl, rfl⟩, ?_⟩
    exact yields_bind.mpr ⟨location, before, yields_answer.mpr ⟨hfile, rfl⟩, yields_modify.mpr rfl⟩

end Action

namespace Project

open Sql

/-- A library is written as it is, or not at all. -/
theorem writeLibrary_yields {path : Path} {adapters : List Value} {library : Text} {u : Unit}
    {before after : Tree} (hyields : Yields (writeLibrary path adapters library) before u after) :
    Yields (Action.write path library) before u after := by
  unfold writeLibrary at hyields
  split at hyields
  next =>
    obtain ⟨u, between, -, hthrow⟩ := yields_bind.mp hyields
    exact absurd hthrow not_yields_throw
  next => exact hyields

/-- Generating writes nothing for no functions. Otherwise the library stands where the macros go,
unless that is a place that keeps nothing. -/
theorem generate_yields {engine : Engine} {now : Macro.Moment} {settings : Settings}
    {functions : List Text} {before after : Tree} {path : Path}
    (hyields : Yields (generate engine now settings functions) before path after) :
    (functions = [] ∧ after = before) ∨
      (functions ≠ [] ∧ ∃ primary library location, settings.adapters.first = .ok primary ∧
        Macro.library engine now functions settings.adapters (.ofValue primary) = .ok library ∧
        after.locate settings.macroOutput = .ok location ∧
        (Tree.standing? location = none →
          after.lookup location = some (.file (.text library)))) := by
  unfold generate at hyields
  split at hyields
  next hempty =>
    exact .inl ⟨List.isEmpty_iff.mp hempty, (yields_pure.mp hyields).2.symm⟩
  next hempty =>
    obtain ⟨u, made, -, hyields⟩ := yields_bind.mp hyields
    obtain ⟨primary, between, hfirst, hyields⟩ := yields_bind.mp hyields
    obtain ⟨hprimary, rfl⟩ := yields_answer.mp hfirst
    obtain ⟨library, between, hmade, hyields⟩ := yields_bind.mp hyields
    obtain ⟨hlibrary, rfl⟩ := yields_answer.mp hmade
    obtain ⟨items, between, hitems, hyields⟩ := yields_bind.mp hyields
    obtain ⟨-, rfl⟩ := yields_answer.mp hitems
    obtain ⟨u, written, hwrite, hyields⟩ := yields_bind.mp hyields
    obtain ⟨-, rfl⟩ := yields_pure.mp hyields
    obtain ⟨location, hlocate, hplace, -, rfl⟩ :=
      Action.yields_write.mp (writeLibrary_yields hwrite)
    refine .inr ⟨by simpa using hempty, primary, library, location, hprimary, hlibrary, ?_, ?_⟩
    · exact (Tree.sameFolders_put_file hplace _).locate_iff.mp hlocate
    · intro hfree
      rw [Tree.lookup_put hfree, if_pos rfl]

end Project

end PortableSql

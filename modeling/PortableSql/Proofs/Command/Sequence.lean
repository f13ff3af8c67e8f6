import PortableSql.Proofs.Command.Course
import PortableSql.Proofs.Command.Migration

/-!
# Commands one after the other

Every command loads its settings anew. As long as no command can write to the settings file, all of
them see the same settings, so what may be written in the course of many commands is known from the
start: the file of the macros and the models below the paths of the settings. This holds for
commands that fail as well.
-/

namespace PortableSql

open Sql

/-- Whether a location is that of a model below one of the paths of the settings. -/
def Settings.isModelPlace (settings : Settings) (location : Location) : Bool :=
  settings.modelPaths.any fun path => (path.target.below? location).any Tree.endsAsModel

/-- Where a task may write. -/
def Task.writes (task : Task) (settings : Settings) (location : Location) : Prop :=
  match task with
  | .scan => False
  | .generate => location = settings.macroOutput.target
  | .generateLibrary => location = settings.macroOutput.target
  | .convert dryRun => dryRun = false ∧ settings.isModelPlace location = true
  | .migrate => location = settings.macroOutput.target ∨ settings.isModelPlace location = true

/-- Whatever a task writes, a migration may write. -/
theorem Task.writes_migrate {settings : Settings} {location : Location} {task : Task}
    (hwrites : task.writes settings location) : Task.migrate.writes settings location := by
  cases task with
  | scan => exact hwrites.elim
  | generate => exact .inl hwrites
  | generateLibrary => exact .inl hwrites
  | convert dryRun => exact .inr hwrites.2
  | migrate => exact hwrites

namespace Tree

/-- A file stands at a location that was not there before, or not with that content. -/
def IsWritten (before after : Tree) (location : Location) : Prop :=
  ∃ content, after.lookup location = some (.file content) ∧
    before.lookup location ≠ some (.file content)

/-- Where there was a file, there still is one. -/
def KeepsFiles (before after : Tree) : Prop :=
  ∀ location content, before.lookup location = some (.file content) →
    ∃ other, after.lookup location = some (.file other)

variable {places : Location → Prop} {before after : Tree}

/-- Where there was a file, there still is one after changes. -/
theorem Changes.keepsFiles (hchanges : Changes places before after) :
    before.KeepsFiles after := by
  intro location content hfile
  have hfate := hchanges.fate location
  rw [hfile] at hfate
  obtain ⟨other, hother, -⟩ := hfate.file
  exact ⟨other, hother⟩

/-- What is written is in one of the places. -/
theorem Changes.of_isWritten (hchanges : Changes places before after) {location : Location}
    (hwritten : before.IsWritten after location) : places location := by
  obtain ⟨content, hafter, hbefore⟩ := hwritten
  have hfate := hchanges.fate location
  rw [hafter] at hfate
  generalize before.lookup location = entry at hfate hbefore
  cases hfate with
  | kept => exact absurd rfl hbefore
  | written _ _ hplace => exact hplace

end Tree

namespace Command

open Console

variable {engine : Engine} {now : Macro.Moment} {path : Path} {settings : Settings} {tree : Tree}

/-- Converting keeps to the models of the settings. -/
theorem convert_changes {places : Location → Prop}
    (hplaces : ∀ location, settings.isModelPlace location = true → places location)
    (htree : tree.IsProper) (dryRun : Bool) :
    Tree.Changes places tree ((Project.convert engine settings dryRun).treeAfter tree) := by
  refine (Project.convert_confined htree fun path hpath location names hbelow hends => ?_).changes
  refine hplaces location (List.any_eq_true.mpr ⟨path, hpath, ?_⟩)
  rw [hbelow, Option.any_some, hends]

section Steps

variable {post : Tree → Prop}

/-- What holds of a tree holds after a scan. -/
theorem runScan_endsIn (hpost : post tree) : EndsIn post (runScan engine path) tree := by
  unfold runScan
  refine .print_bind hpost (endsIn_loadSettings_bind hpost fun settings _ => ?_)
  refine endsIn_scanProject_bind hpost fun counts => .ofAnswer_bind hpost fun table _ => ?_
  exact .write_bind ((ends_print _ _).endsIn hpost)

/-- What holds of the tree before macros are generated, and after the work on it, holds however the
command ends. -/
theorem runGenerate_endsIn (hpost : post tree) (hgenerate : ∀ settings functions,
      Settings.load tree path = .ok settings →
      post ((Project.generate engine now settings functions).treeAfter tree)) :
    EndsIn post (runGenerate engine now path) tree := by
  unfold runGenerate
  refine .print_bind hpost (endsIn_loadSettings_bind hpost fun settings hload => ?_)
  refine endsIn_scanProject_bind hpost fun counts => ?_
  have hafter := hgenerate settings (counts.map (·.1)) hload
  exact .ofAction_bind hafter fun output _ => (ends_printNaming _ _ _).endsIn hafter

/-- What holds of the tree before all macros are generated, and after the work on it, holds however
the command ends. -/
theorem runGenerateLibrary_endsIn (hpost : post tree) (hgenerate : ∀ settings functions,
      Settings.load tree path = .ok settings →
      post ((Project.generate engine now settings functions).treeAfter tree)) :
    EndsIn post (runGenerateLibrary engine now path) tree := by
  unfold runGenerateLibrary
  refine .print_bind hpost (endsIn_loadSettings_bind hpost fun settings hload => ?_)
  refine .ofAnswer_bind hpost fun functions _ => ?_
  have hafter := hgenerate settings functions hload
  exact .ofAction_bind hafter fun output _ => (ends_printNaming _ _ _).endsIn hafter

/-- What holds of the tree before models are converted, and after the work on it, holds however the
command ends. -/
theorem runConvert_endsIn {dryRun : Bool} (hpost : post tree) (hconvert : ∀ settings,
      Settings.load tree path = .ok settings →
      post ((Project.convert engine settings dryRun).treeAfter tree)) :
    EndsIn post (runConvert engine dryRun path) tree := by
  unfold runConvert
  refine .print_bind hpost (endsIn_loadSettings_bind hpost fun settings hload => ?_)
  have hafter := hconvert settings hload
  refine .ofAction_bind hafter fun changed _ => ?_
  dsimp only
  split <;> exact (ends_print _ _).endsIn hafter

/-- The models are converted in the tree that the macros were written to. -/
theorem runMigrate_endsIn (hpost : post tree)
    (hgenerate : ∀ settings functions, Settings.load tree path = .ok settings →
      post ((Project.generate engine now settings functions).treeAfter tree))
    (hconvert : ∀ settings between, Settings.load tree path = .ok settings → post between →
      post ((Project.convert engine settings false).treeAfter between)) :
    EndsIn post (runMigrate engine now path) tree := by
  unfold runMigrate
  refine .print_bind hpost (endsIn_loadSettings_bind hpost fun settings hload => ?_)
  refine .print_bind hpost (endsIn_scanProject_bind hpost fun counts => ?_)
  refine .print_bind hpost (.print_bind hpost ?_)
  have hbetween := hgenerate settings (counts.map (·.1)) hload
  refine .ofAction_bind hbetween fun output _ =>
    .report_bind (ends_printNaming _ _ _) hbetween (.print_bind hbetween ?_)
  have hafter := hconvert settings _ hload hbetween
  exact .ofAction_bind hafter fun changed _ => .print_bind hafter ((ends_print _ _).endsIn hafter)

end Steps

/-- A command that only looks leaves the tree as it is. -/
theorem runOn_tree_of_reads {task : Task} (htask : task = .scan ∨ task = .convert true) :
    (runOn engine now tree ⟨task, path⟩).tree = tree := by
  refine runOn_of_endsIn (· = tree) ?_
  rcases htask with rfl | rfl
  · exact runScan_endsIn rfl
  · exact runConvert_endsIn rfl fun settings _ => Project.convert_onlyReads engine settings tree

/-- Without settings a command leaves the tree as it is. -/
theorem runOn_tree_of_load_error {fault : Fault} (hload : Settings.load tree path = .error fault)
    (task : Task) : (runOn engine now tree ⟨task, path⟩).tree = tree := by
  have hnone {settings : Settings} {p : Prop} (hother : Settings.load tree path = .ok settings) :
      p := by
    rw [hload] at hother
    cases hother
  refine runOn_of_endsIn (· = tree) ?_
  cases task with
  | scan => exact runScan_endsIn rfl
  | generate => exact runGenerate_endsIn rfl fun _ _ hother => hnone hother
  | generateLibrary => exact runGenerateLibrary_endsIn rfl fun _ _ hother => hnone hother
  | convert dryRun => exact runConvert_endsIn rfl fun _ hother => hnone hother
  | migrate =>
    exact runMigrate_endsIn rfl (fun _ _ hother => hnone hother) fun _ _ hother => hnone hother

/-- A command writes to the places of its task only. -/
theorem runOn_changes (htree : tree.IsProper) (hload : Settings.load tree path = .ok settings)
    (task : Task) :
    Tree.Changes (task.writes settings) tree (runOn engine now tree ⟨task, path⟩).tree := by
  have hsame {other : Settings} (hother : Settings.load tree path = .ok other) :
      other = settings := Except.ok.inj (hother.symm.trans hload)
  refine runOn_of_endsIn (Tree.Changes (task.writes settings) tree) ?_
  cases task with
  | scan => exact runScan_endsIn (.refl _ tree)
  | generate =>
    refine runGenerate_endsIn (.refl _ tree) fun other functions hother => ?_
    exact (Project.generate_confined functions (hsame hother ▸ rfl)).changes
  | generateLibrary =>
    refine runGenerateLibrary_endsIn (.refl _ tree) fun other functions hother => ?_
    exact (Project.generate_confined functions (hsame hother ▸ rfl)).changes
  | convert dryRun =>
    refine runConvert_endsIn (.refl _ tree) fun other hother => ?_
    obtain rfl := hsame hother
    cases dryRun with
    | true =>
      rw [Project.convert_onlyReads engine other tree]
      exact .refl _ tree
    | false => exact convert_changes (fun _ hplace => ⟨rfl, hplace⟩) htree false
  | migrate =>
    refine runMigrate_endsIn (.refl _ tree) (fun other functions hother => ?_)
      fun other between hother hbetween => ?_
    · exact (Project.generate_confined functions (hsame hother ▸ .inl rfl)).changes
    · obtain rfl := hsame hother
      exact hbetween.trans
        (convert_changes (fun _ hplace => .inr hplace) (hbetween.proper htree) false)

/-! ## Sequences -/

/-- The tree after several commands with the same settings file, each at its time. What fails along
the way does not stop the next command. -/
def runAll (engine : Engine) (path : Path) (tree : Tree) (steps : List (Macro.Moment × Task)) :
    Tree :=
  steps.foldl (fun tree step => (runOn engine step.1 tree ⟨step.2, path⟩).tree) tree

/-- Without settings no sequence of commands changes the tree. -/
theorem runAll_of_load_error {fault : Fault} (hload : Settings.load tree path = .error fault)
    (steps : List (Macro.Moment × Task)) : runAll engine path tree steps = tree := by
  induction steps with
  | nil => rfl
  | cons step steps ih =>
    unfold runAll at ih ⊢
    rw [List.foldl_cons, runOn_tree_of_load_error hload step.2, ih]

/-- Commands that cannot write to the settings file go on loading the same settings, so together
they write no more than a migration may. -/
theorem runAll_changes (htree : tree.IsProper) (hload : Settings.load tree path = .ok settings)
    (hconfig : ¬Task.migrate.writes settings path.target) (steps : List (Macro.Moment × Task)) :
    Tree.Changes (Task.migrate.writes settings) tree (runAll engine path tree steps) := by
  induction steps generalizing tree with
  | nil => exact .refl _ tree
  | cons step steps ih =>
    have hstep : Tree.Changes (Task.migrate.writes settings) tree
        (runOn engine step.1 tree ⟨step.2, path⟩).tree :=
      (runOn_changes htree hload step.2).mono fun _ => Task.writes_migrate
    exact hstep.trans (ih (hstep.proper htree) (hstep.load hconfig hload))

/-- After any commands with one settings file, of which some may have failed, no file is missing.
Provided that the settings file is neither the file of the macros nor a model, all commands have
loaded the same settings, only the file of the macros and models are written, and the next command
writes to the places of its task only: a scan and a preview to none. Without settings nothing
happens at all. -/
theorem commands_write_own_files_only (htree : tree.IsProper)
    (hconfig : ∀ settings, Settings.load tree path = .ok settings →
      path.target ≠ settings.macroOutput.target ∧ settings.isModelPlace path.target = false)
    (steps : List (Macro.Moment × Task)) (now : Macro.Moment) (task : Task) :
    let reached := runAll engine path tree steps
    let after := (runOn engine now reached ⟨task, path⟩).tree
    tree.KeepsFiles reached ∧ reached.KeepsFiles after ∧
      (∀ settings, Settings.load tree path = .ok settings →
        Settings.load reached path = .ok settings ∧
        (∀ location, tree.IsWritten reached location →
          location = settings.macroOutput.target ∨ settings.isModelPlace location = true) ∧
        ∀ location, reached.IsWritten after location → task.writes settings location) ∧
      (task = .scan ∨ task = .convert true → after = reached) ∧
      ∀ fault, Settings.load tree path = .error fault → after = tree := by
  intro reached after
  cases hload : Settings.load tree path with
  | error fault =>
    have hreached : reached = tree := runAll_of_load_error hload steps
    have hafter : after = tree := by
      unfold after
      rw [hreached]
      exact runOn_tree_of_load_error hload task
    have hkeeps : tree.KeepsFiles tree := fun _ content hfile => ⟨content, hfile⟩
    rw [hreached, hafter]
    refine ⟨hkeeps, hkeeps, fun _ hother => ?_, fun _ => rfl, fun _ _ => rfl⟩
    cases hother
  | ok settings =>
    obtain ⟨hmacros, hmodel⟩ := hconfig settings hload
    have hsettings : ¬Task.migrate.writes settings path.target := by
      rintro (hwrites | hwrites)
      · exact hmacros hwrites
      · rw [hmodel] at hwrites
        cases hwrites
    have hreached : Tree.Changes (Task.migrate.writes settings) tree reached :=
      runAll_changes htree hload hsettings steps
    have hagain : Settings.load reached path = .ok settings := hreached.load hsettings hload
    have hafter : Tree.Changes (task.writes settings) reached after :=
      runOn_changes (hreached.proper htree) hagain task
    refine ⟨hreached.keepsFiles, hafter.keepsFiles, fun other hother => ?_,
      runOn_tree_of_reads, fun fault hother => ?_⟩
    · obtain rfl := Except.ok.inj hother
      exact ⟨hagain, fun _ => hreached.of_isWritten, fun _ => hafter.of_isWritten⟩
    · cases hother

/-- A migration of the sample project writes the macros and the model. The library that is generated
next replaces the macros and nothing else. -/
theorem commands_write_own_files_only_sample :
    let tree := sampleTree sampleModels
    let reached := runAll sampleEngine defaultSettings tree
      [(sampleClock, .convert true), (sampleClock, .migrate)]
    let after := (runOn sampleEngine sampleClock reached ⟨.generateLibrary, defaultSettings⟩).tree
    reached.lookup sampleLocation ≠ tree.lookup sampleLocation ∧
      reached.lookup sampleInsertion.path.target ≠ tree.lookup sampleInsertion.path.target ∧
      after.lookup sampleLocation ≠ reached.lookup sampleLocation ∧
      Settings.load reached defaultSettings = .ok sampleSettings ∧
      ∀ location, reached.IsWritten after location → location = sampleLocation := by
  intro tree reached after
  have hconfig : ∀ settings, Settings.load tree defaultSettings = .ok settings →
      defaultSettings.target ≠ settings.macroOutput.target ∧
        settings.isModelPlace defaultSettings.target = false := by
    intro settings hsettings
    obtain rfl := load_sample.mp hsettings
    decide
  obtain ⟨-, -, hwrites, -⟩ := commands_write_own_files_only (by decide) hconfig
    [(sampleClock, .convert true), (sampleClock, .migrate)] sampleClock .generateLibrary
  obtain ⟨hagain, -, hlibrary⟩ := hwrites sampleSettings (load_sample.mpr rfl)
  have hchanged : reached.lookup sampleLocation ≠ tree.lookup sampleLocation ∧
      reached.lookup sampleInsertion.path.target ≠ tree.lookup sampleInsertion.path.target ∧
      after.lookup sampleLocation ≠ reached.lookup sampleLocation := by
    decide +kernel
  exact ⟨hchanged.1, hchanged.2.1, hchanged.2.2, hagain, hlibrary⟩

end Command

end PortableSql

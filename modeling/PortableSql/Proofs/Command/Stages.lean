import PortableSql.Proofs.Command.Course
import PortableSql.Proofs.Command.Migration

/-!
# A migration in two stages

A migration does what generating the macros and then converting the models does: the settings that
are loaded again for the second stage are the same, since generating writes to the file of the
macros only. The stages differ in their reports. Between them, a migration prints the path of the
macros in a line of its own, and what it prints may not be readable as markup.
-/

namespace PortableSql

open Sql

namespace Command

open Console Report

variable {engine : Engine} {now : Macro.Moment} {path : Path} {settings : Settings} {tree : Tree}

/-! ## Reports -/

/-- What a migration reports of the file of the macros. -/
def macrosReport (output : Path) : Text :=
  "      Generated macros at: ".toList ++ output.shown ++ "\n".toList

/-- The reports of a migration that are always the same, and the one of a conversion. -/
theorem isPrintable_headlines :
    IsPrintable (headline "Rewriting models...") ∧
      IsPrintable (headline "Starting migration..." ++ "\n".toList) ∧
      IsPrintable "[1/3] Scanning project...".toList ∧
      IsPrintable "[2/3] Generating macros...".toList ∧
      IsPrintable "[3/3] Rewriting models...".toList ∧
      IsPrintable (styled "bold green" "✓ Migration complete!".toList) := by
  decide +kernel

/-- A number between texts without brackets can be printed. -/
theorem isPrintable_count {lead rest : Text} (hlead : '[' ∉ lead) (hrest : '[' ∉ rest) (n : Nat) :
    IsPrintable (lead ++ Text.ofNat n ++ rest) := by
  refine isPrintable_of_not_mem ?_
  simp [hlead, hrest, Macro.not_mem_ofNat]

/-- The mark of success is a character between two tags. -/
theorem pieces_checkMark (rest : Text) :
    pieces (checkMark ++ rest) = [.tag 0 (.ofText "bold green".toList), .plain ['✓'],
      .tag 13 (.ofText "/bold green".toList)] ++ piecesFrom 0 26 [] rest := by
  have hopening : IsTagContent "bold green".toList := by decide
  have hclosing : IsTagContent "/bold green".toList := by decide
  have hfirst : pieces (checkMark ++ rest) = .tag 0 (.ofText "bold green".toList) ::
      piecesFrom 0 12 [] ('✓' :: ("[/bold green]".toList ++ rest)) :=
    piecesFrom_tag hopening 0 [] _
  have hmark : piecesFrom 0 12 [] ('✓' :: ("[/bold green]".toList ++ rest)) =
      piecesFrom 0 13 ['✓'] ("[/bold green]".toList ++ rest) := rfl
  have hsecond : piecesFrom 0 13 ['✓'] ("[/bold green]".toList ++ rest) =
      .plain ['✓'] :: .tag 13 (.ofText "/bold green".toList) :: piecesFrom 0 26 [] rest :=
    piecesFrom_tag hclosing 13 ['✓'] rest
  rw [hfirst, hmark, hsecond]
  rfl

/-- The mark of success is one character with a style. -/
theorem ofMarkup_checkMark {rest : Text} (hrest : '[' ∉ rest) :
    Message.ofMarkup (checkMark ++ rest) =
      .ok ⟨'✓' :: shownText rest, [⟨0, 1, "bold green".toList⟩]⟩ := by
  have hdraft : List.foldlM Draft.readPiece ⟨[], [], []⟩
      [.tag 0 (.ofText "bold green".toList), .plain ['✓'], .tag 13 (.ofText "/bold green".toList)] =
        .ok ⟨['✓'], [], [⟨0, 1, "bold green".toList⟩]⟩ := by
    decide +kernel
  have hall : (pieces (checkMark ++ rest)).foldlM Draft.readPiece ⟨[], [], []⟩ =
      .ok ⟨'✓' :: shownText rest, [], [⟨0, 1, "bold green".toList⟩]⟩ := by
    rw [pieces_checkMark, List.foldlM_append, hdraft]
    exact readPieces_of_not_mem hrest _ 26
  unfold Message.ofMarkup
  rw [hall]
  rfl

/-- A text without brackets can be printed after the mark of success. -/
theorem isPrintable_checkMark {rest : Text} (hrest : '[' ∉ rest) :
    IsPrintable (checkMark ++ rest) := by
  refine isPrintable_of_isReadable (ofMarkup_checkMark hrest) fun span hspan => ?_
  obtain rfl := List.mem_singleton.mp hspan
  have hstyle : Style.ofText "bold green".toList =
      .ok (some ⟨[(.bold, true)], some "green".toList, none, none⟩) := by
    decide +kernel
  exact ⟨_, hstyle⟩

/-! ## Stages -/

/-- Generating that succeeds has loaded the settings, scanned the project, written the macros and
printed where they are. -/
theorem generate_steps (hrun : (runOn engine now tree ⟨.generate, path⟩).fault = none) :
    ∃ settings counts, Settings.load tree path = .ok settings ∧
      Project.scan engine tree settings = .ok counts ∧
      Yields (Project.generate engine now settings (counts.map (·.1))) tree settings.macroOutput
        (runOn engine now tree ⟨.generate, path⟩).tree ∧
      settings.macroOutput.isWhole = true ∧
      Tree.Changes (· = settings.macroOutput.target) tree
        (runOn engine now tree ⟨.generate, path⟩).tree := by
  obtain ⟨last, hyields, htree⟩ := yields_of_fault_none hrun
  rw [htree]
  have hgenerate : Yields (runGenerate engine now path) ⟨tree, []⟩ () last := hyields
  unfold runGenerate at hgenerate
  obtain ⟨started, hstarted, hgenerate⟩ := yields_print_bind hgenerate
  obtain ⟨settings, loaded, hquestion, hgenerate⟩ := yields_bind.mp hgenerate
  obtain ⟨hload, rfl⟩ := yields_question (Settings.load · path) hquestion
  obtain ⟨counts, scanned, hquestion, hgenerate⟩ := yields_bind.mp hgenerate
  obtain ⟨hscan, rfl⟩ := yields_question (Project.scan engine · settings) hquestion
  obtain ⟨output, generated, haction, hgenerate⟩ := yields_bind.mp hgenerate
  have hwritten := yields_ofAction haction
  rw [hstarted] at hload hscan hwritten
  have hconfined : Action.Confined (· = settings.macroOutput.target)
      (Project.generate engine now settings (counts.map (·.1))) tree (· = settings.macroOutput) :=
    Project.generate_confined _ rfl
  obtain ⟨hanswer, hafter⟩ := Action.yields_iff.mp hwritten
  obtain rfl := hconfined.returns output hanswer
  obtain ⟨hwhole, hlast⟩ := yields_printNaming hgenerate
  rw [hlast]
  exact ⟨settings, counts, hload, hscan, hwritten, hwhole, hafter ▸ hconfined.changes⟩

/-- Converting models ends as the work on the tree does. -/
theorem ends_runConvert (hload : Settings.load tree path = .ok settings) :
    Ends (runConvert engine false path) tree
      (((Project.convert engine settings false).answer tree).map fun _ => ())
      ((Project.convert engine settings false).treeAfter tree) := by
  obtain ⟨hheadline, -⟩ := isPrintable_headlines
  unfold runConvert
  refine .print_bind hheadline (ends_loadSettings_bind hload (.ofAction_bind _ fun changed => ?_))
  refine ends_print_ok ?_ _
  rw [List.append_assoc, List.append_assoc]
  refine isPrintable_checkMark ?_
  simp [Macro.not_mem_ofNat]

/-- What a migration does once the macros are written. -/
def lastStage (engine : Engine) (settings : Settings) (output : Path) : Console Unit := do
  printNaming output (macrosReport output)
  print "[3/3] Rewriting models...".toList
  let changed ← ofAction (Project.convert engine settings false)
  print ("      Modified ".toList ++ Text.ofNat changed.length ++ " file(s)\n".toList)
  print (styled "bold green" "✓ Migration complete!".toList)

/-- A migration ends as its last stage does. -/
theorem ends_runMigrate {counts : List (Text × Nat)} {between after : Tree}
    {answer : Except Fault Unit} (hload : Settings.load tree path = .ok settings)
    (hscan : Project.scan engine tree settings = .ok counts)
    (hgenerate : Yields (Project.generate engine now settings (counts.map (·.1))) tree
      settings.macroOutput between)
    (hlast : Ends (lastStage engine settings settings.macroOutput) between answer after) :
    Ends (runMigrate engine now path) tree answer after := by
  obtain ⟨-, hstarted, hscanning, hgenerating, -⟩ := isPrintable_headlines
  obtain ⟨hanswer, rfl⟩ := Action.yields_iff.mp hgenerate
  have hgenerated := ends_ofAction (Project.generate engine now settings (counts.map (·.1))) tree
  rw [hanswer] at hgenerated
  unfold runMigrate
  refine .print_bind hstarted (ends_loadSettings_bind hload (.print_bind hscanning ?_))
  refine ends_scanProject_bind hscan (.print_bind (isPrintable_count (by decide) (by decide) _) ?_)
  exact .print_bind hgenerating (hgenerated.bind_ok hlast)

/-- If it can be reported where the macros are, the models are converted. -/
theorem ends_lastStage {output : Path} (hwhole : output.isWhole = true)
    (hreport : IsPrintable (macrosReport output)) :
    Ends (lastStage engine settings output) tree
      (((Project.convert engine settings false).answer tree).map fun _ => ())
      ((Project.convert engine settings false).treeAfter tree) := by
  obtain ⟨-, -, -, -, hrewriting, hcomplete⟩ := isPrintable_headlines
  obtain ⟨printed, hprinted⟩ := hreport
  have hnaming : Ends (printNaming output (macrosReport output)) tree (.ok ()) tree := by
    have hends := ends_printNaming output (macrosReport output) tree
    rw [namingAnswer, hprinted, hwhole] at hends
    exact hends
  unfold lastStage
  refine hnaming.bind_ok (.print_bind hrewriting (.ofAction_bind _ fun changed => ?_))
  exact .print_bind (isPrintable_count (by decide) (by decide) _) (ends_print_ok hcomplete _)

/-- If it cannot be reported where the macros are, the models stay as they are. -/
theorem ends_lastStage_of_not_isPrintable {output : Path}
    (hreport : ¬IsPrintable (macrosReport output)) :
    ∃ fault, Ends (lastStage engine settings output) tree (.error fault) tree := by
  obtain ⟨fault, hfault⟩ := error_iff_not_ok.mpr hreport
  have hends := ends_printNaming output (macrosReport output) tree
  rw [namingAnswer, hfault] at hends
  exact ⟨fault, hends.bind_error _⟩

/-- Once generating has succeeded, a migration leaves what generating and then converting leave, and
fails as converting does, provided that the line with the path of the macros can be printed.
Otherwise it ends with the macros. A path without brackets can always be printed. -/
theorem migrate_eq_generate_then_convert
    (hconfig : ∀ settings, Settings.load tree path = .ok settings →
      path.target ≠ settings.macroOutput.target)
    (hgenerate : (runOn engine now tree ⟨.generate, path⟩).fault = none) (later : Macro.Moment) :
    let generated := runOn engine now tree ⟨.generate, path⟩
    let converted := runOn engine later generated.tree ⟨.convert false, path⟩
    let migrated := runOn engine now tree ⟨.migrate, path⟩
    ∃ settings, Settings.load tree path = .ok settings ∧
      (IsPrintable (macrosReport settings.macroOutput) →
        migrated.tree = converted.tree ∧ migrated.fault = converted.fault) ∧
      (¬IsPrintable (macrosReport settings.macroOutput) →
        migrated.tree = generated.tree ∧ migrated.fault ≠ none) ∧
      ('[' ∉ settings.macroOutput.shown → IsPrintable (macrosReport settings.macroOutput)) := by
  intro generated converted migrated
  obtain ⟨settings, counts, hload, hscan, hyields, hwhole, hchanges⟩ := generate_steps hgenerate
  refine ⟨settings, hload, fun hreport => ?_, fun hreport => ?_, fun hpath => ?_⟩
  · -- The settings are loaded again from the tree that generating has left.
    have hagain := hchanges.load (hconfig settings hload) hload
    have hconvert := runOn_of_ends engine later ⟨.convert false, path⟩ (ends_runConvert hagain)
    have hmigrate := runOn_of_ends engine now ⟨.migrate, path⟩
      (ends_runMigrate hload hscan hyields (ends_lastStage hwhole hreport))
    exact ⟨hmigrate.1.trans hconvert.1.symm, hmigrate.2.trans hconvert.2.symm⟩
  · obtain ⟨fault, hlast⟩ := ends_lastStage_of_not_isPrintable hreport
    have hmigrate := runOn_of_ends engine now ⟨.migrate, path⟩
      (ends_runMigrate hload hscan hyields hlast)
    exact ⟨hmigrate.1, hmigrate.2 ▸ Option.some_ne_none fault⟩
  · refine isPrintable_of_not_mem ?_
    unfold macrosReport
    simp [hpath]

/-- Generating and converting the sample project does what migrating it does. -/
theorem migrate_eq_generate_then_convert_sample :
    let tree := sampleTree sampleModels
    let generated := runOn sampleEngine sampleClock tree ⟨.generate, defaultSettings⟩
    let converted := runOn sampleEngine sampleClock generated.tree ⟨.convert false, defaultSettings⟩
    generated.fault = none ∧ converted.fault = none ∧ generated.tree ≠ tree ∧
      converted.tree ≠ generated.tree ∧ (sampleRun tree).tree = converted.tree := by
  intro tree generated converted
  have hstages : generated.fault = none ∧ converted.fault = none ∧ generated.tree ≠ tree ∧
      converted.tree ≠ generated.tree := by
    decide +kernel
  have hconfig : ∀ settings, Settings.load tree defaultSettings = .ok settings →
      defaultSettings.target ≠ settings.macroOutput.target := by
    intro settings hsettings
    obtain rfl := load_sample.mp hsettings
    decide
  obtain ⟨settings, hsettings, hsame, -, hpath⟩ :=
    migrate_eq_generate_then_convert hconfig hstages.1 sampleClock
  obtain rfl := load_sample.mp hsettings
  exact ⟨hstages.1, hstages.2.1, hstages.2.2.1, hstages.2.2.2, (hsame (hpath (by decide))).1⟩

/-- Settings by which the macros go to a path that ends in a blank with a colour of its own. -/
def colouredSettings : Text :=
  "adapters: [spark, postgres]\nmacro_output: '".toList ++
    "macros/portable_functions_of_each_adapter_in_this_project[b=rgb(,,)] ".toList ++ "'\n".toList

/-- A project with these settings and a model. -/
def colouredTree : Tree :=
  ⟨[(⟨.above 0, [".dbt-multi-adapter.yml".toList]⟩, .file (.text colouredSettings)),
    (⟨.above 0, ["models".toList]⟩, .folder),
    (⟨.above 0, ["models".toList, "m.sql".toList]⟩,
      .file (.text "SELECT COLLECT_LIST(x)".toList))], []⟩

/-- Generating drops the blank with the colour at the end of the line. A migration breaks the line
in front of the path, so it reads the colour, and fails before it converts the model. -/
theorem migrate_fails_where_stages_succeed :
    let generated := runOn sampleEngine sampleClock colouredTree ⟨.generate, defaultSettings⟩
    let converted := runOn sampleEngine sampleClock generated.tree ⟨.convert false, defaultSettings⟩
    (Settings.load colouredTree defaultSettings).toOption.any
        (fun settings => defaultSettings.target != settings.macroOutput.target) = true ∧
      generated.fault = none ∧ converted.fault = none ∧ (sampleRun colouredTree).fault ≠ none ∧
      (sampleRun colouredTree).tree ≠ converted.tree := by
  decide +kernel

end Command

end PortableSql

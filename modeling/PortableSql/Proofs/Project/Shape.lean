import PortableSql.Proofs.Project.Places

/-!
# Shapes of settings

Settings are taken from whatever a settings file holds. The checks are loose: a text has a length
and consists of its characters, a mapping consists of its keys, and every value counts as true or
false. So some documents are accepted although they do not have the shapes that the rest of the
program counts on. Which documents are accepted and which settings can be used is stated here.
-/

namespace PortableSql

namespace Path

/-! ## Paths -/

/-- The code of a character gives the character. -/
theorem charOf_toNat (c : Char) : Text.isHalfCode c.toNat = false ∧ Text.charOf c.toNat = c := by
  have hvalid : c.toNat < 0xd800 ∨ 0xdfff < c.toNat ∧ c.toNat < 0x110000 := c.valid
  have hwhole : Text.isHalfCode c.toNat = false := by
    unfold Text.isHalfCode
    simp only [Bool.and_eq_false_iff, decide_eq_false_iff_not]
    omega
  refine ⟨hwhole, ?_⟩
  rw [Text.charOf, hwhole, if_neg Bool.false_ne_true, Char.ofNat_toNat]

/-- The names in a text are found by the codes of its characters. -/
theorem namesOf_toNat (t : Text) : namesOf (t.map Char.toNat) = Text.splitOn '/' t := by
  induction t with
  | nil => rfl
  | cons c t ih =>
    have hname : nameChars c.toNat = [c] := by
      rw [nameChars, (charOf_toNat c).1, Char.ofNat_toNat]
      rfl
    have hslash : (c.toNat == '/'.toNat) = (c == '/') := by
      rw [Bool.eq_iff_iff, beq_iff_eq, beq_iff_eq, Char.toNat_inj]
    rw [List.map_cons, namesOf, Text.splitOn, ih, hslash, hname]
    rfl

/-- A text spells the same path by its characters as by their codes. -/
theorem ofCodes_toNat (t : Text) : ofCodes (t.map Char.toNat) = ofText t := by
  have hchars : (t.map Char.toNat).map Text.charOf = t := by
    rw [List.map_map]
    exact List.map_id'' (fun c => (charOf_toNat c).2) t
  rw [ofCodes, ofText, namesOf_toNat, hchars]

end Path

namespace Settings

variable {root : Path} {document : Value} {settings : Settings}

/-! ## Documents -/

/-- What a mapping gives for a name: what it holds under the name, or else a default. -/
def Gives (document : Value) (name : String) (fallback value : Value) : Prop :=
  ∃ found, document.field? name = .ok found ∧ found.getD fallback = value

/-- A document gives one value for a name. -/
theorem Gives.unique {name : String} {fallback value other : Value}
    (hvalue : Gives document name fallback value) (hother : Gives document name fallback other) :
    value = other := by
  obtain ⟨found, hfound, rfl⟩ := hvalue
  obtain ⟨again, hagain, rfl⟩ := hother
  rw [Except.ok.inj (hfound.symm.trans hagain)]

/-- A value is a text, which may hold halves of characters. -/
inductive IsText : Value → Prop
  | whole (t : Text) : IsText (.ofText t)
  | halved (codes : List Nat) : IsText (.scalar (.halved codes))

/-- The path that a text spells. -/
def spelledPath : Value → Path
  | .scalar (.text t) => .ofText t
  | .scalar (.halved codes) => .ofCodes codes
  | _ => ⟨.relative, []⟩

/-- A document is a mapping in which the adapters have a length of at least two, the path of the
macros is a text and, unless scanning is off, the paths of the models consist of texts. -/
structure IsAccepted (document : Value) : Prop where
  adapters : ∃ value n, Gives document "adapters" (.list []) value ∧ value.length = .ok n ∧ 2 ≤ n
  macroOutput : ∃ value, Gives document "macro_output" defaultMacroOutput value ∧ IsText value
  modelPaths : ∃ scanned, Gives document "scan_project" (.scalar (.bool true)) scanned ∧
    (scanned.isTruthy = true → ∃ (value : Value) (items : List Value),
      Gives document "model_paths" defaultModelPaths value ∧ value.items = .ok items ∧
        ∀ item ∈ items, IsText item)

/-- A document has the shapes of settings: the adapters are a list of at least two texts, scanning
is on or off and, unless it is off, the paths of the models are a list of texts. -/
structure IsWellShaped (document : Value) : Prop where
  adapters : ∃ names : List Value, Gives document "adapters" (.list []) (.list names) ∧
    (∀ name ∈ names, IsText name) ∧ 2 ≤ names.length
  macroOutput : ∃ value, Gives document "macro_output" defaultMacroOutput value ∧ IsText value
  scanProject : ∃ b, Gives document "scan_project" (.scalar (.bool true)) (.scalar (.bool b)) ∧
    (b = true → ∃ names : List Value,
      Gives document "model_paths" defaultModelPaths (.list names) ∧ ∀ name ∈ names, IsText name)

/-- A document with the shapes of settings is accepted. -/
theorem IsWellShaped.isAccepted (hshape : IsWellShaped document) : IsAccepted document := by
  obtain ⟨⟨names, hadapters, -, hcount⟩, hmacros, ⟨b, hscanned, hpaths⟩⟩ := hshape
  refine ⟨⟨_, names.length, hadapters, rfl, hcount⟩, hmacros, _, hscanned, fun htrue => ?_⟩
  obtain ⟨listed, hlisted, htexts⟩ := hpaths htrue
  exact ⟨_, listed, hlisted, rfl, htexts⟩

/-! ## Settings of a document -/

/-- Paths of models are those that a document gives, or none if models are not scanned. -/
inductive GivesPaths (root : Path) (document scanned : Value) : List Path → Prop
  | on (hon : scanned.isTruthy = true) {value : Value} {items : List Value}
      (hvalue : Gives document "model_paths" defaultModelPaths value)
      (hitems : value.items = .ok items) (htexts : ∀ item ∈ items, IsText item) :
      GivesPaths root document scanned (items.map fun item => root.join (spelledPath item))
  | off (hoff : scanned.isTruthy = false) : GivesPaths root document scanned []

/-- If models are scanned, their paths are spelled by the items of the document's value. -/
theorem GivesPaths.of_on {scanned : Value} {paths : List Path}
    (hpaths : GivesPaths root document scanned paths) (hon : scanned.isTruthy = true) :
    ∃ (value : Value) (items : List Value), Gives document "model_paths" defaultModelPaths value ∧
      value.items = .ok items ∧ (∀ item ∈ items, IsText item) ∧
      paths = items.map fun item => root.join (spelledPath item) := by
  cases hpaths with
  | on _ hvalue hitems htexts => exact ⟨_, _, hvalue, hitems, htexts, rfl⟩
  | off hoff =>
    rw [hon] at hoff
    cases hoff

/-- If models are not scanned, there are no paths. -/
theorem GivesPaths.of_off {scanned : Value} {paths : List Path}
    (hpaths : GivesPaths root document scanned paths) (hoff : scanned.isTruthy = false) :
    paths = [] := by
  cases hpaths with
  | on hon =>
    rw [hon] at hoff
    cases hoff
  | off => rfl

/-- Settings are those that a document gives for a project with the given root. -/
structure IsReading (root : Path) (document : Value) (settings : Settings) : Prop where
  adapters : Gives document "adapters" (.list []) settings.adapters
  enough : ∃ n, settings.adapters.length = .ok n ∧ 2 ≤ n
  macroOutput : ∃ value, Gives document "macro_output" defaultMacroOutput value ∧ IsText value ∧
    settings.macroOutput = root.join (spelledPath value)
  scanProject : Gives document "scan_project" (.scalar (.bool true)) settings.scanProject
  modelPaths : GivesPaths root document settings.scanProject settings.modelPaths
  projectRoot : settings.projectRoot = root

/-- A path is read from a value exactly if that is a text. -/
theorem pathFrom_eq_ok {value : Value} {path : Path} :
    pathFrom root value = .ok path ↔ IsText value ∧ path = root.join (spelledPath value) := by
  unfold pathFrom
  split
  next t =>
    rw [Except.ok.injEq]
    exact ⟨fun hpath => ⟨.whole t, hpath.symm⟩, fun hpath => hpath.2.symm⟩
  next codes =>
    rw [Except.ok.injEq]
    exact ⟨fun hpath => ⟨.halved codes, hpath.symm⟩, fun hpath => hpath.2.symm⟩
  next hwhole hhalved =>
    refine iff_of_false (fun hpath => by cases hpath) ?_
    rintro ⟨htext, -⟩
    cases htext with
    | whole t => exact hwhole t rfl
    | halved codes => exact hhalved codes rfl

/-- Paths are read from values exactly if all of them are texts. -/
theorem mapM_pathFrom_eq_ok {values : List Value} {paths : List Path} :
    values.mapM (pathFrom root) = .ok paths ↔
      (∀ value ∈ values, IsText value) ∧
        paths = values.map fun value => root.join (spelledPath value) := by
  rw [mapM_eq_ok]
  constructor
  · intro hall
    induction hall with
    | nil => exact ⟨List.forall_mem_nil _, rfl⟩
    | cons hpath _ ih =>
      obtain ⟨htext, rfl⟩ := pathFrom_eq_ok.mp hpath
      obtain ⟨htexts, rfl⟩ := ih
      exact ⟨List.forall_mem_cons.mpr ⟨htext, htexts⟩, rfl⟩
  · rintro ⟨htexts, rfl⟩
    rw [List.forall₂_map_right_iff, List.forall₂_same]
    exact fun value hvalue => pathFrom_eq_ok.mpr ⟨htexts value hvalue, rfl⟩

/-- What has a length other than zero counts as true. -/
theorem isTruthy_of_length {value : Value} {n : Nat} (hlength : value.length = .ok n)
    (hn : n ≠ 0) : value.isTruthy = true := by
  have hfull {α : Type} {parts : List α} (hparts : parts.length = n) :
      (!parts.isEmpty) = true := by
    cases parts with
    | nil => exact absurd hparts.symm hn
    | cons => rfl
  cases value with
  | scalar s =>
    cases s with
    | text t => exact hfull (Except.ok.inj hlength)
    | halved codes => exact hfull (Except.ok.inj hlength)
    | bytes bs => exact hfull (Except.ok.inj hlength)
    | null | bool | int | float | date | timestamp => cases hlength
  | list items => exact hfull (Except.ok.inj hlength)
  | pair first second => rfl
  | map fields => exact hfull (Except.ok.inj hlength)
  | set members => exact hfull (Except.ok.inj hlength)
  | endless kind => rfl

/-- A document that gives anything but the default is not empty. -/
theorem Gives.isTruthy {name : String} {fallback value : Value}
    (hvalue : Gives document name fallback value) (hother : value ≠ fallback) :
    document.isTruthy = true := by
  obtain ⟨found, hfound, rfl⟩ := hvalue
  cases document with
  | map fields =>
    cases fields with
    | nil =>
      obtain rfl := Except.ok.inj hfound
      exact absurd rfl hother
    | cons => rfl
  | scalar | list | pair | set | endless => cases hfound

/-- Settings are read from a document exactly when it gives them. -/
theorem ofValue_eq_ok :
    ofValue root document = .ok settings ↔ IsReading root document settings := by
  constructor
  · intro hvalue
    dsimp only [ofValue] at hvalue
    obtain ⟨-, hvalue⟩ := guard_eq_ok.mp hvalue
    obtain ⟨adapters, hadapters, hvalue⟩ := bind_eq_ok.mp hvalue
    obtain ⟨-, hvalue⟩ := guard_eq_ok.mp hvalue
    obtain ⟨count, hcount, hvalue⟩ := bind_eq_ok.mp hvalue
    obtain ⟨henough, hvalue⟩ := guard_eq_ok.mp hvalue
    obtain ⟨output, houtput, hvalue⟩ := bind_eq_ok.mp hvalue
    obtain ⟨macroOutput, hmacros, hvalue⟩ := bind_eq_ok.mp hvalue
    obtain ⟨htext, rfl⟩ := pathFrom_eq_ok.mp hmacros
    obtain ⟨scanned, hscanned, hvalue⟩ := bind_eq_ok.mp hvalue
    have hbuild {paths : List Path}
        (hpaths : GivesPaths root document (scanned.getD (.scalar (.bool true))) paths) :
        IsReading root document ⟨adapters.getD (.list []),
          root.join (spelledPath (output.getD defaultMacroOutput)),
          scanned.getD (.scalar (.bool true)), paths, root⟩ :=
      ⟨⟨adapters, hadapters, rfl⟩, ⟨count, hcount, by omega⟩,
        ⟨_, ⟨output, houtput, rfl⟩, htext, rfl⟩, ⟨scanned, hscanned, rfl⟩, hpaths, rfl⟩
    split at hvalue
    next hon =>
      obtain ⟨listed, hlisted, hvalue⟩ := bind_eq_ok.mp hvalue
      obtain ⟨values, hvalues, hvalue⟩ := bind_eq_ok.mp hvalue
      obtain ⟨paths, hpaths, hvalue⟩ := bind_eq_ok.mp hvalue
      obtain ⟨htexts, rfl⟩ := mapM_pathFrom_eq_ok.mp hpaths
      exact pure_eq_ok.mp hvalue ▸ hbuild (.on hon ⟨listed, hlisted, rfl⟩ hvalues htexts)
    next hoff =>
      obtain ⟨paths, hpaths, hvalue⟩ := bind_eq_ok.mp hvalue
      obtain rfl := pure_eq_ok.mp hpaths
      exact pure_eq_ok.mp hvalue ▸ hbuild (.off (Bool.eq_false_iff.mpr hoff))
  · intro hreading
    obtain ⟨n, hlength, hn⟩ := hreading.enough
    have hmany : settings.adapters.isTruthy = true := isTruthy_of_length hlength (by omega)
    have htruthy : document.isTruthy = true := hreading.adapters.isTruthy fun hnone => by
      rw [hnone] at hmany
      cases hmany
    obtain ⟨⟨adapters, hadapters, hgiven⟩, -, ⟨_, ⟨output, houtput, rfl⟩, htext, hmacros⟩,
      ⟨scanned, hscanned, hgivenScan⟩, hpaths, rfl⟩ := hreading
    refine guard_eq_ok.mpr ⟨by simp [htruthy], bind_eq_ok.mpr ⟨adapters, hadapters, ?_⟩⟩
    refine guard_eq_ok.mpr ⟨by simp [hgiven, hmany], bind_eq_ok.mpr ⟨n, hgiven ▸ hlength, ?_⟩⟩
    refine guard_eq_ok.mpr ⟨by omega, bind_eq_ok.mpr ⟨output, houtput, ?_⟩⟩
    refine bind_eq_ok.mpr ⟨settings.macroOutput, pathFrom_eq_ok.mpr ⟨htext, hmacros⟩, ?_⟩
    refine bind_eq_ok.mpr ⟨scanned, hscanned, ?_⟩
    rw [hgiven, hgivenScan]
    generalize hlisted : settings.modelPaths = paths at hpaths
    cases hpaths with
    | on hon hvalue hitems htexts =>
      obtain ⟨listed, hfield, rfl⟩ := hvalue
      rw [if_pos hon]
      refine bind_eq_ok.mpr ⟨listed, hfield, bind_eq_ok.mpr ⟨_, hitems, ?_⟩⟩
      exact bind_eq_ok.mpr ⟨_, mapM_pathFrom_eq_ok.mpr ⟨htexts, rfl⟩, hlisted ▸ rfl⟩
    | off hoff =>
      rw [if_neg (Bool.eq_false_iff.mp hoff)]
      exact bind_eq_ok.mpr ⟨[], rfl, hlisted ▸ rfl⟩

/-- A document is accepted exactly when it gives some settings. -/
theorem isAccepted_iff (root : Path) :
    IsAccepted document ↔ ∃ settings, IsReading root document settings := by
  constructor
  · rintro ⟨⟨value, n, hadapters, hlength, hn⟩, ⟨output, houtput, htext⟩, scanned, hscanned, hpaths⟩
    have hbuild {paths : List Path} (hpaths : GivesPaths root document scanned paths) :
        ∃ settings, IsReading root document settings :=
      ⟨⟨value, root.join (spelledPath output), scanned, paths, root⟩, hadapters, ⟨n, hlength, hn⟩,
        ⟨output, houtput, htext, rfl⟩, hscanned, hpaths, rfl⟩
    cases htruthy : scanned.isTruthy with
    | true =>
      obtain ⟨listed, items, hlisted, hitems, htexts⟩ := hpaths htruthy
      exact hbuild (.on htruthy hlisted hitems htexts)
    | false => exact hbuild (.off htruthy)
  · rintro ⟨settings, hreading⟩
    obtain ⟨n, hlength, hn⟩ := hreading.enough
    obtain ⟨output, houtput, htext, -⟩ := hreading.macroOutput
    refine ⟨⟨_, n, hreading.adapters, hlength, hn⟩, ⟨output, houtput, htext⟩, _,
      hreading.scanProject, fun hon => ?_⟩
    obtain ⟨value, items, hvalue, hitems, htexts, -⟩ := hreading.modelPaths.of_on hon
    exact ⟨value, items, hvalue, hitems, htexts⟩

/-! ## Settings that can be used -/

/-- Settings have the shapes that the rest of the program counts on: at least two adapters, a path
for the macros, and the paths of the models as the document or the default lists them, or none if
scanning is off. -/
structure IsUsable (root : Path) (document : Value) (settings : Settings) : Prop where
  adapters : ∃ names : List Value, settings.adapters = .list names ∧
    (∀ name ∈ names, IsText name) ∧ 2 ≤ names.length
  macroOutput : ∃ value, IsText value ∧ settings.macroOutput = root.join (spelledPath value)
  scanProject : ∃ b, settings.scanProject = .scalar (.bool b) ∧
    if b then ∃ names : List Value,
      Gives document "model_paths" defaultModelPaths (.list names) ∧
        (∀ name ∈ names, IsText name) ∧
        settings.modelPaths = names.map fun name => root.join (spelledPath name)
    else settings.modelPaths = []

/-- Settings can be used exactly when their document has the shapes of settings. -/
theorem IsReading.isUsable_iff (hreading : IsReading root document settings) :
    IsUsable root document settings ↔ IsWellShaped document := by
  obtain ⟨output, houtput, htext, hmacros⟩ := hreading.macroOutput
  constructor
  · rintro ⟨⟨names, hnames, hadapters⟩, -, ⟨b, hb, hpaths⟩⟩
    refine ⟨⟨names, hnames ▸ hreading.adapters, hadapters⟩, ⟨output, houtput, htext⟩, b,
      hb ▸ hreading.scanProject, ?_⟩
    rintro rfl
    obtain ⟨listed, hlisted, htexts, -⟩ := hpaths
    exact ⟨listed, hlisted, htexts⟩
  · rintro ⟨⟨names, hnames, hadapters⟩, -, ⟨b, hb, hpaths⟩⟩
    have hscanned : settings.scanProject = .scalar (.bool b) := hreading.scanProject.unique hb
    have hgiven := hreading.modelPaths
    rw [hscanned] at hgiven
    refine ⟨⟨names, hreading.adapters.unique hnames, hadapters⟩, ⟨output, htext, hmacros⟩, b,
      hscanned, ?_⟩
    cases b with
    | true =>
      obtain ⟨listed, hlisted, htexts⟩ := hpaths rfl
      obtain ⟨value, items, hvalue, hitems, -, hspelled⟩ := hgiven.of_on rfl
      obtain rfl := hvalue.unique hlisted
      obtain rfl : listed = items := Except.ok.inj hitems
      exact ⟨listed, hlisted, htexts, hspelled⟩
    | false => exact hgiven.of_off rfl

/-- A settings file holds a document. -/
def IsDocumentAt (tree : Tree) (path : Path) (document : Value) : Prop :=
  ∃ content, tree.read path = .ok content ∧ Yaml.readDocument (streamOf content) = .ok document

/-- Settings are loaded from a file exactly if its document gives them. -/
theorem IsDocumentAt.load_eq_ok {tree : Tree} {path : Path}
    (hdocument : IsDocumentAt tree path document) :
    load tree path = .ok settings ↔ IsReading path.parent document settings := by
  obtain ⟨content, hread, hparse⟩ := hdocument
  rw [← ofValue_eq_ok, Settings.load_eq_ok]
  constructor
  · rintro ⟨other, parsed, hother, hparsed, hsettings⟩
    obtain rfl := Except.ok.inj (hread.symm.trans hother)
    obtain rfl := Except.ok.inj (hparse.symm.trans hparsed)
    exact hsettings
  · intro hsettings
    exact ⟨content, document, hread, hparse, hsettings⟩

/-- Settings are loaded exactly from files that hold an accepted document. They can be used exactly
if the document has the shapes of settings. -/
theorem settings_loaded_and_usable_iff (tree : Tree) (path : Path) :
    ((∃ settings, load tree path = .ok settings) ↔
      ∃ document, IsDocumentAt tree path document ∧ IsAccepted document) ∧
    ∀ document, IsDocumentAt tree path document →
      ((∃ settings, load tree path = .ok settings ∧ IsUsable path.parent document settings) ↔
        IsWellShaped document) := by
  refine ⟨⟨?_, ?_⟩, fun document hdocument => ⟨?_, fun hshape => ?_⟩⟩
  · rintro ⟨settings, hload⟩
    obtain ⟨content, document, hread, hparse, hsettings⟩ := Settings.load_eq_ok.mp hload
    exact ⟨document, ⟨content, hread, hparse⟩,
      (isAccepted_iff path.parent).mpr ⟨settings, ofValue_eq_ok.mp hsettings⟩⟩
  · rintro ⟨document, hdocument, haccepted⟩
    obtain ⟨settings, hreading⟩ := (isAccepted_iff path.parent).mp haccepted
    exact ⟨settings, hdocument.load_eq_ok.mpr hreading⟩
  · rintro ⟨settings, hload, husable⟩
    exact (hdocument.load_eq_ok.mp hload).isUsable_iff.mp husable
  · obtain ⟨settings, hreading⟩ := (isAccepted_iff path.parent).mp hshape.isAccepted
    exact ⟨settings, hdocument.load_eq_ok.mpr hreading, hreading.isUsable_iff.mpr hshape⟩

/-- A project with the given text as its settings file. -/
def settingsTree (text : String) : Tree :=
  ⟨[(⟨.above 0, ["settings.yml".toList]⟩, .file (.text text.toList))], []⟩

/-- Where the settings file of the project is. -/
def settingsPath : Path :=
  ⟨.relative, ["settings.yml".toList]⟩

/-- Whether a document names the two adapters `spark` and `postgres` and nothing else. -/
def namesAdapters : Value → Bool
  | .map [(.text name, .list [.scalar (.text first), .scalar (.text second)])] =>
    decide (name = "adapters".toList ∧ first = "spark".toList ∧ second = "postgres".toList)
  | _ => false

/-- Two adapters alone have the shapes of settings. -/
theorem isWellShaped_of_namesAdapters (hnames : namesAdapters document = true) :
    IsWellShaped document := by
  unfold namesAdapters at hnames
  split at hnames
  · obtain ⟨rfl, rfl, rfl⟩ := of_decide_eq_true hnames
    have hnames : ∀ name ∈ ["spark".toList, "postgres".toList].map Value.ofText, IsText name :=
      List.forall_mem_map.mpr fun t _ => .whole t
    exact ⟨⟨_, ⟨_, rfl, rfl⟩, hnames, by decide⟩, ⟨_, ⟨none, rfl, rfl⟩, .whole _⟩, true,
      ⟨none, rfl, rfl⟩, fun _ => ⟨_, ⟨none, rfl, rfl⟩, List.forall_mem_singleton.mpr (.whole _)⟩⟩
  · cases hnames

/-- Two adapters in a list and defaults for all else. -/
theorem settings_loaded_and_usable_iff_adapters :
    ∃ document settings,
      IsDocumentAt (settingsTree "adapters: [spark, postgres]\n") settingsPath document ∧
      load (settingsTree "adapters: [spark, postgres]\n") settingsPath = .ok settings ∧
      IsUsable settingsPath.parent document settings := by
  let content : Content := .text "adapters: [spark, postgres]\n".toList
  obtain ⟨document, hdocument, hnames⟩ :
      ∃ document, Yaml.readDocument (streamOf content) = .ok document ∧
        namesAdapters document = true :=
    exists_ok_of_any (by decide +kernel)
  have hat : IsDocumentAt (settingsTree "adapters: [spark, postgres]\n") settingsPath document :=
    ⟨content, by decide, hdocument⟩
  obtain ⟨settings, hload, husable⟩ := ((settings_loaded_and_usable_iff _ _).2 document hat).mpr
    (isWellShaped_of_namesAdapters hnames)
  exact ⟨document, settings, hat, hload, husable⟩

/-- A text is accepted as the adapters, since it has a length. -/
theorem text_accepted_as_adapters :
    ∃ settings, load (settingsTree "adapters: postgres\n") settingsPath = .ok settings ∧
      settings.adapters.kind = .text ∧ ∀ root document, ¬IsUsable root document settings := by
  obtain ⟨settings, hload, hkind⟩ : ∃ settings,
      load (settingsTree "adapters: postgres\n") settingsPath = .ok settings ∧
        decide (settings.adapters.kind = .text) = true :=
    exists_ok_of_any (by decide +kernel)
  refine ⟨settings, hload, of_decide_eq_true hkind, fun root document husable => ?_⟩
  obtain ⟨names, hnames, -⟩ := husable.adapters
  rw [hnames] at hkind
  cases hkind

end Settings

end PortableSql

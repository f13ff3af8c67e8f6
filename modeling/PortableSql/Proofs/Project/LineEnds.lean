import PortableSql.Proofs.Model.Replaced
import PortableSql.Proofs.Project.Once

/-!
# What a run leaves of a file

A file that a run changes holds its old text with macro calls in the place of calls, and all of its
lines end in line feeds: carriage returns are read as line feeds, and the text is written as it was
read. So nothing but calls is changed in a file without carriage returns, and in any other file that
changes every line end is lost that was not a line feed.
-/

namespace PortableSql

open Sql

namespace Project

/-! ## Runs -/

section Runs

variable {engine : Engine} {holds : Tree → Prop}

/-- Converting files keeps what the conversion of each one keeps. -/
theorem convertFiles_keeps {adapters : Value} {primary : Dialect} {dryRun : Bool}
    (hfile : ∀ path, (convertFile engine adapters primary dryRun path).Keeps holds)
    (paths : List Path) : (convertFiles engine adapters primary dryRun paths).Keeps holds := by
  induction paths with
  | nil => exact fun _ htree => htree
  | cons path paths ih =>
    rw [convertFiles]
    exact (hfile path).bind fun _ => ih.bind fun _ _ htree => htree

/-- A run keeps what the conversion of each file keeps. -/
theorem convert_keeps {settings : Settings} {primary : Value} {dryRun : Bool}
    (hprimary : settings.adapters.first = .ok primary)
    (hfile : ∀ path,
      (convertFile engine settings.adapters (.ofValue primary) dryRun path).Keeps holds) :
    (convert engine settings dryRun).Keeps holds := by
  have hfolder (path : Path) :
      (convertFolder engine settings.adapters (.ofValue primary) dryRun path).Keeps holds := by
    have hget : (get : Action Tree).Keeps holds := fun _ htree => htree
    exact hget.bind fun tree => .ofExcept_bind fun models _ => convertFiles_keeps hfile models
  refine .ofExcept_bind fun first hfirst => ?_
  obtain rfl := Except.ok.inj (hprimary.symm.trans hfirst)
  exact (Action.Keeps.mapM hfolder settings.modelPaths).bind fun _ _ htree => htree

end Runs

/-! ## One place -/

/-- A place has the given entry, or that one is a text and the place has a text without carriage
returns. -/
def HasOrReplaced (location : Location) (entry : Option Entry) (tree : Tree) : Prop :=
  tree.lookup location = entry ∨ ∃ chars text, entry = some (.file (.text chars)) ∧
    tree.lookup location = some (.file (.text text)) ∧ '\r' ∉ text

/-- Converting any file changes no entries but texts, and leaves no carriage returns in them. -/
theorem Attempt.keeps_hasOrReplaced (attempt : Attempt) (location : Location)
    (entry : Option Entry) : attempt.run.Keeps (HasOrReplaced location entry) := by
  intro tree htree
  rcases attempt.entry_after tree location with
    hkept | ⟨held, converted, hheld, hconvert, -, hstored⟩
  · rwa [HasOrReplaced, hkept]
  · have hreturn : '\r' ∉ converted :=
      Model.not_mem_convert (Text.not_mem_normalizeNewlines held) hconvert
    rcases htree with hsame | ⟨chars, _, hentry, -, -⟩
    · exact .inr ⟨held, converted, hsame.symm.trans hheld, hstored, hreturn⟩
    · exact .inr ⟨chars, converted, hentry, hstored, hreturn⟩

/-- The file at a place holds what the given text becomes by conversions, and it is made of that
text by replacing calls. -/
def HoldsMade (engine : Engine) (adapters : Value) (primary : Dialect) (location : Location)
    (chars : Text) (tree : Tree) : Prop :=
  ∃ text, tree.lookup location = some (.file (.text text)) ∧
    Model.Becomes engine adapters primary (Text.normalizeNewlines chars)
      (Text.normalizeNewlines text) ∧
    Model.Converts (·.StemsPlainly engine primary) (Text.normalizeNewlines chars)
      (Text.normalizeNewlines text)

/-- Converting any file keeps to the calls, if those of the texts that come of it are plain. -/
theorem Attempt.keeps_holdsMade (attempt : Attempt) (location : Location) {chars : Text}
    (hplain : ∀ model, Model.Becomes attempt.engine attempt.adapters attempt.primary
      (Text.normalizeNewlines chars) model →
        Model.HasPlainCalls attempt.engine attempt.primary model) :
    attempt.run.Keeps
      (HoldsMade attempt.engine attempt.adapters attempt.primary location chars) := by
  rintro tree ⟨text, hlookup, hbecomes, hconverts⟩
  obtain ⟨next, hnext, rfl | ⟨hconvert, -⟩⟩ := attempt.file_after hlookup
  · exact ⟨next, hnext, hbecomes, hconverts⟩
  · have hreturn : '\r' ∉ next :=
      Model.not_mem_convert (Text.not_mem_normalizeNewlines text) hconvert
    refine ⟨next, hnext, ?_⟩
    rw [Text.normalizeNewlines_eq_self hreturn]
    exact ⟨hbecomes.tail hconvert, hconverts.convert (hplain _ hbecomes) hconvert⟩

/-- Whatever a run changes is a text, and no carriage return is left in it. If the pairs of braces
of the text are in order and the calls in it are plain, also when it is converted again, it is the
old text with macro calls in the place of calls and with line feeds for line ends: if it had no
other line ends, then everything but the calls is unchanged. -/
theorem changed_file_keeps_all_but_calls {engine : Engine} {settings : Settings} {primary : Value}
    {tree : Tree} {location : Location} {dryRun : Bool}
    (hprimary : settings.adapters.first = .ok primary)
    (hchanged : ((convert engine settings dryRun).treeAfter tree).lookup location ≠
      tree.lookup location) :
    ∃ chars after, tree.lookup location = some (.file (.text chars)) ∧
      ((convert engine settings dryRun).treeAfter tree).lookup location =
        some (.file (.text after)) ∧
      '\r' ∉ after ∧
      ((Text.normalizeNewlines chars).HasSimpleCase → (Text.normalizeNewlines chars).IsOrderly →
        (∀ model, Model.Becomes engine settings.adapters (.ofValue primary)
          (Text.normalizeNewlines chars) model →
            Model.HasPlainCalls engine (.ofValue primary) model) →
        Model.CallsReplaced (·.StemsFrom engine (.ofValue primary)) Text.normalizeNewlines chars
          after ∧
        ('\r' ∉ chars →
          Model.CallsReplaced (·.StemsFrom engine (.ofValue primary)) id chars after)) := by
  let attempt (path : Path) : Attempt :=
    ⟨engine, settings.adapters, .ofValue primary, dryRun, path⟩
  have hplace := convert_keeps hprimary
    (fun path => (attempt path).keeps_hasOrReplaced location (tree.lookup location)) tree (.inl rfl)
  obtain ⟨chars, after, hfile, hafter, hreturn⟩ := hplace.resolve_left hchanged
  refine ⟨chars, after, hfile, hafter, hreturn, fun hcase horderly hplain => ?_⟩
  have hstart : HoldsMade engine settings.adapters (.ofValue primary) location chars tree :=
    ⟨chars, hfile, .refl, .rest _, hcase, horderly⟩
  obtain ⟨text, htext, -, hconverts⟩ := convert_keeps hprimary
    (fun path => (attempt path).keeps_holdsMade location hplain) tree hstart
  rw [hafter, Option.some.injEq, Entry.file.injEq, Content.text.injEq] at htext
  subst htext
  have hreplaced := hconverts.replaced.mono fun entry hentry => hentry.1
  rw [Text.normalizeNewlines_eq_self hreturn] at hreplaced
  refine ⟨hreplaced.of_read rfl, fun hnone => ?_⟩
  rwa [Text.normalizeNewlines_eq_self hnone] at hreplaced

/-- The engine of the sample writes one call. -/
theorem eagerEngine_text {sql text : Text} {tree node : Node}
    (hparse : eagerEngine.parse sql (.named "spark".toList) = .ok (some tree))
    (hnode : node ∈ tree.walk) (hisCall : node.isCall = true)
    (hrender : node.render (.named "spark".toList) = .ok text) :
    text = "COLLECT_LIST(x)".toList := by
  obtain rfl := Option.some.inj (Except.ok.inj hparse)
  rcases List.mem_pair.mp hnode with rfl | rfl
  · cases hisCall
  · exact (Except.ok.inj hrender).symm

/-- The calls that the engine reads are plain. -/
theorem eagerEngine_hasPlainCalls (model : Text) :
    Model.HasPlainCalls eagerEngine (.named "spark".toList) model := by
  rintro sql ⟨_, tree, node, -, -, hparse, hnode, hisCall, hrender⟩
  rw [eagerEngine_text hparse hnode hisCall hrender]
  decide

/-- A model with a call before the end of a line. -/
def twoLines (lineEnd : String) : Text :=
  "SELECT COLLECT_LIST(x)".toList ++ lineEnd.toList ++ "FROM orders".toList

/-- The model with a macro call, and with a line feed after it. -/
def twoLinesMade : Text :=
  "SELECT ".toList ++ collectCall ++ "\nFROM orders".toList

/-- Nothing but the call is changed in a file with a line feed. -/
theorem changed_file_keeps_all_but_calls_feed :
    (convert eagerEngine (folderedSettings ["models"]) false).treeAfter
        (folderedTree [("models", "m.sql", twoLines "\n")]) =
      folderedTree [("models", "m.sql", twoLinesMade)] ∧
    Model.CallsReplaced (·.StemsFrom eagerEngine (.named "spark".toList)) id (twoLines "\n")
      twoLinesMade := by
  let place : Location := ⟨.above 0, ["models".toList, "m.sql".toList]⟩
  have hrun : (convert eagerEngine (folderedSettings ["models"]) false).treeAfter
      (folderedTree [("models", "m.sql", twoLines "\n")]) =
        folderedTree [("models", "m.sql", twoLinesMade)] := by
    decide +kernel
  have hold : (folderedTree [("models", "m.sql", twoLines "\n")]).lookup place =
      some (.file (.text (twoLines "\n"))) := by
    decide +kernel
  have hnew : (folderedTree [("models", "m.sql", twoLinesMade)]).lookup place =
      some (.file (.text twoLinesMade)) := by
    decide +kernel
  have hchanged : ((convert eagerEngine (folderedSettings ["models"]) false).treeAfter
      (folderedTree [("models", "m.sql", twoLines "\n")])).lookup place ≠
        (folderedTree [("models", "m.sql", twoLines "\n")]).lookup place := by
    rw [hrun, hold, hnew]
    decide
  refine ⟨hrun, ?_⟩
  obtain ⟨chars, after, hchars, hafter, -, hmade⟩ :=
    changed_file_keeps_all_but_calls rfl hchanged
  rw [hold, Option.some.injEq, Entry.file.injEq, Content.text.injEq] at hchars
  rw [hrun, hnew, Option.some.injEq, Entry.file.injEq, Content.text.injEq] at hafter
  subst hchars hafter
  exact (hmade (by decide) (by decide) fun model _ => eagerEngine_hasPlainCalls model).2 (by decide)

/-- The carriage return of a file is lost, although it is not in a call. -/
theorem carriage_return_is_lost :
    (convert eagerEngine (folderedSettings ["models"]) false).treeAfter
        (folderedTree [("models", "m.sql", twoLines "\r\n")]) =
      folderedTree [("models", "m.sql", twoLinesMade)] ∧
    ¬Model.CallsReplaced (·.StemsFrom eagerEngine (.named "spark".toList)) id (twoLines "\r\n")
      twoLinesMade := by
  refine ⟨by decide +kernel, fun hreplaced => ?_⟩
  have hcalls : ∀ entry : Model.Replacement,
      entry.StemsFrom eagerEngine (.named "spark".toList) → '\r' ∉ entry.sql := by
    rintro entry ⟨_, _, _, _, hparse, hnode, hisCall, hrender, -, -⟩
    rw [eagerEngine_text hparse hnode hisCall hrender]
    decide
  have hkept := hreplaced.mem_of_mem Model.staysOut_return hcalls (by decide)
  exact absurd hkept (by decide)

end Project

end PortableSql

import PortableSql.Proofs.Project.Isolation
import PortableSql.Proofs.Text.Lines

/-!
# Dry runs

A dry run reads all models in one tree, and a conversion reads each model in the tree that the
models before it left. If no two visits lead to the same place, no model can be told apart from what
it was at the start, so both runs return the same models or end with the same fault. There is one
exception: a dry run does not see that a model cannot be written, and a conversion ends there.

A model that is returned is stored anew: its text is read with line feeds for line ends, and what is
written has no other line ends either. So a conversion that differs from what was read differs from
what was stored.
-/

namespace PortableSql

open Sql

/-! ## Answers and trees -/

namespace Action

variable {α β : Type}

/-- What some work returns, or the fault that it ends with. -/
def answer (action : Action α) (tree : Tree) : Except Fault α :=
  (action.run.run tree).1

/-- Work yields what it returns and the tree that it leaves. -/
theorem yields_iff {action : Action α} {before after : Tree} {a : α} :
    Yields action before a after ↔ action.answer before = .ok a ∧ action.treeAfter before = after :=
  Prod.ext_iff

/-- What is returned is handed on, and the work goes on in the tree that is left. -/
theorem run_bind_of_ok {first : Action α} {tree : Tree} {a : α}
    (hok : first.answer tree = .ok a) (next : α → Action β) :
    (first >>= next).answer tree = (next a).answer (first.treeAfter tree) ∧
      (first >>= next).treeAfter tree = (next a).treeAfter (first.treeAfter tree) := by
  unfold answer treeAfter at *
  rw [ExceptT.run_bind, StateT.run_bind]
  generalize first.run.run tree = result at hok ⊢
  obtain ⟨known, after⟩ := result
  obtain rfl : known = .ok a := hok
  exact ⟨rfl, rfl⟩

/-- A fault ends the work, and the tree stays as the fault found it. -/
theorem run_bind_of_error {first : Action α} {tree : Tree} {fault : Fault}
    (herror : first.answer tree = .error fault) (next : α → Action β) :
    (first >>= next).answer tree = .error fault ∧
      (first >>= next).treeAfter tree = first.treeAfter tree := by
  unfold answer treeAfter at *
  rw [ExceptT.run_bind, StateT.run_bind]
  generalize first.run.run tree = result at herror ⊢
  obtain ⟨known, after⟩ := result
  obtain rfl : known = .error fault := herror
  exact ⟨rfl, rfl⟩

/-- Work that leaves every tree as it is. -/
def OnlyReads (action : Action α) : Prop :=
  ∀ tree, action.treeAfter tree = tree

/-- Two steps that only read. -/
theorem OnlyReads.bind {first : Action α} {next : α → Action β} (hfirst : OnlyReads first)
    (hnext : ∀ a, OnlyReads (next a)) : OnlyReads (first >>= next) := by
  intro tree
  cases hanswer : first.answer tree with
  | error fault => rw [(run_bind_of_error hanswer next).2, hfirst tree]
  | ok a => rw [(run_bind_of_ok hanswer next).2, hfirst tree, hnext a tree]

/-- Steps that only read, for each item of a list. -/
theorem OnlyReads.mapM {step : α → Action β} (hstep : ∀ a, OnlyReads (step a)) (items : List α) :
    OnlyReads (items.mapM step) := by
  induction items with
  | nil => exact fun _ => rfl
  | cons a items ih =>
    rw [List.mapM_cons]
    exact (hstep a).bind fun _ => ih.bind fun _ _ => rfl

/-- A text goes where its path leads, or the tree stays as it is. -/
theorem run_write (path : Path) (chars : Text) (tree : Tree) :
    (∀ location, tree.locateFile path = .ok location → (write path chars).answer tree = .ok () ∧
        (write path chars).treeAfter tree = tree.put location (.file (.text chars))) ∧
      ∀ fault, tree.locateFile path = .error fault → (write path chars).answer tree = .error fault ∧
        (write path chars).treeAfter tree = tree := by
  have hget : (get : Action Tree).answer tree = .ok tree := rfl
  have hstay : (get : Action Tree).treeAfter tree = tree := rfl
  have hread : (ofExcept (tree.locateFile path)).treeAfter tree = tree := rfl
  unfold write store
  rw [(run_bind_of_ok hget _).1, (run_bind_of_ok hget _).2, hstay]
  constructor
  · intro location hlocate
    have hfile : (ofExcept (tree.locateFile path)).answer tree = .ok location := hlocate
    rw [(run_bind_of_ok hfile _).1, (run_bind_of_ok hfile _).2, hread]
    exact ⟨rfl, rfl⟩
  · intro fault hlocate
    have hfile : (ofExcept (tree.locateFile path)).answer tree = .error fault := hlocate
    rw [(run_bind_of_error hfile _).1, (run_bind_of_error hfile _).2, hread]
    exact ⟨rfl, rfl⟩

end Action

namespace Project

section Performs

variable {α β : Type} {tree : Tree}

/-- Work on a tree ends as foretold, and rewrites no files but those of the given paths. -/
structure Performs (action : Action α) (tree : Tree) (foretold : Except Fault α)
    (paths : List Path) : Prop where
  answer : action.answer tree = foretold
  rewrites : Rewrites tree (action.treeAfter tree) paths

/-- Returning something rewrites nothing. -/
theorem Performs.pure (a : α) (tree : Tree) : Performs (Pure.pure a) tree (.ok a) [] :=
  ⟨rfl, .refl tree⟩

/-- Looking at the tree first. -/
theorem Performs.get_bind {next : Tree → Action β} {foretold : Except Fault β} {paths : List Path}
    (hnext : Performs (next tree) tree foretold paths) :
    Performs (get >>= next) tree foretold paths :=
  ⟨hnext.answer, hnext.rewrites⟩

/-- Work in two steps, of which the second starts in the tree that the first leaves. -/
theorem Performs.bind {first : Action α} {next : α → Action β} {foretold : Except Fault α}
    {later : α → Except Fault β} {paths more : List Path}
    (hfirst : Performs first tree foretold paths)
    (hnext : ∀ a, foretold = .ok a → Performs (next a) (first.treeAfter tree) (later a) more) :
    Performs (first >>= next) tree (foretold >>= later) (paths ++ more) := by
  cases foretold with
  | error fault =>
    obtain ⟨hanswer, htree⟩ := Action.run_bind_of_error hfirst.answer next
    refine ⟨hanswer, ?_⟩
    rw [htree]
    exact hfirst.rewrites.mono (List.subset_append_left paths more)
  | ok a =>
    obtain ⟨hanswer, htree⟩ := Action.run_bind_of_ok hfirst.answer next
    have hsecond := hnext a rfl
    refine ⟨hanswer.trans hsecond.answer, ?_⟩
    rw [htree]
    exact hfirst.rewrites.append hsecond.rewrites

/-- An answer that does not look at the tree comes first. -/
theorem Performs.ofExcept_bind {known : Except Fault α} {next : α → Action β}
    {later : α → Except Fault β} {paths : List Path}
    (hnext : ∀ a, known = .ok a → Performs (next a) tree (later a) paths) :
    Performs (Action.ofExcept known >>= next) tree (known >>= later) paths := by
  have hfirst : Performs (Action.ofExcept known) tree known [] := ⟨rfl, .refl tree⟩
  exact hfirst.bind hnext

/-- What the work returns is turned into something else. -/
theorem Performs.bind_pure {first : Action α} {foretold : Except Fault α} {paths : List Path}
    (hfirst : Performs first tree foretold paths) (f : α → β) :
    Performs (first >>= fun a => Pure.pure (f a)) tree (foretold >>= fun a => Pure.pure (f a))
      paths := by
  rw [← List.append_nil paths]
  exact hfirst.bind fun a _ => .pure (f a) _

end Performs

/-! ## What is foretold -/

section Converting

variable (engine : Engine) (adapters : Value) (primary : Dialect)

/-- Whether a model changes when it is converted as it is in a tree. -/
def willChange (tree : Tree) (path : Path) : Except Fault Bool :=
  match tree.readText? path with
  | none => return false
  | some model => do
    let converted ← Model.convert engine adapters primary model
    return converted != model

/-- Whether a model changes in a run. A change that is not allowed is a fault, but a dry run does
not see it. -/
def changeIn (dryRun : Bool) (tree : Tree) (path : Path) : Except Fault Bool := do
  let changes ← willChange engine adapters primary tree path
  if changes && !dryRun && !tree.permits path then .error (.notPermitted path.shown)
  else .ok changes

/-- Which models change in a run when each of them is converted as it is in a tree. -/
def changesAmong (dryRun : Bool) (tree : Tree) : List Path → Except Fault (List Path)
  | [] => return []
  | path :: paths => do
    let changes ← changeIn engine adapters primary dryRun tree path
    let rest ← changesAmong dryRun tree paths
    return if changes then path :: rest else rest

/-- Which models below a path change in a run when each of them is converted as it is in a tree. -/
def changesBelow (dryRun : Bool) (tree : Tree) (path : Path) : Except Fault (List Path) := do
  let models ← tree.models path
  changesAmong engine adapters primary dryRun tree models

/-- The first model that changes and cannot be written, if there is one before the first that cannot
be converted. -/
def firstRefused (tree : Tree) : List Path → Option Path
  | [] => none
  | path :: paths =>
    match willChange engine adapters primary tree path with
    | .error _ => none
    | .ok changes => if changes && !tree.permits path then some path else firstRefused tree paths

end Converting

end Project

/-- The models below several paths, apart from paths whose models cannot be listed. -/
def Tree.reached (tree : Tree) (paths : List Path) : List Path :=
  paths.flatMap fun path => (tree.models path).toOption.getD []

/-- The models below the first path come first. -/
theorem Tree.reached_cons (tree : Tree) (path : Path) (paths : List Path) :
    tree.reached (path :: paths) = (tree.models path).toOption.getD [] ++ tree.reached paths :=
  List.flatMap_cons

/-- The same models are reached in trees with the same outline. -/
theorem Tree.reached_of_outline {first second : Tree} (hsame : first.outline = second.outline)
    (paths : List Path) : first.reached paths = second.reached paths := by
  unfold Tree.reached
  rw [funext (Tree.models_of_outline hsame)]

/-- If all models can be listed, those that are visited are reached. -/
theorem Tree.reached_of_visits {tree : Tree} {paths visited : List Path}
    (hvisits : tree.visits paths = .ok visited) : tree.reached paths = visited := by
  induction paths generalizing visited with
  | nil => exact Except.ok.inj hvisits
  | cons path paths ih =>
    obtain ⟨first, rest, hfirst, hrest, rfl⟩ := Tree.visits_cons.mp hvisits
    rw [Tree.reached_cons, hfirst, ih hrest]
    rfl

/-- The models below several paths, up to the first path whose models cannot be listed. -/
def Tree.listed (tree : Tree) : List Path → List Path
  | [] => []
  | path :: paths =>
    match tree.models path with
    | .error _ => []
    | .ok models => models ++ tree.listed paths

/-- What is listed is reached. -/
theorem Tree.listed_subset_reached (tree : Tree) (paths : List Path) :
    tree.listed paths ⊆ tree.reached paths := by
  induction paths with
  | nil => exact List.nil_subset _
  | cons path paths ih =>
    rw [Tree.listed, Tree.reached_cons]
    cases tree.models path with
    | error fault => exact List.nil_subset _
    | ok models =>
      exact List.append_subset.mpr ⟨List.subset_append_left _ _, List.subset_append_of_subset_right
        _ ih⟩

namespace Project

/-! ## Both runs end as foretold -/

section Converting

variable {engine : Engine} {adapters : Value} {primary : Dialect}

/-- In a dry run nothing is refused. -/
theorem changeIn_true (tree : Tree) (path : Path) :
    changeIn engine adapters primary true tree path =
      willChange engine adapters primary tree path := by
  unfold changeIn
  cases willChange engine adapters primary tree path with
  | error fault => rfl
  | ok changes => simp [bind, Except.bind]

/-- Whether a model changes can be told from what is read and what is permitted. -/
theorem changeIn_congr {first second : Tree} {path : Path}
    (hread : first.readText? path = second.readText? path)
    (hpermits : first.permits = second.permits) (dryRun : Bool) :
    changeIn engine adapters primary dryRun first path =
      changeIn engine adapters primary dryRun second path := by
  unfold changeIn willChange
  rw [hread, hpermits]

/-- Which models change can be told from what is read and what is permitted. -/
theorem changesAmong_congr {first second : Tree} {paths : List Path}
    (hread : ∀ path ∈ paths, first.readText? path = second.readText? path)
    (hpermits : first.permits = second.permits) (dryRun : Bool) :
    changesAmong engine adapters primary dryRun first paths =
      changesAmong engine adapters primary dryRun second paths := by
  induction paths with
  | nil => rfl
  | cons path paths ih =>
    obtain ⟨hpath, hpaths⟩ := List.forall_mem_cons.mp hread
    rw [changesAmong, changesAmong, changeIn_congr hpath hpermits, ih hpaths]

/-- Which models below a path change can be told from the outline, what is read and what is
permitted. -/
theorem changesBelow_congr {first second : Tree} (hsame : first.outline = second.outline)
    {path : Path} (hread : ∀ model ∈ (second.models path).toOption.getD [],
      first.readText? model = second.readText? model)
    (hpermits : first.permits = second.permits) (dryRun : Bool) :
    changesBelow engine adapters primary dryRun first path =
      changesBelow engine adapters primary dryRun second path := by
  unfold changesBelow
  rw [Tree.models_of_outline hsame]
  cases hmodels : second.models path with
  | error fault => rfl
  | ok models =>
    rw [hmodels] at hread
    exact changesAmong_congr hread hpermits dryRun

/-- A model changes as foretold, in a dry run and otherwise. -/
theorem convertFile_performs {tree : Tree} (hunique : tree.IsUnambiguous) (path : Path)
    (dryRun : Bool) :
    Performs (convertFile engine adapters primary dryRun path) tree
      (changeIn engine adapters primary dryRun tree path) [path] := by
  have hkept (changes : Bool) :
      Performs (pure changes : Action Bool) tree (.ok changes) [path] :=
    ⟨rfl, (Rewrites.refl tree).mono (List.nil_subset _)⟩
  unfold convertFile changeIn willChange
  refine Performs.get_bind ?_
  cases hmodel : tree.readText? path with
  | none => exact hkept false
  | some model =>
    rw [bind_assoc]
    refine Performs.ofExcept_bind fun converted hconvert => ?_
    rw [pure_bind]
    by_cases hsame : converted = model
    · rw [if_pos (beq_iff_eq.mpr hsame), bne_eq_false_iff_eq.mpr hsame]
      exact hkept false
    · rw [if_neg (by simpa using hsame), bne_iff_ne.mpr hsame, Bool.true_and]
      cases dryRun with
      | true => exact hkept true
      | false =>
        obtain ⟨location, chars, hlocate, hlookup, -⟩ := Tree.readText?_eq_some.mp hmodel
        obtain ⟨hstored, hfailed⟩ := Action.run_write path converted tree
        cases hpermits : tree.permits path with
        | true =>
          obtain ⟨hanswer, htree⟩ := hstored location (Tree.locateFile_eq_ok.mpr
            ⟨hlocate, by simp [hlookup], (Tree.permits_of_locate hlocate).mp hpermits⟩)
          have hfirst : Performs (Action.write path converted) tree (.ok ()) [path] :=
            ⟨hanswer, htree ▸ rewrites_put hunique hmodel hlocate _⟩
          exact hfirst.bind_pure fun _ => true
        | false =>
          have hrefuses : tree.refuses location = true := by
            simpa [Tree.permits, hlocate] using hpermits
          obtain ⟨hanswer, htree⟩ := hfailed (.notPermitted path.shown)
            (Tree.locateFile_eq_refused hlocate (by simp [hlookup]) hrefuses)
          have hfirst : Performs (Action.write path converted) tree
              (.error (.notPermitted path.shown)) [path] :=
            ⟨hanswer, htree.symm ▸ (Rewrites.refl tree).mono (List.nil_subset _)⟩
          exact hfirst.bind_pure fun _ => true

/-- Models at different places change as foretold, in a dry run and otherwise. -/
theorem convertFiles_performs {tree : Tree} (hunique : tree.IsUnambiguous) {paths : List Path}
    (hapart : Apart tree paths) (dryRun : Bool) :
    Performs (convertFiles engine adapters primary dryRun paths) tree
      (changesAmong engine adapters primary dryRun tree paths) paths := by
  induction paths generalizing tree with
  | nil => exact .pure [] tree
  | cons path paths ih =>
    obtain ⟨hpath, hpaths⟩ := List.pairwise_cons.mp hapart
    have hfile : Performs (convertFile engine adapters primary dryRun path) tree _ [path] :=
      convertFile_performs hunique path dryRun
    have hread := hfile.rewrites.readText?_of_apart (List.forall_mem_singleton.mpr hpath)
    -- The other models are at other places, so nothing of the first is seen there.
    have hrest := ih (hunique.of_outline hfile.rewrites.outline.symm)
      (Apart.kept hpaths hfile.rewrites)
    rw [changesAmong_congr hread hfile.rewrites.permits] at hrest
    unfold convertFiles changesAmong
    exact hfile.bind fun changes _ => hrest.bind_pure fun rest =>
      if changes then path :: rest else rest

/-- The models below a path change as foretold, in a dry run and otherwise. -/
theorem convertFolder_performs {tree : Tree} (hunique : tree.IsUnambiguous) {path : Path}
    (hapart : Apart tree ((tree.models path).toOption.getD [])) (dryRun : Bool) :
    Performs (convertFolder engine adapters primary dryRun path) tree
      (changesBelow engine adapters primary dryRun tree path)
      ((tree.models path).toOption.getD []) := by
  unfold convertFolder changesBelow
  refine Performs.get_bind (Performs.ofExcept_bind fun models hmodels => ?_)
  rw [hmodels] at hapart ⊢
  exact convertFiles_performs hunique hapart dryRun

/-- The models below several paths change as foretold, in a dry run and otherwise. -/
theorem convertFolders_performs {tree : Tree} (hunique : tree.IsUnambiguous) {paths : List Path}
    (hapart : Apart tree (tree.reached paths)) (dryRun : Bool) :
    Performs (paths.mapM (convertFolder engine adapters primary dryRun)) tree
      (paths.mapM (changesBelow engine adapters primary dryRun tree)) (tree.reached paths) := by
  induction paths generalizing tree with
  | nil => exact .pure [] tree
  | cons path paths ih =>
    rw [Tree.reached_cons] at hapart ⊢
    obtain ⟨hhere, hlater, hbetween⟩ := List.pairwise_append.mp hapart
    have hfolder : Performs (convertFolder engine adapters primary dryRun path) tree _ _ :=
      convertFolder_performs hunique hhere dryRun
    have houtline := hfolder.rewrites.outline
    have hread := hfolder.rewrites.readText?_of_apart hbetween
    -- The first folder leaves the lists of models as they are, and the models of the other lists.
    have hrest := ih (hunique.of_outline houtline.symm)
      (by rw [Tree.reached_of_outline houtline]; exact Apart.kept hlater hfolder.rewrites)
    have hforetold : paths.mapM (changesBelow engine adapters primary dryRun
        ((convertFolder engine adapters primary dryRun path).treeAfter tree)) =
          paths.mapM (changesBelow engine adapters primary dryRun tree) := by
      refine mapM_congr fun other hother => changesBelow_congr houtline (fun model hmodel => ?_)
        hfolder.rewrites.permits dryRun
      exact hread model (List.mem_flatMap.mpr ⟨other, hother, hmodel⟩)
    rw [hforetold, Tree.reached_of_outline houtline] at hrest
    rw [List.mapM_cons, List.mapM_cons]
    exact hfolder.bind fun first _ => hrest.bind_pure fun rest => first :: rest

/-! ## What a dry run does not see -/

/-- An answer, unless a path is refused. -/
def unlessRefused {α : Type} (refused : Option Path) (answer : Except Fault α) : Except Fault α :=
  match refused with
  | none => answer
  | some path => .error (.notPermitted path.shown)

/-- Models change as in a dry run, unless one is refused. -/
theorem changesAmong_false (tree : Tree) (paths : List Path) :
    changesAmong engine adapters primary false tree paths =
      unlessRefused (firstRefused engine adapters primary tree paths)
        (changesAmong engine adapters primary true tree paths) := by
  induction paths with
  | nil => rfl
  | cons path paths ih =>
    rw [changesAmong, changesAmong, firstRefused, ih]
    cases hchange : willChange engine adapters primary tree path with
    | error fault => simp [changeIn, hchange, unlessRefused, bind, Except.bind]
    | ok changes =>
      cases hrefused : changes && !tree.permits path with
      | true => simp [changeIn, hchange, hrefused, unlessRefused, bind, Except.bind]
      | false =>
        cases firstRefused engine adapters primary tree paths <;>
          simp [changeIn, hchange, hrefused, unlessRefused, bind, Except.bind]

/-- What is refused among the models of two lists, if those of the first can be converted. -/
theorem firstRefused_append_of_ok {tree : Tree} {first changed : List Path}
    (hok : changesAmong engine adapters primary true tree first = .ok changed)
    (second : List Path) :
    firstRefused engine adapters primary tree (first ++ second) =
      (firstRefused engine adapters primary tree first).or
        (firstRefused engine adapters primary tree second) := by
  induction first generalizing changed with
  | nil => rfl
  | cons path first ih =>
    obtain ⟨changes, hchange, hok⟩ := bind_eq_ok.mp hok
    obtain ⟨rest, hrest, -⟩ := bind_eq_ok.mp hok
    obtain ⟨known, hknown, -⟩ := bind_eq_ok.mp hchange
    rw [List.cons_append, firstRefused, firstRefused, hknown, ih hrest]
    cases hrefused : known && !tree.permits path <;> simp [hrefused]

/-- What is refused among the models of two lists, if the first has one that cannot be converted. -/
theorem firstRefused_append_of_error {tree : Tree} {first : List Path} {fault : Fault}
    (herror : changesAmong engine adapters primary true tree first = .error fault)
    (second : List Path) :
    firstRefused engine adapters primary tree (first ++ second) =
      firstRefused engine adapters primary tree first := by
  induction first with
  | nil => cases herror
  | cons path first ih =>
    rw [List.cons_append, firstRefused, firstRefused]
    cases hchange : willChange engine adapters primary tree path with
    | error other => rfl
    | ok changes =>
      have hrest : changesAmong engine adapters primary true tree first = .error fault := by
        cases hrest : changesAmong engine adapters primary true tree first <;>
          simp_all [changesAmong, changeIn, bind, Except.bind, pure, Except.pure]
      rw [ih hrest]

/-- The models of folders change as in a dry run, unless one is refused. -/
theorem mapM_changesBelow_false (tree : Tree) (paths : List Path) :
    paths.mapM (changesBelow engine adapters primary false tree) =
      unlessRefused (firstRefused engine adapters primary tree (tree.listed paths))
        (paths.mapM (changesBelow engine adapters primary true tree)) := by
  induction paths with
  | nil => rfl
  | cons path paths ih =>
    rw [List.mapM_cons, List.mapM_cons, Tree.listed, ih, changesBelow, changesBelow]
    cases tree.models path with
    | error fault => rfl
    | ok models =>
      simp only [bind, Except.bind]
      rw [changesAmong_false]
      cases hchanged : changesAmong engine adapters primary true tree models with
      | error fault =>
        rw [firstRefused_append_of_error hchanged]
        cases firstRefused engine adapters primary tree models <;> rfl
      | ok changed =>
        rw [firstRefused_append_of_ok hchanged]
        cases firstRefused engine adapters primary tree models with
        | some refused => rfl
        | none => cases firstRefused engine adapters primary tree (tree.listed paths) <;> rfl

/-- A model that is refused is one of the list. It changes, and it cannot be written. -/
theorem firstRefused_eq_some {tree : Tree} {paths : List Path} {path : Path}
    (hrefused : firstRefused engine adapters primary tree paths = some path) :
    path ∈ paths ∧ willChange engine adapters primary tree path = .ok true ∧
      tree.permits path = false := by
  induction paths with
  | nil => cases hrefused
  | cons first paths ih =>
    rw [firstRefused] at hrefused
    cases hchange : willChange engine adapters primary tree first with
    | error fault =>
      rw [hchange] at hrefused
      cases hrefused
    | ok changes =>
      rw [hchange] at hrefused
      by_cases hlocked : (changes && !tree.permits first) = true
      · obtain rfl : first = path := by simpa [hlocked] using hrefused
        obtain ⟨rfl, hpermits⟩ := Bool.and_eq_true_iff.mp hlocked
        exact ⟨List.mem_cons_self, hchange, by simpa using hpermits⟩
      · obtain ⟨hmem, hrest⟩ := ih (by simpa [hlocked] using hrefused)
        exact ⟨List.mem_cons_of_mem _ hmem, hrest⟩

/-! ## Dry runs keep the tree -/

/-- A dry run of one model only reads. -/
theorem convertFile_onlyReads (path : Path) :
    Action.OnlyReads (convertFile engine adapters primary true path) := by
  unfold convertFile
  refine Action.OnlyReads.bind (fun _ => rfl) fun tree => ?_
  cases tree.readText? path with
  | none => exact fun _ => rfl
  | some model =>
    refine Action.OnlyReads.bind (fun _ => rfl) fun converted => ?_
    by_cases hsame : (converted == model) = true
    · rw [if_pos hsame]
      exact fun _ => rfl
    · rw [if_neg hsame]
      exact fun _ => rfl

/-- A dry run of several models only reads. -/
theorem convertFiles_onlyReads (paths : List Path) :
    Action.OnlyReads (convertFiles engine adapters primary true paths) := by
  induction paths with
  | nil => exact fun _ => rfl
  | cons path paths ih =>
    unfold convertFiles
    exact (convertFile_onlyReads path).bind fun _ => ih.bind fun _ _ => rfl

/-- A dry run of the models below a path only reads. -/
theorem convertFolder_onlyReads (path : Path) :
    Action.OnlyReads (convertFolder engine adapters primary true path) := by
  unfold convertFolder
  refine Action.OnlyReads.bind (fun _ => rfl) fun tree => ?_
  exact Action.OnlyReads.bind (fun _ => rfl) fun models => convertFiles_onlyReads models

end Converting

/-- A dry run of a project only reads. -/
theorem convert_onlyReads (engine : Engine) (settings : Settings) :
    Action.OnlyReads (convert engine settings true) := by
  unfold convert
  refine Action.OnlyReads.bind (fun _ => rfl) fun primary => ?_
  exact (Action.OnlyReads.mapM convertFolder_onlyReads _).bind fun _ _ => rfl

/-- Which models of a project change in a run when each of them is converted as it is in a tree. -/
def changes (engine : Engine) (settings : Settings) (dryRun : Bool) (tree : Tree) :
    Except Fault (List Path) := do
  let primary ← settings.adapters.first
  let lists ← settings.modelPaths.mapM
    (changesBelow engine settings.adapters (.ofValue primary) dryRun tree)
  return lists.flatten

/-- The first model of a project that a conversion comes to, changes and cannot write. -/
def refusal (engine : Engine) (settings : Settings) (tree : Tree) : Option Path :=
  match settings.adapters.first with
  | .error _ => none
  | .ok primary => firstRefused engine settings.adapters (.ofValue primary) tree
    (tree.listed settings.modelPaths)

/-- The models of a project change as in a dry run, unless one is refused. -/
theorem changes_false (engine : Engine) (settings : Settings) (tree : Tree) :
    changes engine settings false tree =
      unlessRefused (refusal engine settings tree) (changes engine settings true tree) := by
  unfold changes refusal
  cases settings.adapters.first with
  | error fault => rfl
  | ok primary =>
    simp only [bind, Except.bind]
    rw [mapM_changesBelow_false]
    cases firstRefused engine settings.adapters (.ofValue primary) tree
      (tree.listed settings.modelPaths) <;> rfl

/-- A model that is refused is one of the project. It changes, and it cannot be written. -/
theorem refusal_eq_some {engine : Engine} {settings : Settings} {tree : Tree} {path : Path}
    (hrefused : refusal engine settings tree = some path) :
    path ∈ tree.reached settings.modelPaths ∧
      (∃ primary, settings.adapters.first = .ok primary ∧
        willChange engine settings.adapters (.ofValue primary) tree path = .ok true) ∧
      tree.permits path = false := by
  unfold refusal at hrefused
  cases hprimary : settings.adapters.first with
  | error fault =>
    rw [hprimary] at hrefused
    cases hrefused
  | ok primary =>
    rw [hprimary] at hrefused
    obtain ⟨hmem, hchange, hlocked⟩ := firstRefused_eq_some hrefused
    exact ⟨tree.listed_subset_reached _ hmem, ⟨primary, rfl, hchange⟩, hlocked⟩

/-- The models of a project change as foretold, in a dry run and otherwise. -/
theorem convert_performs (engine : Engine) {settings : Settings} {tree : Tree}
    (hunique : tree.IsUnambiguous) (hapart : Apart tree (tree.reached settings.modelPaths))
    (dryRun : Bool) :
    Performs (convert engine settings dryRun) tree (changes engine settings dryRun tree)
      (tree.reached settings.modelPaths) := by
  unfold convert changes
  refine Performs.ofExcept_bind fun primary _ => ?_
  exact (convertFolders_performs hunique hapart dryRun).bind_pure List.flatten

/-! ## Stored anew -/

section Converting

variable {engine : Engine} {adapters : Value} {primary : Dialect}

/-- A conversion that differs from what is read differs from what is stored. -/
theorem convert_ne_stored {chars converted : Text}
    (hconvert : Model.convert engine adapters primary (Text.normalizeNewlines chars) =
      .ok converted) (hchanged : converted ≠ Text.normalizeNewlines chars) :
    converted ≠ chars := by
  rintro rfl
  have hreturn : '\r' ∉ converted :=
    Model.not_mem_convert (Text.not_mem_normalizeNewlines converted) hconvert
  exact hchanged (Text.normalizeNewlines_eq_self hreturn).symm

/-- A model is stored anew exactly if it is returned as changed. -/
theorem convertFile_lookup_ne_iff {path : Path} {before after : Tree} {changed : Bool}
    {location : Location} (hlocate : before.locate path = .ok location)
    (hfree : Tree.standing? location = none)
    (hyields : Yields (convertFile engine adapters primary false path) before changed after) :
    after.lookup location ≠ before.lookup location ↔ changed = true := by
  rcases convertFile_yields.mp hyields with ⟨-, rfl, rfl⟩ | ⟨model, converted, there, hmodel,
    hconvert, hchanged, -, hthere, rfl, rfl⟩
  · simp
  · obtain rfl := Except.ok.inj (hlocate.symm.trans hthere)
    obtain ⟨chars, hlookup, rfl⟩ := Tree.lookup_of_readText? hmodel hlocate
    rw [Tree.lookup_put hfree, if_pos rfl, hlookup]
    simpa using convert_ne_stored hconvert hchanged

/-- A path that is apart from the others is visited once. -/
theorem Apart.visitedOnce {tree : Tree} {visited : List Path} (hapart : Apart tree visited)
    {path : Path} (hmem : path ∈ visited) : VisitedOnce tree visited path := by
  obtain ⟨first, rest, rfl⟩ := List.append_of_mem hmem
  refine ⟨first, rest, rfl, fun other hother => ?_⟩
  have hsymm {a b : Path} (hne : ¬SamePlace tree a b) : ¬SamePlace tree b a := by
    rintro ⟨location, hb, ha⟩
    exact hne ⟨location, ha, hb⟩
  obtain ⟨hpath, -⟩ := List.pairwise_cons.mp ((List.pairwise_middle hsymm).mp hapart)
  exact hsymm (hpath other hother)

/-- Of models at different places those are stored anew that are returned. -/
theorem convertFiles_lookup_ne_iff {before after : Tree} (hunique : before.IsUnambiguous)
    {visited changed : List Path} (hapart : Apart before visited)
    (hfree : ∀ path ∈ visited, ∀ location, before.locate path = .ok location →
      Tree.standing? location = none)
    (hyields : Yields (convertFiles engine adapters primary false visited) before changed after)
    (location : Location) :
    after.lookup location ≠ before.lookup location ↔
      ∃ path ∈ changed, before.locate path = .ok location := by
  constructor
  · intro hdiffers
    by_contra hnone
    refine hdiffers ((convertFiles_rewrites hunique hyields).others location ?_)
    exact fun path hpath hlocate => hnone ⟨path, hpath, hlocate⟩
  · rintro ⟨path, hpath, hlocate⟩
    have hvisited := convertFiles_subset hyields hpath
    obtain ⟨changes, next, hfile, hsame, hchanges⟩ :=
      convertFiles_once hunique (hapart.visitedOnce hvisited) hlocate hyields
    rw [← hsame, convertFile_lookup_ne_iff hlocate (hfree path hvisited location hlocate) hfile]
    exact hchanges.mp hpath

end Converting

end Project

end PortableSql

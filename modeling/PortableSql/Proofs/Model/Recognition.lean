import PortableSql.Model.Call
import PortableSql.Proofs.Computation
import PortableSql.Proofs.Model.Call
import PortableSql.Proofs.Sql.Traversal
import PortableSql.Sql.Recording

/-!
# The calls that are recognised

A scan takes every function call of a tree, level by level, and names it after what stands before
the parenthesis. A conversion takes the calls one below the other, and only those whose text calls a
function by its name. Both fail for the same trees, and a conversion recognises the calls of a scan
that are named so, under the same names.
-/

namespace PortableSql.Model

open Sql

/-- A node is written as a text that calls a function by its name. -/
def IsNamed (dialect : Dialect) (node : Node) : Prop :=
  ∃ sql name, node.render dialect = .ok sql ∧ CallsByName sql name

/-- A function call of a tree cannot be written. -/
def HasUnwritable (dialect : Dialect) (tree : Node) : Prop :=
  ∃ distance, ∃ node ∈ tree.nodesAt distance, node.isCall = true ∧
    ∃ fault, node.render dialect = .error fault

/-- The name under which a conversion knows a node, if it can tell one. -/
def nameIn? (dialect : Dialect) (node : Node) : Option Text :=
  (node.render dialect).toOption.bind functionName?

/-- A node is named exactly if a name is found in what it is written as. -/
theorem isNamed_iff {dialect : Dialect} {node : Node} :
    IsNamed dialect node ↔ (nameIn? dialect node).isSome = true := by
  unfold IsNamed nameIn?
  cases node.render dialect with
  | error fault => simp [Except.toOption]
  | ok sql =>
    simp only [Except.ok.injEq, Except.toOption, Option.bind_some, Option.isSome_iff_exists,
      functionName?_eq_some_iff]
    constructor
    · rintro ⟨_, name, rfl, hcalls⟩
      exact ⟨_, name, hcalls, rfl⟩
    · rintro ⟨_, name, hcalls, -⟩
      exact ⟨sql, name, rfl, hcalls⟩

instance (dialect : Dialect) (node : Node) : Decidable (IsNamed dialect node) :=
  decidable_of_iff _ isNamed_iff.symm

/-! ## Failure -/

/-- A tree has a call that cannot be written exactly if one is found in it. -/
theorem hasUnwritable_iff {dialect : Dialect} {tree : Node} :
    HasUnwritable dialect tree ↔
      ∃ call ∈ tree.callsBelow 0, ∃ fault, call.2.render dialect = .error fault := by
  constructor
  · rintro ⟨distance, node, hnode, hcall, hfault⟩
    exact ⟨(distance, node), Node.mem_callsBelow_iff.mpr ⟨hnode, hcall⟩, hfault⟩
  · rintro ⟨⟨distance, node⟩, hmem, hfault⟩
    obtain ⟨hnode, hcall⟩ := Node.mem_callsBelow_iff.mp hmem
    exact ⟨distance, node, hnode, hcall, hfault⟩

/-- A conversion fails to find the calls of a tree exactly if one of them cannot be written. -/
theorem findCalls_error_iff {dialect : Dialect} {tree : Node} :
    (∃ fault, findCalls tree dialect = .error fault) ↔ HasUnwritable dialect tree := by
  rw [hasUnwritable_iff, error_iff_not_ok, findCalls, bind_ok_iff]
  simp only [pure_eq_ok, exists_eq', and_true]
  rw [← error_iff_not_ok, mapM_error_iff]
  refine exists_congr fun call => and_congr_right fun _ => ?_
  unfold nodeName?
  cases call.2.render dialect with
  | error fault => exact iff_of_true ⟨fault, rfl⟩ ⟨fault, rfl⟩
  | ok sql => exact iff_of_false nofun nofun

/-- A scan fails to find the calls of a tree exactly if one of them cannot be written. -/
theorem calls_error_iff {engine : Engine} {sql adapter : Text} {tree : Node}
    (hcanonical : Dialect.canonicalName adapter = adapter)
    (hparse : engine.parse sql (.named adapter) = .ok (some tree)) :
    (∃ fault, engine.calls sql (.ofText adapter) = .error fault) ↔
      HasUnwritable (.named adapter) tree := by
  simp only [Engine.calls, Value.ofText, Dialect.canonical, hcanonical, hparse]
  rw [mapM_error_iff, hasUnwritable_iff]
  have hrender (node : Node) : (∃ fault, (do
      let text ← node.render (.named adapter)
      return (Engine.callName text, node)) = .error fault) ↔
        ∃ fault, node.render (.named adapter) = .error fault := by
    cases node.render (.named adapter) with
    | error fault => exact iff_of_true ⟨fault, rfl⟩ ⟨fault, rfl⟩
    | ok sql => exact iff_of_false nofun nofun
  simp only [hrender, ← (Node.callsBelow_perm 0 tree).mem_iff, List.mem_map]
  constructor
  · rintro ⟨node, ⟨call, hcall, rfl⟩, hfault⟩
    exact ⟨call, hcall, hfault⟩
  · rintro ⟨call, hcall, hfault⟩
    exact ⟨call.2, ⟨call, hcall, rfl⟩, hfault⟩

/-! ## Success -/

section Success

variable {engine : Engine} {sql adapter : Text} {tree : Node}

/-- What a conversion makes of a call that it meets. -/
def foundCall? (dialect : Dialect) (call : Nat × Node) : Option FoundCall :=
  (nameIn? dialect call.2).map fun name => ⟨call.1, name, call.2⟩

/-- The calls that a conversion finds. -/
theorem findCalls_eq_filterMap {dialect : Dialect} (hall : ¬HasUnwritable dialect tree) :
    findCalls tree dialect = .ok ((tree.callsBelow 0).filterMap (foundCall? dialect)) := by
  rw [hasUnwritable_iff] at hall
  push Not at hall
  refine bind_eq_ok.mpr ⟨(tree.callsBelow 0).map (foundCall? dialect), mapM_eq_map ?_, ?_⟩
  · rintro ⟨depth, node⟩ hcall
    dsimp only [nodeName?, foundCall?, nameIn?]
    cases hrender : node.render dialect with
    | error fault => exact absurd hrender (hall _ hcall fault)
    | ok sql => rfl
  · rw [pure_eq_ok, List.filterMap_map]
    rfl

/-- The name under which a scan counts a node. -/
def countedName (dialect : Dialect) (node : Node) : Text :=
  ((node.render dialect).toOption.map Engine.callName).getD []

/-- The calls that a scan finds. -/
theorem calls_eq_map (hcanonical : Dialect.canonicalName adapter = adapter)
    (hparse : engine.parse sql (.named adapter) = .ok (some tree))
    (hall : ¬HasUnwritable (.named adapter) tree) :
    engine.calls sql (.ofText adapter) = .ok ((tree.walk.filter Node.isCall).map fun node =>
      (countedName (.named adapter) node, node)) := by
  simp only [Engine.calls, Value.ofText, Dialect.canonical, hcanonical, hparse]
  refine mapM_eq_map fun node hnode => ?_
  unfold countedName
  cases hrender : node.render (.named adapter) with
  | error fault =>
    rw [← (Node.callsBelow_perm 0 tree).mem_iff, List.mem_map] at hnode
    obtain ⟨call, hcall, rfl⟩ := hnode
    exact absurd (hasUnwritable_iff.mpr ⟨call, hcall, fault, hrender⟩) hall
  | ok sql => rfl

/-- A conversion and a scan give a node the same name. -/
theorem countedName_eq {dialect : Dialect} {node : Node} {name : Text}
    (hname : nameIn? dialect node = some name) : countedName dialect node = name := by
  unfold nameIn? at hname
  unfold countedName
  cases hrender : node.render dialect with
  | error fault => simp [hrender, Except.toOption] at hname
  | ok sql =>
    rw [hrender] at hname
    obtain ⟨_, -, -, hcalled⟩ := functionName?_eq_some hname
    exact hcalled

/-- The calls that are found with their names are those of the scan that are named. -/
theorem foundCalls_perm (dialect : Dialect) (tree : Node) :
    (((tree.callsBelow 0).filterMap (foundCall? dialect)).map fun call =>
        (call.name, call.node)).Perm
      (((tree.walk.filter Node.isCall).map fun node => (countedName dialect node, node)).filter
        fun call => IsNamed dialect call.2) := by
  have hfound : ((tree.callsBelow 0).filterMap (foundCall? dialect)).map (fun call =>
      (call.name, call.node)) = ((tree.callsBelow 0).map (·.2)).filterMap fun node =>
        (nameIn? dialect node).map fun name => (name, node) := by
    rw [List.map_filterMap, List.filterMap_map]
    refine List.filterMap_congr fun call _ => ?_
    simp [foundCall?, Function.comp_def]
  have hcounted : ((tree.walk.filter Node.isCall).map fun node =>
      (countedName dialect node, node)).filter (fun call => IsNamed dialect call.2) =
        (tree.walk.filter Node.isCall).filterMap fun node =>
          (nameIn? dialect node).map fun name => (name, node) := by
    rw [← List.filterMap_eq_filter, List.filterMap_map]
    refine List.filterMap_congr fun node _ => ?_
    cases hname : nameIn? dialect node with
    | none => simp [Option.guard, isNamed_iff, hname]
    | some name => simp [Option.guard, isNamed_iff, hname, countedName_eq hname]
  rw [hfound, hcounted]
  exact (Node.callsBelow_perm 0 tree).filterMap _

/-- The calls that are found with a depth are those at this distance from the top. -/
theorem foundCalls_depth (dialect : Dialect) (tree : Node) (depth : Nat) :
    (((tree.callsBelow 0).filterMap (foundCall? dialect)).filter fun call =>
        call.depth == depth).map (·.node) =
      (tree.nodesAt depth).filter fun node => node.isCall ∧ IsNamed dialect node := by
  have hlisted (calls : List (Nat × Node)) :
      ((calls.filterMap (foundCall? dialect)).filter fun call => call.depth == depth).map (·.node) =
        (Node.callsOfDepth depth calls).filter fun node => IsNamed dialect node := by
    induction calls with
    | nil => rfl
    | cons call calls ih =>
      have hsplit := Node.callsOfDepth_append depth [call] calls
      rw [List.singleton_append] at hsplit
      rw [hsplit, List.filter_append, ← ih]
      by_cases hdepth : call.1 = depth
      · cases hname : nameIn? dialect call.2 with
        | none => simp [foundCall?, Node.callsOfDepth, isNamed_iff, hdepth, hname]
        | some name => simp [foundCall?, Node.callsOfDepth, isNamed_iff, hdepth, hname]
      · cases hname : nameIn? dialect call.2 with
        | none => simp [foundCall?, Node.callsOfDepth, hdepth, hname]
        | some name => simp [foundCall?, Node.callsOfDepth, hdepth, hname]
  have hdistance := Node.callsOfDepth_callsBelow 0 depth tree
  rw [Nat.zero_add] at hdistance
  rw [hlisted, hdistance, List.filter_filter]
  refine List.filter_congr fun node _ => ?_
  rw [Bool.decide_and, Bool.and_comm, Bool.decide_eq_true]

end Success

/-- A node with the same text in all dialects. -/
def plainNode (isCall : Bool) (text : String) (children : List Node) : Node :=
  ⟨isCall, none, .uniform text.toList, [], children⟩

/-- A tree with calls of all forms. One of them stands at two distances from the top, and one has
no name. -/
def mixedTree : Node :=
  plainNode false "SELECT" [
    plainNode true "Coalesce (NOW\n, a || LEN(b))" [
      plainNode true "NOW\n" [],
      plainNode true "a || LEN(b)" [plainNode true "LEN(b)" []]],
    plainNode true "LEN(b)" []]

/-- An engine that reads this tree in every text. -/
def mixedEngine : Engine :=
  Recording.engine
    { parses := [⟨none, none, .ok (some mixedTree)⟩], transpiles := [], dialects := [] }

end PortableSql.Model

import Mathlib.Data.List.Perm.Basic
import PortableSql.Sql.Node

/-!
# Two ways through a tree

The function calls of a tree are listed level by level, or each before those below it. Both ways
meet the same calls, each as often as it stands in the tree. The second way also tells how far from
the top a call stands.
-/

namespace PortableSql.Sql.Node

/-- Joining levels keeps all nodes. -/
theorem mergeLevels_flatten_perm (first second : List (List Node)) :
    (mergeLevels first second).flatten.Perm (first.flatten ++ second.flatten) := by
  induction first generalizing second with
  | nil => simp [mergeLevels]
  | cons a first ih =>
    cases second with
    | nil => simp [mergeLevels]
    | cons b second =>
      simp only [mergeLevels, List.flatten_cons, List.append_assoc]
      refine List.Perm.append_left a ?_
      have hmerged : (b ++ (mergeLevels first second).flatten).Perm
          (b ++ (first.flatten ++ second.flatten)) := (ih second).append_left b
      refine hmerged.trans ?_
      rw [← List.append_assoc, ← List.append_assoc]
      exact List.perm_append_comm.append_right _

mutual

/-- The calls below a node are those that stand on its levels. -/
theorem callsBelow_perm (depth : Nat) :
    (node : Node) → ((callsBelow depth node).map (·.2)).Perm (node.walk.filter Node.isCall)
  | ⟨isCall, id, rendering, args, children⟩ => by
    have hbelow := callsBelowAll_perm (depth + 1) children
    simp only [callsBelow, walk, levels, List.map_append, List.flatten_cons, List.filter_append]
    refine List.Perm.append ?_ hbelow
    cases isCall <;> simp

/-- The calls below a row of nodes are those that stand on its levels. -/
theorem callsBelowAll_perm (depth : Nat) :
    (nodes : List Node) → ((callsBelowAll depth nodes).map (·.2)).Perm
      ((levelsOfAll nodes).flatten.filter Node.isCall)
  | [] => .refl _
  | node :: nodes => by
    have hnode := callsBelow_perm depth node
    have hnodes := callsBelowAll_perm depth nodes
    have hmerged := (mergeLevels_flatten_perm (levels node) (levelsOfAll nodes)).filter Node.isCall
    rw [List.filter_append] at hmerged
    simp only [callsBelowAll, levelsOfAll, List.map_append]
    exact (hnode.append hnodes).trans hmerged.symm

end

/-- A call that is found below a node is one of its calls. -/
theorem mem_walk_of_mem_callsBelow {tree node : Node} {depth distance : Nat}
    (hmem : (distance, node) ∈ callsBelow depth tree) :
    node ∈ tree.walk ∧ node.isCall = true := by
  have hfound : node ∈ (callsBelow depth tree).map (·.2) := List.mem_map.mpr ⟨_, hmem, rfl⟩
  exact List.mem_filter.mp ((callsBelow_perm depth tree).mem_iff.mp hfound)

/-! ## Distances -/

/-- The nodes at a distance from the top, from left to right. -/
def nodesAt : Nat → Node → List Node
  | 0, node => [node]
  | distance + 1, node => node.children.flatMap (nodesAt distance)

mutual

/-- A call is listed with a depth that is no less than that of the top. -/
theorem le_of_mem_callsBelow {depth : Nat} :
    (node : Node) → ∀ call ∈ callsBelow depth node, depth ≤ call.1
  | ⟨isCall, id, rendering, args, children⟩ => by
    intro call hcall
    rw [callsBelow, List.mem_append] at hcall
    rcases hcall with hcall | hcall
    · cases isCall with
      | false => cases hcall
      | true =>
        obtain rfl := List.mem_singleton.mp hcall
        exact Nat.le_refl depth
    · have hbelow := le_of_mem_callsBelowAll children call hcall
      omega

/-- The calls below nodes are at least as deep as the nodes. -/
theorem le_of_mem_callsBelowAll {depth : Nat} :
    (nodes : List Node) → ∀ call ∈ callsBelowAll depth nodes, depth ≤ call.1
  | [] => by simp [callsBelowAll]
  | node :: nodes => by
    intro call hcall
    rw [callsBelowAll, List.mem_append] at hcall
    rcases hcall with hcall | hcall
    · exact le_of_mem_callsBelow node call hcall
    · exact le_of_mem_callsBelowAll nodes call hcall

end

/-- The calls that are listed with a depth. -/
def callsOfDepth (depth : Nat) (calls : List (Nat × Node)) : List Node :=
  (calls.filter fun call => call.1 == depth).map (·.2)

/-- The calls of a depth are found list by list. -/
theorem callsOfDepth_append (depth : Nat) (first second : List (Nat × Node)) :
    callsOfDepth depth (first ++ second) =
      callsOfDepth depth first ++ callsOfDepth depth second := by
  simp [callsOfDepth]

mutual

/-- The calls that are listed with a depth are those at this distance from the top. -/
theorem callsOfDepth_callsBelow (depth distance : Nat) :
    (node : Node) → callsOfDepth (depth + distance) (callsBelow depth node) =
      (nodesAt distance node).filter Node.isCall
  | ⟨isCall, id, rendering, args, children⟩ => by
    rw [callsBelow, callsOfDepth_append]
    cases distance with
    | zero =>
      have hbelow : callsOfDepth (depth + 0) (callsBelowAll (depth + 1) children) = [] := by
        rw [callsOfDepth, List.map_eq_nil_iff, List.filter_eq_nil_iff]
        intro call hcall
        have hdeeper := le_of_mem_callsBelowAll children call hcall
        simp only [beq_iff_eq]
        omega
      rw [hbelow]
      cases isCall <;> simp [callsOfDepth, nodesAt]
    | succ distance =>
      have hbelow := callsOfDepth_callsBelowAll (depth + 1) distance children
      rw [show depth + 1 + distance = depth + (distance + 1) by omega] at hbelow
      rw [hbelow, nodesAt]
      cases isCall <;> simp [callsOfDepth]

/-- The calls of a depth below nodes are the calls at that distance from them. -/
theorem callsOfDepth_callsBelowAll (depth distance : Nat) :
    (nodes : List Node) → callsOfDepth (depth + distance) (callsBelowAll depth nodes) =
      (nodes.flatMap (nodesAt distance)).filter Node.isCall
  | [] => rfl
  | node :: nodes => by
    have hnode := callsOfDepth_callsBelow depth distance node
    have hnodes := callsOfDepth_callsBelowAll depth distance nodes
    rw [callsBelowAll, callsOfDepth_append, hnode, hnodes, List.flatMap_cons, List.filter_append]

end

/-- The calls of a tree are those that stand at some distance from its top. -/
theorem mem_callsBelow_iff {tree node : Node} {distance : Nat} :
    (distance, node) ∈ callsBelow 0 tree ↔ node ∈ nodesAt distance tree ∧ node.isCall = true := by
  have hdepth := callsOfDepth_callsBelow 0 distance tree
  rw [Nat.zero_add] at hdepth
  rw [← List.mem_filter, ← hdepth]
  simp [callsOfDepth]

end PortableSql.Sql.Node

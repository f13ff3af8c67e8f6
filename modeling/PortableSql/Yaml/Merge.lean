import PortableSql.Yaml.Node

/-!
# Merged mappings

An entry with a merge key stands for the entries of another mapping, or of several ones of which
the first count most. Merging takes such entries out of a mapping and puts what they stand for in
front of its own entries. The nodes that are merged are flattened themselves, so this changes more
nodes than one.

Every step takes one merge entry away for good. So the number of them bounds the number of steps,
also when mappings are merged into each other.
-/

namespace PortableSql.Yaml

/-- A node that cannot be turned into a value. -/
def unconstructible : Fault :=
  .document .construction

namespace Nodes

/-- The nodes with other entries in a mapping. -/
def withEntries (nodes : Nodes) (n : Nat) (entries : List (Nat × Nat)) : Nodes :=
  nodes.modify n fun node => { node with content := .mapping entries }

/-- The nodes after keys were passed over: the sign of a default value is then an ordinary
text. -/
def withPlainKeys (nodes : Nodes) (keys : List Nat) : Nodes :=
  (keys.filter fun key => nodes.tag key == .value).foldl
    (fun nodes key => nodes.modify key fun node => { node with tag := .str }) nodes

/-- The number of entries with a merge key. -/
def mergeCount (nodes : Nodes) : Nat :=
  nodes.foldl
    (fun count node => match node.content with
      | .mapping entries => count + entries.countP fun entry => nodes.tag entry.1 == .merge
      | _ => count)
    0

end Nodes

/-- Changing nodes, which may fail. -/
abbrev Merging := StateT Nodes (Except Fault)

/-- Flattens the mapping of a number from an entry on, where `merged` are the entries found so
far. The first argument bounds the number of merge entries. -/
def flattenFrom : (fuel : Nat) → (n : Nat) → (index : Nat) → (merged : List (Nat × Nat)) →
    Merging Unit
  | 0, _, _, _ => throw .nestedTooDeep
  | fuel + 1, n, index, merged => do
    let nodes ← get
    let entries := nodes.entries n
    let passed := (entries.drop index).takeWhile fun entry => nodes.tag entry.1 != .merge
    modify fun nodes => nodes.withPlainKeys (passed.map (·.1))
    let index := index + passed.length
    match entries.drop index with
    | [] =>
      if !merged.isEmpty then modify fun nodes => nodes.withEntries n (merged ++ entries)
    | (_, value) :: rest =>
      modify fun nodes => nodes.withEntries n (entries.take index ++ rest)
      let found ← match nodes.content value with
        | .mapping _ => do
          flattenFrom fuel value 0 []
          pure ((← get).entries value)
        | .sequence items => do
          let lists ← items.mapM fun item => do
            match (← get).content item with
            | .mapping _ =>
              flattenFrom fuel item 0 []
              return (← get).entries item
            | _ => throw unconstructible
          pure lists.reverse.flatten
        | _ => throw unconstructible
      flattenFrom fuel n index (merged ++ found)

/-- Flattens the mapping of a number. The first argument is at least the number of merge
entries. -/
def flatten (mergeLimit n : Nat) : Merging Unit :=
  flattenFrom (mergeLimit + 1) n 0 []

end PortableSql.Yaml

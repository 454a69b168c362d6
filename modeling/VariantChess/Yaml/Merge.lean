import VariantChess.Yaml.Node

/-!
# Merging

A merge key takes the entries of another mapping, or of several, over into its own, which go behind them.
Mappings that are taken over are merged themselves before. Since a mapping may stand in another one under
an anchor, and even in itself, merging changes the graph of all nodes, and a key that has been carried
out is gone.
-/

namespace VariantChess.Yaml

namespace Graph

variable (g : Graph)

/-- The entries of a node. -/
def entries (id : Nat) : List (Nat × Nat) := (g.node id).entries

/-- The graph with other entries of a node. -/
def setEntries (id : Nat) (entries : List (Nat × Nat)) : Graph :=
  g.setIfInBounds id (.mapping (g.node id).kind entries)

/-- The graph with a key that stands for its mapping made a text. -/
def plainKey (id : Nat) : Graph :=
  match g.node id with
  | .scalar _ text => g.setIfInBounds id (.scalar .text text)
  | .list _ items => g.setIfInBounds id (.list .text items)
  | .mapping _ entries => g.setIfInBounds id (.mapping .text entries)

/-- The number of all entries. -/
def entryCount : Nat := (g.toList.map fun n => n.entries.length).foldl (· + ·) 0

end Graph

mutual

/-- Carries out the merge keys of a mapping from the entry of a number on; `taken` is what has been taken
over so far. The first argument bounds the number of steps, here and below. -/
def mergeFrom : Nat → Nat → Nat → List (Nat × Nat) → Graph → Except Fault Graph
  | 0, _, _, _, _ => .error .malformed
  | steps + 1, id, index, taken, g =>
    match (g.entries id)[index]? with
    | none => .ok (if taken.isEmpty then g else g.setEntries id (taken ++ g.entries id))
    | some (key, value) =>
      match (g.node key).kind with
      | .mergeKey =>
        let g := g.setEntries id ((g.entries id).eraseIdx index)
        match g.node value with
        | .mapping .. => do
          let g ← mergeFrom steps value 0 [] g
          mergeFrom steps id index (taken ++ g.entries value) g
        | .list _ items => do
          let (parts, g) ← mergeAll steps items g
          mergeFrom steps id index (taken ++ parts.reverse.flatten) g
        | .scalar .. => .error .malformed
      | .ownKey => mergeFrom steps id (index + 1) taken (g.plainKey key)
      | _ => mergeFrom steps id (index + 1) taken g

/-- The entries of mappings whose merge keys have been carried out one after the other. -/
def mergeAll : Nat → List Nat → Graph → Except Fault (List (List (Nat × Nat)) × Graph)
  | 0, _, _ => .error .malformed
  | _ + 1, [], g => .ok ([], g)
  | steps + 1, id :: ids, g =>
    match g.node id with
    | .mapping .. => do
      let g ← mergeFrom steps id 0 [] g
      let (parts, merged) ← mergeAll steps ids g
      return (g.entries id :: parts, merged)
    | _ => .error .malformed

end

/-- The graph with the merge keys of a mapping carried out. -/
def Graph.merged (g : Graph) (id : Nat) : Except Fault Graph :=
  mergeFrom ((g.entryCount + 2) * (g.size + 2) + g.size) id 0 [] g

end VariantChess.Yaml

import SelectionTypes.Yaml.Node

/-!
# `SelectionTypes.Yaml.Collection`: the entries of mappings, and texts in them

`Graph.merged` puts the entries of the mappings that the merge keys of a mapping name in front of
its own entries, and takes the merge keys out. Of several mappings in one list the entries of the
last one come first. A mapping that is named is treated in the same way before its entries are
taken, and what is treated stays so: a mapping that is met on the way into itself has lost the
merge keys that led there.

A mapping that is tagged as a text has the text of its default value. The key of that value becomes
an ordinary text once its mapping has been treated, wherever else the key may stand.
-/

set_option autoImplicit false

namespace SelectionTypes.Yaml

namespace Graph

/-- The entries of the mapping with a number. -/
def entriesOf (graph : Graph) (number : Nat) : List (Nat × Nat) :=
  (graph.node number).entries

/-- Gives other entries to the mapping with a number. -/
def putEntries (graph : Graph) (number : Nat) (entries : List (Nat × Nat)) : Graph :=
  graph.put number (.mapping (graph.tagOf number) entries)

/-- The number of entries in all mappings. -/
def entryCount (graph : Graph) : Nat :=
  graph.nodes.foldl (fun count node => count + node.entries.length) 0

/-- Takes the first merge key out of a mapping, and gives its value. -/
def takeMerge? (graph : Graph) (number : Nat) : Option (Nat × Graph) :=
  let entries := graph.entriesOf number
  let before := entries.takeWhile fun (key, _) => graph.tagOf key != .merge
  match entries.drop before.length with
  | [] => none
  | (_, value) :: after => some (value, graph.putEntries number (before ++ after))

/-- Makes a key an ordinary text if it is that of a default value. -/
def withTextKey (graph : Graph) (entry : Nat × Nat) : Graph :=
  if graph.tagOf entry.1 == .default then
    graph.put entry.1 ((graph.node entry.1).withTag .text)
  else graph

/-- The numbers of the mappings that the value of a merge key names. -/
def mergeSources (graph : Graph) (value : Nat) : List Nat :=
  match graph.node value with
  | .sequence _ items => items
  | _ => [value]

/-- Treats a mapping whose first merge keys have been taken out, with the entries found for them.
Every step takes one more merge key out of the graph. -/
def mergedWith (taken : List (Nat × Nat)) (number : Nat) (graph : Graph) :
    Nat → Except Failure Graph
  | 0 => .error .malformed
  | fuel + 1 =>
    match graph.takeMerge? number with
    | none =>
      let graph := (graph.entriesOf number).foldl withTextKey graph
      .ok (graph.putEntries number (taken ++ graph.entriesOf number))
    | some (value, graph) => do
      let (found, graph) ← (graph.mergeSources value).foldlM
        (fun (found, graph) source => do
          if !(graph.node source).isMapping then throw .malformed
          let graph ← mergedWith [] source graph fuel
          return (graph.entriesOf source ++ found, graph))
        ([], graph)
      mergedWith (taken ++ found) number graph fuel

/-- A graph in which a mapping has taken in the entries that its merge keys ask for. -/
def merged (graph : Graph) (number : Nat) : Except Failure Graph :=
  mergedWith [] number graph (graph.entryCount + 1)

/-- The text of a node. It is found in fewer steps than a number. -/
def textWithin (graph : Graph) (number : Nat) : Nat → Except Failure CodePoints
  | 0 => .error .tooDeep
  | fuel + 1 =>
    match graph.node number with
    | .scalar _ text => .ok text
    | .mapping _ entries =>
      match entries.find? fun (key, _) => graph.tagOf key == .default with
      | some (_, value) => textWithin graph value fuel
      | none => .error .malformed
    | .sequence _ _ => .error .malformed

/-- The text of a node. -/
def text (graph : Graph) (number : Nat) : Except Failure CodePoints :=
  graph.textWithin number (graph.nodes.size + 1)

end Graph

end SelectionTypes.Yaml

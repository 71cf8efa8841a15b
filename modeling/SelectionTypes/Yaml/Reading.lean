import SelectionTypes.Settings.Data
import SelectionTypes.Text.Base64
import SelectionTypes.Yaml.Collection

/-!
# `SelectionTypes.Yaml.Reading`: plain data from YAML

`Data.ofYaml` reads the data that a text describes. The keys of a map are scalars, and of several
entries with one key the last one counts, at the position of the first.

Nodes are read level by level from the root on, and each node once. So of several errors the one
that is nearest to the root is reported. A node with an alias inside itself describes endless data,
of which the first levels are given.
-/

set_option autoImplicit false

namespace SelectionTypes

namespace Yaml

/-- Whether a tag is one of a collection. -/
def Tag.isCollection : Tag → Bool
  | .sequence | .mapping | .set | .orderedMap | .pairs => true
  | _ => false

/-- A text as data. -/
def textData (codePoints : CodePoints) : Data :=
  match codePoints.text? with
  | some text => .text text
  | none => .halved codePoints

/-- The truth value that a word stands for. -/
def truthOf (text : String) : Except Failure Bool :=
  match truthWords.lookup (String.ofList (text.toList.map Char.toLower)) with
  | some value => .ok value
  | none => .error .unknownTruthWord

/-- A float as data, which the node with a number describes. -/
def floatData (number : Nat) : FloatValue → Data
  | .number value => .float value
  | .notANumber => .float .nan
  | .unlike => .noNumber number

/-- The point in time that a text is written like. -/
def timestampData (text : String) : Except Failure Data :=
  match timestamp? text.toList with
  | none => .error .notTimestamp
  | some stamp =>
    if !stamp.isReal then .error .impossibleValue
    else
      match stamp with
      | .date value => .ok (.date value)
      | .moment value => .ok (.moment value)

/-- The bytes that a text in ASCII stands for. -/
def binaryData (text : String) : Except Failure Data :=
  if text.toList.all fun c => c.toNat < 0x80 then
    match Text.Base64.decode? text.toList with
    | some content => .ok (.bytes content)
    | none => .error .malformed
  else .error .malformed

/-- The datum of a node that is no collection. -/
def Graph.scalar (graph : Graph) (number : Nat) : Except Failure Data :=
  match graph.tagOf number with
  | .null => do
    let _ ← graph.text number
    return .null
  | .boolean => do return .boolean (← truthOf (← graph.text number).shown)
  | .integer => do return .integer (← integerOf (← graph.text number).shown.toList)
  | .float => do return floatData number (← floatOf (← graph.text number).shown.toList)
  | .timestamp => do
    let text ← graph.text number
    if (graph.node number).isMapping then throw .timestampOfMapping
    else timestampData text.shown
  | .text => do return textData (← graph.text number)
  | .binary => do binaryData (← graph.text number).shown
  | _ => .error .malformed

/-! ### Reading level by level -/

/-- What a node is read as. What is in a collection is given by numbers of nodes. -/
inductive Content where
  | scalar (data : Data)
  | list (items : List Nat)
  | pairs (entries : List (Nat × Nat))
  | map (entries : List (Nat × Nat))
  | set (entries : List (Nat × Nat))

/-- Whether a node is read as a scalar. -/
def Content.isScalar : Content → Bool
  | .scalar _ => true
  | _ => false

/-- How far reading has come. -/
structure Progress where
  graph : Graph
  /-- What nodes are read as. A collection that waits is empty. -/
  contents : List (Nat × Content) := []
  /-- The collections that wait. -/
  waiting : List Nat := []

/-- Reads nodes. -/
abbrev Construction := StateT Progress (Except Failure)

namespace Construction

/-- Notes what a node is read as. -/
def note (number : Nat) (content : Content) : Construction Unit :=
  modify fun state => { state with contents := (number, content) :: state.contents }

/-- Reads a node, if that has not been done. A collection waits for what is in it. -/
def node (number : Nat) : Construction Unit := do
  let state ← get
  if (state.contents.lookup number).isSome then return ()
  if (state.graph.tagOf number).isCollection then
    note number (.list [])
    modify fun state => { state with waiting := state.waiting ++ [number] }
  else note number (.scalar (← (state.graph.scalar number : Except Failure Data)))

/-- Reads an entry of a map. A collection is no key. -/
def entry (entry : Nat × Nat) : Construction Unit := do
  node entry.1
  if !((← get).contents.lookup entry.1).any Content.isScalar then throw .malformed
  node entry.2

/-- Reads an item that is an entry alone. -/
def pair (item : Nat) : Construction (Nat × Nat) := do
  match (← get).graph.node item with
  | .mapping _ [(key, value)] =>
    node key
    node value
    return (key, value)
  | _ => throw .malformed

/-- Reads the entries of a mapping, which takes in others first. -/
def entries (number : Nat) : Construction (List (Nat × Nat)) := do
  let state ← get
  if !(state.graph.node number).isMapping then throw .malformed
  let graph ← (state.graph.merged number : Except Failure Graph)
  set { state with graph }
  let found := graph.entriesOf number
  found.forM entry
  return found

/-- Reads what is in a collection. -/
def inside (number : Nat) : Construction Unit := do
  match (← get).graph.node number with
  | .sequence .sequence items =>
    items.forM node
    note number (.list items)
  | .sequence .orderedMap items | .sequence .pairs items =>
    note number (.pairs (← items.mapM pair))
  | .mapping .mapping _ => note number (.map (← entries number))
  | .mapping .set _ => note number (.set (← entries number))
  | _ => throw .malformed

/-- Reads the collections that wait. Each node waits at most once. -/
def levels : Nat → Construction Unit
  | 0 => throw .malformed
  | fuel + 1 => do
    match (← get).waiting with
    | [] => return ()
    | number :: waiting =>
      modify fun state => { state with waiting }
      inside number
      levels fuel

end Construction

/-! ### Data -/

/-- The datum of a node, of which a number of levels is given. -/
def dataWithin (contents : List (Nat × Content)) (number : Nat) : Nat → Data
  | 0 =>
    match contents.lookup number with
    | some (.scalar data) => data
    | _ => .null
  | levels + 1 =>
    let both (entry : Nat × Nat) : Data × Data :=
      (dataWithin contents entry.1 levels, dataWithin contents entry.2 levels)
    match contents.lookup number with
    | none => .null
    | some (.scalar data) => data
    | some (.list items) => .list (items.map fun item => dataWithin contents item levels)
    | some (.pairs entries) => .list (entries.map fun entry => .pair (both entry).1 (both entry).2)
    | some (.map entries) => .map (Data.distinct (entries.map both))
    | some (.set entries) => .set ((Data.distinct (entries.map both)).map Prod.fst)

/-- The number of levels that are given, which is more than settings have. -/
def levelCount : Nat := 6

/-- The datum that a graph describes. -/
def Tree.data (tree : Tree) : Except Failure Data := do
  let steps : Construction Unit := do
    Construction.node tree.root
    Construction.levels (tree.graph.nodes.size + 1)
  let (_, state) ← steps.run { graph := tree.graph }
  return dataWithin state.contents tree.root levelCount

end Yaml

/-- The data that a text in YAML describes. A text without a document describes null. -/
def Data.ofYaml (text : String) : Except Yaml.Failure Data := do
  match ← Yaml.Tree.ofText text.toList with
  | none => return .null
  | some tree => tree.data

end SelectionTypes

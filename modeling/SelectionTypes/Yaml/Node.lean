import SelectionTypes.Yaml.Lexer
import SelectionTypes.Yaml.Tag

/-!
# `SelectionTypes.Yaml.Node`: from tokens to a graph

A node is a text, a sequence or a mapping, with a tag. The nodes of a text have numbers, by which a
sequence or a mapping names the nodes inside it. An anchor gives a node a name, and an alias stands
for the number of the node of that name. A name is given once, and an alias may stand inside the
node that it stands for, so the nodes are a graph.

`Tree.ofText` gives the only graph of a text, or nothing if the text has none.
-/

set_option autoImplicit false

namespace SelectionTypes.Yaml

/-- A node. -/
inductive Node where
  | scalar (tag : Tag) (text : CodePoints)
  | sequence (tag : Tag) (items : List Nat)
  | mapping (tag : Tag) (entries : List (Nat × Nat))
  deriving Repr, DecidableEq

namespace Node

/-- The node where there is no text. -/
def empty : Node :=
  .scalar .null []

/-- What a node stands for. -/
def tag : Node → Tag
  | .scalar tag _ | .sequence tag _ | .mapping tag _ => tag

/-- The same node with another tag. -/
def withTag (tag : Tag) : Node → Node
  | .scalar _ text => .scalar tag text
  | .sequence _ items => .sequence tag items
  | .mapping _ entries => .mapping tag entries

/-- Whether a node is a mapping. -/
def isMapping : Node → Bool
  | .mapping _ _ => true
  | _ => false

/-- The entries of a mapping. -/
def entries : Node → List (Nat × Nat)
  | .mapping _ entries => entries
  | _ => []

end Node

/-- Nodes, each with its place as its number. -/
structure Graph where
  nodes : Array Node := #[]
  deriving Repr, DecidableEq

namespace Graph

/-- The node with a number. -/
def node (graph : Graph) (number : Nat) : Node :=
  graph.nodes.getD number .empty

/-- The tag of the node with a number. -/
def tagOf (graph : Graph) (number : Nat) : Tag :=
  (graph.node number).tag

/-- Puts another node in place of the one with a number. -/
def put (graph : Graph) (number : Nat) (node : Node) : Graph :=
  { graph with nodes := graph.nodes.setIfInBounds number node }

/-- A graph with one more node, which has the last number. -/
def push (graph : Graph) (node : Node) : Graph :=
  { graph with nodes := graph.nodes.push node }

end Graph

namespace Node

/-- What reading goes on from. -/
structure ReaderState where
  lexer : LexerState
  /-- The nodes that have been begun. Those that are not complete are empty. -/
  graph : Graph := {}
  /-- The numbers of the nodes with a name. -/
  named : List (String × Nat) := []
  /-- The number of collections around the next token. -/
  depth : Nat := 0

/-- Reads tokens. -/
abbrev Reader := StateT ReaderState (Except Failure)

/-- The next token. -/
def peek : Reader (Option Token) := do
  let lexer ← (← get).lexer.peek
  modify fun state => { state with lexer }
  return lexer.tokens.head?

/-- Passes the next token. -/
def advance : Reader Unit :=
  modify fun state => { state with lexer := state.lexer.take }

/-- Passes the next token if it is the given one. -/
def accept (token : Token) : Reader Bool := do
  if (← peek) == some token then
    advance
    return true
  else return false

/-- Whether the next token is one of those given. -/
def isNext (tokens : List Token) : Reader Bool := do
  return (← peek).any tokens.contains

/-- Passes an anchor. -/
def anchor? : Reader (Option String) := do
  match ← peek with
  | some (.anchor name) =>
    advance
    return some name
  | _ => return none

/-- Passes a tag. -/
def tag? : Reader (Option TagText) := do
  match ← peek with
  | some (.tag tag) =>
    advance
    return some tag
  | _ => return none

/-- Passes an anchor and a tag, in either order. -/
def properties : Reader (Option String × Option TagText) := do
  match ← anchor? with
  | some name => return (some name, ← tag?)
  | none =>
    let tag ← tag?
    if tag.isSome then return (← anchor?, tag) else return (none, none)

/-- The tag that leaves the meaning of a node open. -/
def openTag : String := "!"

/-- The name of a tag, given the meanings of handles. -/
def tagName (handles : List (String × String)) (tag : TagText) : Except Failure String :=
  match tag.handle with
  | none => .ok tag.suffix
  | some handle =>
    match handles.lookup handle with
    | some meaning => .ok (meaning ++ tag.suffix)
    | none => .error .malformed

/-- What a collection stands for, if its tag does not say otherwise. -/
def collectionTag (name : Option String) (usual : Tag) : Tag :=
  match name with
  | none => usual
  | some name => if name == openTag then usual else .ofName name

/-- What a text stands for. -/
def scalarTag (name : Option String) (text : CodePoints) (plain : Bool) : Tag :=
  match name with
  | none => if plain then .ofPlain text.shown else .text
  | some name => if name == openTag then .ofPlain text.shown else .ofName name

/-- How many collections may stand inside each other. -/
def nestingLimit : Nat := 488

/-- Reads what is in a collection. -/
def nested {α : Type} (inside : Reader α) : Reader α := do
  let depth := (← get).depth
  if depth == nestingLimit then throw .tooDeep
  modify fun state => { state with depth := depth + 1 }
  let found ← inside
  modify fun state => { state with depth }
  return found

/-- Adds a node, and gives its number. -/
def add (node : Node) : Reader Nat := do
  let graph := (← get).graph
  modify fun state => { state with graph := graph.push node }
  return graph.nodes.size

/-- Begins a node with an anchor, whose name must be new, and gives its number. -/
def begin (anchor : Option String) : Reader Nat := do
  match anchor with
  | none => add empty
  | some name =>
    if ((← get).named.lookup name).isSome then throw .malformed
    let number ← add empty
    modify fun state => { state with named := (name, number) :: state.named }
    return number

/-- Completes a node that has been begun. -/
def complete (number : Nat) (node : Node) : Reader Nat := do
  modify fun state => { state with graph := state.graph.put number node }
  return number

mutual

/-- Reads a node. A collection of lines is read only where it may stand, and likewise one whose
items are not indented. -/
def node (handles : List (String × String)) (lines items : Bool) : Nat → Reader Nat
  | 0 => throw .malformed
  | fuel + 1 => do
    match ← peek with
    | some (.aliasOf name) =>
      advance
      match (← get).named.lookup name with
      | some number => return number
      | none => throw .malformed
    | _ =>
      let (anchor, tag) ← properties
      let tag ← (match tag with
        | none => pure none
        | some tag => (tagName handles tag).map some : Except Failure (Option String))
      content handles lines items anchor tag fuel

/-- Reads a node behind its anchor and tag. With one of these it may be empty. -/
def content (handles : List (String × String)) (lines items : Bool)
    (anchor : Option String) (tag : Option String) : Nat → Reader Nat
  | 0 => throw .malformed
  | fuel + 1 => do
    let next ← peek
    let number ← begin anchor
    let sequence (found : Reader (List Nat)) : Reader Nat := do
      complete number (.sequence (collectionTag tag .sequence) (← nested found))
    let mapping (found : Reader (List (Nat × Nat))) : Reader Nat := do
      complete number (.mapping (collectionTag tag .mapping) (← nested found))
    match next with
    | some (.scalar text plain) =>
      advance
      complete number (.scalar (scalarTag tag text plain) text)
    | some .flowSequenceStart =>
      advance
      sequence (flowItems handles true fuel)
    | some .flowMappingStart =>
      advance
      mapping (flowEntries handles true fuel)
    | next =>
      if items && next == some .blockEntry then sequence (flatItems handles fuel)
      else if lines && next == some .blockSequenceStart then
        advance
        sequence (blockItems handles fuel)
      else if lines && next == some .blockMappingStart then
        advance
        mapping (blockEntries handles fuel)
      else if anchor.isSome || tag.isSome then
        complete number (.scalar (scalarTag tag [] true) [])
      else throw .malformed

/-- Reads a node, unless one of the given tokens comes next. -/
def optional (handles : List (String × String)) (lines items : Bool) (ends : List Token) :
    Nat → Reader Nat
  | 0 => throw .malformed
  | fuel + 1 => do
    if ← isNext ends then add empty else node handles lines items fuel

/-- Reads the value of a key, if there is one. -/
def keyValue (handles : List (String × String)) (lines : Bool) (ends : List Token) :
    Nat → Reader Nat
  | 0 => throw .malformed
  | fuel + 1 => do
    if ← accept .value then optional handles lines lines ends fuel else add empty

/-- Reads the items of indented lines. -/
def blockItems (handles : List (String × String)) : Nat → Reader (List Nat)
  | 0 => throw .malformed
  | fuel + 1 => do
    if ← accept .blockEnd then return []
    else if ← accept .blockEntry then
      let item ← optional handles true false [.blockEntry, .blockEnd] fuel
      return item :: (← blockItems handles fuel)
    else throw .malformed

/-- Reads the items of lines that are not indented. -/
def flatItems (handles : List (String × String)) : Nat → Reader (List Nat)
  | 0 => throw .malformed
  | fuel + 1 => do
    if ← accept .blockEntry then
      let item ← optional handles true false [.blockEntry, .key, .value, .blockEnd] fuel
      return item :: (← flatItems handles fuel)
    else return []

/-- Reads the entries of indented lines. -/
def blockEntries (handles : List (String × String)) : Nat → Reader (List (Nat × Nat))
  | 0 => throw .malformed
  | fuel + 1 => do
    if ← accept .blockEnd then return []
    else if ← accept .key then
      let key ← optional handles true true [.key, .value, .blockEnd] fuel
      let value ← keyValue handles true [.key, .value, .blockEnd] fuel
      return (key, value) :: (← blockEntries handles fuel)
    else throw .malformed

/-- Reads the items between brackets. An item may be a single entry of a mapping. -/
def flowItems (handles : List (String × String)) (first : Bool) : Nat → Reader (List Nat)
  | 0 => throw .malformed
  | fuel + 1 => do
    if ← accept .flowSequenceEnd then return []
    if !first then
      if !(← accept .flowEntry) then throw .malformed
    if ← accept .key then
      let entry ← nested do
        let key ← optional handles false false [.value, .flowEntry, .flowSequenceEnd] fuel
        return (key, ← keyValue handles false [.flowEntry, .flowSequenceEnd] fuel)
      let item ← add (.mapping .mapping [entry])
      return item :: (← flowItems handles false fuel)
    else if ← accept .flowSequenceEnd then return []
    else
      let item ← node handles false false fuel
      return item :: (← flowItems handles false fuel)

/-- Reads the entries between braces. -/
def flowEntries (handles : List (String × String)) (first : Bool) :
    Nat → Reader (List (Nat × Nat))
  | 0 => throw .malformed
  | fuel + 1 => do
    if ← accept .flowMappingEnd then return []
    if !first then
      if !(← accept .flowEntry) then throw .malformed
    if ← accept .key then
      let key ← optional handles false false [.value, .flowEntry, .flowMappingEnd] fuel
      let value ← keyValue handles false [.flowEntry, .flowMappingEnd] fuel
      return (key, value) :: (← flowEntries handles false fuel)
    else if ← accept .flowMappingEnd then return []
    else
      let key ← node handles false false fuel
      let value ← add empty
      return (key, value) :: (← flowEntries handles false fuel)

end

/-- The meanings of the handles that need no directive. -/
def usualHandles : List (String × String) :=
  [("!", openTag), ("!!", standardTags)]

/-- Passes the directives of a document, given the handles and whether there was a version. -/
def directives (handles : List (String × String)) (versioned : Bool) :
    Nat → Reader (List (String × String))
  | 0 => throw .malformed
  | fuel + 1 => do
    match ← peek with
    | some (.versionDirective major) =>
      advance
      if versioned || major != 1 then throw .malformed
      directives handles true fuel
    | some (.tagDirective handle meaning) =>
      advance
      if (handles.lookup handle).isSome then throw .malformed
      directives ((handle, meaning) :: handles) versioned fuel
    | some .otherDirective =>
      advance
      directives handles versioned fuel
    | _ => return handles ++ usualHandles

/-- Whether a token begins or ends a document. -/
def isMargin : Token → Bool
  | .versionDirective _ | .tagDirective _ _ | .otherDirective => true
  | .documentStart | .documentEnd => true
  | _ => false

/-- Reads the node of a document that begins with directives or the sign for its start. -/
def markedDocument (fuel : Nat) : Reader Nat := do
  let handles ← directives [] false fuel
  if !(← accept .documentStart) then throw .malformed
  match ← peek with
  | none => add empty
  | some next => if isMargin next then add empty else node handles true false fuel

/-- Passes the signs for the end of a document. -/
def documentEnds : Nat → Reader Unit
  | 0 => throw .malformed
  | fuel + 1 => do
    if ← accept .documentEnd then documentEnds fuel else return ()

/-- Reads the node of the only document, if there is one. A second one is an error, and its
directives are read before that is known. -/
def document (fuel : Nat) : Reader (Option Nat) := do
  match ← peek with
  | none => return none
  | some first =>
    let found ← if isMargin first && first != .documentEnd then markedDocument fuel
      else node usualHandles true false fuel
    documentEnds fuel
    if (← peek).isSome then
      let _ ← directives [] false fuel
      throw .malformed
    return some found

end Node

/-- A graph, and the number of the node that all others are inside of. -/
structure Tree where
  root : Nat
  graph : Graph
  deriving Repr, DecidableEq

namespace Tree

/-- More than enough steps to read the nodes of a text with a number of characters. -/
def steps (count : Nat) : Nat :=
  24 * count + 24

/-- The nodes of the only document of a text. -/
def ofText (text : List Char) : Except Failure (Option Tree) := do
  let lexer ← LexerState.ofText text
  let (root, state) ← (Node.document (steps text.length)).run { lexer }
  return root.map fun root => { root, graph := state.graph }

end Tree

end SelectionTypes.Yaml

import SelectionTypes.Document.Parser
import SelectionTypes.Schema.Writing
import SelectionTypes.Selection.FragmentTable
import SelectionTypes.Workspace.FileTree

/-!
# `SelectionTypes.Workspace.DocumentFiles`: documents and schemas from files

A path to a file stands for that file. A path to a directory stands for everything inside with the
extension of documents. The files are sorted by their parts, and each comes once.

A schema may be spread over several files. Each of them must be a document of its own, and all of
them together are one.
-/

set_option autoImplicit false

namespace SelectionTypes

/-- Why files cannot be loaded. -/
inductive LoadError where
  | unreadable (path : FilePath)
  /-- No file can have the name of a file of a schema. -/
  | impossible (path : FilePath)
  /-- A text is not in the language. -/
  | malformed (error : SyntaxError) (location : Location)
  /-- A file of a schema is not in the language. -/
  | malformedSchemaFile (path : FilePath)
  /-- The text of all files does not describe a schema. -/
  | notSchema (error : SchemaError) (text : String)
  /-- The schema has a default value that cannot be written. -/
  | unwritable (problem : WritingProblem)
  deriving Repr, DecidableEq

namespace LoadError

/-- The error of a text that is not in the language. -/
def ofSyntax (text : String) (error : SyntaxError) : LoadError :=
  .malformed error (error.place.location text)

end LoadError

/-- What the names of documents end in. -/
def documentExtensions : List String :=
  [".graphql", ".graphqls", ".gql"]

/-- Whether a name ends like that of a document. -/
def isDocumentName (name : String) : Bool :=
  documentExtensions.any fun extension => extension.toList.isSuffixOf name.toList

namespace FilePath

/-- Whether a path comes before another or is the same. -/
def comesBefore (first second : FilePath) : Bool :=
  decide (first.slashes < second.slashes)
    || first.slashes == second.slashes
      && !second.parts.lex first.parts fun part other => decide (part < other)

end FilePath

namespace FileTree

/-- The files that a path stands for. -/
def documentsAt (tree : FileTree) (path : FilePath) : List FilePath :=
  match tree.locate? path with
  | none => []
  | some place =>
    if tree.isFile place then [path]
    else
      ((tree.contents place).filter fun steps => isDocumentName (steps.getLast?.getD "")).map
        path.join

/-- The files that paths stand for, sorted and each once. -/
def documentPaths (tree : FileTree) (paths : List FilePath) : List FilePath :=
  (paths.flatMap tree.documentsAt).eraseDups.mergeSort FilePath.comesBefore

/-- The document in a file. -/
def loadDocument (tree : FileTree) (path : FilePath) : Except LoadError Document :=
  match tree.readText? path with
  | none => .error (.unreadable path)
  | some text => (Document.parse text).mapError (.ofSyntax text)

/-- The documents that paths stand for. -/
def loadDocuments (tree : FileTree) (paths : List FilePath) : Except LoadError (List Document) :=
  (tree.documentPaths paths).mapM tree.loadDocument

/-- The text of a file of a schema, which must be a document of its own. -/
def schemaFileText (tree : FileTree) (path : FilePath) : Except LoadError String :=
  match (tree.read? (path.placeFrom tree.workingDirectory)).map Text.withLineFeeds with
  | none => .error (if path.isPossible then .unreadable path else .impossible path)
  | some text =>
    match Document.parse text with
    | .ok _ => .ok text
    | .error _ => .error (.malformedSchemaFile path)

/-- The text of a schema in a file, or in all files inside a directory, whose extensions may be
written in capitals. -/
def schemaText (tree : FileTree) (path : FilePath) : Except LoadError String :=
  match (tree.locate? path).filter tree.isDirectory with
  | none => tree.schemaFileText path
  | some place => do
    let found := (tree.filesInside place).filter fun steps =>
      isDocumentName (String.ofList ((steps.getLast?.getD "").toList.map Char.toLower))
    let sorted := found.mergeSort fun first second =>
      decide ("/".intercalate first ≤ "/".intercalate second)
    let texts ← sorted.mapM fun steps => tree.schemaFileText (path.join steps)
    return "\n".intercalate texts

/-- The schema in the files that paths name, which must be one that can be written down. -/
def loadSchema (tree : FileTree) (paths : List FilePath) : Except LoadError Schema := do
  let texts ← paths.mapM tree.schemaText
  let text := String.join (texts.map fun text => text ++ "\n")
  match Schema.parse text with
  | .ok schema =>
    match schema.unwritable? with
    | some problem => throw (.unwritable problem)
    | none => return schema
  | .error (.notDocument error) => throw (.ofSyntax text error)
  | .error error => throw (.notSchema error text)

end FileTree

end SelectionTypes

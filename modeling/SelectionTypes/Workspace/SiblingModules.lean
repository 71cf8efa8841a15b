import SelectionTypes.Generation.Operations
import SelectionTypes.Workspace.FilePath

/-!
# `SelectionTypes.Workspace.SiblingModules`: one module next to every document

Each document has a module of its own in the same directory. A module imports the fragments of the
other documents from their modules, besides those that are generated elsewhere.
-/

set_option autoImplicit false

namespace SelectionTypes

/-- A document and the path of its file. -/
structure PlacedDocument where
  path : FilePath
  document : Document

/-- Why a document has no module. -/
inductive SiblingError where
  /-- No file can have the name of the module. -/
  | noModuleName (document : FilePath)
  | module (error : ModuleError)
  deriving Repr, DecidableEq

/-- What the modules of several documents have in common. -/
structure SiblingModules where
  schema : Schema
  settings : Settings
  /-- The fragments that are generated elsewhere. -/
  external : List LoadedFragment
  /-- The directory that relative paths start from. -/
  directory : PlaceInTree
  /-- What the names of the modules end in. -/
  extension : String
  documents : List PlacedDocument

namespace SiblingModules

variable (siblings : SiblingModules)

/-- The path of the module of a document. -/
def modulePath (document : FilePath) : Except SiblingError FilePath :=
  match document.siblingModule? siblings.extension with
  | some path => .ok path
  | none => .error (.noModuleName document)

/-- The fragments of a document, imported from its module into another. -/
def importableFragments (importing : FilePath) (placed : PlacedDocument) :
    Except SiblingError (List LoadedFragment) :=
  if placed.document.fragments.isEmpty then .ok []
  else do
    let path ← siblings.modulePath placed.path
    return LoadedFragment.ofDocument placed.document true
      (some (importSpecifier siblings.directory path importing))

/-- The fragments of the other documents, as the module of a document imports them. -/
def siblingFragments (document importing : FilePath) :
    Except SiblingError (List LoadedFragment) := do
  let others := siblings.documents.filter fun other => other.path != document
  return (← others.mapM (siblings.importableFragments importing)).flatten

/-- The path and the module of a document. -/
def moduleOf (placed : PlacedDocument) : Except SiblingError (FilePath × GeneratedModule) := do
  let path ← siblings.modulePath placed.path
  let fragments ← siblings.siblingFragments placed.path path
  let module ← (generateModule siblings.schema siblings.settings [placed.document]
    (siblings.external ++ fragments)).mapError .module
  return (path, module)

end SiblingModules

end SelectionTypes

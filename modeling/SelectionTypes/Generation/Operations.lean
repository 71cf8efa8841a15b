import SelectionTypes.Export.Declaration
import SelectionTypes.Generation.SupportingTypes
import SelectionTypes.Generation.Variables
import SelectionTypes.Selection.Optimized

/-!
# `SelectionTypes.Generation.Operations`: the module of operations and fragments

A module begins with the types that variables need. Each operation follows with the type of its
variables, the type of its result and the aliases that it exports, and then each fragment with its
type and aliases. An operation without a name is numbered. The number of the last one is kept
beside a generator, so that a second run goes on from there.

`Generator.module` is the whole module. A fragment that is generated elsewhere is imported from
there with its aliases, if the documents spread it and its place is known.
-/

set_option autoImplicit false

namespace SelectionTypes

open TypeScript (Declaration ModuleText)

/-- Why there is no module. -/
inductive ModuleError where
  /-- The documents do not fit the schema. -/
  | generation (error : GenerationError)
  /-- There is no document of the schema. -/
  | document (problem : DocumentProblem)
  deriving Repr, DecidableEq

/-- The documents of a module and what they are read against. -/
structure Generator where
  scope : SelectionScope
  documents : List Document

/-- A module, and a warning about it. -/
structure GeneratedModule where
  module : ModuleText
  warning : Option String
  deriving Repr, DecidableEq

namespace Generator

/-- The generator for documents. If the settings ask for it, fragments are inlined first, and
only the external ones can then still be spread. -/
def create (schema : Schema) (settings : Settings) (documents : List Document)
    (external : List LoadedFragment) : Except GenerationError Generator := do
  let documents ←
    if settings.flattenGeneratedTypes then Document.optimizeAll documents external
    else pure documents
  let fragments := FragmentTable.ofDocuments external documents
  return { scope := { schema, settings, fragments }, documents }

variable (generator : Generator)

/-- The settings of the module. -/
def settings : Settings :=
  generator.scope.settings

/-- The operations of all documents. -/
def operations : List Operation :=
  generator.documents.flatMap Document.operations

/-- The fragments of all documents. -/
def fragments : List Fragment :=
  generator.documents.flatMap Document.fragments

/-- The declarations of the types that variables need. -/
def supporting : Except DocumentProblem (List Declaration) :=
  generator.scope.supportingDeclarations (Document.variableTypeNames generator.documents)

/-- The type name of an operation, and the number of unnamed operations behind it. -/
def operationName (unnamed : Nat) (operation : Operation) : String × Nat :=
  match operation.name with
  | some name => (generator.settings.operationTypeName operation.kind name, unnamed)
  | none =>
    let number := unnamed + 1
    let name := "Unnamed_" ++ toString number ++ "_"
    (generator.settings.operationTypeName operation.kind name, number)

/-- The declarations for selections on a type: the type of the selections and its aliases. -/
def selectionDeclarations (name parent : String) (before : List Declaration)
    (selections : List Selection) : Except GenerationError (List Declaration) := do
  let aliases ← ExportedAlias.collect generator.scope.schema parent selections
  let type ← generator.scope.typeOf parent selections
  let exported ← ExportedAlias.declare generator.scope aliases
  return before ++ .typeAlias name type :: exported

/-- The declarations of an operation, and the number of unnamed operations behind it. -/
def operationDeclarations (unnamed : Nat) (operation : Operation) :
    Except GenerationError (List Declaration) × Nat :=
  match generator.scope.schema.root? operation.kind with
  -- Without a root type the operation takes no number.
  | none => (.error (.missingRoot operation.kind), unnamed)
  | some root =>
    let (name, unnamed) := generator.operationName unnamed operation
    let declared :=
      generator.scope.variablesDeclaration (name ++ "Variables")
        operation.declaredVariables
    (generator.selectionDeclarations name root [declared] operation.selections, unnamed)

/-- The declarations of operations, up to the first that fails. -/
def operationsDeclarations (unnamed : Nat) :
    List Operation → Except GenerationError (List Declaration) × Nat
  | [] => (.ok [], unnamed)
  | operation :: operations =>
    match generator.operationDeclarations unnamed operation with
    | (.error error, unnamed) => (.error error, unnamed)
    | (.ok first, unnamed) =>
      let (rest, unnamed) := operationsDeclarations unnamed operations
      (rest.map (first ++ ·), unnamed)

/-- The declarations of a fragment. -/
def fragmentDeclarations (fragment : Fragment) : Except GenerationError (List Declaration) :=
  generator.selectionDeclarations (generator.settings.fragmentTypeName fragment.name)
    fragment.onType [] fragment.selections

/-- The names that the documents spread and do not define. -/
def foreignSpreads : List String :=
  let localNames := generator.fragments.map Fragment.name
  (generator.documents.flatMap Document.spreadNames).filter fun name => !localNames.contains name

/-- The types that a fragment is imported with: its own and its aliases. -/
def importedTypes (loaded : LoadedFragment) : Except GenerationError (List String) := do
  let aliases ← ExportedAlias.collect generator.scope.schema loaded.fragment.onType
    loaded.fragment.selections
  return generator.settings.fragmentTypeName loaded.name :: aliases.map ExportedAlias.name

/-- The path that a fragment is imported from, if the documents spread it. -/
def importPath? (spreads : List String) (loaded : LoadedFragment) : Option String :=
  if loaded.isExternal && spreads.contains loaded.name then
    loaded.importFrom.filter fun path => !path.isEmpty
  else none

/-- The imports of fragments that are generated elsewhere, one for each path. -/
def fragmentImports : Except GenerationError (List TypeImport) := do
  let spreads := generator.foreignSpreads
  let placed := generator.scope.fragments.filterMap fun loaded =>
    (importPath? spreads loaded).map fun path => (path, loaded)
  let entries ← placed.mapM fun (path, loaded) =>
    return (path, ← generator.importedTypes loaded)
  -- Fragments of one path share an import, at the place of the first of them.
  return ((entries.map Prod.fst).eraseDups).map fun path =>
    ⟨path, ((entries.filter fun entry => entry.1 == path).flatMap Prod.snd).eraseDups⟩

/-- The warning about references to the global module when the module does not import it. -/
def warning? (content : String) : Option String :=
  let dot := generator.settings.namespaceDot
  let path := generator.settings.baseTypesPath.getD ""
  if !dot.isEmpty && path.isEmpty && Text.occursIn dot.toList content.toList then
    some ("Generated types reference " ++ dot ++ "* but no baseTypesPath is configured, so "
      ++ generator.settings.namespacedImportName ++ " is not imported")
  else none

/-- The module with the given declarations. -/
def moduleOf (declarations : List Declaration) : Except GenerationError GeneratedModule := do
  let imports := generator.settings.fragmentImports ++ (← generator.fragmentImports)
  let content := TypeScript.renderAll generator.settings declarations
  let opening := TypeScript.importLines generator.settings.namespacedImportName
    generator.settings.baseTypesPath imports
  return ⟨⟨opening, content⟩, generator.warning? content⟩

/-- The module, and the number of unnamed operations behind it. -/
def module (unnamed : Nat) : Except ModuleError GeneratedModule × Nat :=
  match generator.supporting with
  | .error error => (.error (.document error), unnamed)
  | .ok supporting =>
    let (operations, unnamed) :=
      generator.operationsDeclarations unnamed generator.operations
    let result : Except GenerationError GeneratedModule := do
      let operations ← operations
      let fragments ← generator.fragments.mapM generator.fragmentDeclarations
      generator.moduleOf (supporting ++ operations ++ fragments.flatten)
    -- Operations are numbered even if what follows them fails.
    (result.mapError .generation, unnamed)

end Generator

/-- The module of documents. -/
def generateModule (schema : Schema) (settings : Settings) (documents : List Document)
    (external : List LoadedFragment) : Except ModuleError GeneratedModule := do
  let generator ← (Generator.create schema settings documents external).mapError .generation
  (generator.module 0).1

end SelectionTypes

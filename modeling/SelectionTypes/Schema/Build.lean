import SelectionTypes.Document.Parser
import SelectionTypes.Schema.DefinitionRules
import SelectionTypes.Schema.Resolution

/-!
# `SelectionTypes.Schema.Build`: from documents to schemas

`Document.toSchema` builds the schema that a document describes. An extension adds to the type it
extends, in the order of the document, and the type stays where it is defined. A definition with
the name of a built-in type gives way to the built-in type. Without a schema block the types named
`Query`, `Mutation` and `Subscription` are the root types.
-/

set_option autoImplicit false

namespace SelectionTypes

/-- Why a text does not describe a schema. -/
inductive SchemaError where
  | notDocument (error : SyntaxError)
  | problems (problems : List DefinitionProblem)
  | resolution (problem : ResolutionProblem)
  deriving Repr, DecidableEq

namespace SchemaError

/-- The text that reports the error, given the text of the schema. -/
def message (text : String) : SchemaError → String
  | notDocument error => error.message
  | problems found => "\n\n".intercalate (found.map DefinitionProblem.message)
  | resolution problem => problem.message text

end SchemaError

namespace TypeDefinition

/-- A type with what an extension of its kind adds. -/
def extend (type added : TypeDefinition) : TypeDefinition :=
  let body := match type.body, added.body with
    | .object interfaces fields, .object moreInterfaces moreFields =>
      .object (interfaces ++ moreInterfaces) (fields ++ moreFields)
    | .interface interfaces fields, .interface moreInterfaces moreFields =>
      .interface (interfaces ++ moreInterfaces) (fields ++ moreFields)
    | .union members, .union more => .union (members ++ more)
    | .enum values, .enum more => .enum (values ++ more)
    | .inputObject fields, .inputObject more => .inputObject (fields ++ more)
    -- Extensions of another kind are refused beforehand.
    | body, _ => body
  { type with body }

/-- The names of all types that a type refers to. -/
def references (type : TypeDefinition) : List String :=
  type.interfaces ++ (type.fieldTypes.map fun field => field.2.base)
    ++ (type.fields.flatMap FieldDefinition.arguments).map (fun argument => argument.type.base)
    ++ match type.body with
      | .union members => members
      | _ => []

end TypeDefinition

namespace Document

/-- The type definitions of a document with their extensions, where built-in types replace the
definitions of their names. -/
def definedTypes (document : Document) : List TypeDefinition :=
  let extensions := document.definitions.filterMap fun definition =>
    match definition with
    | .typeExtension added => some added
    | _ => none
  document.definitions.filterMap fun definition =>
    match definition with
    | .type type =>
      match Schema.builtIn? type.name with
      | some builtIn => some builtIn
      | none =>
        some ((extensions.filter fun added => added.name == type.name).foldl
          TypeDefinition.extend type)
    | _ => none

/-- The directive definitions of a document. -/
def definedDirectives (document : Document) : List DirectiveDefinition :=
  document.definitions.filterMap fun definition =>
    match definition with
    | .directive directive => some directive
    | _ => none

/-- The schema block of a document. -/
def schemaBlock? (document : Document) : Option SchemaBlock :=
  document.definitions.findSome? fun definition =>
    match definition with
    | .schema block => some block
    | _ => none

/-- The root types that the extensions of the schema block list. -/
def extendedRoots (document : Document) : List (OperationKind × String) :=
  document.definitions.flatMap fun definition =>
    match definition with
    | .schemaExtension block => block.roots
    | _ => []

/-- The root types of the schema that a document with the given types describes. -/
def schemaRoots (document : Document) (types : List TypeDefinition) :
    List (OperationKind × String) :=
  match document.schemaBlock? with
  | some block => block.roots ++ document.extendedRoots
  | none =>
    let conventional := [OperationKind.query, .mutation, .subscription].filterMap fun kind =>
      if types.any fun type => type.name == kind.suffix then some (kind, kind.suffix) else none
    conventional ++ document.extendedRoots

/-- The built-in types that a schema has besides its defined ones. -/
def impliedTypes (types : List TypeDefinition) (directives : List DirectiveDefinition)
    (roots : List (OperationKind × String)) : List TypeDefinition :=
  let used := types.flatMap TypeDefinition.references
    ++ (directives.flatMap DirectiveDefinition.arguments).map (fun argument => argument.type.base)
    ++ roots.map Prod.snd
  -- The types of introspection use two of the scalars, and the others need a reference.
  let scalars := Schema.builtInScalarNames.filter fun name =>
    name == "String" || name == "Boolean" || used.contains name
  (scalars.map Schema.builtInScalar ++ Schema.introspectionTypes).filter fun implied =>
    !types.any fun type => type.name == implied.name

/-- The schema that a document describes. -/
def toSchema (document : Document) : Except SchemaError Schema := do
  let problems := document.definitionProblems
  if !problems.isEmpty then throw (.problems problems)
  let types := document.definedTypes
  let own := document.definedDirectives
  -- A definition takes the place of the standard directive of its name.
  let directives := own ++ Schema.standardDirectives.filter fun standard =>
    !own.any fun directive => directive.name == standard.name
  let roots := document.schemaRoots types
  let schema : Schema :=
    { description := document.schemaBlock?.bind SchemaBlock.description
      roots
      types := types ++ impliedTypes types directives roots
      directives }
  match schema.resolutionProblem? with
  | some problem => throw (.resolution problem)
  | none => return schema

end Document

namespace Schema

/-- Reads the schema that a text describes. -/
def parse (text : String) : Except SchemaError Schema := do
  let document ← (Document.parse text).mapError .notDocument
  document.toSchema

end Schema

end SelectionTypes

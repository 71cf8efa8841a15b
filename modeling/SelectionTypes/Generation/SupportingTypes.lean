import SelectionTypes.Generation.References
import SelectionTypes.Schema.Closure
import SelectionTypes.Schema.Writing
import SelectionTypes.Text.Comment
import SelectionTypes.TypeScript.Declaration

/-!
# `SelectionTypes.Generation.SupportingTypes`: the types that variables need

A module declares the fielded types that its variables have, and those that can be reached from
them through fields. They come in the order of the schema.
-/

set_option autoImplicit false

namespace SelectionTypes

open TypeScript (Declaration Property)

namespace Schema

/-- The definitions of the fielded types that are seeds or can be reached from seeds. -/
def supportingTypes (schema : Schema) (seeds : List String) :
    Except DocumentProblem (List TypeDefinition) := do
  let document ← schema.document
  return document.keepTypes (schema.requiredTypes seeds)

end Schema

namespace Scope

variable (scope : Scope)

/-- The property for a field of a declared type. -/
def fieldProperty (isInput : Bool) (description : Option String) (name : String)
    (type : TypeRef) : Property :=
  let avoided :=
    if isInput then scope.settings.avoidOptionals.inputValue
    else scope.settings.avoidOptionals.object
  ({ name,
     optional := !type.isNonNull && !avoided,
     readOnly := scope.settings.immutableTypes,
     description := Text.comment? description },
    scope.typeRef type (if isInput then .input else .output))

/-- The property that tells the type of a declared object type. -/
def declaredTypename (type : String) : Property :=
  ({ name := "__typename",
     optional := !scope.settings.nonOptionalTypename,
     readOnly := scope.settings.immutableTypes },
    .typename type)

/-- The properties of a declared type. -/
def typeProperties (type : TypeDefinition) : List Property :=
  let typename :=
    if type.kind == .object && !scope.settings.skipTypename then
      [scope.declaredTypename type.name]
    else []
  typename
    ++ type.fields.map (fun field =>
      scope.fieldProperty false field.description field.name field.type)
    ++ type.inputFields.map fun field =>
      scope.fieldProperty true field.description field.name field.type

/-- The declaration of a type of the schema. -/
def typeDeclaration (type : TypeDefinition) : Declaration :=
  .object (scope.settings.typeName type.name) (Text.comment? type.description)
    (scope.typeProperties type)

/-- The declarations of the types that seeds need. -/
def supportingDeclarations (seeds : List String) : Except DocumentProblem (List Declaration) := do
  return (← scope.schema.supportingTypes seeds).map scope.typeDeclaration

end Scope

end SelectionTypes

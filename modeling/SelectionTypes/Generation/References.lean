import SelectionTypes.Document.Directives
import SelectionTypes.Schema.Basic
import SelectionTypes.TypeScript.TypeExpr

/-!
# `SelectionTypes.Generation.References`: references to named types

The table of scalars has the built-in scalars, then the other scalars of the schema, which accept
everything, and then those of the settings. The settings replace entries of the same name in
place. A scalar is written as its text in the table. Where the text is empty, the scalar is a
reference into the table of the global module.
-/

set_option autoImplicit false

namespace SelectionTypes

open TypeScript (TypeExpr)

/-- The type texts of the built-in scalars. -/
def builtInScalarTypes : List (String × ScalarTypes) :=
  [("ID", .both "string"), ("String", .both "string"), ("Boolean", .both "boolean"),
    ("Int", .both "number"), ("Float", .both "number")]

namespace ScalarTypes

/-- The text of a side. -/
def on (types : ScalarTypes) : Side → String
  | .input => types.input
  | .output => types.output

end ScalarTypes

namespace Schema

/-- The scalars of a schema that are neither built in nor part of introspection, in order. -/
def customScalars (schema : Schema) : List String :=
  (schema.types.filter fun type =>
    type.kind == .scalar && !isIntrospectionName type.name
      && (builtInScalarTypes.lookup type.name).isNone).map TypeDefinition.name

/-- The table of scalars. -/
def scalarTable (schema : Schema) (settings : Settings) : List (String × ScalarTypes) :=
  let own := schema.customScalars.map fun name => (name, ScalarTypes.both "any")
  -- An entry of the settings keeps the position of the one that it replaces.
  settings.scalars.foldl (fun table (name, types) => putEntry name types table)
    (builtInScalarTypes ++ own)

end Schema

/-- What references to types are resolved against. -/
structure Scope where
  schema : Schema
  settings : Settings
  scalars : List (String × ScalarTypes) := schema.scalarTable settings

namespace Scope

/-- A reference to a scalar. -/
def scalarRef (scope : Scope) (name : String) (side : Side) : TypeExpr :=
  match scope.scalars.lookup name with
  | some types =>
    if (types.on side).isEmpty then .scalarEntry name side else .text (types.on side)
  | none => .scalarEntry name side

/-- A reference to a named type. A name that is no type of the schema is a scalar if the table has
it. -/
def namedRef (scope : Scope) (name : String) (side : Side) : TypeExpr :=
  match scope.schema.kind? name with
  | some .scalar => scope.scalarRef name side
  | some .enum => .enumEntry name
  | some _ => .declared name
  | none => if (scope.scalars.lookup name).isSome then scope.scalarRef name side else .declared name

/-- A reference to a type, with its marks. -/
def typeRef (scope : Scope) (type : TypeRef) (side : Side) : TypeExpr :=
  .marked type (scope.namedRef type.base side)

/-- A reference to the named type of a variable. A scalar of the table is written as its text for
input, or as the one for output if that is empty. -/
def variableRef (scope : Scope) (name : String) : TypeExpr :=
  match scope.scalars.lookup name with
  | some types => .text (if types.input.isEmpty then types.output else types.input)
  | none => if scope.schema.kind? name == some .enum then .enumEntry name else .declared name

end Scope

end SelectionTypes

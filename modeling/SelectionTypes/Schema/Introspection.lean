import SelectionTypes.Schema.Basic

/-!
# `SelectionTypes.Schema.Introspection`: what every schema has

Every schema has the types that describe schemas, the scalars `String` and `Boolean` that they
use, and the standard directives. The other built-in scalars are part of a schema that refers to
them.
-/

set_option autoImplicit false

namespace SelectionTypes

namespace Schema

/-- A built-in scalar. -/
def builtInScalar (name : String) : TypeDefinition :=
  ⟨none, name, [], .scalar⟩

/-- The names of the built-in scalars. -/
def builtInScalarNames : List String :=
  ["String", "Int", "Float", "Boolean", "ID"]

/-- A field without arguments. -/
def plainField (name : String) (type : TypeRef) : FieldDefinition :=
  ⟨none, name, [], type, []⟩

/-- A field that can leave out what is deprecated. -/
def filteredField (name : String) (type : TypeRef) : FieldDefinition :=
  ⟨none, name,
    [⟨none, "includeDeprecated", .named "Boolean", some (.boolean false), []⟩], type, []⟩

/-- A list without nulls, which may be null itself. -/
def listOf (name : String) : TypeRef :=
  .list (.nonNull (.named name))

/-- A named type without null. -/
def required (name : String) : TypeRef :=
  .nonNull (.named name)

/-- An object type of introspection. -/
def introspectionObject (name : String) (fields : List FieldDefinition) : TypeDefinition :=
  ⟨none, name, [], .object [] fields⟩

/-- An enum type of introspection. -/
def introspectionEnum (name : String) (values : List String) : TypeDefinition :=
  ⟨none, name, [], .enum (values.map fun value => ⟨none, value, []⟩)⟩

/-- The types that describe schemas. -/
def introspectionTypes : List TypeDefinition := [
  introspectionObject "__Schema" [
    plainField "description" (.named "String"),
    plainField "types" (.nonNull (listOf "__Type")),
    plainField "queryType" (required "__Type"),
    plainField "mutationType" (.named "__Type"),
    plainField "subscriptionType" (.named "__Type"),
    plainField "directives" (.nonNull (listOf "__Directive"))],
  introspectionObject "__Directive" [
    plainField "name" (required "String"),
    plainField "description" (.named "String"),
    plainField "isRepeatable" (required "Boolean"),
    plainField "locations" (.nonNull (listOf "__DirectiveLocation")),
    filteredField "args" (.nonNull (listOf "__InputValue")),
    plainField "isDeprecated" (required "Boolean"),
    plainField "deprecationReason" (.named "String")],
  introspectionEnum "__DirectiveLocation" [
    "QUERY", "MUTATION", "SUBSCRIPTION", "FIELD", "FRAGMENT_DEFINITION", "FRAGMENT_SPREAD",
    "INLINE_FRAGMENT", "VARIABLE_DEFINITION", "SCHEMA", "SCALAR", "OBJECT", "FIELD_DEFINITION",
    "ARGUMENT_DEFINITION", "INTERFACE", "UNION", "ENUM", "ENUM_VALUE", "INPUT_OBJECT",
    "INPUT_FIELD_DEFINITION", "DIRECTIVE_DEFINITION"],
  introspectionObject "__Type" [
    plainField "kind" (required "__TypeKind"),
    plainField "name" (.named "String"),
    plainField "description" (.named "String"),
    plainField "specifiedByURL" (.named "String"),
    filteredField "fields" (listOf "__Field"),
    plainField "interfaces" (listOf "__Type"),
    plainField "possibleTypes" (listOf "__Type"),
    filteredField "enumValues" (listOf "__EnumValue"),
    filteredField "inputFields" (listOf "__InputValue"),
    plainField "ofType" (.named "__Type"),
    plainField "isOneOf" (.named "Boolean")],
  introspectionObject "__Field" [
    plainField "name" (required "String"),
    plainField "description" (.named "String"),
    filteredField "args" (.nonNull (listOf "__InputValue")),
    plainField "type" (required "__Type"),
    plainField "isDeprecated" (required "Boolean"),
    plainField "deprecationReason" (.named "String")],
  introspectionObject "__InputValue" [
    plainField "name" (required "String"),
    plainField "description" (.named "String"),
    plainField "type" (required "__Type"),
    plainField "defaultValue" (.named "String"),
    plainField "isDeprecated" (required "Boolean"),
    plainField "deprecationReason" (.named "String")],
  introspectionObject "__EnumValue" [
    plainField "name" (required "String"),
    plainField "description" (.named "String"),
    plainField "isDeprecated" (required "Boolean"),
    plainField "deprecationReason" (.named "String")],
  introspectionEnum "__TypeKind" [
    "SCALAR", "OBJECT", "INTERFACE", "UNION", "ENUM", "INPUT_OBJECT", "LIST", "NON_NULL"]]

/-- The built-in type of a name: a built-in scalar or a type that describes schemas. -/
def builtIn? (name : String) : Option TypeDefinition :=
  if builtInScalarNames.contains name then some (builtInScalar name)
  else introspectionTypes.find? fun type => type.name == name

/-- The names of the built-in types. -/
def builtInNames : List String :=
  builtInScalarNames ++ introspectionTypes.map TypeDefinition.name

/-- An argument of a standard directive. -/
def directiveArgument (name : String) (type : TypeRef) (defaultValue : Option Value) :
    InputDefinition :=
  ⟨none, name, type, defaultValue, []⟩

/-- The standard directives. -/
def standardDirectives : List DirectiveDefinition := [
  ⟨none, "include", [directiveArgument "if" (required "Boolean") none], false,
    ["FIELD", "FRAGMENT_SPREAD", "INLINE_FRAGMENT"]⟩,
  ⟨none, "skip", [directiveArgument "if" (required "Boolean") none], false,
    ["FIELD", "FRAGMENT_SPREAD", "INLINE_FRAGMENT"]⟩,
  ⟨none, "deprecated",
    [directiveArgument "reason" (.named "String") (some (.string "No longer supported" false))],
    false, ["FIELD_DEFINITION", "ARGUMENT_DEFINITION", "INPUT_FIELD_DEFINITION", "ENUM_VALUE"]⟩,
  ⟨none, "specifiedBy", [directiveArgument "url" (required "String") none], false, ["SCALAR"]⟩,
  ⟨none, "oneOf", [], false, ["INPUT_OBJECT"]⟩]

end Schema

end SelectionTypes

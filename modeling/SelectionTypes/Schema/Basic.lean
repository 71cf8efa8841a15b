import SelectionTypes.Document.Basic

/-!
# `SelectionTypes.Schema.Basic`: schemas

A schema is a list of named types with distinct names, the root types of the operation kinds, and
the directives. The order of the types is the order of their definitions. An interface that a type
lists twice occurs twice among what the type implements, so that type is twice a possible type of
the interface.
-/

set_option autoImplicit false

namespace SelectionTypes

/-- The kinds of named types. -/
inductive TypeKind where
  | scalar
  | object
  | interface
  | union
  | enum
  | inputObject
  deriving Repr, DecidableEq

namespace TypeKind

/-- A type without parts: a scalar or an enum. -/
def isLeaf : TypeKind → Bool
  | scalar | enum => true
  | _ => false

/-- A type whose values belong to one of several object types. -/
def isAbstract : TypeKind → Bool
  | interface | union => true
  | _ => false

/-- A type with fields. -/
def isFielded : TypeKind → Bool
  | object | interface | inputObject => true
  | _ => false

/-- A type that a field can have. -/
def isOutput : TypeKind → Bool
  | inputObject => false
  | _ => true

/-- A type that an argument can have. -/
def isInput : TypeKind → Bool
  | scalar | enum | inputObject => true
  | _ => false

/-- A type that a selected field can be exported with. -/
def isExportable : TypeKind → Bool
  | object | interface => true
  | _ => false

end TypeKind

namespace TypeDefinition

/-- The kind of a type. -/
def kind (type : TypeDefinition) : TypeKind :=
  match type.body with
  | .scalar => .scalar
  | .object _ _ => .object
  | .interface _ _ => .interface
  | .union _ => .union
  | .enum _ => .enum
  | .inputObject _ => .inputObject

/-- The interfaces that an object or interface lists. -/
def interfaces (type : TypeDefinition) : List String :=
  match type.body with
  | .object interfaces _ => interfaces
  | .interface interfaces _ => interfaces
  | _ => []

/-- The fields of an object or interface. -/
def fields (type : TypeDefinition) : List FieldDefinition :=
  match type.body with
  | .object _ fields => fields
  | .interface _ fields => fields
  | _ => []

/-- The fields of an input object. -/
def inputFields (type : TypeDefinition) : List InputDefinition :=
  match type.body with
  | .inputObject fields => fields
  | _ => []

/-- The names and types of the fields of a type, whether it is an object, an interface or an input
object. -/
def fieldTypes (type : TypeDefinition) : List (String × TypeRef) :=
  match type.body with
  | .object _ fields => fields.map fun field => (field.name, field.type)
  | .interface _ fields => fields.map fun field => (field.name, field.type)
  | .inputObject fields => fields.map fun field => (field.name, field.type)
  | _ => []

/-- The type of a field. -/
def fieldType? (type : TypeDefinition) (name : String) : Option TypeRef :=
  type.fieldTypes.lookup name

end TypeDefinition

/-- A schema. -/
structure Schema where
  description : Option String
  roots : List (OperationKind × String)
  types : List TypeDefinition
  directives : List DirectiveDefinition

/-- A name of introspection, which begins with two underscores. -/
def isIntrospectionName (name : String) : Bool :=
  ['_', '_'].isPrefixOf name.toList

namespace Schema

/-- The type of a name. -/
def type? (schema : Schema) (name : String) : Option TypeDefinition :=
  schema.types.find? fun type => type.name == name

/-- The kind of the type of a name. -/
def kind? (schema : Schema) (name : String) : Option TypeKind :=
  (schema.type? name).map TypeDefinition.kind

/-- Whether the type of a name exists and is a scalar or an enum. -/
def isLeaf (schema : Schema) (name : String) : Bool :=
  (schema.kind? name).any TypeKind.isLeaf

/-- Whether the type of a name exists and has fields. -/
def isFielded (schema : Schema) (name : String) : Bool :=
  (schema.kind? name).any TypeKind.isFielded

/-- The root type of a kind of operation. -/
def root? (schema : Schema) (kind : OperationKind) : Option String :=
  schema.roots.lookup kind

/-- The object types that list an interface, once for each time they list it. -/
def implementors (schema : Schema) (interface : String) : List String :=
  schema.types.flatMap fun type =>
    match type.body with
    | .object interfaces _ => (interfaces.filter (· == interface)).map fun _ => type.name
    | _ => []

/-- The object types that a value of an abstract type can have. -/
def possibleTypes (schema : Schema) (type : TypeDefinition) : List String :=
  match type.body with
  | .union members => members
  | .interface _ _ => schema.implementors type.name
  | _ => []

/-- Whether a type is a possible type of an abstract type, or an interface that lists it. -/
def isSubType (schema : Schema) (abstract : TypeDefinition) (name : String) : Bool :=
  match abstract.body with
  | .union members => members.contains name
  | .interface _ _ =>
    match schema.type? name with
    | some type => type.interfaces.contains abstract.name
    | none => false
  | _ => false

end Schema

end SelectionTypes

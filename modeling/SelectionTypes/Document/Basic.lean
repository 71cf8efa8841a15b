import SelectionTypes.Document.Source
import SelectionTypes.Naming.TypeNames

/-!
# `SelectionTypes.Document.Basic`: documents of the query language

A document is a list of definitions. Operations and fragments select fields, and the other
definitions describe a schema. A selection list that the grammar may leave out is empty when it is
left out, since braces without a selection are not in the language. The same holds for the lists
of arguments, variables, directives and members.
-/

set_option autoImplicit false

namespace SelectionTypes

/-- A reference to a type, with its list and non-null marks. -/
inductive TypeRef where
  | named (name : String)
  | list (of : TypeRef)
  | nonNull (of : TypeRef)
  deriving Repr, DecidableEq

namespace TypeRef

/-- The name under all marks. -/
def base : TypeRef → String
  | named name => name
  | list of => of.base
  | nonNull of => of.base

/-- The type without a non-null mark around it. -/
def nullable : TypeRef → TypeRef
  | nonNull of => of
  | type => type

/-- Whether the outermost mark is the non-null mark. -/
def isNonNull : TypeRef → Bool
  | nonNull _ => true
  | _ => false

/-- The written form. -/
def text : TypeRef → String
  | named name => name
  | list of => "[" ++ of.text ++ "]"
  | nonNull of => of.text ++ "!"

end TypeRef

/-- A literal. Numbers keep their written form. -/
inductive Value where
  | variable (name : String)
  | int (digits : String)
  | float (text : String)
  | string (text : String) (block : Bool)
  | boolean (value : Bool)
  | null
  | enum (name : String)
  | list (items : List Value)
  | object (fields : List (String × Value))
  deriving Repr, BEq

/-- A named argument of a field or a directive. -/
structure Argument where
  name : String
  value : Value
  /-- The place of the value. -/
  place : Place
  deriving Repr, BEq

/-- A directive applied to a part of a document. -/
structure Directive where
  name : String
  arguments : List Argument
  place : Place
  deriving Repr, BEq

/-- What a field selection says apart from its sub-selections. -/
structure FieldHead where
  aliasName : Option String
  name : String
  arguments : List Argument
  directives : List Directive
  deriving Repr, BEq

namespace FieldHead

/-- The key of the field in a response: its alias, or its name without one. -/
def responseKey (head : FieldHead) : String :=
  head.aliasName.getD head.name

end FieldHead

/-- A selection. A field without sub-selections has an empty list of them. -/
inductive Selection where
  | field (head : FieldHead) (selections : List Selection)
  | spread (fragment : String) (directives : List Directive)
  | inlined (condition : Option String) (directives : List Directive)
      (selections : List Selection)
  deriving Repr, BEq

/-- The declaration of a variable. -/
structure VariableDefinition where
  description : Option (String × Bool)
  name : String
  type : TypeRef
  defaultValue : Option Value
  directives : List Directive
  deriving Repr, BEq

/-- An operation. -/
structure Operation where
  kind : OperationKind
  name : Option String
  declaredVariables : List VariableDefinition
  directives : List Directive
  selections : List Selection
  deriving Repr, BEq

/-- A fragment. -/
structure Fragment where
  name : String
  onType : String
  directives : List Directive
  selections : List Selection
  deriving Repr, BEq

/-- An argument of a field or a directive, or a field of an input object. -/
structure InputDefinition where
  description : Option String
  name : String
  type : TypeRef
  defaultValue : Option Value
  directives : List Directive
  deriving Repr, BEq

/-- A field of an object or an interface. -/
structure FieldDefinition where
  description : Option String
  name : String
  arguments : List InputDefinition
  type : TypeRef
  directives : List Directive
  deriving Repr, BEq

/-- A member of an enum. -/
structure EnumValueDefinition where
  description : Option String
  name : String
  directives : List Directive
  deriving Repr, BEq

/-- What a definition of a named type says besides its name. -/
inductive TypeBody where
  | scalar
  | object (interfaces : List String) (fields : List FieldDefinition)
  | interface (interfaces : List String) (fields : List FieldDefinition)
  | union (members : List String)
  | enum (values : List EnumValueDefinition)
  | inputObject (fields : List InputDefinition)
  deriving Repr, BEq

/-- A definition or an extension of a named type. -/
structure TypeDefinition where
  description : Option String
  name : String
  directives : List Directive
  body : TypeBody
  deriving Repr, BEq

/-- The definition of a directive. -/
structure DirectiveDefinition where
  description : Option String
  name : String
  arguments : List InputDefinition
  repeatable : Bool
  locations : List String
  deriving Repr, BEq

/-- The root types that a schema block lists. -/
structure SchemaBlock where
  description : Option String
  directives : List Directive
  roots : List (OperationKind × String)
  deriving Repr, BEq

/-- A definition of a document. -/
inductive Definition where
  | operation (operation : Operation)
  | fragment (fragment : Fragment)
  | schema (block : SchemaBlock)
  | schemaExtension (block : SchemaBlock)
  | type (definition : TypeDefinition)
  | typeExtension (definition : TypeDefinition)
  | directive (definition : DirectiveDefinition)
  deriving Repr, BEq

/-- A document. -/
structure Document where
  definitions : List Definition
  deriving Repr, BEq

namespace Document

/-- The operations of a document, in order. -/
def operations (document : Document) : List Operation :=
  document.definitions.filterMap fun definition =>
    match definition with
    | .operation operation => some operation
    | _ => none

/-- The fragments of a document, in order. -/
def fragments (document : Document) : List Fragment :=
  document.definitions.filterMap fun definition =>
    match definition with
    | .fragment fragment => some fragment
    | _ => none

end Document

end SelectionTypes

import SelectionTypes.TypeScript.Nullability

/-!
# `SelectionTypes.TypeScript.TypeExpr`: type expressions

A type expression says what a generated type refers to: scalars, enums and declared types by the
names they have in the schema, and aliases by their own names. `TypeExpr.render` writes it with
the names and the list type of the settings.
-/

set_option autoImplicit false

namespace SelectionTypes

/-- The two sides of a scalar: what a caller gives, and what a caller gets. -/
inductive Side where
  | input
  | output
  deriving Repr, DecidableEq

namespace Side

/-- The key of the side. -/
def key : Side → String
  | input => "input"
  | output => "output"

end Side

namespace TypeScript

/-- A property without its type. -/
structure PropertyHead where
  name : String
  optional : Bool := false
  readOnly : Bool := false
  description : Option String := none
  deriving Repr, DecidableEq

/-- A type expression. -/
inductive TypeExpr where
  /-- A text from the settings, taken as it is. -/
  | text (text : String)
  /-- One side of an entry of the global table of scalars. -/
  | scalarEntry (scalar : String) (side : Side)
  /-- An enum of the global module. -/
  | enumEntry (enum : String)
  /-- A type declared for a type of the schema. -/
  | declared (type : String)
  /-- An alias made by an export. -/
  | aliasRef (name : String)
  /-- The aliases of the object types of an interface, one or the other. -/
  | aliasRefs (names : List String)
  /-- The name of an object type as a literal. -/
  | typename (type : String)
  /-- A type with the list and null marks of a type reference. -/
  | marked (type : TypeRef) (base : TypeExpr)
  /-- An object with its properties. -/
  | object (properties : List (PropertyHead × TypeExpr))
  /-- One of several shapes, where shapes that are written the same are one. -/
  | union (shapes : List TypeExpr)
  deriving Repr, BEq

/-- A property of an object type. -/
abbrev Property := PropertyHead × TypeExpr

end TypeScript

namespace Settings

/-- What stands in front of a name of the global module. -/
def namespaceDot (settings : Settings) : String :=
  if settings.namespacedImportName.isEmpty then "" else settings.namespacedImportName ++ "."

end Settings

namespace TypeScript

namespace PropertyHead

/-- The written form of a property whose type is written as `type`. -/
def render (head : PropertyHead) (type : String) : String :=
  (if head.readOnly then "readonly " else "") ++ head.name ++ (if head.optional then "?" else "")
    ++ ": " ++ type

end PropertyHead

/-- Alternatives between bars, or the type without values when there is none. -/
def barred (alternatives : List String) : String :=
  if alternatives.isEmpty then "never" else " | ".intercalate alternatives

/-- Properties in braces on one line. -/
def braced (properties : List String) : String :=
  if properties.isEmpty then "\x7b\x7d" else "\x7b " ++ ", ".intercalate properties ++ " \x7d"

namespace TypeExpr

mutual

/-- The written form of a type expression. -/
def render (settings : Settings) : TypeExpr → String
  | .text written => written
  | .scalarEntry scalar side =>
    settings.namespaceDot ++ "Scalars['" ++ scalar ++ "']['" ++ side.key ++ "']"
  | .enumEntry enum => settings.namespaceDot ++ settings.enumName enum
  | .declared type => settings.typeName type
  | .aliasRef name => name
  | .aliasRefs names => barred names
  | .typename type => "'" ++ type ++ "'"
  | .marked type base => wrap settings.immutableTypes (base.render settings) type
  | .object properties => braced (renderProperties settings properties)
  | .union shapes => barred (renderShapes settings shapes).eraseDups

/-- The written forms of properties. -/
def renderProperties (settings : Settings) : List (PropertyHead × TypeExpr) → List String
  | [] => []
  | (head, type) :: properties =>
    head.render (type.render settings) :: renderProperties settings properties

/-- The written forms of shapes. -/
def renderShapes (settings : Settings) : List TypeExpr → List String
  | [] => []
  | shape :: shapes => shape.render settings :: renderShapes settings shapes

end

end TypeExpr

end TypeScript

end SelectionTypes

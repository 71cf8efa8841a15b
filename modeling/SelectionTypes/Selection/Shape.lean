import SelectionTypes.Export.Name
import SelectionTypes.Generation.References
import SelectionTypes.Selection.Distribution
import SelectionTypes.Selection.Merge

/-!
# `SelectionTypes.Selection.Shape`: the types of selections

The type of selections on a composite type is the union of the shapes of its object types. The
shape of an object type has one property for each response key. Fields that share a key are one
property: the first field decides its name and mark, and the sub-selections of all of them are
read together.

A fragment may spread itself below a field, and the nesting ends where the types do.
`SelectionScope.depthBound` counts the pairs of a type and a selection. With more levels than that,
a selection has come back on a type that it was already read on. `SelectionScope.typeWithin` takes
this for a recursion without end, which is a category of its own: no name is unresolved there, and
no sentence tells of it. Selections whose fragments do not spread themselves are never nested that
deep.
-/

set_option autoImplicit false

namespace SelectionTypes

open TypeScript (TypeExpr Property PropertyHead)

namespace SelectedField

/-- The fields with one response key, for each key in order of first occurrence. A group is its
first field and the later ones. -/
def groups (fields : List SelectedField) : List (SelectedField × List SelectedField) :=
  match fields with
  | [] => []
  | field :: rest =>
    (field, rest.filter fun other => other.key == field.key)
      :: groups (rest.filter fun other => other.key != field.key)
termination_by fields.length
decreasing_by
  have := List.length_filter_le (fun other : SelectedField => other.key != field.key) rest
  simp only [List.length_cons, List.unattach_filter, List.unattach_attach]
  omega

end SelectedField

/-- What selections are read against. -/
structure SelectionScope extends Scope where
  fragments : FragmentTable

namespace SelectionScope

variable (scope : SelectionScope)

/-- The name of the field that tells the type of an object. -/
def typenameField : String :=
  "__typename"

/-- The property that tells the type of an object. -/
def typenameProperty (key type : String) (optional : Bool) : Property :=
  ({ name := key, optional, readOnly := scope.settings.immutableTypes }, .typename type)

/-- The types of sub-selections on a composite type. -/
abbrev Inner := String → List Selection → Except GenerationError TypeExpr

/-- The type of the fields of a group, all of which are of one type. -/
def groupType (inner : Inner) (type : TypeRef) (fields : List SelectedField) :
    Except GenerationError TypeExpr := do
  match ← SelectedField.firstExport? scope.schema type fields with
  | some reference => return reference
  | none =>
    if scope.schema.isLeaf type.base then
      return .marked type (scope.namedRef type.base .output)
    return .marked type (← inner type.base (fields.flatMap SelectedField.selections))

/-- The property for a group of fields on an object type. -/
def property (inner : Inner) (parent : String) (group : SelectedField × List SelectedField) :
    Except GenerationError Property := do
  let (first, later) := group
  if first.head.name == typenameField then
    return scope.typenameProperty first.key parent false
  match (scope.schema.type? parent).bind fun type => type.fieldType? first.head.name with
  | none => throw (.unknownField first.head.name parent)
  | some type =>
    let expression ← scope.groupType inner type (first :: later)
    -- The first field decides, since all fields of a group are read as one.
    let optional := !type.isNonNull && !scope.settings.avoidOptionals.field
    return ({ name := first.key, optional, readOnly := scope.settings.immutableTypes }, expression)

/-- Puts the property that tells the type in front, unless the settings leave it out or a property
of that name is there. -/
def withTypename (type : String) (properties : List Property) : List Property :=
  if !scope.settings.skipTypename
      && properties.all fun (head, _) => head.name != typenameField then
    scope.typenameProperty typenameField type (!scope.settings.nonOptionalTypename) :: properties
  else properties

/-- The shape of an object type with the given fields. -/
def objectShape (inner : Inner) (type : String) (fields : List SelectedField) :
    Except GenerationError TypeExpr := do
  let properties ← (SelectedField.groups fields).mapM (scope.property inner type)
  return .object (scope.withTypename type properties)

/-- The type of selections on a composite type, with fields nested up to the bound. What is nested
deeper counts as nested without end. -/
def typeWithin : Nat → Inner
  | 0 => fun _ _ => .error .endlessNesting
  | bound + 1 => fun parent selections => do
    let flattened ← Selection.flatten scope.schema scope.fragments parent selections
    let shapes ← flattened.mapM fun (type, fields) =>
      scope.objectShape (typeWithin bound) type fields
    return .union shapes

/-- A bound on the nesting of fields: the pairs of a type and a selection, and one level more. Only
fragments that spread themselves below a field nest deeper. -/
def depthBound (selections : List Selection) : Nat :=
  let weight := scope.fragments.foldl
    (fun total loaded => total + Selection.weight loaded.fragment.selections)
    (Selection.weight selections)
  (scope.schema.types.length + 1) * weight + 1

/-- The type of selections on a composite type. -/
def typeOf : Inner := fun parent selections =>
  scope.typeWithin (scope.depthBound selections) parent selections

/-- The shape of an object type with the fields that selections select on it. -/
def shapeOf (type : String) (selections : List Selection) : Except GenerationError TypeExpr := do
  let flattened ← Selection.flatten scope.schema scope.fragments type selections
  scope.objectShape (scope.typeWithin (scope.depthBound selections)) type
    ((flattened.lookup type).getD [])

end SelectionScope

end SelectionTypes

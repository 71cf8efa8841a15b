import SelectionTypes.Export.Name

/-!
# `SelectionTypes.Export.Alias`: the aliases that exports ask for

`ExportedAlias.collect` walks over selections and gives one alias for each exported field, and for
an exported interface one more for each object type that lists it. Spreads are not followed: the
exports inside a fragment belong to the fragment. An alias is bound to a field of a type, and no
two aliases have the same binding.
-/

set_option autoImplicit false

namespace SelectionTypes

/-- An alias and what it stands for. -/
structure ExportedAlias where
  name : String
  /-- The type whose selected shape the alias stands for. -/
  type : String
  /-- The type that the field is selected on. -/
  parent : String
  /-- The exported field, with its sub-selections. -/
  field : SelectedField

namespace ExportedAlias

/-- What distinguishes an alias: its name, the field it is made for, and its type. -/
def binding (exported : ExportedAlias) : String × String × String × String :=
  (exported.name, exported.parent, exported.field.head.name, exported.type)

/-- The name of the alias for an object type of an exported interface. -/
def implementorName (name type : String) : String :=
  name ++ "_" ++ type

/-- The aliases of an exported field of a type. -/
def ofField (schema : Schema) (parent : String) (field : SelectedField) (type : String) :
    Except GenerationError (List ExportedAlias) := do
  let name ← field.head.exportName
  if schema.isLeaf type then throw (.primitiveExport type field.head.name)
  match schema.type? type with
  | none => throw (.exportOfOtherType type)
  | some found =>
    if !found.kind.isExportable then throw (.exportOfOtherType type)
    let own : ExportedAlias := ⟨name, type, parent, field⟩
    let implementors :=
      if found.kind == .interface then schema.possibleTypes found else []
    return own :: implementors.map fun concrete =>
      ⟨implementorName name concrete, concrete, parent, field⟩

/-- Adds aliases to others, unless one of them has a binding that is taken. -/
def add (found : List ExportedAlias) :
    List ExportedAlias → Except GenerationError (List ExportedAlias)
  | [] => .ok found
  | exported :: aliases =>
    if found.any fun other => other.binding == exported.binding then
      .error (.duplicateExport exported.name exported.field.head.name exported.type)
    else add (found ++ [exported]) aliases

/-- Fails if the schema has no type of a name. -/
def requireType (schema : Schema) (name : String) : Except GenerationError Unit :=
  if (schema.type? name).isSome then .ok () else .error (.unknownType name)

/-- The type of a field of a type of the schema. -/
def fieldType? (schema : Schema) (parent field : String) : Option TypeRef :=
  (schema.type? parent).bind fun type => type.fieldType? field

/-- The aliases of a field itself, added to those found before. -/
def addField (schema : Schema) (parent : String) (found : List ExportedAlias)
    (field : SelectedField) (type : String) : Except GenerationError (List ExportedAlias) :=
  if field.head.isExported then do add found (← ofField schema parent field type) else .ok found

/-- The aliases found before and those that selections on a type ask for. -/
def collectFrom (schema : Schema) (parent : String) (found : List ExportedAlias)
    (selections : List Selection) : Except GenerationError (List ExportedAlias) :=
  match selections with
  | [] => .ok found
  -- What a fragment exports is declared with the fragment.
  | .spread _ _ :: rest => collectFrom schema parent found rest
  | .inlined condition _ inner :: rest => do
    let narrowed := condition.getD parent
    requireType schema narrowed
    let found ← collectFrom schema narrowed found inner
    collectFrom schema parent found rest
  | .field head inner :: rest =>
    match fieldType? schema parent head.name with
    | none =>
      if head.isExported then .error (.unknownField head.name parent)
      else collectFrom schema parent found rest
    | some type => do
      let found ← addField schema parent found ⟨head, inner⟩ type.base
      let found ←
        -- Nothing can be selected below a leaf.
        if schema.isLeaf type.base then .ok found
        else collectFrom schema type.base found inner
      collectFrom schema parent found rest
termination_by sizeOf selections

/-- The aliases that selections on a type ask for, in order. -/
def collect (schema : Schema) (parent : String) (selections : List Selection) :
    Except GenerationError (List ExportedAlias) := do
  requireType schema parent
  collectFrom schema parent [] selections

end ExportedAlias

end SelectionTypes

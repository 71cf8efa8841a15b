import SelectionTypes.Schema.Basic
import SelectionTypes.Selection.FragmentTable

/-!
# `SelectionTypes.Selection.Distribution`: which fields are selected on which type

A value of an object type has that type. A value of an interface or a union has one of its
possible types, and what is selected on it depends on which one. `Selection.distribute` reads
selections once for all types: it gives the fields in order, each with the types it is selected on.
`Selection.flatten` arranges them by type.
-/

set_option autoImplicit false

namespace SelectionTypes

/-- A field as it is selected, with its sub-selections. -/
structure SelectedField where
  head : FieldHead
  selections : List Selection

namespace SelectedField

/-- The response key of the field. -/
def key (field : SelectedField) : String :=
  field.head.responseKey

end SelectedField

namespace Schema

/-- The object types that a value of a composite type can have, with the repetitions of the
schema. -/
def concreteTypes (schema : Schema) (name : String) : Except GenerationError (List String) :=
  match schema.type? name with
  | none => .error (.unknownType name)
  | some type =>
    if type.kind == .object then .ok [name]
    else if type.kind.isAbstract then .ok (schema.possibleTypes type)
    else .error (.notComposite name)

/-- Whether a value of an object type meets a type condition. -/
def meetsCondition (schema : Schema) (concrete condition : String) : Except GenerationError Bool :=
  if concrete == condition then .ok true
  else
    match schema.type? condition with
    | none => .error (.unknownType condition)
    | some type => .ok (schema.isSubType type concrete)

/-- The types that meet a type condition. -/
def narrow (schema : Schema) (applicable : List String) (condition : String) :
    Except GenerationError (List String) :=
  applicable.filterM fun concrete => schema.meetsCondition concrete condition

end Schema

namespace Selection

/-- The fields of selections inside the fragments `entered`, each with the types among
`applicable` that it is selected on. -/
def distributeWithin (schema : Schema) (table : FragmentTable) (entered applicable : List String)
    (selections : List Selection) :
    Except GenerationError (List (SelectedField × List String)) :=
  match selections with
  | [] => .ok []
  | .field head inner :: rest => do
    let rest ← distributeWithin schema table entered applicable rest
    return (⟨head, inner⟩, applicable) :: rest
  | .inlined none _ inner :: rest => do
    let inner ← distributeWithin schema table entered applicable inner
    let rest ← distributeWithin schema table entered applicable rest
    return inner ++ rest
  | .inlined (some condition) _ inner :: rest => do
    let narrowed ← schema.narrow applicable condition
    let inner ← distributeWithin schema table entered narrowed inner
    let rest ← distributeWithin schema table entered applicable rest
    return inner ++ rest
  | .spread name _ :: rest =>
    match _found : table.resolve entered name with
    | .error error => .error error
    | .ok loaded => do
      let narrowed ← schema.narrow applicable loaded.fragment.onType
      -- The table loses the fragment while it is entered, so a spread of itself is a cycle.
      let inner ← distributeWithin schema (table.without name) (name :: entered) narrowed
        loaded.fragment.selections
      let rest ← distributeWithin schema table entered applicable rest
      return inner ++ rest
termination_by (table.length, sizeOf selections)
decreasing_by
  all_goals first
    | exact Prod.Lex.left _ _ (FragmentTable.length_without_lt_of_resolve _found)
    | (apply Prod.Lex.right; simp; try omega)

/-- The fields of selections, each with the types among `applicable` that it is selected on. -/
def distribute (schema : Schema) (table : FragmentTable) (applicable : List String)
    (selections : List Selection) :
    Except GenerationError (List (SelectedField × List String)) :=
  distributeWithin schema table [] applicable selections

/-- The fields that are selected on a type, in order. -/
def fieldsOn (distributed : List (SelectedField × List String)) (type : String) :
    List SelectedField :=
  (distributed.filter fun entry => entry.2.contains type).map Prod.fst

/-- The fields selected on each object type that a value of the parent type can have. -/
def flatten (schema : Schema) (table : FragmentTable) (parent : String)
    (selections : List Selection) :
    Except GenerationError (List (String × List SelectedField)) := do
  -- A type that is listed twice has its fields once.
  let types := (← schema.concreteTypes parent).eraseDups
  let distributed ← distribute schema table types selections
  return types.map fun type => (type, fieldsOn distributed type)

end Selection

end SelectionTypes

import SelectionTypes.Schema.Basic
import SelectionTypes.Schema.TypeProblem

/-!
# `SelectionTypes.Schema.InputCycles`: input objects that contain themselves

A field whose type is a non-null input object puts a value of that object into every value. A cycle
of such fields has no values at all. The search starts once from each input object, enters no input
object twice, and reports the fields of each cycle that it closes.
-/

set_option autoImplicit false

namespace SelectionTypes

namespace Schema

variable (schema : Schema)

/-- The input object that every value of a field contains, if there is one. -/
def containedInput? (field : InputDefinition) : Option String :=
  match field.type with
  | .nonNull (.named name) => if schema.kind? name == some .inputObject then some name else none
  | _ => none

/-- The fields that put an input object into a type, with the names of the input objects. -/
def containedInputs (type : String) : List (String × String) :=
  ((schema.type? type).map TypeDefinition.inputFields).getD [] |>.filterMap fun field =>
    (schema.containedInput? field).map fun contained => (field.name, contained)

/-- What a search has found and where it has been. -/
structure CycleSearch where
  entered : List String
  problems : List TypeProblem

/-- Goes on from an input object, where `path` has the types and fields that lead to it. The depth
of the search is at most the number of types. -/
def searchCycles (depth : Nat) (path : List (String × String)) (search : CycleSearch)
    (type : String) : CycleSearch :=
  match depth with
  | 0 => search
  | depth + 1 =>
    if search.entered.contains type then search
    else
      (schema.containedInputs type).foldl
        (fun search (field, contained) =>
          let path := path ++ [(type, field)]
          let cycle := path.dropWhile fun step => step.1 != contained
          if cycle.isEmpty then searchCycles depth path search contained
          else
            { search with
              problems := search.problems ++ [.endlessInput contained (cycle.map Prod.snd)] })
        { search with entered := type :: search.entered }

/-- Searches from an input object that is not on any path yet. -/
def searchCyclesFrom (search : CycleSearch) (type : String) : CycleSearch :=
  schema.searchCycles (schema.types.length + 1) [] search type

end Schema

end SelectionTypes

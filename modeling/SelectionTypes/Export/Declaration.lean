import SelectionTypes.Export.Alias
import SelectionTypes.Selection.Shape
import SelectionTypes.TypeScript.Declaration

/-!
# `SelectionTypes.Export.Declaration`: the declarations of aliases

An alias for an object type declares the shape that is selected on it, and an alias for an
interface one of the aliases of its object types. When several aliases have one name, the name is
declared once, for what all of them have in common.
-/

set_option autoImplicit false

namespace SelectionTypes

open TypeScript (TypeExpr Declaration)

namespace ExportedAlias

/-- The type that an alias stands for. -/
def shape (scope : SelectionScope) (exported : ExportedAlias) : Except GenerationError TypeExpr :=
  match scope.schema.type? exported.type with
  | none => .error (.unknownType exported.type)
  | some type =>
    match type.kind with
    | .interface =>
      .ok (.aliasRefs ((scope.schema.possibleTypes type).map (implementorName exported.name)))
    | .object => scope.shapeOf exported.type exported.field.selections
    | _ => .error (.aliasOfOtherType exported.type)

/-- One declaration for each name, in order of first occurrence, with all shapes of the name. -/
def declareNamed (shapes : List (String × TypeExpr)) : List Declaration :=
  ((shapes.map Prod.fst).eraseDups).map fun name =>
    .intersection name ((shapes.filter fun entry => entry.1 == name).map Prod.snd)

/-- The declarations of aliases. -/
def declare (scope : SelectionScope) (aliases : List ExportedAlias) :
    Except GenerationError (List Declaration) := do
  let shapes ← aliases.mapM fun exported => return (exported.name, ← exported.shape scope)
  return declareNamed shapes

end ExportedAlias

end SelectionTypes

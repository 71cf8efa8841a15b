import SelectionTypes.Schema.Basic
import SelectionTypes.Selection.Distribution
import SelectionTypes.TypeScript.TypeExpr

/-!
# `SelectionTypes.Export.Name`: fields marked for export

The directive `@export` gives the type of a field a name of its own. Where such a field is
selected, its type is a reference to the name.
-/

set_option autoImplicit false

namespace SelectionTypes

open TypeScript (TypeExpr)

namespace FieldHead

/-- The export directive of a field. -/
def exportDirective? (head : FieldHead) : Option Directive :=
  Directive.find? head.directives "export"

/-- Whether a field is marked for export. -/
def isExported (head : FieldHead) : Bool :=
  head.exportDirective?.isSome

/-- The name that a field is exported under, which must be given and not be empty. -/
def exportName (head : FieldHead) : Except GenerationError String :=
  match head.exportDirective? with
  | none => .error (.missingExport head.name)
  | some directive =>
    if !directive.isReadable then .error (.hugeInteger head.name) else
    match directive.stringArgument? "exportName" with
    | none => .error (.missingExportName head.name)
    | some name => if name.isEmpty then .error (.missingExportName head.name) else .ok name

/-- The reference to the alias of an exported field of a type, or nothing for other fields. -/
def exportRef? (schema : Schema) (head : FieldHead) (type : TypeRef) :
    Except GenerationError (Option TypeExpr) :=
  if head.isExported then do
    let name ← head.exportName
    if schema.isLeaf type.base then throw (.primitiveExport type.base head.name)
    return some (.marked type (.aliasRef name))
  else .ok none

end FieldHead

namespace SelectedField

/-- The reference to the alias of the first exported field among several. -/
def firstExport? (schema : Schema) (type : TypeRef) :
    List SelectedField → Except GenerationError (Option TypeExpr)
  | [] => .ok none
  | field :: fields => do
    match ← field.head.exportRef? schema type with
    | some reference => return some reference
    | none => firstExport? schema type fields

end SelectedField

end SelectionTypes

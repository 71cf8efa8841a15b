import SelectionTypes.Naming.TypeNames

/-!
# `SelectionTypes.Selection.Error`: why no types can be generated

Every failure of a generation run is one of these causes. A cause belongs to one category. It has
one sentence, unless it is no failure that is foreseen: a value that cannot be, or a recursion that
does not end.
-/

set_option autoImplicit false

namespace SelectionTypes

/-- The categories of causes. -/
inductive ErrorCategory where
  | exportDirective
  | primitiveExport
  | duplicateExport
  | rootType
  | typeResolution
  /-- A value that cannot be made. -/
  | impossibleValue
  /-- A recursion that does not end, and so exceeds any stack. -/
  | endlessRecursion
  deriving Repr, DecidableEq

/-- Why no types can be generated. -/
inductive GenerationError where
  /-- A field without an export directive is asked for its export name. -/
  | missingExport (field : String)
  /-- The export directive of a field gives no name. -/
  | missingExportName (field : String)
  /-- An exported field has a scalar or enum type. -/
  | primitiveExport (type field : String)
  /-- An exported field has a type that is neither an object nor an interface. -/
  | exportOfOtherType (type : String)
  /-- An alias is bound to a type that is neither an object nor an interface. -/
  | aliasOfOtherType (type : String)
  /-- An export directive has an integer with too many digits among its arguments. -/
  | hugeInteger (field : String)
  /-- The same field of a type is exported twice under one name. -/
  | duplicateExport (name field type : String)
  /-- The schema has no root type for a kind of operation. -/
  | missingRoot (kind : OperationKind)
  /-- The schema has no type of the name. -/
  | unknownType (type : String)
  /-- The type has no field of the name. -/
  | unknownField (field type : String)
  /-- There is no fragment of the name. -/
  | unknownFragment (fragment : String)
  /-- A fragment spreads itself, directly or through other fragments. -/
  | fragmentCycle (fragment : String)
  /-- The type has no fields to select from. -/
  | notComposite (type : String)
  /-- The reading of nested selections does not end, as with a fragment that spreads itself below a
  field of its own type. -/
  | endlessNesting
  deriving Repr, DecidableEq

namespace GenerationError

/-- The category of a cause. -/
def category : GenerationError → ErrorCategory
  | missingExport _ | missingExportName _ | exportOfOtherType _ => .exportDirective
  | primitiveExport _ _ => .primitiveExport
  | duplicateExport _ _ _ => .duplicateExport
  | missingRoot _ => .rootType
  | hugeInteger _ => .impossibleValue
  | endlessNesting => .endlessRecursion
  | aliasOfOtherType _ | unknownType _ | unknownField _ _ | unknownFragment _
  | fragmentCycle _ | notComposite _ => .typeResolution

/-- The sentence about a type that is neither an object nor an interface. -/
def otherTypeMessage (type : String) : String :=
  "Type " ++ type ++ " is neither an object nor an interface and may not be exported"

/-- The sentence about a cause, for those that are foreseen. -/
def message? : GenerationError → Option String
  | missingExport field => some <|
    "Couldn't find export directive when trying to find the exported alias. Field name is "
      ++ field
  | missingExportName field => some <|
    "Couldn't find exportName on export directive when trying to find the exported alias. "
      ++ "Field name is " ++ field
  | primitiveExport type field =>
    some ("Type " ++ type ++ " is a primitive and may not be exported! Field name is " ++ field)
  | exportOfOtherType type | aliasOfOtherType type => some (otherTypeMessage type)
  | duplicateExport name field type => some <|
    "Already set an export marked type name " ++ name ++ " for field " ++ field ++ " on " ++ type
  | missingRoot kind =>
    some ("Unable to find root schema type for operation type \"" ++ kind.keyword ++ "\"!")
  | unknownType type => some ("Could not find type " ++ type ++ " in the schema")
  | unknownField field type => some ("Could not find field " ++ field ++ " on type " ++ type)
  | unknownFragment fragment => some ("Could not find fragment " ++ fragment)
  | fragmentCycle fragment => some ("Fragment " ++ fragment ++ " spreads itself")
  | notComposite type => some ("Type " ++ type ++ " has no fields to select from")
  | hugeInteger _ | endlessNesting => none

end GenerationError

end SelectionTypes

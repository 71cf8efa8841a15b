import SelectionTypes.Naming.CaseStyle

/-!
# `SelectionTypes.Settings.Basic`: the options of a generation run

`Settings` holds every option, and the default of each field is the option's value when it is not
given.
-/

set_option autoImplicit false

namespace SelectionTypes

/-- The type texts of a scalar as an argument and as a result. -/
structure ScalarTypes where
  input : String
  output : String
  deriving Repr, DecidableEq

namespace ScalarTypes

/-- The same text on both sides. -/
def both (text : String) : ScalarTypes :=
  ⟨text, text⟩

end ScalarTypes

/-- The places where a nullable property is still written without the optional mark. -/
structure AvoidOptionals where
  field : Bool := false
  object : Bool := false
  inputValue : Bool := false
  deriving Repr, DecidableEq

/-- Types that a module imports by name from one path. -/
structure TypeImport where
  path : String
  identifiers : List String
  deriving Repr, DecidableEq

/-- The options of a generation run. -/
structure Settings where
  /-- Properties are read-only, and lists as well. -/
  immutableTypes : Bool := false
  avoidOptionals : AvoidOptionals := {}
  /-- Enum names take the types prefix. -/
  enumPrefix : Bool := true
  /-- Enum names take the types suffix. -/
  enumSuffix : Bool := true
  typesPrefix : String := ""
  typesSuffix : String := ""
  /-- The name under which a module imports the global types. -/
  namespacedImportName : String := "Types"
  /-- The path of the global types. -/
  baseTypesPath : Option String := none
  /-- Fragments are inlined into the operations. -/
  flattenGeneratedTypes : Bool := false
  /-- Type texts of scalars, with distinct names. -/
  scalars : List (String × ScalarTypes) := []
  namingConvention : CaseStyle := .pascal
  /-- A name is converted as a whole, underscores included. -/
  transformUnderscore : Bool := false
  /-- No `__typename` property is added. -/
  skipTypename : Bool := false
  /-- An added `__typename` property is required. -/
  nonOptionalTypename : Bool := false
  /-- A suffix that a name already ends in is not added again. -/
  dedupeOperationSuffix : Bool := false
  /-- Operation and fragment types take no suffix. -/
  omitOperationSuffix : Bool := false
  fragmentImports : List TypeImport := []
  deriving Repr, DecidableEq

end SelectionTypes

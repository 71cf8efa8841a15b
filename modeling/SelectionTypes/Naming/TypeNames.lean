import SelectionTypes.Settings.Basic
import SelectionTypes.Text.Parts

/-!
# `SelectionTypes.Naming.TypeNames`: names of generated types

A name is converted to the style of the settings. Underscores stay where they are, and the parts
between them are converted one by one, unless the settings let the style treat them.
-/

set_option autoImplicit false

namespace SelectionTypes

/-- The kinds of operations. -/
inductive OperationKind where
  | query
  | mutation
  | subscription
  deriving Repr, DecidableEq

namespace OperationKind

/-- The word that opens an operation of the kind. -/
def keyword : OperationKind → String
  | query => "query"
  | mutation => "mutation"
  | subscription => "subscription"

/-- The kind that a word opens. -/
def ofKeyword? : String → Option OperationKind
  | "query" => some query
  | "mutation" => some mutation
  | "subscription" => some subscription
  | _ => none

/-- What the type name of an operation ends in. -/
def suffix : OperationKind → String
  | query => "Query"
  | mutation => "Mutation"
  | subscription => "Subscription"

end OperationKind

namespace Settings

/-- A name in the style of the settings. -/
def identifier (settings : Settings) (name : String) : String :=
  if settings.transformUnderscore then settings.namingConvention.convert name
  else
    "_".intercalate
      ((Text.partsBetween '_' name.toList).map fun part =>
        settings.namingConvention.convert (String.ofList part))

/-- The name of a generated type, with the chosen ends of the settings. -/
def typeNameWith (settings : Settings) (withPrefix withSuffix : Bool) (name : String) : String :=
  (if withPrefix then settings.typesPrefix else "") ++ settings.identifier name
    ++ (if withSuffix then settings.typesSuffix else "")

/-- The name of a generated type. -/
def typeName (settings : Settings) (name : String) : String :=
  settings.typeNameWith true true name

/-- The name of a generated enum. -/
def enumName (settings : Settings) (name : String) : String :=
  settings.typeNameWith settings.enumPrefix settings.enumSuffix name

/-- The type name of a definition whose kind has a suffix of its own. -/
def suffixedName (settings : Settings) (suffix name : String) : String :=
  let repeated := settings.dedupeOperationSuffix && suffix.toList.isSuffixOf name.toList
  settings.typeName name
    ++ (if settings.omitOperationSuffix || repeated then "" else suffix)

/-- The name of the type of a fragment. -/
def fragmentTypeName (settings : Settings) (name : String) : String :=
  settings.suffixedName "Fragment" name

/-- The name of the type of an operation. -/
def operationTypeName (settings : Settings) (kind : OperationKind) (name : String) : String :=
  settings.suffixedName kind.suffix name

end Settings

end SelectionTypes

import SelectionTypes.Document.Basic

/-!
# `SelectionTypes.Schema.TypeProblem`: what is wrong with the types of a schema

A schema that can be built may still break the rules of its type system. `TypeProblem` says how,
and `TypeProblem.message` in words.
-/

set_option autoImplicit false

namespace SelectionTypes

/-- An argument of a field or of a directive, or a field of an input object. -/
inductive InputPlace where
  | fieldArgument (type field argument : String)
  | directiveArgument (directive argument : String)
  | inputField (type field : String)
  deriving Repr, DecidableEq

namespace InputPlace

/-- The words for a place. -/
def words : InputPlace → String
  | fieldArgument type field argument =>
    "argument " ++ type ++ "." ++ field ++ "(" ++ argument ++ ":)"
  | directiveArgument directive argument => "argument @" ++ directive ++ "(" ++ argument ++ ":)"
  | inputField type field => "input field " ++ type ++ "." ++ field

end InputPlace

/-- A broken rule of the type system. -/
inductive TypeProblem where
  | noQueryRoot
  | rootKind (kind : OperationKind) (type : String)
  | reservedName (name : String)
  | requiredButDeprecated (place : InputPlace)
  | noFields (type : String)
  | noInputFields (type : String)
  | noMembers (type : String)
  | noValues (type : String)
  | repeatedMember (type member : String)
  | implementsItself (type : String)
  | repeatedInterface (type interface : String)
  | circularInterface (type interface : String)
  | missingInterface (type ancestor interface : String)
  | missingField (type interface field : String)
  | fieldType (type interface field : String) (found expected : TypeRef)
  | missingArgument (type interface field argument : String)
  | argumentType (type interface field argument : String) (found expected : TypeRef)
  | extraRequiredArgument (type interface field argument : String)
  | oneOfNonNull (type field : String)
  | oneOfDefault (type field : String)
  /-- An input object that contains itself through the fields of a path. -/
  | endlessInput (type : String) (path : List String)
  deriving Repr, DecidableEq

namespace TypeProblem

/-- The sentence about a broken rule. -/
def message : TypeProblem → String
  | noQueryRoot => "Query root type must be provided."
  | rootKind kind type =>
    kind.suffix ++ " root type must be Object type"
      ++ (if kind == .query then "" else " if provided") ++ ", it cannot be " ++ type ++ "."
  | reservedName name =>
    "Name '" ++ name ++ "' must not begin with '__', which is reserved by GraphQL introspection."
  | requiredButDeprecated place => "Required " ++ place.words ++ " cannot be deprecated."
  | noFields type => "Type " ++ type ++ " must define one or more fields."
  | noInputFields type => "Input Object type " ++ type ++ " must define one or more fields."
  | noMembers type => "Union type " ++ type ++ " must define one or more member types."
  | noValues type => "Enum type " ++ type ++ " must define one or more values."
  | repeatedMember type member =>
    "Union type " ++ type ++ " can only include type " ++ member ++ " once."
  | implementsItself type =>
    "Type " ++ type ++ " cannot implement itself because it would create a circular reference."
  | repeatedInterface type interface =>
    "Type " ++ type ++ " can only implement " ++ interface ++ " once."
  | circularInterface type interface =>
    "Type " ++ type ++ " cannot implement " ++ interface
      ++ " because it would create a circular reference."
  | missingInterface type ancestor interface =>
    "Type " ++ type ++ " must implement " ++ ancestor ++ " because it is implemented by "
      ++ interface ++ "."
  | missingField type interface field =>
    "Interface field " ++ interface ++ "." ++ field ++ " expected but " ++ type
      ++ " does not provide it."
  | fieldType type interface field found expected =>
    "Interface field " ++ interface ++ "." ++ field ++ " expects type " ++ expected.text
      ++ " but " ++ type ++ "." ++ field ++ " is type " ++ found.text ++ "."
  | missingArgument type interface field argument =>
    "Interface field argument " ++ interface ++ "." ++ field ++ "(" ++ argument
      ++ ":) expected but " ++ type ++ "." ++ field ++ " does not provide it."
  | argumentType type interface field argument found expected =>
    "Interface field argument " ++ interface ++ "." ++ field ++ "(" ++ argument
      ++ ":) expects type " ++ expected.text ++ " but " ++ type ++ "." ++ field ++ "(" ++ argument
      ++ ":) is type " ++ found.text ++ "."
  | extraRequiredArgument type interface field argument =>
    "Object field " ++ type ++ "." ++ field ++ " includes required argument " ++ argument
      ++ " that is missing from the Interface field " ++ interface ++ "." ++ field ++ "."
  | oneOfNonNull type field => "OneOf input field " ++ type ++ "." ++ field ++ " must be nullable."
  | oneOfDefault type field =>
    "OneOf input field " ++ type ++ "." ++ field ++ " cannot have a default value."
  | endlessInput type path =>
    "Cannot reference Input Object '" ++ type
      ++ "' within itself through a series of non-null fields: '" ++ ".".intercalate path ++ "'."

/-- The line that lists a broken rule among others. -/
def line (problem : TypeProblem) : String :=
  "  - " ++ problem.message

end TypeProblem

end SelectionTypes

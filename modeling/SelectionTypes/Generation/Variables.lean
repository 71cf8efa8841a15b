import SelectionTypes.Generation.References
import SelectionTypes.TypeScript.Declaration

/-!
# `SelectionTypes.Generation.Variables`: the types of variables

The variables of an operation are the properties of an object type. A variable that can be null or
has a default value is optional. An operation without variables has a type with no properties.
-/

set_option autoImplicit false

namespace SelectionTypes

open TypeScript (TypeExpr Declaration Property)

namespace Scope

variable (scope : Scope)

/-- The property for a variable. -/
def variableProperty (declared : VariableDefinition) : Property :=
  let optional := (!declared.type.isNonNull || declared.defaultValue.isSome)
    && !scope.settings.avoidOptionals.object
  ({ name := declared.name, optional, readOnly := scope.settings.immutableTypes },
    .marked declared.type (scope.variableRef declared.type.base))

/-- The properties for variables. -/
def variableProperties (declared : List VariableDefinition) : List Property :=
  declared.map scope.variableProperty

/-- The type of an object without properties. -/
def noProperties : TypeExpr :=
  .text "\x7b [key: string]: never \x7d"

/-- The declaration of the type of variables. -/
def variablesDeclaration (name : String) (declared : List VariableDefinition) : Declaration :=
  if declared.isEmpty then .typeAlias name noProperties
  else .object name none (scope.variableProperties declared)

end Scope

end SelectionTypes

import SelectionTypes.Document.Directives
import SelectionTypes.Schema.InputCycles
import SelectionTypes.Schema.Introspection
import SelectionTypes.Schema.Resolution

/-!
# `SelectionTypes.Schema.TypeRules`: the rules of the type system

`Schema.typeProblems` gives all broken rules: those of the root types first, then those of the
directives, and then those of the types in their order.
-/

set_option autoImplicit false

namespace SelectionTypes

/-- Whether a part of a schema is marked as deprecated, with a reason that is not null. -/
def isDeprecated (directives : List Directive) : Bool :=
  match Directive.find? directives "deprecated" with
  | none => false
  | some directive => !(directive.argumentTable.lookup "reason").any fun value => value == .null

namespace TypeProblem

/-- A name that begins with two underscores. -/
def ofName (name : String) : List TypeProblem :=
  if isIntrospectionName name then [.reservedName name] else []

end TypeProblem

namespace Schema

variable (schema : Schema)

/-- The broken rules of the root types. -/
def rootProblems : List TypeProblem :=
  let ofKind (kind : OperationKind) (missing : List TypeProblem) : List TypeProblem :=
    match schema.root? kind with
    | none => missing
    | some root => if schema.kind? root == some .object then [] else [.rootKind kind root]
  ofKind .query [.noQueryRoot] ++ ofKind .mutation [] ++ ofKind .subscription []

/-- Whether an argument or input field must be given. -/
def isRequired (input : InputDefinition) : Bool :=
  input.type.isNonNull && (schema.default? input).isNone

/-- The broken rules of an argument or input field. -/
def inputProblems (place : InputPlace) (input : InputDefinition) : List TypeProblem :=
  TypeProblem.ofName input.name
    ++ if schema.isRequired input && isDeprecated input.directives then
        [.requiredButDeprecated place]
      else []

/-- The broken rules of a directive. -/
def directiveProblems (directive : DirectiveDefinition) : List TypeProblem :=
  TypeProblem.ofName directive.name
    ++ directive.arguments.flatMap fun argument =>
      schema.inputProblems (.directiveArgument directive.name argument.name) argument

/-- The broken rules of a field. -/
def fieldProblems (type : String) (field : FieldDefinition) : List TypeProblem :=
  TypeProblem.ofName field.name
    ++ field.arguments.flatMap fun argument =>
      schema.inputProblems (.fieldArgument type field.name argument.name) argument

/-- Whether every value of the first type is one of the second. -/
def isNarrower : TypeRef → TypeRef → Bool
  | .nonNull found, .nonNull expected => isNarrower found expected
  | _, .nonNull _ => false
  | .nonNull found, expected => isNarrower found expected
  | .list found, .list expected => isNarrower found expected
  | .list _, _ => false
  | _, .list _ => false
  | .named found, .named expected =>
    found == expected
      || (schema.type? expected).any fun type => schema.isSubType type found

/-- The broken rules of the arguments of a field against those of an interface. -/
def argumentProblems (type interface : String) (found expected : FieldDefinition) :
    List TypeProblem :=
  let field := expected.name
  let wanted := expected.arguments.flatMap fun argument =>
    match found.arguments.find? fun other => other.name == argument.name with
    | none => [TypeProblem.missingArgument type interface field argument.name]
    | some other =>
      if argument.type == other.type then []
      else [.argumentType type interface field argument.name other.type argument.type]
  -- Who goes by the interface does not know these arguments, so none of them may be required.
  let extra := (found.arguments.filter fun argument =>
    !(expected.arguments.any fun other => other.name == argument.name)
      && schema.isRequired argument)
  wanted ++ extra.map fun argument =>
    .extraRequiredArgument type interface field argument.name

/-- The broken rules of the fields of a type against those of an interface. -/
def implementationProblems (type interface : TypeDefinition) : List TypeProblem :=
  interface.fields.flatMap fun expected =>
    match type.fields.find? fun field => field.name == expected.name with
    | none => [.missingField type.name interface.name expected.name]
    | some found =>
      (if schema.isNarrower found.type expected.type then []
        else
          [.fieldType type.name interface.name expected.name found.type expected.type])
        ++ schema.argumentProblems type.name interface.name found expected

/-- The interfaces of an interface that a type does not list. -/
def ancestorProblems (type interface : TypeDefinition) : List TypeProblem :=
  (interface.interfaces.filter fun ancestor => !type.interfaces.contains ancestor).map
    fun ancestor =>
      if ancestor == type.name then .circularInterface type.name interface.name
      else .missingInterface type.name ancestor interface.name

/-- The broken rules of the interfaces that a type lists, where `seen` are those before. -/
def interfaceProblems (type : TypeDefinition) (seen : List String) :
    List String → List TypeProblem
  | [] => []
  | name :: names =>
    let itself := if name == type.name then [.implementsItself type.name] else []
    if seen.contains name then
      -- The fields were compared where the interface was listed first.
      itself ++ .repeatedInterface type.name name :: interfaceProblems type seen names
    else
      let own := match schema.type? name with
        | some interface =>
          ancestorProblems type interface ++ schema.implementationProblems type interface
        | none => []
      itself ++ own ++ interfaceProblems type (name :: seen) names

/-- The members that a union lists again. -/
def memberProblems (type : String) (seen : List String) : List String → List TypeProblem
  | [] => []
  | member :: members =>
    if seen.contains member then .repeatedMember type member :: memberProblems type seen members
    else memberProblems type (member :: seen) members

/-- The broken rules of an input field of a type, which may be one where exactly one field is
given. -/
def inputFieldProblems (type : TypeDefinition) (field : InputDefinition) : List TypeProblem :=
  schema.inputProblems (.inputField type.name field.name) field
    ++ if type.isOneOf then
        (if field.type.isNonNull then [.oneOfNonNull type.name field.name] else [])
          ++ if (schema.default? field).isSome then [.oneOfDefault type.name field.name] else []
      else []

/-- A problem if a list of parts is empty. -/
def ifEmpty {α : Type} (parts : List α) (problem : TypeProblem) : List TypeProblem :=
  if parts.isEmpty then [problem] else []

/-- The broken rules inside a type, apart from its name and from cycles. -/
def bodyProblems (type : TypeDefinition) : List TypeProblem :=
  match type.body with
  | .scalar => []
  | .object interfaces fields | .interface interfaces fields =>
    ifEmpty fields (.noFields type.name)
      ++ fields.flatMap (schema.fieldProblems type.name)
      ++ schema.interfaceProblems type [] interfaces
  | .union members =>
    ifEmpty members (.noMembers type.name) ++ memberProblems type.name [] members
  | .enum values =>
    ifEmpty values (.noValues type.name)
      ++ values.flatMap fun value => TypeProblem.ofName value.name
  | .inputObject fields =>
    ifEmpty fields (.noInputFields type.name)
      ++ fields.flatMap (schema.inputFieldProblems type)

/-- The broken rules of the name of a type. The types of introspection may have their names. -/
def nameProblems (type : TypeDefinition) : List TypeProblem :=
  if (builtIn? type.name).isSome then [] else TypeProblem.ofName type.name

/-- A search for cycles with the broken rules of one more type. -/
def addTypeProblems (search : CycleSearch) (type : TypeDefinition) : CycleSearch :=
  let own := nameProblems type ++ schema.bodyProblems type
  let search := { search with problems := search.problems ++ own }
  if type.kind == .inputObject then schema.searchCyclesFrom search type.name else search

/-- All broken rules of a schema. -/
def typeProblems : List TypeProblem :=
  let before := schema.rootProblems ++ schema.directives.flatMap schema.directiveProblems
  (schema.types.foldl schema.addTypeProblems ⟨[], before⟩).problems

end Schema

end SelectionTypes

import SelectionTypes.Schema.ArgumentProblem
import SelectionTypes.Schema.Basic
import SelectionTypes.Schema.Constant

/-!
# `SelectionTypes.Schema.Resolution`: parts of a schema that cannot be resolved

Arguments and input fields take input types, fields have output types, a type implements
interfaces, and the members of a union are objects. `Schema.resolutionProblem?` gives the first
part of a schema with a type of another kind or with an unusable argument of a standard directive.

Scalars and the members of enums are looked at first, then the arguments of directives, and then
the types in the order of definition. The default value of an argument or input field is read
against its type before the kind of that type is looked at. To read an object value the fields of
its type are needed, so a problem in them comes up there already, as a part of the problem of the
type that holds the default value.
-/

set_option autoImplicit false

namespace SelectionTypes

/-- Why a part of a schema cannot be resolved. -/
inductive ResolutionProblem where
  | argument
  | inputField
  | outputField
  | defaultValue (type : TypeRef)
  /-- An unusable argument of a standard directive. -/
  | directive (problem : ArgumentProblem)
  | fieldsOf (type : String) (cause : ResolutionProblem)
  | interfacesOf (type : String)
  | membersOf (type : String)
  deriving Repr, DecidableEq

namespace ResolutionProblem

/-- The sentence about a problem as the cause of another one, given the text of the schema. -/
def cause (text : String) : ResolutionProblem → String
  | argument => "Argument type must be a GraphQL input type."
  | inputField => "Input field type must be a GraphQL input type."
  | outputField => "Field type must be an output type."
  | defaultValue type => "Unexpected input type: " ++ type.text ++ "."
  | directive problem => problem.messageWithin text
  | fieldsOf type problem => type ++ " fields cannot be resolved. " ++ problem.cause text
  | interfacesOf type =>
    type ++ " interfaces must be specified as a collection of GraphQLInterfaceType instances."
  | membersOf type =>
    type ++ " types must be specified as a collection of GraphQLObjectType instances."

/-- The sentence about a problem, given the text of the schema. -/
def message (text : String) : ResolutionProblem → String
  | directive problem => problem.message
  | problem => problem.cause text

/-- The argument of a directive that a problem goes back to. -/
def argument? : ResolutionProblem → Option ArgumentProblem
  | directive problem => some problem
  | fieldsOf _ cause => cause.argument?
  | _ => none

/-- The place of a problem that is no part of another one, if it is known. -/
def place? : ResolutionProblem → Option Place
  | directive problem => some problem.place
  | _ => none

end ResolutionProblem

namespace Value

mutual

/-- The number of parts of a value. -/
def weight : Value → Nat
  | .list items => weights items + 1
  | .object fields => fieldWeights fields + 1
  | _ => 1

/-- The number of parts of a list of values. -/
def weights : List Value → Nat
  | [] => 0
  | item :: items => weight item + weights items

/-- The number of parts of the fields of an object. -/
def fieldWeights : List (String × Value) → Nat
  | [] => 0
  | (_, item) :: fields => weight item + fieldWeights fields

end

end Value

namespace TypeRef

/-- The number of marks of a type reference, and one for its name. -/
def weight : TypeRef → Nat
  | named _ => 1
  | list of => of.weight + 1
  | nonNull of => of.weight + 1

end TypeRef

namespace TypeDefinition

/-- Whether exactly one field of the input object is given. -/
def isOneOf (type : TypeDefinition) : Bool :=
  type.directives.any fun directive => directive.name == "oneOf"

/-- All argument definitions and input fields of a type. -/
def inputs (type : TypeDefinition) : List InputDefinition :=
  type.inputFields ++ type.fields.flatMap FieldDefinition.arguments

end TypeDefinition

namespace Schema

variable (schema : Schema)

/-- A bound on the nesting of default values: each is entered once at most on a path, unless types
contain themselves in their default values. -/
def defaultBound : Nat :=
  (schema.types.flatMap TypeDefinition.inputs).foldl
    (fun bound input =>
      bound + input.type.weight + (input.defaultValue.map Value.weight).getD 0 + 2)
    16

/-- The integers of the built-in scalar. -/
def isIntConstant (number : Int) : Bool :=
  -2147483648 ≤ number && number ≤ 2147483647

/-- The constant that a literal stands for as a scalar. A scalar that is not built in takes every
literal. -/
def scalarConstant? (name : String) (value : Value) : Option Constant :=
  match name, value with
  | "Int", .int digits => (digits.toInt?.filter isIntConstant).map .integer
  | "Float", .int text | "Float", .float text => some (.float (Decimal.number text.toList))
  | "String", .string content _ => some (.text content)
  | "Boolean", .boolean value => some (.boolean value)
  | "ID", .string content _ | "ID", .int content => some (.text content)
  | "Int", _ | "Float", _ | "String", _ | "Boolean", _ | "ID", _ => none
  | _, value => some value.constant

/-- An object of which exactly one field is given, and is not null. -/
def isSingle : List (String × Constant) → Bool
  | [(_, value)] => value != .null
  | _ => false

mutual

/-- The constant that a literal stands for as a value of a type, with nesting up to the bound. -/
def constant? (bound : Nat) (value : Value) (type : TypeRef) :
    Except ResolutionProblem (Option Constant) :=
  match bound with
  | 0 => .ok (some .null)
  | bound + 1 =>
    match type, value with
    | .nonNull _, .null => .ok none
    | .nonNull of, _ => constant? bound value of
    | _, .null => .ok (some .null)
    | .list of, .list items => return (← constants? bound items of).map .list
    | .list of, _ => return (← constant? bound value of).map fun item => .list [item]
    | .named name, _ =>
      match schema.type? name with
      | none => .ok none
      | some found =>
        match found.body, value with
        | .scalar, _ => .ok (scalarConstant? name value)
        | .enum values, .enum given =>
          .ok (if values.any fun member => member.name == given then some (.text given) else none)
        | .enum _, _ => .ok none
        | .inputObject fields, .object given =>
          match inputProblem bound fields with
          | some cause => .error (.fieldsOf name cause)
          | none => do
            let found := (← fieldConstants? bound given fields).filter fun constants =>
              !found.isOneOf || isSingle constants
            return found.map .object
        | .inputObject _, _ => .ok none
        | _, _ => .error (.defaultValue type)

/-- The constants that literals stand for as values of a type. -/
def constants? (bound : Nat) (values : List Value) (type : TypeRef) :
    Except ResolutionProblem (Option (List Constant)) :=
  match bound with
  | 0 => .ok (some [])
  | bound + 1 =>
    match values with
    | [] => .ok (some [])
    | value :: values => do
      match ← constant? bound value type with
      | none => return none
      | some first => return (← constants? bound values type).map (first :: ·)

/-- The constants that the given fields stand for as those of an input object, with the default
values of the others. -/
def fieldConstants? (bound : Nat) (given : List (String × Value)) (fields : List InputDefinition) :
    Except ResolutionProblem (Option (List (String × Constant))) :=
  match bound with
  | 0 => .ok (some [])
  | bound + 1 =>
    match fields with
    | [] => .ok (some [])
    | field :: fields => do
      let goOn (value : Constant) : Except ResolutionProblem (Option (List (String × Constant))) :=
        return (← fieldConstants? bound given fields).map ((field.name, value) :: ·)
      match given.lookup field.name with
      | some value =>
        match ← constant? bound value field.type with
        | none => return none
        | some value => goOn value
      | none =>
        match ← defaultConstant? bound field with
        | some value => goOn value
        | none => if field.type.isNonNull then return none else fieldConstants? bound given fields

/-- The constant that the default value of an argument or input field stands for. -/
def defaultConstant? (bound : Nat) (input : InputDefinition) :
    Except ResolutionProblem (Option Constant) :=
  match bound with
  | 0 => .ok none
  | bound + 1 =>
    match input.defaultValue with
    | some value => constant? bound value input.type
    | none => .ok none

/-- The first problem among input fields. -/
def inputProblem (bound : Nat) (fields : List InputDefinition) : Option ResolutionProblem :=
  match bound with
  | 0 => none
  | bound + 1 =>
    match fields with
    | [] => none
    | field :: fields =>
      match inputDefinitionProblem bound .inputField field with
      | some problem => some problem
      | none => inputProblem bound fields

/-- The problem of an argument definition or input field. -/
def inputDefinitionProblem (bound : Nat) (problem : ResolutionProblem) (input : InputDefinition) :
    Option ResolutionProblem :=
  match bound with
  | 0 => none
  | bound + 1 =>
    match defaultConstant? bound input, Directive.deprecationProblem? input.directives with
    | .error cause, _ => some cause
    | .ok _, some cause => some (.directive cause)
    | .ok _, none =>
      if (schema.kind? input.type.base).any TypeKind.isInput then none else some problem

end

/-- The constant that the default value of an argument or input field stands for, if it has one of
its type. -/
def default? (input : InputDefinition) : Option Constant :=
  match schema.defaultConstant? schema.defaultBound input with
  | .ok found => found
  | .error _ => none

/-- The first problem among argument definitions. -/
def argumentProblem (arguments : List InputDefinition) : Option ResolutionProblem :=
  arguments.findSome? (schema.inputDefinitionProblem schema.defaultBound .argument)

/-- The problem of a field. -/
def fieldProblem (field : FieldDefinition) : Option ResolutionProblem :=
  match schema.argumentProblem field.arguments, Directive.deprecationProblem? field.directives with
  | some problem, _ => some problem
  | none, some cause => some (.directive cause)
  | none, none =>
    if (schema.kind? field.type.base).any TypeKind.isOutput then none else some .outputField

/-- The problem of a directive on a scalar or on a member of an enum. -/
def leafProblem (type : TypeDefinition) : Option ResolutionProblem :=
  let found := match type.body with
    | .scalar => Directive.specificationProblem? type.directives
    | .enum values =>
      (values.map EnumValueDefinition.directives).findSome? Directive.deprecationProblem?
    | _ => none
  found.map .directive

/-- The first problem of a type. -/
def typeProblem (type : TypeDefinition) : Option ResolutionProblem :=
  match type.body with
  | .scalar | .enum _ => none
  | .union members =>
    if members.all fun name => schema.kind? name == some .object then none
    else some (.membersOf type.name)
  | .object interfaces fields | .interface interfaces fields =>
    if interfaces.all fun name => schema.kind? name == some .interface then
      (fields.findSome? schema.fieldProblem).map (.fieldsOf type.name)
    else some (.interfacesOf type.name)
  | .inputObject fields =>
    (schema.inputProblem schema.defaultBound fields).map (.fieldsOf type.name)

/-- The first part that cannot be resolved. -/
def resolutionProblem? : Option ResolutionProblem :=
  match schema.types.findSome? leafProblem with
  | some problem => some problem
  | none =>
    match schema.argumentProblem (schema.directives.flatMap DirectiveDefinition.arguments) with
    | some problem => some problem
    | none => schema.types.findSome? schema.typeProblem

end Schema

end SelectionTypes

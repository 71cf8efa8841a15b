import SelectionTypes.Document.Directives
import SelectionTypes.Schema.Introspection
import SelectionTypes.Schema.Suggestion

/-!
# `SelectionTypes.Schema.DefinitionRules`: rules that a schema document must keep

`Document.definitionProblems` walks over a document in the order of its text and gives everything
that keeps it from describing a schema: names defined twice, names that are not defined, and
directives in the wrong place or with the wrong arguments. Operations and fragments in the document
are walked over as well. Where several rules apply to one part, they apply in a fixed order, and
missing arguments of a directive come behind the problems inside its arguments.
-/

set_option autoImplicit false

namespace SelectionTypes

namespace TypeKind

/-- The words for a kind of type. -/
def words : TypeKind → String
  | scalar => "scalar"
  | object => "object"
  | interface => "interface"
  | union => "union"
  | enum => "enum"
  | inputObject => "input object"

end TypeKind

/-- What keeps a document from describing a schema. -/
inductive DefinitionProblem where
  | repeatedSchema
  | repeatedRoot (kind : OperationKind)
  | repeatedType (name : String)
  | repeatedEnumValue (type value : String)
  | repeatedField (type field : String)
  | repeatedArgumentDefinition (owner argument : String)
  | repeatedDirectiveDefinition (name : String)
  | unknownType (name : String) (suggestions : List String)
  | unknownDirective (name : String)
  | misplacedDirective (name location : String)
  | repeatedDirective (name : String)
  | extendedOtherKind (kind : TypeKind) (name : String)
  | extendedUnknownType (name : String) (suggestions : List String)
  | unknownArgument (argument directive : String) (suggestions : List String)
  | repeatedArgument (name : String)
  | repeatedInputField (name : String)
  | missingArgument (directive argument : String) (type : TypeRef)
  deriving Repr, DecidableEq

namespace DefinitionProblem

/-- The words for a place of directives. -/
def locationWords (location : String) : String :=
  location.map fun c => if c == '_' then ' ' else c.toLower

/-- The sentence about a problem. -/
def message : DefinitionProblem → String
  | repeatedSchema => "Must provide only one schema definition."
  | repeatedRoot kind => "There can be only one " ++ kind.keyword ++ " type in schema."
  | repeatedType name => "There can be only one type named '" ++ name ++ "'."
  | repeatedEnumValue type value =>
    "Enum value '" ++ type ++ "." ++ value ++ "' can only be defined once."
  | repeatedField type field =>
    "Field '" ++ type ++ "." ++ field ++ "' can only be defined once."
  | repeatedArgumentDefinition owner argument =>
    "Argument '" ++ owner ++ "(" ++ argument ++ ":)' can only be defined once."
  | repeatedDirectiveDefinition name =>
    "There can be only one directive named '@" ++ name ++ "'."
  | unknownType name suggestions =>
    "Unknown type '" ++ name ++ "'." ++ Suggestion.question suggestions
  | unknownDirective name => "Unknown directive '@" ++ name ++ "'."
  | misplacedDirective name location =>
    "Directive '@" ++ name ++ "' may not be used on " ++ locationWords location ++ "."
  | repeatedDirective name =>
    "The directive '@" ++ name ++ "' can only be used once at this location."
  | extendedOtherKind kind name =>
    "Cannot extend non-" ++ kind.words ++ " type '" ++ name ++ "'."
  | extendedUnknownType name suggestions =>
    "Cannot extend type '" ++ name ++ "' because it is not defined."
      ++ Suggestion.question suggestions
  | unknownArgument argument directive suggestions =>
    "Unknown argument '" ++ argument ++ "' on directive '@" ++ directive ++ "'."
      ++ Suggestion.question suggestions
  | repeatedArgument name => "There can be only one argument named '" ++ name ++ "'."
  | repeatedInputField name => "There can be only one input field named '" ++ name ++ "'."
  | missingArgument directive argument type =>
    "Directive '@" ++ directive ++ "' argument '" ++ argument ++ "' of type '" ++ type.text
      ++ "' is required, but it was not provided."

end DefinitionProblem

/-- What may occur once in a document. -/
inductive DefinitionMark where
  | schema
  | root (kind : OperationKind)
  | type (name : String)
  | enumValue (type value : String)
  | field (type field : String)
  | directiveDefinition (name : String)
  | schemaDirective (name : String)
  | typeDirective (type name : String)
  deriving Repr, DecidableEq

/-- What a walk has met and the problems it has found, the latest ones first. -/
structure DefinitionFindings where
  marks : List DefinitionMark := []
  problems : List DefinitionProblem := []

/-- A walk over a part of a document. -/
abbrev DefinitionWalk := StateM DefinitionFindings Unit

namespace DefinitionWalk

/-- Adds a problem. -/
def report (problem : DefinitionProblem) : DefinitionWalk :=
  modify fun findings => { findings with problems := problem :: findings.problems }

/-- Adds a problem if a condition holds. -/
def reportIf (condition : Bool) (problem : DefinitionProblem) : DefinitionWalk :=
  if condition then report problem else pure ()

/-- Meets something that may occur once. -/
def once (mark : DefinitionMark) (problem : DefinitionProblem) : DefinitionWalk := do
  if (← get).marks.contains mark then report problem
  else modify fun findings => { findings with marks := mark :: findings.marks }

/-- The names that occur several times, in order of first occurrence. -/
def repeated (names : List String) : List String :=
  names.eraseDups.filter fun name => names.count name > 1

end DefinitionWalk

/-- What the rules know about a document before the walk. -/
structure DefinitionContext where
  /-- The type definitions, in order. -/
  types : List TypeDefinition
  /-- The directive definitions, the standard ones first. -/
  directives : List DirectiveDefinition

namespace DefinitionContext

open DefinitionWalk

variable (context : DefinitionContext)

/-- The context of a document. -/
def ofDocument (document : Document) : DefinitionContext where
  types := document.definitions.filterMap fun definition =>
    match definition with
    | .type type => some type
    | _ => none
  directives := Schema.standardDirectives ++ document.definitions.filterMap fun definition =>
    match definition with
    | .directive directive => some directive
    | _ => none

/-- The names of the defined types, in order. -/
def typeNames : List String :=
  context.types.map TypeDefinition.name

/-- The last definition of a type. -/
def type? (name : String) : Option TypeDefinition :=
  context.types.findRev? fun type => type.name == name

/-- The last definition of a directive. -/
def directive? (name : String) : Option DirectiveDefinition :=
  context.directives.findRev? fun directive => directive.name == name

/-- Meets the name of a type. Schema definitions may use the built-in types too. -/
def typeName (inSchema : Bool) (name : String) : DefinitionWalk := do
  if context.typeNames.contains name then return
  if inSchema && Schema.builtInNames.contains name then return
  let options := (if inSchema then Schema.builtInNames else []) ++ context.typeNames
  report (.unknownType name (Suggestion.nearest name options))

/-- Whether an argument has to be given. -/
def isRequired (argument : InputDefinition) : Bool :=
  argument.type.isNonNull && argument.defaultValue.isNone

/-- The types of the arguments that have to be given to a directive, one for each name. Of several
such arguments of one name the last one counts, at the place of the first. -/
def requiredTypes (definition : DirectiveDefinition) : List (String × TypeRef) :=
  (definition.arguments.filter isRequired).foldl
    (fun table argument => putEntry argument.name argument.type table) []

mutual

/-- Meets a value. -/
def value : Value → DefinitionWalk
  | .list items => values items
  | .object fields => valueFields [] fields
  | _ => pure ()

/-- Meets the items of a list. -/
def values : List Value → DefinitionWalk
  | [] => pure ()
  | item :: items => do
    value item
    values items

/-- Meets the fields of an object behind fields of the given names. -/
def valueFields (met : List String) : List (String × Value) → DefinitionWalk
  | [] => pure ()
  | (name, item) :: fields => do
    reportIf (met.contains name) (.repeatedInputField name)
    value item
    valueFields (name :: met) fields

end

/-- Meets a list of given arguments. -/
def givenArguments (arguments : List Argument) : DefinitionWalk :=
  arguments.forM fun argument => value argument.value

/-- Meets a directive at a place. -/
def directive (location : String) (directive : Directive) : DefinitionWalk := do
  let known := context.directive? directive.name
  match known with
  | none => report (.unknownDirective directive.name)
  | some definition =>
    reportIf (!definition.locations.contains location)
      (.misplacedDirective directive.name location)
    let accepted := definition.arguments.map InputDefinition.name
    directive.arguments.forM fun argument =>
      reportIf (!accepted.contains argument.name)
        (.unknownArgument argument.name directive.name
          (Suggestion.nearest argument.name accepted))
  -- The given arguments are looked at even if the directive is not known.
  (repeated (directive.arguments.map Argument.name)).forM fun name =>
    report (.repeatedArgument name)
  givenArguments directive.arguments
  let given := directive.arguments.map Argument.name
  match known with
  | none => pure ()
  | some definition =>
    (requiredTypes definition).forM fun (name, type) =>
      reportIf (!given.contains name) (.missingArgument directive.name name type)

/-- Meets the directives at a place. -/
def directivesAt (location : String) (applied : List Directive) : DefinitionWalk :=
  applied.forM (context.directive location)

/-- Whether a directive may be applied only once at a place. -/
def isSingle (name : String) : Bool :=
  match context.directive? name with
  | some definition => !definition.repeatable
  | none => false

/-- Looks for directives applied twice to a schema or a type, also through its extensions. -/
def singleDirectives (mark : String → DefinitionMark) (applied : List Directive) :
    DefinitionWalk :=
  applied.forM fun directive => do
    if context.isSingle directive.name then
      once (mark directive.name) (.repeatedDirective directive.name)

/-- The problems of directives applied twice to one part, behind directives of given names. -/
def twiceApplied (met : List String) : List Directive → DefinitionWalk
  | [] => pure ()
  | directive :: rest => do
    if context.isSingle directive.name then
      reportIf (met.contains directive.name) (.repeatedDirective directive.name)
    twiceApplied (directive.name :: met) rest

/-- Looks for directives applied twice to one part. -/
def partDirectives (applied : List Directive) : DefinitionWalk :=
  context.twiceApplied [] applied

/-- Meets an argument definition or an input field. -/
def input (location : String) (input : InputDefinition) : DefinitionWalk := do
  context.partDirectives input.directives
  context.typeName true input.type.base
  input.defaultValue.forM value
  context.directivesAt location input.directives

/-- Meets a field definition. -/
def field (field : FieldDefinition) : DefinitionWalk := do
  context.partDirectives field.directives
  field.arguments.forM (context.input "ARGUMENT_DEFINITION")
  context.typeName true field.type.base
  context.directivesAt "FIELD_DEFINITION" field.directives

/-- Looks for argument definitions of one name. -/
def argumentDefinitions (owner : String) (arguments : List InputDefinition) : DefinitionWalk :=
  (repeated (arguments.map InputDefinition.name)).forM fun name =>
    report (.repeatedArgumentDefinition owner name)

/-- Looks for members of a type that have one name, also through its extensions. -/
def memberNames (type : TypeDefinition) : DefinitionWalk := do
  let name := type.name
  match type.body with
  | .enum values =>
    values.forM fun value => once (.enumValue name value.name) (.repeatedEnumValue name value.name)
  | .object _ fields | .interface _ fields =>
    fields.forM fun field => once (.field name field.name) (.repeatedField name field.name)
    fields.forM fun field => argumentDefinitions (name ++ "." ++ field.name) field.arguments
  | .inputObject fields =>
    fields.forM fun field => once (.field name field.name) (.repeatedField name field.name)
  | .scalar | .union _ => pure ()

/-- The place that a definition of a kind is for directives. -/
def location : TypeKind → String
  | .scalar => "SCALAR"
  | .object => "OBJECT"
  | .interface => "INTERFACE"
  | .union => "UNION"
  | .enum => "ENUM"
  | .inputObject => "INPUT_OBJECT"

/-- Meets the directives and members of a type. A field that an extension adds to an input object
is for directives the same place as an argument. -/
def members (isExtension : Bool) (type : TypeDefinition) : DefinitionWalk := do
  type.interfaces.forM (context.typeName true)
  context.directivesAt (location type.kind) type.directives
  match type.body with
  | .scalar => pure ()
  | .object _ fields | .interface _ fields => fields.forM context.field
  | .union names => names.forM (context.typeName true)
  | .enum values =>
    values.forM fun value => do
      context.partDirectives value.directives
      context.directivesAt "ENUM_VALUE" value.directives
  | .inputObject fields =>
    fields.forM (context.input
      (if isExtension then "ARGUMENT_DEFINITION" else "INPUT_FIELD_DEFINITION"))

/-- Looks for the type that an extension extends. -/
def extended (type : TypeDefinition) : DefinitionWalk :=
  match context.type? type.name with
  | some found => reportIf (found.kind != type.kind) (.extendedOtherKind type.kind type.name)
  | none =>
    report (.extendedUnknownType type.name (Suggestion.nearest type.name context.typeNames))

/-- Meets a schema block or an extension of one. -/
def schemaBlock (block : SchemaBlock) : DefinitionWalk := do
  block.roots.forM fun (kind, _) => once (.root kind) (.repeatedRoot kind)
  context.singleDirectives .schemaDirective block.directives
  context.directivesAt "SCHEMA" block.directives
  block.roots.forM fun (_, name) => context.typeName true name

/-- Meets selections. -/
def selections : List Selection → DefinitionWalk
  | [] => pure ()
  | .field head inner :: rest => do
    context.partDirectives head.directives
    (repeated (head.arguments.map Argument.name)).forM fun name =>
      report (.repeatedArgument name)
    givenArguments head.arguments
    context.directivesAt "FIELD" head.directives
    selections inner
    selections rest
  | .spread _ directives :: rest => do
    context.partDirectives directives
    context.directivesAt "FRAGMENT_SPREAD" directives
    selections rest
  | .inlined condition directives inner :: rest => do
    context.partDirectives directives
    condition.forM (context.typeName false)
    context.directivesAt "INLINE_FRAGMENT" directives
    selections inner
    selections rest

/-- Meets the declaration of a variable. -/
def variableDefinition (declared : VariableDefinition) : DefinitionWalk := do
  context.partDirectives declared.directives
  context.typeName false declared.type.base
  declared.defaultValue.forM value
  context.directivesAt "VARIABLE_DEFINITION" declared.directives

/-- The place that an operation is for directives. -/
def operationLocation : OperationKind → String
  | .query => "QUERY"
  | .mutation => "MUTATION"
  | .subscription => "SUBSCRIPTION"

/-- Meets a definition. -/
def definition : Definition → DefinitionWalk
  | .operation operation => do
    context.partDirectives operation.directives
    operation.declaredVariables.forM context.variableDefinition
    context.directivesAt (operationLocation operation.kind) operation.directives
    context.selections operation.selections
  | .fragment fragment => do
    context.partDirectives fragment.directives
    context.typeName false fragment.onType
    context.directivesAt "FRAGMENT_DEFINITION" fragment.directives
    context.selections fragment.selections
  | .schema block => do
    once .schema .repeatedSchema
    context.schemaBlock block
  | .schemaExtension block => context.schemaBlock block
  | .type type => do
    once (.type type.name) (.repeatedType type.name)
    memberNames type
    context.singleDirectives (.typeDirective type.name) type.directives
    context.members false type
  | .typeExtension type => do
    memberNames type
    context.singleDirectives (.typeDirective type.name) type.directives
    context.extended type
    context.members true type
  | .directive directive => do
    argumentDefinitions ("@" ++ directive.name) directive.arguments
    once (.directiveDefinition directive.name) (.repeatedDirectiveDefinition directive.name)
    directive.arguments.forM (context.input "ARGUMENT_DEFINITION")

end DefinitionContext

namespace Document

/-- Everything that keeps a document from describing a schema, in the order of its text. -/
def definitionProblems (document : Document) : List DefinitionProblem :=
  let context := DefinitionContext.ofDocument document
  let walk : DefinitionWalk := document.definitions.forM context.definition
  (walk.run {}).2.problems.reverse

end Document

end SelectionTypes

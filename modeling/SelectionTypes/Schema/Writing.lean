import SelectionTypes.Schema.Build

/-!
# `SelectionTypes.Schema.Writing`: from schemas to documents

`Schema.document` gives the definitions of a schema as a document. A schema without any definition
has no such document, since a document has at least one definition.

Default values are written as literals of their types. A constant of a scalar that is not built in
may be a list, an object or an infinite number, for which there is no literal, and an infinite
number is no value of the scalar `Float` either. Directives are written first, and then the types
in their order.
-/

set_option autoImplicit false

namespace SelectionTypes

/-- Why a default value cannot be written. -/
inductive WritingProblem where
  | infiniteFloat (number : Binary64)
  /-- A constant without a literal, as it is shown. -/
  | noLiteral (shown : String)
  deriving Repr, DecidableEq

namespace WritingProblem

/-- The sentence about a problem. -/
def message : WritingProblem → String
  | infiniteFloat number => "Float cannot represent non numeric value: " ++ number.text
  | noLiteral shown => "Cannot convert value to AST: " ++ shown ++ "."

end WritingProblem

/-- Why there is no document of a schema. -/
inductive DocumentProblem where
  /-- The schema has no definition to write down. -/
  | noDefinitions (error : SyntaxError)
  | writing (problem : WritingProblem)
  deriving Repr, DecidableEq

namespace Constant

/-- Whether a number is one that has a literal. -/
def isFinite : Binary64 → Bool
  | .finite _ _ _ => true
  | _ => false

/-- The problem of a constant of a scalar or enum. -/
def leafProblem? (type : String) : Constant → Option WritingProblem
  | .float number =>
    if isFinite number then none
    else some (if type == "Float" then .infiniteFloat number else .noLiteral number.text)
  | .list items => some (.noLiteral (Constant.list items).shown)
  | .object fields => some (.noLiteral (Constant.object fields).shown)
  | _ => none

end Constant

namespace Schema

variable (schema : Schema)

/-- The type of a field of an input object. -/
def inputFieldType (type field : String) : TypeRef :=
  (((schema.type? type).bind fun found => found.fieldType? field)).getD (.named type)

mutual

/-- The problem of a constant of a type. -/
def writingProblem? (type : TypeRef) : Constant → Option WritingProblem
  | .null => none
  | .list items =>
    match type.nullable with
    | .list of => writingProblems? of items
    -- Where the type is no list, a list is a constant of its scalar.
    | type => Constant.leafProblem? type.base (.list items)
  | .object fields =>
    if schema.kind? type.base == some .inputObject then fieldWritingProblem? type.base fields
    else Constant.leafProblem? type.base (.object fields)
  | constant => Constant.leafProblem? type.base constant

/-- The first problem of constants of a type. -/
def writingProblems? (type : TypeRef) : List Constant → Option WritingProblem
  | [] => none
  | item :: items =>
    match writingProblem? type item with
    | some problem => some problem
    | none => writingProblems? type items

/-- The first problem of the fields of an input object. -/
def fieldWritingProblem? (type : String) : List (String × Constant) → Option WritingProblem
  | [] => none
  | (name, value) :: fields =>
    match writingProblem? (schema.inputFieldType type name) value with
    | some problem => some problem
    | none => fieldWritingProblem? type fields

end

/-- The problem of the default value of an argument or input field. -/
def defaultProblem? (input : InputDefinition) : Option WritingProblem :=
  (schema.default? input).bind (schema.writingProblem? input.type)

/-- The types of a schema that are not built in. -/
def ownTypes : List TypeDefinition :=
  schema.types.filter fun type => (builtIn? type.name).isNone

/-- The directives of a schema that are not standard. -/
def ownDirectives : List DirectiveDefinition :=
  schema.directives.filter fun directive =>
    !standardDirectives.any fun standard => standard.name == directive.name

/-- The first default value that cannot be written. -/
def unwritable? : Option WritingProblem :=
  (schema.ownDirectives.flatMap DirectiveDefinition.arguments
    ++ schema.ownTypes.flatMap TypeDefinition.inputs).findSome? schema.defaultProblem?

/-- Whether the root types have the names that they have without a schema block. -/
def hasConventionalRoots : Bool :=
  schema.roots.all fun (kind, _) => (schema.root? kind).all (· == kind.suffix)

/-- The definitions of a schema: the schema block if it says more than the names of the types do,
the directives and the types. -/
def definitions : List Definition :=
  let block :=
    if schema.description.isNone && schema.hasConventionalRoots then []
    else [.schema ⟨schema.description, [], schema.roots⟩]
  block ++ schema.ownDirectives.map .directive ++ schema.ownTypes.map .type

/-- The definitions of a schema as a document. The text of no definition is empty, and no document
is read from an empty text. -/
def document : Except DocumentProblem Document :=
  match schema.unwritable? with
  | some problem => .error (.writing problem)
  | none =>
    if schema.definitions.isEmpty then (Document.parse "").mapError .noDefinitions
    else .ok ⟨schema.definitions⟩

end Schema

end SelectionTypes

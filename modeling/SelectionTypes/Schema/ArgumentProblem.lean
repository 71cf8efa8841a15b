import SelectionTypes.Document.Directives
import SelectionTypes.Document.Excerpt
import SelectionTypes.Document.Printer

/-!
# `SelectionTypes.Schema.ArgumentProblem`: unusable arguments of standard directives

The standard directives `@deprecated` and `@specifiedBy` take a text each, the first one a text that
may be null or left out. They have these arguments even where a document defines a directive of the
same name with others. Of several applications the first one counts.
-/

set_option autoImplicit false

namespace SelectionTypes

/-- What is wrong with an argument. -/
inductive ArgumentFault where
  | missing (name : String) (type : TypeRef)
  | null (name : String) (type : TypeRef)
  /-- A literal of another kind, in its written form. -/
  | invalid (name shown : String)
  deriving Repr, DecidableEq

/-- An unusable argument and its place, or the place of the directive if it is missing. -/
structure ArgumentProblem where
  fault : ArgumentFault
  place : Place
  deriving Repr, DecidableEq

namespace ArgumentProblem

/-- The sentence about a problem. -/
def message (problem : ArgumentProblem) : String :=
  match problem.fault with
  | .missing name type =>
    "Argument '" ++ name ++ "' of required type '" ++ type.text ++ "' was not provided."
  | .null name type =>
    "Argument '" ++ name ++ "' of non-null type '" ++ type.text ++ "' must not be null."
  | .invalid name shown => "Argument '" ++ name ++ "' has invalid value " ++ shown ++ "."

/-- The sentence about a problem with the lines around its place. -/
def messageWithin (problem : ArgumentProblem) (text : String) : String :=
  problem.message ++ "\n\n" ++ problem.place.excerpt text

end ArgumentProblem

namespace Directive

/-- The last argument of a name. -/
def argument? (directive : Directive) (name : String) : Option Argument :=
  directive.arguments.findRev? fun argument => argument.name == name

/-- The problem of an argument that is a text. A missing text has a default if it may be null. -/
def textProblem? (directive : Directive) (name : String) (mayBeNull : Bool) :
    Option ArgumentProblem :=
  let type : TypeRef := .nonNull (.named "String")
  match directive.argument? name with
  | none => if mayBeNull then none else some ⟨.missing name type, directive.place⟩
  | some argument =>
    match argument.value with
    | .string _ _ => none
    | .null => if mayBeNull then none else some ⟨.null name type, argument.place⟩
    | value => some ⟨.invalid name value.text, argument.place⟩

/-- The problem of the mark for a deprecated part among directives. -/
def deprecationProblem? (directives : List Directive) : Option ArgumentProblem :=
  (find? directives "deprecated").bind fun directive => directive.textProblem? "reason" true

/-- The problem of the mark for a specified scalar among directives. -/
def specificationProblem? (directives : List Directive) : Option ArgumentProblem :=
  (find? directives "specifiedBy").bind fun directive => directive.textProblem? "url" false

end Directive

end SelectionTypes

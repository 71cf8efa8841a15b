import SelectionTypes.Decimal.Reading
import SelectionTypes.Document.Basic

/-!
# `SelectionTypes.Document.Directives`: directives on selections

When a directive is applied several times, the first application counts. When an argument is given
several times, its last value counts, at the position of the first. Arguments are read together, so
none is read if one of them is an integer with too many digits.
-/

set_option autoImplicit false

namespace SelectionTypes

/-- Sets the value of a key in an ordered table. A new key goes to the end, and a key that is
there keeps its position. -/
def putEntry {κ ν : Type} [BEq κ] (key : κ) (value : ν) : List (κ × ν) → List (κ × ν)
  | [] => [(key, value)]
  | (k, v) :: rest => if k == key then (k, value) :: rest else (k, v) :: putEntry key value rest

namespace Directive

/-- The arguments of a directive, one entry for each name. -/
def argumentTable (directive : Directive) : List (String × Value) :=
  directive.arguments.foldl (fun table argument => putEntry argument.name argument.value table) []

/-- Whether no argument is an integer with more digits than are read. -/
def isReadable (directive : Directive) : Bool :=
  directive.arguments.all fun argument =>
    match argument.value with
    | .int digits => (Decimal.splitSign digits.toList).2.length ≤ Decimal.mostDigits
    | _ => true

/-- The value of a string argument. -/
def stringArgument? (directive : Directive) (name : String) : Option String :=
  match directive.argumentTable.lookup name with
  | some (.string text _) => some text
  | _ => none

/-- The first application of a directive. -/
def find? (directives : List Directive) (name : String) : Option Directive :=
  directives.find? fun directive => directive.name == name

end Directive

namespace Selection

/-- The directives applied to a selection. -/
def directives : Selection → List Directive
  | field head _ => head.directives
  | spread _ directives => directives
  | inlined _ directives _ => directives

/-- The names of the fragments spread anywhere below selections, in order and with repetitions. -/
def spreadsOf : List Selection → List String
  | [] => []
  | .field _ inner :: rest => spreadsOf inner ++ spreadsOf rest
  | .spread fragment _ :: rest => fragment :: spreadsOf rest
  | .inlined _ _ inner :: rest => spreadsOf inner ++ spreadsOf rest

end Selection

namespace Document

/-- The distinct base types of all variables, in order of first use. -/
def variableTypeNames (documents : List Document) : List String :=
  ((documents.flatMap operations).flatMap fun operation =>
    operation.declaredVariables.map fun declared => declared.type.base).eraseDups

/-- The selections of the operations and fragments of a document, in order. -/
def selectionSets (document : Document) : List (List Selection) :=
  document.definitions.filterMap fun definition =>
    match definition with
    | .operation operation => some operation.selections
    | .fragment fragment => some fragment.selections
    | _ => none

/-- The distinct names of the fragments that a document spreads, in order of first use. -/
def spreadNames (document : Document) : List String :=
  (document.selectionSets.flatMap Selection.spreadsOf).eraseDups

end Document

end SelectionTypes

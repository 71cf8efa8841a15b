import SelectionTypes.Decimal.Reading
import SelectionTypes.Document.Directives

/-!
# `SelectionTypes.Document.Literal`: the values of directive arguments

Numbers and truth values among the arguments of a directive are read as such. All other values
stay as they are.
-/

set_option autoImplicit false

namespace SelectionTypes

/-- The value of an argument. -/
inductive Literal where
  | boolean (value : Bool)
  | integer (number : Int)
  | float (number : Binary64)
  | other (value : Value)
  deriving Repr, BEq

namespace Value

/-- The value as an argument of a directive. -/
def literal : Value → Literal
  | boolean value => .boolean value
  | int digits => .integer (Decimal.integer digits.toList)
  | float text => .float (Decimal.number text.toList)
  | value => .other value

end Value

namespace Directive

/-- The values of the arguments of a directive, one for each name. -/
def literals (directive : Directive) : List (String × Literal) :=
  directive.argumentTable.map fun (name, value) => (name, value.literal)

end Directive

end SelectionTypes

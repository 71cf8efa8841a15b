import SelectionTypes.Decimal.Reading
import SelectionTypes.Yaml.Number
import SelectionTypes.Yaml.Scalar
import SelectionTypes.Yaml.Timestamp

/-!
# `SelectionTypes.Yaml.Tag`: what a text stands for

The tag of a text says what it stands for. A plain text without a tag stands for null, a truth
value, a number or a point in time if it is written like one, and for itself otherwise.
-/

set_option autoImplicit false

namespace SelectionTypes.Yaml

/-- What a node stands for. -/
inductive Tag where
  | null
  | boolean
  | integer
  | float
  | timestamp
  /-- The key whose value is merged into the mapping around it. -/
  | merge
  /-- The key of the default value. -/
  | default
  | text
  | binary
  | orderedMap
  | pairs
  | set
  | sequence
  | mapping
  | unknown
  deriving Repr, DecidableEq

/-- The start of the standard tags. -/
def standardTags : String :=
  "tag:yaml.org,2002:"

/-- The standard tags. -/
def tagTable : List (String × Tag) :=
  [("null", .null), ("bool", .boolean), ("int", .integer), ("float", .float),
    ("timestamp", .timestamp), ("merge", .merge), ("value", .default), ("str", .text),
    ("binary", .binary), ("omap", .orderedMap), ("pairs", .pairs), ("set", .set),
    ("seq", .sequence), ("map", .mapping)]

/-! ### The forms of plain texts -/

/-- The words for truth values. -/
def truthWords : List (String × Bool) :=
  [("yes", true), ("Yes", true), ("YES", true), ("no", false), ("No", false), ("NO", false),
    ("true", true), ("True", true), ("TRUE", true), ("false", false), ("False", false),
    ("FALSE", false), ("on", true), ("On", true), ("ON", true), ("off", false), ("Off", false),
    ("OFF", false)]

/-- The words for null. -/
def nullWords : List String :=
  ["~", "null", "Null", "NULL", ""]

/-- The signs of the notation that stand for no value when they are alone. -/
def signWords : List String :=
  ["!", "&", "*"]

/-- A text without its sign. -/
def unsigned (text : List Char) : List Char :=
  (Decimal.splitSign text).2

/-- Whether a text is made of digits and underscores, at least one. -/
def isGrouped (isDigit : Char → Bool) (text : List Char) : Bool :=
  !text.isEmpty && text.all fun c => isDigit c || c == '_'

/-- Whether a text is a natural number with underscores among its digits. -/
def isNatural (text : List Char) : Bool :=
  text.head?.any Decimal.isDigit && isGrouped Decimal.isDigit text

/-- Whether a text is a number below sixty. -/
def isSixtieth : List Char → Bool
  | [unit] => Decimal.isDigit unit
  | [ten, unit] => '0' ≤ ten && ten ≤ '5' && Decimal.isDigit unit
  | _ => false

/-- Whether a text is a number in the system of sixty. -/
def isSexagesimal (text : List Char) : Bool :=
  match colonParts text with
  | first :: second :: rest => isNatural first && (second :: rest).all isSixtieth
  | _ => false

/-- Whether a text is written like an integer. -/
def isInteger (text : List Char) : Bool :=
  match unsigned text with
  | '0' :: 'b' :: digits => isGrouped (fun c => c == '0' || c == '1') digits
  | '0' :: 'x' :: digits => isGrouped (fun c => (hexDigit? c).isSome) digits
  | ['0'] => true
  | '0' :: digits => isGrouped (fun c => '0' ≤ c && c ≤ '7') digits
  | digits => isNatural digits || (isSexagesimal digits && digits.head? != some '0')

/-- Whether a text is nothing or an exponent, which has a sign. -/
def isExponent : List Char → Bool
  | [] => true
  | mark :: sign :: digits =>
    (mark == 'e' || mark == 'E') && (sign == '+' || sign == '-') && !digits.isEmpty
      && digits.all Decimal.isDigit
  | _ => false

/-- Whether a text is made of digits and underscores, perhaps of none, and an exponent. -/
def isFraction (text : List Char) : Bool :=
  isExponent (text.dropWhile fun c => Decimal.isDigit c || c == '_')

/-- Whether a text is written like a number with a point. -/
def isFloat (text : List Char) : Bool :=
  let unsignedText := unsigned text
  let whole := unsignedText.takeWhile (· != '.')
  match unsignedText.dropWhile (· != '.') with
  | '.' :: fraction =>
    if whole.isEmpty then
      ["inf", "Inf", "INF"].contains (String.ofList fraction)
        || (text.head? == some '.'
          && (["nan", "NaN", "NAN"].contains (String.ofList fraction)
            || (fraction.head?.any Decimal.isDigit && isFraction fraction)))
    else
      (isNatural whole && isFraction fraction)
        || (isSexagesimal whole && fraction.all fun c => Decimal.isDigit c || c == '_')
  | _ => false

namespace Tag

/-- What a text without a break at its end stands for, if it has no tag. -/
def ofLine (text : String) : Tag :=
  let characters := text.toList
  if (truthWords.lookup text).isSome then .boolean
  else if isFloat characters then .float
  else if isInteger characters then .integer
  else if text == "<<" then .merge
  else if nullWords.contains text then .null
  else if isTimestamp characters then .timestamp
  else if text == "=" then .default
  else if signWords.contains text then .unknown
  else .text

/-- What a text without a tag stands for. A break at its end does not matter, unless it is all of
the text. -/
def ofPlain (text : String) : Tag :=
  if text == "\n" then .text else ofLine (String.ofList (withoutFinalBreak text.toList))

/-- What a tag means. -/
def ofName (name : String) : Tag :=
  if standardTags.toList.isPrefixOf name.toList then
    (tagTable.lookup (String.ofList (name.toList.drop standardTags.length))).getD .unknown
  else .unknown

end Tag

end SelectionTypes.Yaml

import SelectionTypes.Settings.Basic
import SelectionTypes.Settings.Problem

/-!
# `SelectionTypes.Settings.Reading`: settings from plain data

`Settings.ofData` reads settings from a map. Reading does not stop at a problem: it notes it and
goes on with the default value, so that all problems are reported. They come in the order of the
options, and the keys that no option has follow in the order of the map.

An option has two keys, one in camel case and one in snake case. When both are given the first one
counts, and the second is a key that no option has.

The text of an option may have halves of surrogate pairs in it, and pairs of them are joined.
`Settings.stretchedOfData` reads the same settings with every half at greater length.
-/

set_option autoImplicit false

namespace SelectionTypes

namespace Settings

/-- How halves of surrogate pairs are read. -/
inductive HalfForm where
  | asGiven
  | stretched
  deriving Repr, DecidableEq

/-- A value that is read, and the problems found on the way. Halves of surrogate pairs are either
read as they are, or stretched. -/
abbrev Reading := ReaderT HalfForm (StateM (List Problem))

namespace Reading

/-- Notes a problem and goes on with a value in place. -/
def report {α : Type} (path : List DataStep) (kind : ProblemKind) (value : α) : Reading α := do
  modify (· ++ [⟨path, kind⟩])
  return value

/-- The texts for truth and for falsehood, in small letters. -/
def truthWords : List (String × Bool) :=
  [("0", false), ("f", false), ("n", false), ("no", false), ("off", false), ("false", false),
    ("1", true), ("t", true), ("y", true), ("on", true), ("yes", true), ("true", true)]

/-- The truth value of a text, where ASCII capitals count as small letters. -/
def truthOf? (text : String) : Option Bool :=
  truthWords.lookup (String.ofList (text.toList.map Char.toLower))

/-- Reads a truth value from an integer. -/
def booleanOfInteger (path : List DataStep) (number : Int) : Reading Bool :=
  if number == 0 then return false
  else if number == 1 then return true
  else if DataStep.isWord number then report path .unusableBoolean false
  else report path .notBoolean false

/-- Reads a truth value from a text. -/
def booleanOfText (path : List DataStep) (text : String) : Reading Bool :=
  match truthOf? text with
  | some value => return value
  | none => report path .unusableBoolean false

/-- The integer that a float is, if it is one within the bounds of 64 bits and not on a bound. -/
def wordOf? (number : Binary64) : Option Int :=
  number.toInt?.filter fun whole => DataStep.isWord whole && DataStep.isWord (whole - 1)

/-- Reads a truth value. -/
def boolean (path : List DataStep) : Data → Reading Bool
  | .boolean value => return value
  | .integer number => booleanOfInteger path number
  | .float number =>
    match wordOf? number with
    | some whole => booleanOfInteger path whole
    | none => report path .notBoolean false
  | .text text => booleanOfText path text
  | .bytes content =>
    match Data.textOfBytes? content with
    | some text => booleanOfText path text
    | none => report path .unusableBoolean false
  | .halved _ => report path .notUnicode false
  | _ => report path .notBoolean false

/-- Reads a text with halves of surrogate pairs. -/
def halvedText (codePoints : CodePoints) : Reading String := do
  match ← read with
  | .asGiven => return codePoints.joined
  | .stretched => return codePoints.stretched

/-- Reads a text. Bytes are read as the text that they are in UTF-8. -/
def text (path : List DataStep) : Data → Reading String
  | .text text => return text
  | .bytes content =>
    match Data.textOfBytes? content with
    | some text => return text
    | none => report path .notUnicode ""
  | .halved codePoints => halvedText codePoints
  | _ => report path .notText ""

/-- Reads a text that may be null. -/
def optionalText (path : List DataStep) : Data → Reading (Option String)
  | .null => return none
  | data => do return some (← text path data)

/-- Reads a style of names. -/
def caseStyle (path : List DataStep) (data : Data) : Reading CaseStyle :=
  let word := match data with
    | .text word => some word
    | .bytes content => Data.textOfBytes? content
    | _ => none
  match data, word.bind CaseStyle.ofWord? with
  | .halved _, _ => report path .notUnicode .pascal
  | _, some style => return style
  | _, none => report path .unknownChoice .pascal

/-- Reads the items of a list, where `position` is the position of the first one. -/
def itemsFrom {α : Type} (read : List DataStep → Data → Reading α) (path : List DataStep)
    (position : Nat) : List Data → Reading (List α)
  | [] => return []
  | item :: items => do
    let first ← read (path ++ [.position position]) item
    let rest ← itemsFrom read path (position + 1) items
    return first :: rest

/-- Reads a list. The items of a set may be given as well. -/
def list {α : Type} (read : List DataStep → Data → Reading α) (path : List DataStep) :
    Data → Reading (List α)
  | .list items | .set items => itemsFrom read path 0 items
  | _ => report path .notList []

/-- A key in snake case instead of camel case. -/
def snakeKey (key : String) : String :=
  String.ofList (key.toList.flatMap fun c => if c.isUpper then ['_', c.toLower] else [c])

/-- The key of an option that counts for given entries. -/
def usedKey (entries : List (Data × Data)) (key : String) : String :=
  if (Data.get? entries key).isSome then key else snakeKey key

/-- Reads the value of an option, if it is given. The location has the key that counts. -/
def option {α : Type} (read : List DataStep → Data → Reading α) (path : List DataStep)
    (entries : List (Data × Data)) (key : String) (default : α) : Reading α :=
  let used := usedKey entries key
  match Data.get? entries used with
  | some data => read (path ++ [.key used]) data
  | none => return default

/-- Reads the value of a key that must be given. -/
def required {α : Type} (read : List DataStep → Data → Reading α) (path : List DataStep)
    (entries : List (Data × Data)) (key : String) (default : α) : Reading α :=
  match Data.get? entries key with
  | some data => read (path ++ [.key key]) data
  | none => report (path ++ [.key key]) .missing default

/-- Reports the keys of entries that are not among those of the options. -/
def refuseOthers (path : List DataStep) (keys : List String) (entries : List (Data × Data)) :
    Reading Unit :=
  let used := keys.map (usedKey entries)
  entries.forM fun (key, _) =>
    match key with
    | .text name =>
      if used.contains name then return () else report (path ++ [.key name]) .unknownKey ()
    | other => report (path ++ [DataStep.ofKey other]) .keyNotText ()

/-- Whether a datum is a text with halves of surrogate pairs. -/
def isHalved : Data → Bool
  | .halved _ => true
  | _ => false

/-- Reads a map with fixed keys, and reports all others. A key that is no Unicode text is the only
problem of its map. -/
def record {α : Type} (path : List DataStep) (keys : List String) (entries : List (Data × Data))
    (default : α) (read : Reading α) : Reading α :=
  -- No option of the map is read, so none of them is a problem of its own.
  if entries.any fun (key, _) => isHalved key then report path .notUnicode default
  else do
    let value ← read
    refuseOthers path keys entries
    return value

/-- The keys of the places where optional marks are avoided. -/
def avoidKeys : List String :=
  ["field", "object", "inputValue"]

/-- Reads where optional marks are avoided. A truth value stands for all places. -/
def avoidOptionals (path : List DataStep) : Data → Reading AvoidOptionals
  | .boolean all => return ⟨all, all, all⟩
  | .map entries => record path avoidKeys entries {} do
    let field ← option boolean path entries "field" false
    let object ← option boolean path entries "object" false
    let inputValue ← option boolean path entries "inputValue" false
    return { field, object, inputValue }
  | _ => report path .notRecord {}

/-- Reads the type texts of a scalar. One text stands for both sides. -/
def scalarTypes (path : List DataStep) : Data → Reading ScalarTypes
  | .text both => return .both both
  | .halved codePoints => do return .both (← halvedText codePoints)
  | .map entries => record path ["input", "output"] entries (.both "") do
    let input ← required text path entries "input" ""
    let output ← required text path entries "output" ""
    return { input, output }
  | _ => report path .notRecord (.both "")

/-- Sets the type texts of a name in a table with distinct names. -/
def putTypes (name : String) (types : ScalarTypes) :
    List (String × ScalarTypes) → List (String × ScalarTypes)
  | [] => [(name, types)]
  | (present, old) :: table =>
    if present == name then (present, types) :: table
    else (present, old) :: putTypes name types table

/-- Reads the name of a scalar. Halves of surrogate pairs are not joined in a name. -/
def scalarName (path : List DataStep) : Data → Reading String
  | .halved codePoints => do
    match ← read with
    | .asGiven => return codePoints.shown
    | .stretched => return codePoints.stretched
  | data => text path data

/-- Reads the entries of the table of scalars. -/
def scalarEntries (path : List DataStep) :
    List (Data × Data) → Reading (List (String × ScalarTypes))
  | [] => return []
  | (key, data) :: entries => do
    let inner := path ++ [DataStep.ofKey key]
    let name ← scalarName (inner ++ [.key "[key]"]) key
    let types ← scalarTypes inner data
    let rest ← scalarEntries path entries
    return (name, types) :: rest

/-- Reads the table of scalars. Different keys may give one name, and then the last one counts. -/
def scalars (path : List DataStep) : Data → Reading (List (String × ScalarTypes))
  | .map entries => do
    let found ← scalarEntries path entries
    return found.foldl (fun table (name, types) => putTypes name types table) []
  | _ => report path .notMap []

/-- Reads an import. -/
def typeImport (path : List DataStep) : Data → Reading TypeImport
  | .map entries => record path ["path", "identifiers"] entries ⟨"", []⟩ do
    let importPath ← required text path entries "path" ""
    let identifiers ← required (list text) path entries "identifiers" []
    return { path := importPath, identifiers }
  | _ => report path .notRecord ⟨"", []⟩

/-- The keys of the options. -/
def optionKeys : List String := [
  "immutableTypes",
  "avoidOptionals",
  "enumPrefix",
  "enumSuffix",
  "typesPrefix",
  "typesSuffix",
  "namespacedImportName",
  "baseTypesPath",
  "flattenGeneratedTypes",
  "scalars",
  "namingConvention",
  "transformUnderscore",
  "skipTypename",
  "nonOptionalTypename",
  "dedupeOperationSuffix",
  "omitOperationSuffix",
  "fragmentImports"]

/-- Reads settings from the entries of a map. -/
def settings (entries : List (Data × Data)) : Reading Settings :=
  record [] optionKeys entries {} do
    let immutableTypes ← option boolean [] entries "immutableTypes" false
    let avoidOptionals ← option avoidOptionals [] entries "avoidOptionals" {}
    let enumPrefix ← option boolean [] entries "enumPrefix" true
    let enumSuffix ← option boolean [] entries "enumSuffix" true
    let typesPrefix ← option text [] entries "typesPrefix" ""
    let typesSuffix ← option text [] entries "typesSuffix" ""
    let namespacedImportName ← option text [] entries "namespacedImportName" "Types"
    let baseTypesPath ← option optionalText [] entries "baseTypesPath" none
    let flattenGeneratedTypes ← option boolean [] entries "flattenGeneratedTypes" false
    let scalars ← option scalars [] entries "scalars" []
    let namingConvention ← option caseStyle [] entries "namingConvention" .pascal
    let transformUnderscore ← option boolean [] entries "transformUnderscore" false
    let skipTypename ← option boolean [] entries "skipTypename" false
    let nonOptionalTypename ← option boolean [] entries "nonOptionalTypename" false
    let dedupeOperationSuffix ← option boolean [] entries "dedupeOperationSuffix" false
    let omitOperationSuffix ← option boolean [] entries "omitOperationSuffix" false
    let fragmentImports ← option (list typeImport) [] entries "fragmentImports" []
    return {
      immutableTypes, avoidOptionals, enumPrefix, enumSuffix, typesPrefix, typesSuffix,
      namespacedImportName, baseTypesPath, flattenGeneratedTypes, scalars, namingConvention,
      transformUnderscore, skipTypename, nonOptionalTypename, dedupeOperationSuffix,
      omitOperationSuffix, fragmentImports }

end Reading

/-- The settings that data describes with a form of halves, or all problems of the data. -/
def ofDataWith (form : HalfForm) : Data → Except (List Problem) Settings
  | .map entries =>
    match ((Reading.settings entries).run form).run [] with
    | (settings, []) => .ok settings
    | (_, problems) => .error problems
  | _ => .error [⟨[], .notRecord⟩]

/-- The settings that data describes, or all problems of the data. -/
def ofData (data : Data) : Except (List Problem) Settings :=
  ofDataWith .asGiven data

/-- The settings that data describes, with every half of a surrogate pair stretched. -/
def stretchedOfData (data : Data) : Except (List Problem) Settings :=
  ofDataWith .stretched data

end Settings

end SelectionTypes

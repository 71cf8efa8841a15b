import SelectionTypes.Document.Basic
import SelectionTypes.Document.Lexer

/-!
# `SelectionTypes.Document.Parser`: from tokens to documents

`Document.parse` reads a document and `TypeRef.parse` a single type reference. The readers follow
the productions of the grammar, one reader each. A reader looks at one token, and at a second one
only behind a description or the word `extend`. Taking a token makes the next one current, and a
character that begins no token is reported at that moment.

Selections, list and object values, and list types nest, and a document may nest them to
`nestingLimit` levels. The readers of nested parts take the number of levels that are left. Every
item of a list takes a token, so the number of tokens left bounds the loops over items.
-/

set_option autoImplicit false

namespace SelectionTypes

/-- The current token and what the scan found behind it. -/
structure Cursor where
  current : Token
  later : List (Except SyntaxError Token)

/-- How many selection sets, lists and objects may be open at one place of a document. -/
def nestingLimit : Nat := 200

/-- Reads a part of a document and moves the cursor behind it. -/
abbrev Reader := StateT Cursor (Except SyntaxError)

namespace Reader

variable {α : Type}

/-- Makes the next token current. The end of the text stays current. -/
def advance : Reader Unit := do
  match (← get).later with
  | [] => return
  | .error error :: _ => throw error
  | .ok token :: later => set (Cursor.mk token later)

/-- The current token. -/
def token : Reader Token :=
  return (← get).current

/-- The current lexeme. -/
def lexeme : Reader Lexeme :=
  return (← token).lexeme

/-- The token behind the current one. -/
def nextToken : Reader Token := do
  match (← get).later with
  | [] => token
  | .error error :: _ => throw error
  | .ok token :: _ => return token

/-- Fails because a token has no place here. -/
def unexpected (token : Token) : Reader α :=
  throw ⟨token.place, .unexpected token.lexeme.shown⟩

/-- Fails because the current token is not the wanted one. -/
def expected (what : String) : Reader α := do
  let token ← token
  throw ⟨token.place, .expected what token.lexeme.shown⟩

/-- Fails because the current token would open one level too many. -/
def tooDeep : Reader α := do
  throw ⟨(← token).place, .nestedTooDeeply⟩

/-- Whether the current token is the punctuator. -/
def at? (p : Punctuator) : Reader Bool :=
  return (← lexeme) == .punctuator p

/-- Takes the punctuator if it is current, and says whether it was. -/
def take? (p : Punctuator) : Reader Bool := do
  let found ← at? p
  if found then advance
  return found

/-- Takes the punctuator. -/
def take (p : Punctuator) : Reader Unit := do
  if !(← take? p) then expected p.shown

/-- Takes the word if it is current, and says whether it was. -/
def takeWord? (word : String) : Reader Bool := do
  let found := (← lexeme) == .name word
  if found then advance
  return found

/-- Takes the word. -/
def takeWord (word : String) : Reader Unit := do
  if !(← takeWord? word) then expected ("'" ++ word ++ "'")

/-- A name. -/
def name : Reader String := do
  match ← lexeme with
  | .name text => advance; return text
  | _ => expected "Name"

/-- Items up to the closing punctuator, which is taken. The count bounds the number of items. -/
def itemsUntil (close : Punctuator) (item : Reader α) : Nat → Reader (List α)
  | 0 => return []
  | count + 1 => do
    if ← take? close then return []
    let first ← item
    return first :: (← itemsUntil close item count)

/-- Runs a reader under a bound on the tokens that are left. -/
def bounded (reader : Nat → Reader α) : Reader α := do
  reader ((← get).later.length + 1)

/-- Items between punctuators, possibly none. -/
def any («open» : Punctuator) (item : Reader α) (close : Punctuator) : Reader (List α) := do
  take «open»
  bounded (itemsUntil close item)

/-- Items between punctuators, at least one. -/
def many («open» : Punctuator) (item : Reader α) (close : Punctuator) : Reader (List α) := do
  take «open»
  let first ← item
  return first :: (← bounded (itemsUntil close item))

/-- Items between punctuators, at least one, or nothing at all. -/
def optionalMany («open» : Punctuator) (item : Reader α) (close : Punctuator) :
    Reader (List α) := do
  if ← at? «open» then many «open» item close else return []

/-- Items behind a separator each. The count bounds the number of items. -/
def itemsAfter (separator : Punctuator) (item : Reader α) : Nat → Reader (List α)
  | 0 => return []
  | count + 1 => do
    if ← take? separator then
      let first ← item
      return first :: (← itemsAfter separator item count)
    return []

/-- Items with separators between them and optionally one in front, at least one item. -/
def separated (separator : Punctuator) (item : Reader α) : Reader (List α) := do
  let _ ← take? separator
  let first ← item
  return first :: (← bounded (itemsAfter separator item))

/-! ### Values, directives and types -/

/-- A variable. -/
def variableName : Reader String := do
  take .dollar
  name

/-- A variable where a constant is wanted. -/
def constantVariable : Reader Value := do
  let dollar ← token
  take .dollar
  match ← lexeme with
  | .name text => throw ⟨dollar.place, .constantVariable text⟩
  | _ => unexpected dollar

/-- A value with the given number of levels left. -/
def value (constant : Bool) (levels : Nat) : Reader Value := do
  match ← lexeme with
  | .punctuator .bracketOpen =>
    match levels with
    | 0 => tooDeep
    | levels + 1 => return .list (← any .bracketOpen (value constant levels) .bracketClose)
  | .punctuator .braceOpen =>
    match levels with
    | 0 => tooDeep
    | levels + 1 =>
      let field : Reader (String × Value) := do
        let key ← name
        take .colon
        return (key, ← value constant levels)
      return .object (← any .braceOpen field .braceClose)
  | .int text => advance; return .int text
  | .float text => advance; return .float text
  | .string text => advance; return .string text false
  | .blockString text => advance; return .string text true
  | .name "true" => advance; return .boolean true
  | .name "false" => advance; return .boolean false
  | .name "null" => advance; return .null
  | .name text => advance; return .enum text
  | .punctuator .dollar =>
    if constant then constantVariable else return .variable (← variableName)
  | _ => unexpected (← token)

/-- An argument with the given number of levels left. -/
def argument (constant : Bool) (levels : Nat) : Reader Argument := do
  let key ← name
  take .colon
  let place := (← token).place
  return { name := key, value := ← value constant levels, place }

/-- Arguments in parentheses, or none. -/
def arguments (constant : Bool) (levels : Nat) : Reader (List Argument) :=
  optionalMany .parenOpen (argument constant levels) .parenClose

/-- The directives at the cursor. The count bounds their number. -/
def directivesWithin (constant : Bool) (levels : Nat) : Nat → Reader (List Directive)
  | 0 => return []
  | count + 1 => do
    let place := (← token).place
    if ← take? .atSign then
      let key ← name
      let given ← arguments constant levels
      return { name := key, arguments := given, place }
        :: (← directivesWithin constant levels count)
    return []

/-- The directives at the cursor. -/
def directives (constant : Bool) (levels : Nat := nestingLimit) : Reader (List Directive) :=
  bounded (directivesWithin constant levels)

/-- The default value behind an equals sign, or nothing. -/
def defaultValue? : Reader (Option Value) := do
  if ← take? .equals then some <$> value true nestingLimit else return none

/-- Adds the non-null mark if it is there. -/
def withMark (type : TypeRef) : Reader TypeRef := do
  if ← take? .bang then return .nonNull type else return type

/-- A type reference with the given number of levels left. -/
def typeRefWithin (levels : Nat) : Reader TypeRef := do
  if ← take? .bracketOpen then
    match levels with
    | 0 => tooDeep
    | levels + 1 =>
      let inner ← typeRefWithin levels
      take .bracketClose
      withMark (.list inner)
  else withMark (.named (← name))

/-- A type reference. -/
def typeRef : Reader TypeRef :=
  typeRefWithin nestingLimit

/-- A description, or nothing, and whether it is a block string. -/
def description? : Reader (Option (String × Bool)) := do
  match ← lexeme with
  | .string text => advance; return some (text, false)
  | .blockString text => advance; return some (text, true)
  | _ => return none

/-- The text of a description, or nothing. -/
def descriptionText? : Reader (Option String) :=
  return (← description?).map Prod.fst

/-! ### Operations and fragments -/

/-- The name of a fragment, which is not `on`. -/
def fragmentName : Reader String := do
  let token ← token
  if token.lexeme.value? == some "on" then unexpected token
  name

/-- Selections in braces with the given number of levels left. -/
def selectionsWithin (levels : Nat) : Reader (List Selection) := do
  match levels with
  | 0 => tooDeep
  | levels + 1 =>
    let selection : Reader Selection := do
      if ← take? .spread then
        if ← takeWord? "on" then
          let condition ← name
          let applied ← directives false levels
          return .inlined (some condition) applied (← selectionsWithin levels)
        match ← lexeme with
        | .name _ =>
          let fragment ← fragmentName
          return .spread fragment (← directives false levels)
        | _ =>
          let applied ← directives false levels
          return .inlined none applied (← selectionsWithin levels)
      else
        let first ← name
        let second ← if ← take? .colon then some <$> name else pure none
        let given ← arguments false levels
        let applied ← directives false levels
        -- Whether the field is a leaf is not known here, so selections may be left out.
        let inner ← if ← at? .braceOpen then selectionsWithin levels else pure []
        let head : FieldHead := match second with
          | some own => ⟨some first, own, given, applied⟩
          | none => ⟨none, first, given, applied⟩
        return .field head inner
    many .braceOpen selection .braceClose

/-- Selections in braces. -/
def selectionSet : Reader (List Selection) :=
  selectionsWithin nestingLimit

/-- The kind of an operation. -/
def operationKind : Reader OperationKind := do
  let token ← token
  let word ← name
  match OperationKind.ofKeyword? word with
  | some kind => return kind
  | none => unexpected token

/-- The declaration of a variable. -/
def variableDefinition : Reader VariableDefinition := do
  let description ← description?
  let key ← variableName
  take .colon
  let type ← typeRef
  let defaultValue ← defaultValue?
  return ⟨description, key, type, defaultValue, ← directives true⟩

/-- An operation. -/
def operation : Reader Operation := do
  if ← at? .braceOpen then
    return ⟨.query, none, [], [], ← selectionSet⟩
  let _ ← description?
  let kind ← operationKind
  let key ← match ← lexeme with
    | .name _ => some <$> name
    | _ => pure none
  let declared ← optionalMany .parenOpen variableDefinition .parenClose
  let applied ← directives false
  return ⟨kind, key, declared, applied, ← selectionSet⟩

/-- A fragment. -/
def fragment : Reader Fragment := do
  let _ ← description?
  takeWord "fragment"
  let key ← fragmentName
  takeWord "on"
  let condition ← name
  let applied ← directives false
  return ⟨key, condition, applied, ← selectionSet⟩

/-! ### Schema definitions -/

/-- An argument definition or an input field. -/
def inputDefinition : Reader InputDefinition := do
  let description ← descriptionText?
  let key ← name
  take .colon
  let type ← typeRef
  let defaultValue ← defaultValue?
  return ⟨description, key, type, defaultValue, ← directives true⟩

/-- Argument definitions in parentheses, or none. -/
def argumentDefinitions : Reader (List InputDefinition) :=
  optionalMany .parenOpen inputDefinition .parenClose

/-- A field definition. -/
def fieldDefinition : Reader FieldDefinition := do
  let description ← descriptionText?
  let key ← name
  let accepted ← argumentDefinitions
  take .colon
  let type ← typeRef
  return ⟨description, key, accepted, type, ← directives true⟩

/-- Field definitions in braces, or none. -/
def fieldDefinitions : Reader (List FieldDefinition) :=
  optionalMany .braceOpen fieldDefinition .braceClose

/-- The interfaces behind `implements`, or none. -/
def interfaces : Reader (List String) := do
  if ← takeWord? "implements" then separated .ampersand name else return []

/-- A member of an enum. Its name is none of the words for the other constants. -/
def enumValueDefinition : Reader EnumValueDefinition := do
  let description ← descriptionText?
  let token ← token
  if ["true", "false", "null"].contains (token.lexeme.value?.getD "") then
    throw ⟨token.place, .reservedEnumValue token.lexeme.shown⟩
  let key ← name
  return ⟨description, key, ← directives true⟩

/-- A root type with its kind of operation. -/
def root : Reader (OperationKind × String) := do
  let kind ← operationKind
  take .colon
  return (kind, ← name)

/-- The names of the places where a directive can be applied. -/
def locationNames : List String :=
  ["QUERY", "MUTATION", "SUBSCRIPTION", "FIELD", "FRAGMENT_DEFINITION", "FRAGMENT_SPREAD",
    "VARIABLE_DEFINITION", "INLINE_FRAGMENT", "SCHEMA", "SCALAR", "OBJECT", "FIELD_DEFINITION",
    "ARGUMENT_DEFINITION", "INTERFACE", "UNION", "ENUM", "ENUM_VALUE", "INPUT_OBJECT",
    "INPUT_FIELD_DEFINITION", "DIRECTIVE_DEFINITION"]

/-- A place where a directive can be applied. -/
def directiveLocation : Reader String := do
  let token ← token
  let word ← name
  if locationNames.contains word then return word else unexpected token

/-- The words that begin a definition of a named type. -/
def typeWords : List String :=
  ["scalar", "type", "interface", "union", "enum", "input"]

/-- The name, directives and body of a named type behind the word for its kind. -/
def typeDefinition (description : Option String) : Reader TypeDefinition := do
  let word ← name
  let key ← name
  match word with
  | "type" =>
    let implemented ← interfaces
    let applied ← directives true
    return ⟨description, key, applied, .object implemented (← fieldDefinitions)⟩
  | "interface" =>
    let implemented ← interfaces
    let applied ← directives true
    return ⟨description, key, applied, .interface implemented (← fieldDefinitions)⟩
  | "union" =>
    let applied ← directives true
    let members ← if ← take? .equals then separated .pipe name else pure []
    return ⟨description, key, applied, .union members⟩
  | "enum" =>
    let applied ← directives true
    let values ← optionalMany .braceOpen enumValueDefinition .braceClose
    return ⟨description, key, applied, .enum values⟩
  | "input" =>
    let applied ← directives true
    let fields ← optionalMany .braceOpen inputDefinition .braceClose
    return ⟨description, key, applied, .inputObject fields⟩
  | _ => return ⟨description, key, ← directives true, .scalar⟩

/-- A directive definition. -/
def directiveDefinition (description : Option String) : Reader DirectiveDefinition := do
  takeWord "directive"
  take .atSign
  let key ← name
  let accepted ← argumentDefinitions
  let repeatable ← takeWord? "repeatable"
  takeWord "on"
  return ⟨description, key, accepted, repeatable, ← separated .pipe directiveLocation⟩

/-- Whether an extension adds nothing. -/
def addsNothing (extension : TypeDefinition) : Bool :=
  extension.directives.isEmpty &&
    match extension.body with
    | .scalar => true
    | .object interfaces fields => interfaces.isEmpty && fields.isEmpty
    | .interface interfaces fields => interfaces.isEmpty && fields.isEmpty
    | .union members => members.isEmpty
    | .enum values => values.isEmpty
    | .inputObject fields => fields.isEmpty

/-- An extension, which adds something. -/
def extension : Reader Definition := do
  let word ← nextToken
  match word.lexeme with
  | .name "schema" =>
    advance
    advance
    let applied ← directives true
    let roots ← optionalMany .braceOpen root .braceClose
    if applied.isEmpty && roots.isEmpty then unexpected (← token)
    return .schemaExtension ⟨none, applied, roots⟩
  | .name text =>
    if typeWords.contains text then
      advance
      let added ← typeDefinition none
      if addsNothing added then unexpected (← token)
      return .typeExtension added
    else unexpected word
  | _ => unexpected word

/-- The word that decides which definition follows: the current token, or the one behind a
description. -/
def decidingToken (described : Bool) : Reader Token :=
  if described then nextToken else token

/-- A definition. -/
def definition : Reader Definition := do
  let first ← token
  if first.lexeme == .punctuator .braceOpen then return .operation (← operation)
  let described := match first.lexeme with
    | .string _ | .blockString _ => true
    | _ => false
  let deciding ← decidingToken described
  -- Without a keyword there is nothing that a description could belong to.
  if described && deciding.lexeme == .punctuator .braceOpen then
    throw ⟨first.place, .shorthandDescription⟩
  match deciding.lexeme with
  | .name "schema" =>
    let description ← descriptionText?
    advance
    let applied ← directives true
    return .schema ⟨description, applied, ← many .braceOpen root .braceClose⟩
  | .name "directive" =>
    let description ← descriptionText?
    return .directive (← directiveDefinition description)
  | .name word =>
    if typeWords.contains word then
      let description ← descriptionText?
      return .type (← typeDefinition description)
    else if (OperationKind.ofKeyword? word).isSome then return .operation (← operation)
    else if word == "fragment" then return .fragment (← fragment)
    -- Extensions have no description.
    else if described then throw ⟨first.place, .misplacedDescription⟩
    else if word == "extend" then extension
    else unexpected deciding
  | _ => unexpected deciding

/-- Definitions up to the end of the text, at least one. The count bounds their number. -/
def definitionsWithin : Nat → Reader (List Definition)
  | 0 => return []
  | count + 1 => do
    let first ← definition
    if (← lexeme) == .endOfText then return [first]
    return first :: (← definitionsWithin count)

/-- Runs a reader on a text. -/
def run (reader : Reader α) (text : String) : Except SyntaxError α := do
  match Token.scan text with
  | [] => throw ⟨0, .unexpected Lexeme.endOfText.shown⟩
  | .error error :: _ => throw error
  | .ok first :: later => return (← StateT.run reader ⟨first, later⟩).1

end Reader

namespace Document

/-- Reads a document. -/
def parse (text : String) : Except SyntaxError Document :=
  Reader.run (return ⟨← Reader.bounded Reader.definitionsWithin⟩) text

end Document

namespace TypeRef

/-- Reads a text that is one type reference. -/
def parse (text : String) : Except SyntaxError TypeRef :=
  Reader.run
    (do
      let type ← Reader.typeRef
      if (← Reader.lexeme) == .endOfText then return type
      Reader.expected Lexeme.endOfText.shown)
    text

end TypeRef

end SelectionTypes

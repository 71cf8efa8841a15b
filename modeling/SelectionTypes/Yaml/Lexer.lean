import SelectionTypes.Yaml.Token

/-!
# `SelectionTypes.Yaml.Lexer`: from characters to tokens

A key of one line is seen only when the colon behind it is read. So where a key may stand, its
place among the tokens is kept in mind, one for each level of brackets, and the colon puts the mark
of a key there. A place is given up when the line ends, and when a thousand characters have passed.
Where the indentation demands a key, giving it up is an error.

Tokens are read on demand. `LexerState.peek` reads as far as it takes to know the next token, and
`LexerState.take` takes that token away. So of two errors in a text the one that is met first is
reported, whether it is one of the tokens or one of what they build.
-/

set_option autoImplicit false

namespace SelectionTypes.Yaml

/-- The characters that are left, and where they begin. -/
structure Cursor where
  rest : List Char
  index : Nat := 0
  line : Nat := 0
  column : Nat := 0

namespace Cursor

/-- Passes one character. A byte order mark takes no column. -/
def pass (cursor : Cursor) : Cursor :=
  match cursor.rest with
  | [] => cursor
  | c :: rest =>
    let index := cursor.index + 1
    if isBreak c && !(c == '\r' && rest.head? == some '\n') then
      { rest, index, line := cursor.line + 1, column := 0 }
    else if c == '\ufeff' then { cursor with rest, index }
    else { cursor with rest, index, column := cursor.column + 1 }

/-- Passes a number of characters. -/
def passMany (cursor : Cursor) : Nat → Cursor
  | 0 => cursor
  | count + 1 => cursor.pass.passMany count

/-- Passes the characters in front of the given rest. -/
def passTo (cursor : Cursor) (rest : List Char) : Cursor :=
  cursor.passMany (cursor.rest.length - rest.length)

end Cursor

/-- A place among the tokens where a key may stand. -/
structure KeyPlace where
  /-- The number of tokens in front of it, those that have been taken included. -/
  position : Nat
  required : Bool
  index : Nat
  line : Nat
  column : Nat

/-- What has been read. -/
structure LexerState where
  cursor : Cursor
  /-- The number of tokens that have been taken. -/
  taken : Nat := 0
  /-- The tokens that have been read and not taken. -/
  tokens : List Token := []
  /-- Whether the end of the text has been reached. -/
  ended : Bool := false
  /-- The column of the innermost collection of lines, if there is one. -/
  indent : Option Nat := none
  /-- The columns of the collections around it. -/
  outer : List (Option Nat) := []
  /-- The number of open brackets. -/
  flow : Nat := 0
  /-- The places of keys with their levels of brackets. -/
  keys : List (Nat × KeyPlace) := []
  keyAllowed : Bool := true

namespace LexerState

variable (state : LexerState)

/-- Whether a bracket is open. -/
def inFlow : Bool :=
  state.flow != 0

/-- The state with one more token. -/
def push (token : Token) : LexerState :=
  { state with tokens := state.tokens ++ [token] }

/-- The number of tokens that have been read. -/
def position : Nat :=
  state.taken + state.tokens.length

/-- The state with a token in front of the one at a position, which has not been taken. -/
def insert (position : Nat) (token : Token) : LexerState :=
  let index := position - state.taken
  { state with tokens := state.tokens.take index ++ token :: state.tokens.drop index }

/-- The state behind one more character. -/
def pass (count : Nat) : LexerState :=
  { state with cursor := state.cursor.passMany count }

/-- Whether a column is right of the innermost collection. -/
def isDeeper (column : Nat) : Bool :=
  match state.indent with
  | none => true
  | some indent => indent < column

/-- The state inside a collection of lines that begins at a column, with the token for its start
at a position. Nothing begins if there is already a collection at the column. -/
def enter (column position : Nat) (start : Token) : LexerState :=
  if state.isDeeper column then
    { state.insert position start with
      indent := some column, outer := state.indent :: state.outer }
  else state

/-- Ends collections of lines from the innermost on, as long as they are right of a column. Without
a column all of them end. -/
def close (column : Option Nat) : Nat → LexerState → LexerState
  | 0, state => state
  | depth + 1, state =>
    match state.indent with
    | none => state
    | some indent =>
      if column.any fun column => indent ≤ column then state
      else
        close column depth
          { state.push .blockEnd with
            indent := state.outer.head?.getD none, outer := state.outer.drop 1 }

/-- Ends the collections of lines that are right of a column. Inside brackets there is none. -/
def unwind (column : Option Nat) : LexerState :=
  if state.inFlow then state else close column (state.outer.length + 1) state

/-- Gives up the place of a key on the innermost level. -/
def dropKey : Except Failure LexerState :=
  match state.keys.lookup state.flow with
  | none => .ok state
  | some place =>
    if place.required then .error .malformed
    else .ok { state with keys := state.keys.filter fun entry => entry.1 != state.flow }

/-- Gives up the places that are too far away. -/
def dropStaleKeys : Except Failure LexerState :=
  let isStale (place : KeyPlace) : Bool :=
    place.line != state.cursor.line || state.cursor.index - place.index > 1024
  if state.keys.any fun (_, place) => isStale place && place.required then .error .malformed
  else .ok { state with keys := state.keys.filter fun (_, place) => !isStale place }

/-- Keeps the place of the next token in mind, if a key may stand there. -/
def markKey : Except Failure LexerState :=
  if state.keyAllowed then do
    let cursor := state.cursor
    let required := !state.inFlow && state.indent == some cursor.column
    let place : KeyPlace :=
      { position := state.position, required, index := cursor.index, line := cursor.line,
        column := cursor.column }
    let state ← state.dropKey
    return { state with keys := (state.flow, place) :: state.keys }
  else .ok state

/-- The state behind a token that is followed by the given characters. -/
def readTo (token : Token) (rest : List Char) : LexerState :=
  { state.push token with cursor := state.cursor.passTo rest }

/-- The number of blank characters and comments from here on, and whether a line ends among
them. -/
def blankLength (inComment : Bool) : List Char → Nat × Bool
  | [] => (0, false)
  | c :: rest =>
    if isBreak c then ((blankLength false rest).1 + 1, true)
    else if inComment || c == ' ' then
      let (count, broken) := blankLength inComment rest
      (count + 1, broken)
    else if c == '#' then
      let (count, broken) := blankLength true rest
      (count + 1, broken)
    else (0, false)

/-- Passes blanks and comments. A new line outside of brackets may begin with a key. -/
def skip : LexerState :=
  let state :=
    if state.cursor.index == 0 && state.cursor.rest.head? == some '\ufeff' then state.pass 1
    else state
  let (count, broken) := blankLength false state.cursor.rest
  { state.pass count with keyAllowed := state.keyAllowed || (broken && !state.inFlow) }

/-- A token that ends all collections of lines. -/
def readMargin (token : Token) (rest : List Char) : Except Failure LexerState := do
  let state ← (state.unwind none).dropKey
  return { state with keyAllowed := false }.readTo token rest

/-- An opening bracket. -/
def readOpening (token : Token) : Except Failure LexerState := do
  let state ← state.markKey
  return { state with flow := state.flow + 1, keyAllowed := true }.push token |>.pass 1

/-- A closing bracket. -/
def readClosing (token : Token) : Except Failure LexerState := do
  let state ← state.dropKey
  if state.flow == 0 then throw .malformed
  return { state with flow := state.flow - 1, keyAllowed := false }.push token |>.pass 1

/-- A comma between brackets. -/
def readFlowEntry : Except Failure LexerState := do
  let state ← { state with keyAllowed := true }.dropKey
  return state.push .flowEntry |>.pass 1

/-- The state inside a collection of lines that begins here, where a key must be allowed. Inside
brackets nothing begins. -/
def openHere (start : Token) : Except Failure LexerState :=
  if state.inFlow then .ok state
  else if !state.keyAllowed then .error .malformed
  else .ok (state.enter state.cursor.column state.position start)

/-- The sign of an item. -/
def readBlockEntry : Except Failure LexerState := do
  let state ← state.openHere .blockSequenceStart
  let state ← { state with keyAllowed := true }.dropKey
  return state.push .blockEntry |>.pass 1

/-- The sign of a key. -/
def readKey : Except Failure LexerState := do
  let state ← state.openHere .blockMappingStart
  let state ← { state with keyAllowed := !state.inFlow }.dropKey
  return state.push .key |>.pass 1

/-- The colon behind a key. -/
def readValue : Except Failure LexerState := do
  let state ← match state.keys.lookup state.flow with
    | some place =>
      let state := { state with
        keys := state.keys.filter fun entry => entry.1 != state.flow, keyAllowed := false }
      let state := state.insert place.position .key
      pure (if state.inFlow then state
        else state.enter place.column place.position .blockMappingStart)
    | none => do
      let state ← state.openHere .blockMappingStart
      { state with keyAllowed := !state.inFlow }.dropKey
  return state.push .value |>.pass 1

/-- A token in whose place a key may stand. -/
def readPart (token : Token) (rest : List Char) : Except Failure LexerState := do
  let state ← state.markKey
  return { state with keyAllowed := false }.readTo token rest

/-- A quoted text. -/
def readQuoted (double : Bool) (rest : List Char) : Except Failure LexerState := do
  let (found, rest) ← quotedText double (rest.length + 1) rest
  state.readPart (.scalar found false) rest

/-- The least column of what belongs to the innermost collection of lines. -/
def innerColumn : Nat :=
  match state.indent with
  | none => 0
  | some indent => indent + 1

/-- A block of lines. -/
def readBlock (folded : Bool) (rest : List Char) : Except Failure LexerState := do
  let (text, rest) ← blockText folded (max state.innerColumn 1) rest
  let state ← { state with keyAllowed := true }.dropKey
  return state.readTo (.scalar (.ofChars text) false) rest

/-- A plain text. -/
def readPlain : Except Failure LexerState := do
  let characters := state.cursor.rest
  let found := plainText state.inFlow state.innerColumn characters.length characters
  let state ← state.readPart (.scalar (.ofChars found.text) true) found.rest
  return { state with keyAllowed := found.broken }

/-- Whether a plain text can begin with a character in front of the given ones. -/
def startsPlain (c : Char) (rest : List Char) : Bool :=
  !(isBlank c || isBreak c || "-?:,[]\x7b\x7d#&*!|>'\"%@\x60".toList.contains c)
    || (!endsWord rest && (c == '-' || (!state.inFlow && (c == '?' || c == ':'))))

/-- Reads one token that begins with a character in front of the given ones. -/
def readToken (c : Char) (rest : List Char) : Except Failure LexerState :=
  let atMargin := state.cursor.column == 0
  if c == '%' && atMargin then do
    let (token, rest) ← directive rest
    state.readMargin token rest
  else if atMargin && startsSeparator (c :: rest) then
    state.readMargin (if c == '-' then .documentStart else .documentEnd) (rest.drop 2)
  else if c == '[' then state.readOpening .flowSequenceStart
  else if c == '\x7b' then state.readOpening .flowMappingStart
  else if c == ']' then state.readClosing .flowSequenceEnd
  else if c == '\x7d' then state.readClosing .flowMappingEnd
  else if c == ',' then state.readFlowEntry
  else if c == '-' && endsWord rest then state.readBlockEntry
  else if c == '?' && (state.inFlow || endsWord rest) then state.readKey
  else if c == ':' && (state.inFlow || endsWord rest) then state.readValue
  else if c == '*' then do
    let (name, rest) ← anchorName rest
    state.readPart (.aliasOf name) rest
  else if c == '&' then do
    let (name, rest) ← anchorName rest
    state.readPart (.anchor name) rest
  else if c == '!' then do
    let (tag, rest) ← tagText rest
    state.readPart (.tag tag) rest
  else if c == '|' && !state.inFlow then state.readBlock false rest
  else if c == '>' && !state.inFlow then state.readBlock true rest
  else if c == '\'' then state.readQuoted false rest
  else if c == '"' then state.readQuoted true rest
  else if state.startsPlain c rest then state.readPlain
  else .error .malformed

/-- Reads on by one token of the text, or to its end. -/
def advance : Except Failure LexerState := do
  let state ← state.skip.dropStaleKeys
  let state := state.unwind (some state.cursor.column)
  match state.cursor.rest with
  | [] =>
    let state ← (state.unwind none).dropKey
    return { state with ended := true }
  | c :: rest => state.readToken c rest

/-- Whether the mark of a key may still be put in front of the next token. -/
def isOpen : Bool :=
  state.keys.any fun (_, place) => place.position == state.taken

/-- Reads on until the next token is known. -/
def fill (state : LexerState) : Nat → Except Failure LexerState
  | 0 => .error .malformed
  | fuel + 1 => do
    if state.ended then return state
    if state.tokens.isEmpty then fill (← state.advance) fuel
    else
      let state ← state.dropStaleKeys
      if state.isOpen then fill (← state.advance) fuel else return state

/-- Reads as far as it takes to know the next token. Every step passes a character. -/
def peek : Except Failure LexerState :=
  state.fill (state.cursor.rest.length + 2)

/-- The state without the next token. -/
def take : LexerState :=
  { state with taken := state.taken + 1, tokens := state.tokens.drop 1 }

/-- The state in front of a text, all characters of which must be printable. -/
def ofText (text : List Char) : Except Failure LexerState :=
  if text.all isPrintable then .ok { cursor := { rest := text } } else .error .malformed

end LexerState

end SelectionTypes.Yaml

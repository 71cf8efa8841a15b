import SelectionTypes.Text.CodePoint
import SelectionTypes.Yaml.Character
import SelectionTypes.Yaml.Failure

/-!
# `SelectionTypes.Yaml.Scalar`: texts in their written forms

A text is written plainly, between quotes, or as a block of indented lines. Each reader takes the
characters from the first one of the text on and gives the text with the characters behind it.
-/

set_option autoImplicit false

namespace SelectionTypes.Yaml

/-! ### Plain texts -/

/-- A character that has a meaning of its own inside brackets. -/
def isFlowIndicator (c : Char) : Bool :=
  c == ',' || c == '?' || c == '[' || c == ']' || c == '\x7b' || c == '\x7d'

/-- Whether a colon in front of these characters ends a plain text. -/
def endsKey (inFlow : Bool) (rest : List Char) : Bool :=
  endsWord rest || (inFlow && match rest with
    | [] => false
    | c :: _ => c == ',' || c == '[' || c == ']' || c == '\x7b' || c == '\x7d')

/-- The characters of a plain text up to a blank or its end. -/
def plainRun (inFlow : Bool) : List Char → List Char × List Char
  | [] => ([], [])
  | c :: rest =>
    if isBlank c || isBreak c || (inFlow && isFlowIndicator c) || (c == ':' && endsKey inFlow rest)
    then ([], c :: rest)
    else
      let (run, rest) := plainRun inFlow rest
      (c :: run, rest)

/-- What stands between two runs of a plain text. -/
structure PlainGap where
  /-- What the gap becomes, or nothing if no run can follow. -/
  text : List Char
  /-- The column behind the gap, if there is a break in it. -/
  column : Option Nat
  rest : List Char

/-- The gap from the line behind a break on. -/
def plainLines (first : Char) (more : List Char) (column : Nat) : List Char → PlainGap
  | ' ' :: rest => plainLines first more (column + 1) rest
  | '\r' :: '\n' :: rest =>
    if startsSeparator rest then ⟨[], some 0, rest⟩
    else plainLines first (more ++ ['\n']) 0 rest
  | c :: rest =>
    if isBreak c then
      if startsSeparator rest then ⟨[], some 0, rest⟩
      else plainLines first (more ++ [keptBreak c]) 0 rest
    else ⟨foldBreaks first more, some column, c :: rest⟩
  | [] => ⟨foldBreaks first more, some column, []⟩

/-- The gap behind a run of a plain text. -/
def plainGap (text : List Char) : PlainGap :=
  let spaces := text.takeWhile (· == ' ')
  let rest := text.dropWhile (· == ' ')
  match takeBreak rest with
  | none => ⟨spaces, none, rest⟩
  | some (first, rest) =>
    if startsSeparator rest then ⟨[], some 0, rest⟩ else plainLines first [] 0 rest

/-- A plain text. -/
structure PlainText where
  text : List Char
  /-- Whether a break has been passed at the end. -/
  broken : Bool
  rest : List Char

/-- A plain text whose lines are indented to a column at least. Inside brackets the indentation
does not matter. -/
def plainText (inFlow : Bool) (indent : Nat) : Nat → List Char → PlainText
  | 0, rest => ⟨[], false, rest⟩
  | fuel + 1, characters =>
    if characters.head? == some '#' then ⟨[], false, characters⟩
    else
      let (run, rest) := plainRun inFlow characters
      if run.isEmpty then ⟨[], false, rest⟩
      else
        let gap := plainGap rest
        let outdented := !inFlow && gap.column.any fun column => column < indent
        if gap.text.isEmpty || gap.rest.head? == some '#' || outdented then
          ⟨run, gap.column.isSome, gap.rest⟩
        else
          let more := plainText inFlow indent fuel gap.rest
          if more.text.isEmpty then ⟨run, gap.column.isSome, more.rest⟩
          else { more with text := run ++ gap.text ++ more.text }

/-! ### Texts between quotes -/

/-- The breaks behind a break in a quoted text. No line of it may separate documents. -/
def quotedLines (atStart : Bool) (text : List Char) : Except Failure (List Char × List Char) :=
  if atStart && startsSeparator text then .error .malformed
  else
    match text with
    | [] => .ok ([], [])
    | '\r' :: '\n' :: rest => do
      let (more, rest) ← quotedLines true rest
      return ('\n' :: more, rest)
    | c :: rest =>
      if isBlank c then quotedLines false rest
      else if isBreak c then do
        let (more, rest) ← quotedLines true rest
        return (keptBreak c :: more, rest)
      else .ok ([], c :: rest)
termination_by text.length

/-- The blanks and breaks between two runs of a quoted text, which must not be its end. -/
def quotedGap (text : List Char) : Except Failure (List Char × List Char) :=
  let blanks := text.takeWhile isBlank
  let rest := text.dropWhile isBlank
  match takeBreak rest with
  | some (first, rest) => do
    let (more, rest) ← quotedLines true rest
    return (foldBreaks first more, rest)
  | none => if rest.isEmpty then .error .malformed else .ok (blanks, rest)

/-- The characters that an escape of one character stands for. -/
def escapedCharacters : List (Char × Char) :=
  [('0', '\x00'), ('a', '\x07'), ('b', '\x08'), ('t', '\t'), ('\t', '\t'), ('n', '\n'),
    ('v', '\x0b'), ('f', '\x0c'), ('r', '\r'), ('e', '\x1b'), (' ', ' '), ('"', '"'),
    ('\\', '\\'), ('/', '/'), ('N', '\u0085'), ('_', '\u00a0'), ('L', '\u2028'), ('P', '\u2029')]

/-- How many digits follow the letter of a numeric escape. -/
def escapeDigits : List (Char × Nat) :=
  [('x', 2), ('u', 4), ('U', 8)]

/-- The value of a hexadecimal digit. -/
def hexDigit? (c : Char) : Option Nat :=
  if '0' ≤ c && c ≤ '9' then some (c.toNat - '0'.toNat)
  else if 'a' ≤ c && c ≤ 'f' then some (c.toNat - 'a'.toNat + 10)
  else if 'A' ≤ c && c ≤ 'F' then some (c.toNat - 'A'.toNat + 10)
  else none

/-- The number that hexadecimal digits stand for. -/
def hexNumber? (digits : List Char) : Option Nat :=
  digits.foldlM (fun number digit => (hexDigit? digit).map fun value => number * 16 + value) 0

/-- The code point with a number. -/
def codePointOf (number : Nat) : Except Failure CodePoint :=
  match CodePoint.ofNat? number with
  | some point => .ok point
  | none => .error (if number < 0x80000000 then .impossibleValue else .tooLarge)

/-- What an escape stands for, from the character behind the backslash on. -/
def escape : List Char → Except Failure (CodePoints × List Char)
  | [] => .error .malformed
  | c :: rest =>
    match escapedCharacters.lookup c with
    | some found => .ok ([.character found], rest)
    | none =>
      match escapeDigits.lookup c with
      | some count =>
        let digits := rest.take count
        match hexNumber? digits with
        | some number =>
          if digits.length < count then .error .malformed
          else do return ([← codePointOf number], rest.drop count)
        | none => .error .malformed
      | none =>
        match takeBreak (c :: rest) with
        | some (_, rest) => do
          let (breaks, rest) ← quotedLines true rest
          return (.ofChars breaks, rest)
        | none => .error .malformed

/-- A quoted text from behind the opening quote on. -/
def quotedText (double : Bool) : Nat → List Char → Except Failure (CodePoints × List Char)
  | 0, _ => .error .malformed
  | _, [] => .error .malformed
  | fuel + 1, c :: rest => do
    let goOn (found : CodePoints) (rest : List Char) := do
      let (more, rest) ← quotedText double fuel rest
      return (found ++ more, rest)
    if isBlank c || isBreak c then
      let (gap, rest) ← quotedGap (c :: rest)
      goOn (.ofChars gap) rest
    else if double && c == '"' then return ([], rest)
    else if double && c == '\\' then
      let (found, rest) ← escape rest
      goOn found rest
    else if !double && c == '\'' then
      if rest.head? == some '\'' then goOn [.character '\''] (rest.drop 1)
      else return ([], rest)
    else goOn [.character c] rest

/-! ### Blocks of lines -/

/-- What happens to the breaks at the end of a block. -/
inductive Chomping where
  /-- One break stays. -/
  | clip
  /-- No break stays. -/
  | strip
  /-- All breaks stay. -/
  | keep
  deriving Repr, DecidableEq

/-- What stands behind the sign of a block. -/
structure BlockHeader where
  chomping : Chomping := .clip
  /-- How much deeper than its surroundings the block is indented. -/
  increment : Option Nat := none

/-- Reads the mark for the end of a block. -/
def chompingMark : List Char → Option (Chomping × List Char)
  | '+' :: rest => some (.keep, rest)
  | '-' :: rest => some (.strip, rest)
  | _ => none

/-- Reads the digit for the indentation of a block, which must not be zero. -/
def incrementMark : List Char → Except Failure (Option Nat × List Char)
  | [] => .ok (none, [])
  | c :: rest =>
    if c == '0' then .error .malformed
    else if '1' ≤ c && c ≤ '9' then .ok (some (c.toNat - '0'.toNat), rest)
    else .ok (none, c :: rest)

/-- Reads what stands behind the sign of a block, in either order. -/
def blockHeader (text : List Char) : Except Failure (BlockHeader × List Char) := do
  match chompingMark text with
  | some (chomping, rest) =>
    let (increment, rest) ← incrementMark rest
    return ({ chomping, increment }, rest)
  | none =>
    let (increment, rest) ← incrementMark text
    match increment, chompingMark rest with
    | some _, some (chomping, rest) => return ({ chomping, increment }, rest)
    | _, _ => return ({ increment }, rest)

/-- The rest of a line with nothing but a comment, and what stands behind its break. -/
def blankLineEnd (text : List Char) : Except Failure (List Char) :=
  let rest := text.dropWhile (· == ' ')
  let rest := if rest.head? == some '#' then rest.dropWhile fun c => !isBreak c else rest
  match takeBreak rest with
  | some (_, rest) => .ok rest
  | none => if rest.isEmpty then .ok [] else .error .malformed

/-- Where a block goes on after empty lines. -/
structure BlockGap where
  breaks : List Char
  column : Nat
  rest : List Char

/-- Passes empty lines and the indentation of the next line, whatever it is. The number is the
greatest column reached. -/
def findIndentation (breaks : List Char) (column greatest : Nat) : List Char → BlockGap × Nat
  | ' ' :: rest => findIndentation breaks (column + 1) (max greatest (column + 1)) rest
  | '\r' :: '\n' :: rest => findIndentation (breaks ++ ['\n']) 0 greatest rest
  | c :: rest =>
    if isBreak c then findIndentation (breaks ++ [keptBreak c]) 0 greatest rest
    else (⟨breaks, column, c :: rest⟩, greatest)
  | [] => (⟨breaks, column, []⟩, greatest)

/-- Passes empty lines and the indentation of the next line up to a column. -/
def passIndentation (indent : Nat) (breaks : List Char) (column : Nat) : List Char → BlockGap
  | '\r' :: '\n' :: rest => passIndentation indent (breaks ++ ['\n']) 0 rest
  | c :: rest =>
    if c == ' ' && column < indent then passIndentation indent breaks (column + 1) rest
    else if isBreak c then passIndentation indent (breaks ++ [keptBreak c]) 0 rest
    else ⟨breaks, column, c :: rest⟩
  | [] => ⟨breaks, column, []⟩

/-- What the break between two lines of a block becomes. In a folded block a break between lines
that begin without a blank is a space, unless empty lines follow. -/
def lineJoint (folded : Bool) (lineBreak : List Char) (line next breaks : List Char) :
    List Char :=
  let flush (text : List Char) : Bool := !text.head?.any isBlank
  if folded && lineBreak == ['\n'] && flush line && flush next then
    if breaks.isEmpty then [' '] else []
  else lineBreak

/-- The lines of a block from the indentation of a line on. -/
def blockLines (folded : Bool) (chomping : Chomping) (indent : Nat) :
    Nat → BlockGap → List Char × List Char
  | 0, gap => ([], gap.rest)
  | fuel + 1, gap =>
    let line := gap.rest.takeWhile fun c => !isBreak c
    let rest := gap.rest.dropWhile fun c => !isBreak c
    let (lineBreak, rest) := match takeBreak rest with
      | some (kept, rest) => ([kept], rest)
      | none => ([], rest)
    let next := passIndentation indent [] 0 rest
    if next.column == indent && !next.rest.isEmpty then
      let joint := lineJoint folded lineBreak line next.rest next.breaks
      let (more, rest) := blockLines folded chomping indent fuel next
      (gap.breaks ++ line ++ joint ++ more, rest)
    else
      let ending := match chomping with
        | .strip => []
        | .clip => lineBreak
        | .keep => lineBreak ++ next.breaks
      (gap.breaks ++ line ++ ending, next.rest)

/-- The text of a block from behind its sign on. Its lines are indented to the least column or
deeper. -/
def blockText (folded : Bool) (leastIndent : Nat) (text : List Char) :
    Except Failure (List Char × List Char) := do
  let (header, rest) ← blockHeader text
  if !endsField rest then throw .malformed
  let rest ← blankLineEnd rest
  let (gap, indent) := match header.increment with
    | none =>
      let (gap, greatest) := findIndentation [] 0 0 rest
      (gap, max leastIndent greatest)
    | some increment =>
      let indent := leastIndent + increment - 1
      (passIndentation indent [] 0 rest, indent)
  if gap.column == indent && !gap.rest.isEmpty then
    return blockLines folded header.chomping indent gap.rest.length gap
  else return (if header.chomping == .keep then gap.breaks else [], gap.rest)

end SelectionTypes.Yaml

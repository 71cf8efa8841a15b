import SelectionTypes.Decimal.Reading
import SelectionTypes.Yaml.Scalar

/-!
# `SelectionTypes.Yaml.Token`: the tokens of YAML

Indentation is turned into tokens: a collection of lines begins with a token of its own and ends
with `blockEnd`. A key is marked by a token in front of it.
-/

set_option autoImplicit false

namespace SelectionTypes.Yaml

/-- The written form of a tag: a handle, if there is one, and what follows it. -/
structure TagText where
  handle : Option String
  suffix : String
  deriving Repr, DecidableEq

/-- A token. -/
inductive Token where
  | versionDirective (major : Nat)
  | tagDirective (handle meaning : String)
  | otherDirective
  | documentStart
  | documentEnd
  | blockSequenceStart
  | blockMappingStart
  | blockEnd
  | flowSequenceStart
  | flowSequenceEnd
  | flowMappingStart
  | flowMappingEnd
  | blockEntry
  | flowEntry
  | key
  | value
  | aliasOf (name : String)
  | anchor (name : String)
  | tag (tag : TagText)
  /-- A text, and whether it is written plainly. -/
  | scalar (text : CodePoints) (plain : Bool)
  deriving Repr, DecidableEq

/-! ### Anchors and tags -/

/-- A name of letters, digits, hyphens and underscores. -/
def word (text : List Char) : Except Failure (List Char × List Char) :=
  let found := text.takeWhile isWordCharacter
  if found.isEmpty then .error .malformed else .ok (found, text.dropWhile isWordCharacter)

/-- The name behind the sign of an anchor or an alias. -/
def anchorName (text : List Char) : Except Failure (String × List Char) := do
  let (name, rest) ← word text
  let closes := endsWord rest || match rest with
    | [] => true
    | c :: _ => "?:,]\x7d%@\x60".toList.contains c
  if closes then return (String.ofList name, rest) else throw .malformed

/-- The bytes of percent escapes, which stand one behind the other. -/
def percentBytes : List Char → Except Failure (List UInt8 × List Char)
  | '%' :: high :: low :: rest =>
    match hexDigit? high, hexDigit? low with
    | some high, some low => do
      let (bytes, rest) ← percentBytes rest
      return (UInt8.ofNat (high * 16 + low) :: bytes, rest)
    | _, _ => .error .malformed
  | '%' :: _ => .error .malformed
  | rest => .ok ([], rest)

/-- A character of a tag. -/
def isTagCharacter (c : Char) : Bool :=
  isWordCharacter c || ";/?:@&=+$,_.!~*'()[]%".toList.contains c

/-- The characters of a tag, with escapes resolved. -/
def tagCharacters : Nat → List Char → Except Failure (List Char × List Char)
  | 0, rest => .ok ([], rest)
  | _, [] => .ok ([], [])
  | fuel + 1, c :: rest => do
    if c == '%' then
      let (bytes, rest) ← percentBytes (c :: rest)
      match String.fromUTF8? ⟨bytes.toArray⟩ with
      | none => throw .malformed
      | some text =>
        let (more, rest) ← tagCharacters fuel rest
        return (text.toList ++ more, rest)
    else if isTagCharacter c then
      let (more, rest) ← tagCharacters fuel rest
      return (c :: more, rest)
    else return ([], c :: rest)

/-- The text of a tag, which is not empty. -/
def tagSuffix (text : List Char) : Except Failure (String × List Char) := do
  let (found, rest) ← tagCharacters text.length text
  if rest.length == text.length then throw .malformed
  else return (String.ofList found, rest)

/-- A handle: an exclamation mark, or a name between two. -/
def tagHandle : List Char → Except Failure (String × List Char)
  | '!' :: rest =>
    if rest.head? == some ' ' then .ok ("!", rest)
    else
      let name := rest.takeWhile isWordCharacter
      match rest.dropWhile isWordCharacter with
      | '!' :: rest => .ok (String.ofList ('!' :: name ++ ['!']), rest)
      | _ => .error .malformed
  | _ => .error .malformed

/-- A tag from behind its exclamation mark on. -/
def tagText (text : List Char) : Except Failure (TagText × List Char) := do
  let (tag, rest) ← match text with
    | '<' :: rest => do
      let (suffix, rest) ← tagSuffix rest
      match rest with
      | '>' :: rest => pure (TagText.mk none suffix, rest)
      | _ => throw .malformed
    | _ =>
      if endsWord text then pure (TagText.mk none "!", text)
      else if (text.takeWhile fun c => c != ' ' && !isBreak c).contains '!' then do
        let (handle, rest) ← tagHandle ('!' :: text)
        let (suffix, rest) ← tagSuffix rest
        pure (TagText.mk (some handle) suffix, rest)
      else do
        let (suffix, rest) ← tagSuffix text
        pure (TagText.mk (some "!") suffix, rest)
  if endsField rest then return (tag, rest) else throw .malformed

/-! ### Directives -/

/-- The digits of a version number. Too many of them are no number. -/
def versionNumber (text : List Char) : Except Failure (Nat × List Char) :=
  let digits := text.takeWhile Decimal.isDigit
  if digits.isEmpty then .error .malformed
  else if Decimal.mostDigits < digits.length then .error .impossibleValue
  else .ok (Decimal.natural digits, text.dropWhile Decimal.isDigit)

/-- The number in front of the point of a version. -/
def versionMajor (text : List Char) : Except Failure (Nat × List Char) := do
  let (major, rest) ← versionNumber (text.dropWhile (· == ' '))
  match rest with
  | '.' :: rest =>
    let (_, rest) ← versionNumber rest
    if endsField rest then return (major, rest) else throw .malformed
  | _ => throw .malformed

/-- A handle and its meaning. -/
def tagMeaning (text : List Char) : Except Failure (Token × List Char) := do
  let (handle, rest) ← tagHandle (text.dropWhile (· == ' '))
  if rest.head? != some ' ' then throw .malformed
  let (meaning, rest) ← tagSuffix (rest.dropWhile (· == ' '))
  if endsField rest then return (.tagDirective handle meaning, rest) else throw .malformed

/-- A directive from behind its percent sign to the end of its line. -/
def directive (text : List Char) : Except Failure (Token × List Char) := do
  let (name, rest) ← word text
  if !endsField rest then throw .malformed
  let (token, rest) ← match String.ofList name with
    | "YAML" => do
      let (major, rest) ← versionMajor rest
      pure (Token.versionDirective major, rest)
    | "TAG" => tagMeaning rest
    | _ => pure (.otherDirective, rest.dropWhile fun c => !isBreak c)
  return (token, ← blankLineEnd rest)

end SelectionTypes.Yaml

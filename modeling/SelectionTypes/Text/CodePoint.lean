/-!
# `SelectionTypes.Text.CodePoint`: texts with halves of surrogate pairs

An escape gives a character or half of a surrogate pair. A half is no character, and a text with
one is no Unicode text. `CodePoints.joined` reads a high half with a low half behind it as the
character that the two stand for. `CodePoints.stretched` writes every half at greater length, so
two texts that are made from the two readings differ if a half is in them.
-/

set_option autoImplicit false

namespace SelectionTypes

/-- A character, or half of a surrogate pair with ten bits of a character. -/
inductive CodePoint where
  | character (c : Char)
  | high (bits : Fin 1024)
  | low (bits : Fin 1024)
  deriving Repr, DecidableEq

namespace CodePoint

/-- The code point with a number. -/
def ofNat? (number : Nat) : Option CodePoint :=
  if number.isValidChar then some (.character (Char.ofNat number))
  else if number < 0xdc00 then some (.high (.ofNat 1024 (number - 0xd800)))
  else if number < 0xe000 then some (.low (.ofNat 1024 (number - 0xdc00)))
  else none

/-- The character that a code point is, if it is one. -/
def character? : CodePoint → Option Char
  | character c => some c
  | _ => none

/-- The character that two halves stand for. -/
def pair (first second : Fin 1024) : Char :=
  Char.ofNat (0x10000 + first.val * 1024 + second.val)

/-- What stands in place of half of a pair. -/
def replacement : Char := '\ufffd'

/-- A code point with a number of replacements for half of a pair. -/
def replaced (count : Nat) : CodePoint → List Char
  | character c => [c]
  | _ => List.replicate count replacement

end CodePoint

/-- A text in which halves of surrogate pairs may stand. -/
abbrev CodePoints := List CodePoint

namespace CodePoints

/-- The code points of characters. -/
def ofChars (text : List Char) : CodePoints :=
  text.map .character

/-- The Unicode text that code points are, if no half is among them. -/
def text? (codePoints : CodePoints) : Option String :=
  (codePoints.mapM CodePoint.character?).map String.ofList

/-- The characters of a text in which halves that form a pair are one character. -/
def joinedChars : CodePoints → List Char
  | .high first :: .low second :: rest => CodePoint.pair first second :: joinedChars rest
  | point :: rest => point.replaced 1 ++ joinedChars rest
  | [] => []

/-- The text in which halves that form a pair are one character. -/
def joined (codePoints : CodePoints) : String :=
  String.ofList codePoints.joinedChars

/-- The text in which every byte of a half is replaced. -/
def shown (codePoints : CodePoints) : String :=
  String.ofList (codePoints.flatMap (·.replaced 3))

/-- The text in which every half is longer than elsewhere. -/
def stretched (codePoints : CodePoints) : String :=
  String.ofList (codePoints.flatMap (·.replaced 4))

end CodePoints

end SelectionTypes

import SelectionTypes.Text.HiddenTable

/-!
# `SelectionTypes.Text.Shown`: texts as messages show them

A text is shown between single quotes, or between double quotes when it has single quotes and no
double ones. The quote and the backslash are escaped, and so is every character that cannot be
seen, by its number. Bytes are shown alike behind the letter `b`, and every byte beyond ASCII is
escaped.
-/

set_option autoImplicit false

namespace SelectionTypes.Text

/-- A character that can be seen, or a space. -/
def isVisible (c : Char) : Bool :=
  if c.toNat < 0x80 then 0x20 ≤ c.toNat && c.toNat < 0x7f
  else !hiddenRanges.any fun range => range.1 ≤ c.toNat && c.toNat ≤ range.2

/-- A backslash, a letter and the digits of a number to the base 16. -/
def numericEscape (letter : Char) (width number : Nat) : List Char :=
  let digits := Nat.toDigits 16 number
  '\\' :: letter :: List.replicate (width - digits.length) '0' ++ digits

/-- The escape of a character that cannot be seen. -/
def hiddenEscape (c : Char) : List Char :=
  match c with
  | '\t' => ['\\', 't']
  | '\n' => ['\\', 'n']
  | '\r' => ['\\', 'r']
  | c =>
    if c.toNat < 0x100 then numericEscape 'x' 2 c.toNat
    else if c.toNat < 0x10000 then numericEscape 'u' 4 c.toNat
    else numericEscape 'U' 8 c.toNat

/-- A character as it is shown between quotes. -/
def shownChar (quote c : Char) : List Char :=
  if c == quote || c == '\\' then ['\\', c]
  else if isVisible c then [c]
  else hiddenEscape c

/-- The quote that characters are shown between. -/
def quoteFor (text : List Char) : Char :=
  if text.contains '\'' && !text.contains '"' then '"' else '\''

/-- A text between quotes. -/
def shown (text : String) : String :=
  let quote := quoteFor text.toList
  String.ofList (quote :: text.toList.flatMap (shownChar quote) ++ [quote])

/-- A byte as it is shown between quotes. -/
def shownByte (quote : Char) (byte : UInt8) : List Char :=
  if byte < 0x80 then shownChar quote (Char.ofNat byte.toNat) else numericEscape 'x' 2 byte.toNat

/-- Bytes between quotes, behind the letter `b`. -/
def shownBytes (bytes : List UInt8) : String :=
  let quote := quoteFor (bytes.map fun byte => Char.ofNat byte.toNat)
  String.ofList ('b' :: quote :: bytes.flatMap (shownByte quote) ++ [quote])

end SelectionTypes.Text

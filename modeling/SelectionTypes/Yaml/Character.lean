/-!
# `SelectionTypes.Yaml.Character`: characters of YAML

Lines end at a break. A carriage return with a line feed is one break, and a break is kept as a
line feed, except for the line and paragraph separators, which are kept as they are.
-/

set_option autoImplicit false

namespace SelectionTypes.Yaml

/-- A character that ends a line. -/
def isBreak (c : Char) : Bool :=
  c == '\n' || c == '\r' || c == '\u0085' || c == '\u2028' || c == '\u2029'

/-- A blank inside a line. -/
def isBlank (c : Char) : Bool :=
  c == ' ' || c == '\t'

/-- A character that a text may contain. -/
def isPrintable (c : Char) : Bool :=
  let n := c.toNat
  n == 0x09 || n == 0x0a || n == 0x0d || (0x20 ≤ n && n ≤ 0x7e) || n == 0x85
    || (0xa0 ≤ n && n ≤ 0xd7ff) || (0xe000 ≤ n && n ≤ 0xfffd) || 0x10000 ≤ n

/-- A letter, a digit, a hyphen or an underscore. -/
def isWordCharacter (c : Char) : Bool :=
  ('0' ≤ c && c ≤ '9') || ('A' ≤ c && c ≤ 'Z') || ('a' ≤ c && c ≤ 'z')
    || c == '-' || c == '_'

/-- Whether a line ends here or a space comes. -/
def endsField : List Char → Bool
  | [] => true
  | c :: _ => c == ' ' || isBreak c

/-- Whether a line ends here or a blank comes. -/
def endsWord : List Char → Bool
  | [] => true
  | c :: _ => isBlank c || isBreak c

/-- What a break is kept as. -/
def keptBreak (c : Char) : Char :=
  if c == '\u2028' || c == '\u2029' then c else '\n'

/-- Takes a break away, and gives what it is kept as. -/
def takeBreak : List Char → Option (Char × List Char)
  | '\r' :: '\n' :: rest => some ('\n', rest)
  | c :: rest => if isBreak c then some (keptBreak c, rest) else none
  | [] => none

/-- Whether a line that starts here separates documents. -/
def startsSeparator : List Char → Bool
  | '-' :: '-' :: '-' :: rest => endsWord rest
  | '.' :: '.' :: '.' :: rest => endsWord rest
  | _ => false

/-- What breaks between two lines of a text become: one break is a space, and of several all but
the first stay. A separator stays in any case. -/
def foldBreaks (first : Char) (more : List Char) : List Char :=
  if first != '\n' then first :: more else if more.isEmpty then [' '] else more

end SelectionTypes.Yaml

import SelectionTypes.Text.LetterCase

/-!
# `SelectionTypes.Schema.Suggestion`: names close to an unknown name

The distance of two names is the least number of insertions, deletions, replacements and exchanges
of neighbours that leads from one to the other, where no letter takes part in two exchanges. Names
are compared in lower case, and two names that differ in letter case alone have distance one.
`Suggestion.nearest` gives the names within a distance that grows with the length of the unknown
name.
-/

set_option autoImplicit false

namespace SelectionTypes.Suggestion

/-- The next row of the distance table. `earlier` and `previous` are the two rows above, `last` is
the character before `c` in the first name, and `before` the one before the head of the second.
`left` is the cell to the left, which is the last of the row so far. -/
def cells (c : Char) (last : Option Char) (before : Option Char) (left : Nat) :
    List Char → List Nat → List Nat → List Nat
  | d :: rest, earlier, diagonal :: above :: previous =>
    let cost := if c == d then 0 else 1
    let plain := min (min (above + 1) (left + 1)) (diagonal + cost)
    -- Exchanged neighbours cost one more than the cell in front of both.
    let cell := match last, before, earlier with
      | some l, some b, corner :: _ => if c == b && l == d then min plain (corner + 1) else plain
      | _, _, _ => plain
    -- The row above the previous one is read one cell further to the left.
    let earlier := if before.isSome then earlier.drop 1 else earlier
    cell :: cells c last (some d) cell rest earlier (above :: previous)
  | _, _, _ => []

/-- The last row of the distance table of the rest of the first name and the second name. -/
def rows (second : List Char) (index : Nat) (last : Option Char) (earlier previous : List Nat) :
    List Char → List Nat
  | [] => previous
  | c :: rest =>
    let row := (index + 1) :: cells c last none (index + 1) second earlier previous
    rows second (index + 1) (some c) previous row rest

/-- The distance of two texts. -/
def distance (first second : List Char) : Nat :=
  (rows second 0 none [] (List.range (second.length + 1)) first).getLast?.getD 0

/-- The distance of two names if it is at most a bound. -/
def within? (bound : Nat) (name option : String) : Option Nat :=
  if name == option then some 0
  else
    let first := Text.lower name.toList
    let second := Text.lower option.toList
    if first == second then some 1
    else
      let d := distance first second
      if d ≤ bound then some d else none

/-- The number that a run of digits writes. -/
def digitsValue (digits : List Char) : Nat :=
  digits.foldl (fun n c => n * 10 + (c.toNat - '0'.toNat)) 0

/-- The natural order of texts: runs of digits compare by their values, and the texts between them
by their characters. The count bounds the number of runs. -/
def naturalLe : Nat → List Char → List Char → Bool
  | 0, _, _ => true
  | count + 1, first, second =>
    let prose (text : List Char) := text.takeWhile fun c => !c.isDigit
    let number (text : List Char) := (text.dropWhile fun c => !c.isDigit).takeWhile Char.isDigit
    let behind (text : List Char) := (text.dropWhile fun c => !c.isDigit).dropWhile Char.isDigit
    if prose first != prose second then String.ofList (prose first) < String.ofList (prose second)
    else if (number first).isEmpty then true
    else if (number second).isEmpty then false
    else if digitsValue (number first) != digitsValue (number second) then
      digitsValue (number first) < digitsValue (number second)
    else if number first != number second then
      String.ofList (number first) < String.ofList (number second)
    else naturalLe count (behind first) (behind second)

/-- The options close to a name, the nearest first and equally near ones in natural order. -/
def nearest (name : String) (options : List String) : List String :=
  let bound := name.length * 2 / 5 + 1
  let close := options.eraseDups.filterMap fun option =>
    (within? bound name option).map fun d => (d, option)
  let le (first second : Nat × String) : Bool :=
    first.1 < second.1 || (first.1 == second.1 &&
      naturalLe (first.2.length + 1) first.2.toList second.2.toList)
  (close.mergeSort le).map Prod.snd

/-- A name between single quotes. -/
def quoted (name : String) : String :=
  "'" ++ name ++ "'"

/-- The question that offers names, of which at most five are named. -/
def question (names : List String) : String :=
  match (names.take 5).map quoted with
  | [] => ""
  | [one] => " Did you mean " ++ one ++ "?"
  | [one, other] => " Did you mean " ++ one ++ " or " ++ other ++ "?"
  | all =>
    " Did you mean " ++ ", ".intercalate all.dropLast ++ ", or " ++ all.getLast?.getD "" ++ "?"

end SelectionTypes.Suggestion

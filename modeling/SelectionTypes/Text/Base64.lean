/-!
# `SelectionTypes.Text.Base64`: bytes written in 64 characters

Four characters stand for three bytes, and the sign `=` fills up the last four. Reading is
lenient: other characters are passed over, and so is the sign where it fills nothing up. Nothing is
read behind the signs that complete four characters.
-/

set_option autoImplicit false

namespace SelectionTypes.Text.Base64

/-- The characters in the order of their values. -/
def letters : List Char :=
  "ABCDEFGHIJKLMNOPQRSTUVWXYZabcdefghijklmnopqrstuvwxyz0123456789+/".toList

/-- The value of a character. -/
def value? (c : Char) : Option Nat :=
  letters.findIdx? (· == c)

/-- The byte that a character completes, if it completes one. `place` is the number of characters
in front of it that belong together with it, and `kept` is what the one in front of it left over. -/
def completed (place kept value : Nat) : List UInt8 :=
  match place with
  | 0 => []
  | 1 => [UInt8.ofNat (kept * 4 + value / 16)]
  | 2 => [UInt8.ofNat (kept * 16 + value / 4)]
  | _ => [UInt8.ofNat (kept * 64 + value)]

/-- What a character leaves over for the next byte. -/
def leftOver (place value : Nat) : Nat :=
  match place with
  | 0 => value
  | 1 => value % 16
  | 2 => value % 4
  | _ => 0

/-- Reads bytes from a place among four characters on. `signs` is the number of signs directly in
front. It fails if the text ends within four characters. -/
def readFrom (place kept signs : Nat) : List Char → Option (List UInt8)
  | [] => if place == 0 then some [] else none
  | c :: rest =>
    if c == '=' then
      if 2 ≤ place then
        if 4 ≤ place + signs + 1 then some [] else readFrom place kept (signs + 1) rest
      else readFrom place kept signs rest
    else
      match value? c with
      | none => readFrom place kept signs rest
      | some value =>
        (readFrom ((place + 1) % 4) (leftOver place value) 0 rest).map
          (completed place kept value ++ ·)

/-- The bytes that a text stands for. -/
def decode? (text : List Char) : Option (List UInt8) :=
  readFrom 0 0 0 text

end SelectionTypes.Text.Base64

/-!
# `SelectionTypes.CommandLine.Suggestion`: words close to an unknown word

Two texts are matched block by block: their longest common block first, the first one of several,
and then what stands in front of it and behind it. `Similarity.matched` counts the characters of
all blocks. Two words are close if the blocks make up three fifths of them or more.
`Similarity.closest` gives at most three words that are close to an unknown one.
-/

set_option autoImplicit false

namespace SelectionTypes.Similarity

/-- The number of characters that two texts have in common at their heads. -/
def commonHead : List Char → List Char → Nat
  | c :: first, d :: second => if c == d then commonHead first second + 1 else 0
  | _, _ => 0

/-- A block that two texts have in common, by its places in them and its length. -/
structure Block where
  first : Nat
  second : Nat
  length : Nat

/-- The longest common block of two texts, the first in the first text among several, and then the
first in the second. -/
def longestBlock (first second : List Char) : Block :=
  (List.range first.length).foldl
    (fun best i =>
      (List.range second.length).foldl
        (fun best j =>
          let length := commonHead (first.drop i) (second.drop j)
          if best.length < length then ⟨i, j, length⟩ else best)
        best)
    ⟨0, 0, 0⟩

/-- The number of characters in the common blocks of two texts. The count bounds the nesting of
blocks. -/
def matchedWithin : Nat → List Char → List Char → Nat
  | 0, _, _ => 0
  | count + 1, first, second =>
    let block := longestBlock first second
    if block.length == 0 then 0
    else
      block.length
        + matchedWithin count (first.take block.first) (second.take block.second)
        + matchedWithin count (first.drop (block.first + block.length))
          (second.drop (block.second + block.length))

/-- The number of characters in the common blocks of two texts. -/
def matched (first second : List Char) : Nat :=
  matchedWithin first.length first second

/-- A word, and how much of it and of the unknown word the common blocks make up. -/
structure Candidate where
  word : String
  matched : Nat
  total : Nat

namespace Candidate

/-- Whether the blocks make up three fifths or more. -/
def isClose (candidate : Candidate) : Bool :=
  3 * candidate.total ≤ 10 * candidate.matched

/-- Whether a candidate comes before another: the closer one, and of equally close ones the one
that is later in the order of words. -/
def precedes (first second : Candidate) : Bool :=
  let left := first.matched * second.total
  let right := second.matched * first.total
  right < left || (left == right && second.word < first.word)

end Candidate

/-- The words closest to an unknown one, at most three, in the order of words. -/
def closest (unknown : String) (words : List String) : List String :=
  let candidates := words.map fun word =>
    Candidate.mk word (matched word.toList unknown.toList) (word.length + unknown.length)
  let best := ((candidates.filter Candidate.isClose).mergeSort Candidate.precedes).take 3
  (best.map Candidate.word).mergeSort fun first second => first < second

end SelectionTypes.Similarity

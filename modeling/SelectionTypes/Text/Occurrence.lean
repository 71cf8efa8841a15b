/-!
# `SelectionTypes.Text.Occurrence`: texts inside texts
-/

set_option autoImplicit false

namespace SelectionTypes.Text

/-- Whether a text occurs in another one, at any place. -/
def occursIn (text : List Char) : List Char → Bool
  | [] => text.isEmpty
  | c :: rest => text.isPrefixOf (c :: rest) || occursIn text rest

end SelectionTypes.Text

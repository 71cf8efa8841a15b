import SelectionTypes.Selection.FragmentTable

/-!
# `SelectionTypes.Selection.Inline`: fragment spreads replaced by what they spread

`Selection.inline` replaces each spread, at any depth, by an inline fragment on the type of the
fragment it names. The inline fragment has the directives of the spread. A fragment that contains
a spread of itself, at any depth, has no such form.
-/

set_option autoImplicit false

namespace SelectionTypes

namespace Selection

/-- Selections without spreads, inside the fragments `entered`. -/
def inlineWithin (table : FragmentTable) (entered : List String) (selections : List Selection) :
    Except GenerationError (List Selection) :=
  match selections with
  | [] => .ok []
  | .field head inner :: rest => do
    let inner ← inlineWithin table entered inner
    let rest ← inlineWithin table entered rest
    return .field head inner :: rest
  | .inlined condition directives inner :: rest => do
    let inner ← inlineWithin table entered inner
    let rest ← inlineWithin table entered rest
    return .inlined condition directives inner :: rest
  | .spread name directives :: rest =>
    match _found : table.resolve entered name with
    | .error error => .error error
    | .ok loaded => do
      -- The fragment leaves the table while it is entered, as in `distributeWithin`.
      let inner ← inlineWithin (table.without name) (name :: entered) loaded.fragment.selections
      let rest ← inlineWithin table entered rest
      return .inlined (some loaded.fragment.onType) directives inner :: rest
termination_by (table.length, sizeOf selections)
decreasing_by
  all_goals first
    | exact Prod.Lex.left _ _ (FragmentTable.length_without_lt_of_resolve _found)
    | (apply Prod.Lex.right; simp; try omega)

/-- Selections without spreads. -/
def inline (table : FragmentTable) (selections : List Selection) :
    Except GenerationError (List Selection) :=
  inlineWithin table [] selections

end Selection

end SelectionTypes

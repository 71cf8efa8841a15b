import SelectionTypes.Document.Directives

/-!
# `SelectionTypes.Selection.Merge`: fields selected more than once

`Selection.merge` leaves one field for each response key among siblings, at any depth. The first
field of a key stays where it is, and it takes the sub-selections of the later ones. Only siblings
in one list are merged, so a field inside an inline fragment stays there.
-/

set_option autoImplicit false

namespace SelectionTypes

namespace Selection

/-- The first of two fields of one response key, with the sub-selections of both. A field without
sub-selections is left as it is and adds nothing. -/
def joinFields (first : FieldHead) (inner : List Selection) (later : FieldHead)
    (added : List Selection) : Selection :=
  if inner.isEmpty || added.isEmpty then .field first inner
  else
    .field
      { first with
        directives := if first.directives.isEmpty then later.directives else first.directives }
      (inner ++ added)

/-- Joins a field to the first one of its response key, or puts it at the end. -/
def addField (head : FieldHead) (inner : List Selection) : List Selection → List Selection
  | [] => [.field head inner]
  | .field first own :: rest =>
    if first.responseKey == head.responseKey then joinFields first own head inner :: rest
    else .field first own :: addField head inner rest
  -- Fields inside an inline fragment are no siblings of this one.
  | other :: rest => other :: addField head inner rest

/-- Adds a selection to merged ones. -/
def addSibling (merged : List Selection) (selection : Selection) : List Selection :=
  match selection with
  | .field head inner => addField head inner merged
  | other => merged ++ [other]

/-- Merges the fields of one list, without looking below them. -/
def mergeSiblings (selections : List Selection) : List Selection :=
  selections.foldl addSibling []

/-- The number of selections in a list, with those below them. -/
def weight : List Selection → Nat
  | [] => 0
  | .field _ inner :: rest => weight inner + weight rest + 1
  | .inlined _ _ inner :: rest => weight inner + weight rest + 1
  | .spread _ _ :: rest => weight rest + 1

/-- The selections below a selection. -/
def children : Selection → List Selection
  | .field _ inner => inner
  | .inlined _ _ inner => inner
  | .spread _ _ => []

/-- A selection weighs one more than what it selects. -/
theorem weight_cons (selection : Selection) (rest : List Selection) :
    weight (selection :: rest) = weight selection.children + weight rest + 1 := by
  cases selection <;> simp [weight, children]

/-- The weights of two lists add up. -/
theorem weight_append (first second : List Selection) :
    weight (first ++ second) = weight first + weight second := by
  induction first with
  | nil => simp [weight]
  | cons selection rest ih => simp only [List.cons_append, weight_cons, ih]; omega

/-- A field that takes in another weighs no more than both together. -/
theorem weight_joinFields_le (first : FieldHead) (inner : List Selection) (later : FieldHead)
    (added : List Selection) :
    weight (joinFields first inner later added).children ≤ weight inner + weight added := by
  unfold joinFields
  split <;> simp [children, weight_append]

/-- Adding a field adds no more than its own weight. -/
theorem weight_addField_le (head : FieldHead) (inner merged : List Selection) :
    weight (addField head inner merged) ≤ weight inner + weight merged + 1 := by
  fun_induction addField head inner merged with
  | case1 => simp [weight]
  | case2 first own rest _ =>
    have := weight_joinFields_le first own head inner
    rw [weight_cons, weight_cons, children]
    omega
  | case3 first own rest _ ih => simp only [weight_cons, children]; omega
  | case4 other rest _ ih => simp only [weight_cons]; omega

/-- Adding a selection to merged siblings adds no more than its weight. -/
theorem weight_addSibling_le (merged : List Selection) (selection : Selection) :
    weight (addSibling merged selection) ≤ weight merged + weight [selection] := by
  cases selection with
  | field head inner =>
    have := weight_addField_le head inner merged
    simp only [addSibling, weight_cons, children, weight]
    omega
  | spread fragment directives => simp [addSibling, weight_append]
  | inlined condition directives inner => simp [addSibling, weight_append]

/-- Adding selections one after the other adds no more than their weight. -/
theorem weight_foldl_addSibling_le (selections merged : List Selection) :
    weight (selections.foldl addSibling merged) ≤ weight merged + weight selections := by
  induction selections generalizing merged with
  | nil => simp
  | cons selection rest ih =>
    have step := weight_addSibling_le merged selection
    have := ih (addSibling merged selection)
    simp only [List.foldl_cons, weight_cons, weight] at *
    omega

/-- Merging siblings does not make them heavier. -/
theorem weight_mergeSiblings_le (selections : List Selection) :
    weight (mergeSiblings selections) ≤ weight selections := by
  simpa [mergeSiblings, weight] using weight_foldl_addSibling_le selections []

/-- What a member of a list selects weighs less than the list, so that the merge can go on below it.
-/
theorem weight_children_lt_of_mem {selection : Selection} {selections : List Selection}
    (inside : selection ∈ selections) : weight selection.children < weight selections := by
  induction selections with
  | nil => cases inside
  | cons first rest ih =>
    rw [weight_cons]
    cases inside with
    | head => omega
    | tail _ h => have := ih h; omega

/-- Puts other selections below a selection. -/
def withChildren (selection : Selection) (inner : List Selection) : Selection :=
  match selection with
  | .field head _ => .field head inner
  | .inlined condition directives _ => .inlined condition directives inner
  | .spread fragment directives => .spread fragment directives

/-- Merges the fields of a list and of every list below it. -/
def merge (selections : List Selection) : List Selection :=
  (mergeSiblings selections).attach.map fun ⟨selection, _inside⟩ =>
    selection.withChildren (merge selection.children)
termination_by weight selections
decreasing_by
  -- Joining siblings adds no weight, and what is below one of them is lighter than all.
  exact Nat.lt_of_lt_of_le (weight_children_lt_of_mem _inside)
    (weight_mergeSiblings_le selections)

end Selection

end SelectionTypes

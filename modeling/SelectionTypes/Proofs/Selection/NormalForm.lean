import SelectionTypes.Proofs.Selection.Merge

/-!
# `SelectionTypes.Proofs.Selection.NormalForm`: merged selections

Merged selections have one field for each response key among siblings, at any depth: `IsMerged`.
`merge_normalizes` says that one pass of `merge` gets there, and where everything stands afterwards:

* `isMerged_merge`: the result is merged. Joining fields makes longer lists below them, and these
  are merged in turn.
* `map_outline_merge`: the result has the selections that `leading` leaves of the list, in their
  places. These are the fragments and the first field of each key.
* `merge_of_isMerged`: merged selections are left as they are, so a second pass changes nothing.
-/

set_option autoImplicit false

namespace SelectionTypes.Selection

variable {selections merged : List Selection} {head : FieldHead} {inner : List Selection}

/-! ### One field for each key -/

/-- The response keys of the fields of a list itself. -/
def ownKeys (selections : List Selection) : List String :=
  (ownFields selections).map SelectedField.key

/-- No two sibling fields have one response key, in the list and in every list below it. -/
inductive IsMerged : List Selection → Prop
  | intro {selections : List Selection} (distinct : (ownKeys selections).Nodup)
      (below : ∀ selection ∈ selections, IsMerged selection.children) : IsMerged selections

/-- A selection without what merging may change: the sub-selections, and the directives of a
field. -/
def outline : Selection → Selection
  | .field head _ => .field { head with directives := [] } []
  | .spread fragment directives => .spread fragment directives
  | .inlined condition directives _ => .inlined condition directives []

/-- The fragments of a list and the first field of each key, in their order, where the keys `seen`
have had their first field. -/
def leading (seen : List String) : List Selection → List Selection
  | [] => []
  | .field head inner :: rest =>
    if head.responseKey ∈ seen then leading seen rest
    else .field head inner :: leading (head.responseKey :: seen) rest
  | fragment :: rest => fragment :: leading seen rest

/-- The keys of two lists are those of the first and then those of the second. -/
theorem ownKeys_append (first second : List Selection) :
    ownKeys (first ++ second) = ownKeys first ++ ownKeys second := by
  unfold ownKeys
  rw [ownFields_append, List.map_append]

/-- The key of a field stands in front of those of the selections behind it. -/
theorem ownKeys_field : ownKeys (.field head inner :: selections) =
    head.responseKey :: ownKeys selections :=
  rfl

/-- Merging changes the directives and sub-selections of a field but not its key. -/
theorem ownKeys_map_outline (selections : List Selection) :
    ownKeys (selections.map outline) = ownKeys selections := by
  induction selections with
  | nil => rfl
  | cons selection rest ih =>
    cases selection with
    | field head inner =>
      rw [List.map_cons, ownKeys_field, ← ih]
      rfl
    | spread name directives => exact ih
    | inlined condition directives inner => exact ih

/-- A fragment has no key. -/
theorem ownKeys_fragment {fragment : Selection} (noField : ownFields [fragment] = []) :
    ownKeys (fragment :: selections) = ownKeys selections := by
  rw [← List.singleton_append, ownKeys_append, ownKeys, noField, List.map_nil, List.nil_append]

/-! ### What is left of a list -/

/-- A fragment is left, whatever keys were seen. -/
theorem leading_fragment (seen : List String) {fragment : Selection}
    (noField : ownFields [fragment] = []) :
    leading seen (fragment :: selections) = fragment :: leading seen selections := by
  cases fragment with
  | field head inner => cases noField
  | spread name directives => rfl
  | inlined condition directives inner => rfl

/-- What is left has the keys of the list, each once, apart from those that were seen. -/
theorem ownKeys_leading (seen : List String) (selections : List Selection) :
    ownKeys (leading seen selections) =
      ((ownKeys selections).filter fun key => key ∉ seen).eraseDups := by
  -- On the list. A key that comes for the first time is seen from then on, so what has been seen is
  -- left open.
  induction selections generalizing seen with
  | nil => rfl
  | cons selection rest ih =>
    cases selection with
    | field head inner =>
      rw [leading, ownKeys_field]
      by_cases old : head.responseKey ∈ seen
      · rw [if_pos old, ih, List.filter_cons_of_neg (by simpa using old)]
      · rw [if_neg old, ownKeys_field, ih, List.filter_cons_of_pos (by simpa using old),
          List.eraseDups_cons, List.filter_filter]
        congr 2
        refine List.filter_congr fun key _ => ?_
        by_cases same : key = head.responseKey <;> simp [same]
    | spread name directives => exact ih seen
    | inlined condition directives inner => exact ih seen

/-- A later field is left if it is the first one of its key. -/
theorem leading_append_field (seen : List String) :
    leading seen (selections ++ [.field head inner]) = leading seen selections ++
      if head.responseKey ∈ seen ∨ head.responseKey ∈ ownKeys selections then []
      else [.field head inner] := by
  -- On the list, with what has been seen left open: a first field may be one of the key that is
  -- asked about.
  induction selections generalizing seen with
  | nil => simp [leading, ownKeys, ownFields]
  | cons selection rest ih =>
    cases selection with
    | field first own =>
      rw [List.cons_append, leading, leading, ownKeys_field]
      by_cases old : first.responseKey ∈ seen
      · rw [if_pos old, if_pos old, ih]
        congr 2
        simp only [List.mem_cons, eq_iff_iff]
        grind
      · rw [if_neg old, if_neg old, ih, List.cons_append]
        congr 3
        simp only [List.mem_cons, eq_iff_iff]
        grind
    | spread name directives =>
      rw [List.cons_append, leading_fragment seen rfl, leading_fragment seen rfl, ih,
        ownKeys_fragment rfl, List.cons_append]
    | inlined condition directives below =>
      rw [List.cons_append, leading_fragment seen rfl, leading_fragment seen rfl, ih,
        ownKeys_fragment rfl, List.cons_append]

/-- A later fragment is left. -/
theorem leading_append_fragment (seen : List String) {fragment : Selection}
    (noField : ownFields [fragment] = []) :
    leading seen (selections ++ [fragment]) = leading seen selections ++ [fragment] := by
  induction selections generalizing seen with
  | nil => exact leading_fragment seen noField
  | cons selection rest ih =>
    cases selection with
    | field first own =>
      rw [List.cons_append, leading, leading]
      split
      · exact ih seen
      · rw [ih, List.cons_append]
    | spread name directives => exact congrArg _ (ih seen)
    | inlined condition directives below => exact congrArg _ (ih seen)

/-! ### Merged siblings -/

/-- A field is put at the end if its key is new, and otherwise no outline changes. -/
theorem map_outline_addField (head : FieldHead) (inner merged : List Selection) :
    (addField head inner merged).map outline =
      if head.responseKey ∈ ownKeys merged then merged.map outline
      else merged.map outline ++ [outline (.field head inner)] := by
  fun_induction addField head inner merged with
  | case1 => rfl
  | case2 first own rest same =>
    -- Joining changes nothing that an outline has.
    have joined : outline (joinFields first own head inner) = outline (.field first own) := by
      unfold joinFields
      split <;> rfl
    rw [if_pos (by rw [ownKeys_field, eq_of_beq same]; exact List.mem_cons_self), List.map_cons,
      List.map_cons, joined]
  | case3 first own rest different ih =>
    have other : head.responseKey ≠ first.responseKey :=
      fun same => different (beq_iff_eq.mpr same.symm)
    rw [List.map_cons, List.map_cons, ih, ownKeys_field]
    simp only [List.mem_cons, other, false_or]
    split <;> rfl
  | case4 selection rest noField ih =>
    have fragment : ownFields [selection] = [] := ownFields_cons_of_ne_field noField []
    rw [List.map_cons, List.map_cons, ih, ownKeys_fragment fragment]
    split <;> rfl

/-- A field of a new key is put at the end. -/
theorem addField_of_new (new : head.responseKey ∉ ownKeys merged) :
    addField head inner merged = merged ++ [.field head inner] := by
  -- Along the search for the key, which finds it nowhere.
  fun_induction addField head inner merged with
  | case1 => rfl
  | case2 first own rest same =>
    rw [ownKeys_field, eq_of_beq same] at new
    exact absurd List.mem_cons_self new
  | case3 first own rest different ih =>
    rw [ownKeys_field, List.mem_cons, not_or] at new
    rw [ih new.2, List.cons_append]
  | case4 selection rest noField ih =>
    refine (congrArg _ (ih fun old => new ?_)).trans (List.cons_append ..).symm
    rw [← List.singleton_append, ownKeys_append]
    exact List.mem_append_right _ old

/-- Merged siblings are what is left of the list, up to what merging changes. -/
theorem map_outline_mergeSiblings (selections : List Selection) :
    (mergeSiblings selections).map outline = (leading [] selections).map outline := by
  induction selections using mergeSiblings_induction with
  | nil => rfl
  | @field read merged head inner same =>
    -- The keys so far are those of the fields that were read.
    have keys : ownKeys merged = (ownKeys read).eraseDups := by
      rw [← ownKeys_map_outline, same, ownKeys_map_outline, ownKeys_leading]
      simp
    rw [map_outline_addField, leading_append_field, List.map_append, same, keys]
    simp only [List.mem_eraseDups, List.not_mem_nil, false_or]
    split <;> simp
  | fragment noField same =>
    rw [leading_append_fragment [] noField, List.map_append, List.map_append, same]

/-- Siblings with distinct keys are left as they are. -/
theorem mergeSiblings_of_distinct (distinct : (ownKeys selections).Nodup) :
    mergeSiblings selections = selections := by
  induction selections using mergeSiblings_induction with
  | nil => rfl
  | @field read merged head inner ih =>
    rw [ownKeys_append, List.nodup_append] at distinct
    rw [ih distinct.1]
    refine addField_of_new fun old => ?_
    exact distinct.2.2 head.responseKey old head.responseKey List.mem_cons_self rfl
  | fragment _ ih =>
    rw [ownKeys_append, List.nodup_append] at distinct
    rw [ih distinct.1]

/-! ### Every list below -/

/-- The outline of a selection does not depend on what it selects. -/
theorem outline_withChildren (selection : Selection) (inner : List Selection) :
    outline (selection.withChildren inner) = outline selection := by
  cases selection <;> rfl

/-- A selection with its own sub-selections is that selection. -/
theorem withChildren_children (selection : Selection) :
    selection.withChildren selection.children = selection := by
  cases selection <;> rfl

/-- Merging no selections gives none. -/
theorem merge_nil : merge [] = [] := by
  rw [merge_eq]
  rfl

/-- Below a merged selection stands what was below it, merged. -/
theorem children_withChildren_merge (selection : Selection) :
    (selection.withChildren (merge selection.children)).children = merge selection.children := by
  cases selection with
  | field head inner => rfl
  | spread name directives => exact merge_nil.symm
  | inlined condition directives inner => rfl

/-- Merging leaves the fragments and the first field of each key, in their places. -/
theorem map_outline_merge (selections : List Selection) :
    (merge selections).map outline = (leading [] selections).map outline := by
  rw [merge_eq, List.map_map, ← map_outline_mergeSiblings]
  exact List.map_congr_left fun selection _ => outline_withChildren selection _

/-- Merging leaves each key once, in order of first occurrence. -/
theorem ownKeys_merge (selections : List Selection) :
    ownKeys (merge selections) = (ownKeys selections).eraseDups := by
  rw [← ownKeys_map_outline, map_outline_merge, ownKeys_map_outline, ownKeys_leading]
  simp

/-- The result of merging is merged. -/
theorem isMerged_merge (selections : List Selection) : IsMerged (merge selections) := by
  induction size : weight selections using Nat.strongRecOn generalizing selections with
  | _ size ih =>
    subst size
    refine .intro ?_ fun selection listed => ?_
    · rw [ownKeys_merge]
      exact Lists.nodup_eraseDups _
    · rw [merge_eq] at listed
      obtain ⟨source, inside, rfl⟩ := List.mem_map.mp listed
      rw [children_withChildren_merge]
      -- A joined field has longer sub-selections, but they are lighter than the whole list.
      have lighter := Nat.lt_of_lt_of_le (weight_children_lt_of_mem inside)
        (weight_mergeSiblings_le selections)
      exact ih _ lighter _ rfl

/-- Merged selections are left as they are. -/
theorem merge_of_isMerged (merged : IsMerged selections) : merge selections = selections := by
  induction merged with
  | @intro selections distinct _ ih =>
    rw [merge_eq, mergeSiblings_of_distinct distinct]
    conv => rhs; rw [← List.map_id selections]
    refine List.map_congr_left fun selection inside => ?_
    rw [ih selection inside, withChildren_children, id]

/-! ### One pass -/

/-- A list that is merged in turn when another one is. -/
def MergedBelow (inner outer : List Selection) : Prop :=
  ∃ selection ∈ mergeSiblings outer, selection.children = inner

/-- Lists get lighter from one level to the next. -/
theorem wellFounded_mergedBelow : WellFounded MergedBelow := by
  refine Subrelation.wf ?_ (measure weight).wf
  rintro _ outer ⟨selection, inside, rfl⟩
  exact Nat.lt_of_lt_of_le (weight_children_lt_of_mem inside) (weight_mergeSiblings_le outer)

/-- Merging ends, and one pass reaches a normal form. No two siblings have one key at any depth. The
keys of the list are left, each at its first place, and so are its fragments, whose own lists are
merged in the same way. A second pass changes nothing. -/
theorem merge_normalizes (selections : List Selection) :
    Acc MergedBelow selections ∧
    IsMerged (merge selections) ∧
    ownKeys (merge selections) = (ownKeys selections).eraseDups ∧
    (merge selections).map outline = (leading [] selections).map outline ∧
    ownFragments (merge selections) = (ownFragments selections).map (fun fragment =>
      fragment.withChildren (merge fragment.children)) ∧
    merge (merge selections) = merge selections :=
  ⟨wellFounded_mergedBelow.apply selections, isMerged_merge selections, ownKeys_merge selections,
    map_outline_merge selections, ownFragments_merge selections,
    merge_of_isMerged (isMerged_merge selections)⟩

end SelectionTypes.Selection

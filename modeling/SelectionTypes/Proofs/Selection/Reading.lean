import SelectionTypes.Proofs.Selection.Inline

/-!
# `SelectionTypes.Proofs.Selection.Reading`: reading selections without spreads

Where nothing is spread, the fields of a type and the success of a reading can be said without
`Except` and without a table: `selectedOn` gives the fields, and `isReadable` says whether all
type conditions are known where they are tested. `flatten_plain_eq_ok` says that flattening is
just that.

Both functions read a list selection by selection. So reordering a list reorders the fields
(`selectedOn_perm`) and does not touch the success (`isReadable_perm`).
-/

set_option autoImplicit false

namespace SelectionTypes.Selection

open Outcome

variable {schema : Schema} {table : FragmentTable} {entered applicable : List String}
variable {selections : List Selection} {distributed : List (SelectedField × List String)}

/-- The fields that selections without spreads select on a type. -/
def selectedOn (schema : Schema) (type : String) : List Selection → List SelectedField
  | [] => []
  | .field head inner :: rest => ⟨head, inner⟩ :: selectedOn schema type rest
  | .spread _ _ :: rest => selectedOn schema type rest
  | .inlined none _ inner :: rest => selectedOn schema type inner ++ selectedOn schema type rest
  | .inlined (some condition) _ inner :: rest =>
    (if schema.meets condition type then selectedOn schema type inner else [])
      ++ selectedOn schema type rest

/-- Whether each type condition in selections without spreads is known, where types are tested
against it. -/
def isReadable (schema : Schema) (applicable : List String) : List Selection → Bool
  | [] => true
  | .field _ _ :: rest => isReadable schema applicable rest
  | .spread _ _ :: rest => isReadable schema applicable rest
  | .inlined none _ inner :: rest =>
    isReadable schema applicable inner && isReadable schema applicable rest
  | .inlined (some condition) _ inner :: rest =>
    applicable.all (schema.tells condition)
      && isReadable schema (applicable.filter (schema.meets condition)) inner
      && isReadable schema applicable rest

/-! ### Spreads -/

/-- The spreads of a list are those of its first selection and of the others. -/
theorem spreadsOf_cons_eq_nil {selection : Selection} {rest : List Selection} :
    spreadsOf (selection :: rest) = [] ↔ spreadsOf [selection] = [] ∧ spreadsOf rest = [] := by
  cases selection <;> simp [spreadsOf]

/-- A list spreads nothing exactly if none of its selections does. -/
theorem spreadsOf_eq_nil_iff {selections : List Selection} :
    spreadsOf selections = [] ↔ ∀ selection ∈ selections, spreadsOf [selection] = [] := by
  induction selections with
  | nil => simp [spreadsOf]
  | cons selection rest ih =>
    rw [spreadsOf_cons_eq_nil, ih]
    simp

/-- The spreads of two lists are those of the first and then those of the second. -/
theorem spreadsOf_append (first second : List Selection) :
    spreadsOf (first ++ second) = spreadsOf first ++ spreadsOf second := by
  induction first using spreadsOf.induct with
  | case1 => rw [List.nil_append, spreadsOf, List.nil_append]
  | case2 head inner rest ihInner ihRest =>
    rw [List.cons_append, spreadsOf, spreadsOf, ihRest, List.append_assoc]
  | case3 name directives rest ih =>
    rw [List.cons_append, spreadsOf, spreadsOf, ih, List.cons_append]
  | case4 condition directives inner rest ihInner ihRest =>
    rw [List.cons_append, spreadsOf, spreadsOf, ihRest, List.append_assoc]

/-- What fields select together spreads nothing exactly if none of them does. -/
theorem spreadsOf_flatMap {fields : List SelectedField} :
    spreadsOf (fields.flatMap SelectedField.selections) = [] ↔
      ∀ field ∈ fields, spreadsOf field.selections = [] := by
  induction fields with
  | nil => simp [spreadsOf]
  | cons field rest ih =>
    rw [List.flatMap_cons, spreadsOf_append, List.append_eq_nil_iff, ih]
    simp

/-- A list without spreads has none below its selections. -/
theorem spreadsOf_children {selection : Selection} (free : spreadsOf [selection] = []) :
    spreadsOf selection.children = [] := by
  cases selection <;> simp_all [spreadsOf, children]

/-! ### Selection by selection -/

/-- The fields for a type are selected one selection after the other. -/
theorem selectedOn_cons (type : String) (selection : Selection) (rest : List Selection) :
    selectedOn schema type (selection :: rest) =
      selectedOn schema type [selection] ++ selectedOn schema type rest := by
  cases selection with
  | field head inner => simp [selectedOn]
  | spread name directives => simp [selectedOn]
  | inlined condition directives inner => cases condition <;> simp [selectedOn]

/-- The fields for a type are selected list by list. -/
theorem selectedOn_append (type : String) (first second : List Selection) :
    selectedOn schema type (first ++ second) =
      selectedOn schema type first ++ selectedOn schema type second := by
  induction first with
  | nil => rw [List.nil_append, selectedOn, List.nil_append]
  | cons selection rest ih =>
    rw [List.cons_append, selectedOn_cons, ih, selectedOn_cons type selection rest,
      List.append_assoc]

/-- Selections in another order select the same fields in another order. -/
theorem selectedOn_perm (type : String) {first second : List Selection}
    (order : first.Perm second) :
    (selectedOn schema type first).Perm (selectedOn schema type second) := by
  -- Along the steps of the permutation, of which a swap moves what two selections select.
  induction order with
  | nil => exact .refl _
  | @cons selection rest rest' _ ih =>
    rw [selectedOn_cons type selection rest, selectedOn_cons type selection rest']
    exact ih.append_left _
  | swap selection other rest =>
    rw [selectedOn_cons type other, selectedOn_cons type selection rest,
      selectedOn_cons type selection (other :: rest), selectedOn_cons type other rest,
      ← List.append_assoc, ← List.append_assoc]
    exact List.perm_append_comm.append_right _
  | trans _ _ ihFirst ihSecond => exact ihFirst.trans ihSecond

/-- A list can be read if its first selection and the rest can. -/
theorem isReadable_cons (selection : Selection) (rest : List Selection) :
    isReadable schema applicable (selection :: rest) =
      (isReadable schema applicable [selection] && isReadable schema applicable rest) := by
  cases selection with
  | field head inner => simp [isReadable]
  | spread name directives => simp [isReadable]
  | inlined condition directives inner => cases condition <;> simp [isReadable]

/-- A list is readable exactly if each of its selections is. -/
theorem isReadable_iff :
    isReadable schema applicable selections = true ↔
      ∀ selection ∈ selections, isReadable schema applicable [selection] = true := by
  induction selections with
  | nil => simp [isReadable]
  | cons selection rest ih =>
    rw [isReadable_cons, Bool.and_eq_true, ih]
    simp

/-- The order of selections does not matter to whether they can be read. -/
theorem isReadable_perm {first second : List Selection} (order : first.Perm second) :
    isReadable schema applicable first = isReadable schema applicable second := by
  rw [Bool.eq_iff_iff, isReadable_iff, isReadable_iff]
  exact forall_congr' fun selection => imp_congr_left order.mem_iff

/-! ### Flattening without spreads -/

/-- Without spreads a reading succeeds exactly if the selections are readable. It gives each type
what is selected on it. -/
theorem distributeWithin_plain (free : spreadsOf selections = []) :
    (isReadable schema applicable selections = true ↔ ∃ distributed,
        distributeWithin schema table entered applicable selections = .ok distributed) ∧
      ∀ distributed, distributeWithin schema table entered applicable selections = .ok distributed →
        ∀ type ∈ applicable, fieldsOn distributed type = selectedOn schema type selections := by
  -- Both parts need the same induction, since the types are narrowed on the way down.
  induction applicable, selections using isReadable.induct schema with
  | case1 applicable =>
    rw [distributeWithin_nil]
    simp [isReadable, selectedOn, fieldsOn]
  | case2 applicable head inner rest ih =>
    obtain ⟨succeeds, fields⟩ := ih (spreadsOf_cons_eq_nil.mp free).2
    rw [isReadable, succeeds]
    constructor
    · simp only [distributeWithin_field_eq_ok]
      constructor
      · rintro ⟨others, behind⟩
        exact ⟨_, others, behind, rfl⟩
      · rintro ⟨_, others, behind, -⟩
        exact ⟨others, behind⟩
    · intro distributed reads type inside
      obtain ⟨others, behind, rfl⟩ := distributeWithin_field_eq_ok.mp reads
      rw [fieldsOn_cons, if_pos inside, selectedOn, fields others behind type inside]
  | case3 applicable name directives rest ih => simp [spreadsOf] at free
  | case4 applicable directives inner rest ihInner ihRest =>
    rw [spreadsOf, List.append_eq_nil_iff] at free
    obtain ⟨insideSucceeds, insideFields⟩ := ihInner free.1
    obtain ⟨restSucceeds, restFields⟩ := ihRest free.2
    rw [isReadable, Bool.and_eq_true, insideSucceeds, restSucceeds]
    constructor
    · simp only [distributeWithin_plain_eq_ok]
      constructor
      · rintro ⟨⟨below, inside⟩, others, behind⟩
        exact ⟨_, below, others, inside, behind, rfl⟩
      · rintro ⟨_, below, others, inside, behind, -⟩
        exact ⟨⟨below, inside⟩, others, behind⟩
    · intro distributed reads type listed
      obtain ⟨below, others, inside, behind, rfl⟩ := distributeWithin_plain_eq_ok.mp reads
      rw [fieldsOn_append, selectedOn, insideFields below inside type listed,
        restFields others behind type listed]
  | case5 applicable condition directives inner rest ihInner ihRest =>
    simp only [List.unattach_filter, List.unattach_attach] at ihInner
    rw [spreadsOf, List.append_eq_nil_iff] at free
    obtain ⟨insideSucceeds, insideFields⟩ := ihInner free.1
    obtain ⟨restSucceeds, restFields⟩ := ihRest free.2
    rw [isReadable, Bool.and_eq_true, Bool.and_eq_true, insideSucceeds, restSucceeds,
      List.all_eq_true]
    constructor
    · simp only [distributeWithin_conditioned_eq_ok]
      constructor
      · rintro ⟨⟨told, below, inside⟩, others, behind⟩
        exact ⟨_, told, below, others, inside, behind, rfl⟩
      · rintro ⟨_, told, below, others, inside, behind, -⟩
        exact ⟨⟨told, below, inside⟩, others, behind⟩
    · intro distributed reads type listed
      obtain ⟨-, below, others, inside, behind, rfl⟩ := distributeWithin_conditioned_eq_ok.mp reads
      rw [fieldsOn_append, selectedOn, restFields others behind type listed]
      -- Inside the fragment only the types that meet the condition are read for.
      by_cases met : schema.meets condition type = true
      · rw [if_pos met, insideFields below inside type (List.mem_filter.mpr ⟨listed, met⟩)]
      · rw [if_neg met, fieldsOn_eq_nil inside fun kept => met (List.mem_filter.mp kept).2]

/-- Flattening selections without spreads succeeds exactly if the type has values and the
selections are readable for their types. -/
theorem flatten_plain_eq_ok (free : spreadsOf selections = []) {parent : String}
    {flattened : List (String × List SelectedField)} :
    flatten schema table parent selections = .ok flattened ↔
      ∃ types, schema.concreteTypes parent = .ok types ∧
        isReadable schema types.eraseDups selections = true ∧
        flattened = types.eraseDups.map fun type => (type, selectedOn schema type selections) := by
  -- What reading lists for several types is, type by type, what is selected on the type.
  rw [flatten_eq_ok]
  constructor
  · rintro ⟨types, distributed, concrete, reads, rfl⟩
    obtain ⟨succeeds, fields⟩ :=
      @distributeWithin_plain schema table [] types.eraseDups selections free
    refine ⟨types, concrete, succeeds.mpr ⟨distributed, reads⟩, List.map_congr_left ?_⟩
    intro type inside
    rw [fields distributed reads type inside]
  · rintro ⟨types, concrete, readable, rfl⟩
    obtain ⟨succeeds, fields⟩ :=
      @distributeWithin_plain schema table [] types.eraseDups selections free
    obtain ⟨distributed, reads⟩ := succeeds.mp readable
    refine ⟨types, distributed, concrete, reads, List.map_congr_left fun type inside => ?_⟩
    rw [fields distributed reads type inside]

/-- The fields that are selected on a type stand in the selections: their sub-selections have no
spreads, are nested less deep, and have no fields of their own. -/
theorem mem_selectedOn {type : String} {field : SelectedField}
    (inside : field ∈ selectedOn schema type selections) :
    (spreadsOf selections = [] → spreadsOf field.selections = []) ∧
      nesting field.selections < nesting selections ∧
      field.head ∈ headsOf selections ∧ headsOf field.selections ⊆ headsOf selections := by
  -- Along the reading: the field is among the own fields, inside a fragment or behind it.
  induction selections using selectedOn.induct with
  | case1 => simp [selectedOn] at inside
  | case2 head inner rest ih =>
    rw [selectedOn, List.mem_cons] at inside
    rw [spreadsOf, nesting, headsOf, List.append_eq_nil_iff]
    rcases inside with rfl | inside
    · refine ⟨fun free => free.1, by simp only; omega, List.mem_cons_self, ?_⟩
      exact List.Subset.trans (List.subset_append_left _ _) (List.subset_cons_self _ _)
    · obtain ⟨free, deeper, own, below⟩ := ih inside
      have later : headsOf rest ⊆ head :: (headsOf inner ++ headsOf rest) :=
        List.Subset.trans (List.subset_append_right _ _) (List.subset_cons_self _ _)
      exact ⟨fun both => free both.2, by omega, later own, List.Subset.trans below later⟩
  | case3 name directives rest ih =>
    rw [selectedOn] at inside
    obtain ⟨-, deeper, own, below⟩ := ih inside
    rw [spreadsOf, nesting, headsOf]
    exact ⟨fun free => absurd free (List.cons_ne_nil _ _), deeper, own, below⟩
  | case4 directives inner rest ihInner ihRest =>
    rw [selectedOn, List.mem_append] at inside
    rw [spreadsOf, nesting, headsOf, List.append_eq_nil_iff]
    rcases inside with inside | inside
    · obtain ⟨free, deeper, own, below⟩ := ihInner inside
      exact ⟨fun both => free both.1, by omega, List.mem_append_left _ own,
        List.Subset.trans below (List.subset_append_left _ _)⟩
    · obtain ⟨free, deeper, own, below⟩ := ihRest inside
      exact ⟨fun both => free both.2, by omega, List.mem_append_right _ own,
        List.Subset.trans below (List.subset_append_right _ _)⟩
  | case5 condition directives inner rest ihInner ihRest =>
    rw [selectedOn, List.mem_append] at inside
    rw [spreadsOf, nesting, headsOf, List.append_eq_nil_iff]
    rcases inside with inside | inside
    · split at inside
      · obtain ⟨free, deeper, own, below⟩ := ihInner inside
        exact ⟨fun both => free both.1, by omega, List.mem_append_left _ own,
          List.Subset.trans below (List.subset_append_left _ _)⟩
      · cases inside
    · obtain ⟨free, deeper, own, below⟩ := ihRest inside
      exact ⟨fun both => free both.2, by omega, List.mem_append_right _ own,
        List.Subset.trans below (List.subset_append_right _ _)⟩

end SelectionTypes.Selection

import SelectionTypes.Proofs.Selection.Merge
import SelectionTypes.Proofs.Selection.Validity
import SelectionTypes.Selection.Optimized

/-!
# `SelectionTypes.Proofs.Selection.OptimizedValidity`: optimized selections still fit

Inlining writes a fragment under its own type condition, and merging joins fields of one key, which
select the same field. So optimized selections are as valid as the selections they are made from:

* `WellTyped.inline` and `FieldsAgree.inline`, where each field comes from one that it is made of
  by inlining (`exists_selects_of_inlineWithin`).
* `WellTyped.merge` and `FieldsAgree.merge`, where each field comes from several of its key
  (`StandsFor`).
-/

set_option autoImplicit false

namespace SelectionTypes.Selection

open Outcome

variable {schema : Schema} {table original others : FragmentTable} {entered : List String}
variable {selections inlined : List Selection}

/-! ### Inlined selections -/

/-- Inlined selections are well-typed if the selections and the fragments are. -/
theorem WellTyped.inline {parent : String} (typed : WellTyped schema parent selections)
    (fragments : ∀ loaded ∈ table,
      WellTyped schema loaded.fragment.onType loaded.fragment.selections)
    (inlines : inlineWithin table entered selections = .ok inlined) :
    WellTyped schema parent inlined := by
  induction inlines using inlineWithin_induction generalizing parent with
  | nil => exact typed
  | field _ _ ihInner ihRest =>
    rw [WellTyped] at typed ⊢
    refine ⟨typed.1.imp_right ?_, ihRest typed.2 fragments⟩
    rintro ⟨type, known, typedInner⟩
    exact ⟨type, known, ihInner typedInner fragments⟩
  | inlined _ _ ihInner ihRest =>
    rw [WellTyped] at typed ⊢
    exact ⟨ihInner typed.1 fragments, ihRest typed.2 fragments⟩
  | @spread _ _ _ _ _ loaded _ _ _ found _ _ ihInner ihRest =>
    simp only [WellTyped] at typed ⊢
    -- A fragment is typed on its own condition, wherever it is spread.
    have own := fragments loaded (List.mem_of_find?_eq_some found)
    exact ⟨ihInner own fun other listed => fragments other (List.mem_of_mem_filter listed),
      ihRest typed fragments⟩

/-- Each field of inlined selections is a field of the selections, inlined. -/
theorem exists_selects_of_inlineWithin (agrees : table.AgreesOutside entered original)
    (inlines : inlineWithin table entered selections = .ok inlined) {field : SelectedField}
    (selects : Selects others inlined field) :
    ∃ source, Selects original selections source ∧ InlinesTo original source field := by
  induction inlines using inlineWithin_induction with
  | nil =>
    cases selects with
    | field listed => cases listed
    | inlined listed => cases listed
    | spread listed => cases listed
  | @field _ _ head inner _ _ _ inside _ _ ihRest =>
    -- The field is the first one of the list, or it comes from the rest.
    rcases selects.of_cons with own | later
    · cases own with
      | field listed =>
        cases List.mem_singleton.mp listed
        exact ⟨⟨head, inner⟩, .field List.mem_cons_self,
          ⟨rfl, inline_of_inlineWithin agrees inside⟩⟩
      | inlined listed => simp at listed
      | spread listed => simp at listed
    · obtain ⟨source, selected, made⟩ := ihRest agrees later
      exact ⟨source, selected.mono (List.subset_cons_self _ _), made⟩
  | inlined _ _ ihInner ihRest =>
    rcases selects.of_cons with own | later
    · obtain ⟨source, selected, made⟩ := ihInner agrees own.of_inlined
      exact ⟨source, .inlined List.mem_cons_self selected, made⟩
    · obtain ⟨source, selected, made⟩ := ihRest agrees later
      exact ⟨source, selected.mono (List.subset_cons_self _ _), made⟩
  | @spread _ _ name _ _ loaded _ _ new found _ _ ihInner ihRest =>
    rcases selects.of_cons with own | later
    · obtain ⟨source, selected, made⟩ := ihInner (agrees.without name) own.of_inlined
      -- The source is selected by the whole table, which has the same fragment.
      have known : original.get? name = some loaded := (agrees name new).symm.trans found
      exact ⟨source, .spread List.mem_cons_self known selected, made⟩
    · obtain ⟨source, selected, made⟩ := ihRest agrees later
      exact ⟨source, selected.mono (List.subset_cons_self _ _), made⟩

/-- Each selection set of inlined selections is one of the selections, inlined. -/
theorem exists_level_of_inline (inlines : inline original selections = .ok inlined)
    {fields : SelectedField → Prop} (level : Level others inlined fields) :
    ∃ sources, Level original selections sources ∧
      ∀ field, fields field → ∃ source, sources source ∧ InlinesTo original source field := by
  -- Along the levels: below fields of one key stand the inlined sub-selections of their sources.
  induction level with
  | top =>
    exact ⟨_, .top, fun field selects =>
      exists_selects_of_inlineWithin (.refl original) inlines selects⟩
  | deeper _ key ih =>
    obtain ⟨sources, level, each⟩ := ih
    refine ⟨_, level.deeper key, ?_⟩
    rintro field ⟨above, inside, rfl, selects⟩
    obtain ⟨source, listed, made⟩ := each above inside
    obtain ⟨below, selected, made'⟩ :=
      exists_selects_of_inlineWithin (.refl original) made.selections selects
    exact ⟨below, ⟨source, listed, congrArg FieldHead.responseKey made.head.symm, selected⟩, made'⟩

/-- Fields of inlined selections agree if those of the selections do. -/
theorem FieldsAgree.inline (agree : FieldsAgree original selections)
    (inlines : inline original selections = .ok inlined) : FieldsAgree others inlined := by
  intro fields level field first other second key
  obtain ⟨sources, levelAbove, each⟩ := exists_level_of_inline inlines level
  obtain ⟨source, listed, made⟩ := each field first
  obtain ⟨source', listed', made'⟩ := each other second
  unfold SelectedField.key at key
  rw [made.head, made'.head] at key ⊢
  exact agree sources levelAbove source listed source' listed' key

/-! ### Merged siblings -/

/-- A field stands for fields of its key: one of them gives its name and one its directives, and its
sub-selections are some of theirs. -/
structure StandsFor (fields : SelectedField → Prop) (joined : SelectedField) : Prop where
  source : ∃ field, fields field ∧ field.key = joined.key ∧ field.head.name = joined.head.name
  directives : ∃ field, fields field ∧ field.key = joined.key ∧
    field.head.directives = joined.head.directives
  below : ∀ selection ∈ joined.selections, ∃ field, fields field ∧ field.key = joined.key ∧
    selection ∈ field.selections

namespace StandsFor

variable {fields more : SelectedField → Prop} {joined : SelectedField}

/-- A field that stands for some fields stands for more of them. -/
theorem mono (stands : StandsFor fields joined) (subset : ∀ field, fields field → more field) :
    StandsFor more joined := by
  obtain ⟨field, inside, agree⟩ := stands.source
  obtain ⟨other, inside', agree'⟩ := stands.directives
  refine ⟨⟨field, subset field inside, agree⟩, ⟨other, subset other inside', agree'⟩,
    fun selection listed => ?_⟩
  obtain ⟨field, inside, own⟩ := stands.below selection listed
  exact ⟨field, subset field inside, own⟩

/-- A field stands for itself. -/
theorem self (inside : fields joined) : StandsFor fields joined :=
  ⟨⟨joined, inside, rfl, rfl⟩, ⟨joined, inside, rfl, rfl⟩,
    fun _ listed => ⟨joined, inside, rfl, listed⟩⟩

/-- A field that another one of its key is joined to stands for that one, too. -/
theorem join {added : SelectedField} (stands : StandsFor fields joined) (inside : fields added)
    (key : joined.key = added.key) : StandsFor fields (joinedField joined added) := by
  obtain ⟨sameKey, sameName⟩ := key_joinedField joined added
  -- The key and the name are those of the first, the directives and the sub-selections of either.
  refine ⟨?_, ?_, fun selection listed => ?_⟩
  · rw [sameKey, sameName]
    exact stands.source
  · obtain ⟨source, isSource, sourceKey, directives⟩ := stands.directives
    rw [sameKey]
    rcases directives_joinedField joined added with same | same
    · exact ⟨source, isSource, sourceKey, directives.trans same.symm⟩
    · exact ⟨added, inside, key.symm, same.symm⟩
  · rw [sameKey]
    unfold joinedField at listed
    split at listed
    · exact stands.below selection listed
    · rcases List.mem_append.mp listed with own | later
      · exact stands.below selection own
      · exact ⟨added, inside, key.symm, later⟩

end StandsFor

/-- One more sibling: each own field stands for fields that were read so far. -/
theorem standsFor_addField {fields : List SelectedField} {merged : List Selection}
    (each : ∀ joined ∈ ownFields merged, StandsFor (· ∈ fields) joined) (added : SelectedField) :
    ∀ joined ∈ ownFields (addField added.head added.selections merged),
      StandsFor (· ∈ fields ++ [added]) joined := by
  intro joined inside
  have last : added ∈ fields ++ [added] := by simp
  have old : ∀ other ∈ ownFields merged, StandsFor (· ∈ fields ++ [added]) other :=
    fun other listed => (each other listed).mono fun _ => List.mem_append_left _
  rcases ownFields_addField added merged with appended | ⟨before, first, after, split, key, result⟩
  · rw [appended] at inside
    rcases List.mem_append.mp inside with inside | inside
    · exact old joined inside
    · rw [List.mem_singleton.mp inside]
      exact .self last
  · -- One of the own fields is joined, and the ones around it stay.
    rw [split] at old
    rw [result] at inside
    rcases List.mem_append.mp inside with inside | inside
    · exact old joined (List.mem_append_left _ inside)
    · rcases List.mem_cons.mp inside with rfl | inside
      · exact (old first (by simp)).join last key
      · exact old joined (List.mem_append_right _ (List.mem_cons_of_mem _ inside))

/-- Each own field after merging siblings stands for own fields from before. -/
theorem standsFor_of_mergeSiblings :
    ∀ joined ∈ ownFields (mergeSiblings selections),
      StandsFor (· ∈ ownFields selections) joined := by
  induction selections using mergeSiblings_induction with
  | nil => exact fun joined inside => nomatch inside
  | @field read merged head inner each =>
    rw [ownFields_append]
    exact standsFor_addField each ⟨head, inner⟩
  | fragment noField each =>
    rw [ownFields_append, ownFields_append, noField, List.append_nil, List.append_nil]
    exact each

/-! ### Merged selections -/

/-- The fields of a list are the members of it that are fields. -/
theorem mem_ownFields {field : SelectedField} :
    field ∈ ownFields selections ↔ .field field.head field.selections ∈ selections := by
  induction selections with
  | nil => simp [ownFields]
  | cons selection rest ih =>
    cases selection with
    | field head inner =>
      rw [ownFields_cons_field, List.mem_cons, List.mem_cons, ih]
      refine or_congr_left ⟨fun same => by rw [same], fun same => ?_⟩
      cases same
      rfl
    | spread name directives => simpa [ownFields] using ih
    | inlined condition directives inner => simpa [ownFields] using ih

/-- A list selects its own fields. -/
theorem selects_of_mem_ownFields {field : SelectedField} (inside : field ∈ ownFields selections) :
    Selects table selections field :=
  .field (mem_ownFields.mp inside)

/-- A field among merged selections stands for own fields from before, and what stands below it is
merged. -/
theorem exists_standsFor_of_mem_merge {head : FieldHead} {inner : List Selection}
    (listed : .field head inner ∈ merge selections) :
    ∃ below, inner = merge below ∧ weight below < weight selections ∧
      StandsFor (· ∈ ownFields selections) ⟨head, below⟩ := by
  have own : (⟨head, inner⟩ : SelectedField) ∈ ownFields (merge selections) :=
    mem_ownFields.mpr listed
  rw [ownFields_merge] at own
  obtain ⟨field, inside, same⟩ := List.mem_map.mp own
  cases same
  have lighter := weight_children_lt_of_mem (mem_ownFields.mp inside)
  exact ⟨field.selections, rfl, Nat.lt_of_lt_of_le lighter (weight_mergeSiblings_le selections),
    standsFor_of_mergeSiblings field inside⟩

/-- An inline fragment among merged selections is one from before, with merged selections. -/
theorem exists_inlined_of_mem_merge {condition : Option String} {directives : List Directive}
    {inner : List Selection} (listed : .inlined condition directives inner ∈ merge selections) :
    ∃ below, inner = merge below ∧ .inlined condition directives below ∈ selections := by
  have own : .inlined condition directives inner ∈ ownFragments (merge selections) :=
    List.mem_filter.mpr ⟨listed, rfl⟩
  rw [ownFragments_merge] at own
  obtain ⟨fragment, inside, same⟩ := List.mem_map.mp own
  have before := List.mem_of_mem_filter inside
  cases fragment <;> cases same
  exact ⟨_, rfl, before⟩

/-- A field that stands for own fields is defined on their type, and what stands below it is
written on the type of the field. -/
theorem StandsFor.wellTyped {parent : String} (typed : WellTyped schema parent selections)
    (agree : FieldsAgree table selections) {joined : SelectedField}
    (stands : StandsFor (· ∈ ownFields selections) joined)
    (ordinary : joined.head.name ≠ SelectionScope.typenameField) :
    ∃ type, ExportedAlias.fieldType? schema parent joined.head.name = some type ∧
      WellTyped schema type.base joined.selections := by
  rw [wellTyped_iff] at typed
  obtain ⟨source, isOwn, key, name⟩ := stands.source
  -- A field of the key has the name of the joined one, so it is written on the same type.
  have typedField : ∀ field ∈ ownFields selections, field.key = joined.key →
      ∃ type, ExportedAlias.fieldType? schema parent joined.head.name = some type ∧
        WellTyped schema type.base field.selections := by
    intro field isField sameKey
    have sameName : field.head.name = joined.head.name :=
      (agree _ .top field (selects_of_mem_ownFields isField) source
        (selects_of_mem_ownFields isOwn) (sameKey.trans key.symm)).trans name
    have own := typed _ (mem_ownFields.mp isField)
    simp only [WellTyped, and_true] at own
    rw [sameName] at own
    exact own.resolve_left ordinary
  obtain ⟨type, known, -⟩ := typedField source isOwn key
  refine ⟨type, known, wellTyped_iff.mpr fun selection inside => ?_⟩
  obtain ⟨field, isField, sameKey, inField⟩ := stands.below selection inside
  obtain ⟨other, known', typedInner⟩ := typedField field isField sameKey
  cases known.symm.trans known'
  exact wellTyped_iff.mp typedInner selection inField

/-- Fields agree below a field that stands for own fields. -/
theorem StandsFor.fieldsAgree (agree : FieldsAgree table selections) {joined : SelectedField}
    (stands : StandsFor (· ∈ ownFields selections) joined) :
    FieldsAgree table joined.selections := by
  have ofKey : ∀ field ∈ (ownFields selections).filter fun field => field.key == joined.key,
      Selects table selections field ∧ field.key = joined.key := by
    intro field inside
    obtain ⟨own, sameKey⟩ := List.mem_filter.mp inside
    exact ⟨selects_of_mem_ownFields own, eq_of_beq sameKey⟩
  refine (agree.deeper ofKey).mono fun field selects => selects.mono fun selection inside => ?_
  obtain ⟨field, isField, sameKey, inField⟩ := stands.below selection inside
  exact List.mem_flatMap.mpr
    ⟨field, List.mem_filter.mpr ⟨isField, beq_iff_eq.mpr sameKey⟩, inField⟩

/-- Merged selections are well-typed if the selections are and their fields agree. -/
theorem WellTyped.merge {parent : String} (typed : WellTyped schema parent selections)
    (agree : FieldsAgree table selections) : WellTyped schema parent (merge selections) := by
  -- On the weight, since merged fields have sub-selections that stand in no field of the list
  -- together.
  induction size : weight selections using Nat.strongRecOn generalizing parent selections with
  | _ size ih =>
    subst size
    refine wellTyped_iff.mpr fun selection listed => ?_
    cases selection with
    | spread name directives => simp [WellTyped]
    | inlined condition directives inner =>
      obtain ⟨below, rfl, before⟩ := exists_inlined_of_mem_merge listed
      have own := wellTyped_iff.mp typed _ before
      simp only [WellTyped, and_true] at own ⊢
      exact ih _ (weight_children_lt_of_mem before) own
        (agree.mono fun field => .inlined before) rfl
    | field head inner =>
      obtain ⟨below, rfl, lighter, stands⟩ := exists_standsFor_of_mem_merge listed
      simp only [WellTyped, and_true]
      by_cases typename : head.name = SelectionScope.typenameField
      · exact .inl typename
      · obtain ⟨type, known, typedBelow⟩ := stands.wellTyped typed agree typename
        exact .inr ⟨type, known, ih _ lighter typedBelow (stands.fieldsAgree agree) rfl⟩

/-- A selected field of a list without spreads has no spreads below it. -/
theorem spreadsOf_of_selects {field : SelectedField} (selects : Selects table selections field)
    (free : spreadsOf selections = []) : spreadsOf field.selections = [] := by
  induction selects with
  | field listed => exact spreadsOf_children (spreadsOf_eq_nil_iff.mp free _ listed)
  | inlined listed inside ih =>
    exact ih (spreadsOf_children (spreadsOf_eq_nil_iff.mp free _ listed))
  | spread listed found inside ih =>
    have own := spreadsOf_eq_nil_iff.mp free _ listed
    simp [spreadsOf] at own

/-- Each field of merged selections stands for fields from before, with merged selections below. -/
theorem exists_standsFor_of_selects_merge (table : FragmentTable)
    (free : spreadsOf selections = []) {field : SelectedField}
    (selects : Selects others (Selection.merge selections) field) :
    ∃ below, field.selections = Selection.merge below ∧ spreadsOf below = [] ∧
      StandsFor (Selects table selections) ⟨field.head, below⟩ := by
  induction size : weight selections using Nat.strongRecOn generalizing selections with
  | _ size ih =>
    subst size
    cases selects with
    | @field _ head inner listed =>
      obtain ⟨below, rfl, -, stands⟩ := exists_standsFor_of_mem_merge listed
      have selected : StandsFor (Selects table selections) ⟨head, below⟩ :=
        stands.mono fun field => selects_of_mem_ownFields
      refine ⟨below, rfl, spreadsOf_eq_nil_iff.mpr fun selection inside => ?_, selected⟩
      -- What stands below comes from fields of the list, in which nothing is spread.
      obtain ⟨source, own, -, inSource⟩ := selected.below selection inside
      exact spreadsOf_eq_nil_iff.mp (spreadsOf_of_selects own free) selection inSource
    | inlined listed inside =>
      obtain ⟨inner, rfl, before⟩ := exists_inlined_of_mem_merge listed
      have freeInner := spreadsOf_children (spreadsOf_eq_nil_iff.mp free _ before)
      obtain ⟨below, same, freeBelow, stands⟩ :=
        ih _ (weight_children_lt_of_mem before) freeInner inside rfl
      exact ⟨below, same, freeBelow, stands.mono fun field => .inlined before⟩
    | spread listed =>
      have own := spreadsOf_eq_nil_iff.mp (spreadsOf_merge free) _ listed
      simp [spreadsOf] at own

/-- Each selection set of merged selections is one from before, merged. -/
theorem exists_level_of_merge (table : FragmentTable) (free : spreadsOf selections = [])
    {fields : SelectedField → Prop}
    (level : Level others (Selection.merge selections) fields) :
    ∃ sources, Level table selections sources ∧ ∀ field, fields field →
      ∃ below, field.selections = Selection.merge below ∧ spreadsOf below = [] ∧
        StandsFor sources ⟨field.head, below⟩ := by
  induction level with
  | top => exact ⟨_, .top, fun field => exists_standsFor_of_selects_merge table free⟩
  | deeper _ key ih =>
    obtain ⟨sources, level, each⟩ := ih
    refine ⟨_, level.deeper key, ?_⟩
    rintro field ⟨above, inside, rfl, selects⟩
    obtain ⟨inner, same, freeInner, stands⟩ := each above inside
    rw [same] at selects
    obtain ⟨below, same, freeBelow, standsBelow⟩ :=
      exists_standsFor_of_selects_merge table freeInner selects
    -- What stands below a joined field comes from fields of its key, so it is in their level.
    refine ⟨below, same, freeBelow, standsBelow.mono fun source selected => ?_⟩
    obtain ⟨selection, listed, own⟩ := selected.exists_of_list
    obtain ⟨origin, isSource, sameKey, inOrigin⟩ := stands.below selection listed
    exact ⟨origin, isSource, sameKey, own.mono (by simpa using inOrigin)⟩

/-- Fields of merged selections agree if those of the selections do. -/
theorem FieldsAgree.merge (agree : FieldsAgree table selections)
    (free : spreadsOf selections = []) : FieldsAgree others (Selection.merge selections) := by
  intro fields level field first other second key
  obtain ⟨sources, levelAbove, each⟩ := exists_level_of_merge table free level
  obtain ⟨_, -, -, stands⟩ := each field first
  obtain ⟨_, -, -, stands'⟩ := each other second
  obtain ⟨source, listed, sourceKey, name⟩ := stands.source
  obtain ⟨source', listed', sourceKey', name'⟩ := stands'.source
  -- Each of the two fields has its key and its name from a field before merging.
  have sameKey : source.key = source'.key := sourceKey.trans (key.trans sourceKey'.symm)
  have sameName := agree sources levelAbove source listed source' listed' sameKey
  exact name.symm.trans (sameName.trans name')

end SelectionTypes.Selection

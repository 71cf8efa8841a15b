import SelectionTypes.Export.Alias
import SelectionTypes.Proofs.Selection.Groups
import SelectionTypes.Proofs.Selection.Inline
import SelectionTypes.Selection.Shape

/-!
# `SelectionTypes.Proofs.Selection.Validity`: selections that fit a schema

Two conditions on selections are checked before a document is run. Neither looks at the types that
values have when it is run:

* `WellTyped`: each field is defined on the type that it is written on, which is the type of the
  field around it or the condition of the fragment around it. The exception is `__typename`.
* `FieldsAgree`: fields of one response key select the same field, wherever in fragments they
  stand. Fields of one key have one result, so what they select on it counts as one selection set.
  `Level` gives the fields of such a set.

The second condition passes on to all sub-selections of a key: `FieldsAgree.deeper`, and
`FieldsAgree.of_group` for the groups that a property is made of.
-/

set_option autoImplicit false

namespace SelectionTypes.Selection

open SelectionScope (typenameField)

variable {schema : Schema} {table : FragmentTable} {selections inner : List Selection}

/-- Each field is defined on the type that it is written on. -/
def WellTyped (schema : Schema) (parent : String) : List Selection → Prop
  | [] => True
  | .field head inner :: rest =>
    (head.name = typenameField ∨ ∃ type, ExportedAlias.fieldType? schema parent head.name =
        some type ∧ WellTyped schema type.base inner)
      ∧ WellTyped schema parent rest
  | .spread _ _ :: rest => WellTyped schema parent rest
  | .inlined condition _ inner :: rest =>
    WellTyped schema (condition.getD parent) inner ∧ WellTyped schema parent rest

/-- A list is well-typed if its first selection and the rest are. -/
theorem wellTyped_cons {parent : String} {selection : Selection} {rest : List Selection} :
    WellTyped schema parent (selection :: rest) ↔
      WellTyped schema parent [selection] ∧ WellTyped schema parent rest := by
  cases selection <;> simp [WellTyped]

/-- Selections are well-typed exactly if each of them is. -/
theorem wellTyped_iff {parent : String} :
    WellTyped schema parent selections ↔
      ∀ selection ∈ selections, WellTyped schema parent [selection] := by
  induction selections with
  | nil => simp [WellTyped]
  | cons selection rest ih =>
    rw [wellTyped_cons, ih]
    simp

/-! ### Selection sets -/

/-- The fields of selections on any type: those of the list and those inside its fragments. -/
inductive Selects (table : FragmentTable) : List Selection → SelectedField → Prop
  | field {selections : List Selection} {head : FieldHead} {inner : List Selection}
      (listed : .field head inner ∈ selections) : Selects table selections ⟨head, inner⟩
  | inlined {selections : List Selection} {condition : Option String}
      {directives : List Directive} {inner : List Selection} {field : SelectedField}
      (listed : .inlined condition directives inner ∈ selections)
      (inside : Selects table inner field) : Selects table selections field
  | spread {selections : List Selection} {name : String} {directives : List Directive}
      {loaded : LoadedFragment} {field : SelectedField}
      (listed : .spread name directives ∈ selections) (found : table.get? name = some loaded)
      (inside : Selects table loaded.fragment.selections field) : Selects table selections field

/-- More selections select more fields. -/
theorem Selects.mono {field : SelectedField} (selects : Selects table inner field)
    (subset : inner ⊆ selections) : Selects table selections field := by
  cases selects with
  | field listed => exact .field (subset listed)
  | inlined listed inside => exact .inlined (subset listed) inside
  | spread listed found inside => exact .spread (subset listed) found inside

/-- A field of a list is one of its first selection or one of the others. -/
theorem Selects.of_cons {selection : Selection} {rest : List Selection} {field : SelectedField}
    (selects : Selects table (selection :: rest) field) :
    Selects table [selection] field ∨ Selects table rest field := by
  cases selects with
  | field listed =>
    exact (List.mem_cons.mp listed).imp (fun same => .field (List.mem_singleton.mpr same)) .field
  | inlined listed inside =>
    exact (List.mem_cons.mp listed).imp (fun same => .inlined (List.mem_singleton.mpr same) inside)
      fun later => .inlined later inside
  | spread listed found inside =>
    exact (List.mem_cons.mp listed).imp
      (fun same => .spread (List.mem_singleton.mpr same) found inside)
      fun later => .spread later found inside

/-- A field of a list is a field of one of its selections. -/
theorem Selects.exists_of_list {field : SelectedField} (selects : Selects table selections field) :
    ∃ selection ∈ selections, Selects table [selection] field := by
  cases selects with
  | field listed => exact ⟨_, listed, .field (List.mem_singleton_self _)⟩
  | inlined listed inside => exact ⟨_, listed, .inlined (List.mem_singleton_self _) inside⟩
  | spread listed found inside =>
    exact ⟨_, listed, .spread (List.mem_singleton_self _) found inside⟩

/-- A field of an inline fragment stands inside it. -/
theorem Selects.of_inlined {condition : Option String} {directives : List Directive}
    {field : SelectedField} (selects : Selects table [.inlined condition directives inner] field) :
    Selects table inner field := by
  cases selects with
  | field listed => simp at listed
  | inlined listed inside =>
    cases List.mem_singleton.mp listed
    exact inside
  | spread listed => simp at listed

/-- A field below several fields is a field below one of them. -/
theorem Selects.of_flatMap {fields : List SelectedField} {field : SelectedField}
    (selects : Selects table (fields.flatMap SelectedField.selections) field) :
    ∃ above ∈ fields, Selects table above.selections field := by
  cases selects with
  | field listed =>
    obtain ⟨above, inside, listed⟩ := List.mem_flatMap.mp listed
    exact ⟨above, inside, .field listed⟩
  | inlined listed below =>
    obtain ⟨above, inside, listed⟩ := List.mem_flatMap.mp listed
    exact ⟨above, inside, .inlined listed below⟩
  | spread listed found below =>
    obtain ⟨above, inside, listed⟩ := List.mem_flatMap.mp listed
    exact ⟨above, inside, .spread listed found below⟩

/-- What is collected for a type is among the fields on any type. -/
theorem Collects.selects {concrete : String} {fields : List SelectedField}
    (collects : Collects schema table concrete selections fields) :
    ∀ field ∈ fields, Selects table selections field := by
  -- Along the collection: each field is selected where it is collected, under no condition.
  induction collects with
  | nil =>
    intro field inside
    cases inside
  | field behind ih =>
    intro field inside
    rcases List.mem_cons.mp inside with rfl | inside
    · exact .field List.mem_cons_self
    · exact (ih field inside).mono (List.subset_cons_self _ _)
  | plain inside behind ihInside ihBehind =>
    intro field listed
    rcases List.mem_append.mp listed with listed | listed
    · exact .inlined List.mem_cons_self (ihInside field listed)
    · exact (ihBehind field listed).mono (List.subset_cons_self _ _)
  | entered admits inside behind ihInside ihBehind =>
    intro field listed
    rcases List.mem_append.mp listed with listed | listed
    · exact .inlined List.mem_cons_self (ihInside field listed)
    · exact (ihBehind field listed).mono (List.subset_cons_self _ _)
  | passed excluded behind ih =>
    exact fun field listed => (ih field listed).mono (List.subset_cons_self _ _)
  | spreadEntered found admits inside behind ihInside ihBehind =>
    intro field listed
    rcases List.mem_append.mp listed with listed | listed
    · exact .spread List.mem_cons_self found (ihInside field listed)
    · exact (ihBehind field listed).mono (List.subset_cons_self _ _)
  | spreadPassed found excluded behind ih =>
    exact fun field listed => (ih field listed).mono (List.subset_cons_self _ _)

/-- The selection sets of selections: their fields, and below the fields of one key of a set the
fields that any of them selects. -/
inductive Level (table : FragmentTable) (selections : List Selection) :
    (SelectedField → Prop) → Prop
  | top : Level table selections (Selects table selections)
  | deeper {fields : SelectedField → Prop} (level : Level table selections fields) (key : String) :
      Level table selections fun field => ∃ above, fields above ∧ above.key = key ∧
        Selects table above.selections field

/-- Fields of one key in one selection set select the same field. -/
def FieldsAgree (table : FragmentTable) (selections : List Selection) : Prop :=
  ∀ fields, Level table selections fields → ∀ field, fields field → ∀ other, fields other →
    field.key = other.key → field.head.name = other.head.name

/-- If the fields of some selections are in a selection set of others, then each of their selection
sets is in one of the others. -/
theorem Level.exists_above {fields : SelectedField → Prop} (level : Level table selections fields)
    (subset : ∀ field, Selects table inner field → fields field) {below : SelectedField → Prop}
    (levelBelow : Level table inner below) :
    ∃ above, Level table selections above ∧ ∀ field, below field → above field := by
  induction levelBelow with
  | top => exact ⟨fields, level, subset⟩
  | deeper _ key ih =>
    obtain ⟨above, levelAbove, contained⟩ := ih
    refine ⟨_, levelAbove.deeper key, ?_⟩
    rintro field ⟨source, inside, sameKey, selects⟩
    exact ⟨source, contained source inside, sameKey, selects⟩

/-- Fields agree where fewer of them are selected. -/
theorem FieldsAgree.mono (agree : FieldsAgree table selections)
    (subset : ∀ field, Selects table inner field → Selects table selections field) :
    FieldsAgree table inner := by
  intro below level field first other second key
  obtain ⟨above, levelAbove, contained⟩ := Level.top.exists_above subset level
  exact agree above levelAbove field (contained field first) other (contained other second) key

/-- Each selection set below the fields of one key is in a selection set of the selections. -/
theorem Level.exists_above_of_key {fields : List SelectedField} {key : String}
    (inside : ∀ field ∈ fields, Selects table selections field ∧ field.key = key)
    {below : SelectedField → Prop}
    (level : Level table (fields.flatMap SelectedField.selections) below) :
    ∃ above, Level table selections above ∧ ∀ field, below field → above field := by
  refine (Level.top.deeper key).exists_above (fun field selects => ?_) level
  obtain ⟨above, listed, selects⟩ := selects.of_flatMap
  exact ⟨above, (inside above listed).1, (inside above listed).2, selects⟩

/-- Fields agree below the fields of one key. -/
theorem FieldsAgree.deeper (agree : FieldsAgree table selections) {fields : List SelectedField}
    {key : String} (inside : ∀ field ∈ fields, Selects table selections field ∧ field.key = key) :
    FieldsAgree table (fields.flatMap SelectedField.selections) := by
  intro below level field first other second sameKey
  obtain ⟨above, levelAbove, contained⟩ := level.exists_above_of_key inside
  exact agree above levelAbove field (contained field first) other (contained other second) sameKey

/-- Selected fields of one group have one name, and fields agree below them. -/
theorem FieldsAgree.of_group (agree : FieldsAgree table selections) {fields : List SelectedField}
    (selects : ∀ field ∈ fields, Selects table selections field)
    {group : SelectedField × List SelectedField} (grouped : group ∈ SelectedField.groups fields) :
    (∀ field ∈ SelectedField.members group, field.head.name = group.1.head.name) ∧
      FieldsAgree table ((SelectedField.members group).flatMap SelectedField.selections) := by
  have members : ∀ field ∈ SelectedField.members group,
      Selects table selections field ∧ field.key = group.1.key := by
    intro field member
    obtain ⟨inside, key⟩ := SelectedField.mem_of_mem_groups grouped member
    exact ⟨selects field inside, key⟩
  refine ⟨fun field member => ?_, agree.deeper members⟩
  exact agree _ .top field (members field member).1 group.1
    (members group.1 List.mem_cons_self).1 (members field member).2

/-- Fields agree below a single field. -/
theorem FieldsAgree.below (agree : FieldsAgree table selections) {field : SelectedField}
    (inside : Selects table selections field) : FieldsAgree table field.selections := by
  have single : ∀ other ∈ [field], Selects table selections other ∧ other.key = field.key := by
    intro other listed
    rw [List.mem_singleton.mp listed]
    exact ⟨inside, rfl⟩
  have agreeBelow := agree.deeper single
  rwa [List.flatMap_singleton] at agreeBelow

/-- A property of all fields of selections and fragments is one of a field that they select and of
the fields below it. -/
theorem Selects.forall_heads {holds : FieldHead → Prop}
    (fragments : ∀ loaded ∈ table, ∀ head ∈ headsOf loaded.fragment.selections, holds head)
    {field : SelectedField} (selects : Selects table selections field)
    (own : ∀ head ∈ headsOf selections, holds head) :
    holds field.head ∧ ∀ head ∈ headsOf field.selections, holds head := by
  -- A field is selected in the selections themselves or in a fragment of the table.
  induction selects with
  | field listed =>
    obtain ⟨isHead, below⟩ := headsOf_of_mem_field listed
    exact ⟨own _ isHead, fun head inside => own head (below inside)⟩
  | inlined listed inside ih =>
    exact ih fun head below => own head (headsOf_of_mem_inlined listed below)
  | spread listed found inside ih =>
    exact ih (fragments _ (List.mem_of_find?_eq_some found))

/-- A property of all fields of selections and fragments is one of the fields in selection sets. -/
theorem Level.forall_heads {holds : FieldHead → Prop}
    (own : ∀ head ∈ headsOf selections, holds head)
    (fragments : ∀ loaded ∈ table, ∀ head ∈ headsOf loaded.fragment.selections, holds head)
    {fields : SelectedField → Prop} (level : Level table selections fields) :
    ∀ field, fields field → holds field.head ∧ ∀ head ∈ headsOf field.selections, holds head := by
  induction level with
  | top => exact fun field selects => selects.forall_heads fragments own
  | deeper level key ih =>
    rintro field ⟨above, inside, -, selects⟩
    exact selects.forall_heads fragments (ih above inside).2

/-- Fields agree if each key decides which field it selects. -/
theorem fieldsAgree_of_names (nameOf : String → String)
    (own : ∀ head ∈ headsOf selections, head.name = nameOf head.responseKey)
    (fragments : ∀ loaded ∈ table, ∀ head ∈ headsOf loaded.fragment.selections,
      head.name = nameOf head.responseKey) : FieldsAgree table selections := by
  intro fields level field first other second key
  have each := level.forall_heads own fragments
  rw [(each field first).1, (each other second).1]
  exact congrArg nameOf key

/-- Fields without aliases agree, since each key is the name of a field. -/
theorem fieldsAgree_of_unaliased (own : ∀ head ∈ headsOf selections, head.aliasName = none)
    (fragments : ∀ loaded ∈ table, ∀ head ∈ headsOf loaded.fragment.selections,
      head.aliasName = none) : FieldsAgree table selections := by
  have named : ∀ head : FieldHead, head.aliasName = none → head.name = id head.responseKey := by
    intro head none
    rw [FieldHead.responseKey, none]
    rfl
  exact fieldsAgree_of_names id (fun head inside => named head (own head inside))
    fun loaded listed head inside => named head (fragments loaded listed head inside)

end SelectionTypes.Selection

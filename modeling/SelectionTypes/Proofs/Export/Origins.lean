import SelectionTypes.Proofs.Export.Standing

/-!
# `SelectionTypes.Proofs.Export.Origins`: where fields that are read were written

A type is read on object types, through spreads, and below all fields of one key together. Exports
are collected where fields are written. `Selection.Origins` describes the selections that fields can
be written in: they are well-typed, and where a fragment is spread its selections are among them.
`Selection.WrittenFor` says that a selection is written in one of them, on a type that admits an
object type. This is kept on the way down:

* `writtenFor_of_collects`: from selections to the fields that an object type collects from them.
* `Origins.writtenFor_below`: from a field to its sub-selections, for the types of its values.
-/

set_option autoImplicit false

namespace SelectionTypes

open SelectionScope (typenameField)

namespace Selection

variable {schema : Schema} {table : FragmentTable} {origin : String → List Selection → Prop}
variable {parent static concrete : String} {selection : Selection} {selections : List Selection}

/-- Selections on types that are well-typed, and with each spread that stands in them the selections
of its fragment. -/
structure Origins (schema : Schema) (table : FragmentTable)
    (origin : String → List Selection → Prop) : Prop where
  typed : ∀ parent selections, origin parent selections → WellTyped schema parent selections
  closed : ∀ parent selections, origin parent selections → ∀ static name directives loaded,
    Stands schema parent selections static (.spread name directives) →
      table.get? name = some loaded → origin loaded.fragment.onType loaded.fragment.selections

/-- A selection that is written in an origin, on a type. -/
def WrittenIn (schema : Schema) (origin : String → List Selection → Prop) (static : String)
    (selection : Selection) : Prop :=
  ∃ parent selections, origin parent selections ∧ Stands schema parent selections static selection

/-- A selection that is written in an origin, on some type that admits an object type. -/
def WrittenFor (schema : Schema) (origin : String → List Selection → Prop) (concrete : String)
    (selection : Selection) : Prop :=
  ∃ static, WrittenIn schema origin static selection ∧ schema.Admits static concrete

/-- What is inside a written inline fragment is written on its condition. -/
theorem WrittenIn.inlined {condition : Option String} {directives : List Directive}
    {inner : List Selection}
    (written : WrittenIn schema origin static (.inlined condition directives inner))
    (listed : selection ∈ inner) :
    WrittenIn schema origin (condition.getD static) selection := by
  obtain ⟨parent, selections, isOrigin, stands⟩ := written
  exact ⟨parent, selections, isOrigin, stands.trans_inlined (.here listed)⟩

/-- What is below a written field that is no leaf is written on the type of the field. -/
theorem WrittenIn.below {head : FieldHead} {inner : List Selection} {type : TypeRef}
    (written : WrittenIn schema origin static (.field head inner))
    (known : ExportedAlias.fieldType? schema static head.name = some type)
    (noLeaf : schema.isLeaf type.base = false) (listed : selection ∈ inner) :
    WrittenIn schema origin type.base selection := by
  obtain ⟨parent, selections, isOrigin, stands⟩ := written
  exact ⟨parent, selections, isOrigin, stands.trans_below known noLeaf (.here listed)⟩

/-- A written field that does not tell the type is defined on the type that it is written on. -/
theorem Origins.exists_fieldType? (origins : Origins schema table origin)
    (valid : schema.typeProblems = []) {head : FieldHead} {inner : List Selection}
    (written : WrittenIn schema origin static (.field head inner))
    (named : head.name ≠ typenameField) :
    ∃ type, ExportedAlias.fieldType? schema static head.name = some type := by
  obtain ⟨parent, selections, isOrigin, stands⟩ := written
  have typed := stands.wellTyped valid (origins.typed parent selections isOrigin)
  rw [WellTyped] at typed
  obtain ⟨type, known, -⟩ := typed.1.resolve_left named
  exact ⟨type, known⟩

/-- The fields that an object type collects are written on types that admit it. -/
theorem writtenFor_of_collects (origins : Origins schema table origin)
    {fields : List SelectedField} (collects : Collects schema table concrete selections fields)
    (each : ∀ selection ∈ selections, WrittenFor schema origin concrete selection) :
    ∀ field ∈ fields, WrittenFor schema origin concrete (.field field.head field.selections) := by
  -- Along the collection: each fragment that is entered has a condition that admits the type.
  induction collects with
  | nil => exact List.forall_mem_nil _
  | field behind ih =>
    rw [List.forall_mem_cons] at each
    exact List.forall_mem_cons.mpr ⟨each.1, ih each.2⟩
  | plain inside behind ihInside ihBehind =>
    rw [List.forall_mem_cons] at each
    obtain ⟨⟨static, written, admits⟩, rest⟩ := each
    exact List.forall_mem_append.mpr
      ⟨ihInside fun selection listed => ⟨static, written.inlined listed, admits⟩, ihBehind rest⟩
  | entered admits inside behind ihInside ihBehind =>
    rw [List.forall_mem_cons] at each
    obtain ⟨⟨static, written, -⟩, rest⟩ := each
    exact List.forall_mem_append.mpr
      ⟨ihInside fun selection listed => ⟨_, written.inlined listed, admits⟩, ihBehind rest⟩
  | passed excluded behind ih => exact ih (List.forall_mem_cons.mp each).2
  | spreadEntered found admits inside behind ihInside ihBehind =>
    rw [List.forall_mem_cons] at each
    obtain ⟨⟨static, ⟨parent, selections, isOrigin, stands⟩, -⟩, rest⟩ := each
    -- The fragment is an origin of its own.
    have isFragment := origins.closed parent selections isOrigin static _ _ _ stands found
    exact List.forall_mem_append.mpr
      ⟨ihInside fun selection listed => ⟨_, ⟨_, _, isFragment, .here listed⟩, admits⟩,
        ihBehind rest⟩
  | spreadPassed found excluded behind ih => exact ih (List.forall_mem_cons.mp each).2

/-- What stands below a field that an object type collects is written on types that admit the types
of its values, if it is no leaf there. -/
theorem Origins.writtenFor_below (origins : Origins schema table origin)
    (wellFormed : schema.WellFormed) (valid : schema.typeProblems = [])
    (object : schema.kind? concrete = some .object) {field : SelectedField}
    (stands : WrittenFor schema origin concrete (.field field.head field.selections))
    {type : TypeRef}
    (known : ExportedAlias.fieldType? schema concrete field.head.name = some type)
    (noLeaf : schema.isLeaf type.base = false) {types : List String}
    (isTypes : schema.concreteTypes type.base = .ok types) {value : String}
    (isValue : value ∈ types) :
    ∀ selection ∈ field.selections, WrittenFor schema origin value selection := by
  obtain ⟨static, written, admits⟩ := stands
  obtain ⟨expected, onStatic⟩ :=
    origins.exists_fieldType? valid written (name_ne_typename valid known)
  obtain ⟨leaf, admitted⟩ := wellFormed.covariant valid object admits onStatic known
  have noLeaf' : schema.isLeaf expected.base = false := by
    rw [← Bool.not_eq_true] at noLeaf ⊢
    exact mt leaf noLeaf
  exact fun selection listed =>
    ⟨expected.base, written.below onStatic noLeaf' listed, admitted types isTypes value isValue⟩

/-- What stands below fields of one name is written for the types of their values. -/
theorem Origins.writtenFor_flatMap (origins : Origins schema table origin)
    (wellFormed : schema.WellFormed) (valid : schema.typeProblems = [])
    (object : schema.kind? concrete = some .object) {name : String}
    {fields : List SelectedField} (written : ∀ field ∈ fields,
      WrittenFor schema origin concrete (.field field.head field.selections))
    (names : ∀ field ∈ fields, field.head.name = name) {type : TypeRef}
    (known : ExportedAlias.fieldType? schema concrete name = some type)
    (noLeaf : schema.isLeaf type.base = false) {types : List String}
    (isTypes : schema.concreteTypes type.base = .ok types) :
    ∀ value ∈ types, ∀ selection ∈ fields.flatMap SelectedField.selections,
      WrittenFor schema origin value selection := by
  intro value isValue selection inside
  obtain ⟨field, listed, inside⟩ := List.mem_flatMap.mp inside
  refine origins.writtenFor_below wellFormed valid object (written field listed) ?_ noLeaf isTypes
    isValue selection inside
  rwa [names field listed]

/-! ### Selections and the fragments that they spread -/

/-- The selections that others include: those themselves, and the ones of the fragments that are
spread in included ones. -/
inductive Includes (schema : Schema) (table : FragmentTable) (parent : String)
    (selections : List Selection) : String → List Selection → Prop
  | own : Includes schema table parent selections parent selections
  | spread {above static name : String} {inner : List Selection} {directives : List Directive}
      {loaded : LoadedFragment} (includes : Includes schema table parent selections above inner)
      (stands : Stands schema above inner static (.spread name directives))
      (found : table.get? name = some loaded) :
      Includes schema table parent selections loaded.fragment.onType loaded.fragment.selections

/-- Included selections are origins if they are well-typed. -/
theorem origins_includes (typed : WellTyped schema parent selections)
    (fragments : ∀ loaded ∈ table,
      WellTyped schema loaded.fragment.onType loaded.fragment.selections) :
    Origins schema table (Includes schema table parent selections) where
  typed := by
    intro static inner includes
    cases includes with
    | own => exact typed
    | spread _ _ found => exact fragments _ (List.mem_of_find?_eq_some found)
  closed := fun _ _ includes _ _ _ _ stands found => .spread includes stands found

/-- Selections without spreads are an origin if they are well-typed. -/
theorem origins_of_free (typed : WellTyped schema parent selections)
    (free : spreadsOf selections = []) :
    Origins schema table fun other inner => other = parent ∧ inner = selections where
  typed := by
    rintro _ _ ⟨rfl, rfl⟩
    exact typed
  closed := by
    rintro _ _ ⟨rfl, rfl⟩ static name directives loaded stands -
    have inside := stands.spreadsOf_subset
    rw [free, List.subset_nil, spreadsOf] at inside
    cases inside

/-- Fields agree in what stands in selections whose fields agree. -/
theorem FieldsAgree.of_stands (agree : FieldsAgree table selections)
    (stands : Stands schema parent selections static selection) :
    FieldsAgree table [selection] := by
  induction stands with
  | here listed =>
    exact agree.mono fun field selects =>
      selects.mono (List.cons_subset.mpr ⟨listed, List.nil_subset _⟩)
  | inlined listed _ ih => exact ih (agree.mono fun field selects => .inlined listed selects)
  | @deeper _ _ _ inner _ head _ listed _ _ _ ih =>
    exact ih (agree.below (.field listed : Selects table _ ⟨head, inner⟩))

/-- Fields agree in included selections if they do in those themselves. -/
theorem FieldsAgree.of_includes (agree : FieldsAgree table selections)
    {inner : List Selection} (includes : Includes schema table parent selections static inner) :
    FieldsAgree table inner := by
  induction includes with
  | own => exact agree
  | spread _ stands found ih =>
    exact (ih.of_stands stands).mono fun field selects =>
      .spread (List.mem_singleton_self _) found selects

/-- Fields agree below a field that is written in included selections. -/
theorem FieldsAgree.of_writtenIn (agree : FieldsAgree table selections) {field : SelectedField}
    (written : WrittenIn schema (Includes schema table parent selections) static
      (.field field.head field.selections)) : FieldsAgree table field.selections := by
  obtain ⟨_, inner, includes, stands⟩ := written
  exact ((agree.of_includes includes).of_stands stands).below (.field (List.mem_singleton_self _))

end Selection

end SelectionTypes

import SelectionTypes.Proofs.Export.Collection

/-!
# `SelectionTypes.Proofs.Export.Standing`: where selections are written

`Stands` says that a selection is written on a type somewhere in others: in the list, in an inline
fragment, or below a field that is no leaf. Spreads are not entered. These are the selections that
collecting exports comes to, so the collected aliases are those of the exported fields that stand in
the selections: `Gathers.aliases_subset` and `Gathers.exists_field`.
-/

set_option autoImplicit false

namespace SelectionTypes

open Outcome
open Selection (WellTyped)
open SelectionScope (typenameField)

namespace Selection

variable {schema : Schema} {parent static : String} {selection : Selection}
variable {selections : List Selection}

/-- A selection that is written on a type, in selections on another. -/
inductive Stands (schema : Schema) : String → List Selection → String → Selection → Prop
  | here {parent : String} {selections : List Selection} {selection : Selection}
      (listed : selection ∈ selections) : Stands schema parent selections parent selection
  | inlined {parent static : String} {selections inner : List Selection} {selection : Selection}
      {condition : Option String} {directives : List Directive}
      (listed : .inlined condition directives inner ∈ selections)
      (inside : Stands schema (condition.getD parent) inner static selection) :
      Stands schema parent selections static selection
  | deeper {parent static : String} {selections inner : List Selection} {selection : Selection}
      {head : FieldHead} {type : TypeRef} (listed : .field head inner ∈ selections)
      (known : ExportedAlias.fieldType? schema parent head.name = some type)
      (noLeaf : schema.isLeaf type.base = false)
      (inside : Stands schema type.base inner static selection) :
      Stands schema parent selections static selection

/-- What stands in selections stands in more of them. -/
theorem Stands.mono {more : List Selection}
    (stands : Stands schema parent selections static selection)
    (subset : selections ⊆ more) : Stands schema parent more static selection := by
  cases stands with
  | here listed => exact .here (subset listed)
  | inlined listed inside => exact .inlined (subset listed) inside
  | deeper listed known noLeaf inside => exact .deeper (subset listed) known noLeaf inside

/-- Nothing stands in no selections. -/
theorem not_stands_nil : ¬ Stands schema parent [] static selection := by
  intro stands
  cases stands with
  | here listed => cases listed
  | inlined listed => cases listed
  | deeper listed => cases listed

/-- What stands in a list stands in its first selection or in the others. -/
theorem Stands.of_cons {first : Selection} {rest : List Selection}
    (stands : Stands schema parent (first :: rest) static selection) :
    Stands schema parent [first] static selection ∨ Stands schema parent rest static selection := by
  have single : ∀ {listed : Selection}, listed = first → listed ∈ [first] :=
    fun same => List.mem_singleton.mpr same
  cases stands with
  | here listed => exact (List.mem_cons.mp listed).imp (fun same => .here (single same)) .here
  | inlined listed inside =>
    exact (List.mem_cons.mp listed).imp (fun same => .inlined (single same) inside)
      fun later => .inlined later inside
  | deeper listed known noLeaf inside =>
    exact (List.mem_cons.mp listed).imp (fun same => .deeper (single same) known noLeaf inside)
      fun later => .deeper later known noLeaf inside

/-- What stands in a field is the field, or it stands below it. -/
theorem Stands.of_field {head : FieldHead} {inner : List Selection}
    (stands : Stands schema parent [.field head inner] static selection) :
    (static = parent ∧ selection = .field head inner) ∨
      ∃ type, ExportedAlias.fieldType? schema parent head.name = some type ∧
        schema.isLeaf type.base = false ∧ Stands schema type.base inner static selection := by
  cases stands with
  | here listed => exact .inl ⟨rfl, List.mem_singleton.mp listed⟩
  | inlined listed => cases List.mem_singleton.mp listed
  | deeper listed known noLeaf inside =>
    cases List.mem_singleton.mp listed
    exact .inr ⟨_, known, noLeaf, inside⟩

/-- What stands in an inline fragment is the fragment, or it stands inside. -/
theorem Stands.of_inlined {condition : Option String} {directives : List Directive}
    {inner : List Selection}
    (stands : Stands schema parent [.inlined condition directives inner] static selection) :
    (static = parent ∧ selection = .inlined condition directives inner) ∨
      Stands schema (condition.getD parent) inner static selection := by
  cases stands with
  | here listed => exact .inl ⟨rfl, List.mem_singleton.mp listed⟩
  | inlined listed inside =>
    cases List.mem_singleton.mp listed
    exact .inr inside
  | deeper listed => cases List.mem_singleton.mp listed

/-- Nothing but a spread stands in it. -/
theorem Stands.of_spread {name : String} {directives : List Directive}
    (stands : Stands schema parent [.spread name directives] static selection) :
    selection = .spread name directives := by
  cases stands with
  | here listed => exact List.mem_singleton.mp listed
  | inlined listed => cases List.mem_singleton.mp listed
  | deeper listed => cases List.mem_singleton.mp listed

/-- What stands in a standing inline fragment stands in the selections. -/
theorem Stands.trans_inlined {condition : Option String} {directives : List Directive}
    {inner : List Selection} {last : String}
    (stands : Stands schema parent selections static (.inlined condition directives inner))
    (inside : Stands schema (condition.getD static) inner last selection) :
    Stands schema parent selections last selection := by
  -- Induction on where the fragment stands, so its form has to be kept in an equation.
  generalize isInlined : Selection.inlined condition directives inner = above at stands
  induction stands with
  | here listed =>
    subst isInlined
    exact .inlined listed inside
  | inlined listed _ ih => exact .inlined listed (ih inside isInlined)
  | deeper listed known noLeaf _ ih => exact .deeper listed known noLeaf (ih inside isInlined)

/-- What stands below a standing field that is no leaf stands in the selections. -/
theorem Stands.trans_below {head : FieldHead} {inner : List Selection} {type : TypeRef}
    {last : String} (stands : Stands schema parent selections static (.field head inner))
    (known : ExportedAlias.fieldType? schema static head.name = some type)
    (noLeaf : schema.isLeaf type.base = false)
    (inside : Stands schema type.base inner last selection) :
    Stands schema parent selections last selection := by
  generalize isField : Selection.field head inner = above at stands
  induction stands with
  | here listed =>
    subst isField
    exact .deeper listed known noLeaf inside
  | inlined listed _ ih => exact .inlined listed (ih known isField)
  | deeper listed known' noLeaf' _ ih => exact .deeper listed known' noLeaf' (ih known isField)

/-- What stands in selections spreads only what they spread. -/
theorem Stands.spreadsOf_subset (stands : Stands schema parent selections static selection) :
    spreadsOf [selection] ⊆ spreadsOf selections := by
  have listed_subset : ∀ {listed : Selection} {selections : List Selection}, listed ∈ selections →
      spreadsOf [listed] ⊆ spreadsOf selections := by
    intro listed selections inside
    obtain ⟨before, after, rfl⟩ := List.append_of_mem inside
    rw [spreadsOf_append, show spreadsOf (listed :: after) = spreadsOf [listed] ++ spreadsOf after
      from spreadsOf_append [listed] after]
    exact List.subset_append_of_subset_right _ (List.subset_append_left _ _)
  -- Along the way to the selection, each step goes to a member of a list.
  induction stands with
  | here listed => exact listed_subset listed
  | inlined listed _ ih =>
    refine List.Subset.trans ih (List.Subset.trans ?_ (listed_subset listed))
    simp [spreadsOf]
  | deeper listed _ _ _ ih =>
    refine List.Subset.trans ih (List.Subset.trans ?_ (listed_subset listed))
    simp [spreadsOf]

/-- The fields of what stands in selections are fields of the selections. -/
theorem Stands.headsOf_subset (stands : Stands schema parent selections static selection) :
    headsOf [selection] ⊆ headsOf selections := by
  induction stands with
  | @here _ selections selection listed =>
    obtain ⟨before, after, rfl⟩ := List.append_of_mem listed
    rw [headsOf_append, show headsOf (selection :: after) = headsOf [selection] ++ headsOf after
      from headsOf_append [selection] after]
    exact List.subset_append_of_subset_right _ (List.subset_append_left _ _)
  | inlined listed _ ih => exact List.Subset.trans ih (headsOf_of_mem_inlined listed)
  | deeper listed _ _ _ ih => exact List.Subset.trans ih (headsOf_of_mem_field listed).2

/-- A field of a type is not the one that tells the type. -/
theorem name_ne_typename (valid : schema.typeProblems = []) {name : String} {type : TypeRef}
    (known : ExportedAlias.fieldType? schema parent name = some type) : name ≠ typenameField := by
  rintro rfl
  have reserved := Schema.isIntrospectionName_eq_false valid known
  simp [typenameField, isIntrospectionName] at reserved

/-- A field that stands in well-typed selections tells the type or is defined on the type that it is
written on. -/
theorem Stands.wellTyped (valid : schema.typeProblems = [])
    (stands : Stands schema parent selections static selection)
    (typed : WellTyped schema parent selections) : WellTyped schema static [selection] := by
  induction stands with
  | here listed => exact wellTyped_iff.mp typed _ listed
  | inlined listed _ ih =>
    have own := wellTyped_iff.mp typed _ listed
    rw [WellTyped] at own
    exact ih own.1
  | deeper listed known _ _ ih =>
    have own := wellTyped_iff.mp typed _ listed
    rw [WellTyped] at own
    -- The field has a type here, so it does not ask for the type of the object.
    obtain ⟨type, known', below⟩ := own.1.resolve_left (name_ne_typename valid known)
    cases known.symm.trans known'
    exact ih below

end Selection

namespace ExportedAlias

open Selection (Stands)

variable {schema : Schema} {parent static : String} {found collected : List ExportedAlias}
variable {selections : List Selection} {field : SelectedField}

/-- The aliases that a field is exported with where it is written on a type. -/
def AliasesOf (schema : Schema) (static : String) (field : SelectedField)
    (aliases : List ExportedAlias) : Prop :=
  ∃ type, fieldType? schema static field.head.name = some type ∧
    ofField schema static field type.base = .ok aliases

/-- An exported field that is added has aliases, which are added. -/
theorem aliasesOf_addField {type : TypeRef}
    (known : fieldType? schema static field.head.name = some type)
    (added : addField schema static found field type.base = .ok collected)
    (exported : field.head.isExported = true) :
    ∃ aliases, AliasesOf schema static field aliases ∧ collected = found ++ aliases := by
  rcases addField_eq_ok added with ⟨plain, -⟩ | ⟨aliases, made, same⟩
  · rw [exported] at plain
    cases plain
  · exact ⟨aliases, ⟨type, known, made⟩, same⟩

/-- The aliases of an exported field that stands in selections are among the collected ones. -/
theorem Gathers.aliases_subset (gathers : Gathers schema parent found selections collected)
    (stands : Stands schema parent selections static (.field field.head field.selections))
    (exported : field.head.isExported = true) :
    ∃ aliases, AliasesOf schema static field aliases ∧ aliases ⊆ collected := by
  -- Along the collection: later steps keep the aliases that earlier ones add.
  induction gathers with
  | nil => exact absurd stands Selection.not_stands_nil
  | spread behind ih =>
    rcases stands.of_cons with first | later
    · cases first.of_spread
    · exact ih later
  | inlined inside behind ihInside ihBehind =>
    rcases stands.of_cons with first | later
    · rcases first.of_inlined with ⟨-, same⟩ | deeper
      · cases same
      · obtain ⟨aliases, made, contained⟩ := ihInside deeper
        exact ⟨aliases, made, List.Subset.trans contained behind.subset⟩
    · exact ihBehind later
  | untyped unknown plain behind ih =>
    rcases stands.of_cons with first | later
    · rcases first.of_field with ⟨-, same⟩ | ⟨type, known, -⟩
      · cases same
        rw [exported] at plain
        cases plain
      · cases unknown.symm.trans known
    · exact ih later
  | leaf known isLeaf added behind ih =>
    rcases stands.of_cons with first | later
    · rcases first.of_field with ⟨rfl, same⟩ | ⟨type, known', noLeaf, -⟩
      · cases same
        obtain ⟨aliases, made, rfl⟩ := aliasesOf_addField known added exported
        exact ⟨aliases, made, List.Subset.trans (List.subset_append_right _ _) behind.subset⟩
      · cases known.symm.trans known'
        cases isLeaf.symm.trans noLeaf
    · exact ih later
  | field known noLeaf added inside behind ihInside ihBehind =>
    rcases stands.of_cons with first | later
    · rcases first.of_field with ⟨rfl, same⟩ | ⟨type, known', -, deeper⟩
      · cases same
        obtain ⟨aliases, made, rfl⟩ := aliasesOf_addField known added exported
        have contained := List.Subset.trans inside.subset behind.subset
        exact ⟨aliases, made, List.Subset.trans (List.subset_append_right _ _) contained⟩
      · cases known.symm.trans known'
        obtain ⟨aliases, made, contained⟩ := ihInside deeper
        exact ⟨aliases, made, List.Subset.trans contained behind.subset⟩
    · exact ihBehind later

/-- An alias that a field adds is one of the aliases of the field. -/
theorem exists_of_mem_addField {type : TypeRef} {exported : ExportedAlias}
    (known : fieldType? schema static field.head.name = some type)
    (added : addField schema static found field type.base = .ok collected)
    (listed : exported ∈ collected) :
    exported ∈ found ∨ ∃ aliases, AliasesOf schema static field aliases ∧ exported ∈ aliases := by
  rcases addField_eq_ok added with ⟨-, rfl⟩ | ⟨aliases, made, rfl⟩
  · exact .inl listed
  · exact (List.mem_append.mp listed).imp_right fun own => ⟨aliases, ⟨type, known, made⟩, own⟩

/-- Each collected alias was found before, or it is one of the aliases of a field that stands in the
selections. -/
theorem Gathers.exists_field (gathers : Gathers schema parent found selections collected)
    {exported : ExportedAlias} (listed : exported ∈ collected) :
    exported ∈ found ∨ ∃ static field aliases,
      Stands schema parent selections static (.field field.head field.selections) ∧
        AliasesOf schema static field aliases ∧ exported ∈ aliases := by
  -- A field behind the first selection stands in the whole list.
  have behindIt : ∀ {parent : String} {selection : Selection} {rest : List Selection},
      (∃ static field aliases,
        Stands schema parent rest static (.field field.head field.selections) ∧
          AliasesOf schema static field aliases ∧ exported ∈ aliases) →
      ∃ static field aliases,
        Stands schema parent (selection :: rest) static (.field field.head field.selections) ∧
          AliasesOf schema static field aliases ∧ exported ∈ aliases := by
    rintro parent selection rest ⟨static, field, aliases, stands, made, own⟩
    exact ⟨static, field, aliases, stands.mono (List.subset_cons_self _ _), made, own⟩
  induction gathers with
  | nil => exact .inl listed
  | spread behind ih => exact (ih listed).imp_right behindIt
  | inlined inside behind ihInside ihBehind =>
    rcases ihBehind listed with listed | later
    · refine (ihInside listed).imp_right ?_
      rintro ⟨static, field, aliases, stands, made, own⟩
      exact ⟨static, field, aliases, .inlined List.mem_cons_self stands, made, own⟩
    · exact .inr (behindIt later)
  | untyped unknown plain behind ih => exact (ih listed).imp_right behindIt
  | @leaf parent head inner _ _ _ _ _ known isLeaf added behind ih =>
    rcases ih listed with listed | later
    · refine (exists_of_mem_addField known added listed).imp_right ?_
      rintro ⟨aliases, made, own⟩
      exact ⟨parent, ⟨head, inner⟩, aliases, .here List.mem_cons_self, made, own⟩
    · exact .inr (behindIt later)
  | @field parent head inner _ _ _ _ _ _ known noLeaf added inside behind ihInside ihBehind =>
    rcases ihBehind listed with listed | later
    · rcases ihInside listed with listed | ⟨static, field, aliases, stands, made, own⟩
      · refine (exists_of_mem_addField known added listed).imp_right ?_
        rintro ⟨aliases, made, own⟩
        exact ⟨parent, ⟨head, inner⟩, aliases, .here List.mem_cons_self, made, own⟩
      · exact .inr ⟨static, field, aliases,
          .deeper List.mem_cons_self known noLeaf stands, made, own⟩
    · exact .inr (behindIt later)

/-- The aliases of a field have it for their field. They are for its type, or for an object type
where that is an interface. -/
theorem AliasesOf.of_mem {aliases : List ExportedAlias}
    (made : AliasesOf schema static field aliases) {exported : ExportedAlias}
    (listed : exported ∈ aliases) :
    exported.field = field ∧ ∃ type definition,
      fieldType? schema static field.head.name = some type ∧ schema.isLeaf type.base = false ∧
      schema.type? type.base = some definition ∧ definition.kind.isExportable = true ∧
      (exported.type = type.base ∨
        (definition.kind = .interface ∧ exported.type ∈ schema.possibleTypes definition)) := by
  obtain ⟨type, known, made⟩ := made
  obtain ⟨name, definition, -, noLeaf, isType, exportable, rfl⟩ := ofField_eq_ok made
  rcases List.mem_cons.mp listed with rfl | listed
  · exact ⟨rfl, type, definition, known, noLeaf, isType, exportable, .inl rfl⟩
  · obtain ⟨concrete, possible, rfl⟩ := List.mem_map.mp listed
    exact ⟨rfl, type, definition, known, noLeaf, isType, exportable,
      .inr (mem_implementors_iff.mp possible)⟩

/-- The aliases of a field are for types that the type of the field admits, which is no leaf. -/
theorem admits_of_mem_aliases {aliases : List ExportedAlias}
    (made : AliasesOf schema static field aliases) {exported : ExportedAlias}
    (listed : exported ∈ aliases) :
    ∃ type, fieldType? schema static field.head.name = some type ∧
      schema.isLeaf type.base = false ∧ schema.Admits type.base exported.type := by
  obtain ⟨-, type, definition, known, noLeaf, isType, -, own⟩ := made.of_mem listed
  refine ⟨type, known, noLeaf, ?_⟩
  rcases own with same | ⟨interface, possible⟩
  · exact .inl same
  · exact .inr ⟨definition, isType, by rw [interface]; rfl, possible⟩

/-- The aliases of selections without spreads have none below their fields. -/
theorem spreadsOf_of_collect (collects : collect schema parent selections = .ok collected)
    (free : Selection.spreadsOf selections = []) {exported : ExportedAlias}
    (listed : exported ∈ collected) : Selection.spreadsOf exported.field.selections = [] := by
  rcases (gathers_of_collect collects).exists_field listed with
    listed | ⟨static, field, aliases, stands, made, own⟩
  · cases listed
  · have below := stands.spreadsOf_subset
    rw [free, List.subset_nil, Selection.spreadsOf, List.append_eq_nil_iff] at below
    rw [(made.of_mem own).1]
    exact below.1

end ExportedAlias

end SelectionTypes

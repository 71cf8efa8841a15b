import SelectionTypes.Proofs.Export.Declaration
import SelectionTypes.Proofs.Export.Distinct
import SelectionTypes.Proofs.Export.Origins
import SelectionTypes.Proofs.Schema.Build
import SelectionTypes.Proofs.Selection.Lookup

/-!
# `SelectionTypes.Proofs.Export.Progress`: collectable selections have a type

Selections without spreads that fit a schema and are collectable have a type, and so do the aliases
that are collected from them: `exists_typeOf` and `exists_declare`.

The type is made level by level. What is known of the place of a level is `WrittenFor`: each
selection that is read there is written on types that admit the object types of the level. It is
enough for one property (`exists_property`), and it passes on to the level below.
-/

set_option autoImplicit false

namespace SelectionTypes

open Outcome
open TypeScript (TypeExpr Declaration)
open ExportedAlias (Collectable AliasesOf asked)
open Selection (WellTyped FieldsAgree Stands WrittenIn WrittenFor Origins)
open SelectionScope (typenameField Inner)

/-! ### One level -/

namespace Selection

variable {schema : Schema} {table : FragmentTable} {origin : String → List Selection → Prop}
variable {applicable : List String} {selections : List Selection}

/-- Collectable selections are readable for the object types that they are written for. -/
theorem isReadable_of_writtenFor (wellFormed : schema.WellFormed)
    (collectable : Collectable schema (WrittenIn schema origin))
    (objects : ∀ concrete ∈ applicable, schema.kind? concrete = some .object)
    (each : ∀ concrete ∈ applicable, ∀ selection ∈ selections,
      WrittenFor schema origin concrete selection) :
    isReadable schema applicable selections = true := by
  -- Along the reading: what is written for some types is written for those that meet a condition.
  induction applicable, selections using isReadable.induct schema with
  | case1 applicable => rw [isReadable]
  | case2 applicable head inner rest ih =>
    rw [isReadable]
    exact ih objects fun concrete inside => (List.forall_mem_cons.mp (each concrete inside)).2
  | case3 applicable name directives rest ih =>
    rw [isReadable]
    exact ih objects fun concrete inside => (List.forall_mem_cons.mp (each concrete inside)).2
  | case4 applicable directives inner rest ihInner ihRest =>
    rw [isReadable, Bool.and_eq_true]
    refine ⟨ihInner objects fun concrete inside selection listed => ?_,
      ihRest objects fun concrete inside => (List.forall_mem_cons.mp (each concrete inside)).2⟩
    obtain ⟨static, written, admits⟩ := each concrete inside _ List.mem_cons_self
    exact ⟨static, written.inlined listed, admits⟩
  | case5 applicable condition directives inner rest ihInner ihRest =>
    simp only [List.unattach_filter, List.unattach_attach] at ihInner
    rw [isReadable, Bool.and_eq_true, Bool.and_eq_true, List.all_eq_true]
    refine ⟨⟨fun concrete inside => ?_, ihInner (fun concrete kept => ?_)
        fun concrete kept selection listed => ?_⟩,
      ihRest objects fun concrete inside => (List.forall_mem_cons.mp (each concrete inside)).2⟩
    · -- The condition is known, so any type can be tested against it.
      obtain ⟨static, written, -⟩ := each concrete inside _ List.mem_cons_self
      unfold Schema.tells
      rw [Bool.or_eq_true]
      exact .inr (collectable.conditions _ _ _ _ written)
    · exact objects concrete (List.mem_of_mem_filter kept)
    · obtain ⟨inside, meets⟩ := List.mem_filter.mp kept
      obtain ⟨static, written, -⟩ := each concrete inside _ List.mem_cons_self
      exact ⟨condition, written.inlined listed,
        (wellFormed.meets_iff_admits (objects concrete inside)).mp meets⟩

end Selection

namespace SelectedField

/-- Fields whose exports have names, and are not those of a leaf, have a reference or none. -/
theorem exists_firstExport? {schema : Schema} {type : TypeRef} {fields : List SelectedField}
    (each : ∀ field ∈ fields, field.head.isExported = true →
      schema.isLeaf type.base = false ∧ ∃ name, field.head.exportName = .ok name) :
    ∃ found, firstExport? schema type fields = .ok found := by
  rcases @find?_isExported_cases fields with plain | ⟨first, inside, isFirst, exported⟩
  · exact ⟨none, firstExport?_eq_none plain⟩
  · obtain ⟨noLeaf, name, isName⟩ := each first inside exported
    rw [firstExport?_eq_of_find? isFirst]
    exact ⟨_, FieldHead.exportRef?_eq_ok.mpr (.inr ⟨exported, noLeaf, name, isName, rfl⟩)⟩

end SelectedField

namespace ExportedAlias

/-- The aliases of a field are for object types and interfaces. -/
theorem isExportable_of_mem_aliases {schema : Schema} (wellFormed : schema.WellFormed)
    {static : String} {field : SelectedField} {aliases : List ExportedAlias}
    (made : AliasesOf schema static field aliases) {exported : ExportedAlias}
    (listed : exported ∈ aliases) :
    ∃ definition, schema.type? exported.type = some definition ∧
      definition.kind.isExportable = true := by
  obtain ⟨-, type, definition, -, -, found, exportable, same | ⟨-, possible⟩⟩ := made.of_mem listed
  · exact ⟨definition, by rw [same, found], exportable⟩
  · have object := wellFormed.kind?_of_mem_possibleTypes (Schema.mem_of_type? found) possible
    obtain ⟨own, isOwn, kind⟩ := Schema.kind?_eq_some.mp object
    exact ⟨own, isOwn, by rw [kind]; rfl⟩

end ExportedAlias

namespace SelectionScope

variable {scope : SelectionScope} {origin : String → List Selection → Prop}
variable {parent : String} {selections : List Selection} {aliases : List ExportedAlias}

/-- A group whose reference is found has a type, if the level below gives one to its sub-selections
where these count. -/
theorem exists_groupType {type : TypeRef} {fields : List SelectedField} {inner : Inner}
    (first : ∃ found, SelectedField.firstExport? scope.schema type fields = .ok found)
    (below : scope.schema.isLeaf type.base = false → ∃ expression,
      inner type.base (fields.flatMap SelectedField.selections) = .ok expression) :
    ∃ expression, scope.groupType inner type fields = .ok expression := by
  obtain ⟨found, first⟩ := first
  unfold groupType
  rw [first]
  -- A reference is the type at once. Otherwise the type comes from below, unless it is a leaf.
  cases found with
  | some reference => exact ⟨reference, rfl⟩
  | none =>
    by_cases leaf : scope.schema.isLeaf type.base = true
    · simp [leaf, bind, Except.bind, pure, Except.pure]
    · rw [Bool.not_eq_true] at leaf
      obtain ⟨expression, succeeds⟩ := below leaf
      simp [leaf, succeeds, bind, Except.bind, pure, Except.pure]

/-- What is known of the selections that are read, where the schema keeps its rules: they are
written in well-typed origins, and they are collectable. -/
structure Sound (scope : SelectionScope) (origin : String → List Selection → Prop) : Prop where
  wellFormed : scope.schema.WellFormed
  valid : scope.schema.typeProblems = []
  resolved : scope.schema.resolutionProblem? = none
  origins : Origins scope.schema scope.fragments origin
  collectable : Collectable scope.schema (WrittenIn scope.schema origin)

namespace Sound

variable {concrete : String} {type : TypeRef} {field : SelectedField}

/-- The type of a field of an object type is a leaf or has values. -/
theorem exists_concreteTypes (sound : scope.Sound origin)
    (object : scope.schema.kind? concrete = some .object) {name : String}
    (known : ExportedAlias.fieldType? scope.schema concrete name = some type)
    (noLeaf : scope.schema.isLeaf type.base = false) :
    ∃ types, scope.schema.concreteTypes type.base = .ok types := by
  obtain ⟨definition, found, kind⟩ := Schema.kind?_eq_some.mp object
  unfold ExportedAlias.fieldType? at known
  rw [found, Option.bind_some, TypeDefinition.fieldType?, TypeDefinition.fieldTypes,
    Schema.body_of_kind_object kind] at known
  simp only at known
  rw [Schema.lookup_fields, Option.map_eq_some_iff] at known
  obtain ⟨own, isOwn, rfl⟩ := known
  exact Schema.exists_concreteTypes_of_isOutput (Document.isOutput_of_resolved sound.resolved
    (Schema.mem_of_type? found) (List.mem_of_find?_eq_some isOwn)) noLeaf

/-- A field that is written for an object type is defined on it, unless it tells the type. -/
theorem exists_fieldType? (sound : scope.Sound origin)
    (object : scope.schema.kind? concrete = some .object)
    (written : WrittenFor scope.schema origin concrete (.field field.head field.selections))
    (named : field.head.name ≠ typenameField) :
    ∃ type, ExportedAlias.fieldType? scope.schema concrete field.head.name = some type := by
  obtain ⟨static, written, admits⟩ := written
  obtain ⟨expected, onStatic⟩ := sound.origins.exists_fieldType? sound.valid written named
  obtain ⟨type, known, -⟩ := sound.wellFormed.exists_narrower sound.valid object admits onStatic
  exact ⟨type, known⟩

/-- An exported field that is written for an object type has a name for its export, and a type that
is no leaf. -/
theorem exists_exportName (sound : scope.Sound origin)
    (object : scope.schema.kind? concrete = some .object)
    (written : WrittenFor scope.schema origin concrete (.field field.head field.selections))
    (known : ExportedAlias.fieldType? scope.schema concrete field.head.name = some type)
    (exported : field.head.isExported = true) :
    scope.schema.isLeaf type.base = false ∧ ∃ name, field.head.exportName = .ok name := by
  obtain ⟨static, written, admits⟩ := written
  obtain ⟨aliases, expected, onStatic, made⟩ := sound.collectable.exports _ _ _ written exported
  obtain ⟨name, definition, isName, -, found, exportable, -⟩ := ExportedAlias.ofField_eq_ok made
  -- A type to export has values where the field is written, so it has some on the object type.
  obtain ⟨types, isTypes⟩ := sound.wellFormed.exists_concreteTypes sound.valid object admits
    onStatic known (Schema.exists_concreteTypes_of_isExportable found exportable)
  exact ⟨Schema.isLeaf_of_concreteTypes isTypes, name, isName⟩

/-- Fields of one key have a property on an object type that they are written for, if the level
below gives a type to their sub-selections where these count. -/
theorem exists_property (sound : scope.Sound origin)
    (object : scope.schema.kind? concrete = some .object)
    {group : SelectedField × List SelectedField} {inner : Inner}
    (written : ∀ field ∈ SelectedField.members group,
      WrittenFor scope.schema origin concrete (.field field.head field.selections))
    (names : ∀ field ∈ SelectedField.members group, field.head.name = group.1.head.name)
    (below : ∀ type, ExportedAlias.fieldType? scope.schema concrete group.1.head.name = some type →
      scope.schema.isLeaf type.base = false → ∃ expression, inner type.base
        ((SelectedField.members group).flatMap SelectedField.selections) = .ok expression) :
    ∃ property, scope.property inner concrete group = .ok property := by
  by_cases named : group.1.head.name = typenameField
  · exact ⟨_, property_of_typename named⟩
  · obtain ⟨type, known⟩ :=
      sound.exists_fieldType? object (written group.1 List.mem_cons_self) named
    -- All fields of the group have one name, so each of them that is exported is of this type.
    have first : ∃ found, SelectedField.firstExport? scope.schema type
        (SelectedField.members group) = .ok found :=
      SelectedField.exists_firstExport? fun field member exported =>
        sound.exists_exportName object (written field member) (by rwa [names field member]) exported
    obtain ⟨expression, isType⟩ := exists_groupType first (below type known)
    rw [property_of_field named known]
    exact ⟨_, bind_eq_ok.mpr ⟨expression, isType, rfl⟩⟩

/-! ### All levels -/

/-- Selections without spreads have a type within each bound that exceeds their nesting. -/
theorem exists_typeWithin (sound : scope.Sound origin)
    (free : Selection.spreadsOf selections = []) (agree : FieldsAgree scope.fragments selections)
    {bound : Nat} (deep : Selection.nesting selections < bound) {types : List String}
    (isTypes : scope.schema.concreteTypes parent = .ok types)
    (written : ∀ value ∈ types, ∀ selection ∈ selections,
      WrittenFor scope.schema origin value selection) :
    ∃ type, scope.typeWithin bound parent selections = .ok type := by
  induction bound generalizing parent selections types with
  | zero => omega
  | succ bound ih =>
    have readable : Selection.isReadable scope.schema types.eraseDups selections = true :=
      Selection.isReadable_of_writtenFor sound.wellFormed sound.collectable
        (fun value inside =>
          sound.wellFormed.kind?_of_mem_concreteTypes isTypes (List.mem_eraseDups.mp inside))
        fun value inside => written value (List.mem_eraseDups.mp inside)
    obtain ⟨flattened, flattens⟩ : ∃ flattened,
        Selection.flatten scope.schema scope.fragments parent selections = .ok flattened :=
      ⟨_, (Selection.flatten_plain_eq_ok free).mpr ⟨types, isTypes, readable, rfl⟩⟩
    have shapes : ∀ entry ∈ flattened, ∃ shape,
        scope.objectShape (scope.typeWithin bound) entry.1 entry.2 = .ok shape := by
      intro entry listed
      obtain ⟨object, ⟨types', isTypes', isType⟩, collects⟩ :=
        Selection.collects_of_mem_flatten sound.wellFormed flattens listed
      cases isTypes.symm.trans isTypes'
      have fields := Selection.writtenFor_of_collects sound.origins collects (written _ isType)
      have properties : ∀ group ∈ SelectedField.groups entry.2, ∃ property,
          scope.property (scope.typeWithin bound) entry.1 group = .ok property := by
        intro group grouped
        obtain ⟨names, agreeBelow⟩ := agree.of_group collects.selects grouped
        have writtenMembers := fun field member =>
          fields field (SelectedField.mem_of_mem_groups grouped member).1
        refine sound.exists_property object writtenMembers names fun type known noLeaf => ?_
        -- The level below has the bound that is left.
        obtain ⟨values, areValues⟩ := sound.exists_concreteTypes object known noLeaf
        obtain ⟨_, -, -, same⟩ := (Selection.flatten_plain_eq_ok free).mp flattens
        obtain ⟨concrete, -, rfl⟩ := List.mem_map.mp (same ▸ listed)
        obtain ⟨freeBelow, deepBelow⟩ := flatMap_selections_lt free
          (fun field member => (SelectedField.mem_of_mem_groups grouped member).1) deep
          (List.cons_ne_nil _ _)
        exact ih freeBelow agreeBelow deepBelow areValues (sound.origins.writtenFor_flatMap
          sound.wellFormed sound.valid object writtenMembers names known noLeaf areValues)
      obtain ⟨properties, each⟩ := Lists.exists_forall₂ properties
      exact ⟨_, objectShape_eq_ok.mpr ⟨properties, each, rfl⟩⟩
    obtain ⟨shapes, each⟩ := Lists.exists_forall₂ shapes
    exact ⟨_, typeWithin_eq_ok.mpr ⟨flattened, shapes, flattens, each, rfl⟩⟩

/-- Selections without spreads have a shape on an object type that they are written for. -/
theorem exists_shapeOf (sound : scope.Sound origin)
    (free : Selection.spreadsOf selections = []) (agree : FieldsAgree scope.fragments selections)
    (object : scope.schema.kind? concrete = some .object)
    (written : ∀ selection ∈ selections, WrittenFor scope.schema origin concrete selection) :
    ∃ shape, scope.shapeOf concrete selections = .ok shape := by
  have deep := Nat.lt_succ_of_lt (scope.nesting_lt_depthBound selections)
  obtain ⟨type, succeeds⟩ := sound.exists_typeWithin free agree deep
    (Schema.concreteTypes_of_object object) fun value isValue => by
      rw [List.mem_singleton.mp isValue]
      exact written
  -- An object type has one shape, which makes up the type.
  obtain ⟨flattened, shapes, flattens, each, rfl⟩ := typeWithin_eq_ok.mp succeeds
  obtain ⟨own, -, rfl⟩ := (Selection.flatten_object_eq_ok object).mp flattens
  cases each with
  | cons first rest =>
    cases rest
    exact ⟨_, (shapeOf_eq_ok object).mpr succeeds⟩

end Sound

/-! ### Selections on a type -/

/-- Selections without spreads that fit the schema and are collectable: they are the only origin of
what is read. -/
theorem sound_of_free (wellFormed : scope.schema.WellFormed)
    (valid : scope.schema.typeProblems = []) (resolved : scope.schema.resolutionProblem? = none)
    (typed : WellTyped scope.schema parent selections)
    (free : Selection.spreadsOf selections = [])
    (collectable : Collectable scope.schema (Stands scope.schema parent selections)) :
    scope.Sound fun other inner => other = parent ∧ inner = selections where
  wellFormed := wellFormed
  valid := valid
  resolved := resolved
  origins := Selection.origins_of_free typed free
  -- What is written in the only origin is what stands in the selections.
  collectable := collectable.mono fun static selection => by
    rintro ⟨_, _, ⟨rfl, rfl⟩, stands⟩
    exact stands

variable (sound : scope.Sound fun other inner => other = parent ∧ inner = selections)
variable (free : Selection.spreadsOf selections = [])
variable (agree : FieldsAgree scope.fragments selections)
include sound free agree

/-- Such selections have a type. -/
theorem exists_typeOf {types : List String}
    (isTypes : scope.schema.concreteTypes parent = .ok types) :
    ∃ type, scope.typeOf parent selections = .ok type := by
  refine sound.exists_typeWithin free agree (scope.nesting_lt_depthBound selections) isTypes ?_
  intro value isValue selection listed
  exact ⟨parent, ⟨parent, selections, ⟨rfl, rfl⟩, .here listed⟩,
    Schema.admits_of_mem_concreteTypes isTypes isValue⟩

/-- An alias that such selections ask for has a shape. -/
theorem exists_shape {exported : ExportedAlias} {static : String} {field : SelectedField}
    (stands : Stands scope.schema parent selections static (.field field.head field.selections))
    (made : AliasesOf scope.schema static field aliases) (listed : exported ∈ aliases) :
    ∃ shape, exported.shape scope = .ok shape := by
  obtain ⟨definition, found, exportable⟩ :=
    ExportedAlias.isExportable_of_mem_aliases sound.wellFormed made listed
  rcases Schema.isExportable_iff.mp exportable with object | interface
  · obtain ⟨type, known, noLeaf, admits⟩ := ExportedAlias.admits_of_mem_aliases made listed
    -- The sub-selections of the field are written on its type, which admits that of the alias.
    have freeBelow := stands.spreadsOf_subset
    rw [free, List.subset_nil, Selection.spreadsOf, List.append_eq_nil_iff] at freeBelow
    have agreeBelow := (agree.of_stands stands).below (.field (List.mem_singleton_self _))
    have writtenBelow : ∀ selection ∈ field.selections, WrittenFor scope.schema
        (fun other inner => other = parent ∧ inner = selections) exported.type selection := by
      intro selection inside
      have written : WrittenIn scope.schema
          (fun other inner => other = parent ∧ inner = selections) static
          (.field field.head field.selections) := ⟨parent, selections, ⟨rfl, rfl⟩, stands⟩
      exact ⟨type.base, written.below known noLeaf inside, admits⟩
    obtain ⟨shape, isShape⟩ := sound.exists_shapeOf freeBelow.1 agreeBelow
      (Schema.kind?_eq_some.mpr ⟨definition, found, object⟩) writtenBelow
    rw [← (made.of_mem listed).1] at isShape
    exact ⟨shape, ExportedAlias.shape_eq_ok.mpr ⟨definition, found, .inr ⟨object, isShape⟩⟩⟩
  · exact ⟨_, ExportedAlias.shape_eq_ok.mpr ⟨definition, found, .inl ⟨interface, rfl⟩⟩⟩

/-- Aliases that are collected from such selections have declarations. -/
theorem exists_declare
    (collects : ExportedAlias.collect scope.schema parent selections = .ok aliases) :
    ∃ declared, ExportedAlias.declare scope aliases = .ok declared := by
  have entries : ∀ exported ∈ aliases, ∃ entry : String × TypeExpr,
      exported.name = entry.1 ∧ exported.shape scope = .ok entry.2 := by
    intro exported listed
    obtain earlier | ⟨static, field, own, stands, made, isOwn⟩ :=
      (ExportedAlias.gathers_of_collect collects).exists_field listed
    · cases earlier
    · obtain ⟨shape, isShape⟩ := exists_shape sound free agree stands made isOwn
      exact ⟨(exported.name, shape), rfl, isShape⟩
  obtain ⟨shapes, each⟩ := Lists.exists_forall₂ entries
  exact ⟨_, ExportedAlias.declare_eq_ok.mpr ⟨shapes, each, rfl⟩⟩

end SelectionScope

end SelectionTypes

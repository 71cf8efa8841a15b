import SelectionTypes.Export.Declaration
import SelectionTypes.Proofs.Export.References

/-!
# `SelectionTypes.Proofs.Export.Collection`: what collecting exports leaves behind

Where `ExportedAlias.collectFrom` succeeds, it has met each exported field of the selections, apart
from those below leaves and inside spreads, and has made an alias for it. `Gathers` is the relation
of such a run, with a step for each kind of selection, and the results are by induction on it:

* `Gathers.tends`: the selections are tended, for any names that include the collected ones.
* `Gathers.backed`: each collected alias is `Backed`, that is, what its declaration refers to is
  declared. `declared_of_shape` says so for the shape of a backed alias.
-/

set_option autoImplicit false

namespace SelectionTypes

open Outcome
open TypeScript (TypeExpr)
open Selection (Tended Covered WellTyped FieldsAgree Selects)
open SelectionScope (typenameField)

namespace ExportedAlias

variable {schema : Schema} {parent type : String} {field : SelectedField}
variable {found collected aliases : List ExportedAlias}

/-! ### The aliases of one field -/

/-- The aliases of an exported field: one for its type, and for an interface one for each object
type that lists it. -/
theorem ofField_eq_ok (succeeds : ofField schema parent field type = .ok aliases) :
    ∃ name definition, field.head.exportName = .ok name ∧ schema.isLeaf type = false ∧
      schema.type? type = some definition ∧ definition.kind.isExportable = true ∧
      aliases = ⟨name, type, parent, field⟩ ::
        (if definition.kind == .interface then schema.possibleTypes definition else []).map
          fun concrete => ⟨implementorName name concrete, concrete, parent, field⟩ := by
  unfold ofField at succeeds
  obtain ⟨name, isName, rest⟩ := bind_eq_ok.mp succeeds
  -- The checks come in this order: the name, a type that is no leaf, and a type that can be
  -- exported. All others end in an error.
  by_cases leaf : schema.isLeaf type = true
  · simp [leaf, throw, throwThe, MonadExceptOf.throw, bind, Except.bind] at rest
  · simp only [leaf, Bool.false_eq_true, if_false] at rest
    cases known : schema.type? type with
    | none => simp [known, throw, throwThe, MonadExceptOf.throw] at rest
    | some definition =>
      rw [known] at rest
      by_cases exportable : definition.kind.isExportable = true
      · simp only [exportable, Bool.not_true, Bool.false_eq_true, if_false] at rest
        cases rest
        exact ⟨name, definition, isName, by simpa using leaf, rfl, exportable, rfl⟩
      · simp [exportable, throw, throwThe, MonadExceptOf.throw, bind, Except.bind] at rest

/-- Only an interface is exported with object types. -/
theorem mem_implementors_iff {definition : TypeDefinition} {concrete : String} :
    concrete ∈ (if definition.kind == .interface then schema.possibleTypes definition else []) ↔
      definition.kind = .interface ∧ concrete ∈ schema.possibleTypes definition := by
  by_cases interface : definition.kind = .interface <;> simp [interface]

/-- A field has aliases if its export has a name and its type can be exported. -/
theorem exists_ofField {name : String} {definition : TypeDefinition}
    (isName : field.head.exportName = .ok name) (known : schema.type? type = some definition)
    (exportable : definition.kind.isExportable = true) :
    ∃ aliases, ofField schema parent field type = .ok aliases := by
  have noLeaf : schema.isLeaf type = false := by
    rw [Schema.isLeaf, Schema.kind?, known, Option.map_some, Option.any_some]
    cases kind : definition.kind <;> simp_all [TypeKind.isExportable, TypeKind.isLeaf]
  unfold ofField
  rw [isName, known]
  simp [noLeaf, exportable, bind, Except.bind, pure, Except.pure]

/-- Adding aliases puts them behind the others. -/
theorem add_eq_ok (succeeds : add found aliases = .ok collected) :
    collected = found ++ aliases := by
  induction aliases generalizing found with
  | nil =>
    cases succeeds
    exact (List.append_nil _).symm
  | cons exported rest ih =>
    unfold add at succeeds
    split at succeeds
    · cases succeeds
    · rw [ih succeeds, List.append_assoc, List.singleton_append]

/-- A field adds the aliases that it is exported with, and nothing if it is not exported. -/
theorem addField_eq_ok (succeeds : addField schema parent found field type = .ok collected) :
    (field.head.isExported = false ∧ collected = found) ∨
      ∃ aliases, ofField schema parent field type = .ok aliases ∧
        collected = found ++ aliases := by
  unfold addField at succeeds
  by_cases exported : field.head.isExported = true
  · rw [if_pos exported] at succeeds
    obtain ⟨aliases, own, added⟩ := bind_eq_ok.mp succeeds
    exact .inr ⟨aliases, own, add_eq_ok added⟩
  · rw [if_neg exported] at succeeds
    cases succeeds
    exact .inl ⟨by simpa using exported, rfl⟩

/-! ### Gathering aliases -/

variable {selections : List Selection}

/-- How aliases are collected where nothing fails: the aliases found before, the selections on a
type, and the aliases found behind them. -/
inductive Gathers (schema : Schema) :
    String → List ExportedAlias → List Selection → List ExportedAlias → Prop
  | nil {parent : String} {found : List ExportedAlias} : Gathers schema parent found [] found
  | spread {parent name : String} {directives : List Directive} {rest : List Selection}
      {found collected : List ExportedAlias} (behind : Gathers schema parent found rest collected) :
      Gathers schema parent found (.spread name directives :: rest) collected
  | inlined {parent : String} {condition : Option String} {directives : List Directive}
      {inner rest : List Selection} {found middle collected : List ExportedAlias}
      (inside : Gathers schema (condition.getD parent) found inner middle)
      (behind : Gathers schema parent middle rest collected) :
      Gathers schema parent found (.inlined condition directives inner :: rest) collected
  /-- A field without a type is not exported, and nothing below it is. -/
  | untyped {parent : String} {head : FieldHead} {inner rest : List Selection}
      {found collected : List ExportedAlias}
      (unknown : fieldType? schema parent head.name = none) (plain : head.isExported = false)
      (behind : Gathers schema parent found rest collected) :
      Gathers schema parent found (.field head inner :: rest) collected
  | leaf {parent : String} {head : FieldHead} {inner rest : List Selection} {type : TypeRef}
      {found own collected : List ExportedAlias}
      (known : fieldType? schema parent head.name = some type)
      (isLeaf : schema.isLeaf type.base = true)
      (added : addField schema parent found ⟨head, inner⟩ type.base = .ok own)
      (behind : Gathers schema parent own rest collected) :
      Gathers schema parent found (.field head inner :: rest) collected
  | field {parent : String} {head : FieldHead} {inner rest : List Selection} {type : TypeRef}
      {found own below collected : List ExportedAlias}
      (known : fieldType? schema parent head.name = some type)
      (noLeaf : schema.isLeaf type.base = false)
      (added : addField schema parent found ⟨head, inner⟩ type.base = .ok own)
      (inside : Gathers schema type.base own inner below)
      (behind : Gathers schema parent below rest collected) :
      Gathers schema parent found (.field head inner :: rest) collected

/-- A collection that succeeds is one of those that the relation describes, so that a proof can go
by its rules. -/
theorem gathers_of_collectFrom
    (succeeds : collectFrom schema parent found selections = .ok collected) :
    Gathers schema parent found selections collected := by
  -- One constructor of `Gathers` for each branch of the collection that succeeds.
  induction parent, found, selections using collectFrom.induct schema generalizing collected with
  | case1 parent found =>
    rw [collectFrom] at succeeds
    cases succeeds
    exact .nil
  | case2 parent found name directives rest ih =>
    rw [collectFrom] at succeeds
    exact .spread (ih succeeds)
  | case3 parent found condition directives inner rest narrowed ihInner =>
    rename_i ihRest
    rw [collectFrom] at succeeds
    obtain ⟨_, -, entered⟩ := bind_eq_ok.mp succeeds
    obtain ⟨middle, inside, behind⟩ := bind_eq_ok.mp entered
    exact .inlined (ihInner inside) (ihRest middle behind)
  | case4 parent found head inner rest unknown exported =>
    rw [collectFrom, unknown] at succeeds
    simp [exported] at succeeds
  | case5 parent found head inner rest unknown plain ih =>
    rw [collectFrom, unknown] at succeeds
    simp only [plain] at succeeds
    exact .untyped unknown (by simpa using plain) (ih succeeds)
  | case6 parent found head inner rest type known ihRest ihInner =>
    rw [collectFrom, known] at succeeds
    obtain ⟨own, added, entered⟩ := bind_eq_ok.mp succeeds
    by_cases leaf : schema.isLeaf type.base = true
    · simp only [leaf, if_true] at entered
      exact .leaf known leaf added (ihRest own entered)
    · simp only [leaf, Bool.false_eq_true, if_false] at entered
      obtain ⟨below, inside, behind⟩ := bind_eq_ok.mp entered
      exact .field known (by simpa using leaf) added (ihInner own inside) (ihRest below behind)

/-- Collecting starts without any alias. -/
theorem gathers_of_collect (succeeds : collect schema parent selections = .ok collected) :
    Gathers schema parent [] selections collected := by
  unfold collect at succeeds
  obtain ⟨_, -, gathered⟩ := bind_eq_ok.mp succeeds
  exact gathers_of_collectFrom gathered

/-- A field adds to the aliases that were found before it and takes none away. -/
theorem subset_of_addField (succeeds : addField schema parent found field type = .ok collected) :
    found ⊆ collected := by
  rcases addField_eq_ok succeeds with ⟨-, rfl⟩ | ⟨aliases, -, rfl⟩
  · exact List.Subset.refl _
  · exact List.subset_append_left _ _

/-- Collecting only adds aliases. -/
theorem Gathers.subset (gathers : Gathers schema parent found selections collected) :
    found ⊆ collected := by
  induction gathers with
  | nil => exact List.Subset.refl _
  | spread behind ih => exact ih
  | inlined inside behind ihInside ihBehind => exact List.Subset.trans ihInside ihBehind
  | untyped unknown plain behind ih => exact ih
  | leaf known isLeaf added behind ih => exact List.Subset.trans (subset_of_addField added) ih
  | field known noLeaf added inside behind ihInside ihBehind =>
    exact List.Subset.trans (subset_of_addField added) (List.Subset.trans ihInside ihBehind)

/-! ### What collecting leaves behind -/

variable {declared tended : String → Prop}

/-- Where a field is added, the name that it is exported under is that of an added alias. -/
theorem declared_of_addField (added : addField schema parent found field type = .ok collected)
    (names : ∀ exported ∈ collected, declared exported.name) :
    ∀ name, field.head.exportName = .ok name → declared name := by
  intro name isName
  rcases addField_eq_ok added with ⟨plain, -⟩ | ⟨aliases, made, rfl⟩
  · -- A field that is not exported has no name for it.
    unfold FieldHead.isExported at plain
    rw [Option.isSome_eq_false_iff, Option.isNone_iff_eq_none] at plain
    unfold FieldHead.exportName at isName
    rw [plain] at isName
    cases isName
  · obtain ⟨name', definition, isName', -, -, -, rfl⟩ := ofField_eq_ok made
    cases isName'.symm.trans isName
    exact names ⟨name, type, parent, field⟩ (by simp)

/-- Where collecting succeeds, the selections are tended for the collected names. -/
theorem Gathers.tends (gathers : Gathers schema parent found selections collected)
    (typed : WellTyped schema parent selections)
    (spreads : ∀ name ∈ Selection.spreadsOf selections, tended name)
    (names : ∀ exported ∈ collected, declared exported.name) :
    Tended schema declared tended parent selections := by
  induction gathers with
  | nil =>
    rw [Tended]
    trivial
  | spread behind ih =>
    rw [WellTyped] at typed
    rw [Selection.spreadsOf, List.forall_mem_cons] at spreads
    rw [Tended]
    exact ⟨spreads.1, ih typed spreads.2 names⟩
  | inlined inside behind ihInside ihBehind =>
    rw [WellTyped] at typed
    rw [Selection.spreadsOf, List.forall_mem_append] at spreads
    rw [Tended]
    exact ⟨ihInside typed.1 spreads.1 fun exported listed => names exported (behind.subset listed),
      ihBehind typed.2 spreads.2 names⟩
  | untyped unknown plain behind ih =>
    -- A well-typed field without a type is the one that tells the type.
    rw [WellTyped, unknown] at typed
    rw [Selection.spreadsOf, List.forall_mem_append] at spreads
    rw [Tended]
    exact ⟨.inl (by simpa using typed.1), ih typed.2 spreads.2 names⟩
  | leaf known isLeaf added behind ih =>
    rw [WellTyped] at typed
    rw [Selection.spreadsOf, List.forall_mem_append] at spreads
    rw [Tended]
    refine ⟨.inr ⟨_, known, ?_, fun noLeaf => ?_⟩, ih typed.2 spreads.2 names⟩
    · exact declared_of_addField added fun exported listed => names exported (behind.subset listed)
    · rw [isLeaf] at noLeaf
      cases noLeaf
  | field known noLeaf added inside behind ihInside ihBehind =>
    rw [WellTyped, known] at typed
    rw [Selection.spreadsOf, List.forall_mem_append] at spreads
    rw [Tended]
    refine ⟨typed.1.imp_right ?_, ihBehind typed.2 spreads.2 names⟩
    rintro ⟨_, same, typedInner⟩
    cases same
    -- The names found below a field and behind it are all among the collected ones.
    have namesBelow := fun exported listed => names exported (behind.subset listed)
    exact ⟨_, known,
      declared_of_addField added fun exported listed => namesBelow exported (inside.subset listed),
      fun _ => ihInside typedInner spreads.1 namesBelow⟩

/-- An alias whose declaration refers to declared names: its selections are tended on its type, and
for an interface there are aliases for the object types that list it. -/
structure Backed (schema : Schema) (table : FragmentTable) (declared tended : String → Prop)
    (exported : ExportedAlias) : Prop where
  covered : Covered schema declared tended exported.type exported.field.selections
  agree : FieldsAgree table exported.field.selections
  implementors : ∀ definition, schema.type? exported.type = some definition →
    definition.kind = .interface → ∀ concrete ∈ schema.possibleTypes definition,
      declared (implementorName exported.name concrete)

/-- The aliases of a field with tended sub-selections are backed. -/
theorem backed_of_ofField {table : FragmentTable} (wellFormed : schema.WellFormed)
    (tends : schema.isLeaf type = false → Tended schema declared tended type field.selections)
    (agree : FieldsAgree table field.selections)
    (made : ofField schema parent field type = .ok aliases)
    (names : ∀ exported ∈ aliases, declared exported.name) :
    ∀ exported ∈ aliases, Backed schema table declared tended exported := by
  obtain ⟨name, definition, -, noLeaf, known, -, rfl⟩ := ofField_eq_ok made
  have written := tends noLeaf
  rw [List.forall_mem_cons, List.forall_mem_map] at names ⊢
  refine ⟨⟨written.covered, agree, ?_⟩, fun concrete listed => ?_⟩
  · -- If the type of the field is an interface, then its object types have aliases behind this one.
    intro other isType interface concrete possible
    cases known.symm.trans isType
    exact names.2 concrete (by rw [interface]; exact possible)
  · -- An object type of the interface is admitted by it, and it has no implementors.
    obtain ⟨interface, possible⟩ := mem_implementors_iff.mp listed
    have object := wellFormed.kind?_of_mem_possibleTypes (Schema.mem_of_type? known) possible
    refine ⟨?_, agree, ?_⟩
    · intro types isTypes value isValue selection inside
      cases (Schema.concreteTypes_of_object object).symm.trans isTypes
      rw [List.mem_singleton.mp isValue]
      exact ⟨type, .inr ⟨definition, known, by rw [interface]; rfl, possible⟩,
        Selection.tended_iff.mp written selection inside⟩
    · intro other isType interface'
      obtain ⟨own, isOwn, kind⟩ := Schema.kind?_eq_some.mp object
      cases isOwn.symm.trans isType
      rw [kind] at interface'
      cases interface'

/-- The aliases that a field adds are backed if its sub-selections are tended. -/
theorem backed_of_addField {table : FragmentTable} (wellFormed : schema.WellFormed)
    (tends : schema.isLeaf type = false → Tended schema declared tended type field.selections)
    (agree : FieldsAgree table field.selections)
    (added : addField schema parent found field type = .ok collected)
    (names : ∀ exported ∈ collected, declared exported.name) :
    ∀ exported ∈ collected, exported ∈ found ∨ Backed schema table declared tended exported := by
  intro exported listed
  rcases addField_eq_ok added with ⟨-, rfl⟩ | ⟨aliases, made, rfl⟩
  · exact .inl listed
  · refine (List.mem_append.mp listed).imp_right fun isNew => ?_
    exact backed_of_ofField wellFormed tends agree made
      (fun other inside => names other (List.mem_append_right _ inside)) exported isNew

/-- What is tended below a field, which is not the one that tells the type. -/
theorem tended_below (valid : schema.typeProblems = []) {head : FieldHead} {inner : List Selection}
    {type : TypeRef} (known : fieldType? schema parent head.name = some type)
    (tends : Tended schema declared tended parent (.field head inner :: selections)) :
    schema.isLeaf type.base = false → Tended schema declared tended type.base inner := by
  have named : head.name ≠ typenameField := by
    intro typename
    have reserved := Schema.isIntrospectionName_eq_false valid known
    rw [typename] at reserved
    simp [typenameField, isIntrospectionName] at reserved
  rw [Tended] at tends
  obtain ⟨_, known', -, below⟩ := tends.1.resolve_left named
  cases known.symm.trans known'
  exact below

/-- Where collecting succeeds, each collected alias is backed by the collected names. -/
theorem Gathers.backed {table : FragmentTable} (wellFormed : schema.WellFormed)
    (valid : schema.typeProblems = [])
    (gathers : Gathers schema parent found selections collected)
    (tends : Tended schema declared tended parent selections) (agree : FieldsAgree table selections)
    (names : ∀ exported ∈ collected, declared exported.name) :
    ∀ exported ∈ collected, exported ∈ found ∨ Backed schema table declared tended exported := by
  have later : ∀ {selection : Selection} {rest : List Selection},
      FieldsAgree table (selection :: rest) → FieldsAgree table rest :=
    fun agree => agree.mono fun field selects => selects.mono (List.subset_cons_self _ _)
  -- An alias was found before, or it is new in one of the steps.
  induction gathers with
  | nil => exact fun exported inside => .inl inside
  | spread behind ih =>
    rw [Tended] at tends
    exact ih tends.2 (later agree) names
  | inlined inside behind ihInside ihBehind =>
    rw [Tended] at tends
    intro exported listed
    rcases ihBehind tends.2 (later agree) names exported listed with listed | backed
    · exact ihInside tends.1 (agree.mono fun field => Selects.inlined List.mem_cons_self)
        (fun other inside => names other (behind.subset inside)) exported listed
    · exact .inr backed
  | untyped unknown plain behind ih =>
    rw [Tended] at tends
    exact ih tends.2 (later agree) names
  | @leaf _ head inner _ _ _ _ _ known isLeaf added behind ih =>
    have below := tended_below valid known tends
    have agreeBelow := agree.below (.field List.mem_cons_self : Selects table _ ⟨head, inner⟩)
    rw [Tended] at tends
    intro exported listed
    rcases ih tends.2 (later agree) names exported listed with listed | backed
    · exact backed_of_addField wellFormed below agreeBelow added
        (fun other inside => names other (behind.subset inside)) exported listed
    · exact .inr backed
  | @field _ head inner _ _ _ _ _ _ known noLeaf added inside behind ihInside ihBehind =>
    have below := tended_below valid known tends
    have agreeBelow := agree.below (.field List.mem_cons_self : Selects table _ ⟨head, inner⟩)
    have namesBelow := fun other inside => names other (behind.subset inside)
    rw [Tended] at tends
    intro exported listed
    rcases ihBehind tends.2 (later agree) names exported listed with listed | backed
    · rcases ihInside (below noLeaf) agreeBelow namesBelow exported listed with listed | backed
      · exact backed_of_addField wellFormed below agreeBelow added
          (fun other isOwn => namesBelow other (inside.subset isOwn)) exported listed
      · exact .inr backed
    · exact .inr backed

/-! ### What aliases declare -/

/-- An alias for an interface refers to those for its object types, and an alias for an object type
has the shape of what is selected on the type. Other types have no alias. -/
theorem shape_eq_ok {scope : SelectionScope} {exported : ExportedAlias} {expression : TypeExpr} :
    exported.shape scope = .ok expression ↔
      ∃ definition, scope.schema.type? exported.type = some definition ∧
        ((definition.kind = .interface ∧ expression = .aliasRefs
            ((scope.schema.possibleTypes definition).map (implementorName exported.name))) ∨
          (definition.kind = .object ∧
            scope.shapeOf exported.type exported.field.selections = .ok expression)) := by
  unfold shape
  cases known : scope.schema.type? exported.type with
  | none => simp
  | some definition => cases kind : definition.kind <;> simp [kind, eq_comm]

/-- The shape of an alias for an object type is that of what its field selects on the type. -/
theorem shapeOf_of_shape {scope : SelectionScope} {exported : ExportedAlias}
    {expression : TypeExpr} (object : scope.schema.kind? exported.type = some .object)
    (succeeds : exported.shape scope = .ok expression) :
    scope.shapeOf exported.type exported.field.selections = .ok expression := by
  obtain ⟨definition, found, kind⟩ := Schema.kind?_eq_some.mp object
  obtain ⟨definition', found', ⟨interface, -⟩ | ⟨-, isShape⟩⟩ := shape_eq_ok.mp succeeds
  · cases found.symm.trans found'
    cases kind.symm.trans interface
  · exact isShape

/-- What a backed alias declares refers to declared names. -/
theorem declared_of_shape {scope : SelectionScope} (wellFormed : scope.schema.WellFormed)
    (valid : scope.schema.typeProblems = [])
    (fragments : ∀ name loaded, tended name → scope.fragments.get? name = some loaded →
      Tended scope.schema declared tended loaded.fragment.onType loaded.fragment.selections)
    {exported : ExportedAlias}
    (backed : Backed scope.schema scope.fragments declared tended exported)
    {expression : TypeExpr} (succeeds : exported.shape scope = .ok expression) :
    ∀ name ∈ expression.aliases, declared name := by
  obtain ⟨definition, known, ⟨kind, rfl⟩ | ⟨kind, isShape⟩⟩ := shape_eq_ok.mp succeeds
  · -- An interface is declared as the union of the aliases for its object types.
    rw [TypeExpr.aliases, List.forall_mem_map]
    exact backed.implementors definition known kind
  · have object : scope.schema.kind? exported.type = some .object :=
      Schema.kind?_eq_some.mpr ⟨definition, known, kind⟩
    -- The shape of an object type is made of the one entry that flattening has for it.
    unfold SelectionScope.shapeOf at isShape
    obtain ⟨flattened, flattens, isShape⟩ := bind_eq_ok.mp isShape
    obtain ⟨own, -, rfl⟩ := (Selection.flatten_object_eq_ok object).mp flattens
    simp only [List.lookup_cons_self, Option.getD_some] at isShape
    exact SelectionScope.declared_of_entry wellFormed valid fragments backed.covered backed.agree
      flattens (List.mem_singleton_self _)
      (fun type selections expression coveredBelow agreeBelow =>
        SelectionScope.declared_of_typeWithin wellFormed valid fragments _ coveredBelow
          agreeBelow)
      isShape

end ExportedAlias

end SelectionTypes

import SelectionTypes.Proofs.Export.Distinct
import SelectionTypes.Proofs.Schema.WrittenFields

/-!
# `SelectionTypes.Proofs.Export.Duplicates`: which exports are duplicates

Two exports are duplicates if they have one name and are on one field of one type (`SameExport`).
`exportedFields` lists the exported fields of selections in the order in which they are visited.

An exported interface has an alias for each of its object types, with a name that is put together
from two names. Such aliases neither hide a duplicate nor make one: if two fields have an alias of
one binding, then both aliases are for the same part of one type, and the exports have one name
(`not_disjoint_bindings_iff`). So `collect_fails_iff_duplicate`: where all types and names are
given, collecting fails exactly if an export is met twice, and the aliases that it gives otherwise
have distinct bindings.
-/

set_option autoImplicit false

namespace SelectionTypes

open Outcome
open Selection (Stands)

/-! ### Types of fields -/

/-- In a schema that is resolved the type of a field is known. -/
theorem Schema.isSome_type?_of_resolved {schema : Schema}
    (resolved : schema.resolutionProblem? = none) {parent name : String} {type : TypeRef}
    (known : ExportedAlias.fieldType? schema parent name = some type) :
    (schema.type? type.base).isSome := by
  obtain ⟨definition, found, listed⟩ := ExportedAlias.exists_owner known
  have inside := Schema.mem_of_type? found
  -- The check is for types of some kinds, and a type of any kind is known.
  have isSome : ∀ {holds : TypeKind → Bool}, (schema.kind? type.base).any holds = true →
      (schema.type? type.base).isSome := by
    intro holds isKind
    unfold Schema.kind? at isKind
    cases known : schema.type? type.base with
    | none => simp [known] at isKind
    | some _ => rfl
  rcases TypeDefinition.exists_of_mem_fieldTypes listed with
    ⟨field, own, rfl⟩ | ⟨-, input, own, rfl⟩
  · exact isSome (Document.isOutput_of_resolved resolved inside own)
  · exact isSome (Document.isInput_of_resolved resolved inside own)

namespace ExportedAlias

variable {schema : Schema} {parent static : String} {selections : List Selection}
variable {found : List ExportedAlias} {field : SelectedField}

/-! ### Exported fields in order -/

/-- An exported field and the type that it is written on. -/
abbrev ExportedField := String × SelectedField

/-- The exported fields of selections on a type, in order, apart from those below leaves and inside
spreads. -/
def exportedFields (schema : Schema) (parent : String) : List Selection → List ExportedField
  | [] => []
  | .spread _ _ :: rest => exportedFields schema parent rest
  | .inlined condition _ inner :: rest =>
    exportedFields schema (condition.getD parent) inner ++ exportedFields schema parent rest
  | .field head inner :: rest =>
    (if head.isExported then [(parent, ⟨head, inner⟩)] else [])
      ++ ((match fieldType? schema parent head.name with
          | none => []
          | some type =>
            if schema.isLeaf type.base then [] else exportedFields schema type.base inner)
        ++ exportedFields schema parent rest)

/-- The exported fields of a list are found one selection after the other. -/
theorem exportedFields_cons (selection : Selection) (rest : List Selection) :
    exportedFields schema parent (selection :: rest) =
      exportedFields schema parent [selection] ++ exportedFields schema parent rest := by
  cases selection <;> simp [exportedFields]

/-- The exported fields of one of the selections are among those of all. -/
theorem exportedFields_subset {selection : Selection} (listed : selection ∈ selections) :
    exportedFields schema parent [selection] ⊆ exportedFields schema parent selections := by
  induction selections with
  | nil => cases listed
  | cons first rest ih =>
    rw [exportedFields_cons first rest]
    rcases List.mem_cons.mp listed with rfl | later
    · exact List.subset_append_left _ _
    · exact List.subset_append_of_subset_right _ (ih later)

/-- The exported fields are those that stand in the selections. -/
theorem mem_exportedFields :
    (static, field) ∈ exportedFields schema parent selections ↔
      Stands schema parent selections static (.field field.head field.selections) ∧
        field.head.isExported = true := by
  constructor
  · intro inside
    -- Along the listing: each of its steps is one way for a field to stand in the selections.
    induction parent, selections using exportedFields.induct with
    | case1 parent =>
      rw [exportedFields] at inside
      cases inside
    | case2 parent name directives rest ih =>
      rw [exportedFields] at inside
      exact (ih inside).imp_left fun stands => stands.mono (List.subset_cons_self _ _)
    | case3 parent condition directives inner rest ihInner ihRest =>
      rw [exportedFields] at inside
      rcases List.mem_append.mp inside with inside | behind
      · exact (ihInner inside).imp_left fun stands => .inlined List.mem_cons_self stands
      · exact (ihRest behind).imp_left fun stands => stands.mono (List.subset_cons_self _ _)
    | case4 parent head inner rest ihInner ihRest =>
      rw [exportedFields, List.mem_append, List.mem_append] at inside
      rcases inside with own | below | behind
      · by_cases exported : head.isExported = true
        · rw [if_pos exported, List.mem_singleton] at own
          cases own
          exact ⟨.here List.mem_cons_self, exported⟩
        · rw [if_neg exported] at own
          cases own
      · cases known : fieldType? schema parent head.name with
        | none => simp [known] at below
        | some type =>
          rw [known] at below
          by_cases leaf : schema.isLeaf type.base = true
          · simp [leaf] at below
          · simp only [leaf, Bool.false_eq_true, if_false] at below
            rw [Bool.not_eq_true] at leaf
            exact (ihInner type below).imp_left fun stands =>
              .deeper List.mem_cons_self known leaf stands
      · exact (ihRest behind).imp_left fun stands => stands.mono (List.subset_cons_self _ _)
  · rintro ⟨stands, exported⟩
    -- Along the way to the field, whose selection has to be fixed for the induction.
    generalize isField : Selection.field field.head field.selections = selection at stands
    induction stands with
    | here listed =>
      subst isField
      exact exportedFields_subset listed (by simp [exportedFields, exported])
    | inlined listed inside ih =>
      exact exportedFields_subset listed (by simpa [exportedFields] using ih isField)
    | deeper listed known noLeaf inside ih =>
      refine exportedFields_subset listed ?_
      simp only [exportedFields, known, noLeaf]
      simpa using .inr (ih isField)

/-! ### The aliases of exported fields -/

/-- The aliases of an exported field, or none if the field has no type or no name. -/
def aliasesAt (schema : Schema) (exported : ExportedField) : List ExportedAlias :=
  ((fieldType? schema exported.1 exported.2.head.name).map fun type =>
    ownAliases schema exported.1 exported.2 type.base).getD []

/-- The aliases at an exported field are those that the relation gives it. -/
theorem aliasesAt_eq {aliases : List ExportedAlias} (made : AliasesOf schema static field aliases)
    (exported : field.head.isExported = true) : aliasesAt schema (static, field) = aliases := by
  obtain ⟨type, known, made⟩ := made
  simp [aliasesAt, known, ownAliases, exported, made, Except.toOption]

/-- What selections ask for are the aliases of their exported fields, one field after the other. -/
theorem asked_eq_flatMap :
    asked schema parent selections =
      (exportedFields schema parent selections).flatMap (aliasesAt schema) := by
  induction parent, selections using exportedFields.induct with
  | case1 parent => rw [exportedFields, asked, List.flatMap_nil]
  | case2 parent name directives rest ih => rw [exportedFields, asked, ih]
  | case3 parent condition directives inner rest ihInner ihRest =>
    rw [exportedFields, asked, ihInner, ihRest, List.flatMap_append]
  | case4 parent head inner rest ihInner ihRest =>
    rw [exportedFields, asked, List.flatMap_append, List.flatMap_append, ← ihRest]
    -- Without a type nothing is asked for, and below a leaf nothing is read.
    cases known : fieldType? schema parent head.name with
    | none =>
      by_cases exported : head.isExported = true <;> simp [exported, aliasesAt, known]
    | some type =>
      by_cases leaf : schema.isLeaf type.base = true <;>
        by_cases exported : head.isExported = true <;>
          simp [exported, leaf, aliasesAt, ownAliases, known, ihInner]

/-- The exported fields of collectable selections have aliases. -/
theorem Collectable.aliasesOf_aliasesAt
    (collectable : Collectable schema (Stands schema parent selections)) :
    ∀ exported ∈ exportedFields schema parent selections,
      AliasesOf schema exported.1 exported.2 (aliasesAt schema exported) := by
  intro exported listed
  obtain ⟨stands, isExported⟩ := mem_exportedFields.mp listed
  obtain ⟨aliases, made⟩ := collectable.exports _ _ _ stands isExported
  rwa [aliasesAt_eq made isExported]

/-- Collected aliases are those of the exported fields, one field after the other. -/
theorem collected_eq_flatMap {aliases : List ExportedAlias}
    (collects : collect schema parent selections = .ok aliases) :
    aliases = (exportedFields schema parent selections).flatMap (aliasesAt schema) ∧
      ∀ exported ∈ exportedFields schema parent selections,
        AliasesOf schema exported.1 exported.2 (aliasesAt schema exported) := by
  obtain ⟨known, collectable⟩ := collectable_of_collect collects
  rw [← asked_eq_flatMap]
  exact ⟨((collect_eq_ok_iff known collectable).mp collects).1, collectable.aliasesOf_aliasesAt⟩

/-! ### Bindings of two exports -/

/-- Two exports have one name, and they are on one field of one type. -/
def SameExport (first second : ExportedField) : Prop :=
  (∃ name, first.2.head.exportName = .ok name ∧ second.2.head.exportName = .ok name) ∧
    first.1 = second.1 ∧ first.2.head.name = second.2.head.name

/-- Two names for one object type are put together from one name. -/
theorem implementorName_inj {name other type : String}
    (same : implementorName name type = implementorName other type) : name = other := by
  unfold implementorName at same
  have lists := congrArg String.toList same
  simpa [String.toList_append, String.toList_inj] using lists

/-- An interface is not one of its object types. -/
theorem not_mem_implementors (wellFormed : schema.WellFormed) {type : String}
    {definition : TypeDefinition} (found : schema.type? type = some definition) :
    type ∉ if definition.kind == .interface then schema.possibleTypes definition else [] := by
  rw [mem_implementors_iff]
  rintro ⟨interface, possible⟩
  obtain ⟨definition', found', object⟩ := Schema.kind?_eq_some.mp
    (wellFormed.kind?_of_mem_possibleTypes (Schema.mem_of_type? found) possible)
  cases found.symm.trans found'
  cases interface.symm.trans object

/-- An alias of a field is for the type of the field under the name of the export, or it is for
another type under a name that is put together for that type. -/
theorem AliasesOf.name_of_mem (wellFormed : schema.WellFormed) {aliases : List ExportedAlias}
    (made : AliasesOf schema static field aliases) {exported : ExportedAlias}
    (listed : exported ∈ aliases) :
    exported.field = field ∧ exported.parent = static ∧ ∃ name type,
      field.head.exportName = .ok name ∧ fieldType? schema static field.head.name = some type ∧
      ((exported.type = type.base ∧ exported.name = name) ∨
        (exported.type ≠ type.base ∧ exported.name = implementorName name exported.type)) := by
  obtain ⟨type, known, made⟩ := made
  obtain ⟨name, definition, isName, -, found, -, rfl⟩ := ofField_eq_ok made
  rcases List.mem_cons.mp listed with rfl | listed
  · exact ⟨rfl, rfl, name, type, isName, known, .inl ⟨rfl, rfl⟩⟩
  · obtain ⟨concrete, possible, rfl⟩ := List.mem_map.mp listed
    refine ⟨rfl, rfl, name, type, isName, known, .inr ⟨?_, rfl⟩⟩
    rintro rfl
    exact not_mem_implementors wellFormed found possible

/-- The aliases of one field have distinct bindings if the object types of an interface are
distinct. -/
theorem AliasesOf.nodup_bindings (wellFormed : schema.WellFormed)
    (once : ∀ definition ∈ schema.types, definition.kind = .interface →
      (schema.possibleTypes definition).Nodup) {aliases : List ExportedAlias}
    (made : AliasesOf schema static field aliases) : (aliases.map binding).Nodup := by
  obtain ⟨type, known, made⟩ := made
  obtain ⟨name, definition, -, -, found, -, rfl⟩ := ofField_eq_ok made
  -- Already the types of the aliases are distinct.
  refine List.Nodup.of_map (fun bound => bound.2.2.2) ?_
  rw [List.map_map, List.map_cons, List.map_map]
  show (type.base :: List.map id _).Nodup
  rw [List.map_id, List.nodup_cons]
  refine ⟨not_mem_implementors wellFormed found, ?_⟩
  split
  · next interface =>
    exact once definition (Schema.mem_of_type? found) (by simpa using interface)
  · exact List.nodup_nil

/-- Two exported fields have an alias of one binding exactly if their exports are the same. -/
theorem not_disjoint_bindings_iff (wellFormed : schema.WellFormed) {first second : ExportedField}
    {aliases others : List ExportedAlias} (made : AliasesOf schema first.1 first.2 aliases)
    (made' : AliasesOf schema second.1 second.2 others) :
    ¬ List.Disjoint (aliases.map binding) (others.map binding) ↔ SameExport first second := by
  constructor
  · intro shared
    rw [List.disjoint_left] at shared
    push Not at shared
    obtain ⟨_, inside, inside'⟩ := shared
    obtain ⟨exported, listed, rfl⟩ := List.mem_map.mp inside
    obtain ⟨other, listed', same⟩ := List.mem_map.mp inside'
    obtain ⟨isField, isParent, name, type, isName, known, part⟩ :=
      made.name_of_mem wellFormed listed
    obtain ⟨isField', isParent', name', type', isName', known', part'⟩ :=
      made'.name_of_mem wellFormed listed'
    simp only [binding, Prod.mk.injEq] at same
    obtain ⟨names, parents, fields, types⟩ := same
    rw [isParent, isParent'] at parents
    rw [isField, isField'] at fields
    rw [parents, fields] at known'
    cases known.symm.trans known'
    refine ⟨⟨name, isName, ?_⟩, parents.symm, fields.symm⟩
    -- Both aliases are for the type of the field, or both are for one of its object types.
    rw [types, names] at part'
    rcases part with ⟨own, isOwn⟩ | ⟨different, put⟩
    · rcases part' with ⟨-, isOwn'⟩ | ⟨different', -⟩
      · rwa [← isOwn, isOwn']
      · exact absurd own different'
    · rcases part' with ⟨own', -⟩ | ⟨-, put'⟩
      · exact absurd own' different
      · rwa [implementorName_inj (put.symm.trans put')]
  · rintro ⟨⟨name, isName, isName'⟩, parents, fields⟩ disjoint
    obtain ⟨type, known, made⟩ := made
    obtain ⟨type', known', made'⟩ := made'
    rw [← parents, ← fields] at known'
    cases known.symm.trans known'
    -- The aliases for the type of the field have one binding.
    obtain ⟨_, _, own, -, -, -, rfl⟩ := ofField_eq_ok made
    obtain ⟨_, _, own', -, -, -, rfl⟩ := ofField_eq_ok made'
    cases isName.symm.trans own
    cases isName'.symm.trans own'
    refine disjoint List.mem_cons_self (List.mem_cons.mpr (.inl ?_))
    simp [binding, parents, fields]

/-! ### Collecting given exports -/

/-- Selections on a known type in which all type conditions are known, and each exported field has a
name for its export and is of an object type or an interface. -/
structure ExportsGiven (schema : Schema) (parent : String) (selections : List Selection) :
    Prop where
  root : (schema.type? parent).isSome
  conditions : ∀ static condition directives inner,
    Stands schema parent selections static (.inlined (some condition) directives inner) →
      (schema.type? condition).isSome
  exports : ∀ (static : String) (field : SelectedField),
    Stands schema parent selections static (.field field.head field.selections) →
      field.head.isExported = true → ∃ name type definition,
        field.head.exportName = .ok name ∧
        fieldType? schema static field.head.name = some type ∧
        schema.type? type.base = some definition ∧
        (definition.kind = .object ∨ definition.kind = .interface)

/-- In selections on a known type with known type conditions, each type that selections stand on is
known. -/
theorem isSome_of_stands (resolved : schema.resolutionProblem? = none) {selection : Selection}
    (root : (schema.type? parent).isSome)
    (conditions : ∀ static condition directives inner,
      Stands schema parent selections static (.inlined (some condition) directives inner) →
        (schema.type? condition).isSome)
    (stands : Stands schema parent selections static selection) :
    (schema.type? static).isSome := by
  -- The types are known on the way: they are type conditions and types of fields.
  induction stands with
  | here listed => exact root
  | @inlined _ _ _ _ _ condition _ listed inside ih =>
    refine ih ?_ fun static condition directives inner stands =>
      conditions static condition directives inner (.inlined listed stands)
    cases condition with
    | none => exact root
    | some condition => exact conditions _ condition _ _ (.here listed)
  | deeper listed known noLeaf inside ih =>
    exact ih (Schema.isSome_type?_of_resolved resolved known)
      fun static condition directives inner stands =>
        conditions static condition directives inner (.deeper listed known noLeaf stands)

/-- Given exports are collectable. -/
theorem ExportsGiven.collectable (given : ExportsGiven schema parent selections)
    (resolved : schema.resolutionProblem? = none) :
    Collectable schema (Stands schema parent selections) where
  conditions := by
    intro static condition directives inner stands
    cases condition with
    | none => exact isSome_of_stands resolved given.root given.conditions stands
    | some condition => exact given.conditions static condition directives inner stands
  exports := by
    intro static head inner stands exported
    obtain ⟨name, type, definition, isName, known, found, kind⟩ :=
      given.exports static ⟨head, inner⟩ stands exported
    obtain ⟨aliases, made⟩ := @exists_ofField _ _ _ ⟨head, inner⟩ _ _ isName found
      (Schema.isExportable_iff.mpr kind)
    exact ⟨aliases, type, known, made⟩

/-- A failure of collecting that is not a duplicate. -/
def IsOtherFailure (cause : GenerationError) : Prop :=
  ∀ name field type, cause ≠ .duplicateExport name field type

/-- Adding aliases fails for nothing but one that is there already. -/
theorem add_ne_error {cause : GenerationError} (other : IsOtherFailure cause)
    {aliases : List ExportedAlias} : add found aliases ≠ .error cause := by
  induction aliases generalizing found with
  | nil => exact nofun
  | cons exported rest ih =>
    rw [add]
    split
    · exact fun same => other _ _ _ (Except.error.inj same).symm
    · exact ih

/-- Collecting from collectable selections fails at nothing but duplicates. -/
theorem collectFrom_ne_error {cause : GenerationError} (other : IsOtherFailure cause)
    (collectable : Collectable schema (Stands schema parent selections)) :
    collectFrom schema parent found selections ≠ .error cause := by
  -- Along the collection: each step succeeds, or it adds aliases.
  induction parent, found, selections using collectFrom.induct schema with
  | case1 parent found =>
    rw [collectFrom]
    exact ok_ne_error
  | case2 parent found name directives rest ih =>
    rw [collectFrom]
    exact ih (collectable.mono fun _ _ stands => stands.mono (List.subset_cons_self _ _))
  | case3 parent found condition directives inner rest narrowed ihInner ihRest =>
    rw [collectFrom]
    have known := collectable.conditions _ _ _ _ (.here List.mem_cons_self)
    refine bind_ne_error (by rw [requireType_eq_ok.mpr known]; exact ok_ne_error) fun _ _ => ?_
    refine bind_ne_error (ihInner (collectable.mono fun _ _ stands =>
      .inlined List.mem_cons_self stands)) fun middle _ => ?_
    exact ihRest middle (collectable.mono fun _ _ stands =>
      stands.mono (List.subset_cons_self _ _))
  | case4 parent found head inner rest unknown exported =>
    obtain ⟨_, type, known, -⟩ := collectable.exports _ _ _ (.here List.mem_cons_self) exported
    cases unknown.symm.trans known
  | case5 parent found head inner rest unknown plain ih =>
    rw [collectFrom, unknown]
    simp only [plain]
    exact ih (collectable.mono fun _ _ stands => stands.mono (List.subset_cons_self _ _))
  | case6 parent found head inner rest type known ihRest ihInner =>
    rw [collectFrom_field known]
    refine bind_ne_error ?_ fun own _ => bind_ne_error ?_ fun below _ => ihRest below
      (collectable.mono fun _ _ stands => stands.mono (List.subset_cons_self _ _))
    · unfold addField
      split
      · next exported =>
        obtain ⟨aliases, _, known', made⟩ :=
          collectable.exports _ _ _ (.here List.mem_cons_self) exported
        cases known.symm.trans known'
        rw [made]
        exact add_ne_error other
      · exact ok_ne_error
    · split
      · exact ok_ne_error
      · next noLeaf =>
        rw [Bool.not_eq_true] at noLeaf
        exact ihInner own (collectable.mono fun _ _ stands =>
          .deeper List.mem_cons_self known noLeaf stands)

/-- Collectable selections ask for aliases of distinct bindings exactly if no two of their exports
are the same. -/
theorem nodup_asked_iff (wellFormed : schema.WellFormed)
    (once : ∀ definition ∈ schema.types, definition.kind = .interface →
      (schema.possibleTypes definition).Nodup)
    (collectable : Collectable schema (Stands schema parent selections)) :
    ((asked schema parent selections).map binding).Nodup ↔
      (exportedFields schema parent selections).Pairwise fun first second =>
        ¬ SameExport first second := by
  have made := collectable.aliasesOf_aliasesAt
  rw [asked_eq_flatMap, List.map_flatMap, List.nodup_flatMap, and_iff_right fun exported listed =>
    (made exported listed).nodup_bindings wellFormed once]
  refine List.Pairwise.iff_of_mem fun {first second} inside inside' => ?_
  rw [← not_disjoint_bindings_iff wellFormed (made first inside) (made second inside'), not_not]

/-- Where types and names are given, collecting fails for a duplicate exactly if two of the exports
are the same. Otherwise it gives aliases of distinct bindings. -/
theorem collect_fails_iff_duplicate (wellFormed : schema.WellFormed)
    (resolved : schema.resolutionProblem? = none)
    (once : ∀ definition ∈ schema.types, definition.kind = .interface →
      (schema.possibleTypes definition).Nodup)
    (given : ExportsGiven schema parent selections) :
    ((∃ name field type, collect schema parent selections =
        .error (.duplicateExport name field type)) ↔
      ∃ first second, [first, second].Sublist (exportedFields schema parent selections) ∧
        SameExport first second) ∧
    ((¬ ∃ first second, [first, second].Sublist (exportedFields schema parent selections) ∧
        SameExport first second) →
      ∃ aliases, collect schema parent selections = .ok aliases ∧
        (aliases.map binding).Nodup) := by
  have collectable := given.collectable resolved
  have apart := nodup_asked_iff wellFormed once collectable
  rw [List.pairwise_iff_forall_sublist] at apart
  cases outcome : collect schema parent selections with
  | ok aliases =>
    obtain ⟨rfl, distinct⟩ := (collect_eq_ok_iff given.root collectable).mp outcome
    refine ⟨iff_of_false nofun ?_, fun _ => ⟨_, rfl, distinct⟩⟩
    rintro ⟨first, second, listed, same⟩
    exact apart.mp distinct listed same
  | error cause =>
    -- Nothing else can fail, since types and names are given.
    have duplicate : ∃ name field type, cause = .duplicateExport name field type := by
      by_contra other
      push Not at other
      rw [collect_eq_collectFrom given.root] at outcome
      exact collectFrom_ne_error other collectable outcome
    -- If no two exports were the same, then collecting would have succeeded.
    have twice : ∃ first second,
        [first, second].Sublist (exportedFields schema parent selections) ∧
          SameExport first second := by
      by_contra none
      push Not at none
      have succeeds := (collect_eq_ok_iff given.root collectable).mpr
        ⟨rfl, apart.mpr fun {first second} listed => none first second listed⟩
      cases outcome.symm.trans succeeds
    obtain ⟨name, field, type, rfl⟩ := duplicate
    exact ⟨iff_of_true ⟨name, field, type, rfl⟩ twice, fun none => absurd twice none⟩

/-! ### Friends of pets and of cats -/

/-- An exported friend, with its name. -/
def exportedFriend : SelectedField :=
  let directive : Directive := ⟨"export", [⟨"exportName", .string "Friend" false, 0⟩], 0⟩
  ⟨⟨none, "friend", [], [directive]⟩, [.field ⟨none, "name", [], []⟩ []]⟩

/-- The friend of a pet, exported for all pets and for cats once more. -/
def friendSelections : List Selection :=
  [.field exportedFriend.head exportedFriend.selections,
    .inlined (some "Cat") [] [.field exportedFriend.head exportedFriend.selections]]

/-- The friend is exported once for all pets and once for cats. -/
theorem exportedFields_friendSelections :
    exportedFields Schema.pets "Pet" friendSelections =
      [("Pet", exportedFriend), ("Cat", exportedFriend)] := by
  cbv

/-- No inline fragment stands in an exported friend. -/
theorem not_stands_exportedFriend {condition : Option String} {directives : List Directive}
    {inner : List Selection}
    (known : fieldType? Schema.pets parent "friend" = some (.named "Pet")) :
    ¬ Stands Schema.pets parent [.field exportedFriend.head exportedFriend.selections] static
      (.inlined condition directives inner) := by
  intro stands
  rcases stands.of_field with ⟨-, same⟩ | ⟨type, known', -, below⟩
  · cases same
  · cases known.symm.trans known'
    rcases below.of_field with ⟨-, same⟩ | ⟨type, isName, noLeaf, -⟩
    · cases same
    · have text : fieldType? Schema.pets "Pet" "name" = some (.named "String") := rfl
      cases text.symm.trans isName
      cases noLeaf

/-- The exports of the friend have names, and they are of types that can be exported. -/
theorem exportsGiven_friendSelections : ExportsGiven Schema.pets "Pet" friendSelections where
  root := by decide
  conditions := by
    intro static condition directives inner stands
    -- A condition stands behind the exported field or below it, and below it there is only a name.
    rcases stands.of_cons with first | later
    · exact absurd first (not_stands_exportedFriend rfl)
    · rcases later.of_inlined with ⟨-, same⟩ | inside
      · cases same
        decide
      · exact absurd inside (not_stands_exportedFriend rfl)
  exports := by
    intro static field stands exported
    have listed := mem_exportedFields.mpr ⟨stands, exported⟩
    rw [exportedFields_friendSelections] at listed
    have isName : exportedFriend.head.exportName = .ok "Friend" := rfl
    have found : ∃ definition, Schema.pets.type? "Pet" = some definition ∧
        definition.kind = .interface := ⟨_, rfl, rfl⟩
    obtain ⟨definition, found, kind⟩ := found
    rcases List.mem_cons.mp listed with same | later
    · cases same
      exact ⟨"Friend", .named "Pet", definition, isName, rfl, found, .inr kind⟩
    · cases List.mem_singleton.mp later
      exact ⟨"Friend", .named "Pet", definition, isName, rfl, found, .inr kind⟩

/-- The two exports of the friend are on two types, so they are collected. -/
theorem friendSelections_collected :
    Schema.pets.WellFormed ∧ Schema.pets.resolutionProblem? = none ∧
    (∀ definition ∈ Schema.pets.types, definition.kind = .interface →
      (Schema.pets.possibleTypes definition).Nodup) ∧
    ExportsGiven Schema.pets "Pet" friendSelections ∧
    ∃ aliases, collect Schema.pets "Pet" friendSelections = .ok aliases ∧
      (aliases.map binding).Nodup := by
  have resolved : Schema.pets.resolutionProblem? = none := by decide +kernel
  have once : ∀ definition ∈ Schema.pets.types, definition.kind = .interface →
      (Schema.pets.possibleTypes definition).Nodup := by decide
  refine ⟨Schema.wellFormed_pets, resolved, once, exportsGiven_friendSelections, ?_⟩
  refine (collect_fails_iff_duplicate Schema.wellFormed_pets resolved once
    exportsGiven_friendSelections).2 ?_
  rintro ⟨first, second, listed, -, parents, -⟩
  rw [exportedFields_friendSelections] at listed
  cases listed.eq_of_length rfl
  exact absurd parents (by decide)

end ExportedAlias

end SelectionTypes

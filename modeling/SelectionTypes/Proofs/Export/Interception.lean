import SelectionTypes.Proofs.Export.AliasNames

/-!
# `SelectionTypes.Proofs.Export.Interception`: fields that are read through an alias

An exported field is looked at twice. Rendering reads it through an alias (`FieldHead.exportRef?`),
and collecting makes its aliases (`ExportedAlias.addField`). Both ask for the name of the export and
refuse a leaf (`checkedName`), so what rendering refuses, collecting refuses for the same cause.
Collecting refuses two more types: a union, and an interface that an object type lists twice.

`acceptedAlike_iff`: the two accept the same exports exactly apart from these types. A fragment of
another module is rendered without being collected, so there a union can be read through an alias
that no module declares (`exportedHit_not_declared`).
-/

set_option autoImplicit false

namespace SelectionTypes

open Outcome
open TypeScript (TypeExpr)

namespace ExportedAlias

variable {schema : Schema} {parent : String} {field : SelectedField} {type : TypeRef}
variable {definition : TypeDefinition} {aliases : List ExportedAlias} {cause : GenerationError}

/-! ### What both ask for -/

/-- The name of an export of a type that is no leaf. -/
def checkedName (schema : Schema) (head : FieldHead) (type : String) :
    Except GenerationError String := do
  let name ← head.exportName
  if schema.isLeaf type then throw (.primitiveExport type head.name)
  return name

/-- Rendering asks for nothing more. -/
theorem exportRef?_eq_map (exported : field.head.isExported = true) :
    field.head.exportRef? schema type =
      (checkedName schema field.head type.base).map fun name =>
        some (.marked type (.aliasRef name)) := by
  unfold FieldHead.exportRef? checkedName
  rw [if_pos exported]
  cases field.head.exportName with
  | error cause => rfl
  | ok name =>
    cases schema.isLeaf type.base <;>
      simp [bind, Except.bind, pure, Except.pure, Except.map, throw, throwThe,
        MonadExceptOf.throw]

/-- Collecting also asks for an object type or an interface. -/
theorem ofField_eq_bind {type : String} (found : schema.type? type = some definition) :
    ofField schema parent field type =
      checkedName schema field.head type >>= fun name =>
        if definition.kind.isExportable then
          .ok (⟨name, type, parent, field⟩ ::
            (if definition.kind == .interface then schema.possibleTypes definition else []).map
              fun concrete => ⟨implementorName name concrete, concrete, parent, field⟩)
        else .error (.exportOfOtherType type) := by
  unfold ofField checkedName
  rw [found]
  cases field.head.exportName with
  | error cause => rfl
  | ok name =>
    cases schema.isLeaf type <;> cases exportable : definition.kind.isExportable <;>
      simp [exportable, bind, Except.bind, pure, Except.pure, throw, throwThe,
        MonadExceptOf.throw]

/-- Rendering refuses an export exactly for the causes that both look for. -/
theorem exportRef?_eq_error (exported : field.head.isExported = true) :
    field.head.exportRef? schema type = .error cause ↔
      checkedName schema field.head type.base = .error cause := by
  rw [exportRef?_eq_map exported]
  cases checkedName schema field.head type.base <;> simp [Except.map]

/-- Rendering reads a field through the alias of the name that both look for. -/
theorem exportRef?_eq_some (exported : field.head.isExported = true) {reference : TypeExpr} :
    field.head.exportRef? schema type = .ok (some reference) ↔
      ∃ name, checkedName schema field.head type.base = .ok name ∧
        .marked type (.aliasRef name) = reference := by
  rw [exportRef?_eq_map exported]
  cases checkedName schema field.head type.base <;> simp [Except.map]

/-- Both accept the name of an export whose type is no leaf. -/
theorem checkedName_eq_ok {head : FieldHead} {type name : String} :
    checkedName schema head type = .ok name ↔
      head.exportName = .ok name ∧ schema.isLeaf type = false := by
  unfold checkedName
  rw [bind_eq_ok]
  cases schema.isLeaf type <;>
    simp [bind, Except.bind, pure, Except.pure, throw, throwThe, MonadExceptOf.throw]

/-! ### What collecting asks for besides -/

/-- An exported field adds its aliases to none. -/
theorem addField_eq_bind {type : String} (exported : field.head.isExported = true) :
    addField schema parent [] field type = ofField schema parent field type >>= add [] :=
  if_pos exported

/-- Collecting refuses an export of another type. -/
theorem ofField_of_other {type name : String} (found : schema.type? type = some definition)
    (isName : checkedName schema field.head type = .ok name)
    (other : ¬ definition.kind.isExportable = true) :
    ofField schema parent field type = .error (.exportOfOtherType type) := by
  rw [ofField_eq_bind found, isName]
  exact if_neg other

/-- Collecting a field alone is collecting what is below it behind the aliases of the field. -/
theorem collect_field (known : fieldType? schema parent field.head.name = some type) :
    collect schema parent [.field field.head field.selections] =
      addField schema parent [] field type.base >>= fun own =>
        if schema.isLeaf type.base then .ok own
        else collectFrom schema type.base own field.selections := by
  have isKnown : (schema.type? parent).isSome := by
    obtain ⟨definition, found, -⟩ := Option.bind_eq_some_iff.mp known
    rw [found]
    rfl
  rw [collect_eq_collectFrom isKnown, collectFrom_field known]
  refine congrArg (_ >>= ·) (funext fun own => ?_)
  -- Nothing stands behind the field.
  have nothing : ∀ below, collectFrom schema parent below [] = .ok below := fun below => by
    rw [collectFrom]
  split
  · exact nothing own
  · cases collectFrom schema type.base own field.selections with
    | error cause => rfl
    | ok below => exact nothing below

/-- The aliases of a field have distinct bindings exactly if its object types are distinct. -/
theorem AliasesOf.nodup_bindings_iff {field : ExportedField}
    (made : AliasesOf schema field.1 field.2 aliases) :
    (aliases.map binding).Nodup ↔ (implementorTypes schema field).Nodup := by
  obtain ⟨name, type, -, rfl⟩ := made.eq_cons_map
  -- The alias for the type itself never has the binding of another one, so the others decide.
  rw [List.map_cons, List.map_map, List.nodup_cons]
  constructor
  · rintro ⟨-, distinct⟩
    exact distinct.of_map _
  · intro distinct
    refine ⟨fun listed => ?_, distinct.map_on ?_⟩
    · obtain ⟨concrete, -, same⟩ := List.mem_map.mp listed
      exact implementorName_ne (congrArg Prod.fst same)
    · intro concrete _ other _ same
      exact congrArg (fun bound => bound.2.2.2) same

/-- The aliases of an export that rendering accepts are made exactly if it is of an object type or
of an interface that each object type lists once. -/
theorem exists_addField_iff (known : fieldType? schema parent field.head.name = some type)
    (found : schema.type? type.base = some definition) (exported : field.head.isExported = true)
    {name : String} (isName : checkedName schema field.head type.base = .ok name) :
    (∃ aliases, addField schema parent [] field type.base = .ok aliases) ↔
      definition.kind.isExportable = true ∧ (implementorTypes schema (parent, field)).Nodup := by
  rw [addField_eq_bind exported]
  by_cases exportable : definition.kind.isExportable = true
  · obtain ⟨aliases, made⟩ := @exists_ofField schema parent _ field name definition
      (checkedName_eq_ok.mp isName).1 found exportable
    -- There are no aliases before, so all is up to the aliases of the field.
    have adds : Adds (add [] aliases) [] aliases := adds_add List.nodup_nil
    rw [and_iff_right exportable, made,
      ← @AliasesOf.nodup_bindings_iff schema _ (parent, field) ⟨type, known, made⟩]
    exact ⟨fun ⟨collected, added⟩ => ((adds collected).mp added).2,
      fun distinct => ⟨aliases, (adds aliases).mpr ⟨rfl, distinct⟩⟩⟩
  · rw [ofField_of_other found isName exportable]
    exact iff_of_false nofun fun both => exportable both.1

/-! ### What both accept -/

/-- Rendering and collecting accept an exported field alike. -/
structure AcceptedAlike (schema : Schema) (parent : String) (field : SelectedField)
    (type : TypeRef) : Prop where
  /-- The field is read through an alias exactly if its aliases are made. -/
  accepted : (∃ reference, field.head.exportRef? schema type = .ok (some reference)) ↔
    ∃ aliases, addField schema parent [] field type.base = .ok aliases
  /-- Where both refuse the field, the causes are of one category. -/
  refused : ∀ cause other, field.head.exportRef? schema type = .error cause →
    addField schema parent [] field type.base = .error other → cause.category = other.category

/-- In a schema that is resolved, a field that is no input has a leaf type, or one with aliases, or
a union. -/
theorem exists_output (resolved : schema.resolutionProblem? = none)
    (output : schema.kind? parent ≠ some .inputObject) {name : String}
    (known : fieldType? schema parent name = some type) :
    ∃ definition, schema.type? type.base = some definition ∧
      (schema.isLeaf type.base = false →
        definition.kind.isExportable = true ∨ definition.kind = .union) := by
  obtain ⟨owner, found, listed⟩ := exists_owner known
  rcases TypeDefinition.exists_of_mem_fieldTypes listed with ⟨field, own, rfl⟩ | ⟨input, -⟩
  · have isOutput := Document.isOutput_of_resolved resolved (Schema.mem_of_type? found) own
    obtain ⟨kind, isKind, isOutput⟩ := (Option.any_eq_true _ _).mp isOutput
    obtain ⟨definition, isType, rfl⟩ := Schema.kind?_eq_some.mp isKind
    refine ⟨definition, isType, fun noLeaf => ?_⟩
    rw [Schema.isLeaf, isKind] at noLeaf
    cases kind : definition.kind <;>
      simp_all [TypeKind.isLeaf, TypeKind.isExportable, TypeKind.isOutput]
  · exact absurd (Schema.kind?_eq_some.mpr ⟨owner, found, input⟩) output

/-- Collecting refuses what rendering refuses, for the same cause. -/
theorem addField_of_refused (found : schema.type? type.base = some definition)
    (exported : field.head.isExported = true)
    (refused : field.head.exportRef? schema type = .error cause) :
    addField schema parent [] field type.base = .error cause := by
  rw [addField_eq_bind exported, ofField_eq_bind found, (exportRef?_eq_error exported).mp refused]
  rfl

/-- The first of the aliases that are made for a field is the one that the field is read through. -/
theorem exportRef?_of_addField {aliases : List ExportedAlias}
    (exported : field.head.isExported = true)
    (added : addField schema parent [] field type.base = .ok aliases) :
    ∃ own ∈ aliases, own.type = type.base ∧
      field.head.exportRef? schema type = .ok (some (.marked type (.aliasRef own.name))) := by
  rcases addField_eq_ok added with ⟨plain, -⟩ | ⟨own, made, rfl⟩
  · rw [exported] at plain
    cases plain
  · obtain ⟨name, definition, isName, noLeaf, -, -, rfl⟩ := ofField_eq_ok made
    refine ⟨⟨name, type.base, parent, field⟩, by simp, rfl, ?_⟩
    exact (exportRef?_eq_some exported).mpr ⟨name, checkedName_eq_ok.mpr ⟨isName, noLeaf⟩, rfl⟩

/-- The aliases of an export that rendering accepts are made exactly if its type is no union and its
object types are listed once. -/
theorem exists_addField_iff_of_accepted (resolved : schema.resolutionProblem? = none)
    (output : schema.kind? parent ≠ some .inputObject)
    (known : fieldType? schema parent field.head.name = some type)
    (exported : field.head.isExported = true) {reference : TypeExpr}
    (accepted : field.head.exportRef? schema type = .ok (some reference)) :
    (∃ aliases, addField schema parent [] field type.base = .ok aliases) ↔
      schema.kind? type.base ≠ some .union ∧
        (implementorTypes schema (parent, field)).Nodup := by
  obtain ⟨name, isName, -⟩ := (exportRef?_eq_some exported).mp accepted
  obtain ⟨definition, found, kinds⟩ := exists_output resolved output known
  have isUnion : schema.kind? type.base = some .union ↔ definition.kind = .union := by
    simp [Schema.kind?, found]
  rw [exists_addField_iff known found exported isName]
  refine and_congr_left' ?_
  rw [ne_eq, isUnion]
  -- Rendering accepts unions as well, and that is all that sets the two apart.
  rcases kinds (checkedName_eq_ok.mp isName).2 with exportable | union
  · refine iff_of_true exportable fun union => ?_
    rw [union] at exportable
    cases exportable
  · rw [union]
    simp [TypeKind.isExportable]

/-- A union is refused by collecting alone. -/
theorem collect_of_union (known : fieldType? schema parent field.head.name = some type)
    (exported : field.head.isExported = true) {reference : TypeExpr}
    (accepted : field.head.exportRef? schema type = .ok (some reference))
    (union : schema.kind? type.base = some .union) :
    collect schema parent [.field field.head field.selections] =
      .error (.exportOfOtherType type.base) := by
  obtain ⟨name, isName, -⟩ := (exportRef?_eq_some exported).mp accepted
  obtain ⟨definition, found, kind⟩ := Schema.kind?_eq_some.mp union
  have other : ¬ definition.kind.isExportable = true := by
    rw [kind]
    exact Bool.false_ne_true
  rw [collect_field known, addField_eq_bind exported, ofField_of_other found isName other]
  rfl

/-- A field whose aliases are made is collected with what is below it. -/
theorem collect_of_added (known : fieldType? schema parent field.head.name = some type)
    (exported : field.head.isExported = true)
    (added : addField schema parent [] field type.base = .ok aliases) :
    collect schema parent [.field field.head field.selections] =
      collectFrom schema type.base aliases field.selections := by
  obtain ⟨own, -, -, accepted⟩ := exportRef?_of_addField exported added
  obtain ⟨name, isName, -⟩ := (exportRef?_eq_some exported).mp accepted
  rw [collect_field known, added]
  show (if _ then _ else _) = _
  rw [(checkedName_eq_ok.mp isName).2, if_neg Bool.false_ne_true]

/-- Fields of one type that are read through an alias have one that is made, if the type is no
union and its object types are listed once. -/
theorem exists_alias_of_firstExport? (resolved : schema.resolutionProblem? = none)
    (output : schema.kind? parent ≠ some .inputObject) {fields : List SelectedField}
    {reference : TypeExpr}
    (sameType : ∀ other ∈ fields, fieldType? schema parent other.head.name = some type)
    (first : SelectedField.firstExport? schema type fields = .ok (some reference))
    (noUnion : schema.kind? type.base ≠ some .union)
    (once : ∀ other ∈ fields, (implementorTypes schema (parent, other)).Nodup) :
    ∃ other ∈ fields, ∃ aliases, addField schema parent [] other type.base = .ok aliases ∧
      ∃ own ∈ aliases, own.type = type.base ∧ reference = .marked type (.aliasRef own.name) := by
  rcases @SelectedField.find?_isExported_cases fields with
    plain | ⟨other, inside, isFirst, exported⟩
  · rw [SelectedField.firstExport?_eq_none plain] at first
    cases first
  · rw [SelectedField.firstExport?_eq_of_find? isFirst] at first
    obtain ⟨aliases, added⟩ := (exists_addField_iff_of_accepted resolved output
      (sameType other inside) exported first).mpr ⟨noUnion, once other inside⟩
    obtain ⟨own, listed, isType, accepted⟩ := exportRef?_of_addField exported added
    cases first.symm.trans accepted
    exact ⟨other, inside, aliases, added, own, listed, isType, rfl⟩

/-- Rendering and collecting accept an exported field alike exactly if its type is no union and its
object types are listed once, unless both refuse it. Both refuse for the same cause, and a union is
refused by collecting alone. What both accept is read through an alias that is made for it, so one
is made for exported fields of another type that are read through an alias. -/
theorem acceptedAlike_iff (resolved : schema.resolutionProblem? = none)
    (output : schema.kind? parent ≠ some .inputObject)
    (known : fieldType? schema parent field.head.name = some type)
    (exported : field.head.isExported = true) :
    (AcceptedAlike schema parent field type ↔
      ∀ reference, field.head.exportRef? schema type = .ok (some reference) →
        schema.kind? type.base ≠ some .union ∧
          (implementorTypes schema (parent, field)).Nodup) ∧
    (∀ cause, field.head.exportRef? schema type = .error cause →
      addField schema parent [] field type.base = .error cause ∧
      collect schema parent [.field field.head field.selections] = .error cause) ∧
    (∀ reference, field.head.exportRef? schema type = .ok (some reference) →
      schema.kind? type.base = some .union →
      collect schema parent [.field field.head field.selections] =
        .error (.exportOfOtherType type.base)) ∧
    (∀ aliases, addField schema parent [] field type.base = .ok aliases →
      collect schema parent [.field field.head field.selections] =
        collectFrom schema type.base aliases field.selections) ∧
    ∀ fields reference,
      (∀ other ∈ fields, fieldType? schema parent other.head.name = some type) →
      SelectedField.firstExport? schema type fields = .ok (some reference) →
      schema.kind? type.base ≠ some .union →
      (∀ other ∈ fields, (implementorTypes schema (parent, other)).Nodup) →
      ∃ other ∈ fields, ∃ aliases, addField schema parent [] other type.base = .ok aliases ∧
        ∃ own ∈ aliases, own.type = type.base ∧ reference = .marked type (.aliasRef own.name) := by
  obtain ⟨definition, found, -⟩ := exists_output resolved output known
  have made : ∀ reference, field.head.exportRef? schema type = .ok (some reference) →
      ((∃ aliases, addField schema parent [] field type.base = .ok aliases) ↔ _) :=
    fun _ => exists_addField_iff_of_accepted resolved output known exported
  -- What is refused where fields are rendered is refused for the same cause where aliases are put.
  have refusedToo : ∀ cause, field.head.exportRef? schema type = .error cause →
      addField schema parent [] field type.base = .error cause :=
    fun _ => addField_of_refused found exported
  refine ⟨⟨fun alike reference accepted => ?_, fun apart => ⟨⟨?_, ?_⟩, ?_⟩⟩,
    fun cause refused => ⟨refusedToo cause refused, ?_⟩,
    fun _ => collect_of_union known exported, fun _ => collect_of_added known exported,
    fun _ _ => exists_alias_of_firstExport? resolved output⟩
  · exact (made reference accepted).mp (alike.accepted.mp ⟨reference, accepted⟩)
  · rintro ⟨reference, accepted⟩
    exact (made reference accepted).mpr (apart reference accepted)
  · rintro ⟨aliases, added⟩
    obtain ⟨own, -, -, accepted⟩ := exportRef?_of_addField exported added
    exact ⟨_, accepted⟩
  · intro cause other refused refused'
    cases (refusedToo cause refused).symm.trans refused'
    rfl
  · rw [collect_field known, refusedToo cause refused]
    rfl

/-- The friend of a cat is read through an alias that is made. -/
theorem acceptedAlike_nearFriend :
    Schema.pets.resolutionProblem? = none ∧ Schema.pets.kind? "Cat" ≠ some .inputObject ∧
    fieldType? Schema.pets "Cat" nearFriend.head.name = some (.named "Pet") ∧
    nearFriend.head.isExported = true ∧
    AcceptedAlike Schema.pets "Cat" nearFriend (.named "Pet") := by
  have resolved : Schema.pets.resolutionProblem? = none := by decide +kernel
  have output : Schema.pets.kind? "Cat" ≠ some .inputObject := by decide
  have known : fieldType? Schema.pets "Cat" nearFriend.head.name = some (.named "Pet") := rfl
  have exported : nearFriend.head.isExported = true := by decide
  have types : implementorTypes Schema.pets ("Cat", nearFriend) = ["Cat", "Dog"] := rfl
  refine ⟨resolved, output, known, exported,
    (acceptedAlike_iff resolved output known exported).1.mpr fun _ _ => ⟨by decide, ?_⟩⟩
  rw [types]
  decide

/-! ### A union in a fragment -/

/-- Definitions of a query with a field of a union. -/
def hitDefinitions : Document :=
  ⟨[.type ⟨none, "Cat", [], .object [] [⟨none, "name", [], .named "String", []⟩]⟩,
    .type ⟨none, "Hit", [], .union ["Cat"]⟩,
    .type ⟨none, "Query", [], .object [] [⟨none, "search", [], .named "Hit", []⟩]⟩]⟩

/-- The schema of these definitions. -/
def hitSchema : Schema where
  description := none
  roots := [(.query, "Query")]
  types := hitDefinitions.definedTypes
    ++ ["String", "Boolean"].map Schema.builtInScalar ++ Schema.introspectionTypes
  directives := Schema.standardDirectives

/-- A field of the union, with an export. -/
def exportedHit : SelectedField :=
  ⟨⟨none, "search", [], [exportAs "Hit"]⟩, [.field ⟨none, "__typename", [], []⟩ []]⟩

/-- Selections with a fragment of another module in which the field is exported. -/
def hitScope : SelectionScope where
  schema := hitSchema
  settings := {}
  fragments :=
    [{ fragment := ⟨"Found", "Query", [], [.field exportedHit.head exportedHit.selections]⟩
       isExternal := true }]

/-- The field is read through an alias, while collecting it fails. Where it is reached through the
fragment, nothing is collected, and the alias is read all the same. -/
theorem exportedHit_not_declared :
    hitDefinitions.toSchema = .ok hitSchema ∧
    exportedHit.head.exportRef? hitSchema (.named "Hit") =
      .ok (some (.marked (.named "Hit") (.aliasRef "Hit"))) ∧
    collect hitSchema "Query" [.field exportedHit.head exportedHit.selections] =
      .error (.exportOfOtherType "Hit") ∧
    ¬ AcceptedAlike hitSchema "Query" exportedHit (.named "Hit") ∧
    collect hitSchema "Query" [.spread "Found" []] = .ok [] ∧
    hitScope.shapeOf "Query" [.spread "Found" []] =
      .ok (.object [({ name := "__typename", optional := true }, .typename "Query"),
        ({ name := "search", optional := true },
          .marked (.named "Hit") (.aliasRef "Hit"))]) := by
  have read : exportedHit.head.exportRef? hitSchema (.named "Hit") =
      .ok (some (.marked (.named "Hit") (.aliasRef "Hit"))) := rfl
  have refused : addField hitSchema "Query" [] exportedHit "Hit" =
      .error (.exportOfOtherType "Hit") := rfl
  refine ⟨rfl, read, by cbv, fun alike => ?_, by cbv, by cbv⟩
  obtain ⟨aliases, added⟩ := alike.accepted.mp ⟨_, read⟩
  cases refused.symm.trans added

end ExportedAlias

end SelectionTypes

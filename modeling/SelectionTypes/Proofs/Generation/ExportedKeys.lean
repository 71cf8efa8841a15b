import SelectionTypes.Proofs.Export.Keys
import SelectionTypes.Proofs.Generation.Aliases
import SelectionTypes.Proofs.Generation.SupportingTypes

/-!
# `SelectionTypes.Proofs.Generation.ExportedKeys`: the keys of exported fields in a module

A module that is generated without inlining declares the exports of its operations and fragments.
Where they are read, fields of one key with an export keep the keys of those that are exported under
the name of the first exported one: `exported_keys_kept`.

The others of the key can lose theirs. In `chosenDocument` a pet is selected twice, and only the
first field is exported. The alias has no friend, which the second field selects:
`friend_not_chosen`.
-/

set_option autoImplicit false

namespace SelectionTypes

open Outcome
open TypeScript (TypeExpr Declaration)
open Selection (Collects WellTyped FieldsAgree Includes)

variable {schema : Schema} {settings : Settings} {documents : List Document}
variable {external : List LoadedFragment} {generator : Generator} {unnamed : Nat}

/-- The keys of exported fields are kept in what a generator reads, if the fragments that it knows
are its own or have declared exports. -/
theorem Generator.keepsKeys {declarations : List Declaration}
    (wellFormed : generator.scope.schema.WellFormed)
    (valid : generator.scope.schema.typeProblems = [])
    (fit : Document.Fit generator.scope.schema generator.scope.fragments generator.documents)
    (fragments : ∀ loaded ∈ generator.scope.fragments,
      Source generator.scope.schema generator.documents loaded.fragment.onType
          loaded.fragment.selections ∨
        WellTyped generator.scope.schema loaded.fragment.onType loaded.fragment.selections ∧
          ∃ declared, generator.scope.ExportsDeclared loaded.fragment.onType
            loaded.fragment.selections declared)
    (made : generator.declarations unnamed = .ok declarations) {parent : String}
    {selections : List Selection}
    (source : Source generator.scope.schema generator.documents parent selections)
    {concrete : String} {fields : List SelectedField}
    (reads : generator.scope.Reads parent selections concrete fields)
    {group : SelectedField × List SelectedField} (grouped : group ∈ SelectedField.groups fields)
    {first : SelectedField} (isFirst : (SelectedField.members group).find?
      (fun field => field.head.isExported) = some first) :
    generator.scope.KeepsKeys (generator.scope.Emits parent selections) concrete group first := by
  -- Each operation and each fragment has its part in the module.
  have parts : ∀ {parent : String} {selections : List Selection},
      Source generator.scope.schema generator.documents parent selections →
      (∃ type, generator.scope.typeOf parent selections = .ok type) ∧
      ∃ declared, generator.scope.ExportsDeclared parent selections declared := by
    intro parent selections source
    obtain ⟨part, -, -, -, aliases, type, exported, -, collects, typed, declares, -⟩ :=
      exists_part_of_source made source
    exact ⟨⟨type, typed⟩, exported, aliases, collects, declares⟩
  have fragmentsTyped : ∀ loaded ∈ generator.scope.fragments,
      WellTyped generator.scope.schema loaded.fragment.onType loaded.fragment.selections :=
    fun loaded listed => (fragments loaded listed).elim (fit.typed _ _) And.left
  refine SelectionScope.Reads.keepsKeys wellFormed valid
    (Selection.origins_includes (fit.typed parent selections source) fragmentsTyped)
    (fit.agree parent selections source) (parts source).1 (fun static inner includes => ?_) reads
    grouped isFirst
  cases includes with
  | own => exact (parts source).2
  | spread _ _ found =>
    exact (fragments _ (List.mem_of_find?_eq_some found)).elim (fun own => (parts own).2) And.right

/-- In a module that is generated without inlining, the keys of exported fields are kept wherever
the selections of an operation or a fragment are read. -/
theorem exported_keys_kept {generated : GeneratedModule} (wellFormed : schema.WellFormed)
    (valid : schema.typeProblems = [])
    (fit : Document.Fit schema (FragmentTable.ofDocuments external documents) documents)
    (externalTyped : ∀ loaded ∈ external,
      WellTyped schema loaded.fragment.onType loaded.fragment.selections)
    (plain : settings.flattenGeneratedTypes = false)
    (created : Generator.create schema settings documents external = .ok generator)
    (externalDeclared : ∀ loaded ∈ external, ∃ declared, generator.scope.ExportsDeclared
      loaded.fragment.onType loaded.fragment.selections declared)
    (succeeds : (generator.module unnamed).1 = .ok generated) {parent : String}
    {selections : List Selection} (source : Source schema documents parent selections)
    {concrete : String} {fields : List SelectedField}
    (reads : generator.scope.Reads parent selections concrete fields)
    {group : SelectedField × List SelectedField} (grouped : group ∈ SelectedField.groups fields)
    {first : SelectedField} (isFirst : (SelectedField.members group).find?
      (fun field => field.head.isExported) = some first) :
    generator.scope.KeepsKeys (generator.scope.Emits parent selections) concrete group first := by
  obtain ⟨_, isWritten, same⟩ := Generator.create_eq_ok.mp created
  rw [plain, if_neg Bool.false_ne_true] at isWritten
  cases isWritten
  obtain ⟨declarations, -, made, -⟩ := Generator.module_eq_ok.mp succeeds
  -- The generator has the schema, the table and the documents that it is made of.
  have schemaOf : generator.scope.schema = schema := by rw [same]
  have tableOf : generator.scope.fragments = FragmentTable.ofDocuments external documents := by
    rw [same]
  have documentsOf : generator.documents = documents := by rw [same]
  rw [← schemaOf] at wellFormed valid fit externalTyped source
  rw [← tableOf, ← documentsOf] at fit
  rw [← documentsOf] at source
  refine Generator.keepsKeys wellFormed valid fit (fun loaded listed => ?_) made source reads
    grouped isFirst
  rw [tableOf] at listed
  rcases source_or_external_of_mem generator.scope.schema listed with ⟨-, source⟩ | isExternal
  · rw [← documentsOf] at source
    exact .inl source
  · exact .inr ⟨externalTyped loaded isExternal, externalDeclared loaded isExternal⟩

/-! ### A pet that is selected twice -/

/-- A pet that is exported with its name. -/
def chosenField : SelectedField :=
  let directive : Directive := ⟨"export", [⟨"exportName", .string "Chosen" false, 0⟩], 0⟩
  ⟨⟨none, "pet", [], [directive]⟩, [.field ⟨none, "name", [], []⟩ []]⟩

/-- The same pet with its friend, without an export. -/
def otherField : SelectedField :=
  ⟨⟨none, "pet", [], []⟩, [.field ⟨none, "friend", [], []⟩ [.field ⟨none, "name", [], []⟩ []]]⟩

/-- Both fields. -/
def chosenSelections : List Selection :=
  [.field chosenField.head chosenField.selections, .field otherField.head otherField.selections]

/-- A query that selects both. -/
def chosenDocument : Document :=
  ⟨[.operation ⟨.query, none, [], [], chosenSelections⟩]⟩

/-- The generator of the query. -/
def chosenGenerator : Generator :=
  petGenerator [] chosenDocument

/-- The only selections of the document are those of its query. -/
theorem source_chosenDocument {parent : String} {selections : List Selection} :
    Source Schema.pets [chosenDocument] parent selections ↔
      parent = "Query" ∧ selections = chosenSelections := by
  have operations : chosenDocument.operations =
      [⟨.query, none, [], [], chosenSelections⟩] := rfl
  have fragments : chosenDocument.fragments = [] := rfl
  rw [Source.singleton_iff, operations, fragments]
  simp [root?_pets]

/-- The query fits the schema: all fields are of the types that they are asked of, and no two of
them disagree about a key. -/
theorem fit_chosenDocument :
    Document.Fit Schema.pets (FragmentTable.ofDocuments [] [chosenDocument]) [chosenDocument] where
  typed := by
    intro parent selections source
    obtain ⟨rfl, rfl⟩ := source_chosenDocument.mp source
    have pet : ExportedAlias.fieldType? Schema.pets "Query" "pet" = some (.named "Pet") := rfl
    have name : ExportedAlias.fieldType? Schema.pets "Pet" "name" = some (.named "String") := rfl
    have friend : ExportedAlias.fieldType? Schema.pets "Pet" "friend" = some (.named "Pet") :=
      rfl
    simp [chosenSelections, chosenField, otherField, WellTyped, pet, name, friend, TypeRef.base]
  agree := by
    intro parent selections source
    obtain ⟨rfl, rfl⟩ := source_chosenDocument.mp source
    refine Selection.fieldsAgree_of_unaliased ?_ (List.forall_mem_nil _)
    simp [chosenSelections, chosenField, otherField, Selection.headsOf]

/-- The query has a module. -/
theorem exists_module_chosenDocument :
    ∃ generated, (chosenGenerator.module 0).1 = .ok generated := by
  have part : ∃ part, chosenGenerator.Part "Query" chosenSelections part :=
    Generator.exists_part_iff.mpr ⟨exists_ok (by cbv), exists_ok (by cbv)⟩
  obtain ⟨generated, made⟩ : ∃ generated,
      generateModule Schema.pets {} [chosenDocument] [] = .ok generated := by
    refine Generator.exists_generateModule (create_petGenerator [] chosenDocument)
      (exists_supporting_pets {}) (fun operation listed => ?_)
      (List.forall_mem_nil _) (exists_ok rfl)
    cases List.mem_singleton.mp listed
    exact ⟨rfl, "Query", rfl, part⟩
  exact ⟨generated, made⟩

/-- The query reads both fields on its root type. -/
theorem reads_chosenSelections :
    chosenGenerator.scope.Reads "Query" chosenSelections "Query" [chosenField, otherField] := by
  have flattens : Selection.flatten chosenGenerator.scope.schema chosenGenerator.scope.fragments
      "Query" chosenSelections = .ok [("Query", [chosenField, otherField])] := by cbv
  exact .top flattens (List.mem_singleton_self _)

/-- Both fields have one key, so they are one group with the exported one in front. -/
theorem grouped_chosenFields :
    (chosenField, [otherField]) ∈ SelectedField.groups [chosenField, otherField] :=
  SelectedField.mem_groups.mpr rfl

/-- The alias of the pet has the name, which the exported field selects. -/
theorem keepsKeys_chosenField :
    Schema.pets.typeProblems = [] ∧
    Document.Fit Schema.pets (FragmentTable.ofDocuments [] [chosenDocument]) [chosenDocument] ∧
    Generator.create Schema.pets {} [chosenDocument] [] = .ok chosenGenerator ∧
    (∃ generated, (chosenGenerator.module 0).1 = .ok generated) ∧
    chosenGenerator.scope.Reads "Query" chosenSelections "Query" [chosenField, otherField] ∧
    chosenGenerator.scope.KeepsKeys (chosenGenerator.scope.Emits "Query" chosenSelections) "Query"
      (chosenField, [otherField]) chosenField := by
  have valid : Schema.pets.typeProblems = [] := by decide +kernel
  have created := create_petGenerator [] chosenDocument
  obtain ⟨generated, succeeds⟩ := exists_module_chosenDocument
  exact ⟨valid, fit_chosenDocument, created, ⟨generated, succeeds⟩, reads_chosenSelections,
    exported_keys_kept Schema.wellFormed_pets valid fit_chosenDocument (List.forall_mem_nil _) rfl
      created (List.forall_mem_nil _) succeeds (source_chosenDocument.mpr ⟨rfl, rfl⟩)
      reads_chosenSelections grouped_chosenFields rfl⟩

/-- Whether a shape in the declaration of an alias has a key. -/
def declaresKey (key : String) : Declaration → Bool
  | .intersection _ shapes => shapes.any fun shape =>
    match shape with
    | .object properties => properties.any fun property => property.1.name == key
    | _ => false
  | _ => false

/-- Aliases do not have a key that no declared shape has. -/
theorem not_aliasHas {declares : Declaration → Prop} {concrete key name : String}
    (none : ∀ declaration, declares declaration → declaresKey key declaration = false) :
    ¬ AliasHas declares concrete key name := by
  intro has
  induction has with
  | shape declared listed inside =>
    have absent := none _ declared
    simp only [declaresKey, List.any_eq_false] at absent
    obtain ⟨property, own, isKey⟩ := List.mem_map.mp inside
    exact absent _ listed (List.any_eq_true.mpr ⟨property, own, by simpa using isKey⟩)
  | implementor _ _ _ _ ih => exact ih

/-- Only the name of a pet is declared. -/
theorem declaresKey_friend (declaration : Declaration)
    (emits : chosenGenerator.scope.Emits "Query" chosenSelections declaration) :
    declaresKey "friend" declaration = false := by
  obtain ⟨static, inner, declared, includes, ⟨aliases, collects, declares⟩, listed⟩ := emits
  cases includes with
  | own =>
    -- All declarations are computed at once, with the question whether one of them has the key.
    have none : (do
        let aliases ← ExportedAlias.collect chosenGenerator.scope.schema "Query" chosenSelections
        let declared ← ExportedAlias.declare chosenGenerator.scope aliases
        return declared.any (declaresKey "friend")) = .ok false := by cbv
    obtain ⟨_, collects', rest⟩ := bind_eq_ok.mp none
    cases collects.symm.trans collects'
    obtain ⟨_, declares', same⟩ := bind_eq_ok.mp rest
    cases declares.symm.trans declares'
    simpa using List.any_eq_false.mp (Except.ok.inj same) declaration listed
  | spread _ _ found => cases found

/-- The type of the pet is the alias, which does not have the friend that the other field selects on
a cat. -/
theorem friend_not_chosen :
    Document.Fit Schema.pets (FragmentTable.ofDocuments [] [chosenDocument]) [chosenDocument] ∧
    (∃ generated, generateModule Schema.pets {} [chosenDocument] [] = .ok generated) ∧
    Generator.create Schema.pets {} [chosenDocument] [] = .ok chosenGenerator ∧
    chosenGenerator.scope.Reads "Query" chosenSelections "Query" [chosenField, otherField] ∧
    (chosenField, [otherField]) ∈ SelectedField.groups [chosenField, otherField] ∧
    (∀ inner, ∃ head, chosenGenerator.scope.property inner "Query" (chosenField, [otherField]) =
      .ok (head, .marked (.named "Pet") (.aliasRef "Chosen"))) ∧
    Schema.pets.concreteTypes "Pet" = .ok ["Cat", "Dog"] ∧
    (∃ friend, Collects Schema.pets chosenGenerator.scope.fragments "Cat" otherField.selections
      [friend] ∧ friend.key = "friend") ∧
    ¬ AliasHas (chosenGenerator.scope.Emits "Query" chosenSelections) "Cat" "friend" "Chosen" := by
  refine ⟨fit_chosenDocument, exists_module_chosenDocument, create_petGenerator [] chosenDocument,
    reads_chosenSelections, grouped_chosenFields, fun inner => ?_, rfl,
    ⟨⟨⟨none, "friend", [], []⟩, _⟩, .field .nil, rfl⟩, not_aliasHas declaresKey_friend⟩
  have known : ExportedAlias.fieldType? Schema.pets "Query" "pet" = some (.named "Pet") := rfl
  have named : chosenField.head.name ≠ SelectionScope.typenameField := by decide
  -- The first field is exported, so the property refers to its alias, and the second one is not
  -- read.
  have reference : SelectedField.firstExport? chosenGenerator.scope.schema (.named "Pet")
      (SelectedField.members (chosenField, [otherField])) =
        .ok (some (.marked (.named "Pet") (.aliasRef "Chosen"))) := rfl
  refine ⟨chosenGenerator.scope.propertyHead "pet" (.named "Pet"), ?_⟩
  rw [SelectionScope.property_of_field named known, SelectionScope.groupType, reference]
  rfl

end SelectionTypes

import SelectionTypes.Proofs.Export.OptimizedOrigins
import SelectionTypes.Proofs.Export.Progress
import SelectionTypes.Proofs.Generation.Imports
import SelectionTypes.Proofs.Generation.SupportingTypes

/-!
# `SelectionTypes.Proofs.Generation.Flattening`: modules with inlined fragments

Documents that have a module without inlining may have none with it. Two things can go wrong: the
spreads of an operation cannot be inlined, or its exported fields bind an alias twice, since
inlining writes the exports of a fragment wherever it is spread. Nothing else does:
`flattening_succeeds_iff`.

`Generates` is what a module without inlining shows of the documents. The exports of all that is
spread were collected, so optimized operations are collectable and have types.

In `befriendedPets` a fragment with an export is spread below several fields. With two of them the
document has a module, but none with inlined fragments: `befriendedPets_not_flattened`.
-/

set_option autoImplicit false

namespace SelectionTypes

open Outcome
open TypeScript (Declaration)
open Selection (WellTyped FieldsAgree Stands Includes)
open ExportedAlias (Collectable asked binding)

variable {schema : Schema} {settings : Settings} {documents written : List Document}
variable {external : List LoadedFragment} {parent : String} {selections : List Selection}

/-- An operation whose spreads can be inlined, and whose exported fields then bind no alias
twice. -/
def Operation.BindsOnce (schema : Schema) (table : FragmentTable) (operation : Operation) : Prop :=
  ∃ root optimized, schema.root? operation.kind = some root ∧
    operation.optimize table = .ok optimized ∧
    ((asked schema root optimized.selections).map binding).Nodup

/-- What a module of documents shows: the types that variables need are known, operations have root
types, and exports are collected on types that have values. -/
structure Generates (schema : Schema) (documents : List Document) : Prop where
  supporting : ∃ types, schema.supportingTypes (Document.variableTypeNames documents) = .ok types
  roots : ∀ document ∈ documents, ∀ operation ∈ document.operations,
    ∃ root, schema.root? operation.kind = some root
  collects : ∀ parent selections, Source schema documents parent selections →
    ∃ aliases, ExportedAlias.collect schema parent selections = .ok aliases
  concrete : ∀ parent selections, Source schema documents parent selections →
    ∃ types, schema.concreteTypes parent = .ok types

/-- Documents that have a module without inlining. -/
theorem generates_of_plain {generated : GeneratedModule}
    (unflattened : settings.flattenGeneratedTypes = false)
    (succeeds : generateModule schema settings documents external = .ok generated) :
    Generates schema documents := by
  obtain ⟨generator, created, succeeds⟩ := generateModule_eq_ok.mp succeeds
  obtain ⟨declarations, -, made, -⟩ := Generator.module_eq_ok.mp succeeds
  have supporting := Generator.supporting_of_create created
  obtain ⟨_, isWritten, same⟩ := Generator.create_eq_ok.mp created
  -- Without inlining the documents are read as they are given.
  rw [unflattened, if_neg Bool.false_ne_true] at isWritten
  cases isWritten
  have schemaOf : generator.scope.schema = schema := by rw [same]
  have documentsOf : generator.documents = documents := by rw [same]
  -- Each operation and each fragment has its part in the module.
  have parts : ∀ parent selections, Source schema documents parent selections →
      ∃ part, generator.Part parent selections part := by
    intro parent selections source
    rw [← schemaOf, ← documentsOf] at source
    obtain ⟨part, -, isPart⟩ := Generator.exists_part_of_source made source
    exact ⟨part, isPart⟩
  refine ⟨?_, ?_, ?_, ?_⟩
  · obtain ⟨supported, _, _, isSupported, -⟩ := Generator.declarations_eq_ok.mp made
    rw [supporting] at isSupported
    exact exists_supportingDeclarations_iff.mp ⟨supported, isSupported⟩
  · intro document given operation listed
    rw [← documentsOf] at given
    rw [← schemaOf]
    exact Generator.exists_root made (List.mem_flatMap_of_mem given listed)
  · intro parent selections source
    obtain ⟨part, _, _, aliases, _, _, -, collects, -⟩ := parts parent selections source
    rw [schemaOf] at collects
    exact ⟨aliases, collects⟩
  · intro parent selections source
    obtain ⟨part, _, _, _, type, _, -, -, typed, -⟩ := parts parent selections source
    rw [← schemaOf]
    exact SelectionScope.exists_concreteTypes_of_typeOf typed

/-! ### Optimized operations -/

section Optimized

variable (wellFormed : schema.WellFormed) (valid : schema.typeProblems = [])
variable (resolved : schema.resolutionProblem? = none)
variable (fit : Document.Fit schema (FragmentTable.ofDocuments external documents) documents)
variable (externalTyped : ∀ loaded ∈ external,
  WellTyped schema loaded.fragment.onType loaded.fragment.selections)
variable (externalCollected : ∀ loaded ∈ external, ∃ aliases, ExportedAlias.collect schema
  loaded.fragment.onType loaded.fragment.selections = .ok aliases)
variable (generates : Generates schema documents)

include externalCollected generates

/-- The exports of all that the documents include are collected. -/
theorem collects_of_includes (source : Source schema documents parent selections) {static : String}
    {inner : List Selection} (includes : Includes schema
      (FragmentTable.ofDocuments external documents) parent selections static inner) :
    ∃ aliases, ExportedAlias.collect schema static inner = .ok aliases := by
  cases includes with
  | own => exact generates.collects _ _ source
  | spread _ _ found =>
    rcases source_or_mem_external schema found with ⟨-, isLocal⟩ | isExternal
    · exact generates.collects _ _ isLocal
    · exact externalCollected _ isExternal

include fit externalTyped

/-- The exports of optimized selections are collected exactly if no alias is bound twice. -/
theorem collect_optimized_eq_ok (source : Source schema documents parent selections)
    {inlined : List Selection}
    (inlines : Selection.inline (FragmentTable.ofDocuments external documents) selections
      = .ok inlined) {aliases : List ExportedAlias} :
    ExportedAlias.collect schema parent (Selection.merge inlined) = .ok aliases ↔
      aliases = asked schema parent (Selection.merge inlined) ∧
        ((asked schema parent (Selection.merge inlined)).map binding).Nodup := by
  obtain ⟨own, collected⟩ := generates.collects _ _ source
  have agree : FieldsAgree [] inlined := (fit.agree _ _ source).inline inlines
  refine ExportedAlias.collect_eq_ok_iff (ExportedAlias.collectable_of_collect collected).1 ?_
  exact ExportedAlias.collectable_of_optimize
    (Selection.origins_includes (fit.typed _ _ source) (fit.wellTyped_of_mem externalTyped))
    (fun _ _ includes => collects_of_includes externalCollected generates source includes) .own
    inlines agree

include wellFormed valid resolved

/-- Selections of optimized documents have a part if their exports are collected. -/
theorem exists_part_of_optimized {generator : Generator}
    (schemaOf : generator.scope.schema = schema)
    (optimizes : Document.optimizeAll documents external = .ok written)
    (source : Source schema written parent selections) {aliases : List ExportedAlias}
    (collects : ExportedAlias.collect schema parent selections = .ok aliases) :
    ∃ part, generator.Part parent selections part := by
  obtain ⟨fitWritten, free⟩ :=
    fit_of_optimizeAll generator.scope.fragments fit externalTyped optimizes
  obtain ⟨original, inlined, isSource, -, -⟩ := source_of_optimizeAll optimizes source
  obtain ⟨types, isTypes⟩ := generates.concrete _ _ isSource
  subst schemaOf
  -- Optimized selections spread nothing, so what stands in them is all that is ever read.
  have sound := SelectionScope.sound_of_free wellFormed valid resolved
    (fitWritten.typed _ _ source) (free _ _ source)
    (ExportedAlias.collectable_of_collect collects).2
  have agree := fitWritten.agree _ _ source
  have typed := SelectionScope.exists_typeOf sound (free _ _ source) agree isTypes
  obtain ⟨declared, declares⟩ :=
    SelectionScope.exists_declare sound (free _ _ source) agree collects
  exact Generator.exists_part_iff.mpr
    ⟨typed, declared, bind_eq_ok.mpr ⟨aliases, collects, declares⟩⟩

/-- Optimized operations have root types and parts if the operations that they are made from bind
each alias once. -/
theorem exists_part_of_bindsOnce {generator : Generator}
    (schemaOf : generator.scope.schema = schema)
    (once : ∀ document ∈ documents, ∀ operation ∈ document.operations,
      operation.BindsOnce schema (FragmentTable.ofDocuments external documents))
    (optimizes : Document.optimizeAll documents external = .ok written) {document : Document}
    (given : document ∈ written) {operation : Operation}
    (listed : operation ∈ document.operations) :
    ∃ root part, schema.root? operation.kind = some root ∧
      generator.Part root operation.selections part := by
  obtain ⟨before, isBefore, operations, -⟩ :=
    Lists.exists_of_mem_right (optimizeAll_eq_ok optimizes) given
  obtain ⟨original, isOriginal, optimizesOne⟩ := Lists.exists_of_mem_right operations listed
  obtain ⟨root, _, isRoot, optimizesOne', distinct⟩ := once before isBefore original isOriginal
  cases optimizesOne.symm.trans optimizesOne'
  obtain ⟨inlined, inlines, same⟩ := bind_eq_ok.mp optimizesOne
  cases same
  -- The aliases are bound once, so they are collected.
  have collects := (collect_optimized_eq_ok fit externalTyped externalCollected generates
    (.operation isBefore isOriginal isRoot) inlines).mpr ⟨rfl, distinct⟩
  have isPart : ∃ part, generator.Part root (Selection.merge inlined) part :=
    exists_part_of_optimized wellFormed valid resolved fit externalTyped externalCollected
      generates schemaOf optimizes (.operation given listed isRoot) collects
  obtain ⟨part, isPart⟩ := isPart
  exact ⟨root, part, isRoot, isPart⟩

/-- Documents whose operations bind each alias once have a module with inlined fragments. -/
theorem exists_flattened (flattens : settings.flattenGeneratedTypes = true)
    (once : ∀ document ∈ documents, ∀ operation ∈ document.operations,
      operation.BindsOnce schema (FragmentTable.ofDocuments external documents)) :
    ∃ flattened, generateModule schema settings documents external = .ok flattened := by
  obtain ⟨written, optimizes⟩ : ∃ written,
      Document.optimizeAll documents external = .ok written := by
    refine exists_optimizeAll fun document given operation listed => ?_
    obtain ⟨_, optimized, -, optimizesOne, -⟩ := once document given operation listed
    exact ⟨optimized, optimizesOne⟩
  let generator : Generator :=
    ⟨{ schema, settings, fragments := FragmentTable.ofDocuments external written }, written⟩
  have created : Generator.create schema settings documents external = .ok generator := by
    refine Generator.create_eq_ok.mpr ⟨written, ?_, rfl⟩
    rw [if_pos flattens]
    exact optimizes
  have supporting : ∃ supporting, generator.supporting = .ok supporting := by
    rw [Generator.supporting_of_create created]
    exact exists_supportingDeclarations_iff.mpr generates.supporting
  have operations : ∀ operation ∈ generator.operations, ∃ root part,
      schema.root? operation.kind = some root ∧
        generator.Part root operation.selections part := by
    intro operation listed
    obtain ⟨document, given, listed⟩ := List.mem_flatMap.mp listed
    exact exists_part_of_bindsOnce wellFormed valid resolved fit externalTyped externalCollected
      generates rfl once optimizes given listed
  -- There is nothing else to declare or to import: all fragments are inlined.
  have noFragments := fragments_of_optimizeAll optimizes
  have fragments : ∀ fragment ∈ generator.fragments, ∃ part,
      generator.Part fragment.onType fragment.selections part := by
    intro fragment listed
    obtain ⟨document, given, own⟩ := List.mem_flatMap.mp listed
    rw [noFragments document given] at own
    cases own
  obtain ⟨declarations, made⟩ := generator.exists_declarations 0 supporting operations fragments
  obtain ⟨imports, imported⟩ : ∃ imports, generator.fragmentImports = .ok imports := by
    refine Generator.exists_fragmentImports fun loaded listed => ?_
    rcases FragmentTable.mem_of_mem_ofDocuments listed with isExternal | ⟨document, given, own⟩
    · exact externalCollected loaded isExternal
    · rw [LoadedFragment.ofDocument, noFragments document given] at own
      cases own
  obtain ⟨flattened, succeeds⟩ := Generator.exists_module made imported
  exact ⟨flattened, generateModule_eq_ok.mpr ⟨generator, created, succeeds⟩⟩

omit wellFormed valid resolved

/-- If documents have a module with inlined fragments, then their operations bind each alias
once. -/
theorem bindsOnce_of_flattened {flattened : GeneratedModule}
    (flattens : settings.flattenGeneratedTypes = true)
    (succeeds : generateModule schema settings documents external = .ok flattened) :
    ∀ document ∈ documents, ∀ operation ∈ document.operations,
      operation.BindsOnce schema (FragmentTable.ofDocuments external documents) := by
  obtain ⟨generator, created, succeeds⟩ := generateModule_eq_ok.mp succeeds
  obtain ⟨declarations, -, made, -⟩ := Generator.module_eq_ok.mp succeeds
  obtain ⟨written, optimizes, same⟩ := Generator.create_eq_ok.mp created
  rw [if_pos flattens] at optimizes
  have schemaOf : generator.scope.schema = schema := by rw [same]
  have documentsOf : generator.documents = written := by rw [same]
  intro document given operation listed
  obtain ⟨root, isRoot⟩ := generates.roots document given operation listed
  -- The optimized operation has its part in the module, so its exports were collected.
  obtain ⟨after, isAfter, operations, -⟩ :=
    Lists.exists_of_mem_left (optimizeAll_eq_ok optimizes) given
  obtain ⟨optimized, isOptimized, optimizesOne⟩ := Lists.exists_of_mem_left operations listed
  obtain ⟨inlined, inlines, assembled⟩ := bind_eq_ok.mp optimizesOne
  cases assembled
  have source : Source generator.scope.schema generator.documents root
      (Selection.merge inlined) := by
    rw [schemaOf, documentsOf]
    exact .operation isAfter isOptimized isRoot
  obtain ⟨part, -, _, _, aliases, _, _, -, collects, -⟩ :=
    Generator.exists_part_of_source made source
  rw [schemaOf] at collects
  have distinct := ((collect_optimized_eq_ok fit externalTyped externalCollected generates
    (.operation given listed isRoot) inlines).mp collects).2
  exact ⟨root, _, isRoot, optimizesOne, distinct⟩

end Optimized

/-- Documents that have a module without inlining have one with inlined fragments exactly if each of
their operations can be inlined and then binds no alias twice. -/
theorem flattening_succeeds_iff {generated : GeneratedModule} (wellFormed : schema.WellFormed)
    (valid : schema.typeProblems = []) (resolved : schema.resolutionProblem? = none)
    (fit : Document.Fit schema (FragmentTable.ofDocuments external documents) documents)
    (externalTyped : ∀ loaded ∈ external,
      WellTyped schema loaded.fragment.onType loaded.fragment.selections)
    (externalCollected : ∀ loaded ∈ external, ∃ aliases, ExportedAlias.collect schema
      loaded.fragment.onType loaded.fragment.selections = .ok aliases)
    (succeeds : generateModule schema { settings with flattenGeneratedTypes := false } documents
      external = .ok generated) :
    (∃ flattened, generateModule schema { settings with flattenGeneratedTypes := true } documents
        external = .ok flattened) ↔
      ∀ document ∈ documents, ∀ operation ∈ document.operations,
        operation.BindsOnce schema (FragmentTable.ofDocuments external documents) := by
  have generates := generates_of_plain rfl succeeds
  constructor
  · rintro ⟨flattened, succeeds⟩
    exact bindsOnce_of_flattened fit externalTyped externalCollected generates rfl succeeds
  · exact exists_flattened wellFormed valid resolved fit externalTyped externalCollected generates
      rfl

/-! ### A fragment below several fields -/

/-- Pets under some keys, with the same selections below each. -/
def petsUnder (keys : List String) (below : List Selection) : List Selection :=
  keys.map fun key => .field ⟨some key, "pet", [], []⟩ below

/-- A query for these pets. -/
def petsQuery (keys : List String) (below : List Selection) : Operation :=
  ⟨.query, some "Pets", [], [], petsUnder keys below⟩

/-- The query with a fragment below each pet, which exports the friend of a pet. -/
def befriendedPets (keys : List String) : Document :=
  ⟨[.operation (petsQuery keys [.spread "Befriended" []]), .fragment befriended]⟩

/-- The query with the fragment inlined below each pet. -/
def inlinedPets (keys : List String) : Operation :=
  petsQuery keys [.inlined (some "Pet") [] befriended.selections]

/-- The selections of the document are those of its query and those of the fragment. -/
theorem source_befriendedPets {keys : List String} :
    Source Schema.pets [befriendedPets keys] parent selections ↔
      (parent = "Query" ∧ selections = petsUnder keys [.spread "Befriended" []]) ∨
        (parent = "Pet" ∧ selections = befriended.selections) := by
  have operations : (befriendedPets keys).operations =
      [petsQuery keys [.spread "Befriended" []]] := rfl
  have fragments : (befriendedPets keys).fragments = [befriended] := rfl
  rw [Source.singleton_iff, operations, fragments]
  simp [petsQuery, befriended, root?_pets]

/-- The fields of pets with a spread below are the pets. -/
theorem headsOf_petsUnder {keys : List String} {name : String} {head : FieldHead}
    (inside : head ∈ Selection.headsOf (petsUnder keys [.spread name []])) :
    head.name = "pet" ∧ head.responseKey ∈ keys := by
  induction keys with
  | nil => simp [petsUnder, Selection.headsOf] at inside
  | cons key rest ih =>
    rw [petsUnder, List.map_cons, Selection.headsOf] at inside
    simp only [Selection.headsOf, List.nil_append] at inside
    rcases List.mem_cons.mp inside with rfl | later
    · exact ⟨rfl, List.mem_cons_self⟩
    · exact (ih later).imp_right (List.mem_cons_of_mem key)

/-- The document fits the schema if no pet has the key of another field. -/
theorem fit_befriendedPets {keys : List String} (apart : "friend" ∉ keys ∧ "name" ∉ keys) :
    Document.Fit Schema.pets (FragmentTable.ofDocuments [] [befriendedPets keys])
      [befriendedPets keys] where
  typed := by
    intro parent selections source
    rcases source_befriendedPets.mp source with ⟨rfl, rfl⟩ | ⟨rfl, rfl⟩
    · have pet : ExportedAlias.fieldType? Schema.pets "Query" "pet" = some (.named "Pet") := rfl
      refine Selection.wellTyped_iff.mpr fun selection listed => ?_
      obtain ⟨key, -, rfl⟩ := List.mem_map.mp listed
      simp [WellTyped, pet]
    · exact wellTyped_befriended
  agree := by
    -- Keys tell names: a key of a pet stands for the pet, and any other for itself.
    have own : ∀ head ∈ Selection.headsOf befriended.selections,
        head.name = if head.responseKey ∈ keys then "pet" else head.responseKey := by
      simp [befriended, Selection.headsOf, FieldHead.responseKey, apart]
    intro parent selections source
    refine Selection.fieldsAgree_of_names
      (fun key => if key ∈ keys then "pet" else key) (fun head inside => ?_) fun loaded listed => ?_
    · rcases source_befriendedPets.mp source with ⟨rfl, rfl⟩ | ⟨rfl, rfl⟩
      · obtain ⟨name, key⟩ := headsOf_petsUnder inside
        rw [name, if_pos key]
      · exact own head inside
    · cases List.mem_singleton.mp (show loaded ∈ [⟨befriended, false, none⟩] from listed)
      exact own

/-- The document has a module if its query has a part. -/
theorem exists_module_befriendedPets {keys : List String}
    (part : ∃ part, (petGenerator [] (befriendedPets keys)).Part "Query"
      (petsUnder keys [.spread "Befriended" []]) part) :
    ∃ generated, generateModule Schema.pets {} [befriendedPets keys] [] = .ok generated := by
  refine Generator.exists_generateModule (create_petGenerator [] (befriendedPets keys))
    (exists_supporting_pets {}) (fun operation listed => ?_) (fun fragment listed => ?_)
    (exists_ok rfl)
  · cases List.mem_singleton.mp (show operation ∈ [petsQuery keys _] from listed)
    exact ⟨rfl, "Query", root?_pets.mpr rfl, part⟩
  · cases List.mem_singleton.mp (show fragment ∈ [befriended] from listed)
    exact Generator.exists_part_iff.mpr ⟨exists_ok (by cbv), exists_ok (by cbv)⟩

/-- The settings that ask for inlined fragments. -/
def flatSettings : Settings :=
  { flattenGeneratedTypes := true }

/-- Below one pet the fragment is inlined, and its export is bound once. -/
theorem befriendedPets_flattened :
    Schema.pets.typeProblems = [] ∧ Schema.pets.resolutionProblem? = none ∧
    Document.Fit Schema.pets (FragmentTable.ofDocuments [] [befriendedPets ["first"]])
      [befriendedPets ["first"]] ∧
    (∃ generated, generateModule Schema.pets {} [befriendedPets ["first"]] [] = .ok generated) ∧
    (∀ operation ∈ (befriendedPets ["first"]).operations, operation.BindsOnce Schema.pets
      (FragmentTable.ofDocuments [] [befriendedPets ["first"]])) ∧
    ∃ flattened, generateModule Schema.pets flatSettings [befriendedPets ["first"]] []
      = .ok flattened := by
  have valid : Schema.pets.typeProblems = [] := by decide +kernel
  have resolved : Schema.pets.resolutionProblem? = none := by decide +kernel
  have fit : Document.Fit Schema.pets (FragmentTable.ofDocuments [] [befriendedPets ["first"]])
      [befriendedPets ["first"]] := fit_befriendedPets (by decide)
  have part : ∃ part, (petGenerator [] (befriendedPets ["first"])).Part "Query"
      (petsUnder ["first"] [.spread "Befriended" []]) part :=
    Generator.exists_part_iff.mpr ⟨exists_ok (by cbv), exists_ok (by decide +kernel)⟩
  obtain ⟨generated, succeeds⟩ := exists_module_befriendedPets part
  -- The three aliases of the export have distinct bindings, as computed from the inlined query.
  have once : ∀ operation ∈ (befriendedPets ["first"]).operations, operation.BindsOnce
      Schema.pets (FragmentTable.ofDocuments [] [befriendedPets ["first"]]) := by
    intro operation listed
    cases List.mem_singleton.mp (show operation ∈ [petsQuery ["first"] _] from listed)
    have optimizes : (petsQuery ["first"] [.spread "Befriended" []]).optimize
        (FragmentTable.ofDocuments [] [befriendedPets ["first"]])
          = .ok (inlinedPets ["first"]) := by cbv
    have bindings : (asked Schema.pets "Query" (inlinedPets ["first"]).selections).map binding =
        [("Friend", "Pet", "friend", "Pet"), ("Friend_Cat", "Pet", "friend", "Cat"),
          ("Friend_Dog", "Pet", "friend", "Dog")] := by cbv
    refine ⟨"Query", _, by decide, optimizes, ?_⟩
    rw [bindings]
    decide
  refine ⟨valid, resolved, fit, ⟨generated, succeeds⟩, once, ?_⟩
  refine (@flattening_succeeds_iff _ {} _ _ _ Schema.wellFormed_pets valid resolved fit
    (List.forall_mem_nil _) (List.forall_mem_nil _) succeeds).mpr ?_
  intro document given
  cases List.mem_singleton.mp given
  exact once

/-- The generator of the query with the fragment inlined below two pets. -/
def inlinedGenerator : Generator :=
  ⟨{ schema := Schema.pets, settings := flatSettings, fragments := [] },
    [⟨[.operation (inlinedPets ["first", "second"])]⟩]⟩

/-- Below two pets the fragment has a module, but its export is bound twice once it is inlined. -/
theorem befriendedPets_not_flattened :
    Document.Fit Schema.pets (FragmentTable.ofDocuments [] [befriendedPets ["first", "second"]])
      [befriendedPets ["first", "second"]] ∧
    (∃ generated, generateModule Schema.pets {} [befriendedPets ["first", "second"]] []
      = .ok generated) ∧
    Generator.create Schema.pets flatSettings [befriendedPets ["first", "second"]] []
      = .ok inlinedGenerator ∧
    ExportedAlias.collect Schema.pets "Query" (inlinedPets ["first", "second"]).selections
      = .error (.duplicateExport "Friend" "friend" "Pet") ∧
    ¬ ∃ flattened, generateModule Schema.pets flatSettings [befriendedPets ["first", "second"]] []
      = .ok flattened := by
  have created : Generator.create Schema.pets flatSettings [befriendedPets ["first", "second"]] []
      = .ok inlinedGenerator := by cbv
  have fails : ExportedAlias.collect Schema.pets "Query"
      (inlinedPets ["first", "second"]).selections
        = .error (.duplicateExport "Friend" "friend" "Pet") := by cbv
  refine ⟨fit_befriendedPets (by decide), exists_module_befriendedPets ?_, created, fails, ?_⟩
  · exact Generator.exists_part_iff.mpr ⟨exists_ok (by cbv), exists_ok (by decide +kernel)⟩
  · rintro ⟨flattened, succeeds⟩
    obtain ⟨generator, created', succeeds⟩ := generateModule_eq_ok.mp succeeds
    cases created.symm.trans created'
    obtain ⟨declarations, -, made, -⟩ := Generator.module_eq_ok.mp succeeds
    have source : Source Schema.pets inlinedGenerator.documents "Query"
        (inlinedPets ["first", "second"]).selections :=
      .operation (List.mem_singleton_self _) (List.mem_singleton_self _) (root?_pets.mpr rfl)
    -- A part of the query needs its exports to be collected.
    obtain ⟨part, -, _, _, aliases, _, _, -, collects, -⟩ :=
      Generator.exists_part_of_source made source
    cases fails.symm.trans collects

end SelectionTypes

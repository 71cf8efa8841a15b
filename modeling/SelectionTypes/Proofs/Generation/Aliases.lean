import Mathlib
import SelectionTypes.Proofs.Generation.Operations
import SelectionTypes.Proofs.Selection.OptimizedValidity

/-!
# `SelectionTypes.Proofs.Generation.Aliases`: no alias is left open

A part of a module declares the aliases of its own selections, and refers to those of the fragments
that it spreads. `declared_of_declarations` says when all of them are `declared`: each selection of
the documents fits the schema and spreads `tended` fragments, and a tended fragment is one of the
documents or has only exports of declared names.

In a module that stands alone every alias is declared by the module itself: `declared_in_module`.
That is so if the documents define what they spread, or if fragments are inlined first. Inlined
documents have no fragments, and their operations fit the schema as the ones before do
(`source_of_optimizeAll`).
-/

set_option autoImplicit false

namespace SelectionTypes

open Outcome
open TypeScript (TypeExpr Declaration)
open Selection (Tended WellTyped FieldsAgree)

/-- A fragment of the table is one of the documents or an external one. -/
theorem source_or_external_of_mem (schema : Schema) {external : List LoadedFragment}
    {documents : List Document} {loaded : LoadedFragment}
    (listed : loaded ∈ FragmentTable.ofDocuments external documents) :
    loaded.isExternal = false ∧
        Source schema documents loaded.fragment.onType loaded.fragment.selections ∨
      loaded ∈ external := by
  rcases FragmentTable.mem_of_mem_ofDocuments listed with isExternal | ⟨document, given, own⟩
  · exact .inr isExternal
  · obtain ⟨fragment, isFragment, rfl⟩ := List.mem_map.mp own
    exact .inl ⟨rfl, .fragment given isFragment⟩

/-- A fragment that is found is one of the documents or an external one. -/
theorem source_or_mem_external (schema : Schema) {external : List LoadedFragment}
    {documents : List Document} {name : String} {loaded : LoadedFragment}
    (found : (FragmentTable.ofDocuments external documents).get? name = some loaded) :
    loaded.isExternal = false ∧
        Source schema documents loaded.fragment.onType loaded.fragment.selections ∨
      loaded ∈ external :=
  source_or_external_of_mem schema (List.mem_of_find?_eq_some found)

/-- Documents whose selections fit a schema, where their spreads are looked up in a table. -/
structure Document.Fit (schema : Schema) (table : FragmentTable) (documents : List Document) :
    Prop where
  typed : ∀ parent selections, Source schema documents parent selections →
    WellTyped schema parent selections
  agree : ∀ parent selections, Source schema documents parent selections →
    FieldsAgree table selections

/-! ### Parts of a module -/

namespace Generator

variable {generator : Generator} {unnamed : Nat} {declarations part : List Declaration}
variable {parent : String} {selections : List Selection} {declared tended : String → Prop}

/-- The aliases that a part collects are among those that it declares. -/
private theorem declared_of_collected {aliases : List ExportedAlias} {exported : List Declaration}
    (declares : ExportedAlias.declare generator.scope aliases = .ok exported)
    (contained : exported ⊆ part)
    (names : ∀ name shapes, .intersection name shapes ∈ part → declared name) :
    ∀ added ∈ aliases, declared added.name := by
  intro added listed
  obtain ⟨shapes, inside⟩ := ExportedAlias.exists_declaration_of_declare declares listed
  exact names added.name shapes (contained inside)

/-- The selections of a part are tended for the names that the part declares. -/
theorem tended_of_part (isPart : generator.Part parent selections part)
    (typed : WellTyped generator.scope.schema parent selections)
    (spreads : ∀ name ∈ Selection.spreadsOf selections, tended name)
    (names : ∀ name shapes, .intersection name shapes ∈ part → declared name) :
    Tended generator.scope.schema declared tended parent selections := by
  obtain ⟨name, before, aliases, type, exported, -, collects, -, declares, rfl⟩ := isPart
  exact (ExportedAlias.gathers_of_collect collects).tends typed spreads
    (declared_of_collected declares (by simp) names)

/-- A part with tended selections refers to declared names alone. -/
theorem declared_of_part (wellFormed : generator.scope.schema.WellFormed)
    (valid : generator.scope.schema.typeProblems = [])
    (fragments : ∀ name loaded, tended name → generator.scope.fragments.get? name = some loaded →
      Tended generator.scope.schema declared tended loaded.fragment.onType
        loaded.fragment.selections)
    (isPart : generator.Part parent selections part)
    (tends : Tended generator.scope.schema declared tended parent selections)
    (agree : FieldsAgree generator.scope.fragments selections)
    (names : ∀ name shapes, .intersection name shapes ∈ part → declared name) :
    ∀ declaration ∈ part, ∀ name ∈ declaration.aliases, declared name := by
  obtain ⟨name, before, aliases, type, exported, plain, collects, typed, declares, rfl⟩ := isPart
  have aliasNames : ∀ added ∈ aliases, declared added.name :=
    declared_of_collected declares (by simp) names
  intro declaration listed referenced inside
  rcases List.mem_append.mp listed with listed | listed
  · rw [plain declaration listed] at inside
    cases inside
  rcases List.mem_cons.mp listed with rfl | listed
  · -- The type of the selections.
    rw [Declaration.aliases] at inside
    exact SelectionScope.declared_of_typeWithin wellFormed valid fragments _ tends.covered agree
      typed referenced inside
  · -- The shape of an alias, which is backed since it was collected here.
    obtain ⟨added, isAlias, shape, isShape, own⟩ :=
      ExportedAlias.exists_alias_of_declare declares listed inside
    rcases (ExportedAlias.gathers_of_collect collects).backed wellFormed valid tends agree
      aliasNames added isAlias with earlier | backed
    · cases earlier
    · exact ExportedAlias.declared_of_shape wellFormed valid fragments backed isShape referenced own

/-- A module refers to declared names alone, if these include the aliases that it declares and if
each fragment that it spreads is tended. -/
theorem declared_of_declarations (declared tended : String → Prop)
    (wellFormed : generator.scope.schema.WellFormed)
    (valid : generator.scope.schema.typeProblems = [])
    (fit : Document.Fit generator.scope.schema generator.scope.fragments generator.documents)
    (spreads : ∀ parent selections, Source generator.scope.schema generator.documents parent
      selections → ∀ name ∈ Selection.spreadsOf selections, tended name)
    (fragments : ∀ name loaded, tended name → generator.scope.fragments.get? name = some loaded →
      Source generator.scope.schema generator.documents loaded.fragment.onType
          loaded.fragment.selections ∨
        Tended generator.scope.schema declared tended loaded.fragment.onType
          loaded.fragment.selections)
    (succeeds : generator.declarations unnamed = .ok declarations)
    (names : ∀ name shapes, .intersection name shapes ∈ declarations → declared name) :
    ∀ declaration ∈ declarations, ∀ name ∈ declaration.aliases, declared name := by
  -- Each operation and each fragment declares its own exports, so all of them are tended.
  have sources : ∀ parent selections,
      Source generator.scope.schema generator.documents parent selections →
      Tended generator.scope.schema declared tended parent selections := by
    intro parent selections source
    obtain ⟨part, contained, isPart⟩ := exists_part_of_source succeeds source
    exact tended_of_part isPart (fit.typed parent selections source)
      (spreads parent selections source)
      fun name shapes inside => names name shapes (contained inside)
  intro declaration listed name inside
  obtain ⟨parent, selections, part, source, contained, isPart, inPart⟩ :=
    source_of_mem succeeds listed (List.ne_nil_of_mem inside)
  refine declared_of_part wellFormed valid (fun name loaded tends found => ?_) isPart
    (sources parent selections source) (fit.agree parent selections source)
    (fun name shapes inside => names name shapes (contained inside)) declaration inPart name inside
  exact (fragments name loaded tends found).elim (sources _ _) id

end Generator

/-! ### Inlined documents -/

variable {schema : Schema} {settings : Settings} {documents optimized : List Document}
variable {external : List LoadedFragment} {generator : Generator} {unnamed : Nat}
variable {parent : String} {selections : List Selection}

/-- Optimized documents have the optimized operations, document by document, and no fragments. -/
theorem optimizeAll_eq_ok (optimizes : Document.optimizeAll documents external = .ok optimized) :
    List.Forall₂ (fun document other =>
      List.Forall₂ (fun operation result =>
          operation.optimize (FragmentTable.ofDocuments external documents) = .ok result)
        document.operations other.operations ∧ other.fragments = []) documents optimized :=
  (mapM_eq_ok.mp optimizes).imp fun _ _ => Document.optimize_eq_ok

/-- Documents are optimized if each of their operations is. -/
theorem exists_optimizeAll (optimizes : ∀ document ∈ documents, ∀ operation ∈ document.operations,
      ∃ optimized, operation.optimize (FragmentTable.ofDocuments external documents)
        = .ok optimized) :
    ∃ optimized, Document.optimizeAll documents external = .ok optimized := by
  refine exists_mapM fun document given => ?_
  obtain ⟨operations, traversed⟩ := exists_mapM (optimizes document given)
  exact ⟨_, bind_eq_ok.mpr ⟨operations, traversed, rfl⟩⟩

/-- Optimized documents have no fragments. -/
theorem fragments_of_optimizeAll
    (optimizes : Document.optimizeAll documents external = .ok optimized) :
    ∀ document ∈ optimized, document.fragments = [] := by
  intro document given
  obtain ⟨_, -, -, none⟩ := Lists.exists_of_mem_right (optimizeAll_eq_ok optimizes) given
  exact none

/-- The selections of optimized documents are those of operations, inlined and merged. -/
theorem source_of_optimizeAll (optimizes : Document.optimizeAll documents external = .ok optimized)
    (source : Source schema optimized parent selections) :
    ∃ original inlined, Source schema documents parent original ∧
      Selection.inline (FragmentTable.ofDocuments external documents) original = .ok inlined ∧
      selections = Selection.merge inlined := by
  cases source with
  -- An optimized operation is the merge of what the inlining of one operation gives. Fragments are
  -- left out.
  | @operation _ operation _ given listed isRoot =>
    obtain ⟨document, isDocument, operations, -⟩ :=
      Lists.exists_of_mem_right (optimizeAll_eq_ok optimizes) given
    obtain ⟨original, isOriginal, optimizesOne⟩ := Lists.exists_of_mem_right operations listed
    obtain ⟨inlined, inlines, assembled⟩ := bind_eq_ok.mp optimizesOne
    cases assembled
    exact ⟨original.selections, inlined, .operation isDocument isOriginal isRoot, inlines, rfl⟩
  | fragment given listed =>
    rw [fragments_of_optimizeAll optimizes _ given] at listed
    cases listed

/-- The fragments that can be spread are well-typed if the documents fit the schema and the external
fragments are well-typed. -/
theorem Document.Fit.wellTyped_of_mem {table : FragmentTable}
    (fit : Document.Fit schema table documents)
    (externalTyped : ∀ loaded ∈ external,
      WellTyped schema loaded.fragment.onType loaded.fragment.selections) :
    ∀ loaded ∈ FragmentTable.ofDocuments external documents,
      WellTyped schema loaded.fragment.onType loaded.fragment.selections := by
  intro loaded listed
  rcases source_or_external_of_mem schema listed with ⟨-, source⟩ | isExternal
  · exact fit.typed _ _ source
  · exact externalTyped loaded isExternal

/-- Optimized documents fit the schema if the documents and the external fragments do, and they
spread nothing. -/
theorem fit_of_optimizeAll (others : FragmentTable)
    (fit : Document.Fit schema (FragmentTable.ofDocuments external documents) documents)
    (externalTyped : ∀ loaded ∈ external,
      WellTyped schema loaded.fragment.onType loaded.fragment.selections)
    (optimizes : Document.optimizeAll documents external = .ok optimized) :
    Document.Fit schema others optimized ∧ ∀ parent selections,
      Source schema optimized parent selections → Selection.spreadsOf selections = [] := by
  refine ⟨⟨fun parent selections source => ?_, fun parent selections source => ?_⟩,
    fun parent selections source => ?_⟩
  -- Inlining comes first, and merging needs the fields to agree after it.
  all_goals
    obtain ⟨original, inlined, isSource, inlines, rfl⟩ := source_of_optimizeAll optimizes source
    have agree : FieldsAgree others inlined := (fit.agree parent original isSource).inline inlines
  · have typed := fit.typed parent original isSource
    exact (typed.inline (fit.wellTyped_of_mem externalTyped) inlines).merge agree
  · exact agree.merge (Selection.spreadsOf_inlineWithin inlines)
  · exact Selection.spreadsOf_merge (Selection.spreadsOf_inlineWithin inlines)

/-! ### Modules that stand alone -/

/-- In a module whose documents spread only fragments that they define, or whose fragments are
inlined, each alias that a declaration refers to is declared. -/
theorem declared_in_module {generated : GeneratedModule} (wellFormed : schema.WellFormed)
    (valid : schema.typeProblems = [])
    (fit : Document.Fit schema (FragmentTable.ofDocuments external documents) documents)
    (externalTyped : ∀ loaded ∈ external,
      WellTyped schema loaded.fragment.onType loaded.fragment.selections)
    (closed : settings.flattenGeneratedTypes = true ∨
      ∀ parent selections, Source schema documents parent selections →
        ∀ name ∈ Selection.spreadsOf selections,
          ∃ document ∈ documents, ∃ fragment ∈ document.fragments, fragment.name = name)
    (created : Generator.create schema settings documents external = .ok generator)
    (succeeds : (generator.module unnamed).1 = .ok generated) :
    ∃ declarations, generator.declarations unnamed = .ok declarations ∧
      generated.module.content = TypeScript.renderAll settings declarations ∧
      ∀ declaration ∈ declarations, ∀ name ∈ declaration.aliases,
        ∃ shapes, Declaration.intersection name shapes ∈ declarations := by
  obtain ⟨written, isWritten, rfl⟩ := Generator.create_eq_ok.mp created
  obtain ⟨declarations, imports, made, -, content, -⟩ := Generator.module_eq_ok.mp succeeds
  refine ⟨declarations, made, content, ?_⟩
  let table := FragmentTable.ofDocuments external written
  -- What is read fits the schema and spreads only fragments of the documents that are read.
  have read : Document.Fit schema table written ∧ ∀ parent selections,
      Source schema written parent selections → ∀ name ∈ Selection.spreadsOf selections,
        ∃ document ∈ written, ∃ fragment ∈ document.fragments, fragment.name = name := by
    by_cases flattens : settings.flattenGeneratedTypes = true
    · rw [if_pos flattens] at isWritten
      obtain ⟨fitWritten, free⟩ := fit_of_optimizeAll table fit externalTyped isWritten
      refine ⟨fitWritten, fun parent selections source => ?_⟩
      rw [free parent selections source]
      exact List.forall_mem_nil _
    · rw [if_neg flattens] at isWritten
      cases isWritten
      exact ⟨fit, closed.resolve_left flattens⟩
  refine @Generator.declared_of_declarations ⟨{ schema, settings, fragments := table }, written⟩
    unnamed declarations (fun name => ∃ shapes, Declaration.intersection name shapes ∈ declarations)
    (fun name => ∃ document ∈ written, ∃ fragment ∈ document.fragments, fragment.name = name)
    wellFormed valid read.1 read.2 ?_ made fun name shapes inside => ⟨shapes, inside⟩
  rintro name loaded ⟨document, given, fragment, listed, rfl⟩ found
  obtain ⟨document', given', own⟩ := FragmentTable.get?_ofDocuments given listed found
  obtain ⟨fragment', listed', rfl⟩ := List.mem_map.mp own
  exact .inl (.fragment given' listed')

/-! ### A document about pets -/

/-- A document with a query for a pet, on which fragments are spread, and with fragments. -/
def petDocument (spreads : List String) (fragments : List Fragment) : Document :=
  let spread : List Selection := spreads.map fun name => .spread name []
  let query : Operation := ⟨.query, none, [], [], [.field ⟨none, "pet", [], []⟩ spread]⟩
  ⟨.operation query :: fragments.map .fragment⟩

/-- A fragment on pets that exports the friend of a pet. -/
def befriended : Fragment :=
  let directive : Directive := ⟨"export", [⟨"exportName", .string "Friend" false, 0⟩], 0⟩
  ⟨"Befriended", "Pet", [],
    [.field ⟨none, "friend", [], [directive]⟩ [.field ⟨none, "name", [], []⟩ []]]⟩

/-- Queries for pets are read on the type `Query` and on no other. -/
theorem root?_pets {root : String} : Schema.pets.root? .query = some root ↔ root = "Query" := by
  have isRoot : Schema.pets.root? .query = some "Query" := by decide
  rw [isRoot, Option.some.injEq, eq_comm]

/-- The document has the selections of its query and those of its fragments. -/
theorem source_petDocument {spreads : List String} {fragments : List Fragment} :
    Source Schema.pets [petDocument spreads fragments] parent selections ↔
      (parent = "Query" ∧ selections = [.field ⟨none, "pet", [], []⟩
          (spreads.map fun name => .spread name [])]) ∨
        ∃ fragment ∈ fragments, parent = fragment.onType ∧ selections = fragment.selections := by
  have operations : (petDocument spreads fragments).operations = [⟨.query, none, [], [],
      [.field ⟨none, "pet", [], []⟩ (spreads.map fun name => .spread name [])]⟩] := by
    simp [petDocument, Document.operations, List.filterMap_map]
  have own : (petDocument spreads fragments).fragments = fragments := by
    simp [petDocument, Document.fragments, List.filterMap_map]
  rw [Source.singleton_iff, operations, own]
  simp [root?_pets]

/-- The document fits the schema if its fragments do and no field has an alias. -/
theorem fit_petDocument {table : FragmentTable} (spreads : List String) {fragments : List Fragment}
    (typed : ∀ fragment ∈ fragments, WellTyped Schema.pets fragment.onType fragment.selections)
    (unaliased : ∀ fragment ∈ fragments, ∀ head ∈ Selection.headsOf fragment.selections,
      head.aliasName = none)
    (unaliasedTable : ∀ loaded ∈ table, ∀ head ∈ Selection.headsOf loaded.fragment.selections,
      head.aliasName = none) :
    Document.Fit Schema.pets table [petDocument spreads fragments] where
  typed := by
    intro parent selections source
    rcases source_petDocument.mp source with ⟨rfl, rfl⟩ | ⟨fragment, listed, rfl, rfl⟩
    · have pet : ExportedAlias.fieldType? Schema.pets "Query" "pet" = some (.named "Pet") := rfl
      -- Spreads are well-typed on any type, however many there are.
      have below : WellTyped Schema.pets "Pet" (spreads.map fun name => .spread name []) := by
        clear source
        induction spreads with
        | nil => simp [WellTyped]
        | cons name rest ih => simpa [WellTyped] using ih
      simp [WellTyped, pet, TypeRef.base, below]
    · exact typed fragment listed
  agree := by
    intro parent selections source
    rcases source_petDocument.mp source with ⟨rfl, rfl⟩ | ⟨fragment, listed, rfl, rfl⟩
    · have below : Selection.headsOf (spreads.map fun name => .spread name []) = [] := by
        clear source
        induction spreads with
        | nil => simp [Selection.headsOf]
        | cons name rest ih => simpa [Selection.headsOf] using ih
      refine Selection.fieldsAgree_of_unaliased ?_ unaliasedTable
      simp [Selection.headsOf, below]
    · exact Selection.fieldsAgree_of_unaliased (unaliased fragment listed) unaliasedTable

/-- The generator of a document about pets. -/
def petGenerator (external : List LoadedFragment) (document : Document) : Generator where
  scope :=
    { schema := Schema.pets, settings := {},
      fragments := FragmentTable.ofDocuments external [document] }
  documents := [document]

/-- This is the generator that is created for the document. -/
theorem create_petGenerator (external : List LoadedFragment) (document : Document) :
    Generator.create Schema.pets {} [document] external = .ok (petGenerator external document) :=
  rfl

/-- The document has declarations if its query and its fragments have parts, since the query has no
variables. -/
theorem exists_declarations_petGenerator {external : List LoadedFragment} {spreads : List String}
    {fragments : List Fragment}
    (parts : ∀ parent selections, Source Schema.pets [petDocument spreads fragments] parent
      selections → ∃ part, (petGenerator external (petDocument spreads fragments)).Part parent
        selections part) :
    ∃ declarations, (petGenerator external (petDocument spreads fragments)).declarations 0
      = .ok declarations := by
  -- No type is needed for variables, the query has a part on its root, and so has each fragment.
  refine Generator.exists_declarations 0 ?_ (fun operation listed => ?_) fun fragment listed => ?_
  · have none : Document.variableTypeNames [petDocument spreads fragments] = [] := by
      simp [Document.variableTypeNames, petDocument, Document.operations, List.filterMap_map]
    unfold Generator.supporting
    show ∃ supporting, Scope.supportingDeclarations _
      (Document.variableTypeNames [petDocument spreads fragments]) = .ok supporting
    rw [none]
    have needed : (Scope.supportingDeclarations { schema := Schema.pets, settings := {} }
      []).toBool = true := by decide +kernel
    exact exists_ok needed
  · obtain ⟨document, given, own⟩ := List.mem_flatMap.mp listed
    cases List.mem_singleton.mp given
    have isQuery : operation.kind = .query := by
      simp [petDocument, Document.operations, List.filterMap_map] at own
      rw [own]
    have isRoot : Schema.pets.root? operation.kind = some "Query" := by
      rw [isQuery, root?_pets]
    obtain ⟨part, isPart⟩ := parts _ _ (.operation (List.mem_singleton_self _) own isRoot)
    exact ⟨"Query", part, isRoot, isPart⟩
  · obtain ⟨document, given, own⟩ := List.mem_flatMap.mp listed
    exact parts _ _ (.fragment given own)

/-- The fragment asks pets for a friend and the friend for a name, which pets have. -/
theorem wellTyped_befriended :
    WellTyped Schema.pets befriended.onType befriended.selections := by
  have friend : ExportedAlias.fieldType? Schema.pets "Pet" "friend" = some (.named "Pet") := rfl
  have name : ExportedAlias.fieldType? Schema.pets "Pet" "name" = some (.named "String") := rfl
  simp [befriended, WellTyped, friend, name, TypeRef.base]

/-- No field of the fragment has a key other than its name. -/
theorem unaliased_befriended :
    ∀ head ∈ Selection.headsOf befriended.selections, head.aliasName = none := by
  simp [befriended, Selection.headsOf]

/-- The friend of a pet is an alias that is declared beside the query and the fragment. -/
theorem declared_in_befriended :
    Schema.pets.typeProblems = [] ∧
    Document.Fit Schema.pets
      (FragmentTable.ofDocuments [] [petDocument ["Befriended"] [befriended]])
      [petDocument ["Befriended"] [befriended]] ∧
    ∃ generator generated declarations,
      Generator.create Schema.pets {} [petDocument ["Befriended"] [befriended]] []
        = .ok generator ∧
      (generator.module 0).1 = .ok generated ∧ generator.declarations 0 = .ok declarations ∧
      generated.module.content = TypeScript.renderAll {} declarations ∧
      ∀ declaration ∈ declarations, ∀ name ∈ declaration.aliases,
        ∃ shapes, Declaration.intersection name shapes ∈ declarations := by
  have valid : Schema.pets.typeProblems = [] := by decide +kernel
  have fit : Document.Fit Schema.pets
      (FragmentTable.ofDocuments [] [petDocument ["Befriended"] [befriended]])
      [petDocument ["Befriended"] [befriended]] := by
    show Document.Fit Schema.pets [⟨befriended, false, none⟩] _
    exact fit_petDocument ["Befriended"] (by simpa using wellTyped_befriended)
      (by simpa using unaliased_befriended) (by simpa using unaliased_befriended)
  let generator := petGenerator [] (petDocument ["Befriended"] [befriended])
  -- Each part is made: there is a type, and the aliases can be declared.
  have parts : ∀ parent selections,
      Source Schema.pets [petDocument ["Befriended"] [befriended]] parent selections →
      ∃ part, generator.Part parent selections part := by
    intro parent selections source
    rw [Generator.exists_part_iff]
    rcases source_petDocument.mp source with ⟨rfl, rfl⟩ | ⟨fragment, listed, rfl, rfl⟩
    · exact ⟨exists_ok (by cbv), exists_ok (by decide +kernel)⟩
    · cases List.mem_singleton.mp listed
      exact ⟨exists_ok (by cbv), exists_ok (by cbv)⟩
  obtain ⟨declarations, made⟩ := exists_declarations_petGenerator parts
  have imports : generator.fragmentImports = .ok [] := rfl
  obtain ⟨generated, succeeds⟩ := Generator.exists_module made imports
  have closed : ∀ parent selections,
      Source Schema.pets [petDocument ["Befriended"] [befriended]] parent selections →
      ∀ name ∈ Selection.spreadsOf selections,
        ∃ document ∈ [petDocument ["Befriended"] [befriended]],
          ∃ fragment ∈ document.fragments, fragment.name = name := by
    intro parent selections source name inside
    refine ⟨_, List.mem_singleton_self _, befriended, List.mem_singleton_self _, ?_⟩
    rcases source_petDocument.mp source with ⟨-, rfl⟩ | ⟨fragment, listed, -, rfl⟩
    · simpa [Selection.spreadsOf, befriended, eq_comm] using inside
    · cases List.mem_singleton.mp listed
      simp [befriended, Selection.spreadsOf] at inside
  have created := create_petGenerator [] (petDocument ["Befriended"] [befriended])
  obtain ⟨declarations', made', content, each⟩ :=
    declared_in_module Schema.wellFormed_pets valid fit (List.forall_mem_nil _) (.inr closed)
      created succeeds
  exact ⟨valid, fit, generator, generated, declarations', created, succeeds, made', content, each⟩

end SelectionTypes

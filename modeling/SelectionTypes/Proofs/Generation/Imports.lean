import SelectionTypes.Proofs.Generation.Aliases

/-!
# `SelectionTypes.Proofs.Generation.Imports`: aliases of fragments that are generated elsewhere

Types are read through all spreads, so a module refers to the exports of each external fragment that
its documents reach (`Generator.Reaches`). It imports the fragments that its documents spread
themselves, with the aliases that are collected in each (`mem_fragmentImports`).

The two meet if the documents themselves spread each external fragment that they reach. Then every
alias of the module is declared or imported, as `declared_or_imported` says, together with what is
imported in any case. If an external fragment is reached through another one alone, then its aliases
are missing: `not_imported_befriended`.
-/

set_option autoImplicit false

namespace SelectionTypes

open Outcome
open TypeScript (TypeExpr Declaration)
open Selection (Tended WellTyped FieldsAgree)

/-- The selections of a document are those of its operations and of its fragments. -/
theorem Document.mem_selectionSets {document : Document} {selections : List Selection} :
    selections ∈ document.selectionSets ↔
      (∃ operation ∈ document.operations, operation.selections = selections) ∨
        ∃ fragment ∈ document.fragments, fragment.selections = selections := by
  simp only [selectionSets, operations, fragments, List.mem_filterMap]
  constructor
  · rintro ⟨definition, listed, same⟩
    cases definition with
    | operation operation =>
      exact .inl ⟨operation, ⟨_, listed, rfl⟩, Option.some.inj same⟩
    | fragment fragment =>
      exact .inr ⟨fragment, ⟨_, listed, rfl⟩, Option.some.inj same⟩
    | _ => cases same
  · rintro (⟨_, ⟨definition, listed, same⟩, rfl⟩ | ⟨_, ⟨definition, listed, same⟩, rfl⟩) <;>
      refine ⟨definition, listed, ?_⟩ <;> split at same <;> cases same <;> rfl

/-- A name that is imported. -/
def Imported (imports : List TypeImport) (name : String) : Prop :=
  ∃ imported ∈ imports, name ∈ imported.identifiers

namespace Generator

variable {generator : Generator} {imports : List TypeImport} {loaded : LoadedFragment}

/-- The names of the fragments that documents reach: those that they spread, and those that a
reached fragment spreads. -/
inductive Reaches (generator : Generator) : String → Prop
  | direct {parent name : String} {selections : List Selection}
      (source : Source generator.scope.schema generator.documents parent selections)
      (listed : name ∈ Selection.spreadsOf selections) : Reaches generator name
  | through {name other : String} {loaded : LoadedFragment} (reached : Reaches generator other)
      (found : generator.scope.fragments.get? other = some loaded)
      (listed : name ∈ Selection.spreadsOf loaded.fragment.selections) : Reaches generator name

/-- A name under which an external fragment that the documents reach exports a field. -/
def ExportedOutside (generator : Generator) (exportName : String) : Prop :=
  ∃ name loaded, generator.Reaches name ∧ generator.scope.fragments.get? name = some loaded ∧
    loaded.isExternal = true ∧
    ∃ head ∈ Selection.headsOf loaded.fragment.selections, head.exportName = .ok exportName

/-- A name among the types of an external fragment that the documents spread themselves, and that
has a place to be imported from. -/
def Offers (generator : Generator) (name : String) : Prop :=
  ∃ loaded ∈ generator.scope.fragments, loaded.isExternal = true ∧
    loaded.name ∈ generator.foreignSpreads ∧
    (∃ path, loaded.importFrom = some path ∧ path ≠ "") ∧
    ∃ types, generator.importedTypes loaded = .ok types ∧ name ∈ types

/-- Each external fragment that the documents reach is spread by the documents themselves. -/
def SpreadsDirectly (generator : Generator) : Prop :=
  ∀ name loaded, generator.Reaches name → generator.scope.fragments.get? name = some loaded →
    loaded.isExternal = true → ∃ parent selections,
      Source generator.scope.schema generator.documents parent selections ∧
        name ∈ Selection.spreadsOf selections

/-- A fragment is imported if it is external, spread by the documents, and has a place. -/
theorem importPath?_eq_some {spreads : List String} {path : String} :
    importPath? spreads loaded = some path ↔
      loaded.isExternal = true ∧ loaded.name ∈ spreads ∧ loaded.importFrom = some path ∧
        path ≠ "" := by
  unfold importPath?
  split
  · next both =>
    rw [Bool.and_eq_true, List.contains_iff_mem] at both
    simp [Option.filter_eq_some_iff, both]
  · next neither =>
    rw [Bool.and_eq_true, List.contains_iff_mem] at neither
    simp only [reduceCtorEq, false_iff]
    exact fun ⟨external, spread, _⟩ => neither ⟨external, spread⟩

/-- The types of a fragment are its own and those of the aliases that are collected in it. -/
theorem importedTypes_eq_ok {types : List String} :
    generator.importedTypes loaded = .ok types ↔
      ∃ aliases, ExportedAlias.collect generator.scope.schema loaded.fragment.onType
          loaded.fragment.selections = .ok aliases ∧
        types = generator.settings.fragmentTypeName loaded.name
          :: aliases.map ExportedAlias.name := by
  unfold importedTypes
  rw [bind_eq_ok]
  simp [pure, Except.pure, eq_comm]

/-- The fragments that are imported, each with its path. -/
def placedFragments (generator : Generator) : List (String × LoadedFragment) :=
  generator.scope.fragments.filterMap fun loaded =>
    (importPath? generator.foreignSpreads loaded).map fun path => (path, loaded)

/-- A fragment is placed under a path if it is in the table and is to be imported from there. -/
theorem mem_placedFragments {path : String} :
    (path, loaded) ∈ generator.placedFragments ↔
      loaded ∈ generator.scope.fragments ∧
        importPath? generator.foreignSpreads loaded = some path := by
  simp only [placedFragments, List.mem_filterMap, Option.map_eq_some_iff, Prod.mk.injEq]
  constructor
  · rintro ⟨_, listed, _, isPath, rfl, rfl⟩
    exact ⟨listed, isPath⟩
  · rintro ⟨listed, isPath⟩
    exact ⟨loaded, listed, path, isPath, rfl, rfl⟩

/-- The imports of entries, one for each path. -/
def groupedImports (entries : List (String × List String)) : List TypeImport :=
  (entries.map Prod.fst).eraseDups.map fun path =>
    ⟨path, ((entries.filter fun entry => entry.1 == path).flatMap Prod.snd).eraseDups⟩

/-- Imports of fragments are the types of each placed fragment, grouped by the paths. -/
theorem fragmentImports_eq_ok :
    generator.fragmentImports = .ok imports ↔
      ∃ entries, List.Forall₂ (fun placed entry => placed.1 = entry.1 ∧
          generator.importedTypes placed.2 = .ok entry.2) generator.placedFragments entries ∧
        imports = groupedImports entries := by
  -- One step of the loop only pairs the types with the path.
  have entryOf : ∀ (placed : String × LoadedFragment) (entry : String × List String),
      (do return (placed.1, ← generator.importedTypes placed.2)) = Except.ok entry ↔
        placed.1 = entry.1 ∧ generator.importedTypes placed.2 = .ok entry.2 := by
    rintro placed ⟨path, types⟩
    rw [bind_eq_ok]
    simp [pure, Except.pure, and_comm]
  unfold fragmentImports
  rw [bind_eq_ok]
  refine exists_congr fun entries => ?_
  rw [mapM_eq_ok]
  simp only [entryOf]
  exact and_congr_right fun _ => ⟨fun same => by cases same; rfl, fun same => by rw [same]; rfl⟩

/-- Grouping by path keeps the names. -/
theorem imported_groupedImports {entries : List (String × List String)} {name : String} :
    Imported (groupedImports entries) name ↔ ∃ entry ∈ entries, name ∈ entry.2 := by
  simp only [Imported, groupedImports, List.mem_map, List.mem_eraseDups, exists_exists_and_eq_and,
    List.mem_flatMap, List.mem_filter]
  constructor
  · rintro ⟨_, -, entry, ⟨listed, -⟩, inside⟩
    exact ⟨entry, listed, inside⟩
  · rintro ⟨entry, listed, inside⟩
    exact ⟨entry, listed, entry, ⟨listed, beq_self_eq_true entry.1⟩, inside⟩

/-- An import has a fragment with its path, and each of its names is a type of a fragment with its
path. -/
theorem exists_of_mem_fragmentImports (succeeds : generator.fragmentImports = .ok imports)
    {entry : TypeImport} (listed : entry ∈ imports) :
    (∃ loaded, (entry.path, loaded) ∈ generator.placedFragments) ∧
      ∀ name ∈ entry.identifiers, ∃ loaded types,
        (entry.path, loaded) ∈ generator.placedFragments ∧
          generator.importedTypes loaded = .ok types ∧ name ∈ types := by
  obtain ⟨entries, each, rfl⟩ := fragmentImports_eq_ok.mp succeeds
  obtain ⟨path, isPath, rfl⟩ := List.mem_map.mp listed
  -- Each group of types goes back to the fragment that has them.
  have source (group : String × List String) (isGroup : group ∈ entries) :
      ∃ loaded, (group.1, loaded) ∈ generator.placedFragments ∧
        generator.importedTypes loaded = .ok group.2 := by
    obtain ⟨⟨path, loaded⟩, isPlaced, same, isTypes⟩ := Lists.exists_of_mem_right each isGroup
    dsimp only at same
    rw [← same]
    exact ⟨loaded, isPlaced, isTypes⟩
  constructor
  · obtain ⟨group, isGroup, rfl⟩ := List.mem_map.mp (List.mem_eraseDups.mp isPath)
    obtain ⟨loaded, isPlaced, -⟩ := source group isGroup
    exact ⟨loaded, isPlaced⟩
  · intro name inside
    obtain ⟨group, isGroup, own⟩ := List.mem_flatMap.mp (List.mem_eraseDups.mp inside)
    obtain ⟨isGroup, same⟩ := List.mem_filter.mp isGroup
    obtain ⟨loaded, isPlaced, isTypes⟩ := source group isGroup
    rw [eq_of_beq same] at isPlaced
    exact ⟨loaded, group.2, isPlaced, isTypes, own⟩

/-- Each imported fragment has types. -/
theorem exists_importedTypes (succeeds : generator.fragmentImports = .ok imports)
    (listed : loaded ∈ generator.scope.fragments) {path : String}
    (isPath : importPath? generator.foreignSpreads loaded = some path) :
    ∃ types, generator.importedTypes loaded = .ok types := by
  obtain ⟨entries, each, -⟩ := fragmentImports_eq_ok.mp succeeds
  obtain ⟨entry, -, -, isTypes⟩ :=
    Lists.exists_of_mem_left each (mem_placedFragments.mpr ⟨listed, isPath⟩)
  exact ⟨entry.2, isTypes⟩

/-- What is imported are the types of the imported fragments. -/
theorem mem_fragmentImports (succeeds : generator.fragmentImports = .ok imports) (name : String) :
    Imported imports name ↔ generator.Offers name := by
  obtain ⟨entries, each, rfl⟩ := fragmentImports_eq_ok.mp succeeds
  -- Grouping by paths neither adds a name nor takes one away.
  rw [imported_groupedImports]
  constructor
  · rintro ⟨entry, isEntry, inside⟩
    obtain ⟨⟨path, loaded⟩, isPlaced, -, isTypes⟩ := Lists.exists_of_mem_right each isEntry
    obtain ⟨listed, isPath⟩ := mem_placedFragments.mp isPlaced
    obtain ⟨isExternal, spread, place⟩ := importPath?_eq_some.mp isPath
    exact ⟨loaded, listed, isExternal, spread, ⟨path, place⟩, entry.2, isTypes, inside⟩
  · rintro ⟨loaded, listed, isExternal, spread, ⟨path, place⟩, types, isTypes, inside⟩
    have isPath := importPath?_eq_some.mpr ⟨isExternal, spread, place⟩
    obtain ⟨entry, isEntry, -, isTypes'⟩ :=
      Lists.exists_of_mem_left each (mem_placedFragments.mpr ⟨listed, isPath⟩)
    cases isTypes.symm.trans isTypes'
    exact ⟨entry, isEntry, inside⟩

/-- The imports are made if all aliases of fragments can be collected. -/
theorem exists_fragmentImports (each : ∀ loaded ∈ generator.scope.fragments, ∃ aliases,
      ExportedAlias.collect generator.scope.schema loaded.fragment.onType
        loaded.fragment.selections = .ok aliases) :
    ∃ imports, generator.fragmentImports = .ok imports := by
  unfold fragmentImports
  refine (exists_mapM fun placed isPlaced => ?_).elim fun entries traversed =>
    ⟨_, bind_eq_ok.mpr ⟨entries, traversed, rfl⟩⟩
  obtain ⟨aliases, collects⟩ := each placed.2 (mem_placedFragments.mp isPlaced).1
  exact ⟨_, bind_eq_ok.mpr ⟨_, importedTypes_eq_ok.mpr ⟨aliases, collects, rfl⟩, rfl⟩⟩

/-- What the selections of the documents spread is spread by one of the documents. -/
theorem exists_document_of_source {schema : Schema} {documents : List Document}
    {parent name : String} {selections : List Selection}
    (source : Source schema documents parent selections)
    (listed : name ∈ Selection.spreadsOf selections) :
    ∃ document ∈ documents, name ∈ document.spreadNames := by
  have ofSet {document : Document} (own : selections ∈ document.selectionSets) :
      name ∈ document.spreadNames :=
    List.mem_eraseDups.mpr (List.mem_flatMap_of_mem own listed)
  cases source with
  | operation given isOperation =>
    exact ⟨_, given, ofSet (Document.mem_selectionSets.mpr (.inl ⟨_, isOperation, rfl⟩))⟩
  | fragment given isFragment =>
    exact ⟨_, given, ofSet (Document.mem_selectionSets.mpr (.inr ⟨_, isFragment, rfl⟩))⟩

/-- What the documents spread is not their own if its fragment is external. -/
theorem mem_foreignSpreads {external : List LoadedFragment}
    (table : generator.scope.fragments = FragmentTable.ofDocuments external generator.documents)
    {parent name : String} {selections : List Selection}
    (source : Source generator.scope.schema generator.documents parent selections)
    (listed : name ∈ Selection.spreadsOf selections)
    (found : generator.scope.fragments.get? name = some loaded)
    (isExternal : loaded.isExternal = true) : name ∈ generator.foreignSpreads := by
  unfold foreignSpreads
  rw [List.mem_filter, List.mem_flatMap]
  refine ⟨exists_document_of_source source listed, ?_⟩
  -- A fragment of the documents would hide the external one.
  by_contra isLocal
  have local' : name ∈ generator.fragments.map Fragment.name := by simpa using isLocal
  obtain ⟨fragment, isFragment, rfl⟩ := List.mem_map.mp local'
  obtain ⟨document, given, own⟩ := List.mem_flatMap.mp isFragment
  rw [table] at found
  obtain ⟨_, -, isOwn⟩ := FragmentTable.get?_ofDocuments given own found
  obtain ⟨_, -, rfl⟩ := List.mem_map.mp isOwn
  cases isExternal

end Generator

/-! ### Aliases from outside -/

namespace Selection

/-- Well-typed selections are tended if all their exports give declared names. -/
theorem tended_of_wellTyped {schema : Schema} {declared tended : String → Prop} {parent : String}
    {selections : List Selection} (typed : WellTyped schema parent selections)
    (spreads : ∀ name ∈ spreadsOf selections, tended name)
    (exports : ∀ head ∈ headsOf selections, ∀ name, head.exportName = .ok name → declared name) :
    Tended schema declared tended parent selections := by
  -- Along the typing: `Tended` asks for the same fields, and for names at spreads and exports.
  induction parent, selections using WellTyped.induct with
  | case1 parent =>
    rw [Tended]
    trivial
  | case2 parent head inner rest ihInner ihRest =>
    rw [WellTyped] at typed
    rw [spreadsOf, List.forall_mem_append] at spreads
    rw [headsOf, List.forall_mem_cons, List.forall_mem_append] at exports
    rw [Tended]
    refine ⟨typed.1.imp_right ?_, ihRest typed.2 spreads.2 exports.2.2⟩
    rintro ⟨type, known, typedInner⟩
    exact ⟨type, known, exports.1, fun _ => ihInner type typedInner spreads.1 exports.2.1⟩
  | case3 parent name directives rest ih =>
    rw [WellTyped] at typed
    rw [spreadsOf, List.forall_mem_cons] at spreads
    rw [headsOf] at exports
    rw [Tended]
    exact ⟨spreads.1, ih typed spreads.2 exports⟩
  | case4 parent condition directives inner rest ihInner ihRest =>
    rw [WellTyped] at typed
    rw [spreadsOf, List.forall_mem_append] at spreads
    rw [headsOf, List.forall_mem_append] at exports
    rw [Tended]
    exact ⟨ihInner typed.1 spreads.1 exports.1, ihRest typed.2 spreads.2 exports.2⟩

end Selection

variable {schema : Schema} {settings : Settings} {documents : List Document}
variable {external : List LoadedFragment} {generator : Generator} {unnamed : Nat}

/-- If the documents spread each external fragment that they reach, then the exports of these
fragments are imported. -/
theorem Generator.tended_of_spreadsDirectly {own : List TypeImport}
    (table : generator.scope.fragments = FragmentTable.ofDocuments external generator.documents)
    (externalTyped : ∀ loaded ∈ external,
      WellTyped generator.scope.schema loaded.fragment.onType loaded.fragment.selections)
    (placed : ∀ loaded ∈ external, loaded.isExternal = true ∧
      ∃ path, loaded.importFrom = some path ∧ path ≠ "")
    (direct : generator.SpreadsDirectly) (imports : generator.fragmentImports = .ok own)
    {name : String} {loaded : LoadedFragment} (reached : generator.Reaches name)
    (found : generator.scope.fragments.get? name = some loaded) (inExternal : loaded ∈ external) :
    Tended generator.scope.schema (Imported own) generator.Reaches loaded.fragment.onType
      loaded.fragment.selections := by
  obtain ⟨isExternal, path, place⟩ := placed loaded inExternal
  obtain ⟨parent, selections, source, listed⟩ := direct name loaded reached found isExternal
  have spread : loaded.name ∈ generator.foreignSpreads := by
    rw [FragmentTable.name_of_get? found]
    exact Generator.mem_foreignSpreads table source listed found isExternal
  have inTable : loaded ∈ generator.scope.fragments := List.mem_of_find?_eq_some found
  obtain ⟨types, isTypes⟩ := Generator.exists_importedTypes imports inTable
    (Generator.importPath?_eq_some.mpr ⟨isExternal, spread, place⟩)
  -- The types of the fragment were collected, so all its exports are among them.
  obtain ⟨aliases, collects, rfl⟩ := Generator.importedTypes_eq_ok.mp isTypes
  refine (ExportedAlias.gathers_of_collect collects).tends (externalTyped loaded inExternal)
    (fun other inside => .through reached found inside) fun exported isAlias => ?_
  exact (Generator.mem_fragmentImports imports exported.name).mpr ⟨loaded, inTable, isExternal,
    spread, ⟨path, place⟩, _, isTypes, List.mem_cons_of_mem _ (List.mem_map_of_mem isAlias)⟩

/-- Where fragments are not inlined, each alias that a module refers to is declared or stands for an
export of an external fragment that the documents reach. The module imports what the settings list
and what the external fragments offer that the documents spread themselves.

So if the documents spread each external fragment that they reach, then all exports of these
fragments are imported, and all aliases that the module refers to are declared or imported. -/
theorem declared_or_imported {generated : GeneratedModule} (wellFormed : schema.WellFormed)
    (valid : schema.typeProblems = [])
    (fit : Document.Fit schema (FragmentTable.ofDocuments external documents) documents)
    (externalTyped : ∀ loaded ∈ external,
      WellTyped schema loaded.fragment.onType loaded.fragment.selections)
    (placed : ∀ loaded ∈ external, loaded.isExternal = true ∧
      ∃ path, loaded.importFrom = some path ∧ path ≠ "")
    (unflattened : settings.flattenGeneratedTypes = false)
    (created : Generator.create schema settings documents external = .ok generator)
    (succeeds : (generator.module unnamed).1 = .ok generated) :
    ∃ declarations imports, generator.declarations unnamed = .ok declarations ∧
      generated.module.content = TypeScript.renderAll settings declarations ∧
      generated.module.opening = TypeScript.importLines settings.namespacedImportName
        settings.baseTypesPath imports ∧
      (∀ declaration ∈ declarations, ∀ name ∈ declaration.aliases,
        (∃ shapes, Declaration.intersection name shapes ∈ declarations) ∨
          generator.ExportedOutside name) ∧
      (∀ name, Imported imports name ↔
        Imported settings.fragmentImports name ∨ generator.Offers name) ∧
      (generator.SpreadsDirectly →
        (∀ name loaded, generator.Reaches name →
          generator.scope.fragments.get? name = some loaded → loaded.isExternal = true →
          Tended schema (Imported imports) generator.Reaches loaded.fragment.onType
            loaded.fragment.selections) ∧
        ∀ declaration ∈ declarations, ∀ name ∈ declaration.aliases,
          (∃ shapes, Declaration.intersection name shapes ∈ declarations) ∨
            Imported imports name) := by
  obtain ⟨written, isWritten, rfl⟩ := Generator.create_eq_ok.mp created
  rw [unflattened] at isWritten
  cases isWritten
  let table := FragmentTable.ofDocuments external documents
  let generator : Generator := ⟨{ schema, settings, fragments := table }, documents⟩
  -- The imports are those that the settings list, and behind them those of the module itself.
  obtain ⟨declarations, own, made, isOwn, content, opening, -⟩ :=
    Generator.module_eq_ok.mp succeeds
  have identifiers : ∀ name, Imported (settings.fragmentImports ++ own) name ↔
      Imported settings.fragmentImports name ∨ Imported own name := by
    intro name
    unfold Imported
    simp only [List.mem_append, or_and_right, exists_or]
  refine ⟨declarations, settings.fragmentImports ++ own, made, content, opening, ?_,
    fun name => ?_, fun direct => ?_⟩
  · -- An export is declared where it is collected, or else it stands in an external fragment.
    refine @Generator.declared_of_declarations generator unnamed declarations
      (fun name => (∃ shapes, Declaration.intersection name shapes ∈ declarations) ∨
        generator.ExportedOutside name)
      generator.Reaches wellFormed valid fit
      (fun parent selections source name listed => .direct source listed) ?_ made
      fun name shapes inside => .inl ⟨shapes, inside⟩
    intro name loaded reached found
    refine (source_or_mem_external schema found).imp And.right fun isExternal => ?_
    refine Selection.tended_of_wellTyped (externalTyped loaded isExternal)
      (fun other listed => .through reached found listed) fun head isHead exportName isName => ?_
    exact .inr ⟨name, loaded, reached, found, (placed loaded isExternal).1, head, isHead, isName⟩
  · rw [identifiers, Generator.mem_fragmentImports isOwn]
  · have outside : ∀ name loaded, generator.Reaches name → table.get? name = some loaded →
        loaded ∈ external → Tended schema (Imported (settings.fragmentImports ++ own))
          generator.Reaches loaded.fragment.onType loaded.fragment.selections := by
      intro name loaded reached found inExternal
      have tends := @Generator.tended_of_spreadsDirectly external generator own rfl externalTyped
        placed direct isOwn name loaded reached found inExternal
      exact tends.imp fun name imported => (identifiers name).mpr (.inr imported)
    refine ⟨fun name loaded reached found isExternal => ?_, ?_⟩
    · rcases source_or_mem_external schema found with ⟨isLocal, -⟩ | inExternal
      · cases isLocal.symm.trans isExternal
      · exact outside name loaded reached found inExternal
    · refine @Generator.declared_of_declarations generator unnamed declarations
        (fun name => (∃ shapes, Declaration.intersection name shapes ∈ declarations) ∨
          Imported (settings.fragmentImports ++ own) name)
        generator.Reaches wellFormed valid fit
        (fun parent selections source name listed => .direct source listed) ?_ made
        fun name shapes inside => .inl ⟨shapes, inside⟩
      intro name loaded reached found
      refine (source_or_mem_external schema found).imp And.right fun inExternal => ?_
      exact (outside name loaded reached found inExternal).imp fun name => .inr

/-! ### A fragment behind another one -/

/-- Two fragments that are generated elsewhere: the second exports the friend of a pet, and the
first spreads the second. -/
def outsideFragments : List LoadedFragment :=
  [⟨⟨"Near", "Pet", [], [.spread "Befriended" []]⟩, true, some "./near"⟩,
    ⟨befriended, true, some "./friends"⟩]

/-- Both fragments ask pets for nothing but what they have. -/
theorem outsideFragments_typed : ∀ loaded ∈ outsideFragments,
    WellTyped Schema.pets loaded.fragment.onType loaded.fragment.selections := by
  rw [outsideFragments, List.forall_mem_cons, List.forall_mem_cons]
  exact ⟨by simp [WellTyped], wellTyped_befriended, List.forall_mem_nil _⟩

/-- No field of the fragments has a key other than its name. -/
theorem outsideFragments_unaliased : ∀ loaded ∈ outsideFragments,
    ∀ head ∈ Selection.headsOf loaded.fragment.selections, head.aliasName = none := by
  rw [outsideFragments, List.forall_mem_cons, List.forall_mem_cons]
  exact ⟨by simp [Selection.headsOf], unaliased_befriended, List.forall_mem_nil _⟩

/-- Both fragments are generated elsewhere, each in a module with a path. -/
theorem outsideFragments_placed : ∀ loaded ∈ outsideFragments, loaded.isExternal = true ∧
    ∃ path, loaded.importFrom = some path ∧ path ≠ "" := by
  rw [outsideFragments, List.forall_mem_cons, List.forall_mem_cons]
  exact ⟨⟨rfl, _, rfl, by decide⟩, ⟨rfl, _, rfl, by decide⟩, List.forall_mem_nil _⟩

/-- The aliases of the fragments can be collected. -/
theorem outsideFragments_collect : ∀ loaded ∈ outsideFragments, ∃ aliases,
    ExportedAlias.collect Schema.pets loaded.fragment.onType loaded.fragment.selections
      = .ok aliases := by
  rw [outsideFragments, List.forall_mem_cons, List.forall_mem_cons]
  exact ⟨exists_ok (by decide +kernel), exists_ok (by decide +kernel), List.forall_mem_nil _⟩

/-- A document that spreads these fragments and has none of its own has a module if its query has a
part. -/
theorem exists_module_outsideFragments {spreads : List String}
    (part : ∃ part, (petGenerator outsideFragments (petDocument spreads [])).Part "Query"
      [.field ⟨none, "pet", [], []⟩ (spreads.map fun name => .spread name [])] part) :
    ∃ generated,
      ((petGenerator outsideFragments (petDocument spreads [])).module 0).1 = .ok generated := by
  have parts : ∀ parent selections, Source Schema.pets [petDocument spreads []] parent selections →
      ∃ part, (petGenerator outsideFragments (petDocument spreads [])).Part parent selections
        part := by
    intro parent selections source
    rcases source_petDocument.mp source with ⟨rfl, rfl⟩ | ⟨fragment, listed, -⟩
    · exact part
    · cases listed
  obtain ⟨declarations, made⟩ := exists_declarations_petGenerator parts
  -- The document has no fragments, so the table has the external ones alone.
  obtain ⟨imports, imported⟩ : ∃ imports,
      (petGenerator outsideFragments (petDocument spreads [])).fragmentImports = .ok imports := by
    refine Generator.exists_fragmentImports ?_
    show ∀ loaded ∈ FragmentTable.ofDocuments outsideFragments [petDocument spreads []], _
    have table : FragmentTable.ofDocuments outsideFragments [petDocument spreads []]
        = outsideFragments := rfl
    rw [table]
    exact outsideFragments_collect
  exact Generator.exists_module made imported

/-- If the document spreads both fragments, then the alias of the second one is imported. -/
theorem imported_befriended :
    Schema.pets.typeProblems = [] ∧
    Document.Fit Schema.pets
      (FragmentTable.ofDocuments outsideFragments [petDocument ["Near", "Befriended"] []])
      [petDocument ["Near", "Befriended"] []] ∧
    ∃ generator generated declarations imports,
      Generator.create Schema.pets {} [petDocument ["Near", "Befriended"] []] outsideFragments
        = .ok generator ∧
      generator.SpreadsDirectly ∧
      (generator.module 0).1 = .ok generated ∧ generator.declarations 0 = .ok declarations ∧
      generated.module.opening = TypeScript.importLines (Settings.namespacedImportName {})
        (Settings.baseTypesPath {}) imports ∧
      ∀ declaration ∈ declarations, ∀ name ∈ declaration.aliases,
        (∃ shapes, Declaration.intersection name shapes ∈ declarations) ∨
          Imported imports name := by
  let generator := petGenerator outsideFragments (petDocument ["Near", "Befriended"] [])
  have valid : Schema.pets.typeProblems = [] := by decide +kernel
  have fit : Document.Fit Schema.pets
      (FragmentTable.ofDocuments outsideFragments [petDocument ["Near", "Befriended"] []])
      [petDocument ["Near", "Befriended"] []] :=
    fit_petDocument _ (List.forall_mem_nil _) (List.forall_mem_nil _) outsideFragments_unaliased
  obtain ⟨generated, succeeds⟩ : ∃ generated, (generator.module 0).1 = .ok generated :=
    exists_module_outsideFragments
      (Generator.exists_part_iff.mpr ⟨exists_ok (by cbv), exists_ok (by decide +kernel)⟩)
  -- The query spreads every fragment that there is.
  have direct : generator.SpreadsDirectly := by
    rintro name loaded - found -
    refine ⟨"Query", _, source_petDocument.mpr (.inl ⟨rfl, rfl⟩), ?_⟩
    have named := FragmentTable.name_of_get? found
    have listed : loaded ∈ outsideFragments := List.mem_of_find?_eq_some found
    rw [outsideFragments] at listed
    rcases List.mem_cons.mp listed with rfl | listed
    · simp [Selection.spreadsOf, ← named, LoadedFragment.name]
    · cases List.mem_singleton.mp listed
      simp [Selection.spreadsOf, ← named, LoadedFragment.name, befriended]
  obtain ⟨declarations, imports, made, -, opening, -, -, conclusion⟩ :=
    declared_or_imported Schema.wellFormed_pets valid fit outsideFragments_typed
      outsideFragments_placed rfl (create_petGenerator _ _) succeeds
  exact ⟨valid, fit, generator, generated, declarations, imports, create_petGenerator _ _, direct,
    succeeds, made, opening, (conclusion direct).2⟩

/-- A document that spreads only the first fragment refers to the alias of the second one without
importing it. -/
theorem not_imported_befriended :
    Document.Fit Schema.pets (FragmentTable.ofDocuments outsideFragments [petDocument ["Near"] []])
      [petDocument ["Near"] []] ∧
    ∃ generator generated declarations imports,
      Generator.create Schema.pets {} [petDocument ["Near"] []] outsideFragments
        = .ok generator ∧
      (generator.module 0).1 = .ok generated ∧ generator.declarations 0 = .ok declarations ∧
      generated.module.content = TypeScript.renderAll {} declarations ∧
      generated.module.opening = TypeScript.importLines (Settings.namespacedImportName {})
        (Settings.baseTypesPath {}) imports ∧
      generator.ExportedOutside "Friend" ∧
      (∃ declaration ∈ declarations, "Friend" ∈ declaration.aliases) ∧
      ¬ Imported imports "Friend" := by
  let generator := petGenerator outsideFragments (petDocument ["Near"] [])
  have fit : Document.Fit Schema.pets
      (FragmentTable.ofDocuments outsideFragments [petDocument ["Near"] []])
      [petDocument ["Near"] []] :=
    fit_petDocument _ (List.forall_mem_nil _) (List.forall_mem_nil _) outsideFragments_unaliased
  have query : Source Schema.pets [petDocument ["Near"] []] "Query"
      [.field ⟨none, "pet", [], []⟩ [.spread "Near" []]] :=
    source_petDocument.mpr (.inl ⟨rfl, rfl⟩)
  obtain ⟨generated, succeeds⟩ : ∃ generated, (generator.module 0).1 = .ok generated :=
    exists_module_outsideFragments
      (Generator.exists_part_iff.mpr ⟨exists_ok (by cbv), exists_ok (by decide +kernel)⟩)
  obtain ⟨declarations, imports, made, imported, content, opening, -⟩ :=
    Generator.module_eq_ok.mp succeeds
  refine ⟨fit, generator, generated, declarations, imports, create_petGenerator _ _, succeeds, made,
    content, opening, ?_, ?_, ?_⟩
  · -- The second fragment is reached through the first one.
    have near : generator.Reaches "Near" := .direct query (by simp [Selection.spreadsOf])
    have behind : generator.Reaches "Befriended" :=
      .through near rfl (by simp [Selection.spreadsOf])
    exact ⟨"Befriended", ⟨befriended, true, some "./friends"⟩, behind, rfl, rfl, _,
      (Selection.headsOf_of_mem_field (List.mem_singleton_self _)).1, rfl⟩
  · -- The type of the query refers to the alias.
    obtain ⟨part, contained, name, before, aliases, type, exported, -, -, typed, -, rfl⟩ :=
      Generator.exists_part_of_source made query
    have refers : (generator.scope.typeOf "Query"
        [.field ⟨none, "pet", [], []⟩ [.spread "Near" []]]).map TypeExpr.aliases
          = .ok ["Friend", "Friend"] := by cbv
    rw [typed] at refers
    refine ⟨.typeAlias name type, contained (by simp), ?_⟩
    rw [Declaration.aliases, Except.ok.inj refers]
    exact List.mem_cons_self
  · -- Only the first fragment is imported, and it has no alias.
    rw [Generator.mem_fragmentImports imported]
    rintro ⟨loaded, listed, -, spread, -, types, isTypes, inside⟩
    have foreign : generator.foreignSpreads = ["Near"] := by cbv
    rw [foreign, List.mem_singleton] at spread
    have isOutside : loaded ∈ outsideFragments := listed
    rw [outsideFragments] at isOutside
    rcases List.mem_cons.mp isOutside with rfl | isOutside
    · obtain ⟨aliases, collects, rfl⟩ := Generator.importedTypes_eq_ok.mp isTypes
      have none : ExportedAlias.collect Schema.pets "Pet" [.spread "Befriended" []] = .ok [] := by
        cbv
      cases none.symm.trans collects
      have other : ({} : Settings).fragmentTypeName "Near" ≠ "Friend" := by decide +kernel
      exact other (List.mem_singleton.mp inside).symm
    · cases List.mem_singleton.mp isOutside
      simp [LoadedFragment.name, befriended] at spread

end SelectionTypes

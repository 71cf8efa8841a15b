import SelectionTypes.Proofs.Workspace.FilePath
import SelectionTypes.Proofs.Workspace.SiblingModules

/-!
# `SelectionTypes.Proofs.Workspace.ModuleImports`: imports between sibling modules

The module of a document imports the types of the fragments that it spreads from the modules of the
other documents. `imports_resolve` says that each import names the module of one other document,
and that this module declares everything that is imported from it. The imports it speaks of are
those that the module opens with (`importsAt_of_moduleOf`).

The two modules compute the names for themselves. One takes the fragment as an external one and
collects its aliases, and the other declares the fragment and the aliases that it collects. Both
read the same selections with the same schema (`declares_of_generateModule`).

Which module an import names is up to its text. It tells the modules apart if their extension is not
open, and `shared_specifier` has two modules under one text.
-/

set_option autoImplicit false

namespace SelectionTypes

open Outcome
open TypeScript (Declaration)

/-! ### What a module declares -/

namespace TypeScript.ModuleText

/-- A type of a name is declared in one of the blocks of a module. -/
def Declares (module : ModuleText) (name : String) : Prop :=
  ∃ blocks type, module.content = "\n\n".intercalate blocks ∧ aliasText name type ∈ blocks

/-- The text of a module has the beginning of each of its declarations inside. -/
theorem Declares.isInfix {module : ModuleText} {name : String}
    (declares : module.Declares name) :
    ("export type " ++ name ++ " = ").toList <:+: module.content.toList := by
  obtain ⟨blocks, type, content, listed⟩ := declares
  have text : aliasText name type = ("export type " ++ name ++ " = ") ++ (type ++ ";") := by
    show "export type " ++ name ++ " = " ++ type ++ ";" = _
    rw [String.append_assoc]
  rw [content]
  refine List.IsInfix.trans ?_ (infix_intercalate "\n\n" listed)
  rw [text]
  exact List.IsPrefix.isInfix ⟨(type ++ ";").toList, String.toList_append.symm⟩

end TypeScript.ModuleText

namespace Generator

variable {generator importer : Generator} {loaded : LoadedFragment} {types : List String}
variable {schema : Schema} {settings : Settings} {documents : List Document}
variable {external : List LoadedFragment}

/-- The declarations of a fragment have the names of the types that it is imported with. -/
theorem exists_declaration_of_importedTypes
    (sameSchema : importer.scope.schema = generator.scope.schema)
    (sameSettings : importer.settings = generator.settings)
    (imported : importer.importedTypes loaded = .ok types) {part : List Declaration}
    (made : generator.fragmentDeclarations loaded.fragment = .ok part) {name : String}
    (listed : name ∈ types) :
    ∃ declaration ∈ part, ∃ type,
      declaration.render generator.settings = TypeScript.aliasText name type := by
  obtain ⟨aliases, collects, rfl⟩ := importedTypes_eq_ok.mp imported
  obtain ⟨aliases', type, exported, collects', -, declares, rfl⟩ :=
    selectionDeclarations_eq_ok.mp made
  -- Both collect the aliases of the same selections.
  rw [sameSchema] at collects
  cases collects.symm.trans collects'
  rw [List.nil_append]
  rcases List.mem_cons.mp listed with rfl | listed
  · rw [sameSettings]
    exact ⟨_, List.mem_cons_self, _, rfl⟩
  · obtain ⟨added, isAlias, rfl⟩ := List.mem_map.mp listed
    obtain ⟨shapes, declared⟩ := ExportedAlias.exists_declaration_of_declare declares isAlias
    exact ⟨_, List.mem_cons_of_mem _ declared, _, rfl⟩

/-- The module of documents declares the types that a fragment of them is imported with. -/
theorem declares_of_generateModule (unflattened : settings.flattenGeneratedTypes = false)
    {generated : GeneratedModule}
    (made : generateModule schema settings documents external = .ok generated)
    (own : loaded.fragment ∈ documents.flatMap Document.fragments)
    (isSchema : importer.scope.schema = schema) (isSettings : importer.settings = settings)
    (imported : importer.importedTypes loaded = .ok types) :
    ∀ name ∈ types, generated.module.Declares name := by
  intro name listed
  obtain ⟨generator, created, made⟩ := generateModule_eq_ok.mp made
  obtain ⟨declarations, _, declares, -, content, -⟩ := module_eq_ok.mp made
  obtain ⟨_, _, fragments, -, -, traversed, rfl⟩ := declarations_eq_ok.mp declares
  obtain ⟨written, isWritten, rfl⟩ := create_eq_ok.mp created
  rw [unflattened] at isWritten
  cases isWritten
  obtain ⟨part, isPart, isOwn⟩ := Lists.exists_of_mem_left (mapM_eq_ok.mp traversed) own
  obtain ⟨declaration, inside, type, written⟩ :=
    exists_declaration_of_importedTypes isSchema isSettings imported isOwn listed
  refine ⟨_, type, content, List.mem_map.mpr ⟨declaration, ?_, written⟩⟩
  exact List.mem_append_right _ (List.mem_flatten_of_mem isPart inside)

end Generator

/-! ### Documents without spreads -/

namespace Document

/-- Nothing is spread in an optimized document. -/
theorem spreadNames_optimize {table : FragmentTable} {document optimized : Document}
    (optimizes : document.optimize table = .ok optimized) : optimized.spreadNames = [] := by
  obtain ⟨operations, none⟩ := optimize_eq_ok optimizes
  rw [List.eq_nil_iff_forall_not_mem]
  intro name listed
  obtain ⟨selections, isSet, own⟩ := List.mem_flatMap.mp (List.mem_eraseDups.mp listed)
  rcases mem_selectionSets.mp isSet with ⟨operation, isOperation, rfl⟩ | ⟨fragment, listed, -⟩
  · obtain ⟨original, -, optimizes⟩ := Lists.exists_of_mem_right operations isOperation
    obtain ⟨inlined, inlines, assembled⟩ := bind_eq_ok.mp optimizes
    cases assembled
    rw [Selection.spreadsOf_merge (Selection.spreadsOf_inlineWithin inlines)] at own
    cases own
  · rw [none] at listed
    cases listed

end Document

/-- A generator that inlines fragments imports none. -/
theorem Generator.placedFragments_of_flattened {schema : Schema} {settings : Settings}
    {documents : List Document} {external : List LoadedFragment} {generator : Generator}
    (created : create schema settings documents external = .ok generator)
    (flattens : settings.flattenGeneratedTypes = true) : generator.placedFragments = [] := by
  obtain ⟨written, isWritten, rfl⟩ := create_eq_ok.mp created
  rw [if_pos flattens] at isWritten
  rw [List.eq_nil_iff_forall_not_mem]
  rintro ⟨path, loaded⟩ listed
  obtain ⟨-, spread, -⟩ := importPath?_eq_some.mp (mem_placedFragments.mp listed).2
  obtain ⟨document, given, own⟩ := List.mem_flatMap.mp (List.mem_filter.mp spread).1
  obtain ⟨original, -, optimizes⟩ := Lists.exists_of_mem_right (mapM_eq_ok.mp isWritten) given
  rw [Document.spreadNames_optimize optimizes] at own
  cases own

/-! ### Imports of sibling modules -/

namespace SiblingModules

variable {siblings : SiblingModules} {placed other : PlacedDocument} {path target : FilePath}

/-- The text under which a module imports the module of a document. -/
def specifier (siblings : SiblingModules) (importing document : FilePath) :
    Except SiblingError String :=
  (fun target => importSpecifier siblings.directory target importing) <$>
    siblings.modulePath document

/-- The imports of fragments in the module of a document. -/
def ImportsAt (siblings : SiblingModules) (placed : PlacedDocument) (path : FilePath)
    (imports : List TypeImport) : Prop :=
  siblings.modulePath placed.path = .ok path ∧
    ∃ fragments generator, siblings.siblingFragments placed.path path = .ok fragments ∧
      Generator.create siblings.schema siblings.settings [placed.document]
        (siblings.external ++ fragments) = .ok generator ∧
      generator.fragmentImports = .ok imports

/-- An import is that of the module of a document, which declares all that is imported. -/
structure ResolvesTo (siblings : SiblingModules) (importing : FilePath) (entry : TypeImport)
    (other : PlacedDocument) : Prop where
  specifier : siblings.specifier importing other.path = .ok entry.path
  declares : ∀ target generated, siblings.moduleOf other = .ok (target, generated) →
    ∀ name ∈ entry.identifiers, generated.module.Declares name

/-- The modules of documents lie at places of their own, and none of them where there is a directory
with a document. Paths are made of names. -/
structure LieApart (siblings : SiblingModules) : Prop where
  proper : ∀ name ∈ siblings.directory, FilePath.IsProper name
  named : ∀ placed ∈ siblings.documents, ∀ part ∈ placed.path.parts, FilePath.isName part
  distinct : siblings.documents.Pairwise fun placed other =>
    siblings.modulePlace placed.path ≠ siblings.modulePlace other.path
  outside : ∀ placed ∈ siblings.documents, ∀ other ∈ siblings.documents, ∀ place,
    siblings.modulePlace placed.path = .ok place →
      ¬ place <+: other.path.parent.placeFrom siblings.directory

/-- A module is a file as it is seen from the directory of a document. -/
theorem LieApart.isFileFrom (apart : siblings.LieApart) (listed : placed ∈ siblings.documents)
    (isOther : other ∈ siblings.documents)
    (isTarget : siblings.modulePath other.path = .ok target) :
    PlaceInTree.IsFileFrom (placed.path.parent.placeFrom siblings.directory) siblings.extension
      (target.placeFrom siblings.directory) := by
  have place := modulePlace_of_modulePath isTarget
  have isNamed := modulePath_eq_ok.mp isTarget
  let name := other.path.stem ++ siblings.extension
  let parent := other.path.parent.placeFrom siblings.directory
  have lies : target.placeFrom siblings.directory = FilePath.step parent name :=
    FilePath.placeFrom_withName isNamed
  have outside {placed : PlacedDocument} (listed : placed ∈ siblings.documents) :
      ¬ FilePath.step parent name <+: placed.path.parent.placeFrom siblings.directory :=
    lies ▸ apart.outside other isOther placed listed _ place
  have isName := FilePath.isName_of_withName isNamed
  -- Steps to the directory above are resolved in a place, and names are no such steps.
  have proper : ∀ inside ∈ parent, FilePath.IsProper inside :=
    FilePath.isProper_placeFrom apart.proper fun part inside =>
      apart.named other isOther part (List.dropLast_subset _ inside)
  rw [lies]
  refine ⟨FilePath.isProper_of_mem_step proper isName, ⟨parent, name, ?_, ?_⟩, outside listed⟩
  · -- A step to the directory above would lead to where the document itself lies inside.
    refine FilePath.step_of_isProper ⟨isName, fun isAbove => outside isOther ?_⟩
    rw [isAbove, FilePath.step_above]
    exact List.dropLast_prefix parent
  · rw [String.toList_append]
    exact List.suffix_append _ _

/-- Where modules lie apart, each of them has a specifier of its own, unless their extension is
open. -/
theorem LieApart.specifier_inj (apart : siblings.LieApart)
    (closed : siblings.extension ∉ openExtensions) (listed : placed ∈ siblings.documents)
    (isPath : siblings.modulePath placed.path = .ok path) {first second : PlacedDocument}
    (isFirst : first ∈ siblings.documents) (isSecond : second ∈ siblings.documents) {text : String}
    (names : siblings.specifier path first.path = .ok text)
    (names' : siblings.specifier path second.path = .ok text) : first = second := by
  obtain ⟨target, isTarget, rfl⟩ := map_eq_ok.mp names
  obtain ⟨target', isTarget', same⟩ := map_eq_ok.mp names'
  have parent : path.parent = placed.path.parent :=
    FilePath.parent_withName (modulePath_eq_ok.mp isPath)
  have places : target.placeFrom siblings.directory = target'.placeFrom siblings.directory := by
    refine PlaceInTree.importSpecifier_inj closed ?_ ?_ same.symm <;> rw [parent]
    · exact apart.isFileFrom listed isFirst isTarget
    · exact apart.isFileFrom listed isSecond isTarget'
  refine eq_of_modulePlace_eq apart.distinct isFirst isSecond ?_
  rw [modulePlace_of_modulePath isTarget, modulePlace_of_modulePath isTarget', places]

/-- A fragment from the module of another document has the specifier of that module. -/
theorem exists_of_mem_siblingFragments {document importing : FilePath}
    {fragments : List LoadedFragment}
    (imported : siblings.siblingFragments document importing = .ok fragments)
    {loaded : LoadedFragment} (listed : loaded ∈ fragments) :
    ∃ other ∈ siblings.documents, other.path ≠ document ∧
      loaded.fragment ∈ other.document.fragments ∧
      ∃ text, siblings.specifier importing other.path = .ok text ∧
        loaded.importFrom = some text := by
  obtain ⟨groups, traversed, assembled⟩ := bind_eq_ok.mp imported
  cases assembled
  obtain ⟨group, isGroup, inside⟩ := List.mem_flatten.mp listed
  obtain ⟨other, isOther, own⟩ := Lists.exists_of_mem_right (mapM_eq_ok.mp traversed) isGroup
  obtain ⟨isOther, different⟩ := List.mem_filter.mp isOther
  unfold importableFragments at own
  split at own
  · cases own
    cases inside
  · obtain ⟨target, isTarget, assembled⟩ := bind_eq_ok.mp own
    cases assembled
    obtain ⟨fragment, isFragment, rfl⟩ := List.mem_map.mp inside
    exact ⟨other, isOther, by simpa using different, isFragment, _,
      map_eq_ok.mpr ⟨target, isTarget, rfl⟩, rfl⟩

/-- What a module imports are fragments of other documents, under the specifiers of their modules,
where nothing says which modules declare the external ones. -/
theorem exists_of_mem_placedFragments {fragments : List LoadedFragment} {generator : Generator}
    (unplaced : ∀ loaded ∈ siblings.external, loaded.importFrom = none)
    (imported : siblings.siblingFragments placed.path path = .ok fragments)
    (created : Generator.create siblings.schema siblings.settings [placed.document]
      (siblings.external ++ fragments) = .ok generator) {text : String} {loaded : LoadedFragment}
    (listed : (text, loaded) ∈ generator.placedFragments) :
    ∃ other ∈ siblings.documents, other.path ≠ placed.path ∧
      loaded.fragment ∈ other.document.fragments ∧
      siblings.specifier path other.path = .ok text := by
  obtain ⟨inTable, isPath⟩ := Generator.mem_placedFragments.mp listed
  obtain ⟨isExternal, -, from', -⟩ := Generator.importPath?_eq_some.mp isPath
  obtain ⟨written, -, rfl⟩ := Generator.create_eq_ok.mp created
  rcases FragmentTable.mem_of_mem_ofDocuments inTable with outside | ⟨document, -, own⟩
  · rcases List.mem_append.mp outside with given | sibling
    · cases (unplaced loaded given).symm.trans from'
    · obtain ⟨other, isOther, different, own, text', names, place⟩ :=
        exists_of_mem_siblingFragments imported sibling
      cases place.symm.trans from'
      exact ⟨other, isOther, different, own, names⟩
  · obtain ⟨_, -, rfl⟩ := List.mem_map.mp own
    cases isExternal

/-- A module opens with the imports of its settings and, behind them, with those that
`imports_resolve` is about. -/
theorem importsAt_of_moduleOf {generated : GeneratedModule}
    (made : siblings.moduleOf placed = .ok (path, generated)) :
    ∃ imports, siblings.ImportsAt placed path imports ∧
      generated.module.opening = TypeScript.importLines siblings.settings.namespacedImportName
        siblings.settings.baseTypesPath (siblings.settings.fragmentImports ++ imports) := by
  obtain ⟨isPath, fragments, imported, made⟩ := moduleOf_eq_ok.mp made
  obtain ⟨generator, created, made⟩ := generateModule_eq_ok.mp made
  obtain ⟨_, imports, -, isImports, -, opening, -⟩ := Generator.module_eq_ok.mp made
  have settings : generator.settings = siblings.settings :=
    congrArg Scope.settings (Generator.toScope_of_create created)
  rw [settings] at opening
  exact ⟨imports, ⟨isPath, fragments, generator, imported, created, isImports⟩, opening⟩

/-- Each import of the module of a document is that of the module of exactly one other document, and
that module declares everything that is imported from it. This holds of modules that lie apart and
have an extension that is not open, where nothing says which modules declare the external
fragments. -/
theorem imports_resolve {imports : List TypeImport} (apart : siblings.LieApart)
    (closed : siblings.extension ∉ openExtensions)
    (unplaced : ∀ loaded ∈ siblings.external, loaded.importFrom = none)
    (listed : placed ∈ siblings.documents) (begins : siblings.ImportsAt placed path imports) :
    ∀ entry ∈ imports, ∃ other ∈ siblings.documents, other.path ≠ placed.path ∧
      siblings.ResolvesTo path entry other ∧
      ∀ another ∈ siblings.documents, siblings.specifier path another.path = .ok entry.path →
        another = other := by
  intro entry isEntry
  obtain ⟨isPath, fragments, generator, imported, created, isImports⟩ := begins
  obtain ⟨⟨loaded, isPlaced⟩, names⟩ := Generator.exists_of_mem_fragmentImports isImports isEntry
  obtain ⟨other, isOther, different, -, named⟩ :=
    exists_of_mem_placedFragments unplaced imported created isPlaced
  have unique {another : PlacedDocument} (isAnother : another ∈ siblings.documents)
      (same : siblings.specifier path another.path = .ok entry.path) : another = other :=
    apart.specifier_inj closed listed isPath isAnother isOther same named
  refine ⟨other, isOther, different, ⟨named, fun target generated made name inside => ?_⟩,
    fun another => unique⟩
  obtain ⟨-, _, -, made⟩ := moduleOf_eq_ok.mp made
  -- The fragment that has the name is one of the other document, since the import is of its module.
  obtain ⟨loaded, types, isPlaced, isTypes, own⟩ := names name inside
  obtain ⟨another, isAnother, -, isFragment, same⟩ :=
    exists_of_mem_placedFragments unplaced imported created isPlaced
  cases unique isAnother same
  have unflattened : siblings.settings.flattenGeneratedTypes = false := by
    by_contra flattens
    rw [Generator.placedFragments_of_flattened created (by simpa using flattens)] at isPlaced
    cases isPlaced
  have scope := Generator.toScope_of_create created
  refine Generator.declares_of_generateModule unflattened made ?_ (congrArg Scope.schema scope)
    (congrArg Scope.settings scope) isTypes name own
  rwa [List.flatMap_singleton]

/-! ### Imports of a query -/

/-- Modules of documents in the root lie apart if they have places of their own. -/
theorem lieApart_of_top (proper : ∀ name ∈ siblings.directory, FilePath.IsProper name)
    (named : ∀ placed ∈ siblings.documents, ∀ part ∈ placed.path.parts, FilePath.isName part)
    (distinct : siblings.documents.Pairwise fun placed other =>
      siblings.modulePlace placed.path ≠ siblings.modulePlace other.path)
    (top : ∀ placed ∈ siblings.documents, placed.path.parent.placeFrom siblings.directory = [] ∧
      siblings.modulePlace placed.path ≠ .ok []) : siblings.LieApart := by
  refine ⟨proper, named, distinct, fun placed listed other isOther place isPlace => ?_⟩
  rw [(top other isOther).1, List.prefix_nil]
  rintro rfl
  exact (top placed listed).2 isPlace

/-- The modules of the query and of the fragment lie apart. -/
theorem lieApart_pets : pets.LieApart :=
  lieApart_of_top (List.forall_mem_nil _) (by decide) (by decide)
    (by decide)

/-- What the query imports from the module of the fragment. -/
def befriendedImport : TypeImport :=
  ⟨"./friends.generated", ["BefriendedFragment", "Friend", "Friend_Cat", "Friend_Dog"]⟩

/-- The module of the query imports the fragment and the aliases that it declares. -/
theorem importsAt_befriendedQuery :
    pets.ImportsAt ⟨⟨0, ["pets.graphql"]⟩, ⟨[.operation befriendedQuery]⟩⟩
      ⟨0, ["pets.generated.ts"]⟩ [befriendedImport] := by
  let generator : Generator :=
    { scope := { schema := Schema.pets, settings := {}, fragments := [importedFragment] }
      documents := [⟨[.operation befriendedQuery]⟩] }
  refine ⟨by decide, [importedFragment], generator, siblingFragments_pets, rfl, ?_⟩
  -- The only fragment that the query knows is the one of the other module.
  have placed : generator.placedFragments = [("./friends.generated", importedFragment)] := by cbv
  obtain ⟨aliases, collects, names⟩ : ∃ aliases,
      ExportedAlias.collect Schema.pets "Pet" befriended.selections = .ok aliases ∧
        aliases.map ExportedAlias.name = ["Friend", "Friend_Cat", "Friend_Dog"] := by
    refine map_eq_ok.mp ?_
    decide +kernel
  have own : Settings.fragmentTypeName {} "Befriended" = "BefriendedFragment" := by decide
  have types : generator.importedTypes importedFragment = .ok befriendedImport.identifiers := by
    refine Generator.importedTypes_eq_ok.mpr ⟨aliases, collects, ?_⟩
    rw [names]
    exact congrArg (· :: ["Friend", "Friend_Cat", "Friend_Dog"]) own.symm
  refine Generator.fragmentImports_eq_ok.mpr
    ⟨[("./friends.generated", befriendedImport.identifiers)], ?_, by decide⟩
  rw [placed]
  exact .cons ⟨rfl, types⟩ .nil

/-- The import of the query is that of the module of the fragment. -/
theorem imports_resolve_pets :
    pets.LieApart ∧ pets.extension ∉ openExtensions ∧
    (∀ loaded ∈ pets.external, loaded.importFrom = none) ∧
    pets.ImportsAt ⟨⟨0, ["pets.graphql"]⟩, ⟨[.operation befriendedQuery]⟩⟩
      ⟨0, ["pets.generated.ts"]⟩ [befriendedImport] ∧
    pets.ResolvesTo ⟨0, ["pets.generated.ts"]⟩ befriendedImport
      ⟨⟨0, ["friends.graphql"]⟩, ⟨[.fragment befriended]⟩⟩ := by
  have closed : pets.extension ∉ openExtensions := by decide
  refine ⟨lieApart_pets, closed, List.forall_mem_nil _, importsAt_befriendedQuery, ?_⟩
  obtain ⟨other, isOther, different, resolves, -⟩ :=
    imports_resolve lieApart_pets closed (List.forall_mem_nil _) List.mem_cons_self
      importsAt_befriendedQuery befriendedImport List.mem_cons_self
  rcases List.mem_cons.mp isOther with rfl | isOther
  · exact absurd rfl different
  · cases List.mem_singleton.mp isOther
    exact resolves

/-! ### Two modules under one text -/

/-- A fragment that selects the name of a pet. -/
def nameFragment (name : String) : Fragment :=
  ⟨name, "Pet", [], [.field ⟨none, "name", [], []⟩ []]⟩

/-- A query of pets that spreads two such fragments. -/
def spreadingQuery : Operation :=
  ⟨.query, some "Pets", [], [], [.field ⟨none, "pet", [], []⟩
    [.spread "First" [], .spread "Second" []]]⟩

/-- Three documents whose modules have no extension. -/
def bare : SiblingModules where
  schema := Schema.pets
  settings := {}
  external := []
  directory := []
  extension := ""
  documents := [⟨⟨0, ["pets.graphql"]⟩, ⟨[.fragment (nameFragment "First")]⟩⟩,
    ⟨⟨0, ["pets.ts.graphql"]⟩, ⟨[.fragment (nameFragment "Second")]⟩⟩,
    ⟨⟨0, ["query.ts.graphql"]⟩, ⟨[.operation spreadingQuery]⟩⟩]

/-- A fragment as a module imports it from either of the modules of fragments. -/
def bareFragment (name : String) : LoadedFragment :=
  ⟨nameFragment name, true, some "./pets"⟩

/-- Each module of a fragment can import the other one, and the module of the query both, all from
one text. -/
theorem bareFragments :
    bare.siblingFragments ⟨0, ["pets.graphql"]⟩ ⟨0, ["pets"]⟩ = .ok [bareFragment "Second"] ∧
    bare.siblingFragments ⟨0, ["pets.ts.graphql"]⟩ ⟨0, ["pets.ts"]⟩ = .ok [bareFragment "First"] ∧
    bare.siblingFragments ⟨0, ["query.ts.graphql"]⟩ ⟨0, ["query.ts"]⟩ =
      .ok [bareFragment "First", bareFragment "Second"] := by
  -- A module is imported from where its specifier says, which is one text for both.
  have imported (file target importing : FilePath) (name : String)
      (isTarget : bare.modulePath file = .ok target)
      (specifier : importSpecifier [] target importing = "./pets") :
      bare.importableFragments importing ⟨file, ⟨[.fragment (nameFragment name)]⟩⟩ =
        .ok [bareFragment name] := by
    refine bind_eq_ok.mpr ⟨target, isTarget, ?_⟩
    rw [bareFragment, ← specifier]
    rfl
  have first := imported ⟨0, ["pets.graphql"]⟩ ⟨0, ["pets"]⟩
  have second := imported ⟨0, ["pets.ts.graphql"]⟩ ⟨0, ["pets.ts"]⟩
  have none (importing : FilePath) : bare.importableFragments importing
      ⟨⟨0, ["query.ts.graphql"]⟩, ⟨[.operation spreadingQuery]⟩⟩ = .ok [] := rfl
  refine ⟨?_, ?_, ?_⟩
  · refine bind_eq_ok.mpr ⟨[[bareFragment "Second"], []], mapM_eq_ok.mpr ?_, rfl⟩
    exact .cons (second _ _ (by decide) (by decide)) (.cons (none _) .nil)
  · refine bind_eq_ok.mpr ⟨[[bareFragment "First"], []], mapM_eq_ok.mpr ?_, rfl⟩
    exact .cons (first _ _ (by decide) (by decide)) (.cons (none _) .nil)
  · refine bind_eq_ok.mpr
      ⟨[[bareFragment "First"], [bareFragment "Second"]], mapM_eq_ok.mpr ?_, rfl⟩
    exact .cons (first _ _ (by decide) (by decide))
      (.cons (second _ _ (by decide) (by decide)) .nil)

/-- The generator of a document with one fragment, which knows another one. -/
def nameGenerator (name other : String) : Generator where
  scope :=
    { schema := Schema.pets
      settings := {}
      fragments := [bareFragment other, ⟨nameFragment name, false, none⟩] }
  documents := [⟨[.fragment (nameFragment name)]⟩]

/-- These are the generators that are created for the two documents. -/
theorem create_nameGenerator :
    Generator.create Schema.pets {} [⟨[.fragment (nameFragment "First")]⟩]
        [bareFragment "Second"] = .ok (nameGenerator "First" "Second") ∧
      Generator.create Schema.pets {} [⟨[.fragment (nameFragment "Second")]⟩]
        [bareFragment "First"] = .ok (nameGenerator "Second" "First") :=
  ⟨rfl, rfl⟩

/-- The generator of the query, which knows both fragments. -/
def spreadingGenerator : Generator where
  scope :=
    { schema := Schema.pets
      settings := {}
      fragments := [bareFragment "First", bareFragment "Second"] }
  documents := [⟨[.operation spreadingQuery]⟩]

/-- The names of pets in all shapes. -/
def nameText : String :=
  "\x7b __typename?: 'Cat', name?: string | null \x7d | "
    ++ "\x7b __typename?: 'Dog', name?: string | null \x7d"

/-- The fragment exports nothing. -/
theorem collect_nameFragment (name : String) :
    ExportedAlias.collect Schema.pets "Pet" (nameFragment name).selections = .ok [] := by
  cbv

/-- The type of the fragment is written with the names of cats and of dogs. -/
theorem exists_typeOf_nameFragment (name other : String) : ∃ type,
    (nameGenerator name other).scope.typeOf "Pet" (nameFragment name).selections = .ok type ∧
      type.render {} = nameText := by
  refine map_eq_ok.mp ?_
  cbv

/-- The types of the fragments are named after them. -/
theorem fragmentTypeNames : Settings.fragmentTypeName {} "First" = "FirstFragment" ∧
    Settings.fragmentTypeName {} "Second" = "SecondFragment" := by
  decide

/-- The module of a fragment declares its type. -/
theorem exists_module_nameFragment {name other : String}
    (created : Generator.create Schema.pets {} [⟨[.fragment (nameFragment name)]⟩]
      [bareFragment other] = .ok (nameGenerator name other)) :
    ∃ generated, generateModule Schema.pets {} [⟨[.fragment (nameFragment name)]⟩]
        [bareFragment other] = .ok generated ∧
      generated.module.content =
        TypeScript.aliasText (Settings.fragmentTypeName {} name) nameText := by
  obtain ⟨type, typed, text⟩ := exists_typeOf_nameFragment name other
  obtain ⟨supporting, isSupporting⟩ : ∃ supporting,
      (nameGenerator name other).supporting = .ok supporting := by
    rw [Generator.supporting_of_create created]
    exact exists_supporting_pets {}
  cases Generator.supporting_eq_nil created rfl isSupporting
  have own : (nameGenerator name other).fragmentDeclarations (nameFragment name) =
      .ok [.typeAlias (Settings.fragmentTypeName {} name) type] :=
    bind_eq_ok.mpr ⟨[], collect_nameFragment name, bind_eq_ok.mpr ⟨type, typed, rfl⟩⟩
  have declares : (nameGenerator name other).declarations 0 =
      .ok [.typeAlias (Settings.fragmentTypeName {} name) type] :=
    Generator.declarations_eq_ok.mpr
      ⟨[], [], [_], isSupporting, rfl, mapM_eq_ok.mpr (.cons own .nil), rfl⟩
  -- Both fragments in the table export nothing, so imports are only a matter of their names.
  obtain ⟨imports, imported⟩ : ∃ imports,
      (nameGenerator name other).fragmentImports = .ok imports := by
    refine Generator.exists_fragmentImports fun loaded listed => ⟨[], ?_⟩
    rcases List.mem_cons.mp listed with rfl | listed
    · exact collect_nameFragment other
    · rw [List.mem_singleton.mp listed]
      exact collect_nameFragment name
  obtain ⟨generated, made⟩ := Generator.exists_module declares imported
  refine ⟨generated, generateModule_eq_ok.mpr ⟨_, created, made⟩, ?_⟩
  obtain ⟨declarations, _, declares', -, content, -⟩ := Generator.module_eq_ok.mp made
  cases declares.symm.trans declares'
  rw [content, ← text]
  exact String.intercalate_singleton

/-- The query imports both fragments under one text. -/
theorem fragmentImports_spreadingQuery :
    spreadingGenerator.fragmentImports = .ok [⟨"./pets", ["FirstFragment", "SecondFragment"]⟩] := by
  have types (name : String) : spreadingGenerator.importedTypes (bareFragment name) =
      .ok [Settings.fragmentTypeName {} name] :=
    Generator.importedTypes_eq_ok.mpr ⟨[], collect_nameFragment name, rfl⟩
  have placed : spreadingGenerator.placedFragments =
      [("./pets", bareFragment "First"), ("./pets", bareFragment "Second")] := by
    cbv
  refine Generator.fragmentImports_eq_ok.mpr
    ⟨[("./pets", ["FirstFragment"]), ("./pets", ["SecondFragment"])], ?_, by decide⟩
  rw [placed, ← fragmentTypeNames.1, ← fragmentTypeNames.2]
  exact .cons ⟨rfl, types "First"⟩ (.cons ⟨rfl, types "Second"⟩ .nil)

/-- The query has a module. -/
theorem exists_module_spreadingQuery : ∃ generated, generateModule Schema.pets {}
    [⟨[.operation spreadingQuery]⟩] [bareFragment "First", bareFragment "Second"] =
      .ok generated := by
  have created : Generator.create Schema.pets {} [⟨[.operation spreadingQuery]⟩]
      [bareFragment "First", bareFragment "Second"] = .ok spreadingGenerator := rfl
  refine Generator.exists_generateModule created (exists_supporting_pets {})
    (fun operation listed => ?_)
    (fun fragment listed => nomatch (show fragment ∈ [] from listed))
    ⟨_, fragmentImports_spreadingQuery⟩
  cases List.mem_singleton.mp (show operation ∈ [spreadingQuery] from listed)
  refine ⟨rfl, "Query", rfl, Generator.exists_part_iff.mpr ?_⟩
  exact ⟨exists_ok (by cbv), exists_ok (by decide +kernel)⟩

/-- The modules of the fragments declare their types alone. -/
theorem exists_moduleOf_fragments :
    (∃ generated, bare.moduleOf ⟨⟨0, ["pets.graphql"]⟩, ⟨[.fragment (nameFragment "First")]⟩⟩ =
        .ok (⟨0, ["pets"]⟩, generated) ∧ ¬ generated.module.Declares "SecondFragment") ∧
      ∃ generated, bare.moduleOf ⟨⟨0, ["pets.ts.graphql"]⟩,
          ⟨[.fragment (nameFragment "Second")]⟩⟩ = .ok (⟨0, ["pets.ts"]⟩, generated) ∧
        ¬ generated.module.Declares "FirstFragment" := by
  obtain ⟨imported, imported', -⟩ := bareFragments
  obtain ⟨first, made, content⟩ := exists_module_nameFragment create_nameGenerator.1
  obtain ⟨second, made', content'⟩ := exists_module_nameFragment create_nameGenerator.2
  rw [fragmentTypeNames.1] at content
  rw [fragmentTypeNames.2] at content'
  refine ⟨⟨first, moduleOf_eq_ok.mpr ⟨by decide, _, imported, made⟩, fun declares => ?_⟩,
    second, moduleOf_eq_ok.mpr ⟨by decide, _, imported', made'⟩, fun declares => ?_⟩
  · -- A declaration would be in the text, which is too short to have both types.
    have inside := declares.isInfix
    rw [content] at inside
    exact absurd inside (by decide +kernel)
  · have inside := declares.isInfix
    rw [content'] at inside
    exact absurd inside (by decide +kernel)

/-- Where modules have no extension, those of `pets.graphql` and `pets.ts.graphql` have one
specifier. A query that spreads a fragment of each imports both types under it, and neither module
declares both. -/
theorem shared_specifier :
    bare.LieApart ∧ (∀ loaded ∈ bare.external, loaded.importFrom = none) ∧
    (∀ placed ∈ bare.documents, ∃ result, bare.moduleOf placed = .ok result) ∧
    bare.ImportsAt ⟨⟨0, ["query.ts.graphql"]⟩, ⟨[.operation spreadingQuery]⟩⟩ ⟨0, ["query.ts"]⟩
      [⟨"./pets", ["FirstFragment", "SecondFragment"]⟩] ∧
    ∀ other ∈ bare.documents, ¬ bare.ResolvesTo ⟨0, ["query.ts"]⟩
      ⟨"./pets", ["FirstFragment", "SecondFragment"]⟩ other := by
  obtain ⟨⟨first, made, undeclared⟩, second, made', undeclared'⟩ := exists_moduleOf_fragments
  obtain ⟨query, generated⟩ := exists_module_spreadingQuery
  have isPath : bare.modulePath ⟨0, ["query.ts.graphql"]⟩ = .ok ⟨0, ["query.ts"]⟩ := by
    decide
  have queried : bare.moduleOf ⟨⟨0, ["query.ts.graphql"]⟩, ⟨[.operation spreadingQuery]⟩⟩ =
      .ok (⟨0, ["query.ts"]⟩, query) :=
    moduleOf_eq_ok.mpr ⟨isPath, _, bareFragments.2.2, generated⟩
  have begins : bare.ImportsAt ⟨⟨0, ["query.ts.graphql"]⟩, ⟨[.operation spreadingQuery]⟩⟩
      ⟨0, ["query.ts"]⟩ [⟨"./pets", ["FirstFragment", "SecondFragment"]⟩] :=
    ⟨isPath, _, spreadingGenerator, bareFragments.2.2, rfl, fragmentImports_spreadingQuery⟩
  refine ⟨?_, List.forall_mem_nil _, ?_, begins, ?_⟩
  · exact lieApart_of_top (List.forall_mem_nil _) (by decide) (by decide)
      (by decide)
  · rw [bare, List.forall_mem_cons, List.forall_mem_cons, List.forall_mem_singleton]
    exact ⟨⟨_, made⟩, ⟨_, made'⟩, ⟨_, queried⟩⟩
  · rw [bare, List.forall_mem_cons, List.forall_mem_cons, List.forall_mem_singleton]
    -- Each module of a fragment misses one of the types, and the query is not at that path.
    refine ⟨fun resolves => ?_, fun resolves => ?_, fun resolves => ?_⟩
    · exact undeclared (resolves.declares _ _ made _ (by decide))
    · exact undeclared' (resolves.declares _ _ made' _ (by decide))
    · exact absurd resolves.specifier (by decide)

end SiblingModules

end SelectionTypes

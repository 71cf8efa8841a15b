import Mathlib.Data.List.Pairwise
import SelectionTypes.Proofs.Generation.Imports
import SelectionTypes.Proofs.Generation.Sections
import SelectionTypes.Proofs.Selection.Merge
import SelectionTypes.Workspace.SiblingModules

/-!
# `SelectionTypes.Proofs.Workspace.SiblingModules`: one module or several

Documents can have one module together, or each of them a module of its own that knows the fragments
of the others as external ones. `sections_of_siblings` says that the sections are the same: those
of the one module are those of the several modules, document by document.

The two ways differ in the tables that spreads are looked up in. A fragment of the documents is
found in either table, and so is an external one that no document hides (`findsSame_siblings`). So
operations are inlined alike, and types are read alike. The supporting types of several documents
are those that one of them needs (`mem_supporting`).
-/

set_option autoImplicit false

namespace SelectionTypes

open Outcome
open TypeScript (Declaration)

/-! ### Tables of documents and of their siblings -/

namespace FragmentTable

variable {external : List LoadedFragment} {documents : List Document}

/-- The last fragment of a name. -/
def lastNamed (fragments : List Fragment) (name : String) : Option Fragment :=
  fragments.reverse.find? fun fragment => fragment.name == name

/-- A fragment of the second list hides one of its name in the first. -/
theorem lastNamed_append (first second : List Fragment) (name : String) :
    lastNamed (first ++ second) name = (lastNamed second name).or (lastNamed first name) := by
  unfold lastNamed
  rw [List.reverse_append, List.find?_append]

/-- Where no two fragments have one name, the last of a name does not depend on their order. -/
theorem lastNamed_of_mem_iff {fragments others : List Fragment}
    (same : ∀ fragment, fragment ∈ fragments ↔ fragment ∈ others)
    (distinct : (fragments.map Fragment.name).Nodup) (name : String) :
    lastNamed fragments name = lastNamed others name := by
  refine Lists.find?_eq_of_mem_iff (fun fragment => ?_)
    (fun first isFirst second isSecond named => ?_) name
  · rw [List.mem_reverse, List.mem_reverse, same]
  · exact List.inj_on_of_nodup_map distinct (List.mem_reverse.mp isFirst)
      (List.mem_reverse.mp isSecond) named

/-- A table of documents finds the last fragment of a name, where those of the documents come behind
the external ones. -/
theorem fragment_get?_ofDocuments (external : List LoadedFragment) (documents : List Document)
    (name : String) :
    ((ofDocuments external documents).get? name).map LoadedFragment.fragment =
      lastNamed (external.map LoadedFragment.fragment ++ documents.flatMap Document.fragments)
        name := by
  have own : (documents.flatMap fun document => LoadedFragment.ofDocument document).map
      LoadedFragment.fragment = documents.flatMap Document.fragments := by
    rw [List.map_flatMap]
    refine List.flatMap_congr fun document _ => ?_
    rw [LoadedFragment.ofDocument, List.map_map]
    exact List.map_id _
  unfold ofDocuments ofList lastNamed
  rw [get?_foldl_insert, ← own, ← List.map_append, ← List.map_reverse, List.find?_map]
  simp only [get?, List.find?_nil, Option.or_none]
  rfl

end FragmentTable

/-! ### Sibling modules -/

namespace SiblingModules

/-- The place of the module of a document. -/
def modulePlace (siblings : SiblingModules) (document : FilePath) :
    Except SiblingError PlaceInTree :=
  FilePath.placeFrom siblings.directory <$> siblings.modulePath document

variable {siblings : SiblingModules} {placed : PlacedDocument} {importing : FilePath}
variable {fragments : List LoadedFragment}

/-- The module of a document is the file beside it that has its stem and the extension. -/
theorem modulePath_eq_ok {document path : FilePath} :
    siblings.modulePath document = .ok path ↔
      document.siblingModule? siblings.extension = some path := by
  unfold modulePath
  cases document.siblingModule? siblings.extension <;> simp

/-- The place of a module is that of its path. -/
theorem modulePlace_of_modulePath {document path : FilePath}
    (isPath : siblings.modulePath document = .ok path) :
    siblings.modulePlace document = .ok (path.placeFrom siblings.directory) := by
  rw [modulePlace, isPath]
  rfl

/-- Where no two modules lie at one place, a place tells the document. -/
theorem eq_of_modulePlace_eq {documents : List PlacedDocument} {other : PlacedDocument}
    (apart : documents.Pairwise fun placed other =>
      siblings.modulePlace placed.path ≠ siblings.modulePlace other.path)
    (listed : placed ∈ documents) (isOther : other ∈ documents)
    (same : siblings.modulePlace placed.path = siblings.modulePlace other.path) :
    placed = other := by
  have : Std.Symm fun placed other : PlacedDocument =>
      siblings.modulePlace placed.path ≠ siblings.modulePlace other.path := ⟨fun _ _ => Ne.symm⟩
  by_contra different
  exact apart.forall listed isOther different same

/-- The fragments that are imported from the modules of other documents are their fragments. -/
theorem mem_siblingFragments {path : FilePath}
    (imported : siblings.siblingFragments path importing = .ok fragments) {fragment : Fragment} :
    fragment ∈ fragments.map LoadedFragment.fragment ↔
      ∃ other ∈ siblings.documents, other.path ≠ path ∧ fragment ∈ other.document.fragments := by
  obtain ⟨groups, traversed, assembled⟩ := bind_eq_ok.mp imported
  cases assembled
  -- A document without fragments needs no module to import them from.
  have each : ∀ (other : PlacedDocument) (own : List LoadedFragment),
      siblings.importableFragments importing other = .ok own →
      own.map LoadedFragment.fragment = other.document.fragments := by
    intro other own isOwn
    unfold importableFragments at isOwn
    split at isOwn
    · next none =>
      cases isOwn
      exact (List.isEmpty_iff.mp none).symm
    · obtain ⟨module, -, assembled⟩ := bind_eq_ok.mp isOwn
      cases assembled
      rw [LoadedFragment.ofDocument, List.map_map]
      exact List.map_id _
  have all := map_eq_of_mapM each traversed
  rw [List.map_flatten, all]
  simp only [List.mem_flatten, List.mem_map, List.mem_filter, bne_iff_ne]
  constructor
  · rintro ⟨_, ⟨other, ⟨listed, different⟩, rfl⟩, inside⟩
    exact ⟨other, listed, different, inside⟩
  · rintro ⟨other, listed, different, inside⟩
    exact ⟨_, ⟨other, ⟨listed, different⟩, rfl⟩, inside⟩

/-- The table of all documents and the table of one of them, with the fragments of the others among
the external ones, find the same fragments. -/
theorem findsSame_siblings (distinctPaths : (siblings.documents.map PlacedDocument.path).Nodup)
    (distinctNames : ((siblings.documents.flatMap fun placed => placed.document.fragments).map
      Fragment.name).Nodup) (listed : placed ∈ siblings.documents)
    (imported : siblings.siblingFragments placed.path importing = .ok fragments) :
    (FragmentTable.ofDocuments siblings.external
        (siblings.documents.map PlacedDocument.document)).FindsSame
      (FragmentTable.ofDocuments (siblings.external ++ fragments) [placed.document]) := by
  intro name
  rw [FragmentTable.fragment_get?_ofDocuments, FragmentTable.fragment_get?_ofDocuments,
    List.flatMap_map, List.map_append, List.append_assoc, FragmentTable.lastNamed_append,
    FragmentTable.lastNamed_append]
  congr 1
  refine FragmentTable.lastNamed_of_mem_iff (fun fragment => ?_) distinctNames name
  rw [List.mem_append, mem_siblingFragments imported, List.mem_flatMap, List.flatMap_singleton]
  -- The documents around this one are either the document itself or one of its siblings.
  constructor
  · rintro ⟨other, isOther, inside⟩
    by_cases same : other.path = placed.path
    · rw [List.inj_on_of_nodup_map distinctPaths isOther listed same] at inside
      exact .inr inside
    · exact .inl ⟨other, isOther, same, inside⟩
  · rintro (⟨other, isOther, -, inside⟩ | inside)
    · exact ⟨other, isOther, inside⟩
    · exact ⟨placed, listed, inside⟩

end SiblingModules

/-! ### The sections of modules -/

/-- The sections that the module of documents is made of. -/
def ModuleSections.Of (schema : Schema) (settings : Settings) (documents : List Document)
    (external : List LoadedFragment) (generated : GeneratedModule) (sections : ModuleSections) :
    Prop :=
  ∃ generator, Generator.create schema settings documents external = .ok generator ∧
    generator.Divides sections ∧
    generated.module.content = TypeScript.renderAll settings sections.declarations

/-- The document that a generator reads for a document: the document, or the optimized one if the
settings ask for it. -/
def Document.readAs (settings : Settings) (table : FragmentTable) (document : Document) :
    Except GenerationError Document :=
  if settings.flattenGeneratedTypes then document.optimize table else .ok document

namespace Generator

variable {schema : Schema} {settings : Settings} {documents : List Document}
variable {external : List LoadedFragment} {generator : Generator}

/-- A generator reads each of its documents for itself. -/
theorem create_eq_ok_readAs :
    create schema settings documents external = .ok generator ↔
      ∃ written, documents.mapM (Document.readAs settings
          (FragmentTable.ofDocuments external documents)) = .ok written ∧
        generator = ⟨{ schema, settings, fragments := FragmentTable.ofDocuments external written },
          written⟩ := by
  rw [create_eq_ok]
  refine exists_congr fun written => and_congr_left fun _ => ?_
  unfold Document.readAs
  by_cases flattens : settings.flattenGeneratedTypes = true
  · simp only [flattens, if_true]
    rfl
  · have each : documents.mapM (fun document => (.ok document : Except GenerationError Document))
        = .ok documents := mapM_eq_ok.mpr (List.forall₂_same.mpr fun _ _ => rfl)
    simp only [flattens, Bool.false_eq_true, if_false, each]

/-- Generators that find the same fragments read a document alike. -/
theorem exists_readAs_of_create {document : Document} {others : List LoadedFragment}
    {other : Generator}
    (same : (FragmentTable.ofDocuments external documents).FindsSame
      (FragmentTable.ofDocuments others [document]))
    (created : create schema settings documents external = .ok generator)
    (created' : create schema settings [document] others = .ok other) :
    ∃ written, document.readAs settings (FragmentTable.ofDocuments external documents)
        = .ok written ∧ other.documents = [written] ∧
      (∀ operation ∈ written.operations, generator.ReadsLike other operation.selections) ∧
      ∀ fragment ∈ written.fragments, generator.ReadsLike other fragment.selections := by
  obtain ⟨all, isAll, rfl⟩ := create_eq_ok_readAs.mp created
  obtain ⟨_, isOwn, rfl⟩ := create_eq_ok_readAs.mp created'
  have each := mapM_eq_ok.mp isOwn
  cases each with
  | @cons _ written _ _ isWritten none =>
    cases none
    -- Inlining asks for fragments by name only, so both tables give the same document.
    have isSame : document.readAs settings (FragmentTable.ofDocuments external documents)
        = .ok written := by
      rw [← isWritten]
      unfold Document.readAs Document.optimize Operation.optimize Selection.inline
      simp only [Selection.inlineWithin_congr same]
    refine ⟨written, isSame, rfl, ?_⟩
    unfold Document.readAs at isWritten isAll
    by_cases flattens : settings.flattenGeneratedTypes = true
    · -- Nothing is spread in an optimized document.
      rw [if_pos flattens] at isWritten
      obtain ⟨operations, none⟩ := Document.optimize_eq_ok isWritten
      refine ⟨fun operation listed => ⟨rfl, .inr ?_⟩, fun fragment listed => ?_⟩
      · obtain ⟨original, -, optimizes⟩ := Lists.exists_of_mem_right operations listed
        obtain ⟨inlined, inlines, assembled⟩ := bind_eq_ok.mp optimizes
        cases assembled
        exact Selection.spreadsOf_merge (Selection.spreadsOf_inlineWithin inlines)
      · rw [none] at listed
        cases listed
    · -- The documents are read as they are, with the tables that they make.
      simp only [flattens, Bool.false_eq_true, if_false] at isWritten isAll
      cases isWritten
      have unchanged : all = documents :=
        (Except.ok.inj ((mapM_eq_ok.mpr (List.forall₂_same.mpr fun _ _ => rfl)).symm.trans
          isAll)).symm
      subst unchanged
      exact ⟨fun operation _ => ⟨rfl, .inl same⟩, fun fragment _ => ⟨rfl, .inl same⟩⟩

/-- A module whose operations have names has sections. -/
theorem exists_sections (named : ∀ document ∈ documents, ∀ operation ∈ document.operations,
      operation.name.isSome) {generated : GeneratedModule}
    (made : generateModule schema settings documents external = .ok generated) :
    ∃ sections, ModuleSections.Of schema settings documents external generated sections := by
  obtain ⟨generator, created, made⟩ := generateModule_eq_ok.mp made
  obtain ⟨declarations, imports, declares, -, content, -⟩ := module_eq_ok.mp made
  have names : ∀ operation ∈ generator.operations, operation.name.isSome := by
    -- An operation has its name when it is read, whether or not fragments are inlined.
    have kept := map_operations_of_create Operation.name (fun _ _ => rfl) created
    intro operation listed
    have inside : operation.name ∈ (documents.flatMap Document.operations).map Operation.name := by
      rw [← kept]
      exact List.mem_map_of_mem listed
    obtain ⟨original, isOriginal, name⟩ := List.mem_map.mp inside
    obtain ⟨document, given, own⟩ := List.mem_flatMap.mp isOriginal
    rw [← name]
    exact named document given original own
  obtain ⟨sections, divides, rfl⟩ := exists_divides names declares
  have settingsOf : generator.settings = settings := by
    rw [Generator.settings, toScope_of_create created]
  exact ⟨sections, generator, created, divides, by rw [content, settingsOf]⟩

/-- What a generator makes of parts of its documents is what it makes of the parts of each document
that it reads. -/
theorem groups_of_create {α : Type}
    (created : create schema settings documents external = .ok generator)
    {parts : Document → List α} {make : α → Except GenerationError (List Declaration)}
    {results : List (List Declaration)}
    (made : (generator.documents.flatMap parts).mapM make = .ok results) :
    ∃ groups, List.Forall₂ (fun document group => ∃ written,
        document.readAs settings (FragmentTable.ofDocuments external documents) = .ok written ∧
        (parts written).mapM make = .ok group) documents groups ∧
      results = groups.flatten := by
  obtain ⟨written, read, rfl⟩ := create_eq_ok_readAs.mp created
  obtain ⟨groups, grouped, rfl⟩ := mapM_flatMap_eq_ok.mp made
  have both := mapM_eq_ok.mp (mapM_bind_eq_ok read grouped)
  exact ⟨groups, both.imp fun _ _ => bind_eq_ok.mp, rfl⟩

end Generator

/-- The types of the variables of several documents are those of each one. -/
theorem Document.mem_variableTypeNames_iff {documents : List Document} {name : String} :
    name ∈ variableTypeNames documents ↔
      ∃ document ∈ documents, name ∈ variableTypeNames [document] := by
  simp only [variableTypeNames_eq, List.mem_eraseDups, List.flatMap_singleton, List.mem_flatMap,
    List.mem_map]
  constructor
  · rintro ⟨_, ⟨operation, ⟨document, given, own⟩, rfl⟩, listed⟩
    exact ⟨document, given, _, ⟨operation, own, rfl⟩, listed⟩
  · rintro ⟨document, given, _, ⟨operation, own, rfl⟩, listed⟩
    exact ⟨_, ⟨operation, ⟨document, given, own⟩, rfl⟩, listed⟩

/-! ### One module and several -/

namespace SiblingModules

variable {siblings : SiblingModules} {placed : PlacedDocument}

/-- The sections of the module of a document. -/
def SectionsAt (siblings : SiblingModules) (placed : PlacedDocument) (sections : ModuleSections) :
    Prop :=
  ∃ path generated fragments, siblings.moduleOf placed = .ok (path, generated) ∧
    siblings.siblingFragments placed.path path = .ok fragments ∧
    ModuleSections.Of siblings.schema siblings.settings [placed.document]
      (siblings.external ++ fragments) generated sections

/-- The module of a document is generated with the fragments of the others as external ones. -/
theorem moduleOf_eq_ok {path : FilePath} {generated : GeneratedModule} :
    siblings.moduleOf placed = .ok (path, generated) ↔
      siblings.modulePath placed.path = .ok path ∧
      ∃ fragments, siblings.siblingFragments placed.path path = .ok fragments ∧
        generateModule siblings.schema siblings.settings [placed.document]
          (siblings.external ++ fragments) = .ok generated := by
  unfold moduleOf
  simp only [bind_eq_ok, mapError_eq_ok, pure, Except.pure, Except.ok.injEq, Prod.mk.injEq]
  constructor
  · rintro ⟨_, isPath, fragments, imported, _, made, rfl, rfl⟩
    exact ⟨isPath, fragments, imported, made⟩
  · rintro ⟨isPath, fragments, imported, made⟩
    exact ⟨path, isPath, fragments, imported, generated, made, rfl, rfl⟩

/-- Where the operations have names, the module of a document has sections. -/
theorem exists_sectionsAt (named : ∀ operation ∈ placed.document.operations, operation.name.isSome)
    {result : FilePath × GeneratedModule} (made : siblings.moduleOf placed = .ok result) :
    ∃ sections, siblings.SectionsAt placed sections := by
  obtain ⟨path, generated⟩ := result
  obtain ⟨-, fragments, imported, own⟩ := moduleOf_eq_ok.mp made
  obtain ⟨sections, has⟩ := Generator.exists_sections
    (by simpa only [List.forall_mem_singleton] using named) own
  exact ⟨sections, path, generated, fragments, made, imported, has⟩

/-- The sections of the operations and fragments of a document are the same in its own module as in
the module of all documents. -/
theorem eq_of_sectionsAt (distinctPaths : (siblings.documents.map PlacedDocument.path).Nodup)
    (distinctNames : ((siblings.documents.flatMap fun placed => placed.document.fragments).map
      Fragment.name).Nodup) (listed : placed ∈ siblings.documents) {generator : Generator}
    (created : Generator.create siblings.schema siblings.settings
      (siblings.documents.map PlacedDocument.document) siblings.external = .ok generator)
    {part : ModuleSections} (has : siblings.SectionsAt placed part) {written : Document}
    (isWritten : placed.document.readAs siblings.settings (FragmentTable.ofDocuments
        siblings.external (siblings.documents.map PlacedDocument.document)) = .ok written) :
    (∀ operations, written.operations.mapM (fun operation =>
        (generator.operationDeclarations 0 operation).1) = .ok operations →
        part.operations = operations) ∧
      ∀ fragments, written.fragments.mapM generator.fragmentDeclarations = .ok fragments →
        part.fragments = fragments := by
  obtain ⟨_, _, _, -, imported, other, created', divides, -⟩ := has
  obtain ⟨_, isOwn, documents, operationsLike, fragmentsLike⟩ :=
    Generator.exists_readAs_of_create
      (findsSame_siblings distinctPaths distinctNames listed imported) created created'
  cases isWritten.symm.trans isOwn
  -- The module of the document has its operations and fragments alone, in the order of the text.
  have ownOperations := divides.operations
  have ownFragments := divides.fragments
  rw [Generator.operations, documents, List.flatMap_singleton] at ownOperations
  rw [Generator.fragments, documents, List.flatMap_singleton] at ownFragments
  refine ⟨fun operations isOperations => ?_, fun fragments isFragments => ?_⟩
  · exact (mapM_unique (fun operation inside _ _ first second =>
      Generator.operationDeclarations_unique (operationsLike operation inside) first second)
      isOperations ownOperations).symm
  · exact (mapM_unique (fun fragment inside _ _ first second =>
      Generator.fragmentDeclarations_unique (fragmentsLike fragment inside) first second)
      isFragments ownFragments).symm

/-- A supporting type of the module of all documents is one of the module of a document. -/
theorem mem_supporting_of_siblings {generator : Generator}
    (created : Generator.create siblings.schema siblings.settings
      (siblings.documents.map PlacedDocument.document) siblings.external = .ok generator)
    {sections : ModuleSections} (divides : generator.Divides sections) {parts : List ModuleSections}
    (each : List.Forall₂ siblings.SectionsAt siblings.documents parts)
    {declaration : TypeScript.Declaration} :
    declaration ∈ sections.supporting ↔ ∃ part ∈ parts, declaration ∈ part.supporting := by
  rw [Generator.mem_supporting created divides.supporting]
  constructor
  · -- What one seed needs is needed in the module of a document that has the seed.
    rintro ⟨type, isOwn, fielded, needed, rfl⟩
    obtain ⟨name, seed, needed⟩ := Schema.needs_iff_exists.mp needed
    obtain ⟨document, given, own⟩ := Document.mem_variableTypeNames_iff.mp seed
    obtain ⟨placed, listed, rfl⟩ := List.mem_map.mp given
    obtain ⟨part, isPart, _, _, _, -, -, other, created', divides', -⟩ :=
      Lists.exists_of_mem_left each listed
    refine ⟨part, isPart, (Generator.mem_supporting created' divides'.supporting).mpr ?_⟩
    exact ⟨type, isOwn, fielded,
      needed.mono (List.cons_subset.mpr ⟨own, List.nil_subset _⟩), rfl⟩
  · rintro ⟨part, isPart, inside⟩
    obtain ⟨placed, listed, _, _, _, -, -, other, created', divides', -⟩ :=
      Lists.exists_of_mem_right each isPart
    obtain ⟨type, isOwn, fielded, needed, rfl⟩ :=
      (Generator.mem_supporting created' divides'.supporting).mp inside
    refine ⟨type, isOwn, fielded, needed.mono fun name seed => ?_, rfl⟩
    exact Document.mem_variableTypeNames_iff.mpr ⟨_, List.mem_map_of_mem listed, seed⟩

/-- One module of several documents has the same sections as the modules of the documents, each with
the fragments of the others as external ones: those of the operations and fragments in order, and a
supporting type exactly if one of them has it. -/
theorem sections_of_siblings (siblings : SiblingModules) {single : GeneratedModule}
    (distinctPaths : (siblings.documents.map PlacedDocument.path).Nodup)
    (named : ∀ placed ∈ siblings.documents, ∀ operation ∈ placed.document.operations,
      operation.name.isSome)
    (distinctNames : ((siblings.documents.flatMap fun placed => placed.document.fragments).map
      Fragment.name).Nodup)
    (together : generateModule siblings.schema siblings.settings
      (siblings.documents.map PlacedDocument.document) siblings.external = .ok single)
    (apart : ∀ placed ∈ siblings.documents, ∃ result, siblings.moduleOf placed = .ok result) :
    ∃ sections parts,
      ModuleSections.Of siblings.schema siblings.settings
        (siblings.documents.map PlacedDocument.document) siblings.external single sections ∧
      List.Forall₂ siblings.SectionsAt siblings.documents parts ∧
      sections.operations = parts.flatMap ModuleSections.operations ∧
      sections.fragments = parts.flatMap ModuleSections.fragments ∧
      ∀ declaration, declaration ∈ sections.supporting ↔
        ∃ part ∈ parts, declaration ∈ part.supporting := by
  obtain ⟨sections, generator, created, divides, content⟩ := Generator.exists_sections
    (fun document given => by
      obtain ⟨placed, listed, rfl⟩ := List.mem_map.mp given
      exact named placed listed) together
  obtain ⟨parts, each⟩ := Lists.exists_forall₂ fun placed listed =>
    let ⟨_, made⟩ := apart placed listed
    exists_sectionsAt (named placed listed) made
  refine ⟨sections, parts, ⟨generator, created, divides, content⟩, each, ?_, ?_,
    fun declaration => ?_⟩
  · -- The sections of the operations come document by document, as those of the modules do.
    obtain ⟨groups, grouped, same⟩ := Generator.groups_of_create created divides.operations
    rw [List.forall₂_map_left_iff] at grouped
    rw [same, List.flatMap_def, Lists.map_eq_of_forall₂ (fun placed listed group part own has => ?_)
      grouped each]
    obtain ⟨written, isWritten, made⟩ := own
    exact (eq_of_sectionsAt distinctPaths distinctNames listed created has isWritten).1 group made
  · obtain ⟨groups, grouped, same⟩ := Generator.groups_of_create created divides.fragments
    rw [List.forall₂_map_left_iff] at grouped
    rw [same, List.flatMap_def, Lists.map_eq_of_forall₂ (fun placed listed group part own has => ?_)
      grouped each]
    obtain ⟨written, isWritten, made⟩ := own
    exact (eq_of_sectionsAt distinctPaths distinctNames listed created has isWritten).2 group made
  · exact mem_supporting_of_siblings created divides each

/-! ### A fragment of another document -/

/-- A query about pets that spreads a fragment. -/
def befriendedQuery : Operation :=
  ⟨.query, some "Pets", [], [], [.field ⟨none, "pet", [], []⟩ [.spread "Befriended" []]]⟩

/-- The query is in one document, and the fragment in another. -/
def pets : SiblingModules where
  schema := Schema.pets
  settings := {}
  external := []
  directory := []
  extension := ".generated.ts"
  documents := [⟨⟨0, ["pets.graphql"]⟩, ⟨[.operation befriendedQuery]⟩⟩,
    ⟨⟨0, ["friends.graphql"]⟩, ⟨[.fragment befriended]⟩⟩]

/-- There is one module of both documents. -/
theorem exists_together_pets : ∃ generated, generateModule pets.schema pets.settings
    (pets.documents.map PlacedDocument.document) pets.external = .ok generated := by
  refine Generator.exists_generateModule rfl (exists_supporting_pets {})
    (fun operation listed => ?_) (fun fragment listed => ?_) (exists_ok rfl)
  · cases List.mem_singleton.mp (show operation ∈ [befriendedQuery] from listed)
    refine ⟨rfl, "Query", rfl, Generator.exists_part_iff.mpr ?_⟩
    exact ⟨exists_ok (by cbv), exists_ok (by decide +kernel)⟩
  · cases List.mem_singleton.mp (show fragment ∈ [befriended] from listed)
    exact Generator.exists_part_iff.mpr ⟨exists_ok (by cbv), exists_ok (by cbv)⟩

/-- The fragment as the module of the query imports it. -/
def importedFragment : LoadedFragment :=
  ⟨befriended, true, some "./friends.generated"⟩

/-- The query that spreads the fragment has a module. -/
theorem exists_module_befriendedQuery : ∃ generated, generateModule Schema.pets {}
    [⟨[.operation befriendedQuery]⟩] [importedFragment] = .ok generated := by
  refine Generator.exists_generateModule rfl (exists_supporting_pets {})
    (fun operation listed => ?_)
    (fun fragment listed => nomatch (show fragment ∈ [] from listed)) ?_
  · cases List.mem_singleton.mp (show operation ∈ [befriendedQuery] from listed)
    refine ⟨rfl, "Query", rfl, Generator.exists_part_iff.mpr ?_⟩
    exact ⟨exists_ok (by cbv), exists_ok (by decide +kernel)⟩
  · refine Generator.exists_fragmentImports fun loaded listed => ?_
    cases List.mem_singleton.mp (show loaded ∈ [importedFragment] from listed)
    exact exists_ok (by decide +kernel)

/-- The fragment has a module. -/
theorem exists_module_befriended :
    ∃ generated, generateModule Schema.pets {} [⟨[.fragment befriended]⟩] [] = .ok generated := by
  refine Generator.exists_generateModule rfl (exists_supporting_pets {})
    (fun operation listed => nomatch (show operation ∈ [] from listed))
    (fun fragment listed => ?_) (exists_ok rfl)
  cases List.mem_singleton.mp (show fragment ∈ [befriended] from listed)
  exact Generator.exists_part_iff.mpr ⟨exists_ok (by cbv), exists_ok (by cbv)⟩

/-- The module of the query imports the fragment from the module of the other document. -/
theorem siblingFragments_pets :
    pets.siblingFragments ⟨0, ["pets.graphql"]⟩ ⟨0, ["pets.generated.ts"]⟩
      = .ok [importedFragment] := by
  have specifier : importSpecifier [] ⟨0, ["friends.generated.ts"]⟩ ⟨0, ["pets.generated.ts"]⟩
      = "./friends.generated" := by decide +kernel
  have path : pets.modulePath ⟨0, ["friends.graphql"]⟩ = .ok ⟨0, ["friends.generated.ts"]⟩ := by
    decide +kernel
  have imported : pets.importableFragments ⟨0, ["pets.generated.ts"]⟩
      ⟨⟨0, ["friends.graphql"]⟩, ⟨[.fragment befriended]⟩⟩ = .ok [importedFragment] := by
    refine bind_eq_ok.mpr ⟨_, path, ?_⟩
    rw [importedFragment, ← specifier]
    rfl
  exact bind_eq_ok.mpr ⟨[[importedFragment]], mapM_eq_ok.mpr (.cons imported .nil), rfl⟩

/-- Each document has a module. That of the query imports the fragment. -/
theorem exists_apart_pets : ∀ placed ∈ pets.documents, ∃ result,
    pets.moduleOf placed = .ok result := by
  rw [pets, List.forall_mem_cons, List.forall_mem_singleton]
  constructor
  · obtain ⟨generated, made⟩ := exists_module_befriendedQuery
    refine ⟨⟨⟨0, ["pets.generated.ts"]⟩, generated⟩, moduleOf_eq_ok.mpr ⟨by decide +kernel, ?_⟩⟩
    exact ⟨[importedFragment], siblingFragments_pets, made⟩
  · obtain ⟨generated, made⟩ := exists_module_befriended
    refine ⟨⟨⟨0, ["friends.generated.ts"]⟩, generated⟩, moduleOf_eq_ok.mpr ⟨by decide +kernel, ?_⟩⟩
    exact ⟨[], rfl, made⟩

/-- The sections of the query and of the fragment are the same in one module and in two. -/
theorem sections_of_pets :
    (pets.documents.map PlacedDocument.path).Nodup ∧
    ∃ single, generateModule pets.schema pets.settings
        (pets.documents.map PlacedDocument.document) pets.external = .ok single ∧
    (∀ placed ∈ pets.documents, ∃ result, pets.moduleOf placed = .ok result) ∧
    ∃ sections parts,
      ModuleSections.Of pets.schema pets.settings (pets.documents.map PlacedDocument.document)
        pets.external single sections ∧
      List.Forall₂ pets.SectionsAt pets.documents parts ∧
      sections.operations = parts.flatMap ModuleSections.operations ∧
      sections.fragments = parts.flatMap ModuleSections.fragments := by
  obtain ⟨single, together⟩ := exists_together_pets
  have distinct : (pets.documents.map PlacedDocument.path).Nodup := by decide +kernel
  obtain ⟨sections, parts, whole, each, operations, fragments, -⟩ :=
    sections_of_siblings pets distinct (by decide +kernel) (by decide +kernel) together
      exists_apart_pets
  exact ⟨distinct, single, together, exists_apart_pets, sections, parts, whole, each, operations,
    fragments⟩

end SiblingModules

end SelectionTypes

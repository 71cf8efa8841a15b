import SelectionTypes.Proofs.Generation.EnumReferences
import SelectionTypes.Proofs.Generation.WrittenTexts

/-!
# `SelectionTypes.Proofs.Generation.Warnings`: the warning about a missing import

A module that refers into the global module has to import it. Without a path there is no import, and
the module is warned about. The warning looks for the mark of the global module in the whole text,
so it does not miss a reference, but other texts may have the mark, too.

`GivenAreClear` says of what a module is made from that names are names and that the texts that are
given freely are clear of a mark. This is kept where fragments are inlined and fields are merged
(`Generator.isClearOf_of_create`). Then the warning is exact: `warning_exact`. Otherwise it need not
be: a description with the mark is enough (`warned_filterQuery`).
-/

set_option autoImplicit false

namespace SelectionTypes

open Outcome
open TypeScript (TypeExpr Declaration ReferToGlobal)
open Text (isClearOf_of_not_mem)

variable {schema : Schema} {settings : Settings} {documents written : List Document}
variable {external : List LoadedFragment} {generator : Generator} {unnamed : Nat}
variable {generated : GeneratedModule} {mark : List Char}

/-! ### What is given -/

/-- The fields that documents and external fragments select, at any depth. -/
def givenFields (documents : List Document) (external : List LoadedFragment) : List FieldHead :=
  (documents.flatMap Document.selectionSets
    ++ external.map fun loaded => loaded.fragment.selections).flatMap Selection.headsOf

/-- The names that a module can be written with. -/
def givenNames (schema : Schema) (documents : List Document) (external : List LoadedFragment) :
    List String :=
  schema.types.flatMap TypeDefinition.names
    ++ (documents.flatMap Document.operations).flatMap Operation.names
    ++ (documents.flatMap Document.fragments).map Fragment.name
    ++ (givenFields documents external).map FieldHead.responseKey

/-- The texts that a module can be written with and that need not be names: the ends of type names,
the texts of scalars, the comments of types with fields, and the names of exports. -/
def givenTexts (schema : Schema) (settings : Settings) (documents : List Document)
    (external : List LoadedFragment) : List String :=
  [settings.typesPrefix, settings.typesSuffix]
    ++ settings.scalars.flatMap (fun entry => [entry.2.input, entry.2.output])
    ++ (schema.ownTypes.filter fun type => type.kind.isFielded).flatMap TypeDefinition.comments
    ++ (givenFields documents external).filterMap fun head => head.exportName.toOption

/-- Given names are names, and given texts are clear of a mark. -/
structure GivenAreClear (schema : Schema) (settings : Settings) (documents : List Document)
    (external : List LoadedFragment) (mark : List Char) : Prop where
  names : ∀ name ∈ givenNames schema documents external, IsPlain name
  texts : ∀ text ∈ givenTexts schema settings documents external, Text.IsClearOf mark text.toList

/-- A field with the directives of another one keeps its key and has the export of the other. -/
theorem FieldHead.IsClearOf.join {first later : FieldHead} (clear : first.IsClearOf mark)
    (also : later.IsClearOf mark) :
    FieldHead.IsClearOf mark { first with directives := later.directives } where
  key := clear.key
  exported name isName := also.exported name
    ((@FieldHead.exportName_congr { first with directives := later.directives } later rfl name).mp
      isName)

namespace GivenAreClear

variable (given : GivenAreClear schema settings documents external mark)

include given

/-- Each given field has a name for its key, and its export is clear of the mark. -/
theorem forall_fields : ∀ head ∈ givenFields documents external, head.IsClearOf mark :=
  fun head inside =>
    { key := given.names _ (List.mem_append_right _ (List.mem_map_of_mem inside))
      exported := fun name isName => given.texts name (List.mem_append_right _
        (List.mem_filterMap.mpr ⟨head, inside, by rw [isName]; rfl⟩)) }

/-- So the selections of a given document are clear of the mark. -/
theorem selections {document : Document} (isGiven : document ∈ documents)
    {selections : List Selection} (own : selections ∈ document.selectionSets) :
    Selection.AreClearOf mark selections :=
  fun head inside => given.forall_fields head (List.mem_flatMap_of_mem
    (List.mem_append_left _ (List.mem_flatMap_of_mem isGiven own)) inside)

/-- An operation of a given document has names that are names, and clear selections. -/
theorem operation {document : Document} (isGiven : document ∈ documents) {operation : Operation}
    (listed : operation ∈ document.operations) :
    (∀ name ∈ operation.names, IsPlain name) ∧ Selection.AreClearOf mark operation.selections := by
  refine ⟨fun name inside => given.names name ?_,
    given.selections isGiven (Document.mem_selectionSets.mpr (.inl ⟨_, listed, rfl⟩))⟩
  exact List.mem_append_left _ (List.mem_append_left _ (List.mem_append_right _
    (List.mem_flatMap_of_mem (List.mem_flatMap_of_mem isGiven listed) inside)))

/-- A fragment of a given document is named by a name and has clear selections. -/
theorem fragment {document : Document} (isGiven : document ∈ documents) {fragment : Fragment}
    (listed : fragment ∈ document.fragments) :
    IsPlain fragment.name ∧ Selection.AreClearOf mark fragment.selections := by
  refine ⟨given.names _ ?_,
    given.selections isGiven (Document.mem_selectionSets.mpr (.inr ⟨_, listed, rfl⟩))⟩
  exact List.mem_append_left _ (List.mem_append_right _
    (List.mem_map_of_mem (List.mem_flatMap_of_mem isGiven listed)))

/-- The fragments of a table of clear fragments and external ones are clear. -/
theorem table (fragments : ∀ document ∈ written, ∀ fragment ∈ document.fragments,
      Selection.AreClearOf mark fragment.selections) :
    ∀ loaded ∈ FragmentTable.ofDocuments external written,
      Selection.AreClearOf mark loaded.fragment.selections := by
  intro loaded inside
  rcases FragmentTable.mem_of_mem_ofDocuments inside with isExternal | ⟨document, isWritten, own⟩
  · exact fun head below => given.forall_fields head (List.mem_flatMap_of_mem
      (List.mem_append_right _ (List.mem_map_of_mem isExternal)) below)
  · obtain ⟨fragment, listed, rfl⟩ := List.mem_map.mp own
    exact fragments document isWritten fragment listed

/-- Optimized operations are clear: their fields are those of the operation and of fragments, and a
merged field has the directives of one of them. -/
theorem optimized (optimizes : Document.optimizeAll documents external = .ok written)
    {document : Document} (isWritten : document ∈ written) {operation : Operation}
    (listed : operation ∈ document.operations) :
    (∀ name ∈ operation.names, IsPlain name) ∧ Selection.AreClearOf mark operation.selections := by
  obtain ⟨source, isGiven, operations, -⟩ :=
    Lists.exists_of_mem_right (optimizeAll_eq_ok optimizes) isWritten
  obtain ⟨original, isOriginal, optimizesOne⟩ := Lists.exists_of_mem_right operations listed
  obtain ⟨inlined, inlines, assembled⟩ := bind_eq_ok.mp optimizesOne
  cases assembled
  obtain ⟨plain, areClear⟩ := given.operation isGiven isOriginal
  refine ⟨plain, Selection.forall_headsOf_merge (fun _ _ => .join) fun head inside => ?_⟩
  -- A field of the inlined operation is its own or one of a fragment, both of which are given.
  rcases Selection.mem_headsOf_inlineWithin inlines inside with own | ⟨loaded, inTable, own⟩
  · exact areClear head own
  · exact given.table (fun _ isGiven _ listed => (given.fragment isGiven listed).2) loaded inTable
      head own

/-- What is given with a schema is clear as a scope. -/
theorem scope (ends : mark.getLast? = some '.') : Scope.IsClearOf { schema, settings } mark where
  ends := ends
  opening := given.texts _ (by simp [givenTexts])
  closing := given.texts _ (by simp [givenTexts])
  scalars := by
    intro entry listed side
    -- Only the settings can bring a dot into the table of scalars.
    rcases Schema.mem_of_mem_scalarTable listed with own | builtIn | any
    · refine given.texts _ (List.mem_append_left _ (List.mem_append_left _
        (List.mem_append_right _ (List.mem_flatMap_of_mem own ?_))))
      cases side <;> simp [ScalarTypes.on]
    · have texts : ∀ entry ∈ builtInScalarTypes, '.' ∉ (entry.2.on side).toList := by
        cases side <;> decide
      exact isClearOf_of_not_mem ends (texts entry builtIn)
    · rw [any]
      exact isClearOf_of_not_mem ends (by cases side <;> decide)
  names := fun type inside name own => given.names name (List.mem_append_left _
    (List.mem_append_left _ (List.mem_append_left _ (List.mem_flatMap_of_mem inside own))))
  comments := fun type inside fielded comment own => given.texts comment (List.mem_append_left _
    (List.mem_append_right _
      (List.mem_flatMap_of_mem (List.mem_filter.mpr ⟨inside, fielded⟩) own)))

end GivenAreClear

/-- A generator that is made from what is clear is clear. -/
theorem Generator.isClearOf_of_create (wellFormed : schema.WellFormed)
    (ends : mark.getLast? = some '.')
    (given : GivenAreClear schema settings documents external mark)
    (created : create schema settings documents external = .ok generator) :
    generator.IsClearOf mark := by
  obtain ⟨written, isWritten, rfl⟩ := create_eq_ok.mp created
  -- Optimizing joins selections of the documents and of the fragments, which are clear.
  have read : ∀ document ∈ written,
      (∀ operation ∈ document.operations, (∀ name ∈ operation.names, IsPlain name) ∧
        Selection.AreClearOf mark operation.selections) ∧
      ∀ fragment ∈ document.fragments,
        IsPlain fragment.name ∧ Selection.AreClearOf mark fragment.selections := by
    intro document isRead
    split at isWritten
    · refine ⟨fun operation => given.optimized isWritten isRead, ?_⟩
      rw [fragments_of_optimizeAll isWritten document isRead]
      exact List.forall_mem_nil _
    · cases isWritten
      exact ⟨fun operation => given.operation isRead, fun fragment => given.fragment isRead⟩
  refine ⟨⟨given.scope ends, wellFormed, given.table fun document isRead fragment listed =>
    ((read document isRead).2 fragment listed).2⟩, fun operation listed => ?_,
    fun fragment listed => ?_⟩
  · obtain ⟨document, isRead, own⟩ := List.mem_flatMap.mp listed
    exact (read document isRead).1 operation own
  · obtain ⟨document, isRead, own⟩ := List.mem_flatMap.mp listed
    exact (read document isRead).2 fragment own

/-! ### The warning -/

/-- Without a path for the global module, a module is warned about exactly if the mark of the global
module is somewhere in its text. -/
theorem Generator.isSome_warning?_iff (named : generator.settings.namespacedImportName ≠ "")
    (unplaced : generator.settings.baseTypesPath.getD "" = "") (content : String) :
    (generator.warning? content).isSome ↔
      generator.settings.namespaceDot.toList <:+: content.toList := by
  have filled : generator.settings.namespaceDot.isEmpty = false := by
    rw [String.isEmpty_eq_false_iff]
    intro none
    have ends := TypeScript.getLast?_namespaceDot named
    rw [none] at ends
    cases ends
  unfold warning?
  rw [← Text.occursIn_iff_isInfix]
  simp [filled, unplaced]

/-- A module without a path for the global module is warned about exactly if the mark of the global
module is in its text. So it is warned about if a declaration refers there, and for no other cause
if the texts that are given are clear of the mark. -/
theorem warning_exact {sdl : Document} (built : sdl.toSchema = .ok schema)
    (created : Generator.create schema settings documents external = .ok generator)
    (named : settings.namespacedImportName ≠ "") (unplaced : settings.baseTypesPath.getD "" = "")
    (succeeds : (generator.module unnamed).1 = .ok generated) :
    (generated.warning.isSome ↔
      settings.namespaceDot.toList <:+: generated.module.content.toList) ∧
    ∃ declarations, generator.declarations unnamed = .ok declarations ∧
      generated.module.content = TypeScript.renderAll settings declarations ∧
      (ReferToGlobal declarations → generated.warning.isSome) ∧
      (GivenAreClear schema settings documents external settings.namespaceDot.toList →
        (generated.warning.isSome ↔ ReferToGlobal declarations)) := by
  have own : generator.settings = settings :=
    congrArg Scope.settings (Generator.toScope_of_create created)
  subst own
  obtain ⟨declarations, imports, made, -, content, -, warning⟩ := Generator.module_eq_ok.mp succeeds
  have occurs := Generator.isSome_warning?_iff named unplaced generated.module.content
  rw [← warning] at occurs
  -- A reference is written with the mark, which is then in the whole text.
  have warned : ReferToGlobal declarations → generated.warning.isSome := by
    rw [occurs, content]
    exact TypeScript.infix_renderAll named
  refine ⟨occurs, declarations, made, content, warned, fun given => ⟨fun warned => ?_, warned⟩⟩
  -- For the converse, clear texts bring no mark about, so one that is there comes from a reference.
  have clear := Generator.isClearOf_of_create (Document.wellFormed_of_toSchema built)
    (TypeScript.getLast?_namespaceDot named) given created
  rw [occurs, content] at warned
  exact TypeScript.referToGlobal_of_infix named
    (Generator.isClearOf_of_declarations clear made) warned

/-! ### A query of a scalar -/

/-- The query selects one field. -/
theorem givenFields_dateQuery :
    givenFields [⟨[.operation dateQuery]⟩] [] = [⟨none, "today", [], []⟩] := by
  cbv

/-- Nothing that is given with the query of a scalar has a dot. -/
theorem givenAreClear_dateQuery (ends : mark.getLast? = some '.') :
    GivenAreClear dateSchema dateSettings [⟨[.operation dateQuery]⟩] [] mark where
  names := by
    -- The names of the whole schema are checked at once, those of introspection included.
    have types : (dateSchema.types.all fun type => type.names.all fun name =>
        name.toList.all Lexeme.isNamePart) = true := by decide +kernel
    unfold givenNames
    rw [givenFields_dateQuery]
    simp only [List.forall_mem_append, List.forall_mem_flatMap]
    refine ⟨⟨⟨fun type inside => ?_, by decide⟩, by decide⟩, by decide⟩
    exact List.all_eq_true.mp (List.all_eq_true.mp types type inside)
  texts := by
    have plain : ∀ text ∈ givenTexts dateSchema dateSettings [⟨[.operation dateQuery]⟩] [],
        '.' ∉ text.toList := by
      unfold givenTexts
      rw [givenFields_dateQuery]
      decide +kernel
    exact fun text given => isClearOf_of_not_mem ends (plain text given)

/-- The query is warned about, since its scalar is in the table of the global module. -/
theorem warning_dateQuery :
    dateDefinitions.toSchema = .ok dateSchema ∧
    Generator.create dateSchema dateSettings [⟨[.operation dateQuery]⟩] [] = .ok dateGenerator ∧
    dateSettings.namespacedImportName ≠ "" ∧ dateSettings.baseTypesPath.getD "" = "" ∧
    ∃ generated declarations, (dateGenerator.module 0).1 = .ok generated ∧
      dateGenerator.declarations 0 = .ok declarations ∧
      GivenAreClear dateSchema dateSettings [⟨[.operation dateQuery]⟩] []
        dateSettings.namespaceDot.toList ∧
      ReferToGlobal declarations ∧ generated.warning.isSome := by
  have named : dateSettings.namespacedImportName ≠ "" := by decide
  have unplaced : dateSettings.baseTypesPath.getD "" = "" := by decide
  obtain ⟨declarations, made, declaration, listed, type, isType, within⟩ :=
    exists_declarations_dateGenerator
  have imports : dateGenerator.fragmentImports = .ok [] := rfl
  obtain ⟨generated, succeeds⟩ := Generator.exists_module made imports
  have refer : ReferToGlobal declarations :=
    ⟨declaration, listed, type, isType, .scalarEntry "Date" .output, rfl, within⟩
  have given := givenAreClear_dateQuery (TypeScript.getLast?_namespaceDot named)
  -- The declarations that the equivalence speaks of are those of the query.
  obtain ⟨-, declarations', made', -, -, exact⟩ :=
    warning_exact toSchema_dateDefinitions create_dateGenerator named unplaced succeeds
  cases made.symm.trans made'
  exact ⟨toSchema_dateDefinitions, create_dateGenerator, named, unplaced, generated, declarations,
    succeeds, made, given, refer, (exact given).mpr refer⟩

/-! ### A query with a described input type -/

/-- An input type with the mark of the global module in its description. -/
def filterInput : TypeDefinition :=
  ⟨some "Types. of pets", "PetFilter", [], .inputObject [⟨none, "name", .named "String", none, []⟩]⟩

/-- Definitions of the input type and of a query that takes it. -/
def filterDefinitions : Document :=
  ⟨[.type filterInput,
    .type ⟨none, "Query", [], .object []
      [⟨none, "pet", [⟨none, "filter", .named "PetFilter", none, []⟩], .named "String", []⟩]⟩]⟩

/-- The schema of these definitions. -/
def filterSchema : Schema where
  description := none
  roots := [(.query, "Query")]
  types := filterDefinitions.definedTypes ++ ["String", "Boolean"].map Schema.builtInScalar
    ++ Schema.introspectionTypes
  directives := Schema.standardDirectives

/-- The definitions make this schema. -/
theorem toSchema_filterDefinitions : filterDefinitions.toSchema = .ok filterSchema :=
  rfl

/-- A query with a variable of the input type. -/
def filterQuery : Operation :=
  ⟨.query, some "Q", [⟨none, "filter", .named "PetFilter", none, []⟩], [],
    [.field ⟨none, "pet", [⟨"filter", .variable "filter", 0⟩], []⟩ []]⟩

/-- The generator of the query. -/
def filterGenerator : Generator where
  scope :=
    { schema := filterSchema, settings := {},
      fragments := FragmentTable.ofDocuments [] [⟨[.operation filterQuery]⟩] }
  documents := [⟨[.operation filterQuery]⟩]

/-- This is the generator that is created for the query. -/
theorem create_filterGenerator :
    Generator.create filterSchema {} [⟨[.operation filterQuery]⟩] [] = .ok filterGenerator :=
  rfl

/-- The declarations of the query: the input type, the variables and the result. -/
def filterDeclarations : List Declaration :=
  [.object "PetFilter" (some "Types. of pets")
      [({ name := "name", optional := true }, .marked (.named "String") (.text "string"))],
    .object "QQueryVariables" none
      [({ name := "filter", optional := true },
        .marked (.named "PetFilter") (.declared "PetFilter"))],
    .typeAlias "QQuery" (.union [.object
      [({ name := "__typename", optional := true }, .typename "Query"),
        ({ name := "pet", optional := true }, .marked (.named "String") (.text "string"))]])]

/-- The input type is all that the variable needs, and it is declared with its description. -/
theorem supporting_filterGenerator :
    filterGenerator.supporting = .ok (filterDeclarations.take 1) := by
  obtain ⟨written, isWritten⟩ : ∃ written, filterSchema.document = .ok written :=
    exists_ok (by decide +kernel)
  have seeds : Document.variableTypeNames filterGenerator.documents = ["PetFilter"] := by
    decide +kernel
  have required : filterSchema.requiredTypes ["PetFilter"] = ["PetFilter"] := by decide +kernel
  have comment : Text.comment? filterInput.description = some "Types. of pets" := by
    decide +kernel
  unfold Generator.supporting Scope.supportingDeclarations
  rw [seeds]
  show (do return (← filterSchema.supportingTypes ["PetFilter"]).map _) = _
  -- Of the types that are required only the input object is declared.
  rw [Schema.supportingTypes_eq isWritten, required]
  show Except.ok [filterGenerator.scope.typeDeclaration filterInput] = _
  unfold Scope.typeDeclaration
  rw [comment]
  rfl

/-- These are the declarations that the generator makes. -/
theorem declarations_filterGenerator :
    filterGenerator.declarations 0 = .ok filterDeclarations := by
  have own : filterGenerator.operationDeclarations 0 filterQuery =
      (.ok (filterDeclarations.drop 1), 0) := by cbv
  exact Generator.declarations_eq_ok.mpr ⟨_, filterDeclarations.drop 1, [],
    supporting_filterGenerator,
    Generator.operationsDeclarations_cons_eq_ok.mpr ⟨_, 0, [], own, rfl, rfl⟩, rfl, rfl⟩

/-- None of the declarations refers into the global module: under another name, the module would
have to be written somewhere in their types. -/
theorem not_referToGlobal_filterDeclarations : ¬ ReferToGlobal filterDeclarations := by
  rintro ⟨declaration, listed, type, isType, reference, global, within⟩
  let renamed : Settings := { namespacedImportName := "Global" }
  have occurs : renamed.namespaceDot.toList <:+: (type.render renamed).toList :=
    TypeScript.infix_render (TypeScript.getLast?_namespaceDot (by decide)) within
      (TypeScript.infix_of_isGlobal global)
  have absent : ∀ declaration ∈ filterDeclarations, ∀ type ∈ declaration.types,
      'G' ∉ (type.render renamed).toList := by decide +kernel
  exact absent declaration listed type isType (occurs.subset (by decide))

/-- A description with the mark of the global module is warned about, though no declaration refers
there. -/
theorem warned_filterQuery :
    filterDefinitions.toSchema = .ok filterSchema ∧
    Generator.create filterSchema {} [⟨[.operation filterQuery]⟩] [] = .ok filterGenerator ∧
    (∃ generated, (filterGenerator.module 0).1 = .ok generated ∧ generated.warning.isSome) ∧
    filterGenerator.declarations 0 = .ok filterDeclarations ∧
    ¬ ReferToGlobal filterDeclarations := by
  have imports : filterGenerator.fragmentImports = .ok [] := rfl
  obtain ⟨generated, succeeds⟩ :=
    Generator.exists_module declarations_filterGenerator imports
  refine ⟨toSchema_filterDefinitions, create_filterGenerator, ⟨generated, succeeds, ?_⟩,
    declarations_filterGenerator, not_referToGlobal_filterDeclarations⟩
  obtain ⟨declarations, -, made, -, content, -, warning⟩ := Generator.module_eq_ok.mp succeeds
  cases declarations_filterGenerator.symm.trans made
  rw [warning, Generator.isSome_warning?_iff (by decide) rfl, content]
  -- The mark is in the comment of the input type, which is declared first.
  have first : "Types.".toList <:+: ((Declaration.object "PetFilter" (some "Types. of pets")
      [({ name := "name", optional := true },
        .marked (.named "String") (.text "string"))]).render {}).toList :=
    Text.occursIn_iff_isInfix.mp (by decide +kernel)
  exact first.trans (infix_intercalate "\n\n" List.mem_cons_self)

end SelectionTypes

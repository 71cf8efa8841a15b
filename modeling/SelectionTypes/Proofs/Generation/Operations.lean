import SelectionTypes.Generation.Operations
import SelectionTypes.Proofs.Export.Declaration

/-!
# `SelectionTypes.Proofs.Generation.Operations`: the declarations of a module

`Generator.declarations` gives the declarations of a module as data. The content of the module is
what they are written as (`module_eq_ok`).

A module has a part for each operation and for each fragment. `Source` says what the parts are made
from, and `Generator.Part` which declarations a part has. The parts make up the module with
the types that variables need, which refer to no alias:

* `exists_part_of_source`: each operation and each fragment has its part in the module.
* `source_of_mem`: each declaration that refers to an alias belongs to a part.
-/

set_option autoImplicit false

namespace SelectionTypes

open Outcome
open TypeScript (TypeExpr Declaration)

/-- The selections that documents have: those of an operation, on the root type of its kind, and
those of a fragment, on its type. -/
inductive Source (schema : Schema) (documents : List Document) : String → List Selection → Prop
  | operation {document : Document} {operation : Operation} {root : String}
      (given : document ∈ documents) (listed : operation ∈ document.operations)
      (isRoot : schema.root? operation.kind = some root) :
      Source schema documents root operation.selections
  | fragment {document : Document} {fragment : Fragment} (given : document ∈ documents)
      (listed : fragment ∈ document.fragments) :
      Source schema documents fragment.onType fragment.selections

/-- A single document has the selections of its operations and those of its fragments. -/
theorem Source.singleton_iff {schema : Schema} {document : Document} {parent : String}
    {selections : List Selection} :
    Source schema [document] parent selections ↔
      (∃ operation ∈ document.operations, schema.root? operation.kind = some parent ∧
        selections = operation.selections) ∨
      ∃ fragment ∈ document.fragments, parent = fragment.onType ∧
        selections = fragment.selections := by
  constructor
  · intro source
    cases source with
    | operation given listed isRoot =>
      cases List.mem_singleton.mp given
      exact .inl ⟨_, listed, isRoot, rfl⟩
    | fragment given listed =>
      cases List.mem_singleton.mp given
      exact .inr ⟨_, listed, rfl, rfl⟩
  · rintro (⟨operation, listed, isRoot, rfl⟩ | ⟨fragment, listed, rfl, rfl⟩)
    · exact .operation (List.mem_singleton_self _) listed isRoot
    · exact .fragment (List.mem_singleton_self _) listed

/-- An optimized document has the optimized operations and no fragments. -/
theorem Document.optimize_eq_ok {table : FragmentTable} {document optimized : Document}
    (optimizes : document.optimize table = .ok optimized) :
    List.Forall₂ (fun operation result => operation.optimize table = .ok result)
        document.operations optimized.operations ∧
      optimized.fragments = [] := by
  obtain ⟨operations, traversed, assembled⟩ := bind_eq_ok.mp optimizes
  cases assembled
  have own : Document.operations ⟨operations.map .operation⟩ = operations := by
    simp [Document.operations, List.filterMap_map]
  rw [own]
  exact ⟨mapM_eq_ok.mp traversed, by simp [Document.fragments]⟩

namespace Generator

/-! ### The content of a module -/

/-- The declarations of a module, in order. -/
def declarations (generator : Generator) (unnamed : Nat) : Except ModuleError (List Declaration) :=
  match generator.supporting with
  | .error problem => .error (.document problem)
  | .ok supporting =>
    let written : Except GenerationError (List Declaration) := do
      let operations ← (generator.operationsDeclarations unnamed generator.operations).1
      let fragments ← generator.fragments.mapM generator.fragmentDeclarations
      return supporting ++ operations ++ fragments.flatten
    written.mapError .generation

variable {generator : Generator} {unnamed : Nat} {declarations part : List Declaration}
variable {name parent : String} {before : List Declaration} {selections : List Selection}

/-- A generator reads the documents, or the optimized ones if the settings ask for it, and its
fragments are those of what it reads and the external ones. -/
theorem create_eq_ok {schema : Schema} {settings : Settings} {documents : List Document}
    {external : List LoadedFragment} :
    create schema settings documents external = .ok generator ↔
      ∃ written, (if settings.flattenGeneratedTypes then Document.optimizeAll documents external
          else .ok documents) = .ok written ∧
        generator = ⟨{ schema, settings, fragments := FragmentTable.ofDocuments external written },
          written⟩ := by
  unfold create
  by_cases flattens : settings.flattenGeneratedTypes = true
  · rw [if_pos flattens, if_pos flattens, bind_eq_ok]
    simp [pure, Except.pure, eq_comm]
  · rw [if_neg flattens, if_neg flattens]
    simp [pure, Except.pure, bind, Except.bind, eq_comm]

/-- There are declarations exactly if there are those of the supporting types, of the operations and
of the fragments. -/
theorem declarations_eq_ok :
    generator.declarations unnamed = .ok declarations ↔
      ∃ supporting operations fragments, generator.supporting = .ok supporting ∧
        (generator.operationsDeclarations unnamed generator.operations).1 = .ok operations ∧
        generator.fragments.mapM generator.fragmentDeclarations = .ok fragments ∧
        declarations = supporting ++ operations ++ fragments.flatten := by
  unfold Generator.declarations
  cases isSupporting : generator.supporting with
  | error problem => simp
  | ok supporting =>
    simp only [mapError_eq_ok, both_eq_ok, Except.ok.injEq]
    constructor
    · rintro ⟨operations, fragments, first, second, rfl⟩
      exact ⟨supporting, operations, fragments, rfl, first, second, rfl⟩
    · rintro ⟨_, operations, fragments, rfl, first, second, rfl⟩
      exact ⟨operations, fragments, first, second, rfl⟩

/-- A module is made of its declarations and of its imports. -/
theorem moduleOf_eq_ok {generated : GeneratedModule} :
    generator.moduleOf declarations = .ok generated ↔
      ∃ imports, generator.fragmentImports = .ok imports ∧
        generated.module.content = TypeScript.renderAll generator.settings declarations ∧
        generated.module.opening = TypeScript.importLines generator.settings.namespacedImportName
          generator.settings.baseTypesPath (generator.settings.fragmentImports ++ imports) ∧
        generated.warning = generator.warning? generated.module.content := by
  unfold moduleOf
  rw [bind_eq_ok]
  refine exists_congr fun imports => and_congr_right fun _ => ?_
  -- Everything behind the imports is computed from the declarations and cannot fail.
  obtain ⟨⟨opening, content⟩, warning⟩ := generated
  simp only [pure, Except.pure, Except.ok.injEq, GeneratedModule.mk.injEq,
    TypeScript.ModuleText.mk.injEq]
  constructor
  · rintro ⟨⟨rfl, rfl⟩, rfl⟩
    exact ⟨rfl, rfl, rfl⟩
  · rintro ⟨rfl, rfl, rfl⟩
    exact ⟨⟨rfl, rfl⟩, rfl⟩

/-- A module is made exactly if its declarations and its imports are. -/
theorem module_eq_ok {generated : GeneratedModule} :
    (generator.module unnamed).1 = .ok generated ↔
      ∃ declarations imports, generator.declarations unnamed = .ok declarations ∧
        generator.fragmentImports = .ok imports ∧
        generated.module.content = TypeScript.renderAll generator.settings declarations ∧
        generated.module.opening = TypeScript.importLines generator.settings.namespacedImportName
          generator.settings.baseTypesPath (generator.settings.fragmentImports ++ imports) ∧
        generated.warning = generator.warning? generated.module.content := by
  unfold Generator.module
  cases isSupporting : generator.supporting with
  | error problem => simp [declarations_eq_ok, isSupporting]
  | ok supporting =>
    -- The module takes the same steps as its declarations, with the imports behind them.
    simp only [mapError_eq_ok, bind_eq_ok, moduleOf_eq_ok, declarations_eq_ok, isSupporting,
      Except.ok.injEq]
    constructor
    · rintro ⟨operations, first, fragments, second, imports, rest⟩
      exact ⟨_, imports, ⟨supporting, operations, fragments, rfl, first, second, rfl⟩, rest⟩
    · rintro ⟨_, imports, ⟨_, operations, fragments, rfl, first, second, rfl⟩, rest⟩
      exact ⟨operations, first, fragments, second, imports, rest⟩

/-- A generator has a module as soon as it has declarations and imports, since writing them cannot
fail. -/
theorem exists_module {imports : List TypeImport}
    (made : generator.declarations unnamed = .ok declarations)
    (imported : generator.fragmentImports = .ok imports) :
    ∃ generated, (generator.module unnamed).1 = .ok generated := by
  let content := TypeScript.renderAll generator.settings declarations
  let opening := TypeScript.importLines generator.settings.namespacedImportName
    generator.settings.baseTypesPath (generator.settings.fragmentImports ++ imports)
  exact ⟨⟨⟨opening, content⟩, generator.warning? content⟩,
    module_eq_ok.mpr ⟨declarations, imports, made, imported, rfl, rfl, rfl⟩⟩

/-! ### The declarations of one operation -/

/-- Selections have declarations exactly if they have a type and their aliases can be declared. -/
theorem selectionDeclarations_eq_ok :
    generator.selectionDeclarations name parent before selections = .ok part ↔
      ∃ aliases type exported,
        ExportedAlias.collect generator.scope.schema parent selections = .ok aliases ∧
        generator.scope.typeOf parent selections = .ok type ∧
        ExportedAlias.declare generator.scope aliases = .ok exported ∧
        part = before ++ .typeAlias name type :: exported := by
  unfold selectionDeclarations
  simp only [bind_eq_ok, pure, Except.pure, Except.ok.injEq]
  constructor
  · rintro ⟨aliases, collects, type, typed, exported, declares, rfl⟩
    exact ⟨aliases, type, exported, collects, typed, declares, rfl⟩
  · rintro ⟨aliases, type, exported, collects, typed, declares, rfl⟩
    exact ⟨aliases, collects, type, typed, exported, declares, rfl⟩

/-- An operation has declarations exactly if there is a root type of its kind and its selections
have some on it, after the type of its variables. -/
theorem operationDeclarations_eq_ok {operation : Operation} :
    (generator.operationDeclarations unnamed operation).1 = .ok part ↔
      ∃ root, generator.scope.schema.root? operation.kind = some root ∧
        generator.selectionDeclarations (generator.operationName unnamed operation).1 root
          [generator.scope.variablesDeclaration
            ((generator.operationName unnamed operation).1 ++ "Variables")
            operation.declaredVariables] operation.selections = .ok part := by
  unfold operationDeclarations
  cases isRoot : generator.scope.schema.root? operation.kind with
  | none => simp
  | some root => simp

/-! ### Parts -/

/-- The declarations for selections on a type: some that refer to no alias, the type of the
selections, and the aliases that they export. -/
def Part (generator : Generator) (parent : String) (selections : List Selection)
    (part : List Declaration) : Prop :=
  ∃ name before aliases type exported, (∀ declaration ∈ before, declaration.aliases = []) ∧
    ExportedAlias.collect generator.scope.schema parent selections = .ok aliases ∧
    generator.scope.typeOf parent selections = .ok type ∧
    ExportedAlias.declare generator.scope aliases = .ok exported ∧
    part = before ++ .typeAlias name type :: exported

/-- Selections on a type have a part exactly if they have a type and their aliases can be
declared. -/
theorem exists_part_iff :
    (∃ part, generator.Part parent selections part) ↔
      (∃ type, generator.scope.typeOf parent selections = .ok type) ∧
        ∃ exported, (do
          let aliases ← ExportedAlias.collect generator.scope.schema parent selections
          ExportedAlias.declare generator.scope aliases) = .ok exported := by
  constructor
  · rintro ⟨_, _, _, aliases, type, exported, -, collects, typed, declares, rfl⟩
    exact ⟨⟨type, typed⟩, exported, bind_eq_ok.mpr ⟨aliases, collects, declares⟩⟩
  · rintro ⟨⟨type, typed⟩, exported, both⟩
    obtain ⟨aliases, collects, declares⟩ := bind_eq_ok.mp both
    exact ⟨_, "", [], aliases, type, exported, List.forall_mem_nil _, collects, typed, declares,
      rfl⟩

/-- The declarations of selections are a part, behind declarations that refer to no alias. -/
theorem part_of_selectionDeclarations (plain : ∀ declaration ∈ before, declaration.aliases = [])
    (succeeds : generator.selectionDeclarations name parent before selections = .ok part) :
    generator.Part parent selections part := by
  obtain ⟨aliases, type, exported, parts⟩ := selectionDeclarations_eq_ok.mp succeeds
  exact ⟨name, before, aliases, type, exported, plain, parts⟩

/-- The declarations of an operation are a part, after the type of its variables. -/
theorem part_of_operationDeclarations {operation : Operation}
    (succeeds : (generator.operationDeclarations unnamed operation).1 = .ok part) :
    ∃ root, generator.scope.schema.root? operation.kind = some root ∧
      generator.Part root operation.selections part := by
  obtain ⟨root, isRoot, own⟩ := operationDeclarations_eq_ok.mp succeeds
  exact ⟨root, isRoot, part_of_selectionDeclarations
    (List.forall_mem_singleton.mpr (generator.scope.aliases_variablesDeclaration _ _)) own⟩

/-- There are declarations of operations exactly if there are those of the first one and, counted on
from the number behind it, those of the rest. -/
theorem operationsDeclarations_cons_eq_ok {operation : Operation} {operations : List Operation} :
    (generator.operationsDeclarations unnamed (operation :: operations)).1 = .ok declarations ↔
      ∃ first after behind, generator.operationDeclarations unnamed operation = (.ok first, after) ∧
        (generator.operationsDeclarations after operations).1 = .ok behind ∧
        declarations = first ++ behind := by
  rw [operationsDeclarations]
  -- The number behind the first operation is there even where that fails, so the two go together.
  rcases generator.operationDeclarations unnamed operation with ⟨problem | first, after⟩
  · constructor
    · intro succeeds
      cases succeeds
    · rintro ⟨_, _, _, taken, -, -⟩
      cases taken
  · constructor
    · intro succeeds
      obtain ⟨behind, isRest, rfl⟩ := map_eq_ok.mp succeeds
      exact ⟨first, after, behind, rfl, isRest, rfl⟩
    · rintro ⟨_, _, behind, taken, isRest, rfl⟩
      cases taken
      exact map_eq_ok.mpr ⟨behind, isRest, rfl⟩

/-- The declarations of operations are those of each one, under the number that it comes to. -/
theorem parts_of_operationsDeclarations {operations : List Operation}
    (succeeds : (generator.operationsDeclarations unnamed operations).1 = .ok declarations) :
    ∃ parts, declarations = parts.flatten ∧
      List.Forall₂ (fun operation part => ∃ unnamed,
        (generator.operationDeclarations unnamed operation).1 = .ok part) operations parts := by
  induction operations generalizing unnamed declarations with
  | nil =>
    cases succeeds
    exact ⟨[], rfl, .nil⟩
  | cons operation rest ih =>
    obtain ⟨first, after, behind, isFirst, isRest, rfl⟩ :=
      operationsDeclarations_cons_eq_ok.mp succeeds
    obtain ⟨parts, rfl, each⟩ := ih isRest
    exact ⟨first :: parts, rfl, .cons ⟨unnamed, by rw [isFirst]⟩ each⟩

/-- The supporting types refer to no alias. -/
theorem aliases_of_supporting {supporting : List Declaration}
    (succeeds : generator.supporting = .ok supporting) :
    ∀ declaration ∈ supporting, declaration.aliases = [] := by
  unfold Generator.supporting Scope.supportingDeclarations at succeeds
  obtain ⟨types, -, assembled⟩ := bind_eq_ok.mp succeeds
  cases assembled
  intro declaration listed
  obtain ⟨type, -, rfl⟩ := List.mem_map.mp listed
  exact generator.scope.aliases_typeDeclaration type

/-- Selections that have a part have declarations under any name. -/
theorem exists_selectionDeclarations (name : String) (before : List Declaration)
    (isPart : generator.Part parent selections part) :
    ∃ own, generator.selectionDeclarations name parent before selections = .ok own := by
  obtain ⟨_, _, aliases, type, exported, -, collects, typed, declares, -⟩ := isPart
  exact ⟨_, selectionDeclarations_eq_ok.mpr
    ⟨aliases, type, exported, collects, typed, declares, rfl⟩⟩

/-- Operations that have parts have declarations, from any number on. -/
theorem exists_operationsDeclarations (unnamed : Nat) {operations : List Operation}
    (each : ∀ operation ∈ operations, ∃ root part,
      generator.scope.schema.root? operation.kind = some root ∧
        generator.Part root operation.selections part) :
    ∃ own, (generator.operationsDeclarations unnamed operations).1 = .ok own := by
  -- The number that an operation is reached with depends on those in front, so it is left open.
  induction operations generalizing unnamed with
  | nil => exact ⟨[], rfl⟩
  | cons operation rest ih =>
    rw [List.forall_mem_cons] at each
    obtain ⟨⟨root, part, isRoot, isPart⟩, others⟩ := each
    obtain ⟨own, isOwn⟩ := exists_selectionDeclarations
      (generator.operationName unnamed operation).1 [generator.scope.variablesDeclaration
        ((generator.operationName unnamed operation).1 ++ "Variables")
        operation.declaredVariables] isPart
    have first := operationDeclarations_eq_ok.mpr ⟨root, isRoot, isOwn⟩
    obtain ⟨behind, isRest⟩ := ih (generator.operationDeclarations unnamed operation).2 others
    exact ⟨own ++ behind, operationsDeclarations_cons_eq_ok.mpr
      ⟨own, _, behind, Prod.ext first rfl, isRest, rfl⟩⟩

/-- There are declarations under any number if there are supporting types and if each operation and
each fragment has a part. -/
theorem exists_declarations (unnamed : Nat)
    (supporting : ∃ supporting, generator.supporting = .ok supporting)
    (operations : ∀ operation ∈ generator.operations, ∃ root part,
      generator.scope.schema.root? operation.kind = some root ∧
        generator.Part root operation.selections part)
    (fragments : ∀ fragment ∈ generator.fragments, ∃ part,
      generator.Part fragment.onType fragment.selections part) :
    ∃ declarations, generator.declarations unnamed = .ok declarations := by
  obtain ⟨supporting, isSupporting⟩ := supporting
  obtain ⟨written, isWritten⟩ := exists_operationsDeclarations unnamed operations
  obtain ⟨parts, areParts⟩ := exists_mapM fun fragment listed =>
    (fragments fragment listed).elim fun part isPart =>
      exists_selectionDeclarations (generator.settings.fragmentTypeName fragment.name) [] isPart
  exact ⟨_, declarations_eq_ok.mpr
    ⟨supporting, written, parts, isSupporting, isWritten, areParts, rfl⟩⟩

/-- There are declarations for a document with one operation if there are supporting types and if
the operation has a part. -/
theorem exists_declarations_of_operation (unnamed : Nat) {operation : Operation}
    (documents : generator.documents = [⟨[.operation operation]⟩])
    (supporting : ∃ supporting, generator.supporting = .ok supporting) {root : String}
    (isRoot : generator.scope.schema.root? operation.kind = some root)
    (part : ∃ part, generator.Part root operation.selections part) :
    ∃ declarations, generator.declarations unnamed = .ok declarations := by
  have operations : generator.operations = [operation] := by
    rw [Generator.operations, documents]
    rfl
  have fragments : generator.fragments = [] := by
    rw [Generator.fragments, documents]
    rfl
  -- The operation is the only one, and there are no fragments.
  refine generator.exists_declarations unnamed supporting (fun other listed => ?_) ?_
  · rw [operations] at listed
    cases List.mem_singleton.mp listed
    exact ⟨root, part.imp fun own isPart => ⟨isRoot, isPart⟩⟩
  · rw [fragments]
    exact List.forall_mem_nil _

/-- Each operation and each fragment has its part in the module. -/
theorem exists_part_of_source (succeeds : generator.declarations unnamed = .ok declarations)
    (source : Source generator.scope.schema generator.documents parent selections) :
    ∃ part, part ⊆ declarations ∧ generator.Part parent selections part := by
  obtain ⟨supporting, _, fragments, -, written, traversed, rfl⟩ := declarations_eq_ok.mp succeeds
  cases source with
  | @operation document operation root given listed isRoot =>
    obtain ⟨parts, rfl, each⟩ := parts_of_operationsDeclarations written
    have isOperation := List.mem_flatMap_of_mem given listed
    obtain ⟨part, isPart, unnamed, isOwn⟩ := Lists.exists_of_mem_left each isOperation
    -- An operation has one root type, so the part is that of the source.
    obtain ⟨_, isRoot', own⟩ := part_of_operationDeclarations isOwn
    cases isRoot.symm.trans isRoot'
    refine ⟨part, fun declaration inside => ?_, own⟩
    exact List.mem_append_left _ (List.mem_append_right _ (List.mem_flatten_of_mem isPart inside))
  | @fragment document fragment given listed =>
    have isFragment := List.mem_flatMap_of_mem given listed
    obtain ⟨part, isPart, isOwn⟩ := Lists.exists_of_mem_left (mapM_eq_ok.mp traversed) isFragment
    refine ⟨part, fun declaration inside => ?_,
      part_of_selectionDeclarations (List.forall_mem_nil _) isOwn⟩
    exact List.mem_append_right _ (List.mem_flatten_of_mem isPart inside)

/-- An operation of a module has a root type. -/
theorem exists_root (made : generator.declarations unnamed = .ok declarations)
    {operation : Operation} (listed : operation ∈ generator.operations) :
    ∃ root, generator.scope.schema.root? operation.kind = some root := by
  obtain ⟨_, _, _, -, operations, -, -⟩ := declarations_eq_ok.mp made
  obtain ⟨parts, -, each⟩ := parts_of_operationsDeclarations operations
  obtain ⟨part, -, _, isPart⟩ := Lists.exists_of_mem_left each listed
  obtain ⟨root, isRoot, -⟩ := part_of_operationDeclarations isPart
  exact ⟨root, isRoot⟩

/-- Each declaration of the module that refers to an alias is in the part of an operation or of a
fragment. -/
theorem source_of_mem (succeeds : generator.declarations unnamed = .ok declarations)
    {declaration : Declaration} (listed : declaration ∈ declarations)
    (refers : declaration.aliases ≠ []) :
    ∃ parent selections part, Source generator.scope.schema generator.documents parent selections ∧
      part ⊆ declarations ∧ generator.Part parent selections part ∧ declaration ∈ part := by
  obtain ⟨supporting, _, fragments, isSupporting, written, traversed, rfl⟩ :=
    declarations_eq_ok.mp succeeds
  obtain ⟨parts, rfl, each⟩ := parts_of_operationsDeclarations written
  rcases List.mem_append.mp listed with listed | listed
  · rcases List.mem_append.mp listed with listed | listed
    · exact absurd (aliases_of_supporting isSupporting declaration listed) refers
    · -- Of an operation.
      obtain ⟨part, isPart, inside⟩ := List.mem_flatten.mp listed
      obtain ⟨operation, isOperation, unnamed, isOwn⟩ := Lists.exists_of_mem_right each isPart
      obtain ⟨root, isRoot, own⟩ := part_of_operationDeclarations isOwn
      obtain ⟨document, given, written⟩ := List.mem_flatMap.mp isOperation
      refine ⟨root, _, part, .operation given written isRoot, fun other inPart => ?_, own, inside⟩
      exact List.mem_append_left _ (List.mem_append_right _ (List.mem_flatten_of_mem isPart inPart))
  · -- Of a fragment.
    obtain ⟨part, isPart, inside⟩ := List.mem_flatten.mp listed
    obtain ⟨fragment, isFragment, isOwn⟩ :=
      Lists.exists_of_mem_right (mapM_eq_ok.mp traversed) isPart
    obtain ⟨document, given, written⟩ := List.mem_flatMap.mp isFragment
    refine ⟨fragment.onType, _, part, .fragment given written, fun other inPart => ?_,
      part_of_selectionDeclarations (List.forall_mem_nil _) isOwn, inside⟩
    exact List.mem_append_right _ (List.mem_flatten_of_mem isPart inPart)

end Generator

/-- A module is that of a generator. -/
theorem generateModule_eq_ok {schema : Schema} {settings : Settings} {documents : List Document}
    {external : List LoadedFragment} {generated : GeneratedModule} :
    generateModule schema settings documents external = .ok generated ↔
      ∃ generator, Generator.create schema settings documents external = .ok generator ∧
        (generator.module 0).1 = .ok generated := by
  unfold generateModule
  rw [bind_eq_ok]
  simp only [mapError_eq_ok]

end SelectionTypes

import SelectionTypes.Proofs.CommandLine.ModuleFiles
import SelectionTypes.Proofs.Workspace.FilePath

/-!
# `SelectionTypes.Proofs.CommandLine.LostModules`: the modules that a run leaves

Two documents that lie in one directory and have one name up to the extension share the path of
their modules. `files_of_modules` says what the files hold after a run with a module next to every
document that succeeds: the file at the place of a module holds the text of the last document that
shares it. So no module is lost where no two documents share one, and `lost_module` is a run in
which one is lost.
-/

set_option autoImplicit false

namespace SelectionTypes

open Outcome

/-! ### The places of modules -/

namespace FilePath

variable {directory : PlaceInTree}

/-- Two documents have their modules at one place if they lie in one directory and their names are
the same up to the extension. -/
def SharesModule (directory : PlaceInTree) (first second : FilePath) : Prop :=
  first.parent.placeFrom directory = second.parent.placeFrom directory ∧ first.stem = second.stem

instance (first second : FilePath) : Decidable (SharesModule directory first second) :=
  inferInstanceAs (Decidable (_ ∧ _))

/-- A name with the usual extension is a step into a directory. -/
theorem step_usualExtension (place : PlaceInTree) (stem : String) :
    step place (stem ++ Command.usualExtension) = place ++ [stem ++ Command.usualExtension] := by
  have long : 13 ≤ (stem ++ Command.usualExtension).length := by
    rw [String.length_append]
    exact Nat.le_add_left _ _
  have other (short : String) (isShort : short.length < 13) :
      ((stem ++ Command.usualExtension) == short) = false := by
    rw [beq_eq_false_iff_ne]
    rintro rfl
    omega
  rw [step, other "" (by decide), other "." (by decide), other above (by decide)]
  rfl

/-- Modules with the usual extension lie at one place exactly if their documents share it. -/
theorem placeFrom_eq_iff_sharesModule {first second path other : FilePath}
    (isPath : first.siblingModule? Command.usualExtension = some path)
    (isOther : second.siblingModule? Command.usualExtension = some other) :
    path.placeFrom directory = other.placeFrom directory ↔ SharesModule directory first second := by
  rw [placeFrom_withName isPath, placeFrom_withName isOther, step_usualExtension,
    step_usualExtension, List.append_singleton_inj, String.append_left_inj, SharesModule]

end FilePath

namespace SiblingModules

variable (siblings : SiblingModules)

/-- A document has a module, and the file at the place of the module holds its text. -/
def HasModuleIn (tree : FileTree) (placed : PlacedDocument) : Prop :=
  ∃ path generated, siblings.moduleOf placed = .ok (path, generated) ∧
    tree.read? (path.placeFrom siblings.directory) = some (generated.module.text ++ "\n")

variable {siblings} {placed : PlacedDocument} {path : FilePath} {generated : GeneratedModule}

/-- A document that has a module has a place for it. -/
theorem modulePlace_of_moduleOf (made : siblings.moduleOf placed = .ok (path, generated)) :
    siblings.modulePlace placed.path = .ok (path.placeFrom siblings.directory) :=
  modulePlace_of_modulePath (moduleOf_eq_ok.mp made).1

/-- A file that holds the last text of a place holds that of the last document whose module lies
there. -/
theorem exists_last_of_files {documents : List PlacedDocument} {tree : FileTree}
    (made : ∀ placed ∈ documents, ∃ result, siblings.moduleOf placed = .ok result)
    (files : ∀ place text, documents.reverse.findSome? (siblings.textAt? place) = some text →
      tree.read? place = some text) (listed : placed ∈ documents) :
    ∃ before last behind, documents = before ++ last :: behind ∧
      siblings.modulePlace placed.path = siblings.modulePlace last.path ∧
      (∀ other ∈ behind, siblings.modulePlace placed.path ≠ siblings.modulePlace other.path) ∧
      siblings.HasModuleIn tree last := by
  obtain ⟨⟨path, generated⟩, own⟩ := made placed listed
  have place := modulePlace_of_moduleOf own
  -- There is a text for the place, so there is a last document that gives one.
  have some : (documents.reverse.findSome?
      (siblings.textAt? (path.placeFrom siblings.directory))).isSome := by
    rw [List.findSome?_isSome_iff]
    refine ⟨placed, List.mem_reverse.mpr listed, ?_⟩
    rw [textAt?_of_moduleOf own, if_pos (beq_self_eq_true _)]
    rfl
  obtain ⟨text, found⟩ := Option.isSome_iff_exists.mp some
  obtain ⟨behind, last, before, split, isLast, others⟩ := List.findSome?_eq_some_iff.mp found
  have order : documents = before.reverse ++ last :: behind.reverse := by
    rw [← List.reverse_reverse documents, split]
    simp
  have isListed (other : PlacedDocument) (inside : other ∈ last :: behind.reverse) :
      other ∈ documents := by
    rw [order]
    exact List.mem_append_right _ inside
  obtain ⟨⟨path', generated'⟩, own'⟩ := made last (isListed last List.mem_cons_self)
  rw [textAt?_of_moduleOf own'] at isLast
  split at isLast
  · next same =>
    have same := beq_iff_eq.mp same
    cases isLast
    refine ⟨before.reverse, last, behind.reverse, order, ?_, fun other inside => ?_,
      path', generated', own', ?_⟩
    · rw [place, modulePlace_of_moduleOf own', same]
    · -- A later document of the place would have given its text instead.
      intro shared
      obtain ⟨⟨path'', generated''⟩, own''⟩ :=
        made other (isListed other (List.mem_cons_of_mem _ inside))
      have none := others other (List.mem_reverse.mp inside)
      rw [place, modulePlace_of_moduleOf own'', Except.ok.injEq] at shared
      rw [textAt?_of_moduleOf own'', shared, if_pos (beq_self_eq_true _)] at none
      cases none
    · rw [same]
      exact files _ _ found
  · cases isLast

/-- Where no two modules lie at one place, each file holds the text of its module. -/
theorem hasModuleIn_of_pairwise {documents : List PlacedDocument} {tree : FileTree}
    (made : ∀ placed ∈ documents, ∃ result, siblings.moduleOf placed = .ok result)
    (files : ∀ place text, documents.reverse.findSome? (siblings.textAt? place) = some text →
      tree.read? place = some text)
    (apart : documents.Pairwise fun placed other =>
      siblings.modulePlace placed.path ≠ siblings.modulePlace other.path)
    (listed : placed ∈ documents) : siblings.HasModuleIn tree placed := by
  obtain ⟨before, last, behind, order, same, -, has⟩ := exists_last_of_files made files listed
  have isLast : last ∈ documents := by simp [order]
  rw [eq_of_modulePlace_eq apart listed isLast same]
  exact has

/-- No module puts a text where none of them lies. -/
theorem findSome?_textAt?_eq_none {documents : List PlacedDocument} {place : PlaceInTree}
    (made : ∀ placed ∈ documents, ∃ result, siblings.moduleOf placed = .ok result)
    (elsewhere : ∀ placed ∈ documents, siblings.modulePlace placed.path ≠ .ok place) :
    documents.reverse.findSome? (siblings.textAt? place) = none := by
  rw [List.findSome?_eq_none_iff]
  intro placed listed
  have listed := List.mem_reverse.mp listed
  obtain ⟨⟨path, generated⟩, own⟩ := made placed listed
  have other := elsewhere placed listed
  rw [modulePlace_of_moduleOf own, ne_eq, Except.ok.injEq] at other
  rw [textAt?_of_moduleOf own, if_neg (by simpa using other)]

/-- Two modules with the usual extension lie at one place exactly if their documents share it. -/
theorem modulePlace_eq_iff {other : PlacedDocument}
    (usual : siblings.extension = Command.usualExtension)
    (has : ∃ result, siblings.moduleOf placed = .ok result)
    (hasOther : ∃ result, siblings.moduleOf other = .ok result) :
    siblings.modulePlace placed.path = siblings.modulePlace other.path ↔
      FilePath.SharesModule siblings.directory placed.path other.path := by
  obtain ⟨⟨path, _⟩, made⟩ := has
  obtain ⟨⟨path', _⟩, made'⟩ := hasOther
  have isPath := modulePath_eq_ok.mp (moduleOf_eq_ok.mp made).1
  have isPath' := modulePath_eq_ok.mp (moduleOf_eq_ok.mp made').1
  rw [usual] at isPath isPath'
  rw [modulePlace_of_moduleOf made, modulePlace_of_moduleOf made', Except.ok.injEq,
    FilePath.placeFrom_eq_iff_sharesModule isPath isPath']

end SiblingModules

namespace CommandLine

/-! ### Runs that succeed -/

namespace Run

variable {state after : RunState}

/-- After a run with a module next to every document that succeeds, the file at the place of a
module holds the text of the last document that shares it. So each document has its module in the
tree if no two of them lie in one directory with one name up to the extension. No other file is
changed. -/
theorem files_of_modules {schema : Schema} {loaded : LoadedSettings}
    {external : List LoadedFragment} {paths : List FilePath}
    (succeeds : (operationsNextToDocuments schema loaded external paths
      Command.usualExtension).endFrom state = (.ok (), after)) :
    ∃ documents, paths.mapM state.tree.placed = .ok documents ∧
      let directory := state.tree.workingDirectory
      let siblings := siblingsOf state.tree schema loaded.settings external Command.usualExtension
        documents
      (∀ placed ∈ documents, ∀ other ∈ documents,
        siblings.modulePlace placed.path = siblings.modulePlace other.path ↔
          FilePath.SharesModule directory placed.path other.path) ∧
      (∀ placed ∈ documents, ∃ before last behind, documents = before ++ last :: behind ∧
        FilePath.SharesModule directory placed.path last.path ∧
        (∀ other ∈ behind, ¬ FilePath.SharesModule directory placed.path other.path) ∧
        siblings.HasModuleIn after.tree last) ∧
      (paths.Pairwise (fun path other => ¬ FilePath.SharesModule directory path other) →
        ∀ placed ∈ documents, siblings.HasModuleIn after.tree placed) ∧
      ∀ place, (∀ path ∈ paths, siblings.modulePlace path ≠ .ok place) →
        after.tree.read? place = state.tree.read? place := by
  rw [endFrom_operationsNextToDocuments] at succeeds
  cases isLoaded : paths.mapM state.tree.placed with
  | error problem =>
    rw [isLoaded] at succeeds
    cases (Prod.mk.inj succeeds).1
  | ok documents =>
    rw [isLoaded] at succeeds
    dsimp only at succeeds
    refine ⟨documents, rfl, ?_⟩
    dsimp only
    generalize isSiblings : siblingsOf state.tree schema loaded.settings external
      Command.usualExtension documents = siblings at succeeds ⊢
    have usual : siblings.extension = Command.usualExtension := by
      rw [← isSiblings]
      rfl
    have starts : state.tree.workingDirectory = siblings.directory := by
      rw [← isSiblings]
      rfl
    -- The loop over the documents writes their modules one after the other.
    obtain ⟨-, writes⟩ := forM_writeModuleOf_eq_ok.mp ⟨after, succeeds, rfl⟩
    obtain ⟨made, files⟩ := writes.read? starts
    have map_path := FileTree.map_path_of_placed isLoaded
    rw [starts]
    have places (placed : PlacedDocument) (listed : placed ∈ documents) (other : PlacedDocument)
        (isOther : other ∈ documents) := SiblingModules.modulePlace_eq_iff usual
      (made placed listed) (made other isOther)
    have texts (place : PlaceInTree) (text : String)
        (found : documents.reverse.findSome? (siblings.textAt? place) = some text) :
        after.tree.read? place = some text := by
      rw [files, found, Option.some_or]
    refine ⟨places, fun placed listed => ?_, fun apart placed listed => ?_,
      fun place elsewhere => ?_⟩
    · obtain ⟨before, last, behind, rfl, same, others, has⟩ :=
        SiblingModules.exists_last_of_files made texts listed
      refine ⟨before, last, behind, rfl, (places placed listed last (by simp)).mp same,
        fun other inside shared => others other inside ?_, has⟩
      exact (places placed listed other (by simp [inside])).mpr shared
    · rw [← map_path, List.pairwise_map] at apart
      refine SiblingModules.hasModuleIn_of_pairwise made texts ?_ listed
      exact apart.imp_of_mem fun listed isOther not same =>
        not ((places _ listed _ isOther).mp same)
    · rw [← map_path, List.forall_mem_map] at elsewhere
      rw [files, SiblingModules.findSome?_textAt?_eq_none made elsewhere, Option.none_or]

end Run

/-! ### Two documents with a query each -/

namespace TwoQueries

/-- A query type with one field. -/
def definitions : Document :=
  ⟨[.type ⟨none, "Query", [], .object [] [⟨none, "a", [], .named "Int", []⟩]⟩]⟩

/-- The schema of the definitions. -/
def schema : Schema where
  description := none
  roots := [(.query, "Query")]
  types := definitions.definedTypes ++ ["String", "Int", "Boolean"].map Schema.builtInScalar
    ++ Schema.introspectionTypes
  directives := Schema.standardDirectives

/-- A document with a query of a field. -/
def document (name field : String) : Document :=
  ⟨[.operation ⟨.query, some name, [], [], [.field ⟨none, field, [], []⟩ []]⟩]⟩

/-- The path of a file among the documents. -/
def path (name : String) : FilePath :=
  ⟨0, ["docs", name]⟩

/-- The text of the schema. -/
def schemaText : String :=
  "type Query \x7b a: Int \x7d"

/-- A tree with the schema and two documents. The text of the second one is given. -/
def tree (first second text : String) : FileTree where
  workingDirectory := []
  files := [(["schema.graphql"], schemaText), (["docs", first], "query A \x7b a \x7d"),
    (["docs", second], text)]

/-- A tree with two good documents. -/
def good (first second : String) : FileTree :=
  tree first second "query B \x7b a \x7d"

/-- The modules of the two documents. -/
def siblings (first second : String) (other : Document) : SiblingModules where
  schema
  settings := {}
  external := []
  directory := []
  extension := Command.usualExtension
  documents := [⟨path first, document "A" "a"⟩, ⟨path second, other⟩]

/-- The first query is read from the text of its document. -/
theorem parse_first : Document.parse "query A \x7b a \x7d" = .ok (document "A" "a") := by
  cbv

/-- The second query is read from the text of its document. -/
theorem parse_second : Document.parse "query B \x7b a \x7d" = .ok (document "B" "a") := by
  cbv

/-- A tree in which both paths have texts has both documents, whatever the second of them is. -/
theorem loads {first second text : String} {other : Document}
    (isFirst : (tree first second text).readText? (path first) = some "query A \x7b a \x7d")
    (isSecond : (tree first second text).readText? (path second) = some text)
    (parsed : Document.parse text = .ok other) :
    [path first, path second].mapM (tree first second text).placed =
      .ok (siblings first second other).documents := by
  have load {name text' : String} {document : Document}
      (isText : (tree first second text).readText? (path name) = some text')
      (parsed : Document.parse text' = .ok document) :
      (tree first second text).placed (path name) = .ok ⟨path name, document⟩ := by
    refine map_eq_ok.mpr ⟨document, ?_, rfl⟩
    rw [FileTree.loadDocument, isText]
    exact mapError_eq_ok.mpr parsed
  exact mapM_eq_ok.mpr (.cons (load isFirst parse_first) (.cons (load isSecond parsed) .nil))

/-- No types are needed where there are no variables. -/
theorem exists_supporting : ∃ supporting,
    Scope.supportingDeclarations { schema, settings := {} } [] = .ok supporting :=
  exists_ok (by decide)

/-- A query of the field has a module. -/
theorem exists_module (name : String) :
    ∃ generated, generateModule schema {} [document name "a"] [] = .ok generated := by
  refine Generator.exists_generateModule rfl exists_supporting (fun operation listed => ?_)
    (fun fragment listed => nomatch (show fragment ∈ [] from listed)) (exists_ok rfl)
  cases List.mem_singleton.mp listed
  refine ⟨rfl, "Query", rfl, Generator.exists_part_iff.mpr ?_⟩
  exact ⟨exists_ok (by cbv), exists_ok (by cbv)⟩

/-- Declarations begin with the name of the first one. -/
theorem exists_renderAll_of_typeAlias (settings : Settings) (name : String)
    (type : TypeScript.TypeExpr) (rest : List TypeScript.Declaration) :
    ∃ behind, TypeScript.renderAll settings (.typeAlias name type :: rest) =
      "export type " ++ name ++ behind := by
  have first : TypeScript.Declaration.render settings (.typeAlias name type) =
      "export type " ++ name ++ (" = " ++ (type.render settings ++ ";")) := by
    show "export type " ++ name ++ " = " ++ type.render settings ++ ";" = _
    rw [String.append_assoc, String.append_assoc]
  rw [TypeScript.renderAll, List.map_cons, first]
  cases rest with
  | nil => exact ⟨_, String.intercalate_singleton⟩
  | cons next rest =>
    rw [List.map_cons, String.intercalate_cons_cons, String.append_assoc, String.append_assoc]
    exact ⟨_, rfl⟩

/-- The module of a query begins with the type of its variables. -/
theorem exists_text {first second name : String} {other : Document} {file target : FilePath}
    {generated : GeneratedModule}
    (made : (siblings first second other).moduleOf ⟨file, document name "a"⟩ =
      .ok (target, generated))
    (imported : (siblings first second other).siblingFragments file target = .ok []) :
    ∃ rest, generated.module.text =
      "export type " ++ (Settings.operationTypeName {} .query name ++ "Variables") ++ rest := by
  obtain ⟨-, fragments, isImported, made⟩ := SiblingModules.moduleOf_eq_ok.mp made
  cases imported.symm.trans isImported
  obtain ⟨generator, created, made⟩ := generateModule_eq_ok.mp made
  obtain ⟨declarations, imports, declares, imported, content, opening, -⟩ :=
    Generator.module_eq_ok.mp made
  obtain ⟨supporting, operations, fragments, isSupporting, written, -, rfl⟩ :=
    Generator.declarations_eq_ok.mp declares
  -- The query has no variables, so no supporting type stands in front of its own.
  have unneeded := Generator.supporting_eq_nil created rfl isSupporting
  obtain ⟨parts, rfl, each⟩ := Generator.parts_of_operationsDeclarations written
  cases created
  cases imported
  cases each with
  | @cons _ part _ _ isPart others =>
    cases others
    obtain ⟨unnamed, isPart⟩ := isPart
    have own : Generator.selectionDeclarations _ (Settings.operationTypeName {} .query name) "Query"
        [.typeAlias (Settings.operationTypeName {} .query name ++ "Variables") Scope.noProperties]
        [.field ⟨none, "a", [], []⟩ []] = .ok part := isPart
    obtain ⟨aliases, type, exported, -, -, -, rfl⟩ :=
      Generator.selectionDeclarations_eq_ok.mp own
    have empty : generated.module.opening = [] := opening
    rw [TypeScript.ModuleText.text, empty, if_pos List.isEmpty_nil, content, unneeded,
      List.nil_append, List.flatten_singleton, List.singleton_append, List.cons_append]
    exact exists_renderAll_of_typeAlias _ _ _ _

/-- A query of the field has a module of its own, where no document has fragments. -/
theorem exists_moduleOf {first second name : String} {other : Document} {file target : FilePath}
    (isTarget : (siblings first second other).modulePath file = .ok target)
    (imported : (siblings first second other).siblingFragments file target = .ok []) :
    ∃ generated, (siblings first second other).moduleOf ⟨file, document name "a"⟩ =
      .ok (target, generated) := by
  obtain ⟨generated, made⟩ := exists_module name
  exact ⟨generated, SiblingModules.moduleOf_eq_ok.mpr ⟨isTarget, [], imported, made⟩⟩

/-- A run over two good documents. -/
theorem exists_after (first second : String) (target target' : FilePath)
    (read : (good first second).readText? (path first) = some "query A \x7b a \x7d")
    (read' : (good first second).readText? (path second) = some "query B \x7b a \x7d")
    (isTarget : (siblings first second (document "B" "a")).modulePath (path first) = .ok target)
    (isTarget' : (siblings first second (document "B" "a")).modulePath (path second) = .ok target')
    (imported : (siblings first second (document "B" "a")).siblingFragments (path first) target =
      .ok [])
    (imported' : (siblings first second (document "B" "a")).siblingFragments (path second) target' =
      .ok [])
    (possible : target.isPossible = true ∧ target'.isPossible = true)
    (writes : ∀ text text', ∃ middle last,
      (good first second).writeFile? target text = some middle ∧
        middle.writeFile? target' text' = some last) :
    ∃ after, (Run.operationsNextToDocuments schema {} [] [path first, path second]
        Command.usualExtension).endFrom { tree := good first second } = (.ok (), after) ∧
      Run.Writes (siblings first second (document "B" "a")) (good first second)
        (siblings first second (document "B" "a")).documents after.tree := by
  obtain ⟨generated, made⟩ := exists_moduleOf isTarget imported
  obtain ⟨generated', made'⟩ := exists_moduleOf isTarget' imported'
  obtain ⟨middle, last, written, written'⟩ :=
    writes (generated.module.text ++ "\n") (generated'.module.text ++ "\n")
  -- Both modules are made and written, the second one in the tree that the first leaves.
  have all : Run.Writes (siblings first second (document "B" "a")) (good first second)
      (siblings first second (document "B" "a")).documents last :=
    .cons made possible.1 written (.cons made' possible.2 written' .nil)
  have ends : ∃ after, (Run.operationsNextToDocuments schema {} []
      [path first, path second] Command.usualExtension).endFrom { tree := good first second } =
        (.ok (), after) ∧ after.tree = last :=
    Run.exists_after_of_writes rfl (loads read read' parse_second) all
  obtain ⟨after, succeeds, rfl⟩ := ends
  exact ⟨after, succeeds, all⟩

/-- Two documents of different names. -/
def apart : SiblingModules :=
  siblings "a.graphql" "b.graphql" (document "B" "a")

/-- Two documents whose names differ in the extension only. -/
def shared : SiblingModules :=
  siblings "a.gql" "a.graphql" (document "B" "a")

/-- The run over documents of different names. -/
theorem exists_after_apart :
    ∃ after, (Run.operationsNextToDocuments schema {} []
        [path "a.graphql", path "b.graphql"] Command.usualExtension).endFrom
          { tree := good "a.graphql" "b.graphql" } = (.ok (), after) := by
  have possible : (path "a.generated.ts").isPossible = true ∧
      (path "b.generated.ts").isPossible = true := by decide
  obtain ⟨after, succeeds, -⟩ := exists_after "a.graphql" "b.graphql" (path "a.generated.ts")
    (path "b.generated.ts") rfl rfl (by decide) (by decide) rfl rfl possible
    fun text text' =>
      let written := (good "a.graphql" "b.graphql").write ["docs", "a.generated.ts"] text
      ⟨written, written.write ["docs", "b.generated.ts"] text', rfl, rfl⟩
  exact ⟨after, succeeds⟩

/-- The run over documents whose names differ in the extension only. -/
theorem exists_after_shared :
    ∃ after, (Run.operationsNextToDocuments schema {} []
        [path "a.gql", path "a.graphql"] Command.usualExtension).endFrom
          { tree := good "a.gql" "a.graphql" } = (.ok (), after) ∧
      Run.Writes shared (good "a.gql" "a.graphql") shared.documents after.tree := by
  have possible : (path "a.generated.ts").isPossible = true := by decide
  exact exists_after "a.gql" "a.graphql" (path "a.generated.ts") (path "a.generated.ts") rfl rfl
    (by decide) (by decide) rfl rfl ⟨possible, possible⟩ fun text text' =>
      let written := (good "a.gql" "a.graphql").write ["docs", "a.generated.ts"] text
      ⟨written, written.write ["docs", "a.generated.ts"] text', rfl, rfl⟩

/-- Documents of different names have their modules in the tree. -/
theorem files_of_apart :
    ∃ after, (Run.operationsNextToDocuments schema {} []
        [path "a.graphql", path "b.graphql"] Command.usualExtension).endFrom
          { tree := good "a.graphql" "b.graphql" } = (.ok (), after) ∧
      ∀ placed ∈ apart.documents, apart.HasModuleIn after.tree placed := by
  obtain ⟨after, succeeds⟩ := exists_after_apart
  obtain ⟨documents, isLoaded, -, -, kept, -⟩ := Run.files_of_modules succeeds
  cases (loads rfl rfl parse_second).symm.trans isLoaded
  exact ⟨after, succeeds, kept (by decide)⟩

/-- Two documents in one directory whose names differ in the extension only have one path for their
modules. After the run the file there is not the module of the first document. -/
theorem lost_module :
    (good "a.gql" "a.graphql").documentPaths [⟨0, ["docs"]⟩] = [path "a.gql", path "a.graphql"] ∧
    shared.modulePath (path "a.gql") = .ok (path "a.generated.ts") ∧
    shared.modulePath (path "a.graphql") = .ok (path "a.generated.ts") ∧
    ∃ after, (Run.operationsNextToDocuments schema {} []
        [path "a.gql", path "a.graphql"] Command.usualExtension).endFrom
          { tree := good "a.gql" "a.graphql" } = (.ok (), after) ∧
      ¬ shared.HasModuleIn after.tree ⟨path "a.gql", document "A" "a"⟩ := by
  obtain ⟨after, succeeds, writes⟩ := exists_after_shared
  have isTarget : shared.modulePath (path "a.gql") = .ok (path "a.generated.ts") := by
    decide
  refine ⟨by cbv, isTarget, by decide, after, succeeds, ?_⟩
  rintro ⟨target, generated, made, holds⟩
  cases (SiblingModules.moduleOf_eq_ok.mp made).1.symm.trans isTarget
  -- The module of the second document is written over that of the first.
  obtain ⟨other, made'⟩ : ∃ other, shared.moduleOf ⟨path "a.graphql", document "B" "a"⟩ =
      .ok (path "a.generated.ts", other) := exists_moduleOf (by decide) rfl
  have last : after.tree.read? ((path "a.generated.ts").placeFrom shared.directory) =
      some (other.module.text ++ "\n") := by
    rw [(writes.read? rfl).2]
    show (List.findSome? _ [_, _]).or _ = _
    rw [List.findSome?_cons, SiblingModules.textAt?_of_moduleOf made',
      if_pos (beq_self_eq_true _), Option.some_or]
  have same : generated.module.text = other.module.text :=
    (String.append_left_inj _).mp (Option.some.inj (holds.symm.trans last))
  obtain ⟨rest, own⟩ := exists_text made rfl
  obtain ⟨rest', own'⟩ := exists_text made' rfl
  have names : Settings.operationTypeName {} .query "A" = "AQuery" ∧
      Settings.operationTypeName {} .query "B" = "BQuery" := by decide
  rw [own, own', names.1, names.2] at same
  simp only [String.append_assoc, String.append_right_inj] at same
  have letters := congrArg (fun text => text.toList.head?) same
  simp at letters

end TwoQueries

end CommandLine

end SelectionTypes

import SelectionTypes.Proofs.CommandLine.LostModules

/-!
# `SelectionTypes.Proofs.CommandLine.FailedModules`: what a failing run leaves

`files_of_failed_module` says what a command for operations leaves that fails for want of a module.
With one module for all documents the tree is as it was. With a module next to every document, those
in front of the first that fails have been written, and `changed_by_stopped` is such a run.
-/

set_option autoImplicit false

namespace SelectionTypes

open Outcome

namespace CommandLine

/-! ### Runs that fail for want of a module -/

namespace Run

variable {state after : RunState}

/-- Where all documents have one module, nothing is written before the module is there. -/
theorem eq_of_operationsInFile {schema : Schema} {loaded : LoadedSettings}
    {external : List LoadedFragment} {paths : List FilePath} {output : FilePath}
    {error : ModuleError}
    (fails : (operationsInFile schema loaded external paths output).endFrom state =
      (.error (.module error), after)) : after = state := by
  unfold operationsInFile at fails
  simp only [endFrom_bind, endFrom_tree, endFrom_ofResult] at fails
  -- A load error is another failure, and where there is a module it has been written. What is left
  -- is a module that cannot be made, and nothing comes before that.
  cases isLoaded : state.tree.loadDocuments paths with
  | error problem =>
    rw [isLoaded] at fails
    cases (Prod.mk.inj fails).1
  | ok documents =>
    simp only [isLoaded, Except.mapError] at fails
    cases made : generateModule schema loaded.settings documents external with
    | error problem =>
      rw [made] at fails
      exact (Prod.mk.inj fails).2.symm
    | ok generated =>
      rw [made] at fails
      exact absurd fails writeModule_ne_module

/-- What a command for operations leaves that fails for want of a module. With one module for all
documents the tree is as it was. With a module next to every document, the documents in front of the
first without a module have been written: a file holds the text of the last of them whose module
lies there, or what it held. So the tree is as it was if the first document has no module. -/
theorem files_of_failed_module {schemas paths external : List FilePath}
    {settingsPath : Option FilePath} {output : OutputPlace} {error : ModuleError}
    (fails : (command (.operations schemas paths external settingsPath output)).endFrom state =
      (.error (.module error), after)) :
    (∀ path, output = .file path → after.tree = state.tree) ∧
    ∀ extension, output = .nextToDocuments extension →
      ∃ (inputs : OperationInputs state.tree schemas external settingsPath)
        (written : List PlacedDocument) (failing : PlacedDocument) (behind : List PlacedDocument),
        paths.mapM state.tree.placed = .ok (written ++ failing :: behind) ∧
        let siblings := siblingsOf state.tree inputs.schema inputs.loaded.settings inputs.fragments
          extension (written ++ failing :: behind)
        siblings.moduleOf failing = .error (.module error) ∧
        (∀ placed ∈ written, ∃ result, siblings.moduleOf placed = .ok result) ∧
        (written = [] → after.tree = state.tree) ∧
        ∀ place, after.tree.read? place =
          (written.reverse.findSome? (siblings.textAt? place)).or (state.tree.read? place) := by
  -- If something could not be read, then the command ended for another cause.
  by_cases read : Nonempty (OperationInputs state.tree schemas external settingsPath)
  · obtain ⟨inputs⟩ := read
    rw [endFrom_operations inputs] at fails
    constructor
    · rintro path rfl
      exact congrArg RunState.tree (eq_of_operationsInFile fails)
    · rintro extension rfl
      obtain ⟨written, failing, behind, isLoaded, none, writes⟩ :=
        exists_written_of_operationsNextToDocuments fails
      obtain ⟨made, files⟩ := writes.read? rfl
      refine ⟨inputs, written, failing, behind, isLoaded, none, made, fun nothing => ?_, files⟩
      subst nothing
      generalize after.tree = last at writes
      cases writes
      rfl
  · obtain ⟨failure, early, ends, -, other⟩ :=
      endsEarly_operations (fun inputs => read ⟨inputs⟩) output
    obtain ⟨isFailure, -⟩ := Prod.mk.inj (ends.symm.trans fails)
    exact absurd (Except.error.inj isFailure) (other error)

end Run

/-! ### A document without a module -/

namespace TwoQueries

/-- The second document selects a field that there is not. -/
def stopped : SiblingModules :=
  siblings "a.graphql" "b.graphql" (document "B" "b")

/-- The tree with these documents. -/
def stoppedTree : FileTree :=
  tree "a.graphql" "b.graphql" "query B \x7b b \x7d"

/-- The document that asks for a field `b` is read from its text. -/
theorem parse_wrong : Document.parse "query B \x7b b \x7d" = .ok (document "B" "b") := by
  cbv

/-- The schema of the run is read from its text and the line feed behind it. -/
theorem parse_schemaText : Document.parse (schemaText ++ "\n") = .ok definitions := by
  cbv

/-- The file tree of the run has the text of the schema in one file. -/
theorem schemaText_stoppedTree :
    stoppedTree.schemaText ⟨0, ["schema.graphql"]⟩ = .ok schemaText := by
  have isFile : (stoppedTree.locate? ⟨0, ["schema.graphql"]⟩).filter stoppedTree.isDirectory =
      none := by decide
  have text : (stoppedTree.read? (FilePath.placeFrom stoppedTree.workingDirectory
      ⟨0, ["schema.graphql"]⟩)).map Text.withLineFeeds = some schemaText := by
    decide
  obtain ⟨parsed, parses⟩ : ∃ parsed, Document.parse schemaText = .ok parsed :=
    exists_ok (by cbv)
  simp only [FileTree.schemaText, isFile, FileTree.schemaFileText, text, parses]

/-- The schema is loaded from its file. -/
theorem loadSchema_stoppedTree :
    stoppedTree.loadSchema [⟨0, ["schema.graphql"]⟩] = .ok schema := by
  have texts : [⟨0, ["schema.graphql"]⟩].mapM stoppedTree.schemaText = .ok [schemaText] :=
    mapM_eq_ok.mpr (.cons schemaText_stoppedTree .nil)
  have joined : String.join ([schemaText].map fun text => text ++ "\n") = schemaText ++ "\n" := by
    decide
  have parsed : Schema.parse (schemaText ++ "\n") = .ok schema :=
    bind_eq_ok.mpr ⟨definitions, mapError_eq_ok.mpr parse_schemaText, rfl⟩
  have written : schema.unwritable? = none := by decide
  refine bind_eq_ok.mpr ⟨_, texts, ?_⟩
  simp only [joined, parsed, written]
  rfl

/-- The command reads its inputs. -/
def stoppedInputs : Run.OperationInputs stoppedTree [⟨0, ["schema.graphql"]⟩] [] none where
  schema
  loaded := {}
  documents := []
  isSchema := loadSchema_stoppedTree
  valid := by decide
  isLoaded := rfl
  areDocuments := by cbv

/-- The generator for a document. -/
def generatorOf (document : Document) : Generator where
  scope :=
    { schema, settings := {}, fragments := FragmentTable.ofDocuments [] [document] }
  documents := [document]

/-- The query for a field that its root type does not have fails for that field. -/
theorem operationsDeclarations_wrong :
    ((generatorOf (document "B" "b")).operationsDeclarations 0
      (document "B" "b").operations).1 = .error (.unknownField "b" "Query") := by
  cbv

/-- So does the module of the document with this query. -/
theorem generateModule_wrong : generateModule schema {} [document "B" "b"] [] =
    .error (.generation (.unknownField "b" "Query")) := by
  obtain ⟨supporting, isSupporting⟩ := exists_supporting
  have own : (generatorOf (document "B" "b")).supporting = .ok supporting := isSupporting
  have created : Generator.create schema {} [document "B" "b"] [] =
      .ok (generatorOf (document "B" "b")) := rfl
  have operations : (generatorOf (document "B" "b")).operations =
      (document "B" "b").operations := rfl
  -- No supporting types are needed, so it is up to the operations.
  unfold generateModule
  rw [created]
  show (Generator.module _ 0).1 = _
  unfold Generator.module
  rw [own]
  dsimp only
  rw [operations, operationsDeclarations_wrong]
  rfl

/-- Both documents are loaded: what is wrong with the second one is not its text. -/
theorem loads_stopped :
    [path "a.graphql", path "b.graphql"].mapM stoppedTree.placed = .ok stopped.documents :=
  loads rfl rfl parse_wrong

/-- The command for these documents. -/
def stoppedCommand : Command :=
  .operations [⟨0, ["schema.graphql"]⟩] [path "a.graphql", path "b.graphql"] [] none
    (.nextToDocuments Command.usualExtension)

/-- The command writes the module of the first document, and then it fails for want of the second
one. -/
theorem exists_after_stopped :
    ∃ after, (Run.command stoppedCommand).endFrom { tree := stoppedTree } =
        (.error (.module (.generation (.unknownField "b" "Query"))), after) ∧
      ∃ text, after.tree = stoppedTree.write ["docs", "a.generated.ts"] text := by
  obtain ⟨generated, made⟩ : ∃ generated, stopped.moduleOf ⟨path "a.graphql", document "A" "a"⟩ =
      .ok (path "a.generated.ts", generated) := exists_moduleOf (by decide) rfl
  have none : stopped.moduleOf ⟨path "b.graphql", document "B" "b"⟩ =
      .error (.module (.generation (.unknownField "b" "Query"))) := by
    have isTarget : stopped.modulePath (path "b.graphql") = .ok (path "b.generated.ts") := by
      decide
    have imported : stopped.siblingFragments (path "b.graphql") (path "b.generated.ts") =
        .ok [] := rfl
    unfold SiblingModules.moduleOf
    simp only [isTarget, imported, bind, Except.bind]
    show Except.bind ((generateModule schema {} [document "B" "b"] []).mapError _) _ = _
    rw [generateModule_wrong]
    rfl
  have possible : (path "a.generated.ts").isPossible = true := by decide
  -- What is left is the tree with the module of the first document.
  let last := stoppedTree.write ["docs", "a.generated.ts"] (generated.module.text ++ "\n")
  have writes : Run.Writes stopped stoppedTree
      [⟨path "a.graphql", document "A" "a"⟩] last := .cons made possible rfl .nil
  have ends : ∃ after, (Run.operationsNextToDocuments schema {} []
      [path "a.graphql", path "b.graphql"] Command.usualExtension).endFrom { tree := stoppedTree } =
        (.error (.module (.generation (.unknownField "b" "Query"))), after) ∧ after.tree = last :=
    Run.exists_after_of_stopped rfl loads_stopped writes none rfl
  obtain ⟨after, fails, isLast⟩ := ends
  refine ⟨after, ?_, _, isLast⟩
  rw [stoppedCommand, Run.endFrom_operations stoppedInputs]
  exact fails

/-- The file that the command leaves is that of the first document. -/
theorem files_of_stopped :
    ∃ after, (Run.command stoppedCommand).endFrom { tree := stoppedTree } =
        (.error (.module (.generation (.unknownField "b" "Query"))), after) ∧
      ∃ inputs : Run.OperationInputs stoppedTree [⟨0, ["schema.graphql"]⟩] [] none,
        ∃ written failing behind,
          stopped.documents = written ++ failing :: behind ∧
          ∀ place, after.tree.read? place =
            (written.reverse.findSome? ((Run.siblingsOf stoppedTree inputs.schema
              inputs.loaded.settings inputs.fragments Command.usualExtension
                stopped.documents).textAt? place)).or (stoppedTree.read? place) := by
  obtain ⟨after, fails, -⟩ := exists_after_stopped
  obtain ⟨inputs, written, failing, behind, isLoaded, -, -, -, files⟩ :=
    (Run.files_of_failed_module fails).2 _ rfl
  have order : stopped.documents = written ++ failing :: behind :=
    Except.ok.inj (loads_stopped.symm.trans isLoaded)
  rw [← order] at files
  exact ⟨after, fails, inputs, written, failing, behind, order, files⟩

/-- A command that fails for want of a module has made a file. -/
theorem changed_by_stopped :
    ∃ after, (Run.command stoppedCommand).endFrom { tree := stoppedTree } =
        (.error (.module (.generation (.unknownField "b" "Query"))), after) ∧
      (Failure.module (.generation (.unknownField "b" "Query"))).message? =
        some "Type generation failed: Could not find field b on type Query" ∧
      stoppedTree.isFile ["docs", "a.generated.ts"] = false ∧
      after.tree.isFile ["docs", "a.generated.ts"] = true := by
  obtain ⟨after, fails, text, isLast⟩ := exists_after_stopped
  refine ⟨after, fails, by decide, by decide, ?_⟩
  rw [isLast]
  rfl

end TwoQueries

end CommandLine

end SelectionTypes

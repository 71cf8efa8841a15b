import SelectionTypes.Proofs.CommandLine.Run
import SelectionTypes.Proofs.Workspace.FileTree
import SelectionTypes.Proofs.Workspace.SiblingModules

/-!
# `SelectionTypes.Proofs.CommandLine.ModuleFiles`: writing a module next to every document

A run with a module next to every document loads the documents, and then it writes one module after
the other (`endFrom_operationsNextToDocuments`). `Writes` is what a loop over some of the documents
does to the tree. After it a file holds the text of the last document whose module lies there, or
what it held before (`Writes.read?`). Where a run fails for want of a module, the loop has gone
through the documents in front of the one without (`exists_written_of_operationsNextToDocuments`).
-/

set_option autoImplicit false

namespace SelectionTypes

open Outcome

namespace SiblingModules

variable (siblings : SiblingModules)

/-- The text that the module of a document puts into the file at a place. -/
def textAt? (place : PlaceInTree) (placed : PlacedDocument) : Option String :=
  match siblings.moduleOf placed with
  | .ok (path, generated) =>
    if path.placeFrom siblings.directory == place then some (generated.module.text ++ "\n")
    else none
  | .error _ => none

variable {siblings} {placed : PlacedDocument} {path : FilePath} {generated : GeneratedModule}

/-- A module puts its text at its place, and nothing elsewhere. -/
theorem textAt?_of_moduleOf (made : siblings.moduleOf placed = .ok (path, generated))
    (place : PlaceInTree) :
    siblings.textAt? place placed =
      if path.placeFrom siblings.directory == place then some (generated.module.text ++ "\n")
      else none := by
  rw [textAt?, made]

end SiblingModules

namespace FileTree

/-- The document in a file, with the path of the file. -/
def placed (tree : FileTree) (path : FilePath) : Except LoadError PlacedDocument :=
  PlacedDocument.mk path <$> tree.loadDocument path

/-- Placed documents have the paths that they are loaded from. -/
theorem map_path_of_placed {tree : FileTree} {paths : List FilePath}
    {documents : List PlacedDocument} (loaded : paths.mapM tree.placed = .ok documents) :
    documents.map PlacedDocument.path = paths := by
  rw [← List.map_id paths]
  refine map_eq_of_mapM (fun path placed isPlaced => ?_) loaded
  obtain ⟨document, -, rfl⟩ := map_eq_ok.mp isPlaced
  rfl

end FileTree

namespace CommandLine.Run

variable {siblings : SiblingModules} {halved : PlacedDocument → Bool} {state after : RunState}
variable {placed : PlacedDocument} {documents : List PlacedDocument} {last : FileTree}
variable {error : ModuleError}

/-! ### Writing modules one after the other -/

/-- Writes the module of a document, where it is known which texts have half of a surrogate pair. -/
def writeModuleOf (siblings : SiblingModules) (halved : PlacedDocument → Bool)
    (placed : PlacedDocument) : Run Unit := do
  let (path, generated) ← ofResult .ofSibling (siblings.moduleOf placed)
  writeModule path generated (halved placed)

/-- The module of a document is written into its file. -/
theorem writeModuleOf_eq_ok :
    (∃ after, (writeModuleOf siblings halved placed).endFrom state = (.ok (), after) ∧
        after.tree = last) ↔
      ∃ path generated, siblings.moduleOf placed = .ok (path, generated) ∧
        halved placed = false ∧ path.isPossible = true ∧
        state.tree.writeFile? path (generated.module.text ++ "\n") = some last := by
  unfold writeModuleOf
  simp only [endFrom_bind, endFrom_ofResult]
  cases siblings.moduleOf placed with
  | error => simp [Except.mapError]
  | ok result =>
    obtain ⟨path, generated⟩ := result
    simp [Except.mapError, writeModule_eq_ok]

/-- The write fails for want of a module exactly if there is none, and changes nothing then. -/
theorem writeModuleOf_eq_error :
    (writeModuleOf siblings halved placed).endFrom state = (.error (.module error), after) ↔
      siblings.moduleOf placed = .error (.module error) ∧ after = state := by
  unfold writeModuleOf
  simp only [endFrom_bind, endFrom_ofResult]
  cases siblings.moduleOf placed with
  | error problem => cases problem <;> simp [Except.mapError, Failure.ofSibling, eq_comm]
  | ok result => simp [Except.mapError, writeModule_ne_module]

/-- The modules of documents are written one after the other, from one tree to another. -/
inductive Writes (siblings : SiblingModules) : FileTree → List PlacedDocument → FileTree → Prop
  | nil {tree : FileTree} : Writes siblings tree [] tree
  | cons {tree middle last : FileTree} {placed : PlacedDocument} {rest : List PlacedDocument}
      {path : FilePath} {generated : GeneratedModule}
      (made : siblings.moduleOf placed = .ok (path, generated))
      (possible : path.isPossible = true)
      (written : tree.writeFile? path (generated.module.text ++ "\n") = some middle)
      (behind : Writes siblings middle rest last) : Writes siblings tree (placed :: rest) last

/-- A loop over documents succeeds exactly if their modules can be written one after the other. -/
theorem forM_writeModuleOf_eq_ok :
    (∃ after, Run.endFrom (documents.forM (writeModuleOf siblings halved)) state = (.ok (), after) ∧
        after.tree = last) ↔
      (∀ placed ∈ documents, halved placed = false) ∧
        Writes siblings state.tree documents last := by
  -- On the documents, from any tree: a step of the loop writes one module.
  induction documents generalizing state with
  | nil =>
    constructor
    · rintro ⟨after, succeeds, rfl⟩
      cases succeeds
      exact ⟨nofun, .nil⟩
    · rintro ⟨-, writes⟩
      cases writes
      exact ⟨state, rfl, rfl⟩
  | cons first rest ih =>
    simp only [forM_cons, bind_eq_ok, List.forall_mem_cons]
    constructor
    · rintro ⟨after, ⟨_, middle, succeeds, behind⟩, isLast⟩
      obtain ⟨path, generated, made, whole, possible, written⟩ :=
        writeModuleOf_eq_ok.mp ⟨middle, succeeds, rfl⟩
      obtain ⟨others, writes⟩ := ih.mp ⟨after, behind, isLast⟩
      exact ⟨⟨whole, others⟩, .cons made possible written writes⟩
    · rintro ⟨⟨whole, others⟩, writes⟩
      cases writes with
      | cons made possible written behind =>
        obtain ⟨middle, succeeds, rfl⟩ :=
          writeModuleOf_eq_ok.mpr ⟨_, _, made, whole, possible, written⟩
        obtain ⟨after, succeeds', isLast⟩ := ih.mpr ⟨others, behind⟩
        exact ⟨after, ⟨(), middle, succeeds, succeeds'⟩, isLast⟩

/-- Once the modules of documents are written, a file holds the text of the last document whose
module lies there, or what it held. -/
theorem Writes.read? {tree : FileTree} (writes : Writes siblings tree documents last)
    (starts : tree.workingDirectory = siblings.directory) :
    (∀ placed ∈ documents, ∃ result, siblings.moduleOf placed = .ok result) ∧
      ∀ place, last.read? place =
        (documents.reverse.findSome? (siblings.textAt? place)).or (tree.read? place) := by
  induction writes with
  | nil => exact ⟨nofun, fun place => rfl⟩
  | @cons tree middle last first rest path generated made _ written behind ih =>
    have stays : middle.workingDirectory = siblings.directory :=
      (FileTree.workingDirectory_of_writeFile? written).trans starts
    obtain ⟨others, files⟩ := ih stays
    refine ⟨List.forall_mem_cons.mpr ⟨⟨_, made⟩, others⟩, fun place => ?_⟩
    -- The rest of the loop writes over what the first document has put at the place.
    have here : middle.read? place = (siblings.textAt? place first).or (tree.read? place) := by
      rw [FileTree.read?_of_writeFile? written, starts, SiblingModules.textAt?_of_moduleOf made,
        Bool.beq_comm]
      split <;> rfl
    rw [files, here, List.reverse_cons, List.findSome?_append, Option.or_assoc,
      List.findSome?_singleton]

/-! ### Runs with a module next to every document -/

variable {schema : Schema} {loaded : LoadedSettings} {external : List LoadedFragment}
variable {paths : List FilePath} {extension : String}

/-- The modules next to documents that a command writes. -/
def siblingsOf (tree : FileTree) (schema : Schema) (settings : Settings)
    (external : List LoadedFragment) (extension : String) (documents : List PlacedDocument) :
    SiblingModules :=
  { schema, settings, external, directory := tree.workingDirectory, extension, documents }

/-- Whether half of a surrogate pair comes from the settings into the module of a document. -/
def showsHalf (loaded : LoadedSettings) (siblings : Settings → SiblingModules)
    (placed : PlacedDocument) : Bool :=
  loaded.showsHalf fun settings =>
    ((siblings settings).moduleOf placed).toOption.map (·.2.module.text)

/-- A run with a module next to every document loads the documents, and then it writes one module
after the other. -/
theorem endFrom_operationsNextToDocuments (schema : Schema) (loaded : LoadedSettings)
    (external : List LoadedFragment) (paths : List FilePath) (extension : String)
    (state : RunState) :
    (operationsNextToDocuments schema loaded external paths extension).endFrom state =
      match paths.mapM state.tree.placed with
      | .error problem => (.error (.load problem), state)
      | .ok documents =>
        let siblings (settings : Settings) :=
          siblingsOf state.tree schema settings external extension documents
        Run.endFrom (documents.forM (writeModuleOf (siblings loaded.settings)
          (showsHalf loaded siblings))) state := by
  -- Loading a document and keeping its path is one step, which neither writes nor reports.
  have load (tree : FileTree) (path : FilePath) :
      (do return PlacedDocument.mk path (← ofResult .load (tree.loadDocument path)) : Run _) =
        ofResult .load (tree.placed path) := by
    unfold FileTree.placed
    cases tree.loadDocument path <;> rfl
  unfold operationsNextToDocuments
  rw [endFrom_bind, endFrom_tree]
  dsimp only
  simp only [load]
  rw [endFrom_bind, endFrom_mapM_ofResult]
  cases paths.mapM state.tree.placed <;> rfl

/-- No half of a surrogate pair comes from settings that do not change when halves are stretched. -/
theorem showsHalf_of_plain (plain : loaded.stretched = loaded.settings)
    (siblings : Settings → SiblingModules) (placed : PlacedDocument) :
    showsHalf loaded siblings placed = false := by
  simp [showsHalf, LoadedSettings.showsHalf, plain]

/-- A run succeeds if the documents can be loaded and their modules be written, where no half of a
surrogate pair comes from the settings. -/
theorem exists_after_of_writes (plain : loaded.stretched = loaded.settings)
    (isLoaded : paths.mapM state.tree.placed = .ok documents)
    (writes : Writes (siblingsOf state.tree schema loaded.settings external extension documents)
      state.tree documents last) :
    ∃ after, (operationsNextToDocuments schema loaded external paths extension).endFrom state =
      (.ok (), after) ∧ after.tree = last := by
  rw [endFrom_operationsNextToDocuments, isLoaded]
  exact forM_writeModuleOf_eq_ok.mpr ⟨fun placed _ => showsHalf_of_plain plain _ placed, writes⟩

/-- A run fails for want of a module if the documents can be loaded, the modules of some be written,
and the next one has none. -/
theorem exists_after_of_stopped {written behind : List PlacedDocument} {failing : PlacedDocument}
    (plain : loaded.stretched = loaded.settings)
    (isLoaded : paths.mapM state.tree.placed = .ok documents)
    (writes : Writes (siblingsOf state.tree schema loaded.settings external extension documents)
      state.tree written last)
    (none : (siblingsOf state.tree schema loaded.settings external extension documents).moduleOf
      failing = .error (.module error))
    (order : documents = written ++ failing :: behind) :
    ∃ after, (operationsNextToDocuments schema loaded external paths extension).endFrom state =
      (.error (.module error), after) ∧ after.tree = last := by
  rw [endFrom_operationsNextToDocuments, isLoaded]
  obtain ⟨after, succeeds, isLast⟩ := forM_writeModuleOf_eq_ok.mpr
    ⟨fun placed _ => showsHalf_of_plain plain _ placed, writes⟩
  refine ⟨after, forM_eq_error.mpr ⟨written, failing, behind, after, order, succeeds, ?_⟩, isLast⟩
  exact writeModuleOf_eq_error.mpr ⟨none, rfl⟩

/-- Where each document has a module of its own, those in front of the first that has none have been
written. -/
theorem exists_written_of_operationsNextToDocuments
    (fails : (operationsNextToDocuments schema loaded external paths extension).endFrom state =
      (.error (.module error), after)) :
    ∃ written failing behind, paths.mapM state.tree.placed = .ok (written ++ failing :: behind) ∧
      let siblings := siblingsOf state.tree schema loaded.settings external extension
        (written ++ failing :: behind)
      siblings.moduleOf failing = .error (.module error) ∧
      Writes siblings state.tree written after.tree := by
  rw [endFrom_operationsNextToDocuments] at fails
  cases isLoaded : paths.mapM state.tree.placed with
  | error problem =>
    rw [isLoaded] at fails
    cases (Prod.mk.inj fails).1
  | ok documents =>
    rw [isLoaded] at fails
    dsimp only at fails
    -- A write fails for other causes, so what stops the loop is a document without a module.
    obtain ⟨written, failing, behind, middle, rfl, done, fails⟩ := forM_eq_error.mp fails
    obtain ⟨none, rfl⟩ := writeModuleOf_eq_error.mp fails
    obtain ⟨-, writes⟩ := forM_writeModuleOf_eq_ok.mp ⟨after, done, rfl⟩
    exact ⟨written, failing, behind, rfl, none, writes⟩

end CommandLine.Run

end SelectionTypes

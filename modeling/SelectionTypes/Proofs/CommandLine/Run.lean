import SelectionTypes.CommandLine.Run
import SelectionTypes.Proofs.Support.Outcome

/-!
# `SelectionTypes.Proofs.CommandLine.Run`: how runs succeed and fail

A run goes from a state to a state and may fail on the way. The lemmas here take it apart: a
sequence succeeds if both steps do, and it fails if the first step does, or the second one behind a
first that succeeds (`bind_eq_ok`, `bind_eq_error`). A loop fails at one of its items, behind a loop
over those in front of it that succeeds (`forM_eq_error`).

What a command does before it generates changes no file (`Prepares`), and gives what
`OperationInputs` says.
-/

set_option autoImplicit false

namespace SelectionTypes.CommandLine

namespace Run

variable {ε α β : Type} {state after : RunState} {failure : Failure}

/-- How a run ends from a state, and the state that it leaves. -/
def endFrom (task : Run α) (state : RunState) : Except Failure α × RunState :=
  task.run.run state

/-! ### Sequences and loops -/

/-- A sequence goes on from where its first step ends, unless that step fails. -/
theorem endFrom_bind (first : Run α) (next : α → Run β) (state : RunState) :
    (first >>= next).endFrom state =
      match first.endFrom state with
      | (.ok value, middle) => (next value).endFrom middle
      | (.error failure, middle) => (.error failure, middle) := by
  unfold endFrom
  rw [ExceptT.run_bind, StateT.run_bind]
  rcases first.run.run state with ⟨_ | _, _⟩ <;> rfl

/-- A sequence succeeds exactly if both steps do. -/
theorem bind_eq_ok {first : Run α} {next : α → Run β} {result : β} :
    (first >>= next).endFrom state = (.ok result, after) ↔
      ∃ value middle, first.endFrom state = (.ok value, middle) ∧
        (next value).endFrom middle = (.ok result, after) := by
  rw [endFrom_bind]
  rcases first.endFrom state with ⟨_ | _, _⟩ <;> simp

/-- A sequence fails exactly if its first step does, or the second one behind it. -/
theorem bind_eq_error {first : Run α} {next : α → Run β} :
    (first >>= next).endFrom state = (.error failure, after) ↔
      first.endFrom state = (.error failure, after) ∨
      ∃ value middle, first.endFrom state = (.ok value, middle) ∧
        (next value).endFrom middle = (.error failure, after) := by
  rw [endFrom_bind]
  rcases first.endFrom state with ⟨_ | _, _⟩ <;> simp

/-- A run goes on with a result where it is, or fails there. -/
theorem endFrom_ofResult (problem : ε → Failure) (result : Except ε α) (state : RunState) :
    (ofResult problem result).endFrom state = (result.mapError problem, state) := by
  cases result <;> rfl

/-- A run that goes on with a result for each item is a traversal of the items. -/
theorem endFrom_mapM_ofResult (problem : ε → Failure) (find : α → Except ε β) (items : List α)
    (state : RunState) :
    Run.endFrom (items.mapM fun item => ofResult problem (find item)) state =
      ((items.mapM find).mapError problem, state) := by
  induction items with
  | nil => rfl
  | cons item rest ih =>
    rw [List.mapM_cons, List.mapM_cons, endFrom_bind, endFrom_ofResult]
    cases find item with
    | error => rfl
    | ok first =>
      show Run.endFrom ((rest.mapM fun item => ofResult problem (find item)) >>= _) state = _
      rw [endFrom_bind, ih]
      cases rest.mapM find <;> rfl

/-- A loop begins with its first item. -/
theorem forM_cons (act : α → Run Unit) (first : α) (rest : List α) :
    (first :: rest).forM act = act first >>= fun _ => rest.forM act :=
  rfl

/-- A loop fails exactly if it fails at one of its items, behind those in front of it. -/
theorem forM_eq_error {act : α → Run Unit} {items : List α} :
    Run.endFrom (items.forM act) state = (.error failure, after) ↔
      ∃ before item behind middle, items = before ++ item :: behind ∧
        Run.endFrom (before.forM act) state = (.ok (), middle) ∧
        (act item).endFrom middle = (.error failure, after) := by
  -- On the items: a loop fails at the first one, or it succeeds there and fails behind it.
  induction items generalizing state with
  | nil =>
    constructor
    · intro fails
      cases fails
    · rintro ⟨before, item, behind, middle, split, -⟩
      cases before <;> cases split
  | cons first rest ih =>
    rw [forM_cons, bind_eq_error]
    constructor
    · rintro (here | ⟨value, middle, succeeds, behind⟩)
      · exact ⟨[], first, rest, state, rfl, rfl, here⟩
      · obtain ⟨before, item, others, last, rfl, done, fails⟩ := ih.mp behind
        refine ⟨first :: before, item, others, last, rfl, ?_, fails⟩
        exact bind_eq_ok.mpr ⟨value, middle, succeeds, done⟩
    · rintro ⟨before, item, behind, middle, split, done, fails⟩
      cases before with
      | nil =>
        cases split
        cases done
        exact .inl fails
      | cons other before =>
        cases split
        rw [forM_cons] at done
        obtain ⟨value, next, succeeds, done⟩ := bind_eq_ok.mp done
        exact .inr ⟨value, next, succeeds, ih.mpr ⟨before, item, behind, middle, rfl, done, fails⟩⟩

/-! ### Writing -/

/-- The tree is as it is. -/
theorem endFrom_tree (state : RunState) : tree.endFrom state = (.ok state.tree, state) :=
  rfl

/-- A text is put into a file whose name is possible, if the tree can take it. -/
theorem endFrom_put (path : FilePath) (text : String) (state : RunState) :
    (put path text).endFrom state =
      if path.isPossible then
        match state.tree.writeFile? path text with
        | some tree => (.ok (), { state with tree })
        | none => (.error (.unwritable path), state)
      else (.error (.impossibleName path), state) := by
  unfold put
  cases path.isPossible with
  | false => rfl
  | true =>
    show Run.endFrom (tree >>= _) state = _
    rw [endFrom_bind, endFrom_tree]
    dsimp only
    cases state.tree.writeFile? path text <;> rfl

/-- Behind the empty file for a text with half of a surrogate pair there is always a failure. -/
theorem endFrom_write_halved (path : FilePath) (text : String) (state : RunState) :
    (write path text true).endFrom state =
      match (put path "").endFrom state with
      | (.ok _, middle) => (.error (.impossibleText path), middle)
      | (.error failure, middle) => (.error failure, middle) := by
  unfold write
  rw [if_pos rfl, endFrom_bind]
  rcases (put path "").endFrom state with ⟨_ | _, _⟩ <;> rfl

/-- A text is put into its file with a line feed, if there is no half of a surrogate pair in it. -/
theorem write_eq_ok {path : FilePath} {text : String} {halved : Bool} :
    (write path text halved).endFrom state = (.ok (), after) ↔
      halved = false ∧ (put path (text ++ "\n")).endFrom state = (.ok (), after) := by
  cases halved with
  | false => exact (and_iff_right rfl).symm
  | true =>
    rw [endFrom_write_halved]
    rcases (put path "").endFrom state with ⟨_ | _, _⟩ <;> simp

/-- A warning changes no file. -/
theorem exists_endFrom_writeModule (path : FilePath) (generated : GeneratedModule) (halved : Bool)
    (state : RunState) :
    ∃ log, (writeModule path generated halved).endFrom state =
      (write path generated.module.text halved).endFrom { state with log } := by
  unfold writeModule
  cases generated.warning with
  | none => exact ⟨state.log, rfl⟩
  | some message => exact ⟨_, rfl⟩

/-- A module is written exactly if its file can be. Its text is then in the tree. -/
theorem writeModule_eq_ok {path : FilePath} {generated : GeneratedModule} {halved : Bool}
    {tree : FileTree} :
    (∃ after, (writeModule path generated halved).endFrom state = (.ok (), after) ∧
        after.tree = tree) ↔
      halved = false ∧ path.isPossible = true ∧
        state.tree.writeFile? path (generated.module.text ++ "\n") = some tree := by
  obtain ⟨log, same⟩ := exists_endFrom_writeModule path generated halved state
  simp only [same, write_eq_ok, endFrom_put]
  cases path.isPossible with
  | false => simp
  | true => cases state.tree.writeFile? path (generated.module.text ++ "\n") <;> simp

/-- No write fails for want of a module. -/
theorem writeModule_ne_module {path : FilePath} {generated : GeneratedModule} {halved : Bool}
    {error : ModuleError} :
    (writeModule path generated halved).endFrom state ≠ (.error (.module error), after) := by
  obtain ⟨log, same⟩ := exists_endFrom_writeModule path generated halved state
  have put_ne (text : String) (state after : RunState) :
      (put path text).endFrom state ≠ (.error (.module error), after) := by
    rw [endFrom_put]
    cases path.isPossible <;> cases state.tree.writeFile? path text <;> simp
  -- Behind the report stands a write, and that fails for its path or for its text.
  rw [same]
  intro fails
  cases halved with
  | false => exact put_ne _ _ _ fails
  | true =>
    rw [endFrom_write_halved] at fails
    split at fails
    · cases (Prod.mk.inj fails).1
    · next ended => exact put_ne _ _ _ (ended.trans fails)

/-! ### Reading -/

/-- A report goes to the end of the log. -/
theorem endFrom_report (level : LogLevel) (message : String) (state : RunState) :
    (report level message).endFrom state =
      (.ok (), { state with log := state.log ++ [⟨level, message⟩] }) :=
  rfl

/-- Reports change the log only. -/
theorem exists_endFrom_reports (level : LogLevel) (lineOf : α → String) (items : List α)
    (state : RunState) :
    ∃ log, Run.endFrom (items.forM fun item => report level (lineOf item)) state =
      (.ok (), { state with log }) := by
  induction items generalizing state with
  | nil => exact ⟨state.log, rfl⟩
  | cons item rest ih =>
    rw [forM_cons, endFrom_bind]
    exact ih { state with log := state.log ++ [⟨level, lineOf item⟩] }

/-- A run that ends with the tree as it was, and not for want of a module. -/
def EndsEarly (task : Run α) (state : RunState) : Prop :=
  ∃ failure after, task.endFrom state = (.error failure, after) ∧ after.tree = state.tree ∧
    ∀ error, failure ≠ .module error

/-- A sequence ends early if its first step does. -/
theorem EndsEarly.bind {first : Run α} (early : first.EndsEarly state) (next : α → Run β) :
    EndsEarly (first >>= next) state := by
  obtain ⟨failure, after, fails, same, other⟩ := early
  exact ⟨failure, after, by rw [endFrom_bind, fails], same, other⟩

/-- A sequence ends early if its second step does, where the first one has changed nothing. -/
theorem EndsEarly.behind {first : Run α} {next : α → Run β} {value : α}
    (succeeds : first.endFrom state = (.ok value, state)) (early : (next value).EndsEarly state) :
    EndsEarly (first >>= next) state := by
  obtain ⟨failure, after, fails, same, other⟩ := early
  exact ⟨failure, after, by rw [endFrom_bind, succeeds]; exact fails, same, other⟩

/-- A run that goes on with a result ends early if there is none, unless it is a module. -/
theorem endsEarly_ofResult {problem : ε → Failure} (other : ∀ cause error,
      problem cause ≠ .module error) {result : Except ε α} {cause : ε}
    (fails : result = .error cause) : (ofResult problem result).EndsEarly state :=
  ⟨problem cause, state, by rw [endFrom_ofResult, fails]; rfl, rfl, other cause⟩

/-! ### What a command for operations reads -/

section

variable {paths schemas external : List FilePath} {settingsPath : Option FilePath}
variable {schema : Schema} {loaded : LoadedSettings} {documents : List Document}

/-- A schema that can be loaded and keeps the rules of the type system is used. -/
theorem endFrom_checkedSchema (isSchema : state.tree.loadSchema paths = .ok schema)
    (valid : schema.typeProblems = []) :
    (checkedSchema paths).endFrom state = (.ok schema, state) := by
  unfold checkedSchema
  simp only [endFrom_bind, endFrom_tree, endFrom_ofResult, isSchema, Except.mapError, valid]
  rfl

/-- Without such a schema the run ends early. -/
theorem endsEarly_checkedSchema (none : ∀ schema, state.tree.loadSchema paths = .ok schema →
      schema.typeProblems ≠ []) : (checkedSchema paths).EndsEarly state := by
  cases isSchema : state.tree.loadSchema paths with
  | error problem =>
    exact .behind (endFrom_tree state) (.bind (endsEarly_ofResult (by simp) isSchema) _)
  | ok schema =>
    obtain ⟨log, reported⟩ := exists_endFrom_reports .error TypeProblem.line schema.typeProblems
      { state with log := state.log ++ [⟨.error, "Schema validation failed:"⟩] }
    unfold EndsEarly checkedSchema
    simp only [endFrom_bind, endFrom_tree, endFrom_ofResult, isSchema, Except.mapError,
      List.isEmpty_iff, none schema isSchema, if_false, endFrom_report, reported]
    exact ⟨.invalidSchema, _, rfl, rfl, by simp⟩

/-- The settings that a command uses. -/
def settingsIn (tree : FileTree) : Option FilePath → Except Settings.LoadProblem LoadedSettings
  | none => .ok {}
  | some path => Settings.ofFile tree path

/-- Reading the settings changes no file and reports nothing, so it ends as the reading itself does.
-/
theorem settings_eq (path : Option FilePath) (state : RunState) :
    (settings path).endFrom state =
      (ofResult .settings (settingsIn state.tree path)).endFrom state := by
  cases path <;> rfl

/-- What a command for operations generates from: a schema that keeps the rules of the type system,
settings, and documents whose fragments are generated elsewhere. -/
structure OperationInputs (tree : FileTree) (schemas external : List FilePath)
    (settingsPath : Option FilePath) where
  schema : Schema
  loaded : LoadedSettings
  documents : List Document
  isSchema : tree.loadSchema schemas = .ok schema
  valid : schema.typeProblems = []
  isLoaded : settingsIn tree settingsPath = .ok loaded
  areDocuments : tree.loadDocuments external = .ok documents

/-- The fragments that are generated elsewhere. -/
def OperationInputs.fragments {tree : FileTree}
    (inputs : OperationInputs tree schemas external settingsPath) : List LoadedFragment :=
  inputs.documents.flatMap fun document => LoadedFragment.ofDocument document true

/-- The part of a command for operations that writes modules. -/
def operationsTo (schema : Schema) (loaded : LoadedSettings) (external : List LoadedFragment)
    (documents : List FilePath) : OutputPlace → Run Unit
  | .file path => operationsInFile schema loaded external documents path
  | .nextToDocuments extension =>
    operationsNextToDocuments schema loaded external documents extension

/-- A command for operations reads, and then it writes. -/
theorem command_operations (output : OutputPlace) :
    command (.operations schemas paths external settingsPath output) = (do
      let schema ← checkedSchema schemas
      let loaded ← settings settingsPath
      let external ← externalFragments external
      operationsTo schema loaded external paths output) := by
  cases output <;> rfl

/-- A command for operations goes on with what it has read. -/
theorem endFrom_operations (inputs : OperationInputs state.tree schemas external settingsPath)
    (output : OutputPlace) :
    (command (.operations schemas paths external settingsPath output)).endFrom state =
      (operationsTo inputs.schema inputs.loaded inputs.fragments paths output).endFrom state := by
  have read : (externalFragments external).endFrom state = (.ok inputs.fragments, state) := by
    unfold externalFragments
    simp only [endFrom_bind, endFrom_tree, endFrom_ofResult, inputs.areDocuments, Except.mapError]
    rfl
  simp only [command_operations, endFrom_bind, read, settings_eq, endFrom_ofResult,
    endFrom_checkedSchema inputs.isSchema inputs.valid, inputs.isLoaded, Except.mapError]

/-- A command for operations that cannot read what it needs ends early. -/
theorem endsEarly_operations
    (none : OperationInputs state.tree schemas external settingsPath → False)
    (output : OutputPlace) :
    (command (.operations schemas paths external settingsPath output)).EndsEarly state := by
  rw [command_operations]
  -- The command reads the schema, the settings and the external documents, in this order.
  by_cases checked : ∃ schema, state.tree.loadSchema schemas = .ok schema ∧
      schema.typeProblems = []
  · obtain ⟨schema, isSchema, valid⟩ := checked
    refine .behind (endFrom_checkedSchema isSchema valid) ?_
    cases isLoaded : settingsIn state.tree settingsPath with
    | error problem =>
      have early : (ofResult .settings (settingsIn state.tree settingsPath)).EndsEarly state :=
        endsEarly_ofResult (by simp) isLoaded
      rw [EndsEarly, ← settings_eq] at early
      exact .bind early _
    | ok loaded =>
      have set : (settings settingsPath).endFrom state = (.ok loaded, state) := by
        rw [settings_eq, endFrom_ofResult, isLoaded]
        rfl
      refine .behind set (.bind ?_ _)
      cases areDocuments : state.tree.loadDocuments external with
      | error problem =>
        exact .behind (endFrom_tree state) (.bind (endsEarly_ofResult (by simp) areDocuments) _)
      | ok documents =>
        exact (none ⟨schema, loaded, documents, isSchema, valid, isLoaded, areDocuments⟩).elim
  · exact .bind (endsEarly_checkedSchema fun schema isSchema valid =>
      checked ⟨schema, isSchema, valid⟩) _

end

end Run

end SelectionTypes.CommandLine

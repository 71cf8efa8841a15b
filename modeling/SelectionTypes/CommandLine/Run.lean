import SelectionTypes.CommandLine.Command
import SelectionTypes.Generation.GlobalTypes
import SelectionTypes.Schema.TypeRules
import SelectionTypes.Settings.Loading
import SelectionTypes.Workspace.SiblingModules

/-!
# `SelectionTypes.CommandLine.Run`: what a command does

A run reads a file tree and gives a file tree back, together with what it reports. A schema that
breaks rules of the type system is not used. Modules next to documents are written one after the
other, so those in front of one that fails are there. A module with half of a surrogate pair in it
is no text that a file can hold, so its file stays empty.
-/

set_option autoImplicit false

namespace SelectionTypes

namespace CommandLine

/-- Why a run ends without having done all its work. -/
inductive Failure where
  | usage (problem : UsageProblem)
  | load (error : LoadError)
  /-- The schema breaks rules, which are in the log. -/
  | invalidSchema
  | settings (problem : Settings.LoadProblem)
  | module (error : ModuleError)
  /-- No file can have the name of the module of a document. -/
  | noModuleName (document : FilePath)
  | unwritable (path : FilePath)
  /-- No file can have the name of an output. -/
  | impossibleName (path : FilePath)
  /-- No file can hold the text of an output. -/
  | impossibleText (path : FilePath)
  deriving Repr, DecidableEq

namespace Failure

/-- The failure of a module next to a document. -/
def ofSibling : SiblingError → Failure
  | .noModuleName document => .noModuleName document
  | .module error => .module error

/-- The code that a run ends with. -/
def exitCode : Failure → Nat
  | usage (.impossibleName _) => 1
  | usage _ => 2
  | _ => 1

/-- The sentence about a failure, for those that are reported in one. -/
def message? : Failure → Option String
  | usage (.impossibleName _) => none
  | usage problem => some problem.message
  | settings (.notMap typeName) =>
    some ("Invalid codegen config: " ++ Settings.notMapMessage typeName)
  | settings (.notYaml .timestampOfMapping) =>
    some ("Invalid codegen config: " ++ Settings.timestampMessage)
  | settings .unreadable | settings (.notYaml .malformed) | settings (.problems _) =>
    some "Invalid codegen config"
  | module (.generation error) => error.message?.map ("Type generation failed: " ++ ·)
  | _ => none

end Failure

/-- A message and how serious it is. -/
structure LogRecord where
  level : LogLevel
  message : String
  deriving Repr, DecidableEq

/-- What a run changes. -/
structure RunState where
  tree : FileTree
  log : List LogRecord := []
  deriving Repr

/-- A run that may fail and keeps what it has changed. -/
abbrev Run := ExceptT Failure (StateM RunState)

namespace Run

/-- Reports a message. -/
def report (level : LogLevel) (message : String) : Run Unit :=
  modify fun state => { state with log := state.log ++ [⟨level, message⟩] }

/-- Goes on with a result. -/
def ofResult {ε α : Type} (failure : ε → Failure) (result : Except ε α) : Run α :=
  match result with
  | .ok value => pure value
  | .error error => throw (failure error)

/-- The file tree as it is. -/
def tree : Run FileTree := do
  return (← get).tree

/-- Puts a text into a file. Missing directories are made. -/
def put (path : FilePath) (text : String) : Run Unit := do
  if !path.isPossible then throw (.impossibleName path)
  match (← tree).writeFile? path text with
  | some tree => modify fun state => { state with tree }
  | none => throw (.unwritable path)

/-- Writes a text and a line feed into a file, which stays empty if half of a surrogate pair is in
the text. -/
def write (path : FilePath) (text : String) (halved : Bool) : Run Unit := do
  if halved then
    put path ""
    throw (.impossibleText path)
  put path (text ++ "\n")

/-- Loads a schema, which must keep the rules of the type system. -/
def checkedSchema (paths : List FilePath) : Run Schema := do
  let schema ← ofResult .load ((← tree).loadSchema paths)
  let problems := schema.typeProblems
  if problems.isEmpty then return schema
  report .error "Schema validation failed:"
  problems.forM fun problem => report .error problem.line
  report .error ("Found " ++ toString problems.length
    ++ " validation error(s). Please fix the schema before generating types.")
  throw .invalidSchema

/-- Loads settings. -/
def settings (path : Option FilePath) : Run LoadedSettings := do
  match path with
  | none => return {}
  | some path => ofResult .settings (Settings.ofFile (← tree) path)

/-- The fragments of documents that are generated elsewhere. -/
def externalFragments (paths : List FilePath) : Run (List LoadedFragment) := do
  let documents ← ofResult .load ((← tree).loadDocuments paths)
  return documents.flatMap fun document => LoadedFragment.ofDocument document true

/-- Writes a module into a file. -/
def writeModule (path : FilePath) (generated : GeneratedModule) (halved : Bool) : Run Unit := do
  generated.warning.forM (report .warning)
  write path generated.module.text halved

/-- Writes one module for all documents. -/
def operationsInFile (schema : Schema) (loaded : LoadedSettings) (external : List LoadedFragment)
    (paths : List FilePath) (output : FilePath) : Run Unit := do
  let documents ← ofResult .load ((← tree).loadDocuments paths)
  let moduleWith (settings : Settings) := generateModule schema settings documents external
  let generated ← ofResult .module (moduleWith loaded.settings)
  writeModule output generated
    (loaded.showsHalf fun settings => (moduleWith settings).toOption.map (·.module.text))

/-- Writes one module next to every document. All documents are read before the first module is
written. -/
def operationsNextToDocuments (schema : Schema) (loaded : LoadedSettings)
    (external : List LoadedFragment) (paths : List FilePath) (extension : String) :
    Run Unit := do
  let tree ← Run.tree
  let documents ← paths.mapM fun path => do
    return PlacedDocument.mk path (← ofResult .load (tree.loadDocument path))
  let siblings (settings : Settings) : SiblingModules :=
    { schema, settings, external, directory := tree.workingDirectory, extension, documents }
  documents.forM fun placed => do
    let moduleWith (settings : Settings) := (siblings settings).moduleOf placed
    let (path, generated) ← ofResult .ofSibling (moduleWith loaded.settings)
    writeModule path generated
      (loaded.showsHalf fun settings => (moduleWith settings).toOption.map (·.2.module.text))

/-- Runs a command. -/
def command : Command → Run Unit
  | .help => pure ()
  | .operations schemas documents external settingsPath output => do
    let schema ← checkedSchema schemas
    let loaded ← settings settingsPath
    let external ← externalFragments external
    match output with
    | .file path => operationsInFile schema loaded external documents path
    | .nextToDocuments extension =>
      operationsNextToDocuments schema loaded external documents extension
  | .enums schemas settingsPath output => do
    let schema ← checkedSchema schemas
    let loaded ← settings settingsPath
    let module ← ofResult (fun problem => .module (.document problem))
      (schema.globalModule loaded.settings)
    write output module.text
      (loaded.showsHalf fun settings => (schema.globalModule settings).toOption.map (·.text))

end Run

/-- What a run leaves behind. -/
structure Outcome where
  exitCode : Nat
  printed : String
  /-- The messages that are serious enough for the chosen level. -/
  log : List String
  tree : FileTree
  failure : Option Failure

namespace Outcome

/-- The outcome of wrong arguments. -/
def ofUsage (tree : FileTree) (problem : UsageProblem) : Outcome :=
  { exitCode := (Failure.usage problem).exitCode, printed := "", log := [], tree,
    failure := some (.usage problem) }

/-- The outcome of printing a text. -/
def ofText (tree : FileTree) (printed : String) : Outcome :=
  { exitCode := 0, printed, log := [], tree, failure := none }

/-- The outcome of a run, with the messages of a level and above. -/
def ofRun (level : LogLevel) (result : Except Failure Unit × RunState) : Outcome :=
  let (ended, state) := result
  let serious := state.log.filter fun record => level.rank ≤ record.level.rank
  let failure := match ended with
    | .ok () => none
    | .error failure => some failure
  { exitCode := (failure.map Failure.exitCode).getD 0
    printed := ""
    log := serious.map LogRecord.message
    tree := state.tree
    failure }

end Outcome

/-- The text that tells the version. -/
def versionText : String :=
  "gqlts, version 0.1.0\n"

/-- The tree with the log file that options ask for. It is empty at first, whatever it held. -/
def startLog (tree : FileTree) (given : List GivenOption) : Except Failure FileTree :=
  match Command.pathOf given Command.logFileOption with
  | none => .ok tree
  | some path =>
    match tree.startFile? path with
    | some tree => .ok tree
    | none => .error (.unwritable path)

/-- Takes the common options out of arguments, unless the run ends with them: they are wrong, or
they ask for help or for the version. -/
def commonOptions (tree : FileTree) (arguments : List String) : Except Outcome SplitArguments :=
  match OptionSpec.split Command.commonOptions false arguments with
  | .error problem => .error (.ofUsage tree problem)
  | .ok split =>
    let eager := split.given.find? fun item =>
      item.option == Command.helpOption || item.option == Command.versionOption
    match eager with
    | some item =>
      .error (.ofText tree (if item.option == Command.versionOption then versionText else ""))
    | none =>
      match Command.check tree Command.commonOptions split.given with
      | .error problem => .error (.ofUsage tree problem)
      | .ok () => .ok split

/-- The outcome of arguments that do not begin with the name of the group of commands. They are read
as options once more, since two hyphens may stand in front of them. -/
def withoutGroup (tree : FileTree) (arguments : List String) (problem : UsageProblem) : Outcome :=
  match commonOptions tree arguments with
  | .error outcome => outcome
  | .ok _ => .ofUsage tree problem

/-- Runs a command behind its common options. The log file is made once the group of commands is
known, and before the command is read. -/
def runWith (tree : FileTree) (given : List GivenOption) (arguments : List String) : Outcome :=
  let level := ((Command.levelOption.values given).getLast?.bind LogLevel.ofWord?).getD .info
  match Command.groupProblem? arguments, startLog tree given with
  | some problem, _ => withoutGroup tree arguments problem
  | none, .error failure => .ofRun level (.error failure, { tree })
  | none, .ok tree =>
    match Command.read tree arguments with
    | .error problem => .ofUsage tree problem
    | .ok command => .ofRun level ((Run.command command).run.run { tree })

/-- Runs the command that arguments describe. -/
def run (tree : FileTree) (arguments : List String) : Outcome :=
  if arguments.isEmpty then .ofText tree ""
  else
    match commonOptions tree arguments with
    | .error outcome => outcome
    | .ok split => runWith tree split.given split.others

end CommandLine

end SelectionTypes

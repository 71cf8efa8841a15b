import SelectionTypes.CommandLine.Arguments
import SelectionTypes.Workspace.DocumentFiles

/-!
# `SelectionTypes.CommandLine.Command`: commands

A command generates a module of operations or the global module. Its arguments are read against a
file tree: the files that it reads must exist, and an output must not be a directory. Of several
problems the one of the option that is given first is reported, and options that are not given come
last.
-/

set_option autoImplicit false

namespace SelectionTypes

/-- How serious a message is. -/
inductive LogLevel where
  | debug
  | info
  | warning
  | error
  | critical
  deriving Repr, DecidableEq

namespace LogLevel

/-- The words for the levels, from the least serious on. -/
def words : List (String × LogLevel) :=
  [("debug", debug), ("info", info), ("warning", warning), ("error", error),
    ("critical", critical)]

/-- The level that a word in any letter case stands for. -/
def ofWord? (word : String) : Option LogLevel :=
  words.lookup (String.ofList (word.toList.map Char.toLower))

/-- The rank among the levels. -/
def rank : LogLevel → Nat
  | debug => 0
  | info => 1
  | warning => 2
  | error => 3
  | critical => 4

end LogLevel

/-- Where the modules of operations go. -/
inductive OutputPlace where
  /-- One module in a file. -/
  | file (path : FilePath)
  /-- One module next to every document, with an extension. -/
  | nextToDocuments (extension : String)
  deriving Repr, DecidableEq

/-- What to generate. -/
inductive Command where
  | operations (schemas documents external : List FilePath) (settings : Option FilePath)
      (output : OutputPlace)
  | enums (schemas : List FilePath) (settings : Option FilePath) (output : FilePath)
  | help
  deriving Repr, DecidableEq

namespace Command

/-- The files and directories of the schema. -/
def schemaOption : OptionSpec := { names := ["--schema", "-s"], required := true }

/-- The files and directories of the documents. -/
def documentsOption : OptionSpec := { names := ["--documents", "-d"], required := true }

/-- The documents whose fragments are generated elsewhere. -/
def externalOption : OptionSpec := { names := ["--external-documents", "-x"] }

/-- The file of the settings. -/
def settingsOption : OptionSpec := { names := ["--config", "-c"] }

/-- The file that the module goes to. -/
def outputOption : OptionSpec := { names := ["--output", "-o"] }

/-- The file that the module goes to, for a command that has no other place for it. -/
def requiredOutputOption : OptionSpec := { outputOption with required := true }

/-- Asks for one module next to every document. -/
def nearOption : OptionSpec := { names := ["--near-operation-file"], takesValue := false }

/-- What the names of modules next to documents end in. -/
def extensionOption : OptionSpec := { names := ["--extension"] }

/-- Asks for help. -/
def helpOption : OptionSpec := { names := ["--help"], takesValue := false }

/-- Asks for the version. -/
def versionOption : OptionSpec := { names := ["--version"], takesValue := false }

/-- How serious a message must be to be shown. -/
def levelOption : OptionSpec := { names := ["-l", "--log-level"] }

/-- The file that messages go to. -/
def logFileOption : OptionSpec := { names := ["--log-file"] }

/-- The options in front of a command. -/
def commonOptions : List OptionSpec :=
  [levelOption, logFileOption, versionOption, helpOption]

/-- The options of the command for operations. -/
def operationsOptions : List OptionSpec :=
  [schemaOption, documentsOption, externalOption, settingsOption, outputOption, nearOption,
    extensionOption, helpOption]

/-- The options of the command for the global module. -/
def enumsOptions : List OptionSpec :=
  [schemaOption, settingsOption, requiredOutputOption, helpOption]

/-- The extension of modules next to documents, if no other is given. -/
def usualExtension : String :=
  ".generated.ts"

/-- What is wrong with the name of something that must exist. -/
def missingProblem (tree : FileTree) (option : OptionSpec) (kind text : String) :
    Option UsageProblem :=
  if !FilePath.isPossibleText text then some (.impossibleName option)
  else if (tree.locateText? text).isSome then none
  else some (.invalidValue option (kind ++ " " ++ Text.shown text ++ " does not exist."))

/-- What is wrong with the name of something that must not be a directory. -/
def directoryProblem (tree : FileTree) (option : OptionSpec) (text : String) :
    Option UsageProblem :=
  if !FilePath.isPossibleText text then some (.impossibleName option)
  else if (tree.locateText? text).any tree.isDirectory then
    some (.invalidValue option ("File " ++ Text.shown text ++ " is a directory."))
  else none

/-- What is wrong with the values of an option. Options that take one value take the last. -/
def valueProblem (tree : FileTree) (option : OptionSpec) (values : List String) :
    Option UsageProblem :=
  let last := values.getLast?
  if [schemaOption, documentsOption, externalOption].contains option then
    values.findSome? (missingProblem tree option "Path")
  else if option == settingsOption then
    last.bind fun text =>
      (missingProblem tree option "File" text).or (directoryProblem tree option text)
  else if option.names == outputOption.names || option == logFileOption then
    last.bind (directoryProblem tree option)
  else if option == levelOption then
    last.bind fun word =>
      if (LogLevel.ofWord? word).isSome then none
      else some (.invalidValue option (Text.shown word ++ " is not one of "
        ++ ", ".intercalate (LogLevel.words.map fun (word, _) => Text.shown word) ++ "."))
  else none

/-- What is wrong with an option. -/
def optionProblem (tree : FileTree) (given : List GivenOption) (option : OptionSpec) :
    Option UsageProblem :=
  if option.required && !option.isGiven given then some (.missingOption option)
  else valueProblem tree option (option.values given)

/-- Fails with the first problem of options. -/
def check (tree : FileTree) (options : List OptionSpec) (given : List GivenOption) :
    Except UsageProblem Unit :=
  match (OptionSpec.inOrder options given).findSome? (optionProblem tree given) with
  | some problem => .error problem
  | none => .ok ()

/-- The files that the values of an option stand for. -/
def filesOf (tree : FileTree) (given : List GivenOption) (option : OptionSpec) : List FilePath :=
  tree.documentPaths ((option.values given).map FilePath.ofText)

/-- The path that an option names, if it is given. -/
def pathOf (given : List GivenOption) (option : OptionSpec) : Option FilePath :=
  (option.values given).getLast?.map FilePath.ofText

/-- Where the modules of operations go, which must be said in exactly one way. -/
def outputPlace (given : List GivenOption) : Except UsageProblem OutputPlace :=
  let extension := (extensionOption.values given).getLast?.getD usualExtension
  match pathOf given outputOption, nearOption.isGiven given with
  | some path, false => .ok (.file path)
  | none, true => .ok (.nextToDocuments extension)
  | _, _ => .error .unclearOutput

/-- Reads the arguments of a command with the given options. -/
def readWith (tree : FileTree) (options : List OptionSpec)
    (build : List GivenOption → Except UsageProblem Command) (arguments : List String) :
    Except UsageProblem Command := do
  let split ← OptionSpec.split options true arguments
  if helpOption.isGiven split.given then return .help
  check tree options split.given
  if !split.others.isEmpty then throw (.extraArguments split.others)
  build split.given

/-- Reads the arguments of the command for operations. -/
def readOperations (tree : FileTree) : List String → Except UsageProblem Command :=
  readWith tree operationsOptions fun given => do
    let output ← outputPlace given
    return .operations (filesOf tree given schemaOption) (filesOf tree given documentsOption)
      (filesOf tree given externalOption) (pathOf given settingsOption) output

/-- Reads the arguments of the command for the global module. -/
def readEnums (tree : FileTree) : List String → Except UsageProblem Command :=
  readWith tree enumsOptions fun given =>
    let output := (pathOf given requiredOutputOption).getD (FilePath.ofText "")
    .ok (.enums (filesOf tree given schemaOption) (pathOf given settingsOption) output)

/-- The problem of a name that no command has. -/
def unknown (name : String) (commands : List String) : UsageProblem :=
  .unknownCommand name (Similarity.closest name commands)

/-- Reads what stands behind the name of the group of commands. What is not the name of a command
is read as an option once more, since two hyphens may stand in front of it. -/
def readGenerate (tree : FileTree) (arguments : List String) : Except UsageProblem Command := do
  let split ← OptionSpec.split [helpOption] false arguments
  if arguments.isEmpty || helpOption.isGiven split.given then return .help
  match split.others with
  | [] => throw .missingCommand
  | "operations" :: rest => readOperations tree rest
  | "enums" :: rest => readEnums tree rest
  | name :: _ =>
    let again ← OptionSpec.split [helpOption] false split.others
    if helpOption.isGiven again.given then return .help
    throw (unknown name ["operations", "enums"])

/-- What is wrong with the name of the group of commands, which comes first. -/
def groupProblem? : List String → Option UsageProblem
  | [] => some .missingCommand
  | "generate" :: _ => none
  | name :: _ => some (unknown name ["generate"])

/-- Reads the name of the group of commands and what stands behind it. -/
def read (tree : FileTree) (arguments : List String) : Except UsageProblem Command :=
  match groupProblem? arguments with
  | some problem => .error problem
  | none => readGenerate tree (arguments.drop 1)

end Command

end SelectionTypes

import SelectionTypes.CommandLine.Suggestion
import SelectionTypes.Text.Shown

/-!
# `SelectionTypes.CommandLine.Arguments`: options among arguments

An option is written with one hyphen and a letter or with two hyphens and a word. Its value follows
as the next argument, behind an equals sign, or directly behind the letter. `OptionSpec.split`
takes the options out of arguments and leaves the other arguments in order. Behind two hyphens
alone there are no options.
-/

set_option autoImplicit false

namespace SelectionTypes

/-- An option. -/
structure OptionSpec where
  /-- The written forms, as they are shown. -/
  names : List String
  takesValue : Bool := true
  required : Bool := false
  deriving Repr, DecidableEq

/-- What is wrong with the arguments of a command. -/
inductive UsageProblem where
  /-- An option that there is not, and options with names close to it. -/
  | unknownOption (name : String) (close : List String)
  | missingValue (name : String)
  | unwantedValue (name : String)
  | missingOption (option : OptionSpec)
  | invalidValue (option : OptionSpec) (reason : String)
  /-- A value that should name a file and that no file can have as its name. -/
  | impossibleName (option : OptionSpec)
  /-- A command that there is not, and commands with names close to it. -/
  | unknownCommand (name : String) (close : List String)
  | missingCommand
  | extraArguments (arguments : List String)
  /-- Neither one output file nor files next to the documents, or both. -/
  | unclearOutput
  deriving Repr, DecidableEq

namespace OptionSpec

/-- The written forms of an option, in quotes. -/
def hint (option : OptionSpec) : String :=
  " / ".intercalate (option.names.map Text.shown)

end OptionSpec

namespace UsageProblem

/-- The question that offers words, behind a blank. -/
def question : List String → String
  | [] => ""
  | [word] => " Did you mean " ++ Text.shown word ++ "?"
  | words => " (Did you mean one of: " ++ ", ".intercalate (words.map Text.shown) ++ "?)"

/-- The sentence about a problem. -/
def message : UsageProblem → String
  | unknownOption name close => "No such option " ++ Text.shown name ++ "." ++ question close
  | missingValue name => "Option " ++ Text.shown name ++ " requires an argument."
  | unwantedValue name => "Option " ++ Text.shown name ++ " does not take a value."
  | missingOption option => "Missing option " ++ option.hint ++ "."
  | invalidValue option reason => "Invalid value for " ++ option.hint ++ ": " ++ reason
  | impossibleName option =>
    "Invalid value for " ++ option.hint ++ ": a name has no null characters."
  | unknownCommand name close =>
    "No such command " ++ Text.shown name ++ "." ++ question close
  | missingCommand => "Missing command."
  | extraArguments arguments =>
    "Got unexpected extra argument" ++ (if arguments.length == 1 then " (" else "s (")
      ++ " ".intercalate arguments ++ ")"
  | unclearOutput => "Pass either --output or --near-operation-file."

end UsageProblem

/-- An option that is given, with its value if it takes one. -/
structure GivenOption where
  option : OptionSpec
  value : Option String
  deriving Repr, DecidableEq

/-- Options and the arguments that are none. -/
structure SplitArguments where
  given : List GivenOption := []
  others : List String := []

namespace SplitArguments

/-- Adds options in front. -/
def prepend (split : SplitArguments) (given : List GivenOption) : SplitArguments :=
  { split with given := given ++ split.given }

end SplitArguments

namespace OptionSpec

/-- The option with a written form. -/
def find? (options : List OptionSpec) (name : String) : Option OptionSpec :=
  options.find? fun option => option.names.contains name

/-- The problem of an option with two hyphens that there is not. -/
def unknown (options : List OptionSpec) (name : String) : UsageProblem :=
  let words := (options.flatMap OptionSpec.names).filter fun name =>
    "--".toList.isPrefixOf name.toList
  .unknownOption name (Similarity.closest name words)

/-- The letters of several options behind one hyphen. The last one may have a value, and tells
whether it is still to come. -/
def letters (options : List OptionSpec) :
    List Char → Except UsageProblem (List GivenOption × Option (OptionSpec × String))
  | [] => .ok ([], none)
  | letter :: rest =>
    let name := String.ofList ['-', letter]
    match find? options name with
    | none => .error (.unknownOption name [])
    | some option =>
      if !option.takesValue then do
        let (more, awaited) ← letters options rest
        return (⟨option, none⟩ :: more, awaited)
      else if rest.isEmpty then .ok ([], some (option, name))
      else .ok ([⟨option, some (String.ofList rest)⟩], none)

/-- An argument that begins with a hyphen, as options, of which the last may still await its
value. -/
def read (options : List OptionSpec) (argument : String) :
    Except UsageProblem (List GivenOption × Option (OptionSpec × String)) :=
  let characters := argument.toList
  let name := String.ofList (characters.takeWhile (· != '='))
  let explicit := match characters.dropWhile (· != '=') with
    | [] => none
    | _ :: value => some (String.ofList value)
  let isWord := name.length > 2
  match if isWord then find? options name else none with
  | some option =>
    if option.takesValue then
      match explicit with
      | some value => .ok ([⟨option, some value⟩], none)
      | none => .ok ([], some (option, name))
    else if explicit.isSome then .error (.unwantedValue name)
    else .ok ([⟨option, none⟩], none)
  | none =>
    if "--".toList.isPrefixOf characters then .error (unknown options name)
    else letters options (characters.drop 1)

/-- Takes the options out of arguments. Where options and other arguments are not mixed, the first
argument that is no option ends the options. -/
def split (options : List OptionSpec) (mixed : Bool) :
    List String → Except UsageProblem SplitArguments
  | [] => .ok {}
  | argument :: arguments =>
    if argument == "--" then .ok { others := arguments }
    else if argument.toList.head? == some '-' && argument.length > 1 then do
      let (given, awaited) ← read options argument
      match awaited with
      | none => return (← split options mixed arguments).prepend given
      | some (option, name) =>
        match arguments with
        | [] => throw (.missingValue name)
        | value :: arguments =>
          let rest ← split options mixed arguments
          return rest.prepend (given ++ [⟨option, some value⟩])
    else if mixed then do
      let rest ← split options mixed arguments
      return { rest with others := argument :: rest.others }
    else .ok { others := argument :: arguments }

/-- The values that an option is given. -/
def values (option : OptionSpec) (given : List GivenOption) : List String :=
  (given.filter fun item => item.option == option).filterMap GivenOption.value

/-- Whether an option is given. -/
def isGiven (option : OptionSpec) (given : List GivenOption) : Bool :=
  given.any fun item => item.option == option

/-- Options in the order in which they are looked at: those given first, as they are given. -/
def inOrder (options : List OptionSpec) (given : List GivenOption) : List OptionSpec :=
  (given.map GivenOption.option ++ options).eraseDups

end OptionSpec

end SelectionTypes

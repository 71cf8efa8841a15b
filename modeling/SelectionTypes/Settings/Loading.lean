import SelectionTypes.Settings.Reading
import SelectionTypes.Workspace.FileTree
import SelectionTypes.Yaml.Reading

/-!
# `SelectionTypes.Settings.Loading`: settings from a file

A file of settings holds a map in YAML. An empty file, null and an empty map stand for the default
settings, and so does the absence of a file.

`LoadedSettings.showsHalf` tells whether halves of surrogate pairs come from the settings into a
text that is made from them.
-/

set_option autoImplicit false

namespace SelectionTypes

/-- Settings, and the same settings with every half of a surrogate pair stretched. -/
structure LoadedSettings where
  settings : Settings := {}
  stretched : Settings := {}
  deriving Repr, DecidableEq

namespace LoadedSettings

/-- Whether a text that is made from settings has half of a surrogate pair in it. A text without one
does not change when halves are stretched. -/
def showsHalf (loaded : LoadedSettings) (textOf : Settings → Option String) : Bool :=
  loaded.stretched != loaded.settings && textOf loaded.stretched != textOf loaded.settings

/-- The settings that data describes, or all problems of the data. -/
def ofData (data : Data) : Except (List Settings.Problem) LoadedSettings := do
  return { settings := ← Settings.ofData data, stretched := ← Settings.stretchedOfData data }

end LoadedSettings

namespace Settings

/-- Why settings cannot be loaded. -/
inductive LoadProblem where
  | unreadable
  /-- The name of the file is empty. -/
  | unnamed
  /-- No file can have the name. -/
  | impossible
  | notYaml (failure : Yaml.Failure)
  /-- The file holds something else than a map, of the named type. -/
  | notMap (typeName : String)
  | problems (found : List Problem)
  deriving Repr, DecidableEq

/-- The sentence about a file without a map. -/
def notMapMessage (typeName : String) : String :=
  "Codegen config root must be a mapping (YAML object), got " ++ typeName

/-- The sentence about a mapping that is tagged as a timestamp. -/
def timestampMessage : String :=
  "expected string or bytes-like object, got 'list'"

/-- The settings that a text in YAML describes. -/
def ofYaml (text : String) : Except LoadProblem LoadedSettings :=
  match Data.ofYaml text with
  | .error failure => .error (.notYaml failure)
  | .ok .null | .ok (.map []) => .ok {}
  | .ok (.map entries) => (LoadedSettings.ofData (.map entries)).mapError .problems
  | .ok data => .error (.notMap data.typeName)

/-- The settings in a file. -/
def ofFile (tree : FileTree) (path : FilePath) : Except LoadProblem LoadedSettings :=
  match tree.readText? path with
  | none => .error (if path.isPossible then .unreadable else .impossible)
  | some text => ofYaml text

/-- The settings in the file with a name, or the default settings if no name is given. -/
def load (tree : FileTree) (name : Option String) : Except LoadProblem Settings :=
  match name with
  | none => .ok {}
  | some "" => .error .unnamed
  | some name => do return (← ofFile tree (.ofText name)).settings

end Settings

end SelectionTypes

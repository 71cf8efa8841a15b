import SelectionTypes.Text.Parts

/-!
# `SelectionTypes.Workspace.FilePath`: paths of files

A path is made of its leading slashes and its parts. Empty parts and single dots are left out, and
the step to the directory above stays. An absolute location is a list of names from the root, and a
path leads to one from a working directory.

`FilePath.siblingModule?` is the path of a module next to a document, and `importSpecifier` the text
under which one module imports another.
-/

set_option autoImplicit false

namespace SelectionTypes

/-- A path. A relative path has no leading slash. -/
structure FilePath where
  slashes : Nat
  parts : List String
  deriving Repr, DecidableEq, Inhabited

/-- The names that lead from the root to a file or directory. -/
abbrev PlaceInTree := List String

namespace FilePath

/-- The step to the directory above. -/
def above : String := ".."

/-- The leading slashes that count: two stay two, and more are one. -/
def countedSlashes (count : Nat) : Nat :=
  if count == 2 then 2 else min count 1

/-- The path that a text describes. -/
def ofText (text : String) : FilePath :=
  let parts := (Text.partsBetween '/' text.toList).map String.ofList
  { slashes := countedSlashes (text.toList.takeWhile (· == '/')).length
    parts := parts.filter fun part => part != "" && part != "." }

/-- The written form of a path. -/
def text (path : FilePath) : String :=
  if path.slashes == 0 && path.parts.isEmpty then "."
  else String.ofList (List.replicate path.slashes '/') ++ "/".intercalate path.parts

/-- Whether a text can name a file: no name has a null character. -/
def isPossibleText (text : String) : Bool :=
  !text.toList.contains '\x00'

/-- Whether a path can lead to a file. -/
def isPossible (path : FilePath) : Bool :=
  path.parts.all isPossibleText

/-- The last part, or nothing. -/
def name (path : FilePath) : String :=
  path.parts.getLast?.getD ""

/-- The path without its last part. -/
def parent (path : FilePath) : FilePath :=
  { path with parts := path.parts.dropLast }

/-- The path of something inside a directory. -/
def join (path : FilePath) (parts : List String) : FilePath :=
  { path with parts := path.parts ++ parts }

/-- A name up to its last dot, unless that dot is its first or last character. -/
def stemOf (name : List Char) : List Char :=
  let before := (name.reverse.dropWhile (· != '.')).drop 1
  if before.isEmpty || name.getLast? == some '.' then name else before.reverse

/-- The last part without its extension. -/
def stem (path : FilePath) : String :=
  String.ofList (stemOf path.name.toList)

/-- Whether a text can be the last part of a path. -/
def isName (name : String) : Bool :=
  name != "" && name != "." && !name.toList.contains '/'

/-- The path with another last part. -/
def withName? (path : FilePath) (name : String) : Option FilePath :=
  if path.parts.isEmpty || !isName name then none
  else some { path with parts := path.parts.dropLast ++ [name] }

/-- The path of the module next to a document, with the extension of modules. -/
def siblingModule? (document : FilePath) (extension : String) : Option FilePath :=
  document.withName? (document.stem ++ extension)

/-- One step from a place. An empty part and a single dot stay there. -/
def step (place : PlaceInTree) (part : String) : PlaceInTree :=
  if part == "" || part == "." then place
  else if part == above then place.dropLast
  else place ++ [part]

/-- The place that a path leads to, whether or not the directories on the way exist. -/
def placeFrom (directory : PlaceInTree) (path : FilePath) : PlaceInTree :=
  path.parts.foldl step (if path.slashes == 0 then directory else [])

end FilePath

namespace PlaceInTree

/-- The steps from a directory to a place. -/
def stepsFrom (directory : PlaceInTree) (place : PlaceInTree) : List String :=
  match directory, place with
  | first :: directory, other :: place =>
    if first == other then stepsFrom directory place
    else List.replicate (directory.length + 1) FilePath.above ++ other :: place
  | directory, place => List.replicate directory.length FilePath.above ++ place

end PlaceInTree

/-- What the name of a module ends in. -/
def moduleExtension : String := ".ts"

/-- Takes the extension of a module away. -/
def withoutModuleExtension (text : String) : String :=
  if moduleExtension.toList.isSuffixOf text.toList then
    String.ofList (text.toList.take (text.toList.length - moduleExtension.toList.length))
  else text

/-- The text under which a module imports another, from the directory of the former. -/
def importSpecifier (directory : PlaceInTree) (target importing : FilePath) : String :=
  let steps := PlaceInTree.stepsFrom (importing.parent.placeFrom directory)
    (target.placeFrom directory)
  let relative := withoutModuleExtension (if steps.isEmpty then "." else "/".intercalate steps)
  -- A specifier that does not begin with a dot would name a package.
  if relative.toList.head? == some '.' then relative else "./" ++ relative

end SelectionTypes

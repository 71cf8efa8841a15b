import SelectionTypes.Document.Directives
import SelectionTypes.Text.Newlines
import SelectionTypes.Workspace.FilePath

/-!
# `SelectionTypes.Workspace.FileTree`: files and directories

A tree is a list of files with their places, and a working directory. The directories are those
that the files and the working directory lie in, and those that have been made. `FileTree.locate?`
follows a path through directories that exist, and `FileTree.writeFile?` writes a file and makes the
directories that are missing on the way to it.
-/

set_option autoImplicit false

namespace SelectionTypes

/-- Files, each at its place, and the directory that relative paths start from. -/
structure FileTree where
  workingDirectory : PlaceInTree
  files : List (PlaceInTree × String)
  /-- Directories, whether or not there is something in them. -/
  made : List PlaceInTree := []
  deriving Repr, DecidableEq

namespace FileTree

/-- The text of the file at a place. -/
def read? (tree : FileTree) (place : PlaceInTree) : Option String :=
  tree.files.lookup place

/-- Whether there is a file at a place. -/
def isFile (tree : FileTree) (place : PlaceInTree) : Bool :=
  (tree.read? place).isSome

/-- Whether there is a directory at a place. -/
def isDirectory (tree : FileTree) (place : PlaceInTree) : Bool :=
  place.isPrefixOf tree.workingDirectory
    || (tree.files.any fun (file, _) => place.isPrefixOf file && place != file)
    || tree.made.any fun directory => place.isPrefixOf directory

/-- The place where a path starts that may be absolute. -/
def start (tree : FileTree) (absolute : Bool) : PlaceInTree :=
  if absolute then [] else tree.workingDirectory

/-- Follows the parts of a path from a place. Only a directory has something inside, and only in a
directory a step may stay where it is. -/
def follow (tree : FileTree) (place : PlaceInTree) : List String → Option PlaceInTree
  | [] => if tree.isFile place || tree.isDirectory place then some place else none
  | part :: parts =>
    if tree.isDirectory place then follow tree (FilePath.step place part) parts else none

/-- The place of an existing file or directory. -/
def locate? (tree : FileTree) (path : FilePath) : Option PlaceInTree :=
  tree.follow (tree.start (path.slashes != 0)) path.parts

/-- The greatest number of bytes in the text of a path. -/
def longestText : Nat := 4095

/-- The place of the existing file or directory that a text names as it is written. A slash at the
end, or a dot behind it, asks for a directory. -/
def locateText? (tree : FileTree) (text : String) : Option PlaceInTree :=
  if text.isEmpty || longestText < text.utf8ByteSize then none
  else
    tree.follow (tree.start (text.toList.head? == some '/'))
      ((Text.partsBetween '/' text.toList).map String.ofList)

/-- The text of the file that a path leads to, with line feeds at the ends of its lines. -/
def readText? (tree : FileTree) (path : FilePath) : Option String :=
  ((tree.locate? path).bind tree.read?).map Text.withLineFeeds

/-- Puts a text at a place. -/
def write (tree : FileTree) (place : PlaceInTree) (text : String) : FileTree :=
  { tree with files := putEntry place text tree.files }

/-- The greatest number of bytes in a name. -/
def longestName : Nat := 255

/-- Whether a name is short enough. -/
def isShort (name : String) : Bool :=
  name.utf8ByteSize ≤ longestName

/-- Follows the parts of a path from a directory, and makes the directories that are missing. -/
def enter? (tree : FileTree) (directory : PlaceInTree) :
    List String → Option (FileTree × PlaceInTree)
  | [] => some (tree, directory)
  | part :: parts =>
    let next := FilePath.step directory part
    if tree.isFile next || !isShort part then none
    else
      let tree := if tree.isDirectory next then tree else { tree with made := next :: tree.made }
      enter? tree next parts

/-- Writes a text into the file that a path leads to. -/
def writeFile? (tree : FileTree) (path : FilePath) (text : String) : Option FileTree := do
  if longestText < path.text.utf8ByteSize then none
  let name ← path.parts.getLast?
  let (tree, directory) ← tree.enter? (tree.start (path.slashes != 0)) path.parts.dropLast
  let place := FilePath.step directory name
  if name == FilePath.above || !isShort name || tree.isDirectory place then none
  return tree.write place text

/-- Makes an empty file at the end of a path, in a directory that exists. What the path leaves again
by a step to the directory above need not exist. -/
def startFile? (tree : FileTree) (path : FilePath) : Option FileTree := do
  let place := path.placeFrom tree.workingDirectory
  let name ← place.getLast?
  if !isShort name || tree.isDirectory place || !tree.isDirectory place.dropLast then none
  return tree.write place ""

/-- The places on the way to a place, from the root on. -/
def waysTo (place : PlaceInTree) : List PlaceInTree :=
  (List.range (place.length + 1)).map fun count => place.take count

/-- Everything in a tree: files and directories. -/
def places (tree : FileTree) : List PlaceInTree :=
  ((tree.workingDirectory :: tree.files.map Prod.fst ++ tree.made).flatMap waysTo).eraseDups

/-- The steps from a directory to a place inside it. -/
def stepsInto (directory place : PlaceInTree) : Option (List String) :=
  if directory.isPrefixOf place && directory != place then some (place.drop directory.length)
  else none

/-- What is inside a directory, at any depth, as steps from it. -/
def contents (tree : FileTree) (directory : PlaceInTree) : List (List String) :=
  tree.places.filterMap (stepsInto directory)

/-- The files inside a directory, at any depth, as steps from it. -/
def filesInside (tree : FileTree) (directory : PlaceInTree) : List (List String) :=
  (tree.files.map Prod.fst).filterMap (stepsInto directory)

end FileTree

end SelectionTypes

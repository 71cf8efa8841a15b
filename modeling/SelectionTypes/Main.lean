import SelectionTypes.CommandLine.Run

/-!
# `SelectionTypes.Main`: the command line

The program reads what its arguments name into a file tree, runs the command on the tree, and
writes the files that the run has changed.
-/

set_option autoImplicit false

namespace SelectionTypes.CommandLine

/-- The texts among arguments that could name a file or a directory: an argument, what stands
behind its equals sign, and what stands behind its letter. -/
def candidates (arguments : List String) : List FilePath :=
  let parts (argument : String) : List String :=
    let characters := argument.toList
    [argument, String.ofList ((characters.dropWhile (· != '=')).drop 1),
      String.ofList (characters.drop 2)]
  ((arguments.flatMap parts).filter fun text => !text.isEmpty).map FilePath.ofText |>.eraseDups

/-- Reads a file into a tree, unless it holds no text. -/
def addFile (path : String) (place : PlaceInTree) (tree : FileTree) : IO FileTree := do
  try
    return tree.write place (← IO.FS.readFile path)
  catch _ => return tree

/-- Reads a file, or all files inside a directory, into a tree. -/
partial def addFiles (path : String) (place : PlaceInTree) (tree : FileTree) : IO FileTree := do
  let named := System.mkFilePath [path]
  if ← named.isDir then
    let mut tree := tree
    for entry in ← named.readDir do
      tree ← addFiles (path ++ "/" ++ entry.fileName) (place ++ [entry.fileName]) tree
    return tree
  else if ← named.pathExists then addFile path place tree
  else return tree

/-- The tree of everything that arguments name. -/
def readTree (arguments : List String) : IO FileTree := do
  let directory := (FilePath.ofText (← IO.currentDir).toString).parts
  let mut tree : FileTree := { workingDirectory := directory, files := [] }
  for path in candidates arguments do
    tree ← addFiles path.text (path.placeFrom directory) tree
  return tree

/-- Writes the files that differ from those of another tree. -/
def writeTree (before after : FileTree) : IO Unit := do
  for (place, text) in after.files do
    if before.read? place != some text then
      IO.FS.createDirAll ("/" ++ "/".intercalate place.dropLast)
      IO.FS.writeFile ("/" ++ "/".intercalate place) text

/-- Runs the command that arguments describe, and gives its exit code. -/
def runAndWrite (arguments : List String) : IO UInt32 := do
  let tree ← readTree arguments
  let outcome := run tree arguments
  IO.print outcome.printed
  for message in outcome.log do
    IO.eprintln message
  match outcome.failure.bind Failure.message? with
  | some message => IO.eprintln ("Error: " ++ message)
  | none => pure ()
  writeTree tree outcome.tree
  return outcome.exitCode.toUInt32

end SelectionTypes.CommandLine

/-- The program. -/
def main (arguments : List String) : IO UInt32 :=
  SelectionTypes.CommandLine.runAndWrite arguments

import Mathlib.Data.List.Basic
import SelectionTypes.Workspace.FileTree

/-!
# `SelectionTypes.Proofs.Workspace.FileTree`: what is in a tree after a write

`FileTree.writeFile?_eq_some` says all that a write changes: the text at the place that the path
leads to, and the directories that have been made. So the file there holds the text, and every other
file holds what it held (`read?_of_writeFile?`).
-/

set_option autoImplicit false

namespace SelectionTypes

/-- A key has its new value, and every other key the value that it had. -/
theorem lookup_putEntry {κ ν : Type} [BEq κ] [LawfulBEq κ] (key : κ) (value : ν)
    (table : List (κ × ν)) (other : κ) :
    (putEntry key value table).lookup other =
      if other == key then some value else table.lookup other := by
  induction table with
  | nil => rw [putEntry, List.lookup_cons]; cases other == key <;> rfl
  | cons entry rest ih =>
    obtain ⟨first, held⟩ := entry
    rw [putEntry]
    by_cases same : first = key
    · subst same
      rw [if_pos (beq_self_eq_true first), List.lookup_cons, List.lookup_cons]
      cases other == first <;> rfl
    · rw [if_neg (by simpa using same), List.lookup_cons, List.lookup_cons, ih]
      by_cases found : other = first
      · subst found
        simp only [beq_self_eq_true, beq_eq_false_iff_ne.mpr same, Bool.false_eq_true, if_false]
      · simp only [beq_eq_false_iff_ne.mpr found]

namespace FileTree

variable {tree after : FileTree} {path : FilePath} {text : String}

/-- The file at the place of a write holds the text, and others what they held. -/
theorem read?_write (tree : FileTree) (place : PlaceInTree) (text : String) (other : PlaceInTree) :
    (tree.write place text).read? other =
      if other == place then some text else tree.read? other :=
  lookup_putEntry place text tree.files other

/-- On the way to a file, nothing happens but that directories are made. -/
theorem enter?_eq_some {parts : List String} {directory place : PlaceInTree}
    (entered : tree.enter? directory parts = some (after, place)) :
    place = parts.foldl FilePath.step directory ∧ ∃ made, after = { tree with made } := by
  induction parts generalizing tree directory with
  | nil =>
    cases entered
    exact ⟨rfl, _, rfl⟩
  | cons part parts ih =>
    rw [enter?] at entered
    split at entered
    · cases entered
    · obtain ⟨isPlace, made, rfl⟩ := ih entered
      refine ⟨isPlace, made, ?_⟩
      split <;> rfl

/-- The start of a path. -/
theorem start_eq (tree : FileTree) (path : FilePath) :
    tree.start (path.slashes != 0) =
      if path.slashes == 0 then tree.workingDirectory else [] := by
  unfold start bne
  cases path.slashes == 0 <;> rfl

/-- A write puts the text at the place that the path leads to, and makes directories. -/
theorem writeFile?_eq_some (written : tree.writeFile? path text = some after) :
    ∃ made, after = { tree with made }.write (path.placeFrom tree.workingDirectory) text := by
  unfold writeFile? at written
  split at written
  · cases written
  · obtain ⟨name, isLast, written⟩ := Option.bind_eq_some_iff.mp written
    obtain ⟨⟨entered, directory⟩, enters, written⟩ := Option.bind_eq_some_iff.mp written
    dsimp only at written
    split at written
    · cases written
    · obtain ⟨isDirectory, made, rfl⟩ := enter?_eq_some enters
      -- The path without its last name is the directory that was entered.
      have isPlace : path.placeFrom tree.workingDirectory = FilePath.step directory name := by
        have parts : path.parts.dropLast ++ [name] = path.parts :=
          List.dropLast_append_getLast? name isLast
        rw [FilePath.placeFrom, ← parts, List.foldl_append, isDirectory, start_eq]
        rfl
      cases written
      exact ⟨made, by rw [isPlace]⟩

/-- After a write the file at the place that the path leads to holds the text. Every other file
holds what it held. -/
theorem read?_of_writeFile? (written : tree.writeFile? path text = some after)
    (place : PlaceInTree) :
    after.read? place =
      if place == path.placeFrom tree.workingDirectory then some text else tree.read? place := by
  obtain ⟨made, rfl⟩ := writeFile?_eq_some written
  exact read?_write _ _ _ _

/-- A write does not change where relative paths start. -/
theorem workingDirectory_of_writeFile? (written : tree.writeFile? path text = some after) :
    after.workingDirectory = tree.workingDirectory := by
  obtain ⟨made, rfl⟩ := writeFile?_eq_some written
  rfl

end FileTree

end SelectionTypes

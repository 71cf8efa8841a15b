import Mathlib.Data.List.Induction
import Mathlib.Data.List.Infix
import SelectionTypes.Proofs.Text.Parts
import SelectionTypes.Workspace.FilePath

/-!
# `SelectionTypes.Proofs.Workspace.FilePath`: specifiers that tell files apart

A specifier is written in three stages: the steps to a file, their text, and the text without the
extension of a module. The steps lead back to the file (`foldl_stepsFrom`), and the text has them
between its slashes (`intercalate_slash_inj`). So the first two stages tell all files apart.

The third one does not: it writes `pets` for the files `pets` and `pets.ts`. Two files whose names
have one ending still differ, unless the ending is shorter than the extension of a module and a part
of it (`importSpecifier_inj`).
-/

set_option autoImplicit false

namespace SelectionTypes

namespace FilePath

variable {directory place : PlaceInTree} {name : String}

/-! ### Proper names -/

/-- A name of something inside a directory. -/
def IsProper (name : String) : Prop :=
  isName name ∧ name ≠ above

instance (name : String) : Decidable (IsProper name) :=
  inferInstanceAs (Decidable (_ ∧ _))

/-- A name is neither empty nor a single dot, and it has no slash. -/
theorem isName_iff : isName name ↔ name ≠ "" ∧ name ≠ "." ∧ '/' ∉ name.toList := by
  simp [isName, and_assoc]

/-- A step with a proper name goes down to it. -/
theorem step_of_isProper (proper : IsProper name) : step place name = place ++ [name] := by
  obtain ⟨filled, dotless, -⟩ := isName_iff.mp proper.1
  simp [step, filled, dotless, proper.2]

/-- The step above leaves the last directory. -/
theorem step_above (place : PlaceInTree) : step place above = place.dropLast :=
  rfl

/-- A step from proper names with a name gives proper names. -/
theorem isProper_of_mem_step (proper : ∀ inside ∈ place, IsProper inside) (named : isName name) :
    ∀ inside ∈ step place name, IsProper inside := by
  by_cases isAbove : name = above
  · rw [isAbove, step_above]
    exact fun inside listed => proper inside (List.dropLast_subset place listed)
  · rw [step_of_isProper ⟨named, isAbove⟩, List.forall_mem_append, List.forall_mem_singleton]
    exact ⟨proper, named, isAbove⟩

/-- A path of names leads from proper names to proper names. -/
theorem isProper_placeFrom {path : FilePath} (proper : ∀ inside ∈ directory, IsProper inside)
    (named : ∀ part ∈ path.parts, isName part) :
    ∀ inside ∈ path.placeFrom directory, IsProper inside := by
  unfold placeFrom
  -- Each step keeps the names of the place that it starts from.
  suffices walk : ∀ (parts : List String) (place : PlaceInTree),
      (∀ inside ∈ place, IsProper inside) → (∀ part ∈ parts, isName part) →
      ∀ inside ∈ parts.foldl step place, IsProper inside by
    refine walk path.parts _ ?_ named
    split
    · exact proper
    · exact fun _ listed => nomatch listed
  intro parts
  induction parts with
  | nil => exact fun place proper _ => proper
  | cons part parts ih =>
    intro place proper named
    rw [List.forall_mem_cons] at named
    exact ih _ (isProper_of_mem_step proper named.1) named.2

/-- The place of a path with another name is a step from the place of its directory. -/
theorem placeFrom_withName {path named : FilePath} {name : String}
    (isNamed : path.withName? name = some named) :
    named.placeFrom directory = step (path.parent.placeFrom directory) name := by
  unfold withName? at isNamed
  split at isNamed
  · cases isNamed
  · cases isNamed
    rw [placeFrom, List.foldl_append]
    rfl

/-- A path with another name has the directory of the first. -/
theorem parent_withName {path named : FilePath} {name : String}
    (isNamed : path.withName? name = some named) : named.parent = path.parent := by
  unfold withName? at isNamed
  split at isNamed
  · cases isNamed
  · cases isNamed
    simp [parent]

/-- A file only gets a name that is one. -/
theorem isName_of_withName {path named : FilePath} {name : String}
    (isNamed : path.withName? name = some named) : isName name := by
  unfold withName? at isNamed
  split at isNamed
  · cases isNamed
  · next possible => simpa using And.right (by simpa using possible)

/-! ### Steps between places -/

/-- Proper names lead into directories. -/
theorem foldl_step_of_isProper {names : List String} (proper : ∀ name ∈ names, IsProper name) :
    names.foldl step place = place ++ names := by
  induction names generalizing place with
  | nil => rw [List.foldl_nil, List.append_nil]
  | cons name names ih =>
    rw [List.forall_mem_cons] at proper
    rw [List.foldl_cons, step_of_isProper proper.1, ih proper.2, ← List.append_cons]

/-- Steps to the directory above lead out of as many directories. -/
theorem foldl_step_above (common up : PlaceInTree) :
    (List.replicate up.length above).foldl step (common ++ up) = common := by
  induction up using List.reverseRecOn with
  | nil => exact List.append_nil common
  | append_singleton up last ih =>
    rw [List.length_append, List.length_singleton, List.replicate_succ, List.foldl_cons, step_above,
      ← List.append_assoc, List.dropLast_concat, ih]

end FilePath

namespace PlaceInTree

open FilePath (IsProper isName above step)

variable {directory place : PlaceInTree}

/-- The steps go out of the directories that are not on the way to the place, and then into those
that are. -/
theorem stepsFrom_eq (directory place : PlaceInTree) :
    ∃ common up down, directory = common ++ up ∧ place = common ++ down ∧
      stepsFrom directory place = List.replicate up.length above ++ down := by
  fun_induction stepsFrom directory place with
  | case1 first directory other place same ih =>
    obtain ⟨common, up, down, rfl, rfl, steps⟩ := ih
    rw [beq_iff_eq] at same
    exact ⟨first :: common, up, down, rfl, by rw [same, List.cons_append], steps⟩
  | case2 first directory other place different =>
    exact ⟨[], first :: directory, other :: place, rfl, rfl, rfl⟩
  | case3 directory place none =>
    exact ⟨[], directory, place, rfl, rfl, rfl⟩

/-- The steps to a place of proper names lead there. -/
theorem foldl_stepsFrom (proper : ∀ name ∈ place, IsProper name) :
    (stepsFrom directory place).foldl step directory = place := by
  obtain ⟨common, up, down, rfl, rfl, steps⟩ := stepsFrom_eq directory place
  rw [steps, List.foldl_append, FilePath.foldl_step_above]
  exact FilePath.foldl_step_of_isProper fun name listed =>
    proper name (List.mem_append_right common listed)

/-- Each step to a place of proper names is a name. -/
theorem isName_of_mem_stepsFrom (proper : ∀ name ∈ place, IsProper name) :
    ∀ part ∈ stepsFrom directory place, isName part := by
  obtain ⟨common, up, down, -, rfl, steps⟩ := stepsFrom_eq directory place
  rw [steps, List.forall_mem_append]
  refine ⟨fun part listed => ?_, fun part listed => ?_⟩
  · rw [List.eq_of_mem_replicate listed]
    decide
  · exact (proper part (List.mem_append_right common listed)).1

/-- The steps to a place that the directory does not lie in end in the name of the place. -/
theorem exists_stepsFrom_concat {name : String} (outside : ¬ place ++ [name] <+: directory) :
    ∃ front, stepsFrom directory (place ++ [name]) = front ++ [name] := by
  obtain ⟨common, up, down, rfl, same, steps⟩ := stepsFrom_eq directory (place ++ [name])
  rcases List.eq_nil_or_concat down with rfl | ⟨front, last, rfl⟩
  · rw [same, List.append_nil] at outside
    exact absurd (List.prefix_append common up) outside
  · rw [List.concat_eq_append, ← List.append_assoc] at same
    obtain ⟨-, rfl⟩ := List.append_singleton_inj.mp same
    exact ⟨_, by rw [steps, List.concat_eq_append, List.append_assoc]⟩

end PlaceInTree

/-! ### Texts of steps -/

/-- The parts of a text with slashes between parts without slashes are these. -/
theorem splitOn_intercalate_slash {parts : List String}
    (slashless : ∀ part ∈ parts, '/' ∉ part.toList) (filled : parts ≠ []) :
    List.splitOn '/' ("/".intercalate parts).toList = parts.map String.toList := by
  rw [String.toList_intercalate]
  refine List.splitOn_intercalate '/' ?_ (mt List.map_eq_nil_iff.mp filled)
  rwa [List.forall_mem_map]

/-- Slashes between parts without slashes can be told from the parts. -/
theorem intercalate_slash_inj {parts others : List String}
    (slashless : ∀ part ∈ parts, '/' ∉ part.toList)
    (slashless' : ∀ part ∈ others, '/' ∉ part.toList)
    (filled : parts ≠ []) (filled' : others ≠ [])
    (same : "/".intercalate parts = "/".intercalate others) : parts = others := by
  refine List.map_injective_iff.mpr (fun _ _ => String.toList_inj.mp) ?_
  rw [← splitOn_intercalate_slash slashless filled, ← splitOn_intercalate_slash slashless' filled',
    same]

/-- A name and a slash at the beginning of a text of parts without slashes are its first part. -/
theorem eq_of_prefix_intercalate {name first : String} {behind : List String}
    (slashless : '/' ∉ name.toList) (slashless' : ∀ part ∈ first :: behind, '/' ∉ part.toList)
    (begins : name.toList ++ ['/'] <+: ("/".intercalate (first :: behind)).toList) :
    first = name := by
  obtain ⟨rest, text⟩ := begins
  have split := splitOn_intercalate_slash slashless' (List.cons_ne_nil first behind)
  rw [← text, List.append_assoc, List.singleton_append,
    List.splitOn_append_cons_self_of_not_mem slashless, List.map_cons] at split
  exact String.toList_inj.mp (List.head_eq_of_cons_eq split).symm

/-- A text of names does not begin with a step that stays. -/
theorem not_prefix_intercalate {parts : List String} (named : ∀ part ∈ parts, FilePath.isName part)
    (filled : parts ≠ []) : ¬ "./".toList <+: ("/".intercalate parts).toList := by
  intro stays
  obtain ⟨first, behind, rfl⟩ := List.exists_cons_of_ne_nil filled
  have isDot : first = "." := eq_of_prefix_intercalate (by decide)
    (fun part listed => (FilePath.isName_iff.mp (named part listed)).2.2) stays
  exact (FilePath.isName_iff.mp (named first List.mem_cons_self)).2.1 isDot

/-! ### The extension of a module -/

/-- Without its extension a text is as before or shorter by the extension. -/
theorem withoutModuleExtension_cases (text : String) :
    (¬ moduleExtension.toList <:+ text.toList ∧ withoutModuleExtension text = text) ∨
      text = withoutModuleExtension text ++ moduleExtension := by
  unfold withoutModuleExtension
  split
  · next ends =>
    refine .inr (String.toList_inj.mp ?_)
    obtain ⟨front, split⟩ := List.isSuffixOf_iff_suffix.mp ends
    rw [String.toList_append, String.toList_ofList, ← split, List.length_append,
      Nat.add_sub_cancel, List.take_left]
  · next other => exact .inl ⟨mt List.isSuffixOf_iff_suffix.mpr other, rfl⟩

/-- The endings of names that an extension of modules can leave open: the proper parts of its
end. -/
def openExtensions : List String := ["", "s", "ts"]

/-- Two texts with one ending are the same if they are without the extension of a module. -/
theorem eq_of_withoutModuleExtension {first second extension : String}
    (ends : extension.toList <:+ first.toList) (ends' : extension.toList <:+ second.toList)
    (closed : extension ∉ openExtensions)
    (same : withoutModuleExtension first = withoutModuleExtension second) : first = second := by
  -- A text that has the extension of a module and one that does not have no ending in common but
  -- the open ones.
  have apart {first second : String} (ends : extension.toList <:+ first.toList)
      (ends' : extension.toList <:+ second.toList)
      (other : ¬ moduleExtension.toList <:+ first.toList)
      (module : second = first ++ moduleExtension) : False := by
    rw [module, String.toList_append] at ends'
    rcases List.suffix_or_suffix_of_suffix ends' (List.suffix_append _ _) with short | long
    · have short : extension.toList ∈ [".ts", "ts", "s", ""].map String.toList :=
        (List.mem_tails _ _).mpr short
      simp only [List.map_cons, List.map_nil, List.mem_cons, List.not_mem_nil, or_false,
        String.toList_inj] at short
      rcases short with rfl | rfl | rfl | rfl
      · exact other ends
      all_goals exact closed (by decide)
    · exact other (long.trans ends)
  rcases withoutModuleExtension_cases first with ⟨none, isFirst⟩ | isFirst <;>
    rcases withoutModuleExtension_cases second with ⟨none', isSecond⟩ | isSecond
  · rw [← isFirst, same, isSecond]
  · rw [← same, isFirst] at isSecond
    exact (apart ends ends' none isSecond).elim
  · rw [same, isSecond] at isFirst
    exact (apart ends' ends none' isFirst).elim
  · rw [isFirst, same, ← isSecond]

/-- A text without its extension begins as before. -/
theorem prefix_withoutModuleExtension (text : String) :
    (withoutModuleExtension text).toList <+: text.toList := by
  rcases withoutModuleExtension_cases text with ⟨-, same⟩ | split
  · rw [same]
  · exact ⟨moduleExtension.toList, by rw [← String.toList_append, ← split]⟩

/-! ### Specifiers -/

/-- A specifier comes from one text of names: it begins with the step that stays where the text
does not begin with a dot. -/
theorem prefixed_inj {first second : String} (stays : ¬ "./".toList <+: first.toList)
    (stays' : ¬ "./".toList <+: second.toList)
    (same : (if first.toList.head? == some '.' then first else "./" ++ first) =
      if second.toList.head? == some '.' then second else "./" ++ second) : first = second := by
  split at same <;> split at same
  · exact same
  · rw [same, String.toList_append] at stays
    exact (stays (List.prefix_append _ _)).elim
  · rw [← same, String.toList_append] at stays'
    exact (stays' (List.prefix_append _ _)).elim
  · exact (String.append_right_inj _).mp same

namespace PlaceInTree

/-- The place of a file whose name has an ending, as it is seen from a directory that does not lie
in it. -/
structure IsFileFrom (directory : PlaceInTree) (extension : String) (place : PlaceInTree) :
    Prop where
  proper : ∀ name ∈ place, FilePath.IsProper name
  ends : ∃ parent name, place = parent ++ [name] ∧ extension.toList <:+ name.toList
  outside : ¬ place <+: directory

variable {directory place : PlaceInTree} {extension : String}

/-- There are steps to a file, all of them are names, and their text has the ending. -/
theorem IsFileFrom.steps (file : IsFileFrom directory extension place) :
    stepsFrom directory place ≠ [] ∧ (∀ part ∈ stepsFrom directory place, FilePath.isName part) ∧
      extension.toList <:+ ("/".intercalate (stepsFrom directory place)).toList := by
  obtain ⟨parent, name, rfl, ends⟩ := file.ends
  obtain ⟨front, steps⟩ := exists_stepsFrom_concat file.outside
  refine ⟨?_, isName_of_mem_stepsFrom file.proper, ?_⟩
  · rw [steps]
    exact List.append_ne_nil_of_right_ne_nil front (List.cons_ne_nil name [])
  · rw [steps]
    exact ends.trans (suffix_intercalate "/" name front)

/-- Files whose names have one ending have specifiers of their own, unless the ending is open. -/
theorem importSpecifier_inj {first second importing : FilePath}
    (closed : extension ∉ openExtensions)
    (isFirst : IsFileFrom (importing.parent.placeFrom directory) extension
      (first.placeFrom directory))
    (isSecond : IsFileFrom (importing.parent.placeFrom directory) extension
      (second.placeFrom directory))
    (same : importSpecifier directory first importing
      = importSpecifier directory second importing) :
    first.placeFrom directory = second.placeFrom directory := by
  obtain ⟨filled, named, ends⟩ := isFirst.steps
  obtain ⟨filled', named', ends'⟩ := isSecond.steps
  have slashless {parts : List String} (named : ∀ part ∈ parts, FilePath.isName part)
      (part : String) (listed : part ∈ parts) : '/' ∉ part.toList :=
    (FilePath.isName_iff.mp (named part listed)).2.2
  have stays {parts : List String} (named : ∀ part ∈ parts, FilePath.isName part)
      (filled : parts ≠ []) :
      ¬ "./".toList <+: (withoutModuleExtension ("/".intercalate parts)).toList :=
    fun begins => not_prefix_intercalate named filled
      (begins.trans (prefix_withoutModuleExtension _))
  unfold importSpecifier at same
  simp only [List.isEmpty_eq_false_iff.mpr filled, List.isEmpty_eq_false_iff.mpr filled',
    Bool.false_eq_true, if_false] at same
  -- One stage after the other is undone: the dot in front, the extension, and the slashes.
  have texts := eq_of_withoutModuleExtension ends ends' closed
    (prefixed_inj (stays named filled) (stays named' filled') same)
  have steps := intercalate_slash_inj (slashless named) (slashless named') filled filled' texts
  calc first.placeFrom directory
    _ = (stepsFrom _ (first.placeFrom directory)).foldl FilePath.step _ :=
      (foldl_stepsFrom isFirst.proper).symm
    _ = (stepsFrom _ (second.placeFrom directory)).foldl FilePath.step _ := by rw [steps]
    _ = second.placeFrom directory := foldl_stepsFrom isSecond.proper

end PlaceInTree

end SelectionTypes

import SelectionTypes.Proofs.Workspace.FilePath

/-!
# `SelectionTypes.Proofs.Workspace.Specifiers`: the way back from a specifier

A specifier and the extension of modules are the text of a path. Read from the directory of the
importing module, it leads to the imported file, because its parts are the steps to that file
(`placeFrom_importSpecifier`).

A specifier is relative if it begins with one of the two steps that are no names. The text of the
steps gets the step in front that stays, unless it begins with a dot. There are two ways to begin
with a dot: the first step leads to the directory above, or it is a name that has a dot in front.
In the second case the specifier is the name of a package (`isRelativeSpecifier_iff`). The main
statement `importSpecifier_leads_back` has both parts.
-/

set_option autoImplicit false

namespace SelectionTypes

/-! ### The path of a text of steps -/

namespace FilePath

/-- A text of parts without slashes is the text of a relative path, unless the first part is
empty. -/
theorem ofText_intercalate {first : String} {behind : List String} (filled : first ≠ "")
    (slashless : ∀ part ∈ first :: behind, '/' ∉ part.toList) :
    ofText ("/".intercalate (first :: behind)) =
      ⟨0, (first :: behind).filter fun part => part != "" && part != "."⟩ := by
  have parts : (Text.partsBetween '/' ("/".intercalate (first :: behind)).toList).map String.ofList
      = first :: behind := by
    rw [Text.partsBetween_eq_splitOn,
      splitOn_intercalate_slash slashless (List.cons_ne_nil first behind), List.map_map]
    exact List.map_id'' (fun _ => String.ofList_toList) _
  -- The first part is there and begins with no slash, so nothing makes the path absolute.
  have relative : ("/".intercalate (first :: behind)).toList.takeWhile (· == '/') = [] := by
    have head := head?_intercalate "/" behind filled
    rcases text : ("/".intercalate (first :: behind)).toList with _ | ⟨char, rest⟩
    · rfl
    · refine List.takeWhile_cons_of_neg fun slash => ?_
      rw [text, List.head?_cons, beq_iff_eq.mp slash] at head
      exact slashless first List.mem_cons_self (List.mem_of_head? head.symm)
  unfold ofText
  rw [parts, relative]
  rfl

/-- A name is a part that counts. -/
theorem filter_names {names : List String} (named : ∀ name ∈ names, isName name) :
    names.filter (fun part => part != "" && part != ".") = names := by
  refine List.filter_eq_self.mpr fun name listed => ?_
  obtain ⟨filled, dotless, -⟩ := isName_iff.mp (named name listed)
  rw [bne_iff_ne.mpr filled, bne_iff_ne.mpr dotless, Bool.and_self]

/-- Names are the parts of the path of their text. -/
theorem ofText_names {names : List String} (named : ∀ name ∈ names, isName name)
    (filled : names ≠ []) : ofText ("/".intercalate names) = ⟨0, names⟩ := by
  obtain ⟨first, behind, rfl⟩ := List.exists_cons_of_ne_nil filled
  rw [ofText_intercalate (isName_iff.mp (named first List.mem_cons_self)).1
    fun part listed => (isName_iff.mp (named part listed)).2.2, filter_names named]

/-- The step that stays is no part of a path. -/
theorem ofText_stay_names {names : List String} (named : ∀ name ∈ names, isName name)
    (filled : names ≠ []) : ofText ("./" ++ "/".intercalate names) = ⟨0, names⟩ := by
  have text : "./" ++ "/".intercalate names = "/".intercalate ("." :: names) := by
    rw [String.intercalate_cons_of_ne_nil filled]
    rfl
  have slashless : ∀ part ∈ "." :: names, '/' ∉ part.toList :=
    List.forall_mem_cons.mpr ⟨by decide, fun part listed =>
      (isName_iff.mp (named part listed)).2.2⟩
  rw [text, ofText_intercalate (by decide) slashless, List.filter_cons_of_neg (by decide),
    filter_names named]

end FilePath

/-! ### Reading a specifier -/

/-- A specifier of a file. Every other one names a package. -/
def IsRelativeSpecifier (specifier : String) : Prop :=
  "./".toList <+: specifier.toList ∨ "../".toList <+: specifier.toList

instance (specifier : String) : Decidable (IsRelativeSpecifier specifier) :=
  inferInstanceAs (Decidable (_ ∨ _))

/-- A text that ends as a module does is its beginning and the extension. -/
theorem withoutModuleExtension_append {text : String}
    (ends : moduleExtension.toList <:+ text.toList) :
    withoutModuleExtension text ++ moduleExtension = text := by
  rcases withoutModuleExtension_cases text with ⟨other, -⟩ | split
  · exact absurd ends other
  · exact split.symm

/-- What is left of the text of names begins with a dot exactly if the first name does, and this
name is not all of the text. -/
theorem head?_withoutModuleExtension {first : String} {behind : List String}
    (named : ∀ name ∈ first :: behind, FilePath.isName name)
    (ends : moduleExtension.toList <:+ ("/".intercalate (first :: behind)).toList) :
    (withoutModuleExtension ("/".intercalate (first :: behind))).toList.head? = some '.' ↔
      first.toList.head? = some '.' ∧ first :: behind ≠ [moduleExtension] := by
  have filled : first ≠ "" := (FilePath.isName_iff.mp (named first List.mem_cons_self)).1
  have text := withoutModuleExtension_append ends
  -- If nothing is left there is no first character, and else it is that of the whole text.
  by_cases none : withoutModuleExtension ("/".intercalate (first :: behind)) = ""
  · rw [none, String.empty_append] at text
    have only : first :: behind = [moduleExtension] := intercalate_slash_inj
      (fun part listed => (FilePath.isName_iff.mp (named part listed)).2.2) (by decide)
      (List.cons_ne_nil _ _) (List.cons_ne_nil _ _) (by rw [← text, String.intercalate_singleton])
    exact iff_of_false (by rw [none]; decide) fun hidden => hidden.2 only
  · have head := head?_intercalate "/" behind filled
    rw [← text, String.toList_append,
      List.head?_append_of_ne_nil _ (mt String.toList_eq_nil_iff.mp none)] at head
    rw [head, iff_self_and]
    rintro - only
    rw [only, String.intercalate_singleton] at none
    exact none (by decide)

namespace PlaceInTree

open FilePath (IsProper isName above ofText)

variable {directory place : PlaceInTree} {target importing : FilePath}

/-- A specifier and the extension of modules lead from the importing module to the imported
file. -/
theorem placeFrom_importSpecifier
    (file : IsFileFrom (importing.parent.placeFrom directory) moduleExtension
      (target.placeFrom directory)) :
    (ofText (importSpecifier directory target importing ++ moduleExtension)).placeFrom
      (importing.parent.placeFrom directory) = target.placeFrom directory := by
  obtain ⟨filled, named, ends⟩ := file.steps
  -- With the extension put back, the text has the steps to the file, and a step in place in front
  -- that does not count.
  have path : ofText (importSpecifier directory target importing ++ moduleExtension) =
      ⟨0, stepsFrom (importing.parent.placeFrom directory) (target.placeFrom directory)⟩ := by
    unfold importSpecifier
    simp only [List.isEmpty_eq_false_iff.mpr filled, Bool.false_eq_true, if_false]
    split
    · rw [withoutModuleExtension_append ends, FilePath.ofText_names named filled]
    · rw [String.append_assoc, withoutModuleExtension_append ends,
        FilePath.ofText_stay_names named filled]
  rw [path]
  exact foldl_stepsFrom file.proper

/-! ### Specifiers that are names of packages -/

/-- A place inside a directory, on a way that begins with a hidden name. The file that is called
like the extension of modules is none of them, since nothing of its name is in a specifier. -/
def BeginsHidden (directory place : PlaceInTree) : Prop :=
  ∃ name behind, place = directory ++ name :: behind ∧ name.toList.head? = some '.' ∧
    name :: behind ≠ [moduleExtension]

/-- The steps to a place inside the directory are its names from there. -/
theorem stepsFrom_append (directory down : PlaceInTree) :
    stepsFrom directory (directory ++ down) = down := by
  induction directory with
  | nil => rfl
  | cons name directory ih => rw [List.cons_append, stepsFrom, if_pos (beq_self_eq_true name), ih]

/-- The first step to a file leads to the directory above, or all of them lead down. -/
theorem stepsFrom_cases (outside : ¬ place <+: directory) :
    place = directory ++ stepsFrom directory place ∨
      ∃ behind, behind ≠ [] ∧ stepsFrom directory place = above :: behind := by
  obtain ⟨common, up, down, rfl, rfl, steps⟩ := stepsFrom_eq directory place
  rcases up with _ | ⟨first, up⟩
  · rw [steps]
    exact .inl (by rw [List.append_nil]; rfl)
  · refine .inr ⟨List.replicate up.length above ++ down, ?_, steps⟩
    -- Without a step down, the directory would lie in the file.
    rintro none
    rw [(List.append_eq_nil_iff.mp none).2, List.append_nil] at outside
    exact outside (List.prefix_append common _)

/-- A place begins hidden exactly if all steps to it lead down, and what their text leaves for a
specifier begins with a dot. -/
theorem beginsHidden_iff (file : IsFileFrom directory moduleExtension place) :
    BeginsHidden directory place ↔ place = directory ++ stepsFrom directory place ∧
      (withoutModuleExtension ("/".intercalate (stepsFrom directory place))).toList.head?
        = some '.' := by
  obtain ⟨filled, named, ends⟩ := file.steps
  obtain ⟨first, behind, steps⟩ := List.exists_cons_of_ne_nil filled
  rw [steps] at named ends ⊢
  -- What is left begins as the first name does, unless that name is the extension and all there is.
  rw [head?_withoutModuleExtension named ends]
  constructor
  · rintro ⟨name, inside, rfl, hidden⟩
    rw [stepsFrom_append] at steps
    obtain ⟨rfl, rfl⟩ := List.cons.inj steps
    exact ⟨rfl, hidden⟩
  · rintro ⟨below, hidden⟩
    exact ⟨first, behind, below, hidden⟩

/-- Names that lead down are no relative specifier. -/
theorem not_isRelativeSpecifier {names : List String} {specifier : String}
    (proper : ∀ name ∈ names, IsProper name) (filled : names ≠ [])
    (begins : specifier.toList <+: ("/".intercalate names).toList) :
    ¬ IsRelativeSpecifier specifier := by
  rintro (stays | climbs)
  · exact not_prefix_intercalate (fun name listed => (proper name listed).1) filled
      (stays.trans begins)
  · obtain ⟨first, behind, rfl⟩ := List.exists_cons_of_ne_nil filled
    exact (proper first List.mem_cons_self).2 (eq_of_prefix_intercalate (by decide)
      (fun part listed => (FilePath.isName_iff.mp (proper part listed).1).2.2)
      (climbs.trans begins))

/-- A step to the directory above stays in front when the extension of modules is taken away. -/
theorem isRelativeSpecifier_of_above {behind : List String} (filled : behind ≠ [])
    (ends : moduleExtension.toList <:+ ("/".intercalate (above :: behind)).toList) :
    IsRelativeSpecifier (withoutModuleExtension ("/".intercalate (above :: behind))) := by
  have climbs : "../".toList <+: ("/".intercalate (above :: behind)).toList := by
    rw [String.intercalate_cons_of_ne_nil filled, String.toList_append]
    exact List.prefix_append _ _
  rcases List.prefix_or_prefix_of_prefix climbs (prefix_withoutModuleExtension _) with kept | short
  · exact .inr kept
  -- A specifier that is shorter than the step and the extension do not make a text with the step.
  have text := withoutModuleExtension_append ends
  generalize withoutModuleExtension ("/".intercalate (above :: behind)) = left at short text ⊢
  rw [← text] at climbs
  have listed : left.toList ∈ ["", ".", "..", "../"].map String.toList :=
    (List.mem_inits _ _).mpr short
  simp only [List.map_cons, List.map_nil, List.mem_cons, List.not_mem_nil, or_false,
    String.toList_inj] at listed
  rcases listed with rfl | rfl | rfl | rfl
  · exact absurd climbs (by decide)
  · exact absurd climbs (by decide)
  · exact absurd climbs (by decide)
  · decide

/-- A specifier is relative, unless the file lies inside the directory on a way that begins
hidden. -/
theorem isRelativeSpecifier_iff
    (file : IsFileFrom (importing.parent.placeFrom directory) moduleExtension
      (target.placeFrom directory)) :
    IsRelativeSpecifier (importSpecifier directory target importing) ↔
      ¬ BeginsHidden (importing.parent.placeFrom directory) (target.placeFrom directory) := by
  obtain ⟨filled, named, ends⟩ := file.steps
  rw [beginsHidden_iff file]
  unfold importSpecifier
  simp only [List.isEmpty_eq_false_iff.mpr filled, Bool.false_eq_true, if_false, beq_iff_eq]
  split
  · next dotted =>
    rw [and_iff_left dotted]
    rcases stepsFrom_cases file.outside with below | ⟨behind, inside, steps⟩
    · -- The dot is that of a name, which is no step.
      refine iff_of_false (not_isRelativeSpecifier (fun name listed => file.proper name ?_) filled
        (prefix_withoutModuleExtension _)) (not_not_intro below)
      rw [below]
      exact List.mem_append_right _ listed
    · -- The dot is that of the step to the directory above, which is no name.
      rw [steps] at ends ⊢
      refine iff_of_true (isRelativeSpecifier_of_above inside ends) fun below => ?_
      refine (file.proper above ?_).2 rfl
      rw [below]
      exact List.mem_append_right _ List.mem_cons_self
  · next other =>
    refine iff_of_true (.inl ?_) fun hidden => other hidden.2
    rw [String.toList_append]
    exact List.prefix_append _ _

/-! ### The way back -/

/-- The path of a module leads to a file whose name ends as the last part of the path does. -/
theorem isFileFrom_placeFrom {seen : PlaceInTree} {path : FilePath}
    (proper : ∀ name ∈ directory, IsProper name) (named : ∀ part ∈ path.parts, isName part)
    (isModule : moduleExtension.toList <:+ path.name.toList)
    (outside : ¬ path.placeFrom directory <+: seen) :
    IsFileFrom seen moduleExtension (path.placeFrom directory) := by
  refine ⟨FilePath.isProper_placeFrom proper named, ?_, outside⟩
  unfold FilePath.name at isModule
  unfold FilePath.placeFrom
  -- The last part of the path is the name of the file, and a step with it goes down.
  rcases List.eq_nil_or_concat path.parts with none | ⟨front, last, parts⟩
  · rw [none] at isModule
    exact absurd isModule (by decide)
  · rw [List.concat_eq_append] at parts
    rw [parts] at named isModule ⊢
    rw [List.getLast?_concat, Option.getD_some] at isModule
    have isProper : IsProper last := by
      refine ⟨named last (List.mem_append_right front List.mem_cons_self), ?_⟩
      rintro rfl
      exact absurd isModule (by decide)
    rw [List.foldl_append, List.foldl_cons, List.foldl_nil, FilePath.step_of_isProper isProper]
    exact ⟨_, last, rfl, isModule⟩

/-- A specifier and the extension of modules lead from the importing module to the imported file.
The specifier is relative, unless that file lies in the directory of the module, on a way that
begins with a hidden name. -/
theorem importSpecifier_leads_back (proper : ∀ name ∈ directory, IsProper name)
    (named : ∀ part ∈ target.parts, isName part)
    (isModule : moduleExtension.toList <:+ target.name.toList)
    (outside : ¬ target.placeFrom directory <+: importing.parent.placeFrom directory) :
    (ofText (importSpecifier directory target importing ++ moduleExtension)).placeFrom
        (importing.parent.placeFrom directory) = target.placeFrom directory ∧
      (IsRelativeSpecifier (importSpecifier directory target importing) ↔
        ¬ BeginsHidden (importing.parent.placeFrom directory) (target.placeFrom directory)) := by
  have file := isFileFrom_placeFrom proper named isModule outside
  exact ⟨placeFrom_importSpecifier file, isRelativeSpecifier_iff file⟩

/-- A module in a hidden directory imports one from another hidden directory. -/
theorem importSpecifier_leads_back_hidden :
    let specifier := importSpecifier [] ⟨0, [".types", ".pets.ts"]⟩ ⟨0, [".cache", "q.ts"]⟩
    (ofText (specifier ++ moduleExtension)).placeFrom [".cache"] = [".types", ".pets.ts"] ∧
      (IsRelativeSpecifier specifier ↔ ¬ BeginsHidden [".cache"] [".types", ".pets.ts"]) :=
  @importSpecifier_leads_back [] ⟨0, [".types", ".pets.ts"]⟩ ⟨0, [".cache", "q.ts"]⟩ (by decide)
    (by decide) (by decide) (by decide)

/-- A module imports a hidden one next to it by a specifier that names a package. -/
theorem importSpecifier_of_hidden :
    moduleExtension.toList <:+ (⟨0, [".pets.ts"]⟩ : FilePath).name.toList ∧
      importSpecifier [] ⟨0, [".pets.ts"]⟩ ⟨0, ["q.ts"]⟩ = ".pets" ∧
      ¬ IsRelativeSpecifier (importSpecifier [] ⟨0, [".pets.ts"]⟩ ⟨0, ["q.ts"]⟩) := by
  decide

end PlaceInTree

end SelectionTypes

import SelectionTypes.Proofs.Selection.Inlined
import SelectionTypes.Proofs.Selection.Spreads

/-!
# `SelectionTypes.Proofs.Selection.Repetition`: selections that are listed twice

Where selections are listed twice, each type has its fields twice, and so has each response key. The
first field of a key stays the first one, and the first exported one stays the first exported one,
while the sub-selections of the key are now listed twice themselves. `typeWithin_append_self`
carries this from level to level.

The bound on the levels counts the selections, so it is larger for the longer list. That matters
only to selections that are nested too deep for their own bound. `typeOf_ne_endlessNesting` says
that none are, unless they reach a fragment that loops: with an empty fragment for each unknown one
(`FragmentTable.completed`) all spreads can be inlined. `typeOf_append_self` puts both together.
-/

set_option autoImplicit false

namespace SelectionTypes

open Outcome
open TypeScript (TypeExpr)

/-! ### Twice the selections, level by level -/

namespace Selection

variable {schema : Schema} {table : FragmentTable}

/-- Selections that are listed twice select the fields of each type twice. -/
theorem flatten_append_self (parent : String) (selections : List Selection) :
    flatten schema table parent (selections ++ selections) = do
      let flattened ← flatten schema table parent selections
      return flattened.map fun entry => (entry.1, entry.2 ++ entry.2) := by
  unfold flatten distribute
  simp only [bind_assoc, pure_bind, distributeWithin_append]
  cases schema.concreteTypes parent with
  | error problem => rfl
  | ok types =>
    show (do let before ← distributeWithin schema table [] types.eraseDups selections; _) =
      (do let distributed ← distributeWithin schema table [] types.eraseDups selections; _)
    cases distributeWithin schema table [] types.eraseDups selections with
    | error problem => rfl
    | ok distributed => simp [bind, Except.bind, pure, Except.pure, Function.comp_def]

end Selection

namespace SelectionScope

variable {scope : SelectionScope} {inner : Inner}

/-- Fields that are listed twice have the shape that they have once, if the levels below do not tell
selections from the same ones listed twice. -/
theorem objectShape_append_self
    (below : ∀ type selections, inner type (selections ++ selections) = inner type selections)
    (type : String) (fields : List SelectedField) :
    scope.objectShape inner type (fields ++ fields) = scope.objectShape inner type fields := by
  unfold objectShape
  rw [SelectedField.groups_append_self, List.mapM_map]
  congr 1
  refine mapM_congr fun group _ => property_congr rfl rfl (fun type => ?_) fun type => ?_
  · exact SelectedField.firstExport?_append_self (SelectedField.members group)
  · show inner type ((SelectedField.members group ++ SelectedField.members group).flatMap _) = _
    rw [List.flatMap_append, below]

/-- Within one bound selections that are listed twice have the type that they have once. -/
theorem typeWithin_append_self (bound : Nat) (parent : String) (selections : List Selection) :
    scope.typeWithin bound parent (selections ++ selections) =
      scope.typeWithin bound parent selections := by
  -- On the levels, for all selections: those below a group are listed twice as well.
  induction bound generalizing parent selections with
  | zero => rfl
  | succ bound ih =>
    unfold typeWithin
    rw [Selection.flatten_append_self, bind_assoc]
    congr 1
    funext flattened
    rw [pure_bind, List.mapM_map]
    congr 1
    exact mapM_congr fun entry _ => objectShape_append_self ih entry.1 entry.2

end SelectionScope

/-! ### Unknown fragments -/

namespace FragmentTable

variable {table : FragmentTable} {selections : List Selection} {name : String}

/-- The names that are spread in selections and in the fragments of a table. -/
def spreadNames (table : FragmentTable) (selections : List Selection) : List String :=
  Selection.spreadsOf selections ++
    table.flatMap fun loaded => Selection.spreadsOf loaded.fragment.selections

/-- A fragment that selects nothing. -/
def emptyFragment (name : String) : LoadedFragment where
  fragment := ⟨name, "", [], []⟩

/-- The table with an empty fragment for each name that is spread and unknown. One of a known name
is never found. -/
def completed (table : FragmentTable) (selections : List Selection) : FragmentTable :=
  table ++ (table.spreadNames selections).map emptyFragment

/-- A completed table finds the fragments of the table, and empty ones behind them. -/
theorem get?_completed :
    (table.completed selections).get? name = (table.get? name).or
      (get? ((table.spreadNames selections).map emptyFragment) name) :=
  List.find?_append

/-- So a completed table is larger. -/
theorem foundIn_completed : table.FoundIn (table.completed selections) := by
  intro name loaded found
  rw [get?_completed, found, Option.some_or]

/-- Each name that is spread is found. -/
theorem isSome_get?_completed (listed : name ∈ table.spreadNames selections) :
    ((table.completed selections).get? name).isSome := by
  refine List.find?_isSome.mpr ⟨emptyFragment name, ?_, beq_self_eq_true name⟩
  exact List.mem_append_right _ (List.mem_map_of_mem listed)

/-- Empty fragments spread nothing. -/
theorem spreads_completed : (table.completed selections).Spreads = table.Spreads := by
  funext name other
  refine propext ⟨fun ⟨loaded, found, listed⟩ => ?_, fun ⟨loaded, found, listed⟩ =>
    ⟨loaded, foundIn_completed name loaded found, listed⟩⟩
  rw [get?_completed, Option.or_eq_some_iff] at found
  rcases found with found | ⟨-, found⟩
  · exact ⟨loaded, found, listed⟩
  · obtain ⟨_, -, rfl⟩ := List.mem_map.mp (List.mem_of_find?_eq_some found)
    simp [emptyFragment, Selection.spreadsOf] at listed

/-- Each name that is reached is one of those that are spread. -/
theorem mem_spreadNames_of_reaches (reached : table.Reaches selections name) :
    name ∈ table.spreadNames selections := by
  obtain ⟨first, listed, onward⟩ := reached
  rcases Relation.ReflTransGen.cases_tail onward with rfl | ⟨last, -, loaded, found, inside⟩
  · exact List.mem_append_left _ listed
  · refine List.mem_append_right _ (List.mem_flatMap.mpr ⟨loaded, ?_, inside⟩)
    exact List.mem_of_find?_eq_some found

/-- Empty fragments weigh nothing. -/
theorem tableWeight_map_emptyFragment (names : List String) :
    Selection.tableWeight (names.map emptyFragment) = 0 := by
  induction names with
  | nil => rfl
  | cons name names ih =>
    rw [List.map_cons, Selection.tableWeight_cons, ih]
    simp [emptyFragment, Selection.weight]

/-- It is no heavier, since empty fragments weigh nothing. So the bound on the nesting stays the
same. -/
theorem tableWeight_completed :
    Selection.tableWeight (table.completed selections) = Selection.tableWeight table := by
  have split := tableWeight_map_emptyFragment (table.spreadNames selections)
  unfold completed
  unfold Selection.tableWeight at split ⊢
  rw [List.map_append, List.sum_append, split, Nat.add_zero]

/-- Selections that reach no fragment that loops can be inlined with the completed table. -/
theorem exists_inline_completed
    (acyclic : ∀ name, table.Reaches selections name → ¬ table.Loops name) :
    ∃ inlined, Selection.inline (table.completed selections) selections = .ok inlined := by
  rcases Selection.inline_cases (table.completed selections) selections with
    ⟨_, name, -, -, reached, cause⟩ | ⟨inlined, inlines, -⟩
  · unfold Reaches at reached
    rw [spreads_completed] at reached
    -- In the completed table every name that is spread is known, and loops are those of the table.
    rcases cause with unknown | loops
    · have known := isSome_get?_completed (mem_spreadNames_of_reaches reached)
      rw [unknown] at known
      cases known
    · unfold Loops at loops
      rw [spreads_completed] at loops
      exact absurd loops (acyclic name reached)
  · exact ⟨inlined, inlines⟩

end FragmentTable

/-! ### Selections that end -/

namespace SelectionScope

variable {scope : SelectionScope} {selections : List Selection}

/-- The type of selections that reach no fragment that loops never fails for their nesting. -/
theorem typeOf_ne_endlessNesting
    (acyclic : ∀ name, scope.fragments.Reaches selections name → ¬ scope.fragments.Loops name)
    (parent : String) : scope.typeOf parent selections ≠ .error .endlessNesting := by
  obtain ⟨inlined, inlines⟩ := FragmentTable.exists_inline_completed acyclic
  have deep : Selection.nesting inlined < scope.depthBound selections := by
    have weight := Selection.nesting_inlineWithin_le inlines
    rw [FragmentTable.tableWeight_completed] at weight
    exact Nat.lt_of_le_of_lt weight (weight_lt_depthBound scope selections)
  -- With the completed table the bound is enough, and nothing is unknown.
  have enough : { scope with fragments := scope.fragments.completed selections }.typeWithin
      (scope.depthBound selections) parent selections ≠ .error .endlessNesting := by
    rw [typeWithin_inline [] _ inlines]
    exact typeWithin_ne_endlessNesting (Selection.spreadsOf_inlineWithin inlines) deep
  have larger : scope.fragments.FoundIn (scope.fragments.completed selections) :=
    FragmentTable.foundIn_completed
  have settles :=
    typeWithin_settles_of_foundIn larger (scope.depthBound selections) parent selections
  intro fails
  refine enough ((settles.eq ?_).trans fails)
  rintro _ ⟨name, rfl⟩ unknown
  cases fails.symm.trans unknown

/-- Selecting everything twice changes nothing: the selections have the type that they have once, or
they fail for the same cause, which is never their nesting. No fragment that they reach may loop,
while fragments may be unknown. -/
theorem typeOf_append_self
    (acyclic : ∀ name, scope.fragments.Reaches selections name → ¬ scope.fragments.Loops name)
    (parent : String) :
    scope.typeOf parent (selections ++ selections) = scope.typeOf parent selections ∧
      scope.typeOf parent selections ≠ .error .endlessNesting := by
  have ends := typeOf_ne_endlessNesting acyclic parent
  refine ⟨?_, ends⟩
  have larger := typeWithin_settles scope (depthBound_le_append scope selections selections) parent
    selections
  unfold typeOf at ends ⊢
  rw [typeWithin_append_self]
  exact larger.eq fun cause isNesting => isNesting ▸ ends

/-- The name of a pet under another key, that of a cat under its own, and the friends of a pet in
two places: below a field, and in a fragment that exports the friends of the friends. -/
def namesAndFriends : List Selection :=
  let called : Selection := .field ⟨some "called", "name", [], []⟩ []
  [called, .inlined (some "Cat") [] [.field ⟨none, "name", [], []⟩ []],
    .field ⟨none, "friend", [], []⟩ [called], .spread "Near" []]

/-- Twice as many names and friends have the type of the names and friends. -/
theorem typeOf_append_self_namesAndFriends :
    ∃ type, friendsOfFriends.typeOf "Pet" namesAndFriends = .ok type ∧
      friendsOfFriends.typeOf "Pet" (namesAndFriends ++ namesAndFriends) = .ok type := by
  obtain ⟨inlined, inlines⟩ : ∃ inlined,
      Selection.inline friendsOfFriends.fragments namesAndFriends = .ok inlined :=
    exists_ok (by cbv)
  obtain ⟨type, typed⟩ : ∃ type, friendsOfFriends.typeOf "Pet" namesAndFriends = .ok type :=
    exists_ok (by cbv)
  have twice := typeOf_append_self (fun _ => Selection.not_loops_of_inline inlines) "Pet"
  exact ⟨type, typed, twice.1.trans typed⟩

end SelectionScope

end SelectionTypes

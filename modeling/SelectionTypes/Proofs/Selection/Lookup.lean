import SelectionTypes.Proofs.Selection.Shape

/-!
# `SelectionTypes.Proofs.Selection.Lookup`: what reading needs of a table

A table of fragments is only asked for the fragment of a name. Tables that find the same fragments
(`FragmentTable.FindsSame`) give the same inlined selections (`inlineWithin_congr`), the same
fields for each type (`flatten_congr`) and the same types (`typeWithin_congr`), in whatever order
they hold the fragments and wherever these are generated.

The bound on the nesting counts all fragments of a table, so it is not the same for two tables. It
does not matter: a type within some bound is the type within each larger one (`typeWithin_mono`).
So where two tables both give a type, it is one type (`typeOf_unique`, `shapeOf_unique`).

Failures are kept, too. A larger bound changes only the failure of a bound that is too small
(`typeWithin_settles`), and more fragments change only the failure of one that is unknown
(`typeWithin_settles_of_foundIn`).
-/

set_option autoImplicit false

namespace SelectionTypes

open Outcome
open TypeScript (TypeExpr Property)

/-- A failure that says only that a table lacks a fragment. -/
def GenerationError.IsUnknownFragment (problem : GenerationError) : Prop :=
  ∃ name, problem = .unknownFragment name

namespace FragmentTable

variable {table others : FragmentTable} {entered : List String} {name : String}

/-- Tables that find the same fragments, which may be generated in different places. -/
def FindsSame (table others : FragmentTable) : Prop :=
  ∀ name, (table.get? name).map LoadedFragment.fragment =
    (others.get? name).map LoadedFragment.fragment

/-- A fragment that is taken out is not found. -/
theorem get?_without_self (table : FragmentTable) (name : String) :
    (table.without name).get? name = none := by
  refine List.find?_eq_none.mpr fun loaded inside => ?_
  simpa [bne] using (List.mem_filter.mp inside).2

/-- Where two tables find the same fragments, they do so without one of them. -/
theorem FindsSame.without (same : table.FindsSame others) (name : String) :
    (table.without name).FindsSame (others.without name) := by
  intro other
  by_cases own : other = name
  · rw [own, get?_without_self, get?_without_self]
  · rw [get?_without own, get?_without own, same other]

/-- A spread that refers to a fragment in one table refers to it in the other. -/
theorem FindsSame.resolve_ok (same : table.FindsSame others) {loaded : LoadedFragment}
    (resolved : table.resolve entered name = .ok loaded) :
    ∃ other, others.resolve entered name = .ok other ∧ other.fragment = loaded.fragment := by
  obtain ⟨new, found⟩ := resolve_eq_ok.mp resolved
  have here := same name
  rw [found, Option.map_some, eq_comm, Option.map_eq_some_iff] at here
  obtain ⟨other, isOther, fragment⟩ := here
  exact ⟨other, resolve_eq_ok.mpr ⟨new, isOther⟩, fragment⟩

/-- A spread that refers to no fragment in one table refers to none in the other. -/
theorem FindsSame.resolve_error (same : table.FindsSame others) {problem : GenerationError}
    (unresolved : table.resolve entered name = .error problem) :
    others.resolve entered name = .error problem := by
  rcases resolve_eq_error.mp unresolved with ⟨inside, rfl⟩ | ⟨outside, unknown, rfl⟩
  · exact resolve_eq_error.mpr (.inl ⟨inside, rfl⟩)
  · have here := same name
    rw [unknown, Option.map_none, eq_comm, Option.map_eq_none_iff] at here
    exact resolve_eq_error.mpr (.inr ⟨outside, here, rfl⟩)

/-! #### Larger tables -/

/-- A larger table finds each fragment that a table finds. -/
def FoundIn (table others : FragmentTable) : Prop :=
  ∀ name loaded, table.get? name = some loaded → others.get? name = some loaded

/-- A larger table stays larger when the same fragment is taken out of both. -/
theorem FoundIn.without (larger : table.FoundIn others) (name : String) :
    (table.without name).FoundIn (others.without name) := by
  intro other loaded found
  by_cases own : other = name
  · rw [own, get?_without_self] at found
    cases found
  · rw [get?_without own] at found ⊢
    exact larger other loaded found

/-- A spread is resolved in a larger table as it is in a table, unless its fragment is unknown
there. -/
theorem FoundIn.resolve_settles (larger : table.FoundIn others) :
    Settles GenerationError.IsUnknownFragment (table.resolve entered name)
      (others.resolve entered name) := by
  cases ends : table.resolve entered name with
  | ok loaded =>
    obtain ⟨new, found⟩ := resolve_eq_ok.mp ends
    rw [resolve_eq_ok.mpr ⟨new, larger name loaded found⟩]
    exact .same _
  | error problem =>
    rcases resolve_eq_error.mp ends with ⟨inside, rfl⟩ | ⟨-, -, rfl⟩
    · rw [resolve_eq_error.mpr (.inl ⟨inside, rfl⟩)]
      exact .same _
    · exact .unsettled ⟨name, rfl⟩

end FragmentTable

/-! ### Selections -/

namespace Selection

open FragmentTable (FindsSame)

variable {schema : Schema} {table others : FragmentTable} {entered applicable : List String}
variable {selections : List Selection}

/-- Inlining depends on the fragments that are found. -/
theorem inlineWithin_congr (same : table.FindsSame others) :
    inlineWithin table entered selections = inlineWithin others entered selections := by
  -- Along the inlining, for any other table: an entered fragment leaves both tables.
  induction table, entered, selections using inlineWithin.induct generalizing others with
  | case1 table entered => rw [inlineWithin_nil, inlineWithin_nil]
  | case2 table entered head inner rest ihInner ihRest =>
    rw [inlineWithin, inlineWithin, ihInner same, ihRest same]
  | case3 table entered condition directives inner rest ihInner ihRest =>
    rw [inlineWithin, inlineWithin, ihInner same, ihRest same]
  | case4 table entered name directives rest problem unresolved =>
    rw [inlineWithin_spread, inlineWithin_spread, unresolved, same.resolve_error unresolved]
    rfl
  | case5 table entered name directives rest loaded resolved ihInner ihRest =>
    obtain ⟨other, resolved', fragment⟩ := same.resolve_ok resolved
    rw [inlineWithin_spread, inlineWithin_spread, resolved, resolved', ihRest same]
    show (do let inner ← inlineWithin _ _ loaded.fragment.selections; _) =
      (do let inner ← inlineWithin _ _ other.fragment.selections; _)
    rw [fragment, ihInner (same.without name)]

/-- Reading depends on the fragments that are found. -/
theorem distributeWithin_congr (same : table.FindsSame others) :
    distributeWithin schema table entered applicable selections =
      distributeWithin schema others entered applicable selections := by
  -- Along the reading, for any other table: an entered fragment leaves both tables.
  induction table, entered, applicable, selections using distributeWithin.induct
    generalizing others with
  | case1 table entered applicable => rw [distributeWithin_nil, distributeWithin_nil]
  | case2 table entered applicable head inner rest ih =>
    rw [distributeWithin, distributeWithin, ih same]
  | case3 table entered applicable directives inner rest ihInner ihRest =>
    rw [distributeWithin, distributeWithin, ihInner same, ihRest same]
  | case4 table entered applicable condition directives inner rest ihInner ihRest =>
    rw [distributeWithin, distributeWithin, ihRest same]
    simp only [ihInner _ same]
  | case5 table entered applicable name directives rest problem unresolved =>
    rw [distributeWithin_spread, distributeWithin_spread, unresolved,
      same.resolve_error unresolved]
    rfl
  | case6 table entered applicable name directives rest loaded resolved ihInner ihRest =>
    obtain ⟨other, resolved', fragment⟩ := same.resolve_ok resolved
    rw [distributeWithin_spread, distributeWithin_spread, resolved, resolved', ihRest same]
    show (do let narrowed ← schema.narrow applicable loaded.fragment.onType; _) =
      (do let narrowed ← schema.narrow applicable other.fragment.onType; _)
    rw [fragment]
    simp only [ihInner _ (same.without name)]

/-- Tables that find the same fragments flatten selections alike. -/
theorem flatten_congr (same : table.FindsSame others) (parent : String) :
    flatten schema table parent selections = flatten schema others parent selections := by
  unfold flatten distribute
  simp only [distributeWithin_congr same]

/-- Selections are read with a larger table as they are with a table, unless a fragment is unknown
there. -/
theorem distributeWithin_settles (larger : table.FoundIn others) :
    Settles GenerationError.IsUnknownFragment
      (distributeWithin schema table entered applicable selections)
      (distributeWithin schema others entered applicable selections) := by
  -- Along the reading, for any larger table: an entered fragment leaves both tables.
  induction table, entered, applicable, selections using distributeWithin.induct
    generalizing others with
  | case1 table entered applicable =>
    rw [distributeWithin_nil, distributeWithin_nil]
    exact .same _
  | case2 table entered applicable head inner rest ih =>
    rw [distributeWithin, distributeWithin]
    exact (ih larger).bind fun _ _ => .same _
  | case3 table entered applicable directives inner rest ihInner ihRest =>
    rw [distributeWithin, distributeWithin]
    exact (ihInner larger).bind fun _ _ => (ihRest larger).bind fun _ _ => .same _
  | case4 table entered applicable condition directives inner rest ihInner ihRest =>
    rw [distributeWithin, distributeWithin]
    refine (Settles.same _).bind fun narrowed _ => ?_
    exact (ihInner narrowed larger).bind fun _ _ => (ihRest larger).bind fun _ _ => .same _
  | case5 table entered applicable name directives rest problem unresolved =>
    rw [distributeWithin_spread, distributeWithin_spread]
    refine larger.resolve_settles.bind fun loaded resolved => ?_
    cases unresolved.symm.trans resolved
  | case6 table entered applicable name directives rest loaded resolved ihInner ihRest =>
    rw [distributeWithin_spread, distributeWithin_spread]
    refine larger.resolve_settles.bind fun other resolved' => ?_
    cases resolved.symm.trans resolved'
    refine (Settles.same _).bind fun narrowed _ => ?_
    exact (ihInner narrowed (larger.without name)).bind fun _ _ =>
      (ihRest larger).bind fun _ _ => .same _

/-- A larger table flattens selections as a table does, unless a fragment is unknown there. -/
theorem flatten_settles (larger : table.FoundIn others) (parent : String) :
    Settles GenerationError.IsUnknownFragment (flatten schema table parent selections)
      (flatten schema others parent selections) := by
  unfold flatten distribute
  exact (Settles.same _).bind fun _ _ =>
    (distributeWithin_settles larger).bind fun _ _ => .same _

/-- Selections without spreads are inlined to themselves. -/
theorem inlineWithin_of_free (free : spreadsOf selections = []) :
    inlineWithin table entered selections = .ok selections := by
  induction selections using spreadsOf.induct with
  | case1 => exact inlineWithin_nil
  | case2 head inner rest ihInner ihRest =>
    rw [spreadsOf, List.append_eq_nil_iff] at free
    exact inlineWithin_field_eq_ok.mpr ⟨inner, rest, ihInner free.1, ihRest free.2, rfl⟩
  | case3 name directives rest ih => rw [spreadsOf] at free; cases free
  | case4 condition directives inner rest ihInner ihRest =>
    rw [spreadsOf, List.append_eq_nil_iff] at free
    exact inlineWithin_inlined_eq_ok.mpr ⟨inner, rest, ihInner free.1, ihRest free.2, rfl⟩

end Selection

/-! ### Types -/

namespace SelectionScope

open FragmentTable (FindsSame)

variable {scope : SelectionScope} {others : FragmentTable} {parent : String}
variable {selections : List Selection} {bound more : Nat} {type type' : TypeExpr}
variable {inner other : Inner} {leavesOpen : GenerationError → Prop}

/-- The type of selections within a bound depends on the fragments that are found. -/
theorem typeWithin_congr (same : scope.fragments.FindsSame others) (bound : Nat) :
    scope.typeWithin bound = { scope with fragments := others }.typeWithin bound := by
  induction bound with
  | zero => rfl
  | succ bound ih =>
    funext parent selections
    unfold typeWithin
    rw [ih, Selection.flatten_congr same]
    rfl

/-- A group has the property that it has with other levels, unless these leave the type of its
sub-selections open. -/
theorem property_settles (group : SelectedField × List SelectedField)
    (below : ∀ type, Settles leavesOpen
      (inner type ((SelectedField.members group).flatMap SelectedField.selections))
      (other type ((SelectedField.members group).flatMap SelectedField.selections))) :
    Settles leavesOpen (scope.property inner parent group) (scope.property other parent group) := by
  by_cases typename : group.1.head.name = typenameField
  · rw [property_of_typename typename, property_of_typename typename]
    exact .same _
  · cases known : ExportedAlias.fieldType? scope.schema parent group.1.head.name with
    | none =>
      rw [property_of_unknown typename known, property_of_unknown typename known]
      exact .same _
    | some type =>
      rw [property_of_field typename known, property_of_field typename known]
      refine Settles.bind ?_ fun _ _ => .same _
      unfold groupType
      -- The first export does not depend on the levels below, so the two can only part behind it.
      refine (Settles.same _).bind fun found _ => ?_
      cases found with
      | some reference => exact .same _
      | none =>
        show Settles leavesOpen (ite _ _ _) (ite _ _ _)
        split
        · exact .same _
        · exact (below type.base).bind fun _ _ => .same _

/-- Fields have the shape that they have with other levels, unless these leave a type open. -/
theorem objectShape_settles
    (below : ∀ type selections, Settles leavesOpen (inner type selections) (other type selections))
    (fields : List SelectedField) :
    Settles leavesOpen (scope.objectShape inner parent fields)
      (scope.objectShape other parent fields) := by
  unfold objectShape
  exact (Settles.mapM fun group _ => property_settles group fun type => below type _).bind
    fun _ _ => .same _

/-- Within a larger bound selections have the type that they have within a bound, unless that is too
small for their nesting. -/
theorem typeWithin_settles (scope : SelectionScope) (le : bound ≤ more) (parent : String)
    (selections : List Selection) :
    Settles (· = GenerationError.endlessNesting) (scope.typeWithin bound parent selections)
      (scope.typeWithin more parent selections) := by
  -- Each level asks for the one below, and within no level everything is left open.
  induction bound generalizing more parent selections with
  | zero => exact .unsettled rfl
  | succ bound ih =>
    obtain ⟨more, rfl⟩ : ∃ n, more = n + 1 := ⟨more - 1, by omega⟩
    unfold typeWithin
    refine (Settles.same _).bind fun flattened _ => Settles.bind ?_ fun _ _ => .same _
    exact Settles.mapM fun entry _ => objectShape_settles (ih (by omega)) entry.2

/-- The type within a bound is the type within each larger one. -/
theorem typeWithin_mono (le : bound ≤ more)
    (succeeds : scope.typeWithin bound parent selections = .ok type) :
    scope.typeWithin more parent selections = .ok type :=
  (typeWithin_settles scope le parent selections).ok succeeds

/-- With a larger table selections have the type that they have with a table, unless a fragment is
unknown there. -/
theorem typeWithin_settles_of_foundIn (larger : scope.fragments.FoundIn others) (bound : Nat)
    (parent : String) (selections : List Selection) :
    Settles GenerationError.IsUnknownFragment (scope.typeWithin bound parent selections)
      ({ scope with fragments := others }.typeWithin bound parent selections) := by
  induction bound generalizing parent selections with
  | zero => exact .same _
  | succ bound ih =>
    unfold typeWithin
    refine (Selection.flatten_settles larger parent).bind fun flattened _ =>
      Settles.bind ?_ fun _ _ => .same _
    exact Settles.mapM fun entry _ => objectShape_settles ih entry.2

/-- The shape of an object type is the only shape of the type of selections on it. -/
theorem shapeOf_eq_ok {name : String} (object : scope.schema.kind? name = some .object) :
    scope.shapeOf name selections = .ok type ↔
      scope.typeWithin (scope.depthBound selections + 1) name selections = .ok (.union [type]) := by
  rw [typeWithin_eq_ok]
  unfold shapeOf
  rw [bind_eq_ok]
  refine exists_congr fun flattened => ?_
  constructor
  · rintro ⟨flattens, isShape⟩
    -- On an object type, flattening has one entry, which is that of the type.
    obtain ⟨fields, -, rfl⟩ := (Selection.flatten_object_eq_ok object).mp flattens
    simp only [List.lookup_cons_self, Option.getD_some] at isShape
    exact ⟨[type], flattens, .cons isShape .nil, rfl⟩
  · rintro ⟨shapes, flattens, each, same⟩
    cases same
    obtain ⟨fields, -, rfl⟩ := (Selection.flatten_object_eq_ok object).mp flattens
    refine ⟨flattens, ?_⟩
    simp only [List.lookup_cons_self, Option.getD_some]
    cases each with
    | cons first _ => exact first

/-- Two tables read selections alike: they find the same fragments, or the selections spread
none. -/
def ReadsAlike (table others : FragmentTable) (selections : List Selection) : Prop :=
  table.FindsSame others ∨ Selection.spreadsOf selections = []

/-- Tables that read selections alike give them one type. -/
theorem typeWithin_of_readsAlike (alike : ReadsAlike scope.fragments others selections) :
    scope.typeWithin bound parent selections =
      { scope with fragments := others }.typeWithin bound parent selections := by
  rcases alike with same | free
  · rw [typeWithin_congr same]
  · exact typeWithin_inline others bound (Selection.inlineWithin_of_free free)

/-- Types within two bounds, read alike, are one type. -/
theorem typeWithin_unique (alike : ReadsAlike scope.fragments others selections)
    (first : scope.typeWithin bound parent selections = .ok type)
    (second : { scope with fragments := others }.typeWithin more parent selections = .ok type') :
    type = type' := by
  have first' := typeWithin_mono (Nat.le_max_left bound more) first
  rw [typeWithin_of_readsAlike alike, typeWithin_mono (Nat.le_max_right bound more) second]
    at first'
  exact (Except.ok.inj first').symm

/-- Two tables that read selections alike give them one type. -/
theorem typeOf_unique (alike : ReadsAlike scope.fragments others selections)
    (first : scope.typeOf parent selections = .ok type)
    (second : { scope with fragments := others }.typeOf parent selections = .ok type') :
    type = type' :=
  typeWithin_unique alike first second

/-- Two tables that read selections alike give an object type one shape. -/
theorem shapeOf_unique (alike : ReadsAlike scope.fragments others selections)
    (object : scope.schema.kind? parent = some .object)
    (first : scope.shapeOf parent selections = .ok type)
    (second : { scope with fragments := others }.shapeOf parent selections = .ok type') :
    type = type' := by
  have union := typeWithin_unique alike ((shapeOf_eq_ok object).mp first)
    ((@shapeOf_eq_ok { scope with fragments := others } _ _ _ object).mp second)
  cases union
  rfl

end SelectionScope

end SelectionTypes

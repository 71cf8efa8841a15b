import Mathlib
import SelectionTypes.Proofs.Selection.Lookup

/-!
# `SelectionTypes.Proofs.Selection.Inlined`: types of selections that can be inlined

Fragments are inlined all at once, with the names on one path remembered, and they are read level by
level, with a fresh path below each field. `typeOf_inlined_eq` says that this makes no difference:
where spreads can be inlined, the inlined selections have the type of the selections, and where they
have none, both fail for one cause.

That cause is never the nesting. Each step of a level fails for a cause of its own
(`flatten_ne_error`, `objectShape_ne_error`), and the levels do not end before selections without
spreads do (`typeWithin_ne_endlessNesting`). So the bound on the levels does not matter to inlined
selections (`typeWithin_of_nesting`), and `typeOf_inline` gives the type within any that is large
enough.
-/

set_option autoImplicit false

namespace SelectionTypes

open Outcome
open TypeScript (TypeExpr)

/-! ### Causes of one level -/

/-- The causes that make the selections of one level unreadable: an unknown type or fragment, a
fragment that spreads itself, and a type without fields. -/
def GenerationError.isOfReading : GenerationError → Bool
  | unknownType _ | unknownFragment _ | fragmentCycle _ | notComposite _ => true
  | _ => false

/-- A spread fails to resolve only for causes of one level. -/
theorem FragmentTable.resolve_ne_error {table : FragmentTable} {entered : List String}
    {name : String} {cause : GenerationError} (foreign : cause.isOfReading = false) :
    table.resolve entered name ≠ .error cause := by
  rw [Ne, resolve_eq_error]
  rintro (⟨-, rfl⟩ | ⟨-, -, rfl⟩) <;> cases foreign

namespace Selection

variable {schema : Schema} {table : FragmentTable} {entered applicable : List String}
variable {selections : List Selection} {parent : String} {cause : GenerationError}

/-- Reading selections for some types never fails for a foreign cause. -/
theorem distributeWithin_ne_error (foreign : cause.isOfReading = false) :
    distributeWithin schema table entered applicable selections ≠ .error cause := by
  have narrow_ne : ∀ applicable condition, schema.narrow applicable condition ≠ .error cause := by
    intro applicable condition
    rw [Schema.narrow_eq]
    split
    · exact ok_ne_error
    · rintro ⟨⟩
      cases foreign
  -- Along the reading: the causes are those of conditions and of spreads.
  induction table, entered, applicable, selections using distributeWithin.induct with
  | case1 table entered applicable =>
    rw [distributeWithin_nil]
    exact ok_ne_error
  | case2 table entered applicable head inner rest ih =>
    rw [distributeWithin]
    exact bind_ne_error ih fun _ _ => ok_ne_error
  | case3 table entered applicable directives inner rest ihInner ihRest =>
    rw [distributeWithin]
    exact bind_ne_error ihInner fun _ _ => bind_ne_error ihRest fun _ _ => ok_ne_error
  | case4 table entered applicable condition directives inner rest ihInner ihRest =>
    rw [distributeWithin]
    refine bind_ne_error (narrow_ne _ _) fun narrowed _ => ?_
    exact bind_ne_error (ihInner narrowed) fun _ _ => bind_ne_error ihRest fun _ _ => ok_ne_error
  | case5 table entered applicable name directives rest problem unresolved =>
    rw [distributeWithin_spread]
    refine bind_ne_error (FragmentTable.resolve_ne_error foreign) fun found isFound => ?_
    cases unresolved.symm.trans isFound
  | case6 table entered applicable name directives rest loaded resolved ihInner ihRest =>
    rw [distributeWithin_spread]
    refine bind_ne_error (FragmentTable.resolve_ne_error foreign) fun found isFound => ?_
    cases resolved.symm.trans isFound
    refine bind_ne_error (narrow_ne _ _) fun narrowed _ => ?_
    exact bind_ne_error (ihInner narrowed) fun _ _ => bind_ne_error ihRest fun _ _ => ok_ne_error

/-- Flattening fails only for causes of one level. -/
theorem flatten_ne_error (foreign : cause.isOfReading = false) :
    flatten schema table parent selections ≠ .error cause := by
  unfold flatten
  refine bind_ne_error ?_ fun types _ => ?_
  · unfold Schema.concreteTypes
    repeat' split
    all_goals rintro ⟨⟩
    all_goals cases foreign
  · exact bind_ne_error (distributeWithin_ne_error foreign) fun _ _ => ok_ne_error

end Selection

/-- A field that is exported never fails for the nesting of selections. -/
theorem FieldHead.exportRef?_ne_endlessNesting {schema : Schema} {type : TypeRef}
    (head : FieldHead) : head.exportRef? schema type ≠ .error .endlessNesting := by
  unfold exportRef?
  split
  · refine bind_ne_error ?_ fun name _ => ?_
    · unfold exportName
      repeat' split
      all_goals simp
    · split <;> simp [throw, throwThe, MonadExceptOf.throw, bind, Except.bind, pure, Except.pure]
  · exact ok_ne_error

namespace SelectedField

/-- Looking for an export never fails for the nesting of selections. -/
theorem firstExport?_ne_endlessNesting {schema : Schema} {type : TypeRef}
    (fields : List SelectedField) :
    firstExport? schema type fields ≠ .error .endlessNesting := by
  induction fields with
  | nil => exact ok_ne_error
  | cons field rest ih =>
    rw [firstExport?]
    refine bind_ne_error field.head.exportRef?_ne_endlessNesting fun found _ => ?_
    cases found with
    | some reference => exact ok_ne_error
    | none => exact ih

end SelectedField

namespace SelectionScope

variable {scope : SelectionScope} {inner : Inner} {parent : String}
variable {selections inlined : List Selection} {bound : Nat}

/-- A shape fails for a cause only if a group does: for an unknown first field, for an export, or in
the sub-selections of a composite type. -/
theorem objectShape_ne_error {fields : List SelectedField} {cause : GenerationError}
    (unknown : ∀ group ∈ SelectedField.groups fields, group.1.head.name ≠ typenameField →
      ExportedAlias.fieldType? scope.schema parent group.1.head.name = none →
        .unknownField group.1.head.name parent ≠ cause)
    (exports : ∀ group ∈ SelectedField.groups fields, ∀ type,
      SelectedField.firstExport? scope.schema type (SelectedField.members group) ≠ .error cause)
    (below : ∀ group ∈ SelectedField.groups fields, ∀ type,
      group.1.head.name ≠ typenameField →
      ExportedAlias.fieldType? scope.schema parent group.1.head.name = some type →
      scope.schema.isLeaf type.base = false →
        inner type.base ((SelectedField.members group).flatMap SelectedField.selections) ≠
          .error cause) :
    scope.objectShape inner parent fields ≠ .error cause := by
  unfold objectShape
  refine bind_ne_error (mapM_ne_error fun group inside => ?_) fun _ _ => ok_ne_error
  -- A property fails for its field, for an export, or for what stands below it.
  by_cases typename : group.1.head.name = typenameField
  · rw [property_of_typename typename]
    exact ok_ne_error
  · cases known : ExportedAlias.fieldType? scope.schema parent group.1.head.name with
    | none =>
      rw [property_of_unknown typename known]
      exact fun same => unknown group inside typename known (Except.error.inj same)
    | some type =>
      rw [property_of_field typename known]
      refine bind_ne_error ?_ fun _ _ => ok_ne_error
      unfold groupType
      refine bind_ne_error (exports group inside type) fun found _ => ?_
      cases found with
      | some reference => exact ok_ne_error
      | none =>
        show ite _ _ _ ≠ _
        split
        · exact ok_ne_error
        · next noLeaf =>
          rw [Bool.not_eq_true] at noLeaf
          exact bind_ne_error (below group inside type typename known noLeaf) fun _ _ =>
            ok_ne_error

/-- Within a bound that exceeds their nesting, selections without spreads never fail for it. -/
theorem typeWithin_ne_endlessNesting (free : Selection.spreadsOf selections = [])
    (deep : Selection.nesting selections < bound) :
    scope.typeWithin bound parent selections ≠ .error .endlessNesting := by
  -- On the bound. Each level below is nested one field less, and it spreads nothing either.
  induction bound generalizing parent selections with
  | zero => omega
  | succ bound ih =>
    unfold typeWithin
    refine bind_ne_error (Selection.flatten_ne_error rfl) fun flattened flattens => ?_
    refine bind_ne_error (mapM_ne_error fun entry inside => ?_) fun _ _ => ok_ne_error
    obtain ⟨types, -, -, rfl⟩ := (Selection.flatten_plain_eq_ok free).mp flattens
    obtain ⟨type, -, rfl⟩ := List.mem_map.mp inside
    refine objectShape_ne_error (fun _ _ _ _ same => by cases same)
      (fun _ _ _ => SelectedField.firstExport?_ne_endlessNesting _)
      fun group grouped base _ _ _ => ?_
    have members : SelectedField.members group ⊆
        Selection.selectedOn scope.schema type selections :=
      fun field member => (SelectedField.mem_of_mem_groups grouped member).1
    obtain ⟨below, deeper⟩ := flatMap_selections_lt free members deep (List.cons_ne_nil _ _)
    exact ih below deeper

/-- Selections without spreads have one type within all bounds that exceed their nesting. -/
theorem typeWithin_of_nesting {bound' : Nat} (free : Selection.spreadsOf selections = [])
    (deep : Selection.nesting selections < bound) (deep' : Selection.nesting selections < bound') :
    scope.typeWithin bound parent selections = scope.typeWithin bound' parent selections := by
  wlog le : bound ≤ bound' generalizing bound bound'
  · exact (this deep' deep (Nat.le_of_not_le le)).symm
  -- The larger bound could change only a failure for the nesting.
  have settles := typeWithin_settles scope le parent selections
  exact (settles.eq fun cause isNesting => isNesting ▸ typeWithin_ne_endlessNesting free deep).symm

/-- Inlining spreads does not change the type of selections: it is the type of the inlined ones,
within any bound that exceeds their nesting. -/
theorem typeOf_inline (others : FragmentTable)
    (inlines : Selection.inline scope.fragments selections = .ok inlined)
    (deep : Selection.nesting inlined < bound) :
    scope.typeOf parent selections =
      { scope with fragments := others }.typeWithin bound parent inlined := by
  have free := Selection.spreadsOf_inlineWithin inlines
  unfold typeOf
  rw [typeWithin_inline others _ inlines]
  refine typeWithin_of_nesting free ?_ deep
  -- The bound of the selections is enough for the inlined ones.
  have weight := Selection.nesting_inlineWithin_le inlines
  have enough := weight_lt_depthBound scope selections
  omega

/-- Inlining changes nothing that is generated: where the spreads of selections can be inlined, what
results has no spread, and it has the type of the selections, or it fails for the same cause, on
every type. Aliases of exported fields are part of a type, as are the order and the names of
properties, so its text is the same, too. No fragment counts any more, and the cause of a failure is
never the nesting. -/
theorem typeOf_inlined_eq (inlines : Selection.inline scope.fragments selections = .ok inlined)
    (parent : String) :
    Selection.spreadsOf inlined = [] ∧
    scope.typeOf parent inlined = scope.typeOf parent selections ∧
    (∀ others, { scope with fragments := others }.typeOf parent inlined =
      scope.typeOf parent selections) ∧
    scope.typeOf parent selections ≠ .error .endlessNesting := by
  have free := Selection.spreadsOf_inlineWithin inlines
  have every : ∀ others, { scope with fragments := others }.typeOf parent inlined =
      scope.typeOf parent selections := fun others =>
    (typeOf_inline others inlines (nesting_lt_depthBound _ inlined)).symm
  have own := every scope.fragments
  refine ⟨free, own, every, ?_⟩
  rw [← own]
  exact typeWithin_ne_endlessNesting free (nesting_lt_depthBound _ inlined)

/-! ### Friends of friends -/

/-- A fragment on pets spreads another one below the friend of a pet, and that one exports the
friend of the friend. -/
def friendsOfFriends : SelectionScope where
  schema := Schema.pets
  settings := {}
  fragments :=
    let directive : Directive := ⟨"export", [⟨"exportName", .string "Friend" false, 0⟩], 0⟩
    let inner : List Selection := [.field ⟨none, "name", [], []⟩ []]
    [{ fragment := ⟨"Near", "Pet", [], [.field ⟨none, "friend", [], []⟩ [.spread "Far" []]]⟩ },
      { fragment := ⟨"Far", "Pet", [], [.field ⟨none, "friend", [], [directive]⟩ inner]⟩ }]

/-- The type of a pet with a friend of some type. -/
def petWithFriend (friend : TypeExpr) : TypeExpr :=
  .union (["Cat", "Dog"].map fun name => .object
    [({ name := "__typename", optional := true }, .typename name),
      ({ name := "friend", optional := true }, .marked (.named "Pet") friend)])

/-- Both spreads are inlined, one below the other, and the type of the inlined selections still
refers to the alias. -/
theorem typeOf_inlined_friendsOfFriends :
    ∃ inlined, Selection.inline friendsOfFriends.fragments [.spread "Near" []] = .ok inlined ∧
      friendsOfFriends.typeOf "Pet" inlined = friendsOfFriends.typeOf "Pet" [.spread "Near" []] ∧
      friendsOfFriends.typeOf "Pet" inlined =
        .ok (petWithFriend (petWithFriend (.aliasRef "Friend"))) := by
  obtain ⟨inlined, inlines⟩ : ∃ inlined,
      Selection.inline friendsOfFriends.fragments [.spread "Near" []] = .ok inlined :=
    exists_ok (by cbv)
  have same := (typeOf_inlined_eq inlines "Pet").2.1
  have type : friendsOfFriends.typeOf "Pet" [.spread "Near" []] =
      .ok (petWithFriend (petWithFriend (.aliasRef "Friend"))) := by cbv
  exact ⟨inlined, inlines, same, same.trans type⟩

end SelectionScope

end SelectionTypes

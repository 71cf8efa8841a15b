import SelectionTypes.Proofs.Selection.Optimized
import SelectionTypes.Proofs.Selection.PropertyNames
import SelectionTypes.Proofs.Selection.Repetition
import SelectionTypes.Proofs.Selection.Validity

/-!
# `SelectionTypes.Proofs.Selection.KnownFields`: unknown fields in selections that have a type

A field that is read for an object type is looked up there. The fields of one response key are
looked up once, by the name of the first of them. So an unknown field is noticed, unless a field of
another name comes before it under its key.

`FieldsKnown` says this of selections and of everything below them. The parts it is made of are the
steps of one level, so it is carried from level to level in both directions:

* `fieldsKnown_of_typeWithin`: selections that have a type have known fields.
* `typeWithin_ne_error`: selections with known fields do not fail, unless they are nested without
  end, and no others fail for a cause that is not the resolution of a name.

`typeOf_known_or_unresolved` puts both together. What its failures are is said of selections whose
fragments do not spread themselves, since others may be nested without end. `bark_unnoticed` is the
exception to what a reader expects: an unknown field behind another one of its key.
-/

set_option autoImplicit false

namespace SelectionTypes

open Outcome
open TypeScript (TypeExpr)

/-- Whether a field can be asked of an object type: it asks for the type itself, or the type has a
field of the name. -/
def Schema.Defines (schema : Schema) (concrete : String) (field : SelectedField) : Prop :=
  field.head.name = SelectionScope.typenameField ∨
    ∃ type, ExportedAlias.fieldType? schema concrete field.head.name = some type

namespace SelectedField

variable {fields : List SelectedField} {field : SelectedField}
variable {group : SelectedField × List SelectedField}

/-- A field selects the same as the first of the fields that have its key. -/
def SelectsAsFirst (field : SelectedField) (fields : List SelectedField) : Prop :=
  ∀ first, fields.find? (fun other => other.key == field.key) = some first →
    first.head.name = field.head.name

/-- The first field of a group is the first of its key. -/
theorem selectsAsFirst_of_mem_groups (grouped : group ∈ groups fields) :
    group.1.SelectsAsFirst fields := by
  intro first isFirst
  cases (find?_key_of_mem_groups grouped).symm.trans isFirst
  rfl

/-- A field that selects the same as the first of its key is asked for by the group of the key. -/
theorem exists_group_of_selectsAsFirst (listed : field ∈ fields)
    (asFirst : field.SelectsAsFirst fields) :
    ∃ group ∈ groups fields, group.1.head.name = field.head.name := by
  obtain ⟨group, found⟩ :=
    Option.isSome_iff_exists.mp (groupOf?_isSome (List.mem_map_of_mem listed))
  have grouped := mem_groups_of_groupOf? found
  refine ⟨group, grouped, asFirst group.1 ?_⟩
  rw [← key_of_groupOf? found]
  exact find?_key_of_mem_groups grouped

end SelectedField

/-! ### Selections without exports -/

namespace Selection

variable {schema : Schema} {table original : FragmentTable} {entered applicable : List String}
variable {selections : List Selection} {distributed : List (SelectedField × List String)}

/-- What is read for some types is among the fields on any type. -/
theorem selects_of_distributeWithin (agrees : table.AgreesOutside entered original)
    (reads : distributeWithin schema table entered applicable selections = .ok distributed) :
    ∀ entry ∈ distributed, Selects original selections entry.1 := by
  -- Along the reading: the whole table has each fragment that is entered.
  induction reads using distributeWithin_induction with
  | nil => exact List.forall_mem_nil _
  | field _ ih =>
    rw [List.forall_mem_cons]
    exact ⟨.field List.mem_cons_self, fun entry listed =>
      (ih agrees entry listed).mono (List.subset_cons_self _ _)⟩
  | plain _ _ ihInner ihRest =>
    rw [List.forall_mem_append]
    exact ⟨fun entry listed => .inlined List.mem_cons_self (ihInner agrees entry listed),
      fun entry listed => (ihRest agrees entry listed).mono (List.subset_cons_self _ _)⟩
  | conditioned _ _ _ ihInner ihRest =>
    rw [List.forall_mem_append]
    exact ⟨fun entry listed => .inlined List.mem_cons_self (ihInner agrees entry listed),
      fun entry listed => (ihRest agrees entry listed).mono (List.subset_cons_self _ _)⟩
  | @spread _ _ _ name _ _ _ _ _ new found _ _ _ ihInner ihRest =>
    rw [List.forall_mem_append]
    exact ⟨fun entry listed => .spread List.mem_cons_self ((agrees name new).symm.trans found)
        (ihInner (agrees.without name) entry listed),
      fun entry listed => (ihRest agrees entry listed).mono (List.subset_cons_self _ _)⟩

/-- The fields of an object type are among the fields on any type. -/
theorem selects_of_flatten {parent : String} {flattened : List (String × List SelectedField)}
    (flattens : flatten schema table parent selections = .ok flattened)
    {entry : String × List SelectedField} (inside : entry ∈ flattened) :
    ∀ field ∈ entry.2, Selects table selections field := by
  obtain ⟨types, distributed, -, reads, rfl⟩ := flatten_eq_ok.mp flattens
  obtain ⟨type, -, rfl⟩ := List.mem_map.mp inside
  intro field listed
  obtain ⟨source, kept, rfl⟩ := List.mem_map.mp listed
  exact selects_of_distributeWithin (.refl table) reads source (List.mem_of_mem_filter kept)

/-- No field of selections is exported, at any depth and in any fragment that they reach. -/
def Unexported (table : FragmentTable) (selections : List Selection) : Prop :=
  ∀ fields, Level table selections fields → ∀ field, fields field → field.head.isExported = false

/-- Whether no field of a list, at any depth, is exported. -/
def isUnexported (selections : List Selection) : Bool :=
  (headsOf selections).all fun head => !head.isExported

/-- Selections whose fields are not exported, and which are read with fragments of such fields. -/
theorem unexported_of_lists (own : isUnexported selections = true)
    (fragments : ∀ loaded ∈ table, isUnexported loaded.fragment.selections = true) :
    Unexported table selections := by
  have heads : ∀ {others}, isUnexported others = true →
      ∀ head ∈ headsOf others, head.isExported = false := by
    intro others unexported head inside
    simpa using List.all_eq_true.mp unexported head inside
  intro fields level field inside
  exact (level.forall_heads (heads own) (fun loaded listed => heads (fragments loaded listed))
    field inside).1

/-- The fields of a group of an object type are not exported, and nothing below them is. -/
theorem Unexported.of_group (plain : Unexported table selections) {parent : String}
    {flattened : List (String × List SelectedField)}
    (flattens : flatten schema table parent selections = .ok flattened)
    {entry : String × List SelectedField} (inside : entry ∈ flattened)
    {group : SelectedField × List SelectedField} (grouped : group ∈ SelectedField.groups entry.2) :
    (∀ field ∈ SelectedField.members group, field.head.isExported = false) ∧
      Unexported table ((SelectedField.members group).flatMap SelectedField.selections) := by
  have members : ∀ field ∈ SelectedField.members group,
      Selects table selections field ∧ field.key = group.1.key := by
    intro field member
    obtain ⟨listed, key⟩ := SelectedField.mem_of_mem_groups grouped member
    exact ⟨selects_of_flatten flattens inside field listed, key⟩
  refine ⟨fun field member => plain _ .top field (members field member).1,
    fun below level field listed => ?_⟩
  obtain ⟨above, levelAbove, contained⟩ := level.exists_above_of_key members
  exact plain above levelAbove field (contained field listed)

end Selection

/-! ### Known fields, level by level -/

/-- A cause that is not the resolution of a name is none of those that make a level unreadable. -/
theorem GenerationError.isOfReading_of_foreign {cause : GenerationError}
    (foreign : cause.category ≠ .typeResolution) : cause.isOfReading = false := by
  cases cause <;> first | rfl | exact absurd rfl foreign

namespace SelectionScope

variable {scope : SelectionScope} {parent : String} {selections : List Selection} {bound : Nat}

/-- The type of fields without exports, on a composite type, is that of their sub-selections. -/
theorem groupType_of_unexported {inner : Inner} {type : TypeRef} {fields : List SelectedField}
    (plain : ∀ field ∈ fields, field.head.isExported = false)
    (noLeaf : scope.schema.isLeaf type.base = false) :
    scope.groupType inner type fields = do
      let below ← inner type.base (fields.flatMap SelectedField.selections)
      return .marked type below := by
  unfold groupType
  rw [SelectedField.firstExport?_eq_none plain]
  show ite _ _ _ = _
  rw [if_neg (by simp [noLeaf])]

/-- Selections on a type can be read, and so can what the fields of each key of a composite type
select together. Each field that is read selects something else than the first of its key, or it is
defined on the object type that it is read for. -/
inductive FieldsKnown (scope : SelectionScope) : String → List Selection → Prop
  | intro {parent : String} {selections : List Selection}
      {flattened : List (String × List SelectedField)}
      (flattens : Selection.flatten scope.schema scope.fragments parent selections = .ok flattened)
      (defined : ∀ entry ∈ flattened, ∀ field ∈ entry.2, field.SelectsAsFirst entry.2 →
        scope.schema.Defines entry.1 field)
      (below : ∀ entry ∈ flattened, ∀ group ∈ SelectedField.groups entry.2, ∀ type,
        group.1.head.name ≠ typenameField →
        ExportedAlias.fieldType? scope.schema entry.1 group.1.head.name = some type →
        scope.schema.isLeaf type.base = false →
          FieldsKnown scope type.base
            ((SelectedField.members group).flatMap SelectedField.selections)) :
      FieldsKnown scope parent selections

/-- Selections that have a type have known fields. -/
theorem fieldsKnown_of_typeWithin (plain : Selection.Unexported scope.fragments selections)
    {type : TypeExpr} (typed : scope.typeWithin bound parent selections = .ok type) :
    scope.FieldsKnown parent selections := by
  induction bound generalizing parent selections type with
  | zero => cases typed
  | succ bound ih =>
    obtain ⟨flattened, shapes, flattens, each, -⟩ := typeWithin_eq_ok.mp typed
    -- Each group of an object type has a property, so its first field is looked up.
    have property : ∀ entry ∈ flattened, ∀ group ∈ SelectedField.groups entry.2, ∃ property,
        scope.property (scope.typeWithin bound) entry.1 group = .ok property := by
      intro entry inside group grouped
      obtain ⟨shape, -, isShape⟩ := Lists.exists_of_mem_left each inside
      obtain ⟨properties, made, -⟩ := objectShape_eq_ok.mp isShape
      obtain ⟨property, -, isProperty⟩ := Lists.exists_of_mem_left made grouped
      exact ⟨property, isProperty⟩
    refine .intro flattens (fun entry inside field listed asFirst => ?_)
      fun entry inside group grouped expected named known noLeaf => ?_
    · obtain ⟨group, grouped, same⟩ :=
        SelectedField.exists_group_of_selectsAsFirst listed asFirst
      obtain ⟨_, isProperty⟩ := property entry inside group grouped
      rw [Schema.Defines, ← same]
      exact (property_eq_ok isProperty).imp And.left fun own => own.2.imp fun _ => And.left
    · obtain ⟨_, isProperty⟩ := property entry inside group grouped
      obtain ⟨unexported, plainBelow⟩ := plain.of_group flattens inside grouped
      rcases property_eq_ok isProperty with ⟨typename, -⟩ | ⟨-, own, isOwn, isType, -⟩
      · exact absurd typename named
      · cases known.symm.trans isOwn
        rw [groupType_of_unexported unexported noLeaf] at isType
        obtain ⟨below, isBelow, -⟩ := bind_eq_ok.mp isType
        exact ih plainBelow isBelow

/-- Selections with known fields do not fail, unless they are nested without end. Other selections
fail for the resolution of a name, or for that reason, too. -/
theorem typeWithin_ne_error {cause : GenerationError} (nested : cause ≠ .endlessNesting)
    (plain : Selection.Unexported scope.fragments selections)
    (excluded : scope.FieldsKnown parent selections ∨ cause.category ≠ .typeResolution) :
    scope.typeWithin bound parent selections ≠ .error cause := by
  -- On the bound. Each level fails for its reading, for a field, or for what stands below one.
  induction bound generalizing parent selections with
  | zero => exact fun fails => nested (Except.error.inj fails).symm
  | succ bound ih =>
    unfold typeWithin
    refine bind_ne_error ?_ fun flattened flattens => ?_
    · rcases excluded with known | foreign
      · cases known with
        | intro flattens => exact flattens ▸ ok_ne_error
      · exact Selection.flatten_ne_error (GenerationError.isOfReading_of_foreign foreign)
    · refine bind_ne_error (mapM_ne_error fun entry inside => ?_) fun _ _ => ok_ne_error
      refine objectShape_ne_error (fun group grouped named unknown => ?_)
        (fun group grouped type => ?_) fun group grouped type named known noLeaf => ?_
      · -- The first field of a group is one of the fields that are defined.
        rcases excluded with known | foreign
        · cases known with
          | intro flattens' defined =>
            cases flattens.symm.trans flattens'
            have listed := (SelectedField.mem_of_mem_groups grouped List.mem_cons_self).1
            rcases defined entry inside group.1 listed
              (SelectedField.selectsAsFirst_of_mem_groups grouped) with typename | ⟨type, known⟩
            · exact absurd typename named
            · cases unknown.symm.trans known
        · rintro rfl
          exact foreign rfl
      · -- An export could fail for its name, but no field of the group is exported.
        have unexported := (plain.of_group flattens inside grouped).1
        rw [SelectedField.firstExport?_eq_none unexported]
        exact ok_ne_error
      · refine ih (plain.of_group flattens inside grouped).2 ?_
        refine excluded.imp_left fun fieldsKnown => ?_
        cases fieldsKnown with
        | intro flattens' _ below =>
          cases flattens.symm.trans flattens'
          exact below entry inside group grouped type named known noLeaf

/-- Without exports, selections that have a type have known fields, at all levels. Where they have
none and reach no fragment that spreads itself, directly or below a field, a name cannot be
resolved, and their fields are not known. -/
theorem typeOf_known_or_unresolved (plain : Selection.Unexported scope.fragments selections)
    (parent : String) :
    (∃ type, scope.typeOf parent selections = .ok type ∧ scope.FieldsKnown parent selections) ∨
      ∃ problem, scope.typeOf parent selections = .error problem ∧
        ((∀ name, scope.fragments.Reaches selections name → ¬ scope.fragments.Loops name) →
          problem.category = .typeResolution ∧ ¬ scope.FieldsKnown parent selections) := by
  cases ends : scope.typeOf parent selections with
  | ok type => exact .inl ⟨type, rfl, fieldsKnown_of_typeWithin plain ends⟩
  | error problem =>
    refine .inr ⟨problem, rfl, fun acyclic => ?_⟩
    -- Without loops the bound is never reached, so what is left are the failures of a level.
    have nested : problem ≠ .endlessNesting := by
      rintro rfl
      exact typeOf_ne_endlessNesting acyclic parent ends
    refine ⟨?_, fun known => typeWithin_ne_error nested plain (.inl known) ends⟩
    by_contra foreign
    exact typeWithin_ne_error nested plain (.inr foreign) ends

/-- The name of a pet through a fragment, and its friend in two places: for cats with the name, and
for all pets with the type under another key. -/
def namedFriends : List Selection :=
  let friend (inner : List Selection) : Selection := .field ⟨none, "friend", [], []⟩ inner
  [.spread "Named" [], .inlined (some "Cat") [] [friend [.spread "Named" []]],
    friend [.field ⟨some "kind", "__typename", [], []⟩ []]]

/-- The name of a pet through a fragment, and what its friend barks. -/
def barkingFriends : List Selection :=
  [.spread "Named" [], .field ⟨none, "friend", [], []⟩ [.field ⟨none, "bark", [], []⟩ []]]

/-- All fields of a pet and of its friends are known, until a friend is asked what it barks. Neither
selection exports anything, and no fragment that the second one reaches spreads itself. -/
theorem fieldsKnown_namedFriends :
    (Selection.Unexported petScope.fragments namedFriends ∧
      ∃ type, petScope.typeOf "Pet" namedFriends = .ok type ∧
        petScope.FieldsKnown "Pet" namedFriends) ∧
    Selection.Unexported petScope.fragments barkingFriends ∧
      (∀ name, petScope.fragments.Reaches barkingFriends name → ¬ petScope.fragments.Loops name) ∧
      ∃ problem, petScope.typeOf "Pet" barkingFriends = .error problem ∧
        problem.category = .typeResolution ∧ ¬ petScope.FieldsKnown "Pet" barkingFriends := by
  have plain {selections : List Selection} (own : Selection.isUnexported selections = true) :
      Selection.Unexported petScope.fragments selections := by
    refine Selection.unexported_of_lists own fun loaded inside => ?_
    rw [List.mem_singleton.mp inside]
    cbv
  have named : Selection.Unexported petScope.fragments namedFriends := plain (by cbv)
  have barking : Selection.Unexported petScope.fragments barkingFriends := plain (by cbv)
  refine ⟨⟨named, ?_⟩, barking, ?_⟩
  · refine (typeOf_known_or_unresolved named "Pet").resolve_right ?_
    rintro ⟨problem, fails, -⟩
    obtain ⟨type, typed⟩ : ∃ type, petScope.typeOf "Pet" namedFriends = .ok type :=
      exists_ok (by cbv)
    cases typed.symm.trans fails
  · obtain ⟨inlined, inlines⟩ : ∃ inlined,
        Selection.inline petScope.fragments barkingFriends = .ok inlined := exists_ok (by cbv)
    have acyclic : ∀ name, petScope.fragments.Reaches barkingFriends name →
        ¬ petScope.fragments.Loops name := fun _ => Selection.not_loops_of_inline inlines
    have fails : petScope.typeOf "Pet" barkingFriends = .error (.unknownField "bark" "Cat") := by
      cbv
    refine ⟨acyclic, ?_⟩
    rcases typeOf_known_or_unresolved barking "Pet" with ⟨_, typed, -⟩ | ⟨problem, ends, outcome⟩
    · cases typed.symm.trans fails
    · exact ⟨problem, ends, outcome acyclic⟩

/-- Pets with a fragment that spreads itself below their friends. -/
def endlessFriends : SelectionScope where
  schema := Schema.pets
  settings := {}
  fragments :=
    [{ fragment := ⟨"Near", "Pet", [], [.field ⟨none, "friend", [], []⟩ [.spread "Near" []]]⟩ }]

/-- Each friend has friends again, so there is no type, although all names can be resolved. -/
example : endlessFriends.typeOf "Pet" [.spread "Near" []] = .error .endlessNesting := by cbv

/-- What a cat barks, under the key of its name and behind it. -/
def nameAndBark : List Selection :=
  [.field ⟨none, "name", [], []⟩ [], .field ⟨some "name", "bark", [], []⟩ []]

/-- Cats do not bark, and the field is not noticed behind the name. -/
theorem bark_unnoticed :
    Selection.Unexported petsAlone.fragments nameAndBark ∧
      (∃ type, petsAlone.typeOf "Cat" nameAndBark = .ok type) ∧
      ∃ fields, Selection.flatten petsAlone.schema petsAlone.fragments "Cat" nameAndBark =
          .ok [("Cat", fields)] ∧
        ∃ field ∈ fields, ¬ petsAlone.schema.Defines "Cat" field := by
  refine ⟨Selection.unexported_of_lists (by cbv) (List.forall_mem_nil _), exists_ok (by cbv),
    [⟨⟨none, "name", [], []⟩, []⟩, ⟨⟨some "name", "bark", [], []⟩, []⟩], by cbv,
    _, List.mem_cons_of_mem _ (List.mem_singleton_self _), ?_⟩
  rintro (typename | ⟨type, known⟩)
  · exact absurd typename (by decide)
  · have none : ExportedAlias.fieldType? petsAlone.schema "Cat" "bark" = none := rfl
    cases none.symm.trans known

end SelectionScope

end SelectionTypes

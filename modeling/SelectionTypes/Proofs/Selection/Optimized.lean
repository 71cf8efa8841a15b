import Mathlib
import SelectionTypes.Proofs.Selection.Inlined
import SelectionTypes.Proofs.Selection.Merge
import SelectionTypes.Selection.Optimized

/-!
# `SelectionTypes.Proofs.Selection.Optimized`: optimizing keeps the types of results

An optimized operation spreads no fragments and has its sibling fields merged. Merging reorders
what is selected below a field when a fragment stands between two occurrences of it, so the type
of an optimized operation has its properties in another order. `TypeExpr.Similar` is equality up
to that order, at every depth.

`optimize_type_similar` says that the optimized operation has a type exactly if the operation has
one, and that the two types are similar. It holds for operations without exports whose fields are
`Mergeable`: at every level that can be reached, the fields of one response key select one field,
and all of them or none have sub-selections.
-/

set_option autoImplicit false

namespace SelectionTypes

open Outcome
open TypeScript (TypeExpr Property PropertyHead)

/-! ### Types up to the order of properties -/

namespace TypeScript

mutual

/-- Type expressions that are the same up to the order of the properties of each object. -/
inductive TypeExpr.Similar : TypeExpr → TypeExpr → Prop
  | same (type : TypeExpr) : TypeExpr.Similar type type
  /-- The list and null marks are the same. -/
  | marked {base other : TypeExpr} (type : TypeRef) (below : TypeExpr.Similar base other) :
      TypeExpr.Similar (.marked type base) (.marked type other)
  /-- The properties correspond in some order. -/
  | object {properties matched others : List Property}
      (each : SimilarProperties properties matched) (order : matched.Perm others) :
      TypeExpr.Similar (.object properties) (.object others)
  /-- The shapes of the object types correspond one by one. -/
  | union {shapes others : List TypeExpr} (each : SimilarShapes shapes others) :
      TypeExpr.Similar (.union shapes) (.union others)

/-- Properties with the same names and marks, and with similar types. -/
inductive SimilarProperties : List Property → List Property → Prop
  | nil : SimilarProperties [] []
  | cons {head : PropertyHead} {type other : TypeExpr} {properties others : List Property}
      (first : TypeExpr.Similar type other) (rest : SimilarProperties properties others) :
      SimilarProperties ((head, type) :: properties) ((head, other) :: others)

/-- Shapes that are similar one by one. -/
inductive SimilarShapes : List TypeExpr → List TypeExpr → Prop
  | nil : SimilarShapes [] []
  | cons {shape other : TypeExpr} {shapes others : List TypeExpr}
      (first : TypeExpr.Similar shape other) (rest : SimilarShapes shapes others) :
      SimilarShapes (shape :: shapes) (other :: others)

end

/-- Properties with equal heads and similar types, one by one, are similar. -/
theorem similarProperties_of_forall₂ {properties others : List Property}
    (each : List.Forall₂ (fun property other => property.1 = other.1 ∧
      TypeExpr.Similar property.2 other.2) properties others) :
    SimilarProperties properties others := by
  induction each with
  | nil => exact .nil
  | @cons property other properties others first _ ih =>
    obtain ⟨head, type⟩ := property
    obtain ⟨head', type'⟩ := other
    obtain ⟨same, similar⟩ := first
    cases same
    exact .cons similar ih

/-- Shapes that are similar one by one are similar. -/
theorem similarShapes_of_forall₂ {shapes others : List TypeExpr}
    (each : List.Forall₂ TypeExpr.Similar shapes others) : SimilarShapes shapes others := by
  induction each with
  | nil => exact .nil
  | cons first _ ih => exact .cons first ih

end TypeScript

namespace SelectionScope

variable {scope : SelectionScope} {root parent : String} {selections inlined : List Selection}

/-! ### The levels of a result -/

/-- The levels of a result: types with the sub-selections that are read on them. Below each key of
each object type of a level is a level, with the sub-selections of all fields of the key. -/
inductive Reaches (scope : SelectionScope) (root : String) (selections : List Selection) :
    String → List Selection → Prop
  | here : Reaches scope root selections root selections
  | deeper {parent concrete : String} {inner : List Selection}
      {flattened : List (String × List SelectedField)} {fields : List SelectedField}
      {group : SelectedField × List SelectedField} {type : TypeRef}
      (reached : Reaches scope root selections parent inner)
      (flattens : Selection.flatten scope.schema scope.fragments parent inner = .ok flattened)
      (listed : (concrete, fields) ∈ flattened)
      (grouped : group ∈ SelectedField.groups fields)
      (known : ExportedAlias.fieldType? scope.schema concrete group.1.head.name = some type) :
      Reaches scope root selections type.base
        ((SelectedField.members group).flatMap SelectedField.selections)

/-- At every level, the fields that an object type has under one key have one name, and all of
them or none have sub-selections. -/
def Mergeable (scope : SelectionScope) (root : String) (selections : List Selection) : Prop :=
  ∀ parent inner, Reaches scope root selections parent inner → ∀ flattened,
    Selection.flatten scope.schema scope.fragments parent inner = .ok flattened →
      ∀ concrete fields, (concrete, fields) ∈ flattened → Selection.Uniform fields

/-- The levels below a level are levels. -/
theorem Reaches.trans {middle : List Selection} {inner : List Selection} {last : String}
    (first : Reaches scope root selections parent middle)
    (second : Reaches scope parent middle last inner) :
    Reaches scope root selections last inner := by
  induction second with
  | here => exact first
  | deeper _ flattens listed grouped known ih => exact .deeper ih flattens listed grouped known

/-- The levels of inlined selections are those of the selections, inlined. -/
theorem exists_reaches_of_inline {others : FragmentTable}
    (inlines : Selection.inline scope.fragments selections = .ok inlined) {inner' : List Selection}
    (reached : Reaches { scope with fragments := others } root inlined parent inner') :
    ∃ inner, Reaches scope root selections parent inner ∧
      Selection.inline scope.fragments inner = .ok inner' := by
  induction reached with
  | here => exact ⟨selections, .here, inlines⟩
  | @deeper parent concrete inner' flattened' fields' group' type reached flattens listed grouped
      known ih =>
    obtain ⟨inner, above, inlinesInner⟩ := ih
    obtain ⟨flattened, succeeds, entries⟩ :=
      (Selection.alike_flatten_inline inlinesInner parent).backward flattens
    obtain ⟨⟨concrete', fields⟩, inside, same, each⟩ := Lists.exists_of_mem_right entries listed
    cases same
    have groups := SelectedField.groups_forall₂
      (fun both => congrArg FieldHead.responseKey both.head.symm) each
    obtain ⟨group, inGroups, members⟩ := Lists.exists_of_mem_right groups grouped
    -- Corresponding groups ask for one field, so they reach the same type.
    have head : group'.1.head = group.1.head := by
      cases members with
      | cons first _ => exact first.head
    exact ⟨_, .deeper above succeeds inside inGroups (head ▸ known),
      Selection.inline_flatMap members⟩

/-- Inlining keeps fields mergeable. -/
theorem Mergeable.of_inline (mergeable : scope.Mergeable root selections)
    (inlines : Selection.inline scope.fragments selections = .ok inlined) (others : FragmentTable) :
    { scope with fragments := others }.Mergeable root inlined := by
  intro parent inner' reached flattened' flattens concrete fields' listed
  obtain ⟨inner, above, inlinesInner⟩ := exists_reaches_of_inline inlines reached
  obtain ⟨flattened, succeeds, entries⟩ :=
    (Selection.alike_flatten_inline inlinesInner parent).backward flattens
  obtain ⟨⟨_, fields⟩, inside, same, each⟩ := Lists.exists_of_mem_right entries listed
  cases same
  -- Each of the two inlined fields comes from a field of the same key and name.
  intro field first other second key
  obtain ⟨own, listed', via⟩ := Lists.exists_of_mem_right each first
  obtain ⟨own', listed'', via'⟩ := Lists.exists_of_mem_right each second
  have sameKey : own.key = own'.key := by
    have := key
    unfold SelectedField.key at this ⊢
    rwa [via.head, via'.head] at this
  obtain ⟨name, empty⟩ := mergeable parent inner above flattened succeeds _ fields inside
    own listed' own' listed'' sameKey
  rw [via.head, via'.head, Selection.inlineWithin_eq_nil via.selections,
    Selection.inlineWithin_eq_nil via'.selections]
  exact ⟨name, empty⟩

/-! ### The type of merged selections -/

/-- Objects with the same properties in another order get the property that tells the type alike. -/
theorem similar_withTypename (type : String) {properties matched others : List Property}
    (each : List.Forall₂ (fun property other => property.1 = other.1 ∧
      TypeExpr.Similar property.2 other.2) properties matched) (order : matched.Perm others) :
    TypeExpr.Similar (.object (scope.withTypename type properties))
      (.object (scope.withTypename type others)) := by
  have heads : (properties.map Prod.fst).Perm (others.map Prod.fst) := by
    have same : properties.map Prod.fst = matched.map Prod.fst := by
      rw [← List.forall₂_eq_eq_eq, List.forall₂_map_left_iff, List.forall₂_map_right_iff]
      exact each.imp fun _ _ both => both.1
    rw [same]
    exact order.map _
  -- Whether a property tells the type already does not depend on the order.
  have asked : (properties.all fun property => property.1.name != typenameField) =
      others.all fun property => property.1.name != typenameField := by
    have all : ∀ list : List Property,
        (list.all fun property => property.1.name != typenameField) =
          (list.map Prod.fst).all fun head => head.name != typenameField := by
      intro list
      rw [List.all_map]
      rfl
    rw [all, all, Bool.eq_iff_iff, List.all_eq_true, List.all_eq_true]
    exact forall_congr' fun head => imp_congr_left heads.mem_iff
  unfold withTypename
  rw [asked]
  split
  · exact .object (TypeScript.similarProperties_of_forall₂
      (.cons ⟨rfl, .same _⟩ each)) (order.cons _)
  · exact .object (TypeScript.similarProperties_of_forall₂ each) order

/-- Whether a field is exported is said by its directives. -/
theorem isExported_congr {head other : FieldHead} (same : head.directives = other.directives) :
    head.isExported = other.isExported := by
  unfold FieldHead.isExported FieldHead.exportDirective?
  rw [same]

/-- Regrouped fields give an object type a similar shape, if the levels below are alike. -/
theorem alike_objectShape_of_regroups {inner : Inner} {concrete : String}
    {fields joined : List SelectedField} (uniform : Selection.Uniform fields)
    (plain : ∀ field ∈ fields, field.head.isExported = false)
    (regroups : Selection.Regroups Selection.merge fields joined)
    (below : ∀ group ∈ SelectedField.groups fields, ∀ type merged,
      ExportedAlias.fieldType? scope.schema concrete group.1.head.name = some type →
      Selection.Merges ((SelectedField.members group).flatMap SelectedField.selections) merged →
      Alike anyCause TypeExpr.Similar
        (inner type.base ((SelectedField.members group).flatMap SelectedField.selections))
        (inner type.base merged)) :
    Alike anyCause TypeExpr.Similar (scope.objectShape inner concrete fields)
      (scope.objectShape inner concrete joined) := by
  have plainJoined : ∀ field ∈ joined, field.head.isExported = false := by
    intro field inside
    obtain ⟨source, listed, directives⟩ := regroups.exists_directives inside
    rw [isExported_congr directives]
    exact plain source listed
  obtain ⟨matched, order, each⟩ := SelectedField.groups_matched regroups.mem_keys_iff
  -- The groups of one key have like properties.
  have properties : Alike anyCause (List.Forall₂ fun property other => property.1 = other.1 ∧
      TypeExpr.Similar property.2 other.2)
      ((SelectedField.groups fields).mapM (scope.property inner concrete))
      (matched.mapM (scope.property inner concrete)) := by
    refine Alike.mapM (each.imp fun group group' both => ?_)
    obtain ⟨inside, inside', key⟩ := both
    have members := SelectedField.mem_groups.mp inside
    have members' := SelectedField.mem_groups.mp inside'
    have first := SelectedField.mem_of_mem_groups inside List.mem_cons_self
    have first' := SelectedField.mem_of_mem_groups inside' List.mem_cons_self
    obtain ⟨source, listed, sourceKey, sourceName⟩ := regroups.exists_source first'.1
    have name := (uniform group.1 first.1 source listed (key.trans sourceKey.symm)).1
    refine alike_property (fun _ => trivial) .same .marked key (name.trans sourceName)
      (fun type => ?_) fun type known _ => ?_
    · rw [SelectedField.firstExport?_eq_none fun field member =>
          plain field (SelectedField.mem_of_mem_groups inside member).1,
        SelectedField.firstExport?_eq_none fun field member =>
          plainJoined field (SelectedField.mem_of_mem_groups inside' member).1]
    -- The sub-selections of the joined group are those of the group, merged.
    refine below group inside type _ known ?_
    have merges := regroups.merges group.1.key
    rwa [members, key, members'] at merges
  have reordered := alike_mapM_of_perm (f := scope.property inner concrete) order
  unfold objectShape
  refine (properties.comp reordered).bind fun _ _ _ _ both => .ok ?_
  obtain ⟨_, similar, order⟩ := both
  exact similar_withTypename concrete similar order

/-- Merged selections can be flattened exactly if the selections can. Each type has what is selected
on it before and after. -/
theorem alike_flatten_of_merges {merged : List Selection}
    (free : Selection.spreadsOf selections = []) (merges : Selection.Merges selections merged) :
    Alike anyCause (List.Forall₂ fun entry other => entry.1 = other.1 ∧
        entry.2 = Selection.selectedOn scope.schema entry.1 selections ∧
        other.2 = Selection.selectedOn scope.schema entry.1 merged)
      (Selection.flatten scope.schema scope.fragments parent selections)
      (Selection.flatten scope.schema scope.fragments parent merged) := by
  have freeMerged := merges.spreadsOf_eq_nil free
  -- Both succeed for the same types under the same conditions, so only the fields are left to
  -- compare.
  refine .of_ok_iff (fun flattened succeeds => ?_) fun flattened succeeds => ?_
  · obtain ⟨types, concrete, readable, rfl⟩ := (Selection.flatten_plain_eq_ok free).mp succeeds
    rw [← merges.isReadable_eq] at readable
    refine ⟨_, (Selection.flatten_plain_eq_ok freeMerged).mpr ⟨types, concrete, readable, rfl⟩,
      ?_⟩
    rw [List.forall₂_map_left_iff, List.forall₂_map_right_iff, List.forall₂_same]
    exact fun type _ => ⟨rfl, rfl, rfl⟩
  · obtain ⟨types, concrete, readable, -⟩ :=
      (Selection.flatten_plain_eq_ok freeMerged).mp succeeds
    rw [merges.isReadable_eq] at readable
    exact ⟨_, (Selection.flatten_plain_eq_ok free).mpr ⟨types, concrete, readable, rfl⟩⟩

/-- Merged selections have a type exactly if the selections have one, and the types are similar. -/
theorem alike_typeWithin_of_merges (bound : Nat) {merged : List Selection}
    (free : Selection.spreadsOf selections = [])
    (plain : ∀ head ∈ Selection.headsOf selections, head.isExported = false)
    (mergeable : scope.Mergeable parent selections) (merges : Selection.Merges selections merged) :
    Alike anyCause TypeExpr.Similar (scope.typeWithin bound parent selections)
      (scope.typeWithin bound parent merged) := by
  induction bound generalizing parent selections merged with
  | zero => exact .error trivial
  | succ bound ih =>
    unfold typeWithin
    refine (alike_flatten_of_merges free merges).bind fun flattened _ succeeds _ each => ?_
    -- The entries are among those of the flattened selections, which the levels are about.
    have entries := (List.forall₂_and_left flattened _).mpr ⟨fun _ inside => inside, each⟩
    refine (Alike.mapM (entries.imp fun entry other both => ?_)).bind
      fun shapes others _ _ similar => .ok (.union (TypeScript.similarShapes_of_forall₂ similar))
    obtain ⟨listed, sameType, fields, fields'⟩ := both
    show Alike anyCause _ (scope.objectShape _ entry.1 entry.2)
      (scope.objectShape _ other.1 other.2)
    rw [← sameType, fields']
    have uniform := mergeable parent selections .here flattened succeeds entry.1 entry.2 listed
    have regroups := merges.regroups (fields ▸ uniform)
    rw [← fields] at regroups
    have inside : ∀ field ∈ entry.2,
        field ∈ Selection.selectedOn scope.schema entry.1 selections := fun field => (fields ▸ id)
    refine alike_objectShape_of_regroups uniform
      (fun field member => plain _ (Selection.mem_selectedOn (inside field member)).2.2.1) regroups
      fun group grouped type mergedBelow known mergesBelow => ?_
    have members : ∀ field ∈ SelectedField.members group,
        field ∈ Selection.selectedOn scope.schema entry.1 selections := fun field member =>
      inside field (SelectedField.mem_of_mem_groups grouped member).1
    -- What is asked of a level holds of the level below the group.
    refine ih ?_ ?_ ?_ mergesBelow
    · rw [Selection.spreadsOf_flatMap]
      exact fun field member => (Selection.mem_selectedOn (members field member)).1 free
    · intro head listed
      obtain ⟨field, member, own⟩ := Selection.mem_headsOf_flatMap.mp listed
      exact plain head ((Selection.mem_selectedOn (members field member)).2.2.2 own)
    · intro last inner reached
      exact mergeable last inner
        ((Reaches.deeper .here succeeds listed grouped known).trans reached)

/-! ### Optimized operations -/

/-- An operation without exports, whose spreads can be inlined and whose fields are mergeable, can
be optimized. The optimized operation has a result type exactly if the operation has one, and the
two types are the same up to the order of properties. -/
theorem optimize_type_similar {operation : Operation} (root : String)
    (inlines : ∃ inlined, Selection.inline scope.fragments operation.selections = .ok inlined)
    (plain : ∀ head ∈ Selection.headsOf operation.selections, head.isExported = false)
    (plainFragments : ∀ loaded ∈ scope.fragments,
      ∀ head ∈ Selection.headsOf loaded.fragment.selections, head.isExported = false)
    (mergeable : scope.Mergeable root operation.selections) :
    ∃ optimized, operation.optimize scope.fragments = .ok optimized ∧
      ∀ others : FragmentTable, Alike anyCause TypeExpr.Similar
        (scope.typeOf root operation.selections)
        ({ scope with fragments := others }.typeOf root optimized.selections) := by
  obtain ⟨inlined, inlines⟩ := inlines
  refine ⟨{ operation with selections := Selection.merge inlined }, ?_, fun others => ?_⟩
  · unfold Operation.optimize
    rw [inlines]
    rfl
  · have free := Selection.spreadsOf_inlineWithin inlines
    have freeMerged := Selection.spreadsOf_merge free
    -- Both types are compared within a bound that is enough for both.
    obtain ⟨bound, deep, deepMerged⟩ : ∃ bound, Selection.nesting inlined < bound ∧
        Selection.nesting (Selection.merge inlined) < bound :=
      ⟨max (Selection.nesting inlined) (Selection.nesting (Selection.merge inlined)) + 1,
        by omega, by omega⟩
    have enough : Selection.nesting (Selection.merge inlined) <
        { scope with fragments := others }.depthBound (Selection.merge inlined) := by
      have weight := weight_lt_depthBound { scope with fragments := others }
        (Selection.merge inlined)
      have nested := Selection.nesting_le_weight (Selection.merge inlined)
      omega
    rw [typeOf_inline others inlines deep]
    show Alike anyCause _ _ ({ scope with fragments := others }.typeWithin _ _ _)
    rw [typeWithin_of_nesting freeMerged enough deepMerged]
    refine alike_typeWithin_of_merges bound free (fun head inside => ?_)
      (mergeable.of_inline inlines others) (Selection.merges_merge inlined)
    rcases Selection.mem_headsOf_inlineWithin inlines inside with own | ⟨loaded, listed, own⟩
    · exact plain head own
    · exact plainFragments loaded listed head own

/-- A scope for pets, with a fragment that selects their names. -/
def petScope : SelectionScope where
  schema := Schema.pets
  settings := {}
  fragments := [⟨⟨"Named", "Pet", [], [.field ⟨none, "name", [], []⟩ []]⟩, false, none⟩]

/-- A query for the name of a pet, through a fragment and then for cats. -/
def petQuery : Operation where
  kind := .query
  name := none
  declaredVariables := []
  directives := []
  selections :=
    [.field ⟨none, "pet", [], []⟩
      [.spread "Named" [], .inlined (some "Cat") [] [.field ⟨none, "name", [], []⟩ []]]]

/-- What the query selects of a pet. -/
def petSelections : List Selection :=
  [.spread "Named" [], .inlined (some "Cat") [] [.field ⟨none, "name", [], []⟩ []]]

/-- The query selects the pet. -/
theorem flatten_petQuery :
    Selection.flatten petScope.schema petScope.fragments "Query" petQuery.selections =
      .ok [("Query", [⟨⟨none, "pet", [], []⟩, petSelections⟩])] := by
  cbv

/-- The name is selected twice for cats, through the fragment and for themselves, and once for dogs.
-/
theorem flatten_petSelections :
    Selection.flatten petScope.schema petScope.fragments "Pet" petSelections =
      .ok [("Cat", [⟨⟨none, "name", [], []⟩, []⟩, ⟨⟨none, "name", [], []⟩, []⟩]),
        ("Dog", [⟨⟨none, "name", [], []⟩, []⟩])] := by
  cbv

/-- A string has no fields to flatten. -/
theorem flatten_string (selections : List Selection) :
    Selection.flatten petScope.schema petScope.fragments "String" selections =
      .error (.notComposite "String") := by
  have noFields : petScope.schema.concreteTypes "String" = .error (.notComposite "String") :=
    rfl
  unfold Selection.flatten
  rw [noFields]
  rfl

/-- The levels of the query: itself, the pet, and the name of a pet. -/
theorem levels_of_reaches {inner : List Selection}
    (reached : Reaches petScope "Query" petQuery.selections parent inner) :
    (parent = "Query" ∧ inner = petQuery.selections) ∨
      (parent = "Pet" ∧ inner = petSelections) ∨ parent = "String" := by
  -- The query reaches the pets, these reach their names, and a name has no selections.
  induction reached with
  | here => exact .inl ⟨rfl, rfl⟩
  | @deeper _ concrete _ _ _ group _ _ flattens listed grouped known ih =>
    rcases ih with ⟨rfl, rfl⟩ | ⟨rfl, rfl⟩ | rfl
    · cases flatten_petQuery.symm.trans flattens
      cases List.mem_singleton.mp listed
      have first :=
        List.mem_singleton.mp (SelectedField.mem_of_mem_groups grouped List.mem_cons_self).1
      rw [first] at known
      have typed : ExportedAlias.fieldType? petScope.schema "Query" "pet" =
          some (.named "Pet") := rfl
      cases typed.symm.trans known
      rw [← SelectedField.mem_groups.mp grouped, first]
      exact .inr (.inl ⟨rfl, by simp⟩)
    · cases flatten_petSelections.symm.trans flattens
      have inside := (SelectedField.mem_of_mem_groups grouped List.mem_cons_self).1
      have typed : ∀ concrete ∈ ["Cat", "Dog"], ExportedAlias.fieldType? petScope.schema concrete
          "name" = some (.named "String") := by
        simp only [List.forall_mem_cons, List.not_mem_nil, false_implies, implies_true, and_true]
        constructor <;> rfl
      simp only [List.mem_cons, Prod.mk.injEq, List.not_mem_nil, or_false] at listed
      have both : group.1 = ⟨⟨none, "name", [], []⟩, []⟩ ∧ concrete ∈ ["Cat", "Dog"] := by
        rcases listed with ⟨rfl, rfl⟩ | ⟨rfl, rfl⟩ <;> simpa using inside
      rw [both.1, typed concrete both.2] at known
      cases known
      exact .inr (.inr rfl)
    · cases (flatten_string _).symm.trans flattens

/-- Below the pet there is only its name, so the fields are mergeable. -/
theorem mergeable_petQuery : petScope.Mergeable "Query" petQuery.selections := by
  intro parent inner reached flattened flattens concrete fields listed
  rcases levels_of_reaches reached with ⟨rfl, rfl⟩ | ⟨rfl, rfl⟩ | rfl
  · cases flatten_petQuery.symm.trans flattens
    cases List.mem_singleton.mp listed
    simp [Selection.Uniform]
  · cases flatten_petSelections.symm.trans flattens
    simp only [List.mem_cons, Prod.mk.injEq, List.not_mem_nil, or_false] at listed
    rcases listed with ⟨rfl, rfl⟩ | ⟨rfl, rfl⟩ <;> simp [Selection.Uniform]
  · cases (flatten_string _).symm.trans flattens

/-- The name of a pet has a type of its own kind after optimization, without any fragment. -/
theorem optimize_petQuery_similar :
    (∃ inlined, Selection.inline petScope.fragments petQuery.selections = .ok inlined) ∧
    petScope.Mergeable "Query" petQuery.selections ∧
    ∃ optimized, petQuery.optimize petScope.fragments = .ok optimized ∧
      ∀ others : FragmentTable, Alike anyCause TypeExpr.Similar
        (petScope.typeOf "Query" petQuery.selections)
        ({ petScope with fragments := others }.typeOf "Query" optimized.selections) := by
  have inlines : ∃ inlined, Selection.inline petScope.fragments petQuery.selections
      = .ok inlined := ⟨[.field ⟨none, "pet", [], []⟩
        [.inlined (some "Pet") [] [.field ⟨none, "name", [], []⟩ []],
          .inlined (some "Cat") [] [.field ⟨none, "name", [], []⟩ []]]], by cbv⟩
  -- No field of the query or of the fragment is exported, as computed from all of them.
  have heads : Selection.headsOf petQuery.selections =
      [⟨none, "pet", [], []⟩, ⟨none, "name", [], []⟩] := by cbv
  have fragmentHeads : ∀ loaded ∈ petScope.fragments,
      Selection.headsOf loaded.fragment.selections = [⟨none, "name", [], []⟩] := by
    intro loaded inside
    rw [List.mem_singleton.mp inside]
    cbv
  refine ⟨inlines, mergeable_petQuery, optimize_type_similar "Query" inlines ?_ ?_
    mergeable_petQuery⟩
  · rw [heads]
    decide
  · intro loaded inside
    rw [fragmentHeads loaded inside]
    decide

end SelectionScope

end SelectionTypes

import SelectionTypes.Export.Alias
import SelectionTypes.Proofs.Selection.Groups
import SelectionTypes.Proofs.Selection.Reading

/-!
# `SelectionTypes.Proofs.Selection.Shape`: the types of selections, level by level

The type of selections is made level by level, and each level uses the one below for the
sub-selections of its groups. `alike_property` compares one level of two runs: the properties of
two groups are alike if the groups agree on key, name and export and the levels below are alike.

`typeWithin_inline` follows by induction on the levels: inlining spreads does not change the type of
selections within a bound, nor the failure. Without spreads the levels end with the selections,
since what stands below a group is nested less deep (`flatMap_selections_lt`).
-/

set_option autoImplicit false

namespace SelectionTypes

open Outcome
open TypeScript (TypeExpr Property PropertyHead)

/-! ### Exports -/

namespace FieldHead

variable {schema : Schema} {type : TypeRef} {head : FieldHead} {found : Option TypeExpr}

/-- An exported field has a reference if it has a name for its export and is not of a leaf type.
Other fields have none. -/
theorem exportRef?_eq_ok :
    head.exportRef? schema type = .ok found ↔
      (head.isExported = false ∧ found = none) ∨
        (head.isExported = true ∧ schema.isLeaf type.base = false ∧
          ∃ name, head.exportName = .ok name ∧ found = some (.marked type (.aliasRef name))) := by
  unfold exportRef?
  by_cases exported : head.isExported = true
  · rw [if_pos exported, bind_eq_ok, exported]
    by_cases leaf : schema.isLeaf type.base = true
    · simp [leaf, throw, throwThe, MonadExceptOf.throw, bind, Except.bind]
    · simp [leaf, pure, Except.pure, @eq_comm _ _ found]
  · rw [if_neg exported]
    simp [exported, @eq_comm _ _ found]

/-- Only a field without an export has no reference. -/
theorem exportRef?_eq_none : head.exportRef? schema type = .ok none ↔ head.isExported = false := by
  rw [exportRef?_eq_ok]
  simp

end FieldHead

namespace SelectedField

variable {schema : Schema} {type : TypeRef} {fields : List SelectedField}

/-- Several fields have the reference of the first exported one. -/
theorem firstExport?_eq_of_find? {first : SelectedField}
    (isFirst : fields.find? (fun field => field.head.isExported) = some first) :
    firstExport? schema type fields = first.head.exportRef? schema type := by
  induction fields with
  | nil => cases isFirst
  | cons field rest ih =>
    rw [firstExport?]
    by_cases exported : field.head.isExported = true
    · rw [List.find?_cons, exported] at isFirst
      cases isFirst
      -- An exported field has a reference, or it fails.
      cases own : first.head.exportRef? schema type with
      | error problem => rfl
      | ok found =>
        cases found with
        | some reference => rfl
        | none =>
          rw [FieldHead.exportRef?_eq_none.mp own] at exported
          cases exported
    · rw [Bool.not_eq_true] at exported
      rw [List.find?_cons, exported] at isFirst
      rw [FieldHead.exportRef?_eq_none.mpr exported]
      exact ih isFirst

/-- Without an exported field there is no reference. -/
theorem firstExport?_eq_none (plain : ∀ field ∈ fields, field.head.isExported = false) :
    firstExport? schema type fields = .ok none := by
  induction fields with
  | nil => rfl
  | cons field rest ih =>
    rw [firstExport?, FieldHead.exportRef?_eq_none.mpr (plain field List.mem_cons_self)]
    exact ih fun other inside => plain other (List.mem_cons_of_mem field inside)

/-- None of several fields is exported, or one of them is the first exported one. -/
theorem find?_isExported_cases :
    (∀ field ∈ fields, field.head.isExported = false) ∨
      ∃ first ∈ fields, fields.find? (fun field => field.head.isExported) = some first ∧
        first.head.isExported = true := by
  cases found : fields.find? fun field => field.head.isExported with
  | none => exact .inl fun field inside => by simpa using List.find?_eq_none.mp found field inside
  | some first =>
    have exported := List.find?_some found
    exact .inr ⟨first, List.mem_of_find?_eq_some found, rfl, exported⟩

/-- Several fields have no reference exactly if none of them is exported. -/
theorem firstExport?_eq_none_iff :
    firstExport? schema type fields = .ok none ↔
      ∀ field ∈ fields, field.head.isExported = false := by
  refine ⟨fun none => ?_, firstExport?_eq_none⟩
  rcases @find?_isExported_cases fields with plain | ⟨first, -, isFirst, exported⟩
  · exact plain
  · rw [firstExport?_eq_of_find? isFirst, FieldHead.exportRef?_eq_none, exported] at none
    cases none

/-- A reference names the alias of one of the fields, which are not of a leaf type. -/
theorem firstExport?_eq_some {reference : TypeExpr}
    (found : firstExport? schema type fields = .ok (some reference)) :
    schema.isLeaf type.base = false ∧ ∃ field ∈ fields, ∃ name,
      field.head.exportName = .ok name ∧ reference = .marked type (.aliasRef name) := by
  rcases @find?_isExported_cases fields with plain | ⟨first, inside, isFirst, exported⟩
  · rw [firstExport?_eq_none plain] at found
    cases found
  · rw [firstExport?_eq_of_find? isFirst, FieldHead.exportRef?_eq_ok] at found
    obtain ⟨-, same⟩ | ⟨-, noLeaf, name, isName, same⟩ := found
    · cases same
    · exact ⟨noLeaf, first, inside, name, isName, Option.some.inj same⟩

/-- Fields that are listed twice have the reference that they have once. -/
theorem firstExport?_append_self (fields : List SelectedField) :
    firstExport? schema type (fields ++ fields) = firstExport? schema type fields := by
  rcases @find?_isExported_cases fields with plain | ⟨first, -, isFirst, -⟩
  · have both : ∀ field ∈ fields ++ fields, field.head.isExported = false :=
      List.forall_mem_append.mpr ⟨plain, plain⟩
    rw [firstExport?_eq_none plain, firstExport?_eq_none both]
  · have again : (fields ++ fields).find? (fun field => field.head.isExported) = some first := by
      rw [List.find?_append, isFirst, Option.some_or]
    rw [firstExport?_eq_of_find? isFirst, firstExport?_eq_of_find? again]

/-- The reference depends on the heads of the fields alone. -/
theorem firstExport?_congr {fields others : List SelectedField}
    (heads : List.Forall₂ (fun field other => field.head = other.head) fields others) :
    firstExport? schema type fields = firstExport? schema type others := by
  induction heads with
  | nil => rfl
  | cons first rest ih => rw [firstExport?, firstExport?, first, ih]

end SelectedField

namespace SelectionScope

variable (scope : SelectionScope)

/-! ### One property -/

/-- The name and marks of the property for a field of a type. -/
def propertyHead (key : String) (type : TypeRef) : PropertyHead where
  name := key
  optional := !type.isNonNull && !scope.settings.avoidOptionals.field
  readOnly := scope.settings.immutableTypes

variable {scope} {inner other : Inner} {parent : String}
variable {group group' : SelectedField × List SelectedField}

/-- A group that asks for the type of an object has the property that tells it. -/
theorem property_of_typename (typename : group.1.head.name = typenameField) :
    scope.property inner parent group =
      .ok (scope.typenameProperty group.1.key parent false) := by
  simp [property, typename, pure, Except.pure]

/-- A group of a field that the type does not have has no property. -/
theorem property_of_unknown (named : group.1.head.name ≠ typenameField)
    (unknown : ExportedAlias.fieldType? scope.schema parent group.1.head.name = none) :
    scope.property inner parent group =
      .error (.unknownField group.1.head.name parent) := by
  unfold ExportedAlias.fieldType? at unknown
  simp [property, named, unknown, throw, throwThe, MonadExceptOf.throw]

/-- A group of a known field has a property of the type of its fields. -/
theorem property_of_field {type : TypeRef} (named : group.1.head.name ≠ typenameField)
    (known : ExportedAlias.fieldType? scope.schema parent group.1.head.name = some type) :
    scope.property inner parent group = do
      let expression ← scope.groupType inner type (SelectedField.members group)
      return (scope.propertyHead group.1.key type, expression) := by
  unfold ExportedAlias.fieldType? at known
  simp [property, named, known, propertyHead]

/-- The types of two groups of fields are alike if they have the same export, and the types of
their sub-selections are alike where those count. -/
theorem alike_groupType {causes : GenerationError → GenerationError → Prop}
    {related : TypeExpr → TypeExpr → Prop} (sameCause : ∀ cause, causes cause cause)
    (sameType : ∀ type, related type type)
    (mark : ∀ {base base'} type, related base base' → related (.marked type base)
      (.marked type base')) {type : TypeRef} {fields others : List SelectedField}
    (exports : SelectedField.firstExport? scope.schema type fields =
      SelectedField.firstExport? scope.schema type others)
    (below : scope.schema.isLeaf type.base = false →
      Alike causes related (inner type.base (fields.flatMap SelectedField.selections))
        (other type.base (others.flatMap SelectedField.selections))) :
    Alike causes related (scope.groupType inner type fields)
      (scope.groupType other type others) := by
  unfold groupType
  rw [← exports]
  -- A reference to an alias stands for the whole type, and a leaf has no sub-selections.
  cases SelectedField.firstExport? scope.schema type fields with
  | error problem => exact .error (sameCause problem)
  | ok found =>
    cases found with
    | some reference => exact .ok (sameType reference)
    | none =>
      show Alike causes related (ite _ _ _) (ite _ _ _)
      by_cases leaf : scope.schema.isLeaf type.base = true
      · rw [if_pos leaf, if_pos leaf]
        exact .ok (sameType _)
      · rw [if_neg leaf, if_neg leaf]
        exact (below (by simpa using leaf)).bind fun _ _ _ _ both => .ok (mark type both)

/-- The properties of two groups are alike if the groups agree on key, name and export, and the
types of their sub-selections are alike where those count. -/
theorem alike_property {causes : GenerationError → GenerationError → Prop}
    {related : TypeExpr → TypeExpr → Prop} (sameCause : ∀ cause, causes cause cause)
    (sameType : ∀ type, related type type)
    (mark : ∀ {base base'} type, related base base' → related (.marked type base)
      (.marked type base'))
    (key : group.1.key = group'.1.key) (name : group.1.head.name = group'.1.head.name)
    (exports : ∀ type, SelectedField.firstExport? scope.schema type (SelectedField.members group) =
      SelectedField.firstExport? scope.schema type (SelectedField.members group'))
    (below : ∀ type, ExportedAlias.fieldType? scope.schema parent group.1.head.name = some type →
      scope.schema.isLeaf type.base = false → Alike causes related
        (inner type.base ((SelectedField.members group).flatMap SelectedField.selections))
        (other type.base ((SelectedField.members group').flatMap SelectedField.selections))) :
    Alike causes (fun property property' => property.1 = property'.1 ∧
        related property.2 property'.2)
      (scope.property inner parent group) (scope.property other parent group') := by
  -- The field is looked up by the name of the first in the group, which both groups agree on.
  by_cases typename : group.1.head.name = typenameField
  · rw [property_of_typename typename, property_of_typename (name ▸ typename), key]
    exact .ok ⟨rfl, sameType _⟩
  · cases known : ExportedAlias.fieldType? scope.schema parent group.1.head.name with
    | none =>
      rw [property_of_unknown typename known,
        property_of_unknown (name ▸ typename) (name ▸ known), name]
      exact .error (sameCause _)
    | some type =>
      rw [property_of_field typename known, property_of_field (name ▸ typename) (name ▸ known), key]
      exact (alike_groupType sameCause sameType mark (exports type) (below type known)).bind
        fun _ _ _ _ both => .ok ⟨rfl, both⟩

/-- Two groups have one property if they agree on key, name and export, and the levels below agree
on their sub-selections. -/
theorem property_congr (key : group.1.key = group'.1.key)
    (name : group.1.head.name = group'.1.head.name)
    (exports : ∀ type, SelectedField.firstExport? scope.schema type (SelectedField.members group) =
      SelectedField.firstExport? scope.schema type (SelectedField.members group'))
    (below : ∀ type, inner type ((SelectedField.members group).flatMap SelectedField.selections) =
      other type ((SelectedField.members group').flatMap SelectedField.selections)) :
    scope.property inner parent group = scope.property other parent group' := by
  have like : Alike Eq (fun property property' => property.1 = property'.1 ∧
      property.2 = property'.2) (scope.property inner parent group)
        (scope.property other parent group') :=
    alike_property (fun _ => rfl) (fun _ => rfl) (fun _ same => by rw [same]) key name exports
      fun type _ _ => .of_eq (below type.base)
  exact (like.imp id fun both => Prod.ext both.1 both.2).eq

/-- The type of a group is a reference to an alias, a leaf, or the type of its sub-selections. -/
theorem groupType_eq_ok {type : TypeRef} {fields : List SelectedField} {expression : TypeExpr}
    (succeeds : scope.groupType inner type fields = .ok expression) :
    (scope.schema.isLeaf type.base = false ∧ ∃ field ∈ fields, ∃ name,
        field.head.exportName = .ok name ∧ expression = .marked type (.aliasRef name)) ∨
      (scope.schema.isLeaf type.base = true ∧
        expression = .marked type (scope.namedRef type.base .output)) ∨
      (scope.schema.isLeaf type.base = false ∧ ∃ below,
        inner type.base (fields.flatMap SelectedField.selections) = .ok below ∧
        expression = .marked type below) := by
  unfold groupType at succeeds
  obtain ⟨found, first, rest⟩ := bind_eq_ok.mp succeeds
  -- The first export decides. Without one it is a leaf, or the level below has the type.
  cases found with
  | some reference =>
    cases rest
    exact .inl (SelectedField.firstExport?_eq_some first)
  | none =>
    by_cases leaf : scope.schema.isLeaf type.base = true
    · simp only [leaf, if_true] at rest
      cases rest
      exact .inr (.inl ⟨leaf, rfl⟩)
    · simp only [leaf, Bool.false_eq_true, if_false] at rest
      obtain ⟨below, isBelow, same⟩ := bind_eq_ok.mp rest
      cases same
      exact .inr (.inr ⟨by simpa using leaf, below, isBelow, rfl⟩)

/-- A property tells the type, or it has the type of the field on the object type. -/
theorem property_eq_ok {property : Property}
    (succeeds : scope.property inner parent group = .ok property) :
    (group.1.head.name = typenameField ∧
        property = scope.typenameProperty group.1.key parent false) ∨
      (group.1.head.name ≠ typenameField ∧ ∃ type,
        ExportedAlias.fieldType? scope.schema parent group.1.head.name = some type ∧
        scope.groupType inner type (SelectedField.members group) = .ok property.2 ∧
        property.1 = scope.propertyHead group.1.key type) := by
  -- The arms of the definition: the type itself, an unknown field, and a known one.
  by_cases typename : group.1.head.name = typenameField
  · rw [property_of_typename typename] at succeeds
    cases succeeds
    exact .inl ⟨typename, rfl⟩
  · cases known : ExportedAlias.fieldType? scope.schema parent group.1.head.name with
    | none =>
      rw [property_of_unknown typename known] at succeeds
      cases succeeds
    | some type =>
      rw [property_of_field typename known] at succeeds
      obtain ⟨expression, isType, same⟩ := bind_eq_ok.mp succeeds
      cases same
      exact .inr ⟨typename, type, rfl, isType, rfl⟩

/-- The name of a property is the key of its group. -/
theorem name_of_property {property : Property}
    (succeeds : scope.property inner parent group = .ok property) :
    property.1.name = group.1.key := by
  rcases property_eq_ok succeeds with ⟨-, rfl⟩ | ⟨-, type, -, -, head⟩
  · rfl
  · rw [head]
    rfl

/-- The shape of an object type has one property for each group. -/
theorem objectShape_eq_ok {fields : List SelectedField} {expression : TypeExpr} :
    scope.objectShape inner parent fields = .ok expression ↔ ∃ properties,
      List.Forall₂ (fun group property => scope.property inner parent group = .ok property)
        (SelectedField.groups fields) properties ∧
      expression = .object (scope.withTypename parent properties) := by
  unfold objectShape
  rw [bind_eq_ok]
  simp only [mapM_eq_ok, pure, Except.pure, Except.ok.injEq]
  exact exists_congr fun properties => and_congr_right fun _ => eq_comm

/-- The type of selections has one shape for each object type. -/
theorem typeWithin_eq_ok {bound : Nat} {selections : List Selection} {expression : TypeExpr} :
    scope.typeWithin (bound + 1) parent selections = .ok expression ↔ ∃ flattened shapes,
      Selection.flatten scope.schema scope.fragments parent selections = .ok flattened ∧
      List.Forall₂ (fun entry shape =>
          scope.objectShape (scope.typeWithin bound) entry.1 entry.2 = .ok shape)
        flattened shapes ∧
      expression = .union shapes := by
  -- One level by itself, with the entries taken as pairs.
  have level : scope.typeWithin (bound + 1) parent selections = do
      let flattened ← Selection.flatten scope.schema scope.fragments parent selections
      let shapes ← flattened.mapM fun entry =>
        scope.objectShape (scope.typeWithin bound) entry.1 entry.2
      return .union shapes := rfl
  rw [level, bind_eq_ok]
  refine exists_congr fun flattened => ?_
  rw [bind_eq_ok]
  constructor
  · rintro ⟨succeeds, shapes, each, same⟩
    cases same
    exact ⟨shapes, succeeds, mapM_eq_ok.mp each, rfl⟩
  · rintro ⟨shapes, succeeds, each, rfl⟩
    exact ⟨succeeds, shapes, mapM_eq_ok.mpr each, rfl⟩

/-! ### What stands below a level -/

/-- Sub-selections of fields without spreads have no spreads, and they are nested less deep. -/
theorem flatMap_selections_lt {type : String} {selections : List Selection}
    (free : Selection.spreadsOf selections = []) {fields : List SelectedField}
    (inside : fields ⊆ Selection.selectedOn scope.schema type selections) {bound : Nat}
    (deep : Selection.nesting selections < bound + 1) (positive : fields ≠ []) :
    Selection.spreadsOf (fields.flatMap SelectedField.selections) = [] ∧
      Selection.nesting (fields.flatMap SelectedField.selections) < bound := by
  induction fields with
  | nil => exact absurd rfl positive
  | cons field rest ih =>
    obtain ⟨own, deeper, -⟩ := Selection.mem_selectedOn (inside List.mem_cons_self)
    -- The bound is lost for no fields at all, so the last field is a case of its own.
    rw [List.flatMap_cons, Selection.nesting_append, Selection.spreadsOf_append,
      List.append_eq_nil_iff]
    cases rest with
    | nil =>
      simp only [List.flatMap_nil, Selection.spreadsOf, Selection.nesting, and_true]
      exact ⟨own free, by omega⟩
    | cons next later =>
      obtain ⟨others, below⟩ := ih (List.cons_subset.mp inside).2 (List.cons_ne_nil _ _)
      exact ⟨⟨own free, others⟩, by omega⟩

/-! ### Inlined spreads -/

/-- The property of a group is that of the group with its sub-selections inlined, if the levels
below agree on the sub-selections. -/
theorem property_inline
    (each : List.Forall₂ (Selection.InlinesTo scope.fragments) (SelectedField.members group)
      (SelectedField.members group'))
    (agree : ∀ type selections inlined, Selection.inline scope.fragments selections = .ok inlined →
      inner type selections = other type inlined) :
    scope.property inner parent group = scope.property other parent group' := by
  have heads : List.Forall₂ (fun field other => field.head = other.head)
      (SelectedField.members group) (SelectedField.members group') :=
    each.imp fun _ _ both => both.head.symm
  have head : group.1.head = group'.1.head := by
    cases heads with
    | cons first _ => exact first
  exact property_congr (congrArg FieldHead.responseKey head) (congrArg FieldHead.name head)
    (fun _ => SelectedField.firstExport?_congr heads)
    fun type => agree type _ _ (Selection.inline_flatMap each)

/-- Inlining spreads does not change the type of selections within a bound. The inlined selections
need no fragments. -/
theorem typeWithin_inline (others : FragmentTable) (bound : Nat)
    {selections inlined : List Selection}
    (inlines : Selection.inline scope.fragments selections = .ok inlined) :
    scope.typeWithin bound parent selections =
      { scope with fragments := others }.typeWithin bound parent inlined := by
  induction bound generalizing parent selections inlined with
  | zero => rfl
  | succ bound ih =>
    unfold typeWithin
    refine Alike.eq ((Selection.alike_flatten_inline inlines parent).bind
      fun flattened flattened' _ _ each => .of_eq ?_)
    -- Flattening gives corresponding fields, so groups and properties correspond, too.
    have shapes : List.Forall₂ (fun entry entry' =>
        scope.objectShape (scope.typeWithin bound) entry.1 entry.2 =
          scope.objectShape ({ scope with fragments := others }.typeWithin bound) entry'.1
            entry'.2) flattened flattened' := by
      refine each.imp fun entry entry' both => ?_
      rw [both.1]
      unfold objectShape
      have groups := SelectedField.groups_forall₂
        (fun both => congrArg FieldHead.responseKey both.head.symm) both.2
      have properties : List.Forall₂ (fun group group' =>
          scope.property (scope.typeWithin bound) entry'.1 group =
            scope.property ({ scope with fragments := others }.typeWithin bound) entry'.1 group')
          (SelectedField.groups entry.2) (SelectedField.groups entry'.2) := by
        refine groups.imp fun group group' members => ?_
        exact property_inline members fun type selections inlined => ih
      exact congrArg (· >>= _) (mapM_eq_of_forall₂ properties)
    have same := mapM_eq_of_forall₂ shapes
    exact congrArg (· >>= fun shapes => pure (TypeExpr.union shapes)) same

/-- The fragments are weighed one by one. -/
private theorem foldl_weight (fragments : FragmentTable) (start : Nat) :
    fragments.foldl (fun total loaded => total + Selection.weight loaded.fragment.selections)
      start = start + Selection.tableWeight fragments := by
  induction fragments generalizing start with
  | nil => rfl
  | cons loaded rest ih => rw [List.foldl_cons, ih, Selection.tableWeight_cons, Nat.add_assoc]

/-- The bound on the levels exceeds what the selections and all fragments weigh. -/
theorem weight_lt_depthBound (scope : SelectionScope) (selections : List Selection) :
    Selection.weight selections + Selection.tableWeight scope.fragments <
      scope.depthBound selections := by
  unfold depthBound
  rw [foldl_weight]
  exact Nat.lt_succ_of_le (Nat.le_mul_of_pos_left _ (Nat.succ_pos scope.schema.types.length))

/-- More selections have a larger bound on the levels. -/
theorem depthBound_le_append (scope : SelectionScope) (selections others : List Selection) :
    scope.depthBound selections ≤ scope.depthBound (selections ++ others) := by
  unfold depthBound
  rw [foldl_weight, foldl_weight, Selection.weight_append]
  exact Nat.succ_le_succ (Nat.mul_le_mul_left _ (by omega))

/-- The bound on the levels exceeds the nesting of the selections. -/
theorem nesting_lt_depthBound (scope : SelectionScope) (selections : List Selection) :
    Selection.nesting selections < scope.depthBound selections := by
  have weight := Selection.nesting_le_weight selections
  have enough := weight_lt_depthBound scope selections
  omega

/-- A type can be made only of selections on a type that has values. -/
theorem exists_concreteTypes_of_typeOf {selections : List Selection} {type : TypeExpr}
    (typed : scope.typeOf parent selections = .ok type) :
    ∃ types, scope.schema.concreteTypes parent = .ok types := by
  obtain ⟨bound, positive⟩ := Nat.exists_eq_succ_of_ne_zero
    (Nat.ne_of_gt (Nat.zero_lt_of_lt (scope.nesting_lt_depthBound selections)))
  unfold typeOf at typed
  rw [positive] at typed
  obtain ⟨flattened, _, flattens, -⟩ := typeWithin_eq_ok.mp typed
  obtain ⟨types, _, isTypes, -⟩ := Selection.flatten_eq_ok.mp flattens
  exact ⟨types, isTypes⟩

end SelectionScope

end SelectionTypes

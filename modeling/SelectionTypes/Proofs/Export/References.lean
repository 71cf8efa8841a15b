import SelectionTypes.Proofs.Schema.Implementation
import SelectionTypes.Proofs.Selection.Shape
import SelectionTypes.Proofs.Selection.Validity

/-!
# `SelectionTypes.Proofs.Export.References`: the aliases that types refer to

Where an exported field is selected, its type is a reference to an alias. A type is read on object
types and through spreads, while exports are collected on the types that fields are written on and
without entering spreads. The two meet in `Tended`: selections are tended, as written on a type, if
each export on the way down gives a name that is `declared`, and each spread names a fragment that
is `tended` for itself.

`declared_of_typeWithin` says that the type of tended selections refers to declared aliases alone.
Going down, a field is read on an object type and was written on a type that admits it. The types of
fields are covariant, so what stands below is read on types that the written type of the field
admits (`Covered`).
-/

set_option autoImplicit false

namespace SelectionTypes

open Outcome
open TypeScript (TypeExpr Property)

/-! ### References to aliases -/

namespace TypeScript.TypeExpr

mutual

/-- The names of the aliases that a type expression refers to. -/
def aliases : TypeExpr → List String
  | .aliasRef name => [name]
  | .aliasRefs names => names
  | .marked _ base => base.aliases
  | .object properties => aliasesOfProperties properties
  | .union shapes => aliasesOfShapes shapes
  | .text _ => []
  | .scalarEntry _ _ => []
  | .enumEntry _ => []
  | .declared _ => []
  | .typename _ => []

/-- The names of the aliases that properties refer to. -/
def aliasesOfProperties : List Property → List String
  | [] => []
  | (_, type) :: properties => type.aliases ++ aliasesOfProperties properties

/-- The names of the aliases that shapes refer to. -/
def aliasesOfShapes : List TypeExpr → List String
  | [] => []
  | shape :: shapes => shape.aliases ++ aliasesOfShapes shapes

end

/-- An alias is referred to in properties if one of them has it in its type. -/
theorem mem_aliasesOfProperties {properties : List Property} {name : String} :
    name ∈ aliasesOfProperties properties ↔
      ∃ property ∈ properties, name ∈ property.2.aliases := by
  induction properties with
  | nil => simp [aliasesOfProperties]
  | cons property rest ih => simp [aliasesOfProperties, ih]

/-- An alias is referred to in shapes if it is in one of them. -/
theorem mem_aliasesOfShapes {shapes : List TypeExpr} {name : String} :
    name ∈ aliasesOfShapes shapes ↔ ∃ shape ∈ shapes, name ∈ shape.aliases := by
  induction shapes with
  | nil => simp [aliasesOfShapes]
  | cons shape rest ih => simp [aliasesOfShapes, ih]

end TypeScript.TypeExpr

/-! ### References of names -/

namespace Scope

variable (scope : Scope)

/-- A reference of a named type is the text of a scalar of the table, an entry of the global module,
or a declared type. -/
theorem namedRef_cases (name : String) (side : Side) :
    (∃ types, scope.scalars.lookup name = some types ∧
      scope.namedRef name side = .text (types.on side)) ∨
      scope.namedRef name side = .scalarEntry name side ∨
      scope.namedRef name side = .enumEntry name ∨ scope.namedRef name side = .declared name := by
  -- The two arms for scalars have the same three ends, so these are found once.
  have scalar : (∃ types, scope.scalars.lookup name = some types ∧
      scope.scalarRef name side = .text (types.on side)) ∨
      scope.scalarRef name side = .scalarEntry name side := by
    unfold scalarRef
    split
    · next types found =>
      split
      · exact .inr rfl
      · exact .inl ⟨types, found, rfl⟩
    · exact .inr rfl
  unfold namedRef
  split
  · exact scalar.imp_right .inl
  · exact .inr (.inr (.inl rfl))
  · exact .inr (.inr (.inr rfl))
  · split
    · exact scalar.imp_right .inl
    · exact .inr (.inr (.inr rfl))

/-- A reference of a variable is a text of a scalar of the table, an enum, or a declared type. -/
theorem variableRef_cases (name : String) :
    (∃ types side, scope.scalars.lookup name = some types ∧
      scope.variableRef name = .text (types.on side)) ∨
      scope.variableRef name = .enumEntry name ∨ scope.variableRef name = .declared name := by
  unfold variableRef
  split
  · next types found =>
    left
    split
    · exact ⟨types, .output, found, rfl⟩
    · exact ⟨types, .input, found, rfl⟩
  · right
    split
    · exact .inl rfl
    · exact .inr rfl

/-- A reference to a type of the schema refers to no alias. -/
theorem aliases_namedRef (name : String) (side : Side) :
    (scope.namedRef name side).aliases = [] := by
  rcases scope.namedRef_cases name side with ⟨types, -, same⟩ | same | same | same <;>
    rw [same] <;> rfl

/-- The type of a variable refers to no alias, as it is made of names in the schema. -/
theorem aliases_variableRef (name : String) : (scope.variableRef name).aliases = [] := by
  rcases scope.variableRef_cases name with ⟨types, side, -, same⟩ | same | same <;>
    rw [same] <;> rfl

end Scope

/-! ### Tended selections -/

namespace Selection

open SelectionScope (typenameField)

variable {schema : Schema} {table : FragmentTable} {declared tended : String → Prop}
variable {selections : List Selection}

/-- Selections whose exports give declared names, as written on a type, and whose spreads name
tended fragments. Nothing is asked below fields that are leaves, which are not read there. -/
def Tended (schema : Schema) (declared tended : String → Prop) (parent : String) :
    List Selection → Prop
  | [] => True
  | .field head inner :: rest =>
    (head.name = typenameField ∨ ∃ type, ExportedAlias.fieldType? schema parent head.name =
        some type ∧ (∀ name, head.exportName = .ok name → declared name) ∧
        (schema.isLeaf type.base = false → Tended schema declared tended type.base inner))
      ∧ Tended schema declared tended parent rest
  | .spread name _ :: rest => tended name ∧ Tended schema declared tended parent rest
  | .inlined condition _ inner :: rest =>
    Tended schema declared tended (condition.getD parent) inner ∧
      Tended schema declared tended parent rest

/-- A list is tended if its first selection and the rest are. -/
theorem tended_cons {parent : String} {selection : Selection} {rest : List Selection} :
    Tended schema declared tended parent (selection :: rest) ↔
      Tended schema declared tended parent [selection] ∧
        Tended schema declared tended parent rest := by
  cases selection <;> simp [Tended]

/-- Selections are tended exactly if each of them is. -/
theorem tended_iff {parent : String} :
    Tended schema declared tended parent selections ↔
      ∀ selection ∈ selections, Tended schema declared tended parent [selection] := by
  induction selections with
  | nil => simp [Tended]
  | cons selection rest ih =>
    rw [tended_cons, ih]
    simp

/-- Tended selections are tended for more names. -/
theorem Tended.imp {more : String → Prop} (names : ∀ name, declared name → more name)
    {parent : String} (tends : Tended schema declared tended parent selections) :
    Tended schema more tended parent selections := by
  -- Along the definition: only fields say something of declared names, the rest is passed on.
  induction parent, selections using Tended.induct with
  | case1 parent =>
    rw [Tended]
    trivial
  | case2 parent head inner rest ihInner ihRest =>
    rw [Tended] at tends ⊢
    refine ⟨tends.1.imp_right ?_, ihRest tends.2⟩
    rintro ⟨type, known, exports, below⟩
    exact ⟨type, known, fun name isName => names name (exports name isName),
      fun noLeaf => ihInner type (below noLeaf)⟩
  | case3 parent name directives rest ih =>
    rw [Tended] at tends ⊢
    exact ⟨tends.1, ih tends.2⟩
  | case4 parent condition directives inner rest ihInner ihRest =>
    rw [Tended] at tends ⊢
    exact ⟨ihInner tends.1, ihRest tends.2⟩

/-- A selection that is tended as written on some type that admits an object type. -/
def TendedFor (schema : Schema) (declared tended : String → Prop) (concrete : String)
    (selection : Selection) : Prop :=
  ∃ written, schema.Admits written concrete ∧ Tended schema declared tended written [selection]

/-- Selections are tended for each object type that a value of the type can have. -/
def Covered (schema : Schema) (declared tended : String → Prop) (parent : String)
    (selections : List Selection) : Prop :=
  ∀ types, schema.concreteTypes parent = .ok types → ∀ concrete ∈ types,
    ∀ selection ∈ selections, TendedFor schema declared tended concrete selection

/-- Tended selections on a type cover the type. -/
theorem Tended.covered {parent : String}
    (written : Tended schema declared tended parent selections) :
    Covered schema declared tended parent selections := by
  intro _ types _ inside selection listed
  exact ⟨parent, Schema.admits_of_mem_concreteTypes types inside,
    tended_iff.mp written selection listed⟩

/-- The fields that are collected for an object type are tended for it. -/
theorem tendedFor_of_collects {concrete : String} {fields : List SelectedField}
    (fragments : ∀ name loaded, tended name → table.get? name = some loaded →
      Tended schema declared tended loaded.fragment.onType loaded.fragment.selections)
    (collects : Collects schema table concrete selections fields)
    (written : ∀ selection ∈ selections, TendedFor schema declared tended concrete selection) :
    ∀ field ∈ fields,
      TendedFor schema declared tended concrete (.field field.head field.selections) := by
  induction collects with
  | nil => exact fun field inside => nomatch inside
  | field behind ih =>
    rw [List.forall_mem_cons] at written
    exact List.forall_mem_cons.mpr ⟨written.1, ih written.2⟩
  | plain inside behind ihInside ihBehind =>
    rw [List.forall_mem_cons] at written
    obtain ⟨⟨type, admits, own⟩, rest⟩ := written
    simp only [Tended, and_true, Option.getD_none] at own
    exact List.forall_mem_append.mpr
      ⟨ihInside fun selection listed => ⟨type, admits, tended_iff.mp own selection listed⟩,
        ihBehind rest⟩
  | entered admits inside behind ihInside ihBehind =>
    rw [List.forall_mem_cons] at written
    obtain ⟨⟨type, -, own⟩, rest⟩ := written
    -- Inside the fragment the selections are written on its condition.
    simp only [Tended, and_true, Option.getD_some] at own
    exact List.forall_mem_append.mpr
      ⟨ihInside fun selection listed => ⟨_, admits, tended_iff.mp own selection listed⟩,
        ihBehind rest⟩
  | passed excluded behind ih => exact ih (List.forall_mem_cons.mp written).2
  | spreadEntered found admits inside behind ihInside ihBehind =>
    rw [List.forall_mem_cons] at written
    obtain ⟨⟨type, -, own⟩, rest⟩ := written
    simp only [Tended, and_true] at own
    -- The spread says nothing about the fragment, which is tended for itself.
    have fragment := tended_iff.mp (fragments _ _ own found)
    exact List.forall_mem_append.mpr
      ⟨ihInside fun selection listed => ⟨_, admits, fragment selection listed⟩, ihBehind rest⟩
  | spreadPassed found excluded behind ih => exact ih (List.forall_mem_cons.mp written).2

/-- The fields of an entry of a flattened reading are collected for an object type that a value of
the parent can have. -/
theorem collects_of_mem_flatten (wellFormed : schema.WellFormed) {parent concrete : String}
    {flattened : List (String × List SelectedField)} {fields : List SelectedField}
    (succeeds : flatten schema table parent selections = .ok flattened)
    (listed : (concrete, fields) ∈ flattened) :
    schema.kind? concrete = some .object ∧
      (∃ types, schema.concreteTypes parent = .ok types ∧ concrete ∈ types) ∧
      Collects schema table concrete selections fields := by
  obtain ⟨types, distributed, isTypes, reads, rfl⟩ := flatten_eq_ok.mp succeeds
  obtain ⟨type, inside, same⟩ := List.mem_map.mp listed
  cases same
  have isType := List.mem_eraseDups.mp inside
  have object := wellFormed.kind?_of_mem_concreteTypes isTypes isType
  exact ⟨object, ⟨types, isTypes, isType⟩,
    collects_of_distributeWithin wellFormed (.refl table) reads object inside⟩

end Selection

/-! ### Types of tended selections -/

namespace SelectionScope

open Selection (Tended TendedFor Covered FieldsAgree)

variable {scope : SelectionScope} {declared tended : String → Prop}

/-- The property that tells the type refers to no alias. -/
theorem exists_of_mem_withTypename {concrete : String} {properties : List Property} {name : String}
    (inside : name ∈ TypeExpr.aliasesOfProperties (scope.withTypename concrete properties)) :
    ∃ property ∈ properties, name ∈ property.2.aliases := by
  obtain ⟨property, listed, own⟩ := TypeExpr.mem_aliasesOfProperties.mp inside
  unfold withTypename at listed
  split at listed
  · rcases List.mem_cons.mp listed with rfl | listed
    · cases own
    · exact ⟨property, listed, own⟩
  · exact ⟨property, listed, own⟩

/-- A field that is tended for an object type is defined on the type that it is written on. -/
theorem exists_written {concrete : String} {field : SelectedField}
    (written : TendedFor scope.schema declared tended concrete
      (.field field.head field.selections)) (named : field.head.name ≠ typenameField) :
    ∃ static type, scope.schema.Admits static concrete ∧
      ExportedAlias.fieldType? scope.schema static field.head.name = some type ∧
      (∀ name, field.head.exportName = .ok name → declared name) ∧
      (scope.schema.isLeaf type.base = false →
        Tended scope.schema declared tended type.base field.selections) := by
  obtain ⟨static, admits, tends⟩ := written
  simp only [Tended, and_true] at tends
  obtain ⟨type, known, exports, deeper⟩ := tends.resolve_left named
  exact ⟨static, type, admits, known, exports, deeper⟩

/-- What stands below fields that are tended for an object type covers the type that the fields have
there, if it is no leaf. -/
theorem covered_of_tendedFor (wellFormed : scope.schema.WellFormed)
    (valid : scope.schema.typeProblems = []) {concrete name : String}
    (object : scope.schema.kind? concrete = some .object) (named : name ≠ typenameField)
    {type : TypeRef}
    (known : ExportedAlias.fieldType? scope.schema concrete name = some type)
    (noLeaf : scope.schema.isLeaf type.base = false) {fields : List SelectedField}
    (written : ∀ field ∈ fields, field.head.name = name ∧
      TendedFor scope.schema declared tended concrete (.field field.head field.selections)) :
    Covered scope.schema declared tended type.base
      (fields.flatMap SelectedField.selections) := by
  intro types isTypes value isValue selection inside
  obtain ⟨field, member, listed⟩ := List.mem_flatMap.mp inside
  obtain ⟨rfl, fieldWritten⟩ := written field member
  obtain ⟨static, expected, admits, known', -, deeper⟩ := exists_written fieldWritten named
  -- The written type admits the values of the type on the object type, and is no leaf either.
  obtain ⟨leaf, admitted⟩ := wellFormed.covariant valid object admits known' known
  have noLeaf' : scope.schema.isLeaf expected.base = false := by
    by_contra isLeaf
    rw [leaf (by simpa using isLeaf)] at noLeaf
    cases noLeaf
  exact ⟨expected.base, admitted types isTypes value isValue,
    Selection.tended_iff.mp (deeper noLeaf') selection listed⟩

/-- The shape of an object type refers to declared aliases, if its fields are tended for it and the
types below do. -/
theorem declared_of_objectShape (wellFormed : scope.schema.WellFormed)
    (valid : scope.schema.typeProblems = []) {inner : Inner} {concrete : String}
    (object : scope.schema.kind? concrete = some .object) {fields : List SelectedField}
    (written : ∀ field ∈ fields,
      TendedFor scope.schema declared tended concrete (.field field.head field.selections))
    (agree : ∀ field ∈ fields, ∀ other ∈ fields, field.key = other.key →
      field.head.name = other.head.name)
    (below : ∀ group ∈ SelectedField.groups fields, ∀ type expression,
      Covered scope.schema declared tended type
        ((SelectedField.members group).flatMap SelectedField.selections) →
      inner type ((SelectedField.members group).flatMap SelectedField.selections)
        = .ok expression → ∀ name ∈ expression.aliases, declared name)
    {expression : TypeExpr} (succeeds : scope.objectShape inner concrete fields = .ok expression) :
    ∀ name ∈ expression.aliases, declared name := by
  obtain ⟨properties, each, rfl⟩ := objectShape_eq_ok.mp succeeds
  intro name inside
  rw [TypeExpr.aliases] at inside
  obtain ⟨property, listed, own⟩ := exists_of_mem_withTypename inside
  obtain ⟨group, grouped, isProperty⟩ := Lists.exists_of_mem_right each listed
  -- All members of a group have its name, since they have one key.
  have members : ∀ field ∈ SelectedField.members group, field.head.name = group.1.head.name ∧
      TendedFor scope.schema declared tended concrete (.field field.head field.selections) := by
    intro field member
    have first := SelectedField.mem_of_mem_groups grouped List.mem_cons_self
    obtain ⟨inside, key⟩ := SelectedField.mem_of_mem_groups grouped member
    exact ⟨agree field inside group.1 first.1 key, written field inside⟩
  rcases property_eq_ok isProperty with ⟨-, rfl⟩ | ⟨named, type, known, isType, -⟩
  · cases own
  · rcases groupType_eq_ok isType with ⟨-, field, member, exported, isName, same⟩ | ⟨-, same⟩ |
      ⟨noLeaf, body, isBody, same⟩
    · -- A reference names an export of one of the fields.
      rw [same] at own
      simp only [TypeExpr.aliases, List.mem_singleton] at own
      rw [own]
      obtain ⟨sameName, fieldWritten⟩ := members field member
      obtain ⟨-, -, -, -, exports, -⟩ := exists_written fieldWritten (sameName ▸ named)
      exact exports exported isName
    · rw [same, TypeExpr.aliases, Scope.aliases_namedRef] at own
      cases own
    · rw [same, TypeExpr.aliases] at own
      exact below group grouped type.base body
        (covered_of_tendedFor wellFormed valid object named known noLeaf members) isBody name own

/-- The shape of an entry of flattened selections refers to declared aliases, if the selections are
tended for the types of the values and the types below the entry do. -/
theorem declared_of_entry (wellFormed : scope.schema.WellFormed)
    (valid : scope.schema.typeProblems = [])
    (fragments : ∀ name loaded, tended name → scope.fragments.get? name = some loaded →
      Tended scope.schema declared tended loaded.fragment.onType loaded.fragment.selections)
    {inner : Inner} {parent concrete : String} {selections : List Selection}
    {flattened : List (String × List SelectedField)} {fields : List SelectedField}
    (covered : Covered scope.schema declared tended parent selections)
    (agree : FieldsAgree scope.fragments selections)
    (flattens : Selection.flatten scope.schema scope.fragments parent selections = .ok flattened)
    (listed : (concrete, fields) ∈ flattened)
    (below : ∀ type selections expression, Covered scope.schema declared tended type selections →
      FieldsAgree scope.fragments selections → inner type selections = .ok expression →
        ∀ name ∈ expression.aliases, declared name)
    {shape : TypeExpr} (isShape : scope.objectShape inner concrete fields = .ok shape) :
    ∀ name ∈ shape.aliases, declared name := by
  obtain ⟨object, ⟨types, isTypes, isType⟩, collects⟩ :=
    Selection.collects_of_mem_flatten wellFormed flattens listed
  have selects := collects.selects
  refine declared_of_objectShape wellFormed valid object
    (Selection.tendedFor_of_collects fragments collects (covered types isTypes concrete isType))
    (fun field first other second key =>
      agree _ .top field (selects field first) other (selects other second) key)
    (fun group grouped type expression coveredBelow isType => ?_) isShape
  exact below type _ expression coveredBelow (agree.of_group selects grouped).2 isType

/-- The type of selections that are tended for the types of the values, and whose fields agree,
refers to declared aliases. -/
theorem declared_of_typeWithin (wellFormed : scope.schema.WellFormed)
    (valid : scope.schema.typeProblems = [])
    (fragments : ∀ name loaded, tended name → scope.fragments.get? name = some loaded →
      Tended scope.schema declared tended loaded.fragment.onType loaded.fragment.selections)
    (bound : Nat) {parent : String} {selections : List Selection}
    (covered : Covered scope.schema declared tended parent selections)
    (agree : FieldsAgree scope.fragments selections) {expression : TypeExpr}
    (succeeds : scope.typeWithin bound parent selections = .ok expression) :
    ∀ name ∈ expression.aliases, declared name := by
  -- On the bound. A name in the type is in the shape of one entry, where it comes from an export or
  -- from the level below.
  induction bound generalizing parent selections expression with
  | zero => cases succeeds
  | succ bound ih =>
    obtain ⟨flattened, shapes, flattens, each, rfl⟩ := typeWithin_eq_ok.mp succeeds
    intro name inside
    rw [TypeExpr.aliases, TypeExpr.mem_aliasesOfShapes] at inside
    obtain ⟨shape, listed, own⟩ := inside
    obtain ⟨entry, isEntry, isShape⟩ := Lists.exists_of_mem_right each listed
    exact declared_of_entry wellFormed valid fragments covered agree flattens isEntry
      (fun type selections expression coveredBelow agreeBelow => ih coveredBelow agreeBelow)
      isShape name own

end SelectionScope

end SelectionTypes

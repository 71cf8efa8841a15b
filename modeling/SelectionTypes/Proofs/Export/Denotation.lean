import Mathlib
import SelectionTypes.Proofs.Export.Standing
import SelectionTypes.Proofs.Selection.Lookup

/-!
# `SelectionTypes.Proofs.Export.Denotation`: what the aliases of a field stand for

Without its export a field would have the type of its sub-selections on the type of the field, which
is read once for all object types. The aliases of the field are read one by one, each on its own
object type. Both give the same shapes, since the fields of an object type do not depend on the
others: `exists_shapes_of_typeOf`.

`aliases_denote` says so of each exported field that exports were collected from. Its aliases are
collected, and they stand for what they replace (`Denotes`). The alias for an object type is written
as the replaced type. The aliases for the object types of an interface are written as the members of
the replaced union, each of which is written there once, and the alias for the interface is one of
them or the other.
-/

set_option autoImplicit false

namespace SelectionTypes

open Outcome
open TypeScript (TypeExpr barred)
open Selection (Stands)

/-! ### Members of a union -/

namespace TypeScript

namespace TypeExpr

variable (settings : Settings)

/-- The alternatives of a type as they are written. -/
def alternatives : TypeExpr → List String
  | .union shapes => (renderShapes settings shapes).eraseDups
  | .aliasRefs names => names
  | type => [type.render settings]

/-- A union of one shape is written as the shape. -/
theorem render_singleton (shape : TypeExpr) :
    (union [shape]).render settings = shape.render settings := by
  simp [render, renderShapes, barred, List.eraseDups_cons]

/-- The texts of shapes are those of each of them. -/
theorem mem_renderShapes {shapes : List TypeExpr} {text : String} :
    text ∈ renderShapes settings shapes ↔ ∃ shape ∈ shapes, shape.render settings = text := by
  induction shapes with
  | nil => simp [renderShapes]
  | cons shape rest ih => simp [renderShapes, ih, eq_comm]

/-- The alternatives of a union are its shapes as they are written. -/
theorem mem_alternatives_union {shapes : List TypeExpr} {text : String} :
    text ∈ (union shapes).alternatives settings ↔
      ∃ shape ∈ shapes, shape.render settings = text := by
  rw [alternatives, List.mem_eraseDups, mem_renderShapes]

end TypeExpr

end TypeScript

/-! ### Reading type by type -/

namespace SelectionScope

variable {scope : SelectionScope} {parent : String} {selections : List Selection}
variable {expression : TypeExpr}

/-- The type of selections is the union of their shapes on the object types of the parent. -/
theorem exists_shapes_of_typeOf (wellFormed : scope.schema.WellFormed) {types : List String}
    (concrete : scope.schema.concreteTypes parent = .ok types)
    (typed : scope.typeOf parent selections = .ok expression) :
    ∃ shapes, expression = .union shapes ∧
      List.Forall₂ (fun type shape => scope.shapeOf type selections = .ok shape)
        types.eraseDups shapes := by
  obtain ⟨bound, positive⟩ : ∃ bound, scope.depthBound selections = bound + 1 :=
    ⟨scope.depthBound selections - 1, by
      have := scope.nesting_lt_depthBound selections
      omega⟩
  unfold typeOf at typed
  rw [positive] at typed
  obtain ⟨flattened, shapes, flattens, each, rfl⟩ := typeWithin_eq_ok.mp typed
  obtain ⟨types', distributed, concrete', reads, rfl⟩ := Selection.flatten_eq_ok.mp flattens
  cases concrete.symm.trans concrete'
  refine ⟨shapes, rfl, ?_⟩
  rw [List.forall₂_map_left_iff] at each
  have listed := (List.forall₂_and_left _ _).mpr ⟨fun _ inside => inside, each⟩
  refine listed.imp fun type shape ⟨inside, isShape⟩ => ?_
  -- Alone, the type has the same fields, and one more level makes no difference.
  obtain ⟨own, alone, fields⟩ :=
    Selection.distributeWithin_singleton (Lists.nodup_eraseDups types) reads inside
  have object := wellFormed.kind?_of_mem_concreteTypes concrete (List.mem_eraseDups.mp inside)
  refine bind_eq_ok.mpr ⟨_, (Selection.flatten_object_eq_ok object).mpr ⟨own, alone, rfl⟩, ?_⟩
  simp only [List.lookup_cons_self, Option.getD_some]
  rw [fields, positive]
  exact (objectShape_settles (typeWithin_settles scope (Nat.le_succ bound)) _).ok isShape

/-- The shapes of the type of selections are those on the object types of the parent. -/
theorem mem_shapes_of_typeOf (wellFormed : scope.schema.WellFormed) {types : List String}
    (concrete : scope.schema.concreteTypes parent = .ok types) {shapes : List TypeExpr}
    (typed : scope.typeOf parent selections = .ok (.union shapes)) {shape : TypeExpr} :
    shape ∈ shapes ↔ ∃ type ∈ types, scope.shapeOf type selections = .ok shape := by
  obtain ⟨shapes, same, each⟩ := exists_shapes_of_typeOf wellFormed concrete typed
  cases same
  constructor
  · intro inside
    obtain ⟨type, listed, isShape⟩ := Lists.exists_of_mem_right each inside
    exact ⟨type, List.mem_eraseDups.mp listed, isShape⟩
  · rintro ⟨type, listed, isShape⟩
    obtain ⟨other, inside, isShape'⟩ :=
      Lists.exists_of_mem_left each (List.mem_eraseDups.mpr listed)
    cases isShape.symm.trans isShape'
    exact inside

end SelectionScope

/-! ### The aliases of one field -/

namespace ExportedAlias

variable {scope : SelectionScope} {parent static : String} {selections : List Selection}
variable {collected : List ExportedAlias} {field : SelectedField}

/-- An alias that is written as a text. -/
def IsWritten (scope : SelectionScope) (exported : ExportedAlias) (text : String) : Prop :=
  ∃ shape, exported.shape scope = .ok shape ∧ shape.render scope.settings = text

/-- What the aliases of a field stand for: the type that the field has without its export. -/
structure Denotes (scope : SelectionScope) (definition : TypeDefinition) (name : String)
    (aliases : List ExportedAlias) (replaced : TypeExpr) : Prop where
  /-- Each of the aliases can be written. -/
  written : ∀ exported ∈ aliases, ∃ text, IsWritten scope exported text
  /-- The alias for an object type is written as the replaced type. -/
  object : definition.kind = .object → ∃ own, aliases = [own] ∧ own.name = name ∧
    IsWritten scope own (replaced.render scope.settings)
  /-- The alias for an interface is one of those for its object types, in their order. They are
  written as the members of the replaced type, and without any of them there is no value of either
  type. -/
  interface : definition.kind = .interface → ∃ own implementors,
    aliases = own :: implementors ∧ own.name = name ∧
    implementors.map ExportedAlias.type = scope.schema.possibleTypes definition ∧
    implementors.map ExportedAlias.name =
      (scope.schema.possibleTypes definition).map (implementorName name) ∧
    IsWritten scope own (barred (implementors.map ExportedAlias.name)) ∧
    (∃ shapes, replaced = .union shapes) ∧
    (∀ text, text ∈ replaced.alternatives scope.settings ↔
      ∃ exported ∈ implementors, IsWritten scope exported text) ∧
    (scope.schema.possibleTypes definition = [] →
      IsWritten scope own "never" ∧ replaced.render scope.settings = "never")

/-- An alias for an object type is written as the shape of what its field selects on the type. -/
theorem isWritten_iff_of_object {exported : ExportedAlias} {text : String}
    (object : scope.schema.kind? exported.type = some .object) :
    IsWritten scope exported text ↔
      ∃ shape, scope.shapeOf exported.type exported.field.selections = .ok shape ∧
        shape.render scope.settings = text := by
  obtain ⟨definition, known, kind⟩ := Schema.kind?_eq_some.mp object
  refine exists_congr fun shape => and_congr_left fun _ => ?_
  exact ⟨shapeOf_of_shape object,
    fun isShape => shape_eq_ok.mpr ⟨definition, known, .inr ⟨kind, isShape⟩⟩⟩

/-- An alias for an interface is written as one of the names for its object types. -/
theorem isWritten_of_interface {exported : ExportedAlias} {definition : TypeDefinition}
    (known : scope.schema.type? exported.type = some definition)
    (kind : definition.kind = .interface) :
    IsWritten scope exported
      (barred ((scope.schema.possibleTypes definition).map (implementorName exported.name))) :=
  ⟨_, shape_eq_ok.mpr ⟨definition, known, .inl ⟨kind, rfl⟩⟩, rfl⟩

/-- The alias for a field of an object type stands for the type that the field has without its
export. -/
theorem denotes_of_object (wellFormed : scope.schema.WellFormed) {own : ExportedAlias}
    {definition : TypeDefinition} {replaced : TypeExpr}
    (known : scope.schema.type? own.type = some definition) (kind : definition.kind = .object)
    (typed : scope.typeOf own.type own.field.selections = .ok replaced) :
    Denotes scope definition own.name [own] replaced := by
  have object := Schema.kind?_eq_some.mpr ⟨definition, known, kind⟩
  obtain ⟨shapes, rfl, each⟩ :=
    SelectionScope.exists_shapes_of_typeOf wellFormed (Schema.concreteTypes_of_object object) typed
  -- There is one object type, so the replaced type has one shape.
  obtain ⟨shape, rfl, isShape⟩ : ∃ shape, shapes = [shape] ∧
      scope.shapeOf own.type own.field.selections = .ok shape := by
    cases each with
    | cons isShape rest =>
      cases rest
      exact ⟨_, rfl, isShape⟩
  have written : IsWritten scope own ((TypeExpr.union [shape]).render scope.settings) :=
    (isWritten_iff_of_object object).mpr ⟨shape, isShape, (TypeExpr.render_singleton _ _).symm⟩
  exact {
    written := List.forall_mem_singleton.mpr ⟨_, written⟩
    object := fun _ => ⟨own, rfl, rfl, written⟩
    interface := fun interface => nomatch kind.symm.trans interface }

/-- The aliases for a field of an interface stand for the type that the field has without its
export. -/
theorem denotes_of_interface (wellFormed : scope.schema.WellFormed) {own : ExportedAlias}
    {definition : TypeDefinition} {implementors : List ExportedAlias} {replaced : TypeExpr}
    (known : scope.schema.type? own.type = some definition) (kind : definition.kind = .interface)
    (made : implementors = (scope.schema.possibleTypes definition).map fun concrete =>
      ⟨implementorName own.name concrete, concrete, own.parent, own.field⟩)
    (typed : scope.typeOf own.type own.field.selections = .ok replaced) :
    Denotes scope definition own.name (own :: implementors) replaced := by
  have concrete : scope.schema.concreteTypes own.type =
      .ok (scope.schema.possibleTypes definition) :=
    Schema.concreteTypes_eq_ok.mpr (.inr ⟨definition, known, by rw [kind]; rfl, rfl⟩)
  obtain ⟨shapes, rfl, each⟩ := SelectionScope.exists_shapes_of_typeOf wellFormed concrete typed
  -- An alias for an object type is written as a shape of the type.
  have isWritten : ∀ possible ∈ scope.schema.possibleTypes definition, ∀ text,
      IsWritten scope ⟨implementorName own.name possible, possible, own.parent, own.field⟩ text ↔
        ∃ shape, scope.shapeOf possible own.field.selections = .ok shape ∧
          shape.render scope.settings = text := fun possible inside text =>
    isWritten_iff_of_object
      (wellFormed.kind?_of_mem_possibleTypes (Schema.mem_of_type? known) inside)
  have names : implementors.map ExportedAlias.name =
      (scope.schema.possibleTypes definition).map (implementorName own.name) := by
    rw [made, List.map_map]
    rfl
  have interface := isWritten_of_interface known kind
  refine {
    written := ?_
    object := fun object => nomatch kind.symm.trans object
    interface := fun _ => ⟨own, implementors, rfl, rfl, ?_, names, names ▸ interface, ⟨shapes, rfl⟩,
      ?_, ?_⟩ }
  · rw [List.forall_mem_cons, made, List.forall_mem_map]
    refine ⟨⟨_, interface⟩, fun possible inside => ?_⟩
    obtain ⟨shape, -, isShape⟩ := Lists.exists_of_mem_left each (List.mem_eraseDups.mpr inside)
    exact ⟨_, (isWritten possible inside _).mpr ⟨shape, isShape, rfl⟩⟩
  · rw [made, List.map_map]
    exact List.map_id _
  · intro text
    rw [TypeExpr.mem_alternatives_union, made]
    simp only [List.mem_map, exists_exists_and_eq_and]
    constructor
    · rintro ⟨shape, inside, rfl⟩
      obtain ⟨possible, listed, isShape⟩ :=
        (SelectionScope.mem_shapes_of_typeOf wellFormed concrete typed).mp inside
      exact ⟨possible, listed, (isWritten possible listed _).mpr ⟨shape, isShape, rfl⟩⟩
    · rintro ⟨possible, listed, written⟩
      obtain ⟨shape, isShape, rfl⟩ := (isWritten possible listed _).mp written
      exact ⟨shape, (SelectionScope.mem_shapes_of_typeOf wellFormed concrete typed).mpr
        ⟨possible, listed, isShape⟩, rfl⟩
  · intro none
    rw [none] at each interface
    cases each
    exact ⟨interface, rfl⟩

/-- Where exports are collected, each exported field has aliases among them, which stand for the
type that the field has without its export. -/
theorem aliases_denote (wellFormed : scope.schema.WellFormed)
    (collects : collect scope.schema parent selections = .ok collected)
    (stands : Stands scope.schema parent selections static (.field field.head field.selections))
    (exported : field.head.isExported = true) :
    ∃ name type definition aliases, field.head.exportName = .ok name ∧
      fieldType? scope.schema static field.head.name = some type ∧
      scope.schema.type? type.base = some definition ∧
      (definition.kind = .object ∨ definition.kind = .interface) ∧
      AliasesOf scope.schema static field aliases ∧ aliases ⊆ collected ∧
      ∀ replaced, scope.typeOf type.base field.selections = .ok replaced →
        Denotes scope definition name aliases replaced := by
  obtain ⟨aliases, ⟨type, known, made⟩, contained⟩ :=
    (gathers_of_collect collects).aliases_subset stands exported
  obtain ⟨name, definition, isName, -, found, exportable, rfl⟩ := ofField_eq_ok made
  have kind := Schema.isExportable_iff.mp exportable
  refine ⟨name, type, definition, _, isName, known, found, kind, ⟨type, known, made⟩, contained,
    fun replaced typed => ?_⟩
  -- An object type has one alias, an interface one more for each of its object types.
  rcases kind with object | interface
  · rw [object, if_neg (by decide), List.map_nil]
    exact @denotes_of_object _ wellFormed ⟨name, type.base, static, field⟩ _ _ found object typed
  · rw [interface, if_pos (by decide)]
    exact @denotes_of_interface _ wellFormed ⟨name, type.base, static, field⟩ _ _ _ found interface
      rfl typed

/-! ### A favourite pet -/

/-- Pets with a fragment for their names. -/
def namedScope : SelectionScope where
  schema := Schema.pets
  settings := {}
  fragments := [⟨⟨"Named", "Pet", [], [.field ⟨none, "name", [], []⟩ []]⟩, false, none⟩]

/-- An exported pet with its name, and with the name of its friend if it is a cat. -/
def favouritePet : SelectedField :=
  let directive : Directive := ⟨"export", [⟨"exportName", .string "Favourite" false, 0⟩], 0⟩
  ⟨⟨none, "pet", [], [directive]⟩, [.spread "Named" [],
    .inlined (some "Cat") [] [.field ⟨none, "friend", [], []⟩ [.spread "Named" []]]]⟩

/-- The aliases of the favourite pet stand for one of a cat with its friend and a dog without. -/
theorem favouritePet_denoted :
    Schema.pets.WellFormed ∧ favouritePet.head.isExported = true ∧
    ∃ collected definition aliases replaced,
      collect Schema.pets "Query" [.field favouritePet.head favouritePet.selections] =
        .ok collected ∧
      Stands Schema.pets "Query" [.field favouritePet.head favouritePet.selections] "Query"
        (.field favouritePet.head favouritePet.selections) ∧
      aliases ⊆ collected ∧ Schema.pets.type? "Pet" = some definition ∧
      namedScope.typeOf "Pet" favouritePet.selections = .ok replaced ∧
      Denotes namedScope definition "Favourite" aliases replaced := by
  have exported : favouritePet.head.isExported = true := rfl
  obtain ⟨collected, collects⟩ : ∃ collected, collect namedScope.schema "Query"
      [.field favouritePet.head favouritePet.selections] = .ok collected :=
    exists_ok (by decide +kernel)
  obtain ⟨replaced, typed⟩ : ∃ replaced, namedScope.typeOf "Pet" favouritePet.selections =
      .ok replaced := exists_ok (by cbv)
  obtain ⟨name, type, definition, aliases, isName, known, found, -, -, contained, denotes⟩ :=
    aliases_denote Schema.wellFormed_pets collects (.here (List.mem_singleton_self _)) exported
  have pet : fieldType? Schema.pets "Query" "pet" = some (.named "Pet") := rfl
  have favourite : favouritePet.head.exportName = .ok "Favourite" := rfl
  -- The type and the name that are found are those that the field has.
  cases pet.symm.trans known
  cases favourite.symm.trans isName
  exact ⟨Schema.wellFormed_pets, exported, collected, definition, aliases, replaced, collects,
    .here (List.mem_singleton_self _), contained, found, typed, denotes replaced typed⟩

end ExportedAlias

end SelectionTypes

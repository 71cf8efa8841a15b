import Mathlib
import SelectionTypes.Proofs.Schema.WellFormed
import SelectionTypes.Proofs.Selection.Shape

/-!
# `SelectionTypes.Proofs.Selection.PropertyNames`: the names of the properties of an object type

The properties of an object type come from three sources. Fields of one response key are one
property of that name. If the first of them asks for the type, the property tells it, whatever its
key is. Where no field has the key `__typename`, a property of that name is put in front.

`NamesFields` says how the properties are named after that: no name comes twice, the keys come in
their order, and there is one property `__typename`, unless the settings leave it out.
`objectShape_named` says that this is so for any fields, however they are aliased and repeated.
-/

set_option autoImplicit false

namespace SelectionTypes.SelectionScope

open Outcome
open TypeScript (TypeExpr Property)

variable {scope : SelectionScope} {inner : Inner} {concrete : String} {fields : List SelectedField}
variable {own properties : List Property}

/-- The names of properties, in order. -/
def namesOf (properties : List Property) : List String :=
  properties.map fun property => property.1.name

/-- How the properties of an object type with the given fields are named. -/
structure NamesFields (scope : SelectionScope) (concrete : String) (fields : List SelectedField)
    (properties : List Property) : Prop where
  distinct : (namesOf properties).Nodup
  /-- The names are the response keys in order of first occurrence. The property that tells the type
  is put in front exactly if the settings ask for it and no field has its key. -/
  ordered : ∃ own, namesOf own = (fields.map SelectedField.key).eraseDups ∧
    properties =
      if scope.settings.skipTypename = false ∧ typenameField ∉ fields.map SelectedField.key then
        scope.typenameProperty typenameField concrete (!scope.settings.nonOptionalTypename) :: own
      else own
  /-- There is one property `__typename`, unless the settings leave it out. -/
  told : scope.settings.skipTypename = false → (namesOf properties).count typenameField = 1
  /-- A property whose first field asks for the type is required, and it is the literal of the
  object type. -/
  literal : ∀ property ∈ properties, ∀ first,
    fields.find? (fun field => field.key == property.1.name) = some first →
      first.head.name = typenameField →
        property.1.optional = false ∧ property.2 = .typename concrete

/-- The properties of the groups are named by the distinct keys. -/
theorem namesOf_groups
    (each : List.Forall₂ (fun group property => scope.property inner concrete group = .ok property)
      (SelectedField.groups fields) own) :
    namesOf own = (fields.map SelectedField.key).eraseDups :=
  (map_eq_of_mapM (fun _ _ => name_of_property) (mapM_eq_ok.mpr each)).trans
    (SelectedField.map_key_groups fields)

/-- A property is put in front if the settings ask for it and none of its name is there. -/
theorem withTypename_eq (own : List Property) :
    scope.withTypename concrete own =
      if scope.settings.skipTypename = false ∧ typenameField ∉ namesOf own then
        scope.typenameProperty typenameField concrete (!scope.settings.nonOptionalTypename) :: own
      else own := by
  unfold withTypename
  congr 1
  simp [namesOf]

/-- With the property that tells the type in front, or with one of the fields in its place, distinct
names stay distinct and `__typename` is one of them. -/
theorem namesOf_withTypename (distinct : (namesOf own).Nodup) :
    (namesOf (scope.withTypename concrete own)).Nodup ∧
      (scope.settings.skipTypename = false →
        typenameField ∈ namesOf (scope.withTypename concrete own)) := by
  rw [withTypename_eq]
  split
  · next inserted =>
    exact ⟨List.nodup_cons.mpr ⟨inserted.2, distinct⟩, fun _ => List.mem_cons_self⟩
  · next present => exact ⟨distinct, fun asked => by simpa [asked] using present⟩

/-- The property in front has a name of its own. -/
theorem mem_of_mem_withTypename {property : Property}
    (listed : property ∈ scope.withTypename concrete own)
    (named : property.1.name ∈ namesOf own) : property ∈ own := by
  rw [withTypename_eq] at listed
  split at listed
  · next inserted =>
    refine (List.mem_cons.mp listed).resolve_left ?_
    rintro rfl
    exact inserted.2 named
  · exact listed

/-- A property whose first field asks for the type tells it. -/
theorem literal_of_group {group : SelectedField × List SelectedField} {property : Property}
    (grouped : group ∈ SelectedField.groups fields)
    (succeeds : scope.property inner concrete group = .ok property) {first : SelectedField}
    (isFirst : fields.find? (fun field => field.key == property.1.name) = some first)
    (typename : first.head.name = typenameField) :
    property.1.optional = false ∧ property.2 = .typename concrete := by
  rw [name_of_property succeeds, SelectedField.find?_key_of_mem_groups grouped] at isFirst
  cases isFirst
  rw [property_of_typename typename] at succeeds
  cases succeeds
  exact ⟨rfl, rfl⟩

/-- Where an object type has a shape with given fields, its properties have proper names: each once,
in the order of the keys, and with one that tells the type unless the settings leave it out. -/
theorem objectShape_named {shape : TypeExpr}
    (succeeds : scope.objectShape inner concrete fields = .ok shape) :
    ∃ properties, shape = .object properties ∧ scope.NamesFields concrete fields properties := by
  obtain ⟨own, each, rfl⟩ := objectShape_eq_ok.mp succeeds
  have names := namesOf_groups each
  -- The properties of the groups are named by the keys, each once.
  have isKey : ∀ name, name ∈ namesOf own ↔ name ∈ fields.map SelectedField.key := by
    intro name
    rw [names, List.mem_eraseDups]
  obtain ⟨distinct, present⟩ := @namesOf_withTypename scope concrete own
    (names ▸ Lists.nodup_eraseDups (fields.map SelectedField.key))
  refine ⟨scope.withTypename concrete own, rfl, distinct, ⟨own, names, ?_⟩, fun asked => ?_, ?_⟩
  · rw [withTypename_eq]
    simp only [isKey]
  · exact List.count_eq_one_of_mem distinct (present asked)
  · intro property listed first isFirst typename
    -- A property under the key of a field is not the one that was put in front, so a group made it.
    have key : first.key = property.1.name := by simpa using List.find?_some isFirst
    have named : property.1.name ∈ namesOf own := (isKey _).mpr
      (key ▸ List.mem_map_of_mem (List.mem_of_find?_eq_some isFirst))
    obtain ⟨group, grouped, made⟩ :=
      Lists.exists_of_mem_right each (mem_of_mem_withTypename listed named)
    exact literal_of_group grouped made isFirst typename

/-- Pets without fragments. -/
def petsAlone : SelectionScope where
  schema := Schema.pets
  settings := {}
  fragments := []

/-- The name of a cat, its type under another key, and the name once more. -/
def catFields : List SelectedField :=
  let name : SelectedField := ⟨⟨none, "name", [], []⟩, []⟩
  [name, ⟨⟨some "kind", "__typename", [], []⟩, []⟩, name]

/-- A cat tells its type twice: in front, and under the key that is given. -/
theorem objectShape_named_cat :
    ∃ properties, petsAlone.NamesFields "Cat" catFields properties ∧
      namesOf properties = ["__typename", "name", "kind"] := by
  obtain ⟨shape, succeeds⟩ : ∃ shape, petsAlone.objectShape
      (fun _ _ => .error .endlessNesting) "Cat" catFields = .ok shape :=
    exists_ok (by decide +kernel)
  obtain ⟨properties, -, named⟩ := objectShape_named succeeds
  refine ⟨properties, named, ?_⟩
  obtain ⟨own, names, inFront⟩ := named.ordered
  rw [if_pos (by decide)] at inFront
  rw [inFront]
  exact congrArg (typenameField :: ·) (names.trans (by decide))

end SelectionTypes.SelectionScope

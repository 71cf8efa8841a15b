import SelectionTypes.Schema.Build

/-!
# `SelectionTypes.Schema.Closure`: the types that types refer to

A type with fields refers to the types of its fields. `Schema.closure` gives the fielded types that
can be reached from seeds in one step or more, and `Schema.requiredTypes` the seeds as well. The
search goes in rounds. A round adds at least one type of the schema, so the rounds end.

`Document.keepTypes` leaves the definitions of fielded types with names in a list.
-/

set_option autoImplicit false

namespace SelectionTypes

namespace Schema

variable (schema : Schema)

/-- The fielded types that the fields of a type have. -/
def fieldReferences (name : String) : List String :=
  match schema.type? name with
  | some type => (type.fieldTypes.map fun field => field.2.base).filter schema.isFielded
  | none => []

/-- The types that a frontier refers to and that are not found yet, each once. -/
def newReferences (found frontier : List String) : List String :=
  ((frontier.flatMap schema.fieldReferences).eraseDups).filter fun name => !found.contains name

/-- A name with fields is that of a type of the schema. -/
theorem exists_type_of_isFielded {name : String} (fielded : schema.isFielded name) :
    ∃ type ∈ schema.types, type.name = name := by
  unfold isFielded kind? type? at fielded
  cases found : schema.types.find? fun type => type.name == name with
  | none => simp [found] at fielded
  | some type =>
    exact ⟨type, List.mem_of_find?_eq_some found, by simpa using List.find?_some found⟩

/-- New references are names with fields that were not found before. -/
theorem isFielded_of_mem_newReferences {found frontier : List String} {name : String}
    (inside : name ∈ schema.newReferences found frontier) :
    schema.isFielded name ∧ name ∉ found := by
  simp only [newReferences, List.mem_filter, List.mem_eraseDups, List.mem_flatMap] at inside
  obtain ⟨⟨parent, _, reference⟩, fresh⟩ := inside
  refine ⟨?_, by simpa using fresh⟩
  unfold fieldReferences at reference
  split at reference
  · exact (List.mem_filter.1 reference).2
  · cases reference

/-- The number of types that are not found yet. -/
def missing (found : List String) : Nat :=
  (schema.types.filter fun type => !found.contains type.name).length

/-- Fewer types are missing as soon as one of them is added, which is why the closure ends. -/
theorem missing_append_lt {found added : List String} {type : TypeDefinition}
    (inside : type ∈ schema.types) (fresh : type.name ∉ found) (isAdded : type.name ∈ added) :
    schema.missing (found ++ added) < schema.missing found := by
  unfold missing
  have split : (schema.types.filter fun type => !(found ++ added).contains type.name)
      = (schema.types.filter fun type => !found.contains type.name).filter
          fun type => !added.contains type.name := by
    rw [List.filter_filter]
    congr 1
    funext type
    by_cases h₁ : type.name ∈ found <;> by_cases h₂ : type.name ∈ added <;>
      simp [h₁, h₂]
  rw [split]
  refine List.length_filter_lt_length_iff_exists.2 ⟨type, ?_, ?_⟩
  · exact List.mem_filter.2 ⟨inside, by simpa using fresh⟩
  · simpa using isAdded

/-- The types found, with those that can be reached from the frontier. -/
def closureFrom (found frontier : List String) : List String :=
  match _added : schema.newReferences found frontier with
  | [] => found
  | name :: names => closureFrom (found ++ name :: names) (name :: names)
termination_by schema.missing found
decreasing_by
  -- What a round adds was missing before, so fewer types are missing behind it.
  have inside : name ∈ schema.newReferences found frontier := by simp [_added]
  obtain ⟨fielded, fresh⟩ := schema.isFielded_of_mem_newReferences inside
  obtain ⟨type, known, rfl⟩ := schema.exists_type_of_isFielded fielded
  exact schema.missing_append_lt known fresh (by simp)

/-- The fielded types that can be reached from seeds in one step or more. -/
def closure (seeds : List String) : List String :=
  schema.closureFrom [] seeds

/-- The seeds and what can be reached from them. -/
def requiredTypes (seeds : List String) : List String :=
  (seeds ++ schema.closure seeds).eraseDups

end Schema

namespace Definition

/-- The type definition of a fielded type, if the definition is one. -/
def fieldedType? : Definition → Option TypeDefinition
  | .type found => if found.kind.isFielded then some found else none
  | _ => none

end Definition

namespace Document

/-- The definitions of fielded types with names in a list, in order. -/
def keepTypes (document : Document) (names : List String) : List TypeDefinition :=
  (document.definitions.filterMap Definition.fieldedType?).filter fun type =>
    names.contains type.name

end Document

end SelectionTypes

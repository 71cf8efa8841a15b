import Mathlib.Data.List.Nodup
import SelectionTypes.Selection.Distribution

/-!
# `SelectionTypes.Proofs.Schema.WellFormed`: type conditions in a well-formed schema

`Schema.WellFormed` holds of every schema that is built (`Document.wellFormed_of_toSchema`): type
names are distinct, and the members of a union are object types. In such a schema the two ways to
ask which object types belong to an abstract type agree:

* `isSubType_iff`: an object type is a sub-type of an abstract type exactly if it is one of its
  possible types.
* `meets_iff_admits`: the test of a type condition is the rule `Schema.Admits` of the query
  language: an object type meets its own name, and the name of an abstract type that it is a
  possible type of.
* `narrow_eq`: narrowing is a filter, unless a type has to be tested against an unknown name.
-/

set_option autoImplicit false

namespace SelectionTypes.Schema

/-- What the parts of a schema say about each other, apart from the rules of the type system. -/
structure WellFormed (schema : Schema) : Prop where
  /-- No two types have one name. -/
  distinctNames : (schema.types.map TypeDefinition.name).Nodup
  /-- The members of a union are object types of the schema. -/
  membersAreObjects : ∀ type ∈ schema.types, ∀ members, type.body = .union members →
    ∀ member ∈ members, schema.kind? member = some .object

/-- Whether a value of an object type takes part in selections on a type condition: the condition
is the type itself, or an abstract type that it is a possible type of. -/
def Admits (schema : Schema) (condition concrete : String) : Prop :=
  concrete = condition ∨ ∃ type, schema.type? condition = some type ∧ type.kind.isAbstract ∧
    concrete ∈ schema.possibleTypes type

/-- Whether a type meets a condition, where an unknown condition is met by no other type. -/
def meets (schema : Schema) (condition concrete : String) : Bool :=
  concrete == condition
    || (schema.type? condition).any fun type => schema.isSubType type concrete

/-- Whether it can be told if a type meets a condition. -/
def tells (schema : Schema) (condition concrete : String) : Bool :=
  concrete == condition || (schema.type? condition).isSome

variable {schema : Schema}

/-! ### Types by name -/

/-- A type that is found has the name it is looked up by. -/
theorem name_of_type? {name : String} {type : TypeDefinition}
    (found : schema.type? name = some type) : type.name = name := by
  simpa using List.find?_some found

/-- The type of a name is one of the types of the schema. -/
theorem mem_of_type? {name : String} {type : TypeDefinition}
    (found : schema.type? name = some type) : type ∈ schema.types :=
  List.mem_of_find?_eq_some found

/-- With distinct names, looking a type up by its own name finds it. -/
theorem WellFormed.type?_name (wellFormed : schema.WellFormed) {type : TypeDefinition}
    (inside : type ∈ schema.types) : schema.type? type.name = some type := by
  obtain ⟨found, lookup⟩ : ∃ found, schema.type? type.name = some found :=
    Option.isSome_iff_exists.mp
      (List.find?_isSome.mpr ⟨type, inside, beq_self_eq_true type.name⟩)
  rw [lookup, List.inj_on_of_nodup_map wellFormed.distinctNames (mem_of_type? lookup) inside
    (name_of_type? lookup)]

/-- The kind of a name is the kind of the type that is found for it. -/
theorem kind?_eq_some {name : String} {kind : TypeKind} :
    schema.kind? name = some kind ↔ ∃ type, schema.type? name = some type ∧ type.kind = kind :=
  Option.map_eq_some_iff

/-- An object type lists the interfaces and fields of its body. -/
theorem body_of_kind_object {type : TypeDefinition} (kind : type.kind = .object) :
    type.body = .object type.interfaces type.fields := by
  unfold TypeDefinition.kind at kind
  unfold TypeDefinition.interfaces TypeDefinition.fields
  cases body : type.body <;> simp_all

/-! ### Possible types -/

/-- The implementors of an interface are the object types that list it. -/
theorem mem_implementors {interface name : String} :
    name ∈ schema.implementors interface ↔
      ∃ type ∈ schema.types, type.kind = .object ∧ interface ∈ type.interfaces ∧
        type.name = name := by
  simp only [implementors, List.mem_flatMap]
  refine exists_congr fun type => and_congr_right fun _ => ?_
  cases body : type.body <;>
    simp [TypeDefinition.kind, TypeDefinition.interfaces, body, and_comm, @eq_comm _ name]

/-- Each possible type of an abstract type is an object type. -/
theorem WellFormed.kind?_of_mem_possibleTypes (wellFormed : schema.WellFormed)
    {type : TypeDefinition} (inside : type ∈ schema.types) {name : String}
    (possible : name ∈ schema.possibleTypes type) : schema.kind? name = some .object := by
  unfold possibleTypes at possible
  -- The members of a union are objects by the rules, the implementors of an interface by their
  -- search.
  cases body : type.body with
  | union members =>
    rw [body] at possible
    exact wellFormed.membersAreObjects type inside members body name possible
  | interface interfaces fields =>
    rw [body] at possible
    obtain ⟨object, member, kind, -, rfl⟩ := mem_implementors.mp possible
    exact kind?_eq_some.mpr ⟨object, wellFormed.type?_name member, kind⟩
  | scalar => simp [body] at possible
  | object interfaces fields => simp [body] at possible
  | enum values => simp [body] at possible
  | inputObject fields => simp [body] at possible

/-- For an object type, being a sub-type of an abstract type and being one of its possible types
are the same. -/
theorem WellFormed.isSubType_iff (wellFormed : schema.WellFormed) {abstract : TypeDefinition}
    {name : String} (object : schema.kind? name = some .object) :
    schema.isSubType abstract name = true ↔
      abstract.kind.isAbstract ∧ name ∈ schema.possibleTypes abstract := by
  obtain ⟨type, found, kind⟩ := kind?_eq_some.mp object
  unfold isSubType possibleTypes
  cases body : abstract.body with
  | interface interfaces fields =>
    have abstractKind : abstract.kind.isAbstract = true := by
      simp [TypeDefinition.kind, body, TypeKind.isAbstract]
    simp only [found, abstractKind, mem_implementors, List.contains_iff_mem, true_and]
    constructor
    · intro lists
      exact ⟨type, mem_of_type? found, kind, lists, name_of_type? found⟩
    · rintro ⟨other, inside, -, lists, named⟩
      -- Names are distinct, so the implementor of that name is the type itself.
      have same : some other = some type := by
        rw [← wellFormed.type?_name inside, named, found]
      cases same
      exact lists
  | union members => simp [TypeDefinition.kind, body, TypeKind.isAbstract]
  | scalar => simp [TypeDefinition.kind, body, TypeKind.isAbstract]
  | object interfaces fields => simp [TypeDefinition.kind, body, TypeKind.isAbstract]
  | enum values => simp [TypeDefinition.kind, body, TypeKind.isAbstract]
  | inputObject fields => simp [TypeDefinition.kind, body, TypeKind.isAbstract]

/-! ### Concrete types -/

/-- An object type is the only type that its values have. -/
theorem concreteTypes_of_object {name : String} (object : schema.kind? name = some .object) :
    schema.concreteTypes name = .ok [name] := by
  obtain ⟨type, found, kind⟩ := kind?_eq_some.mp object
  simp [concreteTypes, found, kind]

/-- A type with values is an object type or an abstract type. -/
theorem concreteTypes_eq_ok {name : String} {types : List String} :
    schema.concreteTypes name = .ok types ↔
      (schema.kind? name = some .object ∧ types = [name]) ∨
      ∃ type, schema.type? name = some type ∧ type.kind.isAbstract ∧
        types = schema.possibleTypes type := by
  unfold concreteTypes kind?
  cases found : schema.type? name with
  | none => simp
  | some type =>
    simp only [Option.map_some, Option.some.injEq, exists_eq_left']
    -- The kind is asked twice, first for an object and then for an abstract type.
    by_cases object : type.kind = .object
    · simp only [object, TypeKind.isAbstract, beq_self_eq_true, if_true, Except.ok.injEq, true_and,
        Bool.false_eq_true, false_and, or_false]
      exact eq_comm
    · by_cases abstract : type.kind.isAbstract
      · simp only [object, abstract, beq_iff_eq, if_false, if_true, Except.ok.injEq, true_and,
          false_and, false_or]
        exact eq_comm
      · simp [object, abstract]

/-- All concrete types are object types. -/
theorem WellFormed.kind?_of_mem_concreteTypes (wellFormed : schema.WellFormed) {parent : String}
    {types : List String} (concrete : schema.concreteTypes parent = .ok types) {name : String}
    (inside : name ∈ types) : schema.kind? name = some .object := by
  rcases concreteTypes_eq_ok.mp concrete with ⟨object, rfl⟩ | ⟨type, found, -, rfl⟩
  · rw [List.mem_singleton.mp inside]
    exact object
  · exact wellFormed.kind?_of_mem_possibleTypes (mem_of_type? found) inside

/-- The concrete types of a name are the object types that meet it as a condition. -/
theorem admits_of_mem_concreteTypes {parent : String} {types : List String}
    (concrete : schema.concreteTypes parent = .ok types) {name : String} (inside : name ∈ types) :
    schema.Admits parent name := by
  rcases concreteTypes_eq_ok.mp concrete with ⟨-, rfl⟩ | ⟨type, found, abstract, rfl⟩
  · exact .inl (List.mem_singleton.mp inside)
  · exact .inr ⟨type, found, abstract, inside⟩

/-! ### Type conditions -/

/-- A condition is tested by `meets`, where that can be told. -/
theorem meetsCondition_eq (concrete condition : String) :
    schema.meetsCondition concrete condition =
      if schema.tells condition concrete then .ok (schema.meets condition concrete)
      else .error (.unknownType condition) := by
  unfold meetsCondition tells meets
  by_cases same : concrete = condition
  · simp [same]
  · cases found : schema.type? condition <;> simp [same]

/-- The accumulator of a filter in `Except` whose test has the form of `meetsCondition_eq`. -/
private theorem filterAuxM_meetsCondition (condition : String) (applicable found : List String) :
    List.filterAuxM (fun concrete => schema.meetsCondition concrete condition) applicable found =
      if applicable.all (schema.tells condition) then
        .ok ((applicable.filter (schema.meets condition)).reverse ++ found)
      else .error (.unknownType condition) := by
  induction applicable generalizing found with
  | nil => simp [List.filterAuxM, pure, Except.pure]
  | cons concrete rest ih =>
    rw [List.filterAuxM, meetsCondition_eq]
    by_cases told : schema.tells condition concrete
    · by_cases met : schema.meets condition concrete <;>
        simp [told, met, ih, bind, Except.bind]
    · simp [told, bind, Except.bind]

/-- Narrowing keeps the types that meet the condition. It fails exactly if one of the types cannot
be tested. -/
theorem narrow_eq (applicable : List String) (condition : String) :
    schema.narrow applicable condition =
      if applicable.all (schema.tells condition) then
        .ok (applicable.filter (schema.meets condition))
      else .error (.unknownType condition) := by
  unfold narrow List.filterM
  rw [filterAuxM_meetsCondition]
  by_cases told : applicable.all (schema.tells condition) <;>
    simp [told, bind, Except.bind, pure, Except.pure]

/-- Where narrowing succeeds, it is the filter by the condition. -/
theorem narrow_eq_ok {applicable narrowed : List String} {condition : String} :
    schema.narrow applicable condition = .ok narrowed ↔
      (∀ concrete ∈ applicable, schema.tells condition concrete) ∧
        narrowed = applicable.filter (schema.meets condition) := by
  rw [narrow_eq]
  by_cases told : applicable.all (schema.tells condition)
  · simp only [told, if_true, Except.ok.injEq]
    rw [List.all_eq_true] at told
    exact ⟨fun same => ⟨told, same.symm⟩, fun both => both.2.symm⟩
  · simp only [told, if_false, reduceCtorEq, false_iff]
    rw [List.all_eq_true] at told
    exact fun both => told both.1

/-- For object types the test of a condition is the rule of the query language. -/
theorem WellFormed.meets_iff_admits (wellFormed : schema.WellFormed) {condition concrete : String}
    (object : schema.kind? concrete = some .object) :
    schema.meets condition concrete = true ↔ schema.Admits condition concrete := by
  unfold meets Admits
  rw [Bool.or_eq_true, beq_iff_eq, Option.any_eq_true]
  refine or_congr_right (exists_congr fun type => and_congr_right fun _ => ?_)
  exact wellFormed.isSubType_iff object

/-! ### A small schema -/

/-- A schema of pets with friends: an interface and two object types that list it. -/
def pets : Schema where
  description := none
  roots := [(.query, "Query")]
  types :=
    let text : FieldDefinition := ⟨none, "name", [], .named "String", []⟩
    let friend : FieldDefinition := ⟨none, "friend", [], .named "Pet", []⟩
    [⟨none, "String", [], .scalar⟩,
      ⟨none, "Query", [], .object [] [⟨none, "pet", [], .named "Pet", []⟩]⟩,
      ⟨none, "Pet", [], .interface [] [text, friend]⟩,
      ⟨none, "Cat", [], .object ["Pet"] [text, friend]⟩,
      ⟨none, "Dog", [], .object ["Pet"] [text, friend]⟩]
  directives := []

/-- The schema of pets is well-formed. -/
theorem wellFormed_pets : pets.WellFormed where
  distinctNames := by decide
  membersAreObjects := by
    intro type inside members body
    simp only [pets, List.mem_cons, List.not_mem_nil, or_false] at inside
    rcases inside with rfl | rfl | rfl | rfl | rfl <;> cases body

end SelectionTypes.Schema

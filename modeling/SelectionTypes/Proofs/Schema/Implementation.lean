import SelectionTypes.Export.Alias
import SelectionTypes.Proofs.Schema.WellFormed
import SelectionTypes.Schema.TypeRules

/-!
# `SelectionTypes.Proofs.Schema.Implementation`: fields of types and of their interfaces

A schema without `Schema.typeProblems` keeps the rules of the type system. Two of them say how an
object type relates to an interface that it lists: it lists the interfaces of the interface too,
and each field of the interface is one of its own fields, with a type that is at least as narrow.

`WellFormed.covariant` is what follows for selections. A field is read on an object type and was
written on a type that admits it. Then the type of the field on the object type is a leaf if the
written one is, and its values belong to types that the written one admits.
-/

set_option autoImplicit false

namespace SelectionTypes.Schema

variable {schema : Schema}

/-! ### Rules that hold -/

/-- A fold only adds problems if its steps do. -/
private theorem problems_of_foldl {α : Type} {step : CycleSearch → α → CycleSearch}
    (adds : ∀ search item, (step search item).problems = [] → search.problems = [])
    {items : List α} {search : CycleSearch} (none : (items.foldl step search).problems = []) :
    search.problems = [] := by
  induction items generalizing search with
  | nil => exact none
  | cons item rest ih => exact adds search item (ih none)

/-- A search for cycles only adds problems. -/
theorem problems_of_searchCycles {depth : Nat} {path : List (String × String)}
    {search : CycleSearch} {type : String}
    (none : (schema.searchCycles depth path search type).problems = []) :
    search.problems = [] := by
  -- On the depth, since the search for one field goes on in the type of the field.
  induction depth generalizing path search type with
  | zero => exact none
  | succ depth ih =>
    rw [searchCycles] at none
    split at none
    · exact none
    · have start := problems_of_foldl (fun search step after => ?_) none
      · exact start
      · simp only at after
        split at after
        · exact ih after
        · simp at after

/-- The rules inside a type come behind those found before it. -/
private theorem problems_of_addTypeProblems {search : CycleSearch} {type : TypeDefinition}
    (none : (schema.addTypeProblems search type).problems = []) :
    search.problems = [] ∧ schema.bodyProblems type = [] := by
  have added : search.problems ++ (nameProblems type ++ schema.bodyProblems type) = [] := by
    unfold addTypeProblems at none
    simp only at none
    -- Only the types of input objects are searched for cycles.
    split at none
    · exact problems_of_searchCycles none
    · exact none
  rw [List.append_eq_nil_iff, List.append_eq_nil_iff] at added
  exact ⟨added.1, added.2.2⟩

/-- A walk over types that leaves no problem has found none inside any of them. -/
private theorem bodyProblems_of_foldl {types : List TypeDefinition} {search : CycleSearch}
    (none : (types.foldl schema.addTypeProblems search).problems = []) :
    search.problems = [] ∧ ∀ type ∈ types, schema.bodyProblems type = [] := by
  induction types generalizing search with
  | nil => exact ⟨none, List.forall_mem_nil _⟩
  | cons first rest ih =>
    obtain ⟨after, others⟩ := ih none
    obtain ⟨before, own⟩ := problems_of_addTypeProblems after
    exact ⟨before, List.forall_mem_cons.mpr ⟨own, others⟩⟩

/-- Where no rule is broken, none is broken inside any type. -/
theorem bodyProblems_eq_nil (valid : schema.typeProblems = []) {type : TypeDefinition}
    (inside : type ∈ schema.types) : schema.bodyProblems type = [] :=
  (bodyProblems_of_foldl valid).2 type inside

/-- A name that breaks no rule is not one of introspection. -/
private theorem isIntrospectionName_of_ofName {name : String}
    (rule : TypeProblem.ofName name = []) : isIntrospectionName name = false := by
  unfold TypeProblem.ofName at rule
  by_contra reserved
  rw [if_pos (by simpa using reserved)] at rule
  cases rule

/-- Fields that break no rule have no names of introspection. -/
private theorem isIntrospectionName_of_fieldProblems {owner : String}
    {fields : List FieldDefinition} (rules : fields.flatMap (schema.fieldProblems owner) = [])
    {field : String} {type : TypeRef}
    (listed : (field, type) ∈ fields.map fun field => (field.name, field.type)) :
    isIntrospectionName field = false := by
  obtain ⟨own, isOwn, same⟩ := List.mem_map.mp listed
  cases same
  have rule := List.flatMap_eq_nil_iff.mp rules own isOwn
  exact isIntrospectionName_of_ofName (List.append_eq_nil_iff.mp rule).1

/-- Fields of types have no names of introspection. -/
theorem isIntrospectionName_eq_false (valid : schema.typeProblems = []) {parent field : String}
    {type : TypeRef} (known : ExportedAlias.fieldType? schema parent field = some type) :
    isIntrospectionName field = false := by
  -- The three kinds of types with fields have the rule in different places.
  obtain ⟨definition, found, isField⟩ := Option.bind_eq_some_iff.mp known
  have rules := bodyProblems_eq_nil valid (mem_of_type? found)
  obtain ⟨before, after, fields, -⟩ := List.lookup_eq_some_iff.mp isField
  have listed : (field, type) ∈ definition.fieldTypes := by simp [fields]
  unfold TypeDefinition.fieldTypes at listed
  unfold bodyProblems at rules
  cases body : definition.body with
  | object interfaces fields =>
    rw [body] at rules listed
    simp only [List.append_eq_nil_iff] at rules
    exact isIntrospectionName_of_fieldProblems rules.1.2 listed
  | interface interfaces fields =>
    rw [body] at rules listed
    simp only [List.append_eq_nil_iff] at rules
    exact isIntrospectionName_of_fieldProblems rules.1.2 listed
  | inputObject fields =>
    rw [body] at rules listed
    simp only [List.append_eq_nil_iff] at rules
    obtain ⟨own, isOwn, same⟩ := List.mem_map.mp listed
    cases same
    have rule := List.flatMap_eq_nil_iff.mp rules.2 own isOwn
    exact isIntrospectionName_of_ofName
      (List.append_eq_nil_iff.mp (List.append_eq_nil_iff.mp rule).1).1
  | scalar => simp [body] at listed
  | union members => simp [body] at listed
  | enum values => simp [body] at listed

/-- Where no rule of interfaces is broken, none is broken for a listed interface. -/
theorem interface_rules {type : TypeDefinition} {seen names : List String}
    (none : schema.interfaceProblems type seen names = []) {name : String} (listed : name ∈ names)
    {interface : TypeDefinition} (found : schema.type? name = some interface) :
    ancestorProblems type interface = [] ∧ schema.implementationProblems type interface = [] := by
  induction names generalizing seen with
  | nil => cases listed
  | cons first rest ih =>
    rw [interfaceProblems] at none
    simp only at none
    -- A name that is met twice is a problem by itself, so it is not there.
    split at none
    · simp at none
    · rw [List.append_eq_nil_iff, List.append_eq_nil_iff] at none
      rcases List.mem_cons.mp listed with rfl | listed
      · have own := none.1.2
        rw [found] at own
        exact List.append_eq_nil_iff.mp own
      · exact ih none.2 listed

/-- An object type that lists an interface keeps the rules for it. -/
theorem listed_rules (valid : schema.typeProblems = []) {type interface : TypeDefinition}
    (inside : type ∈ schema.types) (object : type.kind = .object) {name : String}
    (listed : name ∈ type.interfaces) (found : schema.type? name = some interface) :
    ancestorProblems type interface = [] ∧ schema.implementationProblems type interface = [] := by
  have none := bodyProblems_eq_nil valid inside
  unfold bodyProblems at none
  rw [body_of_kind_object object] at none
  simp only [List.append_eq_nil_iff] at none
  exact interface_rules none.2 listed found

/-- What an interface of an object type lists, the object type lists. -/
theorem mem_interfaces_of_ancestor {type interface : TypeDefinition}
    (rules : ancestorProblems type interface = []) {ancestor : String}
    (listed : ancestor ∈ interface.interfaces) : ancestor ∈ type.interfaces := by
  unfold ancestorProblems at rules
  rw [List.map_eq_nil_iff, List.filter_eq_nil_iff] at rules
  simpa using rules ancestor listed

/-- A field of an interface is a field of the object types that list it, with a type that is at
least as narrow. -/
theorem narrower_of_implementation {type interface : TypeDefinition}
    (rules : schema.implementationProblems type interface = []) {expected : FieldDefinition}
    (inside : expected ∈ interface.fields) :
    ∃ found, type.fields.find? (fun field => field.name == expected.name) = some found ∧
      schema.isNarrower found.type expected.type = true := by
  unfold implementationProblems at rules
  have own := List.flatMap_eq_nil_iff.mp rules expected inside
  -- Without a field of that name, or with a wider type, a rule would be broken.
  cases lookup : type.fields.find? fun field => field.name == expected.name with
  | none => simp [lookup] at own
  | some found =>
    refine ⟨found, rfl, ?_⟩
    rw [lookup] at own
    simp only [List.append_eq_nil_iff] at own
    by_contra wide
    rw [if_neg wide] at own
    cases own.1

/-! ### Types of fields -/

/-- The type of a field is the type of the first field of that name. -/
theorem lookup_fields (fields : List FieldDefinition) (name : String) :
    (fields.map fun field => (field.name, field.type)).lookup name =
      (fields.find? fun field => field.name == name).map FieldDefinition.type := by
  induction fields with
  | nil => rfl
  | cons field rest ih =>
    rw [List.map_cons, List.lookup_cons, List.find?_cons, ih]
    by_cases same : field.name = name
    · simp [same]
    · rw [show (name == field.name) = false by simpa using Ne.symm same,
        show (field.name == name) = false by simpa using same]

/-- The base of a narrower type is the base itself or a sub-type of it. -/
theorem base_of_isNarrower {found expected : TypeRef}
    (narrower : schema.isNarrower found expected = true) :
    found.base = expected.base ∨ ∃ type, schema.type? expected.base = some type ∧
      schema.isSubType type found.base = true := by
  fun_induction schema.isNarrower found expected with
  | case1 found expected ih => exact ih narrower
  | case2 => cases narrower
  | case3 found expected _ ih => exact ih narrower
  | case4 found expected ih => exact ih narrower
  | case5 => cases narrower
  | case6 => cases narrower
  | case7 found expected =>
    rw [Bool.or_eq_true, beq_iff_eq, Option.any_eq_true] at narrower
    exact narrower

/-- The fields of a type that admits an object type are fields of the object type, with types that
are at least as narrow. -/
theorem WellFormed.exists_narrower (wellFormed : schema.WellFormed)
    (valid : schema.typeProblems = []) {static concrete field : String}
    (object : schema.kind? concrete = some .object) (admits : schema.Admits static concrete)
    {expected : TypeRef}
    (onStatic : ExportedAlias.fieldType? schema static field = some expected) :
    ∃ found, ExportedAlias.fieldType? schema concrete field = some found ∧
      (found = expected ∨ schema.isNarrower found expected = true) := by
  rcases admits with rfl | ⟨abstract, isStatic, isAbstract, possible⟩
  · exact ⟨expected, onStatic, .inl rfl⟩
  · obtain ⟨type, isConcrete, kind⟩ := kind?_eq_some.mp object
    simp only [ExportedAlias.fieldType?, isStatic, isConcrete, Option.bind_some,
      TypeDefinition.fieldType?, TypeDefinition.fieldTypes] at onStatic ⊢
    cases body : abstract.body with
    | interface interfaces fields =>
      -- The object type lists the interface, so the rules for interfaces apply.
      unfold possibleTypes at possible
      rw [body] at possible onStatic
      obtain ⟨other, inside, -, lists, named⟩ := mem_implementors.mp possible
      have same : some other = some type := by
        rw [← wellFormed.type?_name inside, named, isConcrete]
      cases same
      rw [name_of_type? isStatic] at lists
      have rules := (listed_rules valid inside kind lists isStatic).2
      rw [lookup_fields, Option.map_eq_some_iff] at onStatic
      obtain ⟨field', isField, rfl⟩ := onStatic
      have ownField : field' ∈ abstract.fields := by
        unfold TypeDefinition.fields
        rw [body]
        exact List.mem_of_find?_eq_some isField
      obtain ⟨own, isOwn, narrower⟩ := narrower_of_implementation rules ownField
      have name : field'.name = field := by simpa using List.find?_some isField
      -- The first field of that name is the one that the rules are about.
      rw [body_of_kind_object kind]
      simp only
      rw [lookup_fields, ← name, isOwn]
      exact ⟨own.type, rfl, .inr narrower⟩
    | union members => simp [body] at onStatic
    | scalar => simp [body] at onStatic
    | object interfaces fields =>
      simp [TypeDefinition.kind, body, TypeKind.isAbstract] at isAbstract
    | enum values => simp [body] at onStatic
    | inputObject fields =>
      simp [TypeDefinition.kind, body, TypeKind.isAbstract] at isAbstract

/-- On an object type that a type admits, the type of a field is the written one or a narrower
one. -/
theorem WellFormed.isNarrower_of_admits (wellFormed : schema.WellFormed)
    (valid : schema.typeProblems = []) {static concrete field : String}
    (object : schema.kind? concrete = some .object) (admits : schema.Admits static concrete)
    {expected found : TypeRef}
    (onStatic : ExportedAlias.fieldType? schema static field = some expected)
    (onConcrete : ExportedAlias.fieldType? schema concrete field = some found) :
    found = expected ∨ schema.isNarrower found expected = true := by
  obtain ⟨_, isFound, narrower⟩ := wellFormed.exists_narrower valid object admits onStatic
  cases onConcrete.symm.trans isFound
  exact narrower

/-- The types of the values of a sub-type are admitted by the type. -/
theorem WellFormed.admits_of_isSubType (wellFormed : schema.WellFormed)
    (valid : schema.typeProblems = []) {base name : String} {type : TypeDefinition}
    (isBase : schema.type? base = some type) (sub : schema.isSubType type name = true)
    {types : List String} (concrete : schema.concreteTypes name = .ok types) {value : String}
    (inside : value ∈ types) : schema.Admits base value := by
  rcases concreteTypes_eq_ok.mp concrete with ⟨object, rfl⟩ | ⟨middle, isMiddle, abstract, rfl⟩
  · rw [List.mem_singleton.mp inside]
    exact .inr ⟨type, isBase, (wellFormed.isSubType_iff object).mp sub⟩
  · -- An abstract sub-type is an interface that lists the type, so its implementors list it too.
    have object := wellFormed.kind?_of_mem_possibleTypes (mem_of_type? isMiddle) inside
    unfold isSubType at sub
    cases body : type.body with
    | interface interfaces fields =>
      rw [body, isMiddle] at sub
      simp only [List.contains_iff_mem] at sub
      cases middleBody : middle.body with
      | interface interfaces' fields' =>
        unfold possibleTypes at inside
        rw [middleBody] at inside
        obtain ⟨implementor, member, kind, lists, rfl⟩ := mem_implementors.mp inside
        rw [name_of_type? isMiddle] at lists
        have rules := (listed_rules valid member kind lists isMiddle).1
        refine .inr ⟨type, isBase, by simp [TypeDefinition.kind, body, TypeKind.isAbstract], ?_⟩
        unfold possibleTypes
        rw [body]
        exact mem_implementors.mpr
          ⟨implementor, member, kind, mem_interfaces_of_ancestor rules sub, rfl⟩
      | union members => simp [TypeDefinition.interfaces, middleBody] at sub
      | scalar => simp [TypeDefinition.interfaces, middleBody] at sub
      | object interfaces' fields' =>
        simp [TypeDefinition.kind, middleBody, TypeKind.isAbstract] at abstract
      | enum values => simp [TypeDefinition.interfaces, middleBody] at sub
      | inputObject fields' => simp [TypeDefinition.interfaces, middleBody] at sub
    | union members =>
      -- The members of a union are object types, and the sub-type is not one.
      rw [body] at sub
      have member := wellFormed.membersAreObjects type (mem_of_type? isBase) members body name
        (by simpa using sub)
      obtain ⟨other, isOther, kind⟩ := kind?_eq_some.mp member
      cases isOther.symm.trans isMiddle
      rw [kind] at abstract
      cases abstract
    | scalar => simp [body] at sub
    | object interfaces fields => simp [body] at sub
    | enum values => simp [body] at sub
    | inputObject fields => simp [body] at sub

/-- A field that is written on a type and read on an object type that the type admits: the base of
its type is the written one or a sub-type of it. -/
theorem WellFormed.base_of_admits (wellFormed : schema.WellFormed)
    (valid : schema.typeProblems = [])
    {static concrete field : String} (object : schema.kind? concrete = some .object)
    (admits : schema.Admits static concrete) {expected found : TypeRef}
    (onStatic : ExportedAlias.fieldType? schema static field = some expected)
    (onConcrete : ExportedAlias.fieldType? schema concrete field = some found) :
    found.base = expected.base ∨ ∃ type, schema.type? expected.base = some type ∧
      schema.isSubType type found.base = true := by
  rcases wellFormed.isNarrower_of_admits valid object admits onStatic onConcrete
    with rfl | narrower
  · exact .inl rfl
  · exact base_of_isNarrower narrower

/-- A field that is written on a type and read on an object type that the type admits: its type is
a leaf if the written one is, and the types of its values are admitted by the written one. -/
theorem WellFormed.covariant (wellFormed : schema.WellFormed) (valid : schema.typeProblems = [])
    {static concrete field : String} (object : schema.kind? concrete = some .object)
    (admits : schema.Admits static concrete) {expected found : TypeRef}
    (onStatic : ExportedAlias.fieldType? schema static field = some expected)
    (onConcrete : ExportedAlias.fieldType? schema concrete field = some found) :
    (schema.isLeaf expected.base = true → schema.isLeaf found.base = true) ∧
      ∀ types, schema.concreteTypes found.base = .ok types →
        ∀ type ∈ types, schema.Admits expected.base type := by
  rcases wellFormed.base_of_admits valid object admits onStatic onConcrete
    with same | ⟨type, isBase, sub⟩
  · rw [same]
    exact ⟨id, fun types concreteTypes type inside =>
      admits_of_mem_concreteTypes concreteTypes inside⟩
  · refine ⟨fun leaf => ?_, fun types concreteTypes value inside =>
      wellFormed.admits_of_isSubType valid isBase sub concreteTypes inside⟩
    -- Leaves have no sub-types.
    rw [isLeaf, kind?, isBase, Option.map_some, Option.any_some] at leaf
    unfold isSubType at sub
    cases body : type.body <;>
      simp_all [TypeDefinition.kind, TypeKind.isLeaf]

/-! ### Types with values -/

/-- A sub-type has values: it is an object type or an interface. -/
theorem WellFormed.exists_concreteTypes_of_isSubType (wellFormed : schema.WellFormed)
    {base name : String} {type : TypeDefinition} (isBase : schema.type? base = some type)
    (sub : schema.isSubType type name = true) : ∃ types, schema.concreteTypes name = .ok types := by
  unfold isSubType at sub
  cases body : type.body with
  | interface interfaces fields =>
    rw [body] at sub
    simp only at sub
    cases found : schema.type? name with
    | none => simp [found] at sub
    | some other =>
      -- Only object types and interfaces list interfaces.
      simp only [found, TypeDefinition.interfaces] at sub
      unfold concreteTypes
      rw [found]
      cases otherBody : other.body <;>
        simp_all [TypeDefinition.kind, TypeKind.isAbstract]
  | union members =>
    rw [body] at sub
    have object := wellFormed.membersAreObjects type (mem_of_type? isBase) members body name
      (by simpa using sub)
    exact ⟨_, concreteTypes_of_object object⟩
  | scalar => simp [body] at sub
  | object interfaces fields => simp [body] at sub
  | enum values => simp [body] at sub
  | inputObject fields => simp [body] at sub

/-- A type with values is no leaf. -/
theorem isLeaf_of_concreteTypes {name : String} {types : List String}
    (concrete : schema.concreteTypes name = .ok types) : schema.isLeaf name = false := by
  rcases concreteTypes_eq_ok.mp concrete with ⟨object, -⟩ | ⟨type, found, abstract, -⟩
  · rw [isLeaf, object]
    rfl
  · rw [isLeaf, kind?, found, Option.map_some, Option.any_some]
    cases kind : type.kind <;> simp_all [TypeKind.isAbstract, TypeKind.isLeaf]

/-- A type that a field can have is a leaf, or it has values. -/
theorem exists_concreteTypes_of_isOutput {name : String}
    (output : (schema.kind? name).any TypeKind.isOutput = true)
    (noLeaf : schema.isLeaf name = false) : ∃ types, schema.concreteTypes name = .ok types := by
  unfold isLeaf at noLeaf
  unfold kind? at output noLeaf
  unfold concreteTypes
  cases found : schema.type? name with
  | none => simp [found] at output
  | some type =>
    rw [found, Option.map_some, Option.any_some] at output noLeaf
    cases kind : type.kind <;>
      simp_all [TypeKind.isOutput, TypeKind.isLeaf, TypeKind.isAbstract]

/-- Fields of object types and of interfaces can be exported, and no others. -/
theorem isExportable_iff {kind : TypeKind} :
    kind.isExportable = true ↔ kind = .object ∨ kind = .interface := by
  cases kind <;> simp [TypeKind.isExportable]

/-- A type that a field can be exported with has values. -/
theorem exists_concreteTypes_of_isExportable {name : String} {type : TypeDefinition}
    (found : schema.type? name = some type) (exportable : type.kind.isExportable = true) :
    ∃ types, schema.concreteTypes name = .ok types := by
  unfold concreteTypes
  rw [found]
  cases kind : type.kind <;> simp_all [TypeKind.isExportable, TypeKind.isAbstract]

/-- A field whose written type has values has a type with values on each object type. -/
theorem WellFormed.exists_concreteTypes (wellFormed : schema.WellFormed)
    (valid : schema.typeProblems = []) {static concrete field : String}
    (object : schema.kind? concrete = some .object) (admits : schema.Admits static concrete)
    {expected found : TypeRef}
    (onStatic : ExportedAlias.fieldType? schema static field = some expected)
    (onConcrete : ExportedAlias.fieldType? schema concrete field = some found)
    (written : ∃ types, schema.concreteTypes expected.base = .ok types) :
    ∃ types, schema.concreteTypes found.base = .ok types := by
  rcases wellFormed.base_of_admits valid object admits onStatic onConcrete
    with same | ⟨type, isBase, sub⟩
  · rwa [same]
  · exact wellFormed.exists_concreteTypes_of_isSubType isBase sub

end SelectionTypes.Schema

import SelectionTypes.Export.Alias
import SelectionTypes.Proofs.Schema.Build

/-!
# `SelectionTypes.Proofs.Schema.WrittenFields`: the types of fields as they are written

A field of a schema is one of a type that the schema has (`ExportedAlias.exists_owner`). A document
writes the fields of a type in its definition and in the extensions of it (`Document.Writes`). In a
schema that is built, a field has the type that the document writes for it, and the document writes
no other: `Document.writes_iff_of_toSchema`. The built-in types are the exception, since they take
the place of definitions of their names.
-/

set_option autoImplicit false

namespace SelectionTypes

open ExportedAlias (fieldType?)

/-! ### The fields of a type -/

/-- The fields of a type are those of an object type or an interface and those of an input
object. -/
theorem TypeDefinition.fieldTypes_eq (type : TypeDefinition) :
    type.fieldTypes = type.fields.map (fun field => (field.name, field.type))
      ++ type.inputFields.map fun field => (field.name, field.type) := by
  unfold fieldTypes fields inputFields
  cases type.body <;> simp

/-- A field with its type is a field of an object type or of an interface, or it is an input field
of an input object. -/
theorem TypeDefinition.exists_of_mem_fieldTypes {definition : TypeDefinition} {name : String}
    {type : TypeRef} (listed : (name, type) ∈ definition.fieldTypes) :
    (∃ field ∈ definition.fields, field.type = type) ∨
      definition.kind = .inputObject ∧ ∃ input ∈ definition.inputFields, input.type = type := by
  unfold fieldTypes at listed
  unfold fields inputFields kind
  -- The body decides which list of fields there is.
  cases body : definition.body with
  | object interfaces fields =>
    rw [body] at listed
    obtain ⟨field, own, same⟩ := List.mem_map.mp listed
    exact .inl ⟨field, own, (Prod.mk.inj same).2⟩
  | interface interfaces fields =>
    rw [body] at listed
    obtain ⟨field, own, same⟩ := List.mem_map.mp listed
    exact .inl ⟨field, own, (Prod.mk.inj same).2⟩
  | inputObject inputs =>
    rw [body] at listed
    obtain ⟨input, own, same⟩ := List.mem_map.mp listed
    exact .inr ⟨rfl, input, own, (Prod.mk.inj same).2⟩
  | scalar | union _ | enum _ => simp [body] at listed

/-- A known field is one of a type of the schema. -/
theorem ExportedAlias.exists_owner {schema : Schema} {owner name : String} {type : TypeRef}
    (known : fieldType? schema owner name = some type) :
    ∃ definition, schema.type? owner = some definition ∧ (name, type) ∈ definition.fieldTypes := by
  obtain ⟨definition, found, isField⟩ := Option.bind_eq_some_iff.mp known
  obtain ⟨before, after, fields, -⟩ := List.lookup_eq_some_iff.mp isField
  refine ⟨definition, found, ?_⟩
  rw [fields]
  simp

/-! ### What a document writes -/

/-- The fields of an extended type are those of the type and those that are added. -/
theorem TypeDefinition.mem_fieldTypes_extend {type added : TypeDefinition}
    {field : String × TypeRef} (inside : field ∈ (type.extend added).fieldTypes) :
    field ∈ type.fieldTypes ∨ field ∈ added.fieldTypes := by
  unfold fieldTypes extend at inside
  unfold fieldTypes
  cases body : type.body <;> cases more : added.body <;> simp_all

namespace Document

variable {document : Document} {schema : Schema} {owner field : String} {type written : TypeRef}

/-- A document writes a type for a field of a type, in a definition or in an extension. -/
def Writes (document : Document) (owner field : String) (type : TypeRef) : Prop :=
  (owner, field, type) ∈ document.definitions.flatMap Definition.writtenFields

/-- A document writes the fields of each type that it defines or extends. -/
theorem writes_of_mem {defined : TypeDefinition}
    (listed : .type defined ∈ document.definitions ∨ .typeExtension defined ∈ document.definitions)
    (inside : (field, type) ∈ defined.fieldTypes) : document.Writes defined.name field type := by
  rcases listed with listed | listed <;>
    exact List.mem_flatMap.mpr ⟨_, listed, List.mem_map.mpr ⟨_, inside, rfl⟩⟩

/-- A document without problems writes one type for a field. -/
theorem Writes.unique (clean : document.definitionProblems = [])
    (writes : document.Writes owner field type) (writes' : document.Writes owner field written) :
    type = written := by
  have distinct : ((document.definitions.flatMap Definition.writtenFields).map
      fun written => DefinitionMark.field written.1 written.2.1).Nodup := by
    rw [List.map_flatMap]
    exact (nodup_marks clean).sublist
      (List.Sublist.flatMap_right _ fun _ _ => List.sublist_append_right _ _)
  cases List.inj_on_of_nodup_map distinct writes writes' rfl
  rfl

/-- A type with its extensions has no fields but theirs. -/
theorem mem_fieldTypes_foldl_extend {extensions : List TypeDefinition} {defined : TypeDefinition}
    {member : String × TypeRef}
    (inside : member ∈ (extensions.foldl TypeDefinition.extend defined).fieldTypes) :
    member ∈ defined.fieldTypes ∨ ∃ added ∈ extensions, member ∈ added.fieldTypes := by
  induction extensions generalizing defined with
  | nil => exact .inl inside
  | cons added rest ih =>
    rcases ih inside with own | ⟨other, listed, later⟩
    · refine (TypeDefinition.mem_fieldTypes_extend own).imp_right fun first => ?_
      exact ⟨added, List.mem_cons_self, first⟩
    · exact .inr ⟨other, List.mem_cons_of_mem added listed, later⟩

/-- In a schema that is built, the fields of types that are not built in are written. -/
theorem writes_of_fieldType? (built : document.toSchema = .ok schema)
    (own : Schema.builtIn? owner = none) (known : fieldType? schema owner field = some type) :
    document.Writes owner field type := by
  obtain ⟨definition, found, inside⟩ := ExportedAlias.exists_owner known
  obtain rfl := Schema.name_of_type? found
  obtain ⟨-, -, directives, roots, types⟩ := of_toSchema built
  have listed := Schema.mem_of_type? found
  rw [types] at listed
  -- A type of the schema is defined in the document, or it is implied and so built in.
  rcases List.mem_append.mp listed with defined | implied
  · obtain ⟨source, isSource, same⟩ := List.mem_filterMap.mp defined
    cases source with
    | type original =>
      dsimp only at same
      split at same
      · next builtIn =>
        cases same
        rw [name_of_builtIn? builtIn, builtIn] at own
        cases own
      · cases same
        rw [name_foldl_extend]
        rcases mem_fieldTypes_foldl_extend inside with first | ⟨added, isAdded, later⟩
        · exact writes_of_mem (.inl isSource) first
        · obtain ⟨isExtension, named⟩ := List.mem_filter.mp isAdded
          obtain ⟨extension, isDefinition, same⟩ := List.mem_filterMap.mp isExtension
          cases extension <;> cases same
          rw [← eq_of_beq named]
          exact writes_of_mem (.inr isDefinition) later
    | operation _ | fragment _ | schema _ | schemaExtension _ | typeExtension _ | directive _ =>
      cases same
  · have isSome : ∀ type ∈ Schema.builtInScalarNames.map Schema.builtInScalar
        ++ Schema.introspectionTypes, (Schema.builtIn? type.name).isSome := by decide
    have some := isSome definition (mem_builtIn_of_mem_impliedTypes implied)
    rw [own] at some
    cases some

/-- The document writes for a field the type that the field has in the schema, and no other. -/
theorem writes_iff_of_toSchema (built : document.toSchema = .ok schema)
    (own : Schema.builtIn? owner = none) (known : fieldType? schema owner field = some type) :
    document.Writes owner field written ↔ written = type := by
  have writes := writes_of_fieldType? built own known
  refine ⟨fun writes' => writes'.unique (of_toSchema built).1 writes, ?_⟩
  rintro rfl
  exact writes

end Document

end SelectionTypes

import SelectionTypes.Proofs.Generation.GlobalReferences

/-!
# `SelectionTypes.Proofs.Generation.InputReferences`: variables and input fields of one type

The type of a variable and the type of an input field are resolved apart. For a variable, the table
of scalars is asked first and then the schema. For a field of a declared type, the schema is asked
first. `variable_field_agree` says when both give one type.

The table has more names than the scalars of the schema only through the settings
(`Schema.mem_keys_scalarTable_of_kind`). So both ask the same for a name that the settings list only
if it is a scalar (`Schema.Mislisted`), unless it is a scalar that the table misses
(`Schema.Unlisted`). What is left is a scalar with an empty text as an argument. For a variable the
text as a result takes its place, and for a field the entry of the global module: `other_after`.
-/

set_option autoImplicit false

namespace SelectionTypes

open TypeScript (TypeExpr)

namespace Schema

variable {schema : Schema} {settings : Settings} {name : String}

/-- A type that is no scalar, and that the settings list as one. -/
def Mislisted (schema : Schema) (settings : Settings) (name : String) : Prop :=
  name ∈ settings.scalars.map Prod.fst ∧ ∃ kind, schema.kind? name = some kind ∧ kind ≠ .scalar

/-- A type that is no scalar is in the table exactly if the settings list it. -/
theorem mem_keys_scalarTable_of_kind {document : Document} (built : document.toSchema = .ok schema)
    (settings : Settings) {kind : TypeKind} (isKind : schema.kind? name = some kind)
    (other : kind ≠ .scalar) :
    name ∈ (schema.scalarTable settings).map Prod.fst ↔
      name ∈ settings.scalars.map Prod.fst := by
  obtain ⟨type, found, rfl⟩ := kind?_eq_some.mp isKind
  have inside := mem_of_type? found
  have named := name_of_type? found
  have builtIn : name ∉ builtInScalarTypes.map Prod.fst := by
    have scalars : ∀ type ∈ builtInScalarNames.map builtInScalar ++ introspectionTypes,
        type.name ∈ builtInScalarTypes.map Prod.fst → type.kind = .scalar := by decide
    have reserved : ∀ name ∈ builtInScalarTypes.map Prod.fst, builtIn? name ≠ none := by decide
    rw [← named]
    intro isBuiltIn
    rcases Document.builtIn?_or_mem_of_toSchema built inside with own | implied
    · exact reserved _ isBuiltIn own
    · exact other (scalars type implied isBuiltIn)
  have custom : name ∉ schema.customScalars := by
    intro isCustom
    obtain ⟨scalar, listed, same⟩ := List.mem_map.mp isCustom
    obtain ⟨known, kept⟩ := List.mem_filter.mp listed
    rw [Bool.and_eq_true, Bool.and_eq_true, beq_iff_eq] at kept
    -- Names are distinct, so the scalar of the name is the type.
    have isScalar := (Document.wellFormed_of_toSchema built).type?_name known
    rw [same, found] at isScalar
    cases isScalar
    exact other kept.1.1
  rw [mem_keys_scalarTable]
  simp only [builtIn, custom, or_false]

end Schema

namespace Scope

variable {schema : Schema} {settings : Settings} {name : String}

/-- A name that is rightly listed or not listed at all is asked for in the table on both ways. -/
theorem namedRef_eq_scalarRef {document : Document} (built : document.toSchema = .ok schema)
    (rightly : ¬ schema.Mislisted settings name) {entry : ScalarTypes}
    (found : (schema.scalarTable settings).lookup name = some entry) (side : Side) :
    namedRef { schema, settings } name side = scalarRef { schema, settings } name side := by
  unfold namedRef
  cases isKind : schema.kind? name with
  | none =>
    show ite _ _ _ = _
    rw [found]
    rfl
  | some kind =>
    by_cases scalar : kind = .scalar
    · rw [scalar]
    · -- A name of another kind is in the table only if the settings list it.
      have listed := (Schema.mem_keys_scalarTable_of_kind built settings isKind scalar).mp
        (exists_lookup.mpr ⟨entry, found⟩)
      exact absurd ⟨listed, kind, isKind, scalar⟩ rightly

/-- A name that the table misses is resolved by the schema on both ways. -/
theorem variableRef_eq_namedRef_of_missing (listed : ¬ schema.Unlisted settings name)
    (missing : (schema.scalarTable settings).lookup name = none) (side : Side) :
    variableRef { schema, settings } name = namedRef { schema, settings } name side := by
  have none : (Scope.scalars { schema, settings }).lookup name = none := missing
  unfold variableRef namedRef
  simp only [none]
  cases isKind : schema.kind? name with
  | none => simp
  | some kind =>
    cases kind with
    | scalar =>
      -- The table misses only scalars that are not listed.
      have inside := (Schema.mem_keys_scalarTable_iff isKind).mpr listed
      obtain ⟨entry, found⟩ := exists_lookup.mp inside
      cases missing.symm.trans found
    | object => rfl
    | interface => rfl
    | union => rfl
    | enum => rfl
    | inputObject => rfl

end Scope

/-- A variable and a field of an input object that are declared with one type of the schema have one
type, whatever its list and null marks are, unless the table has an empty text for the scalar as an
argument. Such an entry is one of the settings. If it has a text as a result, the variable has that
text, and the field is the entry of the global module. This leaves out scalars that the table misses
and other types that the settings list as scalars. -/
theorem variable_field_agree {sdl : Document} {schema : Schema} {settings : Settings}
    (built : sdl.toSchema = .ok schema) (declared : VariableDefinition)
    (description : Option String) (field : String)
    (listed : ¬ schema.Unlisted settings declared.type.base)
    (rightly : ¬ schema.Mislisted settings declared.type.base) :
    ((∀ entry, (schema.scalarTable settings).lookup declared.type.base = some entry →
        entry.input ≠ "") →
      (Scope.variableProperty { schema, settings } declared).2 =
        (Scope.fieldProperty { schema, settings } true description field declared.type).2) ∧
    ∀ entry, (schema.scalarTable settings).lookup declared.type.base = some entry →
      entry.input = "" → (declared.type.base, entry) ∈ settings.scalars ∧ (entry.output ≠ "" →
        (Scope.variableProperty { schema, settings } declared).2 =
          .marked declared.type (.text entry.output) ∧
        (Scope.fieldProperty { schema, settings } true description field declared.type).2 =
          .marked declared.type (.scalarEntry declared.type.base .input)) := by
  have ofVariable : ∀ reference,
      Scope.variableRef { schema, settings } declared.type.base = reference →
        (Scope.variableProperty { schema, settings } declared).2 =
          .marked declared.type reference := fun _ same => congrArg _ same
  have ofField : ∀ reference,
      Scope.namedRef { schema, settings } declared.type.base .input = reference →
        (Scope.fieldProperty { schema, settings } true description field declared.type).2 =
          .marked declared.type reference := fun _ same => congrArg _ same
  -- Without an entry of the table the schema resolves both, and with one both take its texts.
  cases found : (schema.scalarTable settings).lookup declared.type.base with
  | none =>
    have same := Scope.variableRef_eq_namedRef_of_missing listed found .input
    refine ⟨fun _ => (ofVariable _ same).trans (ofField _ rfl).symm, fun entry isEntry => ?_⟩
    cases isEntry
  | some entry =>
    have asked := Scope.namedRef_eq_scalarRef built rightly found .input
    have variableRef : Scope.variableRef { schema, settings } declared.type.base =
        .text (if entry.input.isEmpty then entry.output else entry.input) := by
      simp only [Scope.variableRef, found]
    have scalarRef : Scope.scalarRef { schema, settings } declared.type.base .input =
        if entry.input.isEmpty then .scalarEntry declared.type.base .input
        else .text entry.input := by
      simp only [Scope.scalarRef, found]
      rfl
    refine ⟨fun filled => ?_, fun other same empty => ?_⟩
    · have isFilled : entry.input.isEmpty = false := by simpa using filled entry rfl
      rw [isFilled] at variableRef scalarRef
      exact (ofVariable _ variableRef).trans (ofField _ (asked.trans scalarRef)).symm
    · cases same
      have noText : entry.on .input = "" := empty
      rw [empty] at variableRef scalarRef
      exact ⟨Schema.mem_scalars_of_lookup found noText, fun _ =>
        ⟨ofVariable _ variableRef, ofField _ (asked.trans scalarRef)⟩⟩

/-! ### A scalar without a text as an argument -/

/-- Definitions of a scalar, of an input object with a field of it, and of a query. -/
def afterDefinitions : Document :=
  ⟨[.type ⟨none, "Date", [], .scalar⟩,
    .type ⟨none, "Filter", [], .inputObject [⟨none, "after", .named "Date", none, []⟩]⟩,
    .type ⟨none, "Query", [], .object [] [⟨none, "a", [], .named "Int", []⟩]⟩]⟩

/-- The schema of these definitions. -/
def afterSchema : Schema where
  description := none
  roots := [(.query, "Query")]
  types := afterDefinitions.definedTypes
    ++ ["String", "Int", "Boolean"].map Schema.builtInScalar ++ Schema.introspectionTypes
  directives := Schema.standardDirectives

/-- The definitions make this schema. -/
theorem toSchema_afterDefinitions : afterDefinitions.toSchema = .ok afterSchema :=
  rfl

/-- A variable of the scalar. -/
def afterVariable : VariableDefinition :=
  ⟨none, "after", .named "Date", none, []⟩

/-- Without settings, the variable and the field of the input object have one type. -/
theorem agree_after :
    afterDefinitions.toSchema = .ok afterSchema ∧
    ¬ afterSchema.Unlisted {} "Date" ∧ ¬ afterSchema.Mislisted {} "Date" ∧
    (∀ entry, (afterSchema.scalarTable {}).lookup "Date" = some entry → entry.input ≠ "") ∧
    (Scope.variableProperty { schema := afterSchema, settings := {} } afterVariable).2 =
      (Scope.fieldProperty { schema := afterSchema, settings := {} } true none "after"
        (.named "Date")).2 := by
  -- The name is not reserved, and it is one of a scalar.
  have listed : ¬ afterSchema.Unlisted {} "Date" := by
    rintro ⟨-, reserved, -⟩
    revert reserved
    decide
  have rightly : ¬ afterSchema.Mislisted {} "Date" := fun mislisted => nomatch mislisted.1
  have entry : (afterSchema.scalarTable {}).lookup "Date" = some (.both "any") := by decide
  have filled : ∀ other, (afterSchema.scalarTable {}).lookup "Date" = some other →
      other.input ≠ "" := by
    intro other found
    cases entry.symm.trans found
    decide
  exact ⟨toSchema_afterDefinitions, listed, rightly, filled,
    (variable_field_agree toSchema_afterDefinitions afterVariable none "after" listed rightly).1
      filled⟩

/-- With a text as a result alone, the variable has another type than the field. -/
theorem other_after :
    let settings : Settings := { scalars := [("Date", ⟨"", "Date"⟩)] }
    let scope : Scope := { schema := afterSchema, settings }
    afterDefinitions.toSchema = .ok afterSchema ∧
    (scope.variableProperty afterVariable).2.render settings = "Date | null" ∧
    (scope.fieldProperty true none "after" afterVariable.type).2.render settings =
      "Types.Scalars['Date']['input'] | null" ∧
    (scope.variableProperty afterVariable).2.render settings ≠
      (scope.fieldProperty true none "after" afterVariable.type).2.render settings := by
  exact ⟨toSchema_afterDefinitions, by decide, by decide, by decide⟩

end SelectionTypes

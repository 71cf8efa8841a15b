import SelectionTypes.Proofs.Generation.Operations
import SelectionTypes.Proofs.Schema.Build
import SelectionTypes.Proofs.Schema.Closure

/-!
# `SelectionTypes.Proofs.Generation.SupportingTypes`: the types that variables need

`Schema.AsksFor` says which input objects variables ask for: those that a variable has as its type,
and those that a field of such an input object has. In a schema that is built these are the fielded
types that the variables need (`asksFor_iff`), so a module declares exactly them, each once and in
the order of the schema (`supportingTypes_eq`).

`Scope.Resolves` says what a reference to a named type may be. The types of input fields always
resolve. The type of a variable does unless it is a scalar with a reserved name that the settings
do not list (`resolves_variableRef_iff`), since such a scalar is missing in the table:
`unresolved_moment`.

`supporting_declared_exactly` puts this together.
-/

set_option autoImplicit false

namespace SelectionTypes

open Outcome
open TypeScript (TypeExpr Declaration Property)

/-! ### The table of scalars -/

/-- A table with an entry has the key of the entry and those from before. -/
theorem mem_keys_putEntry {κ ν : Type} [BEq κ] [LawfulBEq κ] {key other : κ} {value : ν}
    {table : List (κ × ν)} :
    other ∈ (putEntry key value table).map Prod.fst ↔ other = key ∨ other ∈ table.map Prod.fst := by
  induction table with
  | nil => simp [putEntry]
  | cons entry rest ih =>
    obtain ⟨first, old⟩ := entry
    rw [putEntry]
    by_cases same : first = key
    · subst same
      simp
    · rw [if_neg (by simpa using same), List.map_cons, List.mem_cons, ih, List.map_cons,
        List.mem_cons, or_left_comm]

/-- A table that entries are put into has their keys and its own. -/
theorem mem_keys_foldl_putEntry {entries table : List (String × ScalarTypes)} {name : String} :
    name ∈ (entries.foldl (fun table entry => putEntry entry.1 entry.2 table) table).map Prod.fst ↔
      name ∈ entries.map Prod.fst ∨ name ∈ table.map Prod.fst := by
  induction entries generalizing table with
  | nil => simp
  | cons entry rest ih =>
    rw [List.foldl_cons, ih, mem_keys_putEntry, List.map_cons, List.mem_cons, or_left_comm,
      or_assoc]

/-- The entries of the settings are put into the table one after the other. -/
theorem Schema.scalarTable_eq (schema : Schema) (settings : Settings) :
    schema.scalarTable settings =
      settings.scalars.foldl (fun table entry => putEntry entry.1 entry.2 table)
        (builtInScalarTypes ++ schema.customScalars.map fun name => (name, .both "any")) :=
  rfl

/-- The table has the built-in scalars, the scalars of the schema and those of the settings. -/
theorem Schema.mem_keys_scalarTable {schema : Schema} {settings : Settings} {name : String} :
    name ∈ (schema.scalarTable settings).map Prod.fst ↔
      name ∈ settings.scalars.map Prod.fst ∨ name ∈ builtInScalarTypes.map Prod.fst ∨
        name ∈ schema.customScalars := by
  rw [scalarTable_eq]
  simp only [mem_keys_foldl_putEntry, List.map_append, List.mem_append, List.map_map]
  have own : schema.customScalars.map (Prod.fst ∘ fun name => (name, ScalarTypes.both "any"))
      = schema.customScalars := List.map_id _
  rw [own]

/-- A key has an entry. -/
theorem exists_lookup {ν : Type} {table : List (String × ν)} {name : String} :
    name ∈ table.map Prod.fst ↔ ∃ value, table.lookup name = some value := by
  rw [← Option.isSome_iff_exists, List.lookup_isSome_iff]
  simp

/-- A scalar that the table misses: its name is reserved, and the settings do not list it. -/
def Schema.Unlisted (schema : Schema) (settings : Settings) (name : String) : Prop :=
  schema.kind? name = some .scalar ∧ isIntrospectionName name = true ∧
    name ∉ settings.scalars.map Prod.fst

/-- The scalars of a schema are in the table, apart from the unlisted ones. -/
theorem Schema.mem_keys_scalarTable_iff {schema : Schema} {settings : Settings} {name : String}
    (scalar : schema.kind? name = some .scalar) :
    name ∈ (schema.scalarTable settings).map Prod.fst ↔ ¬ schema.Unlisted settings name := by
  -- No built-in scalar has a reserved name, so such a name is a key only through the settings.
  obtain ⟨type, found, kind⟩ := Schema.kind?_eq_some.mp scalar
  have named := Schema.name_of_type? found
  have reserved : name ∈ builtInScalarTypes.map Prod.fst → isIntrospectionName name = false := by
    have plain : ∀ name ∈ builtInScalarTypes.map Prod.fst, isIntrospectionName name = false := by
      decide
    exact plain name
  have absent : (builtInScalarTypes.lookup name).isNone = true ↔
      name ∉ builtInScalarTypes.map Prod.fst := by
    rw [exists_lookup, Option.isNone_iff_eq_none, Option.eq_none_iff_forall_ne_some, not_exists]
  -- The scalars of the schema leave out just the built-in and the reserved names.
  have custom : name ∈ schema.customScalars ↔
      isIntrospectionName name = false ∧ name ∉ builtInScalarTypes.map Prod.fst := by
    rw [Schema.customScalars, List.mem_map, ← absent]
    constructor
    · rintro ⟨other, listed, rfl⟩
      have kept := (List.mem_filter.mp listed).2
      rw [Bool.and_eq_true, Bool.and_eq_true, Bool.not_eq_true'] at kept
      exact ⟨kept.1.2, kept.2⟩
    · rintro ⟨plain, none⟩
      refine ⟨type, List.mem_filter.mpr ⟨Schema.mem_of_type? found, ?_⟩, named⟩
      simp [kind, named, plain, none]
  rw [Schema.mem_keys_scalarTable, custom, Schema.Unlisted]
  by_cases isReserved : isIntrospectionName name = true
  · have outside : name ∉ builtInScalarTypes.map Prod.fst := fun builtIn =>
      absurd (reserved builtIn) (by simp [isReserved])
    simp only [outside, isReserved, scalar, true_and, not_not, Bool.true_eq_false, false_and,
      or_false]
  · rw [Bool.not_eq_true] at isReserved
    simp only [isReserved, true_and, Bool.false_eq_true, false_and, and_false, not_false_eq_true,
      iff_true]
    exact .inr (em _)

/-! ### What variables ask for -/

namespace Schema

variable {schema : Schema} {seeds : List String} {type : TypeDefinition}

/-- The input objects that seeds ask for: those among the seeds, and those that a field of an input
object has that is asked for. -/
inductive AsksFor (schema : Schema) (seeds : List String) : TypeDefinition → Prop
  | seed {name : String} {type : TypeDefinition} (listed : name ∈ seeds)
      (found : schema.type? name = some type) (kind : type.kind = .inputObject) :
      AsksFor schema seeds type
  | field {above type : TypeDefinition} (asked : AsksFor schema seeds above)
      {field : InputDefinition} (listed : field ∈ above.inputFields)
      (found : schema.type? field.type.base = some type) (kind : type.kind = .inputObject) :
      AsksFor schema seeds type

/-- Whatever is asked for is an input object. -/
theorem AsksFor.kind (asked : schema.AsksFor seeds type) : type.kind = .inputObject := by
  cases asked with
  | seed listed found kind => exact kind
  | field above listed found kind => exact kind

/-- Whatever is asked for is the type that the schema has under its name. -/
theorem AsksFor.found (asked : schema.AsksFor seeds type) : schema.type? type.name = some type := by
  cases asked with
  | seed listed found kind => rwa [name_of_type? found]
  | field above listed found kind => rwa [name_of_type? found]

/-- The fields of an input object are its input fields. -/
theorem fieldTypes_of_inputObject (kind : type.kind = .inputObject) :
    type.fieldTypes = type.inputFields.map fun field => (field.name, field.type) := by
  unfold TypeDefinition.kind at kind
  unfold TypeDefinition.fieldTypes TypeDefinition.inputFields
  cases body : type.body <;> simp_all

/-- A type with fields that a caller can give is an input object. -/
theorem kind_of_input {name : String} (input : (schema.kind? name).any TypeKind.isInput = true)
    (found : schema.type? name = some type) (fielded : type.kind.isFielded = true) :
    type.kind = .inputObject := by
  rw [kind?, found, Option.map_some, Option.any_some] at input
  cases kind : type.kind <;> simp_all [TypeKind.isInput, TypeKind.isFielded]

/-- What is asked for is needed. -/
theorem AsksFor.needs (asked : schema.AsksFor seeds type) : schema.Needs seeds type.name := by
  -- Along the way to the type. A field of an input object is a reference of it, so the closure goes
  -- there too.
  induction asked with
  | seed listed found kind =>
    rw [name_of_type? found]
    exact .seed listed
  | @field above type asked field listed found kind ih =>
    have fielded : schema.isFielded field.type.base = true := by
      simp [isFielded, kind?, found, kind, TypeKind.isFielded]
    rw [name_of_type? found]
    refine .field ih (mem_fieldReferences.mpr ⟨above, asked.found, ?_, fielded⟩)
    rw [fieldTypes_of_inputObject asked.kind]
    exact ⟨_, List.mem_map_of_mem listed, rfl⟩

/-- Where variables and input fields have types that a caller can give, the fielded types that the
variables need are those that they ask for. -/
theorem asksFor_iff
    (inputs : ∀ name ∈ seeds, (schema.kind? name).any TypeKind.isInput = true)
    (inputFields : ∀ type ∈ schema.types, ∀ field ∈ type.inputFields,
      (schema.kind? field.type.base).any TypeKind.isInput = true)
    (found : schema.type? type.name = some type) :
    type.kind.isFielded = true ∧ schema.Needs seeds type.name ↔ schema.AsksFor seeds type := by
  constructor
  · rintro ⟨fielded, needed⟩
    obtain ⟨name, isName⟩ : ∃ name, type.name = name := ⟨_, rfl⟩
    rw [isName] at needed found
    clear isName
    -- Each step of a need starts at a type with fields, which is an input object by induction.
    induction needed generalizing type with
    | seed listed => exact .seed listed found (kind_of_input (inputs _ listed) found fielded)
    | field needed refers ih =>
      obtain ⟨above, isAbove, ⟨entry, isEntry, rfl⟩, -⟩ := mem_fieldReferences.mp refers
      have aboveFielded : above.kind.isFielded = true := by
        unfold TypeDefinition.fieldTypes at isEntry
        unfold TypeDefinition.kind
        cases body : above.body <;> simp_all [TypeKind.isFielded]
      have asked := ih aboveFielded isAbove
      rw [fieldTypes_of_inputObject asked.kind] at isEntry
      obtain ⟨field, listed, rfl⟩ := List.mem_map.mp isEntry
      exact .field asked listed found
        (kind_of_input (inputFields above (mem_of_type? isAbove) field listed) found fielded)
  · intro asked
    refine ⟨?_, asked.needs⟩
    rw [asked.kind]
    rfl

/-! ### The supporting types of a schema -/

/-- A schema that is written has its definitions in the document. -/
theorem document_eq_ok {written : Document} (isWritten : schema.document = .ok written) :
    written = ⟨schema.definitions⟩ := by
  unfold document at isWritten
  split at isWritten
  · cases isWritten
  · split at isWritten
    · -- No document is read from an empty text.
      have none : (Document.parse "").toBool = false := by decide +kernel
      rw [mapError_eq_ok.mp isWritten] at none
      cases none
    · cases isWritten
      rfl

/-- What is made of the definitions of a schema is made of its own types, if nothing is made of the
schema block and of directives. -/
theorem filterMap_definitions {α : Type} {f : Definition → Option α}
    (block : ∀ found, f (.schema found) = none) (directive : ∀ found, f (.directive found) = none)
    (schema : Schema) :
    schema.definitions.filterMap f = schema.ownTypes.filterMap fun type => f (.type type) := by
  have types : (schema.ownTypes.map Definition.type).filterMap f =
      schema.ownTypes.filterMap fun type => f (.type type) := List.filterMap_map
  have directives : (schema.ownDirectives.map Definition.directive).filterMap f = [] := by
    simp [List.filterMap_map, directive]
  unfold definitions
  rw [List.filterMap_append, List.filterMap_append, types, directives, List.append_nil]
  split
  · rfl
  · rw [List.filterMap_cons_none (block _)]
    rfl

/-- The definitions of a schema that have fields are its own types with fields. -/
theorem filterMap_fieldedType? (schema : Schema) :
    schema.definitions.filterMap Definition.fieldedType? =
      schema.ownTypes.filter fun type => type.kind.isFielded := by
  rw [filterMap_definitions (fun _ => rfl) (fun _ => rfl), ← List.filterMap_eq_filter]
  rfl

/-- The supporting types of a schema are its own types with fields that the seeds need. -/
theorem supportingTypes_eq {written : Document} (isWritten : schema.document = .ok written)
    (seeds : List String) :
    schema.supportingTypes seeds = .ok ((schema.ownTypes.filter fun type => type.kind.isFielded
      ).filter fun type => (schema.requiredTypes seeds).contains type.name) := by
  unfold supportingTypes
  rw [isWritten, document_eq_ok isWritten]
  show Except.ok ((schema.definitions.filterMap _).filter _) = _
  rw [filterMap_fieldedType?]

/-- The supporting types depend on the set of seeds alone. -/
theorem supportingTypes_congr {others : List String} (same : ∀ name, name ∈ seeds ↔ name ∈ others) :
    schema.supportingTypes seeds = schema.supportingTypes others := by
  have required : ∀ name, (schema.requiredTypes seeds).contains name =
      (schema.requiredTypes others).contains name := by
    intro name
    rw [Bool.eq_iff_iff, List.contains_iff_mem, List.contains_iff_mem, mem_requiredTypes,
      mem_requiredTypes]
    exact ⟨fun needed => needed.mono fun name => (same name).mp,
      fun needed => needed.mono fun name => (same name).mpr⟩
  unfold supportingTypes
  simp only [Document.keepTypes, required]

/-- In a schema that is built, the supporting types of variables are the input objects that they ask
for, each once and in the order of the schema. -/
theorem supportingTypes_asked {sdl written : Document} (built : sdl.toSchema = .ok schema)
    (isWritten : schema.document = .ok written)
    (inputs : ∀ name ∈ seeds, (schema.kind? name).any TypeKind.isInput = true) :
    ∃ types, schema.supportingTypes seeds = .ok types ∧ types.Sublist schema.types ∧
      (types.map TypeDefinition.name).Nodup ∧
      ∀ type, type ∈ types ↔ schema.AsksFor seeds type := by
  have wellFormed := Document.wellFormed_of_toSchema built
  have inputFields : ∀ type ∈ schema.types, ∀ field ∈ type.inputFields,
      (schema.kind? field.type.base).any TypeKind.isInput = true :=
    fun type inside field listed => Document.isInput_of_toSchema built inside listed
  refine ⟨_, supportingTypes_eq isWritten seeds, ?_, ?_, fun type => ?_⟩
  · exact List.filter_sublist.trans (List.filter_sublist.trans List.filter_sublist)
  · refine wellFormed.distinctNames.sublist (List.Sublist.map _ ?_)
    exact List.filter_sublist.trans (List.filter_sublist.trans List.filter_sublist)
  · rw [List.mem_filter, List.mem_filter, ownTypes, List.mem_filter, List.contains_iff_mem,
      mem_requiredTypes]
    constructor
    · rintro ⟨⟨⟨inside, -⟩, fielded⟩, needed⟩
      exact (asksFor_iff inputs inputFields (wellFormed.type?_name inside)).mp ⟨fielded, needed⟩
    · intro asked
      have inside := mem_of_type? asked.found
      obtain ⟨fielded, needed⟩ := (asksFor_iff inputs inputFields asked.found).mpr asked
      -- Built-in types are no input objects, so the type is among the own ones.
      have own := Document.builtIn?_of_inputObject built inside asked.kind
      exact ⟨⟨⟨inside, by rw [own]; rfl⟩, fielded⟩, needed⟩

end Schema

/-! ### References -/

/-- The name that a declaration is written under. -/
def TypeScript.Declaration.name (settings : Settings) : Declaration → String
  | .typeAlias name _ => name
  | .intersection name _ => name
  | .object name _ _ => name
  | .enum name _ _ => settings.enumName name

namespace Scope

variable {scope : Scope} {types : List TypeDefinition} {name : String}

/-- What a reference to the type of a name may be: one of the declared types under the name of its
declaration, a text of the table of scalars, or an entry of the global module. -/
inductive Resolves (scope : Scope) (types : List TypeDefinition) (name : String) : TypeExpr → Prop
  | declared {type : TypeDefinition} (listed : type ∈ types) (own : type.name = name)
      (spelled : (TypeExpr.declared name).render scope.settings =
        (scope.typeDeclaration type).name scope.settings) :
      Resolves scope types name (.declared name)
  | text {entry : ScalarTypes} (found : scope.scalars.lookup name = some entry) (side : Side) :
      Resolves scope types name (.text (entry.on side))
  | scalar (side : Side) : Resolves scope types name (.scalarEntry name side)
  | enum : Resolves scope types name (.enumEntry name)

/-- A declared type of the schema resolves. -/
theorem resolves_declared {type : TypeDefinition} (listed : type ∈ types) :
    scope.Resolves types type.name (.declared type.name) :=
  .declared listed rfl rfl

/-- A reference to a scalar resolves: to the text in the table, or to the entry of the global module
where there is none. -/
theorem resolves_scalarRef (side : Side) :
    scope.Resolves types name (scope.scalarRef name side) := by
  unfold scalarRef
  split
  · next entry found =>
    split
    · exact .scalar side
    · exact .text found side
  · exact .scalar side

/-- A reference to a type that a caller can give resolves, if the declared types include it where it
is an input object. -/
theorem resolves_namedRef (input : (scope.schema.kind? name).any TypeKind.isInput = true)
    (declared : ∀ type, scope.schema.type? name = some type → type.kind = .inputObject →
      type ∈ types) (side : Side) : scope.Resolves types name (scope.namedRef name side) := by
  obtain ⟨kind, isKind, isInput⟩ := (Option.any_eq_true _ _).mp input
  obtain ⟨type, found, rfl⟩ := Schema.kind?_eq_some.mp isKind
  have named := Schema.name_of_type? found
  unfold namedRef
  rw [isKind]
  -- The three kinds that a caller can give; the other three contradict the hypothesis.
  cases kind : type.kind with
  | scalar => exact resolves_scalarRef side
  | enum => exact .enum
  | inputObject =>
    rw [← named]
    exact resolves_declared (declared type found kind)
  | object => simp [kind, TypeKind.isInput] at isInput
  | interface => simp [kind, TypeKind.isInput] at isInput
  | union => simp [kind, TypeKind.isInput] at isInput

/-- The reference of a variable resolves unless the table misses its scalar, if the declared types
are input objects and include its type where that is one. -/
theorem resolves_variableRef_iff (table : scope.scalars = scope.schema.scalarTable scope.settings)
    (input : (scope.schema.kind? name).any TypeKind.isInput = true)
    (declared : ∀ type, scope.schema.type? name = some type →
      (type ∈ types ↔ type.kind = .inputObject)) (known : ∀ type ∈ types,
      scope.schema.type? type.name = some type) :
    scope.Resolves types name (scope.variableRef name) ↔
      ¬ scope.schema.Unlisted scope.settings name := by
  obtain ⟨kind, isKind, isInput⟩ := (Option.any_eq_true _ _).mp input
  obtain ⟨type, found, rfl⟩ := Schema.kind?_eq_some.mp isKind
  have named := Schema.name_of_type? found
  unfold variableRef
  cases entry : scope.scalars.lookup name with
  | some texts =>
    have inTable : name ∈ (scope.schema.scalarTable scope.settings).map Prod.fst :=
      exists_lookup.mpr ⟨texts, table ▸ entry⟩
    have resolves : scope.Resolves types name
        (.text (if texts.input.isEmpty then texts.output else texts.input)) := by
      split
      · exact .text entry .output
      · exact .text entry .input
    refine iff_of_true resolves fun unlisted => ?_
    exact (Schema.mem_keys_scalarTable_iff unlisted.1).mp inTable unlisted
  | none =>
    have outside : name ∉ (scope.schema.scalarTable scope.settings).map Prod.fst := by
      rw [exists_lookup, ← table, entry]
      exact nofun
    cases kind : type.kind with
    | scalar =>
      rw [isKind, kind]
      have unlisted := mt (Schema.mem_keys_scalarTable_iff (isKind.trans (congrArg _ kind))).mpr
        outside
      -- No declared type has the name, since the type of the name is the scalar.
      refine iff_of_false (fun resolves => ?_) unlisted
      cases resolves with
      | @declared other listed own spelled =>
        have isOther := known other listed
        rw [own] at isOther
        cases isOther.symm.trans found
        cases kind.symm.trans ((declared type found).mp listed)
    | enum =>
      rw [isKind, kind]
      refine iff_of_true .enum fun unlisted => ?_
      cases (isKind.trans (congrArg _ kind)).symm.trans unlisted.1
    | inputObject =>
      rw [isKind, kind]
      have resolves : scope.Resolves types type.name (.declared type.name) :=
        resolves_declared ((declared type found).mpr kind)
      rw [named] at resolves
      refine iff_of_true resolves fun unlisted => ?_
      cases (isKind.trans (congrArg _ kind)).symm.trans unlisted.1
    | object => simp [kind, TypeKind.isInput] at isInput
    | interface => simp [kind, TypeKind.isInput] at isInput
    | union => simp [kind, TypeKind.isInput] at isInput

/-- The properties of an input object are those of its fields. -/
theorem mem_typeProperties {type : TypeDefinition} (kind : type.kind = .inputObject)
    {property : Property} :
    property ∈ scope.typeProperties type ↔ ∃ field ∈ type.inputFields,
      property = scope.fieldProperty true field.description field.name field.type := by
  have none : type.fields = [] := by
    unfold TypeDefinition.kind at kind
    unfold TypeDefinition.fields
    cases body : type.body <;> simp_all
  have notObject : (type.kind == .object) = false := by
    rw [kind]
    rfl
  simp only [typeProperties, notObject, none, Bool.false_and, Bool.false_eq_true, if_false,
    List.map_nil, List.nil_append, List.mem_map]
  exact exists_congr fun field => and_congr_right fun _ => eq_comm

end Scope

/-! ### Variables -/

/-- A generator has the operations of its documents, optimized or not, apart from their
selections. -/
theorem Generator.map_operations_of_create {α : Type} (part : Operation → α)
    (kept : ∀ operation selections, part { operation with selections := selections }
      = part operation) {schema : Schema} {settings : Settings} {documents : List Document}
    {external : List LoadedFragment} {generator : Generator}
    (created : create schema settings documents external = .ok generator) :
    generator.operations.map part = (documents.flatMap Document.operations).map part := by
  obtain ⟨written, isWritten, rfl⟩ := create_eq_ok.mp created
  -- Optimizing changes only selections, and these do not matter to the part.
  have each : ∀ document other : Document,
      document.optimize (FragmentTable.ofDocuments external documents) = .ok other →
      other.operations.map part = document.operations.map part := by
    intro document other optimizes
    refine map_eq_of_mapM (fun operation result optimizesOne => ?_)
      (mapM_eq_ok.mpr (Document.optimize_eq_ok optimizes).1)
    obtain ⟨_, -, assembled⟩ := bind_eq_ok.mp optimizesOne
    cases assembled
    exact kept operation _
  show (written.flatMap Document.operations).map part = _
  split at isWritten
  · rw [List.map_flatMap, List.map_flatMap, List.flatMap_def, List.flatMap_def,
      map_eq_of_mapM each isWritten]
  · cases isWritten
    rfl

/-- The types of variables depend on the variables alone. -/
theorem variableTypeNames_eq (documents : List Document) :
    Document.variableTypeNames documents =
      (((documents.flatMap Document.operations).map Operation.declaredVariables).flatMap
        fun declared => declared.map fun definition => definition.type.base).eraseDups := by
  unfold Document.variableTypeNames
  rw [List.flatMap_map]

/-! ### The supporting types of a module -/

/-- A generator keeps the schema and the settings that it is created with. -/
theorem Generator.toScope_of_create {schema : Schema} {settings : Settings}
    {documents : List Document} {external : List LoadedFragment} {generator : Generator}
    (created : create schema settings documents external = .ok generator) :
    generator.scope.toScope = { schema, settings } := by
  obtain ⟨_, -, rfl⟩ := create_eq_ok.mp created
  rfl

/-- The types that variables need can be declared if they are known. -/
theorem exists_supportingDeclarations_iff {scope : Scope} {seeds : List String} :
    (∃ declarations, scope.supportingDeclarations seeds = .ok declarations) ↔
      ∃ types, scope.schema.supportingTypes seeds = .ok types := by
  unfold Scope.supportingDeclarations
  simp only [bind_eq_ok, pure, Except.pure, Except.ok.injEq]
  exact ⟨fun ⟨_, types, isTypes, _⟩ => ⟨types, isTypes⟩,
    fun ⟨types, isTypes⟩ => ⟨_, types, isTypes, rfl⟩⟩

/-- A module declares the types that the variables of its documents need. -/
theorem Generator.supporting_of_create {schema : Schema} {settings : Settings}
    {documents : List Document} {external : List LoadedFragment} {generator : Generator}
    (created : create schema settings documents external = .ok generator) :
    generator.supporting = Scope.supportingDeclarations { schema, settings }
      (Document.variableTypeNames documents) := by
  unfold Generator.supporting
  rw [toScope_of_create created, variableTypeNames_eq, variableTypeNames_eq]
  show Scope.supportingDeclarations _
    ((generator.operations.map Operation.declaredVariables).flatMap _).eraseDups = _
  rw [map_operations_of_create Operation.declaredVariables (fun _ _ => rfl) created]

/-- A module declares the own types with fields that its variables need, and only these. -/
theorem Generator.mem_supporting {schema : Schema} {settings : Settings} {documents : List Document}
    {external : List LoadedFragment} {generator : Generator}
    (created : create schema settings documents external = .ok generator)
    {supporting : List Declaration} (isSupporting : generator.supporting = .ok supporting)
    {declaration : Declaration} :
    declaration ∈ supporting ↔ ∃ type ∈ schema.ownTypes, type.kind.isFielded = true ∧
      schema.Needs (Document.variableTypeNames documents) type.name ∧
      Scope.typeDeclaration { schema, settings } type = declaration := by
  rw [supporting_of_create created] at isSupporting
  obtain ⟨types, isTypes, assembled⟩ := bind_eq_ok.mp isSupporting
  cases assembled
  obtain ⟨_, isWritten, -⟩ := bind_eq_ok.mp isTypes
  rw [Schema.supportingTypes_eq isWritten] at isTypes
  cases isTypes
  simp only [List.mem_map, List.mem_filter, List.contains_iff_mem, Schema.mem_requiredTypes,
    and_assoc]

/-- Documents whose operations have no variables need no supporting types. -/
theorem Generator.supporting_eq_nil {schema : Schema} {settings : Settings}
    {documents : List Document} {external : List LoadedFragment} {generator : Generator}
    (created : create schema settings documents external = .ok generator)
    (none : Document.variableTypeNames documents = []) {supporting : List Declaration}
    (made : generator.supporting = .ok supporting) : supporting = [] := by
  rw [List.eq_nil_iff_forall_not_mem]
  intro declaration listed
  obtain ⟨type, -, -, needed, -⟩ := (mem_supporting created made).mp listed
  obtain ⟨seed, asked, -⟩ := Schema.needs_iff_exists.mp needed
  rw [none] at asked
  cases asked

/-- The types of variables are those of the operations that a generator reads. -/
theorem Generator.mem_variableTypeNames {schema : Schema} {settings : Settings}
    {documents : List Document} {external : List LoadedFragment} {generator : Generator}
    (created : create schema settings documents external = .ok generator) {operation : Operation}
    (listed : operation ∈ generator.operations) {declared : VariableDefinition}
    (own : declared ∈ operation.declaredVariables) :
    declared.type.base ∈ Document.variableTypeNames documents := by
  rw [variableTypeNames_eq,
    ← map_operations_of_create Operation.declaredVariables (fun _ _ => rfl) created,
    List.mem_eraseDups, List.mem_flatMap]
  exact ⟨_, List.mem_map_of_mem listed, List.mem_map_of_mem own⟩

/-- In a schema that is built, a module declares the input objects that its variables ask for, each
once and in the order of the schema. Their input fields refer to declared types, to texts of the
table of scalars or to the global module. So do the variables, apart from those whose type is a
scalar that the table misses. What is declared depends on the set of the types of variables
alone. -/
theorem supporting_declared_exactly {sdl written : Document} {schema : Schema} {settings : Settings}
    {documents : List Document} {external : List LoadedFragment} {generator : Generator}
    (built : sdl.toSchema = .ok schema) (isWritten : schema.document = .ok written)
    (inputs : ∀ name ∈ Document.variableTypeNames documents,
      (schema.kind? name).any TypeKind.isInput = true)
    (created : Generator.create schema settings documents external = .ok generator) :
    ∃ types : List TypeDefinition,
      generator.supporting = .ok (types.map generator.scope.typeDeclaration) ∧
      types.Sublist schema.types ∧ (types.map TypeDefinition.name).Nodup ∧
      (∀ type, type ∈ types ↔ schema.AsksFor (Document.variableTypeNames documents) type) ∧
      (∀ type ∈ types, ∀ property ∈ generator.scope.typeProperties type,
        ∃ field ∈ type.inputFields, ∃ reference, property.1.name = field.name ∧
          property.2 = .marked field.type reference ∧
          generator.scope.Resolves types field.type.base reference) ∧
      (∀ operation ∈ generator.operations,
        ∀ property ∈ generator.scope.variableProperties operation.declaredVariables,
          ∃ declared ∈ operation.declaredVariables, ∃ reference,
            property.1.name = declared.name ∧ property.2 = .marked declared.type reference ∧
            (generator.scope.Resolves types declared.type.base reference ↔
              ¬ schema.Unlisted settings declared.type.base)) ∧
      ∀ others external' other, Generator.create schema settings others external' = .ok other →
        (∀ name, name ∈ Document.variableTypeNames others ↔
          name ∈ Document.variableTypeNames documents) →
        other.supporting = generator.supporting := by
  obtain ⟨types, supports, sublist, distinct, asked⟩ :=
    Schema.supportingTypes_asked built isWritten inputs
  have isSupporting : generator.supporting = .ok (types.map generator.scope.typeDeclaration) := by
    rw [Generator.supporting_of_create created, Generator.toScope_of_create created,
      Scope.supportingDeclarations, supports]
    rfl
  refine ⟨types, isSupporting, sublist, distinct, asked, ?_, ?_, ?_⟩
  · intro type listed property inside
    -- An input object that a field refers to is asked for through the field.
    have isAsked := (asked type).mp listed
    obtain ⟨field, isField, rfl⟩ := (Scope.mem_typeProperties isAsked.kind).mp inside
    refine ⟨field, isField, _, rfl, rfl, ?_⟩
    have inField := Document.isInput_of_toSchema built (Schema.mem_of_type? isAsked.found) isField
    rw [Generator.toScope_of_create created]
    exact Scope.resolves_namedRef inField
      (fun other found kind => (asked other).mpr (.field isAsked isField found kind)) .input
  · intro operation listed property inside
    obtain ⟨declared, own, rfl⟩ := List.mem_map.mp inside
    refine ⟨declared, own, _, rfl, rfl, ?_⟩
    have isSeed := Generator.mem_variableTypeNames created listed own
    rw [Generator.toScope_of_create created]
    refine Scope.resolves_variableRef_iff rfl (inputs _ isSeed) (fun type found => ?_)
      fun type isType => ((asked type).mp isType).found
    exact ⟨fun isType => ((asked type).mp isType).kind,
      fun kind => (asked type).mpr (.seed isSeed found kind)⟩
  · intro others external' other created' same
    rw [Generator.supporting_of_create created, Generator.supporting_of_create created',
      Scope.supportingDeclarations, Scope.supportingDeclarations]
    show (Schema.supportingTypes schema _ >>= _) = (Schema.supportingTypes schema _ >>= _)
    rw [Schema.supportingTypes_congr same]

/-- A module of operations without variables is made if each of its parts is, where no types are
needed. -/
theorem Generator.exists_generateModule {schema : Schema} {settings : Settings}
    {documents : List Document} {external : List LoadedFragment} {generator : Generator}
    (created : create schema settings documents external = .ok generator)
    (none : ∃ supporting, Scope.supportingDeclarations { schema, settings } [] = .ok supporting)
    (operations : ∀ operation ∈ generator.operations, operation.declaredVariables = [] ∧
      ∃ root, schema.root? operation.kind = some root ∧
        ∃ part, generator.Part root operation.selections part)
    (fragments : ∀ fragment ∈ generator.fragments, ∃ part,
      generator.Part fragment.onType fragment.selections part)
    (imports : ∃ imports, generator.fragmentImports = .ok imports) :
    ∃ generated, generateModule schema settings documents external = .ok generated := by
  have scope := toScope_of_create created
  -- Without variables there are no names to look types up for.
  have noNames : Document.variableTypeNames generator.documents = [] := by
    rw [variableTypeNames_eq, List.flatMap_map, List.flatMap_eq_nil_iff.mpr, List.eraseDups_nil]
    intro operation listed
    rw [(operations operation listed).1, List.map_nil]
  obtain ⟨declarations, made⟩ := generator.exists_declarations 0
    (by rwa [Generator.supporting, noNames, scope])
    (fun operation listed => by
      obtain ⟨-, root, isRoot, part, isPart⟩ := operations operation listed
      exact ⟨root, part, by rw [scope, isRoot], isPart⟩) fragments
  obtain ⟨imports, imported⟩ := imports
  obtain ⟨generated, succeeds⟩ := exists_module made imported
  exact ⟨generated, generateModule_eq_ok.mpr ⟨generator, created, succeeds⟩⟩

/-- On pets no types are needed where there are no variables. -/
theorem exists_supporting_pets (settings : Settings) : ∃ supporting,
    Scope.supportingDeclarations { schema := Schema.pets, settings } [] = .ok supporting := by
  obtain ⟨types, isTypes⟩ : ∃ types, Schema.pets.supportingTypes [] = .ok types :=
    exists_ok (by decide +kernel)
  exact ⟨_, bind_eq_ok.mpr ⟨types, isTypes, rfl⟩⟩

/-! ### A scalar with a reserved name -/

/-- Definitions of an input object that refers to itself and of a scalar with a reserved name. -/
def momentDefinitions : Document :=
  let count : FieldDefinition := ⟨none, "a", [], .named "Int", []⟩
  ⟨[.type ⟨none, "__Moment", [], .scalar⟩,
    .type ⟨none, "Filter", [], .inputObject [⟨none, "inner", .named "Filter", none, []⟩]⟩,
    .type ⟨none, "Query", [], .object [] [count]⟩]⟩

/-- The schema of these definitions. -/
def momentSchema : Schema where
  description := none
  roots := [(.query, "Query")]
  types := momentDefinitions.definedTypes
    ++ ["String", "Int", "Boolean"].map Schema.builtInScalar ++ Schema.introspectionTypes
  directives := Schema.standardDirectives

/-- The definitions make this schema. -/
theorem toSchema_momentDefinitions : momentDefinitions.toSchema = .ok momentSchema :=
  rfl

/-- The schema can be written as a document. -/
theorem exists_document_momentSchema : ∃ written, momentSchema.document = .ok written :=
  exists_ok (by decide +kernel)

/-- A query with a variable of the input object and one of the scalar. -/
def momentQuery : Document :=
  let filter : VariableDefinition := ⟨none, "filter", .named "Filter", none, []⟩
  let moment : VariableDefinition := ⟨none, "at", .named "__Moment", none, []⟩
  ⟨[.operation ⟨.query, some "Q", [filter, moment], [], [.field ⟨none, "a", [], []⟩ []]⟩]⟩

/-- The generator of the query. -/
def momentGenerator : Generator where
  scope :=
    { schema := momentSchema, settings := {},
      fragments := FragmentTable.ofDocuments [] [momentQuery] }
  documents := [momentQuery]

/-- This is the generator that is created for the query. -/
theorem create_momentGenerator :
    Generator.create momentSchema {} [momentQuery] [] = .ok momentGenerator :=
  rfl

/-- The input object is declared, and the variables refer to declared types unless the table misses
their scalar. -/
theorem supporting_momentQuery :
    momentDefinitions.toSchema = .ok momentSchema ∧
    (∃ written, momentSchema.document = .ok written) ∧
    (∀ name ∈ Document.variableTypeNames [momentQuery],
      (momentSchema.kind? name).any TypeKind.isInput = true) ∧
    Generator.create momentSchema {} [momentQuery] [] = .ok momentGenerator ∧
    ∃ types : List TypeDefinition,
      momentGenerator.supporting = .ok (types.map momentGenerator.scope.typeDeclaration) ∧
      (∀ type, type ∈ types ↔
        momentSchema.AsksFor (Document.variableTypeNames [momentQuery]) type) ∧
      ∀ operation ∈ momentGenerator.operations,
        ∀ property ∈ momentGenerator.scope.variableProperties operation.declaredVariables,
          ∃ declared ∈ operation.declaredVariables, ∃ reference,
            property.1.name = declared.name ∧ property.2 = .marked declared.type reference ∧
            (momentGenerator.scope.Resolves types declared.type.base reference ↔
              ¬ momentSchema.Unlisted {} declared.type.base) := by
  obtain ⟨written, isWritten⟩ := exists_document_momentSchema
  have names : Document.variableTypeNames [momentQuery] = ["Filter", "__Moment"] := rfl
  have inputs : ∀ name ∈ Document.variableTypeNames [momentQuery],
      (momentSchema.kind? name).any TypeKind.isInput = true := by
    rw [names]
    decide +kernel
  obtain ⟨types, isSupporting, -, -, asked, -, variablesResolve, -⟩ :=
    supporting_declared_exactly toSchema_momentDefinitions isWritten inputs create_momentGenerator
  exact ⟨toSchema_momentDefinitions, ⟨written, isWritten⟩, inputs, create_momentGenerator, types,
    isSupporting, asked, variablesResolve⟩

/-- The variable of the scalar refers to a type that is not declared. -/
theorem unresolved_moment :
    momentDefinitions.toSchema = .ok momentSchema ∧
    (∃ written, momentSchema.document = .ok written) ∧
    momentSchema.kind? "__Moment" = some .scalar ∧
    Generator.create momentSchema {} [momentQuery] [] = .ok momentGenerator ∧
    (∃ operation ∈ momentGenerator.operations,
      ∃ property ∈ momentGenerator.scope.variableProperties operation.declaredVariables,
        property.2 = .marked (.named "__Moment") (.declared "__Moment")) ∧
    ∀ types : List TypeDefinition,
      momentGenerator.supporting = .ok (types.map momentGenerator.scope.typeDeclaration) →
      ¬ momentGenerator.scope.Resolves types "__Moment" (.declared "__Moment") := by
  refine ⟨toSchema_momentDefinitions, exists_document_momentSchema, by decide +kernel,
    create_momentGenerator, ?_, fun types isSupporting resolves => ?_⟩
  · exact ⟨_, List.mem_singleton_self _, _, List.mem_cons_of_mem _ (List.mem_singleton_self _), rfl⟩
  · -- Only the input object is declared, and its declaration has another name.
    have names : momentGenerator.supporting.map (List.map (Declaration.name {}))
        = .ok ["Filter"] := by decide +kernel
    rw [isSupporting] at names
    have declarations : (types.map momentGenerator.scope.typeDeclaration).map (Declaration.name {})
        = ["Filter"] := Except.ok.inj names
    cases resolves with
    | @declared type listed own spelled =>
      have inside : (momentGenerator.scope.typeDeclaration type).name {} ∈ ["Filter"] := by
        rw [← declarations]
        exact List.mem_map_of_mem (List.mem_map_of_mem listed)
      have other : (TypeExpr.declared "__Moment").render {} ≠ "Filter" := by decide +kernel
      exact other (spelled.trans (List.mem_singleton.mp inside))

end SelectionTypes

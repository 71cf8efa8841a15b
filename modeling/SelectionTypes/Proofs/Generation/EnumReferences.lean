import SelectionTypes.Proofs.Generation.InputReferences

/-!
# `SelectionTypes.Proofs.Generation.EnumReferences`: references to enums

The global module declares each enum of the schema once (`forall₂_enumDeclarations`), and other
modules refer to the enums by the names of these declarations.

What stands for a type is under the list and null marks of that type. In types of selections, in
aliases and in supporting types, what stands under the marks of a leaf is the reference of its name
(`Generator.ref_of_marked`), since a field of a leaf type cannot be exported. For variables this
takes the table of scalars into account, which has an enum only if the settings list it.

`enum_references_resolve` puts this together. An enum that the settings list as a scalar is a text
in the types of variables: `text_for_status`.
-/

set_option autoImplicit false

namespace SelectionTypes

open Outcome
open TypeScript (TypeExpr Declaration EnumMember)

/-! ### What stands for a leaf -/

namespace TypeScript.TypeExpr

/-- What stands within a type with marks is that type, or it stands within the base of it. -/
theorem within_marked_iff {part base : TypeExpr} {type : TypeRef} :
    part.Within (.marked type base) ↔ part = .marked type base ∨ part.Within base := by
  constructor
  · intro within
    cases within with
    | self => exact .inl rfl
    | marked inside => exact .inr inside
  · rintro (rfl | inside)
    · exact .self
    · exact .marked inside

end TypeScript.TypeExpr

namespace Scope

variable {scope : Scope} {marks : TypeRef} {reference : TypeExpr} {name : String} {side : Side}

/-- The reference of a name has no marks. -/
theorem not_marked_within_namedRef :
    ¬ (TypeExpr.marked marks reference).Within (scope.namedRef name side) := by
  intro within
  have same := eq_of_within_namedRef within
  rcases scope.namedRef_cases name side with ⟨types, -, other⟩ | other | other | other <;>
    cases same.trans other

/-- The reference of a variable has no marks. -/
theorem not_marked_within_variableRef :
    ¬ (TypeExpr.marked marks reference).Within (scope.variableRef name) := by
  intro within
  have same := eq_of_within_variableRef within
  rcases scope.variableRef_cases name with ⟨types, side, -, other⟩ | other | other <;>
    cases same.trans other

end Scope

namespace SelectionScope

variable {scope : SelectionScope} {expression : TypeExpr} {inner : Inner} {parent : String}
variable {selections : List Selection}

/-- What stands for a leaf in a type expression is the reference of its name. -/
def RefersToLeaves (scope : SelectionScope) (expression : TypeExpr) : Prop :=
  ∀ marks reference, (TypeExpr.marked marks reference).Within expression →
    scope.schema.isLeaf marks.base = true → reference = scope.namedRef marks.base .output

/-- One level of a type refers to leaves by their names, if the types below do. -/
theorem refersToLeaves_of_objectShape
    (below : ∀ type selections expression, inner type selections = .ok expression →
      scope.RefersToLeaves expression) {fields : List SelectedField}
    (succeeds : scope.objectShape inner parent fields = .ok expression) :
    scope.RefersToLeaves expression := by
  intro marks reference within leaf
  rcases within_objectShape succeeds within with rfl | ⟨_, same⟩ | ⟨_, -, type, _, isType, inside⟩
  · obtain ⟨_, -, same⟩ := objectShape_eq_ok.mp succeeds
    cases same
  · cases same
  · -- An exported field and a field with sub-selections are of no leaf type.
    rcases groupType_eq_ok isType with
      ⟨noLeaf, -, -, name, -, rfl⟩ | ⟨-, rfl⟩ | ⟨noLeaf, deeper, isDeeper, rfl⟩
    · rcases TypeExpr.within_marked_iff.mp inside with same | inside
      · cases same
        rw [noLeaf] at leaf
        cases leaf
      · cases inside
    · rcases TypeExpr.within_marked_iff.mp inside with same | inside
      · cases same
        rfl
      · exact absurd inside Scope.not_marked_within_namedRef
    · rcases TypeExpr.within_marked_iff.mp inside with same | inside
      · cases same
        rw [noLeaf] at leaf
        cases leaf
      · exact below _ _ _ isDeeper marks reference inside leaf

/-- The type of selections refers to leaves by their names. -/
theorem refersToLeaves_of_typeWithin (bound : Nat)
    (succeeds : scope.typeWithin bound parent selections = .ok expression) :
    scope.RefersToLeaves expression := by
  induction bound generalizing parent selections expression with
  | zero => cases succeeds
  | succ bound ih =>
    obtain ⟨flattened, shapes, -, each, rfl⟩ := typeWithin_eq_ok.mp succeeds
    intro marks reference within leaf
    cases within with
    | shape listed inside =>
      obtain ⟨entry, -, isShape⟩ := Lists.exists_of_mem_right each listed
      exact refersToLeaves_of_objectShape (fun _ _ _ => ih) isShape marks reference inside leaf

/-- The shape of an alias refers to leaves by their names. -/
theorem refersToLeaves_of_shape {exported : ExportedAlias}
    (succeeds : exported.shape scope = .ok expression) : scope.RefersToLeaves expression := by
  obtain ⟨_, _, ⟨_, rfl⟩ | ⟨_, isShape⟩⟩ := ExportedAlias.shape_eq_ok.mp succeeds
  · intro marks reference within
    cases within
  · obtain ⟨flattened, -, isObject⟩ := bind_eq_ok.mp isShape
    exact refersToLeaves_of_objectShape (fun _ _ _ => refersToLeaves_of_typeWithin _) isObject

end SelectionScope

/-- What stands for a leaf in a declaration is the reference of its name, or the reference for a
variable where the declaration is the type of variables. -/
theorem Generator.ref_of_marked {generator : Generator} {unnamed : Nat}
    {declarations : List Declaration} {declaration : Declaration} {type reference : TypeExpr}
    {marks : TypeRef} (made : generator.declarations unnamed = .ok declarations)
    (listed : declaration ∈ declarations) (isType : type ∈ declaration.types)
    (within : (TypeExpr.marked marks reference).Within type)
    (leaf : generator.scope.schema.isLeaf marks.base = true) :
    (∃ side, reference = generator.scope.namedRef marks.base side) ∨
      reference = generator.scope.variableRef marks.base ∧
        ∃ name declared, declaration = generator.scope.variablesDeclaration name declared := by
  -- One case for each kind of declaration: only the variables of operations ask in their own way.
  cases makes_of_mem made listed with
  | supporting definition =>
    rcases Scope.type_of_typeDeclaration isType with ⟨_, rfl⟩ | ⟨own, side, rfl⟩
    · cases within
    · rcases TypeExpr.within_marked_iff.mp within with same | inside
      · cases same
        exact .inl ⟨side, rfl⟩
      · exact absurd inside Scope.not_marked_within_namedRef
  | ofVariables name declared =>
    rcases Scope.type_of_variablesDeclaration isType with rfl | ⟨own, -, rfl⟩
    · cases within
    · rcases TypeExpr.within_marked_iff.mp within with same | inside
      · cases same
        exact .inr ⟨rfl, name, declared, rfl⟩
      · exact absurd inside Scope.not_marked_within_variableRef
  | selections typed name =>
    cases List.mem_singleton.mp isType
    exact .inl ⟨.output,
      SelectionScope.refersToLeaves_of_typeWithin _ typed marks reference within leaf⟩
  | aliases shaped name =>
    obtain ⟨exported, isShape⟩ := shaped type isType
    exact .inl ⟨.output,
      SelectionScope.refersToLeaves_of_shape isShape marks reference within leaf⟩

/-! ### References of enums -/

namespace Scope

variable {scope : Scope} {name other : String} {side : Side}

/-- A name is written as an enum exactly if it is one. -/
theorem namedRef_eq_enumEntry_iff :
    scope.namedRef name side = .enumEntry other ↔
      name = other ∧ scope.schema.kind? name = some .enum := by
  -- A scalar is a text or an entry of the other table, never an enum.
  have scalar : scope.scalarRef name side ≠ .enumEntry other := by
    unfold scalarRef
    split
    · split <;> simp
    · simp
  unfold namedRef
  split
  · next isScalar => simp [scalar, isScalar]
  · next isEnum => simp [isEnum]
  · next kind _ noEnum isKind => simpa [isKind] using fun _ => noEnum
  · next missing => split <;> simp [scalar, missing]

/-- A variable is written as an enum exactly if its type is one that the table does not have. -/
theorem variableRef_eq_enumEntry_iff :
    scope.variableRef name = .enumEntry other ↔
      name = other ∧ scope.schema.kind? name = some .enum ∧ scope.scalars.lookup name = none := by
  unfold variableRef
  cases scope.scalars.lookup name with
  | some entry => simp
  | none =>
    by_cases isEnum : scope.schema.kind? name = some .enum
    · simp [isEnum]
    · simp [isEnum]

end Scope

/-! ### The enums of the global module -/

/-- A declaration of an enum has the name of the enum and, in order, the names of its values. -/
def TypeDefinition.IsDeclaredBy (type : TypeDefinition) (block : Declaration) : Prop :=
  ∃ description values members, type.body = .enum values ∧
    block = .enum type.name description members ∧
    members.map EnumMember.value = values.map EnumValueDefinition.name

/-- A reference to an enum is the name of its declaration, in the global module. -/
theorem TypeDefinition.IsDeclaredBy.render {type : TypeDefinition} {block : Declaration}
    (declared : type.IsDeclaredBy block) (settings : Settings) :
    (TypeExpr.enumEntry type.name).render settings =
      settings.namespaceDot ++ block.name settings := by
  obtain ⟨_, _, _, -, rfl, -⟩ := declared
  rw [TypeExpr.render]
  rfl

/-- The enums that a document defines, with their extensions. -/
def Document.enums (document : Document) : List TypeDefinition :=
  document.definedTypes.filter fun type => type.kind == .enum

/-- Each enum among types without reserved names is declared, in order. -/
theorem Settings.forall₂_enumDeclarations (settings : Settings) {types : List TypeDefinition}
    (plain : ∀ type ∈ types, isIntrospectionName type.name = false) :
    List.Forall₂ TypeDefinition.IsDeclaredBy (types.filter fun type => type.kind == .enum)
      (types.filterMap fun type => settings.enumDeclaration? (.type type)) := by
  -- Two lists of one order: an enum is declared, and any other type is left out.
  refine Lists.forall₂_filterMap (fun type listed isEnum => ?_) fun type listed noEnum => ?_
  · rw [beq_iff_eq, TypeDefinition.kind] at isEnum
    unfold enumDeclaration?
    cases body : type.body with
    | enum values =>
      simp only [body, plain type listed, Bool.false_eq_true, if_false]
      exact ⟨_, rfl, _, values, _, body, rfl, by rw [List.map_map]; rfl⟩
    | scalar => simp [body] at isEnum
    | object => simp [body] at isEnum
    | interface => simp [body] at isEnum
    | union => simp [body] at isEnum
    | inputObject => simp [body] at isEnum
  · rw [TypeDefinition.kind] at noEnum
    unfold enumDeclaration?
    cases body : type.body <;> simp_all

namespace Schema

variable {schema : Schema} {sdl : Document}

/-- The own types of a schema that is built are those that its document defines, apart from those
that built-in types take the place of. -/
theorem ownTypes_of_toSchema (built : sdl.toSchema = .ok schema) :
    schema.ownTypes = sdl.definedTypes.filter fun type => (builtIn? type.name).isNone := by
  obtain ⟨-, -, directives, roots, types⟩ := Document.of_toSchema built
  have builtIn : ∀ type ∈ builtInScalarNames.map builtInScalar ++ introspectionTypes,
      (builtIn? type.name).isNone = false := by decide
  have implied : (Document.impliedTypes sdl.definedTypes directives roots).filter
      (fun type => (builtIn? type.name).isNone) = [] := by
    refine List.filter_eq_nil_iff.mpr fun type listed => ?_
    simp [builtIn type (Document.mem_builtIn_of_mem_impliedTypes listed)]
  unfold ownTypes
  rw [types, List.filter_append, implied, List.append_nil]

/-- No built-in type takes the place of an enum without a reserved name. -/
theorem builtIn?_of_enum (built : sdl.toSchema = .ok schema) {type : TypeDefinition}
    (inside : type ∈ schema.types) (kind : type.kind = .enum)
    (plain : isIntrospectionName type.name = false) : builtIn? type.name = none := by
  have reserved : ∀ type ∈ builtInScalarNames.map builtInScalar ++ introspectionTypes,
      type.kind = .enum → isIntrospectionName type.name = true := by decide
  refine (Document.builtIn?_or_mem_of_toSchema built inside).resolve_right fun builtIn => ?_
  rw [reserved type builtIn kind] at plain
  cases plain

/-- The enums that a document defines are types of its schema under their names. -/
theorem type?_of_mem_enums (built : sdl.toSchema = .ok schema) {type : TypeDefinition}
    (listed : type ∈ sdl.enums) : schema.type? type.name = some type ∧ type.kind = .enum := by
  obtain ⟨defined, isEnum⟩ := List.mem_filter.mp listed
  obtain ⟨-, -, directives, roots, types⟩ := Document.of_toSchema built
  have inside : type ∈ schema.types := by
    rw [types]
    exact List.mem_append_left _ defined
  exact ⟨(Document.wellFormed_of_toSchema built).type?_name inside, by simpa using isEnum⟩

/-- An enum without a reserved name is one that the document defines. -/
theorem exists_mem_enums (built : sdl.toSchema = .ok schema) {name : String}
    (isEnum : schema.kind? name = some .enum) (plain : isIntrospectionName name = false) :
    ∃ enum ∈ sdl.enums, enum.name = name := by
  obtain ⟨type, found, kind⟩ := kind?_eq_some.mp isEnum
  have named := name_of_type? found
  have own : type ∈ schema.ownTypes := by
    refine List.mem_filter.mpr ⟨mem_of_type? found, ?_⟩
    rw [builtIn?_of_enum built (mem_of_type? found) kind (named ▸ plain)]
    rfl
  rw [ownTypes_of_toSchema built] at own
  exact ⟨type, List.mem_filter.mpr ⟨List.mem_of_mem_filter own, by simpa using kind⟩, named⟩

/-- The global module declares the enums of the document of the schema, in order. -/
theorem exists_blocks (built : sdl.toSchema = .ok schema)
    (plain : ∀ type ∈ sdl.definedTypes, isIntrospectionName type.name = false)
    (isWritten : ∃ written, schema.document = .ok written) (settings : Settings) :
    ∃ blocks, List.Forall₂ TypeDefinition.IsDeclaredBy sdl.enums blocks ∧
      ∃ global, schema.globalModule settings = .ok global ∧
        global.content = TypeScript.renderAll settings blocks := by
  obtain ⟨written, isWritten⟩ := isWritten
  -- The types that the document defines itself are those that are not built in, and no enum is
  -- built in.
  have enums : (schema.ownTypes.filter fun type => type.kind == .enum) = sdl.enums := by
    rw [ownTypes_of_toSchema built, List.filter_filter, Document.enums]
    refine List.filter_congr fun type listed => ?_
    by_cases isEnum : type.kind = .enum
    · have isListed : type ∈ sdl.enums := List.mem_filter.mpr ⟨listed, by simpa using isEnum⟩
      have inside := mem_of_type? (type?_of_mem_enums built isListed).1
      simp [builtIn?_of_enum built inside isEnum (plain type listed)]
    · simp [isEnum]
  have own : ∀ type ∈ schema.ownTypes, isIntrospectionName type.name = false := by
    rw [ownTypes_of_toSchema built]
    exact fun type listed => plain type (List.mem_of_mem_filter listed)
  refine ⟨_, enums ▸ settings.forall₂_enumDeclarations own, ?_⟩
  refine ⟨_, bind_eq_ok.mpr ⟨written, isWritten, rfl⟩, ?_⟩
  rw [document_eq_ok isWritten]
  show TypeScript.renderAll settings (schema.definitions.filterMap _) = _
  -- Directives and the roots give no declaration, so only the types are left.
  rw [filterMap_definitions (fun _ => rfl) (fun _ => rfl)]

end Schema

/-- The types of variables are among the declarations of a module, one for each operation. -/
theorem Generator.exists_variablesDeclaration {generator : Generator} {unnamed : Nat}
    {declarations : List Declaration} (made : generator.declarations unnamed = .ok declarations)
    {operation : Operation} (listed : operation ∈ generator.operations) :
    ∃ name, generator.scope.variablesDeclaration name operation.declaredVariables
      ∈ declarations := by
  obtain ⟨supporting, _, fragments, -, written, -, rfl⟩ := declarations_eq_ok.mp made
  obtain ⟨parts, rfl, each⟩ := parts_of_operationsDeclarations written
  obtain ⟨part, isPart, unnamed, isOwn⟩ := Lists.exists_of_mem_left each listed
  -- The type of the variables stands in front of the other declarations of the operation.
  obtain ⟨root, -, own⟩ := operationDeclarations_eq_ok.mp isOwn
  obtain ⟨aliases, type, exported, -, -, -, rfl⟩ := selectionDeclarations_eq_ok.mp own
  refine ⟨(generator.operationName unnamed operation).1 ++ "Variables",
    List.mem_append_left _ (List.mem_append_right _ ?_)⟩
  exact List.mem_flatten_of_mem isPart List.mem_cons_self

/-- Where no type has a reserved name, the global module declares the enums of the schema, one after
the other and each with its values. What stands for an enum in a module is the reference whose text
is the name of the declaration of this enum, in the global module. The only exception are variables
of an enum that the settings list as a scalar: a variable refers to its enum exactly if they do not.
Each reference to an enum is one to a declared enum, or to one that describes schemas. -/
theorem enum_references_resolve {sdl : Document} {schema : Schema} {settings : Settings}
    {documents : List Document} {external : List LoadedFragment} {generator : Generator}
    {unnamed : Nat} {declarations : List Declaration} (built : sdl.toSchema = .ok schema)
    (plain : ∀ type ∈ sdl.definedTypes, isIntrospectionName type.name = false)
    (isWritten : ∃ written, schema.document = .ok written)
    (created : Generator.create schema settings documents external = .ok generator)
    (made : generator.declarations unnamed = .ok declarations) :
    ∃ blocks,
      (∃ global, schema.globalModule settings = .ok global ∧
        global.content = TypeScript.renderAll settings blocks) ∧
      (sdl.enums.map TypeDefinition.name).Nodup ∧
      List.Forall₂ (fun enum block => enum.IsDeclaredBy block ∧
        (TypeExpr.enumEntry enum.name).render settings =
          settings.namespaceDot ++ block.name settings) sdl.enums blocks ∧
      (∀ enum ∈ sdl.enums, ∀ declaration ∈ declarations, ∀ type ∈ declaration.types,
        ∀ marks reference, (TypeExpr.marked marks reference).Within type →
          marks.base = enum.name → reference = .enumEntry enum.name ∨
            enum.name ∈ settings.scalars.map Prod.fst ∧ ∃ name declared,
              declaration = generator.scope.variablesDeclaration name declared) ∧
      (∀ enum ∈ sdl.enums, ∀ declared : VariableDefinition, declared.type.base = enum.name →
        ((generator.scope.variableProperty declared).2 =
            .marked declared.type (.enumEntry enum.name) ↔
          enum.name ∉ settings.scalars.map Prod.fst)) ∧
      ∀ declaration ∈ declarations, ∀ type ∈ declaration.types, ∀ name,
        (TypeExpr.enumEntry name).Within type →
          (∃ enum ∈ sdl.enums, enum.name = name) ∨ isIntrospectionName name = true := by
  have scope : generator.scope.toScope = { schema, settings } :=
    Generator.toScope_of_create created
  have isSchema : generator.scope.schema = schema := congrArg Scope.schema scope
  have kind : ∀ enum ∈ sdl.enums, schema.kind? enum.name = some .enum := fun enum listed =>
    Schema.kind?_eq_some.mpr ⟨enum, Schema.type?_of_mem_enums built listed⟩
  -- A variable refers to an enum unless the table has it, which only the settings bring there.
  have ofVariable : ∀ enum ∈ sdl.enums,
      generator.scope.variableRef enum.name = .enumEntry enum.name ↔
        enum.name ∉ settings.scalars.map Prod.fst := by
    intro enum listed
    have keys := Schema.mem_keys_scalarTable_of_kind built settings (kind enum listed) (by decide)
    rw [scope, Scope.variableRef_eq_enumEntry_iff, ← keys, exists_lookup, not_exists,
      ← Option.eq_none_iff_forall_ne_some]
    exact ⟨fun both => both.2.2, fun none => ⟨rfl, kind enum listed, none⟩⟩
  obtain ⟨blocks, declared, global, isGlobal, content⟩ :=
    Schema.exists_blocks built plain isWritten settings
  refine ⟨blocks, ⟨global, isGlobal, content⟩, ?_, declared.imp fun enum block isDeclared =>
    ⟨isDeclared, isDeclared.render settings⟩, ?_, fun enum listed definition own => ?_, ?_⟩
  · have distinct := Document.nodup_definedTypes (Document.of_toSchema built).1
    exact distinct.sublist (List.Sublist.map _ List.filter_sublist)
  · intro enum listed declaration inside type isType marks reference within own
    have leaf : generator.scope.schema.isLeaf marks.base = true := by
      rw [isSchema, own, Schema.isLeaf, kind enum listed]
      rfl
    rcases Generator.ref_of_marked made inside isType within leaf with
      ⟨side, rfl⟩ | ⟨rfl, name, others, same⟩
    · rw [own, scope]
      exact .inl (Scope.namedRef_eq_enumEntry_iff.mpr ⟨rfl, kind enum listed⟩)
    · rw [own]
      by_cases isListed : enum.name ∈ settings.scalars.map Prod.fst
      · exact .inr ⟨isListed, name, others, same⟩
      · exact .inl ((ofVariable enum listed).mpr isListed)
  · rw [← ofVariable enum listed, ← own]
    show TypeExpr.marked _ _ = _ ↔ _
    rw [TypeExpr.marked.injEq, and_iff_right rfl]
  · intro declaration inside type isType name within
    have isEnum : schema.kind? name = some .enum := by
      rcases Generator.exists_ref_of_within rfl made inside isType within with
        ⟨other, side, same⟩ | ⟨other, same⟩
      · obtain ⟨rfl, isEnum⟩ := Scope.namedRef_eq_enumEntry_iff.mp same
        rwa [isSchema] at isEnum
      · obtain ⟨rfl, isEnum, -⟩ := Scope.variableRef_eq_enumEntry_iff.mp same
        rwa [isSchema] at isEnum
    cases reserved : isIntrospectionName name with
    | true => exact .inr rfl
    | false => exact .inl (Schema.exists_mem_enums built isEnum reserved)

/-! ### An enum that the settings list -/

/-- Definitions of an enum and of a query that takes and gives it. -/
def statusDefinitions : Document :=
  let argument : InputDefinition := ⟨none, "of", .named "Status", none, []⟩
  ⟨[.type ⟨none, "Status", [], .enum [⟨none, "OPEN", []⟩]⟩,
    .type ⟨none, "Query", [], .object [] [⟨none, "status", [argument], .named "Status", []⟩]⟩]⟩

/-- The schema of these definitions. -/
def statusSchema : Schema where
  description := none
  roots := [(.query, "Query")]
  types := statusDefinitions.definedTypes ++ ["String", "Boolean"].map Schema.builtInScalar
    ++ Schema.introspectionTypes
  directives := Schema.standardDirectives

/-- The definitions make this schema. -/
theorem toSchema_statusDefinitions : statusDefinitions.toSchema = .ok statusSchema :=
  rfl

/-- Settings that list the enum as a scalar. -/
def statusSettings : Settings :=
  { scalars := [("Status", .both "string")] }

/-- A query that takes and gives the enum. -/
def statusQuery : Operation :=
  ⟨.query, some "Q", [⟨none, "of", .named "Status", none, []⟩], [],
    [.field ⟨none, "status", [⟨"of", .variable "of", 0⟩], []⟩ []]⟩

/-- The generator of the query. -/
def statusGenerator : Generator where
  scope :=
    { schema := statusSchema, settings := statusSettings,
      fragments := FragmentTable.ofDocuments [] [⟨[.operation statusQuery]⟩] }
  documents := [⟨[.operation statusQuery]⟩]

/-- This is the generator that is created for the query. -/
theorem create_statusGenerator :
    Generator.create statusSchema statusSettings [⟨[.operation statusQuery]⟩] [] =
      .ok statusGenerator :=
  rfl

/-- The query has declarations. -/
theorem exists_declarations_statusGenerator :
    ∃ declarations, statusGenerator.declarations 0 = .ok declarations := by
  have supporting : ∃ supporting, statusGenerator.supporting = .ok supporting :=
    exists_ok (by decide +kernel)
  have part : ∃ part, statusGenerator.Part "Query" statusQuery.selections part :=
    Generator.exists_part_iff.mpr ⟨exists_ok (by cbv), exists_ok (by decide +kernel)⟩
  exact statusGenerator.exists_declarations_of_operation 0 rfl supporting rfl part

/-- What stands for the enum is a reference to it, apart from the types of variables. -/
theorem references_to_status :
    statusDefinitions.toSchema = .ok statusSchema ∧
    (∀ type ∈ statusDefinitions.definedTypes, isIntrospectionName type.name = false) ∧
    (∃ written, statusSchema.document = .ok written) ∧
    Generator.create statusSchema statusSettings [⟨[.operation statusQuery]⟩] [] =
      .ok statusGenerator ∧
    ∃ declarations, statusGenerator.declarations 0 = .ok declarations ∧
      ∀ enum ∈ statusDefinitions.enums, ∀ declaration ∈ declarations,
        ∀ type ∈ declaration.types, ∀ marks reference,
          (TypeExpr.marked marks reference).Within type → marks.base = enum.name →
            reference = .enumEntry enum.name ∨
              enum.name ∈ statusSettings.scalars.map Prod.fst ∧ ∃ name declared,
                declaration = statusGenerator.scope.variablesDeclaration name declared := by
  have plain : ∀ type ∈ statusDefinitions.definedTypes,
      isIntrospectionName type.name = false := by decide
  have isWritten : ∃ written, statusSchema.document = .ok written := exists_ok (by decide +kernel)
  obtain ⟨declarations, made⟩ := exists_declarations_statusGenerator
  obtain ⟨_, -, -, -, refers, -⟩ := enum_references_resolve toSchema_statusDefinitions plain
    isWritten create_statusGenerator made
  exact ⟨toSchema_statusDefinitions, plain, isWritten, create_statusGenerator, declarations, made,
    refers⟩

/-- The variable of the enum is a text of the settings, and not the name of the declaration of the
enum in the global module. -/
theorem text_for_status :
    statusDefinitions.toSchema = .ok statusSchema ∧
    (∀ type ∈ statusDefinitions.definedTypes, isIntrospectionName type.name = false) ∧
    Generator.create statusSchema statusSettings [⟨[.operation statusQuery]⟩] [] =
      .ok statusGenerator ∧
    ∃ declarations, statusGenerator.declarations 0 = .ok declarations ∧
      ∃ enum ∈ statusDefinitions.enums, ∃ declaration ∈ declarations,
        ∃ type ∈ declaration.types, ∃ marks reference,
          (TypeExpr.marked marks reference).Within type ∧ marks.base = enum.name ∧
            ∀ block : Declaration, enum.IsDeclaredBy block →
              reference.render statusSettings ≠
                statusSettings.namespaceDot ++ block.name statusSettings := by
  obtain ⟨declarations, made⟩ := exists_declarations_statusGenerator
  obtain ⟨name, listed⟩ := Generator.exists_variablesDeclaration made
    (show statusQuery ∈ statusGenerator.operations from List.mem_singleton_self _)
  have other : (TypeExpr.text "string").render statusSettings ≠
      (TypeExpr.enumEntry "Status").render statusSettings := by decide +kernel
  refine ⟨toSchema_statusDefinitions, by decide, create_statusGenerator, declarations, made, _,
    List.mem_singleton_self _, _, listed, _, List.mem_singleton_self _, .named "Status",
    .text "string", .self, rfl, fun block declared => ?_⟩
  rw [← declared.render]
  exact other

end SelectionTypes

import Mathlib
import SelectionTypes.Generation.GlobalTypes
import SelectionTypes.Proofs.Generation.SupportingTypes

/-!
# `SelectionTypes.Proofs.Generation.GlobalReferences`: references into the global module

A module refers to entries of the global table of scalars and to the enums of the global module.
`TypeExpr.Within` says that a type expression is a part of another one, and a part of a shape is a
part of the type of one of its groups (`SelectionScope.within_objectShape`). Types are made of the
references of named types, so a reference into the global module is within a declaration only if it
is the reference of a name (`Generator.exists_ref_of_within`).

A scalar is written as an entry of the table exactly if its text on the side is empty
(`Scope.namedRef_eq_scalarEntry_iff`). The table is the same in both modules, so the entry that is
referred to is there, and its text on that side is empty as well. Such an entry comes from the
settings (`Schema.mem_scalars_of_lookup`).

`scalarEntries_exact` puts this together: where the settings have no empty text, nothing refers to
the table. Otherwise a reference finds an entry without a type: `dangling_date`.
-/

set_option autoImplicit false

namespace SelectionTypes

open Outcome
open TypeScript (TypeExpr Declaration Property)

/-! ### Parts of type expressions -/

namespace TypeScript.TypeExpr

/-- A type expression is a part of another one. -/
inductive Within (part : TypeExpr) : TypeExpr → Prop
  | self : Within part part
  | marked {type : TypeRef} {base : TypeExpr} (inside : Within part base) :
      Within part (.marked type base)
  | property {properties : List Property} {property : Property} (listed : property ∈ properties)
      (inside : Within part property.2) : Within part (.object properties)
  | shape {shapes : List TypeExpr} {shape : TypeExpr} (listed : shape ∈ shapes)
      (inside : Within part shape) : Within part (.union shapes)

/-- Whether a type expression is a reference into the global module. -/
def isGlobal : TypeExpr → Bool
  | .scalarEntry _ _ => true
  | .enumEntry _ => true
  | _ => false

variable {reference : TypeExpr}

/-- Marks are no references into the global module, so such a reference stands within the base. -/
theorem within_of_marked (global : reference.isGlobal = true) {type : TypeRef} {base : TypeExpr}
    (within : reference.Within (.marked type base)) : reference.Within base := by
  cases within with
  | self => cases global
  | marked inside => exact inside

end TypeScript.TypeExpr

/-! ### References of names -/

namespace Scope

variable {scope : Scope} {reference : TypeExpr} {name other : String} {side side' : Side}

/-- The reference of a name has no parts. -/
theorem eq_of_within_namedRef (within : reference.Within (scope.namedRef name side)) :
    reference = scope.namedRef name side := by
  rcases scope.namedRef_cases name side with ⟨types, -, same⟩ | same | same | same <;>
    rw [same] at within ⊢ <;> cases within <;> rfl

/-- The reference of a variable has no parts. -/
theorem eq_of_within_variableRef (within : reference.Within (scope.variableRef name)) :
    reference = scope.variableRef name := by
  rcases scope.variableRef_cases name with ⟨types, side, -, same⟩ | same | same <;>
    rw [same] at within ⊢ <;> cases within <;> rfl

/-- A variable does not refer to the table of scalars. -/
theorem variableRef_ne_scalarEntry (scope : Scope) (name other : String) (side : Side) :
    scope.variableRef name ≠ .scalarEntry other side := by
  rcases scope.variableRef_cases name with ⟨types, side, -, same⟩ | same | same <;>
    rw [same] <;> exact nofun

/-- A name is written as an entry of the table exactly if it is a scalar, or at least no other type
of the schema, and the table has no text for it on that side. -/
theorem namedRef_eq_scalarEntry_iff :
    scope.namedRef name side = .scalarEntry other side' ↔
      (name = other ∧ side = side') ∧
        (scope.schema.kind? name = some .scalar ∨
          scope.schema.kind? name = none ∧ (scope.scalars.lookup name).isSome) ∧
        ∀ entry, scope.scalars.lookup name = some entry → entry.on side = "" := by
  have scalar : scope.scalarRef name side = .scalarEntry other side' ↔
      (name = other ∧ side = side') ∧
        ∀ entry, scope.scalars.lookup name = some entry → entry.on side = "" := by
    unfold scalarRef
    cases found : scope.scalars.lookup name with
    | none => simp
    | some types =>
      by_cases empty : types.on side = ""
      · simp [empty]
      · simp [empty]
  -- Only two of the arms ask the table: scalars, and names that the schema does not have.
  unfold namedRef
  split
  · next isScalar => simp [scalar, isScalar]
  · next isEnum => simp [isEnum]
  · next kind noScalar noEnum isKind =>
    simp only [reduceCtorEq, isKind, Option.some.injEq, false_and, or_false, false_iff, not_and]
    exact fun _ isScalar => absurd isScalar (by simpa using noScalar)
  · next missing =>
    split
    · next listed => simp [scalar, missing, listed]
    · next unlisted => simp [missing, unlisted]

end Scope

/-! ### References of selections -/

namespace SelectionScope

variable {scope : SelectionScope} {reference expression : TypeExpr} {inner : Inner}
variable {parent : String} {selections : List Selection}

/-- What is written for a name of the schema, on the side of results. -/
def Writes (scope : SelectionScope) (reference : TypeExpr) : Prop :=
  ∃ name, scope.namedRef name .output = reference

/-- A part of a shape is the shape, the name of a type, or a part of the type of a group of its
fields. -/
theorem within_objectShape {part : TypeExpr} {fields : List SelectedField}
    (succeeds : scope.objectShape inner parent fields = .ok expression)
    (within : part.Within expression) :
    part = expression ∨ (∃ name, part = .typename name) ∨
      ∃ group ∈ SelectedField.groups fields, ∃ type written,
        scope.groupType inner type (SelectedField.members group) = .ok written ∧
          part.Within written := by
  have ofTypename : ∀ {type : String}, part.Within (.typename type) →
      ∃ name, part = .typename name := fun within => by
    cases within
    exact ⟨_, rfl⟩
  obtain ⟨properties, each, rfl⟩ := objectShape_eq_ok.mp succeeds
  cases within with
  | self => exact .inl rfl
  | @property _ property listed inside =>
    right
    -- The property that tells the type may be in front, or be selected.
    have own : (∃ name, part = .typename name) ∨ property ∈ properties := by
      unfold withTypename at listed
      split at listed
      · rcases List.mem_cons.mp listed with rfl | listed
        · exact .inl (ofTypename inside)
        · exact .inr listed
      · exact .inr listed
    rcases own with typename | own
    · exact .inl typename
    · obtain ⟨group, grouped, isProperty⟩ := Lists.exists_of_mem_right each own
      rcases property_eq_ok isProperty with ⟨-, rfl⟩ | ⟨-, type, -, isType, -⟩
      · exact .inl (ofTypename inside)
      · exact .inr ⟨group, grouped, type, property.2, isType, inside⟩

/-- A reference into the global module that is within a shape is written for a name, if such
references within the types below are. -/
theorem writes_of_objectShape (global : reference.isGlobal = true)
    (below : ∀ type selections expression, inner type selections = .ok expression →
      reference.Within expression → scope.Writes reference)
    {fields : List SelectedField}
    (succeeds : scope.objectShape inner parent fields = .ok expression)
    (within : reference.Within expression) : scope.Writes reference := by
  rcases within_objectShape succeeds within with rfl | ⟨_, rfl⟩ | ⟨_, -, _, _, isType, inside⟩
  · obtain ⟨_, -, same⟩ := objectShape_eq_ok.mp succeeds
    rw [same] at global
    cases global
  · cases global
  · -- The type of a group is that of its export, of its leaf, or of the level below it.
    rcases groupType_eq_ok isType with
      ⟨-, -, -, name, -, same⟩ | ⟨-, same⟩ | ⟨-, deeper, isDeeper, same⟩
    · rw [same] at inside
      cases TypeExpr.within_of_marked global inside
      cases global
    · rw [same] at inside
      exact ⟨_, (Scope.eq_of_within_namedRef (TypeExpr.within_of_marked global inside)).symm⟩
    · rw [same] at inside
      exact below _ _ _ isDeeper (TypeExpr.within_of_marked global inside)

/-- A reference into the global module that is within the type of selections is written for a
name. -/
theorem writes_of_typeWithin (global : reference.isGlobal = true) (bound : Nat)
    (succeeds : scope.typeWithin bound parent selections = .ok expression)
    (within : reference.Within expression) : scope.Writes reference := by
  induction bound generalizing parent selections expression with
  | zero => cases succeeds
  | succ bound ih =>
    obtain ⟨flattened, shapes, -, each, rfl⟩ := typeWithin_eq_ok.mp succeeds
    cases within with
    | self => cases global
    | shape listed inside =>
      obtain ⟨entry, -, isShape⟩ := Lists.exists_of_mem_right each listed
      exact writes_of_objectShape global (fun _ _ _ => ih) isShape inside

/-- A reference into the global module that is within the shape of an alias is written for a
name. -/
theorem writes_of_shape (global : reference.isGlobal = true) {exported : ExportedAlias}
    (succeeds : exported.shape scope = .ok expression) (within : reference.Within expression) :
    scope.Writes reference := by
  obtain ⟨_, _, ⟨_, rfl⟩ | ⟨_, isShape⟩⟩ := ExportedAlias.shape_eq_ok.mp succeeds
  · cases within
    cases global
  · obtain ⟨flattened, -, isObject⟩ := bind_eq_ok.mp isShape
    exact writes_of_objectShape global (fun _ _ _ => writes_of_typeWithin global _) isObject within

end SelectionScope

/-! ### References of a module -/

/-- The types that a declaration is written with. -/
def TypeScript.Declaration.types : Declaration → List TypeExpr
  | .typeAlias _ type => [type]
  | .intersection _ shapes => shapes
  | .object _ _ properties => properties.map Prod.snd
  | .enum _ _ _ => []

namespace Scope

variable {scope : Scope} {reference type : TypeExpr}

/-- The types of the properties of a supporting type are the name of the type, and references to
the types of its fields. -/
theorem type_of_typeDeclaration {definition : TypeDefinition}
    (isType : type ∈ (scope.typeDeclaration definition).types) :
    (∃ name, type = .typename name) ∨ ∃ marks side, type = scope.typeRef marks side := by
  obtain ⟨property, isProperty, rfl⟩ := List.mem_map.mp isType
  unfold typeProperties at isProperty
  simp only [List.mem_append, List.mem_map] at isProperty
  -- The property that tells the type, the fields, and the fields of an input.
  rcases isProperty with (typename | ⟨field, -, rfl⟩) | ⟨input, -, rfl⟩
  · split at typename
    · cases List.mem_singleton.mp typename
      exact .inl ⟨_, rfl⟩
    · cases typename
  · exact .inr ⟨_, _, rfl⟩
  · exact .inr ⟨_, _, rfl⟩

/-- The types of the properties of variables are references to the types of the variables. -/
theorem type_of_variablesDeclaration {name : String} {declared : List VariableDefinition}
    (isType : type ∈ (scope.variablesDeclaration name declared).types) :
    type = noProperties ∨ ∃ definition ∈ declared,
      type = .marked definition.type (scope.variableRef definition.type.base) := by
  unfold variablesDeclaration at isType
  split at isType
  · exact .inl (List.mem_singleton.mp isType)
  · obtain ⟨property, isProperty, rfl⟩ := List.mem_map.mp isType
    obtain ⟨definition, listed, rfl⟩ := List.mem_map.mp isProperty
    exact .inr ⟨definition, listed, rfl⟩

/-- A reference into the global module that is within a supporting type is written for a name. -/
theorem exists_namedRef_of_typeDeclaration (global : reference.isGlobal = true)
    {definition : TypeDefinition} (isType : type ∈ (scope.typeDeclaration definition).types)
    (within : reference.Within type) : ∃ name side, scope.namedRef name side = reference := by
  rcases type_of_typeDeclaration isType with ⟨_, rfl⟩ | ⟨_, _, rfl⟩
  · cases within
    cases global
  · exact ⟨_, _, (eq_of_within_namedRef (TypeExpr.within_of_marked global within)).symm⟩

/-- A reference into the global module that is within the type of variables is written for the type
of one of them. -/
theorem exists_variableRef_of_variablesDeclaration (global : reference.isGlobal = true)
    {name : String} {declared : List VariableDefinition}
    (isType : type ∈ (scope.variablesDeclaration name declared).types)
    (within : reference.Within type) : ∃ name, scope.variableRef name = reference := by
  rcases type_of_variablesDeclaration isType with rfl | ⟨_, -, rfl⟩
  · cases within
    cases global
  · exact ⟨_, (eq_of_within_variableRef (TypeExpr.within_of_marked global within)).symm⟩

end Scope

namespace Generator

/-- What the declarations of a module can be: that of a supporting type, of variables, of the type
of selections, or of the shapes of aliases. -/
inductive Makes (generator : Generator) : Declaration → Prop
  | supporting (type : TypeDefinition) : Makes generator (generator.scope.typeDeclaration type)
  | ofVariables (name : String) (declared : List VariableDefinition) :
      Makes generator (generator.scope.variablesDeclaration name declared)
  | selections {parent : String} {selections : List Selection} {type : TypeExpr}
      (typed : generator.scope.typeOf parent selections = .ok type) (name : String) :
      Makes generator (.typeAlias name type)
  | aliases {shapes : List TypeExpr}
      (shaped : ∀ shape ∈ shapes, ∃ exported : ExportedAlias,
        exported.shape generator.scope = .ok shape) (name : String) :
      Makes generator (.intersection name shapes)

variable {generator : Generator} {unnamed : Nat} {declarations part : List Declaration}
variable {declaration : Declaration}

/-- The declarations of selections are made by the generator if those in front of them are. -/
theorem makes_of_selectionDeclarations {name parent : String} {before : List Declaration}
    {selections : List Selection} (first : ∀ declaration ∈ before, generator.Makes declaration)
    (succeeds : generator.selectionDeclarations name parent before selections = .ok part) :
    ∀ declaration ∈ part, generator.Makes declaration := by
  obtain ⟨aliases, type, exported, -, typed, declares, rfl⟩ :=
    selectionDeclarations_eq_ok.mp succeeds
  obtain ⟨shapes, each, rfl⟩ := ExportedAlias.declare_eq_ok.mp declares
  refine List.forall_mem_append.mpr ⟨first, List.forall_mem_cons.mpr ⟨.selections typed name, ?_⟩⟩
  intro declaration listed
  obtain ⟨own, -, rfl⟩ := List.mem_map.mp listed
  refine .aliases (fun shape isShape => ?_) own
  -- An intersection has the shapes of the aliases of one name.
  obtain ⟨entry, isEntry, rfl⟩ := List.mem_map.mp isShape
  obtain ⟨exported, -, -, shaped⟩ :=
    Lists.exists_of_mem_right each (List.mem_of_mem_filter isEntry)
  exact ⟨exported, shaped⟩

/-- So are those of an operation, which have the type of the variables in front. -/
theorem makes_of_operationDeclarations {operation : Operation}
    (succeeds : (generator.operationDeclarations unnamed operation).1 = .ok part) :
    ∀ declaration ∈ part, generator.Makes declaration := by
  obtain ⟨root, -, own⟩ := operationDeclarations_eq_ok.mp succeeds
  exact makes_of_selectionDeclarations (List.forall_mem_singleton.mpr (.ofVariables _ _)) own

/-- Each declaration of a module is one of these. -/
theorem makes_of_mem (succeeds : generator.declarations unnamed = .ok declarations)
    (listed : declaration ∈ declarations) : generator.Makes declaration := by
  obtain ⟨supporting, _, fragments, isSupporting, written, traversed, rfl⟩ :=
    declarations_eq_ok.mp succeeds
  obtain ⟨parts, rfl, each⟩ := parts_of_operationsDeclarations written
  rw [List.append_assoc, List.mem_append, List.mem_append] at listed
  -- A module is made of three lists: supporting types, operations and fragments.
  rcases listed with listed | listed | listed
  · obtain ⟨types, -, assembled⟩ := bind_eq_ok.mp isSupporting
    cases assembled
    obtain ⟨type, -, rfl⟩ := List.mem_map.mp listed
    exact .supporting type
  · obtain ⟨part, isPart, inside⟩ := List.mem_flatten.mp listed
    obtain ⟨operation, -, unnamed, isOwn⟩ := Lists.exists_of_mem_right each isPart
    exact makes_of_operationDeclarations isOwn declaration inside
  · obtain ⟨part, isPart, inside⟩ := List.mem_flatten.mp listed
    obtain ⟨fragment, -, isOwn⟩ := Lists.exists_of_mem_right (mapM_eq_ok.mp traversed) isPart
    exact makes_of_selectionDeclarations (List.forall_mem_nil _) isOwn declaration inside

/-- A reference into the global module that is within a declaration is written for the name of a
type or of the type of a variable. -/
theorem exists_ref_of_within {reference type : TypeExpr} (global : reference.isGlobal = true)
    (succeeds : generator.declarations unnamed = .ok declarations)
    (listed : declaration ∈ declarations) (isType : type ∈ declaration.types)
    (within : reference.Within type) :
    (∃ name side, generator.scope.namedRef name side = reference) ∨
      ∃ name, generator.scope.variableRef name = reference := by
  have makes := makes_of_mem succeeds listed
  -- Only the type of the variables has references of the other sort.
  cases makes with
  | supporting definition =>
    exact .inl (Scope.exists_namedRef_of_typeDeclaration global isType within)
  | ofVariables name declared =>
    exact .inr (Scope.exists_variableRef_of_variablesDeclaration global isType within)
  | selections typed name =>
    cases List.mem_singleton.mp isType
    obtain ⟨written, same⟩ := SelectionScope.writes_of_typeWithin global _ typed within
    exact .inl ⟨written, .output, same⟩
  | aliases shaped name =>
    obtain ⟨exported, isShape⟩ := shaped type isType
    obtain ⟨written, same⟩ := SelectionScope.writes_of_shape global isShape within
    exact .inl ⟨written, .output, same⟩

end Generator

/-! ### The table of scalars -/

/-- An entry of a table with an entry more is that one or one from before. -/
theorem mem_of_mem_putEntry {κ ν : Type} [BEq κ] [LawfulBEq κ] {key : κ} {value : ν}
    {entry : κ × ν} {table : List (κ × ν)} (inside : entry ∈ putEntry key value table) :
    entry = (key, value) ∨ entry ∈ table := by
  induction table with
  | nil => exact .inl (List.mem_singleton.mp inside)
  | cons first rest ih =>
    obtain ⟨other, old⟩ := first
    -- The entry takes the place of one of its key, or it goes to the end.
    rw [putEntry] at inside
    split at inside
    · next same =>
      rw [beq_iff_eq] at same
      exact (List.mem_cons.mp inside).imp (same ▸ ·) (List.mem_cons_of_mem _)
    · rcases List.mem_cons.mp inside with rfl | inside
      · exact .inr List.mem_cons_self
      · exact (ih inside).imp_right (List.mem_cons_of_mem _)

/-- Entries that are put one after the other are there, and otherwise what was there before. -/
theorem mem_of_mem_foldl_putEntry {entries table : List (String × ScalarTypes)}
    {item : String × ScalarTypes}
    (inside : item ∈ entries.foldl (fun table entry => putEntry entry.1 entry.2 table) table) :
    item ∈ entries ∨ item ∈ table := by
  induction entries generalizing table with
  | nil => exact .inr inside
  | cons first rest ih =>
    rcases ih inside with own | own
    · exact .inl (List.mem_cons_of_mem _ own)
    · rcases mem_of_mem_putEntry own with same | before
      · exact .inl (same ▸ List.mem_cons_self)
      · exact .inr before

namespace Schema

variable {schema : Schema} {settings : Settings} {name : String} {entry : ScalarTypes}

/-- An entry of the table is one of the settings, that of a built-in scalar, or that of another
scalar of the schema, which accepts everything. -/
theorem mem_of_mem_scalarTable {item : String × ScalarTypes}
    (listed : item ∈ schema.scalarTable settings) :
    item ∈ settings.scalars ∨ item ∈ builtInScalarTypes ∨ item.2 = .both "any" := by
  rw [scalarTable_eq] at listed
  refine (mem_of_mem_foldl_putEntry listed).imp_right fun inside => ?_
  refine (List.mem_append.mp inside).imp_right fun custom => ?_
  obtain ⟨_, -, rfl⟩ := List.mem_map.mp custom
  rfl

/-- An entry of the table without a text on a side is one of the settings: the built-in scalars and
the other scalars of the schema have texts. -/
theorem mem_scalars_of_lookup (found : (schema.scalarTable settings).lookup name = some entry)
    {side : Side} (empty : entry.on side = "") : (name, entry) ∈ settings.scalars := by
  have listed : (name, entry) ∈ schema.scalarTable settings := by
    obtain ⟨front, behind, same, -⟩ := List.lookup_eq_some_iff.mp found
    rw [same]
    exact List.mem_append_right _ List.mem_cons_self
  rcases mem_of_mem_scalarTable listed with own | builtIn | any
  · exact own
  · -- The built-in scalars have texts on both sides, and the others of the schema have one for
    -- both.
    have texts : ∀ item ∈ builtInScalarTypes, ∀ side, item.2.on side ≠ "" := by
      intro item listed side
      cases side <;> revert item <;> decide
    exact absurd empty (texts _ builtIn side)
  · have text : (ScalarTypes.both "any").on side = "any" := by cases side <;> rfl
    rw [show entry = .both "any" from any, text] at empty
    exact absurd empty (by decide)

/-- The scalars of a schema that is built have no reserved names if its own types have none. -/
theorem isIntrospectionName_of_scalar {document : Document} (built : document.toSchema = .ok schema)
    (plain : ∀ type ∈ schema.ownTypes, isIntrospectionName type.name = false)
    (scalar : schema.kind? name = some .scalar) : isIntrospectionName name = false := by
  obtain ⟨type, found, kind⟩ := kind?_eq_some.mp scalar
  rw [← name_of_type? found]
  have inside := mem_of_type? found
  rcases Document.builtIn?_or_mem_of_toSchema built inside with own | builtIn
  · exact plain type (List.mem_filter.mpr ⟨inside, by rw [own]; rfl⟩)
  · have none : ∀ type ∈ builtInScalarNames.map builtInScalar ++ introspectionTypes,
        type.kind = .scalar → isIntrospectionName type.name = false := by decide
    exact none type builtIn kind

/-- The global module begins with the table of scalars. -/
theorem opening_of_globalModule {global : TypeScript.ModuleText}
    (made : schema.globalModule settings = .ok global) :
    global.opening = [Settings.scalarsText (schema.scalarTable settings)] := by
  obtain ⟨document, -, assembled⟩ := bind_eq_ok.mp made
  cases assembled
  rfl

end Schema

/-- The references of a module into the table of scalars, where no type of the schema has a reserved
name. A name is written as an entry of the table exactly if it is no other type and the table has an
empty text for it on that side. So each entry that a module refers to is in the table of the global
module, with an empty text that the settings give. If the settings give no empty text, then the
module refers to no entry. -/
theorem scalarEntries_exact {sdl : Document} {schema : Schema} {settings : Settings}
    {documents : List Document} {external : List LoadedFragment} {generator : Generator}
    {unnamed : Nat} {declarations : List Declaration} (built : sdl.toSchema = .ok schema)
    (plain : ∀ type ∈ schema.ownTypes, isIntrospectionName type.name = false)
    (created : Generator.create schema settings documents external = .ok generator)
    (made : generator.declarations unnamed = .ok declarations) :
    (∀ name side, generator.scope.namedRef name side = .scalarEntry name side ↔
      (schema.kind? name = some .scalar ∨ schema.kind? name = none) ∧
        ∃ entry, (schema.scalarTable settings).lookup name = some entry ∧ entry.on side = "") ∧
    (∀ declaration ∈ declarations, ∀ type ∈ declaration.types, ∀ name side,
      (TypeExpr.scalarEntry name side).Within type →
        ∃ entry, (schema.scalarTable settings).lookup name = some entry ∧ entry.on side = "" ∧
          (name, entry) ∈ settings.scalars) ∧
    ((∀ item ∈ settings.scalars, ∀ side, item.2.on side ≠ "") →
      ∀ declaration ∈ declarations, ∀ type ∈ declaration.types, ∀ name side,
        ¬ (TypeExpr.scalarEntry name side).Within type) ∧
    ∀ global, schema.globalModule settings = .ok global →
      global.opening = [Settings.scalarsText (schema.scalarTable settings)] := by
  have scope : generator.scope.toScope = { schema, settings } :=
    Generator.toScope_of_create created
  have written : ∀ name side, generator.scope.namedRef name side = .scalarEntry name side ↔
      (schema.kind? name = some .scalar ∨ schema.kind? name = none) ∧
        ∃ entry, (schema.scalarTable settings).lookup name = some entry ∧ entry.on side = "" := by
    intro name side
    rw [scope, Scope.namedRef_eq_scalarEntry_iff]
    show (name = name ∧ side = side) ∧ (schema.kind? name = some .scalar ∨
      schema.kind? name = none ∧ ((schema.scalarTable settings).lookup name).isSome) ∧
      (∀ entry, (schema.scalarTable settings).lookup name = some entry → entry.on side = "") ↔ _
    -- A scalar of a built schema without a reserved name is one of the table.
    have listed : schema.kind? name = some .scalar →
        ((schema.scalarTable settings).lookup name).isSome := by
      intro scalar
      rw [Option.isSome_iff_exists, ← exists_lookup, Schema.mem_keys_scalarTable_iff scalar]
      rintro ⟨-, reserved, -⟩
      rw [Schema.isIntrospectionName_of_scalar built plain scalar] at reserved
      cases reserved
    cases found : (schema.scalarTable settings).lookup name with
    | none =>
      simp only [found, Option.isSome_none, Bool.false_eq_true, imp_false] at listed
      simp [listed]
    | some entry => simp
  have empty : ∀ declaration ∈ declarations, ∀ type ∈ declaration.types, ∀ name side,
      (TypeExpr.scalarEntry name side).Within type →
        ∃ entry, (schema.scalarTable settings).lookup name = some entry ∧ entry.on side = "" ∧
          (name, entry) ∈ settings.scalars := by
    intro declaration listed type isType name side within
    rcases Generator.exists_ref_of_within rfl made listed isType within with
      ⟨other, side', same⟩ | ⟨other, same⟩
    · obtain ⟨⟨rfl, rfl⟩, -, -⟩ := Scope.namedRef_eq_scalarEntry_iff.mp same
      obtain ⟨-, entry, found, none⟩ := (written _ _).mp same
      exact ⟨entry, found, none, Schema.mem_scalars_of_lookup found none⟩
    · exact absurd same (Scope.variableRef_ne_scalarEntry _ _ _ _)
  refine ⟨written, empty, fun texts declaration listed type isType name side within => ?_,
    fun global => Schema.opening_of_globalModule⟩
  obtain ⟨entry, -, none, own⟩ := empty declaration listed type isType name side within
  exact texts _ own side none

/-! ### A scalar with a text on one side -/

/-- Definitions of a scalar and of a query that gives it. -/
def dateDefinitions : Document :=
  ⟨[.type ⟨none, "Date", [], .scalar⟩,
    .type ⟨none, "Query", [], .object [] [⟨none, "today", [], .named "Date", []⟩]⟩]⟩

/-- The schema of these definitions. -/
def dateSchema : Schema where
  description := none
  roots := [(.query, "Query")]
  types := dateDefinitions.definedTypes ++ ["String", "Boolean"].map Schema.builtInScalar
    ++ Schema.introspectionTypes
  directives := Schema.standardDirectives

/-- The definitions make this schema. -/
theorem toSchema_dateDefinitions : dateDefinitions.toSchema = .ok dateSchema :=
  rfl

/-- Settings that give the scalar a text as an argument and none as a result. -/
def dateSettings : Settings :=
  { scalars := [("Date", ⟨"string", ""⟩)] }

/-- A query of the scalar. -/
def dateQuery : Operation :=
  ⟨.query, some "Today", [], [], [.field ⟨none, "today", [], []⟩ []]⟩

/-- The generator of the query. -/
def dateGenerator : Generator where
  scope :=
    { schema := dateSchema, settings := dateSettings,
      fragments := FragmentTable.ofDocuments [] [⟨[.operation dateQuery]⟩] }
  documents := [⟨[.operation dateQuery]⟩]

/-- This is the generator that is created for the query. -/
theorem create_dateGenerator :
    Generator.create dateSchema dateSettings [⟨[.operation dateQuery]⟩] [] = .ok dateGenerator :=
  rfl

/-- The type of the query: an object with the scalar under its list and null marks. -/
def dateType : TypeExpr :=
  .union [.object [SelectionScope.typenameProperty dateGenerator.scope "__typename" "Query" true,
    (⟨"today", true, false, none⟩, .marked (.named "Date") (.scalarEntry "Date" .output))]]

/-- The type of the query has the date as an entry of the table of scalars. -/
theorem typeOf_dateQuery :
    dateGenerator.scope.typeOf "Query" dateQuery.selections = .ok dateType := by
  cbv

/-- The query has declarations, and its type refers to the table. -/
theorem exists_declarations_dateGenerator :
    ∃ declarations, dateGenerator.declarations 0 = .ok declarations ∧
      ∃ declaration ∈ declarations, ∃ type ∈ declaration.types,
        (TypeExpr.scalarEntry "Date" .output).Within type := by
  have supporting : ∃ supporting, dateGenerator.supporting = .ok supporting :=
    exists_ok (by decide)
  have part : ∃ part, dateGenerator.Part "Query" dateQuery.selections part :=
    Generator.exists_part_iff.mpr ⟨⟨_, typeOf_dateQuery⟩, exists_ok (by decide +kernel)⟩
  obtain ⟨declarations, made⟩ :=
    dateGenerator.exists_declarations_of_operation 0 rfl supporting rfl part
  have source : Source dateSchema dateGenerator.documents "Query" dateQuery.selections :=
    .operation (List.mem_singleton_self _) (List.mem_singleton_self _) rfl
  -- The part of the query is among the declarations, and the alias of its type is in that part.
  obtain ⟨own, contained, name, before, aliases, type, exported, -, -, typed, -, rfl⟩ :=
    Generator.exists_part_of_source made source
  cases typeOf_dateQuery.symm.trans typed
  refine ⟨declarations, made, .typeAlias name dateType, contained (by simp), dateType,
    List.mem_singleton_self _, ?_⟩
  exact .shape (List.mem_singleton_self _)
    (.property (List.mem_cons_of_mem _ (List.mem_singleton_self _)) (.marked .self))

/-- The scalar has an entry in the table, and its text is empty where the query refers to it. -/
theorem scalarEntries_dateQuery :
    dateDefinitions.toSchema = .ok dateSchema ∧
    (∀ type ∈ dateSchema.ownTypes, isIntrospectionName type.name = false) ∧
    Generator.create dateSchema dateSettings [⟨[.operation dateQuery]⟩] [] = .ok dateGenerator ∧
    ∃ declarations, dateGenerator.declarations 0 = .ok declarations ∧
      (∃ declaration ∈ declarations, ∃ type ∈ declaration.types,
        (TypeExpr.scalarEntry "Date" .output).Within type) ∧
      ∀ declaration ∈ declarations, ∀ type ∈ declaration.types, ∀ name side,
        (TypeExpr.scalarEntry name side).Within type →
          ∃ entry, (dateSchema.scalarTable dateSettings).lookup name = some entry ∧
            entry.on side = "" ∧ (name, entry) ∈ dateSettings.scalars := by
  obtain ⟨declarations, made, refers⟩ := exists_declarations_dateGenerator
  have plain : ∀ type ∈ dateSchema.ownTypes, isIntrospectionName type.name = false := by
    decide
  exact ⟨toSchema_dateDefinitions, plain, create_dateGenerator, declarations, made, refers,
    (scalarEntries_exact toSchema_dateDefinitions plain create_dateGenerator made).2.1⟩

/-- The query refers to the result side of the scalar, and the table in the global module has no
text there. -/
theorem dangling_date :
    dateDefinitions.toSchema = .ok dateSchema ∧
    (∀ type ∈ dateSchema.ownTypes, isIntrospectionName type.name = false) ∧
    Generator.create dateSchema dateSettings [⟨[.operation dateQuery]⟩] [] = .ok dateGenerator ∧
    (∃ declarations, dateGenerator.declarations 0 = .ok declarations ∧
      ∃ declaration ∈ declarations, ∃ type ∈ declaration.types,
        (TypeExpr.scalarEntry "Date" .output).Within type) ∧
    (∃ global, dateSchema.globalModule dateSettings = .ok global ∧
      global.opening = [Settings.scalarsText (dateSchema.scalarTable dateSettings)]) ∧
    ¬ ∃ entry, (dateSchema.scalarTable dateSettings).lookup "Date" = some entry ∧
      entry.on .output ≠ "" := by
  obtain ⟨global, made⟩ : ∃ global, dateSchema.globalModule dateSettings = .ok global :=
    exists_ok (by decide)
  have entry : (dateSchema.scalarTable dateSettings).lookup "Date" = some ⟨"string", ""⟩ := by
    decide
  refine ⟨toSchema_dateDefinitions, by decide, create_dateGenerator,
    exists_declarations_dateGenerator, ⟨global, made, Schema.opening_of_globalModule made⟩, ?_⟩
  rintro ⟨other, found, filled⟩
  cases entry.symm.trans found
  exact filled rfl

end SelectionTypes

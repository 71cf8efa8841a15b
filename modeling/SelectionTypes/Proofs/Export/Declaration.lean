import SelectionTypes.Generation.SupportingTypes
import SelectionTypes.Generation.Variables
import SelectionTypes.Proofs.Export.Collection

/-!
# `SelectionTypes.Proofs.Export.Declaration`: references between declarations

`Declaration.aliases` gives the aliases that a declaration refers to. The types that variables need
and the types of variables refer to none (`aliases_typeDeclaration`,
`aliases_variablesDeclaration`).

Aliases are declared by name. Each alias has a declaration of its name
(`exists_declaration_of_declare`), and each declaration is made of the shapes of aliases of its
name (`exists_alias_of_declare`).
-/

set_option autoImplicit false

namespace SelectionTypes

open Outcome
open TypeScript (TypeExpr Declaration)

namespace TypeScript.Declaration

/-- The names of the aliases that a declaration refers to. -/
def aliases : Declaration → List String
  | .typeAlias _ type => type.aliases
  | .intersection _ shapes => TypeExpr.aliasesOfShapes shapes
  | .object _ _ properties => TypeExpr.aliasesOfProperties properties
  | .enum _ _ _ => []

/-- An object type refers to no alias if none of its properties does. -/
theorem aliases_object {name : String} {description : Option String} {properties : List Property}
    (none : ∀ property ∈ properties, property.2.aliases = []) :
    (Declaration.object name description properties).aliases = [] := by
  rw [aliases, List.eq_nil_iff_forall_not_mem]
  intro referenced inside
  obtain ⟨property, listed, own⟩ := TypeExpr.mem_aliasesOfProperties.mp inside
  rw [none property listed] at own
  cases own

end TypeScript.Declaration

/-! ### Declarations without selections -/

namespace Scope

variable (scope : Scope)

/-- The type of a supporting type refers to no alias. -/
theorem aliases_typeDeclaration (type : TypeDefinition) :
    (scope.typeDeclaration type).aliases = [] := by
  refine Declaration.aliases_object fun property listed => ?_
  unfold typeProperties at listed
  simp only [List.mem_append, List.mem_map] at listed
  -- The property that tells the type, the fields, and the fields of an input.
  rcases listed with (typename | ⟨field, -, rfl⟩) | ⟨input, -, rfl⟩
  · split at typename
    · cases List.mem_singleton.mp typename
      rfl
    · cases typename
  · exact scope.aliases_namedRef field.type.base _
  · exact scope.aliases_namedRef input.type.base _

/-- The type of variables refers to no alias. -/
theorem aliases_variablesDeclaration (name : String) (declared : List VariableDefinition) :
    (scope.variablesDeclaration name declared).aliases = [] := by
  unfold variablesDeclaration
  split
  · rfl
  · refine Declaration.aliases_object fun property listed => ?_
    obtain ⟨definition, -, rfl⟩ := List.mem_map.mp listed
    exact scope.aliases_variableRef definition.type.base

end Scope

/-! ### Declarations of aliases -/

namespace ExportedAlias

variable {scope : SelectionScope} {aliases : List ExportedAlias} {declarations : List Declaration}

/-- Aliases have declarations if each of them has a shape. -/
theorem declare_eq_ok :
    declare scope aliases = .ok declarations ↔
      ∃ shapes, List.Forall₂ (fun exported entry => exported.name = entry.1 ∧
          exported.shape scope = .ok entry.2) aliases shapes ∧
        declarations = declareNamed shapes := by
  -- The traversal pairs the name of each alias with its shape.
  have entryOf : ∀ exported : ExportedAlias, ∀ entry : String × TypeExpr,
      (do return (exported.name, ← exported.shape scope)) = Except.ok entry ↔
        exported.name = entry.1 ∧ exported.shape scope = .ok entry.2 := by
    rintro exported ⟨name, shape⟩
    rw [bind_eq_ok]
    simp [pure, Except.pure, and_comm]
  unfold declare
  rw [bind_eq_ok]
  refine exists_congr fun shapes => ?_
  rw [mapM_eq_ok]
  simp only [entryOf]
  exact and_congr_right fun _ => ⟨fun same => by cases same; rfl, fun same => by rw [same]; rfl⟩

/-- Each alias has a declaration of its name, to which its shape belongs. -/
theorem exists_shape_of_declare (declares : declare scope aliases = .ok declarations)
    {exported : ExportedAlias} (listed : exported ∈ aliases) :
    ∃ shape shapes, exported.shape scope = .ok shape ∧ shape ∈ shapes ∧
      .intersection exported.name shapes ∈ declarations := by
  obtain ⟨shapes, each, rfl⟩ := declare_eq_ok.mp declares
  obtain ⟨entry, isEntry, name, shaped⟩ := Lists.exists_of_mem_left each listed
  refine ⟨entry.2, _, shaped, ?_, List.mem_map.mpr ⟨entry.1, ?_, by rw [name]⟩⟩
  · exact List.mem_map_of_mem (List.mem_filter.mpr ⟨isEntry, beq_self_eq_true _⟩)
  · exact List.mem_eraseDups.mpr (List.mem_map_of_mem isEntry)

/-- Each alias has a declaration of its name. -/
theorem exists_declaration_of_declare (declares : declare scope aliases = .ok declarations)
    {exported : ExportedAlias} (listed : exported ∈ aliases) :
    ∃ shapes, .intersection exported.name shapes ∈ declarations := by
  obtain ⟨_, shapes, -, -, declared⟩ := exists_shape_of_declare declares listed
  exact ⟨shapes, declared⟩

/-- Each declaration is that of a name, and it refers to what the shapes of aliases of the name
refer to. -/
theorem exists_alias_of_declare (declares : declare scope aliases = .ok declarations)
    {declaration : Declaration} (listed : declaration ∈ declarations) {name : String}
    (inside : name ∈ declaration.aliases) :
    ∃ exported ∈ aliases, ∃ shape, exported.shape scope = .ok shape ∧ name ∈ shape.aliases := by
  obtain ⟨shapes, each, rfl⟩ := declare_eq_ok.mp declares
  obtain ⟨declared, -, rfl⟩ := List.mem_map.mp listed
  rw [Declaration.aliases, TypeExpr.mem_aliasesOfShapes] at inside
  obtain ⟨shape, isShape, own⟩ := inside
  obtain ⟨entry, isEntry, rfl⟩ := List.mem_map.mp isShape
  obtain ⟨exported, isAlias, -, shaped⟩ :=
    Lists.exists_of_mem_right each (List.mem_of_mem_filter isEntry)
  exact ⟨exported, isAlias, entry.2, shaped, own⟩

end ExportedAlias

end SelectionTypes

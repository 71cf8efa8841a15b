import SelectionTypes.Proofs.Export.Standing
import SelectionTypes.Proofs.Generation.SupportingTypes
import SelectionTypes.Proofs.Selection.Lookup

/-!
# `SelectionTypes.Proofs.Generation.Sections`: the sections of a module

A module whose operations all have names is made of sections: the supporting types, the
declarations of each operation and those of each fragment (`exists_divides`). A section depends on
its operation or fragment and on what is found for the spreads in it. So two generators that read
them alike give them the same section (`selectionDeclarations_unique`).
-/

set_option autoImplicit false

namespace SelectionTypes

open Outcome
open TypeScript (Declaration)

/-- What a module is made of: the declarations of the supporting types, and those of each operation
and of each fragment in order. -/
structure ModuleSections where
  supporting : List Declaration
  operations : List (List Declaration)
  fragments : List (List Declaration)

/-- The declarations of all sections. -/
def ModuleSections.declarations (sections : ModuleSections) : List Declaration :=
  sections.supporting ++ sections.operations.flatten ++ sections.fragments.flatten

namespace Generator

variable {generator : Generator} {unnamed : Nat}

/-- The sections of the module of a generator, whose operations need no numbers. -/
structure Divides (generator : Generator) (sections : ModuleSections) : Prop where
  supporting : generator.supporting = .ok sections.supporting
  operations : generator.operations.mapM (fun operation =>
    (generator.operationDeclarations 0 operation).1) = .ok sections.operations
  fragments : generator.fragments.mapM generator.fragmentDeclarations = .ok sections.fragments

/-- An operation with a name has the same declarations under all numbers. -/
theorem operationDeclarations_of_named {operation : Operation} (named : operation.name.isSome) :
    (generator.operationDeclarations unnamed operation).1 =
      (generator.operationDeclarations 0 operation).1 := by
  obtain ⟨name, isName⟩ := Option.isSome_iff_exists.mp named
  unfold operationDeclarations operationName
  rw [isName]
  cases generator.scope.schema.root? operation.kind <;> rfl

/-- The declarations of a module are those of its sections. -/
theorem exists_divides (named : ∀ operation ∈ generator.operations, operation.name.isSome)
    {declarations : List Declaration} (made : generator.declarations unnamed = .ok declarations) :
    ∃ sections, generator.Divides sections ∧ declarations = sections.declarations := by
  obtain ⟨supporting, _, fragments, isSupporting, written, traversed, rfl⟩ :=
    declarations_eq_ok.mp made
  obtain ⟨operations, rfl, each⟩ := parts_of_operationsDeclarations written
  refine ⟨⟨supporting, operations, fragments⟩, ⟨isSupporting, mapM_eq_ok.mpr ?_, traversed⟩, rfl⟩
  refine ((List.forall₂_and_left _ _).mpr ⟨named, each⟩).imp fun operation part both => ?_
  obtain ⟨isNamed, number, isPart⟩ := both
  exact (operationDeclarations_of_named isNamed).symm.trans isPart

end Generator

/-! ### One section -/

namespace ExportedAlias

variable {scope : SelectionScope} {others : FragmentTable}

/-- Two tables that read the selections of an alias alike give it one shape. -/
theorem shape_unique {exported : ExportedAlias}
    (alike : SelectionScope.ReadsAlike scope.fragments others exported.field.selections)
    {shape shape' : TypeScript.TypeExpr} (first : exported.shape scope = .ok shape)
    (second : exported.shape { scope with fragments := others } = .ok shape') : shape = shape' := by
  obtain ⟨type, found, own⟩ := shape_eq_ok.mp first
  obtain ⟨type', found', own'⟩ := shape_eq_ok.mp second
  cases found.symm.trans found'
  -- The type has one kind, so both shapes are made in the same way.
  rcases own with ⟨kind, rfl⟩ | ⟨kind, first⟩
  · rcases own' with ⟨-, rfl⟩ | ⟨kind', -⟩
    · rfl
    · cases kind.symm.trans kind'
  · rcases own' with ⟨kind', -⟩ | ⟨-, second⟩
    · cases kind.symm.trans kind'
    · exact SelectionScope.shapeOf_unique alike (Schema.kind?_eq_some.mpr ⟨type, found, kind⟩) first
        second

/-- Two tables that read the selections of aliases alike give them the same declarations. -/
theorem declare_unique {aliases : List ExportedAlias} (alike : ∀ exported ∈ aliases,
      SelectionScope.ReadsAlike scope.fragments others exported.field.selections)
    {declared declared' : List Declaration} (first : declare scope aliases = .ok declared)
    (second : declare { scope with fragments := others } aliases = .ok declared') :
    declared = declared' := by
  unfold declare at first second
  obtain ⟨shapes, traversed, first⟩ := bind_eq_ok.mp first
  obtain ⟨shapes', traversed', second⟩ := bind_eq_ok.mp second
  cases first
  cases second
  congr 1
  refine mapM_unique (fun exported listed entry entry' own own' => ?_) traversed traversed'
  obtain ⟨shape, isShape, rfl⟩ := map_eq_ok.mp own
  obtain ⟨shape', isShape', rfl⟩ := map_eq_ok.mp own'
  rw [shape_unique (alike exported listed) isShape isShape']

end ExportedAlias

namespace Generator

variable {generator other : Generator} {unnamed : Nat} {selections : List Selection}

/-- Two generators that differ in their documents and tables alone, and read selections alike. -/
structure ReadsLike (generator other : Generator) (selections : List Selection) : Prop where
  scope : other.scope = { generator.scope with fragments := other.scope.fragments }
  tables : SelectionScope.ReadsAlike generator.scope.fragments other.scope.fragments selections

/-- Two generators that read selections alike give them the same declarations. -/
theorem selectionDeclarations_unique (like : generator.ReadsLike other selections)
    {name parent : String} {before part part' : List Declaration}
    (first : generator.selectionDeclarations name parent before selections = .ok part)
    (second : other.selectionDeclarations name parent before selections = .ok part') :
    part = part' := by
  obtain ⟨aliases, type, exported, collects, typed, declares, rfl⟩ :=
    selectionDeclarations_eq_ok.mp first
  obtain ⟨aliases', type', exported', collects', typed', declares', rfl⟩ :=
    selectionDeclarations_eq_ok.mp second
  rw [like.scope] at collects' typed' declares'
  cases collects.symm.trans collects'
  -- Where nothing is spread in the selections, nothing is in those of their aliases.
  have alike : ∀ added ∈ aliases, SelectionScope.ReadsAlike generator.scope.fragments
      other.scope.fragments added.field.selections := by
    intro added listed
    exact like.tables.imp_right fun free =>
      ExportedAlias.spreadsOf_of_collect collects free listed
  rw [SelectionScope.typeOf_unique like.tables typed typed',
    ExportedAlias.declare_unique alike declares declares']

/-- Two generators that read the selections of an operation alike give it the same declarations. -/
theorem operationDeclarations_unique {operation : Operation}
    (like : generator.ReadsLike other operation.selections) {part part' : List Declaration}
    (first : (generator.operationDeclarations unnamed operation).1 = .ok part)
    (second : (other.operationDeclarations unnamed operation).1 = .ok part') : part = part' := by
  obtain ⟨⟨base, others⟩, documents⟩ := other
  obtain rfl : base = generator.scope.toScope := congrArg SelectionScope.toScope like.scope
  obtain ⟨root, isRoot, own⟩ := operationDeclarations_eq_ok.mp first
  obtain ⟨root', isRoot', own'⟩ := operationDeclarations_eq_ok.mp second
  cases isRoot.symm.trans isRoot'
  exact selectionDeclarations_unique like own own'

/-- Two generators that read the selections of a fragment alike give it the same declarations. -/
theorem fragmentDeclarations_unique {fragment : Fragment}
    (like : generator.ReadsLike other fragment.selections) {part part' : List Declaration}
    (first : generator.fragmentDeclarations fragment = .ok part)
    (second : other.fragmentDeclarations fragment = .ok part') : part = part' := by
  obtain ⟨⟨base, others⟩, documents⟩ := other
  obtain rfl : base = generator.scope.toScope := congrArg SelectionScope.toScope like.scope
  exact selectionDeclarations_unique like first second

end Generator

end SelectionTypes

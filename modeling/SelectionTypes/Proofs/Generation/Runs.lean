import SelectionTypes.Proofs.Generation.Sections
import SelectionTypes.Proofs.Naming.Numbers

/-!
# `SelectionTypes.Proofs.Generation.Runs`: runs of one generator

A generator can run again and again. The only thing that a run takes over from the one before is
the number of the last operation without a name, and no success depends on it: after a successful
run, all further ones succeed with the same imports (`module_again`).

The number is in the names of types alone. Without operations to number, a run does not even read it
(`module_of_named`). With one, the first declaration of the first such operation has another name in
the next run, and so the content differs (`named_of_same_content`). The main statement
`runs_repeat_iff` says it for any number of runs.
-/

set_option autoImplicit false

namespace SelectionTypes

open Outcome
open TypeScript (Declaration)

namespace Generator

variable {generator : Generator} {unnamed other : Nat} {operation : Operation}
variable {operations : List Operation} {part declarations : List Declaration}
variable {generated : GeneratedModule}

/-- The results of runs one after the other, from a number on. -/
def runs (generator : Generator) (unnamed : Nat) : Nat → List (Except ModuleError GeneratedModule)
  | 0 => []
  | count + 1 =>
    let (result, behind) := generator.module unnamed
    result :: generator.runs behind count

/-- How many of the operations have no name. -/
def countUnnamed (operations : List Operation) : Nat :=
  operations.countP fun operation => operation.name.isNone

/-! ### What a run leaves -/

/-- An operation that has declarations has some under any number, and takes one number if it has no
name. -/
theorem operationDeclarations_again
    (made : (generator.operationDeclarations unnamed operation).1 = .ok part) (other : Nat) :
    ∃ again, generator.operationDeclarations other operation =
      (.ok again, other + countUnnamed [operation]) := by
  obtain ⟨root, isRoot, own⟩ := part_of_operationDeclarations made
  -- The number behind an operation only depends on whether it has a name.
  have number : (generator.operationName other operation).2 = other + countUnnamed [operation] := by
    unfold operationName countUnnamed
    cases isName : operation.name <;> simp [isName]
  let name := (generator.operationName other operation).1
  obtain ⟨again, isAgain⟩ := exists_selectionDeclarations name
    [generator.scope.variablesDeclaration (name ++ "Variables") operation.declaredVariables] own
  refine ⟨again, ?_⟩
  unfold operationDeclarations
  rw [isRoot]
  exact Prod.ext isAgain number

/-- Operations that have declarations have some from any number on, and take one number for each of
them without a name. -/
theorem operationsDeclarations_again
    (made : (generator.operationsDeclarations unnamed operations).1 = .ok declarations)
    (other : Nat) :
    ∃ again, generator.operationsDeclarations other operations =
      (.ok again, other + countUnnamed operations) := by
  -- The two runs reach an operation with numbers of their own, so both are left open.
  induction operations generalizing unnamed other declarations with
  | nil => exact ⟨[], rfl⟩
  | cons operation operations ih =>
    obtain ⟨first, after, behind, isFirst, isRest, -⟩ := operationsDeclarations_cons_eq_ok.mp made
    have isFirst : (generator.operationDeclarations unnamed operation).1 = .ok first := by
      rw [isFirst]
    obtain ⟨again, isAgain⟩ := operationDeclarations_again isFirst other
    obtain ⟨rest, isRest⟩ := ih isRest (other + countUnnamed [operation])
    refine ⟨again ++ rest, ?_⟩
    rw [operationsDeclarations, isAgain]
    dsimp only
    rw [isRest, Nat.add_assoc, countUnnamed, countUnnamed, ← List.countP_append]
    rfl

/-- After a successful run there are further ones from any number on, with the same imports. -/
theorem module_again (made : (generator.module unnamed).1 = .ok generated) (other : Nat) :
    ∃ again, generator.module other = (.ok again, other + countUnnamed generator.operations) ∧
      again.module.opening = generated.module.opening := by
  obtain ⟨declarations, imports, isDeclared, imported, -, opening, -⟩ := module_eq_ok.mp made
  obtain ⟨supporting, operations, fragments, isSupporting, written, traversed, -⟩ :=
    declarations_eq_ok.mp isDeclared
  -- Supporting types and fragments do not depend on the number, so only operations are written
  -- anew.
  obtain ⟨rewritten, isWritten⟩ := operationsDeclarations_again written other
  have again : generator.declarations other =
      .ok (supporting ++ rewritten ++ fragments.flatten) := declarations_eq_ok.mpr
    ⟨supporting, rewritten, fragments, isSupporting, by rw [isWritten], traversed, rfl⟩
  obtain ⟨later, isLater⟩ := exists_module again imported
  obtain ⟨_, imports', -, imported', -, opening', -⟩ := module_eq_ok.mp isLater
  cases imported.symm.trans imported'
  refine ⟨later, Prod.ext isLater ?_, opening'.trans opening.symm⟩
  unfold Generator.module
  rw [isSupporting]
  dsimp only
  rw [isWritten]

/-! ### Runs that do not read the number -/

/-- Operations with names have the same declarations from any number on. -/
theorem operationsDeclarations_of_named
    (named : ∀ operation ∈ operations, operation.name.isSome)
    (made : (generator.operationsDeclarations unnamed operations).1 = .ok declarations)
    (other : Nat) : (generator.operationsDeclarations other operations).1 = .ok declarations := by
  induction operations generalizing unnamed other declarations with
  | nil => exact made
  | cons operation operations ih =>
    rw [List.forall_mem_cons] at named
    obtain ⟨first, after, behind, isFirst, isRest, rfl⟩ := operationsDeclarations_cons_eq_ok.mp made
    have own : (generator.operationDeclarations other operation).1 = .ok first := by
      rw [operationDeclarations_of_named named.1, ← operationDeclarations_of_named named.1, isFirst]
    exact operationsDeclarations_cons_eq_ok.mpr
      ⟨first, _, behind, Prod.ext own rfl, ih named.2 isRest _, rfl⟩

/-- A run over operations with names gives the same module from any number on. -/
theorem module_of_named (named : ∀ operation ∈ generator.operations, operation.name.isSome)
    (made : (generator.module unnamed).1 = .ok generated) (other : Nat) :
    (generator.module other).1 = .ok generated := by
  obtain ⟨declarations, imports, isDeclared, rest⟩ := module_eq_ok.mp made
  obtain ⟨supporting, operations, fragments, isSupporting, written, traversed, same⟩ :=
    declarations_eq_ok.mp isDeclared
  exact module_eq_ok.mpr ⟨declarations, imports, declarations_eq_ok.mpr
    ⟨supporting, operations, fragments, isSupporting,
      operationsDeclarations_of_named named written other, traversed, same⟩, rest⟩

/-! ### Runs that write the number -/

/-- The declaration of the variables of the operation with a number. -/
def numberedVariables (generator : Generator) (number : Nat) (operation : Operation) :
    Declaration :=
  generator.scope.variablesDeclaration
    (generator.settings.operationTypeName operation.kind (numberedName number) ++ "Variables")
    operation.declaredVariables

/-- The declarations of an operation without a name begin with its variables, under its number. -/
theorem operationDeclarations_of_unnamed (noName : operation.name = none)
    (made : (generator.operationDeclarations unnamed operation).1 = .ok part) :
    ∃ behind, part = generator.numberedVariables (unnamed + 1) operation :: behind := by
  obtain ⟨root, -, own⟩ := operationDeclarations_eq_ok.mp made
  obtain ⟨aliases, type, exported, -, -, -, rfl⟩ := selectionDeclarations_eq_ok.mp own
  simp only [operationName, noName]
  exact ⟨_, rfl⟩

/-- An operation with a name takes no number. -/
theorem after_of_named {after : Nat} (named : operation.name.isSome)
    (made : generator.operationDeclarations unnamed operation = (.ok part, after)) :
    after = unnamed := by
  obtain ⟨again, isAgain⟩ := operationDeclarations_again (by rw [made]) unnamed
  have number : after = unnamed + countUnnamed [operation] :=
    congrArg Prod.snd (made.symm.trans isAgain)
  have none : countUnnamed [operation] = 0 := by
    refine List.countP_eq_zero.mpr (List.forall_mem_singleton.mpr ?_)
    rw [Option.isNone_iff_eq_none]
    exact Option.isSome_iff_ne_none.mp named
  rw [number, none, Nat.add_zero]

/-- Two runs over operations differ first in the variables of the first operation without a name. -/
theorem exists_first_numbered {others : List Declaration}
    (unnamedOne : ∃ operation ∈ operations, operation.name = none)
    (made : (generator.operationsDeclarations unnamed operations).1 = .ok declarations)
    (made' : (generator.operationsDeclarations other operations).1 = .ok others) :
    ∃ operation common behind behind',
      declarations = common ++ generator.numberedVariables (unnamed + 1) operation :: behind ∧
      others = common ++ generator.numberedVariables (other + 1) operation :: behind' := by
  induction operations generalizing declarations others with
  | nil =>
    obtain ⟨_, listed, -⟩ := unnamedOne
    cases listed
  | cons operation operations ih =>
    obtain ⟨first, after, behind, isFirst, isRest, rfl⟩ := operationsDeclarations_cons_eq_ok.mp made
    obtain ⟨first', after', behind', isFirst', isRest', rfl⟩ :=
      operationsDeclarations_cons_eq_ok.mp made'
    have own : (generator.operationDeclarations unnamed operation).1 = .ok first := by rw [isFirst]
    have own' : (generator.operationDeclarations other operation).1 = .ok first' := by
      rw [isFirst']
    cases isName : operation.name with
    | none =>
      obtain ⟨more, rfl⟩ := operationDeclarations_of_unnamed isName own
      obtain ⟨more', rfl⟩ := operationDeclarations_of_unnamed isName own'
      exact ⟨operation, [], _, _, rfl, rfl⟩
    | some name =>
      -- An operation with a name has the same declarations in both runs and leaves their numbers.
      have named : operation.name.isSome := by rw [isName]; rfl
      rw [operationDeclarations_of_named named] at own own'
      cases own.symm.trans own'
      rw [after_of_named named isFirst] at isRest
      rw [after_of_named named isFirst'] at isRest'
      have unnamedBehind : ∃ operation ∈ operations, operation.name = none := by
        obtain ⟨found, listed, noName⟩ := unnamedOne
        rcases List.mem_cons.mp listed with rfl | listed
        · rw [isName] at noName
          cases noName
        · exact ⟨found, listed, noName⟩
      obtain ⟨found, common, more, more', rfl, rfl⟩ := ih unnamedBehind isRest isRest'
      exact ⟨found, first ++ common, more, more', (List.append_assoc _ _ _).symm,
        (List.append_assoc _ _ _).symm⟩

/-- The declaration of variables begins with its name. -/
theorem prefix_render_variablesDeclaration (scope : Scope) (settings : Settings) (name : String)
    (declared : List VariableDefinition) :
    ("export type " ++ name ++ " = ").toList <+:
      ((scope.variablesDeclaration name declared).render settings).toList := by
  unfold Scope.variablesDeclaration
  split
  · change _ <+: ("export type " ++ name ++ " = " ++ _ ++ ";").toList
    simp only [String.toList_append]
    exact (List.prefix_append _ _).trans (List.prefix_append _ _)
  · change _ <+: ("\n".intercalate (("export type " ++ name ++ " = \x7b") :: _)).toList
    refine List.IsPrefix.trans ?_ (prefix_intercalate "\n" _ _)
    simp only [String.toList_append]
    exact (List.prefix_append_right_inj _).mpr (by decide)

/-- If the variables of an operation under two numbers begin one text, the numbers are the same. -/
theorem eq_of_render_numberedVariables {number number' : Nat} {rest rest' : List Char}
    (same :
      ((generator.numberedVariables number operation).render generator.settings).toList ++ rest =
        ((generator.numberedVariables number' operation).render generator.settings).toList
          ++ rest') : number = number' := by
  have begins (number : Nat) := prefix_render_variablesDeclaration generator.scope.toScope
    generator.settings
    (generator.settings.operationTypeName operation.kind (numberedName number) ++ "Variables")
    operation.declaredVariables
  obtain ⟨tail, text⟩ := begins number
  obtain ⟨tail', text'⟩ := begins number'
  unfold numberedVariables at same
  rw [← text, ← text'] at same
  simp only [String.toList_append, List.append_assoc, List.append_cancel_left_eq] at same
  -- What is left behind the number begins with a letter, which no digit can be taken for.
  refine generator.settings.eq_of_operationTypeName_append operation.kind ?_ same
  exact ⟨'V', by decide, by decide⟩

/-- Runs from two numbers have different contents if there is an operation to number. -/
theorem named_of_same_content {later : GeneratedModule}
    (made : (generator.module unnamed).1 = .ok generated)
    (made' : (generator.module other).1 = .ok later) (different : unnamed ≠ other)
    (same : later.module.content = generated.module.content) :
    ∀ operation ∈ generator.operations, operation.name.isSome := by
  by_contra unnamedOne
  simp only [not_forall, Option.not_isSome_iff_eq_none] at unnamedOne
  obtain ⟨found, listed, noName⟩ := unnamedOne
  obtain ⟨_, _, isDeclared, -, content, -, -⟩ := module_eq_ok.mp made
  obtain ⟨_, _, isDeclared', -, content', -, -⟩ := module_eq_ok.mp made'
  obtain ⟨supporting, _, fragments, isSupporting, written, traversed, rfl⟩ :=
    declarations_eq_ok.mp isDeclared
  obtain ⟨supporting', _, fragments', isSupporting', written', traversed', rfl⟩ :=
    declarations_eq_ok.mp isDeclared'
  cases isSupporting.symm.trans isSupporting'
  obtain ⟨operation, common, behind, behind', rfl, rfl⟩ :=
    exists_first_numbered ⟨found, listed, noName⟩ written written'
  -- Both contents begin with the texts that are common, so the variables are written alike.
  rw [content, content'] at same
  unfold TypeScript.renderAll at same
  simp only [List.map_append, List.map_cons, List.append_assoc, List.cons_append] at same
  rw [← List.append_assoc, ← List.append_assoc] at same
  obtain ⟨rest, rest', texts⟩ := append_eq_of_intercalate same
  exact different (Nat.succ.inj (eq_of_render_numberedVariables texts)).symm

/-! ### Any number of runs -/

/-- What holds of a run from any number holds of all runs. -/
theorem forall_runs {P : Except ModuleError GeneratedModule → Prop}
    (each : ∀ number, P (generator.module number).1) (unnamed count : Nat) :
    ∀ result ∈ generator.runs unnamed count, P result := by
  induction count generalizing unnamed with
  | zero => exact List.forall_mem_nil _
  | succ count ih => exact List.forall_mem_cons.mpr ⟨each unnamed, ih _⟩

/-- After a successful run, any number of runs succeed with its imports. Their contents are its own
exactly if all operations have names. -/
theorem runs_repeat_iff (made : (generator.module unnamed).1 = .ok generated) (count : Nat) :
    (∀ result ∈ generator.runs unnamed (count + 2), ∃ later, result = .ok later ∧
        later.module.opening = generated.module.opening) ∧
      ((∀ result ∈ generator.runs unnamed (count + 2), ∃ later, result = .ok later ∧
          later.module = generated.module) ↔
        ∀ operation ∈ generator.operations, operation.name.isSome) := by
  refine ⟨forall_runs (fun number => ?_) unnamed _, fun repeats => ?_, fun named => ?_⟩
  · obtain ⟨again, isAgain, opening⟩ := module_again made number
    exact ⟨again, by rw [isAgain], opening⟩
  · -- The second run goes on from the number behind the first.
    obtain ⟨first, isFirst, -⟩ := module_again made unnamed
    have listed : (generator.module (generator.module unnamed).2).1
        ∈ generator.runs unnamed (count + 2) := List.mem_cons_of_mem _ List.mem_cons_self
    obtain ⟨second, isSecond, same⟩ := repeats _ listed
    rw [isFirst] at isSecond
    by_cases none : countUnnamed generator.operations = 0
    · intro operation listed
      have own := List.countP_eq_zero.mp none operation listed
      rwa [Bool.not_eq_true, Option.isNone_eq_false_iff] at own
    · exact named_of_same_content made isSecond (by omega)
        (congrArg TypeScript.ModuleText.content same)
  · exact forall_runs (fun number => ⟨generated, module_of_named named made number, rfl⟩) unnamed _

/-! ### A query for the name of a pet -/

/-- The generator of the query, which may have a name. -/
def queryGenerator (name : Option String) : Generator where
  scope := { schema := Schema.pets, settings := {}, fragments := [] }
  documents :=
    [⟨[.operation ⟨.query, name, [], [],
      [.field ⟨none, "pet", [], []⟩ [.field ⟨none, "name", [], []⟩ []]]⟩]⟩]

/-- The query has a module, with or without a name. -/
theorem exists_module_queryGenerator (name : Option String) :
    ∃ generated, ((queryGenerator name).module 0).1 = .ok generated := by
  have part : ∃ part, (queryGenerator name).Part "Query"
      [.field ⟨none, "pet", [], []⟩ [.field ⟨none, "name", [], []⟩ []]] part :=
    exists_part_iff.mpr ⟨exists_ok (by cbv), exists_ok (by cbv)⟩
  have supporting : ∃ supporting, (queryGenerator name).supporting = .ok supporting :=
    exists_supporting_pets {}
  obtain ⟨declarations, made⟩ := exists_declarations_of_operation 0 rfl supporting rfl part
  have imports : (queryGenerator name).fragmentImports = .ok [] := rfl
  exact exists_module made imports

/-- Three runs over the query with a name give one module. -/
theorem runs_repeat_named :
    ∃ generated, ((queryGenerator (some "Pets")).module 0).1 = .ok generated ∧
      ∀ result ∈ (queryGenerator (some "Pets")).runs 0 3, ∃ later, result = .ok later ∧
        later.module = generated.module := by
  obtain ⟨generated, made⟩ := exists_module_queryGenerator (some "Pets")
  exact ⟨generated, made, (runs_repeat_iff made 1).2.mpr (by decide)⟩

/-- The second run over the query without a name has another content than the first. -/
theorem runs_differ_unnamed :
    ∃ first second, (queryGenerator none).runs 0 2 = [.ok first, .ok second] ∧
      second.module.content ≠ first.module.content := by
  obtain ⟨_, made⟩ := exists_module_queryGenerator none
  obtain ⟨first, isFirst, -⟩ := module_again made 0
  obtain ⟨second, isSecond, -⟩ := module_again made 1
  -- The query takes the first number, so the second run begins with the next one.
  have one : 0 + countUnnamed (queryGenerator none).operations = 1 := rfl
  rw [one] at isFirst
  refine ⟨first, second, ?_, fun same => ?_⟩
  · change [((queryGenerator none).module 0).1,
      ((queryGenerator none).module ((queryGenerator none).module 0).2).1] = _
    rw [isFirst, isSecond]
  · have named := named_of_same_content (by rw [isFirst]) (by rw [isSecond]) Nat.zero_ne_one same
    exact absurd named (by decide)

end Generator

end SelectionTypes

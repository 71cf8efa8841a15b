import SelectionTypes.Proofs.Export.Distinct
import SelectionTypes.Proofs.Export.Origins
import SelectionTypes.Proofs.Selection.OptimizedValidity

/-!
# `SelectionTypes.Proofs.Export.OptimizedOrigins`: where optimized selections come from

Inlining writes the selections of a fragment where it is spread, and merging joins fields of one
key. Neither writes anything new: each optimized selection `Echoes` one that was written before, on
the same type. A field has the name and the directives of an earlier field, and an inline fragment
has the condition of an earlier one or stands for a spread.

So optimized selections are collectable if those that they are made from are:
`collectable_of_optimize`.
-/

set_option autoImplicit false

namespace SelectionTypes

open Outcome
open ExportedAlias (Collectable AliasesOf)

namespace Selection

variable {schema : Schema} {table original : FragmentTable} {entered : List String}
variable {origin : String → List Selection → Prop}
variable {parent static : String} {selection : Selection} {selections inlined : List Selection}

/-- A selection that is written in the place of another one: a field of its name and directives, an
inline fragment of its condition, or for a spread an inline fragment on the type of its fragment. -/
inductive Echoes (table : FragmentTable) : Selection → Selection → Prop
  | field {head other : FieldHead} {inner below : List Selection} (name : other.name = head.name)
      (directives : other.directives = head.directives) :
      Echoes table (.field head inner) (.field other below)
  | inlined {condition : Option String} {directives others : List Directive}
      {inner below : List Selection} :
      Echoes table (.inlined condition directives inner) (.inlined condition others below)
  | spread {name : String} {directives others : List Directive} {loaded : LoadedFragment}
      {below : List Selection} (found : table.get? name = some loaded) :
      Echoes table (.spread name directives)
        (.inlined (some loaded.fragment.onType) others below)

/-- A selection that echoes one which echoes a source echoes that source. The condition of an inline
fragment stays from then on. -/
theorem Echoes.trans {source middle : Selection} (first : Echoes table source middle)
    (second : Echoes original middle selection) : Echoes table source selection := by
  cases first with
  | field name directives =>
    cases second with
    | field name' directives' => exact .field (name'.trans name) (directives'.trans directives)
  | inlined =>
    cases second with
    | inlined => exact .inlined
  | spread found =>
    cases second with
    | inlined => exact .spread found

/-- Each inlined selection echoes one that is written in an origin. -/
theorem exists_echoes_of_inlineWithin (origins : Origins schema original origin)
    (agrees : table.AgreesOutside entered original)
    (inlines : inlineWithin table entered selections = .ok inlined)
    (each : ∀ selection ∈ selections, WrittenIn schema origin parent selection)
    (stands : Stands schema parent inlined static selection) :
    ∃ source, WrittenIn schema origin static source ∧ Echoes original source selection := by
  induction inlines using inlineWithin_induction generalizing parent with
  | nil => exact absurd stands not_stands_nil
  | field _ _ ihInner ihRest =>
    rw [List.forall_mem_cons] at each
    rcases stands.of_cons with first | later
    · rcases first.of_field with ⟨rfl, rfl⟩ | ⟨type, known, noLeaf, deeper⟩
      · exact ⟨_, each.1, .field rfl rfl⟩
      · exact ihInner agrees (fun _ listed => each.1.below known noLeaf listed) deeper
    · exact ihRest agrees each.2 later
  | inlined _ _ ihInner ihRest =>
    rw [List.forall_mem_cons] at each
    rcases stands.of_cons with first | later
    · rcases first.of_inlined with ⟨rfl, rfl⟩ | deeper
      · exact ⟨_, each.1, .inlined⟩
      · exact ihInner agrees (fun _ listed => each.1.inlined listed) deeper
    · exact ihRest agrees each.2 later
  | @spread _ _ name directives _ loaded _ _ new found _ _ ihInner ihRest =>
    have known : original.get? name = some loaded := (agrees name new).symm.trans found
    rw [List.forall_mem_cons] at each
    rcases stands.of_cons with first | later
    · rcases first.of_inlined with ⟨rfl, rfl⟩ | deeper
      · exact ⟨_, each.1, .spread known⟩
      · -- The fragment is an origin, so all of its selections are written in one.
        obtain ⟨above, outer, isOrigin, spread⟩ := each.1
        have isFragment := origins.closed above outer isOrigin parent name directives loaded spread
          known
        exact ihInner (agrees.without name)
          (fun _ listed => ⟨_, _, isFragment, .here listed⟩) deeper
    · exact ihRest agrees each.2 later

/-- What stands in a list stands in one of its selections. -/
theorem Stands.exists_of_list (stands : Stands schema parent selections static selection) :
    ∃ listed ∈ selections, Stands schema parent [listed] static selection := by
  cases stands with
  | here listed => exact ⟨_, listed, .here (List.mem_singleton_self _)⟩
  | inlined listed inside => exact ⟨_, listed, .inlined (List.mem_singleton_self _) inside⟩
  | deeper listed known noLeaf inside =>
    exact ⟨_, listed, .deeper (List.mem_singleton_self _) known noLeaf inside⟩

/-- The own fields that a field stands for have its name, where fields agree. -/
theorem StandsFor.name_eq {table : FragmentTable} (agree : FieldsAgree table selections)
    {joined : SelectedField} (stands : StandsFor (· ∈ ownFields selections) joined)
    {field : SelectedField} (own : field ∈ ownFields selections) (key : field.key = joined.key) :
    field.head.name = joined.head.name := by
  obtain ⟨source, isSource, sourceKey, name⟩ := stands.source
  exact (agree _ .top field (selects_of_mem_ownFields own) source
    (selects_of_mem_ownFields isSource) (key.trans sourceKey.symm)).trans name

/-- Each merged selection echoes one from before. -/
theorem exists_echoes_of_merge (agree : FieldsAgree table selections)
    (free : spreadsOf selections = [])
    (stands : Stands schema parent (merge selections) static selection) :
    ∃ source, Stands schema parent selections static source ∧ Echoes original source selection := by
  induction size : weight selections using Nat.strongRecOn generalizing parent selections with
  | _ size ih =>
    subst size
    cases stands with
    | here listed =>
      cases selection with
      | field head inner =>
        obtain ⟨below, rfl, -, joined⟩ := exists_standsFor_of_mem_merge listed
        -- The field that gives the directives gives the name, too.
        obtain ⟨source, own, key, directives⟩ := joined.directives
        exact ⟨_, .here (mem_ownFields.mp own),
          .field (joined.name_eq agree own key).symm directives.symm⟩
      | inlined condition directives inner =>
        obtain ⟨below, rfl, before⟩ := exists_inlined_of_mem_merge listed
        exact ⟨_, .here before, .inlined⟩
      | spread name directives =>
        have own := spreadsOf_eq_nil_iff.mp (spreadsOf_merge free) _ listed
        simp [spreadsOf] at own
    | inlined listed inside =>
      obtain ⟨below, rfl, before⟩ := exists_inlined_of_mem_merge listed
      obtain ⟨source, stands, echoes⟩ := ih _ (weight_children_lt_of_mem before)
        (agree.mono fun field => .inlined before)
        (spreadsOf_children (spreadsOf_eq_nil_iff.mp free _ before)) inside rfl
      exact ⟨source, .inlined before stands, echoes⟩
    | deeper listed known noLeaf inside =>
      obtain ⟨below, rfl, lighter, joined⟩ := exists_standsFor_of_mem_merge listed
      have freeBelow : spreadsOf below = [] := by
        refine spreadsOf_eq_nil_iff.mpr fun selection inBelow => ?_
        obtain ⟨field, own, -, inField⟩ := joined.below selection inBelow
        have freeField := spreadsOf_children (spreadsOf_eq_nil_iff.mp free _ (mem_ownFields.mp own))
        exact spreadsOf_eq_nil_iff.mp freeField selection inField
      obtain ⟨source, stands, echoes⟩ :=
        ih _ lighter (joined.fieldsAgree agree) freeBelow inside rfl
      -- The source stands below one of the fields of the key, which is of the same type.
      obtain ⟨above, inBelow, stands⟩ := stands.exists_of_list
      obtain ⟨field, own, key, inField⟩ := joined.below above inBelow
      rw [← joined.name_eq agree own key] at known
      exact ⟨source, .deeper (mem_ownFields.mp own) known noLeaf
        (stands.mono (List.cons_subset.mpr ⟨inField, List.nil_subset _⟩)), echoes⟩

end Selection

namespace ExportedAlias

open Selection (Echoes Stands WrittenIn Origins FieldsAgree)

variable {schema : Schema} {table others : FragmentTable} {origin : String → List Selection → Prop}
variable {parent static : String} {selections inlined : List Selection}

/-- Fields of one name and with the same directives are exported alike. -/
theorem exists_aliasesOf_congr {field other : SelectedField} {aliases : List ExportedAlias}
    (made : AliasesOf schema static field aliases) (name : other.head.name = field.head.name)
    (directives : other.head.directives = field.head.directives) :
    ∃ aliases, AliasesOf schema static other aliases := by
  obtain ⟨type, known, made⟩ := made
  obtain ⟨exportName, definition, isName, -, found, exportable, -⟩ := ofField_eq_ok made
  have sameName : other.head.exportName = field.head.exportName := by
    unfold FieldHead.exportName FieldHead.exportDirective?
    rw [name, directives]
  obtain ⟨aliases, made'⟩ := exists_ofField (sameName.trans isName) found exportable
  exact ⟨aliases, type, by rw [name, known], made'⟩

/-- Selections that echo collectable ones are collectable, if what is spread is of known types. -/
theorem Collectable.of_echoes {written later : String → Selection → Prop}
    (collectable : Collectable schema written)
    (fragments : ∀ static name directives loaded, written static (.spread name directives) →
      table.get? name = some loaded → (schema.type? loaded.fragment.onType).isSome)
    (each : ∀ static selection, later static selection →
      ∃ source, written static source ∧ Echoes table source selection) :
    Collectable schema later where
  conditions := by
    intro static condition directives inner inside
    obtain ⟨source, isWritten, echoes⟩ := each _ _ inside
    cases echoes with
    | inlined => exact collectable.conditions _ _ _ _ isWritten
    | spread found => exact fragments _ _ _ _ isWritten found
  exports := by
    intro static head inner inside exported
    obtain ⟨source, isWritten, echoes⟩ := each _ _ inside
    cases echoes with
    | @field earlier _ before _ name directives =>
      -- An export is told by the directives, which a field keeps.
      have isExported : earlier.isExported = true := by
        unfold FieldHead.isExported FieldHead.exportDirective? at exported ⊢
        rwa [← directives]
      obtain ⟨aliases, made⟩ := collectable.exports _ _ _ isWritten isExported
      exact exists_aliasesOf_congr made name directives

/-- Optimized selections are collectable if the exports of all origins are collected. -/
theorem collectable_of_optimize (origins : Origins schema table origin)
    (collects : ∀ parent selections, origin parent selections →
      ∃ aliases, collect schema parent selections = .ok aliases)
    (isOrigin : origin parent selections)
    (inlines : Selection.inline table selections = .ok inlined)
    (agree : FieldsAgree others inlined) :
    Collectable schema (Stands schema parent (Selection.merge inlined)) := by
  -- What is written in an origin stands in one whose exports are collected.
  have written : Collectable schema (WrittenIn schema origin) := by
    refine ⟨?_, ?_⟩
    · rintro static condition directives inner ⟨above, outer, isOrigin, stands⟩
      obtain ⟨aliases, collected⟩ := collects above outer isOrigin
      exact (collectable_of_collect collected).2.conditions _ _ _ _ stands
    · rintro static head inner ⟨above, outer, isOrigin, stands⟩
      obtain ⟨aliases, collected⟩ := collects above outer isOrigin
      exact (collectable_of_collect collected).2.exports _ _ _ stands
  refine @Collectable.of_echoes schema table _ _ written ?_ fun static selection stands => ?_
  · rintro static name directives loaded ⟨above, outer, isOrigin, stands⟩ found
    obtain ⟨aliases, collected⟩ :=
      collects _ _ (origins.closed _ _ isOrigin _ _ _ _ stands found)
    exact (collectable_of_collect collected).1
  · obtain ⟨middle, stands, second⟩ :=
      @Selection.exists_echoes_of_merge schema others table parent static selection inlined agree
        (Selection.spreadsOf_inlineWithin inlines) stands
    obtain ⟨source, isWritten, first⟩ := Selection.exists_echoes_of_inlineWithin origins
      (.refl table) inlines (fun selection listed => ⟨parent, selections, isOrigin, .here listed⟩)
      stands
    exact ⟨source, isWritten, first.trans second⟩

end ExportedAlias

end SelectionTypes

import SelectionTypes.Proofs.Export.Rendering

/-!
# `SelectionTypes.Proofs.Export.AliasNames`: exports that share a name

An exported field takes the name of its export, and for an interface one more for each object type,
which is put together from the name of the export and that of the type (`aliasNames`). Both of them
may contain the separator, so a text can be put together in more than one way
(`implementorName_eq_iff`), and an export can take a name that another export takes for one of its
object types. `Overlaps` says when that happens.

`apart_iff_no_overlap`: collected aliases of one name are always of exports with one name exactly if
no two of the exports overlap. A name that is declared for several shapes is taken by two exported
fields, and their exports have one name or overlap. Exports without a separator in their names do
not overlap (`Overlaps.mem_separator`), and `nearPet_shares_name` has two that do.
-/

set_option autoImplicit false

namespace SelectionTypes

open Outcome
open TypeScript (TypeExpr Declaration)

namespace ExportedAlias

variable {schema : Schema} {parent text name name' type type' : String}
variable {selections : List Selection} {aliases : List ExportedAlias}
variable {field first second : ExportedField}

/-! ### Names that are put together -/

/-- The characters of the name that is put together for an object type. -/
theorem toList_implementorName :
    (implementorName name type).toList = name.toList ++ '_' :: type.toList := by
  simp [implementorName, String.toList_append]

/-- A name that is put together is longer than its first part. -/
theorem implementorName_ne : implementorName name type ≠ name := by
  intro same
  have lengths := congrArg List.length (congrArg String.toList same)
  rw [toList_implementorName, List.length_append, List.length_cons] at lengths
  omega

/-- Two names that are put together from one name are for one type. -/
theorem implementorName_inj_right (same : implementorName name type = implementorName name type') :
    type = type' := by
  have lists := congrArg String.toList same
  rw [toList_implementorName, toList_implementorName] at lists
  simpa [String.toList_inj] using lists

/-- Two names that are put together are one text if they have the same parts, or if one of the first
parts ends at a separator within the other. -/
theorem implementorName_eq_iff :
    implementorName name type = implementorName name' type' ↔
      (name = name' ∧ type = type') ∨
      (∃ between, name' = implementorName name between ∧ type = implementorName between type') ∨
      ∃ between, name = implementorName name' between ∧
        type' = implementorName between type := by
  have surjective : Function.Surjective String.toList := fun text =>
    ⟨String.ofList text, String.toList_ofList⟩
  simp only [← String.toList_inj, toList_implementorName, Lists.append_cons_eq_iff,
    surjective.exists]

/-! ### The names of exported fields -/

/-- The object types that an exported field has aliases for: those of an interface. -/
def implementorTypes (schema : Schema) (field : ExportedField) : List String :=
  match exportedType? schema field with
  | none => []
  | some definition =>
    if definition.kind == .interface then schema.possibleTypes definition else []

/-- The names that an exported field takes if its export has a name. -/
def aliasNames (schema : Schema) (field : ExportedField) (name : String) : List String :=
  name :: (implementorTypes schema field).map (implementorName name)

/-- An exported field takes a name for one of its aliases. -/
def Takes (schema : Schema) (field : ExportedField) (text : String) : Prop :=
  ∃ name, field.2.head.exportName = .ok name ∧ text ∈ aliasNames schema field name

/-- The exports of two fields have one name. -/
def NameShared (first second : ExportedField) : Prop :=
  ∃ name, first.2.head.exportName = .ok name ∧ second.2.head.exportName = .ok name

/-- The name of the second export is that of the first one with a rest behind it, and the rest is an
object type of the first one, or it becomes one with an object type of the second one behind it. -/
def Overlaps (schema : Schema) (first second : ExportedField) : Prop :=
  ∃ name rest, first.2.head.exportName = .ok name ∧
    second.2.head.exportName = .ok (implementorName name rest) ∧
    (rest ∈ implementorTypes schema first ∨
      ∃ type ∈ implementorTypes schema second,
        implementorName rest type ∈ implementorTypes schema first)

/-- The exports of overlapping fields have different names. -/
theorem Overlaps.ne (overlaps : Overlaps schema first second) :
    first.2.head.exportName ≠ second.2.head.exportName := by
  obtain ⟨name, rest, isName, isName', -⟩ := overlaps
  rw [isName, isName']
  exact fun same => implementorName_ne (Except.ok.inj same).symm

/-- Overlapping fields take one name: the first one for an object type. -/
theorem Overlaps.exists_taken (overlaps : Overlaps schema first second) :
    ∃ text, Takes schema first text ∧ Takes schema second text := by
  obtain ⟨name, rest, isName, isName', possible | ⟨type, possible', possible⟩⟩ := overlaps
  · refine ⟨implementorName name rest, ⟨name, isName, ?_⟩, ⟨_, isName', List.mem_cons_self⟩⟩
    exact List.mem_cons_of_mem _ (List.mem_map_of_mem possible)
  · refine ⟨implementorName name (implementorName rest type), ⟨name, isName, ?_⟩,
      ⟨_, isName', ?_⟩⟩
    · exact List.mem_cons_of_mem _ (List.mem_map_of_mem possible)
    · refine List.mem_cons_of_mem _ (List.mem_map.mpr ⟨type, possible', ?_⟩)
      simp [implementorName, String.append_assoc]

/-- Two exported fields that take one name have exports of one name, or they overlap. -/
theorem overlaps_of_taken (takes : Takes schema first text) (takes' : Takes schema second text) :
    NameShared first second ∨ Overlaps schema first second ∨ Overlaps schema second first := by
  obtain ⟨name, isName, listed⟩ := takes
  obtain ⟨name', isName', listed'⟩ := takes'
  rcases List.mem_cons.mp listed with rfl | put
  · rcases List.mem_cons.mp listed' with rfl | put'
    · exact .inl ⟨_, isName, isName'⟩
    · obtain ⟨type', possible', rfl⟩ := List.mem_map.mp put'
      exact .inr (.inr ⟨name', type', isName', isName, .inl possible'⟩)
  · obtain ⟨type, possible, rfl⟩ := List.mem_map.mp put
    rcases List.mem_cons.mp listed' with rfl | put'
    · exact .inr (.inl ⟨name, type, isName, isName', .inl possible⟩)
    · obtain ⟨type', possible', same⟩ := List.mem_map.mp put'
      -- Both names are put together, and where the shorter one ends decides which export overlaps.
      rcases implementorName_eq_iff.mp same.symm with
        ⟨rfl, -⟩ | ⟨between, rfl, rfl⟩ | ⟨between, rfl, rfl⟩
      · exact .inl ⟨_, isName, isName'⟩
      · exact .inr (.inl ⟨name, between, isName, isName', .inr ⟨type', possible', possible⟩⟩)
      · exact .inr (.inr ⟨name', between, isName', isName, .inr ⟨type, possible, possible'⟩⟩)

/-- Only an export with the separator in its name overlaps with a shorter one. -/
theorem Overlaps.mem_separator (overlaps : Overlaps schema first second)
    (isName : second.2.head.exportName = .ok name) : '_' ∈ name.toList := by
  obtain ⟨before, rest, -, isName', -⟩ := overlaps
  cases isName.symm.trans isName'
  simp [toList_implementorName]

/-! ### Collected aliases -/

/-- The aliases of an exported field: one for its type, and one for each of its object types. -/
theorem AliasesOf.eq_cons_map (made : AliasesOf schema field.1 field.2 aliases) :
    ∃ name type, field.2.head.exportName = .ok name ∧
      aliases = ⟨name, type, field.1, field.2⟩ ::
        (implementorTypes schema field).map fun concrete =>
          ⟨implementorName name concrete, concrete, field.1, field.2⟩ := by
  obtain ⟨type, known, made⟩ := made
  obtain ⟨name, definition, isName, -, found, -, same⟩ := ofField_eq_ok made
  have isType : exportedType? schema field = some definition := by
    rw [exportedType?, known, Option.bind_some, found]
  refine ⟨name, type.base, isName, ?_⟩
  rw [implementorTypes, isType]
  exact same

/-- The aliases of an exported field have the names that the field takes. -/
theorem AliasesOf.takes_iff (made : AliasesOf schema field.1 field.2 aliases) :
    Takes schema field text ↔ ∃ exported ∈ aliases, exported.name = text := by
  obtain ⟨name, type, isName, rfl⟩ := made.eq_cons_map
  have names : Takes schema field text ↔ text ∈ aliasNames schema field name := by
    constructor
    · rintro ⟨name', isName', listed⟩
      cases isName.symm.trans isName'
      exact listed
    · exact fun listed => ⟨name, isName, listed⟩
  rw [names, ← List.mem_map, List.map_cons, List.map_map]
  rfl

/-- The aliases of an exported field are for that field. -/
theorem AliasesOf.field_eq (made : AliasesOf schema field.1 field.2 aliases)
    {exported : ExportedAlias} (listed : exported ∈ aliases) : exported.field = field.2 := by
  obtain ⟨name, type, -, rfl⟩ := made.eq_cons_map
  rcases List.mem_cons.mp listed with rfl | put
  · rfl
  · obtain ⟨concrete, -, rfl⟩ := List.mem_map.mp put
    rfl

/-- An exported field has no two aliases of one name with different bindings. -/
theorem AliasesOf.binding_eq (made : AliasesOf schema field.1 field.2 aliases)
    {exported other : ExportedAlias} (listed : exported ∈ aliases) (listed' : other ∈ aliases)
    (same : exported.name = other.name) : exported.binding = other.binding := by
  obtain ⟨name, type, -, rfl⟩ := made.eq_cons_map
  -- The alias for the type of the field has a name of its own, and those for object types have
  -- names that tell these apart.
  rcases List.mem_cons.mp listed with rfl | put
  · rcases List.mem_cons.mp listed' with rfl | put'
    · rfl
    · obtain ⟨concrete', -, rfl⟩ := List.mem_map.mp put'
      exact absurd same.symm implementorName_ne
  · obtain ⟨concrete, -, rfl⟩ := List.mem_map.mp put
    rcases List.mem_cons.mp listed' with rfl | put'
    · exact absurd same implementorName_ne
    · obtain ⟨concrete', -, rfl⟩ := List.mem_map.mp put'
      cases implementorName_inj_right same
      rfl

/-- The names of collected aliases are those that the exported fields take. -/
theorem exists_collected_iff (collects : collect schema parent selections = .ok aliases)
    {selected : SelectedField} :
    (∃ exported ∈ aliases, exported.name = text ∧ exported.field = selected) ↔
      ∃ field ∈ exportedFields schema parent selections,
        Takes schema field text ∧ field.2 = selected := by
  obtain ⟨rfl, made⟩ := collected_eq_flatMap collects
  constructor
  · rintro ⟨exported, listed, rfl, rfl⟩
    obtain ⟨field, isExport, own⟩ := List.mem_flatMap.mp listed
    have each := made field isExport
    exact ⟨field, isExport, each.takes_iff.mpr ⟨exported, own, rfl⟩, (each.field_eq own).symm⟩
  · rintro ⟨field, isExport, takes, rfl⟩
    have each := made field isExport
    obtain ⟨exported, own, isName⟩ := each.takes_iff.mp takes
    exact ⟨exported, List.mem_flatMap.mpr ⟨field, isExport, own⟩, isName, each.field_eq own⟩

/-- Collected aliases have distinct bindings. -/
theorem nodup_of_collect (collects : collect schema parent selections = .ok aliases) :
    (aliases.map binding).Nodup := by
  obtain ⟨known, collectable⟩ := collectable_of_collect collects
  obtain ⟨rfl, distinct⟩ := (collect_eq_ok_iff known collectable).mp collects
  exact distinct

/-- A name with several shapes is that of two aliases with different bindings. -/
theorem exists_bindings_ne {scope : SelectionScope} {declarations : List Declaration}
    (collects : collect schema parent selections = .ok aliases)
    (declares : declare scope aliases = .ok declarations) {shapes : List TypeExpr}
    (declared : .intersection name shapes ∈ declarations) (several : 2 ≤ shapes.length) :
    ∃ exported ∈ aliases, ∃ other ∈ aliases,
      exported.name = name ∧ other.name = name ∧ exported.binding ≠ other.binding := by
  obtain ⟨entries, each, rfl⟩ := declare_eq_ok.mp declares
  obtain ⟨_, -, same⟩ := List.mem_map.mp declared
  cases same
  -- There is one shape for each alias of the name, so two of these stand behind each other.
  rw [← (forall₂_filter_name each name).length_eq] at several
  have two : ((aliases.filter fun exported => exported.name == name).take 2).length = 2 := by
    rw [List.length_take]
    omega
  obtain ⟨exported, other, isPair⟩ := List.length_eq_two.mp two
  have inside := List.take_sublist 2 (aliases.filter fun exported => exported.name == name)
  rw [isPair] at inside
  obtain ⟨listed, isName⟩ := List.mem_filter.mp (inside.subset List.mem_cons_self)
  obtain ⟨listed', isName'⟩ := List.mem_filter.mp
    (inside.subset (List.mem_cons_of_mem _ List.mem_cons_self))
  have distinct := List.pairwise_map.mp (nodup_of_collect collects)
  exact ⟨exported, listed, other, listed', eq_of_beq isName, eq_of_beq isName',
    List.pairwise_iff_forall_sublist.mp distinct (inside.trans List.filter_sublist)⟩

/-- A name with several shapes is taken by two exported fields. -/
theorem exists_taken_twice {scope : SelectionScope} {declarations : List Declaration}
    (collects : collect schema parent selections = .ok aliases)
    (declares : declare scope aliases = .ok declarations) {shapes : List TypeExpr}
    (declared : .intersection name shapes ∈ declarations) (several : 2 ≤ shapes.length) :
    ∃ first ∈ exportedFields schema parent selections,
      ∃ second ∈ exportedFields schema parent selections,
        first ≠ second ∧ Takes schema first name ∧ Takes schema second name := by
  obtain ⟨exported, listed, other, listed', named, named', different⟩ :=
    exists_bindings_ne collects declares declared several
  obtain ⟨rfl, made⟩ := collected_eq_flatMap collects
  obtain ⟨first, isExport, own⟩ := List.mem_flatMap.mp listed
  obtain ⟨second, isExport', own'⟩ := List.mem_flatMap.mp listed'
  refine ⟨first, isExport, second, isExport', ?_,
    (made first isExport).takes_iff.mpr ⟨exported, own, named⟩,
    (made second isExport').takes_iff.mpr ⟨other, own', named'⟩⟩
  rintro rfl
  exact different ((made first isExport).binding_eq own own' (named.trans named'.symm))

/-- Collected aliases of one name are always of exports with one name exactly if no two of the
exports overlap. A name that is declared for several shapes is taken by two exported fields, and
either their exports have one name, or one of them overlaps with the other. -/
theorem apart_iff_no_overlap (collects : collect schema parent selections = .ok aliases) :
    ((∀ exported ∈ aliases, ∀ other ∈ aliases, exported.name = other.name →
        exported.field.head.exportName = other.field.head.exportName) ↔
      ∀ first ∈ exportedFields schema parent selections,
        ∀ second ∈ exportedFields schema parent selections, ¬ Overlaps schema first second) ∧
    ∀ (scope : SelectionScope) (declarations : List Declaration),
      declare scope aliases = .ok declarations →
      ∀ name shapes, .intersection name shapes ∈ declarations → 2 ≤ shapes.length →
        ∃ first ∈ exportedFields schema parent selections,
          ∃ second ∈ exportedFields schema parent selections,
            first ≠ second ∧ Takes schema first name ∧ Takes schema second name ∧
            (NameShared first second ∨ Overlaps schema first second ∨
              Overlaps schema second first) := by
  refine ⟨⟨fun apart first isExport second isExport' overlaps => ?_,
    fun free exported listed other listed' same => ?_⟩, ?_⟩
  · -- Exports that overlap take a name in common, and there is an alias for each of them.
    obtain ⟨text, takes, takes'⟩ := overlaps.exists_taken
    obtain ⟨exported, listed, named, isField⟩ :=
      (exists_collected_iff collects).mpr ⟨first, isExport, takes, rfl⟩
    obtain ⟨other, listed', named', isField'⟩ :=
      (exists_collected_iff collects).mpr ⟨second, isExport', takes', rfl⟩
    have names := apart exported listed other listed' (named.trans named'.symm)
    rw [isField, isField'] at names
    exact overlaps.ne names
  · obtain ⟨first, isExport, takes, isField⟩ :=
      (exists_collected_iff collects).mp ⟨exported, listed, rfl, rfl⟩
    obtain ⟨second, isExport', takes', isField'⟩ :=
      (exists_collected_iff collects).mp ⟨other, listed', rfl, rfl⟩
    rw [← isField, ← isField']
    rcases overlaps_of_taken takes (same ▸ takes') with
      ⟨name, isName, isName'⟩ | overlaps | overlaps
    · exact isName.trans isName'.symm
    · exact absurd overlaps (free first isExport second isExport')
    · exact absurd overlaps (free second isExport' first isExport)
  · intro scope declarations declares name shapes declared several
    obtain ⟨first, isExport, second, isExport', different, takes, takes'⟩ :=
      exists_taken_twice collects declares declared several
    exact ⟨first, isExport, second, isExport', different, takes, takes',
      overlaps_of_taken takes takes'⟩

/-- The exports of a friend have one name, without a separator, so only they share names. -/
theorem friends_apart :
    ∃ aliases, collect Schema.pets "Pet" friendSelections = .ok aliases ∧
      ∀ exported ∈ aliases, ∀ other ∈ aliases, exported.name = other.name →
        exported.field.head.exportName = other.field.head.exportName := by
  have succeeds : (collect Schema.pets "Pet" friendSelections).toBool = true := by decide +kernel
  have friend : exportedFriend.head.exportName = .ok "Friend" := rfl
  obtain ⟨aliases, collects⟩ := exists_ok succeeds
  refine ⟨aliases, collects, (apart_iff_no_overlap collects).1.mpr ?_⟩
  intro first _ second isExport overlaps
  have isFriend : second.2 = exportedFriend := by
    rw [exportedFields_friendSelections] at isExport
    rcases List.mem_pair.mp isExport with rfl | rfl <;> rfl
  -- An overlap would need an export name with a separator.
  have separator := overlaps.mem_separator (isFriend ▸ friend)
  revert separator
  decide

/-! ### A friend under the name of a cat -/

/-- The export directive with a name. -/
def exportAs (name : String) : Directive :=
  ⟨"export", [⟨"exportName", .string name false, 0⟩], 0⟩

/-- A friend under the name that a pet under the name `Near` has for cats. -/
def nearFriend : SelectedField :=
  ⟨⟨none, "friend", [], [exportAs "Near_Cat"]⟩, [.field ⟨none, "name", [], []⟩ []]⟩

/-- A pet under the name `Near`, with that friend. -/
def nearPet : SelectedField :=
  ⟨⟨none, "pet", [], [exportAs "Near"]⟩, [.field nearFriend.head nearFriend.selections]⟩

/-- The aliases of the pet and of its friend. -/
def nearAliases : List ExportedAlias :=
  [⟨"Near", "Pet", "Query", nearPet⟩, ⟨"Near_Cat", "Cat", "Query", nearPet⟩,
    ⟨"Near_Dog", "Dog", "Query", nearPet⟩, ⟨"Near_Cat", "Pet", "Pet", nearFriend⟩,
    ⟨"Near_Cat_Cat", "Cat", "Pet", nearFriend⟩, ⟨"Near_Cat_Dog", "Dog", "Pet", nearFriend⟩]

/-- The name for cats is declared for what a cat that is a pet and any friend have in common, though
the two exports have different names. -/
theorem nearPet_shares_name :
    collect Schema.pets "Query" [.field nearPet.head nearPet.selections] = .ok nearAliases ∧
    nearPet.head.exportName = .ok "Near" ∧ nearFriend.head.exportName = .ok "Near_Cat" ∧
    (¬ ∀ exported ∈ nearAliases, ∀ other ∈ nearAliases, exported.name = other.name →
      exported.field.head.exportName = other.field.head.exportName) ∧
    ∃ declarations, declare friendScope nearAliases = .ok declarations ∧
      .intersection "Near_Cat"
        [.object [({ name := "__typename", optional := true }, .typename "Cat"),
            ({ name := "friend", optional := true },
              .marked (.named "Pet") (.aliasRef "Near_Cat"))],
          .aliasRefs ["Near_Cat_Cat", "Near_Cat_Dog"]] ∈ declarations := by
  have near : nearPet.head.exportName = .ok "Near" := rfl
  have nearCat : nearFriend.head.exportName = .ok "Near_Cat" := rfl
  refine ⟨by with_unfolding_all rfl, near, nearCat, fun apart => ?_, ?_⟩
  · have same := apart ⟨"Near_Cat", "Cat", "Query", nearPet⟩ (by simp [nearAliases])
      ⟨"Near_Cat", "Pet", "Pet", nearFriend⟩ (by simp [nearAliases]) rfl
    exact absurd (Except.ok.inj (near.symm.trans (same.trans nearCat))) (by decide)
  · refine ⟨_, show declare friendScope nearAliases = .ok _ by cbv, ?_⟩
    exact List.mem_cons_of_mem _ List.mem_cons_self

end ExportedAlias

end SelectionTypes

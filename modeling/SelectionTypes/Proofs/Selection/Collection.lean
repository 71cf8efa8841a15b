import SelectionTypes.Proofs.Selection.Distribution
import SelectionTypes.Proofs.Support.Lists

/-!
# `SelectionTypes.Proofs.Selection.Collection`: one reading for all types, or one for each

The query language says which fields are selected on a value by its runtime type alone. `Collects`
is that rule: the fields come in document order, and a fragment is entered if its type condition
admits the runtime type. It knows of no other type, and it keeps no record of entered fragments.

`Selection.flatten` reads the selections once, for all types that a value of the parent can have.
`flatten_fields_eq_collected` says that this is the rule, type by type:

* the types of the result are the types of the parent, in order and each once,
* the fields of a type are the ones that are collected for it, and they do not depend on the other
  types,
* the reading for all types fails exactly if the reading for one of them does.
-/

set_option autoImplicit false

namespace SelectionTypes.Selection

open Outcome

variable {schema : Schema} {table original : FragmentTable} {entered applicable : List String}
variable {selections : List Selection} {distributed : List (SelectedField × List String)}

/-- The fields that selections select on a value of an object type, in document order. -/
inductive Collects (schema : Schema) (table : FragmentTable) (concrete : String) :
    List Selection → List SelectedField → Prop
  | nil : Collects schema table concrete [] []
  | field {head : FieldHead} {inner rest : List Selection} {fields : List SelectedField}
      (behind : Collects schema table concrete rest fields) :
      Collects schema table concrete (.field head inner :: rest) (⟨head, inner⟩ :: fields)
  /-- A fragment without a type condition is entered. -/
  | plain {directives : List Directive} {inner rest : List Selection}
      {below fields : List SelectedField}
      (inside : Collects schema table concrete inner below)
      (behind : Collects schema table concrete rest fields) :
      Collects schema table concrete (.inlined none directives inner :: rest) (below ++ fields)
  /-- A fragment whose type condition admits the type is entered. -/
  | entered {condition : String} {directives : List Directive} {inner rest : List Selection}
      {below fields : List SelectedField} (admits : schema.Admits condition concrete)
      (inside : Collects schema table concrete inner below)
      (behind : Collects schema table concrete rest fields) :
      Collects schema table concrete (.inlined (some condition) directives inner :: rest)
        (below ++ fields)
  /-- Any other fragment with a type condition is passed over. -/
  | passed {condition : String} {directives : List Directive} {inner rest : List Selection}
      {fields : List SelectedField} (excluded : ¬ schema.Admits condition concrete)
      (behind : Collects schema table concrete rest fields) :
      Collects schema table concrete (.inlined (some condition) directives inner :: rest) fields
  /-- A spread stands for its fragment. -/
  | spreadEntered {name : String} {directives : List Directive} {loaded : LoadedFragment}
      {rest : List Selection} {below fields : List SelectedField}
      (found : table.get? name = some loaded)
      (admits : schema.Admits loaded.fragment.onType concrete)
      (inside : Collects schema table concrete loaded.fragment.selections below)
      (behind : Collects schema table concrete rest fields) :
      Collects schema table concrete (.spread name directives :: rest) (below ++ fields)
  | spreadPassed {name : String} {directives : List Directive} {loaded : LoadedFragment}
      {rest : List Selection} {fields : List SelectedField}
      (found : table.get? name = some loaded)
      (excluded : ¬ schema.Admits loaded.fragment.onType concrete)
      (behind : Collects schema table concrete rest fields) :
      Collects schema table concrete (.spread name directives :: rest) fields

/-- A type has one list of collected fields at most. -/
theorem Collects.unique {concrete : String} {fields others : List SelectedField}
    (first : Collects schema table concrete selections fields)
    (second : Collects schema table concrete selections others) : fields = others := by
  induction first generalizing others with
  | nil =>
    cases second
    rfl
  | field behind ih =>
    cases second with
    | field behind' => rw [ih behind']
  | plain inside behind ihInside ihBehind =>
    cases second with
    | plain inside' behind' => rw [ihInside inside', ihBehind behind']
  | entered admits inside behind ihInside ihBehind =>
    cases second with
    | entered admits' inside' behind' => rw [ihInside inside', ihBehind behind']
    -- Whether a fragment is entered depends on the type alone.
    | passed excluded behind' => exact absurd admits excluded
  | passed excluded behind ih =>
    cases second with
    | entered admits inside' behind' => exact absurd admits excluded
    | passed excluded' behind' => rw [ih behind']
  | spreadEntered found admits inside behind ihInside ihBehind =>
    cases second with
    | spreadEntered found' admits' inside' behind' =>
      cases found.symm.trans found'
      rw [ihInside inside', ihBehind behind']
    | spreadPassed found' excluded behind' =>
      cases found.symm.trans found'
      exact absurd admits excluded
  | spreadPassed found excluded behind ih =>
    cases second with
    | spreadEntered found' admits inside' behind' =>
      cases found.symm.trans found'
      exact absurd admits excluded
    | spreadPassed found' excluded' behind' => rw [ih behind']

/-- Lists of selections collect the fields of the first and then those of the second. -/
theorem Collects.append {concrete : String} {others : List Selection}
    {fields behind : List SelectedField} (first : Collects schema table concrete selections fields)
    (second : Collects schema table concrete others behind) :
    Collects schema table concrete (selections ++ others) (fields ++ behind) := by
  -- Along the collection of the first list, since each rule takes its first selection.
  induction first with
  | nil => exact second
  | field _ ih => exact .field ih
  | plain inside _ _ ih =>
    rw [List.append_assoc]
    exact .plain inside ih
  | entered admits inside _ _ ih =>
    rw [List.append_assoc]
    exact .entered admits inside ih
  | passed excluded _ ih => exact .passed excluded ih
  | spreadEntered found admits inside _ _ ih =>
    rw [List.append_assoc]
    exact .spreadEntered found admits inside ih
  | spreadPassed found excluded _ ih => exact .spreadPassed found excluded ih

/-- What holds of all fields that are collected below each of some fields holds of those that are
collected below them together. -/
theorem collects_flatMap {concrete : String} {holds : SelectedField → Prop}
    {fields : List SelectedField} (each : ∀ field ∈ fields, ∃ selected,
      Collects schema table concrete field.selections selected ∧ ∀ below ∈ selected, holds below) :
    ∃ selected, Collects schema table concrete (fields.flatMap SelectedField.selections) selected ∧
      ∀ below ∈ selected, holds below := by
  induction fields with
  | nil => exact ⟨[], .nil, List.forall_mem_nil _⟩
  | cons field rest ih =>
    rw [List.forall_mem_cons] at each
    obtain ⟨⟨own, collects, ownHolds⟩, others⟩ := each
    obtain ⟨behind, collects', behindHolds⟩ := ih others
    exact ⟨own ++ behind, collects.append collects',
      List.forall_mem_append.mpr ⟨ownHolds, behindHolds⟩⟩

/-! ### The fields of one type in a reading -/

/-- The fields for a type begin with the first entry, if that is read for the type. -/
theorem fieldsOn_cons (entry : SelectedField × List String)
    (rest : List (SelectedField × List String)) (type : String) :
    fieldsOn (entry :: rest) type =
      if type ∈ entry.2 then entry.1 :: fieldsOn rest type else fieldsOn rest type := by
  unfold fieldsOn
  by_cases inside : type ∈ entry.2 <;> simp [inside]

/-- The fields for a type are found list by list. -/
@[simp]
theorem fieldsOn_append (first second : List (SelectedField × List String)) (type : String) :
    fieldsOn (first ++ second) type = fieldsOn first type ++ fieldsOn second type := by
  simp [fieldsOn]

/-- A type that selections are not read for has no fields. -/
theorem fieldsOn_eq_nil
    (reads : distributeWithin schema table entered applicable selections = .ok distributed)
    {type : String} (outside : type ∉ applicable) : fieldsOn distributed type = [] := by
  unfold fieldsOn
  rw [List.map_eq_nil_iff, List.filter_eq_nil_iff]
  intro entry inside listed
  exact outside (types_subset reads entry inside (by simpa using listed))

/-- Restricting a reading to other types, one of which is `type`, keeps the fields of `type`. -/
theorem fieldsOn_restrict (keep : String → Bool) {type : String} (kept : keep type = true)
    (distributed : List (SelectedField × List String)) :
    fieldsOn (distributed.map fun entry => (entry.1, entry.2.filter keep)) type =
      fieldsOn distributed type := by
  induction distributed with
  | nil => rfl
  | cons entry rest ih =>
    rw [List.map_cons, fieldsOn_cons, fieldsOn_cons, ih]
    simp [List.mem_filter, kept]

/-- A reading for several types gives each of them the fields of a reading for it alone. -/
theorem distributeWithin_singleton (distinct : applicable.Nodup)
    (reads : distributeWithin schema table entered applicable selections = .ok distributed)
    {type : String} (inside : type ∈ applicable) :
    ∃ own, distributeWithin schema table entered [type] selections = .ok own ∧
      fieldsOn own type = fieldsOn distributed type := by
  -- Among distinct types the filter for one of them leaves that type alone.
  have restricted := distributeWithin_filter (· == type) reads
  rw [Lists.filter_eq_singleton distinct inside] at restricted
  exact ⟨_, restricted, fieldsOn_restrict (fun other => other == type) (beq_self_eq_true type) _⟩

/-! ### A reading succeeds for a list of types if it does for each -/

/-- A field never fails to be read, so all is up to the selections behind it. -/
private theorem field_succeeds {head : FieldHead} {inner : List Selection} :
    (∃ own, distributeWithin schema table entered applicable (.field head inner :: selections)
        = .ok own) ↔
      ∃ own, distributeWithin schema table entered applicable selections = .ok own := by
  simp only [distributeWithin_field_eq_ok]
  exact ⟨fun ⟨_, others, behind, _⟩ => ⟨others, behind⟩,
    fun ⟨others, behind⟩ => ⟨_, others, behind, rfl⟩⟩

/-- An inline fragment without a condition can be read if its selections and those behind it can. -/
private theorem plain_succeeds {directives : List Directive} {inner : List Selection} :
    (∃ own, distributeWithin schema table entered applicable
        (.inlined none directives inner :: selections) = .ok own) ↔
      (∃ own, distributeWithin schema table entered applicable inner = .ok own) ∧
        ∃ own, distributeWithin schema table entered applicable selections = .ok own := by
  simp only [distributeWithin_plain_eq_ok]
  exact ⟨fun ⟨_, below, others, inside, behind, _⟩ => ⟨⟨below, inside⟩, others, behind⟩,
    fun ⟨⟨below, inside⟩, others, behind⟩ => ⟨_, below, others, inside, behind, rfl⟩⟩

/-- One with a condition also needs a condition that tells about each type, and its selections are
read for the types that meet it. -/
private theorem conditioned_succeeds {condition : String} {directives : List Directive}
    {inner : List Selection} :
    (∃ own, distributeWithin schema table entered applicable
        (.inlined (some condition) directives inner :: selections) = .ok own) ↔
      (∀ type ∈ applicable, schema.tells condition type) ∧
        (∃ own, distributeWithin schema table entered
          (applicable.filter (schema.meets condition)) inner = .ok own) ∧
        ∃ own, distributeWithin schema table entered applicable selections = .ok own := by
  simp only [distributeWithin_conditioned_eq_ok]
  exact ⟨fun ⟨_, told, below, others, inside, behind, _⟩ =>
      ⟨told, ⟨below, inside⟩, others, behind⟩,
    fun ⟨told, ⟨below, inside⟩, others, behind⟩ =>
      ⟨_, told, below, others, inside, behind, rfl⟩⟩

/-- A spread that resolves is read like an inline fragment on the type of its fragment, with one
fragment fewer to enter. -/
private theorem resolved_succeeds {name : String} {directives : List Directive}
    {loaded : LoadedFragment} (resolved : table.resolve entered name = .ok loaded) :
    (∃ own, distributeWithin schema table entered applicable
        (.spread name directives :: selections) = .ok own) ↔
      (∀ type ∈ applicable, schema.tells loaded.fragment.onType type) ∧
        (∃ own, distributeWithin schema (table.without name) (name :: entered)
          (applicable.filter (schema.meets loaded.fragment.onType)) loaded.fragment.selections
            = .ok own) ∧
        ∃ own, distributeWithin schema table entered applicable selections = .ok own := by
  simp only [distributeWithin_resolved_eq_ok resolved]
  exact ⟨fun ⟨_, told, below, others, inside, behind, _⟩ =>
      ⟨told, ⟨below, inside⟩, others, behind⟩,
    fun ⟨told, ⟨below, inside⟩, others, behind⟩ =>
      ⟨_, told, below, others, inside, behind, rfl⟩⟩

/-- If the reading inside a fragment succeeds for each type as far as it meets the condition, it
succeeds for each type that meets the condition. -/
private theorem each_narrowed {condition : String} {inner : List Selection}
    (each : ∀ type ∈ applicable, ∃ own, distributeWithin schema table entered
      ([type].filter (schema.meets condition)) inner = .ok own) :
    ∀ type ∈ applicable.filter (schema.meets condition),
      ∃ own, distributeWithin schema table entered [type] inner = .ok own := by
  intro type kept
  obtain ⟨inside, met⟩ := List.mem_filter.mp kept
  have single : [type].filter (schema.meets condition) = [type] := by simp [met]
  rw [← single]
  exact each type inside

/-- If the reading succeeds for no type and for each type alone, it does for all of them at once.
Spreads are resolved whatever the types are, which is why the reading for no type counts. -/
theorem distributeWithin_succeeds
    (reads : ∃ own, distributeWithin schema table entered [] selections = .ok own)
    (each : ∀ type ∈ applicable,
      ∃ own, distributeWithin schema table entered [type] selections = .ok own) :
    ∃ distributed, distributeWithin schema table entered applicable selections
      = .ok distributed := by
  induction table, entered, applicable, selections using distributeWithin.induct with
  | case1 table entered applicable => exact ⟨[], distributeWithin_nil⟩
  | case2 table entered applicable head inner rest ih =>
    rw [field_succeeds] at reads ⊢
    exact ih reads fun type inside => field_succeeds.mp (each type inside)
  | case3 table entered applicable directives inner rest ihInner ihRest =>
    rw [plain_succeeds] at reads ⊢
    have parts := fun type inside => plain_succeeds.mp (each type inside)
    exact ⟨ihInner reads.1 fun type inside => (parts type inside).1,
      ihRest reads.2 fun type inside => (parts type inside).2⟩
  | case4 table entered applicable condition directives inner rest ihInner ihRest =>
    rw [conditioned_succeeds] at reads ⊢
    have parts := fun type inside => conditioned_succeeds.mp (each type inside)
    -- A type that does not meet the condition is read for no type inside the fragment.
    refine ⟨fun type inside => (parts type inside).1 type (List.mem_singleton_self type),
      ihInner _ reads.2.1 (each_narrowed fun type inside => (parts type inside).2.1),
      ihRest reads.2.2 fun type inside => (parts type inside).2.2⟩
  | case5 table entered applicable name directives rest problem unresolved =>
    -- For an empty list of types no single reading would show this failure.
    obtain ⟨own, succeeds⟩ := reads
    exact absurd succeeds (not_reads_of_unresolved unresolved)
  | case6 table entered applicable name directives rest loaded resolved ihInner ihRest =>
    rw [resolved_succeeds resolved] at reads ⊢
    have parts := fun type inside => (resolved_succeeds resolved).mp (each type inside)
    exact ⟨fun type inside => (parts type inside).1 type (List.mem_singleton_self type),
      ihInner _ reads.2.1 (each_narrowed fun type inside => (parts type inside).2.1),
      ihRest reads.2.2 fun type inside => (parts type inside).2.2⟩

/-! ### The rule of the query language -/

/-- A reading gives each object type what is collected for it. The runtime rule looks fragments up
in the whole table, and the reading in what is left of it. -/
theorem collects_of_distributeWithin (wellFormed : schema.WellFormed)
    (agrees : table.AgreesOutside entered original)
    (reads : distributeWithin schema table entered applicable selections = .ok distributed)
    {type : String} (object : schema.kind? type = some .object) (inside : type ∈ applicable) :
    Collects schema original type selections (fieldsOn distributed type) := by
  induction reads using distributeWithin_induction with
  | nil => exact .nil
  | field _ ih =>
    rw [fieldsOn_cons, if_pos inside]
    exact .field (ih agrees inside)
  | plain _ _ ihInner ihRest =>
    rw [fieldsOn_append]
    exact .plain (ihInner agrees inside) (ihRest agrees inside)
  | @conditioned _ _ _ condition _ _ _ _ _ _ entering _ ihInner ihRest =>
    rw [fieldsOn_append]
    -- A type that does not meet the condition has no fields from inside the fragment.
    by_cases met : schema.meets condition type = true
    · exact .entered ((wellFormed.meets_iff_admits object).mp met)
        (ihInner agrees (List.mem_filter.mpr ⟨inside, met⟩)) (ihRest agrees inside)
    · rw [fieldsOn_eq_nil entering fun kept => met (List.mem_filter.mp kept).2, List.nil_append]
      exact .passed (fun admits => met ((wellFormed.meets_iff_admits object).mpr admits))
        (ihRest agrees inside)
  | @spread _ _ _ name _ _ loaded _ _ new found _ entering _ ihInner ihRest =>
    -- The whole table has the same fragment, since the spread is not inside it.
    have known : original.get? name = some loaded := (agrees name new).symm.trans found
    rw [fieldsOn_append]
    by_cases met : schema.meets loaded.fragment.onType type = true
    · exact .spreadEntered known ((wellFormed.meets_iff_admits object).mp met)
        (ihInner (agrees.without name) (List.mem_filter.mpr ⟨inside, met⟩)) (ihRest agrees inside)
    · rw [fieldsOn_eq_nil entering fun kept => met (List.mem_filter.mp kept).2, List.nil_append]
      exact .spreadPassed known
        (fun admits => met ((wellFormed.meets_iff_admits object).mpr admits)) (ihRest agrees inside)

/-- Flattening succeeds exactly if the type has values and the selections can be read for them. -/
theorem flatten_eq_ok {parent : String} {flattened : List (String × List SelectedField)} :
    flatten schema table parent selections = .ok flattened ↔
      ∃ types distributed, schema.concreteTypes parent = .ok types ∧
        distributeWithin schema table [] types.eraseDups selections = .ok distributed ∧
        flattened = types.eraseDups.map fun type => (type, fieldsOn distributed type) := by
  unfold flatten distribute
  simp only [bind_eq_ok, pure, Except.pure, Except.ok.injEq]
  constructor
  · rintro ⟨types, concrete, distributed, reads, rfl⟩
    exact ⟨types, distributed, concrete, reads, rfl⟩
  · rintro ⟨types, distributed, concrete, reads, rfl⟩
    exact ⟨types, concrete, distributed, reads, rfl⟩

/-- Flattening on an object type is a reading for that type. -/
theorem flatten_object_eq_ok {type : String} (object : schema.kind? type = some .object)
    {flattened : List (String × List SelectedField)} :
    flatten schema table type selections = .ok flattened ↔
      ∃ own, distributeWithin schema table [] [type] selections = .ok own ∧
        flattened = [(type, fieldsOn own type)] := by
  rw [flatten_eq_ok]
  constructor
  · rintro ⟨types, own, concrete, reads, rfl⟩
    cases (Schema.concreteTypes_of_object object).symm.trans concrete
    exact ⟨own, reads, rfl⟩
  · rintro ⟨own, reads, rfl⟩
    exact ⟨[type], own, Schema.concreteTypes_of_object object, reads, rfl⟩

/-- Flattening on an object type succeeds exactly if the reading for that type does. -/
theorem flatten_object_succeeds {type : String} (object : schema.kind? type = some .object) :
    (∃ flattened, flatten schema table type selections = .ok flattened) ↔
      ∃ own, distributeWithin schema table [] [type] selections = .ok own := by
  constructor
  · rintro ⟨flattened, succeeds⟩
    obtain ⟨own, reads, -⟩ := (flatten_object_eq_ok object).mp succeeds
    exact ⟨own, reads⟩
  · rintro ⟨own, reads⟩
    exact ⟨_, (flatten_object_eq_ok object).mpr ⟨own, reads, rfl⟩⟩

/-- Where a type has values, flattening on it succeeds exactly if flattening on each of their types
does. -/
theorem flatten_succeeds_iff (wellFormed : schema.WellFormed) {parent : String}
    {types : List String} (concrete : schema.concreteTypes parent = .ok types)
    (inhabited : types ≠ []) :
    (∃ flattened, flatten schema table parent selections = .ok flattened) ↔
      ∀ type ∈ types, ∃ flattened, flatten schema table type selections = .ok flattened := by
  constructor
  · rintro ⟨flattened, succeeds⟩ type inside
    obtain ⟨types, distributed, concrete', reads, rfl⟩ := flatten_eq_ok.mp succeeds
    cases concrete.symm.trans concrete'
    obtain ⟨own, alone, -⟩ := distributeWithin_singleton (Lists.nodup_eraseDups types) reads
      (List.mem_eraseDups.mpr inside)
    have object := wellFormed.kind?_of_mem_concreteTypes concrete inside
    exact (flatten_object_succeeds object).mpr ⟨own, alone⟩
  · intro each
    have alone : ∀ type ∈ types, ∃ own,
        distributeWithin schema table [] [type] selections = .ok own := fun type inside =>
      (flatten_object_succeeds (wellFormed.kind?_of_mem_concreteTypes concrete inside)).mp
        (each type inside)
    -- The reading for no type succeeds because the one for some type does.
    obtain ⟨type, inside⟩ := List.exists_mem_of_ne_nil types inhabited
    obtain ⟨own, reads⟩ := alone type inside
    have none := distributeWithin_filter (fun _ => false) reads
    rw [List.filter_false] at none
    obtain ⟨distributed, together⟩ := distributeWithin_succeeds ⟨_, none⟩
      fun type inside => alone type (List.mem_eraseDups.mp inside)
    exact ⟨_, flatten_eq_ok.mpr ⟨types, distributed, concrete, together, rfl⟩⟩

/-- Flattening on a parent type follows the rule of the query language, type by type. -/
structure FlattensByType (schema : Schema) (table : FragmentTable) (parent : String)
    (selections : List Selection) : Prop where
  /-- The types are the ones that a value of the parent can have, in order and each once. -/
  types : ∀ flattened, flatten schema table parent selections = .ok flattened →
    ∃ types, schema.concreteTypes parent = .ok types ∧
      flattened.map Prod.fst = types.eraseDups ∧ (flattened.map Prod.fst).Nodup
  /-- The fields of a type are the ones that are collected for it. -/
  collected : ∀ flattened, flatten schema table parent selections = .ok flattened →
    ∀ type fields, (type, fields) ∈ flattened →
      ∀ others, Collects schema table type selections others ↔ others = fields
  /-- The fields of a type do not depend on the other types. -/
  alone : ∀ flattened, flatten schema table parent selections = .ok flattened →
    ∀ type fields, (type, fields) ∈ flattened →
      flatten schema table type selections = .ok [(type, fields)]
  /-- Flattening fails exactly if it fails for one of the types. -/
  fails : ∀ types, schema.concreteTypes parent = .ok types → types ≠ [] →
    ((∃ problem, flatten schema table parent selections = .error problem) ↔
      ∃ type ∈ types, ∃ problem, flatten schema table type selections = .error problem)

/-- A computation fails exactly if it has no result. -/
private theorem exists_error_iff {α ε : Type} {outcome : Except ε α} :
    (∃ problem, outcome = .error problem) ↔ ¬ ∃ value, outcome = .ok value := by
  cases outcome <;> simp

/-- One reading for all types gives each type what the rule collects for it alone. -/
theorem flatten_fields_eq_collected (wellFormed : schema.WellFormed) (table : FragmentTable)
    (parent : String) (selections : List Selection) :
    FlattensByType schema table parent selections where
  types := by
    intro flattened succeeds
    obtain ⟨types, distributed, concrete, -, rfl⟩ := flatten_eq_ok.mp succeeds
    rw [List.map_map]
    have keys : types.eraseDups.map (Prod.fst ∘ fun type => (type, fieldsOn distributed type))
        = types.eraseDups := List.map_id _
    rw [keys]
    exact ⟨types, concrete, rfl, Lists.nodup_eraseDups types⟩
  collected := by
    intro flattened succeeds type fields listed others
    obtain ⟨types, distributed, concrete, reads, rfl⟩ := flatten_eq_ok.mp succeeds
    obtain ⟨_, inside, same⟩ := List.mem_map.mp listed
    cases same
    have object := wellFormed.kind?_of_mem_concreteTypes concrete (List.mem_eraseDups.mp inside)
    have collects := collects_of_distributeWithin wellFormed (.refl table) reads object inside
    exact ⟨fun other => other.unique collects, fun same => same ▸ collects⟩
  alone := by
    intro flattened succeeds type fields listed
    obtain ⟨types, distributed, concrete, reads, rfl⟩ := flatten_eq_ok.mp succeeds
    obtain ⟨_, inside, same⟩ := List.mem_map.mp listed
    cases same
    -- The reading for all types, restricted to one of them, is the reading for that one.
    obtain ⟨own, alone, fields⟩ :=
      distributeWithin_singleton (Lists.nodup_eraseDups types) reads inside
    have object := wellFormed.kind?_of_mem_concreteTypes concrete (List.mem_eraseDups.mp inside)
    exact (flatten_object_eq_ok object).mpr ⟨own, alone, by rw [fields]⟩
  fails := by
    intro types concrete inhabited
    simp only [exists_error_iff]
    rw [flatten_succeeds_iff wellFormed concrete inhabited]
    simp only [not_forall, exists_prop]

/-- On pets, a fragment on cats below a spread adds its field for cats alone. -/
theorem flatten_pets_by_type : Schema.pets.WellFormed ∧ FlattensByType Schema.pets
    [⟨⟨"Named", "Pet", [], [.field ⟨none, "name", [], []⟩ []]⟩, false, none⟩] "Pet"
    [.spread "Named" [], .inlined (some "Cat") [] [.field ⟨none, "friend", [], []⟩
      [.spread "Named" []]]] :=
  ⟨Schema.wellFormed_pets, flatten_fields_eq_collected Schema.wellFormed_pets _ _ _⟩

end SelectionTypes.Selection

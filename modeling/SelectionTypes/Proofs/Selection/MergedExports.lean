import SelectionTypes.Proofs.Selection.Optimized

/-!
# `SelectionTypes.Proofs.Selection.MergedExports`: exports of merged fields

Siblings of one key are merged into one field (`siblings_mergeSiblings`). It has the directives of
one of them, the first one that has directives (`foldl_joinedField`). Unmerged siblings are read as
the first exported one of them (`firstExport?_eq_of_find?`). `ExportsLead` says that the two agree:
if one of the fields is exported, then so is the first one with directives.

`keepsExports_merge` says of each list of selections that this is what matters. Merged siblings have
the export of the siblings exactly if exports lead among them. Where they lead in a list and in its
inline fragments, a key has an exported field on an object type after merging exactly if it has one
before.

What holds of all fields, and of a field that takes the directives of another one over, holds of the
fields of merged selections (`forall_headsOf_merge`).

Exports need not lead. If a pet is included on a condition and selected again with an export, then
merging loses the export: `includedPet_hides_export`.
-/

set_option autoImplicit false

namespace SelectionTypes

open Outcome
open TypeScript (TypeExpr)

/-! ### The field that decides -/

namespace FieldHead

variable {schema : Schema} {type : TypeRef} {head other : FieldHead} {found : Option TypeExpr}

/-- The name of an export is said by the directives. -/
theorem exportName_congr (same : head.directives = other.directives) (name : String) :
    head.exportName = .ok name ↔ other.exportName = .ok name := by
  unfold exportName exportDirective?
  rw [same]
  repeat' split
  all_goals simp

/-- The reference of a field is said by its directives. Its name counts for failures alone. -/
theorem exportRef?_congr (same : head.directives = other.directives) :
    head.exportRef? schema type = .ok found ↔ other.exportRef? schema type = .ok found := by
  rw [exportRef?_eq_ok, exportRef?_eq_ok, SelectionScope.isExported_congr same]
  simp only [exportName_congr same]

end FieldHead

namespace SelectedField

variable {fields : List SelectedField}

/-- Whether a field has directives. -/
def hasDirectives (field : SelectedField) : Bool :=
  !field.head.directives.isEmpty

/-- A field without directives is not exported. -/
theorem hasDirectives_of_isExported {field : SelectedField}
    (exported : field.head.isExported = true) : field.hasDirectives = true := by
  unfold hasDirectives
  cases none : field.head.directives with
  | nil =>
    simp [FieldHead.isExported, FieldHead.exportDirective?, Directive.find?, none] at exported
  | cons first rest => rfl

/-- If one of the fields is exported, then so is the first one that has directives. -/
def ExportsLead (fields : List SelectedField) : Prop :=
  ∀ field ∈ fields, field.head.isExported = true →
    ∃ leader, fields.find? hasDirectives = some leader ∧ leader.head.isExported = true

/-- An exported field that is the first one with directives is the first exported one. -/
theorem find?_isExported_of_leader {leader : SelectedField}
    (isLeader : fields.find? hasDirectives = some leader)
    (exported : leader.head.isExported = true) :
    fields.find? (fun field => field.head.isExported) = some leader := by
  obtain ⟨-, before, after, rfl, plain⟩ := List.find?_eq_some_iff_append.mp isLeader
  refine List.find?_eq_some_iff_append.mpr ⟨exported, before, after, rfl, fun field inside => ?_⟩
  have none := plain field inside
  by_contra own
  rw [hasDirectives_of_isExported (by simpa using own)] at none
  cases none

end SelectedField

/-! ### The field that siblings are merged into -/

namespace Selection

open SelectedField (hasDirectives ExportsLead)

variable {schema : Schema} {selections : List Selection} {key : String}

/-- The fields of one key in a list itself. -/
def siblings (selections : List Selection) (key : String) : List SelectedField :=
  (ownFields selections).filter fun field => field.key == key

/-- The fields of a key are found list by list. -/
theorem siblings_append (first second : List Selection) :
    siblings (first ++ second) key = siblings first key ++ siblings second key := by
  unfold siblings
  rw [ownFields_append, List.filter_append]

/-- A field is in front of the others of its key. -/
theorem siblings_field (head : FieldHead) (inner rest : List Selection) :
    siblings (.field head inner :: rest) key =
      if head.responseKey = key then ⟨head, inner⟩ :: siblings rest key else siblings rest key := by
  unfold siblings
  rw [ownFields_cons_field, List.filter_cons]
  simp [SelectedField.key]

/-- A field joins the first one of its key. The siblings of other keys stay. -/
theorem siblings_addField (head : FieldHead) (inner merged : List Selection) :
    siblings (addField head inner merged) key =
      if head.responseKey = key then
        match siblings merged key with
        | [] => [⟨head, inner⟩]
        | first :: rest => joinedField first ⟨head, inner⟩ :: rest
      else siblings merged key := by
  fun_induction addField head inner merged with
  | case1 => exact siblings_field head inner []
  | case2 first own rest same =>
    rw [beq_iff_eq] at same
    have joined := (key_joinedField ⟨first, own⟩ ⟨head, inner⟩).1
    unfold SelectedField.key at joined
    rw [joinFields_eq ⟨first, own⟩ ⟨head, inner⟩, siblings_field, siblings_field, joined, same]
    split <;> rfl
  | case3 first own rest different ih =>
    rw [beq_iff_eq] at different
    rw [siblings_field, siblings_field, ih]
    -- The first field has another key than the added one, so it has the key of one side at most.
    by_cases own : head.responseKey = key
    · simp only [own, if_true]
      rw [own] at different
      simp only [different, if_false]
    · simp only [own, if_false]
  | case4 selection rest noField ih =>
    have skip : ∀ others, siblings (selection :: others) key = siblings others key :=
      fun others => congrArg (List.filter _) (ownFields_cons_of_ne_field noField others)
    rw [skip, skip, ih]

/-- The siblings of a key are merged into one field, one after the other. -/
theorem siblings_mergeSiblings (selections : List Selection) (key : String) :
    siblings (mergeSiblings selections) key =
      match siblings selections key with
      | [] => []
      | first :: later => [later.foldl joinedField first] := by
  induction selections using mergeSiblings_induction with
  | nil => rfl
  | @field read merged head inner ih =>
    rw [siblings_addField, siblings_append, siblings_field, ih]
    -- A field of the key is joined to the others, and one of another key is none of the siblings.
    by_cases own : head.responseKey = key
    · simp only [own, if_true]
      cases siblings read key with
      | nil => rfl
      | cons first later => simp [siblings, ownFields]
    · simp only [own, if_false]
      rw [show siblings ([] : List Selection) key = [] from rfl, List.append_nil]
  | @fragment read merged fragment noField ih =>
    have none : siblings [fragment] key = [] := by
      unfold siblings
      rw [noField, List.filter_nil]
    rw [siblings_append, siblings_append, none, List.append_nil, List.append_nil, ih]

/-- What stands below the siblings is merged, too. -/
theorem siblings_merge (selections : List Selection) (key : String) :
    siblings (merge selections) key =
      (siblings (mergeSiblings selections) key).map fun field =>
        ⟨field.head, merge field.selections⟩ := by
  unfold siblings
  rw [ownFields_merge, List.filter_map]
  rfl

/-- The field that two fields with sub-selections are joined into. -/
theorem joinedField_of_nested {first later : SelectedField} (nested : first.selections ≠ [])
    (nested' : later.selections ≠ []) :
    joinedField first later =
      ⟨{ first.head with
          directives :=
            if first.head.directives.isEmpty then later.head.directives
            else first.head.directives },
        first.selections ++ later.selections⟩ := by
  simp [joinedField, nested, nested']

/-- A field that others with sub-selections are joined to has the sub-selections of all, and the
directives of the first one that has directives. -/
theorem foldl_joinedField {first : SelectedField} {later : List SelectedField}
    (nested : ∀ field ∈ first :: later, field.selections ≠ []) :
    (later.foldl joinedField first).selections =
        (first :: later).flatMap SelectedField.selections ∧
      (later.foldl joinedField first).head.directives =
        ((first :: later).find? hasDirectives).elim [] fun leader => leader.head.directives := by
  induction later generalizing first with
  | nil =>
    refine ⟨by simp, ?_⟩
    rw [List.foldl_nil, List.find?_singleton]
    split
    · rfl
    · next none => simpa [hasDirectives] using none
  | cons next later ih =>
    rw [List.forall_mem_cons, List.forall_mem_cons] at nested
    obtain ⟨own, other, rest⟩ := nested
    have joined := joinedField_of_nested own other
    have below : ∀ field ∈ joinedField first next :: later, field.selections ≠ [] := by
      rw [List.forall_mem_cons, joined]
      exact ⟨by simp [own], rest⟩
    obtain ⟨selections, directives⟩ := ih below
    rw [List.foldl_cons, selections, directives]
    refine ⟨by simp [joined], ?_⟩
    -- The joined field has directives exactly if one of the two has, and then those of the first.
    rw [List.find?_cons, List.find?_cons, List.find?_cons, joined]
    cases bare : first.head.directives with
    | cons directive others => simp [hasDirectives, bare]
    | nil =>
      cases bare' : next.head.directives with
      | nil => simp [hasDirectives, bare, bare']
      | cons directive others => simp [hasDirectives, bare, bare']

/-! ### The export of merged siblings -/

/-- A field with the directives of several fields is exported if exports lead among these and one of
them is exported. -/
theorem isExported_of_leads {fields : List SelectedField} {head : FieldHead}
    (directives : head.directives =
      (fields.find? hasDirectives).elim [] fun leader => leader.head.directives) :
    head.isExported = true ↔ ∃ leader, fields.find? hasDirectives = some leader ∧
      leader.head.isExported = true := by
  cases leads : fields.find? hasDirectives with
  | none =>
    rw [leads] at directives
    simp [FieldHead.isExported, FieldHead.exportDirective?, Directive.find?, directives]
  | some leader =>
    rw [leads] at directives
    simp [SelectionScope.isExported_congr directives]

/-- A field that others are joined to has the export of all of them, with the same reference or
without one, exactly if exports lead among them. -/
theorem exportRef?_foldl_joinedField_iff {type : TypeRef} {first : SelectedField}
    {later : List SelectedField} (nested : ∀ field ∈ first :: later, field.selections ≠ []) :
    (∀ found, (later.foldl joinedField first).head.exportRef? schema type = .ok found ↔
      SelectedField.firstExport? schema type (first :: later) = .ok found) ↔
        ExportsLead (first :: later) := by
  have directives := (foldl_joinedField nested).2
  constructor
  · intro alike field inside exported
    refine (isExported_of_leads directives).mp ?_
    by_contra plain
    -- Without a reference of the merged field there is none of the siblings.
    rw [Bool.not_eq_true, ← @FieldHead.exportRef?_eq_none schema type, alike,
      SelectedField.firstExport?_eq_none_iff] at plain
    rw [plain field inside] at exported
    cases exported
  · intro lead found
    by_cases none : ∀ field ∈ first :: later, field.head.isExported = false
    · have plain : (later.foldl joinedField first).head.isExported = false := by
        rw [← Bool.not_eq_true, isExported_of_leads directives]
        rintro ⟨leader, isLeader, exported⟩
        rw [none leader (List.mem_of_find?_eq_some isLeader)] at exported
        cases exported
      rw [SelectedField.firstExport?_eq_none none, FieldHead.exportRef?_eq_none.mpr plain]
    · push Not at none
      obtain ⟨field, inside, exported⟩ := none
      obtain ⟨leader, isLeader, exported⟩ := lead field inside (by simpa using exported)
      rw [isLeader] at directives
      rw [SelectedField.firstExport?_eq_of_find?
        (SelectedField.find?_isExported_of_leader isLeader exported)]
      exact FieldHead.exportRef?_congr directives

/-! ### One level -/

/-- The lists that are read on one level: selections and those of their inline fragments. -/
inductive OnLevel : List Selection → List Selection → Prop
  | self {selections : List Selection} : OnLevel selections selections
  | inlined {selections inner list : List Selection} {condition : Option String}
      {directives : List Directive} (listed : .inlined condition directives inner ∈ selections)
      (inside : OnLevel inner list) : OnLevel selections list

/-- In each list of a level the fields of a key have sub-selections, and exports lead among them. -/
def ExportsLeadOnLevel (selections : List Selection) (key : String) : Prop :=
  ∀ list, OnLevel selections list →
    (∀ field ∈ siblings list key, field.selections ≠ []) ∧ ExportsLead (siblings list key)

/-- Whether selections select an exported field of a key on an object type. -/
def SelectsExport (schema : Schema) (type key : String) (selections : List Selection) : Prop :=
  ∃ field ∈ selectedOn schema type selections, field.key = key ∧ field.head.isExported = true

/-- Without an exported field the fields of a key have no reference. -/
theorem not_selectsExport_iff {concrete : String} {type : TypeRef} :
    ¬ SelectsExport schema concrete key selections ↔ SelectedField.firstExport? schema type
      ((selectedOn schema concrete selections).filter (·.key == key)) = .ok none := by
  rw [SelectedField.firstExport?_eq_none_iff]
  unfold SelectsExport
  simp only [List.mem_filter, beq_iff_eq, not_exists, not_and, Bool.not_eq_true, and_imp]

/-- An exported field is selected in a list itself or in one of its fragments. -/
theorem selectsExport_iff {type : String} :
    SelectsExport schema type key selections ↔
      (∃ field ∈ siblings selections key, field.head.isExported = true) ∨
        ∃ fragment ∈ ownFragments selections, SelectsExport schema type key [fragment] := by
  unfold SelectsExport siblings
  simp only [(selectedOn_split type selections).mem_iff, List.mem_append, List.mem_flatMap,
    List.mem_filter, beq_iff_eq]
  constructor
  · rintro ⟨field, own | ⟨fragment, listed, inside⟩, isKey, exported⟩
    · exact .inl ⟨field, ⟨own, isKey⟩, exported⟩
    · exact .inr ⟨fragment, listed, field, inside, isKey, exported⟩
  · rintro (⟨field, ⟨own, isKey⟩, exported⟩ | ⟨fragment, listed, field, inside, isKey, exported⟩)
    · exact ⟨field, .inl own, isKey, exported⟩
    · exact ⟨field, .inr ⟨fragment, listed, inside⟩, isKey, exported⟩

/-- An inline fragment selects what stands inside if its condition is met. -/
theorem selectsExport_inlined {type : String} {condition : Option String}
    {directives : List Directive} {inner : List Selection} :
    SelectsExport schema type key [.inlined condition directives inner] ↔
      (∀ name ∈ condition, schema.meets name type = true) ∧
        SelectsExport schema type key inner := by
  unfold SelectsExport
  cases condition with
  | none => simp [selectedOn]
  | some name => by_cases met : schema.meets name type = true <;> simp [selectedOn, met]

/-- If exports lead on a level, then merging keeps which keys have an exported field. -/
theorem selectsExport_merge_iff {type : String} (lead : ExportsLeadOnLevel selections key) :
    SelectsExport schema type key (merge selections) ↔
      SelectsExport schema type key selections := by
  induction size : weight selections using Nat.strongRecOn generalizing selections with
  | _ size ih =>
    subst size
    obtain ⟨nested, leads⟩ := lead selections .self
    rw [selectsExport_iff, selectsExport_iff]
    refine or_congr ?_ ?_
    · -- The siblings are one merged field, which is exported if one of them is.
      rw [siblings_merge, siblings_mergeSiblings]
      cases own : siblings selections key with
      | nil => simp
      | cons first later =>
        rw [own] at nested leads
        simp only [List.map_cons, List.map_nil, List.mem_singleton, exists_eq_left]
        rw [isExported_of_leads (foldl_joinedField nested).2]
        exact ⟨fun ⟨leader, isLeader, exported⟩ =>
            ⟨leader, List.mem_of_find?_eq_some isLeader, exported⟩,
          fun ⟨member, inside, exported⟩ => leads member inside exported⟩
    · -- The fragments stay, with merged selections inside, which weigh less.
      rw [ownFragments_merge]
      simp only [List.mem_map, exists_exists_and_eq_and]
      refine exists_congr fun fragment => and_congr_right fun listed => ?_
      have inside := List.mem_of_mem_filter listed
      have lighter := weight_children_lt_of_mem inside
      cases fragment with
      | field head inner => simp [ownFragments] at listed
      | spread name directives => exact Iff.rfl
      | inlined condition directives inner =>
        rw [withChildren, selectsExport_inlined, selectsExport_inlined]
        exact and_congr_right fun _ =>
          ih _ lighter (fun list below => lead list (.inlined inside below)) rfl

/-! ### What merging keeps of exports -/

/-- What merging keeps of the exports of a key. -/
structure KeepsExports (selections : List Selection) (key : String) : Prop where
  /-- Siblings with sub-selections are merged into one field with the sub-selections of all. It has
  the export of the siblings, the reference of the first exported one or none, exactly if exports
  lead among them. -/
  merged : ∀ first later, siblings selections key = first :: later →
    (∀ field ∈ first :: later, field.selections ≠ []) →
      ∃ field, siblings (merge selections) key = [field] ∧
        field.selections = merge ((first :: later).flatMap SelectedField.selections) ∧
        ∀ schema type, (∀ found, field.head.exportRef? schema type = .ok found ↔
          SelectedField.firstExport? schema type (first :: later) = .ok found) ↔
            ExportsLead (first :: later)
  /-- If exports lead on the whole level, then the fields of the key on an object type are read
  through an alias after merging exactly if they are before. -/
  level : ExportsLeadOnLevel selections key → ∀ schema concrete type,
    SelectedField.firstExport? schema type
        ((selectedOn schema concrete (merge selections)).filter (·.key == key)) = .ok none ↔
      SelectedField.firstExport? schema type
        ((selectedOn schema concrete selections).filter (·.key == key)) = .ok none

/-- Merging keeps the exports of a key exactly as far as exports lead. -/
theorem keepsExports_merge (selections : List Selection) (key : String) :
    KeepsExports selections key where
  merged := by
    intro first later own nested
    let joined := later.foldl joinedField first
    refine ⟨⟨joined.head, merge joined.selections⟩, ?_, ?_,
      fun schema type => exportRef?_foldl_joinedField_iff nested⟩
    · rw [siblings_merge, siblings_mergeSiblings, own]
      rfl
    · rw [(foldl_joinedField nested).1]
  level := by
    intro lead schema concrete type
    rw [← not_selectsExport_iff, ← not_selectsExport_iff, selectsExport_merge_iff lead]

/-! ### What holds of all fields -/

section AllFields

variable {holds : FieldHead → Prop} (joined : ∀ first later, holds first → holds later →
  holds { first with directives := later.directives })

/-- There is no field in no selections. -/
theorem forall_headsOf_nil : ∀ head ∈ headsOf [], holds head := by
  rw [headsOf]
  exact List.forall_mem_nil _

/-- What holds of a field, of all fields below it and of those behind it holds of all of them. -/
theorem forall_headsOf_field {head : FieldHead} {inner rest : List Selection} :
    (∀ other ∈ headsOf (.field head inner :: rest), holds other) ↔
      holds head ∧ (∀ other ∈ headsOf inner, holds other) ∧
        ∀ other ∈ headsOf rest, holds other := by
  rw [headsOf, List.forall_mem_cons, List.forall_mem_append]

/-- The fields of selections are those of each selection. -/
theorem forall_headsOf_iff :
    (∀ head ∈ headsOf selections, holds head) ↔
      ∀ selection ∈ selections, ∀ head ∈ headsOf [selection], holds head := by
  induction selections with
  | nil => exact iff_of_true forall_headsOf_nil (List.forall_mem_nil _)
  | cons selection rest ih =>
    rw [← List.singleton_append, headsOf_append, List.forall_mem_append, ih,
      List.singleton_append, List.forall_mem_cons]

include joined

/-- It holds of a joined field and of all fields below it. -/
theorem forall_headsOf_joinFields {first later : FieldHead} {inner added : List Selection}
    (isFirst : holds first) (isLater : holds later) (below : ∀ head ∈ headsOf inner, holds head)
    (more : ∀ head ∈ headsOf added, holds head) :
    ∀ head ∈ headsOf [joinFields first inner later added], holds head := by
  unfold joinFields
  split
  · exact forall_headsOf_field.mpr ⟨isFirst, below, forall_headsOf_nil⟩
  · rw [forall_headsOf_field, headsOf_append, List.forall_mem_append]
    refine ⟨?_, ⟨below, more⟩, forall_headsOf_nil⟩
    split
    · exact joined first later isFirst isLater
    · exact isFirst

/-- It is kept when a field is added to merged siblings. -/
theorem forall_headsOf_addField {head : FieldHead} {inner merged : List Selection}
    (isHead : holds head) (below : ∀ other ∈ headsOf inner, holds other)
    (each : ∀ other ∈ headsOf merged, holds other) :
    ∀ other ∈ headsOf (addField head inner merged), holds other := by
  fun_induction addField head inner merged with
  | case1 => exact forall_headsOf_field.mpr ⟨isHead, below, forall_headsOf_nil⟩
  | case2 first own rest _ =>
    obtain ⟨isFirst, inside, others⟩ := forall_headsOf_field.mp each
    rw [← List.singleton_append, headsOf_append, List.forall_mem_append]
    exact ⟨forall_headsOf_joinFields joined isFirst isHead inside below, others⟩
  | case3 first own rest _ ih =>
    rw [forall_headsOf_field] at each ⊢
    exact ⟨each.1, each.2.1, ih each.2.2⟩
  | case4 other rest _ ih =>
    rw [← List.singleton_append, headsOf_append, List.forall_mem_append] at each ⊢
    exact ⟨each.1, ih each.2⟩

/-- So it is kept when siblings are merged. -/
theorem forall_headsOf_mergeSiblings (own : ∀ head ∈ headsOf selections, holds head) :
    ∀ head ∈ headsOf (mergeSiblings selections), holds head := by
  induction selections using mergeSiblings_induction with
  | nil => exact own
  | field ih =>
    rw [headsOf_append, List.forall_mem_append, forall_headsOf_field] at own
    exact forall_headsOf_addField joined own.2.1 own.2.2.1 (ih own.1)
  | fragment _ ih =>
    rw [headsOf_append, List.forall_mem_append] at own ⊢
    exact ⟨ih own.1, own.2⟩

/-- What holds of all fields, and of each field that takes the directives of another one over, holds
of the fields of merged selections. -/
theorem forall_headsOf_merge (own : ∀ head ∈ headsOf selections, holds head) :
    ∀ head ∈ headsOf (merge selections), holds head := by
  induction size : weight selections using Nat.strongRecOn generalizing selections with
  | _ size ih =>
    subst size
    have siblings := forall_headsOf_iff.mp (forall_headsOf_mergeSiblings joined own)
    rw [merge_eq, forall_headsOf_iff, List.forall_mem_map]
    intro selection listed
    -- Merging adds no weight, so what stands below a merged sibling weighs less than the list.
    have lighter := Nat.lt_of_lt_of_le (weight_children_lt_of_mem listed)
      (weight_mergeSiblings_le selections)
    have alone := siblings selection listed
    cases selection with
    | field head inner =>
      rw [forall_headsOf_field] at alone
      exact forall_headsOf_field.mpr ⟨alone.1, ih _ lighter alone.2.1 rfl, forall_headsOf_nil⟩
    | spread name directives => exact alone
    | inlined condition directives inner =>
      rw [headsOf, List.forall_mem_append] at alone
      rw [withChildren, headsOf, List.forall_mem_append]
      exact ⟨ih _ lighter alone.1 rfl, alone.2⟩

end AllFields

/-! ### A pet that is included and exported -/

/-- A pet that is included on a condition, with its name. -/
def includedPet : SelectedField :=
  let directive : Directive := ⟨"include", [⟨"if", .boolean true, 0⟩], 0⟩
  ⟨⟨none, "pet", [], [directive]⟩, [.field ⟨none, "name", [], []⟩ []]⟩

/-- The same pet, exported with the name of its friend. -/
def exportedPet : SelectedField :=
  let directive : Directive := ⟨"export", [⟨"exportName", .string "Chosen" false, 0⟩], 0⟩
  ⟨⟨none, "pet", [], [directive]⟩,
    [.field ⟨none, "friend", [], []⟩ [.field ⟨none, "name", [], []⟩ []]]⟩

/-- Both fields, one after the other. -/
def twicePet (first second : SelectedField) : List Selection :=
  [.field first.head first.selections, .field second.head second.selections]

/-- The reference to the alias of the exported pet. -/
def chosenPet : TypeExpr :=
  .marked (.named "Pet") (.aliasRef "Chosen")

/-- If the exported pet is first, then the merged one is exported, too, with the selections of
both. -/
theorem keepsExports_exportedPet :
    siblings (twicePet exportedPet includedPet) "pet" = [exportedPet, includedPet] ∧
    ∃ field, siblings (merge (twicePet exportedPet includedPet)) "pet" = [field] ∧
      field.selections = merge (exportedPet.selections ++ includedPet.selections) ∧
      field.head.exportRef? Schema.pets (.named "Pet") = .ok (some chosenPet) := by
  have own : siblings (twicePet exportedPet includedPet) "pet" = [exportedPet, includedPet] :=
    rfl
  have nested : ∀ field ∈ [exportedPet, includedPet], field.selections ≠ [] := by
    simp [exportedPet, includedPet]
  -- The exported pet is in front, so no other field can take its place.
  have lead : ExportsLead [exportedPet, includedPet] :=
    fun _ _ _ => ⟨exportedPet, rfl, rfl⟩
  obtain ⟨field, merged, selections, alike⟩ :=
    (keepsExports_merge (twicePet exportedPet includedPet) "pet").merged _ _ own nested
  refine ⟨own, field, merged, selections.trans rfl, ?_⟩
  rw [(alike Schema.pets (.named "Pet")).mpr lead]
  rfl

/-- If the included pet is first, then the merged one is not exported. The alias that stands for the
pet without merging is not read. -/
theorem includedPet_hides_export :
    siblings (twicePet includedPet exportedPet) "pet" = [includedPet, exportedPet] ∧
    (∀ field ∈ [includedPet, exportedPet], field.selections ≠ []) ∧
    SelectedField.firstExport? Schema.pets (.named "Pet") [includedPet, exportedPet] =
      .ok (some chosenPet) ∧
    (∃ field, siblings (merge (twicePet includedPet exportedPet)) "pet" = [field] ∧
      field.head.exportRef? Schema.pets (.named "Pet") = .ok none) ∧
    SelectedField.firstExport? Schema.pets (.named "Pet")
      ((selectedOn Schema.pets "Query" (merge (twicePet includedPet exportedPet))).filter
        (·.key == "pet")) = .ok none := by
  refine ⟨rfl, by simp [includedPet, exportedPet], rfl, ?_, by cbv⟩
  have merged : siblings (merge (twicePet includedPet exportedPet)) "pet" =
      [⟨includedPet.head, merge (includedPet.selections ++ exportedPet.selections)⟩] := by cbv
  exact ⟨_, merged, rfl⟩

end Selection

end SelectionTypes

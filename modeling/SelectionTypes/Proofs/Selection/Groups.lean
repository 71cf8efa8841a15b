import Mathlib.Data.List.Forall2
import SelectionTypes.Proofs.Support.Lists
import SelectionTypes.Selection.Shape

/-!
# `SelectionTypes.Proofs.Selection.Groups`: the fields of one response key

`SelectedField.groups` takes fields apart by response key. There is one group for each key, in
order of first occurrence, and it has all fields of the key in their order:

* `groups_eq`: the keys of the fields, each once, with the group of each key.
* `mem_groups`: a group is what is left of the fields when other keys are left out.
* `groups_append_self`: fields that are listed twice are twice in their groups.
* `groups_forall₂`: fields that correspond one by one have groups that do.
* `groups_matched`: lists of fields with the same keys, in any order, have corresponding groups.
-/

set_option autoImplicit false

namespace SelectionTypes.SelectedField

/-- The fields of a group. -/
abbrev members (group : SelectedField × List SelectedField) : List SelectedField :=
  group.1 :: group.2

/-- The fields of a key: the first one and the later ones. -/
def groupOf? (fields : List SelectedField) (key : String) :
    Option (SelectedField × List SelectedField) :=
  match fields.filter fun field => field.key == key with
  | [] => none
  | first :: later => some (first, later)

/-- The group of a key has exactly the fields of the key, in their order. -/
theorem groupOf?_eq_some {fields : List SelectedField} {key : String}
    {group : SelectedField × List SelectedField} :
    groupOf? fields key = some group ↔ fields.filter (fun field => field.key == key)
      = members group := by
  unfold groupOf?
  cases fields.filter fun field => field.key == key with
  | nil => simp
  | cons first later => simp [Prod.ext_iff]

/-- The first field of the group of a key has that key. -/
theorem key_of_groupOf? {fields : List SelectedField} {key : String}
    {group : SelectedField × List SelectedField} (found : groupOf? fields key = some group) :
    group.1.key = key := by
  have inside : group.1 ∈ fields.filter fun field => field.key == key := by
    rw [groupOf?_eq_some.mp found]
    exact List.mem_cons_self
  simpa using (List.mem_filter.mp inside).2

/-- A key that a field has has a group. -/
theorem groupOf?_isSome {fields : List SelectedField} {key : String}
    (inside : key ∈ fields.map SelectedField.key) : (groupOf? fields key).isSome := by
  obtain ⟨field, listed, rfl⟩ := List.mem_map.mp inside
  have kept : field ∈ fields.filter fun other => other.key == field.key :=
    List.mem_filter.mpr ⟨listed, beq_self_eq_true field.key⟩
  unfold groupOf?
  cases filtered : fields.filter fun other => other.key == field.key with
  | nil =>
    rw [filtered] at kept
    cases kept
  | cons first later => rfl

/-- The group of a key is the same without the fields of another key. -/
private theorem groupOf?_of_ne {fields : List SelectedField} {field : SelectedField} {key : String}
    (different : key ≠ field.key) :
    groupOf? (fields.filter fun other => other.key != field.key) key =
      groupOf? (field :: fields) key := by
  unfold groupOf?
  rw [List.filter_filter, List.filter_cons_of_neg (by simpa using Ne.symm different)]
  congr 1
  refine List.filter_congr fun other _ => ?_
  by_cases same : other.key = key <;> simp [same, different]

/-- There is one group for each key, in order of first occurrence. -/
theorem groups_eq (fields : List SelectedField) :
    groups fields = (fields.map SelectedField.key).eraseDups.filterMap (groupOf? fields) := by
  induction fields using groups.induct with
  | case1 => simp [groups]
  | case2 field rest ih =>
    simp only [List.unattach_filter, List.unattach_attach] at ih
    have own : groupOf? (field :: rest) field.key =
        some (field, rest.filter fun other => other.key == field.key) :=
      groupOf?_eq_some.mpr (by simp)
    -- Leaving out the fields of the first key is leaving out that key.
    have keys : (rest.map SelectedField.key).filter (fun key => !key == field.key) =
        (rest.filter fun other => other.key != field.key).map SelectedField.key := by
      rw [List.filter_map]
      rfl
    have others : ∀ key ∈ ((rest.filter fun other => other.key != field.key).map
        SelectedField.key).eraseDups, groupOf? (rest.filter fun other => other.key != field.key) key
          = groupOf? (field :: rest) key := by
      intro key inside
      obtain ⟨other, listed, rfl⟩ := List.mem_map.mp (List.mem_eraseDups.mp inside)
      exact groupOf?_of_ne (by simpa using (List.mem_filter.mp listed).2)
    rw [groups, ih, List.map_cons, List.eraseDups_cons, List.filterMap_cons_some own, keys,
      List.filterMap_congr others]

/-- The first fields of the groups have the distinct keys. -/
theorem map_key_groups (fields : List SelectedField) :
    (groups fields).map (fun group => group.1.key) = (fields.map SelectedField.key).eraseDups := by
  have each : ∀ key ∈ (fields.map SelectedField.key).eraseDups,
      (groupOf? fields key).map (fun group => group.1.key) = some key := by
    intro key inside
    obtain ⟨group, found⟩ :=
      Option.isSome_iff_exists.mp (groupOf?_isSome (List.mem_eraseDups.mp inside))
    rw [found, Option.map_some, key_of_groupOf? found]
  rw [groups_eq, List.map_filterMap, List.filterMap_congr each, List.filterMap_some]

/-- The group of a key is one of the groups. -/
theorem mem_groups_of_groupOf? {fields : List SelectedField} {key : String}
    {group : SelectedField × List SelectedField} (found : groupOf? fields key = some group) :
    group ∈ groups fields := by
  have named := key_of_groupOf? found
  have inside : group.1 ∈ fields.filter fun field => field.key == key := by
    rw [groupOf?_eq_some.mp found]
    exact List.mem_cons_self
  rw [groups_eq, List.mem_filterMap]
  refine ⟨key, List.mem_eraseDups.mpr ?_, found⟩
  exact named ▸ List.mem_map_of_mem (List.mem_filter.mp inside).1

/-- A group is made of all fields of one key. -/
theorem mem_groups {fields : List SelectedField} {group : SelectedField × List SelectedField} :
    group ∈ groups fields ↔
      fields.filter (fun field => field.key == group.1.key) = members group := by
  constructor
  · intro inside
    rw [groups_eq, List.mem_filterMap] at inside
    obtain ⟨key, -, found⟩ := inside
    rw [key_of_groupOf? found]
    exact groupOf?_eq_some.mp found
  · intro filtered
    exact mem_groups_of_groupOf? (groupOf?_eq_some.mpr filtered)

/-- The fields of a group are among the fields, and they have one key. -/
theorem mem_of_mem_groups {fields : List SelectedField}
    {group : SelectedField × List SelectedField} (inside : group ∈ groups fields)
    {field : SelectedField} (member : field ∈ members group) :
    field ∈ fields ∧ field.key = group.1.key := by
  rw [← mem_groups.mp inside, List.mem_filter] at member
  exact ⟨member.1, by simpa using member.2⟩

/-- A group starts with the first field of its key. -/
theorem find?_key_of_mem_groups {fields : List SelectedField}
    {group : SelectedField × List SelectedField} (inside : group ∈ groups fields) :
    fields.find? (fun field => field.key == group.1.key) = some group.1 := by
  rw [← List.head?_filter, mem_groups.mp inside]
  rfl

/-- Fields that are listed twice make the same groups, with the fields of each one twice. -/
theorem groups_append_self (fields : List SelectedField) :
    groups (fields ++ fields) =
      (groups fields).map fun group => (group.1, group.2 ++ members group) := by
  -- The second half brings no key that is not there, so the order of keys stays.
  have keys : ((fields ++ fields).map SelectedField.key).eraseDups =
      (fields.map SelectedField.key).eraseDups := by
    have none : (fields.map SelectedField.key).removeAll (fields.map SelectedField.key) = [] :=
      List.filter_eq_nil_iff.mpr fun key inside => by simpa using inside
    rw [List.map_append, List.eraseDups_append, none, List.eraseDups_nil, List.append_nil]
  have each : ∀ key, groupOf? (fields ++ fields) key =
      (groupOf? fields key).map fun group => (group.1, group.2 ++ members group) := by
    intro key
    unfold groupOf?
    rw [List.filter_append]
    cases fields.filter fun field => field.key == key with
    | nil => rfl
    | cons first later => rfl
  rw [groups_eq, groups_eq, keys, List.map_filterMap]
  exact List.filterMap_congr fun key _ => each key

/-! ### Groups of corresponding fields -/

/-- Filtering corresponding elements by what they agree on leaves corresponding elements. -/
private theorem forall₂_filter {α β : Type} {related : α → β → Prop} {p : α → Bool} {q : β → Bool}
    (agree : ∀ {item other}, related item other → p item = q other) {items : List α}
    {others : List β} (each : List.Forall₂ related items others) :
    List.Forall₂ related (items.filter p) (others.filter q) := by
  induction each with
  | nil => exact .nil
  | @cons item other _ _ first _ ih =>
    by_cases kept : p item = true
    · rw [List.filter_cons_of_pos kept, List.filter_cons_of_pos (agree first ▸ kept)]
      exact .cons first ih
    · rw [List.filter_cons_of_neg kept, List.filter_cons_of_neg (agree first ▸ kept)]
      exact ih

/-- Fields that correspond one by one, under the same keys, have corresponding groups. -/
theorem groups_forall₂ {related : SelectedField → SelectedField → Prop}
    (sameKey : ∀ {field other}, related field other → field.key = other.key)
    {fields others : List SelectedField} (each : List.Forall₂ related fields others) :
    List.Forall₂ (fun group other => List.Forall₂ related (members group) (members other))
      (groups fields) (groups others) := by
  induction fields using groups.induct generalizing others with
  | case1 =>
    cases each
    simp [groups]
  | case2 field rest ih =>
    simp only [List.unattach_filter, List.unattach_attach] at ih
    cases each with
    | @cons _ other _ rest' first behind =>
      have key := sameKey first
      rw [groups, groups]
      -- The fields of the first key and the others are picked by keys, which are the same on both
      -- sides.
      refine .cons (.cons first (forall₂_filter ?_ behind)) (ih (forall₂_filter ?_ behind))
      · intro item item' both
        rw [sameKey both, key]
      · intro item item' both
        rw [sameKey both, key]

/-- For keys that both lists of fields have, the groups correspond key by key. -/
private theorem forall₂_groupOf? {fields others : List SelectedField} {keys : List String}
    (both : ∀ key ∈ keys, (groupOf? fields key).isSome ∧ (groupOf? others key).isSome) :
    List.Forall₂ (fun group other => group ∈ groups fields ∧ other ∈ groups others ∧
        group.1.key = other.1.key)
      (keys.filterMap (groupOf? fields)) (keys.filterMap (groupOf? others)) := by
  induction keys with
  | nil => exact .nil
  | cons key keys ih =>
    rw [List.forall_mem_cons] at both
    obtain ⟨group, found⟩ := Option.isSome_iff_exists.mp both.1.1
    obtain ⟨other, found'⟩ := Option.isSome_iff_exists.mp both.1.2
    rw [List.filterMap_cons_some found, List.filterMap_cons_some found']
    have sameKey := (key_of_groupOf? found).trans (key_of_groupOf? found').symm
    exact .cons ⟨mem_groups_of_groupOf? found, mem_groups_of_groupOf? found', sameKey⟩ (ih both.2)

/-- Lists of fields with the same keys have groups that correspond by key, in some order. -/
theorem groups_matched {fields others : List SelectedField}
    (sameKeys : ∀ key, key ∈ fields.map SelectedField.key ↔ key ∈ others.map SelectedField.key) :
    ∃ matched, matched.Perm (groups others) ∧
      List.Forall₂ (fun group other => group ∈ groups fields ∧ other ∈ groups others ∧
        group.1.key = other.1.key) (groups fields) matched := by
  refine ⟨(fields.map SelectedField.key).eraseDups.filterMap (groupOf? others), ?_, ?_⟩
  · rw [groups_eq others]
    exact (Lists.eraseDups_perm sameKeys).filterMap _
  · conv => arg 2; rw [groups_eq]
    refine forall₂_groupOf? fun key inside => ?_
    rw [List.mem_eraseDups] at inside
    exact ⟨groupOf?_isSome inside, groupOf?_isSome ((sameKeys key).mp inside)⟩

end SelectionTypes.SelectedField

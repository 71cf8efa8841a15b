import Mathlib.Data.List.Induction
import SelectionTypes.Proofs.Selection.Reading
import SelectionTypes.Proofs.Support.Outcome

/-!
# `SelectionTypes.Proofs.Selection.Merge`: what merging does to the fields of a type

Merging joins siblings of one response key. Below a fragment the same key may be selected again,
so the fields of a type are regrouped and not just reordered: `Regroups` says that they can be
divided into parts, each of which is joined into one field. What stands below a joined field is
merged in turn, but only in itself.

* `regroups_merge`: merging regroups the fields of each type, if fields of one key are `Uniform`.
* `Merges` relates selections to merged ones part by part, in any order. It is what the levels of
  a merged tree have in common: if `Merges` holds of selections, the fields of each type are
  regrouped (`Merges.regroups`), and it holds below each key again (`Regroups.merges`).
* `Merges.isReadable_eq`: merging touches no type condition.
-/

set_option autoImplicit false

namespace SelectionTypes.Selection

open Outcome

variable {schema : Schema} {type : String} {applicable : List String}
variable {selections : List Selection} {fields joined : List SelectedField}
variable {finish : List Selection → List Selection}

/-- The fields of a list itself. -/
def ownFields (selections : List Selection) : List SelectedField :=
  selections.filterMap fun selection =>
    match selection with
    | .field head inner => some ⟨head, inner⟩
    | _ => none

/-- The fragments of a list itself, inlined or spread. -/
def ownFragments (selections : List Selection) : List Selection :=
  selections.filter fun selection =>
    match selection with
    | .field _ _ => false
    | _ => true

/-- Fields of one key have one name, and all of them or none have sub-selections. -/
def Uniform (fields : List SelectedField) : Prop :=
  ∀ field ∈ fields, ∀ other ∈ fields, field.key = other.key →
    field.head.name = other.head.name ∧ (field.selections = [] ↔ other.selections = [])

/-- Some of uniform fields are uniform. -/
theorem Uniform.subset {others : List SelectedField} (uniform : Uniform fields)
    (inside : others ⊆ fields) : Uniform others :=
  fun field first other second => uniform field (inside first) other (inside second)

/-! ### Fields joined into one -/

/-- A field stands for several of its key, with all their sub-selections, to which `finish` is
applied. -/
structure Joins (finish : List Selection → List Selection) (part : List SelectedField)
    (joined : SelectedField) : Prop where
  nonempty : part ≠ []
  agree : ∀ field ∈ part, field.key = joined.key ∧ field.head.name = joined.head.name
  directives : ∃ field ∈ part, joined.head.directives = field.head.directives
  selections : joined.selections = finish (part.flatMap SelectedField.selections)

/-- Fields, in some order, are divided into parts, and each part is joined into one field. -/
def Regroups (finish : List Selection → List Selection) (fields joined : List SelectedField) :
    Prop :=
  ∃ parts : List (List SelectedField), fields.Perm parts.flatten ∧
    List.Forall₂ (Joins finish) parts joined

namespace Regroups

/-- No fields are regrouped into none. -/
theorem nil : Regroups finish [] [] :=
  ⟨[], .nil, .nil⟩

/-- Two lists of fields are regrouped one by one. -/
theorem append {fields' joined' : List SelectedField} (first : Regroups finish fields joined)
    (second : Regroups finish fields' joined') :
    Regroups finish (fields ++ fields') (joined ++ joined') := by
  obtain ⟨parts, order, each⟩ := first
  obtain ⟨parts', order', each'⟩ := second
  refine ⟨parts ++ parts', ?_, List.rel_append each each'⟩
  rw [List.flatten_append]
  exact order.append order'

/-- The order of the fields does not matter, on both sides. -/
theorem perm {fields' joined' : List SelectedField} (regroups : Regroups finish fields joined)
    (order : fields'.Perm fields) (order' : joined.Perm joined') :
    Regroups finish fields' joined' := by
  obtain ⟨parts, divided, each⟩ := regroups
  obtain ⟨moved, each', sameParts⟩ := List.perm_comp_forall₂ order'.symm each.flip
  exact ⟨moved, order.trans (divided.trans sameParts.symm.flatten), each'.flip⟩

/-- A joined field stands for a field of its key and name. -/
theorem exists_source (regroups : Regroups finish fields joined) {field : SelectedField}
    (inside : field ∈ joined) :
    ∃ source ∈ fields, source.key = field.key ∧ source.head.name = field.head.name := by
  obtain ⟨parts, order, each⟩ := regroups
  obtain ⟨part, listed, joins⟩ := Lists.exists_of_mem_right each inside
  obtain ⟨source, member⟩ := List.exists_mem_of_ne_nil part joins.nonempty
  exact ⟨source, order.mem_iff.mpr (List.mem_flatten_of_mem listed member),
    joins.agree source member⟩

/-- A joined field has the directives of a field. -/
theorem exists_directives (regroups : Regroups finish fields joined) {field : SelectedField}
    (inside : field ∈ joined) :
    ∃ source ∈ fields, field.head.directives = source.head.directives := by
  obtain ⟨parts, order, each⟩ := regroups
  obtain ⟨part, listed, joins⟩ := Lists.exists_of_mem_right each inside
  obtain ⟨source, member, same⟩ := joins.directives
  exact ⟨source, order.mem_iff.mpr (List.mem_flatten_of_mem listed member), same⟩

end Regroups

/-! ### Siblings -/

/-- The field that two fields of one key are joined into. -/
def joinedField (first later : SelectedField) : SelectedField :=
  if first.selections.isEmpty || later.selections.isEmpty then first
  else
    ⟨{ first.head with
        directives :=
          if first.head.directives.isEmpty then later.head.directives else first.head.directives },
      first.selections ++ later.selections⟩

/-- Joining two fields gives the joined field. -/
theorem joinFields_eq (first later : SelectedField) :
    joinFields first.head first.selections later.head later.selections =
      .field (joinedField first later).head (joinedField first later).selections := by
  unfold joinFields joinedField
  split <;> rfl

/-- A joined field keeps the key and the name of the first one. -/
theorem key_joinedField (first later : SelectedField) :
    (joinedField first later).key = first.key ∧
      (joinedField first later).head.name = first.head.name := by
  unfold joinedField
  split <;> exact ⟨rfl, rfl⟩

/-- The directives of a joined field are those of one of the two. -/
theorem directives_joinedField (first later : SelectedField) :
    (joinedField first later).head.directives = first.head.directives ∨
      (joinedField first later).head.directives = later.head.directives := by
  unfold joinedField
  split
  · exact .inl rfl
  · by_cases bare : first.head.directives.isEmpty
    · exact .inr (if_pos bare)
    · exact .inl (if_neg bare)

/-- One more field joins a part that has its key. -/
theorem Joins.add {part : List SelectedField} {first later : SelectedField}
    (joins : Joins id part first) (uniform : Uniform (part ++ [later]))
    (key : first.key = later.key) : Joins id (part ++ [later]) (joinedField first later) := by
  obtain ⟨member, inside⟩ := List.exists_mem_of_ne_nil part joins.nonempty
  have own := joins.agree member inside
  have last : later ∈ part ++ [later] := List.mem_append_right part (List.mem_singleton_self later)
  -- Fields of one key have one name, by any member of the part.
  obtain ⟨name, -⟩ := uniform member (List.mem_append_left _ inside) later last (own.1.trans key)
  obtain ⟨sameKey, sameName⟩ := key_joinedField first later
  refine ⟨by simp, fun field listed => ?_, ?_, ?_⟩
  · -- A joined field keeps the key and the name of the first one.
    rw [sameKey, sameName]
    rcases List.mem_append.mp listed with listed | listed
    · exact joins.agree field listed
    · rw [List.mem_singleton.mp listed]
      exact ⟨key.symm, name.symm.trans own.2⟩
  · obtain ⟨source, listed, directives⟩ := joins.directives
    rcases directives_joinedField first later with same | same
    · exact ⟨source, List.mem_append_left _ listed, same.trans directives⟩
    · exact ⟨later, last, same⟩
  · -- If one of the fields has no sub-selections, none has, and there is nothing to join.
    have empty : first.selections = [] ↔ later.selections = [] := by
      rw [joins.selections, id, List.flatMap_eq_nil_iff]
      constructor
      · intro none
        exact (uniform member (List.mem_append_left _ inside) later last
          (own.1.trans key)).2.mp (none member inside)
      · intro none field listed
        exact (uniform field (List.mem_append_left _ listed) later last
          ((joins.agree field listed).1.trans key)).2.mpr none
    rw [List.flatMap_append, ← id_eq (part.flatMap _), ← joins.selections]
    unfold joinedField
    by_cases none : first.selections = []
    · simp [none, empty.mp none]
    · have some : later.selections ≠ [] := fun bare => none (empty.mpr bare)
      simp [none, some]

/-- The fields of two lists are those of each of them. -/
theorem ownFields_append (first second : List Selection) :
    ownFields (first ++ second) = ownFields first ++ ownFields second :=
  List.filterMap_append

/-- So are their fragments. -/
theorem ownFragments_append (first second : List Selection) :
    ownFragments (first ++ second) = ownFragments first ++ ownFragments second :=
  List.filter_append _ _

/-- A list that begins with a field has it in front of its fields. -/
theorem ownFields_cons_field (head : FieldHead) (inner rest : List Selection) :
    ownFields (.field head inner :: rest) = ⟨head, inner⟩ :: ownFields rest :=
  rfl

/-- A selection that is no field adds none. -/
theorem ownFields_cons_of_ne_field {selection : Selection}
    (noField : ∀ head inner, selection ≠ .field head inner) (rest : List Selection) :
    ownFields (selection :: rest) = ownFields rest := by
  cases selection with
  | field head inner => exact absurd rfl (noField head inner)
  | spread name directives => rfl
  | inlined condition directives inner => rfl

/-- A field is put at the end, or joined to an own field of its key. -/
theorem ownFields_addField (field : SelectedField) (merged : List Selection) :
    ownFields (addField field.head field.selections merged) = ownFields merged ++ [field] ∨
      ∃ before first after, ownFields merged = before ++ first :: after ∧ first.key = field.key ∧
        ownFields (addField field.head field.selections merged) =
          before ++ joinedField first field :: after := by
  fun_induction addField field.head field.selections merged with
  | case1 => exact .inl rfl
  | case2 first own rest same =>
    refine .inr ⟨[], ⟨first, own⟩, ownFields rest, rfl, eq_of_beq same, ?_⟩
    rw [joinFields_eq ⟨first, own⟩ field]
    rfl
  | case3 first own rest different ih =>
    -- A field of another key is passed over, whichever of the two happens behind it.
    rcases ih with last | ⟨before, joinedTo, after, split, key, result⟩
    · left
      rw [ownFields_cons_field, ownFields_cons_field, last, List.cons_append]
    · refine .inr ⟨⟨first, own⟩ :: before, joinedTo, after, ?_, key, ?_⟩
      · rw [ownFields_cons_field, split, List.cons_append]
      · rw [ownFields_cons_field, result, List.cons_append]
  | case4 selection rest noField ih =>
    rw [ownFields_cons_of_ne_field noField, ownFields_cons_of_ne_field noField]
    exact ih

/-- Adding a field to merged siblings leaves their fragments alone. -/
theorem ownFragments_addField (head : FieldHead) (inner merged : List Selection) :
    ownFragments (addField head inner merged) = ownFragments merged := by
  fun_induction addField head inner merged with
  | case1 => rfl
  | case2 first own rest _ =>
    rw [joinFields_eq ⟨first, own⟩ ⟨head, inner⟩]
    rfl
  | case3 first own rest _ ih => exact ih
  | case4 selection rest noField ih =>
    unfold ownFragments at ih ⊢
    -- The selection in front is kept or left out on both sides.
    rw [List.filter_cons, List.filter_cons, ih]

/-- One more sibling: the fields so far are still regrouped. -/
theorem regroups_addField {merged : List Selection} {field : SelectedField}
    (uniform : Uniform (fields ++ [field])) (regroups : Regroups id fields (ownFields merged)) :
    Regroups id (fields ++ [field]) (ownFields (addField field.head field.selections merged)) := by
  rcases ownFields_addField field merged with last | ⟨before, first, after, split, key, result⟩
  · -- A field of a new key is a part of its own.
    rw [last]
    refine regroups.append ⟨[[field]], by simp, .cons ⟨by simp, ?_, ⟨field, by simp, rfl⟩, ?_⟩ .nil⟩
    · intro other inside
      rw [List.mem_singleton.mp inside]
      exact ⟨rfl, rfl⟩
    · simp
  · rw [split] at regroups
    -- The part of the key comes first, whatever order the merged fields are in.
    obtain ⟨parts, order, each⟩ := regroups.perm (.refl _) List.perm_middle
    rw [result]
    cases each with
    | @cons part _ parts _ joins others =>
      have members : fields.Perm (part ++ parts.flatten) := order
      have inside : part ++ [field] ⊆ fields ++ [field] :=
        List.append_subset.mpr
          ⟨fun other listed => List.mem_append_left _
            (members.mem_iff.mpr (List.mem_append_left _ listed)),
            List.subset_append_right _ _⟩
      have regrouped : Regroups id (fields ++ [field])
          (joinedField first field :: (before ++ after)) := by
        have added := joins.add (uniform.subset inside) key
        refine ⟨(part ++ [field]) :: parts, ?_, .cons added others⟩
        rw [List.flatten_cons, List.append_assoc]
        refine (members.append_right [field]).trans ?_
        rw [List.append_assoc]
        exact List.perm_append_comm.append_left part
      exact regrouped.perm (.refl _) List.perm_middle.symm

/-- What holds of the empty list and is kept by each sibling holds of merged siblings. It relates
the selections that were read so far to what they are merged into. -/
theorem mergeSiblings_induction {motive : List Selection → List Selection → Prop}
    (nil : motive [] [])
    (field : ∀ {read merged head inner}, motive read merged →
      motive (read ++ [.field head inner]) (addField head inner merged))
    (fragment : ∀ {read merged fragment}, ownFields [fragment] = [] → motive read merged →
      motive (read ++ [fragment]) (merged ++ [fragment]))
    (selections : List Selection) : motive selections (mergeSiblings selections) := by
  unfold mergeSiblings
  induction selections using List.reverseRecOn with
  | nil => exact nil
  | append_singleton read selection ih =>
    rw [List.foldl_concat]
    cases selection with
    | field head inner => exact field ih
    | spread name directives => exact fragment rfl ih
    | inlined condition directives inner => exact fragment rfl ih

/-- Merging siblings regroups the fields of a list itself. -/
theorem regroups_mergeSiblings (uniform : Uniform (ownFields selections)) :
    Regroups id (ownFields selections) (ownFields (mergeSiblings selections)) := by
  induction selections using mergeSiblings_induction with
  | nil => exact .nil
  | @field read merged head inner regroups =>
    rw [ownFields_append] at uniform ⊢
    exact regroups_addField uniform (regroups (uniform.subset (List.subset_append_left _ _)))
  | fragment noField regroups =>
    rw [ownFields_append, noField, List.append_nil] at uniform ⊢
    rw [ownFields_append, noField, List.append_nil]
    exact regroups uniform

/-- Merging siblings leaves the fragments of a list itself. -/
theorem ownFragments_mergeSiblings (selections : List Selection) :
    ownFragments (mergeSiblings selections) = ownFragments selections := by
  induction selections using mergeSiblings_induction with
  | nil => rfl
  | field same =>
    rw [ownFragments_addField, same, ownFragments_append]
    exact (List.append_nil _).symm
  | fragment _ same => rw [ownFragments_append, same, ownFragments_append]

/-! ### A list and every list below it -/

/-- A list is merged, and then what stands below each of its selections. -/
theorem merge_eq (selections : List Selection) :
    merge selections = (mergeSiblings selections).map fun selection =>
      selection.withChildren (merge selection.children) := by
  rw [merge]
  simp

/-- The fields of merged selections are those of the merged siblings, with what stands below them
merged. -/
theorem ownFields_merge (selections : List Selection) :
    ownFields (merge selections) = (ownFields (mergeSiblings selections)).map fun field =>
      ⟨field.head, merge field.selections⟩ := by
  rw [merge_eq]
  induction mergeSiblings selections with
  | nil => rfl
  | cons selection rest ih =>
    cases selection with
    | field head inner =>
      rw [ownFields_cons_field, List.map_cons, List.map_cons, ← ih]
      rfl
    | spread name directives => exact ih
    | inlined condition directives inner => exact ih

/-- The fragments of merged selections are those from before, with their selections merged. No two
of them are joined. -/
theorem ownFragments_merge (selections : List Selection) :
    ownFragments (merge selections) = (ownFragments selections).map fun selection =>
      selection.withChildren (merge selection.children) := by
  rw [merge_eq, ← ownFragments_mergeSiblings selections]
  unfold ownFragments
  rw [List.filter_map]
  congr 1
  refine List.filter_congr fun selection _ => ?_
  cases selection <;> rfl

/-- The fields of a type are those of the list itself and those inside its fragments. -/
theorem selectedOn_split (type : String) (selections : List Selection) :
    (selectedOn schema type selections).Perm (ownFields selections ++
      (ownFragments selections).flatMap fun fragment => selectedOn schema type [fragment]) := by
  induction selections with
  | nil =>
    rw [selectedOn]
    exact .refl _
  | cons selection rest ih =>
    cases selection with
    | field head inner =>
      rw [selectedOn, ownFields_cons_field, List.cons_append]
      exact ih.cons _
    | spread name directives =>
      rw [selectedOn]
      refine ih.trans ?_
      simp [ownFields, ownFragments, selectedOn]
    | inlined condition directives inner =>
      rw [selectedOn_cons]
      refine (ih.append_left _).trans ?_
      rw [show ownFields (.inlined condition directives inner :: rest) = ownFields rest from rfl,
        show ownFragments (.inlined condition directives inner :: rest) =
          .inlined condition directives inner :: ownFragments rest from rfl,
        List.flatMap_cons, ← List.append_assoc, ← List.append_assoc]
      -- What is inside of the fragment is in front here and behind the own fields there.
      exact List.perm_append_comm.append_right _

/-- The conditions of a list are those of its fragments. -/
theorem isReadable_iff_ownFragments :
    isReadable schema applicable selections = true ↔
      ∀ fragment ∈ ownFragments selections, isReadable schema applicable [fragment] = true := by
  induction selections with
  | nil => simp [isReadable, ownFragments]
  | cons selection rest ih =>
    rw [isReadable_cons, Bool.and_eq_true, ih]
    cases selection <;> simp [isReadable, ownFragments]

/-- Fields that are regrouped stay so when each joined field is finished. -/
theorem Regroups.finished {others : List SelectedField} (regroups : Regroups id fields others)
    (finish : List Selection → List Selection) :
    Regroups finish fields (others.map fun field => ⟨field.head, finish field.selections⟩) := by
  obtain ⟨parts, order, each⟩ := regroups
  refine ⟨parts, order, ?_⟩
  rw [List.forall₂_map_right_iff]
  refine each.imp fun part field joins => ⟨joins.nonempty, joins.agree, joins.directives, ?_⟩
  show finish field.selections = _
  rw [joins.selections, id]

/-- Merging regroups the fields of each type, and merges what stands below a field in itself. -/
theorem regroups_merge (uniform : Uniform (selectedOn schema type selections)) :
    Regroups merge (selectedOn schema type selections)
      (selectedOn schema type (merge selections)) := by
  induction size : weight selections using Nat.strongRecOn generalizing selections with
  | _ size ih =>
    subst size
    have split : (selectedOn schema type selections).Perm _ := selectedOn_split type selections
    have own : Regroups merge (ownFields selections) (ownFields (merge selections)) := by
      rw [ownFields_merge]
      refine (regroups_mergeSiblings (uniform.subset fun field inside => ?_)).finished merge
      exact split.mem_iff.mpr (List.mem_append_left _ inside)
    -- A fragment keeps its condition, so it is entered for the type before and after.
    have inside : ∀ fragment ∈ ownFragments selections,
        Regroups merge (selectedOn schema type [fragment])
          (selectedOn schema type [fragment.withChildren (merge fragment.children)]) := by
      intro fragment listed
      have lighter := weight_children_lt_of_mem (List.mem_of_mem_filter listed)
      have below : Uniform (selectedOn schema type [fragment]) :=
        uniform.subset fun field inside => split.mem_iff.mpr
          (List.mem_append_right _ (List.mem_flatMap.mpr ⟨fragment, listed, inside⟩))
      cases fragment with
      | field head inner => simp [ownFragments] at listed
      | spread name directives =>
        simp only [selectedOn, withChildren]
        exact .nil
      | inlined condition directives inner =>
        simp only [children] at lighter
        cases condition with
        | none =>
          simp only [selectedOn, withChildren, children, List.append_nil] at below ⊢
          exact ih _ lighter below rfl
        | some condition =>
          simp only [selectedOn, withChildren, children, List.append_nil] at below ⊢
          by_cases met : schema.meets condition type = true
          · rw [if_pos met] at below ⊢
            rw [if_pos met]
            exact ih _ lighter below rfl
          · rw [if_neg met, if_neg met]
            exact .nil
    have fragments : Regroups merge
        ((ownFragments selections).flatMap fun fragment => selectedOn schema type [fragment])
        ((ownFragments (merge selections)).flatMap fun fragment =>
          selectedOn schema type [fragment]) := by
      -- The fragments are merged one by one, and each of them regroups its fields.
      rw [ownFragments_merge]
      generalize ownFragments selections = listed at inside
      induction listed with
      | nil => exact .nil
      | cons fragment rest ihRest =>
        rw [List.map_cons, List.flatMap_cons, List.flatMap_cons]
        exact (inside fragment List.mem_cons_self).append
          (ihRest fun other later => inside other (List.mem_cons_of_mem fragment later))
    exact (own.append fragments).perm split (selectedOn_split type (merge selections)).symm

/-- Merging touches no type condition. -/
theorem isReadable_merge (selections : List Selection) :
    isReadable schema applicable (merge selections) = isReadable schema applicable selections := by
  induction size : weight selections using Nat.strongRecOn generalizing applicable selections with
  | _ size ih =>
    subst size
    rw [Bool.eq_iff_iff, isReadable_iff_ownFragments, isReadable_iff_ownFragments,
      ownFragments_merge, List.forall_mem_map]
    refine forall_congr' fun fragment => forall_congr' fun listed => ?_
    -- On the weight: what stands in a fragment of the list weighs less than the list.
    have lighter := weight_children_lt_of_mem (List.mem_of_mem_filter listed)
    cases fragment with
    | field head inner => simp [ownFragments] at listed
    | spread name directives => simp [withChildren]
    | inlined condition directives inner =>
      simp only [children] at lighter
      cases condition <;>
        simp only [isReadable, withChildren, children, ih _ lighter _ rfl]

/-- Adding a field without spreads brings none about. -/
theorem spreadsOf_addField {head : FieldHead} {inner merged : List Selection}
    (freeInner : spreadsOf inner = []) (free : spreadsOf merged = []) :
    spreadsOf (addField head inner merged) = [] := by
  fun_induction addField head inner merged with
  | case1 => simp [spreadsOf, freeInner]
  | case2 first own rest _ =>
    rw [spreadsOf, List.append_eq_nil_iff] at free
    unfold joinFields
    -- Joined or not, the field only has sub-selections of the two.
    split <;> simp [spreadsOf, spreadsOf_append, free, freeInner]
  | case3 first own rest _ ih =>
    rw [spreadsOf, List.append_eq_nil_iff] at free ⊢
    exact ⟨free.1, ih free.2⟩
  | case4 selection rest _ ih =>
    rw [spreadsOf_cons_eq_nil] at free ⊢
    exact ⟨free.1, ih free.2⟩

/-- Merged siblings spread nothing if the siblings do not. -/
theorem spreadsOf_mergeSiblings (free : spreadsOf selections = []) :
    spreadsOf (mergeSiblings selections) = [] := by
  induction selections using mergeSiblings_induction with
  | nil => exact free
  | field freeSoFar =>
    rw [spreadsOf_append, List.append_eq_nil_iff] at free
    exact spreadsOf_addField (spreadsOf_children free.2) (freeSoFar free.1)
  | fragment _ freeSoFar =>
    rw [spreadsOf_append, List.append_eq_nil_iff] at free
    rw [spreadsOf_append, freeSoFar free.1, free.2, List.append_nil]

/-- Merging adds no spread. -/
theorem spreadsOf_merge (free : spreadsOf selections = []) : spreadsOf (merge selections) = [] := by
  induction size : weight selections using Nat.strongRecOn generalizing selections with
  | _ size ih =>
    subst size
    -- Merged siblings weigh no more, so what stands below them is lighter than the list.
    have siblings := spreadsOf_eq_nil_iff.mp (spreadsOf_mergeSiblings free)
    rw [merge_eq, spreadsOf_eq_nil_iff, List.forall_mem_map]
    intro selection listed
    have lighter := Nat.lt_of_lt_of_le (weight_children_lt_of_mem listed)
      (weight_mergeSiblings_le selections)
    have below := ih _ lighter (spreadsOf_children (siblings selection listed)) rfl
    have alone := siblings selection listed
    cases selection <;> simp_all [spreadsOf, withChildren]

/-! ### Merged selections -/

/-- Selections and merged ones: both are made of the same parts, which are merged one by one, in
any order. -/
def Merges (selections merged : List Selection) : Prop :=
  ∃ parts : List (List Selection), selections.Perm parts.flatten ∧
    merged.Perm (parts.map merge).flatten

/-- Merging a list at once is merging it as one part. -/
theorem merges_merge (selections : List Selection) : Merges selections (merge selections) :=
  ⟨[selections], by simp, by simp⟩

namespace Merges

variable {merged : List Selection}

/-- Merged selections regroup the fields of each type. -/
theorem regroups (merges : Merges selections merged)
    (uniform : Uniform (selectedOn schema type selections)) :
    Regroups merge (selectedOn schema type selections) (selectedOn schema type merged) := by
  obtain ⟨parts, order, order'⟩ := merges
  -- The parts are merged one by one, so the order can be left to the ends.
  have whole : Uniform (selectedOn schema type parts.flatten) :=
    uniform.subset (selectedOn_perm type order).symm.subset
  refine Regroups.perm ?_ (selectedOn_perm type order) (selectedOn_perm type order').symm
  clear order order'
  induction parts with
  | nil =>
    rw [List.map_nil, List.flatten_nil, selectedOn]
    exact .nil
  | cons part parts ih =>
    rw [List.flatten_cons, selectedOn_append] at whole ⊢
    rw [List.map_cons, List.flatten_cons, selectedOn_append]
    exact (regroups_merge (whole.subset (List.subset_append_left _ _))).append
      (ih (whole.subset (List.subset_append_right _ _)))

/-- Selections can be read for some types exactly if they can once they are merged. -/
theorem isReadable_eq (merges : Merges selections merged) :
    isReadable schema applicable merged = isReadable schema applicable selections := by
  obtain ⟨parts, order, order'⟩ := merges
  rw [isReadable_perm order, isReadable_perm order', Bool.eq_iff_iff, isReadable_iff,
    isReadable_iff]
  -- A selection is in one of the parts, which is merged as a whole.
  simp only [List.mem_flatten, List.mem_map, exists_exists_and_eq_and]
  constructor
  · rintro readable selection ⟨part, listed, inside⟩
    have whole : isReadable schema applicable (merge part) = true :=
      isReadable_iff.mpr fun other listed' => readable other ⟨part, listed, listed'⟩
    rw [isReadable_merge] at whole
    exact isReadable_iff.mp whole selection inside
  · rintro readable selection ⟨part, listed, inside⟩
    have whole : isReadable schema applicable part = true :=
      isReadable_iff.mpr fun other listed' => readable other ⟨part, listed, listed'⟩
    rw [← isReadable_merge] at whole
    exact isReadable_iff.mp whole selection inside

/-- Merged selections have no spreads if the selections have none. -/
theorem spreadsOf_eq_nil (merges : Merges selections merged) (free : spreadsOf selections = []) :
    spreadsOf merged = [] := by
  obtain ⟨parts, order, order'⟩ := merges
  rw [spreadsOf_eq_nil_iff] at free ⊢
  intro selection inside
  obtain ⟨_, listed, inside⟩ := List.mem_flatten.mp (order'.mem_iff.mp inside)
  obtain ⟨part, divided, rfl⟩ := List.mem_map.mp listed
  have freePart : spreadsOf part = [] := spreadsOf_eq_nil_iff.mpr fun other member =>
    free other (order.mem_iff.mpr (List.mem_flatten_of_mem divided member))
  exact spreadsOf_eq_nil_iff.mp (spreadsOf_merge freePart) selection inside

end Merges

/-- Regrouped fields have the same keys. -/
theorem Regroups.mem_keys_iff (regroups : Regroups finish fields joined) (key : String) :
    key ∈ fields.map SelectedField.key ↔ key ∈ joined.map SelectedField.key := by
  constructor
  · intro inside
    obtain ⟨field, listed, rfl⟩ := List.mem_map.mp inside
    obtain ⟨parts, order, each⟩ := regroups
    obtain ⟨part, divided, member⟩ := List.mem_flatten.mp (order.mem_iff.mp listed)
    -- The part of the field is joined into a field of its key.
    obtain ⟨other, listed', joins⟩ := Lists.exists_of_mem_right each.flip divided
    exact List.mem_map.mpr ⟨other, listed', (joins.agree field member).1.symm⟩
  · intro inside
    obtain ⟨field, listed, rfl⟩ := List.mem_map.mp inside
    obtain ⟨source, listed', key, -⟩ := regroups.exists_source listed
    exact List.mem_map.mpr ⟨source, listed', key⟩

/-- Below each key, regrouped fields have merged sub-selections. -/
theorem Regroups.merges (regroups : Regroups merge fields joined) (key : String) :
    Merges ((fields.filter fun field => field.key == key).flatMap SelectedField.selections)
      ((joined.filter fun field => field.key == key).flatMap SelectedField.selections) := by
  obtain ⟨parts, order, each⟩ := regroups
  suffices below : ∃ chunks : List (List Selection),
      (parts.flatten.filter fun field => field.key == key).flatMap SelectedField.selections =
        chunks.flatten ∧
      (joined.filter fun field => field.key == key).flatMap SelectedField.selections =
        (chunks.map merge).flatten by
    obtain ⟨chunks, same, same'⟩ := below
    refine ⟨chunks, ?_, by rw [same']⟩
    rw [← same]
    exact (order.filter _).flatMap_right _
  clear order
  induction each with
  | nil => exact ⟨[], rfl, rfl⟩
  | @cons part field parts joined joins _ ih =>
    obtain ⟨chunks, same, same'⟩ := ih
    rw [List.flatten_cons, List.filter_append, List.flatMap_append, same]
    -- A part has one key, so it is kept as a whole or not at all.
    by_cases kept : field.key = key
    · refine ⟨part.flatMap SelectedField.selections :: chunks, ?_, ?_⟩
      · rw [List.filter_eq_self.mpr fun other inside => ?_, List.flatten_cons]
        rw [(joins.agree other inside).1, kept]
        exact beq_self_eq_true key
      · rw [List.filter_cons_of_pos (by simpa using kept), List.flatMap_cons, same', List.map_cons,
          List.flatten_cons, joins.selections]
    · refine ⟨chunks, ?_, ?_⟩
      · rw [List.filter_eq_nil_iff.mpr fun other inside => ?_, List.flatMap_nil, List.nil_append]
        rw [(joins.agree other inside).1]
        simpa using kept
      · rw [List.filter_cons_of_neg (by simpa using kept), same']

end SelectionTypes.Selection

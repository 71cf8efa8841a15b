import Mathlib.Algebra.GroupWithZero.Nat
import SelectionTypes.Proofs.Selection.Collection
import SelectionTypes.Selection.Inline
import SelectionTypes.Selection.Merge

/-!
# `SelectionTypes.Proofs.Selection.Inline`: selections without spreads

`Selection.inline` writes the selections of a fragment where it is spread. The lemmas say what is
kept, by induction along an inlining that succeeds (`inlineWithin_induction`):

* `spreadsOf_inlineWithin`: no spread is left.
* `mem_headsOf_inlineWithin`: the fields are those of the selections and of the fragments.
* `nesting_inlineWithin_le`: fields are not nested deeper than the selections and the fragments
  weigh, since no fragment is entered twice on one path.
* `alike_flatten_inline`: flattening ends in the same way on both, with the same fields up to
  inlining below them.

Below a field everything is read afresh, with the whole table. `inline_of_inlineWithin` says that
what could be inlined inside fragments can be inlined outside them.
-/

set_option autoImplicit false

namespace SelectionTypes.Selection

open Outcome

variable {schema : Schema} {table original others : FragmentTable}
variable {entered applicable : List String}
variable {selections inlined : List Selection}

/-! ### One kind of selection after the other -/

/-- Nothing is inlined in no selections. -/
@[simp]
theorem inlineWithin_nil : inlineWithin table entered [] = .ok [] := by
  rw [inlineWithin]

/-- A spread is inlined as the selections of its fragment, without that fragment. -/
theorem inlineWithin_spread (name : String) (directives : List Directive) (rest : List Selection) :
    inlineWithin table entered (.spread name directives :: rest) = do
      let loaded ← table.resolve entered name
      let inner ← inlineWithin (table.without name) (name :: entered) loaded.fragment.selections
      let rest ← inlineWithin table entered rest
      return .inlined (some loaded.fragment.onType) directives inner :: rest := by
  rw [inlineWithin]
  split <;> simp only [*] <;> rfl

/-- A field is inlined by what stands below it. -/
theorem inlineWithin_field_eq_ok {head : FieldHead} {inner : List Selection} :
    inlineWithin table entered (.field head inner :: selections) = .ok inlined ↔
      ∃ below behind, inlineWithin table entered inner = .ok below ∧
        inlineWithin table entered selections = .ok behind ∧
        inlined = .field head below :: behind := by
  rw [inlineWithin]
  exact both_eq_ok

/-- An inline fragment keeps its condition, and its selections are inlined. -/
theorem inlineWithin_inlined_eq_ok {condition : Option String} {directives : List Directive}
    {inner : List Selection} :
    inlineWithin table entered (.inlined condition directives inner :: selections)
        = .ok inlined ↔
      ∃ below behind, inlineWithin table entered inner = .ok below ∧
        inlineWithin table entered selections = .ok behind ∧
        inlined = .inlined condition directives below :: behind := by
  rw [inlineWithin]
  exact both_eq_ok

/-- A spread is inlined if its fragment is there and has not been entered, and if that can be
inlined without entering it again. -/
theorem inlineWithin_spread_eq_ok {name : String} {directives : List Directive} :
    inlineWithin table entered (.spread name directives :: selections) = .ok inlined ↔
      ∃ loaded, name ∉ entered ∧ table.get? name = some loaded ∧
        ∃ below behind, inlineWithin (table.without name) (name :: entered)
            loaded.fragment.selections = .ok below ∧
          inlineWithin table entered selections = .ok behind ∧
          inlined = .inlined (some loaded.fragment.onType) directives below :: behind := by
  rw [inlineWithin_spread, bind_eq_ok]
  simp only [FragmentTable.resolve_eq_ok, both_eq_ok, and_assoc]

/-- Induction along an inlining that succeeds. Each spread in it refers to a fragment that has not
been entered. -/
theorem inlineWithin_induction
    {motive : ∀ table entered selections inlined,
      inlineWithin table entered selections = .ok inlined → Prop}
    (nil : ∀ {table entered}, motive table entered [] [] inlineWithin_nil)
    (field : ∀ {table entered head inner rest below behind}
      (inside : inlineWithin table entered inner = .ok below)
      (after : inlineWithin table entered rest = .ok behind),
      motive table entered inner below inside → motive table entered rest behind after →
      motive table entered (.field head inner :: rest) (.field head below :: behind)
        (inlineWithin_field_eq_ok.mpr ⟨below, behind, inside, after, rfl⟩))
    (inlined : ∀ {table entered condition directives inner rest below behind}
      (inside : inlineWithin table entered inner = .ok below)
      (after : inlineWithin table entered rest = .ok behind),
      motive table entered inner below inside → motive table entered rest behind after →
      motive table entered (.inlined condition directives inner :: rest)
        (.inlined condition directives below :: behind)
        (inlineWithin_inlined_eq_ok.mpr ⟨below, behind, inside, after, rfl⟩))
    (spread : ∀ {table entered name directives rest loaded below behind}
      (new : name ∉ entered) (found : table.get? name = some loaded)
      (inside : inlineWithin (table.without name) (name :: entered) loaded.fragment.selections
        = .ok below)
      (after : inlineWithin table entered rest = .ok behind),
      motive (table.without name) (name :: entered) loaded.fragment.selections below inside →
      motive table entered rest behind after →
      motive table entered (.spread name directives :: rest)
        (.inlined (some loaded.fragment.onType) directives below :: behind)
        (inlineWithin_spread_eq_ok.mpr ⟨loaded, new, found, below, behind, inside, after, rfl⟩))
    {table : FragmentTable} {entered : List String} {selections result : List Selection}
    (inlines : inlineWithin table entered selections = .ok result) :
    motive table entered selections result inlines := by
  induction table, entered, selections using inlineWithin.induct generalizing result with
  | case1 table entered =>
    cases inlineWithin_nil.symm.trans inlines
    exact nil
  | case2 table entered head inner rest ihInner ihRest =>
    obtain ⟨below, behind, inside, after, rfl⟩ := inlineWithin_field_eq_ok.mp inlines
    exact field inside after (ihInner inside) (ihRest after)
  | case3 table entered condition directives inner rest ihInner ihRest =>
    obtain ⟨below, behind, inside, after, rfl⟩ := inlineWithin_inlined_eq_ok.mp inlines
    exact inlined inside after (ihInner inside) (ihRest after)
  -- A spread that does not resolve contradicts the success of the run.
  | case4 table entered name directives rest problem unresolved =>
    obtain ⟨loaded, new, found, -⟩ := inlineWithin_spread_eq_ok.mp inlines
    cases unresolved.symm.trans (FragmentTable.resolve_eq_ok.mpr ⟨new, found⟩)
  | case5 table entered name directives rest loaded resolved ihInner ihRest =>
    obtain ⟨other, new, found, below, behind, inside, after, rfl⟩ :=
      inlineWithin_spread_eq_ok.mp inlines
    cases resolved.symm.trans (FragmentTable.resolve_eq_ok.mpr ⟨new, found⟩)
    exact spread new found inside after (ihInner inside) (ihRest after)

/-- A list is inlined part by part. -/
theorem inlineWithin_append (first second : List Selection) :
    inlineWithin table entered (first ++ second) = do
      let before ← inlineWithin table entered first
      let behind ← inlineWithin table entered second
      return before ++ behind := by
  -- On the first list only, as the inlining of a selection does not look at what is behind it.
  induction first with
  | nil =>
    rw [List.nil_append, inlineWithin_nil]
    exact (bind_pure _).symm
  | cons selection rest ih =>
    cases selection with
    | field head inner =>
      simp only [List.cons_append, inlineWithin, ih, bind_assoc, pure_bind]
    | spread name directives =>
      simp only [List.cons_append, inlineWithin_spread, ih, bind_assoc, pure_bind]
    | inlined condition directives inner =>
      simp only [List.cons_append, inlineWithin, ih, bind_assoc, pure_bind]

/-- Only the empty list is inlined to the empty list. -/
theorem inlineWithin_eq_nil (inlines : inlineWithin table entered selections = .ok inlined) :
    inlined = [] ↔ selections = [] := by
  induction inlines using inlineWithin_induction with
  | nil => simp
  | field => simp
  | inlined => simp
  | spread => simp

/-! ### Inside and outside fragments -/

/-- What can be inlined with some fragments can be inlined with more of them, in the same way. -/
theorem inlineWithin_of_fewer {table' : FragmentTable} {entered' : List String}
    (more : ∀ name, name ∉ entered → name ∉ entered' ∧ table'.get? name = table.get? name)
    (inlines : inlineWithin table entered selections = .ok inlined) :
    inlineWithin table' entered' selections = .ok inlined := by
  induction inlines using inlineWithin_induction generalizing table' entered' with
  | nil => exact inlineWithin_nil
  | field _ _ ihInner ihRest =>
    exact inlineWithin_field_eq_ok.mpr ⟨_, _, ihInner more, ihRest more, rfl⟩
  | inlined _ _ ihInner ihRest =>
    exact inlineWithin_inlined_eq_ok.mpr ⟨_, _, ihInner more, ihRest more, rfl⟩
  | @spread table entered name _ _ loaded _ _ new found _ _ ihInner ihRest =>
    -- Both tables lose the fragment that is entered.
    have moreInside : ∀ other, other ∉ name :: entered → other ∉ name :: entered' ∧
        (table'.without name).get? other = (table.without name).get? other := by
      intro other outside
      rw [List.mem_cons, not_or] at outside
      obtain ⟨outside', same⟩ := more other outside.2
      rw [FragmentTable.get?_without outside.1, FragmentTable.get?_without outside.1, same]
      exact ⟨by simp [outside.1, outside'], rfl⟩
    obtain ⟨new', same⟩ := more name new
    exact inlineWithin_spread_eq_ok.mpr ⟨loaded, new', same.trans found, _, _,
      ihInner moreInside, ihRest more, rfl⟩

/-- What can be inlined inside fragments can be inlined outside them. -/
theorem inline_of_inlineWithin (agrees : table.AgreesOutside entered original)
    (inlines : inlineWithin table entered selections = .ok inlined) :
    inline original selections = .ok inlined :=
  inlineWithin_of_fewer (fun name outside => ⟨List.not_mem_nil, (agrees name outside).symm⟩) inlines

/-- No spread is left. -/
theorem spreadsOf_inlineWithin (inlines : inlineWithin table entered selections = .ok inlined) :
    spreadsOf inlined = [] := by
  induction inlines using inlineWithin_induction with
  | nil => rw [spreadsOf]
  | field _ _ ihInner ihRest => rw [spreadsOf, ihInner, ihRest, List.nil_append]
  | inlined _ _ ihInner ihRest => rw [spreadsOf, ihInner, ihRest, List.nil_append]
  | spread _ _ _ _ ihInner ihRest => rw [spreadsOf, ihInner, ihRest, List.nil_append]

/-! ### The fields of selections -/

/-- The fields selected anywhere below selections, in order. -/
def headsOf : List Selection → List FieldHead
  | [] => []
  | .field head inner :: rest => head :: (headsOf inner ++ headsOf rest)
  | .spread _ _ :: rest => headsOf rest
  | .inlined _ _ inner :: rest => headsOf inner ++ headsOf rest

/-- The fields anywhere below two lists are those below each of them. -/
theorem headsOf_append (first second : List Selection) :
    headsOf (first ++ second) = headsOf first ++ headsOf second := by
  induction first using headsOf.induct with
  | case1 => rw [List.nil_append, headsOf, List.nil_append]
  | case2 head inner rest ihInner ihRest =>
    rw [List.cons_append, headsOf, headsOf, ihRest, List.cons_append, List.append_assoc]
  | case3 name directives rest ih => rw [List.cons_append, headsOf, headsOf, ih]
  | case4 condition directives inner rest ihInner ihRest =>
    rw [List.cons_append, headsOf, headsOf, ihRest, List.append_assoc]

/-- The fields of a list are those of its selections and those below them. -/
theorem headsOf_of_mem_field {head : FieldHead} {inner : List Selection}
    (listed : .field head inner ∈ selections) :
    head ∈ headsOf selections ∧ headsOf inner ⊆ headsOf selections := by
  obtain ⟨before, behind, rfl⟩ := List.append_of_mem listed
  rw [headsOf_append, headsOf]
  refine ⟨List.mem_append_right _ List.mem_cons_self, fun other below => ?_⟩
  exact List.mem_append_right _ (List.mem_cons_of_mem _ (List.mem_append_left _ below))

/-- Fields in an inline fragment are fields of the list that it is in. -/
theorem headsOf_of_mem_inlined {condition : Option String} {directives : List Directive}
    {inner : List Selection} (listed : .inlined condition directives inner ∈ selections) :
    headsOf inner ⊆ headsOf selections := by
  obtain ⟨before, behind, rfl⟩ := List.append_of_mem listed
  rw [headsOf_append, headsOf]
  exact fun other below => List.mem_append_right _ (List.mem_append_left _ below)

/-- The fields below several fields are those below each of them. -/
theorem mem_headsOf_flatMap {fields : List SelectedField} {head : FieldHead} :
    head ∈ headsOf (fields.flatMap SelectedField.selections) ↔
      ∃ field ∈ fields, head ∈ headsOf field.selections := by
  induction fields with
  | nil => simp [headsOf]
  | cons field rest ih =>
    rw [List.flatMap_cons, headsOf_append, List.mem_append, ih]
    simp

/-- Each field of inlined selections is one of the selections or of a fragment. -/
theorem mem_headsOf_inlineWithin (inlines : inlineWithin table entered selections = .ok inlined)
    {head : FieldHead} (inside : head ∈ headsOf inlined) :
    head ∈ headsOf selections ∨ ∃ loaded ∈ table, head ∈ headsOf loaded.fragment.selections := by
  -- Along the inlining: only a spread brings in fields from elsewhere.
  induction inlines using inlineWithin_induction with
  | nil => simp [headsOf] at inside
  | field _ _ ihInner ihRest =>
    simp only [headsOf, List.mem_cons, List.mem_append] at inside ⊢
    rcases inside with same | inside | inside
    · exact .inl (.inl same)
    · exact (ihInner inside).imp_left fun listed => .inr (.inl listed)
    · exact (ihRest inside).imp_left fun listed => .inr (.inr listed)
  | inlined _ _ ihInner ihRest =>
    simp only [headsOf, List.mem_append] at inside ⊢
    rcases inside with inside | inside
    · exact (ihInner inside).imp_left .inl
    · exact (ihRest inside).imp_left .inr
  | @spread _ _ _ _ _ loaded _ _ _ found _ _ ihInner ihRest =>
    simp only [headsOf, List.mem_append] at inside ⊢
    rcases inside with inside | inside
    · -- The table inside the fragment is a part of the whole one.
      right
      rcases ihInner inside with listed | ⟨deeper, member, listed⟩
      · exact ⟨loaded, List.mem_of_find?_eq_some found, listed⟩
      · exact ⟨deeper, List.mem_of_mem_filter member, listed⟩
    · exact ihRest inside

/-! ### How deep fields are nested -/

/-- How many fields stand one below the other. -/
def nesting : List Selection → Nat
  | [] => 0
  | .field _ inner :: rest => max (nesting inner + 1) (nesting rest)
  | .spread _ _ :: rest => nesting rest
  | .inlined _ _ inner :: rest => max (nesting inner) (nesting rest)

/-- Two lists are nested as deep as the deeper of them. -/
theorem nesting_append (first second : List Selection) :
    nesting (first ++ second) = max (nesting first) (nesting second) := by
  induction first using nesting.induct with
  | case1 => simp [nesting]
  | case2 head inner rest ihInner ihRest =>
    rw [List.cons_append, nesting, nesting, ihRest, Nat.max_assoc]
  | case3 name directives rest ih => rw [List.cons_append, nesting, nesting, ih]
  | case4 condition directives inner rest ihInner ihRest =>
    rw [List.cons_append, nesting, nesting, ihRest, Nat.max_assoc]

/-- Fields are nested at most as deep as there are selections. -/
theorem nesting_le_weight (selections : List Selection) :
    nesting selections ≤ weight selections := by
  induction selections using nesting.induct with
  | case1 => simp [nesting]
  | case2 head inner rest ihInner ihRest =>
    rw [nesting, weight]
    omega
  | case3 name directives rest ih =>
    rw [nesting, weight]
    omega
  | case4 condition directives inner rest ihInner ihRest =>
    rw [nesting, weight]
    omega

/-- What the fragments of a table weigh together. -/
def tableWeight (table : FragmentTable) : Nat :=
  (table.map fun loaded => weight loaded.fragment.selections).sum

/-- One more fragment adds its weight to that of the table. -/
theorem tableWeight_cons (loaded : LoadedFragment) (table : FragmentTable) :
    tableWeight (loaded :: table) = weight loaded.fragment.selections + tableWeight table := by
  simp [tableWeight]

/-- A table does not get heavier when a fragment is taken out. -/
theorem tableWeight_without_le (table : FragmentTable) (name : String) :
    tableWeight (table.without name) ≤ tableWeight table := by
  induction table with
  | nil => exact Nat.le_refl _
  | cons loaded rest ih =>
    unfold FragmentTable.without at ih ⊢
    rw [List.filter_cons]
    split
    · rw [tableWeight_cons, tableWeight_cons]
      omega
    · rw [tableWeight_cons]
      omega

/-- A fragment that leaves the table takes its weight with it. -/
theorem tableWeight_without {name : String} {loaded : LoadedFragment}
    (found : table.get? name = some loaded) :
    tableWeight (table.without name) + weight loaded.fragment.selections ≤ tableWeight table := by
  have inside : loaded ∈ table := List.mem_of_find?_eq_some found
  have named := FragmentTable.name_of_get? found
  -- The induction needs a member of that name, which need not be the first one.
  clear found
  induction table with
  | nil => cases inside
  | cons first rest ih =>
    have rest_le := tableWeight_without_le rest name
    unfold FragmentTable.without at ih rest_le ⊢
    rw [tableWeight_cons]
    rcases List.mem_cons.mp inside with rfl | inside
    · rw [List.filter_cons_of_neg (by simp [named])]
      omega
    · have behind := ih inside
      rw [List.filter_cons]
      split
      · rw [tableWeight_cons]
        omega
      · omega

/-- Inlined selections are nested no deeper than the selections and the fragments weigh. -/
theorem nesting_inlineWithin_le (inlines : inlineWithin table entered selections = .ok inlined) :
    nesting inlined ≤ weight selections + tableWeight table := by
  induction inlines using inlineWithin_induction with
  | nil => simp [nesting]
  | field _ _ inner_le rest_le =>
    rw [nesting, weight]
    omega
  | inlined _ _ inner_le rest_le =>
    rw [nesting, weight]
    omega
  | spread _ found _ _ inner_le rest_le =>
    -- The weight of the fragment moves from the table to the selections.
    have split := tableWeight_without found
    rw [nesting, weight]
    omega

/-! ### Reading inlined selections -/

/-- A field and the same field with its sub-selections inlined. -/
structure InlinesTo (table : FragmentTable) (field other : SelectedField) : Prop where
  head : other.head = field.head
  selections : inline table field.selections = .ok other.selections

/-- The sub-selections of several fields are inlined together. -/
theorem inline_flatMap {fields inlinedFields : List SelectedField}
    (each : List.Forall₂ (InlinesTo table) fields inlinedFields) :
    inline table (fields.flatMap SelectedField.selections) =
      .ok (inlinedFields.flatMap SelectedField.selections) := by
  induction each with
  | nil => exact inlineWithin_nil
  | cons first rest ih =>
    rw [List.flatMap_cons, List.flatMap_cons]
    unfold inline
    rw [inlineWithin_append]
    exact both_eq_ok.mpr ⟨_, _, first.selections, ih, rfl⟩

/-- Inlined selections are read like the selections, whatever fragments there are. -/
theorem alike_distributeWithin_inline {entered' : List String}
    (agrees : table.AgreesOutside entered original)
    (inlines : inlineWithin table entered selections = .ok inlined) :
    Alike Eq (List.Forall₂ fun entry other => InlinesTo original entry.1 other.1 ∧
        entry.2 = other.2)
      (distributeWithin schema table entered applicable selections)
      (distributeWithin schema others entered' applicable inlined) := by
  induction inlines using inlineWithin_induction generalizing applicable with
  | nil =>
    rw [distributeWithin_nil, distributeWithin_nil]
    exact .ok .nil
  | field inside _ _ ihRest =>
    rw [distributeWithin, distributeWithin]
    -- The entry of a field keeps the sub-selections, which are read afresh with the whole table.
    refine (ihRest agrees).bind fun fields fields' _ _ each => .ok (.cons ⟨?_, rfl⟩ each)
    exact ⟨rfl, inline_of_inlineWithin agrees inside⟩
  | @inlined _ _ condition _ _ _ _ _ _ _ ihInner ihRest =>
    cases condition with
    | none =>
      rw [distributeWithin, distributeWithin]
      refine (ihInner agrees).bind fun _ _ _ _ first => ?_
      exact (ihRest agrees).bind fun _ _ _ _ second => .ok (List.rel_append first second)
    | some condition =>
      rw [distributeWithin, distributeWithin]
      refine (Alike.of_eq rfl).bind fun narrowed _ _ _ same => ?_
      subst same
      refine (ihInner agrees).bind fun _ _ _ _ first => ?_
      exact (ihRest agrees).bind fun _ _ _ _ second => .ok (List.rel_append first second)
  | @spread _ _ name _ _ _ _ _ new found _ _ ihInner ihRest =>
    rw [distributeWithin_spread, distributeWithin,
      FragmentTable.resolve_eq_ok.mpr ⟨new, found⟩]
    show Alike _ _ (schema.narrow _ _ >>= _) _
    -- Both sides narrow the types by the condition of the fragment, and fail alike in that.
    refine (Alike.of_eq rfl).bind fun narrowed _ _ _ same => ?_
    subst same
    refine (ihInner (agrees.without name)).bind fun _ _ _ _ first => ?_
    exact (ihRest agrees).bind fun _ _ _ _ second => .ok (List.rel_append first second)

/-- The fields of a type correspond if the readings do. -/
theorem forall₂_fieldsOn {related : SelectedField → SelectedField → Prop}
    {distributed others : List (SelectedField × List String)}
    (each : List.Forall₂ (fun entry other => related entry.1 other.1 ∧ entry.2 = other.2)
      distributed others) (type : String) :
    List.Forall₂ related (fieldsOn distributed type) (fieldsOn others type) := by
  induction each with
  | nil => exact .nil
  | cons first rest ih =>
    rw [fieldsOn_cons, fieldsOn_cons, first.2]
    split
    · exact .cons first.1 ih
    · exact ih

/-- Flattening inlined selections ends as it does for the selections, with the same types and the
same fields up to inlining below them. -/
theorem alike_flatten_inline (inlines : inline table selections = .ok inlined) (parent : String) :
    Alike Eq (List.Forall₂ fun entry other => entry.1 = other.1 ∧
        List.Forall₂ (InlinesTo table) entry.2 other.2)
      (flatten schema table parent selections) (flatten schema others parent inlined) := by
  unfold flatten
  refine (Alike.of_eq rfl).bind fun types _ _ _ same => ?_
  subst same
  refine (alike_distributeWithin_inline (.refl table) inlines).bind fun _ _ _ _ each => .ok ?_
  rw [List.forall₂_map_left_iff, List.forall₂_map_right_iff, List.forall₂_same]
  exact fun type _ => ⟨rfl, forall₂_fieldsOn each type⟩

end SelectionTypes.Selection

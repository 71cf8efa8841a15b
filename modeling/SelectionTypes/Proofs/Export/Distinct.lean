import Mathlib
import SelectionTypes.Proofs.Export.Standing

/-!
# `SelectionTypes.Proofs.Export.Distinct`: what collecting exports can fail at

Collecting exports fails at a type that the schema does not know, at an exported field without
aliases, and at an alias whose binding is taken. `Collectable` says of written selections that the
first two do not happen. It holds wherever exports were collected (`collectable_of_collect`).

`asked` gives the aliases that the exported fields of selections ask for, each as often as it is
asked for. Of collectable selections they are collected exactly if their bindings are distinct:
`collect_eq_ok_iff`. Each step of a collection adds to the aliases found before, and `Adds` is what
all of them keep.
-/

set_option autoImplicit false

namespace SelectionTypes.ExportedAlias

open Outcome
open Selection (Stands)

variable {schema : Schema} {parent type : String} {field : SelectedField}
variable {selections : List Selection} {found added more aliases : List ExportedAlias}

/-! ### Steps that add aliases -/

/-- An outcome has some aliases behind those found before, if all of them have distinct bindings. If
they have not, then it is a failure. -/
def Adds (outcome : Except GenerationError (List ExportedAlias))
    (found added : List ExportedAlias) : Prop :=
  ∀ collected, outcome = .ok collected ↔
    collected = found ++ added ∧ ((found ++ added).map binding).Nodup

/-- Where there is nothing to add, the aliases that were found stay as they are. -/
theorem adds_nothing (distinct : (found.map binding).Nodup) : Adds (.ok found) found [] := by
  intro collected
  rw [List.append_nil, and_iff_left distinct, Except.ok.injEq, eq_comm]

/-- Steps that add aliases one after the other add those of both. -/
theorem Adds.bind {outcome : Except GenerationError (List ExportedAlias)}
    {next : List ExportedAlias → Except GenerationError (List ExportedAlias)}
    (first : Adds outcome found added)
    (second : ((found ++ added).map binding).Nodup →
      Adds (next (found ++ added)) (found ++ added) more) :
    Adds (outcome >>= next) found (added ++ more) := by
  intro collected
  rw [bind_eq_ok, ← List.append_assoc]
  constructor
  · rintro ⟨middle, isMiddle, rest⟩
    obtain ⟨rfl, distinct⟩ := (first middle).mp isMiddle
    exact (second distinct collected).mp rest
  · rintro ⟨same, distinct⟩
    -- Distinct bindings at the end are distinct in front, so both steps succeed.
    have before : ((found ++ added).map binding).Nodup := by
      rw [List.map_append] at distinct
      exact distinct.of_append_left
    exact ⟨_, (first _).mpr ⟨rfl, before⟩, (second before collected).mpr ⟨same, distinct⟩⟩

/-- Aliases are added one by one. -/
theorem adds_add (distinct : (found.map binding).Nodup) :
    Adds (add found aliases) found aliases := by
  induction aliases generalizing found with
  | nil => exact adds_nothing distinct
  | cons exported rest ih =>
    intro collected
    rw [add]
    split
    · next taken =>
      -- The binding occurs before, so it is not distinct.
      obtain ⟨other, listed, same⟩ := List.any_eq_true.mp taken
      refine ⟨nofun, fun both => ?_⟩
      have apart := both.2
      rw [List.map_append, List.map_cons, List.nodup_append] at apart
      exact absurd (eq_of_beq same)
        (apart.2.2 _ (List.mem_map_of_mem listed) _ List.mem_cons_self)
    · next free =>
      have fresh : ((found ++ [exported]).map binding).Nodup := by
        rw [List.map_append, List.map_singleton]
        refine List.nodup_append.mpr ⟨distinct, List.nodup_singleton _, ?_⟩
        intro taken listed own isOwn same
        obtain ⟨other, inside, rfl⟩ := List.mem_map.mp listed
        rw [List.mem_singleton.mp isOwn] at same
        exact free (List.any_eq_true.mpr ⟨other, inside, beq_iff_eq.mpr same⟩)
      rw [ih fresh, List.append_assoc, List.singleton_append]

/-- The aliases of a field itself: none if it is not exported. -/
def ownAliases (schema : Schema) (parent : String) (field : SelectedField) (type : String) :
    List ExportedAlias :=
  if field.head.isExported then (ofField schema parent field type).toOption.getD [] else []

/-- A field adds its own aliases, provided that it has some if it is exported. -/
theorem adds_addField (distinct : (found.map binding).Nodup)
    (exports : field.head.isExported = true →
      ∃ aliases, ofField schema parent field type = .ok aliases) :
    Adds (addField schema parent found field type) found (ownAliases schema parent field type) := by
  unfold addField ownAliases
  by_cases exported : field.head.isExported = true
  · obtain ⟨aliases, made⟩ := exports exported
    rw [if_pos exported, if_pos exported, made]
    exact adds_add distinct
  · rw [if_neg exported, if_neg exported]
    exact adds_nothing distinct

/-! ### Collectable selections -/

/-- Written selections that are narrowed to known types, and whose exported fields have aliases. -/
structure Collectable (schema : Schema) (written : String → Selection → Prop) : Prop where
  conditions : ∀ static condition directives inner,
    written static (.inlined condition directives inner) →
      (schema.type? (condition.getD static)).isSome
  exports : ∀ static head inner, written static (.field head inner) → head.isExported = true →
    ∃ aliases, AliasesOf schema static ⟨head, inner⟩ aliases

/-- Fewer selections are collectable, too. -/
theorem Collectable.mono {written fewer : String → Selection → Prop}
    (collectable : Collectable schema written)
    (subset : ∀ static selection, fewer static selection → written static selection) :
    Collectable schema fewer where
  conditions := fun static condition directives inner inside =>
    collectable.conditions static condition directives inner (subset _ _ inside)
  exports := fun static head inner inside =>
    collectable.exports static head inner (subset _ _ inside)

/-- A field of a known type is collected in three steps: the aliases of the field itself, those
below it, and those behind it. -/
theorem collectFrom_field {head : FieldHead} {inner rest : List Selection} {type : TypeRef}
    (known : fieldType? schema parent head.name = some type) :
    collectFrom schema parent found (.field head inner :: rest) =
      addField schema parent found ⟨head, inner⟩ type.base >>= fun own =>
        (if schema.isLeaf type.base then .ok own else collectFrom schema type.base own inner) >>=
          fun below => collectFrom schema parent below rest := by
  rw [collectFrom, known]
  refine congrArg (_ >>= ·) (funext fun own => ?_)
  by_cases leaf : schema.isLeaf type.base = true
  · rw [if_pos leaf, if_pos leaf]
  · rw [if_neg leaf, if_neg leaf]

/-- A type that is required is one of the schema. -/
theorem requireType_eq_ok {name : String} :
    requireType schema name = .ok () ↔ (schema.type? name).isSome := by
  unfold requireType
  split <;> simp_all

/-- Where exports are collected, the types that are narrowed to are known. -/
theorem isSome_of_collectFrom (succeeds : collectFrom schema parent found selections = .ok aliases)
    {static : String} {condition : Option String} {directives : List Directive}
    {inner : List Selection}
    (stands : Stands schema parent selections static (.inlined condition directives inner)) :
    (schema.type? (condition.getD static)).isSome := by
  -- Along the collection: what stands in the first selection or in the others is required by one
  -- of the steps that succeed.
  induction parent, found, selections using collectFrom.induct schema generalizing aliases with
  | case1 parent found => exact absurd stands Selection.not_stands_nil
  | case2 parent found name others rest ih =>
    rw [collectFrom] at succeeds
    rcases stands.of_cons with first | later
    · cases first.of_spread
    · exact ih succeeds later
  | case3 parent found condition' others below rest narrowed ihInner =>
    rename_i ihRest
    rw [collectFrom] at succeeds
    obtain ⟨_, required, entered⟩ := bind_eq_ok.mp succeeds
    obtain ⟨middle, inside, behind⟩ := bind_eq_ok.mp entered
    rcases stands.of_cons with first | later
    · rcases first.of_inlined with ⟨rfl, same⟩ | deeper
      · cases same
        exact requireType_eq_ok.mp required
      · exact ihInner inside deeper
    · exact ihRest middle behind later
  | case4 parent found head below rest unknown exported =>
    -- An exported field of no known type is a failure.
    rw [collectFrom, unknown] at succeeds
    simp [exported] at succeeds
  | case5 parent found head below rest unknown plain ih =>
    rw [collectFrom, unknown] at succeeds
    simp only [plain] at succeeds
    rcases stands.of_cons with first | later
    · rcases first.of_field with ⟨-, same⟩ | ⟨type, known, -⟩
      · cases same
      · cases unknown.symm.trans known
    · exact ih (by simpa using succeeds) later
  | case6 parent found head below rest type known ihRest ihInner =>
    rw [collectFrom_field known] at succeeds
    obtain ⟨own, -, entered⟩ := bind_eq_ok.mp succeeds
    obtain ⟨middle, inside, behind⟩ := bind_eq_ok.mp entered
    rcases stands.of_cons with first | later
    · rcases first.of_field with ⟨-, same⟩ | ⟨type', known', noLeaf, deeper⟩
      · cases same
      · cases known.symm.trans known'
        rw [noLeaf, if_neg Bool.false_ne_true] at inside
        exact ihInner own inside deeper
    · exact ihRest middle behind later

/-- Where exports were collected, the selections are collectable. -/
theorem collectable_of_collect (collects : collect schema parent selections = .ok aliases) :
    (schema.type? parent).isSome ∧ Collectable schema (Stands schema parent selections) := by
  obtain ⟨_, required, gathered⟩ := bind_eq_ok.mp (by rwa [collect] at collects)
  refine ⟨requireType_eq_ok.mp required,
    fun static condition directives inner => isSome_of_collectFrom gathered,
    fun static head inner stands exported => ?_⟩
  obtain ⟨own, made, -⟩ :=
    @Gathers.aliases_subset _ _ _ _ _ _ ⟨head, inner⟩ (gathers_of_collect collects) stands exported
  exact ⟨own, made⟩

/-! ### Collecting from collectable selections -/

/-- The aliases that the exported fields of selections on a type ask for, apart from those below
leaves and inside spreads. -/
def asked (schema : Schema) (parent : String) : List Selection → List ExportedAlias
  | [] => []
  | .spread _ _ :: rest => asked schema parent rest
  | .inlined condition _ inner :: rest =>
    asked schema (condition.getD parent) inner ++ asked schema parent rest
  | .field head inner :: rest =>
    match fieldType? schema parent head.name with
    | none => asked schema parent rest
    | some type =>
      ownAliases schema parent ⟨head, inner⟩ type.base
        ++ ((if schema.isLeaf type.base then [] else asked schema type.base inner)
          ++ asked schema parent rest)

/-- Collecting adds the aliases that are asked for. -/
theorem adds_collectFrom (collectable : Collectable schema (Stands schema parent selections))
    (distinct : (found.map binding).Nodup) :
    Adds (collectFrom schema parent found selections) found (asked schema parent selections) := by
  -- Along the collection: each of its steps adds what `asked` lists for it.
  induction parent, found, selections using collectFrom.induct schema with
  | case1 parent found =>
    rw [collectFrom, asked]
    exact adds_nothing distinct
  | case2 parent found name directives rest ih =>
    rw [collectFrom, asked]
    exact ih (collectable.mono fun _ _ stands => stands.mono (List.subset_cons_self _ _)) distinct
  | case3 parent found condition directives inner rest narrowed ihInner ihRest =>
    rw [collectFrom, asked]
    have known := collectable.conditions _ _ _ _ (.here List.mem_cons_self)
    show Adds (requireType schema (condition.getD parent) >>= _) _ _
    rw [requireType_eq_ok.mpr known]
    refine Adds.bind (ihInner (collectable.mono fun _ _ stands =>
      .inlined List.mem_cons_self stands) distinct) fun distinct => ?_
    exact ihRest _ (collectable.mono fun _ _ stands =>
      stands.mono (List.subset_cons_self _ _)) distinct
  | case4 parent found head inner rest unknown exported =>
    -- The field has aliases, so its type is known.
    obtain ⟨_, type, known, -⟩ := collectable.exports _ _ _ (.here List.mem_cons_self) exported
    cases unknown.symm.trans known
  | case5 parent found head inner rest unknown plain ih =>
    rw [collectFrom, asked, unknown]
    simp only [plain]
    exact ih (collectable.mono fun _ _ stands => stands.mono (List.subset_cons_self _ _)) distinct
  | case6 parent found head inner rest type known ihRest ihInner =>
    rw [collectFrom_field known, asked, known]
    have exports : head.isExported = true →
        ∃ aliases, ofField schema parent ⟨head, inner⟩ type.base = .ok aliases := by
      intro exported
      obtain ⟨aliases, _, known', made⟩ :=
        collectable.exports _ _ _ (.here List.mem_cons_self) exported
      cases known.symm.trans known'
      exact ⟨aliases, made⟩
    refine Adds.bind (@adds_addField _ _ _ ⟨head, inner⟩ _ distinct exports) fun distinct => ?_
    refine Adds.bind ?_ fun distinct => ihRest _ (collectable.mono fun _ _ stands =>
      stands.mono (List.subset_cons_self _ _)) distinct
    by_cases leaf : schema.isLeaf type.base = true
    · rw [if_pos leaf, if_pos leaf]
      exact adds_nothing distinct
    · rw [if_neg leaf, if_neg leaf]
      rw [Bool.not_eq_true] at leaf
      exact ihInner _ (collectable.mono fun _ _ stands =>
        .deeper List.mem_cons_self known leaf stands) distinct

/-- On a known type collecting starts without any alias. -/
theorem collect_eq_collectFrom (known : (schema.type? parent).isSome) :
    collect schema parent selections = collectFrom schema parent [] selections := by
  rw [collect, requireType_eq_ok.mpr known]
  rfl

/-- The exports of collectable selections are collected exactly if the aliases that they ask for
have distinct bindings. -/
theorem collect_eq_ok_iff (known : (schema.type? parent).isSome)
    (collectable : Collectable schema (Stands schema parent selections)) :
    collect schema parent selections = .ok aliases ↔
      aliases = asked schema parent selections ∧
        ((asked schema parent selections).map binding).Nodup := by
  rw [collect_eq_collectFrom known]
  exact @adds_collectFrom schema parent selections [] collectable List.nodup_nil aliases

end SelectionTypes.ExportedAlias
